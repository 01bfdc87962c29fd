import Mathlib.Data.List.Basic

/-!
# `useTheme`

`useTheme` keeps the colour theme in `useState`, seeded by `getInitialTheme`: a `'light'` or
`'dark'` stored under `THEME_KEY`, else the system preference. Two effects run after React
commits. The `[theme]` effect sets or removes `data-theme` on the document and stores the theme
(`applyTheme`). The `[]` effect, at the first commit, registers `handleChange` on the
`(prefers-color-scheme: light)` query, meant to follow the system "only if the user hasn't set a
preference".

`ThemeHook` is the hook with the part of the browser it reads and writes (`Browser`), and
`useTheme.step` one event: a commit, a change of the system preference, `setTheme`,
`toggleTheme`, or a write to `THEME_KEY` by code other than the hook.

`useTheme.theme_shown_and_persisted`: once the effect has run for the current theme, the
document shows it, and, when only the hook wrote the key, a remount reads it back. Because the
effect stores the theme at the first commit, `handleChange` never finds the key empty:
`useTheme.system_preference_read_once` says the system preference is read at mount and never
after, whatever the user did.
-/

namespace Mycelial

/-- `Theme`. -/
inductive Theme
  | light
  | dark
  deriving DecidableEq, Repr

/-- The string a theme is stored and compared as. -/
def Theme.name : Theme → String
  | .light => "light"
  | .dark => "dark"

/-- What of the browser `useTheme` reads and writes: `localStorage.getItem(THEME_KEY)`, the
`data-theme` attribute of `document.documentElement`, and whether
`(prefers-color-scheme: light)` matches. -/
structure Browser where
  stored : Option String
  dataTheme : Option String
  prefersLight : Bool
  deriving DecidableEq, Repr

/-- `useTheme` with the browser state it reads and writes. -/
structure ThemeHook where
  /-- The `theme` of `useState`. -/
  theme : Theme
  /-- The theme the `[theme]` effect last ran with; none before the first commit. -/
  committed : Option Theme
  /-- `handleChange` is registered on the media query. -/
  listening : Bool
  browser : Browser
  deriving DecidableEq, Repr

/-- An event of `useTheme` and its browser. -/
inductive ThemeEvent
  /-- React commits and runs the effects whose dependencies changed. -/
  | commit
  /-- The system preference changes; `prefersLight` is what `(prefers-color-scheme: light)` now gives. -/
  | systemChange (prefersLight : Bool)
  | setTheme (theme : Theme)
  | toggleTheme
  /-- Code other than the hook (another tab, the user in the developer tools) sets or removes
  `THEME_KEY`. -/
  | storageWrite (value : Option String)
  deriving DecidableEq, Repr

/-- The events other code makes on `THEME_KEY`. -/
def ThemeEvent.writesStorage : ThemeEvent → Bool
  | .storageWrite _ => true
  | _ => false

/-- The changes of the system preference. -/
def ThemeEvent.isSystemChange : ThemeEvent → Bool
  | .systemChange _ => true
  | _ => false

namespace useTheme

/-- `getInitialTheme()`: a stored `'light'` or `'dark'`, else the system preference; `'dark'`
without a `window`. -/
def getInitialTheme (hasWindow : Bool) (b : Browser) : Theme :=
  if hasWindow then
    if b.stored = some Theme.light.name then .light
    else if b.stored = some Theme.dark.name then .dark
    else if b.prefersLight then .light
    else .dark
  else .dark

/-- The `data-theme` attribute the `[theme]` effect leaves: `'light'` for the light theme, none
for the dark one. -/
def dataThemeOf (theme : Theme) : Option String :=
  if theme = .light then some "light" else none

/-- The `[theme]` effect: set or remove `data-theme`, then `localStorage.setItem(THEME_KEY, theme)`. -/
def applyTheme (theme : Theme) (b : Browser) : Browser :=
  { b with dataTheme := dataThemeOf theme, stored := some theme.name }

/-- `handleChange`: when `!stored` (no entry, or the empty string), follow the system preference. -/
def handleChange (prefersLight : Bool) (stored : Option String) (theme : Theme) : Theme :=
  if stored = none ∨ stored = some "" then (if prefersLight then .light else .dark) else theme

/-- The first render: `useState(getInitialTheme)` in a browser, no effect run yet. -/
def mount (b : Browser) : ThemeHook :=
  ⟨getInitialTheme true b, none, false, b⟩

/-- One event. A commit runs the `[theme]` effect when the theme differs from the one it last
ran with, and leaves `handleChange` registered (the `[]` effect registers it at the first
commit). -/
def step (h : ThemeHook) : ThemeEvent → ThemeHook
  | .commit =>
    { h with
      committed := some h.theme
      listening := true
      browser := if h.committed = some h.theme then h.browser else applyTheme h.theme h.browser }
  | .systemChange prefersLight =>
    { h with
      theme := if h.listening then handleChange prefersLight h.browser.stored h.theme else h.theme
      browser := { h.browser with prefersLight := prefersLight } }
  | .setTheme theme => { h with theme }
  | .toggleTheme => { h with theme := if h.theme = .dark then .light else .dark }
  | .storageWrite value => { h with browser := { h.browser with stored := value } }

/-- A run of events. -/
def run (h : ThemeHook) (es : List ThemeEvent) : ThemeHook :=
  es.foldl step h

/-! ## Reading back what the effect stored -/

/-- A stored theme name is what `getInitialTheme` returns. -/
theorem getInitialTheme_of_stored {b : Browser} {t : Theme} (h : b.stored = some t.name) :
    getInitialTheme true b = t := by
  cases t <;> simp [getInitialTheme, h, Theme.name]

/-- `handleChange` keeps the theme while a theme name is stored. -/
theorem handleChange_of_stored (prefersLight : Bool) {t : Theme} (theme : Theme) :
    handleChange prefersLight (some t.name) theme = theme := by
  cases t <;> simp [handleChange, Theme.name]

/-! ## What the document shows -/

/-- Once the effect ran with theme `t`, the document shows `t`. -/
def Shown (h : ThemeHook) : Prop :=
  ∀ t, h.committed = some t → h.browser.dataTheme = dataThemeOf t

/-- Once the effect ran with theme `t`, `t` is stored, and `handleChange` is registered only after
the effect ran. -/
def Persisted (h : ThemeHook) : Prop :=
  (∀ t, h.committed = some t → h.browser.stored = some t.name) ∧
    (h.listening = true → h.committed ≠ none)

theorem shown_mount (b : Browser) : Shown (mount b) := nofun

theorem persisted_mount (b : Browser) : Persisted (mount b) := ⟨nofun, nofun⟩

/-- The attribute is written by the effect alone. -/
theorem Shown.step {h : ThemeHook} (hs : Shown h) (e : ThemeEvent) : Shown (useTheme.step h e) := by
  cases e with
  | commit =>
    intro t ht
    cases ht
    by_cases hc : h.committed = some h.theme
    · simpa [useTheme.step, hc] using hs _ hc
    · simp [useTheme.step, hc, applyTheme]
  | _ => exact hs

/-- The entry is written by the effect, and by no other event of the hook. -/
theorem Persisted.step {h : ThemeHook} (hp : Persisted h) {e : ThemeEvent}
    (he : e.writesStorage = false) : Persisted (useTheme.step h e) := by
  cases e with
  | commit =>
    refine ⟨fun t ht => ?_, fun _ => Option.some_ne_none _⟩
    cases ht
    by_cases hc : h.committed = some h.theme
    · simpa [useTheme.step, hc] using hp.1 _ hc
    · simp [useTheme.step, hc, applyTheme]
  | storageWrite => cases he
  | _ => exact hp

theorem Shown.run {h : ThemeHook} (hs : Shown h) (es : List ThemeEvent) : Shown (run h es) := by
  induction es generalizing h with
  | nil => exact hs
  | cons e es ih => exact ih (hs.step e)

theorem Persisted.run {h : ThemeHook} (hp : Persisted h) {es : List ThemeEvent}
    (hes : ∀ e ∈ es, e.writesStorage = false) : Persisted (run h es) := by
  induction es generalizing h with
  | nil => exact hp
  | cons e es ih =>
    exact ih (hp.step (hes e (List.mem_cons_self _ _))) fun e he => hes e (List.mem_cons_of_mem _ he)

/-- **The document and the storage follow the theme.** In every run from mount, once the effect
has run for the current theme, `data-theme` is `'light'` exactly for the light theme; and when
no other code wrote `THEME_KEY`, a remount on any browser whose storage holds the same entry
starts with the same theme, whatever the system preference. -/
theorem theme_shown_and_persisted {b : Browser} {es : List ThemeEvent} {h : ThemeHook}
    (hr : run (mount b) es = h) (hc : h.committed = some h.theme) :
    h.browser.dataTheme = dataThemeOf h.theme ∧
      ((∀ e ∈ es, e.writesStorage = false) →
        ∀ b' : Browser, b'.stored = h.browser.stored → getInitialTheme true b' = h.theme) := by
  subst hr
  refine ⟨(shown_mount b).run es _ hc, fun hes b' hb' => getInitialTheme_of_stored ?_⟩
  rw [hb']
  exact ((persisted_mount b).run hes).1 _ hc

/-- On a light system with nothing stored, the user toggles to dark: after the commit the
document drops `data-theme`, and a remount restores dark. -/
theorem theme_toggled_then_committed :
    ∃ h, run (mount ⟨none, none, true⟩) [.commit, .toggleTheme, .commit] = h ∧
      h.committed = some h.theme ∧ h.theme = .dark ∧
      (h.browser.dataTheme = dataThemeOf h.theme ∧
        ((∀ e ∈ [ThemeEvent.commit, .toggleTheme, .commit], e.writesStorage = false) →
          ∀ b' : Browser, b'.stored = h.browser.stored → getInitialTheme true b' = h.theme)) :=
  ⟨_, rfl, rfl, rfl, theme_shown_and_persisted rfl rfl⟩

/-! ## The system preference -/

/-- A system change, with the entry stored, keeps the theme. -/
theorem Persisted.systemChange_theme {h : ThemeHook} (hp : Persisted h) (prefersLight : Bool) :
    (useTheme.step h (.systemChange prefersLight)).theme = h.theme := by
  simp only [useTheme.step]
  split
  · next hl =>
    obtain ⟨t, ht⟩ := Option.ne_none_iff_exists'.mp (hp.2 hl)
    rw [hp.1 t ht, handleChange_of_stored]
  · rfl

/-- `h` and `h'` differ at most in the system preference. -/
def SameButPreference (h h' : ThemeHook) : Prop :=
  h = { h' with browser := { h'.browser with prefersLight := h.browser.prefersLight } }

theorem SameButPreference.step {h h' : ThemeHook} (hs : SameButPreference h h') {e : ThemeEvent}
    (he : e.isSystemChange = false) : SameButPreference (useTheme.step h e) (useTheme.step h' e) := by
  unfold SameButPreference at hs
  cases e with
  | systemChange => cases he
  | commit =>
    rw [hs]
    simp only [useTheme.step]
    split <;> rfl
  | _ => rw [hs]; rfl

/-- A system change that keeps the theme changes only the system preference. -/
theorem SameButPreference.systemChange {h h' : ThemeHook} (hs : SameButPreference h h')
    (hp : Persisted h) (prefersLight : Bool) : SameButPreference (useTheme.step h (.systemChange prefersLight)) h' := by
  have ht := hp.systemChange_theme prefersLight
  unfold SameButPreference at hs ⊢
  rw [hs] at ht ⊢
  simp only [useTheme.step] at ht ⊢
  rw [ht]

theorem SameButPreference.run {h h' : ThemeHook} (hs : SameButPreference h h') (hp : Persisted h)
    {es : List ThemeEvent} (hes : ∀ e ∈ es, e.writesStorage = false) :
    SameButPreference (run h es) (run h' (es.filter fun e => !e.isSystemChange)) := by
  induction es generalizing h h' with
  | nil => exact hs
  | cons e es ih =>
    have hes' : ∀ e ∈ es, e.writesStorage = false := fun e he => hes e (List.mem_cons_of_mem _ he)
    have hp' := hp.step (hes e (List.mem_cons_self _ _))
    cases hse : e.isSystemChange with
    | false =>
      rw [List.filter_cons_of_pos (by simp [hse])]
      exact ih (hs.step hse) hp' hes'
    | true =>
      rw [List.filter_cons_of_neg (by simp [hse])]
      cases e with
      | systemChange prefersLight => exact ih (hs.systemChange hp prefersLight) hp' hes'
      | _ => cases hse

/-- **The system preference is read once.** In every run from mount in which only the hook
writes `THEME_KEY`, the theme after the run is the theme after the same run with every change
of the system preference removed: `handleChange` is registered at the first commit, but the
effect has stored a theme by then, so it never follows the system. -/
theorem system_preference_read_once (b : Browser) (es : List ThemeEvent)
    (hes : ∀ e ∈ es, e.writesStorage = false) :
    (run (mount b) es).theme = (run (mount b) (es.filter fun e => !e.isSystemChange)).theme := by
  have hs := (show SameButPreference (mount b) (mount b) from rfl).run (persisted_mount b) hes
  rw [hs]

/-- Mount on a dark system with nothing stored, commit, and the system turns light: the
handler is registered, and the theme stays dark. -/
theorem system_turns_light_after_commit :
    (∀ e ∈ [ThemeEvent.commit, .systemChange true], e.writesStorage = false) ∧
      (run (mount ⟨none, none, false⟩) [.commit, .systemChange true]).listening = true ∧
      (run (mount ⟨none, none, false⟩) [.commit, .systemChange true]).browser.prefersLight = true ∧
      (run (mount ⟨none, none, false⟩) [.commit, .systemChange true]).theme = .dark ∧
      (run (mount ⟨none, none, false⟩) [.commit, .systemChange true]).theme =
        (run (mount ⟨none, none, false⟩)
          ([ThemeEvent.commit, .systemChange true].filter fun e => !e.isSystemChange)).theme :=
  ⟨by decide, rfl, rfl, rfl, system_preference_read_once _ _ (by decide)⟩

end useTheme

end Mycelial
