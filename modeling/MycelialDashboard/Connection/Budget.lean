import MycelialDashboard.Connection.Machine

/-!
# The reconnect budget

A run in which only the mount effect calls `connect`, followed by timer firings and the
browser's events (`ConnEvent.isEnvironment`), goes through three phases (`Conn.Phase`): the
hook's one socket is connecting or open (`live`), every socket is closed and one reconnect
timer is pending (`waiting`), or nothing is pending at all (`idle`). The hook's one socket may
also be closing, after the server started the closing handshake. `Conn.Budget` adds what
ties the counter to the trace since the last open (`sinceOpen`): the counter never passes
`maxReconnectAttempts`, the timers scheduled since the last open have the delays
`backoffs` of attempts `1` to the counter, and the sockets constructed since then are at most
one more than the counter while a socket is live.

`Conn.Budget.step` is the step lemma and `Conn.Budget.run` the run lemma; `Conn.budget_mount`
starts them. `Conn.Budget.spent` says that from a state whose counter has reached the ceiling
no socket is constructed again. Only `connect` reports the budget spent
(`Conn.exhausted_mem_step`); in such a run it does so from the last pending timer, leaving the
machine `idle`, where no event does anything (`Conn.run_idle`), so the report is made once
(`Conn.Budget.run_exhausted`).
-/

namespace Mycelial

/-- An event no caller makes: a timer firing, or the browser's `open`, closing handshake or
`close`. -/
def ConnEvent.isEnvironment : ConnEvent → Bool
  | .fire _ | .opened _ | .closing _ | .closed _ _ _ => true
  | _ => false

namespace Action

/-- `onopen` ran. -/
def isOpened : Action → Bool
  | .opened _ => true
  | _ => false

/-- A `WebSocket` was constructed. -/
def isConstruct : Action → Bool
  | .construct _ => true
  | _ => false

/-- The delay of a timer that was set. -/
def delay? : Action → Option Nat
  | .schedule t => some t.delay
  | _ => none

/-- A timer was set. -/
def isSchedule (a : Action) : Bool :=
  a.delay?.isSome

end Action

/-- The actions since the last `opened`, extended by one more action. -/
def segStep (seg : List Action) (a : Action) : List Action :=
  if a.isOpened then [] else seg ++ [a]

/-- The actions of a trace after its last `opened`. -/
def sinceOpen (acts : List Action) : List Action :=
  acts.foldl segStep []

theorem foldl_segStep_of_not_opened {acts : List Action} (h : ∀ a ∈ acts, a.isOpened = false)
    (seg : List Action) : acts.foldl segStep seg = seg ++ acts := by
  induction acts generalizing seg with
  | nil => simp
  | cons a acts ih =>
    simp only [List.mem_cons, forall_eq_or_imp] at h
    simp [segStep, h.1, ih h.2]

namespace Conn

variable (cfg : Config)

/-- Every socket other than `j` is closed. -/
def ClosedExcept (ss : List ReadyState) (j : Option Nat) : Prop :=
  ∀ k st, ss[k]? = some st → st ≠ .closed → j = some k

/-- The delays of reconnect attempts `1` to `n`. -/
def backoffs (n : Nat) : List Nat :=
  (List.range n).map fun k => backoffDelay cfg (k + 1)

theorem backoffs_succ (n : Nat) :
    backoffs cfg (n + 1) = backoffs cfg n ++ [backoffDelay cfg (n + 1)] := by
  simp [backoffs, List.range_succ]

/-- Where a run stands, with the actions since the last open, when only the mount effect and
the hook's own timers call `connect`. -/
inductive Phase : Conn → List Action → Prop
  /-- Socket `j`, the one `wsRef` holds, is not closed; no timer is pending. -/
  | live {c : Conn} {seg : List Action} {j : Nat} {st : ReadyState} :
      c.wsRef = some j → c.sockets[j]? = some st → st ≠ .closed →
      ClosedExcept c.sockets (some j) → c.timers = [] →
      c.reconnectAttempts < cfg.maxReconnectAttempts →
      seg.countP Action.isConstruct ≤ c.reconnectAttempts + 1 → Phase c seg
  /-- Every socket is closed and one timer is pending. -/
  | waiting {c : Conn} {seg : List Action} {t : Timer} :
      c.wsRef = none → ClosedExcept c.sockets none → c.timers = [t] →
      c.isConnecting = false →
      seg.countP Action.isConstruct ≤ c.reconnectAttempts → Phase c seg
  /-- Every socket is closed and no timer is pending; with the counter at the ceiling, the last
  action was `connect` finding the budget spent. -/
  | idle {c : Conn} {seg : List Action} :
      ClosedExcept c.sockets none → c.timers = [] →
      seg.countP Action.isConstruct ≤ cfg.maxReconnectAttempts →
      (c.reconnectAttempts = cfg.maxReconnectAttempts → seg.getLast? = some .exhausted) →
      Phase c seg

/-- The invariant of such a run. -/
structure Budget (c : Conn) (seg : List Action) : Prop where
  attempts_le : c.reconnectAttempts ≤ cfg.maxReconnectAttempts
  delays : seg.filterMap Action.delay? = backoffs cfg c.reconnectAttempts
  phase : Phase cfg c seg

/-! ## Events that change nothing -/

variable {cfg}

theorem step_opened_closedExcept {c : Conn} {j : Option Nat} (h : ClosedExcept c.sockets j)
    {i : Nat} (hi : j ≠ some i) : step cfg c (.opened i) = (c, []) :=
  step_opened_of_ne cfg c fun hc => hi (h i _ hc nofun)

theorem step_closing_closedExcept {c : Conn} {j : Option Nat} (h : ClosedExcept c.sockets j)
    {i : Nat} (hi : j ≠ some i) : step cfg c (.closing i) = (c, []) := by
  rw [step_closing, if_neg fun ho => hi (h i .open ho nofun)]

theorem step_closed_closedExcept {c : Conn} {j : Option Nat} (h : ClosedExcept c.sockets j)
    {i code : Nat} {errored : Bool} (hi : j ≠ some i) :
    step cfg c (.closed i code errored) = (c, []) :=
  step_closed_of_closed cfg c fun st hc => by_contra fun hst => hi (h i st hc hst)

/-- With every socket closed and no timer pending, no event of the browser changes anything. -/
theorem step_idle {c : Conn} (hs : ClosedExcept c.sockets none) (ht : c.timers = [])
    {e : ConnEvent} (he : e.isEnvironment) : step cfg c e = (c, []) := by
  cases e with
  | fire id => exact step_fire_none cfg c (by simp [ht])
  | opened i => exact step_opened_closedExcept hs nofun
  | closing i => exact step_closing_closedExcept hs nofun
  | closed i code errored => exact step_closed_closedExcept hs nofun
  | _ => cases he

/-! ## The step lemma -/

theorem ClosedExcept.set_closed {ss : List ReadyState} {j : Nat} (h : ClosedExcept ss (some j)) :
    ClosedExcept (ss.set j .closed) none := by
  intro k st hk hst
  by_cases hkj : j = k
  · subst hkj
    rw [List.getElem?_set_self'] at hk
    cases hss : ss[j]? <;> simp [hss] at hk
    exact absurd hk.symm hst
  · rw [List.getElem?_set_ne hkj] at hk
    exact absurd (Option.some.inj (h k st hk hst)) hkj

theorem ClosedExcept.set_self {ss : List ReadyState} {j : Nat} (h : ClosedExcept ss (some j))
    (st : ReadyState) : ClosedExcept (ss.set j st) (some j) := by
  intro k st' hk hst
  by_cases hkj : j = k
  · exact congrArg some hkj
  · rw [List.getElem?_set_ne hkj] at hk
    exact h k st' hk hst

theorem ClosedExcept.append_connecting {ss : List ReadyState} (h : ClosedExcept ss none) :
    ClosedExcept (ss ++ [.connecting]) (some ss.length) := by
  intro k st hk hst
  rcases Nat.lt_or_ge k ss.length with hlt | hge
  · rw [List.getElem?_append_left hlt] at hk
    cases h k st hk hst
  · rw [List.getElem?_append_right hge] at hk
    obtain h0 | ⟨n, hn⟩ : k - ss.length = 0 ∨ ∃ n, k - ss.length = n + 1 := by
      rcases k - ss.length with _ | n <;> simp
    · congr 1; omega
    · simp [hn] at hk

/-- A firing timer calls `connect` with no socket live: it either finds the budget spent,
constructs the next socket, or fails to. -/
theorem budget_fire {c : Conn} {seg : List Action} {t : Timer} (hb : Budget cfg c seg)
    (hw : c.wsRef = none) (hs : ClosedExcept c.sockets none) (ht : c.timers = [t])
    (hc : c.isConnecting = false) (hk : seg.countP Action.isConstruct ≤ c.reconnectAttempts) :
    Budget cfg (step cfg c (.fire t.id)).1 ((step cfg c (.fire t.id)).2.foldl segStep seg) := by
  rw [step_fire_some cfg c (show c.timers.find? (·.id = t.id) = some t by simp [ht])]
  have hf : c.timers.filter (·.id ≠ t.id) = [] := by simp [ht]
  have ha := hb.attempts_le
  simp only [connect, wsState, hw, hc, hf, Option.none_bind, Bool.false_eq_true, if_false,
    reduceCtorEq]
  split_ifs with hmax hurl
  · exact ⟨hb.1, by simpa [segStep, Action.isOpened, Action.delay?] using hb.2,
      .idle hs rfl (by simp [segStep, Action.isOpened, Action.isConstruct]; omega)
        fun _ => by simp [segStep, Action.isOpened]⟩
  · refine ⟨hb.1, by simpa [segStep, Action.isOpened, Action.delay?] using hb.2,
      .live rfl (List.getElem?_concat_length _ _) nofun hs.append_connecting rfl
        (by simpa using hmax) ?_⟩
    simp [segStep, Action.isOpened, Action.isConstruct]
    omega
  · exact ⟨hb.1, by simpa [segStep, Action.isOpened, Action.delay?] using hb.2,
      .idle hs rfl (by simp [segStep, Action.isOpened, Action.isConstruct]; omega)
        fun h => absurd h.ge hmax⟩

/-- The hook's socket opens: the counter is reset and a new segment starts. -/
theorem budget_opened {c : Conn} {seg : List Action} {j : Nat} (hw : c.wsRef = some j)
    (hj : c.sockets[j]? = some .connecting) (hs : ClosedExcept c.sockets (some j))
    (ht : c.timers = []) (hlt : c.reconnectAttempts < cfg.maxReconnectAttempts) :
    Budget cfg (step cfg c (.opened j)).1 ((step cfg c (.opened j)).2.foldl segStep seg) := by
  rw [step_opened cfg c hj]
  refine ⟨Nat.zero_le _, by simp [segStep, Action.isOpened, backoffs],
    .live hw (show _ = some ReadyState.open by simp [List.getElem?_set_self', hj]) nofun
      (hs.set_self _) ht
      (by simp only; omega) (by simp [segStep, Action.isOpened])⟩

/-- The hook's socket closes: a reconnect is scheduled while the budget lasts. -/
theorem budget_closed {c : Conn} {seg : List Action} {j : Nat} {st : ReadyState}
    (hb : Budget cfg c seg) (hj : c.sockets[j]? = some st) (hst : st ≠ .closed)
    (hs : ClosedExcept c.sockets (some j)) (ht : c.timers = [])
    (hlt : c.reconnectAttempts < cfg.maxReconnectAttempts)
    (hk : seg.countP Action.isConstruct ≤ c.reconnectAttempts + 1) (code : Nat) (errored : Bool) :
    Budget cfg (step cfg c (.closed j code errored)).1
      ((step cfg c (.closed j code errored)).2.foldl segStep seg) := by
  have hno : ∀ a ∈ (step cfg c (.closed j code errored)).2, a.isOpened = false := fun a ha => by
    rcases mem_step_closed cfg ha with rfl | rfl | ⟨_, rfl⟩ <;> rfl
  rw [foldl_segStep_of_not_opened hno, step_closed cfg c hj hst]
  by_cases hcode : code ≠ 1000 ∧ c.reconnectAttempts < cfg.maxReconnectAttempts
  · simp only [onclose, if_pos hcode]
    refine ⟨hcode.2, ?_, .waiting rfl hs.set_closed (by rw [ht]; rfl) rfl ?_⟩
    · rw [backoffs_succ, ← hb.delays]
      cases errored <;> simp [Action.delay?]
    · cases errored <;> simpa [Action.isConstruct] using hk
  · simp only [onclose, if_neg hcode]
    refine ⟨hb.attempts_le, ?_, .idle hs.set_closed ht ?_ fun h => absurd h (by simp; omega)⟩
    · rw [← hb.delays]
      cases errored <;> simp [Action.delay?]
    · cases errored <;> simp [Action.isConstruct] <;> omega

/-- The server starts closing the hook's socket: it stays the one `wsRef` holds. -/
theorem budget_closing {c : Conn} {seg : List Action} {j : Nat} (hb : Budget cfg c seg)
    (hw : c.wsRef = some j) (hs : ClosedExcept c.sockets (some j)) (ht : c.timers = [])
    (hlt : c.reconnectAttempts < cfg.maxReconnectAttempts)
    (hk : seg.countP Action.isConstruct ≤ c.reconnectAttempts + 1) (i : Nat) :
    Budget cfg (step cfg c (.closing i)).1 ((step cfg c (.closing i)).2.foldl segStep seg) := by
  rw [step_closing]
  split
  · next ho =>
    obtain rfl : j = i := Option.some.inj (hs i .open ho nofun)
    exact ⟨hb.1, hb.2, .live hw (show _ = some ReadyState.closing by
      simp [List.getElem?_set_self', ho]) nofun (hs.set_self _) ht hlt hk⟩
  · exact hb

theorem Budget.of_step_eq {c : Conn} {seg : List Action} (hb : Budget cfg c seg) {e : ConnEvent}
    (h : step cfg c e = (c, [])) :
    Budget cfg (step cfg c e).1 ((step cfg c e).2.foldl segStep seg) := by
  rw [h]; exact hb

/-- **The step lemma.** Every event of the browser or of a timer keeps the invariant. -/
theorem Budget.step {c : Conn} {seg : List Action} (hb : Budget cfg c seg) {e : ConnEvent}
    (he : e.isEnvironment) :
    Budget cfg (step cfg c e).1 ((step cfg c e).2.foldl segStep seg) := by
  cases hb.phase with
  | @live j st hw hj hst hs ht hlt hk =>
    cases e with
    | fire id => exact hb.of_step_eq (step_fire_none cfg c (by simp [ht]))
    | opened i =>
      by_cases hij : i = j
      · subst hij
        by_cases hc : st = .connecting
        · exact budget_opened hw (hc ▸ hj) hs ht hlt
        · exact hb.of_step_eq (step_opened_of_ne cfg c (by simpa [hj] using hc))
      · exact hb.of_step_eq (step_opened_closedExcept hs fun h => hij (Option.some.inj h).symm)
    | closing i => exact budget_closing hb hw hs ht hlt hk i
    | closed i code errored =>
      by_cases hij : i = j
      · subst hij
        exact budget_closed hb hj hst hs ht hlt hk _ _
      · exact hb.of_step_eq (step_closed_closedExcept hs fun h => hij (Option.some.inj h).symm)
    | _ => cases he
  | @waiting t hw hs ht hc hk =>
    cases e with
    | fire id =>
      by_cases hid : id = t.id
      · subst hid
        exact budget_fire hb hw hs ht hc hk
      · exact hb.of_step_eq (step_fire_none cfg c (by simp [ht, Ne.symm hid]))
    | opened i => exact hb.of_step_eq (step_opened_closedExcept hs nofun)
    | closing i => exact hb.of_step_eq (step_closing_closedExcept hs nofun)
    | closed i code errored => exact hb.of_step_eq (step_closed_closedExcept hs nofun)
    | _ => cases he
  | idle hs ht _ _ => exact hb.of_step_eq (step_idle hs ht he)

/-- **The run lemma.** -/
theorem Budget.run {c : Conn} {seg : List Action} (hb : Budget cfg c seg) {es : List ConnEvent}
    (hes : ∀ e ∈ es, e.isEnvironment) :
    Budget cfg (run cfg c es).1 ((run cfg c es).2.foldl segStep seg) := by
  induction es generalizing c seg with
  | nil => exact hb
  | cons e es ih =>
    rw [run_cons, List.foldl_append]
    exact ih (hb.step (hes e (.head _))) fun e he => hes e (.tail _ he)

/-- At the ceiling, an event constructs no socket and leaves the counter at the ceiling. -/
theorem Budget.step_spent {c : Conn} {seg : List Action} (hb : Budget cfg c seg)
    (hmax : c.reconnectAttempts = cfg.maxReconnectAttempts) {e : ConnEvent}
    (he : e.isEnvironment) :
    (Conn.step cfg c e).2.countP Action.isConstruct = 0 ∧
      (Conn.step cfg c e).1.reconnectAttempts = cfg.maxReconnectAttempts := by
  have hno : Conn.step cfg c e = (c, []) → (Conn.step cfg c e).2.countP Action.isConstruct = 0 ∧
      (Conn.step cfg c e).1.reconnectAttempts = cfg.maxReconnectAttempts := fun h => by
    simp [h, hmax]
  cases hb.phase with
  | live _ _ _ _ _ hlt _ => omega
  | @waiting t hw hs ht hc _ =>
    cases e with
    | fire id =>
      by_cases hid : id = t.id
      · subst hid
        rw [step_fire_some cfg c (show c.timers.find? (·.id = t.id) = some t by simp [ht])]
        simp [connect, wsState, hw, hc, hmax, Action.isConstruct]
      · exact hno (step_fire_none cfg c (by simp [ht, Ne.symm hid]))
    | opened i => exact hno (step_opened_closedExcept hs nofun)
    | closing i => exact hno (step_closing_closedExcept hs nofun)
    | closed i code errored => exact hno (step_closed_closedExcept hs nofun)
    | _ => cases he
  | idle hs ht _ _ => exact hno (step_idle hs ht he)

/-- **Spent budget.** From a state whose counter has reached the ceiling, no run of timers and
browser events constructs a socket. -/
theorem Budget.spent {c : Conn} {seg : List Action} (hb : Budget cfg c seg)
    (hmax : c.reconnectAttempts = cfg.maxReconnectAttempts) {es : List ConnEvent}
    (hes : ∀ e ∈ es, e.isEnvironment) :
    (Conn.run cfg c es).2.countP Action.isConstruct = 0 := by
  induction es generalizing c seg with
  | nil => rfl
  | cons e es ih =>
    have he := hes e (.head _)
    obtain ⟨h0, h1⟩ := hb.step_spent hmax he
    rw [run_cons, List.countP_append, h0, ih (hb.step he) h1 fun e he => hes e (.tail _ he)]

/-! ## The report of a spent budget -/

/-- Only `connect` reports the budget spent, called directly or by a firing timer, and it then
changes nothing but the timer that fired. -/
theorem exhausted_mem_step {c : Conn} {e : ConnEvent} (h : Action.exhausted ∈ (step cfg c e).2) :
    (e = .connect ∧ step cfg c e = (c, [.exhausted])) ∨
      ∃ id t, e = .fire id ∧ c.timers.find? (·.id = id) = some t ∧
        step cfg c e =
          ({ c with timers := c.timers.filter (·.id ≠ id) }, [.fire t, .exhausted]) := by
  cases e with
  | connect =>
    have hs : step cfg c .connect = connect cfg c := rfl
    rcases connect_eq cfg c with hc | hc | hc | hc <;> rw [hs, hc] at h ⊢
    all_goals first | exact .inl ⟨rfl, rfl⟩ | simp at h
  | disconnect => obtain ⟨_, h⟩ := mem_disconnect h; cases h
  | resetConnection => rcases mem_resetConnection h with ⟨_, h⟩ | ⟨_, h⟩ <;> cases h
  | fire id =>
    cases hf : c.timers.find? (·.id = id) with
    | none => rw [step_fire_none cfg c hf] at h; cases h
    | some t =>
      rw [step_fire_some cfg c hf] at h ⊢
      rcases connect_eq cfg { c with timers := c.timers.filter (·.id ≠ id) } with
        hc | hc | hc | hc <;>
        rw [hc] at h ⊢
      all_goals first | exact .inr ⟨id, t, rfl, hf, rfl⟩ | simp at h
  | opened i => cases (mem_step_opened _ h).1
  | closing i => simp [step_closing] at h
  | closed i code errored => rcases mem_step_closed _ h with h | h | ⟨_, h⟩ <;> cases h

/-- In such a run, a timer that reports the budget spent was the last one pending: the machine is
left with every socket closed and no timer. -/
theorem Budget.idle_of_exhausted {c : Conn} {seg : List Action} (hb : Budget cfg c seg)
    {e : ConnEvent} (he : e.isEnvironment) (h : Action.exhausted ∈ (Conn.step cfg c e).2) :
    ClosedExcept (Conn.step cfg c e).1.sockets none ∧ (Conn.step cfg c e).1.timers = [] := by
  rcases exhausted_mem_step h with ⟨rfl, -⟩ | ⟨id, t, rfl, hf, hst⟩
  · cases he
  · rw [hst]
    cases hb.phase with
    | live _ _ _ _ ht _ _ => simp [ht] at hf
    | waiting _ hs ht _ _ =>
      simp only [ht, List.find?_singleton] at hf
      split at hf
      · next hid => exact ⟨hs, by simp [ht, of_decide_eq_true hid]⟩
      · cases hf
    | idle _ ht _ _ => simp [ht] at hf

/-- With every socket closed and no timer pending, no run of browser and timer events does
anything. -/
theorem run_idle {c : Conn} (hs : ClosedExcept c.sockets none) (ht : c.timers = [])
    {es : List ConnEvent} (hes : ∀ e ∈ es, e.isEnvironment) : run cfg c es = (c, []) := by
  induction es with
  | nil => rfl
  | cons e es ih =>
    simp [run_cons, step_idle hs ht (hes e (.head _)), ih fun e he => hes e (.tail _ he)]

/-- **The run lemma.** In such a run, a report of the spent budget is the only one, and leaves
the machine idle. -/
theorem Budget.run_exhausted {c : Conn} {seg : List Action} (hb : Budget cfg c seg)
    {es : List ConnEvent} (hes : ∀ e ∈ es, e.isEnvironment)
    (h : Action.exhausted ∈ (Conn.run cfg c es).2) :
    ClosedExcept (Conn.run cfg c es).1.sockets none ∧ (Conn.run cfg c es).1.timers = [] ∧
      (Conn.run cfg c es).2.count .exhausted = 1 := by
  induction es generalizing c seg with
  | nil => cases h
  | cons e es ih =>
    have he := hes e (.head _)
    have hes' : ∀ e ∈ es, e.isEnvironment := fun e he => hes e (.tail _ he)
    rw [run_cons] at h ⊢
    by_cases hx : Action.exhausted ∈ (Conn.step cfg c e).2
    · obtain ⟨hs, ht⟩ := hb.idle_of_exhausted he hx
      rw [run_idle hs ht hes']
      refine ⟨hs, ht, ?_⟩
      rcases exhausted_mem_step hx with ⟨rfl, -⟩ | ⟨_, _, rfl, -, hst⟩
      · cases he
      · simp [hst]
    · obtain ⟨hs, ht, hc⟩ := ih (hb.step he) hes' ((List.mem_append.mp h).resolve_left hx)
      exact ⟨hs, ht, by rw [List.count_append, List.count_eq_zero_of_not_mem hx, hc]⟩

variable (cfg) in
/-- The mount effect's `connect` starts the invariant. -/
theorem budget_mount :
    Budget cfg (step cfg Conn.init .connect).1 (sinceOpen (step cfg Conn.init .connect).2) := by
  have hs : ClosedExcept Conn.init.sockets none := by simp [ClosedExcept, Conn.init]
  simp only [step, connect, Conn.init, wsState, Option.none_bind, Bool.false_eq_true, if_false,
    reduceCtorEq]
  split_ifs with hmax hurl
  · exact ⟨Nat.zero_le _, rfl,
      .idle hs rfl (by simp [sinceOpen, segStep, Action.isOpened, Action.isConstruct])
        fun _ => by simp [sinceOpen, segStep, Action.isOpened]⟩
  · exact ⟨Nat.zero_le _, rfl, .live rfl rfl nofun (hs.append_connecting) rfl
      (show 0 < cfg.maxReconnectAttempts by omega)
      (by simp [sinceOpen, segStep, Action.isOpened, Action.isConstruct])⟩
  · exact ⟨Nat.zero_le _, rfl,
      .idle hs rfl (by simp [sinceOpen, segStep, Action.isOpened, Action.isConstruct])
        fun h => absurd (show 0 < cfg.maxReconnectAttempts by omega) (by simp [← h])⟩

/-- A run that starts with the mount effect's `connect` keeps the invariant, with the actions
since the last open. -/
theorem budget_mount_run (es : List ConnEvent) (hes : ∀ e ∈ es, e.isEnvironment) :
    Budget cfg (run cfg Conn.init (.connect :: es)).1
      (sinceOpen (run cfg Conn.init (.connect :: es)).2) := by
  rw [run_cons, sinceOpen, List.foldl_append]
  exact (budget_mount cfg).run hes

/-- In a run from mount, a report of the spent budget is the only one and leaves the machine
idle, also when the mount's own `connect` makes it. -/
theorem exhausted_mount_run (es : List ConnEvent) (hes : ∀ e ∈ es, e.isEnvironment)
    (h : Action.exhausted ∈ (run cfg Conn.init (.connect :: es)).2) :
    ClosedExcept (run cfg Conn.init (.connect :: es)).1.sockets none ∧
      (run cfg Conn.init (.connect :: es)).1.timers = [] ∧
      (run cfg Conn.init (.connect :: es)).2.count .exhausted = 1 := by
  rw [run_cons] at h ⊢
  by_cases hm : Action.exhausted ∈ (step cfg Conn.init .connect).2
  · rcases exhausted_mem_step hm with ⟨-, hst⟩ | ⟨_, _, he, -⟩
    · have hi : ClosedExcept Conn.init.sockets none := by simp [ClosedExcept, Conn.init]
      rw [hst, run_idle hi rfl hes]
      exact ⟨hi, rfl, rfl⟩
    · cases he
  · obtain ⟨hs, ht, hc⟩ :=
      (budget_mount cfg).run_exhausted hes ((List.mem_append.mp h).resolve_left hm)
    exact ⟨hs, ht, by rw [List.count_append, List.count_eq_zero_of_not_mem hm, hc]⟩

/-- The timers set since the last open are as many as the counter. -/
theorem Budget.countP_schedule {c : Conn} {seg : List Action} (hb : Budget cfg c seg) :
    seg.countP Action.isSchedule = c.reconnectAttempts := by
  show seg.countP (fun a => a.delay?.isSome) = _
  rw [← List.length_filterMap_eq_countP, hb.delays]
  simp [backoffs]

/-- The sockets constructed since the last open are within the ceiling. -/
theorem Budget.countP_construct_le {c : Conn} {seg : List Action} (hb : Budget cfg c seg) :
    seg.countP Action.isConstruct ≤ cfg.maxReconnectAttempts := by
  have := hb.attempts_le
  cases hb.phase <;> omega

/-- Every socket that is not closed is the one `wsRef` holds. -/
theorem Budget.wsRef_of_not_closed {c : Conn} {seg : List Action} (hb : Budget cfg c seg)
    {k : Nat} {st : ReadyState} (hk : c.sockets[k]? = some st) (hst : st ≠ .closed) :
    c.wsRef = some k := by
  cases hb.phase with
  | live hw _ _ hs _ _ _ => exact hw.trans (hs k st hk hst)
  | waiting _ hs _ _ _ => cases hs k st hk hst
  | idle hs _ _ _ => cases hs k st hk hst

/-- At most one timer is pending, and only while every socket is closed. -/
theorem Budget.timers {c : Conn} {seg : List Action} (hb : Budget cfg c seg) :
    c.timers.length ≤ 1 ∧ (c.timers ≠ [] → ClosedExcept c.sockets none) := by
  cases hb.phase with
  | live _ _ _ _ ht _ _ => exact ⟨by simp [ht], fun h => absurd ht h⟩
  | waiting _ hs ht _ _ => exact ⟨by simp [ht], fun _ => hs⟩
  | idle _ ht _ _ => exact ⟨by simp [ht], fun h => absurd ht h⟩

/-- The last action since the last open is the last action. -/
theorem getLast?_of_sinceOpen {acts : List Action} {a : Action}
    (h : (sinceOpen acts).getLast? = some a) : acts.getLast? = some a := by
  induction acts using List.reverseRecOn with
  | nil => cases h
  | append_singleton acts b _ =>
    rw [sinceOpen, List.foldl_append, List.foldl_cons, List.foldl_nil, segStep] at h
    split at h
    · cases h
    · simpa using h

/-- With the counter at the ceiling and no timer pending, the last action since the last open
was `connect` finding the budget spent. -/
theorem Budget.getLast?_of_spent {c : Conn} {seg : List Action} (hb : Budget cfg c seg)
    (hmax : c.reconnectAttempts = cfg.maxReconnectAttempts) (ht : c.timers = []) :
    seg.getLast? = some .exhausted := by
  cases hb.phase with
  | live _ _ _ _ _ hlt _ => omega
  | waiting _ _ ht' _ _ => rw [ht] at ht'; cases ht'
  | idle _ _ _ hex => exact hex hmax

/-! ## Every run -/

/-- Every event keeps the counter within the ceiling: only `onclose` increments it, and only
below the ceiling. -/
theorem step_attempts_le {c : Conn} (h : c.reconnectAttempts ≤ cfg.maxReconnectAttempts)
    (e : ConnEvent) : (step cfg c e).1.reconnectAttempts ≤ cfg.maxReconnectAttempts := by
  have hconn : ∀ c : Conn, c.reconnectAttempts ≤ cfg.maxReconnectAttempts →
      (connect cfg c).1.reconnectAttempts ≤ cfg.maxReconnectAttempts := fun c h => by
    rcases connect_eq cfg c with hc | hc | hc | hc <;> rw [hc] <;> exact h
  cases e with
  | connect => exact hconn c h
  | disconnect => simp only [step, disconnect]; split <;> split <;> simp
  | resetConnection => simp only [step, resetConnection, disconnect]; split <;> split <;> simp
  | fire id => simp only [step]; split <;> [exact hconn _ h; exact h]
  | opened i => simp only [step]; split <;> simp [onopen, h]
  | closing i => rw [step_closing]; split <;> exact h
  | closed i code errored =>
    by_cases hi : ∀ st, c.sockets[i]? = some st → st = .closed
    · rw [step_closed_of_closed cfg c hi]; exact h
    · push_neg at hi
      obtain ⟨st, hst, hne⟩ := hi
      rw [step_closed cfg c hst hne]
      simp only [onclose]
      split_ifs with hc <;> simp <;> omega

/-- In every run, whoever calls what, the counter stays within the ceiling. -/
theorem run_attempts_le {c : Conn} (h : c.reconnectAttempts ≤ cfg.maxReconnectAttempts)
    (es : List ConnEvent) : (run cfg c es).1.reconnectAttempts ≤ cfg.maxReconnectAttempts := by
  induction es generalizing c with
  | nil => exact h
  | cons e es ih => exact ih (step_attempts_le h e)

end Conn

end Mycelial
