import MycelialDashboard.Connection.Machine
import Mathlib.Tactic.SplitIfs

/-!
# The life of a socket

A socket the hook constructed is `connecting`, then `open`, `closing` and `closed`, and may skip
`open` or `closing`; it never goes back. `step_socket` says once what a step can do to socket
`i`: leave it, start or finish closing it, construct it, or open it on its own `open` event.
From it, a socket that has not opened had not opened before the step either
(`Unopened.of_step`), a socket opens only on its own `open` event (`open_of_step`), and
`onopen` of socket `i` runs only then (`opened_mem_step`). A socket that is closing or closed
stays so (`Shut.step`).

`SomeLive` says that some socket is open or closing. A flag that only `onopen` sets and every
`onclose` clears, set only while `SomeLive` holds, is so after every step
(`someLive_of_flag`): that is what each hook's `connected` is. The `close` event of any socket
clears such a flag, though another socket may be open (`flag_cleared_of_closed`).
-/

namespace Mycelial

namespace Conn

variable (cfg : Config)

/-- Socket `i` is not constructed yet, or still connecting. -/
def Unopened (c : Conn) (i : Nat) : Prop :=
  c.sockets[i]? = none ∨ c.sockets[i]? = some .connecting

/-! ## What each handler does to the sockets -/

theorem connect_sockets (c : Conn) :
    (connect cfg c).1.sockets = c.sockets ∨
      (connect cfg c).1.sockets = c.sockets ++ [.connecting] := by
  rcases connect_eq cfg c with h | h | h | h <;> rw [h] <;> simp

theorem opened_not_mem_connect (c : Conn) (i : Nat) : Action.opened i ∉ (connect cfg c).2 := by
  rcases connect_eq cfg c with h | h | h | h <;> rw [h] <;> simp

theorem disconnect_sockets (c : Conn) :
    (disconnect c).1.sockets = c.sockets ∨
      ∃ j, (disconnect c).1.sockets = c.sockets.modify ReadyState.close j := by
  simp only [disconnect]
  split <;> split <;> first | exact .inl rfl | exact .inr ⟨_, rfl⟩

@[simp] theorem onclose_sockets (c : Conn) (i code : Nat) :
    (onclose cfg c i code).1.sockets = c.sockets := by
  simp only [onclose]; split <;> rfl

/-- What a step does to the sockets: nothing, construct one, `close()` one, deliver `close` to
one on its own `close` event, open a connecting one on its own `open` event, or start closing
an open one on its own closing handshake. -/
theorem step_sockets (c : Conn) (e : ConnEvent) :
    (step cfg c e).1.sockets = c.sockets ∨
      (step cfg c e).1.sockets = c.sockets ++ [.connecting] ∨
      (∃ j, (step cfg c e).1.sockets = c.sockets.modify ReadyState.close j) ∨
      (∃ j code errored, e = .closed j code errored ∧
        (step cfg c e).1.sockets = c.sockets.set j .closed) ∨
      (∃ j, e = .opened j ∧ c.sockets[j]? = some .connecting ∧
        (step cfg c e).1.sockets = c.sockets.set j .open) ∨
      ∃ j, e = .closing j ∧ (step cfg c e).1.sockets = c.sockets.set j .closing := by
  cases e with
  | connect => exact (connect_sockets cfg c).imp_right .inl
  | disconnect => exact (disconnect_sockets c).imp_right fun h => .inr (.inl h)
  | resetConnection => exact (disconnect_sockets c).imp_right fun h => .inr (.inl h)
  | fire id =>
    simp only [step]
    split
    · exact (connect_sockets cfg _).imp_right .inl
    · exact .inl rfl
  | opened i =>
    simp only [step]
    split
    · exact .inr (.inr (.inr (.inr (.inl ⟨i, rfl, ‹_›, rfl⟩))))
    · exact .inl rfl
  | closing i =>
    rw [step_closing]
    split
    · exact .inr (.inr (.inr (.inr (.inr ⟨i, rfl, rfl⟩))))
    · exact .inl rfl
  | closed i code errored =>
    simp only [step]
    split
    · exact .inl rfl
    · exact .inl rfl
    · exact .inr (.inr (.inr (.inl ⟨i, code, errored, rfl, by cases errored <;> simp [onerror]⟩)))

/-- What a step does to socket `i`: leaves it, starts closing it, finishes closing it on its
`close` event, constructs it, or opens it on its `open` event. -/
theorem step_socket (c : Conn) (e : ConnEvent) (i : Nat) :
    (step cfg c e).1.sockets[i]? = c.sockets[i]? ∨
      (step cfg c e).1.sockets[i]? = some .closing ∨
      ((step cfg c e).1.sockets[i]? = some .closed ∧ ∃ code errored, e = .closed i code errored) ∨
      c.sockets[i]? = none ∧ (step cfg c e).1.sockets[i]? = some .connecting ∨
      e = .opened i ∧ c.sockets[i]? = some .connecting ∧
        (step cfg c e).1.sockets[i]? = some .open := by
  rcases step_sockets cfg c e with
    hs | hs | ⟨j, hs⟩ | ⟨j, code, errored, he, hs⟩ | ⟨j, he, hj, hs⟩ | ⟨j, -, hs⟩ <;>
    rw [hs]
  · exact .inl rfl
  · rcases Nat.lt_or_ge i c.sockets.length with hi | hi
    · exact .inl (List.getElem?_append_left hi)
    · rw [List.getElem?_append_right hi, List.getElem?_eq_none hi]
      rcases Nat.eq_zero_or_pos (i - c.sockets.length) with h0 | hpos
      · exact .inr (.inr (.inr (.inl ⟨rfl, by simp [h0]⟩)))
      · exact .inl (List.getElem?_eq_none (by simp; omega))
  · rw [List.getElem?_modify]
    cases c.sockets[i]? with
    | none => exact .inl rfl
    | some st =>
      split_ifs
      · cases st <;> simp [ReadyState.close]
      · exact .inl rfl
  · rw [List.getElem?_set]
    split_ifs with hji hlt
    · subst hji; exact .inr (.inr (.inl ⟨rfl, code, errored, he⟩))
    · exact .inl (List.getElem?_eq_none (by omega)).symm
    · exact .inl rfl
  · rw [List.getElem?_set]
    split_ifs with hji hlt
    · subst hji; exact .inr (.inr (.inr (.inr ⟨he, hj, rfl⟩)))
    · exact .inl (List.getElem?_eq_none (by omega)).symm
    · exact .inl rfl
  · rw [List.getElem?_set]
    split_ifs with hji hlt
    · exact .inr (.inl rfl)
    · exact .inl (List.getElem?_eq_none (by omega)).symm
    · exact .inl rfl

/-! ## Sockets never go back -/

variable {cfg}

/-- A socket that has not opened after a step had not opened before it. -/
theorem Unopened.of_step {c : Conn} {e : ConnEvent} {i : Nat}
    (h : Unopened (step cfg c e).1 i) : Unopened c i := by
  rcases step_socket cfg c e i with hs | hs | ⟨hs, -⟩ | ⟨hn, -⟩ | ⟨-, hc, -⟩
  · rwa [Unopened, hs] at h
  all_goals first | exact .inl hn | exact .inr hc | (rw [Unopened, hs] at h; simp at h)

/-- A socket open after a step was open before it, or opened on its own `open` event. -/
theorem open_of_step {c : Conn} {e : ConnEvent} {i : Nat}
    (h : (step cfg c e).1.sockets[i]? = some .open) :
    c.sockets[i]? = some .open ∨ e = .opened i ∧ c.sockets[i]? = some .connecting := by
  rcases step_socket cfg c e i with hs | hs | ⟨hs, -⟩ | ⟨-, hs⟩ | ⟨he, hc, -⟩
  · exact .inl (hs ▸ h)
  all_goals first | exact .inr ⟨he, hc⟩ | (rw [hs] at h; cases h)

/-- Socket `i` is closing or closed. -/
def Shut (c : Conn) (i : Nat) : Prop :=
  c.sockets[i]? = some .closing ∨ c.sockets[i]? = some .closed

/-- A socket that is closing or closed stays so. -/
theorem Shut.step {c : Conn} {i : Nat} (h : Shut c i) (e : ConnEvent) :
    Shut (step cfg c e).1 i := by
  rcases step_socket cfg c e i with hs | hs | ⟨hs, -⟩ | ⟨hn, -⟩ | ⟨-, hc, -⟩
  · rwa [Shut, hs]
  · exact .inl hs
  · exact .inr hs
  · rcases h with h | h <;> rw [h] at hn <;> cases hn
  · rcases h with h | h <;> rw [h] at hc <;> cases hc

theorem Shut.ne_of_open {c : Conn} {i j : Nat} (h : Shut c i) (hj : c.sockets[j]? = some .open) :
    j ≠ i := by
  rintro rfl; rcases h with h | h <;> rw [h] at hj <;> cases hj

theorem Shut.ne_of_connecting {c : Conn} {i j : Nat} (h : Shut c i)
    (hj : c.sockets[j]? = some .connecting) : j ≠ i := by
  rintro rfl; rcases h with h | h <;> rw [h] at hj <;> cases hj

/-- `onopen` of socket `i` runs only on its `open` event, while it is connecting. -/
theorem opened_mem_step {c : Conn} {e : ConnEvent} {i : Nat}
    (h : Action.opened i ∈ (step cfg c e).2) :
    e = .opened i ∧ c.sockets[i]? = some .connecting := by
  cases e with
  | opened j =>
    obtain ⟨h, hj⟩ := mem_step_opened _ h
    cases h; exact ⟨rfl, hj⟩
  | connect => exact absurd h (opened_not_mem_connect cfg c i)
  | disconnect => obtain ⟨_, h⟩ := mem_disconnect h; cases h
  | resetConnection => rcases mem_resetConnection h with ⟨_, h⟩ | ⟨_, h⟩ <;> cases h
  | fire id =>
    simp only [step] at h
    split at h
    · exact absurd (List.mem_cons.mp h |>.resolve_left nofun) (opened_not_mem_connect cfg _ i)
    · simp at h
  | closing j => simp [step_closing] at h
  | closed j code errored => rcases mem_step_closed _ h with h | h | ⟨_, h⟩ <;> cases h

/-! ## Live sockets -/

/-- Some socket is open, or closing with its `close` event still to come. -/
def SomeLive (c : Conn) : Prop :=
  ∃ i : Nat, c.sockets[i]? = some .open ∨ c.sockets[i]? = some .closing

/-- The `close` event of a socket that is not closed runs its `onclose`. -/
theorem closed_mem_step {c : Conn} {i code : Nat} {errored : Bool} {st : ReadyState}
    (h : c.sockets[i]? = some st) (hst : st ≠ .closed) :
    Action.closed i code ∈ (step cfg c (.closed i code errored)).2 := by
  rw [step_closed cfg c h hst]
  refine List.mem_append_right _ ?_
  simp only [onclose]
  split <;> simp

/-- A socket that is open or closing stays so through a step that does not run its `onclose`. -/
theorem live_of_step {c : Conn} {e : ConnEvent} {i : Nat}
    (h : c.sockets[i]? = some .open ∨ c.sockets[i]? = some .closing)
    (hno : ∀ code, Action.closed i code ∉ (step cfg c e).2) :
    (step cfg c e).1.sockets[i]? = some .open ∨ (step cfg c e).1.sockets[i]? = some .closing := by
  rcases step_socket cfg c e i with hs | hs | ⟨-, code, errored, rfl⟩ | ⟨hn, -⟩ | ⟨-, hc, -⟩
  · exact hs ▸ h
  · exact .inr hs
  · rcases h with h | h <;> exact absurd (closed_mem_step h nofun) (hno code)
  · rcases h with h | h <;> simp [h] at hn
  · rcases h with h | h <;> simp [h] at hc

/-- A socket whose `onopen` a step ran is open after it. -/
theorem open_of_opened_mem {c : Conn} {e : ConnEvent} {i : Nat}
    (h : Action.opened i ∈ (step cfg c e).2) : (step cfg c e).1.sockets[i]? = some .open := by
  obtain ⟨rfl, hc⟩ := opened_mem_step h
  rw [step_opened cfg c hc]
  simp [List.getElem?_set_self', hc]

/-- After a step some socket is live, if the step ran an `onopen`, or if some socket was live
and the step ran no `onclose`. -/
theorem someLive_step {c : Conn} {e : ConnEvent}
    (h : (∃ i, Action.opened i ∈ (step cfg c e).2) ∨
      SomeLive c ∧ ∀ i code, Action.closed i code ∉ (step cfg c e).2) :
    SomeLive (step cfg c e).1 := by
  rcases h with ⟨i, hi⟩ | ⟨⟨i, hl⟩, hno⟩
  · exact ⟨i, .inl (open_of_opened_mem hi)⟩
  · exact ⟨i, live_of_step hl (hno i)⟩

/-- A flag that only an `onopen` sets and every `onclose` clears: after the reactions to `acts`
in order, it is set only if some socket opened among them, or if it was set and none closed. -/
theorem foldl_flag {σ : Type} {react : σ → Action → σ} {flag : σ → Bool}
    (hr : ∀ s a, flag (react s a) = true →
      (∃ i, a = .opened i) ∨ flag s = true ∧ ∀ i code, a ≠ .closed i code) :
    ∀ (acts : List Action) (s : σ), flag (acts.foldl react s) = true →
      (∃ i, Action.opened i ∈ acts) ∨ flag s = true ∧ ∀ i code, Action.closed i code ∉ acts
  | [], _, h => .inr ⟨h, fun _ _ => List.not_mem_nil _⟩
  | a :: acts, s, h => by
    rcases foldl_flag hr acts _ h with ⟨i, hi⟩ | ⟨hf, hno⟩
    · exact .inl ⟨i, List.mem_cons_of_mem a hi⟩
    · rcases hr s a hf with ⟨i, rfl⟩ | ⟨hf, hne⟩
      · exact .inl ⟨i, List.mem_cons_self _ _⟩
      · exact .inr ⟨hf, fun i code hm =>
          (List.mem_cons.mp hm).elim (fun h => hne i code h.symm) (hno i code)⟩

/-- **A flag raised on open.** A flag of a hook that only an `onopen` sets and every `onclose`
clears, set only while some socket is live, is so after the hook reacts to a step. -/
theorem someLive_of_flag {σ : Type} {react : σ → Action → σ} {flag : σ → Bool}
    (hr : ∀ s a, flag (react s a) = true →
      (∃ i, a = .opened i) ∨ flag s = true ∧ ∀ i code, a ≠ .closed i code)
    {c : Conn} {s : σ} {e : ConnEvent} (h : flag ((step cfg c e).2.foldl react s) = true)
    (hs : flag s = true → SomeLive c) : SomeLive (step cfg c e).1 :=
  someLive_step ((foldl_flag hr _ s h).imp id fun ⟨hf, hno⟩ => ⟨hs hf, hno⟩)

/-- While `isConnectingRef` is set, `wsRef` holds a socket that is connecting. -/
def ConnectingRef (c : Conn) : Prop :=
  c.isConnecting = true → ∃ j, c.wsRef = some j ∧ c.sockets[j]? = some .connecting

variable (cfg) in
@[simp] theorem onclose_isConnecting (c : Conn) (i code : Nat) :
    (onclose cfg c i code).1.isConnecting = false := by
  simp only [onclose]; split <;> rfl

@[simp] theorem disconnect_isConnecting (c : Conn) : (disconnect c).1.isConnecting = false := by
  simp only [disconnect]; split <;> split <;> rfl

/-- `connect` sets `isConnectingRef` only with the socket it constructs. -/
theorem ConnectingRef.connect {c : Conn} (h : ConnectingRef c) :
    ConnectingRef (connect cfg c).1 := by
  rcases connect_eq cfg c with hc | hc | hc | hc <;> rw [hc]
  · exact h
  · exact h
  · exact h
  · exact fun _ => ⟨_, rfl, List.getElem?_concat_length _ _⟩

/-- Every event keeps `ConnectingRef`: the handlers of every socket clear `isConnectingRef`. -/
theorem ConnectingRef.step {c : Conn} (h : ConnectingRef c) (e : ConnEvent) :
    ConnectingRef (step cfg c e).1 := by
  cases e with
  | connect => exact h.connect
  | disconnect => intro hc; simp [Conn.step] at hc
  | resetConnection => intro hc; simp [Conn.step, resetConnection] at hc
  | fire id =>
    simp only [Conn.step]
    split
    · exact ConnectingRef.connect (show ConnectingRef { c with timers := _ } from h)
    · exact h
  | opened i =>
    simp only [Conn.step]
    split
    · exact fun hc => absurd hc (by simp [onopen])
    · exact h
  | closing i =>
    rw [step_closing]
    split
    · next ho =>
      -- the socket that starts closing is open, so not the connecting one `wsRef` holds
      intro hc
      obtain ⟨j, hw, hj⟩ := h hc
      refine ⟨j, hw, ?_⟩
      rwa [List.getElem?_set_ne fun hij => by subst hij; rw [ho] at hj; cases hj]
    · exact h
  | closed i code errored =>
    simp only [Conn.step]
    split
    · exact h
    · exact h
    · intro hc; simp at hc

theorem connectingRef_run (es : List ConnEvent) :
    ∀ c, ConnectingRef c → ConnectingRef (run cfg c es).1 := by
  induction es with
  | nil => exact fun c hc => hc
  | cons e es ih => exact fun c hc => ih _ (hc.step e)

end Conn

end Mycelial
