import Mathlib.Data.List.Basic
import Mathlib.Algebra.Group.Nat.Basic

/-!
# The connection state machine of both hooks

`useP2P` and `useOrchestrator` manage their WebSocket with the same refs and the same code:
`connect`, `disconnect`, `resetConnection` and the `onopen`, `onerror` and `onclose` handlers
differ between the hooks only in the `setState` calls they make and in what `onopen` starts.
`Conn` is those refs together with the sockets the hook constructed and the timers it set;
`step` runs one event on it and returns the `Action`s it performed, which is where the hooks'
own reactions attach (`MycelialDashboard.Hook`).

Events are the hook's calls (`connect` by the mount effect or `useOrchestrator`'s caller,
`disconnect` by the unmount cleanup or a caller, `resetConnection`), a pending timer firing, and
what the browser does to a socket: it opens it, it starts the closing handshake of an open
socket when the server sends a close frame (`readyState` is `CLOSING` from then on, and no
handler runs), and it delivers `close` with its code, preceded by `error` when the connection
failed. The browser fires `error` and `close` in one task, so nothing runs between them.

A socket is an index into `Conn.sockets`, its creation order. `wsRef` and `reconnectTimerRef`
hold such an index and a timer id. Browsers number timers from 1, so a set timer ref is truthy.
-/

namespace Mycelial

/-- The options of the connection, with the defaults `reconnectInterval = 3000` and
`maxReconnectAttempts = 5` of both hooks. -/
structure Config where
  reconnectInterval : Nat := 3000
  maxReconnectAttempts : Nat := 5
  /-- Whether `new WebSocket(url)` accepts the configured URL; it throws on a malformed one. -/
  urlAccepted : Bool := true
  /-- The message of the `SyntaxError` it throws then, which each browser words its own way. -/
  urlError : String := "The URL is invalid."
  deriving DecidableEq, Repr

/-- `WebSocket.readyState`; `closed` once the `close` event has been delivered. -/
inductive ReadyState
  | connecting
  | open
  | closing
  | closed
  deriving DecidableEq, Repr

/-- `ws.close()`: a socket that is connecting or open starts closing; its `close` event comes
later, with code 1006 when it was still connecting. -/
def ReadyState.close : ReadyState → ReadyState
  | .connecting | .open => .closing
  | st => st

/-- The two `setTimeout`s that call `connect`. -/
inductive TimerKind
  /-- `window.setTimeout(connect, backoffDelay)` in `onclose`, kept in `reconnectTimerRef`. -/
  | reconnect
  /-- `setTimeout(() => connect(), 100)` in `resetConnection`, kept nowhere. -/
  | reset
  deriving DecidableEq, Repr

/-- A pending timer. -/
structure Timer where
  id : Nat
  kind : TimerKind
  delay : Nat
  deriving DecidableEq, Repr

/-- The refs of a hook, and the sockets and timers it created. -/
structure Conn where
  /-- Every `WebSocket` the hook constructed, by creation order. -/
  sockets : List ReadyState
  wsRef : Option Nat
  reconnectTimerRef : Option Nat
  reconnectAttempts : Nat
  isConnecting : Bool
  /-- The timers set and not yet fired or cleared. -/
  timers : List Timer
  nextTimerId : Nat
  deriving DecidableEq, Repr

/-- The refs at mount. -/
def Conn.init : Conn :=
  ⟨[], none, none, 0, false, [], 1⟩

/-- What a step of the machine did, in order. -/
inductive Action
  /-- `connect` found the budget spent. -/
  | exhausted
  /-- `connect` passed its guards and set `isConnectingRef`. -/
  | attempt
  /-- `new WebSocket(url)` constructed socket `i`. -/
  | construct (i : Nat)
  /-- `new WebSocket(url)` threw. -/
  | constructFailed
  /-- `onopen` of socket `i` ran. -/
  | opened (i : Nat)
  /-- `onerror` of socket `i` ran. -/
  | errored (i : Nat)
  /-- `onclose` of socket `i` ran with this code. -/
  | closed (i code : Nat)
  /-- A timer was set. -/
  | schedule (t : Timer)
  /-- Timer `t` fired and called `connect`. -/
  | fire (t : Timer)
  /-- `disconnect` called `close(1000)` on socket `i`. -/
  | close (i : Nat)
  deriving DecidableEq, Repr

/-- An event of the machine. -/
inductive ConnEvent
  | connect
  | disconnect
  | resetConnection
  /-- The pending timer with this id fires. -/
  | fire (id : Nat)
  /-- The browser opens socket `i`. -/
  | opened (i : Nat)
  /-- The server starts the closing handshake of open socket `i`: it is `CLOSING` until its
  `close` event. -/
  | closing (i : Nat)
  /-- The browser delivers `close` with `code` to socket `i`, after `error` when `errored`. -/
  | closed (i code : Nat) (errored : Bool)
  deriving DecidableEq, Repr

namespace Conn

variable (cfg : Config)

/-- `wsRef.current?.readyState`. -/
def wsState (c : Conn) : Option ReadyState :=
  c.wsRef.bind (c.sockets[·]?)

/-- `connect`. -/
def connect (c : Conn) : Conn × List Action :=
  if c.isConnecting then (c, [])
  else if c.wsState = some .open then (c, [])
  else if c.wsState = some .connecting then (c, [])
  else if cfg.maxReconnectAttempts ≤ c.reconnectAttempts then (c, [.exhausted])
  else if cfg.urlAccepted then
    ({ c with isConnecting := true, sockets := c.sockets ++ [.connecting],
              wsRef := some c.sockets.length },
      [.attempt, .construct c.sockets.length])
  else (c, [.attempt, .constructFailed])

/-- `ws.onopen` of socket `i`. -/
def onopen (c : Conn) (i : Nat) : Conn × List Action :=
  ({ c with isConnecting := false, reconnectAttempts := 0 }, [.opened i])

/-- `ws.onerror` of socket `i`. -/
def onerror (c : Conn) (i : Nat) : Conn × List Action :=
  ({ c with isConnecting := false }, [.errored i])

/-- The delay before reconnect attempt `attempts`: `reconnectInterval * 2 ** (attempts - 1)`. -/
def backoffDelay (attempts : Nat) : Nat :=
  cfg.reconnectInterval * 2 ^ (attempts - 1)

/-- `ws.onclose` of socket `i`: whichever socket closes, the refs are cleared, and a close
other than 1000 schedules a reconnect while the budget lasts. -/
def onclose (c : Conn) (i code : Nat) : Conn × List Action :=
  let c := { c with isConnecting := false, wsRef := none }
  if code ≠ 1000 ∧ c.reconnectAttempts < cfg.maxReconnectAttempts then
    let t : Timer := ⟨c.nextTimerId, .reconnect, backoffDelay cfg (c.reconnectAttempts + 1)⟩
    ({ c with reconnectAttempts := c.reconnectAttempts + 1, timers := c.timers ++ [t],
              reconnectTimerRef := some t.id, nextTimerId := c.nextTimerId + 1 },
      [.closed i code, .schedule t])
  else (c, [.closed i code])

/-- `disconnect`. -/
def disconnect (c : Conn) : Conn × List Action :=
  let c := match c.reconnectTimerRef with
    | some id => { c with timers := c.timers.filter (·.id ≠ id), reconnectTimerRef := none }
    | none => c
  let c := { c with reconnectAttempts := 0, isConnecting := false }
  match c.wsRef with
  | some i => ({ c with sockets := c.sockets.modify ReadyState.close i, wsRef := none }, [.close i])
  | none => (c, [])

/-- `resetConnection`: `disconnect`, then a timer of 100 ms that calls `connect`. -/
def resetConnection (c : Conn) : Conn × List Action :=
  let r := disconnect c
  let t : Timer := ⟨r.1.nextTimerId, .reset, 100⟩
  ({ r.1 with timers := r.1.timers ++ [t], nextTimerId := r.1.nextTimerId + 1 },
    r.2 ++ [.schedule t])

/-- One event. An event the browser cannot deliver in this state (a timer not pending, an
`open` for a socket that is not connecting, a closing handshake for one that is not open, a
`close` for one already closed) changes nothing. -/
def step (c : Conn) : ConnEvent → Conn × List Action
  | .connect => connect cfg c
  | .disconnect => disconnect c
  | .resetConnection => resetConnection c
  | .fire id =>
    match c.timers.find? (·.id = id) with
    | some t =>
      let r := connect cfg { c with timers := c.timers.filter (·.id ≠ id) }
      (r.1, .fire t :: r.2)
    | none => (c, [])
  | .opened i =>
    if c.sockets[i]? = some .connecting then onopen { c with sockets := c.sockets.set i .open } i
    else (c, [])
  | .closing i =>
    if c.sockets[i]? = some .open then ({ c with sockets := c.sockets.set i .closing }, [])
    else (c, [])
  | .closed i code errored =>
    match c.sockets[i]? with
    | none | some .closed => (c, [])
    | some _ =>
      let c := { c with sockets := c.sockets.set i .closed }
      let e := if errored then onerror c i else (c, [])
      let r := onclose cfg e.1 i code
      (r.1, e.2 ++ r.2)

/-! ## What `connect` does -/

/-- `connect` returns at a guard, finds the budget spent, fails to construct the socket, or
constructs it as the next socket and points `wsRef` at it. -/
theorem connect_eq (c : Conn) :
    connect cfg c = (c, []) ∨ connect cfg c = (c, [.exhausted]) ∨
      connect cfg c = (c, [.attempt, .constructFailed]) ∨
      connect cfg c = ({ c with isConnecting := true, sockets := c.sockets ++ [.connecting],
                                wsRef := some c.sockets.length },
                        [.attempt, .construct c.sockets.length]) := by
  unfold connect
  split; · exact .inl rfl
  split; · exact .inl rfl
  split; · exact .inl rfl
  split; · exact .inr (.inl rfl)
  split
  · exact .inr (.inr (.inr rfl))
  · exact .inr (.inr (.inl rfl))

/-! ## One lemma per kind of event the browser delivers -/

theorem step_fire_none (c : Conn) {id : Nat} (h : c.timers.find? (·.id = id) = none) :
    step cfg c (.fire id) = (c, []) := by
  simp [step, h]

theorem step_fire_some (c : Conn) {id : Nat} {t : Timer}
    (h : c.timers.find? (·.id = id) = some t) :
    step cfg c (.fire id) =
      ((connect cfg { c with timers := c.timers.filter (·.id ≠ id) }).1,
        .fire t :: (connect cfg { c with timers := c.timers.filter (·.id ≠ id) }).2) := by
  simp [step, h]

theorem step_opened_of_ne (c : Conn) {i : Nat} (h : c.sockets[i]? ≠ some .connecting) :
    step cfg c (.opened i) = (c, []) := by
  simp [step, h]

theorem step_opened (c : Conn) {i : Nat} (h : c.sockets[i]? = some .connecting) :
    step cfg c (.opened i) =
      ({ c with sockets := c.sockets.set i .open, isConnecting := false, reconnectAttempts := 0 },
        [.opened i]) := by
  simp [step, h, onopen]

/-- The closing handshake only moves an open socket to `CLOSING`; no handler runs. -/
theorem step_closing (c : Conn) (i : Nat) :
    step cfg c (.closing i) =
      (if c.sockets[i]? = some .open then { c with sockets := c.sockets.set i .closing } else c,
        []) := by
  simp only [step]
  split <;> rfl

theorem step_closed_of_closed (c : Conn) {i code : Nat} {errored : Bool}
    (h : ∀ st, c.sockets[i]? = some st → st = .closed) :
    step cfg c (.closed i code errored) = (c, []) := by
  cases hi : c.sockets[i]? with
  | none => simp [step, hi]
  | some st => simp [step, hi, h st hi]

theorem step_closed (c : Conn) {i code : Nat} {errored : Bool} {st : ReadyState}
    (h : c.sockets[i]? = some st) (hst : st ≠ .closed) :
    step cfg c (.closed i code errored) =
      ((onclose cfg { c with sockets := c.sockets.set i .closed } i code).1,
        (if errored then [.errored i] else []) ++
          (onclose cfg { c with sockets := c.sockets.set i .closed } i code).2) := by
  cases st <;> simp only [step, h] <;> first | exact absurd rfl hst | cases errored <;> rfl

/-! ## What the handlers other than `connect` emit -/

/-- `disconnect` only calls `close()`. -/
theorem mem_disconnect {c : Conn} {a : Action} (h : a ∈ (disconnect c).2) : ∃ i, a = .close i := by
  simp only [disconnect] at h
  split at h <;> split at h <;> simp at h <;> exact ⟨_, h⟩

/-- `resetConnection` calls `close()` and sets its timer. -/
theorem mem_resetConnection {c : Conn} {a : Action} (h : a ∈ (resetConnection c).2) :
    (∃ i, a = .close i) ∨ ∃ t, a = .schedule t := by
  rcases List.mem_append.mp h with h | h
  · exact .inl (mem_disconnect h)
  · exact .inr ⟨_, List.mem_singleton.mp h⟩

/-- `onclose` runs, and may set the reconnect timer. -/
theorem mem_onclose {c : Conn} {i code : Nat} {a : Action} (h : a ∈ (onclose cfg c i code).2) :
    a = .closed i code ∨ ∃ t, a = .schedule t := by
  simp only [onclose] at h
  split at h <;> simp at h
  · exact h.imp_right fun h => ⟨_, h⟩
  · exact .inl h

/-- An `open` event runs `onopen` of a connecting socket. -/
theorem mem_step_opened {c : Conn} {i : Nat} {a : Action} (h : a ∈ (step cfg c (.opened i)).2) :
    a = .opened i ∧ c.sockets[i]? = some .connecting := by
  by_cases hi : c.sockets[i]? = some .connecting
  · rw [step_opened cfg c hi, List.mem_singleton] at h
    exact ⟨h, hi⟩
  · rw [step_opened_of_ne cfg c hi] at h
    cases h

/-- A `close` event runs `onerror` if the socket errored, then `onclose`. -/
theorem mem_step_closed {c : Conn} {i code : Nat} {errored : Bool} {a : Action}
    (h : a ∈ (step cfg c (.closed i code errored)).2) :
    a = .errored i ∨ a = .closed i code ∨ ∃ t, a = .schedule t := by
  cases hi : c.sockets[i]? with
  | none => rw [step_closed_of_closed cfg c (by simp [hi])] at h; cases h
  | some st =>
    by_cases hst : st = .closed
    · rw [step_closed_of_closed cfg c (by simp [hi, hst])] at h; cases h
    rw [step_closed cfg c hi hst, List.mem_append] at h
    rcases h with h | h
    · exact .inl (by cases errored <;> simp_all)
    · exact .inr (mem_onclose cfg h)

/-- A run: the state after the events, and every action, in order. -/
def run : Conn → List ConnEvent → Conn × List Action
  | c, [] => (c, [])
  | c, e :: es => ((run (step cfg c e).1 es).1, (step cfg c e).2 ++ (run (step cfg c e).1 es).2)

@[simp] theorem run_nil (c : Conn) : run cfg c [] = (c, []) := rfl

theorem run_cons (c : Conn) (e : ConnEvent) (es : List ConnEvent) :
    run cfg c (e :: es) =
      ((run cfg (step cfg c e).1 es).1, (step cfg c e).2 ++ (run cfg (step cfg c e).1 es).2) :=
  rfl

theorem run_append (c : Conn) (es es' : List ConnEvent) :
    run cfg c (es ++ es') =
      ((run cfg (run cfg c es).1 es').1, (run cfg c es).2 ++ (run cfg (run cfg c es).1 es').2) := by
  induction es generalizing c with
  | nil => rfl
  | cons e es ih => simp [run_cons, ih]

end Conn

end Mycelial
