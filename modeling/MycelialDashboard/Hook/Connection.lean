import MycelialDashboard.Hook.P2P
import MycelialDashboard.Hook.Orchestrator
import MycelialDashboard.Connection.Timers
import MycelialDashboard.Connection.Sockets

/-!
# The connection of both hooks

Both hooks run `Conn.step` on the events of the connection machine (`useP2P.run_conn`,
`useOrchestrator.run_conn`), so what holds of the machine holds of each hook's refs.

When `connect` is called only by the mount effect and by the reconnect timers, every socket
that is not closed is the one `wsRef` holds (`live_socket_is_wsRef`). With a `disconnect` and a
second `connect` in the run, the first socket's late `close` breaks this
(`strictMode_two_live_sockets`). `disconnect` cancels the reconnect it finds scheduled for good
(`cancelled_reconnect_never_fires`), but a socket it closes while connecting reports code 1006
and schedules a new one (`late_close_reconnects_after_disconnect`).

In every run, whoever calls what, `isConnectingRef` is set only while `wsRef` holds a socket
that is connecting (`connecting_flag_has_socket`): the guard of `connect` never waits on a
stale flag.

In every reachable state of either hook, whoever calls what, while `connected` is set some
socket is open or closing (`connected_has_live_socket`): only `onopen` sets it, and the `close`
event of the socket it came from clears it. The converse fails: the late `close` of another
socket clears it too (`stale_close_clears_connected`).

At most one reconnect timer is pending in such a run, and only while every socket is closed
(`one_reconnect_pending`). After a `disconnect` and a second `connect`, the late `close` of the
first socket sets one beside the connecting second (`stale_close_sets_timer`).

`reconnect_budget` is what the budget guarantees when `connect` is called only by the mount
effect and by the reconnect timers: the counter stays within the ceiling, each stretch between
opens schedules and constructs at most the ceiling, a spent budget constructs nothing more, and
`useOrchestrator` ends reporting the exhaustion, until a REST request settles. The report is
terminal (`exhaustion_is_terminal`): it is made once, and no later timer or browser event changes
the refs or either hook.
-/

namespace Mycelial

/-! ## One live socket -/

/-- **One live socket without `disconnect`.** In a run from mount where `connect` is called only
by the mount effect and by the reconnect timers, every socket that is not closed is the one
`wsRef` holds. -/
theorem live_socket_is_wsRef (cfg : Config) (es : List ConnEvent)
    (hes : ∀ e ∈ es, e.isEnvironment) (k : Nat) (st : ReadyState)
    (hk : (Conn.run cfg Conn.init (.connect :: es)).1.sockets[k]? = some st)
    (hst : st ≠ .closed) :
    (Conn.run cfg Conn.init (.connect :: es)).1.wsRef = some k :=
  (Conn.budget_mount_run es hes).wsRef_of_not_closed hk hst

/-- The mount's socket fails and the reconnect timer builds socket 1: it is connecting, and
`wsRef` holds it. -/
theorem live_socket_is_wsRef_after_reconnect :
    (∀ e ∈ [ConnEvent.closed 0 1006 true, .fire 1], e.isEnvironment) ∧
      (Conn.run {} Conn.init [.connect, .closed 0 1006 true, .fire 1]).1.sockets[1]? =
        some .connecting ∧ ReadyState.connecting ≠ .closed ∧
      (Conn.run {} Conn.init [.connect, .closed 0 1006 true, .fire 1]).1.wsRef = some 1 :=
  ⟨by decide, by decide, nofun,
    live_socket_is_wsRef {} _ (by decide) 1 .connecting (by decide) nofun⟩

/-- React StrictMode's mount, cleanup and mount while the first socket is connecting: the first
socket's `close`, with code 1006, arrives after the second `connect`. It clears `wsRef` while the
second socket is connecting, and the reconnect it schedules builds a third one beside it. -/
theorem strictMode_two_live_sockets :
    (useP2P.run {} P2PHook.init ([ConnEvent.connect, .disconnect, .connect,
        .closed 0 1006 false].map .conn)).map (fun h => (h.conn.sockets, h.conn.wsRef)) =
      some ([.closed, .connecting], none) ∧
    (useP2P.run {} P2PHook.init ([ConnEvent.connect, .disconnect, .connect,
        .closed 0 1006 false, .fire 1].map .conn)).map (·.conn.sockets) =
      some [.closed, .connecting, .connecting] ∧
    (useOrchestrator.run {} OrchestratorHook.init ([ConnEvent.connect, .disconnect, .connect,
        .closed 0 1006 false].map .conn)).map (fun h => (h.conn.sockets, h.conn.wsRef)) =
      some ([.closed, .connecting], none) ∧
    (useOrchestrator.run {} OrchestratorHook.init ([ConnEvent.connect, .disconnect, .connect,
        .closed 0 1006 false, .fire 1].map .conn)).map (·.conn.sockets) =
      some [.closed, .connecting, .connecting] := by
  decide

/-! ## `disconnect` -/

/-- **Disconnect cancels the scheduled reconnect.** In a run from mount, the reconnect timer
that `reconnectTimerRef` holds when `disconnect` is called never fires afterwards, whatever
follows. -/
theorem cancelled_reconnect_never_fires (cfg : Config) (es : List ConnEvent) {m : Nat}
    (hm : (Conn.run cfg Conn.init es).1.reconnectTimerRef = some m) (es' : List ConnEvent) :
    ∀ t, Action.fire t ∈ (Conn.run cfg (Conn.run cfg Conn.init es).1 (.disconnect :: es')).2 →
      t.id ≠ m := by
  intro t ht
  rw [Conn.run_cons] at ht
  rcases List.mem_append.mp ht with ht | ht
  · exact absurd ht (Conn.fire_not_mem_disconnect _ t)
  · exact (Conn.disconnect_retires hm (Conn.refBelow_run es)).1.run es' t ht

/-- The reconnect scheduled by a failed mount is cancelled; the one a later socket schedules
fires. -/
theorem cancelled_reconnect_after_reconnecting :
    (Conn.run {} Conn.init [.connect, .closed 0 1006 false]).1.reconnectTimerRef = some 1 ∧
      ∀ t, Action.fire t ∈
        (Conn.run {} (Conn.run {} Conn.init [.connect, .closed 0 1006 false]).1
          [.disconnect, .connect, .closed 1 1006 false, .fire 2]).2 → t.id ≠ 1 :=
  ⟨by decide, cancelled_reconnect_never_fires {} [.connect, .closed 0 1006 false] (by decide) _⟩

/-- `disconnect` while the mount's socket is connecting: the browser closes it with code 1006,
its `onclose` schedules a reconnect on the budget `disconnect` just reset, and the timer's
`connect` builds a new socket, with no call to `connect` after the `disconnect`. -/
theorem late_close_reconnects_after_disconnect :
    (Conn.run {} (Conn.run {} Conn.init [.connect, .disconnect]).1
        [.closed 0 1006 false, .fire 1]).2.countP Action.isConstruct = 1 ∧
    (useP2P.run {} P2PHook.init ([ConnEvent.connect, .disconnect, .closed 0 1006 false,
        .fire 1].map .conn)).map (·.conn.sockets) = some [.closed, .connecting] ∧
    (useOrchestrator.run {} OrchestratorHook.init ([ConnEvent.connect, .disconnect,
        .closed 0 1006 false, .fire 1].map .conn)).map (·.conn.sockets) =
      some [.closed, .connecting] := by
  decide

/-! ## `isConnectingRef` -/

/-- **No stale `isConnectingRef`.** In every run from mount, whoever calls `connect`,
`disconnect` or `resetConnection`, and whatever the browser and the timers do, while
`isConnectingRef` is set `wsRef` holds a socket that is connecting. -/
theorem connecting_flag_has_socket (cfg : Config) (es : List ConnEvent)
    (h : (Conn.run cfg Conn.init es).1.isConnecting = true) :
    ∃ j, (Conn.run cfg Conn.init es).1.wsRef = some j ∧
      (Conn.run cfg Conn.init es).1.sockets[j]? = some .connecting :=
  Conn.connectingRef_run es Conn.init (fun h => nomatch h) h

/-- After the mount effect's `connect`, the flag is set and socket 0 is connecting. -/
theorem connecting_flag_after_mount :
    (Conn.run {} Conn.init [.connect]).1.isConnecting = true ∧
      ∃ j, (Conn.run {} Conn.init [.connect]).1.wsRef = some j ∧
        (Conn.run {} Conn.init [.connect]).1.sockets[j]? = some .connecting :=
  ⟨rfl, connecting_flag_has_socket {} [.connect] rfl⟩

/-! ## `connected` -/

namespace useP2P

/-- While `connected` is set, some socket is open or closing. -/
def ConnectedLive (h : P2PHook) : Prop :=
  h.state.connected = true → h.conn.SomeLive

theorem ConnectedLive.step {cfg : Config} {h h' : P2PHook} {e : P2PEvent} (hl : ConnectedLive h)
    (hst : useP2P.step cfg h e = some h') : ConnectedLive h' := by
  by_cases he : ∃ ce, e = .conn ce
  · obtain ⟨ce, rfl⟩ := he
    cases hst
    intro hc
    rw [foldl_react_conn]
    exact @Conn.someLive_of_flag _ _ react (·.state.connected) react_connected _ _ _ hc hl
  · obtain ⟨hconn, hs, -⟩ := step_other (fun ce h => he ⟨ce, h⟩) hst
    have hc : h'.state.connected = h.state.connected := by
      rcases hs with hs | ⟨u, hu, hs⟩
      · rw [hs]
      · exact hu.connected hs
    rw [ConnectedLive, hconn, hc]
    exact hl

theorem Reachable.connectedLive {cfg : Config} {h : P2PHook} (hr : Reachable cfg h) :
    ConnectedLive h := by
  induction hr with
  | init => intro h; cases h
  | step _ _ hst ih => exact ih.step hst

end useP2P

namespace useOrchestrator

/-- While `connected` is set, some socket is open or closing. -/
def ConnectedLive (h : OrchestratorHook) : Prop :=
  h.state.connected = true → h.conn.SomeLive

theorem ConnectedLive.step {cfg : Config} {h h' : OrchestratorHook} {e : OrchestratorEvent}
    (hl : ConnectedLive h) (hst : useOrchestrator.step cfg h e = some h') : ConnectedLive h' := by
  by_cases he : ∃ ce, e = .conn ce
  · obtain ⟨ce, rfl⟩ := he
    cases hst
    intro hc
    rw [foldl_react_conn]
    exact @Conn.someLive_of_flag _ _ (react cfg) (·.state.connected) (react_connected cfg) _ _ _
      hc hl
  · have hs := step_commandStep (fun ce h => he ⟨ce, h⟩) hst
    rw [ConnectedLive, hs.conn, hs.connected]
    exact hl

theorem Reachable.connectedLive {cfg : Config} {h : OrchestratorHook} (hr : Reachable cfg h) :
    ConnectedLive h := by
  induction hr with
  | init => intro h; cases h
  | step _ _ hst ih => exact ih.step hst

end useOrchestrator

/-- **`connected` has a live socket.** In every reachable state of either hook, whoever calls
what and whatever the browser does, while `connected` is set some socket is open, or closing
with its `close` event still to come. -/
theorem connected_has_live_socket {cfg : Config} {hp : P2PHook} {ho : OrchestratorHook}
    (hrp : useP2P.Reachable cfg hp) (hro : useOrchestrator.Reachable cfg ho) :
    (hp.state.connected = true →
      ∃ i : Nat, hp.conn.sockets[i]? = some .open ∨ hp.conn.sockets[i]? = some .closing) ∧
    (ho.state.connected = true →
      ∃ i : Nat, ho.conn.sockets[i]? = some .open ∨ ho.conn.sockets[i]? = some .closing) :=
  ⟨hrp.connectedLive, hro.connectedLive⟩

/-- Both hooks once the mount's socket opens. -/
theorem connected_after_open :
    ∃ hp ho, useP2P.Reachable {} hp ∧ useOrchestrator.Reachable {} ho ∧
      hp.state.connected = true ∧ ho.state.connected = true ∧
      (∃ i : Nat, hp.conn.sockets[i]? = some .open ∨ hp.conn.sockets[i]? = some .closing) ∧
      (∃ i : Nat, ho.conn.sockets[i]? = some .open ∨ ho.conn.sockets[i]? = some .closing) :=
  have hrp := useP2P.Reachable.init.run
    (show useP2P.run {} P2PHook.init [.conn .connect, .conn (.opened 0)] = some _ from rfl)
  have hro := useOrchestrator.Reachable.init.run
    (show useOrchestrator.run {} OrchestratorHook.init [.conn .connect, .conn (.opened 0)] =
      some _ from rfl)
  ⟨_, _, hrp, hro, rfl, rfl, (connected_has_live_socket hrp hro).1 rfl,
    (connected_has_live_socket hrp hro).2 rfl⟩

/-- **Bounded reconnect budget.** In a run from mount where `connect` is called only by the
mount effect and by the reconnect timers, both hooks' refs follow `Conn.run`; the counter is
within the ceiling; since the last open (or mount) at most the ceiling of timers were set and
of sockets constructed; and once the counter is at the ceiling, no continuation constructs a
socket, and with no timer left `useOrchestrator`'s `error` reports the exhaustion. The run holds
events of the connection machine only, so no REST request settles in it, not even those of the
hydration an open starts; one that settles after the exhaustion overwrites `error` with its own
outcome (`Batch.settle_error`). -/
theorem reconnect_budget (cfg : Config) (es : List ConnEvent)
    (hes : ∀ e ∈ es, e.isEnvironment) :
    (useP2P.run cfg P2PHook.init ((ConnEvent.connect :: es).map .conn)).map (·.conn) =
        some (Conn.run cfg Conn.init (.connect :: es)).1 ∧
      (useOrchestrator.run cfg OrchestratorHook.init ((ConnEvent.connect :: es).map .conn)).map
        (·.conn) = some (Conn.run cfg Conn.init (.connect :: es)).1 ∧
      (Conn.run cfg Conn.init (.connect :: es)).1.reconnectAttempts ≤ cfg.maxReconnectAttempts ∧
      (sinceOpen (Conn.run cfg Conn.init (.connect :: es)).2).countP Action.isSchedule ≤
        cfg.maxReconnectAttempts ∧
      (sinceOpen (Conn.run cfg Conn.init (.connect :: es)).2).countP Action.isConstruct ≤
        cfg.maxReconnectAttempts ∧
      ((Conn.run cfg Conn.init (.connect :: es)).1.reconnectAttempts = cfg.maxReconnectAttempts →
        (∀ es' : List ConnEvent, (∀ e ∈ es', e.isEnvironment) →
          (Conn.run cfg (Conn.run cfg Conn.init (.connect :: es)).1 es').2.countP
            Action.isConstruct = 0) ∧
        ((Conn.run cfg Conn.init (.connect :: es)).1.timers = [] →
          (useOrchestrator.run cfg OrchestratorHook.init ((ConnEvent.connect :: es).map .conn)).map
            (·.state.error) = some (some (useOrchestrator.exhaustedMessage cfg)))) := by
  have hb : Conn.Budget cfg _ _ := Conn.budget_mount_run es hes
  have ho := useOrchestrator.run_conn cfg OrchestratorHook.init (.connect :: es)
  refine ⟨?_, ?_, hb.attempts_le, hb.countP_schedule ▸ hb.attempts_le, hb.countP_construct_le,
    fun hmax => ⟨fun es' hes' => hb.spent hmax hes', fun ht => ?_⟩⟩
  · rw [useP2P.run_conn, Option.map_some', useP2P.foldl_react_conn]; rfl
  · rw [ho, Option.map_some', useOrchestrator.foldl_react_conn]; rfl
  · rw [ho, Option.map_some']
    exact congrArg some (useOrchestrator.error_of_getLast_exhausted cfg
      (Conn.getLast?_of_sinceOpen (hb.getLast?_of_spent hmax ht)) _)

/-- The bound at the default options, on the run of a mount whose socket fails twice. -/
theorem reconnect_budget_two_failures :
    (∀ e ∈ [ConnEvent.closed 0 1006 true, .fire 1, .closed 1 1006 true], e.isEnvironment) ∧
    (useP2P.run {} P2PHook.init ((ConnEvent.connect ::
        [ConnEvent.closed 0 1006 true, .fire 1, .closed 1 1006 true]).map .conn)).map (·.conn) =
        some (Conn.run {} Conn.init (.connect ::
          [ConnEvent.closed 0 1006 true, .fire 1, .closed 1 1006 true])).1 ∧
      (useOrchestrator.run {} OrchestratorHook.init ((ConnEvent.connect ::
        [ConnEvent.closed 0 1006 true, .fire 1, .closed 1 1006 true]).map .conn)).map
        (·.conn) = some (Conn.run {} Conn.init (.connect ::
          [ConnEvent.closed 0 1006 true, .fire 1, .closed 1 1006 true])).1 ∧
      (Conn.run {} Conn.init (.connect ::
        [ConnEvent.closed 0 1006 true, .fire 1, .closed 1 1006 true])).1.reconnectAttempts ≤
        ({} : Config).maxReconnectAttempts ∧
      (sinceOpen (Conn.run {} Conn.init (.connect ::
        [ConnEvent.closed 0 1006 true, .fire 1, .closed 1 1006 true])).2).countP
        Action.isSchedule ≤ ({} : Config).maxReconnectAttempts ∧
      (sinceOpen (Conn.run {} Conn.init (.connect ::
        [ConnEvent.closed 0 1006 true, .fire 1, .closed 1 1006 true])).2).countP
        Action.isConstruct ≤ ({} : Config).maxReconnectAttempts ∧
      ((Conn.run {} Conn.init (.connect ::
        [ConnEvent.closed 0 1006 true, .fire 1, .closed 1 1006 true])).1.reconnectAttempts =
          ({} : Config).maxReconnectAttempts →
        (∀ es' : List ConnEvent, (∀ e ∈ es', e.isEnvironment) →
          (Conn.run {} (Conn.run {} Conn.init (.connect ::
            [ConnEvent.closed 0 1006 true, .fire 1, .closed 1 1006 true])).1 es').2.countP
            Action.isConstruct = 0) ∧
        ((Conn.run {} Conn.init (.connect ::
          [ConnEvent.closed 0 1006 true, .fire 1, .closed 1 1006 true])).1.timers = [] →
          (useOrchestrator.run {} OrchestratorHook.init ((ConnEvent.connect ::
            [ConnEvent.closed 0 1006 true, .fire 1, .closed 1 1006 true]).map .conn)).map
            (·.state.error) = some (some (useOrchestrator.exhaustedMessage {})))) :=
  ⟨by decide, reconnect_budget {} _ (by decide)⟩

/-- **One reconnect at a time.** In a run from mount where `connect` is called only by the mount
effect and by the reconnect timers, at most one reconnect timer is pending, and only while every
socket is closed. -/
theorem one_reconnect_pending (cfg : Config) (es : List ConnEvent)
    (hes : ∀ e ∈ es, e.isEnvironment) :
    (Conn.run cfg Conn.init (.connect :: es)).1.timers.length ≤ 1 ∧
      ((Conn.run cfg Conn.init (.connect :: es)).1.timers ≠ [] →
        ∀ (k : Nat) (st : ReadyState),
          (Conn.run cfg Conn.init (.connect :: es)).1.sockets[k]? = some st → st = .closed) := by
  obtain ⟨hl, hc⟩ := (Conn.budget_mount_run es hes).timers
  exact ⟨hl, fun ht k st hk =>
    Classical.byContradiction fun hst => Option.noConfusion (hc ht k st hk hst)⟩

/-- The mount's socket fails: one timer is pending, and the socket is closed. -/
theorem one_reconnect_after_failure :
    (∀ e ∈ [ConnEvent.closed 0 1006 true], e.isEnvironment) ∧
      (Conn.run {} Conn.init [.connect, .closed 0 1006 true]).1.timers.length ≤ 1 ∧
      ((Conn.run {} Conn.init [.connect, .closed 0 1006 true]).1.timers ≠ [] →
        ∀ (k : Nat) (st : ReadyState),
          (Conn.run {} Conn.init [.connect, .closed 0 1006 true]).1.sockets[k]? = some st →
            st = .closed) :=
  ⟨by decide, one_reconnect_pending {} _ (by decide)⟩

/-- **Exponential backoff.** In a run from mount where `connect` is called only by the mount
effect and by the reconnect timers, the timers set since the last open (or mount) have the
delays `reconnectInterval * 2 ^ k` for `k` from `0` to the counter minus one, in order. -/
theorem backoff_delays (cfg : Config) (es : List ConnEvent) (hes : ∀ e ∈ es, e.isEnvironment) :
    (sinceOpen (Conn.run cfg Conn.init (.connect :: es)).2).filterMap Action.delay? =
      (List.range (Conn.run cfg Conn.init (.connect :: es)).1.reconnectAttempts).map
        fun k => cfg.reconnectInterval * 2 ^ k := by
  rw [(Conn.budget_mount_run es hes).delays, Conn.backoffs]
  simp [Conn.backoffDelay]

/-- Two failed sockets in a row wait 3 s and then 6 s. -/
theorem backoff_delays_two_failures :
    (∀ e ∈ [ConnEvent.closed 0 1006 true, .fire 1, .closed 1 1006 true], e.isEnvironment) ∧
      (sinceOpen (Conn.run {} Conn.init (.connect ::
        [ConnEvent.closed 0 1006 true, .fire 1, .closed 1 1006 true])).2).filterMap
          Action.delay? =
      (List.range (Conn.run {} Conn.init (.connect ::
        [ConnEvent.closed 0 1006 true, .fire 1, .closed 1 1006 true])).1.reconnectAttempts).map
          fun k => ({} : Config).reconnectInterval * 2 ^ k :=
  ⟨by decide, backoff_delays {} _ (by decide)⟩

example : (sinceOpen (Conn.run {} Conn.init [.connect, .closed 0 1006 true, .fire 1,
    .closed 1 1006 true]).2).filterMap Action.delay? = [3000, 6000] := by
  decide

/-- **Exhaustion is terminal.** In a run from mount where `connect` is called only by the mount
effect and by the reconnect timers, `connect` reports the budget spent at most once, and once it
has, no later timer or browser event changes anything: not the refs, and not either hook. -/
theorem exhaustion_is_terminal (cfg : Config) (es es' : List ConnEvent)
    (hes : ∀ e ∈ es ++ es', e.isEnvironment)
    (hx : Action.exhausted ∈ (Conn.run cfg Conn.init (.connect :: es)).2) :
    (Conn.run cfg Conn.init (.connect :: es)).2.count .exhausted = 1 ∧
      Conn.run cfg Conn.init (.connect :: (es ++ es')) = Conn.run cfg Conn.init (.connect :: es) ∧
      useP2P.run cfg P2PHook.init ((ConnEvent.connect :: (es ++ es')).map .conn) =
        useP2P.run cfg P2PHook.init ((ConnEvent.connect :: es).map .conn) ∧
      useOrchestrator.run cfg OrchestratorHook.init
          ((ConnEvent.connect :: (es ++ es')).map .conn) =
        useOrchestrator.run cfg OrchestratorHook.init ((ConnEvent.connect :: es).map .conn) := by
  obtain ⟨hs, ht, hc⟩ :=
    Conn.exhausted_mount_run es (fun e he => hes e (List.mem_append_left _ he)) hx
  have hrun : Conn.run cfg Conn.init (.connect :: (es ++ es')) =
      Conn.run cfg Conn.init (.connect :: es) := by
    rw [← List.cons_append, Conn.run_append,
      Conn.run_idle hs ht fun e he => hes e (List.mem_append_right _ he), List.append_nil]
  refine ⟨hc, hrun, ?_, ?_⟩ <;>
    simp only [useP2P.run_conn, useOrchestrator.run_conn, P2PHook.init, OrchestratorHook.init, hrun]

/-- With a ceiling of one attempt, the mount's socket fails and the timer's `connect` reports
the budget spent; a stray timer and late events of the dead socket then change nothing. -/
theorem exhaustion_after_one_failure :
    ∃ cfg : Config, ∃ es es' : List ConnEvent,
      cfg.maxReconnectAttempts = 1 ∧ es' = [.fire 1, .opened 0, .closed 0 1006 true] ∧
      (∀ e ∈ es ++ es', e.isEnvironment) ∧
      Action.exhausted ∈ (Conn.run cfg Conn.init (.connect :: es)).2 ∧
      (Conn.run cfg Conn.init (.connect :: es)).2.count .exhausted = 1 ∧
      Conn.run cfg Conn.init (.connect :: (es ++ es')) = Conn.run cfg Conn.init (.connect :: es) ∧
      useP2P.run cfg P2PHook.init ((ConnEvent.connect :: (es ++ es')).map .conn) =
        useP2P.run cfg P2PHook.init ((ConnEvent.connect :: es).map .conn) ∧
      useOrchestrator.run cfg OrchestratorHook.init
          ((ConnEvent.connect :: (es ++ es')).map .conn) =
        useOrchestrator.run cfg OrchestratorHook.init ((ConnEvent.connect :: es).map .conn) :=
  ⟨{ maxReconnectAttempts := 1 }, [.closed 0 1006 true, .fire 1], _, rfl, rfl, by decide,
    by decide, exhaustion_is_terminal _ _ _ (by decide) (by decide)⟩

/-- **The counter within the ceiling, in every run.** Whoever calls `connect`, `disconnect` or
`resetConnection`, and whatever the browser and the timers do, `reconnectAttemptsRef` never
exceeds `maxReconnectAttempts`. -/
theorem attempts_within_ceiling (cfg : Config) (es : List ConnEvent) :
    (Conn.run cfg Conn.init es).1.reconnectAttempts ≤ cfg.maxReconnectAttempts :=
  Conn.run_attempts_le (Nat.zero_le _) es

end Mycelial
