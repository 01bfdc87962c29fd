import MycelialDashboard.Hook.P2P
import MycelialDashboard.Hook.Orchestrator
import MycelialDashboard.Connection.Sockets

/-!
# What the hooks send

`sentOn sent i` is the frames a hook sent on socket `i`, in order. `useP2P` sends only from
`sendChat`, and `useOrchestrator` the four subscribe frames from `onopen` and afterwards only
from `sendWorkloadCommand`; both check that `wsRef.current` is open. `no_frame_before_open` says
that neither hook sends anything on a socket before it opens, `no_frame_after_close` nothing
after it starts closing, and `subscribe_before_commands`
that on every socket `useOrchestrator` sends nothing, or the four subscribes followed by
workload commands, and that an open socket has had its subscribes.

The proofs go through one invariant per hook, `useP2P.Silent` and `useOrchestrator.Subscribed`,
kept by every step because a socket never goes back to connecting (`Conn.Unopened.of_step`)
and opens only on its own `open` event (`Conn.open_of_step`, `Conn.opened_mem_step`).
-/

namespace Mycelial

/-- The frames sent on socket `i`, in order. -/
def sentOn (sent : List (Nat × JsVal)) (i : Nat) : List JsVal :=
  (sent.filter (·.1 = i)).map (·.2)

@[simp] theorem sentOn_append (a b : List (Nat × JsVal)) (i : Nat) :
    sentOn (a ++ b) i = sentOn a i ++ sentOn b i := by
  simp [sentOn]

theorem sentOn_map_const {α : Type} (xs : List α) (g : α → JsVal) (j i : Nat) :
    sentOn (xs.map fun x => (j, g x)) i = if j = i then xs.map g else [] := by
  by_cases h : j = i <;> simp [sentOn, h, List.filter_map, Function.comp_def]

theorem sentOn_singleton (j i : Nat) (f : JsVal) :
    sentOn [(j, f)] i = if j = i then [f] else [] :=
  sentOn_map_const [f] id j i

/-! ## `useP2P` -/

namespace useP2P

/-- Nothing was sent on a socket that has not opened. -/
def Silent (h : P2PHook) : Prop :=
  ∀ i, h.conn.Unopened i → sentOn h.sent i = []

theorem foldl_react_sent (acts : List Action) (h : P2PHook) :
    (acts.foldl react h).sent = h.sent := by
  induction acts generalizing h with
  | nil => rfl
  | cons a acts ih => rw [List.foldl_cons, ih]; cases a <;> rfl

/-- A frame sent on an open socket keeps the hook silent on the others. -/
theorem Silent.send {h : P2PHook} {i : Nat} (hs : Silent h)
    (hi : h.conn.sockets[i]? = some .open) (f : JsVal) :
    Silent { h with sent := h.sent ++ [(i, f)] } := by
  intro j hj
  rw [sentOn_append, sentOn_singleton, hs j hj, if_neg]
  · rfl
  · rintro rfl; rcases hj with hj | hj <;> simp [hi] at hj

theorem Silent.step {cfg : Config} {h h' : P2PHook} {e : P2PEvent} (hs : Silent h)
    (hst : useP2P.step cfg h e = some h') : Silent h' := by
  by_cases he : ∃ ce, e = .conn ce
  · obtain ⟨ce, rfl⟩ := he
    cases hst
    intro i hi
    rw [foldl_react_sent]
    exact hs i (Conn.Unopened.of_step (by rwa [foldl_react_conn] at hi))
  · obtain ⟨hconn, -, hsent | ⟨j, f, hj, hsent⟩⟩ := step_other (fun ce h => he ⟨ce, h⟩) hst <;>
      intro i hi <;> rw [hconn] at hi <;> rw [hsent]
    · exact hs i hi
    · exact hs.send hj f i hi

theorem Reachable.silent {cfg : Config} {h : P2PHook} (hr : Reachable cfg h) : Silent h := by
  induction hr with
  | init => intro i _; rfl
  | step _ _ hst ih => exact ih.step hst

/-- A step sends nothing on a socket that is closing or closed, which stays so. -/
theorem shut_step {cfg : Config} {h h' : P2PHook} {e : P2PEvent} {i : Nat} (hi : h.conn.Shut i)
    (hst : useP2P.step cfg h e = some h') :
    h'.conn.Shut i ∧ sentOn h'.sent i = sentOn h.sent i := by
  by_cases he : ∃ ce, e = .conn ce
  · obtain ⟨ce, rfl⟩ := he
    cases hst
    rw [foldl_react_conn, foldl_react_sent]
    exact ⟨hi.step ce, rfl⟩
  · obtain ⟨hconn, -, hsent | ⟨j, f, hj, hsent⟩⟩ := step_other (fun ce h => he ⟨ce, h⟩) hst <;>
      rw [hconn, hsent]
    · exact ⟨hi, rfl⟩
    · rw [sentOn_append, sentOn_singleton, if_neg (hi.ne_of_open hj), List.append_nil]
      exact ⟨hi, rfl⟩

theorem shut_run {cfg : Config} {h h' : P2PHook} {es : List P2PEvent} {i : Nat}
    (hi : h.conn.Shut i) (hs : useP2P.run cfg h es = some h') :
    sentOn h'.sent i = sentOn h.sent i :=
  (@run_preserves cfg (fun h' => h'.conn.Shut i ∧ sentOn h'.sent i = sentOn h.sent i)
    (fun ⟨hi, he⟩ hst => ⟨(shut_step hi hst).1, (shut_step hi hst).2.trans he⟩) _ _ _
    ⟨hi, rfl⟩ hs).2

end useP2P

/-! ## `useOrchestrator` -/

namespace useOrchestrator

/-- The frames `onopen` sends, in order. -/
def subscribeFrames : List JsVal :=
  ["orchestrator", "workloads", "nodes", "cluster"].map subscribeFrame

/-- A frame of `sendWorkloadCommand`. -/
def IsCommand (f : JsVal) : Prop :=
  ∃ command workloadId, f = commandFrame command workloadId

/-- What a socket was sent: nothing, or the subscribes followed by workload commands. -/
def SubscribedFirst (fs : List JsVal) : Prop :=
  fs = [] ∨ ∃ rest, fs = subscribeFrames ++ rest ∧ ∀ f ∈ rest, IsCommand f

/-- What a socket in state `st` was sent: nothing before it opens, its subscribes once it has
opened, and only workload commands after them. -/
structure SocketFrames (st : Option ReadyState) (fs : List JsVal) : Prop where
  unopened : st = none ∨ st = some .connecting → fs = []
  opened : st = some .open → fs ≠ []
  first : SubscribedFirst fs

/-- The invariant of the frames `useOrchestrator` sends, socket by socket. -/
def Subscribed (h : OrchestratorHook) : Prop :=
  ∀ i, SocketFrames h.conn.sockets[i]? (sentOn h.sent i)

theorem SocketFrames.of_socket {st st' : Option ReadyState} {fs : List JsVal}
    (h : SocketFrames st fs) (hu : st' = none ∨ st' = some .connecting →
      st = none ∨ st = some .connecting)
    (ho : st' = some .open → st = some .open) : SocketFrames st' fs :=
  ⟨fun h' => h.unopened (hu h'), fun h' => h.opened (ho h'), h.first⟩

theorem SocketFrames.subscribe : SocketFrames (some .open) subscribeFrames :=
  ⟨by simp, by simp [subscribeFrames], .inr ⟨[], by simp, by simp⟩⟩

theorem SocketFrames.command {fs : List JsVal} (h : SocketFrames (some .open) fs)
    (command workloadId : String) :
    SocketFrames (some .open) (fs ++ [commandFrame command workloadId]) := by
  refine ⟨by simp, by simp, ?_⟩
  rcases h.first with h0 | ⟨rest, rfl, hcmd⟩
  · exact absurd h0 (h.opened rfl)
  · exact .inr ⟨rest ++ [commandFrame command workloadId], by simp, fun f hf =>
      (List.mem_append.mp hf).elim (hcmd f) fun hf => ⟨_, _, List.mem_singleton.mp hf⟩⟩

/-! ### Events of the connection machine -/

theorem react_opened_sent (cfg : Config) (h : OrchestratorHook) (j : Nat) :
    (react cfg h (.opened j)).sent =
      h.sent ++ ["orchestrator", "workloads", "nodes", "cluster"].map
        fun topic => (j, subscribeFrame topic) := rfl

theorem foldl_react_sent (cfg : Config) {acts : List Action} (ha : ∀ j, .opened j ∉ acts)
    (h : OrchestratorHook) : (acts.foldl (react cfg) h).sent = h.sent := by
  induction acts generalizing h with
  | nil => rfl
  | cons a acts ih =>
    rw [List.foldl_cons, ih fun j hj => ha j (List.mem_cons_of_mem a hj)]
    cases a <;> first | rfl | exact absurd (List.mem_cons_self _ _) (ha _)

/-- Socket `j` opens: it is sent the subscribes. -/
theorem Subscribed.opened (cfg : Config) {h : OrchestratorHook} {j : Nat} (hs : Subscribed h)
    (hj : h.conn.sockets[j]? = some .connecting) :
    Subscribed (react cfg { h with conn := (Conn.step cfg h.conn (.opened j)).1 } (.opened j)) := by
  intro i
  rw [react_opened_sent, sentOn_append, sentOn_map_const, Conn.step_opened cfg _ hj]
  by_cases hji : j = i
  · subst hji
    rw [if_pos rfl, (hs j).unopened (.inr hj)]
    show SocketFrames (h.conn.sockets.set j .open)[j]? subscribeFrames
    rw [List.getElem?_set_self', hj]
    exact .subscribe
  · rw [if_neg hji, List.append_nil]
    show SocketFrames (h.conn.sockets.set j .open)[i]? _
    rw [List.getElem?_set_ne hji]
    exact hs i

/-- **The frames of an event of the connection machine.** -/
theorem Subscribed.conn_step (cfg : Config) {h : OrchestratorHook} (hs : Subscribed h)
    (e : ConnEvent) : Subscribed ((Conn.step cfg h.conn e).2.foldl (react cfg)
      { h with conn := (Conn.step cfg h.conn e).1 }) := by
  by_cases ho : ∃ j, e = .opened j ∧ h.conn.sockets[j]? = some .connecting
  · obtain ⟨j, rfl, hj⟩ := ho
    rw [Conn.step_opened cfg _ hj, List.foldl_cons, List.foldl_nil, ← Conn.step_opened cfg _ hj]
    exact hs.opened cfg hj
  · intro i
    rw [foldl_react_sent cfg (fun j hj => ho ⟨j, Conn.opened_mem_step hj⟩), foldl_react_conn]
    exact (hs i).of_socket Conn.Unopened.of_step fun hi =>
      (Conn.open_of_step hi).resolve_right fun ⟨he, hc⟩ => ho ⟨i, he, hc⟩

/-! ### The other events -/

theorem Subscribed.of_commandStep {h h' : OrchestratorHook} (hs : Subscribed h)
    (hc : CommandStep h h') : Subscribed h' := by
  obtain ⟨hconn, -, hsent | ⟨j, command, workloadId, hj, hsent⟩⟩ := hc <;> intro i <;>
    rw [hconn, hsent]
  · exact hs i
  · rw [sentOn_append, sentOn_singleton]
    split
    · subst j
      have hi := hs i
      rw [hj] at hi ⊢
      exact hi.command command workloadId
    · simpa using hs i

theorem Subscribed.step {cfg : Config} {h h' : OrchestratorHook} {e : OrchestratorEvent}
    (hs : Subscribed h) (hst : useOrchestrator.step cfg h e = some h') : Subscribed h' := by
  by_cases he : ∃ ce, e = .conn ce
  · obtain ⟨ce, rfl⟩ := he
    cases hst
    exact hs.conn_step cfg ce
  · exact hs.of_commandStep (step_commandStep (fun ce h => he ⟨ce, h⟩) hst)

theorem Reachable.subscribed {cfg : Config} {h : OrchestratorHook} (hr : Reachable cfg h) :
    Subscribed h := by
  induction hr with
  | init => intro i; exact ⟨fun _ => rfl, (fun h => nomatch h), .inl rfl⟩
  | step _ _ hst ih => exact ih.step hst

/-! ### Closed sockets -/

/-- Reacting to actions sends nothing on socket `i` unless it opens among them. -/
theorem foldl_react_sentOn (cfg : Config) {acts : List Action} {i : Nat}
    (ha : ∀ j, Action.opened j ∈ acts → j ≠ i) (h : OrchestratorHook) :
    sentOn (acts.foldl (react cfg) h).sent i = sentOn h.sent i := by
  induction acts generalizing h with
  | nil => rfl
  | cons a acts ih =>
    rw [List.foldl_cons, ih fun j hj => ha j (List.mem_cons_of_mem a hj)]
    cases a with
    | opened j =>
      rw [react_opened_sent, sentOn_append, sentOn_map_const,
        if_neg (ha j (List.mem_cons_self _ _)), List.append_nil]
    | _ => rfl

/-- A step sends nothing on a socket that is closing or closed, which stays so. -/
theorem shut_step {cfg : Config} {h h' : OrchestratorHook} {e : OrchestratorEvent} {i : Nat}
    (hi : h.conn.Shut i) (hst : useOrchestrator.step cfg h e = some h') :
    h'.conn.Shut i ∧ sentOn h'.sent i = sentOn h.sent i := by
  by_cases he : ∃ ce, e = .conn ce
  · obtain ⟨ce, rfl⟩ := he
    cases hst
    rw [foldl_react_conn, foldl_react_sentOn cfg fun j hj =>
      hi.ne_of_connecting (Conn.opened_mem_step hj).2]
    exact ⟨hi.step ce, rfl⟩
  · obtain ⟨hconn, -, hsent | ⟨j, command, workloadId, hj, hsent⟩⟩ :=
      step_commandStep (fun ce h => he ⟨ce, h⟩) hst <;> rw [hconn, hsent]
    · exact ⟨hi, rfl⟩
    · rw [sentOn_append, sentOn_singleton, if_neg (hi.ne_of_open hj), List.append_nil]
      exact ⟨hi, rfl⟩

theorem shut_run {cfg : Config} {h h' : OrchestratorHook} {es : List OrchestratorEvent} {i : Nat}
    (hi : h.conn.Shut i) (hs : useOrchestrator.run cfg h es = some h') :
    sentOn h'.sent i = sentOn h.sent i :=
  (@run_preserves cfg (fun h' => h'.conn.Shut i ∧ sentOn h'.sent i = sentOn h.sent i)
    (fun ⟨hi, he⟩ hst => ⟨(shut_step hi hst).1, (shut_step hi hst).2.trans he⟩) _ _ _
    ⟨hi, rfl⟩ hs).2

end useOrchestrator

/-! ## Both hooks -/

/-- **No frame before open.** In every reachable state of either hook, nothing was sent on a
socket that is not constructed yet or still connecting. -/
theorem no_frame_before_open {cfg : Config} {hp : P2PHook} {ho : OrchestratorHook}
    (hrp : useP2P.Reachable cfg hp) (hro : useOrchestrator.Reachable cfg ho) (i : Nat) :
    (hp.conn.sockets[i]? = none ∨ hp.conn.sockets[i]? = some .connecting →
      sentOn hp.sent i = []) ∧
    (ho.conn.sockets[i]? = none ∨ ho.conn.sockets[i]? = some .connecting →
      sentOn ho.sent i = []) :=
  ⟨hrp.silent i, (hro.subscribed i).unopened⟩

/-- StrictMode's mount, cleanup and mount; socket 1 opens and carries frames (the chat message,
the subscribes), then socket 0's late `close` lets the reconnect timer build socket 2, which is
connecting beside it and has carried none. -/
theorem no_frame_before_open_strictMode :
    ∃ hp ho, useP2P.Reachable {} hp ∧ useOrchestrator.Reachable {} ho ∧
      hp.conn.sockets[1]? = some .open ∧ sentOn hp.sent 1 ≠ [] ∧
      ho.conn.sockets[1]? = some .open ∧ sentOn ho.sent 1 ≠ [] ∧
      hp.conn.sockets[2]? = some .connecting ∧ ho.conn.sockets[2]? = some .connecting ∧
      (sentOn hp.sent 2 = [] ∧ sentOn ho.sent 2 = []) :=
  have hrp := useP2P.Reachable.init.run (show useP2P.run {} P2PHook.init
    [.conn .connect, .conn .disconnect, .conn .connect, .conn (.opened 1),
      .sendChat "hi" .undefined 1 2, .conn (.closed 0 1006 false), .conn (.fire 1)] = some _ from rfl)
  have hro := useOrchestrator.Reachable.init.run (show useOrchestrator.run {}
    OrchestratorHook.init ([ConnEvent.connect, .disconnect, .connect, .opened 1,
      .closed 0 1006 false, .fire 1].map .conn) = some _ from rfl)
  ⟨_, _, hrp, hro, rfl, by decide, rfl, by decide, rfl, rfl,
    (no_frame_before_open hrp hro 2).1 (.inr rfl), (no_frame_before_open hrp hro 2).2 (.inr rfl)⟩

/-- **Subscribes before commands.** In every reachable state of `useOrchestrator`, the frames
sent on each socket are none, or the four subscribe frames followed only by workload commands,
and a socket that is open has had its subscribes. -/
theorem subscribe_before_commands {cfg : Config} {h : OrchestratorHook}
    (hr : useOrchestrator.Reachable cfg h) (i : Nat) :
    (sentOn h.sent i = [] ∨ ∃ rest, sentOn h.sent i = useOrchestrator.subscribeFrames ++ rest ∧
      ∀ f ∈ rest, ∃ command workloadId, f = useOrchestrator.commandFrame command workloadId) ∧
    (h.conn.sockets[i]? = some .open → sentOn h.sent i ≠ []) :=
  ⟨(hr.subscribed i).first, (hr.subscribed i).opened⟩

/-- **No frame after close.** Once a socket is closing or closed, neither hook sends anything
more on it, whatever follows. With `no_frame_before_open`: every frame on a socket was sent while
it was open. -/
theorem no_frame_after_close {cfg : Config} {hp hp' : P2PHook} {ho ho' : OrchestratorHook}
    {es : List P2PEvent} {es' : List OrchestratorEvent} {i : Nat}
    (hpi : hp.conn.sockets[i]? = some .closing ∨ hp.conn.sockets[i]? = some .closed)
    (hoi : ho.conn.sockets[i]? = some .closing ∨ ho.conn.sockets[i]? = some .closed)
    (hrp : useP2P.run cfg hp es = some hp') (hro : useOrchestrator.run cfg ho es' = some ho') :
    sentOn hp'.sent i = sentOn hp.sent i ∧ sentOn ho'.sent i = sentOn ho.sent i :=
  ⟨useP2P.shut_run hpi hrp, useOrchestrator.shut_run hoi hro⟩

/-- Socket 0 opens and `disconnect` closes it; the second `connect`'s socket opens, and a chat
message and a workload command go out on it. Socket 0 gets nothing more. -/
theorem no_frame_after_disconnect :
    ∃ (hp hp' : P2PHook) (ho ho' : OrchestratorHook),
      useP2P.run {} hp [.conn .connect, .conn (.opened 1), .sendChat "hi" .undefined 1 2] =
        some hp' ∧
      useOrchestrator.run {} ho [.conn .connect, .conn (.opened 1), .cancelWorkload "w",
        .settle 6 (.ok ⟨200, .ok .null⟩)] = some ho' ∧
      (hp.conn.sockets[0]? = some .closing ∨ hp.conn.sockets[0]? = some .closed) ∧
      (ho.conn.sockets[0]? = some .closing ∨ ho.conn.sockets[0]? = some .closed) ∧
      sentOn hp'.sent 0 = sentOn hp.sent 0 ∧ sentOn ho'.sent 0 = sentOn ho.sent 0 :=
  have hrp := show useP2P.run {} ((useP2P.run {} P2PHook.init [.conn .connect, .conn (.opened 0),
      .conn .disconnect]).getD P2PHook.init)
      [.conn .connect, .conn (.opened 1), .sendChat "hi" .undefined 1 2] = some _ from rfl
  have hro := show useOrchestrator.run {} ((useOrchestrator.run {} OrchestratorHook.init
      [.conn .connect, .conn (.opened 0), .conn .disconnect]).getD OrchestratorHook.init)
      [.conn .connect, .conn (.opened 1), .cancelWorkload "w",
        .settle 6 (.ok ⟨200, .ok .null⟩)] = some _ from rfl
  ⟨_, _, _, _, hrp, hro, .inl rfl, .inl rfl, no_frame_after_close (.inl rfl) (.inl rfl) hrp hro⟩

/-- Socket 0 opens, then `cancelWorkload('w')` succeeds: the subscribes, then the command. -/
theorem subscribe_before_cancel :
    ∃ h, useOrchestrator.Reachable {} h ∧
      sentOn h.sent 0 = useOrchestrator.subscribeFrames ++
        [useOrchestrator.commandFrame "cancel" "w"] ∧
      (sentOn h.sent 0 = [] ∨ ∃ rest, sentOn h.sent 0 = useOrchestrator.subscribeFrames ++ rest ∧
        ∀ f ∈ rest, ∃ command workloadId, f = useOrchestrator.commandFrame command workloadId) :=
  have hr := useOrchestrator.Reachable.init.run
    (show useOrchestrator.run {} OrchestratorHook.init [.conn .connect, .conn (.opened 0),
      .cancelWorkload "w", .settle 3 (.ok ⟨200, .ok .null⟩)] = some _ from rfl)
  ⟨_, hr, rfl, (subscribe_before_commands hr 0).1⟩

end Mycelial
