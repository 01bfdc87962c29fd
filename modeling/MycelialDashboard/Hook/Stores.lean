import MycelialDashboard.Hook.P2P
import MycelialDashboard.Hook.Orchestrator

/-!
# The stores of both hooks

`stores_keyed_by_identifier` gathers the two store invariants: a peer is stored under its own
truthy `id` (`useP2P.Reachable.normalizedEntry`), a workload under its `id` field and a node under
its `nodeId` field (`useOrchestrator.Reachable.keyed`). Nothing checks what those fields hold, and
only the peer paths check that the key is truthy: a workload or a node without its identifier is
stored under `undefined`, where a peer without one is skipped
(`idless_record_stored_under_undefined`).

The REST snapshot of the peers builds a new map from the response alone
(`useP2P.fetchPeersUpdate_peers`), so a peer that joins while the request is in flight is dropped
when the response arrives (`rest_snapshot_drops_joined_peer`). In `useOrchestrator` such a snapshot
is the only way to lose a workload: every other event keeps every key of the workload store
(`useOrchestrator.step_keeps_workloads`), and the snapshot replaces the store with what the
response lists (`useOrchestrator.snapshot_replaces_workloads`).

A frame with a tag a hook does not handle leaves it as it was (`unknown_tags_ignored`). An
updater that throws ends the hook (`useP2P.step_message_eq_none`,
`useOrchestrator.step_message_eq_none`): the `try` of `onmessage` covers `handleMessage` but not
the updaters, which React runs later (`unusable_frames_crash`).
-/

namespace Mycelial

/-! ## Keys -/

/-- **Stores keyed by identity.** In every reachable state of either hook, each store entry is
kept under its entity's own identifier: a peer under its `id`, which is truthy, a workload under
its `id` field and a node under its `nodeId` field. -/
theorem stores_keyed_by_identifier {cfg : Config} {hp : P2PHook} {ho : OrchestratorHook}
    (hrp : useP2P.Reachable cfg hp) (hro : useOrchestrator.Reachable cfg ho) :
    (∀ e ∈ hp.state.peers, e.1 = e.2.id ∧ e.1.truthy) ∧
      (∀ e ∈ ho.state.workloads, e.2.getOpt "id" = e.1) ∧
      (∀ e ∈ ho.state.nodes, e.2.getOpt "nodeId" = e.1) := by
  refine ⟨fun e he => ?_, hro.keyed.workloads.own, hro.keyed.nodes.own⟩
  obtain ⟨_, _, hid, hk⟩ := hrp.normalizedEntry e he
  exact ⟨hk, hk ▸ hid⟩

/-- A peer listed by `peers_list`, a workload from `workload_created` and a node from
`node_joined`, each under its own identifier. -/
theorem stores_keyed_after_frames :
    ∃ hp ho, useP2P.Reachable {} hp ∧ useOrchestrator.Reachable {} ho ∧
      hp.state.peers.keys = [.str "a"] ∧ ho.state.workloads.keys = [.str "w"] ∧
      ho.state.nodes.keys = [.str "n"] ∧
      ((∀ e ∈ hp.state.peers, e.1 = e.2.id ∧ e.1.truthy) ∧
        (∀ e ∈ ho.state.workloads, e.2.getOpt "id" = e.1) ∧
        (∀ e ∈ ho.state.nodes, e.2.getOpt "nodeId" = e.1)) :=
  have hrp := useP2P.Reachable.init.run
    (show useP2P.run {} P2PHook.init [.conn .connect, .conn (.opened 0),
      .message 0 (.obj [("type", .str "peers_list"), ("peers", .arr [.obj [("id", .str "a")]])])] =
      some _ from rfl)
  have hro := useOrchestrator.Reachable.init.run
    (show useOrchestrator.run {} OrchestratorHook.init [.conn .connect, .conn (.opened 0),
      .message 0 (.obj [("type", .str "workload_created"), ("data", .obj [("id", .str "w")])]),
      .message 0 (.obj [("type", .str "node_joined"), ("data", .obj [("nodeId", .str "n")])])] =
      some _ from rfl)
  ⟨_, _, hrp, hro, rfl, rfl, rfl, stores_keyed_by_identifier hrp hro⟩

/-- **A record without its identifier is stored under `undefined`.** From any state of either hook
with socket `i` open, take a record with no `id`, `nodeId` or `peer_id` field. A
`workload_created` frame carrying it stores it under `undefined` among the workloads, and a
`node_joined` frame among the nodes: the orchestrator paths call `newWorkloads.set(workload.id,
workload)` and `newNodes.set(node.nodeId, node)` with no check. A `peers_list` frame listing it
leaves `useP2P` as it was: the peer paths set a peer only `if (normalized.id)`. -/
theorem idless_record_stored_under_undefined {cfg : Config} {ho : OrchestratorHook}
    {hp : P2PHook} {i : Nat} (hoi : ho.conn.sockets[i]? = some .open)
    (hpi : hp.conn.sockets[i]? = some .open) {fs : List (String × JsVal)}
    (hid : JsVal.field fs "id" = .undefined) (hnid : JsVal.field fs "nodeId" = .undefined)
    (hpid : JsVal.field fs "peer_id" = .undefined) :
    (∃ h', useOrchestrator.step cfg ho
        (.message i (.obj [("type", .str "workload_created"), ("data", .obj fs)])) = some h' ∧
      (.undefined, .obj fs) ∈ h'.state.workloads) ∧
    (∃ h', useOrchestrator.step cfg ho
        (.message i (.obj [("type", .str "node_joined"), ("data", .obj fs)])) = some h' ∧
      (.undefined, .obj fs) ∈ h'.state.nodes) ∧
    useP2P.step cfg hp
      (.message i (.obj [("type", .str "peers_list"), ("peers", .arr [.obj fs])])) = some hp := by
  refine ⟨?_, ?_, ?_⟩
  · rw [useOrchestrator.step, if_pos hoi, useOrchestrator.apply,
      useOrchestrator.onmessage_workload_created, hid]
    exact ⟨_, rfl, JsMap.mem_set_self _ (k := .undefined) rfl _⟩
  · rw [useOrchestrator.step, if_pos hoi, useOrchestrator.apply,
      useOrchestrator.onmessage_node_joined, hnid]
    exact ⟨_, rfl, JsMap.mem_set_self _ (k := .undefined) rfl _⟩
  · rw [useP2P.step, if_pos hpi, useP2P.apply, useP2P.onmessage_peers_list_no_id hid hpid]
    rfl

/-- `{status: 'pending'}` once socket 0 is open: as a created workload and as a joined node it is
stored under `undefined`; as a listed peer it is skipped. -/
theorem idless_workload_after_open :
    ∃ ho hp, useOrchestrator.Reachable {} ho ∧ useP2P.Reachable {} hp ∧
      ho.conn.sockets[0]? = some .open ∧ hp.conn.sockets[0]? = some .open ∧
      JsVal.field [("status", .str "pending")] "id" = .undefined ∧
      JsVal.field [("status", .str "pending")] "nodeId" = .undefined ∧
      JsVal.field [("status", .str "pending")] "peer_id" = .undefined ∧
      (∃ h', useOrchestrator.step {} ho (.message 0 (.obj [("type", .str "workload_created"),
          ("data", .obj [("status", .str "pending")])])) = some h' ∧
        (.undefined, .obj [("status", .str "pending")]) ∈ h'.state.workloads) ∧
      (∃ h', useOrchestrator.step {} ho (.message 0 (.obj [("type", .str "node_joined"),
          ("data", .obj [("status", .str "pending")])])) = some h' ∧
        (.undefined, .obj [("status", .str "pending")]) ∈ h'.state.nodes) ∧
      useP2P.step {} hp (.message 0 (.obj [("type", .str "peers_list"),
        ("peers", .arr [.obj [("status", .str "pending")]])])) = some hp :=
  have hro := useOrchestrator.Reachable.init.run
    (show useOrchestrator.run {} OrchestratorHook.init [.conn .connect, .conn (.opened 0)] =
      some _ from rfl)
  have hrp := useP2P.Reachable.init.run
    (show useP2P.run {} P2PHook.init [.conn .connect, .conn (.opened 0)] = some _ from rfl)
  ⟨_, _, hro, hrp, rfl, rfl, rfl, rfl, rfl,
    idless_record_stored_under_undefined rfl rfl rfl rfl rfl⟩

/-! ## Snapshots -/

/-- `peer_joined` arrives while `fetchPeers` is in flight; the response, taken before the join,
does not list the peer, and the store loses it. -/
theorem rest_snapshot_drops_joined_peer :
    (useP2P.run {} P2PHook.init [.conn .connect, .conn (.opened 0),
      .message 0 (.obj [("type", .str "peer_joined"), ("peer_id", .str "abc")])]).map
      (·.state.peers.keys) = some [.str "abc"] ∧
    (useP2P.run {} P2PHook.init [.conn .connect, .conn (.opened 0),
      .message 0 (.obj [("type", .str "peer_joined"), ("peer_id", .str "abc")]),
      .settle 1 (.ok ⟨200, .ok (.arr [])⟩)]).map (·.state.peers.keys) = some [] :=
  ⟨rfl, rfl⟩

/-- **Workloads are lost only to a REST snapshot.** Every event of `useOrchestrator` keeps the
key of every stored workload, except the response to a `fetchWorkloads` request settling, which
replaces the store. -/
theorem useOrchestrator.step_keeps_workloads {cfg : Config} {h h' : OrchestratorHook}
    {e : OrchestratorEvent} (hst : useOrchestrator.step cfg h e = some h')
    (he : ∀ k result req, e = .settle k result → h.requests[k]? = some req →
      req.isWorkloadsSnapshot = false) :
    h.state.workloads.keys ⊆ h'.state.workloads.keys := by
  cases e with
  | conn e =>
    cases hst
    rw [useOrchestrator.foldl_react_workloads]
    exact List.Subset.refl _
  | message i frame =>
    simp only [useOrchestrator.step] at hst
    split at hst
    · obtain ⟨s', hu, rfl⟩ := useOrchestrator.apply_eq_some hst
      exact (useOrchestrator.onmessage_stores hu).1.keys
    · cases hst; exact List.Subset.refl _
  | settle k result =>
    simp only [useOrchestrator.step] at hst
    split at hst
    · next req hreq =>
      exact (useOrchestrator.settled_workloads (he k result req rfl hreq) hst :
        { h with requests := h.requests.eraseIdx k }.state.workloads.keys ⊆ _)
    · cases hst; exact List.Subset.refl _
  | _ => cases hst; exact List.Subset.refl _

/-- Socket 0 opens, workload `w1` is created by a frame, then the `fetchNodes` response of the
hydration settles: `w1` stays. -/
theorem nodes_response_keeps_workload :
    ∃ h h', useOrchestrator.Reachable {} h ∧
      useOrchestrator.step {} h (.settle 1 (.ok ⟨200, .ok (.arr [])⟩)) = some h' ∧
      h.state.workloads.keys = [.str "w1"] ∧
      (∀ k result req, OrchestratorEvent.settle 1 (.ok ⟨200, .ok (.arr [])⟩) = .settle k result →
        h.requests[k]? = some req → req.isWorkloadsSnapshot = false) ∧
      h.state.workloads.keys ⊆ h'.state.workloads.keys := by
  have hr := useOrchestrator.Reachable.init.run
    (show useOrchestrator.run {} OrchestratorHook.init [.conn .connect, .conn (.opened 0),
      .message 0 (.obj [("type", .str "workload_created"), ("data", .obj [("id", .str "w1")])])] =
      some _ from rfl)
  refine ⟨_, _, hr, rfl, rfl, ?_, @useOrchestrator.step_keeps_workloads {} _ _
    (.settle 1 (.ok ⟨200, .ok (.arr [])⟩)) rfl ?_⟩ <;>
    rintro k result req ⟨⟩ ⟨⟩ <;> rfl

/-! ## Frames a hook cannot use -/

/-- A frame on an open socket ends `useP2P` exactly when the updater it produces throws. -/
theorem useP2P.step_message_eq_none {cfg : Config} {h : P2PHook} {i : Nat} {frame : JsVal} :
    useP2P.step cfg h (.message i frame) = none ↔
      h.conn.sockets[i]? = some .open ∧ ∃ e, useP2P.onmessage frame h.state = .error e := by
  simp only [useP2P.step, useP2P.apply]
  split
  · next ho => cases useP2P.onmessage frame h.state <;> simp [ho, Except.toOption]
  · next ho => simp [ho]

/-- A frame on an open socket ends `useOrchestrator` exactly when the updater it produces
throws. -/
theorem useOrchestrator.step_message_eq_none {cfg : Config} {h : OrchestratorHook} {i : Nat}
    {frame : JsVal} :
    useOrchestrator.step cfg h (.message i frame) = none ↔
      h.conn.sockets[i]? = some .open ∧
        ∃ e, useOrchestrator.onmessage frame h.state = .error e := by
  simp only [useOrchestrator.step, useOrchestrator.apply]
  split
  · next ho => cases useOrchestrator.onmessage frame h.state <;> simp [ho, Except.toOption]
  · next ho => simp [ho]

/-- Unknown tags are ignored: a frame whose `type` is none of the tags a hook handles leaves
the hook as it was, whatever else the frame holds. -/
theorem unknown_tags_ignored {cfg : Config} (hp : P2PHook) (ho : OrchestratorHook) (i : Nat)
    (frame : JsVal) :
    ((∀ tag ∈ ["peers_list", "peer_joined", "peer_left", "chat_message"],
        frame.getOpt "type" ≠ .str tag) → useP2P.step cfg hp (.message i frame) = some hp) ∧
    ((∀ tag ∈ ["workload_list", "workload_created", "workload_updated", "workload_completed",
        "workload_failed", "node_list", "node_status", "node_joined", "node_left",
        "cluster_metrics"], frame.getOpt "type" ≠ .str tag) →
      useOrchestrator.step cfg ho (.message i frame) = some ho) := by
  constructor
  · intro h
    simp only [useP2P.step, useP2P.apply, useP2P.onmessage_of_unknown_type h]
    split <;> rfl
  · intro h
    simp only [useOrchestrator.step, useOrchestrator.apply,
      useOrchestrator.onmessage_of_unknown_type h]
    split <;> rfl

/- A `workload_progress` frame on an open socket: `useOrchestrator`'s filter lets it through,
and neither hook handles it. -/
example :
    ∃ hp ho, useP2P.Reachable {} hp ∧ useOrchestrator.Reachable {} ho ∧
      hp.conn.sockets[0]? = some .open ∧ ho.conn.sockets[0]? = some .open ∧
      useP2P.step {} hp (.message 0 (.obj [("type", .str "workload_progress")])) = some hp ∧
      useOrchestrator.step {} ho (.message 0 (.obj [("type", .str "workload_progress")])) =
        some ho :=
  have hrp := useP2P.Reachable.init.run
    (show useP2P.run {} P2PHook.init [.conn .connect, .conn (.opened 0)] = some _ from rfl)
  have hro := useOrchestrator.Reachable.init.run
    (show useOrchestrator.run {} OrchestratorHook.init [.conn .connect, .conn (.opened 0)] =
      some _ from rfl)
  ⟨_, _, hrp, hro, rfl, rfl, (unknown_tags_ignored _ OrchestratorHook.init 0 _).1 (by decide),
    (unknown_tags_ignored P2PHook.init _ 0 _).2 (by decide)⟩

/-- `{type: 'peers_list', peers: [null]}` makes the updater read `null.id`, and
`{type: 'workload_created'}` makes it read `undefined.id`: both hooks end. -/
theorem unusable_frames_crash :
    useP2P.run {} P2PHook.init [.conn .connect, .conn (.opened 0),
      .message 0 (.obj [("type", .str "peers_list"), ("peers", .arr [.null])])] = none ∧
    useOrchestrator.run {} OrchestratorHook.init [.conn .connect, .conn (.opened 0),
      .message 0 (.obj [("type", .str "workload_created")])] = none :=
  ⟨rfl, rfl⟩

end Mycelial
