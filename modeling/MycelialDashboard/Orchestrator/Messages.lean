import MycelialDashboard.Js.Map
import Mathlib.Logic.Basic

/-!
# The data plane of `useOrchestrator`

`OrchestratorState` is the hook's `useState`; its workloads and nodes are `Map`s of whatever the
frames and responses hold, keyed by their `id` and `nodeId` fields without a check.

`handleMessage` returns the updater of a frame's tag; `onmessage` first filters frames by tag
(`isOrchestratorEvent`), inside the same `try`. `fetchWorkloads` and `fetchNodes` are one
function, `fetchCollection`, at their own endpoint label, field and key; with
`fetchClusterMetrics` they end in `settleWith`: on success the update and `error: null`, on a
failure `error: msg` and the rethrown message. `createWorkload`, `cancelWorkload` and
`retryWorkload` are the three workload commands once their POST settles. All six make one check
of the response, `checkResponse`, with their own text: a failure is the network's, or names the
request and the status (`checkResponse_eq_error`).

`handleMessage_stores` says once what a frame's updater does: it upserts workloads, upserts or
deletes nodes, and writes nothing but the stores and the metrics. `Keyed` (each entity under its
own identifier) and `Upserts.keys` (no updater drops a key) follow from it,
and so does `onmessage_connected`: no frame writes `connected`, and neither does a REST path.
`upsertAll_last_wins` is what the list loop of the list frames and the REST fetches computes:
under each key, the last element listed with it.
`node_left_undoes_node_upsert`: a node upserted and then removed by its `nodeId` leaves the
state as it was.
-/

namespace Mycelial

/-- `OrchestratorState`. -/
structure OrchestratorState where
  connected : Bool
  loading : Bool
  error : Option String
  workloads : JsMap JsVal
  nodes : JsMap JsVal
  clusterMetrics : JsVal
  deriving DecidableEq, Repr

/-- The state `useState` starts from. -/
def OrchestratorState.init : OrchestratorState :=
  ⟨false, false, none, .empty, .empty, .null⟩

/-- A function passed to `setState`. -/
abbrev OrchestratorUpdater := OrchestratorState → Except TypeError OrchestratorState

namespace useOrchestrator

/-- The loop `for (const x of list) map.set(x[key], x)` of the list tags and the REST fetches. -/
def upsertAll (key : String) : JsMap JsVal → List JsVal → Except TypeError (JsMap JsVal)
  | m, [] => .ok m
  | m, x :: xs => do upsertAll key (m.set (← x.get key) x) xs

/-- The `workload_list` updater. -/
def workloadListUpdate (workloads : JsVal) : OrchestratorUpdater := fun s => do
  pure { s with workloads := ← upsertAll "id" s.workloads (← workloads.iterate) }

/-- The updater of `workload_created`, `workload_updated`, `workload_completed` and
`workload_failed`. -/
def workloadUpdate (workload : JsVal) : OrchestratorUpdater := fun s => do
  pure { s with workloads := s.workloads.set (← workload.get "id") workload }

/-- The `node_list` updater. -/
def nodeListUpdate (nodes : JsVal) : OrchestratorUpdater := fun s => do
  pure { s with nodes := ← upsertAll "nodeId" s.nodes (← nodes.iterate) }

/-- The updater of `node_status` and `node_joined`. -/
def nodeUpdate (node : JsVal) : OrchestratorUpdater := fun s => do
  pure { s with nodes := s.nodes.set (← node.get "nodeId") node }

/-- The `node_left` updater. -/
def nodeLeftUpdate (nodeId : JsVal) : OrchestratorUpdater := fun s =>
  .ok { s with nodes := s.nodes.delete nodeId }

/-- The `cluster_metrics` updater. -/
def clusterMetricsUpdate (metrics : JsVal) : OrchestratorUpdater := fun s =>
  .ok { s with clusterMetrics := metrics }

/-- `handleMessage`: the updater of a frame's tag, `none` for any other tag, or the `TypeError`
it throws first. The `switch` compares the tag with its `case` labels in order, by `===`.
`node_left` reads `data.nodeId` before `setState`. -/
def handleMessage (event : JsVal) : Except TypeError (Option OrchestratorUpdater) := do
  let type ← event.get "type"
  if type = .str "workload_list" then
    pure (some (workloadListUpdate ((← event.get "data").or (.arr []))))
  else if type = .str "workload_created" ∨ type = .str "workload_updated" then
    pure (some (workloadUpdate (← event.get "data")))
  else if type = .str "workload_completed" ∨ type = .str "workload_failed" then
    pure (some (workloadUpdate (← event.get "data")))
  else if type = .str "node_list" then
    pure (some (nodeListUpdate ((← event.get "data").or (.arr []))))
  else if type = .str "node_status" ∨ type = .str "node_joined" then
    pure (some (nodeUpdate (← event.get "data")))
  else if type = .str "node_left" then
    pure (some (nodeLeftUpdate (← (← event.get "data").get "nodeId")))
  else if type = .str "cluster_metrics" then
    pure (some (clusterMetricsUpdate (← event.get "data")))
  else pure none

/-- `t?.startsWith(pre)`: `undefined` on `null` and `undefined`, a `TypeError` on a value with
no `startsWith`. A string starts with `pre` when its characters do. -/
def startsWithOpt (t : JsVal) (pre : String) : Except TypeError Bool :=
  match t with
  | .undefined | .null => .ok false
  | .str s => .ok (pre.toList.isPrefixOf s.toList)
  | v => .error (.notFunction v "startsWith")

/-- The test `onmessage` makes before `handleMessage`. -/
def isOrchestratorEvent (message : JsVal) : Except TypeError Bool := do
  let t ← message.get "type"
  if ← startsWithOpt t "workload_" then pure true
  else if ← startsWithOpt t "node_" then pure true
  else pure (t == .str "cluster_metrics" || t == .str "workload_list" || t == .str "node_list")

/-- `ws.onmessage` on a frame `JSON.parse` accepted, then React running the updater. -/
def onmessage (message : JsVal) (s : OrchestratorState) : Except TypeError OrchestratorState :=
  match (do if ← isOrchestratorEvent message then handleMessage message else pure none) with
  | .ok (some update) => update s
  | _ => .ok s

/-- A frame whose `type` is none of the ten tags changes nothing, whatever else it holds: the
filter lets `workload_` and `node_` tags through, and `handleMessage` ignores the others. -/
theorem onmessage_of_unknown_type {frame : JsVal}
    (h : ∀ tag ∈ ["workload_list", "workload_created", "workload_updated", "workload_completed",
      "workload_failed", "node_list", "node_status", "node_joined", "node_left",
      "cluster_metrics"], frame.getOpt "type" ≠ .str tag) (s : OrchestratorState) :
    onmessage frame s = .ok s := by
  unfold onmessage
  split
  · next u hu =>
    obtain ⟨b, -, hu⟩ := except_bind_eq_ok.mp hu
    split at hu
    · unfold handleMessage at hu
      obtain ⟨t, ht, hu⟩ := except_bind_eq_ok.mp hu
      rw [JsVal.getOpt_of_get ht] at h
      simp only [List.mem_cons, List.mem_singleton, forall_eq_or_imp, List.not_mem_nil,
        false_implies, implies_true, and_true] at h
      simp [h] at hu
    · cases hu
  · rfl

/-- A `workload_created` frame sets its `data` under the value of the `id` field, whatever that
holds. -/
theorem onmessage_workload_created (fs : List (String × JsVal)) (s : OrchestratorState) :
    onmessage (.obj [("type", .str "workload_created"), ("data", .obj fs)]) s =
      .ok { s with workloads := s.workloads.set (JsVal.field fs "id") (.obj fs) } := rfl

/-- A `node_joined` frame sets its `data` under the value of the `nodeId` field, whatever that
holds. -/
theorem onmessage_node_joined (fs : List (String × JsVal)) (s : OrchestratorState) :
    onmessage (.obj [("type", .str "node_joined"), ("data", .obj fs)]) s =
      .ok { s with nodes := s.nodes.set (JsVal.field fs "nodeId") (.obj fs) } := rfl

/-! ## REST -/

/-- What a REST helper does once its request settles: on success, its update and `error: null`;
on a failure, `error` set to the message, which it rethrows. -/
def settleWith {α : Type} (r : Except String α)
    (apply : α → OrchestratorState → OrchestratorState) :
    (OrchestratorState → OrchestratorState) × Option String :=
  match r with
  | .ok a => (fun s => { apply a s with error := none }, none)
  | .error msg => (fun s => { s with error := some msg }, some msg)

/-- `const response = await fetch(...)`, then
`if (!response.ok) throw new Error(`Failed to ${what}: ${response.status}`)`: the check every
REST path of the hook makes of its response. -/
def checkResponse (what : String) (result : FetchResult) : Except String Response := do
  let response ← result
  if !response.ok then throw s!"Failed to {what}: {response.status}"
  pure response

/-- The work of `fetchWorkloads` (`label` and `field` "workloads", `key` "id") and of
`fetchNodes` ("nodes", "nodes", "nodeId") once the request settles: the new map, or the message
of what it throws. -/
def fetchCollection (label field key : String) (result : FetchResult) :
    Except String (JsMap JsVal) := do
  let response ← checkResponse s!"fetch {label}" result
  let data ← response.json
  Except.mapError TypeError.message do
    let list ← match data with
      | .arr _ => pure data
      | _ => pure ((← data.get field).or (.arr []))
    upsertAll key .empty (← list.iterate)

/-- `fetchWorkloads` once its request settles. -/
def fetchWorkloads (result : FetchResult) :
    (OrchestratorState → OrchestratorState) × Option String :=
  settleWith (fetchCollection "workloads" "workloads" "id" result) fun workloads s =>
    { s with workloads }

/-- `fetchNodes` once its request settles. -/
def fetchNodes (result : FetchResult) :
    (OrchestratorState → OrchestratorState) × Option String :=
  settleWith (fetchCollection "nodes" "nodes" "nodeId" result) fun nodes s => { s with nodes }

/-- `fetchClusterMetrics` once its request settles: `data.cluster || data`. -/
def fetchClusterMetrics (result : FetchResult) :
    (OrchestratorState → OrchestratorState) × Option String :=
  settleWith (do
      let response ← checkResponse "fetch cluster metrics" result
      let data ← response.json
      Except.mapError TypeError.message do pure ((← data.get "cluster").or data))
    fun clusterMetrics s => { s with clusterMetrics }

/-- The check `createWorkload` makes of its POST's response, and the body it reads. -/
def createResponse (result : FetchResult) : Except String JsVal := do
  (← checkResponse "create workload" result).json

/-- `createWorkload` once its POST settles: the updater that sets the server's workload under
its `id`, read when React runs it, or the error update. -/
def createWorkload (result : FetchResult) : OrchestratorUpdater :=
  match createResponse result with
  | .ok newWorkload => fun s => do
    pure { s with workloads := s.workloads.set (← newWorkload.get "id") newWorkload }
  | .error msg => fun s => .ok { s with error := some msg }

/-- The optimistic update of `cancelWorkload` (`fields` `status: 'cancelled'`) and of
`retryWorkload` (`status: 'pending', progress: 0`): a workload found under the id is replaced
by a copy with those fields. -/
def patchWorkload (fields : List (String × JsVal)) (workloadId : String)
    (workloads : JsMap JsVal) : JsMap JsVal :=
  match workloads.get? (.str workloadId) with
  | some workload =>
    if workload.truthy then workloads.set (.str workloadId) (.obj (fields ++ workload.spread))
    else workloads
  | none => workloads

/-- The check a workload command makes of its POST's response: the message it throws. -/
def commandCheck (verb : String) (result : FetchResult) : Except String Unit :=
  discard (checkResponse s!"{verb} workload" result)

/-- A workload command's POST once it settles: the optimistic update, or the error update. The
message goes to the caller. -/
def command (verb : String) (fields : List (String × JsVal)) (workloadId : String)
    (result : FetchResult) : OrchestratorState → OrchestratorState :=
  match commandCheck verb result with
  | .ok () => fun s => { s with workloads := patchWorkload fields workloadId s.workloads }
  | .error msg => fun s => { s with error := some msg }

/-- `cancelWorkload` once its POST settles. -/
def cancelWorkload (workloadId : String) (result : FetchResult) :
    OrchestratorState → OrchestratorState :=
  command "cancel" [("status", .str "cancelled")] workloadId result

/-- `retryWorkload` once its POST settles. -/
def retryWorkload (workloadId : String) (result : FetchResult) :
    OrchestratorState → OrchestratorState :=
  command "retry" [("progress", .num 0), ("status", .str "pending")] workloadId result

/-! ## Failed requests -/

/-- A REST path throws the network failure, or, on a response that is not `ok`, a message that
names the request and the status. -/
theorem checkResponse_eq_error {what : String} {result : FetchResult} {msg : String} :
    checkResponse what result = .error msg ↔ result = .error msg ∨
      ∃ r, result = .ok r ∧ r.ok = false ∧ msg = s!"Failed to {what}: {r.status}" := by
  cases result with
  | error e => simp [checkResponse]
  | ok r =>
    cases hr : r.ok <;> simp [checkResponse, hr]
    exact ⟨fun h => (Except.error.inj h).symm, fun h => h ▸ rfl⟩

/-! ## What the updaters do to the stores

An updater keeps a store, sets one entity under the identifier read off it, or runs the list
loop over it (`Upserts`); `node_left` deletes a node (`handleMessage_stores`). Hence `Keyed`: each
store entry is kept under the identifier read off the entity when it was stored, and every
updater keeps that so. Hence also that no updater drops a key (`Upserts.keys`). -/

/-- What an update may do to a store keyed by `key`: keep it, set an entity under its `key`
field, or run the list loop over it. -/
def Upserts (key : String) (m m' : JsMap JsVal) : Prop :=
  m' = m ∨ (∃ k x, x.getOpt key = k ∧ m' = m.set k x) ∨ ∃ xs, upsertAll key m xs = .ok m'

/-- Every entry of `m` is stored under its own `key` field. -/
structure KeyedBy (key : String) (m : JsMap JsVal) : Prop where
  own : ∀ e ∈ m, e.2.getOpt key = e.1

/-- The workloads are stored under their `id`, the nodes under their `nodeId`. -/
structure Keyed (s : OrchestratorState) : Prop where
  workloads : KeyedBy "id" s.workloads
  nodes : KeyedBy "nodeId" s.nodes

theorem KeyedBy.nil (key : String) : KeyedBy key .empty :=
  ⟨fun e h => absurd h (JsMap.not_mem_empty e)⟩

theorem KeyedBy.set {key : String} {m : JsMap JsVal} {k x : JsVal} (hm : KeyedBy key m)
    (hx : x.getOpt key = k) : KeyedBy key (m.set k x) :=
  ⟨fun e he => (JsMap.mem_set he).elim (hm.own e) fun h => by subst h; exact hx⟩

theorem KeyedBy.delete {key : String} {m : JsMap JsVal} (hm : KeyedBy key m) (k : JsVal) :
    KeyedBy key (m.delete k) :=
  ⟨fun e he => hm.own e (JsMap.mem_delete.mp he).1⟩

theorem upsertAll_keyedBy {key : String} :
    ∀ {m m' : JsMap JsVal} {xs : List JsVal}, KeyedBy key m → upsertAll key m xs = .ok m' →
      KeyedBy key m'
  | _, _, [], hm, h => by cases h; exact hm
  | _, _, _ :: _, hm, h => by
    obtain ⟨k, hk, h⟩ := except_bind_eq_ok.mp h
    exact upsertAll_keyedBy (hm.set (JsVal.getOpt_of_get hk)) h

theorem KeyedBy.upserts {key : String} {m m' : JsMap JsVal} (hm : KeyedBy key m) :
    Upserts key m m' → KeyedBy key m'
  | .inl h => h ▸ hm
  | .inr (.inl ⟨_, _, hx, h⟩) => h ▸ hm.set hx
  | .inr (.inr ⟨_, h⟩) => upsertAll_keyedBy hm h

theorem upsertAll_keys {key : String} :
    ∀ {m m' : JsMap JsVal} {xs : List JsVal}, upsertAll key m xs = .ok m' → m.keys ⊆ m'.keys
  | _, _, [], h => by cases h; exact List.Subset.refl _
  | m, _, _ :: _, h => by
    obtain ⟨k, -, h⟩ := except_bind_eq_ok.mp h
    exact List.Subset.trans (JsMap.keys_subset_set m k _) (upsertAll_keys h)

/-- **The list loop keeps the last entity listed under each key.** After
`for (const x of xs) map.set(x[key], x)`, a key reads the last element of `xs` whose `key` field
is that key, or, if there is none, what it read before. -/
theorem upsertAll_last_wins {key : String} :
    ∀ {m m' : JsMap JsVal} {xs : List JsVal}, upsertAll key m xs = .ok m' →
      ∀ k, m'.get? k = (xs.reverse.find? fun x => (x.getOpt key).sameKey k).or (m.get? k)
  | _, _, [], h, k => by cases h; rfl
  | m, _, x :: xs, h, k => by
    obtain ⟨kx, hkx, h⟩ := except_bind_eq_ok.mp h
    rw [upsertAll_last_wins h k, JsMap.get?_set, List.reverse_cons, List.find?_append,
      Option.or_assoc]
    congr 1
    by_cases hk : kx.sameKey k <;> simp [hk, JsVal.getOpt_of_get hkx]

/-- A list naming workload `w` twice: the second one is stored. -/
theorem upsertAll_duplicate_id :
    ∃ m', upsertAll "id" .empty [.obj [("id", .str "w"), ("p", .num 1)],
        .obj [("id", .str "w"), ("p", .num 2)]] = .ok m' ∧
      m'.get? (.str "w") = some (.obj [("id", .str "w"), ("p", .num 2)]) ∧
      ∀ k, m'.get? k = ([JsVal.obj [("id", .str "w"), ("p", .num 1)],
        .obj [("id", .str "w"), ("p", .num 2)]].reverse.find? fun x =>
          (x.getOpt "id").sameKey k).or (JsMap.empty.get? k) :=
  ⟨_, rfl, rfl, upsertAll_last_wins rfl⟩

/-- An upsert drops no key. -/
theorem Upserts.keys {key : String} {m m' : JsMap JsVal} : Upserts key m m' → m.keys ⊆ m'.keys
  | .inl h => h ▸ List.Subset.refl _
  | .inr (.inl ⟨k, x, _, h⟩) => h ▸ JsMap.keys_subset_set m k x
  | .inr (.inr ⟨_, h⟩) => upsertAll_keys h

/-- Every updater `handleMessage` returns is one of the seven. -/
theorem handleMessage_updater {ev : JsVal} {u : OrchestratorUpdater}
    (h : handleMessage ev = .ok (some u)) :
    ∃ x, u = workloadListUpdate x ∨ u = workloadUpdate x ∨ u = nodeListUpdate x ∨
      u = nodeUpdate x ∨ u = nodeLeftUpdate x ∨ u = clusterMetricsUpdate x := by
  unfold handleMessage at h
  obtain ⟨t, -, h⟩ := except_bind_eq_ok.mp h
  rcases ite_eq_iff.mp h with ⟨-, h⟩ | ⟨-, h⟩
  · obtain ⟨d, -, ⟨⟩⟩ := except_bind_eq_ok.mp h; exact ⟨_, .inl rfl⟩
  rcases ite_eq_iff.mp h with ⟨-, h⟩ | ⟨-, h⟩
  · obtain ⟨d, -, ⟨⟩⟩ := except_bind_eq_ok.mp h; exact ⟨_, .inr (.inl rfl)⟩
  rcases ite_eq_iff.mp h with ⟨-, h⟩ | ⟨-, h⟩
  · obtain ⟨d, -, ⟨⟩⟩ := except_bind_eq_ok.mp h; exact ⟨_, .inr (.inl rfl)⟩
  rcases ite_eq_iff.mp h with ⟨-, h⟩ | ⟨-, h⟩
  · obtain ⟨d, -, ⟨⟩⟩ := except_bind_eq_ok.mp h; exact ⟨_, .inr (.inr (.inl rfl))⟩
  rcases ite_eq_iff.mp h with ⟨-, h⟩ | ⟨-, h⟩
  · obtain ⟨d, -, ⟨⟩⟩ := except_bind_eq_ok.mp h; exact ⟨_, .inr (.inr (.inr (.inl rfl)))⟩
  rcases ite_eq_iff.mp h with ⟨-, h⟩ | ⟨-, h⟩
  · -- `node_left` reads `data`, then `data.nodeId`
    obtain ⟨d, -, h⟩ := except_bind_eq_ok.mp h
    obtain ⟨k, -, ⟨⟩⟩ := except_bind_eq_ok.mp h
    exact ⟨_, .inr (.inr (.inr (.inr (.inl rfl))))⟩
  rcases ite_eq_iff.mp h with ⟨-, h⟩ | ⟨-, h⟩
  · obtain ⟨d, -, ⟨⟩⟩ := except_bind_eq_ok.mp h
    exact ⟨_, .inr (.inr (.inr (.inr (.inr rfl))))⟩
  · cases h

variable {s s' : OrchestratorState}

/-- **What a frame's updater does.** It upserts workloads, upserts or deletes nodes, and writes
nothing but the two stores and the metrics. -/
theorem handleMessage_stores {ev : JsVal} {u : OrchestratorUpdater}
    (hu : handleMessage ev = .ok (some u)) (h : u s = .ok s') :
    Upserts "id" s.workloads s'.workloads ∧
      (Upserts "nodeId" s.nodes s'.nodes ∨ ∃ k, s'.nodes = s.nodes.delete k) ∧
      s' = { s with workloads := s'.workloads, nodes := s'.nodes,
                    clusterMetrics := s'.clusterMetrics } := by
  obtain ⟨x, rfl | rfl | rfl | rfl | rfl | rfl⟩ := handleMessage_updater hu
  · obtain ⟨xs, -, h⟩ := except_bind_eq_ok.mp h
    obtain ⟨m, hm, ⟨⟩⟩ := except_bind_eq_ok.mp h
    exact ⟨.inr (.inr ⟨_, hm⟩), .inl (.inl rfl), rfl⟩
  · obtain ⟨k, hk, ⟨⟩⟩ := except_bind_eq_ok.mp h
    exact ⟨.inr (.inl ⟨_, _, JsVal.getOpt_of_get hk, rfl⟩), .inl (.inl rfl), rfl⟩
  · obtain ⟨xs, -, h⟩ := except_bind_eq_ok.mp h
    obtain ⟨m, hm, ⟨⟩⟩ := except_bind_eq_ok.mp h
    exact ⟨.inl rfl, .inl (.inr (.inr ⟨_, hm⟩)), rfl⟩
  · obtain ⟨k, hk, ⟨⟩⟩ := except_bind_eq_ok.mp h
    exact ⟨.inl rfl, .inl (.inr (.inl ⟨_, _, JsVal.getOpt_of_get hk, rfl⟩)), rfl⟩
  · cases h; exact ⟨.inl rfl, .inr ⟨x, rfl⟩, rfl⟩
  · cases h; exact ⟨.inl rfl, .inl (.inl rfl), rfl⟩

theorem onmessage_stores {ev : JsVal} (h : onmessage ev s = .ok s') :
    Upserts "id" s.workloads s'.workloads ∧
      (Upserts "nodeId" s.nodes s'.nodes ∨ ∃ k, s'.nodes = s.nodes.delete k) ∧
      s' = { s with workloads := s'.workloads, nodes := s'.nodes,
                    clusterMetrics := s'.clusterMetrics } := by
  unfold onmessage at h
  split at h
  · next u hu =>
    obtain ⟨b, -, hu⟩ := except_bind_eq_ok.mp hu
    split at hu
    · exact handleMessage_stores hu h
    · cases hu
  · cases h; exact ⟨.inl rfl, .inl (.inl rfl), rfl⟩

theorem onmessage_keyed {ev : JsVal} (hs : Keyed s) (h : onmessage ev s = .ok s') : Keyed s' := by
  obtain ⟨hw, hn | ⟨k, hk⟩, -⟩ := onmessage_stores h
  · exact ⟨hs.workloads.upserts hw, hs.nodes.upserts hn⟩
  · exact ⟨hs.workloads.upserts hw, hk ▸ hs.nodes.delete k⟩

theorem fetchCollection_keyedBy {label field key : String} {result : FetchResult}
    {m : JsMap JsVal} (h : fetchCollection label field key result = .ok m) : KeyedBy key m := by
  obtain ⟨r, -, h⟩ := except_bind_eq_ok.mp h
  obtain ⟨data, -, h⟩ := except_bind_eq_ok.mp h
  have h := except_mapError_eq_ok h
  split at h
  · obtain ⟨_, -, h⟩ := except_bind_eq_ok.mp h
    obtain ⟨xs, -, h⟩ := except_bind_eq_ok.mp h
    exact upsertAll_keyedBy (.nil key) h
  · obtain ⟨_, -, h⟩ := except_bind_eq_ok.mp h
    obtain ⟨_, -, h⟩ := except_bind_eq_ok.mp h
    obtain ⟨xs, -, h⟩ := except_bind_eq_ok.mp h
    exact upsertAll_keyedBy (.nil key) h

theorem settleWith_keyed {α : Type} {r : Except String α}
    {apply : α → OrchestratorState → OrchestratorState}
    (happly : ∀ a, r = .ok a → ∀ s, Keyed s → Keyed (apply a s)) (hs : Keyed s) :
    Keyed ((settleWith r apply).1 s) := by
  cases r with
  | ok a => exact ⟨(happly a rfl s hs).1, (happly a rfl s hs).2⟩
  | error _ => exact ⟨hs.1, hs.2⟩

/-- `createWorkload`'s updater stores the server's workload under its `id`. -/
theorem createWorkload_upserts {result : FetchResult} (h : createWorkload result s = .ok s') :
    Upserts "id" s.workloads s'.workloads ∧ s'.nodes = s.nodes := by
  revert h
  unfold createWorkload
  cases createResponse result with
  | ok w =>
    intro h
    obtain ⟨k, hk, ⟨⟩⟩ := except_bind_eq_ok.mp h
    exact ⟨.inr (.inl ⟨_, _, JsVal.getOpt_of_get hk, rfl⟩), rfl⟩
  | error _ => rintro ⟨⟩; exact ⟨.inl rfl, rfl⟩

theorem createWorkload_keyed {result : FetchResult} (hs : Keyed s)
    (h : createWorkload result s = .ok s') : Keyed s' :=
  ⟨hs.workloads.upserts (createWorkload_upserts h).1, (createWorkload_upserts h).2 ▸ hs.nodes⟩

/-- The optimistic update keeps each workload under its `id`, as long as the fields it writes
do not include `id`. -/
theorem patchWorkload_keyedBy {fields : List (String × JsVal)}
    (hf : ∀ p ∈ fields, p.1 ≠ "id") (workloadId : String) {m : JsMap JsVal}
    (hm : KeyedBy "id" m) :
    KeyedBy "id" (patchWorkload fields workloadId m) := by
  unfold patchWorkload
  split
  · next workload hw =>
    split
    · obtain ⟨k', hk', hmem⟩ := JsMap.mem_of_get? hw
      have hid : workload.getOpt "id" = .str workloadId :=
        (hm.own _ hmem).trans (JsVal.eq_of_sameKey hk')
      refine hm.set ?_
      cases workload with
      | obj fs => rwa [JsVal.getOpt_obj, JsVal.field_append_of_forall_ne hf]
      | _ => cases hid
    · exact hm
  · exact hm

theorem command_keyed {verb : String} {fields : List (String × JsVal)}
    (hf : ∀ p ∈ fields, p.1 ≠ "id") (workloadId : String) (result : FetchResult)
    (hs : Keyed s) :
    Keyed (command verb fields workloadId result s) := by
  unfold command
  cases commandCheck verb result with
  | ok _ => exact ⟨patchWorkload_keyedBy hf workloadId hs.workloads, hs.nodes⟩
  | error _ => exact ⟨hs.1, hs.2⟩

/-- The optimistic update replaces a workload already there, or nothing: the keys stay. -/
theorem patchWorkload_keys (fields : List (String × JsVal)) (workloadId : String)
    (m : JsMap JsVal) : (patchWorkload fields workloadId m).keys = m.keys := by
  unfold patchWorkload
  split
  · next workload hw =>
    split
    · obtain ⟨k', hk', hmem⟩ := JsMap.mem_of_get? hw
      exact JsMap.keys_set_of_has (List.any_eq_true.mpr ⟨_, hmem, hk'⟩) _
    · rfl
  · rfl

theorem command_keys (verb : String) (fields : List (String × JsVal)) (workloadId : String)
    (result : FetchResult) (s : OrchestratorState) :
    (command verb fields workloadId result s).workloads.keys = s.workloads.keys := by
  unfold command
  cases commandCheck verb result with
  | ok _ => exact patchWorkload_keys fields workloadId s.workloads
  | error _ => rfl

/-! ## `connected`

Only the socket handlers write `connected`: no frame's updater does, and no REST path. -/

theorem onmessage_connected {ev : JsVal} (h : onmessage ev s = .ok s') :
    s'.connected = s.connected := by
  rw [(onmessage_stores h).2.2]

theorem createWorkload_connected {result : FetchResult} (h : createWorkload result s = .ok s') :
    s'.connected = s.connected := by
  revert h
  unfold createWorkload
  cases createResponse result with
  | ok w => intro h; obtain ⟨k, -, ⟨⟩⟩ := except_bind_eq_ok.mp h; rfl
  | error _ => rintro ⟨⟩; rfl

theorem command_connected (verb : String) (fields : List (String × JsVal)) (workloadId : String)
    (result : FetchResult) (s : OrchestratorState) :
    (command verb fields workloadId result s).connected = s.connected := by
  unfold command
  rcases commandCheck verb result with _ | ⟨⟩ <;> rfl

/-! ## Joining and leaving -/

/-- **`node_left` undoes an upsert of a node.** From a store without the key, a `node_joined` or
`node_status` frame carrying a node whose `nodeId` is the string `k`, or a `node_list` frame
listing only that node, followed by `{type: 'node_left', data: {nodeId: k}}`, gives the state
back. -/
theorem node_left_undoes_node_upsert {s : OrchestratorState} {node : JsVal} {k : String}
    (hid : node.get "nodeId" = .ok (.str k)) (habs : s.nodes.has (.str k) = false) :
    ∀ frame ∈ [JsVal.obj [("type", .str "node_joined"), ("data", node)],
        .obj [("type", .str "node_status"), ("data", node)],
        .obj [("type", .str "node_list"), ("data", .arr [node])]],
      (onmessage frame s >>=
        onmessage (.obj [("type", .str "node_left"), ("data", .obj [("nodeId", .str k)])])) =
        .ok s := by
  intro frame hf
  have hup : onmessage frame s = .ok { s with nodes := s.nodes.set (.str k) node } := by
    simp only [List.mem_cons, List.mem_singleton, List.not_mem_nil, or_false] at hf
    rcases hf with rfl | rfl | rfl
    · show nodeUpdate node s = _; simp [nodeUpdate, hid]
    · show nodeUpdate node s = _; simp [nodeUpdate, hid]
    · show nodeListUpdate (.arr [node]) s = _; simp [nodeListUpdate, upsertAll, JsVal.iterate, hid]
  rw [hup, except_ok_bind]
  show nodeLeftUpdate (.str k) _ = _
  simp only [nodeLeftUpdate, JsMap.delete_set_of_not_has habs
    (show (JsVal.str k).sameKey (.str k) = true by simp)]

/-- Node `n1` joins, then leaves. -/
theorem node_left_undoes_node_joined_n1 :
    (JsVal.obj [("nodeId", .str "n1"), ("cpu", .num 1)]).get "nodeId" = .ok (.str "n1") ∧
      OrchestratorState.init.nodes.has (.str "n1") = false ∧
      (onmessage (.obj [("type", .str "node_joined"),
          ("data", .obj [("nodeId", .str "n1"), ("cpu", .num 1)])]) OrchestratorState.init >>=
        onmessage (.obj [("type", .str "node_left"), ("data", .obj [("nodeId", .str "n1")])])) =
        .ok OrchestratorState.init :=
  ⟨rfl, rfl, node_left_undoes_node_upsert (by rfl) (by rfl) _ (List.mem_cons_self _ _)⟩

end useOrchestrator

end Mycelial
