import MycelialDashboard.Orchestrator.Hydration
import MycelialDashboard.Connection.Budget

/-!
# `useOrchestrator` as a whole

`OrchestratorHook` is everything the hook holds: the connection refs (`Conn`), the state of
`useState`, the REST requests in flight, the `Promise.all` of every `fetchOrchestratorData` and
the frames it sent. `useOrchestrator.step` runs one event: a call or a browser event of the
connection machine with the hook's reactions to what it did (`react`), a frame on an open
socket, a REST request settling, and the calls the hook exports. It returns `none` when an
updater throws while React renders.

`run_conn` says that on the events of the connection machine the hook's refs are `Conn.run`
and its state the reactions to the actions of that run, in order. `error_of_getLast_exhausted`
is what the last of them leaves in `error` when the budget was found spent.
`Reachable.keyed` says that in every reachable state each workload and each node is stored
under its own `id` or `nodeId` field, with one entry per key.

`step_commandStep` says once what an event other than one of the connection machine does: it
keeps the refs and `connected`, and sends at most one workload command, on an open socket
(`CommandStep`).
-/

namespace Mycelial

/-- A REST request of `useOrchestrator` in flight. -/
inductive OrchestratorRequest
  /-- A request of `fetchOrchestratorData`, in the batch with this index. -/
  | hydrate (r : useOrchestrator.Request) (batch : Nat)
  /-- `fetchWorkloads`, `fetchNodes` or `fetchClusterMetrics` called on its own. -/
  | fetch (r : useOrchestrator.Request)
  | create
  | cancel (workloadId : String)
  | retry (workloadId : String)
  deriving DecidableEq, Repr

/-- A request whose response replaces the workload store: `fetchWorkloads`, on its own or in a
hydration. -/
def OrchestratorRequest.isWorkloadsSnapshot : OrchestratorRequest → Bool
  | .hydrate .workloads _ | .fetch .workloads => true
  | _ => false

/-- Everything `useOrchestrator` holds. -/
structure OrchestratorHook where
  conn : Conn
  state : OrchestratorState
  /-- The requests in flight, in the order they were made. -/
  requests : List OrchestratorRequest
  /-- The `Promise.all` of every `fetchOrchestratorData` called, by call order. -/
  batches : List useOrchestrator.Batch
  /-- The frames sent, with the socket they were sent on. -/
  sent : List (Nat × JsVal)

/-- The hook at mount, before the mount effect runs. -/
def OrchestratorHook.init : OrchestratorHook :=
  ⟨Conn.init, OrchestratorState.init, [], [], []⟩

/-- An event of `useOrchestrator`. -/
inductive OrchestratorEvent
  /-- A call or a browser event of the connection machine. -/
  | conn (e : ConnEvent)
  /-- Open socket `i` delivers a frame that `JSON.parse` accepted. -/
  | message (i : Nat) (frame : JsVal)
  /-- The `k`-th request in flight settles. -/
  | settle (k : Nat) (result : FetchResult)
  /-- `refreshData()`, which is `fetchOrchestratorData`. -/
  | refreshData
  /-- `fetchWorkloads()`, `fetchNodes()` or `fetchClusterMetrics()`. -/
  | fetch (r : useOrchestrator.Request)
  /-- `createWorkload(workload)`; the request body does not reach the state. -/
  | createWorkload
  | cancelWorkload (workloadId : String)
  | retryWorkload (workloadId : String)
  | clearError

namespace useOrchestrator

/-- The `error` that `connect` sets when the budget is spent. -/
def exhaustedMessage (cfg : Config) : String :=
  s!"Connection failed after {cfg.maxReconnectAttempts} attempts. Server may be unavailable."

/-- A call of `fetchOrchestratorData`: its first `setState`, and its three requests in a new
batch. -/
def startHydration (h : OrchestratorHook) : OrchestratorHook :=
  { h with state := hydrationStart h.state, batches := h.batches ++ [⟨3, false⟩],
           requests := h.requests ++ [.hydrate .workloads h.batches.length,
             .hydrate .nodes h.batches.length, .hydrate .clusterMetrics h.batches.length] }

/-- `{ type: 'subscribe', topic }`. -/
def subscribeFrame (topic : String) : JsVal :=
  .obj [("type", .str "subscribe"), ("topic", .str topic)]

/-- What the handlers of `useOrchestrator` do besides the refs, for one action of the
machine. -/
def react (cfg : Config) (h : OrchestratorHook) : Action → OrchestratorHook
  | .exhausted => { h with state := { h.state with connected := false, loading := false,
                                                   error := some (exhaustedMessage cfg) } }
  | .attempt => { h with state := { h.state with loading := true, error := none } }
  | .constructFailed => { h with state := { h.state with loading := false,
                                                         error := some cfg.urlError } }
  | .opened i =>
    let h := startHydration
      { h with state := { h.state with connected := true, loading := false, error := none } }
    { h with sent := h.sent ++ ["orchestrator", "workloads", "nodes", "cluster"].map
                       fun topic => (i, subscribeFrame topic) }
  | .errored _ => { h with state := { h.state with connected := false, loading := false,
                                                   error := some "WebSocket connection failed" } }
  | .closed _ _ => { h with state := { h.state with connected := false } }
  | _ => h

/-- The frame of `sendWorkloadCommand`, `{ type: 'workload_' + command, workloadId, data }`;
`JSON.stringify` leaves out the `undefined` `data`. -/
def commandFrame (command workloadId : String) : JsVal :=
  .obj [("type", .str s!"workload_{command}"), ("workloadId", .str workloadId)]

/-- `sendWorkloadCommand(command, workloadId)`: a frame on `wsRef.current` when it is open. -/
def sendWorkloadCommand (h : OrchestratorHook) (command workloadId : String) : OrchestratorHook :=
  match h.conn.wsRef with
  | some i =>
    if h.conn.sockets[i]? = some .open then
      { h with sent := h.sent ++ [(i, commandFrame command workloadId)] }
    else h
  | none => h

/-- A workload command once its POST settles: its `setState`, then the notification when the
POST succeeded. -/
def commandSettled (h : OrchestratorHook) (verb workloadId : String)
    (update : OrchestratorState → OrchestratorState) (result : FetchResult) : OrchestratorHook :=
  let h := { h with state := update h.state }
  match commandCheck verb result with
  | .ok () => sendWorkloadCommand h verb workloadId
  | .error _ => h

/-- Run an updater; `none` when it throws. -/
def apply (h : OrchestratorHook) (update : OrchestratorUpdater) : Option OrchestratorHook :=
  (update h.state).toOption.map fun s => { h with state := s }

/-- A request in flight settles, once taken off the list. -/
def settled (h : OrchestratorHook) (result : FetchResult) :
    OrchestratorRequest → Option OrchestratorHook
  | .hydrate r n =>
    match h.batches[n]? with
    | some b =>
      let bs := b.settle (r.settle result) h.state
      some { h with batches := h.batches.set n bs.1, state := bs.2 }
    | none => some h
  | .fetch r => some { h with state := (r.settle result).1 h.state }
  | .create => apply h (createWorkload result)
  | .cancel workloadId =>
    some (commandSettled h "cancel" workloadId (cancelWorkload workloadId result) result)
  | .retry workloadId =>
    some (commandSettled h "retry" workloadId (retryWorkload workloadId result) result)

/-- One event; `none` when an updater throws. -/
def step (cfg : Config) (h : OrchestratorHook) : OrchestratorEvent → Option OrchestratorHook
  | .conn e =>
    let r := Conn.step cfg h.conn e
    some (r.2.foldl (react cfg) { h with conn := r.1 })
  | .message i frame =>
    if h.conn.sockets[i]? = some .open then apply h (onmessage frame) else some h
  | .settle k result =>
    match h.requests[k]? with
    | some req => settled { h with requests := h.requests.eraseIdx k } result req
    | none => some h
  | .refreshData => some (startHydration h)
  | .fetch r => some { h with requests := h.requests ++ [.fetch r] }
  | .createWorkload => some { h with requests := h.requests ++ [.create] }
  | .cancelWorkload workloadId => some { h with requests := h.requests ++ [.cancel workloadId] }
  | .retryWorkload workloadId => some { h with requests := h.requests ++ [.retry workloadId] }
  | .clearError => some { h with state := { h.state with error := none } }

/-- A run: the events one after another, `none` once an updater has thrown. -/
def run (cfg : Config) : OrchestratorHook → List OrchestratorEvent → Option OrchestratorHook
  | h, [] => some h
  | h, e :: es => (step cfg h e).bind fun h => run cfg h es

/-- The states a run from mount reaches. -/
inductive Reachable (cfg : Config) : OrchestratorHook → Prop
  | init : Reachable cfg OrchestratorHook.init
  | step {h h' : OrchestratorHook} (e : OrchestratorEvent) :
      Reachable cfg h → step cfg h e = some h' → Reachable cfg h'

/-- What every step keeps, every run keeps. -/
theorem run_preserves {cfg : Config} {P : OrchestratorHook → Prop}
    (hP : ∀ {h h' : OrchestratorHook} {e : OrchestratorEvent}, P h → step cfg h e = some h' →
      P h') :
    ∀ {h h' : OrchestratorHook} {es : List OrchestratorEvent}, P h → run cfg h es = some h' → P h'
  | _, _, [], hp, hs => by cases hs; exact hp
  | h, _, e :: es, hp, hs => by
    cases he : step cfg h e with
    | none => simp [run, he] at hs
    | some h₁ => exact run_preserves hP (hP hp he) (by simpa [run, he] using hs)

theorem Reachable.run {cfg : Config} {h h' : OrchestratorHook} (hr : Reachable cfg h)
    {es : List OrchestratorEvent} (hs : run cfg h es = some h') : Reachable cfg h' :=
  run_preserves (fun hr hs => Reachable.step _ hr hs) hr hs

/-! ## The connection part -/

section
variable (cfg : Config)

theorem react_with_conn (h : OrchestratorHook) (c : Conn) (a : Action) :
    react cfg { h with conn := c } a = { react cfg h a with conn := c } := by
  cases a <;> rfl

theorem foldl_react_with_conn (acts : List Action) (h : OrchestratorHook) (c : Conn) :
    acts.foldl (react cfg) { h with conn := c } = { acts.foldl (react cfg) h with conn := c } := by
  induction acts generalizing h with
  | nil => rfl
  | cons a acts ih => rw [List.foldl_cons, react_with_conn, ih]; rfl

theorem foldl_react_conn (acts : List Action) (h : OrchestratorHook) :
    (acts.foldl (react cfg) h).conn = h.conn := by
  induction acts generalizing h with
  | nil => rfl
  | cons a acts ih => rw [List.foldl_cons, ih]; cases a <;> rfl

/-- **The connection part.** On events of the connection machine the hook never fails, its
refs are those of `Conn.run`, and its state is the reactions to that run's actions in order. -/
theorem run_conn (h : OrchestratorHook) (es : List ConnEvent) :
    run cfg h (es.map .conn) =
      some ((Conn.run cfg h.conn es).2.foldl (react cfg)
        { h with conn := (Conn.run cfg h.conn es).1 }) := by
  induction es generalizing h with
  | nil => rfl
  | cons e es ih =>
    simp only [List.map_cons, run, step, Option.some_bind, ih, foldl_react_conn, Conn.run_cons,
      List.foldl_append, foldl_react_with_conn]

/-- Reacting to a list of actions that ends in `exhausted` leaves the exhaustion message in
`error`. -/
theorem error_of_getLast_exhausted {acts : List Action} (hl : acts.getLast? = some .exhausted)
    (h : OrchestratorHook) :
    (acts.foldl (react cfg) h).state.error = some (exhaustedMessage cfg) := by
  obtain ⟨acts, rfl⟩ := List.getLast?_eq_some_iff.mp hl
  rw [List.foldl_append]
  rfl

/-- Only `onopen` sets `connected`; `onclose`, `onerror` and a spent budget clear it. -/
theorem react_connected (h : OrchestratorHook) (a : Action)
    (hc : (react cfg h a).state.connected = true) :
    (∃ i, a = .opened i) ∨ h.state.connected = true ∧ ∀ i code, a ≠ .closed i code := by
  cases a with
  | opened i => exact .inl ⟨i, rfl⟩
  | exhausted | errored _ | closed _ _ => cases hc
  | _ => exact .inr ⟨hc, fun _ _ => nofun⟩

end

/-! ## The stores -/

theorem apply_eq_some {h h' : OrchestratorHook} {update : OrchestratorUpdater}
    (ha : apply h update = some h') :
    ∃ s', update h.state = .ok s' ∧ h' = { h with state := s' } := by
  unfold apply at ha
  cases hu : update h.state <;> simp [hu, Except.toOption] at ha
  exact ⟨_, rfl, ha.symm⟩

theorem sendWorkloadCommand_state (h : OrchestratorHook) (command workloadId : String) :
    (sendWorkloadCommand h command workloadId).state = h.state := by
  unfold sendWorkloadCommand
  split <;> (try split) <;> rfl

theorem commandSettled_state (h : OrchestratorHook) (verb workloadId : String)
    (update : OrchestratorState → OrchestratorState) (result : FetchResult) :
    (commandSettled h verb workloadId update result).state = update h.state := by
  unfold commandSettled
  split
  · exact sendWorkloadCommand_state _ _ _
  · rfl

/-- A workload command whose POST fails changes nothing but `error`: there is no optimistic
update to roll back, and no frame is sent. -/
theorem commandSettled_of_error (h : OrchestratorHook) {verb workloadId : String}
    {fields : List (String × JsVal)} {result : FetchResult} {msg : String}
    (hc : commandCheck verb result = .error msg) :
    commandSettled h verb workloadId (command verb fields workloadId result) result =
      { h with state := { h.state with error := some msg } } := by
  simp only [commandSettled, command, hc]

theorem foldl_react_keyed (cfg : Config) (acts : List Action) {h : OrchestratorHook}
    (hs : Keyed h.state) : Keyed (acts.foldl (react cfg) h).state := by
  induction acts generalizing h with
  | nil => exact hs
  | cons a acts ih => exact ih (by cases a <;> exact ⟨hs.1, hs.2⟩)

theorem settled_keyed {h h' : OrchestratorHook} {result : FetchResult} {req : OrchestratorRequest}
    (hs : Keyed h.state) (hr : settled h result req = some h') : Keyed h'.state := by
  cases req with
  | hydrate r n =>
    simp only [settled] at hr
    split at hr <;> cases hr
    · exact Batch.settle_keyed _ _ _ (r.settle_keyed result hs)
    · exact hs
  | fetch r => cases hr; exact r.settle_keyed result hs
  | create =>
    obtain ⟨s', hu, rfl⟩ := apply_eq_some hr
    exact createWorkload_keyed hs hu
  | cancel workloadId =>
    cases hr
    rw [commandSettled_state]
    exact command_keyed (by simp) workloadId result hs
  | retry workloadId =>
    cases hr
    rw [commandSettled_state]
    exact command_keyed (by simp) workloadId result hs

theorem foldl_react_workloads (cfg : Config) (acts : List Action) (h : OrchestratorHook) :
    (acts.foldl (react cfg) h).state.workloads = h.state.workloads := by
  induction acts generalizing h with
  | nil => rfl
  | cons a acts ih => rw [List.foldl_cons, ih]; cases a <;> rfl

/-- A request other than `fetchWorkloads` keeps every workload when it settles. -/
theorem settled_workloads {h h' : OrchestratorHook} {result : FetchResult}
    {req : OrchestratorRequest} (hreq : req.isWorkloadsSnapshot = false)
    (hr : settled h result req = some h') : h.state.workloads.keys ⊆ h'.state.workloads.keys := by
  cases req with
  | hydrate r n =>
    simp only [settled] at hr
    split at hr <;> cases hr
    · rw [Batch.settle_workloads, Request.settle_workloads (by rintro rfl; cases hreq)]
      exact List.Subset.refl _
    · exact List.Subset.refl _
  | fetch r =>
    cases hr
    rw [Request.settle_workloads (by rintro rfl; cases hreq)]
    exact List.Subset.refl _
  | create =>
    obtain ⟨s', hu, rfl⟩ := apply_eq_some hr
    exact (createWorkload_upserts hu).1.keys
  | cancel workloadId | retry workloadId =>
    cases hr
    simp only [commandSettled_state, cancelWorkload, retryWorkload, command_keys]
    exact List.Subset.refl _

/-- **The store step.** Every event keeps each workload under its `id` and each node under its
`nodeId`. -/
theorem step_keyed {cfg : Config} {h h' : OrchestratorHook} {e : OrchestratorEvent}
    (hs : Keyed h.state) (hst : step cfg h e = some h') : Keyed h'.state := by
  cases e with
  | conn e => cases hst; exact foldl_react_keyed cfg _ hs
  | message i frame =>
    simp only [step] at hst
    split at hst
    · obtain ⟨s', hu, rfl⟩ := apply_eq_some hst
      exact onmessage_keyed hs hu
    · cases hst; exact hs
  | settle k result =>
    simp only [step] at hst
    split at hst
    · exact settled_keyed
        (show Keyed { h with requests := h.requests.eraseIdx k }.state from hs) hst
    · cases hst; exact hs
  | refreshData => cases hst; exact ⟨hs.1, hs.2⟩
  | clearError => cases hst; exact ⟨hs.1, hs.2⟩
  | _ => cases hst; exact hs

/-- **Stores keyed by their entities.** In every reachable state, each workload is stored under
its own `id` field and each node under its own `nodeId` field, whatever those hold. -/
theorem Reachable.keyed {cfg : Config} {h : OrchestratorHook} (hr : Reachable cfg h) :
    Keyed h.state := by
  induction hr with
  | init => exact ⟨.nil _, .nil _⟩
  | step _ _ hs ih => exact step_keyed ih hs

/-! ## Batches -/

/-- Every hydration request in flight belongs to a batch the hook holds. -/
def BatchesCover (h : OrchestratorHook) : Prop :=
  ∀ r n, OrchestratorRequest.hydrate r n ∈ h.requests → n < h.batches.length

theorem BatchesCover.startHydration {h : OrchestratorHook} (hb : BatchesCover h) :
    BatchesCover (startHydration h) := by
  intro r n hm
  simp only [useOrchestrator.startHydration, List.mem_append, List.mem_cons,
    OrchestratorRequest.hydrate.injEq, List.mem_singleton, List.not_mem_nil, or_false] at hm
  rw [useOrchestrator.startHydration, List.length_append, List.length_singleton]
  rcases hm with hm | ⟨-, rfl⟩ | ⟨-, rfl⟩ | ⟨-, rfl⟩
  · exact Nat.lt_succ_of_lt (hb r n hm)
  all_goals exact Nat.lt_succ_self _

/-- `h'` has the refs of `h`, its `connected` and its frames, plus at most one workload command
on a socket that is open. -/
structure CommandStep (h h' : OrchestratorHook) : Prop where
  conn : h'.conn = h.conn
  connected : h'.state.connected = h.state.connected
  sent : h'.sent = h.sent ∨ ∃ i command workloadId, h.conn.sockets[i]? = some .open ∧
    h'.sent = h.sent ++ [(i, commandFrame command workloadId)]

theorem sendWorkloadCommand_commandStep (h : OrchestratorHook) (command workloadId : String) :
    CommandStep h (sendWorkloadCommand h command workloadId) := by
  unfold sendWorkloadCommand
  split
  · split
    · exact ⟨rfl, rfl, .inr ⟨_, _, _, ‹_›, rfl⟩⟩
    · exact ⟨rfl, rfl, .inl rfl⟩
  · exact ⟨rfl, rfl, .inl rfl⟩

theorem commandSettled_commandStep (h : OrchestratorHook) (verb : String)
    (fields : List (String × JsVal)) (workloadId : String) (result : FetchResult) :
    CommandStep h
      (commandSettled h verb workloadId (command verb fields workloadId result) result) := by
  have hc := command_connected verb fields workloadId result h.state
  unfold commandSettled
  split
  · have hs := sendWorkloadCommand_commandStep
      { h with state := command verb fields workloadId result h.state } verb workloadId
    exact ⟨hs.conn, hs.connected.trans hc, hs.sent⟩
  · exact ⟨rfl, hc, .inl rfl⟩

theorem apply_commandStep {h h' : OrchestratorHook} {update : OrchestratorUpdater}
    (hu : ∀ {s s'}, update s = .ok s' → s'.connected = s.connected)
    (ha : apply h update = some h') : CommandStep h h' := by
  obtain ⟨s', hs, rfl⟩ := apply_eq_some ha
  exact ⟨rfl, hu hs, .inl rfl⟩

theorem settled_commandStep {h h' : OrchestratorHook} {result : FetchResult}
    {req : OrchestratorRequest} (hr : settled h result req = some h') : CommandStep h h' := by
  cases req with
  | hydrate r n =>
    simp only [settled] at hr
    split at hr <;> cases hr
    · exact ⟨rfl, (Batch.settle_connected _ _ _).trans (r.settle_connected result _), .inl rfl⟩
    · exact ⟨rfl, rfl, .inl rfl⟩
  | fetch r => cases hr; exact ⟨rfl, r.settle_connected result _, .inl rfl⟩
  | create => exact apply_commandStep createWorkload_connected hr
  | cancel workloadId => cases hr; exact commandSettled_commandStep _ _ _ _ _
  | retry workloadId => cases hr; exact commandSettled_commandStep _ _ _ _ _

/-- **What the other events do.** An event other than one of the connection machine keeps the
refs and `connected`, and sends at most one workload command, on an open socket. -/
theorem step_commandStep {cfg : Config} {h h' : OrchestratorHook} {e : OrchestratorEvent}
    (he : ∀ ce, e ≠ .conn ce) (hst : step cfg h e = some h') : CommandStep h h' := by
  cases e with
  | conn ce => exact absurd rfl (he ce)
  | message i frame =>
    simp only [step] at hst
    split at hst
    · exact apply_commandStep onmessage_connected hst
    · cases hst; exact ⟨rfl, rfl, .inl rfl⟩
  | settle k result =>
    simp only [step] at hst
    split at hst
    · have hc := settled_commandStep hst
      exact ⟨hc.conn, hc.connected, hc.sent⟩
    · cases hst; exact ⟨rfl, rfl, .inl rfl⟩
  | _ => cases hst; exact ⟨rfl, rfl, .inl rfl⟩

end useOrchestrator

end Mycelial
