import MycelialDashboard.Orchestrator.Messages

/-!
# `fetchOrchestratorData`

`fetchOrchestratorData` sets `loading` and clears `error`, then awaits `Promise.all` over
`fetchWorkloads`, `fetchNodes` and `fetchClusterMetrics`. Each request, when it settles, runs
its own `setState` (`Request.settle`). `Promise.all` rejects at the first rejection, and the
`catch` of `fetchOrchestratorData` runs as a microtask before any later request settles; it
fulfils after the last fulfilment, and the `setState(loading: false)` after the `await` runs.
`Batch` is that `Promise.all`, and `Batch.settle` one request settling in it.

`Batch.settle_error` says what `error` holds after any request settles: the message of that
request's failure, or `null` when it succeeded, whatever settled before.
`fetchOrchestratorData_error` is the consequence for a whole hydration: the last request to
settle decides `error`. `fetchOrchestratorData_loading` follows `loading` through the batch:
it is set exactly while no request has failed and some are pending (`LoadingInv`).
-/

namespace Mycelial

namespace useOrchestrator

/-- The three requests of `fetchOrchestratorData`. -/
inductive Request
  | workloads
  | nodes
  | clusterMetrics
  deriving DecidableEq, Repr

/-- A request once it settles: its state update, and the message it rethrows if it fails. -/
def Request.settle :
    Request → FetchResult → (OrchestratorState → OrchestratorState) × Option String
  | .workloads, result => fetchWorkloads result
  | .nodes, result => fetchNodes result
  | .clusterMetrics, result => fetchClusterMetrics result

/-- `Promise.all` over the requests of one `fetchOrchestratorData`: how many have not settled,
and whether it has rejected. -/
structure Batch where
  pending : Nat
  rejected : Bool
  deriving DecidableEq, Repr

/-- `setState(s => ({ ...s, loading: true, error: null }))` before the requests. -/
def hydrationStart (s : OrchestratorState) : OrchestratorState :=
  { s with loading := true, error := none }

/-- One request of the batch settles with `outcome`: its own `setState`, then the continuation
of `fetchOrchestratorData` when `Promise.all` settles now, the `catch` at the first rejection
or `setState(loading: false)` after the last fulfilment. -/
def Batch.settle (b : Batch) (outcome : (OrchestratorState → OrchestratorState) × Option String)
    (s : OrchestratorState) : Batch × OrchestratorState :=
  let s := outcome.1 s
  let b' := { b with pending := b.pending - 1 }
  match outcome.2 with
  | some msg =>
    if b.rejected then (b', s)
    else ({ b' with rejected := true }, { s with loading := false, error := some msg })
  | none =>
    if b'.pending = 0 ∧ b.rejected = false then (b', { s with loading := false }) else (b', s)

/-- `fetchOrchestratorData` from `s`, its requests settling in the order and with the results of
`settled`, with no other event in between. -/
def fetchOrchestratorData (s : OrchestratorState) (settled : List (Request × FetchResult)) :
    OrchestratorState :=
  (settled.foldl (fun (bs : Batch × OrchestratorState) (rr : Request × FetchResult) =>
    bs.1.settle (rr.1.settle rr.2) bs.2) (⟨3, false⟩, hydrationStart s)).2

/-! ## What `error` holds -/

theorem settleWith_error {α : Type} (r : Except String α)
    (apply : α → OrchestratorState → OrchestratorState) (s : OrchestratorState) :
    ((settleWith r apply).1 s).error = (settleWith r apply).2 := by
  cases r <;> rfl

/-- A request's own `setState` leaves in `error` exactly the message it rethrows. -/
theorem Request.settle_error (r : Request) (result : FetchResult) (s : OrchestratorState) :
    ((r.settle result).1 s).error = (r.settle result).2 := by
  cases r <;> exact settleWith_error _ _ _

/-- **After any request settles**, `error` is the message of that request's failure, or `null`
if it succeeded, whatever settled before it. -/
theorem Batch.settle_error (b : Batch) (r : Request) (result : FetchResult)
    (s : OrchestratorState) : (b.settle (r.settle result) s).2.error = (r.settle result).2 := by
  have h := r.settle_error result s
  unfold Batch.settle
  dsimp only
  split
  · split <;> simp_all
  · split <;> simp_all

/-- **The last request decides.** After a hydration in which at least one request settled,
`error` is the message of the last one's failure, or `null` if it succeeded: a failure is
masked by any success that settles after it. -/
theorem fetchOrchestratorData_error (s : OrchestratorState)
    (settled : List (Request × FetchResult))
    (r : Request) (result : FetchResult) :
    (fetchOrchestratorData s (settled ++ [(r, result)])).error = (r.settle result).2 := by
  simp only [fetchOrchestratorData, List.foldl_append, List.foldl_cons, List.foldl_nil]
  exact Batch.settle_error _ r result _

/-! ## What `loading` holds -/

/-- `loading` is set while no request has failed and some are pending. -/
def LoadingInv (bs : Batch × OrchestratorState) : Prop :=
  bs.2.loading = (!bs.1.rejected && decide (bs.1.pending ≠ 0))

theorem Request.settle_loading (r : Request) (result : FetchResult) (s : OrchestratorState) :
    ((r.settle result).1 s).loading = s.loading := by
  cases r <;> simp only [Request.settle, fetchWorkloads, fetchNodes, fetchClusterMetrics,
    settleWith] <;> split <;> rfl

theorem Request.settle_connected (r : Request) (result : FetchResult) (s : OrchestratorState) :
    ((r.settle result).1 s).connected = s.connected := by
  cases r <;> simp only [Request.settle, fetchWorkloads, fetchNodes, fetchClusterMetrics,
    settleWith] <;> split <;> rfl

theorem Batch.settle_connected (b : Batch)
    (outcome : (OrchestratorState → OrchestratorState) × Option String) (s : OrchestratorState) :
    (b.settle outcome s).2.connected = (outcome.1 s).connected := by
  unfold Batch.settle
  dsimp only
  split <;> (try split) <;> rfl

theorem Batch.settle_pending (b : Batch)
    (outcome : (OrchestratorState → OrchestratorState) × Option String) (s : OrchestratorState) :
    (b.settle outcome s).1.pending = b.pending - 1 := by
  unfold Batch.settle
  dsimp only
  split <;> (try split) <;> rfl

theorem Batch.settle_rejected (b : Batch)
    (outcome : (OrchestratorState → OrchestratorState) × Option String) (s : OrchestratorState) :
    (b.settle outcome s).1.rejected = (b.rejected || outcome.2.isSome) := by
  unfold Batch.settle
  dsimp only
  split <;> (try split) <;> simp_all

/-- One request settling keeps `LoadingInv`. -/
theorem LoadingInv.settle {b : Batch} {s : OrchestratorState} (h : LoadingInv (b, s))
    (r : Request) (result : FetchResult) : LoadingInv (b.settle (r.settle result) s) := by
  have hl := r.settle_loading result s
  unfold LoadingInv at *
  rw [Batch.settle_pending, Batch.settle_rejected]
  unfold Batch.settle
  dsimp only at h ⊢
  split
  · split <;> simp_all
  · split
    · next hb => simp [hl, hb.2]; omega
    · next hb =>
      rw [hl, h]
      cases hr : b.rejected <;> simp_all
      omega

/-- The batch after a list of requests settles: its counter, whether it rejected, and the
invariant. -/
theorem foldl_settle (settled : List (Request × FetchResult)) :
    ∀ bs : Batch × OrchestratorState, LoadingInv bs →
      let bs' := settled.foldl (fun (bs : Batch × OrchestratorState) rr =>
        bs.1.settle (rr.1.settle rr.2) bs.2) bs
      LoadingInv bs' ∧ bs'.1.pending = bs.1.pending - settled.length ∧
        bs'.1.rejected = (bs.1.rejected || settled.any fun rr => (rr.1.settle rr.2).2.isSome) := by
  induction settled with
  | nil => intro bs h; simp [h]
  | cons rr settled ih =>
    intro bs h
    obtain ⟨h1, h2, h3⟩ := ih _ (LoadingInv.settle h rr.1 rr.2)
    refine ⟨h1, ?_, ?_⟩
    · rw [List.foldl_cons, h2, Batch.settle_pending, List.length_cons]; omega
    · rw [List.foldl_cons, h3, Batch.settle_rejected, List.any_cons, Bool.or_assoc]

/-- **`loading` tracks the batch.** After any of the requests of `fetchOrchestratorData` have
settled, in any order, with any results and no other event in between, `loading` is set exactly
when fewer than three have settled and none of them failed. -/
theorem fetchOrchestratorData_loading (s : OrchestratorState)
    (settled : List (Request × FetchResult)) :
    (fetchOrchestratorData s settled).loading =
      (decide (settled.length < 3) && !settled.any fun rr => (rr.1.settle rr.2).2.isSome) := by
  obtain ⟨h1, h2, h3⟩ := foldl_settle settled (⟨3, false⟩, hydrationStart s) rfl
  unfold fetchOrchestratorData
  rw [h1, h2, h3, Bool.false_or, Bool.and_comm]
  congr 1
  simp only [decide_eq_decide]
  omega

/-- `fetchWorkloads` fails at the network, then `fetchNodes` and `fetchClusterMetrics`
succeed: the `catch` records the failure, and the next success clears it. -/
theorem hydration_failure_masked :
    (fetchOrchestratorData OrchestratorState.init [(.workloads, .error "Failed to fetch"),
      (.nodes, .ok ⟨200, .ok (.arr [])⟩),
      (.clusterMetrics, .ok ⟨200, .ok (.obj [])⟩)]).error =
      none :=
  rfl

/-! ## The stores -/

/-- A settled request keeps each workload and node under its own identifier: a REST snapshot
builds its map with the same loop as the list frames. -/
theorem Request.settle_keyed (r : Request) (result : FetchResult) {s : OrchestratorState}
    (hs : Keyed s) : Keyed ((r.settle result).1 s) := by
  cases r with
  | workloads => exact settleWith_keyed (fun _ hm _ hs => ⟨fetchCollection_keyedBy hm, hs.2⟩) hs
  | nodes => exact settleWith_keyed (fun _ hm _ hs => ⟨hs.1, fetchCollection_keyedBy hm⟩) hs
  | clusterMetrics => exact settleWith_keyed (fun _ _ _ hs => ⟨hs.1, hs.2⟩) hs

theorem settleWith_workloads {α : Type} (r : Except String α)
    {apply : α → OrchestratorState → OrchestratorState}
    (happly : ∀ a s, (apply a s).workloads = s.workloads) (s : OrchestratorState) :
    ((settleWith r apply).1 s).workloads = s.workloads := by
  cases r with
  | ok a => exact happly a s
  | error _ => rfl

/-- `fetchNodes` and `fetchClusterMetrics` leave the workloads. -/
theorem Request.settle_workloads {r : Request} (hr : r ≠ .workloads) (result : FetchResult)
    (s : OrchestratorState) : ((r.settle result).1 s).workloads = s.workloads := by
  cases r with
  | workloads => exact absurd rfl hr
  | nodes | clusterMetrics => refine settleWith_workloads _ ?_ s; exact fun _ _ => rfl

theorem Batch.settle_workloads (b : Batch)
    (outcome : (OrchestratorState → OrchestratorState) × Option String)
    (s : OrchestratorState) : (b.settle outcome s).2.workloads = (outcome.1 s).workloads := by
  unfold Batch.settle
  dsimp only
  split <;> (try split) <;> rfl

theorem Batch.settle_keyed (b : Batch)
    (outcome : (OrchestratorState → OrchestratorState) × Option String)
    (s : OrchestratorState) (h : Keyed (outcome.1 s)) : Keyed (b.settle outcome s).2 := by
  unfold Batch.settle
  dsimp only
  split <;> (try split) <;> exact ⟨h.1, h.2⟩

end useOrchestrator

end Mycelial
