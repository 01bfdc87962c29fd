import MycelialDashboard.Hook.P2P
import Mathlib.Data.List.Sublists
import Mathlib.Data.Nat.Choose.Basic

/-!
# The peer graph of `useP2P`

`graphData()` draws the peer store as a force graph. There is a node per stored peer, read off
the peer value (`peer.id`, `peer.name`, ...), with `isLocal` set when `peer.id === localPeerId`.
The links come from two nested `for` loops over `Array.from(state.peers.keys())`
(`useP2P.meshLinks`). The loops push one link for every pair of positions `i < j`: they build
`pairLinks` of the keys (`meshLinks_eq`). The `[source, target]` lists of those links are the
two-element sublists of the keys up to order (`pairLinks_perm_sublistsLen`), so there are
`n * (n - 1) / 2` of them (`length_pairLinks`).

Node ids come from the values and link endpoints from the keys. They are the same list because
every path stores a peer under its own `id` (`useP2P.Reachable.normalizedEntry`). The keys of a
map are pairwise different under `===` (`JsMap.unique`), so at most one of them is
`localPeerId` (`length_filter_sameKey_le`).

`useP2P.peer_graph_mesh`: in every reachable state, `graphData()` is a complete mesh over
distinct nodes with at most one local node (`MeshGraph`).
-/

namespace Mycelial

/-- A node of `graphData()`. -/
structure GraphNode where
  id : JsVal
  name : JsVal
  reputation : JsVal
  location : JsVal
  isLocal : Bool
  deriving DecidableEq, Repr

/-- A link of `graphData()`. -/
structure GraphLink where
  source : JsVal
  target : JsVal
  deriving DecidableEq, Repr

/-! ## Two loops as one recursion -/

/-- The links from the first id to each later one, then those among the later ids. -/
def pairLinks : List JsVal → List GraphLink
  | [] => []
  | a :: rest => rest.map (⟨a, ·⟩) ++ pairLinks rest

/-- A loop that appends to an accumulator appends the `flatMap` of its body. -/
theorem foldl_append_flatMap {α β : Type} (f : α → List β) :
    ∀ (xs : List α) (acc : List β), xs.foldl (fun acc x => acc ++ f x) acc = acc ++ xs.flatMap f
  | [], acc => by simp
  | x :: xs, acc => by
    rw [List.foldl_cons, foldl_append_flatMap f xs, List.flatMap_cons, List.append_assoc]

theorem range'_succ_eq_map (s n : Nat) :
    List.range' (s + 1) n = (List.range' s n).map (· + 1) := by
  rw [List.range'_eq_map_range, List.range'_eq_map_range, List.map_map]
  exact List.map_congr_left fun x _ => by simp only [Function.comp]; omega

/-- A loop over the positions of `l` that reads `l[k]` is a loop over `l`. -/
theorem flatMap_range_getD {β : Type} (f : JsVal → β) :
    ∀ l : List JsVal, (List.range l.length).flatMap (fun k => [f (l.getD k .undefined)]) = l.map f
  | [] => rfl
  | a :: l => by
    rw [List.length_cons, List.range_succ_eq_map, List.flatMap_cons, List.flatMap_map]
    simp only [List.getD_cons_zero, List.getD_cons_succ, flatMap_range_getD f l, List.map_cons,
      List.singleton_append]

/-- The two-element sublists of `ids`, up to order: one link per unordered pair of positions. -/
theorem pairLinks_perm_sublistsLen :
    ∀ ids : List JsVal,
      List.Perm ((pairLinks ids).map fun l => [l.source, l.target]) (ids.sublistsLen 2)
  | [] => List.Perm.refl _
  | a :: rest => by
    rw [pairLinks, List.map_append, List.map_map, List.sublistsLen_succ_cons, List.sublistsLen_one,
      List.map_map]
    exact List.perm_append_comm.trans
      ((pairLinks_perm_sublistsLen rest).append ((List.reverse_perm rest).map _).symm)

theorem length_pairLinks (ids : List JsVal) :
    (pairLinks ids).length = ids.length * (ids.length - 1) / 2 := by
  rw [← Nat.choose_two_right, ← List.length_sublistsLen,
    ← (pairLinks_perm_sublistsLen ids).length_eq, List.length_map]

/-- A link joins two of the ids, the earlier to the later, so it relates them as `Pairwise` does. -/
theorem pairLinks_rel {R : JsVal → JsVal → Prop} :
    ∀ {ids : List JsVal}, ids.Pairwise R →
      ∀ l ∈ pairLinks ids, l.source ∈ ids ∧ l.target ∈ ids ∧ R l.source l.target
  | a :: rest, h, l, hl => by
    rw [List.pairwise_cons] at h
    rcases List.mem_append.mp hl with hl | hl
    · obtain ⟨b, hb, rfl⟩ := List.mem_map.mp hl
      exact ⟨List.mem_cons_self _ _, List.mem_cons_of_mem _ hb, h.1 b hb⟩
    · obtain ⟨h1, h2, h3⟩ := pairLinks_rel h.2 l hl
      exact ⟨List.mem_cons_of_mem _ h1, List.mem_cons_of_mem _ h2, h3⟩

/-- Among keys no two of which are `SameValueZero`, at most one is `SameValueZero` to `c`. -/
theorem length_filter_sameKey_le (c : JsVal) :
    ∀ {ids : List JsVal}, ids.Pairwise (fun a b => a.sameKey b = false) →
      (ids.filter (·.sameKey c)).length ≤ 1
  | [], _ => Nat.zero_le 1
  | a :: rest, h => by
    rw [List.pairwise_cons] at h
    by_cases ha : a.sameKey c
    · have hnil : rest.filter (·.sameKey c) = [] := List.filter_eq_nil_iff.mpr fun b hb hbc => by
        rw [← JsVal.eq_of_sameKey hbc, h.1 b hb] at ha
        cases ha
      simp [List.filter_cons, ha, hnil]
    · simpa [List.filter_cons, ha] using length_filter_sameKey_le c h.2

namespace useP2P

/-! ## `graphData` -/

/-- The links of `graphData()`: `links.push({ source: peerIds[i], target: peerIds[j] })` for
`i` from `0` and `j` from `i + 1`, both below `peerIds.length`. -/
def meshLinks (peerIds : List JsVal) : List GraphLink :=
  (List.range peerIds.length).foldl (fun links i =>
    (List.range' (i + 1) (peerIds.length - (i + 1))).foldl (fun links j =>
      links ++ [⟨peerIds.getD i .undefined, peerIds.getD j .undefined⟩]) links) []

/-- `graphData()`: a node per stored peer, in the store's order, and the links between the
store's keys. -/
def graphData (s : P2PState) : List GraphNode × List GraphLink :=
  (s.peers.entries.map fun e => ⟨e.2.id, e.2.name, e.2.reputation, e.2.location,
      e.2.id.strictEq s.localPeerId⟩,
    meshLinks s.peers.keys)

theorem meshLinks_eq (ids : List JsVal) : meshLinks ids = pairLinks ids := by
  simp only [meshLinks, foldl_append_flatMap, List.nil_append]
  induction ids with
  | nil => rfl
  | cons a rest ih =>
    rw [List.length_cons, List.range_succ_eq_map, List.flatMap_cons, List.flatMap_map, pairLinks,
      ← ih]
    congr 1
    · -- `i = 0`: the first id to every later one
      rw [Nat.add_sub_cancel, range'_succ_eq_map, ← List.range_eq_range', List.flatMap_map]
      simp only [List.getD_cons_zero, List.getD_cons_succ]
      exact flatMap_range_getD _ rest
    · -- `i + 1`: the loop of `i` over the later ids
      refine List.flatMap_congr fun i _ => ?_
      rw [show rest.length + 1 - (i + 1 + 1) = rest.length - (i + 1) by omega, range'_succ_eq_map,
        List.flatMap_map]
      simp only [List.getD_cons_succ]

theorem graphData_ids (s : P2PState) : (graphData s).1.map (·.id) = s.peers.entries.map (·.2.id) := by
  rw [graphData, List.map_map]
  rfl

/-- A node is local when its id is `localPeerId`. -/
theorem length_filter_isLocal (s : P2PState) :
    ((graphData s).1.filter (·.isLocal)).length =
      (((graphData s).1.map (·.id)).filter (·.strictEq s.localPeerId)).length := by
  simp only [graphData, List.filter_map, List.length_map, List.map_map]
  rfl

/-- What `graphData()` draws from a store: a node per entry with pairwise different ids, a link
per unordered pair of nodes and none from a node to itself, and at most one local node. -/
structure MeshGraph (s : P2PState) : Prop where
  nodes_length : (graphData s).1.length = s.peers.entries.length
  ids_distinct : ((graphData s).1.map (·.id)).Pairwise fun a b => a.strictEq b = false
  links_length : (graphData s).2.length = s.peers.entries.length * (s.peers.entries.length - 1) / 2
  links_pairs : List.Perm ((graphData s).2.map fun l => [l.source, l.target])
    (((graphData s).1.map (·.id)).sublistsLen 2)
  no_self_link : ∀ l ∈ (graphData s).2, l.source.strictEq l.target = false
  endpoints : ∀ l ∈ (graphData s).2,
    l.source ∈ (graphData s).1.map (·.id) ∧ l.target ∈ (graphData s).1.map (·.id)
  one_local : ((graphData s).1.filter (·.isLocal)).length ≤ 1

/-- A store whose every entry is under its own `id` draws a `MeshGraph`. -/
theorem meshGraph_of_keys {s : P2PState} (hkey : ∀ e ∈ s.peers, e.1 = e.2.id) :
    MeshGraph s := by
  have hids : (graphData s).1.map (·.id) = s.peers.keys :=
    (graphData_ids s).trans (List.map_congr_left hkey).symm
  have hlinks : (graphData s).2 = pairLinks s.peers.keys := meshLinks_eq _
  have hu' : ((graphData s).1.map (·.id)).Pairwise fun a b => a.strictEq b = false :=
    hids ▸ s.peers.unique
  refine ⟨List.length_map _ _, hu', ?_, ?_, ?_, ?_, ?_⟩
  · rw [hlinks, length_pairLinks, JsMap.keys, List.length_map]
  · rw [hids, hlinks]
    exact pairLinks_perm_sublistsLen _
  · exact fun l hl => (pairLinks_rel hu' l (hids ▸ hlinks ▸ hl)).2.2
  · exact fun l hl => (pairLinks_rel hu' l (hids ▸ hlinks ▸ hl)).imp_right And.left
  · rw [length_filter_isLocal]
    exact length_filter_sameKey_le _ hu'

theorem peer_graph_mesh {cfg : Config} {h : P2PHook} (hr : Reachable cfg h) :
    MeshGraph h.state :=
  meshGraph_of_keys fun e he => (hr.normalizedEntry e he).elim fun _ hn => hn.2.2

/-- `/api/info` names `b` the local peer, then a `peers_list` frame brings `a`, `b` and `c`: the
state is reachable, `b` alone is local, and the graph is a mesh. -/
theorem peer_graph_three_peers :
    ∃ h, run {} P2PHook.init [.conn .connect, .conn (.opened 0),
        .settle 0 (.ok ⟨200, .ok (.obj [("peer_id", .str "b")])⟩),
        .message 0 (.obj [("type", .str "peers_list"), ("peers",
          .arr [.obj [("id", .str "a")], .obj [("id", .str "b")], .obj [("id", .str "c")]])])] =
        some h ∧
      Reachable {} h ∧ (graphData h.state).1.map (·.isLocal) = [false, true, false] ∧
      MeshGraph h.state :=
  have hr := show run {} P2PHook.init [.conn .connect, .conn (.opened 0),
      .settle 0 (.ok ⟨200, .ok (.obj [("peer_id", .str "b")])⟩),
      .message 0 (.obj [("type", .str "peers_list"), ("peers",
        .arr [.obj [("id", .str "a")], .obj [("id", .str "b")], .obj [("id", .str "c")]])])] =
      some _ from rfl
  have hreach := Reachable.init.run hr
  ⟨_, hr, hreach, rfl, peer_graph_mesh hreach⟩

end useP2P

end Mycelial
