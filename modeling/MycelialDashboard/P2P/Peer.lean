import MycelialDashboard.Js.Map

/-!
# `normalizePeer`

`normalizePeer` reads a peer record of either backend format: the identifier under `id`, else
`peer_id`; the name under `name`, else `display_name`, else `Peer-` and the first twelve
characters of the identifier; a numeric `reputation`, else `reputation.score`, else `0.5`.
It copies what it finds without checking its type, so a `NormalizedPeer` holds `JsVal`s.

`normalizePeer_eq` is its one spec lemma: on any record other than `null` and `undefined` it
is `peerName` of the two name fields and the identifier, with the other fields read off the
record. From it, `normalizePeer_name_truthy`, `normalizePeer_reputation_not_nullish` and
`normalizePeer_addresses_truthy` say what every normalized peer holds, and
`normalizePeer_id_of_truthy` that a truthy `id` field is the identifier.
`addPeers` is the loop the snapshot paths run over a peer list. `addPeers_eq` says what it is:
`normalizePeer` over the whole list, failing on the first peer that does not normalize, then the
peers with a truthy identifier set in order; so the last of them wins under each key
(`addPeers_get?`).
-/

namespace Mycelial

/-- The record `normalizePeer` returns. -/
structure NormalizedPeer where
  id : JsVal
  name : JsVal
  reputation : JsVal
  location : JsVal
  addresses : JsVal
  deriving DecidableEq, Repr

/-- The default reputation `0.5`. -/
def defaultReputation : JsVal := .num (mkRat 1 2)

/-- `typeof peer.reputation === 'number' ? peer.reputation : (peer.reputation?.score ?? 0.5)`,
given `peer.reputation`. -/
def reputationOf (r : JsVal) : JsVal :=
  match r with
  | .num _ => r
  | _ => (r.getOpt "score").nullishOr defaultReputation

/-- `peer.name || peer.display_name || `Peer-${id.slice(0, 12)}``, given the value of the first
two operands. -/
def peerName (given id : JsVal) : Except TypeError JsVal :=
  if given.truthy then .ok given else do
    pure (.str ("Peer-" ++ (← (← id.slice 12).toStr)))

/-- Normalize peer data from different backend formats. -/
def normalizePeer (peer : JsVal) : Except TypeError NormalizedPeer := do
  let id := (← peer.get "id").or ((← peer.get "peer_id").or (.str ""))
  let name ← peerName ((← peer.get "name").or (← peer.get "display_name")) id
  let reputation := reputationOf (← peer.get "reputation")
  pure { id, name, reputation, location := ← peer.get "location",
         addresses := (← peer.get "addresses").or (.arr []) }

/-- The identifier `normalizePeer` reads off a record. -/
def peerIdOf (peer : JsVal) : JsVal :=
  (peer.getOpt "id").or ((peer.getOpt "peer_id").or (.str ""))

/-- The loop of the snapshot paths over a peer list: each peer is normalized, and set under its
identifier when that is truthy. -/
def addPeers : JsMap NormalizedPeer → List JsVal → Except TypeError (JsMap NormalizedPeer)
  | m, [] => .ok m
  | m, peer :: peers => do
    let normalized ← normalizePeer peer
    addPeers (if normalized.id.truthy then m.set normalized.id normalized else m) peers

/-! ## The spec lemma -/

theorem normalizePeer_of_isNullish {peer : JsVal} (h : peer.isNullish = true) :
    normalizePeer peer = .error (.readProperty peer "id") := by
  simp [normalizePeer, JsVal.get, h]

/-- On a record that is not `null` or `undefined`, `normalizePeer` only fails in `peerName`. -/
theorem normalizePeer_eq {peer : JsVal} (h : peer.isNullish = false) :
    normalizePeer peer =
      (peerName ((peer.getOpt "name").or (peer.getOpt "display_name")) (peerIdOf peer)).map
        fun name => { id := peerIdOf peer, name,
                      reputation := reputationOf (peer.getOpt "reputation"),
                      location := peer.getOpt "location",
                      addresses := (peer.getOpt "addresses").or (.arr []) } := by
  simp only [normalizePeer, JsVal.get_of_not_isNullish h, except_ok_bind, peerIdOf]
  cases peerName _ _ <;> rfl

theorem normalizePeer_ok {peer : JsVal} {n : NormalizedPeer} (h : normalizePeer peer = .ok n) :
    peer.isNullish = false ∧
      peerName ((peer.getOpt "name").or (peer.getOpt "display_name")) (peerIdOf peer) =
        .ok n.name ∧
      n.id = peerIdOf peer ∧ n.reputation = reputationOf (peer.getOpt "reputation") ∧
      n.addresses = (peer.getOpt "addresses").or (.arr []) := by
  cases hp : peer.isNullish
  · rw [normalizePeer_eq hp] at h
    cases hn : peerName _ _ <;> simp only [hn, Except.map] at h <;> cases h
    exact ⟨rfl, rfl, rfl, rfl, rfl⟩
  · rw [normalizePeer_of_isNullish hp] at h
    cases h

theorem peerName_ok_of_str (given : JsVal) (k : String) :
    ∃ v, peerName given (.str k) = .ok v := by
  unfold peerName
  split <;> exact ⟨_, rfl⟩

/-- A record whose `id` is a non-empty string normalizes, under that identifier. -/
theorem normalizePeer_ok_of_str {fs : List (String × JsVal)} {k : String}
    (h : JsVal.field fs "id" = .str k) (hk : k ≠ "") :
    ∃ n, normalizePeer (.obj fs) = .ok n ∧ n.id = .str k := by
  have hid : peerIdOf (.obj fs) = .str k := by
    rw [peerIdOf, JsVal.getOpt_obj, h, JsVal.or_of_truthy (by simpa [JsVal.truthy] using hk)]
  obtain ⟨v, hv⟩ := peerName_ok_of_str
    ((JsVal.getOpt (.obj fs) "name").or (JsVal.getOpt (.obj fs) "display_name")) k
  rw [normalizePeer_eq (show (JsVal.obj fs).isNullish = false from rfl), hid, hv]
  exact ⟨_, rfl, rfl⟩

/-! ## What every normalized peer holds -/

theorem peer_prefix_ne_empty (s : String) : "Peer-" ++ s ≠ "" := by
  intro h
  have h5 : ("Peer-" ++ s).length = 5 + s.length := by rw [String.length_append]; rfl
  have h0 : "".length = 0 := rfl
  rw [h] at h5
  omega

theorem truthy_of_peerName {given id n : JsVal} (h : peerName given id = .ok n) : n.truthy := by
  unfold peerName at h
  split at h
  · cases h; assumption
  · cases hs : id.slice 12 with
    | error e => simp [hs] at h
    | ok sl =>
      cases ht : sl.toStr with
      | error e => simp [hs, ht] at h
      | ok str =>
        simp only [hs, ht, except_ok_bind, except_pure, Except.ok.injEq] at h
        subst h
        simpa [JsVal.truthy] using peer_prefix_ne_empty str

theorem normalizePeer_name_truthy {peer : JsVal} {n : NormalizedPeer}
    (h : normalizePeer peer = .ok n) : n.name.truthy :=
  truthy_of_peerName (normalizePeer_ok h).2.1

theorem reputationOf_not_nullish (r : JsVal) : (reputationOf r).isNullish = false := by
  unfold reputationOf JsVal.nullishOr
  split
  · rfl
  · split
    · rfl
    · next h => exact Bool.eq_false_iff.mpr h

theorem normalizePeer_reputation_not_nullish {peer : JsVal} {n : NormalizedPeer}
    (h : normalizePeer peer = .ok n) : n.reputation.isNullish = false := by
  rw [(normalizePeer_ok h).2.2.2.1]
  exact reputationOf_not_nullish _

theorem normalizePeer_addresses_truthy {peer : JsVal} {n : NormalizedPeer}
    (h : normalizePeer peer = .ok n) : n.addresses.truthy := by
  rw [(normalizePeer_ok h).2.2.2.2, JsVal.truthy_or]
  simp [JsVal.truthy]

/-- A truthy `id` field is the identifier. -/
theorem normalizePeer_id_of_truthy {fs : List (String × JsVal)} {n : NormalizedPeer}
    (h : normalizePeer (.obj fs) = .ok n) (hid : (JsVal.field fs "id").truthy) :
    n.id = JsVal.field fs "id" := by
  rw [(normalizePeer_ok h).2.2.1, peerIdOf, JsVal.getOpt_obj, JsVal.or_of_truthy hid]

/-! ## The loop -/

/-- A property of entries that the map has and every usable normalized peer has, the map after
the loop has. -/
theorem addPeers_forall (P : JsVal × NormalizedPeer → Prop)
    (hP : ∀ peer n, normalizePeer peer = .ok n → n.id.truthy → P (n.id, n)) :
    ∀ {m m' : JsMap NormalizedPeer} {peers : List JsVal}, (∀ e ∈ m, P e) →
      addPeers m peers = .ok m' → ∀ e ∈ m', P e
  | m, m', [], hm, h => by cases h; exact hm
  | m, m', peer :: peers, hm, h => by
    simp only [addPeers, bind, Except.bind] at h
    cases hn : normalizePeer peer with
    | error e => rw [hn] at h; cases h
    | ok n =>
      rw [hn] at h
      refine addPeers_forall P hP ?_ h
      split
      · next hid =>
        intro e he
        rcases JsMap.mem_set he with he | rfl
        · exact hm e he
        · exact hP peer n hn hid
      · exact hm

/-- The loop normalizes the whole list, failing on the first peer that does not normalize, and
sets the peers with a truthy identifier in order. -/
theorem addPeers_eq (m : JsMap NormalizedPeer) (peers : List JsVal) :
    addPeers m peers = (peers.mapM normalizePeer).map fun ns =>
      (ns.filter (·.id.truthy)).foldl (fun m n => m.set n.id n) m := by
  induction peers generalizing m with
  | nil => rfl
  | cons peer peers ih =>
    simp only [addPeers, List.mapM_cons]
    cases normalizePeer peer with
    | error e => rfl
    | ok n =>
      simp only [except_ok_bind, ih]
      cases peers.mapM normalizePeer with
      | error e => rfl
      | ok ns => by_cases hn : n.id.truthy <;> simp [Except.map, hn]

/-- Under each key the map after the loop holds the last listed peer with a truthy identifier
of that key, else what it held before. -/
theorem addPeers_get? {m m' : JsMap NormalizedPeer} {peers : List JsVal}
    (h : addPeers m peers = .ok m') :
    ∃ ns, peers.mapM normalizePeer = .ok ns ∧ ∀ k, m'.get? k =
      ((ns.filter (·.id.truthy)).reverse.find? (·.id.sameKey k)).or (m.get? k) := by
  rw [addPeers_eq] at h
  cases hns : peers.mapM normalizePeer with
  | error e => rw [hns] at h; cases h
  | ok ns =>
    rw [hns] at h; cases h
    exact ⟨ns, rfl, JsMap.get?_foldl_set _ _ m⟩

/-- A record with neither `id` nor `peer_id` gets the identifier `''`, which is falsy, so the
loop skips it. -/
theorem addPeers_of_no_id {fs : List (String × JsVal)} (hid : JsVal.field fs "id" = .undefined)
    (hpid : JsVal.field fs "peer_id" = .undefined) (m : JsMap NormalizedPeer) :
    addPeers m [.obj fs] = .ok m := by
  have hpeer : peerIdOf (.obj fs) = .str "" := by
    simp [peerIdOf, hid, hpid, JsVal.truthy]
  obtain ⟨v, hv⟩ := peerName_ok_of_str
    ((JsVal.getOpt (.obj fs) "name").or (JsVal.getOpt (.obj fs) "display_name")) ""
  simp only [addPeers, normalizePeer_eq (show (JsVal.obj fs).isNullish = false from rfl), hpeer,
    hv, Except.map, except_ok_bind]
  rfl

end Mycelial
