import MycelialDashboard.Js.Value

/-!
# Maps and responses

The hooks keep their stores in JavaScript `Map`s keyed by identifiers taken from payloads.
`JsMap` is a map's entries in insertion order; `JsMap.set`, `JsMap.delete` and `JsMap.get?`
compare keys with `SameValueZero` (`JsVal.sameKey`). A `Map` holds one entry per key, and a
`JsMap` carries that as its field `unique`, proved once for `set` (`unique_setEntries`) and for
`delete`. Setting a key that is absent appends it (`entries_set_of_not_has`), so deleting that
key again gives the map back (`delete_set_of_not_has`) when the key is a primitive; an array or
object key is never found again.

`Response` is what `fetch` gives the REST paths.
-/

namespace Mycelial

/-- A JavaScript `Map`: its entries in insertion order, one per key. -/
structure JsMap (V : Type) where
  /-- The entries, in insertion order. -/
  entries : List (JsVal × V)
  /-- No two entries are under keys `SameValueZero` takes for one: `set` on a key already there
  replaces its entry. -/
  unique : (entries.map (·.1)).Pairwise fun a b => a.sameKey b = false
  deriving DecidableEq, Repr

namespace JsMap

variable {V : Type}

instance : Membership (JsVal × V) (JsMap V) := ⟨fun m e => e ∈ m.entries⟩

theorem mem_iff {m : JsMap V} {e : JsVal × V} : e ∈ m ↔ e ∈ m.entries := Iff.rfl

/-- Maps with the same entries are equal. -/
theorem ext {m m' : JsMap V} (h : m.entries = m'.entries) : m = m' := by
  cases m; cases m'; cases h; rfl

/-- `new Map()`. -/
def empty : JsMap V := ⟨[], .nil⟩

theorem not_mem_empty (e : JsVal × V) : e ∉ (empty : JsMap V) := nofun

/-- `m.has(k)`. -/
def has (m : JsMap V) (k : JsVal) : Bool :=
  m.entries.any (·.1.sameKey k)

/-- `Array.from(m.keys())`. -/
def keys (m : JsMap V) : List JsVal :=
  m.entries.map (·.1)

theorem has_eq_false {m : JsMap V} {k : JsVal} :
    m.has k = false ↔ ∀ e ∈ m, e.1.sameKey k = false := by
  simp [has, mem_iff]

/-- The entries `m.set(k, v)` leaves: a key already there keeps its place and takes `v`; a new
key goes last. -/
def setEntries (m : JsMap V) (k : JsVal) (v : V) : List (JsVal × V) :=
  if m.has k then m.entries.map (fun e => if e.1.sameKey k then (e.1, v) else e)
  else m.entries ++ [(k, v)]

theorem keys_setEntries_of_has {m : JsMap V} {k : JsVal} (h : m.has k = true) (v : V) :
    (m.setEntries k v).map (·.1) = m.keys := by
  simp only [keys, setEntries, h, if_true, List.map_map]
  congr 1
  funext e
  simp only [Function.comp]
  split <;> rfl

/-- Setting replaces the entry of a key already there and appends a new key, so the keys stay
apart. -/
theorem unique_setEntries (m : JsMap V) (k : JsVal) (v : V) :
    ((m.setEntries k v).map (·.1)).Pairwise fun a b => a.sameKey b = false := by
  cases hk : m.has k
  · rw [setEntries, hk, if_neg Bool.false_ne_true, List.map_append, List.pairwise_append]
    refine ⟨m.unique, List.pairwise_singleton _ _, ?_⟩
    simp only [List.mem_map, List.map_cons, List.map_nil, List.mem_singleton]
    rintro _ ⟨e, he, rfl⟩ _ rfl
    exact has_eq_false.mp hk e he
  · rw [keys_setEntries_of_has hk]
    exact m.unique

/-- `m.set(k, v)`. -/
def set (m : JsMap V) (k : JsVal) (v : V) : JsMap V :=
  ⟨m.setEntries k v, m.unique_setEntries k v⟩

/-- `m.delete(k)`. -/
def delete (m : JsMap V) (k : JsVal) : JsMap V :=
  ⟨m.entries.filter (fun e => !e.1.sameKey k), m.unique.sublist ((List.filter_sublist _).map _)⟩

/-- `m.get(k)`. -/
def get? (m : JsMap V) (k : JsVal) : Option V :=
  (m.entries.find? (·.1.sameKey k)).map (·.2)

theorem entries_set_of_not_has {m : JsMap V} {k : JsVal} (h : m.has k = false) (v : V) :
    (m.set k v).entries = m.entries ++ [(k, v)] := by
  simp [set, setEntries, h]

/-- Deleting a primitive key that `set` just added gives the map back. -/
theorem delete_set_of_not_has {m : JsMap V} {k : JsVal} (h : m.has k = false)
    (hk : k.sameKey k = true) (v : V) : (m.set k v).delete k = m := by
  refine ext ?_
  show List.filter _ (m.set k v).entries = _
  rw [entries_set_of_not_has h, List.filter_append, List.filter_eq_self.mpr]
  · simp [hk]
  · intro e he
    simp [has_eq_false.mp h e he]

/-- Every entry of `m.set k v` is an entry of `m` or `(k, v)`. -/
theorem mem_set {m : JsMap V} {k : JsVal} {v : V} {e : JsVal × V} (he : e ∈ m.set k v) :
    e ∈ m ∨ e = (k, v) := by
  unfold set setEntries at he
  rw [mem_iff] at he
  split at he
  · obtain ⟨e', he', rfl⟩ := List.mem_map.mp he
    split
    · next hk => exact .inr (by rw [JsVal.eq_of_sameKey hk])
    · exact .inl he'
  · simpa using he

theorem mem_delete {m : JsMap V} {k : JsVal} {e : JsVal × V} :
    e ∈ m.delete k ↔ e ∈ m ∧ e.1.sameKey k = false := by
  simp [delete, mem_iff]

/-- An entry of `m` under a key other than `k` is still there after `m.set k v`. -/
theorem mem_set_of_mem {m : JsMap V} {k : JsVal} {v : V} {e : JsVal × V} (he : e ∈ m)
    (hk : e.1.sameKey k = false) : e ∈ m.set k v := by
  unfold set setEntries
  rw [mem_iff]
  split
  · exact List.mem_map.mpr ⟨e, he, by simp [hk]⟩
  · exact List.mem_append_left _ he

/-- After `m.set k v` a primitive key `k` holds `v`. -/
theorem mem_set_self (m : JsMap V) {k : JsVal} (hk : k.sameKey k = true) (v : V) :
    (k, v) ∈ m.set k v := by
  unfold set setEntries
  rw [mem_iff]
  split
  · obtain ⟨e, he, hek⟩ := List.any_eq_true.mp ‹_›
    exact List.mem_map.mpr ⟨e, he, by simp [hek, hk, JsVal.eq_of_sameKey hek]⟩
  · simp

/-- Setting a key already there keeps the keys and their order. -/
theorem keys_set_of_has {m : JsMap V} {k : JsVal} (h : m.has k = true) (v : V) :
    (m.set k v).keys = m.keys :=
  keys_setEntries_of_has h v

/-- `m.set k v` keeps every key of `m`. -/
theorem keys_subset_set (m : JsMap V) (k : JsVal) (v : V) : m.keys ⊆ (m.set k v).keys := by
  cases hk : m.has k
  · rw [keys, keys, entries_set_of_not_has hk, List.map_append]
    exact List.subset_append_left _ _
  · rw [keys_set_of_has hk]
    exact List.Subset.refl _

/-- What `m.get(k)` finds is an entry of `m`, under a key equal to `k`. -/
theorem mem_of_get? {m : JsMap V} {k : JsVal} {v : V} (h : m.get? k = some v) :
    ∃ k', k'.sameKey k = true ∧ (k', v) ∈ m := by
  obtain ⟨e, he, rfl⟩ := Option.map_eq_some'.mp h
  exact ⟨e.1, by simpa using List.find?_some he, mem_iff.mpr (List.mem_of_find?_eq_some he)⟩

/-! ## `get` after `set` and `delete` -/

/-- A key equal to `k` reads `v` after `m.set(k, v)`; any other reads what it read before. -/
theorem get?_set (m : JsMap V) (k : JsVal) (v : V) (k' : JsVal) :
    (m.set k v).get? k' = if k.sameKey k' then some v else m.get? k' := by
  unfold get?
  cases hk : m.has k
  · rw [entries_set_of_not_has hk, List.find?_append]
    split
    · next hkk =>
      obtain rfl := JsVal.eq_of_sameKey hkk
      rw [List.find?_eq_none.mpr fun e he => by simp [has_eq_false.mp hk e (mem_iff.mpr he)]]
      simp [hkk]
    · next hkk => simp [hkk]
  · have hf : ((fun e : JsVal × V => e.1.sameKey k') ∘
        fun e : JsVal × V => if e.1.sameKey k then (e.1, v) else e) = fun e => e.1.sameKey k' := by
      funext e; simp only [Function.comp]; split <;> rfl
    simp only [set, setEntries, hk, if_true, List.find?_map, hf, Option.map_map]
    split
    · next hkk =>
      obtain rfl := JsVal.eq_of_sameKey hkk
      obtain ⟨e', hfind⟩ := Option.isSome_iff_exists.mp
        (List.find?_isSome.mpr (List.any_eq_true.mp hk))
      simp [hfind, List.find?_some hfind]
    · next hkk =>
      cases hfind : m.entries.find? (·.1.sameKey k') with
      | none => rfl
      | some e' =>
        have h1 := List.find?_some hfind
        have he' : e'.1.sameKey k = false := by
          rw [JsVal.eq_of_sameKey h1, JsVal.sameKey_comm]
          simpa using hkk
        simp [he']

/-- A key equal to `k` reads nothing after `m.delete(k)`; any other reads what it read before. -/
theorem get?_delete (m : JsMap V) (k k' : JsVal) :
    (m.delete k).get? k' = if k.sameKey k' then none else m.get? k' := by
  unfold get? delete
  rw [List.find?_filter]
  split
  · next hkk =>
    obtain rfl := JsVal.eq_of_sameKey hkk
    rw [List.find?_eq_none.mpr fun e _ => by simp]
    rfl
  · next hkk =>
    congr 2
    funext e
    cases he : e.1.sameKey k'
    · simp
    · rw [JsVal.eq_of_sameKey he, JsVal.sameKey_comm]
      simpa using hkk

/-- Setting values one after another under keys taken from them: a key reads the last value
set under an equal key, else what it read before. -/
theorem get?_foldl_set (key : V → JsVal) (xs : List V) :
    ∀ (m : JsMap V) (k : JsVal), (xs.foldl (fun m x => m.set (key x) x) m).get? k =
      (xs.reverse.find? fun x => (key x).sameKey k).or (m.get? k) := by
  induction xs with
  | nil => intro m k; rfl
  | cons x xs ih =>
    intro m k
    rw [List.foldl_cons, ih, get?_set, List.reverse_cons, List.find?_append, Option.or_assoc]
    congr 1
    by_cases hk : (key x).sameKey k <;> simp [hk]

end JsMap

/-- A response of `fetch`: its status, and what `response.json()` gives, the parsed body or the
message of the `SyntaxError` it rejects with. -/
structure Response where
  status : Nat
  json : Except String JsVal

/-- `response.ok`: a status in the range 200-299. -/
def Response.ok (r : Response) : Bool :=
  200 ≤ r.status && r.status ≤ 299

/-- What `await fetch(url)` settles to: a response, or the message of the network failure it
rejects with. -/
abbrev FetchResult := Except String Response

end Mycelial
