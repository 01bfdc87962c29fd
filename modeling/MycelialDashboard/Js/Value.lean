import Mathlib.Data.Rat.Init
import Mathlib.Algebra.Group.Nat.Basic

/-!
# JavaScript values as the hooks read them

Every payload `useP2P` and `useOrchestrator` read is the value of a `JSON.parse` (a WebSocket
frame, a REST body) or an object a spread built from one. `JsVal` is that value, with
`undefined` for a property that is not there. A JSON number is the rational its text denotes.

The hooks read payloads through a handful of operations, each modelled here as the engine
computes it, `TypeError` included: a property read (`JsVal.get`, which throws on `null` and
`undefined`), optional chaining (`JsVal.getOpt`), `||` and `??` (`JsVal.or`, `JsVal.nullishOr`),
`for ... of` (`JsVal.iterate`), `slice(0, n)` on UTF-16 code units (`JsVal.slice`), a template literal
(`JsVal.toStr`), an object spread (`JsVal.spread`), the key comparison of a `Map`
(`JsVal.sameKey`) and `===` (`JsVal.strictEq`).

`JsVal` is a nested inductive, so its `DecidableEq` instance is written out (`JsVal.decEq`).
-/

namespace Mycelial

/-- A value of `JSON.parse`, or `undefined` for a missing property. Object fields are looked up
first match first, so a field list holds the latest assignment of a key before older ones. -/
inductive JsVal where
  | undefined
  | null
  | bool (b : Bool)
  | num (q : ℚ)
  | str (s : String)
  | arr (xs : List JsVal)
  | obj (fields : List (String × JsVal))
  deriving Repr, Inhabited

namespace JsVal

mutual
/-- Structural equality of values. -/
def decEq : (a b : JsVal) → Decidable (a = b)
  | .undefined, .undefined => isTrue rfl
  | .null, .null => isTrue rfl
  | .bool x, .bool y => decidable_of_iff (x = y) (by simp)
  | .num x, .num y => decidable_of_iff (x = y) (by simp)
  | .str x, .str y => decidable_of_iff (x = y) (by simp)
  | .arr xs, .arr ys =>
    have := decEqList xs ys
    decidable_of_iff (xs = ys) (by simp)
  | .obj xs, .obj ys =>
    have := decEqFields xs ys
    decidable_of_iff (xs = ys) (by simp)
  | .undefined, .null | .undefined, .bool _ | .undefined, .num _ | .undefined, .str _
  | .undefined, .arr _ | .undefined, .obj _
  | .null, .undefined | .null, .bool _ | .null, .num _ | .null, .str _ | .null, .arr _
  | .null, .obj _
  | .bool _, .undefined | .bool _, .null | .bool _, .num _ | .bool _, .str _ | .bool _, .arr _
  | .bool _, .obj _
  | .num _, .undefined | .num _, .null | .num _, .bool _ | .num _, .str _ | .num _, .arr _
  | .num _, .obj _
  | .str _, .undefined | .str _, .null | .str _, .bool _ | .str _, .num _ | .str _, .arr _
  | .str _, .obj _
  | .arr _, .undefined | .arr _, .null | .arr _, .bool _ | .arr _, .num _ | .arr _, .str _
  | .arr _, .obj _
  | .obj _, .undefined | .obj _, .null | .obj _, .bool _ | .obj _, .num _ | .obj _, .str _
  | .obj _, .arr _ => isFalse nofun

/-- Structural equality of element lists. -/
def decEqList : (a b : List JsVal) → Decidable (a = b)
  | [], [] => isTrue rfl
  | [], _ :: _ | _ :: _, [] => isFalse nofun
  | a :: as, b :: bs =>
    have := decEq a b
    have := decEqList as bs
    decidable_of_iff (a = b ∧ as = bs) (by simp)

/-- Structural equality of field lists. -/
def decEqFields : (a b : List (String × JsVal)) → Decidable (a = b)
  | [], [] => isTrue rfl
  | [], _ :: _ | _ :: _, [] => isFalse nofun
  | (k, a) :: as, (l, b) :: bs =>
    have := decEq a b
    have := decEqFields as bs
    decidable_of_iff ((k = l ∧ a = b) ∧ as = bs) (by simp)
end

instance : DecidableEq JsVal := decEq

end JsVal

/-- A `TypeError` the engine throws while a hook reads a payload. -/
inductive TypeError where
  /-- Reading property `key` of `null` or `undefined`. -/
  | readProperty (base : JsVal) (key : String)
  /-- `for ... of` over a value that is not iterable. -/
  | notIterable (v : JsVal)
  /-- Calling `method` on a value that has no such function, e.g. `id.slice` on a number. -/
  | notFunction (v : JsVal) (method : String)
  /-- A template literal over an object whose own `toString` is not callable. -/
  | noPrimitive
  deriving Repr

/-- `err.message` of a `TypeError`, in the engine's words. -/
def TypeError.message : TypeError → String
  | .readProperty .null key => s!"Cannot read properties of null (reading '{key}')"
  | .readProperty _ key => s!"Cannot read properties of undefined (reading '{key}')"
  | .notIterable _ => "object is not iterable"
  | .notFunction _ method => s!"{method} is not a function"
  | .noPrimitive => "Cannot convert object to primitive value"

/-- `Number::toString` of a number a JSON text denotes: its decimal expansion, without the
exponent form the engine uses below `1e-6` and from `1e21` on. -/
def numberToString (q : ℚ) : String :=
  match (List.range (q.den + 1)).find? (fun k => 10 ^ k % q.den == 0) with
  | some k =>
    let digits := toString (q.num.natAbs * (10 ^ k / q.den))
    let padded := String.mk (List.replicate (k + 1 - digits.length) '0') ++ digits
    (if q.num < 0 then "-" else "") ++ padded.dropRight k ++
      (if k = 0 then "" else "." ++ padded.takeRight k)
  | none => toString q

/-! ## `Except` as the engine's exceptions -/

@[simp] theorem except_ok_bind {ε α β : Type} (a : α) (f : α → Except ε β) :
    (Except.ok a >>= f) = f a := rfl

@[simp] theorem except_error_bind {ε α β : Type} (e : ε) (f : α → Except ε β) :
    (Except.error e >>= f) = Except.error e := rfl

@[simp] theorem except_pure {ε α : Type} (a : α) : (pure a : Except ε α) = .ok a := rfl

theorem except_mapError_eq_ok {ε ε' α : Type} {f : ε → ε'} {x : Except ε α} {a : α}
    (h : x.mapError f = .ok a) : x = .ok a := by
  cases x <;> cases h; rfl

theorem except_bind_eq_ok {ε α β : Type} {x : Except ε α} {f : α → Except ε β} {b : β} :
    (x >>= f) = .ok b ↔ ∃ a, x = .ok a ∧ f a = .ok b := by
  cases x <;> simp

namespace JsVal

/-- `ToBoolean`: `undefined`, `null`, `false`, `0` and `""` are falsy. -/
def truthy : JsVal → Bool
  | .undefined | .null => false
  | .bool b => b
  | .num q => q != 0
  | .str s => s != ""
  | .arr _ | .obj _ => true

/-- `undefined` or `null`. -/
def isNullish : JsVal → Bool
  | .undefined | .null => true
  | _ => false

/-- The first field named `key`, `undefined` when there is none. -/
def field (fs : List (String × JsVal)) (key : String) : JsVal :=
  ((fs.find? (·.1 = key)).map (·.2)).getD .undefined

/-- `v?.key`: `undefined` on `null` and `undefined`. The keys the hooks read are own fields of an
object and no property of a primitive or an array. -/
def getOpt : JsVal → String → JsVal
  | .obj fs, key => field fs key
  | _, _ => .undefined

/-- `v.key`: a `TypeError` on `null` and `undefined`, else `v?.key`. -/
def get (v : JsVal) (key : String) : Except TypeError JsVal :=
  if v.isNullish then .error (.readProperty v key) else .ok (v.getOpt key)

/-- `a || b` once both operands are values. -/
def or (a b : JsVal) : JsVal :=
  if a.truthy then a else b

/-- `a ?? b` once both operands are values. -/
def nullishOr (a b : JsVal) : JsVal :=
  if a.isNullish then b else a

/-- The values `for (const x of v)` visits: an array's elements, a string's code points. -/
def iterate : JsVal → Except TypeError (List JsVal)
  | .arr xs => .ok xs
  | .str s => .ok (s.toList.map fun c => .str c.toString)
  | v => .error (.notIterable v)

/-- `s.slice(0, n)` on the characters of a string: its first `n` UTF-16 code units. A character
from `0x10000` on is two units; a cut between them leaves its high surrogate alone, which a Lean
`String` cannot hold, so the string ends with U+FFFD there, the character a page shows for it. -/
def sliceUnits : List Char → Nat → List Char
  | [], _ | _, 0 => []
  | c :: cs, n + 1 =>
    if c.toNat < 0x10000 then c :: sliceUnits cs n
    else match n with
      | 0 => [Char.ofNat 0xFFFD]
      | n + 1 => c :: sliceUnits cs n

/-- On characters of the Basic Multilingual Plane, one unit each, `slice(0, n)` keeps the first
`n` characters. -/
theorem sliceUnits_of_bmp : ∀ {cs : List Char} (n : Nat), (∀ c ∈ cs, c.toNat < 0x10000) →
    sliceUnits cs n = cs.take n
  | [], _, _ => by simp [sliceUnits]
  | _ :: _, 0, _ => rfl
  | c :: cs, n + 1, h => by
    simp only [sliceUnits, if_pos (h c (List.mem_cons_self _ _)),
      sliceUnits_of_bmp n fun c hc => h c (List.mem_cons_of_mem _ hc), List.take_succ_cons]

example : sliceUnits "ab😀".toList 3 = ['a', 'b', Char.ofNat 0xFFFD] := by decide

/-- `v.slice(0, n)` on a string (its first `n` UTF-16 code units) or an array. -/
def slice (v : JsVal) (n : Nat) : Except TypeError JsVal :=
  match v with
  | .str s => .ok (.str ⟨sliceUnits s.toList n⟩)
  | .arr xs => .ok (.arr (xs.take n))
  | .undefined | .null => .error (.readProperty v "slice")
  | v => .error (.notFunction v "slice")

mutual
/-- `${v}` in a template literal. An object is `[object Object]` unless it has an own
`toString` field, which is never callable in a parsed value. -/
def toStr : JsVal → Except TypeError String
  | .undefined => .ok "undefined"
  | .null => .ok "null"
  | .bool b => .ok (toString b)
  | .num q => .ok (numberToString q)
  | .str s => .ok s
  | .arr xs => join xs
  | .obj fs => if fs.any (·.1 = "toString") then .error .noPrimitive else .ok "[object Object]"

/-- `Array.prototype.join(",")`: `null` and `undefined` elements are empty. -/
def join : List JsVal → Except TypeError String
  | [] => .ok ""
  | x :: xs => do
    let a ← if x.isNullish then pure "" else toStr x
    if xs.isEmpty then pure a else pure (a ++ "," ++ (← join xs))
end

/-- The own fields `{ ...v }` copies: an object's fields, the index keys of an array or a
string, nothing of another primitive. -/
def spread : JsVal → List (String × JsVal)
  | .obj fs => fs
  | .arr xs => xs.enum.map fun (i, x) => (toString i, x)
  | .str s => s.toList.enum.map fun (i, c) => (toString i, .str c.toString)
  | _ => []

/-- `SameValueZero`, the key comparison of a `Map`. An array or an object a hook uses as a key
is a fresh value of its own `JSON.parse`, so it is never the same value as a key already in
the map. -/
def sameKey : JsVal → JsVal → Bool
  | .undefined, .undefined | .null, .null => true
  | .bool a, .bool b => a == b
  | .num a, .num b => a == b
  | .str a, .str b => a == b
  | _, _ => false

/-- `a === b`. A JSON number is never `NaN`, and `-0 === 0`, so on primitives this is
`SameValueZero`; an array or an object of one `JSON.parse` is never one of another. -/
def strictEq (a b : JsVal) : Bool :=
  a.sameKey b

/-! ## Small lemmas -/

@[simp] theorem get_obj (fs : List (String × JsVal)) (key : String) :
    (obj fs).get key = .ok (field fs key) := rfl

@[simp] theorem getOpt_obj (fs : List (String × JsVal)) (key : String) :
    (obj fs).getOpt key = field fs key := rfl

@[simp] theorem field_cons_self (k : String) (v : JsVal) (fs : List (String × JsVal)) :
    field ((k, v) :: fs) k = v := by
  simp [field]

theorem field_cons_of_ne {k key : String} (h : k ≠ key) (v : JsVal)
    (fs : List (String × JsVal)) :
    field ((k, v) :: fs) key = field fs key := by
  simp [field, h]

@[simp] theorem field_nil (key : String) : field [] key = .undefined := rfl

theorem get_of_not_isNullish {v : JsVal} (h : v.isNullish = false) (key : String) :
    v.get key = .ok (v.getOpt key) := by
  simp [get, h]

/-- A read that does not throw reads `getOpt`. -/
theorem getOpt_of_get {v r : JsVal} {key : String} (h : v.get key = .ok r) : v.getOpt key = r := by
  unfold get at h
  split at h <;> cases h
  rfl

/-- Fields listed before a spread that do not carry `key` leave its read to the spread. -/
theorem field_append_of_forall_ne {fields : List (String × JsVal)} {key : String}
    (h : ∀ p ∈ fields, p.1 ≠ key) (fs : List (String × JsVal)) :
    field (fields ++ fs) key = field fs key := by
  have hn : fields.find? (·.1 = key) = none :=
    List.find?_eq_none.mpr fun p hp => by simpa using h p hp
  simp only [field, List.find?_append, hn, Option.none_or]

@[simp] theorem or_of_truthy {a : JsVal} (h : a.truthy = true) (b : JsVal) : a.or b = a := by
  simp [JsVal.or, h]

@[simp] theorem or_of_not_truthy {a : JsVal} (h : a.truthy = false) (b : JsVal) : a.or b = b := by
  simp [JsVal.or, h]

/-- `a || b` is truthy exactly when one operand is. -/
theorem truthy_or (a b : JsVal) : (a.or b).truthy = (a.truthy || b.truthy) := by
  cases h : a.truthy <;> simp [JsVal.or, h]

theorem isNullish_of_truthy {v : JsVal} (h : v.truthy = true) : v.isNullish = false := by
  cases v <;> simp_all [truthy, isNullish]

/-- A value that is neither an array nor an object is the same key as itself. -/
theorem sameKey_self {k : JsVal} (ha : ∀ xs, k ≠ arr xs) (ho : ∀ fs, k ≠ obj fs) :
    k.sameKey k = true := by
  cases k <;> simp_all [sameKey]

theorem sameKey_comm (a b : JsVal) : a.sameKey b = b.sameKey a := by
  cases a <;> cases b <;> simp only [sameKey] <;> exact Bool.beq_comm

/-- `SameValueZero` holds only between equal values. -/
theorem eq_of_sameKey {a b : JsVal} (h : a.sameKey b = true) : a = b := by
  cases a <;> cases b <;> simp_all [sameKey]

@[simp] theorem sameKey_str (a b : String) : (str a).sameKey (str b) = (a == b) := rfl

end JsVal

end Mycelial
