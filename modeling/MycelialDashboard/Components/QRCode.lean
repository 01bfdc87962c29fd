import MycelialDashboard.Js.Value
import Mathlib.Data.List.Basic

/-!
# The pattern of `QRCode`

`QRCode` draws the invite link of the onboarding panel as a 25 × 25 pattern that looks like a
QR code: `generatePattern(data, 25)`. It hashes the UTF-16 code units of `data` with
`hash = ((hash << 5) - hash) + char` in 32 bits, draws three finder patterns and the two timing
patterns, and fills the square between them from the hash and the UTF-8 bytes of `data`.

`QRCode.patternHash_eq`: the shift-and-subtract loop, with JavaScript's conversions to 32 bits,
computes the polynomial hash `Σ cᵢ · 31 ^ (n - 1 - i)` modulo `2 ^ 32`.

Every loop writes the cells of a grid given by a function (`grid`), so each is proved to
replace that function by another (`setCell_grid`). The data loop carries `bitIndex`, the
number of cells it has filled, and `byteIndex`, which stays `bitIndex / 8`.
`QRCode.generatePattern_eq`: for `14 ≤ modules` the pattern is the grid of `patternCell`, whose
finder and timing cells do not depend on `data`: the later loops never write over them.
-/

namespace Mycelial

namespace QRCode

/-! ## The hash -/

/-- `data.charCodeAt(i)` for `i < data.length`: the UTF-16 code units of `data`, a character
outside the Basic Multilingual Plane giving its two surrogates. -/
def utf16Units (data : String) : List Nat :=
  data.toList.flatMap fun c =>
    if c.toNat < 0x10000 then [c.toNat]
    else [0xD800 + (c.toNat - 0x10000) / 0x400, 0xDC00 + (c.toNat - 0x10000) % 0x400]

/-- `new TextEncoder().encode(data)`: the UTF-8 bytes of `data` (`String.toUTF8`). -/
def encode (data : String) : List Nat :=
  (data.toList.flatMap String.utf8EncodeChar).map UInt8.toNat

/-- `ToInt32` on an integer: its residue modulo `2 ^ 32` in `[-2 ^ 31, 2 ^ 31)`. -/
def toInt32 (x : Int) : Int :=
  (x + 2147483648) % 4294967296 - 2147483648

/-- One turn of the hash loop: `hash = ((hash << 5) - hash) + char; hash = hash & hash`. The shift
and the `&` convert to 32 bits; the subtraction and the addition are exact. -/
def hashStep (hash : Int) (char : Nat) : Int :=
  toInt32 (toInt32 (toInt32 hash * 32) - hash + char)

/-- The hash `generatePattern` computes, from `0`. -/
def patternHash (data : String) : Int :=
  (utf16Units data).foldl hashStep 0

theorem hashStep_toInt32 (h : Int) (c : Nat) : hashStep (toInt32 h) c = toInt32 (31 * h + c) := by
  unfold hashStep toInt32
  omega

theorem foldl_hashStep (cs : List Nat) (h : Int) :
    cs.foldl hashStep (toInt32 h) = toInt32 (cs.foldl (fun (h : Int) (c : Nat) => 31 * h + c) h) := by
  induction cs generalizing h with
  | nil => rfl
  | cons c cs ih => rw [List.foldl_cons, hashStep_toInt32, ih, List.foldl_cons]

/-- **The hash is the 32-bit polynomial hash.** For every string, the shift-and-subtract loop
computes `Σ cᵢ · 31 ^ (n - 1 - i)` over the UTF-16 code units, reduced to a signed 32-bit
integer. -/
theorem patternHash_eq (data : String) :
    patternHash data = toInt32 ((utf16Units data).foldl (fun (h : Int) (c : Nat) => 31 * h + c) 0) :=
  foldl_hashStep _ 0

/-! ## The matrix -/

/-- `createMatrix(size)`: `size` rows of `size` cells, all `false`. -/
def createMatrix (size : Nat) : List (List Bool) :=
  List.replicate size (List.replicate size false)

/-- `matrix[r][c] = v`. A row index outside the matrix reads `undefined`, and setting on it
throws; a negative column sets a property of the row, not one of its cells. -/
def setCell (m : List (List Bool)) (r c : Int) (v : Bool) : Except String (List (List Bool)) :=
  if 0 ≤ r ∧ r < m.length then
    .ok (if 0 ≤ c then m.modify (·.set c.toNat v) r.toNat else m)
  else .error s!"Cannot set properties of undefined (setting '{c}')"

/-- The cell `(y, x)` of a finder pattern: `isOuter || isInner`. -/
def finderBit (y x : Nat) : Bool :=
  decide (y = 0 ∨ y = 6 ∨ x = 0 ∨ x = 6) || decide (2 ≤ y ∧ y ≤ 4 ∧ 2 ≤ x ∧ x ≤ 4)

/-- `addFinderPattern(startX, startY)`: the 7 × 7 finder pattern from `(startY, startX)`, the
cells with `startX + x < modules && startY + y < modules`. -/
def addFinderPattern (modules : Nat) (startX startY : Int) (m : List (List Bool)) :
    Except String (List (List Bool)) :=
  (List.range 7).foldlM (fun m (y : Nat) =>
    (List.range 7).foldlM (fun m (x : Nat) =>
      if startX + x < modules ∧ startY + y < modules then
        setCell m (startY + y) (startX + x) (finderBit y x)
      else pure m) m) m

/-- The timing patterns: `matrix[6][i]` and `matrix[i][6]` for `8 ≤ i < modules - 8`. -/
def addTimingPatterns (modules : Nat) (m : List (List Bool)) : Except String (List (List Bool)) :=
  (List.range' 8 (modules - 16)).foldlM (fun m (i : Nat) => do
    let m ← setCell m 6 i (i % 2 = 0)
    setCell m i 6 (i % 2 = 0)) m

/-- What the data loop carries: the matrix, `byteIndex` and `bitIndex`. -/
structure DataCursor where
  matrix : List (List Bool)
  byteIndex : Nat
  bitIndex : Nat

/-- `(hash >> (bitIndex % 32)) & 1`: `>>` shifts the sign in, `& 1` keeps the last bit. -/
def hashBit (hash : Int) (bitIndex : Nat) : Nat :=
  (hash >>> (bitIndex % 32) % 2).toNat

/-- `(dataVal >> (bitIndex % 8)) & 1` for `dataVal = dataBytes[byteIndex % dataBytes.length]`.
With no bytes the index is `NaN`, `dataVal` is `undefined` and the bit `0`. -/
def dataBit (dataBytes : List Nat) (byteIndex bitIndex : Nat) : Nat :=
  if dataBytes = [] then 0
  else dataBytes.getD (byteIndex % dataBytes.length) 0 / 2 ^ (bitIndex % 8) % 2

/-- `((hashBit ^ dataBit) === 1) || ((x + y + byteIndex) % 3 === 0)`. -/
def dataValue (hash : Int) (dataBytes : List Nat) (y x byteIndex bitIndex : Nat) : Bool :=
  decide (hashBit hash bitIndex ^^^ dataBit dataBytes byteIndex bitIndex = 1) ||
    decide ((x + y + byteIndex) % 3 = 0)

/-- One turn of the data loop at row `y`, column `x`. -/
def dataStep (hash : Int) (dataBytes : List Nat) (y : Nat) (c : DataCursor) (x : Nat) :
    Except String DataCursor :=
  if x = 6 ∨ y = 6 then pure c
  else do
    let matrix ← setCell c.matrix y x (dataValue hash dataBytes y x c.byteIndex c.bitIndex)
    let bitIndex := c.bitIndex + 1
    pure ⟨matrix, if bitIndex % 8 = 0 then c.byteIndex + 1 else c.byteIndex, bitIndex⟩

/-- The data loop, over rows and columns `8 ≤ · < modules - 8`. -/
def dataLoop (hash : Int) (dataBytes : List Nat) (modules : Nat) (c : DataCursor) :
    Except String DataCursor :=
  (List.range' 8 (modules - 16)).foldlM (fun c y =>
    (List.range' 8 (modules - 16)).foldlM (dataStep hash dataBytes y) c) c

/-- `generatePattern(data, modules)`. -/
def generatePattern (data : String) (modules : Nat) : Except String (List (List Bool)) := do
  let hash := patternHash data
  let m ← addFinderPattern modules 0 0 (createMatrix modules)
  let m ← addFinderPattern modules ((modules : Int) - 7) 0 m
  let m ← addFinderPattern modules 0 ((modules : Int) - 7) m
  let m ← addTimingPatterns modules m
  let c ← dataLoop hash (encode data) modules ⟨m, 0, 0⟩
  pure c.matrix

/-- `const modules = 25` of `QRCode`. -/
def modules : Nat := 25

/-! ## Grids -/

/-- The `n × n` grid whose cell `(y, x)` is `f y x`. -/
def grid (n : Nat) (f : Nat → Nat → Bool) : List (List Bool) :=
  (List.range n).map fun y => (List.range n).map fun x => f y x

theorem createMatrix_eq (n : Nat) : createMatrix n = grid n fun _ _ => false := by
  simp [createMatrix, grid, List.map_const']

/-- A write inside a grid replaces its cell. -/
theorem setCell_grid {n : Nat} {f : Nat → Nat → Bool} {y x : Nat} (hy : y < n) (v : Bool) :
    setCell (grid n f) y x v = .ok (grid n fun y' x' => if y' = y ∧ x' = x then v else f y' x') := by
  have hy' : (y : Int) < (grid n f).length := by simp [grid, hy]
  simp only [setCell, hy', and_true, Int.ofNat_nonneg, if_true, Int.toNat_ofNat]
  congr 1
  apply List.ext_getElem (by simp [grid])
  intro i h1 h2
  simp only [List.getElem_modify, grid, List.getElem_map, List.getElem_range]
  split_ifs with hi
  · subst hi
    apply List.ext_getElem (by simp)
    intro j h3 h4
    simp only [List.getElem_set, List.getElem_map, List.getElem_range, true_and, @eq_comm _ j x]
  · simp [Ne.symm hi]

/-- Two writes, the later on `Q` over the earlier on `P`, are one write on `R = Q ∨ P` when each
wrote the value of the one write where it is read. -/
theorem ite_ite_merge {α : Type} {P Q R : Prop} [Decidable P] [Decidable Q] [Decidable R]
    {a b c d : α} (hR : R ↔ Q ∨ P) (hQ : Q → a = d) (hP : P → ¬Q → b = d) :
    (if Q then a else if P then b else c) = if R then d else c := by
  by_cases hq : Q
  · rw [if_pos hq, if_pos (hR.mpr (.inl hq)), hQ hq]
  · by_cases hp : P
    · rw [if_neg hq, if_pos hp, if_pos (hR.mpr (.inr hp)), hP hp hq]
    · rw [if_neg hq, if_neg hp, if_neg fun hr => (hR.mp hr).elim hq hp]

/-- Grids agree when their cells inside agree. -/
theorem grid_congr {n : Nat} {f g : Nat → Nat → Bool} (h : ∀ y x, y < n → x < n → f y x = g y x) :
    grid n f = grid n g :=
  List.map_congr_left fun y hy =>
    List.map_congr_left fun x hx => h y x (List.mem_range.mp hy) (List.mem_range.mp hx)

/-- **The loop lemma.** A loop each of whose turns writes `v` on a region of a grid writes `v`
on the union of the regions. -/
theorem foldlM_grid {α : Type} {n : Nat} {v : Nat → Nat → Bool} {R : α → Nat → Nat → Prop}
    [∀ a y x, Decidable (R a y x)] {step : List (List Bool) → α → Except String (List (List Bool))} :
    ∀ {xs : List α}, (∀ a ∈ xs, ∀ f, step (grid n f) a =
        .ok (grid n fun y x => if R a y x then v y x else f y x)) →
      ∀ f, xs.foldlM step (grid n f) =
        .ok (grid n fun y x => if ∃ a ∈ xs, R a y x then v y x else f y x)
  | [], _, _ => rfl
  | a :: xs, hstep, f => by
    rw [List.foldlM_cons, hstep a (List.mem_cons_self _ _)]
    refine (foldlM_grid (fun b hb => hstep b (List.mem_cons_of_mem _ hb)) _).trans ?_
    congr 2
    funext y x
    exact ite_ite_merge (by simp [or_comm]) (fun _ => rfl) fun _ _ => rfl

/-- A turn that writes one cell inside the grid: row, column and value given up to equations. -/
theorem setCell_grid_at {n : Nat} {f v : Nat → Nat → Bool} {r c : Int} {y x : Nat} {b : Bool}
    (hy : y < n) (hr : r = y) (hc : c = x) (hb : b = v y x) :
    setCell (grid n f) r c b =
      .ok (grid n fun y' x' => if y' = y ∧ x' = x then v y' x' else f y' x') := by
  subst hr hc hb
  rw [setCell_grid hy]
  congr 2
  funext y' x'
  exact ite_congr rfl (fun h => by rw [h.1, h.2]) fun _ => rfl

/-- A region may be restated by what it means inside the grid. -/
theorem grid_ite_congr {n : Nat} {P Q : Nat → Nat → Prop} [∀ y x, Decidable (P y x)]
    [∀ y x, Decidable (Q y x)] {v f : Nat → Nat → Bool}
    (h : ∀ y x, y < n → x < n → (P y x ↔ Q y x)) :
    grid n (fun y x => if P y x then v y x else f y x) =
      grid n (fun y x => if Q y x then v y x else f y x) :=
  grid_congr fun y x hy hx => if_congr (h y x hy hx) rfl rfl

/-! ## The three finder patterns and the timing patterns -/

/-- One row of a finder pattern placed inside the grid. -/
theorem finderRow_grid {n sx sy a : Nat} (hx : sx + 7 ≤ n) (hy : sy + a < n) (f : Nat → Nat → Bool) :
    (List.range 7).foldlM (fun m (x : Nat) =>
      if (sx : Int) + x < n ∧ (sy : Int) + a < n then
        setCell m ((sy : Int) + a) ((sx : Int) + x) (finderBit a x)
      else pure m) (grid n f) =
      .ok (grid n fun y x =>
        if y = sy + a ∧ sx ≤ x ∧ x < sx + 7 then finderBit (y - sy) (x - sx) else f y x) := by
  rw [foldlM_grid (R := fun b y x => y = sy + a ∧ x = sx + b)
    (v := fun y x => finderBit (y - sy) (x - sx))]
  · congr 1
    refine grid_ite_congr fun y x _ _ => ⟨fun ⟨b, hb, h1, h2⟩ => ?_, fun ⟨h1, h2, h3⟩ => ?_⟩
    · have := List.mem_range.mp hb
      exact ⟨h1, by omega, by omega⟩
    · exact ⟨x - sx, List.mem_range.mpr (by omega), h1, by omega⟩
  · intro b hb g
    have hb := List.mem_range.mp hb
    rw [if_pos (by omega)]
    exact setCell_grid_at hy (by omega) (by omega) (by simp)

/-- `addFinderPattern` at a place inside the grid writes the 7 × 7 finder pattern there. -/
theorem addFinderPattern_grid {n sx sy : Nat} {startX startY : Int} (hsx : startX = sx)
    (hsy : startY = sy) (hx : sx + 7 ≤ n) (hy : sy + 7 ≤ n) (f : Nat → Nat → Bool) :
    addFinderPattern n startX startY (grid n f) =
      .ok (grid n fun y x => if sy ≤ y ∧ y < sy + 7 ∧ sx ≤ x ∧ x < sx + 7 then
        finderBit (y - sy) (x - sx) else f y x) := by
  subst hsx hsy
  rw [addFinderPattern, foldlM_grid (R := fun a y x => y = sy + a ∧ sx ≤ x ∧ x < sx + 7)
    (v := fun y x => finderBit (y - sy) (x - sx))]
  · congr 1
    refine grid_ite_congr fun y x _ _ => ⟨fun ⟨a, ha, h1, h2, h3⟩ => ?_, fun ⟨h1, h2, h3, h4⟩ => ?_⟩
    · have := List.mem_range.mp ha
      exact ⟨by omega, by omega, h2, h3⟩
    · exact ⟨y - sy, List.mem_range.mpr (by omega), by omega, h3, h4⟩
  · intro a ha g
    exact finderRow_grid hx (by have := List.mem_range.mp ha; omega) g

/-- `addTimingPatterns` writes `i % 2 === 0` at `(6, i)` and `(i, 6)` for `8 ≤ i < modules - 8`. -/
theorem addTimingPatterns_grid (n : Nat) (f : Nat → Nat → Bool) :
    addTimingPatterns n (grid n f) =
      .ok (grid n fun y x => if (y = 6 ∧ 8 ≤ x ∧ x < n - 8) ∨ (x = 6 ∧ 8 ≤ y ∧ y < n - 8) then
        decide ((if y = 6 then x else y) % 2 = 0) else f y x) := by
  rw [addTimingPatterns, foldlM_grid (R := fun i y x => (y = 6 ∧ x = i) ∨ (y = i ∧ x = 6))]
  · congr 1
    refine grid_ite_congr fun y x _ _ => ⟨fun ⟨i, hi, h⟩ => ?_, fun h => ?_⟩
    · have := List.mem_range'_1.mp hi
      omega
    · rcases h with ⟨h1, h2, h3⟩ | ⟨h1, h2, h3⟩
      · exact ⟨x, List.mem_range'_1.mpr (by omega), .inl ⟨h1, rfl⟩⟩
      · exact ⟨y, List.mem_range'_1.mpr (by omega), .inr ⟨rfl, h1⟩⟩
  · intro i hi g
    have hi := List.mem_range'_1.mp hi
    rw [setCell_grid_at (v := fun y x => decide ((if y = 6 then x else y) % 2 = 0))
      (show 6 < n by omega) (by simp) rfl (by simp)]
    refine (setCell_grid_at (v := fun y x => decide ((if y = 6 then x else y) % 2 = 0)) (x := 6)
      (show i < n by omega) rfl (by simp) (by simp [show i ≠ 6 by omega])).trans ?_
    congr 2
    funext y x
    exact ite_ite_merge or_comm (fun _ => rfl) fun _ _ => rfl

/-! ## The data loop -/

/-- `byteIndex` is `bitIndex / 8`: it grows when `bitIndex` reaches a multiple of 8. -/
theorem byteIndex_succ (b : Nat) :
    (if (b + 1) % 8 = 0 then b / 8 + 1 else b / 8) = (b + 1) / 8 := by
  split_ifs <;> omega

/-- The columns `s ≤ x < s + k` of a data row `y`, from `bitIndex = b`: the cell `x` gets index
`b + (x - s)`. -/
theorem dataRow_grid {hash : Int} {dataBytes : List Nat} {n y : Nat} (hy8 : 8 ≤ y) (hy : y < n) :
    ∀ (k s b : Nat) (f : Nat → Nat → Bool), 8 ≤ s →
      (List.range' s k).foldlM (dataStep hash dataBytes y) ⟨grid n f, b / 8, b⟩ =
        .ok ⟨grid n fun y' x' => if y' = y ∧ s ≤ x' ∧ x' < s + k then
            dataValue hash dataBytes y' x' ((b + (x' - s)) / 8) (b + (x' - s)) else f y' x',
          (b + k) / 8, b + k⟩
  | 0, s, b, f, _ => by
    simp only [List.range'_zero, List.foldlM_nil, Nat.add_zero, except_pure]
    congr 2
    exact grid_congr fun _ _ _ _ => (if_neg (by omega)).symm
  | k + 1, s, b, f, hs => by
    rw [List.range'_succ, List.foldlM_cons, dataStep, if_neg (by omega),
      setCell_grid_at (v := fun y' x' => dataValue hash dataBytes y' x' ((b + (x' - s)) / 8)
        (b + (x' - s))) hy rfl rfl (by simp)]
    simp only [except_ok_bind, except_pure, byteIndex_succ]
    refine (dataRow_grid hy8 hy k (s + 1) (b + 1) _ (by omega)).trans ?_
    congr 2
    · congr 1
      funext y' x'
      exact ite_ite_merge (by omega)
        (fun _ => by rw [show b + 1 + (x' - (s + 1)) = b + (x' - s) by omega]) fun _ _ => rfl
    all_goals omega

/-- The rows `s ≤ y < s + j` of the data loop, from `bitIndex = b`: the cell `(y, x)` gets index
`b + (y - s) * w + (x - 8)`, for `w = modules - 16` columns. -/
theorem dataRows_grid {hash : Int} {dataBytes : List Nat} {n : Nat} :
    ∀ (j s b : Nat) (f : Nat → Nat → Bool), 8 ≤ s → s + j ≤ n →
      (List.range' s j).foldlM (fun c (y : Nat) =>
          (List.range' 8 (n - 16)).foldlM (dataStep hash dataBytes y) c) ⟨grid n f, b / 8, b⟩ =
        .ok ⟨grid n fun y x => if s ≤ y ∧ y < s + j ∧ 8 ≤ x ∧ x < 8 + (n - 16) then
            dataValue hash dataBytes y x ((b + (y - s) * (n - 16) + (x - 8)) / 8)
              (b + (y - s) * (n - 16) + (x - 8)) else f y x,
          (b + j * (n - 16)) / 8, b + j * (n - 16)⟩
  | 0, s, b, f, _, _ => by
    simp only [List.range'_zero, List.foldlM_nil, Nat.zero_mul, Nat.add_zero, except_pure]
    congr 2
    exact grid_congr fun _ _ _ _ => (if_neg (by omega)).symm
  | j + 1, s, b, f, hs, hj => by
    rw [List.range'_succ, List.foldlM_cons, dataRow_grid (by omega) (by omega) _ _ _ _ le_rfl,
      except_ok_bind]
    refine (dataRows_grid j (s + 1) (b + (n - 16)) _ (by omega) (by omega)).trans ?_
    have hw : ∀ y, s + 1 ≤ y → b + (n - 16) + (y - (s + 1)) * (n - 16) = b + (y - s) * (n - 16) := by
      intro y hy
      rw [show y - s = y - (s + 1) + 1 by omega, Nat.succ_mul]
      omega
    rw [Nat.succ_mul]
    congr 2
    · congr 1
      funext y x
      exact ite_ite_merge (by omega) (fun _ => by rw [hw y (by omega)]) fun h _ => by
        rw [h.1, Nat.sub_self, Nat.zero_mul, Nat.add_zero]
    all_goals omega

theorem dataLoop_grid (hash : Int) (dataBytes : List Nat) {n : Nat} (hn : 8 ≤ n)
    (f : Nat → Nat → Bool) :
    dataLoop hash dataBytes n ⟨grid n f, 0, 0⟩ =
      .ok ⟨grid n fun y x => if 8 ≤ y ∧ y < n - 8 ∧ 8 ≤ x ∧ x < n - 8 then
          dataValue hash dataBytes y x (((y - 8) * (n - 16) + (x - 8)) / 8)
            ((y - 8) * (n - 16) + (x - 8)) else f y x,
        (n - 16) * (n - 16) / 8, (n - 16) * (n - 16)⟩ := by
  rw [dataLoop, dataRows_grid (n - 16) 8 0 f le_rfl (by omega)]
  simp only [Nat.zero_add]
  congr 2
  exact grid_congr fun y x _ _ => if_congr (by omega) rfl rfl

/-! ## The pattern -/

/-- The cell `(y, x)` of `generatePattern(data, modules)` for `14 ≤ modules`: what the last loop
that writes it wrote. That is a data cell of the square `8 ≤ y, x < modules - 8`, from its
row-major index `bitIndex` and `byteIndex = bitIndex / 8`; else a timing cell of row or
column 6; else a cell of the finder pattern in the bottom-left, top-right or top-left corner;
else `false`. The regions are apart, so no loop writes over another. -/
def patternCell (hash : Int) (dataBytes : List Nat) (modules y x : Nat) : Bool :=
  if 8 ≤ y ∧ y < modules - 8 ∧ 8 ≤ x ∧ x < modules - 8 then
    dataValue hash dataBytes y x (((y - 8) * (modules - 16) + (x - 8)) / 8)
      ((y - 8) * (modules - 16) + (x - 8))
  else if (y = 6 ∧ 8 ≤ x ∧ x < modules - 8) ∨ (x = 6 ∧ 8 ≤ y ∧ y < modules - 8) then
    decide ((if y = 6 then x else y) % 2 = 0)
  else if modules - 7 ≤ y ∧ x < 7 then finderBit (y - (modules - 7)) x
  else if y < 7 ∧ modules - 7 ≤ x then finderBit y (x - (modules - 7))
  else if y < 7 ∧ x < 7 then finderBit y x
  else false

/-- **The pattern.** For every string and every size from 14 on (`QRCode` uses 25),
`generatePattern` returns the `modules × modules` grid of `patternCell`: the finder patterns in
the three corners and the timing cells are the same for every `data`, and each data cell is
written once, with the `bitIndex` it is reached at. -/
theorem generatePattern_eq (data : String) {modules : Nat} (h : 14 ≤ modules) :
    generatePattern data modules =
      .ok (grid modules (patternCell (patternHash data) (encode data) modules)) := by
  have h0 : (0 : Int) = ((0 : Nat) : Int) := rfl
  have h7 : (modules : Int) - 7 = ((modules - 7 : Nat) : Int) := by omega
  simp only [generatePattern, createMatrix_eq]
  rw [addFinderPattern_grid h0 h0 (by omega) (by omega), except_ok_bind,
    addFinderPattern_grid h7 h0 (by omega) (by omega), except_ok_bind,
    addFinderPattern_grid h0 h7 (by omega) (by omega), except_ok_bind,
    addTimingPatterns_grid, except_ok_bind, dataLoop_grid _ _ (by omega), except_ok_bind,
    except_pure]
  refine congrArg Except.ok (grid_congr fun y x hy hx => ?_)
  -- the finder regions of the loops, read inside the grid, are those of `patternCell`
  simp only [patternCell, Nat.zero_le, true_and, Nat.zero_add, Nat.sub_zero,
    Nat.sub_add_cancel (show 7 ≤ modules by omega), hx, hy, and_true]

/-- The pattern `QRCode` draws for an invite link. -/
theorem invite_link_pattern :
    14 ≤ modules ∧
      generatePattern "http://localhost:5173/join?bootstrap=%2Fip4%2F127.0.0.1" modules =
        .ok (grid modules (patternCell
          (patternHash "http://localhost:5173/join?bootstrap=%2Fip4%2F127.0.0.1")
          (encode "http://localhost:5173/join?bootstrap=%2Fip4%2F127.0.0.1") modules)) :=
  ⟨by decide, generatePattern_eq _ (by decide)⟩

end QRCode

end Mycelial
