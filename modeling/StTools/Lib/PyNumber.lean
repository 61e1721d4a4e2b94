import StTools.Lib.FloatFormat

/-!
# Python numbers

A number is an `int`, which is exact, or a `float`.  An operation on two `int`s gives an `int`;
otherwise both are converted to `float`, and the result is rounded.  Numbers are compared by their
exact values.

The exponents of a `float` are not bounded from above here: what Python computes is what is computed
here as long as no number reaches `2 ^ 1024`, which `InRange` says.
-/

/-- A Python number. -/
inductive PyNumber
  | int (z : ℤ)
  | float (x : binary64.Value)
  deriving DecidableEq

namespace PyNumber

instance (n : ℕ) : OfNat PyNumber n := ⟨int n⟩

/-- The exact value. -/
def value : PyNumber → ℚ
  | int z => z
  | float x => x.1

@[simp] lemma value_int (z : ℤ) : (int z).value = z := rfl

@[simp] lemma value_float (v : binary64.Value) : (float v).value = v.1 := rfl

@[simp] lemma value_zero : (0 : PyNumber).value = 0 := rfl

/-- The number that a literal with a decimal point denotes. -/
def literal (q : ℚ) : PyNumber := float (binary64.nearest q)

/-- The function `float`. -/
def toFloat (x : PyNumber) : ℚ := binary64.round x.value

/-- The conversion to `float` does not overflow. -/
def InRange (x : PyNumber) : Prop := |x.toFloat| < 2 ^ 1024

instance : DecidablePred InRange := fun x => inferInstanceAs (Decidable (|x.toFloat| < 2 ^ 1024))

/-- An operation on two numbers, exact on `int` and rounded on `float`. -/
def arith (exact : ℤ → ℤ → ℤ) (op : ℚ → ℚ → ℚ) : PyNumber → PyNumber → PyNumber
  | int a, int b => int (exact a b)
  | x, y => float (binary64.nearest (op x.toFloat y.toFloat))

instance : Add PyNumber := ⟨arith (· + ·) (· + ·)⟩

instance : Sub PyNumber := ⟨arith (· - ·) (· - ·)⟩

instance : Mul PyNumber := ⟨arith (· * ·) (· * ·)⟩

/-- The comparisons. -/
instance : Preorder PyNumber := Preorder.lift value

variable {x y d good : PyNumber}

lemma le_def : x ≤ y ↔ x.value ≤ y.value := Iff.rfl

lemma lt_def : x < y ↔ x.value < y.value := Iff.rfl

instance : DecidableLE PyNumber := fun x y => inferInstanceAs (Decidable (x.value ≤ y.value))

instance : DecidableLT PyNumber := fun x y => inferInstanceAs (Decidable (x.value < y.value))

protected lemma not_lt : ¬ x < y ↔ y ≤ x := by
  rw [lt_def, le_def, not_lt]

/-! ## Differences -/

lemma toFloat_float (v : binary64.Value) : (float v).toFloat = v.1 := v.2.round_eq

lemma value_pos : 0 < d ↔ 0 < d.value := by
  rw [lt_def, value_zero]

lemma toFloat_nonneg (h : 0 < d) : 0 ≤ d.toFloat := FloatFormat.round_nonneg (value_pos.mp h).le

/-- What is left of a `float` is not more than it. -/
lemma float_sub_le (v : binary64.Value) (h : 0 < d) : float v - d ≤ float v := by
  have hle : binary64.round ((float v).toFloat - d.toFloat) ≤ v.1 := by
    rw [toFloat_float]
    exact v.2.round_sub_le (toFloat_nonneg h)
  cases d <;> exact hle

/-- What is left of a difference is not more than it.  (An `int` that is no `float` may be rounded up
when a `float` is subtracted from it.) -/
lemma sub_sub_le (h : 0 < d) : y - d - d ≤ y - d := by
  cases y with
  | float v =>
    cases d with
    | int b => exact float_sub_le _ h
    | float w => exact float_sub_le _ h
  | int a =>
    cases d with
    | int b =>
      have hpos : (0 : ℚ) < b := value_pos.mp h
      show (((a - b - b : ℤ)) : ℚ) ≤ ((a - b : ℤ) : ℚ)
      push_cast
      linarith
    | float w => exact float_sub_le _ h

/-- A number that loses nothing loses nothing later either. -/
lemma sub_sub_eq (h : (y - d).value = y.value) : (y - d - d).value = (y - d).value := by
  have hfloat : (y - d).toFloat = y.toFloat := congrArg binary64.round h
  have hround : binary64.round ((y - d).toFloat - d.toFloat) =
      binary64.round (y.toFloat - d.toFloat) := by rw [hfloat]
  cases y with
  | float v => cases d <;> exact hround
  | int a =>
    cases d with
    | float w => exact hround
    | int b =>
      have hzero : ((a - b : ℤ) : ℚ) = a := h
      push_cast at hzero
      show ((a - b - b : ℤ) : ℚ) = ((a - b : ℤ) : ℚ)
      push_cast
      linarith

/-! ## Falling numbers -/

/-- All numbers are multiples of one quantum. -/
lemma exists_mul (x : PyNumber) : ∃ m : ℤ, x.value = m * 2 ^ (-1074 : ℤ) := by
  cases x with
  | int z =>
    have hle : (-1074 : ℤ) ≤ 0 := by decide
    obtain ⟨n, hn⟩ := FloatFormat.exists_mul_zpow (m := z) hle
    rw [zpow_zero, mul_one] at hn
    exact ⟨n, hn⟩
  | float v => exact v.2.exists_mul

/-- How many quanta there are from one number up to another one, counting both. -/
def room (good x : PyNumber) : ℕ := (⌊(x.value - good.value) * 2 ^ 1074⌋ + 1).toNat

lemma room_pos (h : good ≤ x) : 0 < room good x := by
  have hle : good.value ≤ x.value := h
  have hfloor : 0 ≤ ⌊(x.value - good.value) * 2 ^ 1074⌋ :=
    Int.floor_nonneg.mpr (mul_nonneg (by linarith) (by positivity))
  rw [room]
  omega

/-- A number that falls loses a quantum, unless it was below already. -/
lemma room_lt (hgood : good ≤ y) (h : x < y) : room good x < room good y := by
  have hquanta : ∀ z : PyNumber, ∃ m : ℤ, (z.value - good.value) * 2 ^ 1074 = m := by
    intro z
    obtain ⟨k, hk⟩ := z.exists_mul
    obtain ⟨l, hl⟩ := good.exists_mul
    have hone : (2 : ℚ) ^ (-1074 : ℤ) * 2 ^ 1074 = 1 := by
      rw [zpow_neg, zpow_ofNat]
      exact inv_mul_cancel₀ (by positivity)
    refine ⟨k - l, ?_⟩
    rw [hk, hl, ← sub_mul, mul_assoc, hone, mul_one]
    push_cast
    ring
  obtain ⟨m, hm⟩ := hquanta x
  obtain ⟨n, hn⟩ := hquanta y
  have hxy : x.value < y.value := h
  have hy : good.value ≤ y.value := hgood
  have hpos : (0 : ℚ) < 2 ^ 1074 := by positivity
  have hnonneg : (0 : ℚ) ≤ n := hn ▸ mul_nonneg (by linarith) hpos.le
  have hlt : (m : ℚ) < n := by
    rw [← hm, ← hn]
    exact mul_lt_mul_of_pos_right (by linarith) hpos
  rw [room, room, hm, hn, Int.floor_intCast, Int.floor_intCast]
  have hn0 : 0 ≤ n := by exact_mod_cast hnonneg
  have hmn : m < n := by exact_mod_cast hlt
  omega

/-! ## Examples -/

example : (10 : PyNumber) + 1 = 11 := by decide

/-- Six and a half less than sixteen and a half is exact, but `6.4` less than `16.4` is not `10`. -/
example : literal (33 / 2) - literal (13 / 2) = literal 10 ∧
    literal 10 + literal (32 / 5) - literal (32 / 5) < literal 10 := by
  decide +kernel

end PyNumber
