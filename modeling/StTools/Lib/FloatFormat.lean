import Mathlib.Data.Int.Log
import Mathlib.Data.Rat.Floor
import Mathlib.Algebra.Order.Field.Rat
import Mathlib.Tactic.Linarith
import Mathlib.Tactic.Ring

/-!
# Floating-point formats

The numbers of a format are the multiples of a power of two that depends on their size: the larger a
number is, the further it is to the next one, and below a size the distance stays the same.  Rounding
goes to the nearest number, and to the even multiple between two.

The exponents are not bounded from above.  Rounding is monotone and leaves the numbers of the format
as they are, and all of them are multiples of one quantum.
-/

/-! ## Rounding to integers -/

/-- The nearest integer, and the even one between two. -/
def roundEven (q : ℚ) : ℤ :=
  if q + 1 / 2 = ⌊q + 1 / 2⌋ ∧ ⌊q + 1 / 2⌋ % 2 = 1 then ⌊q + 1 / 2⌋ - 1 else ⌊q + 1 / 2⌋

lemma roundEven_le_floor (q : ℚ) : roundEven q ≤ ⌊q + 1 / 2⌋ := by
  unfold roundEven
  split_ifs <;> omega

@[simp] lemma roundEven_intCast (z : ℤ) : roundEven z = z := by
  have hfloor : ⌊(z : ℚ) + 1 / 2⌋ = z := by
    rw [Int.floor_eq_iff]
    constructor <;> linarith
  rw [roundEven, hfloor, if_neg]
  rintro ⟨htie, -⟩
  linarith

lemma roundEven_le_roundEven {q q' : ℚ} (hle : q ≤ q') : roundEven q ≤ roundEven q' := by
  have hfloor : ⌊q + 1 / 2⌋ ≤ ⌊q' + 1 / 2⌋ := Int.floor_le_floor (by linarith)
  have hbelow := roundEven_le_floor q
  by_cases hq' : q' + 1 / 2 = ⌊q' + 1 / 2⌋ ∧ ⌊q' + 1 / 2⌋ % 2 = 1
  · have hround : roundEven q' = ⌊q' + 1 / 2⌋ - 1 := if_pos hq'
    rcases hfloor.lt_or_eq with hlt | heq
    · omega
    · -- the floor of the smaller one is the larger one itself, so they are the same
      have hlow := Int.floor_le (q + 1 / 2)
      rw [heq, ← hq'.1] at hlow
      have hsame : q = q' := by linarith
      rw [hsame]
  · have hround : roundEven q' = ⌊q' + 1 / 2⌋ := if_neg hq'
    omega

lemma roundEven_neg (q : ℚ) : roundEven (-q) = -roundEven q := by
  have hlow := Int.floor_le (q + 1 / 2)
  have hhigh := Int.lt_floor_add_one (q + 1 / 2)
  rcases hlow.eq_or_lt with htie | hlt
  · have hfloor : ⌊-q + 1 / 2⌋ = 1 - ⌊q + 1 / 2⌋ := by
      rw [Int.floor_eq_iff]
      push_cast
      constructor <;> linarith
    have htie' : -q + 1 / 2 = ((1 - ⌊q + 1 / 2⌋ : ℤ) : ℚ) := by
      push_cast
      linarith
    rw [roundEven, roundEven, hfloor]
    by_cases hodd : ⌊q + 1 / 2⌋ % 2 = 1
    · rw [if_neg fun h => by omega, if_pos ⟨htie.symm, hodd⟩]
      ring
    · rw [if_pos ⟨htie', by omega⟩, if_neg fun h => hodd h.2]
      ring
  · have hfloor : ⌊-q + 1 / 2⌋ = -⌊q + 1 / 2⌋ := by
      rw [Int.floor_eq_iff]
      push_cast
      constructor <;> linarith
    rw [roundEven, roundEven, hfloor, if_neg fun h => ?_, if_neg fun h => hlt.ne h.1.symm]
    have htie := h.1
    push_cast at htie
    linarith

/-! ## Formats -/

/-- A format: how many binary digits a number has, and the exponent of the smallest step. -/
structure FloatFormat where
  precision : ℕ
  precision_pos : 0 < precision
  minExponent : ℤ

namespace FloatFormat

variable (F : FloatFormat)

/-- The exponent of the step between numbers of the size of `q`. -/
def exponent (q : ℚ) : ℤ := max (Int.log 2 |q| + 1 - F.precision) F.minExponent

/-- Rounding. -/
def round (q : ℚ) : ℚ := roundEven (q / 2 ^ F.exponent q) * 2 ^ F.exponent q

/-- A number of the format. -/
def IsValue (q : ℚ) : Prop := ∃ m : ℤ, q = m * 2 ^ F.exponent q

variable {F} {q q' : ℚ}

lemma exponent_neg (q : ℚ) : F.exponent (-q) = F.exponent q := by
  rw [exponent, abs_neg, exponent]

lemma zpow_exponent_pos (q : ℚ) : (0 : ℚ) < 2 ^ F.exponent q := zpow_pos two_pos _

lemma minExponent_le_exponent (q : ℚ) : F.minExponent ≤ F.exponent q := le_max_right _ _

lemma round_neg (q : ℚ) : F.round (-q) = -F.round q := by
  rw [round, round, exponent_neg, neg_div, roundEven_neg, Int.cast_neg, neg_mul]

/-- A multiple of a power of two is a multiple of a smaller one. -/
lemma exists_mul_zpow {m k e : ℤ} (h : e ≤ k) : ∃ n : ℤ, (m : ℚ) * 2 ^ k = n * 2 ^ e := by
  obtain ⟨j, hj⟩ := Int.eq_ofNat_of_zero_le (sub_nonneg.mpr h)
  refine ⟨m * 2 ^ j, ?_⟩
  have hk : k = j + e := by omega
  rw [hk, zpow_add₀ two_ne_zero, zpow_natCast]
  push_cast
  ring

/-- Rounding does not go beyond a multiple of a larger step. -/
lemma round_le_of_le {m k : ℤ} (hk : F.exponent q ≤ k) (h : q ≤ m * 2 ^ k) :
    F.round q ≤ m * 2 ^ k := by
  obtain ⟨n, hn⟩ := exists_mul_zpow (m := m) hk
  rw [hn] at h ⊢
  have hpos := zpow_exponent_pos (F := F) q
  have hdiv : q / 2 ^ F.exponent q ≤ n := (div_le_iff₀ hpos).mpr h
  have hround : roundEven (q / 2 ^ F.exponent q) ≤ n := by
    simpa using roundEven_le_roundEven hdiv
  exact mul_le_mul_of_nonneg_right (by exact_mod_cast hround) hpos.le

lemma le_round_of_le {m k : ℤ} (hk : F.exponent q ≤ k) (h : m * 2 ^ k ≤ q) :
    m * 2 ^ k ≤ F.round q := by
  have hneg := round_le_of_le (q := -q) (m := -m) (exponent_neg (F := F) q ▸ hk) (by
    push_cast
    linarith)
  rw [round_neg] at hneg
  push_cast at hneg
  linarith

/-- Numbers of the format stay as they are. -/
lemma IsValue.round_eq (h : F.IsValue q) : F.round q = q := by
  obtain ⟨m, hm⟩ := h
  have hpos := zpow_exponent_pos (F := F) q
  have hdiv : q / 2 ^ F.exponent q = m := (div_eq_iff hpos.ne').mpr hm
  rw [round, hdiv, roundEven_intCast, ← hm]

@[simp] lemma round_zero : F.round 0 = 0 :=
  IsValue.round_eq ⟨0, by simp⟩

lemma round_nonneg (h : 0 ≤ q) : 0 ≤ F.round q := by
  simpa using le_round_of_le (F := F) (q := q) (m := 0) le_rfl (by simpa using h)

/-- A step that is above the smallest one has the exponent of the size of the number. -/
lemma exponent_eq_of_lt {e : ℤ} (hmin : F.minExponent ≤ e) (h : e < F.exponent q) :
    F.exponent q = Int.log 2 |q| + 1 - F.precision := by
  unfold exponent at h ⊢
  omega

lemma exponent_mono (hpos : 0 < q) (hle : q ≤ q') : F.exponent q ≤ F.exponent q' := by
  have hlog : Int.log 2 |q| ≤ Int.log 2 |q'| := by
    rw [abs_of_pos hpos, abs_of_pos (hpos.trans_le hle)]
    exact Int.log_mono_right hpos hle
  unfold exponent
  omega

/-- A number with a smaller step than the one of `v` is below the power of two of `v`. -/
lemma lt_zpow_of_exponent_lt {v : ℚ} (hq : 0 < q) (h : F.exponent q < F.exponent v) :
    q < 2 ^ Int.log 2 |v| ∧ F.exponent v ≤ Int.log 2 |v| := by
  have hv := exponent_eq_of_lt (minExponent_le_exponent q) h
  have hlog : Int.log 2 |q| + 1 - F.precision ≤ F.exponent q := le_max_left _ _
  have hprecision := F.precision_pos
  refine ⟨?_, by omega⟩
  have hlt : Int.log 2 q < Int.log 2 |v| := by
    rw [abs_of_pos hq] at hlog
    omega
  exact_mod_cast (Int.lt_zpow_iff_log_lt Nat.one_lt_two hq).mpr hlt

lemma round_le_round_of_pos (hpos : 0 < q) (hle : q ≤ q') : F.round q ≤ F.round q' := by
  have hpos' : 0 < q' := hpos.trans_le hle
  rcases (exponent_mono (F := F) hpos hle).lt_or_eq with hlt | heq
  · -- a power of two lies between them
    obtain ⟨hbelow, hexponent⟩ := lt_zpow_of_exponent_lt hpos hlt
    have habove : (2 : ℚ) ^ Int.log 2 |q'| ≤ q' := by
      rw [abs_of_pos hpos']
      exact_mod_cast Int.zpow_log_le_self Nat.one_lt_two hpos'
    have hleft := round_le_of_le (F := F) (q := q) (m := 1) (hlt.le.trans hexponent) (by
      simpa using hbelow.le)
    have hright := le_round_of_le (F := F) (q := q') (m := 1) hexponent (by simpa using habove)
    exact hleft.trans hright
  · rw [round, round, ← heq]
    refine mul_le_mul_of_nonneg_right ?_ (zpow_exponent_pos q).le
    exact_mod_cast roundEven_le_roundEven (div_le_div_of_nonneg_right hle (zpow_exponent_pos q).le)

/-- **Rounding is monotone.** -/
theorem round_mono : Monotone F.round := by
  intro q q' hle
  rcases lt_trichotomy q 0 with hneg | rfl | hpos
  · rcases lt_or_ge q' 0 with hneg' | hnonneg
    · have h := round_le_round_of_pos (F := F) (neg_pos.mpr hneg') (neg_le_neg hle)
      rw [round_neg, round_neg] at h
      exact neg_le_neg_iff.mp h
    · have h := round_nonneg (F := F) (neg_nonneg.mpr hneg.le)
      rw [round_neg] at h
      exact (neg_nonneg.mp h).trans (round_nonneg hnonneg)
  · rw [round_zero]
    exact round_nonneg hle
  · exact round_le_round_of_pos hpos hle

lemma IsValue.neg (h : F.IsValue q) : F.IsValue (-q) := by
  obtain ⟨m, hm⟩ := h
  refine ⟨-m, ?_⟩
  rw [exponent_neg, Int.cast_neg, neg_mul, ← hm]

lemma isValue_round_of_pos (hpos : 0 < q) : F.IsValue (F.round q) := by
  set v := F.round q with hv
  rcases (round_nonneg (F := F) hpos.le).eq_or_lt with hzero | hvpos
  · exact ⟨0, by simp [hv, ← hzero]⟩
  rcases le_or_gt (F.exponent v) (F.exponent q) with hle | hlt
  · exact exists_mul_zpow hle
  · -- the number has been rounded up to the next power of two
    obtain ⟨hbelow, hexponent⟩ := lt_zpow_of_exponent_lt hpos hlt
    have hhigh : v ≤ 2 ^ Int.log 2 |v| := by
      simpa using round_le_of_le (F := F) (q := q) (m := 1) (hlt.le.trans hexponent) (by
        simpa using hbelow.le)
    have hlow : (2 : ℚ) ^ Int.log 2 |v| ≤ v := by
      rw [abs_of_pos hvpos]
      exact_mod_cast Int.zpow_log_le_self Nat.one_lt_two hvpos
    obtain ⟨n, hn⟩ := exists_mul_zpow (m := 1) hexponent
    refine ⟨n, ?_⟩
    rw [← hn, Int.cast_one, one_mul]
    exact le_antisymm hhigh hlow

/-- **What rounding gives is a number of the format.** -/
theorem isValue_round (q : ℚ) : F.IsValue (F.round q) := by
  rcases lt_trichotomy q 0 with hneg | rfl | hpos
  · have h := (isValue_round_of_pos (F := F) (neg_pos.mpr hneg)).neg
    rwa [round_neg, neg_neg] at h
  · exact ⟨0, by simp⟩
  · exact isValue_round_of_pos hpos

/-- The numbers of the format are multiples of one quantum. -/
lemma IsValue.exists_mul (h : F.IsValue q) : ∃ m : ℤ, q = m * 2 ^ F.minExponent := by
  obtain ⟨m, hm⟩ := h
  rw [hm]
  exact exists_mul_zpow (minExponent_le_exponent q)

/-- A difference does not grow when it is rounded. -/
lemma IsValue.round_sub_le (h : F.IsValue q) {d : ℚ} (hd : 0 ≤ d) : F.round (q - d) ≤ q := by
  calc F.round (q - d) ≤ F.round q := round_mono (sub_le_self q hd)
    _ = q := h.round_eq

/-- A number of the format. -/
def Value (F : FloatFormat) : Type := {q : ℚ // F.IsValue q}

instance : DecidableEq F.Value := inferInstanceAs (DecidableEq {q : ℚ // F.IsValue q})

/-- The number that is nearest to `q`. -/
def nearest (F : FloatFormat) (q : ℚ) : F.Value := ⟨F.round q, isValue_round q⟩

end FloatFormat

/-- The format of a Python `float`. -/
def binary64 : FloatFormat where
  precision := 53
  precision_pos := by decide
  minExponent := -1074
