import StTools.RunTitansim.PythonText
import Mathlib.Data.Rat.Floor
import Mathlib.Algebra.Order.Ring.Abs
import Mathlib.Algebra.BigOperators.Group.List.Basic
import Mathlib.Tactic.Ring
import Mathlib.Tactic.FieldSimp
import Mathlib.Tactic.Positivity

/-!
# Times of test cases

A time is a number of Python: an integer, or a float, whose value is a rational number here.  A result
file has the time of a test case with six digits behind the point, and `float` reads it back; a time
that is a multiple of a millionth is not changed by this (`float_fixed6`).

The time of a suite is a sum, and its text says whether it is the sum of integers only.
-/

namespace HssRtc.Junit

open ScenarioDeployGenerator (Text intToString)
open RunTitansim (isWhite strip strip_eq_self digitsToNat)
open TextSearch

/-! ## Numbers -/

/-- A number of Python. -/
inductive PyNumber
  | int (n : ℤ)
  | float (q : ℚ)
  deriving DecidableEq

namespace PyNumber

/-- The value of a number. -/
def value : PyNumber → ℚ
  | int n => n
  | float q => q

/-- The number is an integer. -/
def isInt : PyNumber → Bool
  | int _ => true
  | float _ => false

/-- Addition: an integer only if both numbers are integers. -/
def add : PyNumber → PyNumber → PyNumber
  | int m, int n => int (m + n)
  | x, y => float (x.value + y.value)

/-- The function `sum`. -/
def sum (xs : List PyNumber) : PyNumber := xs.foldl add (int 0)

variable {x y : PyNumber} {xs : List PyNumber}

/-- Numbers of one type with one value are the same. -/
lemma ext_value (hint : x.isInt = y.isInt) (hvalue : x.value = y.value) : x = y := by
  cases x <;> cases y <;> simp_all [isInt, value]

@[simp] lemma value_add : (x.add y).value = x.value + y.value := by
  cases x <;> cases y <;> simp [add, value]

@[simp] lemma isInt_add : (x.add y).isInt = (x.isInt && y.isInt) := by
  cases x <;> cases y <;> rfl

/-- The loop of `sum`. -/
lemma foldl_add (xs : List PyNumber) (x : PyNumber) :
    (xs.foldl add x).value = x.value + (xs.map value).sum ∧
      (xs.foldl add x).isInt = (x.isInt && xs.all isInt) := by
  induction xs generalizing x with
  | nil => simp
  | cons y ys ih =>
    obtain ⟨hvalue, hint⟩ := ih (x.add y)
    refine ⟨?_, ?_⟩
    · rw [List.foldl_cons, hvalue, value_add, List.map_cons, List.sum_cons, add_assoc]
    · rw [List.foldl_cons, hint, isInt_add, List.all_cons, Bool.and_assoc]

/-- The value of a sum. -/
lemma value_sum : (sum xs).value = (xs.map value).sum := by
  rw [sum, (foldl_add xs _).1]
  simp [value]

/-- A sum is an integer when all its terms are. -/
lemma isInt_sum : (sum xs).isInt = xs.all isInt := by
  rw [sum, (foldl_add xs _).2]
  rfl

end PyNumber

/-- What `str` makes of a float.  Its text has a point or an exponent, so it is not the text of an
integer. -/
structure FloatText where
  text : ℚ → Text
  ne_intToString : ∀ q n, text q ≠ intToString n

/-- The function `str` for numbers. -/
def FloatText.str (F : FloatText) : PyNumber → Text
  | .int n => intToString n
  | .float q => F.text q

/-! ## Six digits behind the point -/

/-- The nearest integer, and the even one of two. -/
def roundEven (q : ℚ) : ℤ :=
  if 2 * (q - ⌊q⌋) < 1 ∨ 2 * (q - ⌊q⌋) = 1 ∧ ⌊q⌋ % 2 = 0 then ⌊q⌋ else ⌊q⌋ + 1

/-- Six digits. -/
def sixDigits (n : ℕ) : Text := List.replicate (6 - (Nat.toDigits 10 n).length) '0' ++ Nat.toDigits 10 n

/-- The conversion `%f`. -/
def fixed6 (x : PyNumber) : Text :=
  let n := (roundEven (|x.value| * 1000000)).toNat
  (if x.value < 0 then ['-'] else []) ++
    (Nat.toDigits 10 (n / 1000000) ++ '.' :: sixDigits (n % 1000000))

/-- A sign and what stands behind it. -/
def readSign : Text → ℚ × Text
  | '-' :: cs => (-1, cs)
  | '+' :: cs => (1, cs)
  | cs => (1, cs)

/-- Digits with a point at any place, or without one. -/
def readDecimal (t : Text) : Option ℚ :=
  let (whole, fraction) := (splitOnce ['.'] t).getD (t, [])
  (digitsToNat (whole ++ fraction)).map fun n : ℕ => (n : ℚ) / 10 ^ fraction.length

/-- The exponent of a float. -/
def readExponent (t : Text) : Option ℤ :=
  match t with
  | '-' :: cs => (digitsToNat cs).map fun n : ℕ => -(n : ℤ)
  | '+' :: cs => (digitsToNat cs).map fun n : ℕ => (n : ℤ)
  | cs => (digitsToNat cs).map fun n : ℕ => (n : ℤ)

/-- The letter in front of an exponent. -/
def isExponentMark (c : Char) : Bool := c == 'e' || c == 'E'

/-- The function `float`, for the texts that stand for a rational number. -/
def float (t : Text) : Option ℚ :=
  let (sign, t) := readSign (strip t)
  let mantissa := t.takeWhile fun c => !isExponentMark c
  match t.dropWhile fun c => !isExponentMark c with
  | _ :: exponent => do
    let q ← readDecimal mantissa
    let k ← readExponent exponent
    some (sign * q * 10 ^ k)
  | [] => (readDecimal mantissa).map fun q => sign * q

/-! ## Reading back -/

/-- Multiples of a millionth. -/
def InMillionths (q : ℚ) : Prop := ∃ k : ℤ, q = k / 1000000

variable {n : ℕ}

lemma roundEven_natCast (n : ℕ) : roundEven n = n := by
  rw [roundEven, if_pos (Or.inl (by simp))]
  simp

lemma isDigit_of_mem_sixDigits {c : Char} (hc : c ∈ sixDigits n) : c.isDigit = true := by
  rcases List.mem_append.mp hc with hc | hc
  · rw [List.eq_of_mem_replicate hc]
    decide
  · exact Nat.isDigit_of_mem_toDigits (by decide) (by decide) hc

/-- Six digits for a number with at most six digits. -/
lemma length_sixDigits (hn : n < 1000000) : (sixDigits n).length = 6 := by
  have hle : (Nat.toDigits 10 n).length ≤ 6 := by
    rw [Nat.length_toDigits_le_iff (by decide) (by decide)]
    exact hn
  rw [sixDigits, List.length_append, List.length_replicate]
  omega

/-- The number of six digits. -/
lemma ofDigitChars_sixDigits : Nat.ofDigitChars 10 (sixDigits n) 0 = n := by
  rw [sixDigits, Nat.ofDigitChars_append, Nat.ofDigitChars_replicate_zero, Nat.mul_zero,
    Nat.ofDigitChars_ten_toDigits]

/-- A decimal is read back. -/
lemma readDecimal_fixed (a : ℕ) (hn : n < 1000000) :
    readDecimal (Nat.toDigits 10 a ++ '.' :: sixDigits n) = some ((a : ℚ) + n / 1000000) := by
  have hdigits : ∀ c ∈ Nat.toDigits 10 a, c.isDigit = true :=
    fun c hc => Nat.isDigit_of_mem_toDigits (by decide) (by decide) hc
  have hpoint : '.' ∉ Nat.toDigits 10 a := fun h => absurd (hdigits _ h) (by decide)
  have hall : (Nat.toDigits 10 a ++ sixDigits n).all Char.isDigit = true := by
    rw [List.all_append, Bool.and_eq_true]
    exact ⟨List.all_eq_true.mpr hdigits, List.all_eq_true.mpr fun c hc => isDigit_of_mem_sixDigits hc⟩
  have hne : Nat.toDigits 10 a ++ sixDigits n ≠ [] := by simp
  have hvalue : Nat.ofDigitChars 10 (Nat.toDigits 10 a ++ sixDigits n) 0 = 10 ^ 6 * a + n := by
    rw [Nat.ofDigitChars_append, Nat.ofDigitChars_ten_toDigits, Nat.ofDigitChars_eq_ofDigitChars_zero,
      length_sixDigits hn, ofDigitChars_sixDigits]
  rw [readDecimal, splitOnce_singleton hpoint]
  simp only [Option.getD_some, digitsToNat, hne, hall, ne_eq, not_false_eq_true, and_self, if_true,
    Option.map_some, hvalue, length_sixDigits hn, Option.some.injEq]
  push_cast
  ring

/-- The sign in front of digits is read. -/
lemma readSign_digits {t : Text} (h : ∀ c ∈ t.head?, c.isDigit = true) (negative : Bool) :
    readSign ((if negative then ['-'] else []) ++ t) = (if negative then -1 else 1, t) := by
  cases negative with
  | true => rfl
  | false =>
    cases t with
    | nil => rfl
    | cons c cs =>
      have hc := h c rfl
      simp only [Bool.false_eq_true, if_false, List.nil_append, readSign]
      split
      · rename_i heq
        rw [(List.cons.inj heq).1] at hc
        exact absurd hc (by decide)
      · rename_i heq
        rw [(List.cons.inj heq).1] at hc
        exact absurd hc (by decide)
      · rfl

/-- The characters of a decimal are no white space and no marks of an exponent. -/
lemma plain_of_decimal {c : Char} (h : c.isDigit = true ∨ c = '.' ∨ c = '-') :
    isWhite c = false ∧ (!isExponentMark c) = true := by
  rcases h with hc | rfl | rfl
  · have hother : ∀ d ∈ [' ', '\t', '\n', '\r', Char.ofNat 11, Char.ofNat 12, 'e', 'E'], c ≠ d := by
      rintro d hd rfl
      have hno : ∀ d ∈ [' ', '\t', '\n', '\r', Char.ofNat 11, Char.ofNat 12, 'e', 'E'],
        d.isDigit = false := forall_mem_of_all (by decide)
      rw [hno c hd] at hc
      cases hc
    simp only [List.forall_mem_cons, List.not_mem_nil, false_implies, implies_true, and_true] at hother
    obtain ⟨h₁, h₂, h₃, h₄, h₅, h₆, h₇, h₈⟩ := hother
    simp [isWhite, isExponentMark, h₁, h₂, h₃, h₄, h₅, h₆, h₇, h₈]
  · decide
  · decide

/-- A number of millionths: its sign, the whole part and the rest. -/
lemma div_eq_sign_mul (k : ℤ) :
    (k : ℚ) / 1000000 = (if (k : ℚ) / 1000000 < 0 then -1 else 1) *
      (((k.natAbs / 1000000 : ℕ) : ℚ) + ((k.natAbs % 1000000 : ℕ) : ℚ) / 1000000) := by
  have hsum : (1000000 * ((k.natAbs / 1000000 : ℕ) : ℚ) + ((k.natAbs % 1000000 : ℕ) : ℚ)) = |(k : ℚ)| := by
    rw [← Int.cast_abs, ← Nat.cast_natAbs]
    exact_mod_cast Nat.div_add_mod k.natAbs 1000000
  have hneg : (k : ℚ) / 1000000 < 0 ↔ (k : ℚ) < 0 := by
    rw [div_neg_iff]
    simp
  have hparts : ((k.natAbs / 1000000 : ℕ) : ℚ) + ((k.natAbs % 1000000 : ℕ) : ℚ) / 1000000 =
      |(k : ℚ)| / 1000000 := by
    rw [← hsum]
    ring
  rw [hparts]
  split_ifs with h
  · rw [abs_of_neg (hneg.mp h)]
    ring
  · rw [abs_of_nonneg (not_lt.mp fun h' => h (hneg.mpr h')), one_mul]

/-- **A time is read back**: `float` undoes `%f` for multiples of a millionth. -/
theorem float_fixed6 {x : PyNumber} (hx : InMillionths x.value) : float (fixed6 x) = some x.value := by
  obtain ⟨k, hk⟩ := hx
  have habs : |x.value| * 1000000 = (k.natAbs : ℚ) := by
    rw [hk, abs_div, abs_of_pos (by norm_num : (0 : ℚ) < 1000000), Nat.cast_natAbs, Int.cast_abs]
    field_simp
  set a := k.natAbs / 1000000 with ha
  set b := k.natAbs % 1000000 with hb
  have hblt : b < 1000000 := Nat.mod_lt _ (by decide)
  set t := Nat.toDigits 10 a ++ '.' :: sixDigits b with ht
  have htext : fixed6 x = (if x.value < 0 then ['-'] else []) ++ t := by
    rw [fixed6, habs, roundEven_natCast, Int.toNat_natCast]
  have hchars : ∀ c ∈ fixed6 x, c.isDigit = true ∨ c = '.' ∨ c = '-' := by
    intro c hc
    rw [htext] at hc
    simp only [ht, List.mem_append, List.mem_cons] at hc
    rcases hc with hc | hc | rfl | hc
    · split_ifs at hc with hneg
      · exact Or.inr (Or.inr (List.mem_singleton.mp hc))
      · exact absurd hc List.not_mem_nil
    · exact Or.inl (Nat.isDigit_of_mem_toDigits (by decide) (by decide) hc)
    · exact Or.inr (Or.inl rfl)
    · exact Or.inl (isDigit_of_mem_sixDigits hc)
  have hstrip : strip (fixed6 x) = fixed6 x := strip_eq_self fun c hc => (plain_of_decimal (hchars c hc)).1
  have hmark : ∀ c ∈ t, (!isExponentMark c) = true := fun c hc =>
    (plain_of_decimal (hchars c (htext ▸ List.mem_append_right _ hc))).2
  have hhead : ∀ c ∈ t.head?, c.isDigit = true := by
    obtain ⟨c, cs, hcs⟩ := List.exists_cons_of_ne_nil (Nat.toDigits_ne_nil (n := a) (b := 10))
    rw [ht, hcs]
    rintro _ ⟨⟩
    exact Nat.isDigit_of_mem_toDigits (by decide) (by decide) (hcs ▸ List.mem_cons_self)
  have hsign : readSign (fixed6 x) = (if x.value < 0 then -1 else 1, t) := by
    rw [htext]
    simpa using readSign_digits hhead (decide (x.value < 0))
  have hvalue : x.value = (if x.value < 0 then -1 else 1) * ((a : ℚ) + b / 1000000) := hk ▸ div_eq_sign_mul k
  rw [float, hstrip, hsign]
  simp only [List.takeWhile_eq_self_iff.mpr hmark, List.dropWhile_eq_nil_iff.mpr hmark]
  rw [readDecimal_fixed a hblt, Option.map_some, ← hvalue]

/-- A decimal without the zeros at its end, but with a digit behind the point. -/
def shortDecimal (q : ℚ) : Text :=
  match (fixed6 (.float q)).reverse.dropWhile (· == '0') with
  | '.' :: cs => ('0' :: '.' :: cs).reverse
  | cs => cs.reverse

/-- What `str` makes of a float that needs no exponent. -/
def FloatText.short : FloatText where
  text := shortDecimal
  ne_intToString := by
    intro q n h
    have hpoint : '.' ∈ (fixed6 (.float q)).reverse.dropWhile (· == '0') := by
      have hmem : '.' ∈ (fixed6 (.float q)).reverse := by simp [fixed6]
      rw [← List.takeWhile_append_dropWhile (p := (· == '0')) (l := (fixed6 (.float q)).reverse)] at hmem
      rcases List.mem_append.mp hmem with h | h
      · exact absurd (List.mem_takeWhile_imp h) (by decide)
      · exact h
    have hin : '.' ∈ shortDecimal q := by
      rw [shortDecimal]
      split
      · simp
      · exact List.mem_reverse.mpr hpoint
    have hno : '.' ∉ intToString n := by
      intro hmem
      have hdigit : ∀ k, '.' ∉ Nat.toDigits 10 k := fun k hk =>
        absurd (Nat.isDigit_of_mem_toDigits (by decide) (by decide) hk) (by decide)
      cases n with
      | ofNat k => exact hdigit k hmem
      | negSucc k =>
        rcases List.mem_cons.mp hmem with h | h
        · cases h
        · exact hdigit _ h
    exact hno (h ▸ hin)

end HssRtc.Junit
