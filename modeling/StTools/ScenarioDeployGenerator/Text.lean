import StTools.Lib.TextSearch
import Mathlib.Data.Int.Notation
import Mathlib.Data.Nat.Notation
import Mathlib.Algebra.Ring.Nat
import Mathlib.Algebra.Ring.Int.Defs

/-!
# Texts of the scenario and deployment generator

The generator reads its files line by line.  A line is purged of blanks and of comments, and
`filterLine` takes the part before or behind the first occurrence of a separator.
-/

namespace ScenarioDeployGenerator

open TextSearch

/-- A text of the C++ program. -/
abbrev Text := List Char

/-- The size of the buffer of a line. -/
def lineSize : ℕ := 1024

/-- The lines that the loop over a file gets from `getline`: a line that does not fit into the
buffer is cut off, and the file is not read any further. -/
def getlines : List Text → List Text
  | [] => []
  | line :: lines =>
    if line.length < lineSize then line :: getlines lines else [line.take (lineSize - 1)]

/-- Take blanks and tabulators out of a line, and cut it off at a comment or a carriage return. -/
def purgeLine : Text → Text
  | [] => []
  | '#' :: _ => []
  | '\r' :: _ => []
  | '/' :: '/' :: _ => []
  | ' ' :: cs => purgeLine cs
  | '\t' :: cs => purgeLine cs
  | c :: cs => c :: purgeLine cs

/-- A purged line consists of characters of the line; blanks and carriage returns are gone. -/
lemma mem_purgeLine {c : Char} {line : Text} (h : c ∈ purgeLine line) :
    c ∈ line ∧ c ≠ ' ' ∧ c ≠ '\r' := by
  fun_induction purgeLine line with
  | case1 => nomatch h
  | case2 => nomatch h
  | case3 => nomatch h
  | case4 => nomatch h
  | case5 cs ih => exact ⟨List.mem_cons_of_mem _ (ih h).1, (ih h).2⟩
  | case6 cs ih => exact ⟨List.mem_cons_of_mem _ (ih h).1, (ih h).2⟩
  | case7 d cs h₁ h₂ h₃ h₄ h₅ ih =>
    rcases List.mem_cons.mp h with rfl | h
    · exact ⟨List.mem_cons_self, h₄, h₂⟩
    · exact ⟨List.mem_cons_of_mem _ (ih h).1, (ih h).2⟩

/-- Of a line without blanks the start is kept, without comments. -/
lemma purgeLine_of_noBlanks {line : Text} (h : ∀ c ∈ line, c ≠ ' ' ∧ c ≠ '\t') :
    purgeLine line <+: line ∧ '#' ∉ purgeLine line ∧ ¬ ['/', '/'] <:+: purgeLine line := by
  have hnil : ∀ t : Text, [] <+: t ∧ '#' ∉ ([] : Text) ∧ ¬ ['/', '/'] <:+: [] :=
    fun t => ⟨List.nil_prefix, List.not_mem_nil, by decide⟩
  fun_induction purgeLine line with
  | case1 => exact hnil _
  | case2 cs => exact hnil _
  | case3 cs => exact hnil _
  | case4 cs => exact hnil _
  | case5 cs ih => exact absurd rfl (h ' ' List.mem_cons_self).1
  | case6 cs ih => exact absurd rfl (h '\t' List.mem_cons_self).2
  | case7 c cs hsign hreturn hslashes hblank htab ih =>
    obtain ⟨hinit, hno, hpair⟩ := ih fun d hd => h d (List.mem_cons_of_mem c hd)
    refine ⟨List.cons_prefix_cons.mpr ⟨rfl, hinit⟩, ?_, fun hin => ?_⟩
    · exact List.not_mem_cons_of_ne_of_not_mem (Ne.symm hsign) hno
    · rcases List.infix_cons_iff.mp hin with hhead | hin
      · obtain ⟨hc, hnext⟩ := List.cons_prefix_cons.mp hhead
        obtain ⟨rest, hrest⟩ := hnext.trans hinit
        exact hslashes rest hc.symm hrest.symm
      · exact hpair hin

/-- A line without blanks and comments is kept. -/
lemma purgeLine_eq_self {line : Text} (h : ∀ c ∈ line, c ∉ [' ', '\t', '\r', '#'])
    (hslashes : ¬ ['/', '/'] <:+: line) : purgeLine line = line := by
  fun_induction purgeLine line with
  | case1 => rfl
  | case2 cs => exact absurd (by decide) (h '#' List.mem_cons_self)
  | case3 cs => exact absurd (by decide) (h '\r' List.mem_cons_self)
  | case4 cs => exact absurd ⟨[], cs, rfl⟩ hslashes
  | case5 cs ih => exact absurd (by decide) (h ' ' List.mem_cons_self)
  | case6 cs ih => exact absurd (by decide) (h '\t' List.mem_cons_self)
  | case7 c cs _ _ _ _ _ ih =>
    rw [ih (fun d hd => h d (List.mem_cons_of_mem c hd)) fun hin => hslashes (List.infix_cons hin)]

/-- The part of a line before or after the first occurrence of a filter. -/
def filterLine (line filter : Text) (after : Bool) : Option Text :=
  (splitOnce filter line).map fun x => if after then x.2 else x.1

/-- The value of a line `key:=value`. -/
def readKey (line key : Text) : Option Text := filterLine line (key ++ ":=".toList) true

/-- The key of a line. -/
lemma filterLine_key {k key : Text} (hk : k = key ++ ":=".toList) (hkey : ':' ∉ key) (v : Text) :
    filterLine (k ++ v) ":=".toList false = some key := by
  have hsplit : ∀ f : Text, f = [':', '='] → splitOnce f (key ++ (f ++ v)) = some (key, v) := by
    rintro _ rfl
    exact splitOnce_append hkey
  rw [hk, List.append_assoc, filterLine, hsplit _ (by decide)]
  rfl

/-- The value of a line. -/
lemma readKey_value {k key : Text} (hk : k = key ++ ":=".toList) (v : Text) : readKey (k ++ v) key = some v := by
  have hne : key ++ ":=".toList ≠ [] := by simp
  obtain ⟨c, cs, hcs⟩ := List.exists_cons_of_ne_nil hne
  have hfirst : splitOnce (c :: cs) ([] ++ (c :: cs ++ v)) = some ([], v) :=
    splitOnce_append List.not_mem_nil
  rw [List.nil_append] at hfirst
  rw [readKey, filterLine, hk, hcs, hfirst]
  rfl

/-! ## Lines and the buffer -/

section Buffer

variable {raw : Text}

/-- The line fits into the buffer. -/
def FitsBuffer (raw : Text) : Prop := raw.length < lineSize

instance : DecidablePred FitsBuffer := fun raw => inferInstanceAs (Decidable (raw.length < lineSize))

/-- What the buffer holds of a line. -/
def buffer (raw : Text) : Text := raw.take (lineSize - 1)

lemma buffer_of_fits (h : FitsBuffer raw) : buffer raw = raw :=
  List.take_of_length_le (Nat.le_pred_of_lt h)

/-- Lines behind lines that fit are read. -/
lemma getlines_append_of_fits {l l' : List Text} (h : ∀ raw ∈ l, FitsBuffer raw) :
    getlines (l ++ l') = l ++ getlines l' := by
  induction l with
  | nil => rfl
  | cons raw l ih =>
    have hraw : raw.length < lineSize := h raw List.mem_cons_self
    rw [List.cons_append, getlines, if_pos hraw, ih fun x hx => h x (List.mem_cons_of_mem _ hx)]
    rfl

/-- Lines behind one that does not fit are not read. -/
lemma getlines_append_of_not_fits {l l' : List Text} (h : ¬ ∀ raw ∈ l, FitsBuffer raw) :
    getlines (l ++ l') = getlines l := by
  induction l with
  | nil => exact absurd (fun _ hx => nomatch hx) h
  | cons raw l ih =>
    rw [List.cons_append, getlines, getlines]
    by_cases hraw : raw.length < lineSize
    · rw [if_pos hraw, if_pos hraw, ih fun hl => h fun x hx => ?_]
      rcases List.mem_cons.mp hx with rfl | hx
      · exact hraw
      · exact hl x hx
    · rw [if_neg hraw, if_neg hraw]

/-- Lines that fit are all read. -/
lemma getlines_of_fits {l : List Text} (h : ∀ raw ∈ l, FitsBuffer raw) : getlines l = l := by
  have happend : getlines (l ++ []) = l ++ getlines [] := getlines_append_of_fits h
  rw [List.append_nil, getlines, List.append_nil] at happend
  exact happend

/-- What is read of a line is what the buffer holds. -/
lemma exists_of_mem_getlines {l : List Text} {x : Text} (h : x ∈ getlines l) :
    ∃ raw ∈ l, x = buffer raw := by
  induction l with
  | nil => nomatch h
  | cons raw l ih =>
    rw [getlines] at h
    split_ifs at h with hraw
    · rcases List.mem_cons.mp h with rfl | h
      · exact ⟨x, List.mem_cons_self, (buffer_of_fits hraw).symm⟩
      · obtain ⟨y, hy, hxy⟩ := ih h
        exact ⟨y, List.mem_cons_of_mem _ hy, hxy⟩
    · exact ⟨raw, List.mem_cons_self, List.mem_singleton.mp h⟩

end Buffer

/-! ## Numbers -/

/-- An integer as an `int`. -/
def toInt32 (n : ℤ) : ℤ := (n + 2 ^ 31) % 2 ^ 32 - 2 ^ 31

/-- A white space of `isspace`. -/
def isSpace (c : Char) : Bool := c = ' ' ∨ 9 ≤ c.toNat ∧ c.toNat ≤ 13

/-- The number that the digits at the start of a text stand for. -/
def leadingDigits (t : Text) : ℕ := Nat.ofDigitChars 10 (t.takeWhile Char.isDigit) 0

/-- The function `strtol` for base 10, with the limits of a `long`. -/
def strtol (t : Text) : ℤ :=
  match t.dropWhile isSpace with
  | '-' :: cs => max (-(leadingDigits cs : ℤ)) (-2 ^ 63)
  | '+' :: cs => min (leadingDigits cs : ℤ) (2 ^ 63 - 1)
  | cs => min (leadingDigits cs : ℤ) (2 ^ 63 - 1)

/-- The function `atoi`. -/
def atoi (t : Text) : ℤ := toInt32 (strtol t)

/-- The digits at the start of a text are read. -/
lemma atoi_append {m : ℕ} {r : Text} (hr : ∀ c ∈ r.head?, c.isDigit = false) :
    atoi (Nat.toDigits 10 m ++ r) = toInt32 (min m (2 ^ 63 - 1)) := by
  have hall : ∀ c ∈ Nat.toDigits 10 m, c.isDigit = true :=
    fun c hc => Nat.isDigit_of_mem_toDigits (by decide) (by decide) hc
  have hdigits : (Nat.toDigits 10 m ++ r).takeWhile Char.isDigit = Nat.toDigits 10 m := by
    rw [List.takeWhile_append_of_pos hall]
    cases r with
    | nil => simp
    | cons c cs =>
      rw [List.takeWhile_cons_of_neg (by simp [hr c rfl]), List.append_nil]
  have hleading : leadingDigits (Nat.toDigits 10 m ++ r) = m := by
    rw [leadingDigits, hdigits, Nat.ofDigitChars_ten_toDigits]
  obtain ⟨c, cs, hcs⟩ := List.exists_cons_of_ne_nil (Nat.toDigits_ne_nil (n := m) (b := 10))
  have hc : c.isDigit = true := hall c (hcs ▸ List.mem_cons_self)
  have hspace : isSpace c = false := by
    have hge : 48 ≤ c.toNat := by
      rw [Char.isDigit, Bool.and_eq_true, decide_eq_true_eq] at hc
      exact hc.1
    refine decide_eq_false ?_
    rintro (rfl | hle)
    · exact absurd hc (by decide)
    · omega
  have hstart : (Nat.toDigits 10 m ++ r).dropWhile isSpace =
      Nat.toDigits 10 m ++ r := by
    rw [hcs, List.cons_append, List.dropWhile_cons_of_neg (by simp [hspace])]
  have hsign : c ≠ '-' ∧ c ≠ '+' := by
    constructor
    · rintro rfl
      exact absurd hc (by decide)
    · rintro rfl
      exact absurd hc (by decide)
  rw [atoi, strtol, hstart]
  split
  · next heq =>
    rw [hcs, List.cons_append] at heq
    exact absurd (List.cons.inj heq).1 hsign.1
  · next heq =>
    rw [hcs, List.cons_append] at heq
    exact absurd (List.cons.inj heq).1 hsign.2
  · rw [hleading]

/-- A number in decimal notation. -/
def intToString : ℤ → Text
  | .ofNat n => Nat.toDigits 10 n
  | .negSucc n => '-' :: Nat.toDigits 10 (n + 1)

/-- A truth value as a text. -/
def booleanToString (value : Bool) : Text := if value then "true".toList else "false".toList

/-- A text between quotes. -/
def addQuottes (value : Text) : Text := '"' :: value ++ ['"']

/-- A text in capitals. -/
def toUpper (t : Text) : Text := t.map Char.toUpper

end ScenarioDeployGenerator
