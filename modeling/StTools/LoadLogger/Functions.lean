import StTools.ScenarioDeployGenerator.Text
import Mathlib.Data.List.DropRight
import Mathlib.Data.List.Infix

/-!
# Functions on lines

The utilities that the configuration reader uses.  They get a pointer into a line and return one, and some
of them write zeros into the line; a `Cursor` is such a pointer.  A read or write outside the line is
`none`.  `rtrim` computes the index of the last character as an unsigned number and counts it down, so it
leaves the line exactly when it finds nothing but blanks.
-/

namespace ConfigReader

open ScenarioDeployGenerator (Text atoi toInt32)

/-! ## Pointers into a line -/

/-- A pointer into a line: what is in front of it, and what is from it to the end of the line. -/
structure Cursor where
  before : Text
  here : Text
  deriving DecidableEq

namespace Cursor

/-- The whole line. -/
def line (c : Cursor) : Text := c.before ++ c.here

/-- The pointer is moved `n` characters forth. -/
def forth (n : ℕ) (c : Cursor) : Cursor := ⟨c.before ++ c.here.take n, c.here.drop n⟩

/-- The line ends in front of the first character that does not satisfy `p`, if there is one. -/
def cut (p : Char → Bool) (c : Cursor) : Cursor := ⟨c.before, c.here.takeWhile p⟩

variable (c : Cursor) (n : ℕ)

@[simp] lemma line_forth : (c.forth n).line = c.line := by
  rw [forth, line, List.append_assoc, List.take_append_drop, line]

end Cursor

/-- The characters that are trimmed. -/
def isTrimmed (a : Char) : Bool := a = ' ' || a = '\t' || a = '\n'

/-- `strlen(line) - 1` as an unsigned number. -/
def lastIndex (line : Text) : ℕ := if line = [] then 2 ^ 32 - 1 else (line.length - 1) % 2 ^ 32

/-- `ltrim`. -/
def ltrim (c : Cursor) : Cursor :=
  if lastIndex c.here = 0 then c else c.forth (c.here.takeWhile isTrimmed).length

/-- The loop of `rtrim`, with the index `len`. -/
def rtrimLoop : (len : ℕ) → (text : Text) → Option Text
  | 0, text =>
    match text with
    | [] => some []
    -- the index goes down to the largest unsigned number
    | a :: _ => if isTrimmed a then none else some text
  | len + 1, text =>
    if text.length < len + 1 then none
    else
      match text[len + 1]? with
      | none => some text
      | some a => if isTrimmed a then rtrimLoop len (text.take (len + 1)) else some text

/-- `rtrim`. -/
def rtrim (c : Cursor) : Option Cursor :=
  if lastIndex c.here = 0 then some c else (rtrimLoop (lastIndex c.here) c.here).map fun t => ⟨c.before, t⟩

/-- `trim`. -/
def trim (c : Cursor) : Option Cursor := rtrim (ltrim c)

/-- `isCommented`. -/
def isCommented (c : Cursor) : Bool := c.here.isEmpty || c.here.head? = some '#'

/-- `removeComment`. -/
def removeComment (c : Cursor) : Option Cursor := rtrim (c.cut (· ≠ '#'))

/-- `removeQuots`. -/
def removeQuots (c : Cursor) : Cursor :=
  if '"' ∉ c.here then c
  else (c.forth ((c.here.takeWhile (· ≠ '"')).length + 1)).cut (· ≠ '"')

/-- Hours, minutes and seconds. -/
structure ClockTime where
  hh : ℤ
  mm : ℤ
  ss : ℤ
  deriving DecidableEq

/-- `StrToTime`: the seconds, and the fields of the time that it sets. -/
def strToTime (str : Text) (t : ClockTime) : ℤ × ClockTime :=
  match str.dropWhile (· ≠ ':') with
  | [] => (atoi str, { t with ss := atoi str })
  | _ :: str' =>
    match str'.dropWhile (· ≠ ':') with
    | [] => (toInt32 (atoi str * 60 + atoi str'), { t with mm := atoi str, ss := atoi str' })
    | _ :: str'' =>
      (toInt32 (3600 * atoi str + 60 * atoi str' + atoi str''), ⟨atoi str, atoi str', atoi str''⟩)

/-! ## Trimming -/

/-- A bounded quantifier is decided by looking at the characters of the text, not at all characters. -/
local instance (priority := high) decidableForallMem (p : Char → Prop) [DecidablePred p] (t : Text) :
    Decidable (∀ c ∈ t, p c) :=
  List.decidableBAll p t

variable {c : Cursor} {line t : Text} {len : ℕ}

lemma lastIndex_of_ne_nil (h : line.length < 2 ^ 32) (hne : line ≠ []) :
    lastIndex line = line.length - 1 := by
  rw [lastIndex, if_neg hne]
  exact Nat.mod_eq_of_lt (lt_of_le_of_lt (Nat.sub_le _ _) h)

/-- The loop from the last character: it leaves a line of blanks, and trims another one.  By induction on
the index. -/
lemma rtrimLoop_eq (h : line.length = len + 1) :
    rtrimLoop len line = if ∀ a ∈ line, isTrimmed a then none else some (line.rdropWhile isTrimmed) := by
  induction len generalizing line with
  | zero =>
    obtain ⟨a, rfl⟩ := List.length_eq_one_iff.mp h
    rw [rtrimLoop, List.rdropWhile_singleton]
    simp only [List.mem_singleton, forall_eq]
    split_ifs <;> rfl
  | succ len ih =>
    obtain rfl | ⟨t, a, rfl⟩ := List.eq_nil_or_concat' line
    · cases h
    rw [List.length_append, List.length_singleton, Nat.add_right_cancel_iff] at h
    rw [rtrimLoop, if_neg (by rw [List.length_append, List.length_singleton]; omega), ← h,
      List.getElem?_concat_length, List.take_left, List.rdropWhile_concat]
    simp only [List.forall_mem_append, List.forall_mem_singleton]
    split_ifs with ha hall hall
    · rw [ih h, if_pos hall.1]
    · rw [ih h, if_neg fun ht => hall ⟨ht, ha⟩]
    · exact absurd hall.2 ha
    · rfl

/-- An empty line is left at once. -/
lemma rtrim_of_nil (h : c.here = []) : rtrim c = none := by
  rw [rtrim, h]
  rfl

/-- What `rtrim` makes of a line: a single character stays, and a line of blanks is left. -/
lemma rtrim_eq (h : c.here.length < 2 ^ 32) : rtrim c =
    if c.here.length = 1 then some c
    else if ∀ a ∈ c.here, isTrimmed a then none else some ⟨c.before, c.here.rdropWhile isTrimmed⟩ := by
  by_cases hnil : c.here = []
  · simp [rtrim_of_nil hnil, hnil]
  have hpos := List.length_pos_iff.mpr hnil
  rw [rtrim, lastIndex_of_ne_nil h hnil]
  by_cases hone : c.here.length = 1
  · rw [if_pos (by omega), if_pos hone]
  · rw [if_neg (by omega), if_neg hone, rtrimLoop_eq (by omega)]
    split_ifs <;> rfl

lemma take_takeWhile (p : Char → Bool) (t : Text) : t.take (t.takeWhile p).length = t.takeWhile p :=
  (List.prefix_iff_eq_take.mp (List.takeWhile_prefix p)).symm

lemma drop_takeWhile (p : Char → Bool) (t : Text) : t.drop (t.takeWhile p).length = t.dropWhile p :=
  calc t.drop (t.takeWhile p).length
    _ = (t.takeWhile p ++ t.dropWhile p).drop (t.takeWhile p).length := by
      rw [List.takeWhile_append_dropWhile]
    _ = t.dropWhile p := List.drop_left

/-- What `ltrim` makes of a line. -/
lemma ltrim_eq (h : c.here.length < 2 ^ 32) : ltrim c =
    if c.here.length = 1 then c
    else ⟨c.before ++ c.here.takeWhile isTrimmed, c.here.dropWhile isTrimmed⟩ := by
  rw [ltrim, Cursor.forth, take_takeWhile, drop_takeWhile]
  obtain ⟨before, here⟩ := c
  by_cases hnil : here = []
  · subst hnil
    simp [lastIndex]
  have hpos := List.length_pos_iff.mpr hnil
  rw [lastIndex_of_ne_nil h hnil]
  refine if_congr ?_ rfl rfl
  change here.length - 1 = 0 ↔ here.length = 1
  omega

lemma ltrim_singleton {a : Char} (h : c.here = [a]) : ltrim c = c := by
  simp [ltrim, lastIndex, h]

lemma rtrim_singleton {a : Char} (h : c.here = [a]) : rtrim c = some c := by
  simp [rtrim, lastIndex, h]

end ConfigReader
