import StTools.ScenarioDeployGenerator.Text
import Mathlib.Data.List.Infix
import Mathlib.Tactic.Common

/-!
# Texts of the Python program

The string methods of Python 2 that the program uses.  `splitlines` breaks a text at `\n`, `\r\n` and
`\r`; a file that is read by `readlines` is only broken at `\n`.
-/

namespace RunTitansim

open ScenarioDeployGenerator (Text)

/-- A white space of `strip`. -/
def isWhite (c : Char) : Bool := c ∈ [' ', '\t', '\n', '\r', Char.ofNat 11, Char.ofNat 12]

/-- A text without white space at its start. -/
def lstrip (t : Text) : Text := t.dropWhile isWhite

/-- A text without white space at both ends. -/
def strip (t : Text) : Text := (lstrip (lstrip t).reverse).reverse

/-- Put a character before the first line. -/
def consFirst (c : Char) : List Text → List Text
  | [] => [[c]]
  | l :: ls => (c :: l) :: ls

/-- The lines of a text. -/
def splitlines : Text → List Text
  | [] => []
  | '\n' :: cs => [] :: splitlines cs
  | '\r' :: '\n' :: cs => [] :: splitlines cs
  | '\r' :: cs => [] :: splitlines cs
  | c :: cs => consFirst c (splitlines cs)

/-- The lines of a file, without their ends. -/
def readlines : Text → List Text
  | [] => []
  | '\n' :: cs => [] :: readlines cs
  | c :: cs => consFirst c (readlines cs)

/-- Lines, each with its end. -/
def unlines (lines : List Text) : Text := lines.flatMap fun line => line ++ ['\n']

/-- The number that a text of digits stands for. -/
def digitsToNat (t : Text) : Option ℕ :=
  if t ≠ [] ∧ t.all Char.isDigit then some (Nat.ofDigitChars 10 t 0) else none

/-- The function `int`. -/
def pyInt (t : Text) : Option ℤ :=
  match strip t with
  | '-' :: cs => (digitsToNat cs).map fun n : ℕ => -(n : ℤ)
  | '+' :: cs => (digitsToNat cs).map fun n : ℕ => (n : ℤ)
  | cs => (digitsToNat cs).map fun n : ℕ => (n : ℤ)

variable {t line a b : Text} {lines : List Text}

/-- What is left consists of characters of the text. -/
lemma strip_subset : strip t ⊆ t := by
  have hleft : ∀ t : Text, lstrip t ⊆ t := fun t => (List.dropWhile_suffix isWhite).subset
  intro c hc
  have hc' := hleft _ (List.mem_reverse.mp hc)
  exact hleft t (List.mem_reverse.mp hc')

lemma strip_eq_self (h : ∀ c ∈ t, isWhite c = false) : strip t = t := by
  have hleft : ∀ t : Text, (∀ c ∈ t, isWhite c = false) → lstrip t = t := by
    intro t ht
    cases t with
    | nil => rfl
    | cons c cs => exact List.dropWhile_cons_of_neg (by simp [ht c List.mem_cons_self])
  rw [strip, hleft t h, hleft t.reverse fun c hc => h c (List.mem_reverse.mp hc),
    List.reverse_reverse]

/-- Nothing is taken away from a text without white space at its ends. -/
lemma strip_of_ends {c d : Char} (hc : isWhite c = false) (hd : isWhite d = false) :
    strip (c :: (t ++ [d])) = c :: (t ++ [d]) := by
  have hleft : lstrip (c :: (t ++ [d])) = c :: (t ++ [d]) :=
    List.dropWhile_cons_of_neg (by simp [hc])
  have hright : lstrip (c :: (t ++ [d])).reverse = (c :: (t ++ [d])).reverse := by
    rw [List.reverse_cons, List.reverse_append, List.reverse_singleton, List.singleton_append,
      List.cons_append, lstrip, List.dropWhile_cons_of_neg (by simp [hd])]
  rw [strip, hleft, hright, List.reverse_reverse]

/-- White space at the start is taken away. -/
lemma strip_cons {c : Char} (hc : isWhite c = true) : strip (c :: t) = strip t := by
  have hleft : lstrip (c :: t) = lstrip t := List.dropWhile_cons_of_pos hc
  rw [strip, hleft]
  rfl

/-- White space behind a text is taken away. -/
lemma strip_concat {c : Char} (h : ∀ c ∈ t, isWhite c = false) (hc : isWhite c = true) :
    strip (t ++ [c]) = t := by
  cases t with
  | nil => rw [List.nil_append, strip_cons hc]; rfl
  | cons d ds =>
    have hleft : lstrip (d :: ds ++ [c]) = d :: ds ++ [c] :=
      List.dropWhile_cons_of_neg (by simp [h d List.mem_cons_self])
    have hright : lstrip (d :: ds ++ [c]).reverse = (d :: ds).reverse := by
      rw [List.reverse_append, List.reverse_singleton, List.singleton_append, lstrip,
        List.dropWhile_cons_of_pos hc]
      cases hrev : (d :: ds).reverse with
      | nil => rfl
      | cons e es =>
        have he : isWhite e = false := h e (List.mem_reverse.mp (hrev ▸ List.mem_cons_self))
        exact List.dropWhile_cons_of_neg (by simp [he])
    rw [strip, hleft, hright, List.reverse_reverse]

/-! ## Lines -/

/-- The first line of a text that does not begin with the end of a line. -/
lemma splitlines_cons {c : Char} {cs : Text} (hn : c ≠ '\n') (hr : c ≠ '\r') :
    splitlines (c :: cs) = consFirst c (splitlines cs) := by
  rw [splitlines]
  · exact hn
  · rintro _ rfl
    exact absurd rfl hr
  · exact hr

lemma readlines_cons {c : Char} {cs : Text} (hn : c ≠ '\n') :
    readlines (c :: cs) = consFirst c (readlines cs) := by
  rw [readlines]
  exact hn

/-- A line ends at the end of a line. -/
lemma splitlines_append (hn : '\n' ∉ a) (hr : '\r' ∉ a) :
    splitlines (a ++ '\n' :: b) = a :: splitlines b := by
  induction a with
  | nil => rw [List.nil_append, splitlines]
  | cons c cs ih =>
    obtain ⟨hc, hcs⟩ := not_or.mp (mt List.mem_cons.mpr hn)
    obtain ⟨hc', hcs'⟩ := not_or.mp (mt List.mem_cons.mpr hr)
    rw [List.cons_append, splitlines_cons (Ne.symm hc) (Ne.symm hc'), ih hcs hcs']
    rfl

lemma readlines_append (hn : '\n' ∉ a) : readlines (a ++ '\n' :: b) = a :: readlines b := by
  induction a with
  | nil => rw [List.nil_append, readlines]
  | cons c cs ih =>
    obtain ⟨hc, hcs⟩ := not_or.mp (mt List.mem_cons.mpr hn)
    rw [List.cons_append, readlines_cons (Ne.symm hc), ih hcs]
    rfl

/-- What was written line by line is read line by line. -/
lemma readlines_unlines (h : ∀ line ∈ lines, '\n' ∉ line) : readlines (unlines lines) = lines := by
  induction lines with
  | nil => rfl
  | cons line lines ih =>
    change readlines (line ++ ['\n'] ++ unlines lines) = line :: lines
    rw [List.append_assoc, List.singleton_append, readlines_append (h line List.mem_cons_self),
      ih fun l hl => h l (List.mem_cons_of_mem line hl)]

/-- Lines at the start of a text. -/
lemma splitlines_unlines_append (h : ∀ l ∈ lines, '\n' ∉ l ∧ '\r' ∉ l) :
    splitlines (unlines lines ++ b) = lines ++ splitlines b := by
  induction lines with
  | nil => rfl
  | cons l lines ih =>
    obtain ⟨hn, hr⟩ := h l List.mem_cons_self
    change splitlines (l ++ ['\n'] ++ unlines lines ++ b) = l :: (lines ++ splitlines b)
    rw [List.append_assoc, List.append_assoc, List.singleton_append, splitlines_append hn hr,
      ih fun x hx => h x (List.mem_cons_of_mem l hx)]

/-- A text has a line. -/
lemma splitlines_ne_nil (h : t ≠ []) : splitlines t ≠ [] := by
  fun_cases splitlines t with
  | case1 => exact absurd rfl h
  | case2 => exact List.cons_ne_nil _ _
  | case3 => exact List.cons_ne_nil _ _
  | case4 => exact List.cons_ne_nil _ _
  | case5 c cs =>
    cases splitlines cs with
    | nil => exact List.cons_ne_nil _ _
    | cons l ls => exact List.cons_ne_nil _ _

/-- The lines before and behind the end of a line. -/
lemma splitlines_append_newline :
    splitlines (a ++ '\n' :: b) = splitlines (a ++ ['\n']) ++ splitlines b := by
  fun_induction splitlines a with
  | case1 => rfl
  | case2 cs ih =>
    change [] :: splitlines (cs ++ '\n' :: b) = [] :: splitlines (cs ++ ['\n']) ++ splitlines b
    rw [ih]
    rfl
  | case3 cs ih =>
    change [] :: splitlines (cs ++ '\n' :: b) = [] :: splitlines (cs ++ ['\n']) ++ splitlines b
    rw [ih]
    rfl
  | case4 cs hcs ih =>
    cases cs with
    | nil => rfl
    | cons c cs =>
      have hc : ∀ d, splitlines ('\r' :: (c :: cs ++ d)) = [] :: splitlines (c :: cs ++ d) := by
        intro d
        rw [List.cons_append, splitlines]
        rintro _ heq
        exact hcs cs (by rw [(List.cons.inj heq).1])
      change splitlines ('\r' :: (c :: cs ++ '\n' :: b)) =
        splitlines ('\r' :: (c :: cs ++ ['\n'])) ++ splitlines b
      rw [hc, hc, ih]
      rfl
  | case5 c cs hn hrn hr ih =>
    have hc : ∀ d, splitlines (c :: (cs ++ d)) = consFirst c (splitlines (cs ++ d)) :=
      fun d => splitlines_cons hn hr
    rw [List.cons_append, List.cons_append, hc, hc, ih]
    cases hlines : splitlines (cs ++ ['\n']) with
    | nil => exact absurd hlines (splitlines_ne_nil (by simp))
    | cons l ls => rfl

/-- A line is a part of the text; the first line stands at its start. -/
lemma infix_of_splitlines : (∀ l ∈ splitlines t, l <:+: t) ∧
    ∀ l ls, splitlines t = l :: ls → l <+: t := by
  have hnewline : ∀ (c cs : Text), (∀ l ∈ splitlines cs, l <:+: cs) →
      (∀ l ∈ [] :: splitlines cs, l <:+: c ++ cs) ∧
        ∀ l ls, [] :: splitlines cs = l :: ls → l <+: c ++ cs := by
    intro c cs ih
    constructor
    · intro l hl
      rcases List.mem_cons.mp hl with rfl | hl
      · exact List.nil_infix
      · exact (ih l hl).trans (List.suffix_append c cs).isInfix
    · rintro l ls ⟨⟩
      exact List.nil_prefix
  fun_induction splitlines t with
  | case1 => exact ⟨fun l hl => absurd hl List.not_mem_nil, fun l ls h => nomatch h⟩
  | case2 cs ih => exact hnewline ['\n'] cs ih.1
  | case3 cs ih => exact hnewline ['\r', '\n'] cs ih.1
  | case4 cs hcs ih => exact hnewline ['\r'] cs ih.1
  | case5 c cs hn hrn hr ih =>
    cases hlines : splitlines cs with
    | nil =>
      constructor
      · intro l hl
        rw [List.mem_singleton.mp hl]
        exact ⟨[], cs, rfl⟩
      · rintro l ls ⟨⟩
        exact ⟨cs, rfl⟩
    | cons l₀ ls₀ =>
      have hfirst : c :: l₀ <+: c :: cs := List.cons_prefix_cons.mpr ⟨rfl, ih.2 l₀ ls₀ hlines⟩
      constructor
      · intro l hl
        rcases List.mem_cons.mp hl with rfl | hl
        · exact hfirst.isInfix
        · exact (ih.1 l (hlines ▸ List.mem_cons_of_mem l₀ hl)).trans (List.suffix_cons c cs).isInfix
      · rintro l ls ⟨⟩
        exact hfirst

/-- A line does not contain the end of a line. -/
lemma newline_notMem_of_mem_splitlines (h : line ∈ splitlines t) : '\n' ∉ line := by
  fun_induction splitlines t generalizing line with
  | case1 => exact absurd h List.not_mem_nil
  | case2 cs ih =>
    rcases List.mem_cons.mp h with rfl | h
    · exact List.not_mem_nil
    · exact ih h
  | case3 cs ih =>
    rcases List.mem_cons.mp h with rfl | h
    · exact List.not_mem_nil
    · exact ih h
  | case4 cs hcs ih =>
    rcases List.mem_cons.mp h with rfl | h
    · exact List.not_mem_nil
    · exact ih h
  | case5 c cs hn hrn hr ih =>
    have hcons : ∀ l : Text, '\n' ∉ l → '\n' ∉ c :: l := by
      intro l hl hmem
      rcases List.mem_cons.mp hmem with rfl | hmem
      · exact hn rfl
      · exact hl hmem
    cases hlines : splitlines cs with
    | nil =>
      rw [hlines] at h
      rw [List.mem_singleton.mp h]
      exact hcons [] List.not_mem_nil
    | cons l ls =>
      rw [hlines] at h
      rcases List.mem_cons.mp h with rfl | h
      · exact hcons l (ih (hlines ▸ List.mem_cons_self))
      · exact ih (hlines ▸ List.mem_cons_of_mem l h)

end RunTitansim
