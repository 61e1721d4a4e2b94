import Mathlib.Data.List.Infix
import Mathlib.Data.Finset.Insert
import Mathlib.Logic.Function.Basic
import Mathlib.Tactic.Common

/-!
# Replacing a pattern in a text

`replace pat value l` replaces the occurrences of a pattern that a scan from left to right finds; an
occurrence that overlaps the one before it is not found.  The pattern is not empty.

A text with references is a list of pieces: a piece is an element of the text or a reference to a
name.  `written σ p` is the text in which every name stands as `σ` says.  When the scan for the
spelling of a name finds exactly the references to that name, the replacement changes what is
written for this name and nothing else.

Names that are spelled between two delimiters are found in this way when the values and the other
elements of the text hold no delimiter and the references are separated.
-/

namespace TextReplace

variable {α κ : Type*} [DecidableEq α] [DecidableEq κ]

/-! ## The scan -/

/-- Read a text from left to right: `none` stands for an occurrence of the pattern, and the first
`n` elements belong to an occurrence that was found before. -/
def scan (pat : List α) : ℕ → List α → List (Option α)
  | _, [] => []
  | n + 1, _ :: cs => scan pat n cs
  | 0, c :: cs =>
    if pat <+: c :: cs then none :: scan pat (pat.length - 1) cs else some c :: scan pat 0 cs

/-- Write a value at the occurrences that a scan found. -/
def fill (value : List α) (marks : List (Option α)) : List α :=
  marks.flatMap fun m => m.elim value fun c => [c]

/-- Replace the occurrences of a pattern. -/
def replace (pat value l : List α) : List α := fill value (scan pat 0 l)

variable {pat value l w : List α} {c : α}

/-- The elements of an occurrence are skipped. -/
lemma scan_eq_drop (n : ℕ) : scan pat n l = scan pat 0 (l.drop n) := by
  induction l generalizing n with
  | nil => cases n <;> rfl
  | cons c cs ih =>
    cases n with
    | zero => rfl
    | succ n => exact ih n

/-- An occurrence at the beginning is found. -/
lemma scan_append (hpat : pat ≠ []) : scan pat 0 (pat ++ l) = none :: scan pat 0 l := by
  obtain ⟨c, ps, rfl⟩ := List.exists_cons_of_ne_nil hpat
  have hprefix : c :: ps <+: c :: (ps ++ l) := ⟨l, rfl⟩
  rw [List.cons_append, scan, if_pos hprefix, scan_eq_drop, List.length_cons,
    Nat.add_sub_cancel, List.drop_left]

/-- An element at which no occurrence begins is kept. -/
lemma scan_cons (h : ¬ pat <+: c :: l) : scan pat 0 (c :: l) = some c :: scan pat 0 l := by
  rw [scan, if_neg h]

/-- The elements that differ from the first one of the pattern are kept. -/
lemma scan_append_of_notMem {c : α} {ps : List α} (hw : c ∉ w) :
    scan (c :: ps) 0 (w ++ l) = w.map some ++ scan (c :: ps) 0 l := by
  induction w with
  | nil => rfl
  | cons x xs ih =>
    have hx : ¬ c :: ps <+: x :: (xs ++ l) := fun h =>
      hw (List.mem_cons.mpr (Or.inl (List.cons_prefix_cons.mp h).1))
    rw [List.cons_append, scan_cons hx, ih fun h => hw (List.mem_cons_of_mem x h)]
    rfl

/-- A text without the pattern stays as it is. -/
lemma replace_of_not_infix (h : ¬ pat <:+: l) : replace pat value l = l := by
  induction l with
  | nil => rfl
  | cons c cs ih =>
    have hhead : ¬ pat <+: c :: cs := fun hp => h hp.isInfix
    have htail : ¬ pat <:+: cs := fun hi => h (hi.trans (List.suffix_cons c cs).isInfix)
    rw [replace, scan_cons hhead]
    exact congrArg (List.cons c) (ih htail)

/-- A text that is shorter than the pattern stays as it is. -/
lemma replace_of_length_lt (h : l.length < pat.length) : replace pat value l = l :=
  replace_of_not_infix fun hi => absurd hi.length_le (Nat.not_le.mpr h)

/-! ## Texts with references -/

/-- The text in which every name stands as `σ` says. -/
def written (σ : κ → List α) (p : List (α ⊕ κ)) : List α :=
  p.flatMap (Sum.elim (fun c => [c]) σ)

/-- The scan that finds the references to the name `k` and nothing else. -/
def marked (σ : κ → List α) (k : κ) (p : List (α ⊕ κ)) : List (Option α) :=
  p.flatMap (Sum.elim (fun c => [some c]) fun j => if j = k then [none] else (σ j).map some)

/-- The pattern is found exactly at the references to the name `k`. -/
def Finds (pat : List α) (σ : κ → List α) (k : κ) (p : List (α ⊕ κ)) : Prop :=
  scan pat 0 (written σ p) = marked σ k p

variable {σ : κ → List α} {k : κ} {p : List (α ⊕ κ)}

omit [DecidableEq α] in
/-- A value at the references to a name. -/
lemma fill_marked : fill value (marked σ k p) = written (Function.update σ k value) p := by
  have hsome : ∀ l : List α, fill value (l.map some) = l := by
    intro l
    induction l with
    | nil => rfl
    | cons c cs ih => exact congrArg (List.cons c) ih
  have happend : ∀ a b : List (Option α), fill value (a ++ b) = fill value a ++ fill value b :=
    fun a b => List.flatMap_append
  induction p with
  | nil => rfl
  | cons x p ih =>
    rw [marked, List.flatMap_cons, happend, written, List.flatMap_cons]
    refine congrArg₂ (· ++ ·) ?_ ih
    cases x with
    | inl c => rfl
    | inr j =>
      rw [Sum.elim_inr, Sum.elim_inr]
      rcases eq_or_ne j k with rfl | hne
      · rw [if_pos rfl, Function.update_self]
        exact List.append_nil value
      · rw [if_neg hne, Function.update_of_ne hne, hsome]

/-- A replacement that finds the references to a name changes what is written for this name. -/
lemma replace_written (h : Finds pat σ k p) :
    replace pat value (written σ p) = written (Function.update σ k value) p := by
  rw [replace, show scan pat 0 (written σ p) = marked σ k p from h, fill_marked]

/-- What is written for the names while some of them have been replaced. -/
def stage (spelling value : κ → List α) (done : Finset κ) (k : κ) : List α :=
  if k ∈ done then value k else spelling k

omit [DecidableEq α] in
/-- One more name has been replaced. -/
lemma update_stage {spelling value : κ → List α} {done : Finset κ} :
    Function.update (stage spelling value done) k (value k) =
      stage spelling value (insert k done) := by
  funext j
  rcases eq_or_ne j k with rfl | hne
  · rw [Function.update_self, stage, if_pos (Finset.mem_insert_self j done)]
  · have hmem : j ∈ insert k done ↔ j ∈ done := Finset.mem_insert.trans (or_iff_right hne)
    simp only [Function.update_of_ne hne, stage, hmem]

/-! ## Spellings between delimiters -/

/-- A name between two delimiters. -/
def framed (d : α) (name : List α) : List α := d :: (name ++ [d])

/-- A separator stands before the next reference, if there is one. -/
def SeparatorFirst (s : α) : List (α ⊕ κ) → Prop
  | [] => True
  | .inl c :: p => c = s ∨ SeparatorFirst s p
  | .inr _ :: _ => False

/-- A separator stands between every two references. -/
def Separated (s : α) : List (α ⊕ κ) → Prop
  | [] => True
  | .inl _ :: p => Separated s p
  | .inr _ :: p => SeparatorFirst s p ∧ Separated s p

variable {d s : α} {name other : List α}

omit [DecidableEq α] in
/-- Two names without the delimiter that begin a common text are the same. -/
lemma eq_of_prefix_append (hname : d ∉ name) (hother : d ∉ other)
    (h : name ++ [d] <+: other ++ d :: l) : name = other := by
  induction name generalizing other with
  | nil =>
    cases other with
    | nil => rfl
    | cons c cs =>
      have hc : d = c := (List.cons_prefix_cons.mp h).1
      exact absurd (List.mem_cons.mpr (Or.inl hc)) hother
  | cons x xs ih =>
    cases other with
    | nil =>
      have hx : x = d := (List.cons_prefix_cons.mp h).1
      exact absurd (List.mem_cons.mpr (Or.inl hx.symm)) hname
    | cons c cs =>
      obtain ⟨rfl, htail⟩ := List.cons_prefix_cons.mp h
      exact congrArg (List.cons x) (ih (fun hd => hname (List.mem_cons_of_mem x hd))
        (fun hd => hother (List.mem_cons_of_mem x hd)) htail)

omit [DecidableEq α] [DecidableEq κ] in
/-- What follows a reference does not complete a name: the separator comes before the next
delimiter. -/
lemma not_prefix_written (hs : s ∉ name) (hplain : ∀ c, Sum.inl c ∈ p → c ≠ d)
    (hp : SeparatorFirst s p) : ¬ name ++ [d] <+: written σ p := by
  induction p generalizing name with
  | nil =>
    intro h
    exact absurd (List.prefix_nil.mp h) (by simp)
  | cons x p ih =>
    have htail : ∀ c, Sum.inl c ∈ p → c ≠ d := fun c hc => hplain c (List.mem_cons_of_mem x hc)
    cases x with
    | inr j => exact hp.elim
    | inl c =>
      intro h
      cases name with
      | nil =>
        have hd : d = c := (List.cons_prefix_cons.mp h).1
        exact hplain c List.mem_cons_self hd.symm
      | cons y ys =>
        obtain ⟨rfl, hrest⟩ := List.cons_prefix_cons.mp h
        rcases hp with rfl | hp
        · exact hs List.mem_cons_self
        · exact ih (fun hmem => hs (List.mem_cons_of_mem y hmem)) htail hp hrest

/-- In a text with separated references a name is found exactly at its references, whichever of the
other names have been replaced by values without the delimiter. -/
lemma finds_of_separated {σ : List α → List α} {p : List (α ⊕ List α)}
    (hd : d ∉ name) (hs : s ∉ name) (hσ : σ name = framed d name)
    (hplain : ∀ c, Sum.inl c ∈ p → c ≠ d)
    (hrefs : ∀ j, Sum.inr j ∈ p → d ∉ j ∧ (σ j = framed d j ∨ d ∉ σ j))
    (hp : Separated s p) : Finds (framed d name) σ name p := by
  induction p with
  | nil => rfl
  | cons x p ih =>
    have hplain' : ∀ c, Sum.inl c ∈ p → c ≠ d := fun c hc => hplain c (List.mem_cons_of_mem x hc)
    have hrefs' : ∀ j, Sum.inr j ∈ p → d ∉ j ∧ (σ j = framed d j ∨ d ∉ σ j) :=
      fun j hj => hrefs j (List.mem_cons_of_mem x hj)
    cases x with
    | inl c =>
      have hrest := ih hplain' hrefs' hp
      have hc : ¬ framed d name <+: c :: written σ p := fun h =>
        hplain c List.mem_cons_self (List.cons_prefix_cons.mp h).1.symm
      exact (scan_cons hc).trans (congrArg (List.cons (some c)) hrest)
    | inr j =>
      have hrest : scan (framed d name) 0 (written σ p) = marked σ name p :=
        ih hplain' hrefs' hp.2
      have hwritten : written σ (.inr j :: p) = σ j ++ written σ p := rfl
      have hmarked : marked σ name (.inr j :: p) =
          (if j = name then [none] else (σ j).map some) ++ marked σ name p := rfl
      rw [Finds, hwritten, hmarked]
      rcases eq_or_ne j name with rfl | hne
      · have hne : framed d j ≠ [] := List.cons_ne_nil d _
        rw [if_pos rfl, hσ, scan_append hne, hrest]
        rfl
      · rw [if_neg hne]
        obtain ⟨hj, hframed | hfree⟩ := hrefs j List.mem_cons_self
        · -- The delimiter behind another name does not begin an occurrence: a separator follows.
          have hopen : ¬ framed d name <+: d :: (j ++ (d :: written σ p)) := fun h =>
            hne (eq_of_prefix_append hd hj (List.cons_prefix_cons.mp h).2).symm
          have hclose : ¬ framed d name <+: d :: written σ p := fun h =>
            not_prefix_written hs hplain' hp.1 (List.cons_prefix_cons.mp h).2
          have hsplit : framed d j ++ written σ p = d :: (j ++ (d :: written σ p)) := by
            simp [framed]
          rw [hframed, hsplit, scan_cons hopen, framed, scan_append_of_notMem hj,
            ← framed, scan_cons hclose, hrest]
          simp [framed]
        · rw [framed, scan_append_of_notMem hfree, ← framed, hrest]

end TextReplace
