import Mathlib.Data.List.Infix
import Mathlib.Data.List.TakeWhile
import Mathlib.Tactic.Common

/-!
# Searching in texts

A text is a list.  `splitOnce pat l` looks for the first occurrence of a pattern in a text and gives
what stands before and behind it.
-/

namespace TextSearch

variable {α : Type*} [DecidableEq α]

/-! ## The first occurrence of a pattern -/

/-- What stands before and behind the first occurrence of a pattern. -/
def splitOnce (pat : List α) : List α → Option (List α × List α)
  | [] => if pat = [] then some ([], []) else none
  | c :: cs =>
    if pat <+: c :: cs then some ([], (c :: cs).drop pat.length)
    else (splitOnce pat cs).map fun x => (c :: x.1, x.2)

variable {pat l a b : List α}

/-- The text is put together from the two parts and the pattern. -/
lemma eq_append_of_splitOnce (h : splitOnce pat l = some (a, b)) : l = a ++ pat ++ b := by
  induction l generalizing a with
  | nil =>
    rw [splitOnce] at h
    split_ifs at h with hpat
    cases h
    rw [hpat]
    rfl
  | cons c cs ih =>
    rw [splitOnce] at h
    split_ifs at h with hpat
    · cases h
      obtain ⟨t, ht⟩ := hpat
      rw [← ht, List.drop_left]
      rfl
    · obtain ⟨x, hx, hab⟩ := Option.map_eq_some_iff.mp h
      cases hab
      exact congrArg (List.cons c) (ih hx)

/-- There is no split exactly when the text does not contain the pattern. -/
lemma splitOnce_eq_none_iff : splitOnce pat l = none ↔ ¬ pat <:+: l := by
  induction l with
  | nil =>
    rw [splitOnce, List.infix_nil]
    split_ifs with hpat
    · simp [hpat]
    · simp [hpat]
  | cons c cs ih =>
    rw [splitOnce, List.infix_cons_iff]
    split_ifs with hpat
    · simp [hpat]
    · rw [Option.map_eq_none_iff, ih]
      simp [hpat]

/-- A pattern is found where its first element occurs first. -/
lemma splitOnce_append {p : α} {ps : List α} (ha : p ∉ a) :
    splitOnce (p :: ps) (a ++ (p :: ps ++ b)) = some (a, b) := by
  induction a with
  | nil =>
    rw [List.nil_append, List.cons_append, splitOnce, if_pos]
    · rw [← List.cons_append, List.drop_left]
    · exact ⟨b, rfl⟩
  | cons c cs ih =>
    have hc : ¬ p :: ps <+: c :: (cs ++ (p :: ps ++ b)) := by
      rintro ⟨t, ht⟩
      rw [List.cons_append, List.cons.injEq] at ht
      exact ha (ht.1 ▸ List.mem_cons_self)
    rw [List.cons_append, splitOnce, if_neg hc, ih fun h => ha (List.mem_cons_of_mem c h)]
    rfl

/-- The part in front of an element. -/
lemma splitOnce_singleton {c : α} (ha : c ∉ a) (b : List α) : splitOnce [c] (a ++ c :: b) = some (a, b) :=
  splitOnce_append ha

/-- A pattern is found where it stands, unless it also ends before. -/
lemma splitOnce_append_pattern (h : ¬ pat <:+: a ++ pat.dropLast) :
    splitOnce pat (a ++ pat ++ b) = some (a, b) := by
  induction a with
  | nil =>
    cases pat with
    | nil => exact absurd List.nil_infix h
    | cons p ps =>
      rw [List.nil_append, List.cons_append, splitOnce, if_pos ⟨b, rfl⟩, ← List.cons_append, List.drop_left]
  | cons c cs ih =>
    have hc : ¬ pat <+: c :: (cs ++ pat ++ b) := by
      intro hpat
      have hall : c :: cs ++ pat.dropLast <+: c :: (cs ++ pat ++ b) := by
        rw [List.cons_append, List.append_assoc cs]
        exact List.cons_prefix_cons.mpr ⟨rfl, (List.prefix_append_right_inj cs).mpr
          ((List.dropLast_prefix pat).trans (List.prefix_append pat b))⟩
      have hlength : pat.length ≤ (c :: cs ++ pat.dropLast).length := by
        rw [List.length_append, List.length_cons, List.length_dropLast]
        omega
      exact h (List.prefix_of_prefix_length_le hpat hall hlength).isInfix
    rw [List.cons_append, List.cons_append, splitOnce, if_neg hc, ih fun hcs => h (List.infix_cons hcs)]
    rfl

omit [DecidableEq α] in
/-- A property of the elements of a fixed text. -/
lemma forall_mem_of_all {P : α → Prop} [DecidablePred P] (h : (l.all fun c => decide (P c)) = true) :
    ∀ c ∈ l, P c := fun c hc =>
  of_decide_eq_true (List.all_eq_true.mp h c hc)

/-! ## Patterns and separators -/

omit [DecidableEq α] in
/-- A pattern without an element stands on one side of this element. -/
lemma infix_append_cons_iff {c : α} (hc : c ∉ pat) : pat <:+: a ++ c :: b ↔ pat <:+: a ∨ pat <:+: b := by
  constructor
  · intro h
    rcases List.infix_append_iff.mp h with h | h | ⟨l₁, l₂, rfl, hleft, hright⟩
    · exact .inl h
    · rcases List.infix_cons_iff.mp h with h | h
      · cases pat with
        | nil => exact .inl List.nil_infix
        | cons d ds => exact absurd ((List.cons_prefix_cons.mp h).1 ▸ List.mem_cons_self) hc
      · exact .inr h
    · cases l₂ with
      | nil =>
        rw [List.append_nil]
        exact .inl hleft.isInfix
      | cons d ds =>
        obtain ⟨rfl, -⟩ := List.cons_prefix_cons.mp hright
        exact absurd (List.mem_append_right _ List.mem_cons_self) hc
  · rintro (h | h)
    · exact List.infix_append_of_infix_left h
    · exact List.infix_append_of_infix_right (List.infix_cons h)

omit [DecidableEq α] in
/-- A pattern does not reach into a part in front that has none of its elements. -/
lemma infix_append_right_iff (hpat : pat ≠ []) (ha : ∀ x ∈ a, x ∉ pat) : pat <:+: a ++ b ↔ pat <:+: b := by
  induction a with
  | nil => rfl
  | cons c a ih =>
    obtain ⟨hc, ha⟩ := List.forall_mem_cons.mp ha
    have hnil : ¬ pat <:+: [] := fun h => hpat (List.infix_nil.mp h)
    rw [List.cons_append, ← List.nil_append (c :: (a ++ b)), infix_append_cons_iff hc, ih ha, or_iff_right hnil]

omit [DecidableEq α] in
/-- A pattern does not reach into a part behind that has none of its elements. -/
lemma infix_append_left_iff (hpat : pat ≠ []) (hb : ∀ x ∈ b, x ∉ pat) : pat <:+: a ++ b ↔ pat <:+: a := by
  cases b with
  | nil => rw [List.append_nil]
  | cons c b =>
    obtain ⟨hc, hb⟩ := List.forall_mem_cons.mp hb
    obtain ⟨x, hx⟩ := List.exists_mem_of_ne_nil pat hpat
    rw [infix_append_cons_iff hc, or_iff_left fun h => hb x (h.subset hx) hx]

/-- The two parts consist of elements of the text. -/
lemma splitOnce_subset (h : splitOnce pat l = some (a, b)) : a ⊆ l ∧ b ⊆ l := by
  rw [eq_append_of_splitOnce h]
  constructor
  · exact fun x hx => List.mem_append_left _ (List.mem_append_left _ hx)
  · exact fun x hx => List.mem_append_right _ hx

end TextSearch
