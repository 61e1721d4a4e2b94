import StTools.RunTitansim.ConfigHandler
import StTools.ScenarioDeployGenerator.Configuration

/-!
# Lines of the configuration

What the generator reads of the lines that the Python program writes: the lines that fit into its
buffer, without blanks and comments.
-/

namespace RunTitansim

open ScenarioDeployGenerator (Text getlines lineSize purgeLine)

variable {a b l : Text} {ls ls' : List Text}

/-- Lines that fit into the buffer are read one after the other. -/
lemma getlines_append (h : ∀ l ∈ ls, l.length < lineSize) :
    getlines (ls ++ ls') = ls ++ getlines ls' := by
  induction ls with
  | nil => rfl
  | cons l ls ih =>
    rw [List.cons_append, getlines, if_pos (h l List.mem_cons_self),
      ih fun x hx => h x (List.mem_cons_of_mem l hx)]
    rfl

/-- Nothing is read behind a line that does not fit. -/
lemma getlines_append_of_le (h : ∃ l ∈ ls, lineSize ≤ l.length) :
    getlines (ls ++ ls') = getlines ls := by
  induction ls with
  | nil =>
    obtain ⟨l, hl, -⟩ := h
    nomatch hl
  | cons l ls ih =>
    rw [List.cons_append, getlines, getlines]
    split_ifs with hfit
    · obtain ⟨l', hl', hlong⟩ := h
      rcases List.mem_cons.mp hl' with rfl | hl'
      · exact absurd hfit (by omega)
      · rw [ih ⟨l', hl', hlong⟩]
    · rfl

/-- A line that is read of two files in a row. -/
lemma mem_getlines_append (h : l ∈ getlines (ls ++ ls')) : l ∈ getlines ls ∨ l ∈ getlines ls' := by
  by_cases hfit : ∀ l ∈ ls, l.length < lineSize
  · have hls : getlines ls = ls := by
      have h : getlines (ls ++ []) = ls ++ getlines [] := getlines_append hfit
      rwa [List.append_nil, getlines, List.append_nil] at h
    rw [getlines_append hfit] at h
    rw [hls]
    exact List.mem_append.mp h
  · push Not at hfit
    rw [getlines_append_of_le hfit] at h
    exact .inl h

/-- A line that is read is a line of the file, perhaps cut off. -/
lemma exists_of_mem_getlines (h : l ∈ getlines ls) : ∃ l' ∈ ls, ∃ n, l = l'.take n := by
  induction ls with
  | nil => nomatch h
  | cons l' ls ih =>
    rw [getlines] at h
    split_ifs at h
    · rcases List.mem_cons.mp h with rfl | h
      · exact ⟨l, List.mem_cons_self, l.length, List.take_length.symm⟩
      · obtain ⟨x, hx, hl⟩ := ih h
        exact ⟨x, List.mem_cons_of_mem l' hx, hl⟩
    · exact ⟨l', List.mem_cons_self, _, List.mem_singleton.mp h⟩

/-- A character that `purgeLine` keeps. -/
def isKept (c : Char) : Bool := c ∉ ['#', '\r', '/', ' ', '\t']

/-- Kept characters at the start of a line stay. -/
lemma purgeLine_append (h : ∀ c ∈ a, isKept c = true) : purgeLine (a ++ b) = a ++ purgeLine b := by
  induction a with
  | nil => rfl
  | cons c cs ih =>
    have hc : c ∉ ['#', '\r', '/', ' ', '\t'] := of_decide_eq_true (h c List.mem_cons_self)
    simp only [List.mem_cons, List.not_mem_nil, or_false, not_or] at hc
    obtain ⟨h₁, h₂, h₃, h₄, h₅⟩ := hc
    rw [List.cons_append, purgeLine, ih fun d hd => h d (List.mem_cons_of_mem c hd)]
    · rfl
    · exact h₁
    · exact h₂
    · exact fun _ heq => absurd heq h₃
    · exact h₄
    · exact h₅

/-- A character without a meaning for the programs; the colon is one of them. -/
def isPlain (c : Char) : Bool := ¬ isWhite c ∧ c ∉ ['#', '/', '"']

lemma isKept_of_isPlain {c : Char} (hc : isPlain c = true) : isKept c = true ∧ c ≠ '\n' := by
  simp only [isPlain, isWhite, isKept, List.mem_cons, List.not_mem_nil, or_false, not_or,
    decide_eq_true_eq] at hc ⊢
  tauto

end RunTitansim
