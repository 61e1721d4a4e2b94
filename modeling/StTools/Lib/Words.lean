import Mathlib.Data.List.TakeWhile
import Mathlib.Tactic.TypeStar
import Mathlib.Tactic.Common

/-!
# Words

The words of a text are its longest parts without breaks.  `readWord` reads the first of them and leaves
the rest of the text, and `words_eq` says that reading on gives the others.
-/

namespace Words

variable {α : Type*} (p : α → Bool)

/-- The words of a text, which has breaks where `p` holds. -/
def words (t : List α) : List (List α) := (t.splitOnP p).filter fun w => !w.isEmpty

/-- Read the first word of a text; what is left begins with a break, if anything is left. -/
def readWord (t : List α) : Option (List α × List α) :=
  match t.dropWhile p with
  | [] => none
  | c :: cs => some ((c :: cs).takeWhile fun d => !p d, (c :: cs).dropWhile fun d => !p d)

variable {p} {t w rest : List α}

/-- Words end at a break. -/
lemma words_append_break {c : α} (hc : p c = true) (s t : List α) :
    words p (s ++ c :: t) = words p s ++ words p t := by
  unfold words
  rw [List.splitOnP_append_cons s t hc, List.filter_append]

@[simp] lemma words_nil : words p [] = [] := by simp [words, List.splitOnP_nil]

/-- Breaks in front of a text. -/
lemma words_breaks_append {bs : List α} (h : ∀ c ∈ bs, p c = true) (t : List α) :
    words p (bs ++ t) = words p t := by
  induction bs with
  | nil => rfl
  | cons c bs ih =>
    have hbreak := words_append_break (h c List.mem_cons_self) [] (bs ++ t)
    rw [words_nil] at hbreak
    exact hbreak.trans (ih fun d hd => h d (List.mem_cons_of_mem c hd))

/-- A text without breaks is a word. -/
lemma words_of_noBreak (hne : w ≠ []) (h : ∀ c ∈ w, p c = false) : words p w = [w] := by
  rw [words, List.splitOnP_eq_singleton fun c hc => by simp [h c hc]]
  simp [hne]

/-- A text in which no word is left. -/
lemma words_of_readWord_none (h : readWord p t = none) : words p t = [] := by
  unfold readWord at h
  split at h
  · rename_i hnil
    have hbreaks := words_breaks_append (List.dropWhile_eq_nil_iff.mp hnil) []
    rwa [List.append_nil, words_nil] at hbreaks
  · cases h

/-- A word that is read stands behind breaks, and ends at a break or with the text. -/
lemma exists_of_readWord (h : readWord p t = some (w, rest)) :
    w ≠ [] ∧ (∀ c ∈ w, p c = false) ∧ (∀ c ∈ rest.head?, p c = true) ∧
      ∃ bs, (∀ c ∈ bs, p c = true) ∧ t = bs ++ (w ++ rest) := by
  unfold readWord at h
  split at h
  · cases h
  rename_i c cs hcs
  obtain ⟨rfl, rfl⟩ := Prod.mk.inj (Option.some.inj h)
  have hc : p c = false := by
    have hhead := List.head?_dropWhile_not p t
    rwa [hcs] at hhead
  refine ⟨by simp [List.takeWhile, hc], fun d hd => by simpa using List.mem_takeWhile_imp hd, ?_, ?_⟩
  · intro d hd
    have hhead := List.head?_dropWhile_not (fun d => !p d) (c :: cs)
    rw [Option.mem_def.mp hd] at hhead
    simpa using hhead
  · refine ⟨t.takeWhile p, fun d hd => List.mem_takeWhile_imp hd, ?_⟩
    rw [List.takeWhile_append_dropWhile, ← hcs, List.takeWhile_append_dropWhile]

/-- **Reading words.**  The words of a text are the one that is read first, and those of what is left. -/
theorem words_eq (t : List α) : words p t =
    match readWord p t with
    | none => []
    | some (w, rest) => w :: words p rest := by
  cases hread : readWord p t with
  | none => exact words_of_readWord_none hread
  | some x =>
    obtain ⟨w, rest⟩ := x
    obtain ⟨hne, hw, hrest, bs, hbs, rfl⟩ := exists_of_readWord hread
    dsimp only
    rw [words_breaks_append hbs]
    cases rest with
    | nil => rw [List.append_nil, words_of_noBreak hne hw, words_nil]
    | cons c rest =>
      have hc : p c = true := hrest c rfl
      have hbreak := words_append_break hc [] rest
      rw [words_nil, List.nil_append, List.nil_append] at hbreak
      rw [words_append_break hc, words_of_noBreak hne hw, hbreak, List.singleton_append]

end Words
