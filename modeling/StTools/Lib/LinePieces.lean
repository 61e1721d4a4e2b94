import Mathlib.Data.List.Basic
import Mathlib.Tactic.Common

/-!
# Lines read through a buffer

A reader with room for `limit` elements takes a text in pieces: a piece ends behind a separator, or when
the buffer is full.  `pieces` are the pieces that are complete when the text ends; `firstPiece` is the
first one, complete or not, with the text behind it.
-/

namespace LinePieces

variable {α : Type*} [DecidableEq α] (nl : α) (limit : ℕ)

/-- The pieces of a text, where the buffer already has `acc`. -/
def pieces (acc : List α) : List α → List (List α)
  | [] => []
  | c :: cs =>
    if c = nl ∨ acc.length + 1 = limit then (acc ++ [c]) :: pieces [] cs else pieces (acc ++ [c]) cs

/-- The first piece of a text and what is behind it, where the buffer already has `acc`. -/
def firstPiece (acc : List α) : List α → List α × List α
  | [] => (acc, [])
  | c :: cs => if c = nl ∨ acc.length + 1 = limit then (acc ++ [c], cs) else firstPiece (acc ++ [c]) cs

variable {nl limit} {acc t rest : List α}

/-- What is behind the first piece is read in the other pieces. -/
lemma pieces_firstPiece (acc t : List α) :
    pieces nl limit [] (firstPiece nl limit acc t).2 = (pieces nl limit acc t).tail := by
  induction t generalizing acc with
  | nil => rfl
  | cons c cs ih =>
    rw [firstPiece, pieces]
    split_ifs
    · rfl
    · exact ih _

/-- The first piece begins with what is already in the buffer. -/
lemma prefix_firstPiece (acc t : List α) : acc <+: (firstPiece nl limit acc t).1 := by
  induction t generalizing acc with
  | nil => exact List.prefix_rfl
  | cons c cs ih =>
    rw [firstPiece]
    split_ifs
    · exact List.prefix_append acc [c]
    · exact (List.prefix_append acc [c]).trans (ih _)

/-- What fits into the buffer is read into it. -/
lemma firstPiece_append (ht : nl ∉ t) (hlength : acc.length + t.length < limit) :
    firstPiece nl limit acc (t ++ rest) = firstPiece nl limit (acc ++ t) rest := by
  induction t generalizing acc with
  | nil => simp
  | cons c cs ih =>
    obtain ⟨hc, hcs⟩ := not_or.mp (List.mem_cons.not.mp ht)
    rw [List.length_cons] at hlength
    rw [List.cons_append, firstPiece, if_neg (not_or.mpr ⟨Ne.symm hc, by omega⟩),
      ih hcs (by rw [List.length_append, List.length_singleton]; omega), List.append_assoc,
      List.singleton_append]

/-- Behind a separator reading starts anew. -/
lemma pieces_append_separator (acc t rest : List α) :
    pieces nl limit acc (t ++ nl :: rest) =
      pieces nl limit acc (t ++ [nl]) ++ pieces nl limit [] rest := by
  induction t generalizing acc with
  | nil => simp [pieces]
  | cons c cs ih =>
    rw [List.cons_append, pieces, List.cons_append, pieces]
    split_ifs
    · rw [ih, List.cons_append]
    · exact ih _

lemma pieces_separator_ne_nil (acc t : List α) : pieces nl limit acc (t ++ [nl]) ≠ [] := by
  induction t generalizing acc with
  | nil => simp [pieces]
  | cons c cs ih =>
    rw [List.cons_append, pieces]
    split_ifs
    · exact List.cons_ne_nil _ _
    · exact ih _

/-- A line that fits is one piece. -/
lemma pieces_line (ht : nl ∉ t) (hlength : acc.length + t.length < limit) :
    pieces nl limit acc (t ++ [nl]) = [acc ++ t ++ [nl]] := by
  induction t generalizing acc with
  | nil => simp [pieces]
  | cons c cs ih =>
    obtain ⟨hc, hcs⟩ := not_or.mp (List.mem_cons.not.mp ht)
    rw [List.length_cons] at hlength
    rw [List.cons_append, pieces, if_neg (not_or.mpr ⟨Ne.symm hc, by omega⟩),
      ih hcs (by rw [List.length_append, List.length_singleton]; omega), List.append_assoc acc,
      List.singleton_append]

/-- A line that fits and has no separator is not complete. -/
lemma pieces_of_notMem (ht : nl ∉ t) (hlength : acc.length + t.length < limit) :
    pieces nl limit acc t = [] := by
  induction t generalizing acc with
  | nil => rfl
  | cons c cs ih =>
    obtain ⟨hc, hcs⟩ := not_or.mp (List.mem_cons.not.mp ht)
    rw [List.length_cons] at hlength
    rw [pieces, if_neg (not_or.mpr ⟨Ne.symm hc, by omega⟩)]
    exact ih hcs (by rw [List.length_append, List.length_singleton]; omega)

/-- No piece is larger than the buffer. -/
lemma length_le_of_mem_pieces {q : List α} (hacc : acc.length < limit) (hq : q ∈ pieces nl limit acc t) :
    q.length ≤ limit := by
  induction t generalizing acc with
  | nil => cases hq
  | cons c cs ih =>
    rw [pieces] at hq
    split_ifs at hq with h
    · rcases List.mem_cons.mp hq with rfl | hq
      · rw [List.length_append, List.length_singleton]
        omega
      · refine ih ?_ hq
        exact Nat.zero_lt_of_lt hacc
    · refine ih ?_ hq
      rw [List.length_append, List.length_singleton]
      omega

/-- No piece is empty. -/
lemma ne_nil_of_mem_pieces {q : List α} (hq : q ∈ pieces nl limit acc t) : q ≠ [] := by
  induction t generalizing acc with
  | nil => cases hq
  | cons c cs ih =>
    rw [pieces] at hq
    split_ifs at hq
    · rcases List.mem_cons.mp hq with rfl | hq
      · simp
      · exact ih hq
    · exact ih hq

end LinePieces
