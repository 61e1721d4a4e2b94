import Mathlib.Data.Nat.Notation
import Mathlib.Tactic.TypeStar
import Mathlib.Tactic.Common

/-!
# Length-prefixed framing

A stream is cut into frames by a *frame rule*: the size of a frame can be read from its first
`header` elements.  `split` is the reference framer: it takes complete frames from the front of a
stream and returns what is left over.

A framer that works on pieces of the stream needs `split_prefix`, which says what has been framed
after a prefix of a stream of well-formed frames.
-/

/-- How the size of a frame is read from its first elements. -/
structure FrameRule (α : Type*) where
  /-- The number of elements from which the size can be read. -/
  header : ℕ
  /-- The size of the first frame of a stream that has the header. -/
  size : List α → ℕ
  /-- A header has at least one element. -/
  header_pos : 0 < header
  /-- The size depends on the header only. -/
  size_append : ∀ l t, header ≤ l.length → size (l ++ t) = size l

namespace FrameRule

variable {α : Type*} (R : FrameRule α)

/-- A frame is well formed when its header gives its own length. -/
def WellFormed (m : List α) : Prop := R.header ≤ m.length ∧ R.size m = m.length

/-- The stream starts with a complete frame. -/
def Complete (l : List α) : Prop := R.header ≤ l.length ∧ 0 < R.size l ∧ R.size l ≤ l.length

instance (m : List α) : Decidable (R.WellFormed m) := inferInstanceAs (Decidable (_ ∧ _))

instance (l : List α) : Decidable (R.Complete l) := inferInstanceAs (Decidable (_ ∧ _))

/-- Take at most `n` complete frames from the front of a stream. -/
def splitAtMost : ℕ → List α → List (List α) × List α
  | 0, l => ([], l)
  | n + 1, l =>
    if R.Complete l then
      let rest := splitAtMost n (l.drop (R.size l))
      (l.take (R.size l) :: rest.1, rest.2)
    else ([], l)

/-- The complete frames at the front of a stream, and what is left over. -/
def split (l : List α) : List (List α) × List α := R.splitAtMost l.length l

variable {R} {l t m : List α} {ms : List (List α)}

/-- More passes than there are elements make no difference. -/
lemma splitAtMost_eq_split {n : ℕ} (h : l.length ≤ n) : R.splitAtMost n l = R.split l := by
  suffices hgen : ∀ n k, l.length ≤ n → l.length ≤ k → R.splitAtMost n l = R.splitAtMost k l from
    hgen n l.length h (Nat.le_refl _)
  clear h
  intro n
  induction n generalizing l with
  | zero =>
    intro k hn _
    have hl : l.length = 0 := by omega
    have hc : ¬ R.Complete l := fun hc => by have := hc.2; omega
    cases k <;> simp [splitAtMost, hc]
  | succ n ih =>
    intro k hn hk
    by_cases hc : R.Complete l
    · have hpos : 0 < R.size l := hc.2.1
      have hle : R.size l ≤ l.length := hc.2.2
      obtain ⟨k, rfl⟩ : ∃ j, k = j + 1 := ⟨k - 1, by omega⟩
      have hrest : R.splitAtMost n (l.drop (R.size l)) = R.splitAtMost k (l.drop (R.size l)) :=
        ih k (by rw [List.length_drop]; omega) (by rw [List.length_drop]; omega)
      simp only [splitAtMost, if_pos hc, hrest]
    · cases k <;> simp [splitAtMost, hc]

/-- A stream without a complete frame is left over. -/
lemma split_of_not_complete (h : ¬ R.Complete l) : R.split l = ([], l) := by
  unfold split
  cases l.length <;> simp [splitAtMost, h]

/-- The first complete frame is taken, and the rest is split. -/
lemma split_of_complete (h : R.Complete l) :
    R.split l = (l.take (R.size l) :: (R.split (l.drop (R.size l))).1,
      (R.split (l.drop (R.size l))).2) := by
  have hpos : 0 < R.size l := h.2.1
  have hle : R.size l ≤ l.length := h.2.2
  obtain ⟨n, hn⟩ : ∃ n, l.length = n + 1 := ⟨l.length - 1, by omega⟩
  have hrest : R.splitAtMost n (l.drop (R.size l)) = R.split (l.drop (R.size l)) :=
    splitAtMost_eq_split (by rw [List.length_drop]; omega)
  rw [split, hn, splitAtMost, if_pos h, hrest]

/-- A complete frame stays complete when the stream goes on. -/
lemma Complete.append (h : R.Complete l) (t : List α) : R.Complete (l ++ t) := by
  obtain ⟨hhead, hpos, hle⟩ := h
  have hsize : R.size (l ++ t) = R.size l := R.size_append l t hhead
  refine ⟨?_, ?_, ?_⟩
  · rw [List.length_append]; omega
  · rwa [hsize]
  · rw [hsize, List.length_append]; omega

/-- A well-formed frame at the front of a stream is complete. -/
lemma WellFormed.complete_append (h : R.WellFormed m) (t : List α) : R.Complete (m ++ t) := by
  have hc : R.Complete m := by
    refine ⟨h.1, ?_, Nat.le_of_eq h.2⟩
    have hpos : 0 < R.header := R.header_pos
    have hhead : R.header ≤ m.length := h.1
    rw [h.2]
    omega
  exact hc.append t

/-- A well-formed frame is the first frame of the stream it starts. -/
lemma WellFormed.size_append (h : R.WellFormed m) (t : List α) : R.size (m ++ t) = m.length := by
  rw [R.size_append m t h.1, h.2]

/-- A well-formed frame at the front of a stream is taken. -/
lemma split_cons (h : R.WellFormed m) :
    R.split (m ++ t) = (m :: (R.split t).1, (R.split t).2) := by
  rw [split_of_complete (h.complete_append t), h.size_append t, List.take_left, List.drop_left]

/-- **Induction along the frames**: a property that passes from the rest of a stream to the
stream, and holds where no frame is complete, holds of every stream. -/
lemma frame_induction {P : List α → Prop}
    (complete : ∀ l, R.Complete l → P (l.drop (R.size l)) → P l)
    (incomplete : ∀ l, ¬ R.Complete l → P l) (l : List α) : P l := by
  suffices hgen : ∀ n l, l.length ≤ n → P l from hgen l.length l (Nat.le_refl _)
  intro n
  induction n with
  | zero =>
    intro l hl
    refine incomplete l fun hc => ?_
    have hpos : 0 < R.size l := hc.2.1
    have hle : R.size l ≤ l.length := hc.2.2
    omega
  | succ n ih =>
    intro l hl
    by_cases hc : R.Complete l
    · have hpos : 0 < R.size l := hc.2.1
      have hle : R.size l ≤ l.length := hc.2.2
      exact complete l hc (ih _ (by rw [List.length_drop]; omega))
    · exact incomplete l hc

/-- Frames and leftover make up the stream. -/
lemma flatten_split (l : List α) : (R.split l).1.flatten ++ (R.split l).2 = l := by
  induction l using frame_induction (R := R) with
  | complete l hc ih =>
    rw [split_of_complete hc]
    simp only [List.flatten_cons, List.append_assoc, ih, List.take_append_drop]
  | incomplete l hc => simp [split_of_not_complete hc]

/-- What is left over holds no complete frame. -/
lemma not_complete_leftover (l : List α) : ¬ R.Complete (R.split l).2 := by
  induction l using frame_induction (R := R) with
  | complete l hc ih => rwa [split_of_complete hc]
  | incomplete l hc => rwa [split_of_not_complete hc]

/-- **After a prefix of a stream of well-formed frames**, the first of the frames have been taken
and the leftover is the beginning of the others. -/
lemma split_prefix (hms : ∀ m ∈ ms, R.WellFormed m) (h : l ++ t = ms.flatten) :
    ∃ done rest r, ms = done ++ rest ∧ R.split l = (done, r) ∧ r ++ t = rest.flatten := by
  induction ms generalizing l with
  | nil =>
    refine ⟨[], [], l, rfl, ?_, h⟩
    have hl : l = [] := (List.append_eq_nil_iff.mp h).1
    refine split_of_not_complete fun hc => ?_
    have hpos : 0 < R.header := R.header_pos
    have hlen : l.length = 0 := by rw [hl]; rfl
    have hhead : R.header ≤ l.length := hc.1
    omega
  | cons m ms ih =>
    have hm : R.WellFormed m := hms m List.mem_cons_self
    rw [List.flatten_cons] at h
    rcases Nat.lt_or_ge l.length m.length with hlt | hge
    · -- the first frame has not arrived completely
      refine ⟨[], m :: ms, l, rfl, split_of_not_complete fun hc => ?_, by
        rw [List.flatten_cons]; exact h⟩
      have hsize : R.size l = m.length := by
        rw [← R.size_append l t hc.1, h, hm.size_append]
      have hle : R.size l ≤ l.length := hc.2.2
      omega
    · obtain ⟨l', rfl⟩ : ∃ l', l = m ++ l' := by
        have hpre : m <+: l :=
          List.prefix_of_prefix_length_le ⟨ms.flatten, h.symm⟩ (List.prefix_append l t) hge
        exact ⟨hpre.choose, hpre.choose_spec.symm⟩
      have hrest : l' ++ t = ms.flatten := by
        rw [List.append_assoc] at h
        exact List.append_cancel_left h
      obtain ⟨done, rest, r, hsplit, hl', hr⟩ :=
        ih (fun x hx => hms x (List.mem_cons_of_mem m hx)) hrest
      refine ⟨m :: done, rest, r, by rw [hsplit, List.cons_append], ?_, hr⟩
      rw [split_cons hm, hl']

end FrameRule
