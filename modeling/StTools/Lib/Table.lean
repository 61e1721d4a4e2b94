import Mathlib.Data.Nat.Notation
import Mathlib.Tactic.TypeStar
import Mathlib.Tactic.Common
import Mathlib.Algebra.Order.Group.Int

/-!
# Tables indexed by machine integers

A vector of an imperative program is a list that is read and written at a *signed* index, which
need not be inside it.  Reading outside gives `none` and writing outside changes nothing;
`InRange` is the test that the program may have forgotten.
-/

namespace Table

variable {α : Type*}

/-- The entry at a signed index, if the index is inside the table. -/
def get (t : List α) : ℤ → Option α
  | .ofNat n => t[n]?
  | .negSucc _ => none

/-- Change the entry at a signed index; outside the table nothing happens. -/
def modify (t : List α) (i : ℤ) (f : α → α) : List α :=
  match i with
  | .ofNat n => t.modify n f
  | .negSucc _ => t

/-- The entry at a signed index, or a default entry. -/
def read (t : List α) (d : α) (i : ℤ) : α := (get t i).getD d

/-- The index is inside the table. -/
def InRange (t : List α) (i : ℤ) : Prop := 0 ≤ i ∧ i < t.length

instance (t : List α) (i : ℤ) : Decidable (InRange t i) :=
  inferInstanceAs (Decidable (_ ∧ _))

/-- Reading at a natural index is reading the list. -/
@[simp] lemma get_natCast (t : List α) (n : ℕ) : get t (n : ℤ) = t[n]? := rfl

/-- Nothing is stored before the first entry. -/
@[simp] lemma get_neg_one (t : List α) : get t (-1) = none := rfl

/-- Writing at a natural index is writing the list. -/
@[simp] lemma modify_natCast (t : List α) (n : ℕ) (f : α → α) :
    modify t (n : ℤ) f = t.modify n f := rfl

/-- Writing keeps the size of the table. -/
@[simp] lemma length_modify (t : List α) (i : ℤ) (f : α → α) :
    (modify t i f).length = t.length := by
  cases i <;> simp [modify]

/-- Writing at one index changes what is read there and nowhere else. -/
lemma get_modify (t : List α) (i j : ℤ) (f : α → α) :
    get (modify t i f) j = if i = j then (get t j).map f else get t j := by
  cases i with
  | negSucc m =>
    cases j with
    | ofNat n => rfl
    | negSucc n => simp [get]
  | ofNat m =>
    cases j with
    | ofNat n =>
      simp only [modify, get, List.getElem?_modify, Int.ofNat.injEq]
      by_cases h : m = n <;> simp [h]
    | negSucc n => simp [get]

/-- Two changes of one entry make one. -/
lemma modify_modify (t : List α) (i : ℤ) (f g : α → α) :
    modify (modify t i f) i g = modify t i fun a => g (f a) := by
  cases i with
  | ofNat n => simp only [modify, List.modify_modify_eq]; rfl
  | negSucc n => rfl

/-- A change that does nothing. -/
@[simp] lemma modify_id (t : List α) (i : ℤ) : modify t i (fun a => a) = t := by
  cases i with
  | ofNat n => exact List.modify_id n t
  | negSucc n => rfl

/-- Something is read exactly at the indices inside the table. -/
lemma get_isSome_iff {t : List α} {i : ℤ} : (get t i).isSome ↔ InRange t i := by
  cases i with
  | ofNat n => simp [get, InRange]
  | negSucc n => simp [get, InRange, Int.negSucc_not_nonneg]

/-- The range of a table does not change when it is written. -/
@[simp] lemma inRange_modify {t : List α} {i j : ℤ} {f : α → α} :
    InRange (modify t i f) j ↔ InRange t j := by
  simp [InRange]

/-- Outside the table the default entry is read. -/
lemma read_of_not_inRange {t : List α} {d : α} {i : ℤ} (h : ¬ InRange t i) : read t d i = d := by
  rw [← get_isSome_iff, Option.not_isSome_iff_eq_none] at h
  rw [read, h, Option.getD_none]

/-- Writing at one index changes what is read there, if it is inside the table. -/
lemma read_modify (t : List α) (d : α) (i j : ℤ) (f : α → α) :
    read (modify t i f) d j = if i = j ∧ InRange t j then f (read t d j) else read t d j := by
  by_cases hj : InRange t j
  · obtain ⟨a, ha⟩ := Option.isSome_iff_exists.mp (get_isSome_iff.mpr hj)
    by_cases hij : i = j
    · rw [if_pos ⟨hij, hj⟩, read, read, get_modify, if_pos hij, ha]
      rfl
    · rw [if_neg fun h => hij h.1, read, read, get_modify, if_neg hij]
  · rw [if_neg fun h => hj h.2, read_of_not_inRange hj,
      read_of_not_inRange (mt inRange_modify.mp hj)]

/-- What is read at the index just written. -/
lemma read_modify_self {t : List α} {d : α} {i : ℤ} (f : α → α) (h : InRange t i) :
    read (modify t i f) d i = f (read t d i) := by
  rw [read_modify, if_pos ⟨rfl, h⟩]

/-- What is read at any other index. -/
lemma read_modify_of_ne {t : List α} {d : α} {i j : ℤ} (f : α → α) (h : i ≠ j) :
    read (modify t i f) d j = read t d j := by
  rw [read_modify, if_neg fun hij => h hij.1]

/-- A field that a change keeps. -/
lemma read_modify_field {β : Type*} (g : α → β) {t : List α} {d : α} {i j : ℤ} {f : α → α}
    (hf : ∀ a, g (f a) = g a) : g (read (modify t i f) d j) = g (read t d j) := by
  rw [read_modify]
  split
  · exact hf _
  · rfl

/-- A property of everything that is read, if the change keeps it. -/
lemma read_modify_of {p : α → Prop} {t : List α} {d : α} {i : ℤ} {f : α → α}
    (h : ∀ j, p (read t d j)) (hf : ∀ a, p a → p (f a)) (j : ℤ) : p (read (modify t i f) d j) := by
  rw [read_modify]
  split
  · exact hf _ (h j)
  · exact h j

/-- Changing one entry changes how many entries have a property by that entry. -/
lemma countP_modify (p : α → Prop) [DecidablePred p] {t : List α} {d : α} {i : ℤ} (f : α → α)
    (h : InRange t i) :
    (modify t i f).countP (fun a => p a) + (if p (read t d i) then 1 else 0) =
      t.countP (fun a => p a) + if p (f (read t d i)) then 1 else 0 := by
  obtain ⟨n, rfl⟩ := Int.eq_ofNat_of_zero_le h.1
  have hn : n < t.length := Int.ofNat_lt.mp h.2
  have hread : read t d n = t[n] := by
    rw [read, get_natCast, List.getElem?_eq_getElem hn, Option.getD_some]
  have hset : modify t n f = t.set n (f t[n]) := by
    have : Inhabited α := ⟨d⟩
    rw [modify_natCast, List.modify_eq_set, List.getElem?_eq_getElem hn, Option.getD_some]
  rw [hread, hset, List.countP_set hn]
  by_cases hp : p t[n]
  · have hpos : 0 < t.countP fun a => p a :=
      List.countP_pos_iff.mpr ⟨t[n], List.getElem_mem hn, decide_eq_true hp⟩
    simp only [decide_eq_true_eq, if_pos hp]
    omega
  · simp only [decide_eq_true_eq, if_neg hp]
    omega

/-- A change that keeps a property does not change how many entries have it. -/
lemma countP_modify_of_keeps (p : α → Bool) {t : List α} {i : ℤ} {f : α → α}
    (hf : ∀ a, p (f a) = p a) : (modify t i f).countP p = t.countP p := by
  cases i with
  | negSucc n => rfl
  | ofNat n =>
    induction t generalizing n with
    | nil => rw [modify, List.modify_nil]
    | cons a t ih =>
      cases n with
      | zero => simp only [modify, List.modify_zero_cons, List.countP_cons, hf]
      | succ n => simpa only [modify, List.modify_succ_cons, List.countP_cons,
          Nat.add_right_cancel_iff] using ih n

/-- Change the first `n` entries of a table, one after the other. -/
def sweep (t : List α) (f : α → α) (n : ℕ) : List α :=
  (List.range n).foldl (fun t (i : ℕ) => modify t i f) t

/-- One more entry is changed. -/
lemma sweep_succ (t : List α) (f : α → α) (n : ℕ) :
    sweep t f (n + 1) = (sweep t f n).modify n f := by
  rw [sweep, List.range_succ, List.foldl_append]
  rfl

/-- Sweeping changes the first entries and leaves the rest. -/
lemma getElem?_sweep (t : List α) (f : α → α) (n i : ℕ) :
    (sweep t f n)[i]? = if i < n then t[i]?.map f else t[i]? := by
  induction n with
  | zero => rfl
  | succ n ih =>
    rw [sweep_succ, List.getElem?_modify, ih]
    rcases lt_trichotomy i n with h | h | h
    · simp [h, Nat.lt_succ_of_lt h, h.ne']
    · simp [h]
    · simp [h.le.not_gt, Nat.not_lt.mpr h, h.ne]

/-- In a table of default entries only the default is read. -/
lemma read_replicate (n : ℕ) (d : α) (i : ℤ) : read (List.replicate n d) d i = d := by
  cases i with
  | negSucc k => rfl
  | ofNat k =>
    rw [read, get, List.getElem?_replicate]
    split <;> rfl

end Table
