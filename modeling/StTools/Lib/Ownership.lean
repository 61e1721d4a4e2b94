import Mathlib.Logic.Function.Basic
import Mathlib.Tactic.TypeStar
import Mathlib.Tactic.Common

/-!
# Slots that are marked as used

A table of slots has one mark for each slot, which says that the slot is used.  An agent takes a slot that is
not marked and marks it; later it clears the mark, hands the slot over to another agent, or goes away and
leaves the mark behind.  Nobody else looks at who has the slot.

When all changes are of this kind, a slot has at most one agent, and a slot without mark has none.
-/

/-- The marks of the slots, and which slot each agent has. -/
structure Ownership (α ι : Type*) where
  /-- The slot is marked. -/
  used : ι → Bool
  /-- The slot of an agent. -/
  held : α → Option ι

namespace Ownership

variable {α ι : Type*} {o o' : Ownership α ι}

/-- The marks protect the slots. -/
structure Exclusive (o : Ownership α ι) : Prop where
  /-- A slot that an agent has is marked. -/
  used : ∀ a i, o.held a = some i → o.used i = true
  /-- Two agents do not have the same slot. -/
  unique : ∀ a b i, o.held a = some i → o.held b = some i → a = b

/-- Nobody has a slot without mark. -/
lemma Exclusive.held_ne (h : o.Exclusive) {i : ι} (hi : o.used i = false) (a : α) :
    o.held a ≠ some i := by
  intro ha
  rw [h.used a i ha] at hi
  cases hi

/-- Another agent does not have the slot. -/
lemma Exclusive.held_ne_of_ne (h : o.Exclusive) {a b : α} {i : ι} (ha : o.held a = some i)
    (hab : b ≠ a) : o.held b ≠ some i :=
  fun hb => hab (h.unique b a i hb ha)

/-- What an agent does with its slot. -/
inductive Change [DecidableEq α] [DecidableEq ι] (o o' : Ownership α ι) : Prop
  /-- Nothing, or it goes away. -/
  | keep (hused : o'.used = o.used) (hheld : ∀ a i, o'.held a = some i → o.held a = some i)
  /-- It takes a slot without mark and marks it. -/
  | acquire (a : α) (i : ι) (hfree : o.used i = false)
      (hused : o'.used = Function.update o.used i true)
      (hheld : o'.held = Function.update o.held a (some i))
  /-- It clears the mark of its slot, and has it no longer. -/
  | release (a : α) (i : ι) (hhas : o.held a = some i)
      (hused : o'.used = Function.update o.used i false)
      (hheld : o'.held = Function.update o.held a none)
  /-- It hands its slot over. -/
  | transfer (a b : α) (i : ι) (hhas : o.held a = some i) (hused : o'.used = o.used)
      (hheld : o'.held = Function.update (Function.update o.held a none) b (some i))

variable [DecidableEq α]

/-- What an agent has after another one has given its slot away. -/
lemma held_of_update_none {a b : α} {i : ι} (h : Function.update o.held a none b = some i) :
    b ≠ a ∧ o.held b = some i := by
  by_cases hb : b = a
  · subst hb
    rw [Function.update_self] at h
    cases h
  · rw [Function.update_of_ne hb] at h
    exact ⟨hb, h⟩

variable [DecidableEq ι]

/-- **Step rule.**  The marks still protect the slots after a change. -/
theorem Exclusive.change (h : o.Exclusive) (hc : o.Change o') : o'.Exclusive := by
  cases hc with
  | keep hused hheld =>
    constructor
    · intro a i ha
      rw [hused]
      exact h.used a i (hheld a i ha)
    · exact fun a b i ha hb => h.unique a b i (hheld a i ha) (hheld b i hb)
  | acquire a i hfree hused hheld =>
    constructor
    · intro b j hb
      rw [hheld] at hb
      rw [hused]
      by_cases hj : j = i
      · rw [hj, Function.update_self]
      · rw [Function.update_of_ne hj]
        by_cases hba : b = a
        · rw [hba, Function.update_self] at hb
          exact absurd (Option.some.inj hb).symm hj
        · rw [Function.update_of_ne hba] at hb
          exact h.used b j hb
    · intro b c j hb hc
      rw [hheld] at hb hc
      by_cases hba : b = a <;> by_cases hca : c = a
      · rw [hba, hca]
      · rw [hba, Function.update_self] at hb
        rw [Function.update_of_ne hca, ← Option.some.inj hb] at hc
        exact absurd hc (h.held_ne hfree c)
      · rw [hca, Function.update_self] at hc
        rw [Function.update_of_ne hba, ← Option.some.inj hc] at hb
        exact absurd hb (h.held_ne hfree b)
      · rw [Function.update_of_ne hba] at hb
        rw [Function.update_of_ne hca] at hc
        exact h.unique b c j hb hc
  | release a i hhas hused hheld =>
    constructor
    · intro b j hb
      rw [hheld] at hb
      obtain ⟨hba, hb⟩ := held_of_update_none hb
      have hj : j ≠ i := by
        rintro rfl
        exact h.held_ne_of_ne hhas hba hb
      rw [hused, Function.update_of_ne hj]
      exact h.used b j hb
    · intro b c j hb hc
      rw [hheld] at hb hc
      exact h.unique b c j (held_of_update_none hb).2 (held_of_update_none hc).2
  | transfer a b i hhas hused hheld =>
    have hold : ∀ c j, o'.held c = some j →
        (c = b ∧ j = i) ∨ (c ≠ a ∧ o.held c = some j) := by
      intro c j hc
      rw [hheld] at hc
      by_cases hcb : c = b
      · rw [hcb, Function.update_self] at hc
        exact Or.inl ⟨hcb, (Option.some.inj hc).symm⟩
      · rw [Function.update_of_ne hcb] at hc
        exact Or.inr (held_of_update_none hc)
    constructor
    · intro c j hc
      rw [hused]
      rcases hold c j hc with ⟨-, rfl⟩ | ⟨-, hc⟩
      · exact h.used a j hhas
      · exact h.used c j hc
    · intro c d j hc hd
      rcases hold c j hc with ⟨rfl, rfl⟩ | ⟨hca, hc⟩ <;>
        rcases hold d _ hd with ⟨rfl, hj⟩ | ⟨hda, hd⟩
      · rfl
      · exact absurd hd (h.held_ne_of_ne hhas hda)
      · rw [hj] at hc
        exact absurd hc (h.held_ne_of_ne hhas hca)
      · exact h.unique c d j hc hd

end Ownership
