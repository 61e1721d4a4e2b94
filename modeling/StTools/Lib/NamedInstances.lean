import Mathlib.Algebra.Ring.Nat
import Mathlib.Data.List.Basic
import Mathlib.Tactic.Common

/-!
# Named instances

Some instances are proofs.  Where a definition needs one of them, it is given by name, as a local
instance, and so the definition is the same whatever else is imported.
-/

namespace NamedInstances

/-- Lists of lists are searched by comparing their elements. -/
lemma lawfulBEq_list {α : Type*} [DecidableEq α] : LawfulBEq (List α) := inferInstance

/-- There is an index below 1. -/
lemma neZero_one : NeZero 1 := ⟨Nat.one_ne_zero⟩

/-- There is an index below 2. -/
lemma neZero_two : NeZero 2 := ⟨by decide⟩

end NamedInstances
