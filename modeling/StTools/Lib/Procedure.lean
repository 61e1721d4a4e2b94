import Mathlib.Tactic.TypeStar
import Mathlib.Tactic.Common

/-!
# Procedures that may raise

A procedure changes a state and may raise an exception on the way; what was changed before stays
changed.  This module has the procedures that programs are composed of, and for each of them a simp
lemma that says when it *completes*: whether a long procedure raises is then found out without running
it.
-/

/-- A procedure on states `σ` with exceptions `ε`. -/
abbrev Procedure (σ ε : Type*) := σ → σ × Option ε

namespace Procedure

variable {σ ε α : Type*}

/-- Change the state. -/
def modify (f : σ → σ) : Procedure σ ε := fun s => (f s, none)

/-- Raise an exception. -/
def raise (e : ε) : Procedure σ ε := fun s => (s, some e)

/-- One procedure after the other; the second is left out when the first raises. -/
def andThen (a b : Procedure σ ε) : Procedure σ ε := fun s =>
  match (a s).2 with
  | none => b (a s).1
  | some e => ((a s).1, some e)

/-- Raise an exception unless the state passes a test. -/
def require (p : σ → Prop) [DecidablePred p] (e : ε) : Procedure σ ε := fun s =>
  if p s then (s, none) else (s, some e)

/-- Do something only in states that pass a test. -/
def onlyIf (p : σ → Prop) [DecidablePred p] (a : Procedure σ ε) : Procedure σ ε := fun s =>
  if p s then a s else (s, none)

/-- Do one thing or another. -/
def branch (p : σ → Prop) [DecidablePred p] (a b : Procedure σ ε) : Procedure σ ε := fun s =>
  if p s then a s else b s

/-- The procedure does not raise. -/
def Completes (a : Procedure σ ε) (s : σ) : Prop := (a s).2 = none

variable {a b : Procedure σ ε} {s : σ} {p : σ → Prop} [DecidablePred p]

/-- A change completes. -/
@[simp] lemma completes_modify (f : σ → σ) : Completes (modify f : Procedure σ ε) s := rfl

/-- Raising does not complete. -/
@[simp] lemma not_completes_raise (e : ε) : ¬ Completes (raise e : Procedure σ ε) s :=
  Option.some_ne_none e

/-- Two procedures complete when the first does and the second does after it. -/
@[simp] lemma completes_andThen :
    Completes (a.andThen b) s ↔ Completes a s ∧ Completes b (a s).1 := by
  unfold Completes andThen
  cases h : (a s).2 <;> simp

/-- A test completes when it is passed. -/
@[simp] lemma completes_require (e : ε) : Completes (require p e : Procedure σ ε) s ↔ p s := by
  unfold Completes require
  split_ifs with h <;> simp [h]

/-- A procedure under a condition. -/
@[simp] lemma completes_onlyIf : Completes (onlyIf p a) s ↔ (p s → Completes a s) := by
  unfold Completes onlyIf
  split_ifs with h <;> simp [h]

/-- One of two procedures. -/
@[simp] lemma completes_branch :
    Completes (branch p a b) s ↔ (p s → Completes a s) ∧ (¬ p s → Completes b s) := by
  unfold Completes branch
  split_ifs with h <;> simp [h]

/-- The state after a change. -/
@[simp] lemma modify_fst (f : σ → σ) : ((modify f : Procedure σ ε) s).1 = f s := rfl

/-- The state after two procedures, when the first completes. -/
lemma andThen_fst (h : Completes a s) : (a.andThen b s).1 = (b (a s).1).1 := by
  unfold andThen
  rw [show (a s).2 = none from h]

/-- The state after two procedures, when the first raises. -/
lemma andThen_fst_raises (h : ¬ Completes a s) : (a.andThen b s).1 = (a s).1 := by
  unfold andThen
  split
  · rename_i hnone
    exact absurd hnone h
  · rfl

/-- Three procedures. -/
lemma andThen_assoc (a b c : Procedure σ ε) : (a.andThen b).andThen c = a.andThen (b.andThen c) := by
  funext s
  unfold andThen
  cases (a s).2 <;> rfl

/-- A test changes nothing. -/
@[simp] lemma require_fst (e : ε) : ((require p e : Procedure σ ε) s).1 = s := by
  unfold require
  split_ifs <;> rfl

/-- The state after a procedure whose condition holds. -/
lemma onlyIf_fst_pos (h : p s) : (onlyIf p a s).1 = (a s).1 := by
  unfold onlyIf
  rw [if_pos h]

/-- A procedure whose condition does not hold changes nothing. -/
lemma onlyIf_fst_neg (h : ¬ p s) : (onlyIf p a s).1 = s := by
  unfold onlyIf
  rw [if_neg h]

/-- The state after a change under a condition. -/
@[simp] lemma onlyIf_modify_fst (f : σ → σ) :
    ((onlyIf p (modify f) : Procedure σ ε) s).1 = if p s then f s else s := by
  unfold onlyIf
  split_ifs <;> rfl

/-- A test under a condition changes nothing. -/
@[simp] lemma onlyIf_require_fst {q : σ → Prop} [DecidablePred q] (e : ε) :
    ((onlyIf p (require q e) : Procedure σ ε) s).1 = s := by
  unfold onlyIf
  split_ifs
  · exact require_fst e
  · rfl

/-- The procedure does not change a part of the state. -/
def Keeps (g : σ → α) (a : Procedure σ ε) : Prop := ∀ s, g (a s).1 = g s

variable {g : σ → α}

/-- A change that keeps the part. -/
lemma keeps_modify {f : σ → σ} (hf : ∀ s, g (f s) = g s) : Keeps g (modify f : Procedure σ ε) := hf

/-- A test keeps everything. -/
lemma keeps_require (e : ε) : Keeps g (require p e : Procedure σ ε) := fun _ =>
  congrArg g (require_fst e)

/-- Two procedures that keep the part. -/
lemma Keeps.andThen (ha : Keeps g a) (hb : Keeps g b) : Keeps g (a.andThen b) := by
  intro s
  unfold Procedure.andThen
  split
  · exact (hb _).trans (ha s)
  · exact ha s

/-- A procedure that changes nothing leaves the state to the next. -/
lemma Keeps.completes_andThen (ha : Keeps id a) :
    Completes (a.andThen b) s ↔ Completes a s ∧ Completes b s := by
  rw [Procedure.completes_andThen, show (a s).1 = s from ha s]

/-- What comes after keeps the part, so that it is as the first procedure leaves it. -/
lemma Keeps.andThen_right (hb : Keeps g b) (s : σ) : g (a.andThen b s).1 = g (a s).1 := by
  unfold Procedure.andThen
  split
  · exact hb _
  · rfl

/-- A procedure under a condition that keeps the part. -/
lemma Keeps.onlyIf (ha : Keeps g a) : Keeps g (onlyIf p a) := by
  intro s
  unfold Procedure.onlyIf
  split_ifs
  · exact ha s
  · rfl

/-- One of two procedures that keep the part. -/
lemma Keeps.branch (ha : Keeps g a) (hb : Keeps g b) : Keeps g (branch p a b) := by
  intro s
  unfold Procedure.branch
  split_ifs
  · exact ha s
  · exact hb s

/-- The procedure takes every state to one that is related to it. -/
def Relates (R : σ → σ → Prop) (a : Procedure σ ε) : Prop := ∀ s, R s (a s).1

variable {R : σ → σ → Prop}

/-- Two procedures that take states to related ones. -/
lemma Relates.andThen (htrans : ∀ s t u, R s t → R t u → R s u) (ha : Relates R a)
    (hb : Relates R b) : Relates R (a.andThen b) := by
  intro s
  unfold Procedure.andThen
  split
  · exact htrans _ _ _ (ha s) (hb _)
  · exact ha s

/-- A procedure under a condition that takes states to related ones. -/
lemma Relates.onlyIf (hrefl : ∀ s, R s s) (ha : Relates R a) : Relates R (onlyIf p a) := by
  intro s
  unfold Procedure.onlyIf
  split_ifs
  · exact ha s
  · exact hrefl s

/-- One of two procedures that take states to related ones. -/
lemma Relates.branch (ha : Relates R a) (hb : Relates R b) : Relates R (branch p a b) := by
  intro s
  unfold Procedure.branch
  split_ifs
  · exact ha s
  · exact hb s

end Procedure
