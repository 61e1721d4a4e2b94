import StTools.Lib.Procedure

/-!
# Programs that run statement by statement

A program is a sequence of *statements*.  A statement changes the state at once and says, after the state
that it finds, how the program goes on; at the end the program is done, or it raises an exception.
Several threads can so run programs on one state, with the statements of one between those of another.

A program that nobody disturbs is a `Procedure`.  Every way to compose programs comes with the lemma that
says which procedure it is then.
-/

/-- A program on states `σ` with exceptions `ε`. -/
inductive Program (σ ε : Type*)
  | done
  | raise (e : ε)
  /-- A statement, and the rest, which depends on the state before it. -/
  | act (f : σ → σ) (next : σ → Program σ ε)

namespace Program

variable {σ ε α : Type*}

/-! ## Composing programs -/

/-- Change the state. -/
def modify (f : σ → σ) : Program σ ε := .act f fun _ => .done

/-- Go on in a way that depends on the state. -/
def look (next : σ → Program σ ε) : Program σ ε := .act id next

/-- One program after the other; the second is left out when the first raises. -/
def andThen (a b : Program σ ε) : Program σ ε :=
  match a with
  | .done => b
  | .raise e => .raise e
  | .act f next => .act f fun s => (next s).andThen b

/-- Raise an exception unless the state passes a test. -/
def require (p : σ → Prop) [DecidablePred p] (e : ε) : Program σ ε :=
  look fun s => if p s then .done else .raise e

/-- Do one thing or another. -/
def branch (p : σ → Prop) [DecidablePred p] (a b : Program σ ε) : Program σ ε :=
  look fun s => if p s then a else b

/-- Do something only in states that pass a test. -/
def onlyIf (p : σ → Prop) [DecidablePred p] (a : Program σ ε) : Program σ ε := branch p a .done

/-- Read a value, and go on with it. -/
def readValue (g : σ → Option α) (e : ε) (next : α → Program σ ε) : Program σ ε :=
  look fun s => (g s).elim (.raise e) next

/-- The exception that the next statement raises. -/
def error (a : Program σ ε) (s : σ) : Option ε :=
  match a with
  | .act _ next =>
    match next s with
    | .raise e => some e
    | _ => none
  | _ => none

/-- The statements of the program do not change a part of the state. -/
def Keeps (g : σ → α) (a : Program σ ε) : Prop :=
  match a with
  | .done => True
  | .raise _ => True
  | .act f next => (∀ s, g (f s) = g s) ∧ ∀ s, (next s).Keeps g

/-! ## Programs that nobody disturbs -/

/-- What a program does when it runs to its end. -/
def run (a : Program σ ε) : Procedure σ ε := fun s =>
  match a with
  | .done => (s, none)
  | .raise e => (s, some e)
  | .act f next => (next s).run (f s)

variable {a b : Program σ ε} {s : σ} {p : σ → Prop} [DecidablePred p]

/-- The program that is done. -/
@[simp] lemma run_done : (done : Program σ ε).run s = (s, none) := rfl

/-- An exception. -/
@[simp] lemma run_raise (e : ε) : (raise e : Program σ ε).run s = (s, some e) := rfl

/-- A statement. -/
lemma run_act (f : σ → σ) (next : σ → Program σ ε) : (act f next).run s = (next s).run (f s) := rfl

/-- A change. -/
@[simp] lemma run_modify (f : σ → σ) : (modify f : Program σ ε).run = .modify f := rfl

/-- A look at the state. -/
@[simp] lemma run_look (next : σ → Program σ ε) : (look next).run s = (next s).run s := rfl

/-- Two programs. -/
@[simp] lemma run_andThen : (a.andThen b).run = a.run.andThen b.run := by
  funext s
  induction a generalizing s with
  | done => rfl
  | raise e => rfl
  | act f next ih => exact ih s (f s)

/-- A test. -/
@[simp] lemma run_require (e : ε) : (require p e : Program σ ε).run = .require p e := by
  funext s
  unfold require Procedure.require
  rw [run_look]
  split_ifs <;> rfl

/-- One of two programs. -/
@[simp] lemma run_branch : (branch p a b).run = .branch p a.run b.run := by
  funext s
  unfold branch Procedure.branch
  rw [run_look]
  split_ifs <;> rfl

/-- A program under a condition. -/
@[simp] lemma run_onlyIf : (onlyIf p a).run = .onlyIf p a.run := by
  funext s
  unfold onlyIf Procedure.onlyIf
  rw [run_branch, Procedure.branch]
  split_ifs <;> rfl

/-- A value that is read. -/
@[simp] lemma run_readValue (g : σ → Option α) (e : ε) (next : α → Program σ ε) :
    (readValue g e next).run s = (g s).elim (s, some e) fun x => (next x).run s := by
  unfold readValue
  rw [run_look]
  cases g s <;> rfl

/-! ## Parts of the state that a program keeps -/

variable {g : σ → α}

/-- A change that keeps the part. -/
lemma keeps_modify {f : σ → σ} (hf : ∀ s, g (f s) = g s) : (modify f : Program σ ε).Keeps g :=
  ⟨hf, fun _ => trivial⟩

/-- A look at the state. -/
lemma keeps_look {next : σ → Program σ ε} (h : ∀ s, (next s).Keeps g) : (look next).Keeps g :=
  ⟨fun _ => rfl, h⟩

/-- Two programs. -/
lemma Keeps.andThen (ha : a.Keeps g) (hb : b.Keeps g) : (a.andThen b).Keeps g := by
  induction a with
  | done => exact hb
  | raise e => trivial
  | act f next ih => exact ⟨ha.1, fun s => ih s (ha.2 s)⟩

/-- One of two programs. -/
lemma Keeps.branch (ha : a.Keeps g) (hb : b.Keeps g) : (branch p a b).Keeps g :=
  keeps_look fun s => by
    split_ifs
    · exact ha
    · exact hb

/-- A program under a condition. -/
lemma Keeps.onlyIf (ha : a.Keeps g) : (onlyIf p a).Keeps g := ha.branch trivial

/-- A test. -/
lemma keeps_require (e : ε) : (require p e : Program σ ε).Keeps g :=
  keeps_look fun s => by split_ifs <;> trivial

/-- A value that is read. -/
lemma keeps_readValue {v : σ → Option α} {e : ε} {next : α → Program σ ε} {β : Type*} {g : σ → β}
    (h : ∀ x, (next x).Keeps g) : (readValue v e next).Keeps g :=
  keeps_look fun s => by
    cases v s with
    | none => trivial
    | some x => exact h x

end Program
