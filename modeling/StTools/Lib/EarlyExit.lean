import Mathlib.Tactic.TypeStar
import Mathlib.Tactic.Common

/-!
# Procedures that may be left early

A procedure with a state `σ` that is left early, by a `return` in a loop or by an exception, is a
value of `Except ε σ`: `ok` is the state in which it goes on, `error` is how it was left.  `Ends Q E`
says that it goes on only in a state with `Q`, and is left only with `E`.

The rules follow the program: one for two procedures in a row, and one for a loop over a list, with an
invariant about the elements that were done.

A procedure with a log writes a list of entries before it goes on or is left.  A loop over a list is
`Logged.loop`; the `break` of a loop is a loop over the elements before it.
-/

namespace EarlyExit

universe u

variable {σ τ : Type u} {α ε κ : Type*}

/-- The procedure goes on with `Q`, or is left with `E`. -/
def Ends (Q : σ → Prop) (E : ε → Prop) : Except ε σ → Prop
  | .ok s => Q s
  | .error e => E e

variable {Q Q' : σ → Prop} {E E' : ε → Prop} {r : Except ε σ}

/-- What a procedure ends with may be said more weakly. -/
lemma Ends.imp (h : Ends Q E r) (hQ : ∀ s, Q s → Q' s) (hE : ∀ e, E e → E' e) : Ends Q' E' r := by
  cases r with
  | ok s => exact hQ s h
  | error e => exact hE e h

/-- The state in which the procedure goes on. -/
lemma Ends.of_eq_ok {s : σ} (h : Ends Q E r) (hr : r = .ok s) : Q s := by
  subst hr
  exact h

/-- Two procedures in a row. -/
lemma Ends.bind {R : τ → Prop} {f : σ → Except ε τ} (h : Ends Q E r)
    (hf : ∀ s, Q s → Ends R E (f s)) : Ends R E (r >>= f) := by
  cases r with
  | ok s => exact hf s h
  | error e => exact h

/-- **Loop rule.**  An invariant about the elements that were done holds for all of them in the
end. -/
lemma Ends.foldlM {f : σ → α → Except ε σ} {s : σ} {l : List α} (I : List α → σ → Prop)
    (hbody : ∀ done a s, done ++ [a] <+: l → I done s → Ends (I (done ++ [a])) E (f s a))
    (hI : I [] s) : Ends (I l) E (l.foldlM f s) := by
  suffices h : ∀ rest done s, done ++ rest = l → I done s → Ends (I l) E (rest.foldlM f s) from
    h l [] s rfl hI
  intro rest
  induction rest with
  | nil =>
    intro done s hdone hs
    rw [List.append_nil] at hdone
    exact hdone ▸ hs
  | cons a rest ih =>
    intro done s hdone hs
    rw [List.foldlM_cons]
    rw [List.append_cons] at hdone
    have hinit : done ++ [a] <+: l := ⟨rest, hdone⟩
    exact (hbody done a s hinit hs).bind fun s' hs' => ih (done ++ [a]) s' hdone hs'

/-- A property that every round of a loop keeps holds in the end. -/
lemma ok_of_foldlM {P : σ → Prop} {f : σ → α → Except ε σ} {s s' : σ} {l : List α}
    (hbody : ∀ a s s', P s → f s a = .ok s' → P s') (hs : P s) (h : l.foldlM f s = .ok s') :
    P s' := by
  have hends : Ends P (fun _ => True) (l.foldlM f s) := by
    refine Ends.foldlM (fun _ => P) (fun _ a s _ hP => ?_) hs
    cases hf : f s a with
    | ok t => exact hbody a s t hP hf
    | error e => trivial
  exact hends.of_eq_ok h

/-- The state in the end, when a procedure that is left early has a state too. -/
def final : Except (κ × σ) σ → σ
  | .ok s => s
  | .error e => e.2

/-- What holds of both ends holds of the state in the end. -/
lemma Ends.final {P : σ → Prop} {E : κ × σ → Prop} {r : Except (κ × σ) σ} (h : Ends Q E r)
    (hQ : ∀ s, Q s → P s) (hE : ∀ e, E e → P e.2) : P (final r) := by
  cases r with
  | ok s => exact hQ s h
  | error e => exact hE e h

/-- A property of the state in the end is one of both ends. -/
lemma ends_final {P : σ → Prop} {r : Except (κ × σ) σ} :
    Ends P (fun e => P e.2) r ↔ P (final r) := by
  cases r <;> rfl

/-- A procedure with a log: what it has written, and how it ended. -/
structure Logged (ω ε α : Type*) where
  log : List ω
  result : Except ε α

namespace Logged

variable {ω ε' : Type*} {β : Type*}

/-- Nothing is written. -/
def ofResult (result : Except ε α) : Logged ω ε α := ⟨[], result⟩

/-- Two procedures in a row. -/
def bind (r : Logged ω ε α) (f : α → Logged ω ε β) : Logged ω ε β :=
  match r.result with
  | .ok a => ⟨r.log ++ (f a).log, (f a).result⟩
  | .error e => ⟨r.log, .error e⟩

/-- Some ways to be left are caught: there `caught` is `none`. -/
def handle (caught : ε → Option ε') (r : Logged ω ε Unit) : Logged ω ε' Unit :=
  match r.result with
  | .ok () => ⟨r.log, .ok ()⟩
  | .error e =>
    match caught e with
    | none => ⟨r.log, .ok ()⟩
    | some e' => ⟨r.log, .error e'⟩

/-- A loop over a list. -/
def loop (f : α → Logged ω ε Unit) : List α → Logged ω ε Unit
  | [] => ofResult (.ok ())
  | a :: l => (f a).bind fun _ => loop f l

variable {r : Logged ω ε α} {f : α → Logged ω ε Unit} {l : List α}

lemma log_handle (caught : ε → Option ε') (r : Logged ω ε Unit) : (r.handle caught).log = r.log := by
  rw [handle]
  split
  · rfl
  · split
    · rfl
    · rfl

/-- A handled procedure goes on when it went on before, or when it was left in a way that is caught. -/
lemma handle_eq_ok_iff {caught : ε → Option ε'} {r : Logged ω ε Unit} :
    (r.handle caught).result = .ok () ↔
      r.result = .ok () ∨ ∃ e, r.result = .error e ∧ caught e = none := by
  cases hr : r.result with
  | ok u => simp [handle, hr]
  | error e =>
    cases he : caught e with
    | none => simp [handle, hr, he]
    | some e' => simp [handle, hr, he]

/-- A handled procedure is left in a way that is not caught. -/
lemma exists_of_handle_eq_error {caught : ε → Option ε'} {r : Logged ω ε Unit} {e' : ε'}
    (h : (r.handle caught).result = .error e') : ∃ e, r.result = .error e ∧ caught e = some e' := by
  cases hr : r.result with
  | ok u =>
    rw [handle, hr] at h
    cases h
  | error e =>
    refine ⟨e, rfl, ?_⟩
    rw [handle, hr] at h
    dsimp only at h
    cases he : caught e with
    | none =>
      rw [he] at h
      cases h
    | some e'' =>
      rw [he] at h
      exact congrArg some (Except.error.inj h)

/-- Two procedures go on when both do, and then the logs stand in a row. -/
lemma bind_eq_ok_iff {g : α → Logged ω ε β} {b : β} :
    (r.bind g).result = .ok b ↔ ∃ a, r.result = .ok a ∧ (g a).result = .ok b := by
  cases hr : r.result with
  | ok a => simp [bind, hr]
  | error e => simp [bind, hr]

lemma log_bind_of_ok {g : α → Logged ω ε β} {a : α} (h : r.result = .ok a) :
    (r.bind g).log = r.log ++ (g a).log := by
  rw [bind, h]

lemma log_bind_of_error {g : α → Logged ω ε β} {e : ε} (h : r.result = .error e) :
    (r.bind g).log = r.log := by
  rw [bind, h]

/-- What was written first stays written. -/
lemma mem_log_bind {g : α → Logged ω ε β} {x : ω} (h : x ∈ r.log) : x ∈ (r.bind g).log := by
  cases hr : r.result with
  | ok a =>
    rw [log_bind_of_ok hr]
    exact List.mem_append_left _ h
  | error e => rwa [log_bind_of_error hr]

/-- **Loop rule.**  A loop is left at no element exactly when none of its rounds is left. -/
lemma loop_eq_ok_iff : (loop f l).result = .ok () ↔ ∀ a ∈ l, (f a).result = .ok () := by
  induction l with
  | nil => exact iff_of_true rfl fun a ha => absurd ha List.not_mem_nil
  | cons a l ih =>
    rw [loop, bind_eq_ok_iff, List.forall_mem_cons, ← ih]
    constructor
    · rintro ⟨⟨⟩, ha, hl⟩
      exact ⟨ha, hl⟩
    · rintro ⟨ha, hl⟩
      exact ⟨(), ha, hl⟩

/-- The log of a loop that was not left is that of its rounds. -/
lemma log_loop_of_ok (h : (loop f l).result = .ok ()) : (loop f l).log = l.flatMap fun a => (f a).log := by
  induction l with
  | nil => rfl
  | cons a l ih =>
    rw [loop_eq_ok_iff, List.forall_mem_cons] at h
    rw [loop, log_bind_of_ok h.1, List.flatMap_cons, ih (loop_eq_ok_iff.mpr h.2)]

/-- An entry of the log of a loop was written in one of its rounds. -/
lemma exists_of_mem_log_loop {x : ω} (h : x ∈ (loop f l).log) : ∃ a ∈ l, x ∈ (f a).log := by
  induction l with
  | nil => exact absurd h List.not_mem_nil
  | cons a l ih =>
    cases ha : (f a).result with
    | ok u =>
      rw [loop, log_bind_of_ok ha, List.mem_append] at h
      rcases h with h | h
      · exact ⟨a, List.mem_cons_self, h⟩
      · obtain ⟨b, hb, hx⟩ := ih h
        exact ⟨b, List.mem_cons_of_mem a hb, hx⟩
    | error e =>
      rw [loop, log_bind_of_error ha] at h
      exact ⟨a, List.mem_cons_self, h⟩

/-- A loop that was left was left in one of its rounds, with the log of that round. -/
lemma exists_of_loop_eq_error {e : ε} (h : (loop f l).result = .error e) :
    ∃ a ∈ l, (f a).result = .error e ∧ ∀ x ∈ (f a).log, x ∈ (loop f l).log := by
  induction l with
  | nil => cases h
  | cons a l ih =>
    cases ha : (f a).result with
    | error e' =>
      rw [loop, bind, ha] at h
      cases h
      exact ⟨a, List.mem_cons_self, ha, fun x hx => by rwa [loop, log_bind_of_error ha]⟩
    | ok u =>
      rw [loop, bind, ha] at h
      obtain ⟨b, hb, heb, hlog⟩ := ih h
      refine ⟨b, List.mem_cons_of_mem a hb, heb, fun x hx => ?_⟩
      rw [loop, log_bind_of_ok ha]
      exact List.mem_append_right _ (hlog x hx)

end Logged

end EarlyExit
