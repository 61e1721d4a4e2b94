import StTools.ScenarioDeployGenerator.Scenario

/-!
# Texts without the key of a proxy

Only the entry of a Diameter proxy contains `, listeningPort`.  A text is calm when its parts can be
put together in any order without `, li` coming into being: an automaton that looks for `, li` never
finds it, and ends in a state in which at most a comma was seen.  Texts without blanks are calm, and
so are the fixed texts of the files.
-/

namespace ScenarioDeployGenerator

/-- The text has no blanks. -/
def NoBlank (t : Text) : Prop := ' ' ∉ t

instance (t : Text) : Decidable (NoBlank t) := by
  unfold NoBlank
  infer_instance

/-! ## The automaton -/

/-- How much of `, li` was seen. -/
inductive Watch
  | quiet
  | comma
  | blank
  | letter
  deriving DecidableEq

/-- The next state, unless `, li` was found. -/
def Watch.next (s : Watch) (c : Char) : Option Watch :=
  if c = ',' then some .comma
  else
    match s with
    | .quiet => some .quiet
    | .comma => some (if c = ' ' then .blank else .quiet)
    | .blank => some (if c = 'l' then .letter else .quiet)
    | .letter => if c = 'i' then none else some .quiet

/-- The state after a text. -/
def Watch.run : Watch → Text → Option Watch
  | s, [] => some s
  | s, c :: cs => (s.next c).bind fun s => s.run cs

/-- At most a comma was seen. -/
def Watch.isCalm (s : Watch) : Bool := s = .quiet ∨ s = .comma

/-- From a calm state the text leads to a calm state. -/
def Calm (t : Text) : Prop :=
  ∀ s ∈ [Watch.quiet, .comma], ((s.run t).any Watch.isCalm) = true

instance (t : Text) : Decidable (Calm t) := by
  unfold Calm
  infer_instance

variable {t a b : Text}

lemma Watch.run_append (s : Watch) : s.run (a ++ b) = (s.run a).bind fun s => s.run b := by
  induction a generalizing s with
  | nil => rfl
  | cons c cs ih =>
    rw [List.cons_append, run, run]
    cases s.next c with
    | none => rfl
    | some s => exact ih s

/-! ## Calm texts -/

/-- From a calm state the text leads to a calm state. -/
lemma Calm.run (h : Calm t) {s : Watch} (hs : s.isCalm = true) :
    ∃ s', s.run t = some s' ∧ s'.isCalm = true := by
  have hmem : s ∈ [Watch.quiet, .comma] := by
    rcases of_decide_eq_true hs with rfl | rfl
    · exact List.mem_cons_self
    · exact List.mem_cons_of_mem _ List.mem_cons_self
  exact (Option.any_eq_true _ _).mp (h s hmem)

lemma Calm.of_run (h : ∀ s : Watch, s.isCalm = true → ∃ s', s.run t = some s' ∧ s'.isCalm = true) :
    Calm t := by
  intro s hs
  have hcalm : s.isCalm = true := by
    rcases List.mem_cons.mp hs with rfl | hs
    · rfl
    · rw [List.mem_singleton.mp hs]
      rfl
  exact (Option.any_eq_true _ _).mpr (h s hcalm)

/-- Calm texts can be put together. -/
lemma Calm.append (ha : Calm a) (hb : Calm b) : Calm (a ++ b) := by
  refine Calm.of_run fun s hs => ?_
  obtain ⟨s', hrun, hs'⟩ := ha.run hs
  rw [Watch.run_append, hrun]
  exact hb.run hs'

lemma Calm.nil : Calm [] := by decide

/-- A fixed text; its characters are read off the literal. -/
lemma Calm.literal {l : List Char} (h : Calm l) : Calm (String.ofList l).toList := by
  rwa [String.toList_ofList]

/-- A fixed text without blanks. -/
lemma NoBlank.literal {l : List Char} (h : NoBlank l) : NoBlank (String.ofList l).toList := by
  rwa [String.toList_ofList]

/-- A text without blanks is calm. -/
lemma Calm.of_noBlank (h : NoBlank t) : Calm t := by
  induction t with
  | nil => exact Calm.nil
  | cons c cs ih =>
    obtain ⟨hc, hcs⟩ := not_or.mp (mt List.mem_cons.mpr h)
    have hchar : Calm [c] := by
      refine Calm.of_run fun s hs => ?_
      have hnext : ∃ s', s.next c = some s' ∧ s'.isCalm = true := by
        by_cases hcomma : c = ','
        · exact ⟨_, if_pos hcomma, rfl⟩
        · rcases of_decide_eq_true hs with rfl | rfl
          · exact ⟨_, if_neg hcomma, rfl⟩
          · exact ⟨.quiet, (if_neg hcomma).trans (congrArg some (if_neg (Ne.symm hc))), rfl⟩
      obtain ⟨s', hnext, hs'⟩ := hnext
      exact ⟨s', by rw [Watch.run, hnext]; rfl, hs'⟩
    exact hchar.append (ih hcs)

lemma Calm.flatMap {α : Type*} {l : List α} {f : α → Text} (h : ∀ x ∈ l, Calm (f x)) :
    Calm (l.flatMap f) := by
  induction l with
  | nil => exact Calm.nil
  | cons x l ih =>
    rw [List.flatMap_cons]
    exact (h x List.mem_cons_self).append (ih fun y hy => h y (List.mem_cons_of_mem x hy))

lemma Calm.commaSeparated {l : List Text} (h : ∀ x ∈ l, Calm x) : Calm (commaSeparated l) := by
  induction l with
  | nil => exact Calm.nil
  | cons x l ih =>
    cases l with
    | nil => simpa [ScenarioDeployGenerator.commaSeparated] using h x List.mem_cons_self
    | cons y l =>
      have hrest := ih fun z hz => h z (List.mem_cons_of_mem x hz)
      rw [ScenarioDeployGenerator.commaSeparated, List.intercalate_cons_cons]
      exact ((h x List.mem_cons_self).append (by decide)).append hrest

/-- In a calm text there is no key of a proxy. -/
lemma Calm.not_key (h : Calm t) : ¬ ", li".toList <:+: t := by
  rintro ⟨a, b, rfl⟩
  have hnone : ∀ s : Watch, s.run ", li".toList = none := by
    intro s
    cases s <;> rfl
  obtain ⟨s, hs, -⟩ := h.run (s := .quiet) rfl
  rw [Watch.run_append, Watch.run_append] at hs
  cases ha : Watch.quiet.run a with
  | none =>
    rw [ha] at hs
    cases hs
  | some s' =>
    rw [ha] at hs
    change ((s'.run ", li".toList).bind fun s => s.run b) = some s at hs
    rw [hnone] at hs
    cases hs

/-- A number has no blanks. -/
lemma noBlank_intToString (n : ℤ) : NoBlank (intToString n) := by
  have hdigits : ∀ m : ℕ, ' ' ∉ Nat.toDigits 10 m := fun m h => by
    have hdigit := Nat.isDigit_of_mem_toDigits (by decide) (by decide) h
    exact absurd hdigit (by decide)
  cases n with
  | ofNat m => exact hdigits m
  | negSucc m =>
    intro h
    rcases List.mem_cons.mp h with h | h
    · exact absurd h (by decide)
    · exact hdigits _ h

end ScenarioDeployGenerator
