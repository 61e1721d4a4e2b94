import Mathlib.Data.Nat.Notation
import Mathlib.Tactic.TypeStar
import Mathlib.Tactic.Common

/-!
# Labelled systems and their runs

A system is a partial step function `σ → ε → Option σ`: `none` says that the event cannot happen
in the state.  A run is a list of events, `exec` the state it leads to.

Properties of runs come in two forms.  `Along C` says that every step taken meets a condition on
the event and the state *before* it; `Throughout P` says that every state reached, the first one
included, has the property `P`.  The invariant rules derive the second from the first, and
`throughout_iff_along` gives the exact version: when a step that breaks `C` leads to a state
without `P`, the two are equivalent.
-/

namespace LabelledSystem

variable {σ ε : Type*}

/-- The state after a list of events, if each of them can happen in turn. -/
def exec (step : σ → ε → Option σ) : σ → List ε → Option σ
  | s, [] => some s
  | s, e :: es => (step s e).bind fun s' => exec step s' es

/-- Every step that the run takes meets the condition `C`. -/
def Along (step : σ → ε → Option σ) (C : σ → ε → Prop) : σ → List ε → Prop
  | _, [] => True
  | s, e :: es => ∀ s', step s e = some s' → C s e ∧ Along step C s' es

/-- Every state of the run, from the first on, has the property `P`. -/
def Throughout (step : σ → ε → Option σ) (P : σ → Prop) : σ → List ε → Prop
  | s, [] => P s
  | s, e :: es => P s ∧ ∀ s', step s e = some s' → Throughout step P s' es

/-- A condition that can be decided for each step can be decided along a run. -/
instance decidableAlong (step : σ → ε → Option σ) (C : σ → ε → Prop) [∀ s e, Decidable (C s e)] :
    ∀ s es, Decidable (Along step C s es)
  | _, [] => isTrue trivial
  | s, e :: es =>
    match hstep : step s e with
    | none => isTrue fun _ hs' => nomatch hstep.symm.trans hs'
    | some t =>
      have := decidableAlong step C t es
      decidable_of_iff (C s e ∧ Along step C t es)
        ⟨fun h _ hs' => Option.some.inj (hstep.symm.trans hs') ▸ h, fun h => h t hstep⟩

variable {step : σ → ε → Option σ} {C : σ → ε → Prop} {I P : σ → Prop} {s s' : σ}

/-- The empty run stays where it is. -/
@[simp] lemma exec_nil (s : σ) : exec step s [] = some s := rfl

/-- A run makes its first step and goes on from there. -/
lemma exec_cons_eq_some {e : ε} {es : List ε} :
    exec step s (e :: es) = some s' ↔ ∃ t, step s e = some t ∧ exec step t es = some s' := by
  simp [exec, Option.bind_eq_some_iff]

/-- A run of two parts passes through the state between them. -/
lemma exec_append_eq_some {es es' : List ε} :
    exec step s (es ++ es') = some s' ↔
      ∃ t, exec step s es = some t ∧ exec step t es' = some s' := by
  induction es generalizing s with
  | nil => simp
  | cons e es ih =>
    simp only [List.cons_append, exec_cons_eq_some, ih]
    constructor
    · rintro ⟨u, hu, t, ht, hs'⟩
      exact ⟨t, ⟨u, hu, ht⟩, hs'⟩
    · rintro ⟨t, ⟨u, hu, ht⟩, hs'⟩
      exact ⟨u, hu, t, ht, hs'⟩

/-- **Run rule.**  What every step that meets `C` keeps holds after every run whose steps all
meet `C`. -/
lemma exec_invariant (hstep : ∀ s e s', I s → C s e → step s e = some s' → I s') (hI : I s)
    {es : List ε} (hC : Along step C s es) (hexec : exec step s es = some s') : I s' := by
  induction es generalizing s with
  | nil => exact Option.some.inj hexec ▸ hI
  | cons e es ih =>
    obtain ⟨t, ht, hrest⟩ := exec_cons_eq_some.mp hexec
    obtain ⟨hCs, hCt⟩ := hC t ht
    exact ih (hstep s e t hI hCs ht) hCt hrest

/-- **Run rule, without a condition.**  What every step keeps holds after every run. -/
lemma exec_of_step (hstep : ∀ s e s', I s → step s e = some s' → I s') (hI : I s) {es : List ε}
    (hexec : exec step s es = some s') : I s' := by
  induction es generalizing s with
  | nil => exact Option.some.inj hexec ▸ hI
  | cons e es ih =>
    obtain ⟨t, ht, hrest⟩ := exec_cons_eq_some.mp hexec
    exact ih (hstep s e t hI ht) hrest

/-- **Run rule, state form.**  What every step that meets `C` keeps holds in every state of a run
whose steps all meet `C`. -/
lemma throughout_of_along (hstep : ∀ s e s', I s → C s e → step s e = some s' → I s')
    (hP : ∀ s, I s → P s) (hI : I s) {es : List ε} (hC : Along step C s es) :
    Throughout step P s es := by
  induction es generalizing s with
  | nil => exact hP s hI
  | cons e es ih =>
    refine ⟨hP s hI, fun t ht => ?_⟩
    obtain ⟨hCs, hCt⟩ := hC t ht
    exact ih (hstep s e t hI hCs ht) hCt

/-- A run whose steps meet two conditions. -/
lemma Along.and {D : σ → ε → Prop} {es : List ε} (hC : Along step C s es)
    (hD : Along step D s es) : Along step (fun s e => C s e ∧ D s e) s es := by
  induction es generalizing s with
  | nil => trivial
  | cons e es ih =>
    intro t ht
    obtain ⟨hCs, hCt⟩ := hC t ht
    obtain ⟨hDs, hDt⟩ := hD t ht
    exact ⟨⟨hCs, hDs⟩, ih hCt hDt⟩

/-- A condition that all events of a list meet in every state. -/
lemma along_of_forall {es : List ε} (h : ∀ e ∈ es, ∀ s, C s e) : Along step C s es := by
  induction es generalizing s with
  | nil => trivial
  | cons e es ih =>
    exact fun t _ => ⟨h e List.mem_cons_self s, ih fun d hd => h d (List.mem_cons_of_mem e hd)⟩

/-- **Run rule, step form.**  When the steps that meet `C` keep the invariant `I`, and a step from
`I` that meets `C` meets `D`, every step of a run whose steps all meet `C` meets `D`. -/
lemma along_of_along {D : σ → ε → Prop}
    (hstep : ∀ s e s', I s → C s e → step s e = some s' → I s')
    (hD : ∀ s e, I s → C s e → D s e) (hI : I s) {es : List ε} (hC : Along step C s es) :
    Along step D s es := by
  induction es generalizing s with
  | nil => trivial
  | cons e es ih =>
    intro t ht
    obtain ⟨hCs, hCt⟩ := hC t ht
    exact ⟨hD s e hI hCs, ih (hstep s e t hI hCs ht) hCt⟩

/-- **Exact run rule, step form.**  When the steps keep the invariant `I`, and two conditions agree
on every step from `I`, they agree on every run. -/
lemma along_congr {D : σ → ε → Prop} (hstep : ∀ s e s', I s → step s e = some s' → I s')
    (hCD : ∀ s e s', I s → step s e = some s' → (C s e ↔ D s e)) (hI : I s) {es : List ε} :
    Along step C s es ↔ Along step D s es := by
  induction es generalizing s with
  | nil => exact Iff.rfl
  | cons e es ih =>
    refine forall₂_congr fun t ht => ?_
    rw [hCD s e t hI ht, ih (hstep s e t hI ht)]

/-- **Exact run rule, state before.**  When every event can happen, and a step from a state with `P`
keeps `P` exactly when it meets `C`, then `P` holds before every step of a run that starts with `P`
exactly when every step but the last one meets `C`. -/
lemma along_before_iff (htotal : ∀ s e, ∃ s', step s e = some s')
    (hstep : ∀ s e s', I s → step s e = some s' → I s')
    (hPC : ∀ s e s', I s → P s → step s e = some s' → (P s' ↔ C s e)) (hI : I s) (hP : P s)
    {es : List ε} : Along step (fun s _ => P s) s es ↔ Along step C s es.dropLast := by
  induction es generalizing s with
  | nil => exact Iff.rfl
  | cons e es ih =>
    cases es with
    | nil => exact iff_of_true (fun _ _ => ⟨hP, trivial⟩) trivial
    | cons e' es =>
      rw [List.dropLast_cons_cons]
      refine forall₂_congr fun t ht => ?_
      have hkeeps : P t ↔ C s e := hPC s e t hI hP ht
      have hIt : I t := hstep s e t hI ht
      constructor
      · rintro ⟨-, hrest⟩
        obtain ⟨u, hu⟩ := htotal t e'
        have hPt : P t := (hrest u hu).1
        exact ⟨hkeeps.mp hPt, (ih hIt hPt).mp hrest⟩
      · rintro ⟨hC, hrest⟩
        exact ⟨hP, (ih hIt (hkeeps.mpr hC)).mpr hrest⟩

/-- A property of every state holds of the first. -/
lemma Throughout.head {es : List ε} (h : Throughout step P s es) : P s := by
  cases es with
  | nil => exact h
  | cons e es => exact h.1

/-- A property of every state holds of the last. -/
lemma Throughout.last {es : List ε} (h : Throughout step P s es)
    (hexec : exec step s es = some s') : P s' := by
  induction es generalizing s with
  | nil => exact Option.some.inj hexec ▸ h
  | cons e es ih =>
    obtain ⟨t, ht, hrest⟩ := exec_cons_eq_some.mp hexec
    exact ih (h.2 t ht) hrest

/-- **Exact run rule.**  If steps that meet `C` keep the invariant `I`, which gives `P`, and a
step from `I` that breaks `C` leads out of `P`, then `P` holds throughout a run exactly when all
its steps meet `C`. -/
theorem throughout_iff_along (hstep : ∀ s e s', I s → C s e → step s e = some s' → I s')
    (hP : ∀ s, I s → P s) (hbreak : ∀ s e s', I s → ¬ C s e → step s e = some s' → ¬ P s')
    (hI : I s) {es : List ε} : Throughout step P s es ↔ Along step C s es := by
  refine ⟨fun h => ?_, throughout_of_along hstep hP hI⟩
  induction es generalizing s with
  | nil => trivial
  | cons e es ih =>
    intro t ht
    have hrest : Throughout step P t es := h.2 t ht
    have hCs : C s e := by
      by_contra hC
      exact hbreak s e t hI hC ht hrest.head
    exact ⟨hCs, ih (hstep s e t hI hCs ht) hrest⟩

/-! ## Runs that go on -/

/-- The states of a run that goes on, in a system in which every event can happen. -/
def states (next : σ → ε → σ) (s : σ) (es : ℕ → ε) : ℕ → σ
  | 0 => s
  | n + 1 => next (states next s es n) (es n)

variable {next : σ → ε → σ} {es : ℕ → ε}

/-- What one step keeps holds of every later state. -/
lemma states_of_le (hstep : ∀ s e, I s → I (next s e)) {m n : ℕ} (hle : m ≤ n)
    (h : I (states next s es m)) : I (states next s es n) := by
  induction hle with
  | refl => exact h
  | step hle ih => exact hstep _ _ ih

/-- **Ranking rule.**  A run ends if a measure does not grow as long as the run goes on, and falls again
and again. -/
theorem exists_ended_of_measure {Ended : σ → Prop} (μ : σ → ℕ)
    (hle : ∀ n, ¬ Ended (states next s es (n + 1)) →
      μ (states next s es (n + 1)) ≤ μ (states next s es n))
    (hlt : ∀ n, ∃ m ≥ n, Ended (states next s es m) ∨ Ended (states next s es (m + 1)) ∨
      μ (states next s es (m + 1)) < μ (states next s es m)) :
    ∃ n, Ended (states next s es n) := by
  by_contra hnever
  have hgoes : ∀ n, ¬ Ended (states next s es n) := fun n hn => hnever ⟨n, hn⟩
  have hanti : ∀ m n, m ≤ n → μ (states next s es n) ≤ μ (states next s es m) := by
    intro m n hmn
    induction hmn with
    | refl => exact Nat.le_refl _
    | step hmn ih => exact Nat.le_trans (hle _ (hgoes _)) ih
  have hlow : ∀ k n, k ≤ μ (states next s es n) := by
    intro k
    induction k with
    | zero => exact fun n => Nat.zero_le _
    | succ k ih =>
      intro n
      obtain ⟨m, hmn, hm | hm | hm⟩ := hlt n
      · exact absurd hm (hgoes m)
      · exact absurd hm (hgoes (m + 1))
      · have hfloor := ih (m + 1)
        have hfall := hanti n m hmn
        omega
  exact absurd (hlow (μ s + 1) 0) (Nat.not_succ_le_self (μ s))

end LabelledSystem
