import Mathlib.Data.Nat.Notation
import Mathlib.Tactic.TypeStar
import Mathlib.Tactic.Common

/-!
# While loops

A loop of an imperative program is a *body* `σ → σ ⊕ ρ`: one pass either continues in a new
state or leaves the loop with a result.  Nothing here assumes that the loop ends: `run body n`
makes at most `n` passes, `Returns` says that some number of passes is enough, and `Diverges`
that none is.

The rules are the ones every loop proof needs: a pass can be peeled off on either side, an
invariant carries over to the result, and a decreasing measure gives a result.  `Reaches` is the
set of states a loop comes to, and `exists_returns_iff` says when a loop returns by what holds in
these states.
-/

namespace WhileLoop

variable {σ τ ρ ρ' : Type*}

/-- Make at most `n` passes of the loop; `none` if it is still running after them. -/
def run (body : σ → σ ⊕ ρ) : ℕ → σ → Option ρ
  | 0, _ => none
  | n + 1, s =>
    match body s with
    | .inl s' => run body n s'
    | .inr r => some r

/-- The loop started in `s` is left with the result `r`. -/
def Returns (body : σ → σ ⊕ ρ) (s : σ) (r : ρ) : Prop := ∃ n, run body n s = some r

/-- The loop started in `s` is never left. -/
def Diverges (body : σ → σ ⊕ ρ) (s : σ) : Prop := ∀ n, run body n s = none

variable {body : σ → σ ⊕ ρ} {s s' : σ} {r : ρ}

/-- A pass that continues uses up one pass of the bound. -/
lemma run_succ_of_continue (h : body s = .inl s') (n : ℕ) :
    run body (n + 1) s = run body n s' := by
  rw [run, h]

/-- A pass that leaves the loop gives the result, whatever the bound. -/
lemma run_succ_of_exit (h : body s = .inr r) (n : ℕ) : run body (n + 1) s = some r := by
  rw [run, h]

/-- A larger bound does not change a result. -/
lemma run_mono {n m : ℕ} (hnm : n ≤ m) (h : run body n s = some r) : run body m s = some r := by
  induction n generalizing s m with
  | zero => simp [run] at h
  | succ n ih =>
    obtain ⟨m, rfl⟩ : ∃ k, m = k + 1 := ⟨m - 1, by omega⟩
    cases hb : body s with
    | inl t =>
      rw [run_succ_of_continue hb] at h ⊢
      exact ih (by omega) h
    | inr q =>
      rw [run_succ_of_exit hb] at h ⊢
      exact h

/-- The result of a loop does not depend on the bound. -/
lemma run_unique {n m : ℕ} {q : ρ} (h : run body n s = some r) (h' : run body m s = some q) :
    r = q := by
  rcases Nat.le_total n m with hnm | hmn
  · exact Option.some.inj ((run_mono hnm h).symm.trans h')
  · exact Option.some.inj (h.symm.trans (run_mono hmn h'))

/-- A loop has at most one result. -/
lemma Returns.unique {q : ρ} (h : Returns body s r) (h' : Returns body s q) : r = q := by
  obtain ⟨n, hn⟩ := h
  obtain ⟨m, hm⟩ := h'
  exact run_unique hn hm

/-- Peel off a pass that continues. -/
lemma returns_of_continue (h : body s = .inl s') : Returns body s r ↔ Returns body s' r := by
  constructor
  · rintro ⟨n, hn⟩
    cases n with
    | zero => simp [run] at hn
    | succ n => exact ⟨n, by rwa [run_succ_of_continue h] at hn⟩
  · rintro ⟨n, hn⟩
    exact ⟨n + 1, by rwa [run_succ_of_continue h]⟩

/-- A pass that leaves the loop decides its result. -/
lemma returns_of_exit {q : ρ} (h : body s = .inr q) : Returns body s r ↔ r = q := by
  constructor
  · rintro ⟨n, hn⟩
    cases n with
    | zero => simp [run] at hn
    | succ n => exact (Option.some.inj ((run_succ_of_exit h n).symm.trans hn)).symm
  · rintro rfl
    exact ⟨1, run_succ_of_exit h 0⟩

/-- A loop that diverges has no result. -/
lemma Diverges.not_returns (h : Diverges body s) : ¬ Returns body s r := by
  rintro ⟨n, hn⟩
  simp [h n] at hn

/-- **Invariant rule.**  What every pass keeps, and what leaving the loop turns into `Q`, gives
`Q` of the result. -/
lemma Returns.post {I : σ → Prop} {Q : ρ → Prop}
    (hstep : ∀ s s', I s → body s = .inl s' → I s')
    (hexit : ∀ s r, I s → body s = .inr r → Q r)
    (hI : I s) (h : Returns body s r) : Q r := by
  obtain ⟨n, hn⟩ := h
  induction n generalizing s with
  | zero => simp [run] at hn
  | succ n ih =>
    cases hb : body s with
    | inl t =>
      rw [run_succ_of_continue hb] at hn
      exact ih (hstep s t hI hb) hn
    | inr q =>
      rw [run_succ_of_exit hb] at hn
      exact Option.some.inj hn ▸ hexit s q hI hb

/-- A loop whose passes keep `I`, and never leave while `I` holds, diverges. -/
lemma diverges_of_invariant {I : σ → Prop} (hstep : ∀ s, I s → ∃ s', body s = .inl s' ∧ I s')
    (hI : I s) : Diverges body s := by
  intro n
  induction n generalizing s with
  | zero => rfl
  | succ n ih =>
    obtain ⟨t, hb, ht⟩ := hstep s hI
    rw [run_succ_of_continue hb]
    exact ih ht

/-- **Termination rule.**  If every pass keeps `I` and decreases `μ`, the loop is left within
`μ s + 1` passes. -/
lemma run_isSome_of_measure {I : σ → Prop} (μ : σ → ℕ)
    (hstep : ∀ s s', I s → body s = .inl s' → I s' ∧ μ s' < μ s) (hI : I s)
    {n : ℕ} (hn : μ s < n) : (run body n s).isSome := by
  induction n generalizing s with
  | zero => omega
  | succ n ih =>
    cases hb : body s with
    | inl t =>
      obtain ⟨ht, hlt⟩ := hstep s t hI hb
      rw [run_succ_of_continue hb]
      exact ih ht (by omega)
    | inr q => rw [run_succ_of_exit hb]; rfl

/-! ## The states a loop comes to -/

/-- The loop started in `s` comes to `t`. -/
inductive Reaches (body : σ → σ ⊕ ρ) (s : σ) : σ → Prop
  /-- It starts there. -/
  | start : Reaches body s s
  /-- A pass goes on from a state it comes to. -/
  | pass {t t' : σ} : Reaches body s t → body t = .inl t' → Reaches body s t'

/-- What every pass keeps holds in all states a loop comes to. -/
lemma Reaches.invariant {I : σ → Prop} (hstep : ∀ t t', I t → body t = .inl t' → I t')
    (hI : I s) {t : σ} (h : Reaches body s t) : I t := by
  induction h with
  | start => exact hI
  | pass _ hb ih => exact hstep _ _ ih hb

/-- A loop returns what it returns from a state it comes to. -/
lemma Reaches.returns_iff {t : σ} (h : Reaches body s t) : Returns body s r ↔ Returns body t r := by
  induction h with
  | start => rfl
  | pass _ hb ih => exact ih.trans (returns_of_continue hb)

/-- The states a loop comes to behind its first pass. -/
lemma Reaches.of_continue {t : σ} (hb : body s = .inl s') (h : Reaches body s' t) :
    Reaches body s t := by
  induction h with
  | start => exact .pass .start hb
  | pass _ hpass ih => exact .pass ih hpass

/-- A loop comes to the state it starts in, and to those behind its first pass. -/
lemma Reaches.eq_or {t : σ} (h : Reaches body s t) :
    t = s ∨ ∃ s', body s = .inl s' ∧ Reaches body s' t := by
  induction h with
  | start => exact .inl rfl
  | pass _ hb ih =>
    rcases ih with rfl | ⟨s', hs, hreach⟩
    · exact .inr ⟨_, hb, .start⟩
    · exact .inr ⟨s', hs, hreach.pass hb⟩

/-- A loop that is left in its first pass comes to no other state. -/
lemma Reaches.eq_of_exit {t : σ} (hexit : body s = .inr r) (h : Reaches body s t) : t = s := by
  rcases h.eq_or with rfl | ⟨s', hb, -⟩
  · rfl
  · rw [hexit] at hb
    cases hb

/-- A loop returns what it is left with in a state it comes to. -/
lemma returns_iff_reaches : Returns body s r ↔ ∃ t, Reaches body s t ∧ body t = .inr r := by
  constructor
  · intro h
    exact h.post (I := Reaches body s) (Q := fun r => ∃ t, Reaches body s t ∧ body t = .inr r)
      (fun _ _ ht hb => ht.pass hb) (fun t _ ht hb => ⟨t, ht, hb⟩) .start
  · rintro ⟨t, ht, hb⟩
    exact ht.returns_iff.mpr ((returns_of_exit hb).mpr rfl)

/-- **When a loop returns.**  If passes make progress where `C` holds, and the loop stays for ever
where it does not, then the loop returns exactly when `C` holds wherever it comes. -/
lemma exists_returns_iff {I C : σ → Prop} (μ : σ → ℕ)
    (hstep : ∀ t t', I t → body t = .inl t' → I t')
    (hprogress : ∀ t t', I t → C t → body t = .inl t' → μ t' < μ t)
    (hstuck : ∀ t, I t → ¬ C t → Diverges body t) (hI : I s) :
    (∃ r, Returns body s r) ↔ ∀ t, Reaches body s t → C t := by
  constructor
  · rintro ⟨r, hr⟩ t ht
    by_contra hC
    exact (hstuck t (ht.invariant hstep hI) hC).not_returns (ht.returns_iff.mp hr)
  · intro h
    have hsome : (run body (μ s + 1) s).isSome := by
      refine run_isSome_of_measure (I := fun t => Reaches body s t) μ ?_ .start (Nat.lt_succ_self _)
      intro t t' ht hb
      exact ⟨ht.pass hb, hprogress t t' (ht.invariant hstep hI) (h t ht) hb⟩
    obtain ⟨r, hr⟩ := Option.isSome_iff_exists.mp hsome
    exact ⟨r, _, hr⟩

end WhileLoop
