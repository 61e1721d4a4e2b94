import StTools.Lib.WhileLoop
import Mathlib.Data.List.Basic

/-!
# Sweeping a list that grows

A loop goes through a vector by a place, erases some of the entries and moves on at others, while
others push new entries behind the last one.  An entry that is neither erased nor passed keeps the loop
where it is, and a push for which the vector has no room moves the entries to another memory, so that
the place is no longer one.

`moves_of_returns` and `returns_of_moves` say that nothing else can keep a sweep from visiting every
entry once.
-/

namespace Sweep

variable {α σ : Type*}

/-- What a pass does with the entry it is at. -/
inductive Verdict
  /-- It erases the entry; the next one comes to its place. -/
  | remove
  /-- It goes on to the next entry. -/
  | keep
  /-- It does neither. -/
  | stay
  deriving Repr, DecidableEq

/-- The body of a loop. -/
structure Rule (α σ : Type*) where
  /-- What happens to an entry. -/
  verdict : α → Verdict
  /-- What a visit does to a state that is shared with others. -/
  effect : α → σ → σ

/-- The variables of a loop. -/
structure State (α σ : Type*) where
  /-- The entries of the vector. -/
  entries : List α
  /-- The number of entries for which it has room. -/
  capacity : ℕ
  /-- The place in it. -/
  pos : ℕ
  /-- The shared state. -/
  shared : σ
  /-- What others do before each of the next passes: the entries that they push, and how they change the
  shared state. -/
  meanwhile : List (List α × (σ → σ))
  /-- Ghost: the entries that were visited. -/
  visited : List α
  /-- Ghost: the entries that were erased. -/
  erased : List α
  /-- Ghost: the entries that were pushed. -/
  pushed : List α

/-- A loop begins at the first entry. -/
def start (entries : List α) (capacity : ℕ) (shared : σ) (meanwhile : List (List α × (σ → σ))) :
    State α σ :=
  ⟨entries, capacity, 0, shared, meanwhile, [], [], []⟩

namespace State

/-- What others do before the next pass. -/
def interfere (s : State α σ) : State α σ :=
  match s.meanwhile with
  | [] => s
  | (new, f) :: rest =>
    { s with
      entries := s.entries ++ new
      shared := f s.shared
      meanwhile := rest
      pushed := s.pushed ++ new }

/-- There is room for what they push. -/
def Fits (s : State α σ) : Prop := s.interfere.entries.length ≤ s.capacity

instance (s : State α σ) : Decidable s.Fits := inferInstanceAs (Decidable (_ ≤ _))

/-- The entry that the next pass visits. -/
def entry? (s : State α σ) : Option α := s.interfere.entries[s.interfere.pos]?

end State

variable {R : Rule α σ} {s t t' r : State α σ}

/-- The visit of an entry. -/
def State.visit (R : Rule α σ) (s : State α σ) (x : α) : State α σ :=
  let t : State α σ :=
    { s.interfere with
      shared := R.effect x s.interfere.shared
      visited := s.interfere.visited ++ [x] }
  match R.verdict x with
  | .remove => { t with entries := t.entries.eraseIdx t.pos, erased := t.erased ++ [x] }
  | .keep => { t with pos := t.pos + 1 }
  | .stay => t

/-- One pass.  There is no result when the place is lost. -/
def pass (R : Rule α σ) (s : State α σ) : State α σ ⊕ Option (State α σ) :=
  if s.Fits then
    match s.entry? with
    | none => .inr (some s.interfere)
    | some x => .inl (s.visit R x)
  else .inr none

/-- A pass that goes on visits an entry. -/
lemma pass_eq_inl_iff : pass R s = .inl t ↔ s.Fits ∧ ∃ x, s.entry? = some x ∧ t = s.visit R x := by
  unfold pass
  split
  · rename_i hfits
    rw [and_iff_right hfits]
    cases s.entry? with
    | none => simp
    | some x => simp [eq_comm]
  · rename_i hfits
    simp [hfits]

/-- A loop is left at the end of the vector, or because the place is lost. -/
lemma pass_eq_inr_iff {q : Option (State α σ)} :
    pass R s = .inr q ↔ (s.Fits ∧ s.entry? = none ∧ q = some s.interfere) ∨ (¬ s.Fits ∧ q = none) := by
  unfold pass
  split
  · rename_i hfits
    cases s.entry? <;> simp [hfits, eq_comm]
  · rename_i hfits
    simp [hfits, eq_comm]

/-- The next pass gets on: there is room, and the entry is erased or passed. -/
def State.Moves (R : Rule α σ) (s : State α σ) : Prop :=
  s.Fits ∧ ∀ x, s.entry? = some x → R.verdict x ≠ .stay

/-- The loop that began in `s` has visited every entry once and left it as the rule says. -/
structure Swept (R : Rule α σ) (s r : State α σ) : Prop where
  /-- The entries that were there, and then those that were pushed. -/
  visited : r.visited = s.entries ++ r.pushed
  /-- None of them kept the loop where it was. -/
  moved : ∀ x ∈ r.visited, R.verdict x ≠ .stay
  /-- Those to be erased were. -/
  erased : r.erased = r.visited.filter fun x => R.verdict x = .remove
  /-- The others are left. -/
  entries : r.entries = r.visited.filter fun x => R.verdict x ≠ .remove

/-! ## The invariant -/

/-- The state of a loop that gets on: the entries that were visited and left, and then the others. -/
structure Midway (R : Rule α σ) (s t : State α σ) (rest : List α) : Prop where
  /-- What is in the vector. -/
  entries : t.entries = (t.visited.filter fun x => R.verdict x ≠ .remove) ++ rest
  /-- The place is that of the first entry that was not visited. -/
  pos : t.pos = (t.visited.filter fun x => R.verdict x ≠ .remove).length
  /-- Every entry was visited or is still to be. -/
  visited : t.visited ++ rest = s.entries ++ t.pushed
  /-- None of those visited kept the loop where it was. -/
  moved : ∀ x ∈ t.visited, R.verdict x ≠ .stay
  /-- Those to be erased were. -/
  erased : t.erased = t.visited.filter fun x => R.verdict x = .remove
  /-- What is pushed in the end. -/
  pushed : t.pushed.length + (t.meanwhile.flatMap Prod.fst).length =
    (s.meanwhile.flatMap Prod.fst).length

lemma midway_start (entries : List α) (capacity : ℕ) (shared : σ)
    (meanwhile : List (List α × (σ → σ))) :
    Midway R (start entries capacity shared meanwhile) (start entries capacity shared meanwhile)
      entries where
  entries := rfl
  pos := rfl
  visited := (List.append_nil entries).symm
  moved _ hx := nomatch hx
  erased := rfl
  pushed := Nat.zero_add _

/-- What others push is still to be visited. -/
lemma Midway.interfere {rest : List α} (h : Midway R s t rest) :
    ∃ new, Midway R s t.interfere (rest ++ new) := by
  unfold State.interfere
  split
  · exact ⟨[], by rwa [List.append_nil]⟩
  · rename_i new f later hmeanwhile
    refine ⟨new, ⟨?_, h.pos, ?_, h.moved, h.erased, ?_⟩⟩
    · rw [h.entries, List.append_assoc]
    · rw [← List.append_assoc, h.visited, List.append_assoc]
    · have hpushed := h.pushed
      rw [hmeanwhile, List.flatMap_cons, List.length_append] at hpushed
      rw [← hpushed, List.length_append, Nat.add_assoc]

/-- The entry at the place is the first that was not visited. -/
lemma Midway.getElem? {rest : List α} (h : Midway R s t rest) : t.entries[t.pos]? = rest.head? := by
  rw [h.entries, h.pos, List.getElem?_append_right (Nat.le_refl _), Nat.sub_self, List.head?_eq_getElem?]

lemma interfere_visited (t : State α σ) : t.interfere.visited = t.visited := by
  unfold State.interfere
  split <;> rfl

/-- A pass that goes on has visited the next entry, if this one does not keep it. -/
lemma Midway.next {rest : List α} (h : Midway R s t rest) (hmoves : t.Moves R)
    (hpass : pass R t = .inl t') :
    ∃ rest', Midway R s t' rest' ∧ t'.visited.length = t.visited.length + 1 := by
  obtain ⟨new, hnew⟩ := h.interfere
  obtain ⟨-, x, hx, rfl⟩ := pass_eq_inl_iff.mp hpass
  obtain ⟨rest', hrest⟩ : ∃ rest', rest ++ new = x :: rest' := by
    rw [State.entry?, hnew.getElem?] at hx
    exact ⟨_, List.eq_cons_of_mem_head? hx⟩
  rw [hrest] at hnew
  have hall : t.interfere.visited ++ [x] ++ rest' = s.entries ++ t.interfere.pushed := by
    rw [List.append_assoc]
    exact hnew.visited
  have hmoved : ∀ y ∈ t.interfere.visited ++ [x], R.verdict y ≠ .stay := by
    intro y hy
    rcases List.mem_append.mp hy with hy | hy
    · exact hnew.moved y hy
    · rw [List.mem_singleton.mp hy]
      exact hmoves.2 x hx
  have hlength : (t.interfere.visited ++ [x]).length = t.visited.length + 1 := by
    rw [List.length_append, interfere_visited, List.length_singleton]
  unfold State.visit
  cases hverdict : R.verdict x with
  | remove =>
    refine ⟨rest', ⟨?_, ?_, hall, hmoved, ?_, hnew.pushed⟩, hlength⟩
    · dsimp only
      rw [hnew.entries, hnew.pos, List.eraseIdx_append_of_length_le (Nat.le_refl _), Nat.sub_self,
        List.eraseIdx_cons_zero, List.filter_append]
      simp [hverdict]
    · dsimp only
      rw [hnew.pos, List.filter_append]
      simp [hverdict]
    · dsimp only
      rw [hnew.erased, List.filter_append]
      simp [hverdict]
  | keep =>
    refine ⟨rest', ⟨?_, ?_, hall, hmoved, ?_, hnew.pushed⟩, hlength⟩
    · dsimp only
      rw [hnew.entries, List.filter_append]
      simp [hverdict]
    · dsimp only
      rw [hnew.pos, List.filter_append]
      simp [hverdict]
    · dsimp only
      rw [hnew.erased, List.filter_append]
      simp [hverdict]
  | stay => exact absurd hverdict (hmoves.2 x hx)

/-- A loop that ends in its place has visited everything. -/
lemma Midway.swept {rest : List α} (h : Midway R s t rest) (hend : t.entry? = none) :
    Swept R s t.interfere := by
  obtain ⟨new, hnew⟩ := h.interfere
  have hnil : rest ++ new = [] := by
    rw [State.entry?, hnew.getElem?] at hend
    exact List.head?_eq_none_iff.mp hend
  rw [hnil] at hnew
  refine ⟨?_, hnew.moved, hnew.erased, ?_⟩
  · rw [← hnew.visited, List.append_nil]
  · rw [hnew.entries, List.append_nil]

/-! ## When the loop ends -/

/-- The entry at the place is not changed by what others push. -/
lemma entry?_of_getElem? {x : α} (h : s.entries[s.pos]? = some x) : s.entry? = some x := by
  unfold State.entry? State.interfere
  split
  · exact h
  · dsimp only
    rwa [List.getElem?_append_left (List.getElem?_eq_some_iff.mp h).1]

/-- A loop that is kept where it is does not end in its place. -/
lemma not_returns_of_stay {x : α} (hx : s.entries[s.pos]? = some x) (hstay : R.verdict x = .stay) :
    ¬ WhileLoop.Returns (pass R) s (some r) := by
  intro h
  have hnone : some r = none := by
    refine h.post (I := fun u => u.entries[u.pos]? = some x) (Q := fun q => q = none) ?_ ?_ hx
    · intro u u' hu hpass
      obtain ⟨-, y, hy, rfl⟩ := pass_eq_inl_iff.mp hpass
      have hentry := entry?_of_getElem? hu
      obtain rfl := Option.some.inj (hentry.symm.trans hy)
      unfold State.visit
      rw [hstay]
      exact hentry
    · intro u q hu hpass
      rcases pass_eq_inr_iff.mp hpass with ⟨-, hend, -⟩ | ⟨-, hq⟩
      · rw [entry?_of_getElem? hu] at hend
        cases hend
      · exact hq
  cases hnone

/-- A loop that does not get on does not end in its place. -/
lemma not_returns_of_not_moves (h : ¬ t.Moves R) : ¬ WhileLoop.Returns (pass R) t (some r) := by
  intro hreturns
  by_cases hfits : t.Fits
  · obtain ⟨x, hx, hstay⟩ : ∃ x, t.entry? = some x ∧ R.verdict x = .stay := by
      by_contra hnot
      exact h ⟨hfits, fun x hx hstay => hnot ⟨x, hx, hstay⟩⟩
    have hvisit : (t.visit R x).entries[(t.visit R x).pos]? = some x := by
      unfold State.visit
      rw [hstay]
      exact hx
    have hpass : pass R t = .inl (t.visit R x) := pass_eq_inl_iff.mpr ⟨hfits, x, hx, rfl⟩
    exact not_returns_of_stay hvisit hstay ((WhileLoop.returns_of_continue hpass).mp hreturns)
  · have hpass : pass R t = .inr none := if_neg hfits
    exact nomatch (WhileLoop.returns_of_exit hpass).mp hreturns

/-- A loop that ends in its place gets on in every state it comes to. -/
lemma moves_of_returns (h : WhileLoop.Returns (pass R) s (some r)) (hreach : WhileLoop.Reaches (pass R) s t) :
    t.Moves R := by
  by_contra hnot
  exact not_returns_of_not_moves hnot (hreach.returns_iff.mp h)

/-- A loop that gets on in every state it comes to visits everything. -/
lemma returns_of_moves {entries : List α} {capacity : ℕ} {shared : σ}
    {meanwhile : List (List α × (σ → σ))}
    (h : ∀ t, WhileLoop.Reaches (pass R) (start entries capacity shared meanwhile) t → t.Moves R) :
    ∃ r, WhileLoop.Returns (pass R) (start entries capacity shared meanwhile) (some r) ∧
      Swept R (start entries capacity shared meanwhile) r := by
  set s := start entries capacity shared meanwhile with hs
  have hmidway : ∀ t, WhileLoop.Reaches (pass R) s t → ∃ rest, Midway R s t rest := by
    intro t ht
    induction ht with
    | start => exact ⟨entries, midway_start entries capacity shared meanwhile⟩
    | pass hreach hpass ih =>
      obtain ⟨rest, hrest⟩ := ih
      obtain ⟨rest', hrest', -⟩ := hrest.next (h _ hreach) hpass
      exact ⟨rest', hrest'⟩
  -- Every pass visits another of the entries that are there in the end.
  let total := s.entries.length + (s.meanwhile.flatMap Prod.fst).length
  have hsome : (WhileLoop.run (pass R) (total - s.visited.length + 1) s).isSome := by
    refine WhileLoop.run_isSome_of_measure (I := WhileLoop.Reaches (pass R) s)
      (fun t => total - t.visited.length) ?_ .start (Nat.lt_succ_self _)
    intro t t' hreach hpass
    obtain ⟨rest, hrest⟩ := hmidway t hreach
    obtain ⟨rest', hrest', hlength⟩ := hrest.next (h t hreach) hpass
    have hvisited := congrArg List.length hrest'.visited
    have hpushed := hrest'.pushed
    rw [List.length_append, List.length_append] at hvisited
    exact ⟨hreach.pass hpass, by omega⟩
  obtain ⟨q, hq⟩ := Option.isSome_iff_exists.mp hsome
  obtain ⟨t, hreach, hexit⟩ := WhileLoop.returns_iff_reaches.mp ⟨_, hq⟩
  obtain ⟨rest, hrest⟩ := hmidway t hreach
  rcases pass_eq_inr_iff.mp hexit with ⟨-, hend, rfl⟩ | ⟨hfull, -⟩
  · exact ⟨_, ⟨_, hq⟩, hrest.swept hend⟩
  · exact absurd (h t hreach).1 hfull

end Sweep
