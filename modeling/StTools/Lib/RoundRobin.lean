import StTools.Lib.WhileLoop
import Mathlib.Data.Nat.ModEq
import Mathlib.Tactic.Linarith

/-!
# Round-robin search

A cursor walks around a table of `n` slots, starting where the last search left it, and stops at
the first slot that passes a test; a counter ends the search after `n` slots.  This is the loop
of every "find the next free entry" function.  A hit moves the cursor past the slot found.
-/

namespace RoundRobin

/-- The cursor moves to the next slot and wraps at the end of the table. -/
def advance (n i : ℕ) : ℕ := if i < n - 1 then i + 1 else 0

/-- One pass of the search: the state is the cursor and the number of slots looked at, counted
from one; the result is the slot found and the cursor that is left behind. -/
def pass (test : ℕ → Bool) (n : ℕ) : ℕ × ℕ → (ℕ × ℕ) ⊕ (Option ℕ × ℕ)
  | (cursor, searches) =>
    if test cursor then .inr (some cursor, advance n cursor)
    else if searches + 1 > n then .inr (none, cursor)
    else .inl (advance n cursor, searches + 1)

/-- The search from a cursor: the slot found and the new cursor. -/
def search (test : ℕ → Bool) (n cursor : ℕ) : Option ℕ × ℕ :=
  (WhileLoop.run (pass test n) (n + 1) (cursor, 1)).getD (none, cursor)

variable {test : ℕ → Bool} {n : ℕ}

/-- Inside the table the cursor moves modulo its size. -/
lemma advance_eq_mod {i : ℕ} (h : i < n) : advance n i = (i + 1) % n := by
  unfold advance
  split
  · rw [Nat.mod_eq_of_lt (by omega)]
  · obtain rfl : n = i + 1 := by omega
    rw [Nat.mod_self]

/-- The cursor stays inside the table. -/
lemma advance_lt {i : ℕ} (h : i < n) : advance n i < n := by
  rw [advance_eq_mod h]
  exact Nat.mod_lt _ (by omega)

/-- The state of a search after some passes: the cursor is where the starting point and the
number of passes put it, and every slot passed failed the test. -/
structure Searching (test : ℕ → Bool) (n start : ℕ) (st : ℕ × ℕ) : Prop where
  /-- At least one slot is being looked at, and at most all of them. -/
  bounds : 1 ≤ st.2 ∧ st.2 ≤ n
  /-- The cursor is `searches - 1` slots after the start. -/
  cursor_eq : st.1 = (start + (st.2 - 1)) % n
  /-- The slots passed failed the test. -/
  failed : ∀ k < st.2 - 1, test ((start + k) % n) = false

/-- The first pass starts at the cursor. -/
lemma searching_start {start : ℕ} (h : start < n) : Searching test n start (start, 1) where
  bounds := ⟨le_rfl, by omega⟩
  cursor_eq := by simp [Nat.mod_eq_of_lt h]
  failed := by simp

/-- A pass that goes on keeps the state of the search and looks at one more slot. -/
lemma Searching.pass_inl {start : ℕ} {st st' : ℕ × ℕ} (h : Searching test n start st)
    (hp : pass test n st = .inl st') : Searching test n start st' ∧ n - st'.2 < n - st.2 := by
  obtain ⟨cursor, searches⟩ := st
  obtain ⟨⟨h1, hn⟩, hcur, hfail⟩ := h
  simp only at h1 hn hcur hfail
  have hlt : cursor < n := by rw [hcur]; exact Nat.mod_lt _ (by omega)
  simp only [pass] at hp
  split at hp
  · cases hp
  · rename_i hmiss
    split at hp
    · cases hp
    · cases hp
      refine ⟨⟨⟨by simp, by simp; omega⟩, ?_, ?_⟩, by simp; omega⟩
      · have hdist : start + (searches - 1) + 1 = start + (searches + 1 - 1) := by omega
        change advance n cursor = (start + (searches + 1 - 1)) % n
        rw [advance_eq_mod hlt, hcur, Nat.mod_add_mod, hdist]
      · intro k hk
        by_cases hlast : k = searches - 1
        · rw [hlast, ← hcur]
          simpa using hmiss
        · exact hfail k (by simp only at hk; omega)

/-- What the result of a search says about the table: a hit passed the test and is inside the
table, a miss means that every slot fails, and the cursor stays inside. -/
def Found (test : ℕ → Bool) (n : ℕ) (res : Option ℕ × ℕ) : Prop :=
  res.2 < n ∧
    match res.1 with
    | some i => i < n ∧ test i = true
    | none => ∀ i < n, test i = false

/-- A pass that ends the search gives a correct result. -/
lemma Searching.pass_inr {start : ℕ} {st : ℕ × ℕ} {res : Option ℕ × ℕ}
    (h : Searching test n start st) (hp : pass test n st = .inr res) : Found test n res := by
  obtain ⟨cursor, searches⟩ := st
  obtain ⟨⟨h1, hn⟩, hcur, hfail⟩ := h
  simp only at h1 hn hcur hfail
  have hlt : cursor < n := by rw [hcur]; exact Nat.mod_lt _ (by omega)
  simp only [pass] at hp
  split at hp
  · rename_i hhit
    cases hp
    exact ⟨advance_lt hlt, hlt, hhit⟩
  · rename_i hmiss
    split at hp
    · cases hp
      refine ⟨hlt, fun i hi => ?_⟩
      -- slot `i` is passed at distance `(i - start) mod n`, which the search has covered
      obtain ⟨k, hk, hik⟩ : ∃ k < n, (start + k) % n = i := by
        refine ⟨(i + (n - start % n)) % n, Nat.mod_lt _ (by omega), ?_⟩
        have hs : start % n < n := Nat.mod_lt _ (by omega)
        have hsum : start % n + (i + (n - start % n)) = i + n := by omega
        rw [Nat.add_mod_mod, ← Nat.mod_add_mod, hsum, Nat.add_mod_right, Nat.mod_eq_of_lt hi]
      by_cases hlast : k = searches - 1
      · rw [← hik, hlast, ← hcur]
        simpa using hmiss
      · rw [← hik]
        exact hfail k (by omega)
    · cases hp

/-- **The search ends.** -/
theorem search_returns {cursor : ℕ} (h : cursor < n) :
    WhileLoop.Returns (pass test n) (cursor, 1) (search test n cursor) := by
  have hsome : (WhileLoop.run (pass test n) (n + 1) (cursor, 1)).isSome :=
    WhileLoop.run_isSome_of_measure (I := Searching test n cursor) (fun st => n - st.2)
      (fun _ _ hI hp => hI.pass_inl hp) (searching_start h) (by simp only; omega)
  obtain ⟨res, hres⟩ := Option.isSome_iff_exists.mp hsome
  refine ⟨n + 1, ?_⟩
  rw [search, hres, Option.getD_some]

/-- **The result of the search is correct.** -/
theorem search_found {cursor : ℕ} (h : cursor < n) : Found test n (search test n cursor) :=
  WhileLoop.Returns.post (I := Searching test n cursor) (fun _ _ hI hp => (hI.pass_inl hp).1)
    (fun _ _ hI hp => hI.pass_inr hp) (searching_start h) (search_returns h)

/-- A slot that is found passes the test and is inside the table. -/
lemma search_eq_some {cursor i : ℕ} (h : cursor < n) (hi : (search test n cursor).1 = some i) :
    i < n ∧ test i = true := by
  have hf := (@search_found test n cursor h).2
  rw [hi] at hf
  exact hf

/-- The search fails only when every slot fails the test. -/
lemma search_eq_none {cursor : ℕ} (h : cursor < n) (hnone : (search test n cursor).1 = none)
    {i : ℕ} (hi : i < n) : test i = false := by
  have hf := (@search_found test n cursor h).2
  rw [hnone] at hf
  exact hf i hi

/-- The cursor stays inside the table. -/
lemma search_cursor_lt {cursor : ℕ} (h : cursor < n) : (search test n cursor).2 < n :=
  (search_found h).1

end RoundRobin
