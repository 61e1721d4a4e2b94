import StTools.ConKeeper.Pool

/-!
# The search for a free record

`findConnection` begins at `nextConnection` and looks at as many records as there are.  The shared cursor
is wrapped at the end of `v_connections`, but the index of the search is not: behind the last record the
search goes on in the memory there.

`findsFree_iff` says when that does not happen.
-/

namespace ConKeeper

namespace Pool

variable {n m : ℕ} {s s' : Pool n m} {type : ConnectionType} {index fuel : ℕ}

/-- `findConnection` with what it changes: what it returns, `none` standing for `-1`, and the variables.
There is no result when it reads behind the end of `v_connections`. -/
def searchAndTake (s : Pool n m) (type : ConnectionType) : Option (Option (Fin n) × Pool n m) :=
  s.findConnection.map fun found =>
    match found with
    | none => (none, s)
    | some i => (some i, s.take i type)

/-- A listener that accepts a connection calls `findConnection`. -/
lemma acceptStep_eq (l : Fin m) (sock : ℤ) (hon : (s.listeners l).pc = .on) :
    s.acceptStep l sock = some (match s.searchAndTake (s.listeners l).type with
      | none => { s with overrun := true }
      | some (none, t) => t
      | some (some i, t) => t.setListener l (.found i sock)) := by
  rw [acceptStep, hon, searchAndTake]
  rcases s.findConnection with _ | _ | i <;> rfl

/-- What a search should give. -/
structure Finds (s : Pool n m) (type : ConnectionType) (found : Option (Fin n)) (s' : Pool n m) :
    Prop where
  /-- There is nothing to be found only when no record is free. -/
  none_iff : found = none ↔ ∀ i, (s.records i).con.type ≠ .none
  /-- Then nothing is changed. -/
  unchanged : found = none → s' = s
  /-- What is found was free. -/
  free : ∀ i, found = some i → (s.records i).con.type = .none
  /-- It gets the type and is entered in `conIndex`; beside it only the cursor is changed. -/
  taken : ∀ i, found = some i → s' =
    { s with
      records := Function.update s.records i
        { s.records i with con := { (s.records i).con with type := type } }
      conIndex := s.conIndex ++ [i]
      nextConnection := s'.nextConnection }
  /-- The cursor stays inside. -/
  next_lt : s'.nextConnection < n

/-- The search reads no record behind the last one, and finds a free one when there is one. -/
def FindsFree (s : Pool n m) (type : ConnectionType) : Prop :=
  ∃ found s', s.searchAndTake type = some (found, s') ∧ s.Finds type found s'

/-- From a free record at or behind the index the search does not come to the end. -/
lemma findFrom_of_free (h : ∃ i : Fin n, index ≤ i ∧ i < index + fuel ∧ (s.records i).con.type = .none) :
    ∃ i, s.findFrom fuel index = some (some i) := by
  obtain ⟨i, hle, hlt, hfree⟩ := h
  induction fuel generalizing index with
  | zero => omega
  | succ fuel ih =>
    have hindex : index < n := by omega
    rw [findFrom, dif_pos hindex]
    split
    · exact ⟨_, rfl⟩
    · rename_i hused
      have hne : index ≠ i := by
        rintro rfl
        exact hused hfree
      exact ih (by omega) (by omega)

/-- Without one it looks at all the records that it may, and leaves `v_connections` if there are not as
many. -/
lemma findFrom_of_used (hindex : index ≤ n)
    (h : ∀ i : Fin n, index ≤ i → (s.records i).con.type ≠ .none) :
    s.findFrom fuel index = if index + fuel ≤ n then some none else none := by
  induction fuel generalizing index with
  | zero => rw [findFrom, if_pos (by omega)]
  | succ fuel ih =>
    rw [findFrom]
    by_cases hlt : index < n
    · rw [dif_pos hlt, if_neg (h ⟨index, hlt⟩ le_rfl), ih hlt fun i hi => h i (by omega),
        Nat.succ_add_eq_add_succ]
    · rw [dif_neg hlt, if_neg (by omega)]

/-- A search that ends gives what it should. -/
lemma finds_of_findConnection (hnext : s.nextConnection < n) {found : Option (Fin n)}
    (h : s.findConnection = some found) (hnone : found = none → ∀ i, (s.records i).con.type ≠ .none) :
    s.FindsFree type := by
  have hfree : ∀ i, found = some i → (s.records i).con.type = .none := by
    rintro i rfl
    exact type_of_findFrom h
  have hiff : found = none ↔ ∀ i, (s.records i).con.type ≠ .none := by
    refine ⟨hnone, fun hused => ?_⟩
    cases found with
    | none => rfl
    | some i => exact absurd (hfree i rfl) (hused i)
  cases found with
  | none =>
    refine ⟨none, s, by rw [searchAndTake, h]; rfl, hiff, fun _ => rfl, hfree, ?_, hnext⟩
    exact fun i hi => nomatch hi
  | some i =>
    refine ⟨some i, s.take i type, by rw [searchAndTake, h]; rfl, hiff, ?_, hfree, ?_, ?_⟩
    · exact fun hi => nomatch hi
    · rintro _ ⟨⟩
      rfl
    · exact RoundRobin.advance_lt hnext

/-- **When `findConnection` finds a free record.**  It reads only records and finds a free one, if there
is one, exactly when it begins at the first record or there is a free one from the cursor on. -/
theorem findsFree_iff (hnext : s.nextConnection < n) (type : ConnectionType) :
    s.FindsFree type ↔ s.nextConnection = 0 ∨
      ∃ i : Fin n, s.nextConnection ≤ i ∧ (s.records i).con.type = .none := by
  by_cases hfree : ∃ i : Fin n, s.nextConnection ≤ i ∧ (s.records i).con.type = .none
  · refine iff_of_true ?_ (.inr hfree)
    obtain ⟨i, hle, hi⟩ := hfree
    obtain ⟨j, hj⟩ : ∃ j, s.findConnection = some (some j) :=
      findFrom_of_free ⟨i, hle, by omega, hi⟩
    exact finds_of_findConnection hnext hj fun h => nomatch h
  · have hused : ∀ i : Fin n, s.nextConnection ≤ i → (s.records i).con.type ≠ .none :=
      fun i hle hi => hfree ⟨i, hle, hi⟩
    have hfind : s.findConnection = if s.nextConnection + n ≤ n then some none else none :=
      findFrom_of_used hnext.le hused
    rw [or_iff_left hfree]
    constructor
    · rintro ⟨found, s', hsearch, -⟩
      by_contra hpos
      rw [searchAndTake, hfind, if_neg (by omega)] at hsearch
      cases hsearch
    · intro hzero
      rw [if_pos (by omega)] at hfind
      exact finds_of_findConnection hnext hfind fun _ i => hused i (by omega)

/-- A step leaves the cursor or advances it. -/
lemma nextConnection_of_step {e : Event n m} (h : s.step e = some s') :
    s'.nextConnection = s.nextConnection ∨
      s'.nextConnection = RoundRobin.advance n s.nextConnection := by
  cases e with
  | setApp app =>
    obtain rfl := Option.some.inj h
    exact .inl rfl
  | accept l sock =>
    simp only [step, acceptStep] at h
    split at h
    · rcases hfound : s.findConnection with _ | _ | i
      all_goals
        rw [hfound] at h
        obtain rfl := Option.some.inj h
      · exact .inl rfl
      · exact .inl rfl
      · exact .inr rfl
    · cases h
  | listener l ok =>
    simp only [step, listenerStep] at h
    split at h
    any_goals split at h
    all_goals cases h
    all_goals exact .inl rfl
  | client i k input =>
    obtain ⟨t, -, h⟩ := Option.bind_eq_some_iff.mp h
    obtain ⟨o, -, h⟩ := Option.bind_eq_some_iff.mp h
    obtain rfl := Option.some.inj h
    exact .inl rfl
  | server i k input =>
    obtain ⟨t, -, h⟩ := Option.bind_eq_some_iff.mp h
    obtain ⟨o, -, h⟩ := Option.bind_eq_some_iff.mp h
    obtain rfl := Option.some.inj h
    exact .inl rfl
  | control ok =>
    simp only [step, controlStep] at h
    repeat' split at h
    all_goals obtain rfl := Option.some.inj h
    all_goals exact .inl rfl

/-- The cursor stays inside throughout a run. -/
lemma nextConnection_lt_of_exec (types : Fin m → { type : ConnectionType // type ≠ .none })
    (app : ApplicationData) (hn : 0 < n) {es : List (Event n m)}
    (h : LabelledSystem.exec step (init types app) es = some s) : s.nextConnection < n := by
  refine LabelledSystem.exec_of_step (I := fun t => t.nextConnection < n) ?_ hn h
  intro t e t' hlt hstep
  rcases nextConnection_of_step hstep with heq | heq
  · rwa [heq]
  · rw [heq]
    exact RoundRobin.advance_lt hlt

/-- Two records; the listener is there for `LDAP` connections. -/
def twoRecords (first second : ConnectionType) (next : ℕ) : Pool 2 1 :=
  { init (fun _ => ⟨.ldap, ldap_ne_none⟩) Served.readyApp with
    records := fun i => ⟨{ Connection.initial with type := if i = 0 then first else second }, [], []⟩
    nextConnection := next }

/-- A search that begins at the first record. -/
theorem twoRecords_findsFree : (twoRecords .ldap .none 0).FindsFree .ldap :=
  (findsFree_iff (s := twoRecords .ldap .none 0) (by decide) .ldap).mpr (.inl rfl)

/-- The second record is in use and the first is free, but the search begins at the second and goes on
behind it. -/
theorem twoRecords_not_findsFree :
    (twoRecords .none .ldap 1).nextConnection < 2 ∧
      ((twoRecords .none .ldap 1).records 0).con.type = .none ∧
      (twoRecords .none .ldap 1).findConnection = none ∧
      ¬ (twoRecords .none .ldap 1).FindsFree .ldap := by
  refine ⟨by decide, rfl, rfl, ?_⟩
  rintro ⟨found, s', hsearch, -⟩
  cases hsearch

end Pool

end ConKeeper
