import StTools.ConKeeper.Pool
import StTools.Lib.Sweep
import StTools.Lib.NamedInstances

/-!
# The passes of the control thread

In `CONKEEPER_READY` and in `CONKEEPER_TO_BE_RESET` the control thread copies the records and then goes
through `conIndex`, while the listeners push the records that they take.  What it does at a place is
decided by the copy, except whether a client gets a new thread.  A record that was taken after the copy
was made is free in the copy: the loop of a reset neither erases such an entry nor passes it.

`visitsOnce_iff` says when a pass visits every entry once.
-/

namespace ConKeeper

/-- The statuses of the application in which there are passes. -/
inductive PassKind
  | ready
  | toBeReset
  deriving Repr, DecidableEq

/-- What a visit may change. -/
structure PassVars (n : ℕ) where
  /-- `v_connections`. -/
  records : Fin n → Connection
  /-- `connectionsPending`, which only a reset has. -/
  pending : Bool

/-- The record was `OFFLINE` on both sides. -/
def Connection.BothOffline (c : Connection) : Prop :=
  c.client.status = .offline ∧ c.server.status = .offline

instance : DecidablePred Connection.BothOffline := fun c =>
  inferInstanceAs (Decidable (c.client.status = .offline ∧ c.server.status = .offline))

/-- A record that is set free. -/
def Connection.setFree (c : Connection) : Connection := { c with type := .none, messageLen := 0 }

variable {n : ℕ}

/-- The variables with another value for a record. -/
def PassVars.modify (v : PassVars n) (i : Fin n) (f : Connection → Connection) : PassVars n :=
  { v with records := Function.update v.records i (f (v.records i)) }

/-- The loop of `CONKEEPER_READY`, with the copy of the records, and which threads can be created. -/
def readyRule (copy : Fin n → Connection) (creates : Fin n → Bool) : Sweep.Rule (Fin n) (PassVars n) where
  verdict i := if (copy i).BothOffline then .remove else .keep
  effect i v :=
    if (copy i).BothOffline then v.modify i Connection.setFree
    else if (copy i).client.status = .toBeRestarted ∧ (v.records i).client.threadID = false then
      if (v.records i).type ≠ .none ∧ creates i then
        v.modify i fun c => { c with client := { c.client with threadID := true } }
      else v
    else v

/-- The loop of `CONKEEPER_TO_BE_RESET`. -/
def resetRule (copy : Fin n → Connection) : Sweep.Rule (Fin n) (PassVars n) where
  verdict i :=
    if (copy i).type ≠ .none then
      if (copy i).BothOffline then .remove else .keep
    else .stay
  effect i v :=
    if (copy i).type ≠ .none then
      if (copy i).BothOffline then v.modify i Connection.setFree else { v with pending := true }
    else v

/-- A pass of the control thread. -/
structure ControlPass (n : ℕ) where
  /-- The status of the application. -/
  kind : PassKind
  /-- `my_v_connections`. -/
  copy : Fin n → Connection
  /-- The client threads that can be created. -/
  creates : Fin n → Bool
  /-- `conIndex` when the loop begins. -/
  conIndex : List (Fin n)
  /-- The number of indices for which it has room. -/
  capacity : ℕ
  /-- They are in it. -/
  length_le : conIndex.length ≤ capacity
  /-- `v_connections` when the loop begins. -/
  records : Fin n → Connection
  /-- What other threads do before each visit: the records that listeners enter in `conIndex`, and what
  they do to all records. -/
  meanwhile : List (List (Fin n) × ((Fin n → Connection) → Fin n → Connection))

namespace ControlPass

variable (p : ControlPass n)

/-- The body of the loop. -/
def rule : Sweep.Rule (Fin n) (PassVars n) :=
  match p.kind with
  | .ready => readyRule p.copy p.creates
  | .toBeReset => resetRule p.copy

/-- The loop when it begins. -/
def start : Sweep.State (Fin n) (PassVars n) :=
  Sweep.start p.conIndex p.capacity ⟨p.records, false⟩
    (p.meanwhile.map fun m => (m.1, fun v => { v with records := m.2 v.records }))

/-- The pass ends after one visit to every entry, and has erased exactly the entries whose record was
`OFFLINE` on both sides. -/
def VisitsOnce : Prop :=
  ∃ r, WhileLoop.Returns (Sweep.pass p.rule) p.start (some r) ∧
    r.visited = p.conIndex ++ r.pushed ∧
    r.erased = (r.visited.filter fun i => (p.copy i).BothOffline) ∧
    r.entries = r.visited.filter fun i => ¬ (p.copy i).BothOffline

/-- The next visit is in order: what the listeners have entered had room in `conIndex`, and in a reset the
record of the entry is not free in the copy. -/
def Orderly (s : Sweep.State (Fin n) (PassVars n)) : Prop :=
  s.Fits ∧ (p.kind = .toBeReset → ∀ i, s.entry? = some i → (p.copy i).type ≠ .none)

/-- Only a record that is free in the copy keeps a reset where it is. -/
lemma verdict_eq_stay_iff (i : Fin n) :
    p.rule.verdict i = .stay ↔ p.kind = .toBeReset ∧ (p.copy i).type = .none := by
  unfold rule
  cases p.kind with
  | ready =>
    by_cases hoffline : (p.copy i).BothOffline <;> simp [readyRule, hoffline]
  | toBeReset =>
    by_cases hfree : (p.copy i).type = .none <;>
      by_cases hoffline : (p.copy i).BothOffline <;> simp [resetRule, hfree, hoffline]

/-- What is erased was `OFFLINE` on both sides. -/
lemma verdict_eq_remove_iff {i : Fin n} (h : p.rule.verdict i ≠ .stay) :
    p.rule.verdict i = .remove ↔ (p.copy i).BothOffline := by
  revert h
  unfold rule
  cases p.kind with
  | ready =>
    by_cases hoffline : (p.copy i).BothOffline <;> simp [readyRule, hoffline]
  | toBeReset =>
    by_cases hfree : (p.copy i).type = .none <;>
      by_cases hoffline : (p.copy i).BothOffline <;> simp [resetRule, hfree, hoffline]

lemma moves_iff (s : Sweep.State (Fin n) (PassVars n)) : s.Moves p.rule ↔ p.Orderly s := by
  refine and_congr_right fun _ => ?_
  simp only [ne_eq, verdict_eq_stay_iff, not_and]
  exact ⟨fun h hkind i hi => h i hi hkind, fun h i hi hkind => h hkind i hi⟩

/-- A pass whose visits are all in order visits every entry once. -/
lemma visitsOnce_of_orderly
    (h : ∀ s, WhileLoop.Reaches (Sweep.pass p.rule) p.start s → p.Orderly s) : p.VisitsOnce := by
  obtain ⟨r, hreturns, hvisited, hmoved, herased, hentries⟩ :=
    Sweep.returns_of_moves fun s hreach => (p.moves_iff s).mpr (h s hreach)
  refine ⟨r, hreturns, hvisited, ?_, ?_⟩
  · rw [herased]
    exact List.filter_congr fun i hi => by simp [p.verdict_eq_remove_iff (hmoved i hi)]
  · rw [hentries]
    exact List.filter_congr fun i hi => by simp [p.verdict_eq_remove_iff (hmoved i hi)]

/-- **When a pass of the control thread visits every entry once.**  It ends after that, with exactly the
entries erased that were `OFFLINE` on both sides, exactly when every visit is in order. -/
theorem visitsOnce_iff :
    p.VisitsOnce ↔ ∀ s, WhileLoop.Reaches (Sweep.pass p.rule) p.start s → p.Orderly s := by
  refine ⟨?_, p.visitsOnce_of_orderly⟩
  rintro ⟨r, hreturns, -⟩ s hreach
  exact (p.moves_iff s).mp (Sweep.moves_of_returns hreturns hreach)

attribute [local instance] NamedInstances.neZero_one

/-- A reset with no connection left.  Before it looks at `conIndex`, a listener takes the record and enters
it. -/
def lateTake : ControlPass 1 where
  kind := .toBeReset
  copy _ := Connection.initial
  creates _ := true
  conIndex := []
  capacity := 1
  length_le := Nat.zero_le 1
  records _ := Connection.initial
  meanwhile := [([0], fun v => Function.update v 0 { v 0 with type := .ldap })]

/-- The loop never leaves the entry: the record is free in the copy. -/
theorem lateTake_not_visitsOnce :
    (lateTake.copy 0).type = .none ∧ lateTake.start.Fits ∧ lateTake.start.entry? = some 0 ∧
      ¬ lateTake.VisitsOnce := by
  refine ⟨rfl, by decide, rfl, ?_⟩
  rintro ⟨r, hreturns, -⟩
  exact Sweep.not_returns_of_not_moves (fun h => h.2 0 rfl rfl) hreturns

end ControlPass

end ConKeeper
