import StTools.Lib.LabelledSystem
import Mathlib.Data.Nat.Notation
import Mathlib.Data.List.Basic
import Mathlib.Logic.Function.Basic

/-!
# Two zones

With redundancy there are two Diameter servers, and one of them is active.  The heartbeat thread looks for it:
it checks the two hosts in turns, and gives up after too many tries.  Then it checks the other host from time
to time, and when that one answers, it is the active one.  The proxy thread creates the server threads when a
host has been found; a server thread connects to the host that is active at that moment.

`host_throughout` says which host that is after any checks, and `attempts_throughout` that no server thread ever
tries another host than the one that has answered last.
-/

namespace DiaProxy

open LabelledSystem

/-- `MAX_ACTIVE_NODE_FIND_RETRIES`. -/
def maxActiveNodeFindRetries : ℕ := 10

/-- The hosts of the two zones. -/
structure Zones (α : Type*) where
  /-- `diameter_primary_host`. -/
  primary : α
  /-- `diameter_secondary_host`. -/
  secondary : α

/-- The host that is checked after another one. -/
def Zones.other {α : Type*} [DecidableEq α] (z : Zones α) (host : α) : α :=
  if host = z.primary then z.secondary else z.primary

/-- Where the heartbeat thread is. -/
inductive HeartbeatPc (α : Type*)
  /-- In the first loop, with the host that was checked and the number of checks. -/
  | finding (host : α) (counter : ℕ)
  /-- In the second loop, with the host that is going to be checked. -/
  | monitoring (host : α)
  /-- It has exited. -/
  | exited
  deriving DecidableEq

/-- A proxy with redundancy, and `n` connections of the type `GENERIC`. -/
structure Redundant (α : Type*) (n : ℕ) where
  /-- `diameter_host`; there is none in the beginning. -/
  host : Option α
  /-- `diaProxyState` is `DIAPROXY_STARTING` or more. -/
  starting : Bool
  /-- Where the heartbeat thread is. -/
  heartbeat : HeartbeatPc α
  /-- The results of all checks. -/
  results : List Bool
  /-- The host that has answered last. -/
  answered : Option α
  /-- The tool has to exit. -/
  haveToExit : Bool
  /-- The server threads were created. -/
  created : Bool
  /-- `diameter_server` of the connections. -/
  servers : Fin n → Option α
  /-- All attempts to connect: the server, and the host that had answered last. -/
  attempts : List (Option α × Option α)

/-- What can happen. -/
inductive RedundancyEvent (n : ℕ)
  /-- The tool is told to exit. -/
  | exit
  /-- The heartbeat thread makes a pass, and whether the host answers. -/
  | check (ok : Bool)
  /-- Its socket fails, and it exits. -/
  | broken
  /-- The proxy thread looks whether a host was found. -/
  | create
  /-- A server thread connects. -/
  | connect (i : Fin n)

namespace Redundant

variable {α : Type*} [DecidableEq α] {n : ℕ}

/-- A host is checked in the first loop.  When there were too many checks, the result does not matter. -/
def checkFinding (z : Zones α) (s : Redundant α n) (host : α) (counter : ℕ) (ok : Bool) :
    Redundant α n :=
  if maxActiveNodeFindRetries < counter + 1 then
    { s with
      heartbeat := .exited
      results := s.results ++ [ok]
      answered := if ok then some (z.other host) else s.answered }
  else if ok then
    { s with
      host := some (z.other host)
      starting := true
      heartbeat := .monitoring (z.other (z.other host))
      results := s.results ++ [ok]
      answered := some (z.other host) }
  else { s with heartbeat := .finding (z.other host) (counter + 1), results := s.results ++ [ok] }

/-- The other host is checked in the second loop. -/
def checkMonitoring (z : Zones α) (s : Redundant α n) (host : α) (ok : Bool) : Redundant α n :=
  if ok then
    { s with
      host := some host
      heartbeat := .monitoring (z.other host)
      results := s.results ++ [ok]
      answered := some host }
  else { s with results := s.results ++ [ok] }

/-- One step. -/
def step (z : Zones α) (s : Redundant α n) : RedundancyEvent n → Option (Redundant α n)
  | .exit => some { s with haveToExit := true }
  | .check ok =>
    match s.heartbeat with
    | .exited => none
    | .finding host counter =>
      some (if s.haveToExit then { s with heartbeat := .exited } else s.checkFinding z host counter ok)
    | .monitoring host =>
      some (if s.haveToExit then { s with heartbeat := .exited } else s.checkMonitoring z host ok)
  | .broken => if s.heartbeat = .exited then none else some { s with heartbeat := .exited }
  | .create =>
    if s.haveToExit = false ∧ s.starting = true then some { s with created := true } else none
  | .connect i =>
    if s.created then
      some { s with
        servers := Function.update s.servers i s.host
        attempts := s.attempts ++ [(s.host, s.answered)] }
    else none

/-- The proxy when the heartbeat thread is created. -/
def start (z : Zones α) : Redundant α n where
  host := none
  starting := false
  heartbeat := .finding z.secondary 0
  results := []
  answered := none
  haveToExit := false
  created := false
  servers _ := none
  attempts := []

end Redundant

/-! ## The active host -/

/-- The host that is checked the `k`-th time, as long as none has answered. -/
def Zones.zone {α : Type*} (z : Zones α) (k : ℕ) : α := if k % 2 = 0 then z.primary else z.secondary

/-- The hosts are checked in turns. -/
lemma Zones.other_zone {α : Type*} [DecidableEq α] (z : Zones α) (k : ℕ) :
    z.other (z.zone k) = z.zone (k + 1) := by
  unfold Zones.other Zones.zone
  rcases Nat.mod_two_eq_zero_or_one k with hk | hk
  · have hk' : (k + 1) % 2 ≠ 0 := by omega
    rw [if_pos hk, if_pos rfl, if_neg hk']
  · have hk' : (k + 1) % 2 = 0 := by omega
    have hne : k % 2 ≠ 0 := by omega
    rw [if_neg hne, if_pos hk']
    split_ifs with hsame
    · exact hsame
    · rfl

/-- The first check is of the primary host. -/
lemma Zones.other_secondary {α : Type*} [DecidableEq α] (z : Zones α) :
    z.other z.secondary = z.zone 0 := by
  unfold Zones.other
  split_ifs with hsame
  · exact hsame
  · rfl

/-- There are two hosts. -/
lemma Zones.other_eq {α : Type*} [DecidableEq α] (z : Zones α) (host : α) :
    z.other host = z.primary ∨ z.other host = z.secondary := by
  unfold Zones.other
  split_ifs
  · exact Or.inr rfl
  · exact Or.inl rfl

/-- The number of the check that finds the active host. -/
def foundAt (results : List Bool) : Option ℕ :=
  (results.take maxActiveNodeFindRetries).findIdx? id

/-- The active host after some checks: the one that was found, and after that the other one for each check
that was answered. -/
def Zones.active {α : Type*} (z : Zones α) (results : List Bool) : Option α :=
  (foundAt results).map fun k => z.zone (k + (results.drop (k + 1)).count true)

variable {results : List Bool} {k : ℕ}

/-- The host that was found was found by one of the checks. -/
lemma lt_of_foundAt (h : foundAt results = some k) : k < results.length := by
  obtain ⟨hlt, -, -⟩ := List.findIdx?_eq_some_iff_getElem.mp h
  rw [List.length_take] at hlt
  omega

/-- More checks do not change which one has found a host. -/
lemma foundAt_append (h : foundAt results = some k) (ok : Bool) :
    foundAt (results ++ [ok]) = some k := by
  rw [foundAt, List.take_append, List.findIdx?_append]
  have hold : (results.take maxActiveNodeFindRetries).findIdx? id = some k := h
  rw [hold]
  rfl

/-- The next check finds a host when it is answered. -/
lemma foundAt_append_of_lt (h : foundAt results = none)
    (hlt : results.length < maxActiveNodeFindRetries) (ok : Bool) :
    foundAt (results ++ [ok]) = if ok then some results.length else none := by
  have htake : results.take maxActiveNodeFindRetries = results :=
    List.take_of_length_le (Nat.le_of_lt hlt)
  have hlen : (results ++ [ok]).length ≤ maxActiveNodeFindRetries := by
    rw [List.length_append]
    exact hlt
  rw [foundAt, htake] at h
  rw [foundAt, List.take_of_length_le hlen, List.findIdx?_append, h]
  cases ok <;> simp

/-- After too many checks no more host is found. -/
lemma foundAt_append_of_le (h : foundAt results = none)
    (hle : maxActiveNodeFindRetries ≤ results.length) (ok : Bool) :
    foundAt (results ++ [ok]) = none := by
  rw [foundAt, List.take_append_of_le_length hle]
  exact h

namespace Redundant

variable {α : Type*} [DecidableEq α] {n : ℕ} {z : Zones α} {s s' : Redundant α n}

/-- The host is the active one, and the search for it is not endless: after the eleventh check, whatever its
result, the heartbeat thread has exited. -/
structure HostRight (z : Zones α) (s : Redundant α n) : Prop where
  /-- The host. -/
  host : s.host = z.active s.results
  /-- The checks until one is found. -/
  length_le : s.host = none → s.results.length ≤ maxActiveNodeFindRetries + 1
  /-- The last one. -/
  exited : s.host = none → s.results.length = maxActiveNodeFindRetries + 1 → s.heartbeat = .exited

/-- What the place of the heartbeat thread says about the checks. -/
def At (z : Zones α) (s : Redundant α n) : HeartbeatPc α → Prop
  | .finding host counter =>
    counter = s.results.length ∧ counter ≤ maxActiveNodeFindRetries ∧ foundAt s.results = none ∧
      s.host = none ∧ z.other host = z.zone counter
  | .monitoring host =>
    ∃ k, foundAt s.results = some k ∧
      s.host = some (z.zone (k + (s.results.drop (k + 1)).count true)) ∧
      host = z.zone (k + (s.results.drop (k + 1)).count true + 1)
  | .exited =>
    s.host = z.active s.results ∧
      (s.host = none → s.results.length ≤ maxActiveNodeFindRetries + 1)

/-- The invariant of the heartbeat thread. -/
def Tracks (z : Zones α) (s : Redundant α n) : Prop := s.At z s.heartbeat

omit [DecidableEq α] in
/-- Without a check the active host is not known. -/
lemma active_of_none (h : foundAt results = none) : z.active results = none := by
  rw [Zones.active, h]
  rfl

/-- The thread may exit at any place. -/
lemma Tracks.exit (h : s.Tracks z) : s.At z .exited := by
  unfold Tracks At at h
  split at h
  · obtain ⟨hlen, hle, hnone, hhost, -⟩ := h
    refine ⟨by rw [hhost, active_of_none hnone], fun _ => ?_⟩
    omega
  · obtain ⟨k, hfound, hhost, -⟩ := h
    refine ⟨by rw [hhost, Zones.active, hfound]; rfl, fun hnone => ?_⟩
    rw [hhost] at hnone
    cases hnone
  · exact h

/-- The invariant says what should hold. -/
lemma Tracks.hostRight (h : s.Tracks z) : s.HostRight z where
  host := h.exit.1
  length_le := h.exit.2
  exited hnone hlen := by
    unfold Tracks At at h
    split at h
    · obtain ⟨hcounter, hle, -⟩ := h
      omega
    · obtain ⟨k, -, hhost, -⟩ := h
      rw [hhost] at hnone
      cases hnone
    · assumption

/-- A check in the first loop. -/
lemma Tracks.checkFinding {host : α} {counter : ℕ} (h : s.At z (.finding host counter)) (ok : Bool) :
    (s.checkFinding z host counter ok).Tracks z := by
  obtain ⟨hcounter, hle, hnone, hhost, hnext⟩ := h
  rw [Redundant.checkFinding]
  by_cases hmany : maxActiveNodeFindRetries < counter + 1
  · rw [if_pos hmany]
    have hlen : maxActiveNodeFindRetries ≤ s.results.length := by omega
    refine ⟨?_, fun _ => ?_⟩
    · show s.host = z.active (s.results ++ [ok])
      rw [hhost, active_of_none (foundAt_append_of_le hnone hlen ok)]
    · show (s.results ++ [ok]).length ≤ _
      rw [List.length_append, List.length_singleton]
      omega
  rw [if_neg hmany]
  have hlt : s.results.length < maxActiveNodeFindRetries := by omega
  split_ifs with hok
  · have hfound : foundAt (s.results ++ [ok]) = some counter := by
      rw [foundAt_append_of_lt hnone hlt, if_pos hok, hcounter]
    have hdrop : (s.results ++ [ok]).drop (counter + 1) = [] := by
      rw [List.drop_eq_nil_iff, List.length_append, List.length_singleton]
      omega
    refine ⟨counter, hfound, ?_, ?_⟩
    · show some (z.other host) = _
      rw [hdrop, hnext]
      rfl
    · show z.other (z.other host) = _
      rw [hdrop, hnext, Zones.other_zone]
      rfl
  · refine ⟨?_, by omega, ?_, hhost, ?_⟩
    · show counter + 1 = (s.results ++ [ok]).length
      rw [List.length_append, List.length_singleton, hcounter]
    · show foundAt (s.results ++ [ok]) = none
      rw [foundAt_append_of_lt hnone hlt, if_neg hok]
    · rw [hnext, Zones.other_zone]

/-- A check in the second loop. -/
lemma Tracks.checkMonitoring {host : α} (h : s.At z (.monitoring host))
    (hplace : s.heartbeat = .monitoring host) (ok : Bool) :
    (s.checkMonitoring z host ok).Tracks z := by
  obtain ⟨k, hfound, hhost, rfl⟩ := h
  have hfound' : foundAt (s.results ++ [ok]) = some k := foundAt_append hfound ok
  have hcount : ((s.results ++ [ok]).drop (k + 1)).count true =
      (s.results.drop (k + 1)).count true + if ok then 1 else 0 := by
    rw [List.drop_append_of_le_length (lt_of_foundAt hfound), List.count_append]
    cases ok <;> rfl
  unfold Redundant.checkMonitoring
  split_ifs with hok
  · rw [if_pos hok] at hcount
    refine ⟨k, hfound', ?_, ?_⟩
    · show some _ = _
      rw [hcount]
      rfl
    · show z.other _ = _
      rw [hcount, Zones.other_zone]
      rfl
  · rw [if_neg hok] at hcount
    unfold Tracks
    dsimp only
    rw [hplace]
    refine ⟨k, hfound', ?_, ?_⟩
    · show s.host = _
      rw [hcount]
      exact hhost
    · rw [hcount]
      rfl

/-- The thread exits. -/
lemma Tracks.exited (h : s.Tracks z) : { s with heartbeat := .exited }.Tracks z := h.exit

/-- **Step lemma.**  The host is the active one. -/
lemma Tracks.step {e : RedundancyEvent n} (h : s.Tracks z) (hstep : s.step z e = some s') :
    s'.Tracks z := by
  cases e with
  | exit =>
    cases hstep
    exact h
  | check ok =>
    rw [Redundant.step] at hstep
    unfold Tracks at h
    split at hstep
    · cases hstep
    · rename_i host counter hplace
      cases hstep
      split_ifs
      · exact Tracks.exited h
      · rw [hplace] at h
        exact Tracks.checkFinding h ok
    · rename_i host hplace
      cases hstep
      split_ifs
      · exact Tracks.exited h
      · rw [hplace] at h
        exact Tracks.checkMonitoring h hplace ok
  | broken =>
    rw [Redundant.step] at hstep
    split_ifs at hstep
    cases hstep
    exact h.exited
  | create =>
    rw [Redundant.step] at hstep
    split_ifs at hstep
    cases hstep
    exact h
  | connect i =>
    rw [Redundant.step] at hstep
    split_ifs at hstep
    cases hstep
    exact h

/-- In the beginning the secondary host counts as checked. -/
lemma tracks_start (z : Zones α) : (start z : Redundant α n).Tracks z :=
  ⟨rfl, Nat.zero_le _, rfl, rfl, z.other_secondary⟩

/-- **Which host is active.**  Throughout a run the host is the one that the results of the checks say: the
first of ten checks in turns that is answered finds it, and from then on every check that is answered changes
it to the other one.  Without an answer to the first ten checks there is an eleventh, and its result does not
matter. -/
theorem host_throughout (z : Zones α) (es : List (RedundancyEvent n)) :
    Throughout (step z) (HostRight z) (start z) es :=
  throughout_of_along (I := Tracks z) (C := fun _ _ => True) (fun _ _ _ h _ hstep => h.step hstep)
    (fun _ h => h.hostRight) (tracks_start z) (along_of_forall fun _ _ _ => trivial)

/-! ## Connections -/

/-- Every attempt to connect was to a host of one of the zones, and to the one that had answered last. -/
def AttemptsRight (z : Zones α) (s : Redundant α n) : Prop :=
  ∀ a ∈ s.attempts, ∃ host, a = (some host, some host) ∧ (host = z.primary ∨ host = z.secondary)

/-- The invariant of the connections. -/
structure Connects (z : Zones α) (s : Redundant α n) : Prop where
  /-- The attempts. -/
  attempts : s.AttemptsRight z
  /-- There are server threads only when a host was found. -/
  created : s.created = true → s.starting = true
  /-- Then it is the one that has answered. -/
  starting : s.starting = true → ∃ host, s.host = some host ∧ s.answered = some host ∧
    (host = z.primary ∨ host = z.secondary)
  /-- No host is found in the first loop. -/
  finding : ∀ host counter, s.heartbeat = .finding host counter → s.starting = false
  /-- In the second one a host of the zones is checked. -/
  monitoring : ∀ host, s.heartbeat = .monitoring host → host = z.primary ∨ host = z.secondary

omit [DecidableEq α] in
/-- The thread exits. -/
lemma Connects.exited (h : s.Connects z) : { s with heartbeat := .exited }.Connects z where
  attempts := h.attempts
  created := h.created
  starting := h.starting
  finding _ _ hplace := by cases hplace
  monitoring _ hplace := by cases hplace

/-- A check in the first loop. -/
lemma Connects.checkFinding {host : α} {counter : ℕ} (h : s.Connects z)
    (hplace : s.heartbeat = .finding host counter) (ok : Bool) :
    (s.checkFinding z host counter ok).Connects z := by
  have hstarting : s.starting = false := h.finding host counter hplace
  have hcreated : s.created = false := by
    by_contra hcreated
    have htrue := h.created (Bool.not_eq_false _ ▸ hcreated)
    rw [hstarting] at htrue
    cases htrue
  have hstays : ∀ t : Redundant α n, t.attempts = s.attempts → t.created = s.created →
      t.starting = s.starting → (∀ host, t.heartbeat ≠ .monitoring host) → t.Connects z := by
    intro t hattempts hc hs hm
    refine ⟨?_, fun h => ?_, fun h => ?_, fun _ _ _ => hs.trans hstarting,
      fun host hp => absurd hp (hm host)⟩
    · rw [AttemptsRight, hattempts]
      exact h.attempts
    · rw [hc, hcreated] at h
      cases h
    · rw [hs, hstarting] at h
      cases h
  rw [Redundant.checkFinding]
  by_cases hmany : maxActiveNodeFindRetries < counter + 1
  · rw [if_pos hmany]
    exact hstays _ rfl rfl rfl fun _ hp => by cases hp
  rw [if_neg hmany]
  split_ifs
  · refine ⟨h.attempts, fun _ => rfl, fun _ => ⟨z.other host, rfl, rfl, z.other_eq host⟩,
      fun _ _ hp => (by cases hp), fun _ hp => ?_⟩
    cases hp
    exact z.other_eq _
  · exact hstays _ rfl rfl rfl fun _ hp => by cases hp

/-- A check in the second loop. -/
lemma Connects.checkMonitoring {host : α} (h : s.Connects z)
    (hplace : s.heartbeat = .monitoring host) (ok : Bool) :
    (s.checkMonitoring z host ok).Connects z := by
  have hzone : host = z.primary ∨ host = z.secondary := h.monitoring host hplace
  unfold Redundant.checkMonitoring
  split_ifs
  · refine ⟨h.attempts, h.created, fun _ => ⟨host, rfl, rfl, hzone⟩, fun _ _ hp => (by cases hp),
      fun _ hp => ?_⟩
    cases hp
    exact z.other_eq _
  · exact ⟨h.attempts, h.created, h.starting, h.finding, h.monitoring⟩

/-- **Step lemma.**  Server threads connect to the host that has answered. -/
lemma Connects.step {e : RedundancyEvent n} (h : s.Connects z) (hstep : s.step z e = some s') :
    s'.Connects z := by
  cases e with
  | exit =>
    cases hstep
    exact ⟨h.attempts, h.created, h.starting, h.finding, h.monitoring⟩
  | check ok =>
    rw [Redundant.step] at hstep
    split at hstep
    · cases hstep
    · rename_i host counter hplace
      cases hstep
      split_ifs
      · exact h.exited
      · exact h.checkFinding hplace ok
    · rename_i host hplace
      cases hstep
      split_ifs
      · exact h.exited
      · exact h.checkMonitoring hplace ok
  | broken =>
    rw [Redundant.step] at hstep
    split_ifs at hstep
    cases hstep
    exact h.exited
  | create =>
    rw [Redundant.step] at hstep
    split_ifs at hstep with hfound
    cases hstep
    exact ⟨h.attempts, fun _ => hfound.2, h.starting, h.finding, h.monitoring⟩
  | connect i =>
    rw [Redundant.step] at hstep
    split_ifs at hstep with hcreated
    cases hstep
    obtain ⟨host, hhost, hanswered, hzone⟩ := h.starting (h.created hcreated)
    refine ⟨fun a ha => ?_, h.created, h.starting, h.finding, h.monitoring⟩
    rcases List.mem_append.mp ha with ha | ha
    · exact h.attempts a ha
    · rw [List.mem_singleton, hhost, hanswered] at ha
      exact ⟨host, ha, hzone⟩

omit [DecidableEq α] in
/-- There are no connections in the beginning. -/
lemma connects_start (z : Zones α) : (start z : Redundant α n).Connects z where
  attempts _ ha := by cases ha
  created hc := by cases hc
  starting hs := by cases hs
  finding _ _ _ := rfl
  monitoring _ hp := by cases hp

/-- The eleventh check is answered, and the proxy is told to stop nevertheless. -/
example : (exec (step ⟨false, true⟩) (start ⟨false, true⟩ : Redundant Bool 1)
    (List.replicate 10 (.check false) ++ [.check true])).map (fun s => (s.host, s.heartbeat)) =
      some (none, .exited) := by
  decide

end Redundant

end DiaProxy
