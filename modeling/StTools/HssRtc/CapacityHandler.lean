import StTools.HssRtc.BatStatistics
import StTools.Lib.EarlyExit
import StTools.Lib.PyNumber
import Mathlib.Data.Rat.Floor
import Mathlib.Algebra.Order.Field.Rat

/-!
# The capacity handler

The capacity handler searches for the traffic that a node can take.  It raises the targets of the
BAT instances period by period until a limit is reached, lowers them again until a period meets the
criteria, and creates traffic references from the targets that it has found.

It keeps three histories: the number of steps, the load of every period, and the targets of every
BAT instance.  The first grows when a period starts, the second when it ends, and the third when a
target is set.
-/

namespace HssRtc

/-! ## The configuration -/

/-- A slot of traffic; the factor is `none` if `float` does not take it. -/
structure TrafficSlot where
  factor : Option binary64.Value
  time : ℚ

/-- A target of a BAT instance and how long it is kept. -/
structure CpsSlot where
  value : PyNumber
  time : ℚ
  deriving DecidableEq

/-- A traffic reference that is created in the end. -/
structure TrafficReference where
  id : String
  slots : List TrafficSlot
  targetLoadFactor : PyNumber

/-- The configuration of the capacity handler. -/
structure CapacityConfig (B : Type*) where
  /-- The BAT instances of the execution. -/
  instances : List B
  instances_nodup : instances.Nodup
  /-- The BAT instances with a scheduler. -/
  bats : List B
  initial : B → PyNumber
  deltaUp : B → PyNumber
  deltaDown : B → PyNumber
  /-- The slots of the first and the last phase. -/
  slots : TrafficPhase → B → Option (List CpsSlot)
  period : ℚ
  maxLoad : ℚ
  maxErrorRate : ℚ
  maxLoadVariance : ℚ
  /-- The type is `DC`. -/
  dc : Bool
  trafficSlots : List TrafficSlot
  trafficRef : List TrafficReference
  updateLoadMonitor : Bool
  validationTime : ℚ

universe u

variable {B : Type u}

/-- `load_validation_enabled`. -/
def CapacityConfig.loadValidationEnabled (c : CapacityConfig B) : Bool := c.maxLoad ≠ -1

/-! ## The state -/

/-- The states of the search. -/
inductive FsmStatus
  | initial
  | search
  | searchDown
  | validate
  | finished
  deriving DecidableEq

/-- The errors with which the search ends. -/
inductive CapacityError (B : Type*)
  /-- "Unable to initialize the Capacity handler: problem setting cps". -/
  | initialCps
  /-- "Unable to initialize the Capacity handler", with the unknown name. -/
  | initialKey (bat : B)
  /-- "Unable to validate DC: tps error rate is higher". -/
  | dcErrorRate
  /-- "Unable to validate DC: load is not stable". -/
  | dcLoad
  /-- "Unable to find the Capacity. The first step does not match quality criteria". -/
  | firstStep
  /-- "Unable to find the Capacity", with the BAT instance that "could be paused". -/
  | paused (bat : B)
  /-- "Unable to find the Capacity: problem setting cps". -/
  | cps
  /-- "Unable to find the Capacity", with the unknown name. -/
  | key (bat : B)
  /-- "Unable to find the DC: problem setting cps". -/
  | dcCps
  /-- "Unable to find the DC", with the unknown name. -/
  | dcKey (bat : B)
  /-- "Unable to find the Capacity: next CPS value is lower than the latest good value during rump
  up". -/
  | lowerThanGood
  /-- "Unable to find the Capacity: Wrong FSM state". -/
  | wrongState

/-- A traffic reference that was created. -/
structure CreatedReference (B : Type*) where
  id : String
  loadgen : List (B × List CpsSlot)
  targetLoads : List CpsSlot
  referenceValue : ℤ

/-- Ghost: what was known when references were created. -/
structure Found (B : Type*) where
  /-- The last entries of `used_target`. -/
  used : B → Option PyNumber
  /-- The targets during the period. -/
  applied : B → Option PyNumber
  /-- The last targets that met the criteria while they went up. -/
  lastGood : B → Option PyNumber
  /-- The first targets that failed while they went up. -/
  firstBad : B → Option PyNumber
  tpsErrorRate : ℚ
  stable : Bool
  load : ℤ

/-- The capacity handler. -/
structure CapacityHandler (B : Type*) where
  phase : TrafficPhase
  /-- `none` for the zero of the source; the clock never shows it. -/
  lastTime : Option ℚ
  period : ℚ
  pendingToStart : Option ℤ
  fsmStatus : FsmStatus
  nofSteps : ℕ
  periodLoad : List ℤ
  loadSamples : List ℤ
  rumpUp : Bool
  ecCandidate : ℤ
  ecLoad : Option ℤ
  /-- A PL is locked. -/
  lockedPL : Bool
  usedTarget : B → List PyNumber
  target : B → PyNumber
  lastCurrent : B → ℤ
  /-- When a slot was started; `none` for zero. -/
  lastSet : B → Option ℚ
  slots : TrafficPhase → B → Option (List CpsSlot)
  stopPhase : Bool
  errors : List (CapacityError B)
  created : List (CreatedReference B)
  /-- The last scheduling info. -/
  info : Option (List (ℤ × List PyNumber))
  /-- Ghost: the targets that the BAT instances have. -/
  applied : B → Option PyNumber
  /-- Ghost: the last targets that met the criteria while they went up. -/
  lastGood : B → Option PyNumber
  /-- Ghost: the first targets that failed while they went up. -/
  firstBad : B → Option PyNumber
  /-- Ghost: when references were created. -/
  found : List (Found B)
  /-- Ghost: a history was read out of range. -/
  outOfRange : Bool

/-- What a call reads from the clock and the other components. -/
structure Readings (B : Type*) where
  now : ℚ
  /-- The time after the targets were set. -/
  later : ℚ
  errorRate : ℚ
  tpsErrorRate : ℚ
  load : ℤ
  /-- A locked PL can be unlocked. -/
  unlocks : Bool
  /-- A BAT instance takes a new target. -/
  accepts : B → Bool
  /-- The time when a BAT instance is looked at. -/
  clock : B → ℚ

/-- How a method is left early. -/
inductive CapacityExit
  | returned
  | indexError
  | runError
  deriving DecidableEq

/-- Methods that may be left early. -/
abbrev Method (B : Type u) : Type u → Type u := Except (CapacityExit × CapacityHandler B)

namespace CapacityHandler

/-- The handler after its constructor. -/
def init (c : CapacityConfig B) : CapacityHandler B where
  phase := .preexec
  lastTime := none
  period := c.period
  pendingToStart := none
  fsmStatus := .initial
  nofSteps := 0
  periodLoad := []
  loadSamples := []
  rumpUp := true
  ecCandidate := -1
  ecLoad := none
  lockedPL := false
  usedTarget _ := []
  target _ := 0
  lastCurrent _ := 0
  lastSet _ := none
  slots phase := if phase = .loadgen then fun _ => none else c.slots phase
  stopPhase := false
  errors := []
  created := []
  info := none
  applied _ := none
  lastGood _ := none
  firstBad _ := none
  found := []
  outOfRange := false

/-- The search ends with an error. -/
def giveUp (s : CapacityHandler B) (e : CapacityError B) : Method B (CapacityHandler B) :=
  .error (.returned, { s with
    fsmStatus := .finished, stopPhase := true, errors := s.errors ++ [e] })

/-- A history is read out of range. -/
def indexError (s : CapacityHandler B) : Method B (CapacityHandler B) :=
  .error (.indexError, { s with outOfRange := true })

/-- Something else goes wrong. -/
def runError (s : CapacityHandler B) : Method B (CapacityHandler B) := .error (.runError, s)

/-! ## The load -/

/-- `load_media`. -/
def loadMedia (samples : List ℤ) : ℤ := if samples = [] then 0 else samples.sum / samples.length

/-- `purge_load_samples`. -/
def purgeLoadSamples (rumpUp : Bool) (samples : List ℤ) (media : ℤ) : List ℤ :=
  let reached (load : ℤ) : Bool := if rumpUp then media ≤ load else load ≤ media
  if samples.any reached then samples.dropWhile fun load => !reached load else samples

/-- The variance of the samples. -/
def variance (samples : List ℤ) : ℚ :=
  let mean : ℚ := samples.sum / samples.length
  (samples.map fun load : ℤ => ((load : ℚ) - mean) ^ 2).sum / samples.length

/-- `load_stable`. -/
def loadStable (c : CapacityConfig B) (s : CapacityHandler B) : Bool × CapacityHandler B :=
  let media := loadMedia s.loadSamples
  if media ≠ 0 then
    let samples :=
      if s.fsmStatus ≠ .validate then purgeLoadSamples s.rumpUp s.loadSamples media
      else s.loadSamples
    let media := if s.fsmStatus ≠ .validate then loadMedia samples else media
    (variance samples ≤ c.maxLoadVariance,
      { s with loadSamples := samples, periodLoad := s.periodLoad ++ [media] })
  else (false, { s with periodLoad := s.periodLoad ++ [-1] })

/-! ## Reports and traffic references -/

/-- What `scheduling_info` lists; `none` if it reads a history out of range. -/
def schedulingInfo (c : CapacityConfig B) (s : CapacityHandler B) : Option (List (ℤ × List PyNumber)) :=
  (List.range s.nofSteps).mapM fun count => do
    let load ← if c.loadValidationEnabled then s.periodLoad[count]? else some (-1)
    let targets ← c.bats.mapM fun bat => (s.usedTarget bat)[count]?
    return (load, targets)

/-- `scheduling_info`. -/
def logInfo (c : CapacityConfig B) (s : CapacityHandler B) : Method B (CapacityHandler B) :=
  match s.schedulingInfo c with
  | none => s.indexError
  | some info => .ok { s with info := some info }

/-- `unlock_PL`. -/
def unlockPL (s : CapacityHandler B) (unlocks : Bool) : CapacityHandler B :=
  { s with lockedPL := s.lockedPL && !unlocks }

/-- `shutdown`. -/
def shutdown (c : CapacityConfig B) (s : CapacityHandler B) (unlocks : Bool) :
    Method B (CapacityHandler B) :=
  (s.unlockPL unlocks).logInfo c

/-- `int`. -/
def toInt (x : PyNumber) : ℤ := if 0 ≤ x.value then ⌊x.value⌋ else ⌈x.value⌉

/-- The values of slots; `none` if a factor is not valid. -/
def slotValues (slots : List TrafficSlot) (value : binary64.Value → PyNumber) :
    Option (List CpsSlot) :=
  slots.mapM fun slot => slot.factor.map fun factor => ⟨value factor, slot.time⟩

/-- The targets of the BAT instances for a traffic reference. -/
def referenceLoadgen (s : CapacityHandler B) (ref : TrafficReference) :
    List B → Method B (List (B × List CpsSlot))
  | [] => .ok []
  | bat :: bats =>
    match (s.usedTarget bat).getLast? with
    | none => .error (.indexError, { s with outOfRange := true })
    | some target =>
      match slotValues ref.slots fun factor => .int (toInt (.float factor * target)) with
      | none => .error (.runError, s)
      | some loadgen => (referenceLoadgen s ref bats).map ((bat, loadgen) :: ·)

/-- One traffic reference is created. -/
def createOne (c : CapacityConfig B) (s : CapacityHandler B) (ref : TrafficReference) :
    Method B (CapacityHandler B) :=
  (s.referenceLoadgen ref c.bats) >>= fun loadgen =>
    let load : PyNumber := .int (s.ecLoad.getD 0)
    let targetLoads :=
      if c.loadValidationEnabled then slotValues ref.slots fun factor => .float factor * load
      else some []
    match targetLoads with
    | none => s.runError
    | some targetLoads =>
      let value := if c.loadValidationEnabled then toInt (load * ref.targetLoadFactor) else -1
      .ok { s with created := s.created ++ [⟨ref.id, loadgen, targetLoads, value⟩] }

/-- `create_reference`. -/
def createReference (c : CapacityConfig B) (s : CapacityHandler B) :
    Method B (CapacityHandler B) :=
  c.trafficRef.foldlM (createOne c) s

/-- Ghost: what is known when references are created. -/
def noteFound (s : CapacityHandler B) (r : Readings B) (stable : Bool) (load : ℤ) :
    CapacityHandler B :=
  { s with
    found := s.found ++ [{
      used bat := (s.usedTarget bat).getLast?
      applied := s.applied
      lastGood := s.lastGood
      firstBad := s.firstBad
      tpsErrorRate := r.tpsErrorRate
      stable := stable
      load := load }] }

section

variable [DecidableEq B]

/-- One slot of the traffic that follows. -/
def buildSlot (bat : B) (s : CapacityHandler B) (slot : TrafficSlot) :
    Method B (CapacityHandler B) :=
  match slot.factor with
  | none => s.runError
  | some factor =>
    match (s.usedTarget bat).getLast? with
    | none => s.indexError
    | some target => .ok { s with
        slots := Function.update s.slots .loadgen (Function.update (s.slots .loadgen) bat
          (some ((s.slots .loadgen bat).getD [] ++
            [⟨.int (toInt (.float factor * target)), slot.time⟩])))
        lastSet := Function.update s.lastSet bat none
        target := Function.update s.target bat 0 }

/-- The traffic of one BAT instance. -/
def buildOne (c : CapacityConfig B) (s : CapacityHandler B) (bat : B) :
    Method B (CapacityHandler B) :=
  let s := { s with
    slots := Function.update s.slots .loadgen
      (Function.update (s.slots .loadgen) bat (some [])) }
  if 1 < (s.usedTarget bat).length then c.trafficSlots.foldlM (buildSlot bat) s else .ok s

/-- `build_cps_table`. -/
def buildCpsTable (c : CapacityConfig B) (s : CapacityHandler B) : Method B (CapacityHandler B) :=
  c.bats.foldlM (buildOne c) s

/-- `reconfigure_load_monitor`, as far as it can go wrong. -/
def reconfigureLoadMonitor (c : CapacityConfig B) (s : CapacityHandler B) :
    Method B (CapacityHandler B) :=
  if s.ecLoad.isSome && c.updateLoadMonitor && c.trafficSlots.any (·.factor.isNone) then s.runError
  else .ok s

/-- The capacity is found. -/
def finish (c : CapacityConfig B) (s : CapacityHandler B) : Method B (CapacityHandler B) :=
  s.createReference c >>= fun s => s.buildCpsTable c >>= fun s =>
    { s with fsmStatus := .finished }.logInfo c >>= fun s =>
      if c.trafficSlots = [] then .ok { s with stopPhase := true }
      else if c.loadValidationEnabled then s.reconfigureLoadMonitor c
      else .ok s

/-! ## Targets -/

/-- `set_target_cps` has set a target, and it is kept. -/
def setTarget (s : CapacityHandler B) (bat : B) (value : PyNumber) : CapacityHandler B :=
  { s with
    target := Function.update s.target bat value
    usedTarget := Function.update s.usedTarget bat (s.usedTarget bat ++ [value])
    applied := Function.update s.applied bat (some value) }

/-- A target is set in the search. -/
def trySet (s : CapacityHandler B) (r : Readings B) (bat : B) (value : PyNumber) :
    Method B (CapacityHandler B) :=
  if r.accepts bat then .ok { s.setTarget bat value with loadSamples := [] } else s.giveUp .cps

/-- The first target of a BAT instance. -/
def setInitial (c : CapacityConfig B) (r : Readings B) (s : CapacityHandler B) (bat : B) :
    Method B (CapacityHandler B) :=
  if bat ∈ c.bats then
    if r.accepts bat then
      .ok { s.setTarget bat (c.initial bat) with loadSamples := [], fsmStatus := .search }
    else s.giveUp .initialCps
  else s.giveUp (.initialKey bat)

/-- `refresh` in the beginning. -/
def startSearch (c : CapacityConfig B) (s : CapacityHandler B) (bats : List B) (r : Readings B) :
    Method B (CapacityHandler B) :=
  bats.foldlM (setInitial c r) { s with lastTime := some r.now, nofSteps := s.nofSteps + 1 }

/-- The next target on the way up. -/
def stepUp (c : CapacityConfig B) (r : Readings B) (s : CapacityHandler B) (bat : B) :
    Method B (CapacityHandler B) :=
  if bat ∈ c.bats then
    if 100 < |(s.target bat).value| ∧
        (.literal (1 / 4) * s.target bat).value < |(s.target bat - .int (s.lastCurrent bat)).value|
    then
      s.giveUp (.paused bat)
    else s.trySet r bat (s.target bat + c.deltaUp bat)
  else s.giveUp (.key bat)

/-- The first target on the way down. -/
def firstStepDown (c : CapacityConfig B) (r : Readings B) (s : CapacityHandler B) (bat : B) :
    Method B (CapacityHandler B) :=
  if bat ∈ c.bats then
    let s := { s with ecCandidate := ((s.usedTarget bat).length : ℤ) - 2 }
    if s.ecCandidate < 0 then s.giveUp .firstStep
    else match (s.usedTarget bat).getLast? with
      | none => s.indexError
      | some last => s.trySet r bat (last - c.deltaDown bat)
  else s.giveUp (.key bat)

/-- An index that may be negative. -/
def pyIndex {α : Type*} (l : List α) (i : ℤ) : Option α :=
  if 0 ≤ i then l[i.toNat]? else if -i ≤ l.length then l[(l.length + i).toNat]? else none

/-- The next target on the way down. -/
def stepDown (c : CapacityConfig B) (r : Readings B) (s : CapacityHandler B) (bat : B) :
    Method B (CapacityHandler B) :=
  if bat ∈ c.bats then
    match (s.usedTarget bat).getLast?, pyIndex (s.usedTarget bat) s.ecCandidate with
    | some last, some good =>
      if last - c.deltaDown bat < good then s.giveUp .lowerThanGood
      else s.trySet r bat (last - c.deltaDown bat)
    | _, _ => s.indexError
  else s.giveUp (.key bat)

/-- The target for the validation of the DC. -/
def setDC (c : CapacityConfig B) (r : Readings B) (s : CapacityHandler B) (bat : B) :
    Method B (CapacityHandler B) :=
  if bat ∈ c.bats then
    match (s.usedTarget bat).getLast? with
    | none => s.indexError
    | some last =>
      if r.accepts bat then
        let s := s.setTarget bat (.literal (4 / 5) * last)
        .ok { s with ecCandidate := ((s.usedTarget bat).length : ℤ) - 1 }
      else s.giveUp .dcCps
  else s.giveUp (.dcKey bat)

/-! ## The end of a period -/

/-- The search goes on with a new period. -/
def startPeriod (s : CapacityHandler B) (r : Readings B) : CapacityHandler B :=
  { s with nofSteps := s.nofSteps + 1, lastTime := some r.later }

/-- A period on the way up has reached a limit. -/
def ReachedLimit (c : CapacityConfig B) (r : Readings B) (stable : Bool) (load : ℤ) : Prop :=
  c.maxErrorRate < r.errorRate ∨ c.loadValidationEnabled ∧ c.maxLoad ≤ load ∨
    c.loadValidationEnabled ∧ stable = false

instance (c : CapacityConfig B) (r : Readings B) (stable : Bool) (load : ℤ) :
    Decidable (ReachedLimit c r stable load) := by
  unfold ReachedLimit
  infer_instance

/-- Ghost: a period on the way up has met the criteria, or it has failed. -/
def noteTargets (s : CapacityHandler B) (good : Bool) : CapacityHandler B :=
  { s with
    lastGood := if good then s.applied else s.lastGood
    firstBad := if good then s.firstBad else fun bat => (s.firstBad bat).or (s.applied bat) }

/-- The end of a period in the state `search`. -/
def search (c : CapacityConfig B) (s : CapacityHandler B) (bats : List B) (r : Readings B)
    (stable : Bool) (load : ℤ) : Method B (CapacityHandler B) :=
  if ReachedLimit c r stable load then
    bats.foldlM (firstStepDown c r)
      { s.noteTargets false with fsmStatus := .searchDown, rumpUp := false } >>= fun s =>
        .ok (s.startPeriod r)
  else bats.foldlM (stepUp c r) (s.noteTargets true) >>= fun s => .ok (s.startPeriod r)

/-- A period on the way down meets the criteria. -/
def MeetsCriteria (c : CapacityConfig B) (r : Readings B) (stable : Bool) (load : ℤ) : Prop :=
  r.tpsErrorRate ≤ c.maxErrorRate ∧ (c.loadValidationEnabled → stable ∧ load ≤ c.maxLoad)

instance (c : CapacityConfig B) (r : Readings B) (stable : Bool) (load : ℤ) :
    Decidable (MeetsCriteria c r stable load) := by
  unfold MeetsCriteria
  infer_instance

/-- The validation of the DC starts. -/
def startValidation (c : CapacityConfig B) (s : CapacityHandler B) (bats : List B)
    (r : Readings B) : Method B (CapacityHandler B) :=
  bats.foldlM (setDC c r) (s.unlockPL r.unlocks) >>= fun s =>
    .ok { s.startPeriod r with
      loadSamples := [], fsmStatus := .validate, period := c.validationTime }

/-- The end of a period in the state `search_down`. -/
def searchDown (c : CapacityConfig B) (s : CapacityHandler B) (bats : List B) (r : Readings B)
    (stable : Bool) (load : ℤ) : Method B (CapacityHandler B) :=
  let s := { s with
    ecLoad := some (if c.loadValidationEnabled ∧ stable ∧ load ≤ c.maxLoad then load else -1) }
  if MeetsCriteria c r stable load then
    if c.dc then s.startValidation c bats r
    else (s.noteFound r stable load).finish c
  else bats.foldlM (stepDown c r) s >>= fun s => .ok (s.startPeriod r)

/-- The end of the validation. -/
def validate (c : CapacityConfig B) (s : CapacityHandler B) (r : Readings B) (stable : Bool)
    (load : ℤ) : Method B (CapacityHandler B) :=
  if c.maxErrorRate < r.tpsErrorRate then s.giveUp .dcErrorRate
  else if stable = false then s.giveUp .dcLoad
  else
    let s := { s with ecLoad := some (if c.loadValidationEnabled then load else -1) }
    (s.noteFound r stable load).finish c

/-- The load of a period is measured, if it is validated. -/
def measure (c : CapacityConfig B) (s : CapacityHandler B) : Bool × CapacityHandler B :=
  if c.loadValidationEnabled then s.loadStable c else (true, s)

/-- The end of a period. -/
def endPeriod (c : CapacityConfig B) (s : CapacityHandler B) (bats : List B) (r : Readings B) :
    Method B (CapacityHandler B) :=
  let (stable, s) := s.measure c
  -- the load is logged, also when there is none
  match s.periodLoad.getLast? with
  | none => s.indexError
  | some load =>
    match s.fsmStatus with
    | .validate => s.validate c r stable load
    | .search => s.search c bats r stable load
    | .searchDown => s.searchDown c bats r stable load
    | .initial | .finished => s.giveUp .wrongState

/-! ## Outside the search -/

/-- A slot is started. -/
def startSlot (c : CapacityConfig B) (r : Readings B) (s : CapacityHandler B) (bat : B)
    (slot : CpsSlot) : Method B (CapacityHandler B) :=
  if r.accepts bat then
    .ok { s with
      lastSet := Function.update s.lastSet bat (some (r.clock bat))
      target := Function.update s.target bat slot.value
      applied := Function.update s.applied bat (some slot.value) }
  else s.shutdown c r.unlocks >>= fun s => s.runError

/-- The slots of one BAT instance; the `Bool` says that no slot is pending. -/
def refreshSlots (c : CapacityConfig B) (r : Readings B) (s : CapacityHandler B × Bool) (bat : B) :
    Method B (CapacityHandler B × Bool) :=
  match if bat ∈ c.bats then s.1.slots s.1.phase bat else none with
  | none => .error (.returned, s.1)
  | some [] => .ok s
  | some (slot :: slots) =>
    match s.1.lastSet bat with
    | none => (s.1.startSlot c r bat slot).map (·, false)
    | some last =>
      if slot.time = -1 then .ok (s.1, false)
      else if slot.time < r.clock bat - last then
        let s' := { s.1 with
          slots := Function.update s.1.slots s.1.phase
            (Function.update (s.1.slots s.1.phase) bat (some slots)) }
        match slots with
        | [] => .ok (s', s.2)
        | slot :: _ => (s'.startSlot c r bat slot).map (·, false)
      else .ok (s.1, false)

/-- `refresh` of the base class. -/
def baseRefresh (c : CapacityConfig B) (s : CapacityHandler B) (bats : List B) (r : Readings B) :
    Method B (CapacityHandler B) :=
  bats.foldlM (refreshSlots c r) (s, true) >>= fun s =>
    .ok { s.1 with stopPhase := s.1.stopPhase || s.2 && s.1.phase = .loadgen }

/-! ## The methods -/

/-- The base class is in charge. -/
def OutsideSearch (s : CapacityHandler B) : Prop :=
  s.phase ≠ .loadgen ∨ s.fsmStatus = .finished

instance (s : CapacityHandler B) : Decidable s.OutsideSearch := by
  unfold OutsideSearch
  infer_instance

/-- The measured period is over. -/
def PeriodOver (s : CapacityHandler B) (r : Readings B) : Prop :=
  ∃ last ∈ s.lastTime, s.period < r.now - last

instance (s : CapacityHandler B) (r : Readings B) : Decidable (s.PeriodOver r) := by
  unfold PeriodOver
  infer_instance

/-- `refresh`. -/
def refresh (c : CapacityConfig B) (s : CapacityHandler B) (bats : List B) (r : Readings B) :
    Method B (CapacityHandler B) :=
  if bats = [] then .ok s
  else if s.OutsideSearch then s.baseRefresh c bats r
  else if s.lastTime = none then s.startSearch c bats r
  else if s.PeriodOver r then s.endPeriod c bats r
  else if c.loadValidationEnabled then
    .ok { s with ecLoad := some r.load, loadSamples := s.loadSamples ++ [r.load] }
  else .ok s

/-- A method that has returned goes on where it was called. -/
def caught : Method B (CapacityHandler B) → Method B (CapacityHandler B)
  | .error (.returned, s) => .ok s
  | r => r

/-- `start_phase` in the phase `loadgen`. -/
def startLoadgen (c : CapacityConfig B) (s : CapacityHandler B) (locks : Bool) (r : Readings B) :
    Method B (CapacityHandler B) :=
  if c.dc && !s.lockedPL && !locks then s.runError
  else
    let pending := s.pendingToStart.getD c.instances.length - 1
    let s := { s with lockedPL := s.lockedPL || c.dc, pendingToStart := some pending }
    if pending = 0 then
      caught (s.refresh c c.instances r) >>= fun s => .ok { s with pendingToStart := none }
    else .ok s

/-- `start_phase`. -/
def startPhase (c : CapacityConfig B) (s : CapacityHandler B) (phase : TrafficPhase) (bat : B)
    (locks : Bool) (r : Readings B) : Method B (CapacityHandler B) :=
  let s := { s with phase := phase }
  if phase = .loadgen then s.startLoadgen c locks r
  else if bat ∈ c.bats then
    { s with lastSet := Function.update s.lastSet bat none }.refresh c [bat] r
  else .ok s

/-! ## Runs -/

/-- What happens. -/
inductive Event (B : Type*)
  /-- `start_phase` for one BAT instance; a PL can be locked. -/
  | startPhase (phase : TrafficPhase) (bat : B) (locks : Bool) (r : Readings B)
  /-- `refresh` for some BAT instances. -/
  | refresh (bats : {l : List B // l.Nodup}) (r : Readings B)
  /-- The thread has read the current CPS of a BAT instance. -/
  | readCurrent (bat : B) (value : ℤ)
  | shutdown (unlocks : Bool)

/-- The phases follow each other. -/
def phaseOrder : TrafficPhase → ℕ
  | .preexec => 0
  | .loadgen => 1
  | .postexec => 2

/-- One step.  The execution starts the phases in their order. -/
def step (c : CapacityConfig B) (s : CapacityHandler B) : Event B → Option (CapacityHandler B)
  | .startPhase phase bat locks r =>
    if phaseOrder s.phase ≤ phaseOrder phase then
      some (EarlyExit.final (s.startPhase c phase bat locks r))
    else none
  | .refresh bats r => some (EarlyExit.final (s.refresh c bats.1 r))
  | .readCurrent bat value =>
    some { s with lastCurrent := Function.update s.lastCurrent bat value }
  | .shutdown unlocks => some (EarlyExit.final (s.shutdown c unlocks))

end

end CapacityHandler

end HssRtc
