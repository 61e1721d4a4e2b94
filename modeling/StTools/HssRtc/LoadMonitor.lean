import StTools.Lib.Procedure
import StTools.HssUtils.QLock
import Mathlib.Data.Rat.Defs
import Mathlib.Algebra.Order.Field.Rat

/-!
# The load monitor

The load monitor reads the load of the node from a load plotter and follows a list of *slots*, each
with the load that is expected for some time.  Its thread updates the slot and checks the load after
every reading; other threads give it new slots, and shut it down.  The slots are guarded by a
`QLock`.

The sections between `acquire` and `release` have no handler for exceptions, so an exception leaves
the lock held, though the loop of the thread catches it.  The sections read fields of the slot that
are there only after a slot was set.  Here a section is one step of its thread: what it does when no
other thread is in a section.  `LoadSections` runs the sections statement by statement, and says in which
runs the lock is released all the same.
-/

namespace HssRtc

open HssUtils (QLock)

/-! ## Data -/

/-- What a section may raise. -/
inductive SectionError
  | keyError
  | valueError
  | indexError
  | attributeError
  deriving DecidableEq

/-- A slot: a dictionary from the configuration, with what is added when it is set. -/
structure Slot where
  /-- How long the slot lasts, in seconds; `-1` and `-2` stand for the rest of the phase. -/
  time : Option ℚ := none
  /-- The load that is expected, if it can be read as an integer. -/
  targetLoad : Option ℤ := none
  /-- The variance that is allowed, if it can be read as an integer. -/
  variance : Option ℤ := none
  /-- How long the load may be unstable; the inner option is for a value that is no integer. -/
  transition : Option (Option ℤ) := none
  /-- What is left of its time. -/
  pendingTime : Option ℚ := none
  /-- When it was looked at for the last time. -/
  lastCheck : Option ℚ := none
  /-- There is some other key, or one whose value can not be read. -/
  otherKeys : Bool := false
  deriving DecidableEq

/-- The truth value of a slot: the empty dictionary is false. -/
def Slot.truthy (s : Slot) : Bool :=
  s.time.isSome || s.targetLoad.isSome || s.variance.isSome || s.transition.isSome ||
    s.pendingTime.isSome || s.lastCheck.isSome || s.otherKeys

/-- The states of the registers in `load_db`. -/
inductive LoadState
  | newSlot
  | stable
  | notStable
  deriving DecidableEq

/-- A register of `load_db`, with whether it will be checked. -/
structure LoadRegister where
  state : LoadState
  check : Bool
  deriving DecidableEq

/-- The threads that use the lock: that of the monitor, and others. -/
inductive MonitorThread
  | monitor
  | caller (i : ℕ)
  deriving DecidableEq

/-- Where the thread of the monitor is. -/
inductive MonitorPc
  /-- It was not started yet. -/
  | created
  /-- It is at the top of its loop. -/
  | looping
  /-- It is about to read the load. -/
  | reading
  /-- It has a new load and is about to update the slot. -/
  | updating
  /-- It is about to check the load. -/
  | checking
  /-- It has ended. -/
  | ended
  deriving DecidableEq

/-- The load monitor. -/
structure LoadMonitor where
  running : Bool
  targetLoadReached : Bool
  lastNotStableTime : ℚ
  currentLoad : ℤ
  readingError : ℕ
  enableMonitoring : Bool
  slot : Slot
  slots : List Slot
  loadDb : List LoadRegister
  /-- The last samples; empty before a slot was set. -/
  loadSamples : List ℤ
  /-- The log file is open. -/
  logfile : Bool
  mutex : QLock MonitorThread
  /-- Where its thread is. -/
  pc : MonitorPc
  /-- Another thread is in `shutdown`. -/
  closing : Bool

/-- `max_reading_error`. -/
def maxReadingError : ℕ := 3

/-- The monitor after its creation. -/
def LoadMonitor.init (slots : List Slot) : LoadMonitor where
  running := false
  targetLoadReached := false
  lastNotStableTime := 0
  currentLoad := 0
  readingError := 0
  enableMonitoring := true
  slot := {}
  slots := slots
  loadDb := []
  loadSamples := []
  logfile := true
  mutex := QLock.init
  pc := .created
  closing := false

namespace LoadMonitor

/-- What a section does. -/
abbrev Section := Procedure LoadMonitor SectionError

/-! ## Reading the slot -/

/-- `target_load`; the empty slot expects no load. -/
def targetLoad (s : LoadMonitor) : ℤ := if s.slot.truthy then s.slot.targetLoad.getD 0 else 0

/-- The target load can be read. -/
def TargetReadable (s : LoadMonitor) : Prop := s.slot.truthy → s.slot.targetLoad.isSome

instance : DecidablePred TargetReadable := fun s =>
  inferInstanceAs (Decidable (s.slot.truthy → s.slot.targetLoad.isSome))

/-- Read `target_load`, also on behalf of `min_load` and `max_load`. -/
def readTargetLoad : Section := .require TargetReadable .keyError

/-- `transition`, as a number. -/
def transition (s : LoadMonitor) : ℚ :=
  match s.slot.transition with
  | none => 10
  | some t => t.getD 0

/-- Read `transition`: it must be an integer, if it is there. -/
def readTransition : Section := .require (fun s => s.slot.transition ≠ some none) .valueError

/-- Read `variance`. -/
def readVariance : Section := .require (fun s => s.slot.variance.isSome) .keyError

/-- The load is in the range around the target load. -/
def LoadInRange (s : LoadMonitor) : Prop :=
  s.targetLoad - 5 ≤ s.currentLoad ∧ s.currentLoad ≤ s.targetLoad + 5

instance : DecidablePred LoadInRange := fun _ => inferInstanceAs (Decidable (_ ∧ _))

/-- `np.var` of some samples. -/
def var (samples : List ℤ) : ℚ :=
  let n : ℚ := samples.length
  let mean : ℚ := (samples.map fun x : ℤ => (x : ℚ)).sum / n
  (samples.map fun x : ℤ => ((x : ℚ) - mean) ^ 2).sum / n

/-- The samples vary no more than the slot allows. -/
def LoadStable (s : LoadMonitor) : Prop := var s.loadSamples ≤ (s.slot.variance.getD 0 : ℤ)

instance : DecidablePred LoadStable := fun _ => inferInstanceAs (Decidable (_ ≤ _))

/-- `load_status`; `none` stands for `UNDEFINED`. -/
def loadStatus (s : LoadMonitor) : Option LoadState := s.loadDb.getLast?.map LoadRegister.state

/-! ## Writing -/

/-- `log_event`, called for the `k`-th time in a section.  Another thread may clear the log file
between the test and the write of the call with the number `lost`. -/
def logEvent (lost : Option ℕ) (k : ℕ) : Section :=
  .require (fun s => ¬ (s.logfile ∧ lost = some k)) .attributeError

/-- Add a register. -/
def addRegister (state : LoadState) : Section :=
  .modify fun s => { s with loadDb := s.loadDb ++ [⟨state, s.enableMonitoring⟩] }

/-- Leave the last register out of the checks. -/
def uncheckLast (s : LoadMonitor) : LoadMonitor :=
  { s with loadDb := s.loadDb.dropLast ++ (s.loadDb.getLast?.map fun r =>
      { r with check := false }).toList }

/-- The end of the phase comes soon after the load got unstable. -/
def NotStableLately (now : ℚ) (s : LoadMonitor) : Prop :=
  now - s.lastNotStableTime < s.transition

instance (now : ℚ) : DecidablePred (NotStableLately now) := fun _ =>
  inferInstanceAs (Decidable (_ < _))

/-- `shutdown`. -/
def shutdown (now : ℚ) (lost : Option ℕ) : Section :=
  (Procedure.onlyIf (fun s => s.running) <|
    (logEvent lost 0).andThen <| readTransition.andThen <|
      .onlyIf (NotStableLately now) <| (logEvent lost 1).andThen <|
        (Procedure.require (fun s => s.loadDb ≠ []) .indexError).andThen <| .modify uncheckLast).andThen <|
  (Procedure.modify fun s => { s with enableMonitoring := false, running := false }).andThen <|
  (Procedure.onlyIf (fun s => s.loadDb ≠ []) (logEvent lost 2)).andThen <|
  .modify fun s => { s with logfile := false }

/-- `set_new_slot` with a next slot. -/
def loadSlot (slot : Slot) (slots : List Slot) (now : ℚ) (lost : Option ℕ) : Section :=
  (Procedure.modify fun s => { s with slot := slot, slots := slots }).andThen <|
  readTargetLoad.andThen <|
  (Procedure.modify fun s =>
    { s with loadSamples := List.replicate 15 s.targetLoad, targetLoadReached := false }).andThen <|
  (Procedure.require (fun s => s.slot.time.isSome) .keyError).andThen <|
  (Procedure.modify fun s =>
    { s with slot := { s.slot with pendingTime := s.slot.time, lastCheck := some now } }).andThen <|
  readTargetLoad.andThen <| (logEvent lost 0).andThen <| addRegister .newSlot

/-- `set_new_slot`: without a next slot the monitor is shut down. -/
def setNewSlot (now : ℚ) (lost : Option ℕ) : Section := fun s =>
  match s.slots with
  | [] => shutdown now lost s
  | slot :: slots => loadSlot slot slots now lost s

/-! ## The sections -/

/-- The time that passed since the last look at the slot is taken off. -/
def passTime (now : ℚ) (s : LoadMonitor) : LoadMonitor :=
  { s with slot := { s.slot with
      pendingTime := s.slot.pendingTime.map fun p => p - (now - s.slot.lastCheck.getD 0) } }

/-- The time that is left of the slot. -/
def pendingTime (s : LoadMonitor) : ℚ := s.slot.pendingTime.getD 0

/-- `update_slot`, for a slot that lasts for some time. -/
def followSlot (now : ℚ) (lost : Option ℕ) : Section :=
  (Procedure.require (fun s => s.slot.lastCheck.isSome) .keyError).andThen <|
  .onlyIf (fun s => s.slot.lastCheck ≠ some 0) <|
    (Procedure.require (fun s => s.slot.pendingTime.isSome) .keyError).andThen <|
    (Procedure.modify (passTime now)).andThen <| readTransition.andThen <|
    (Procedure.onlyIf (fun s => s.pendingTime < s.transition)
      (.modify fun s => { s with targetLoadReached := false })).andThen <|
    .onlyIf (fun s => s.pendingTime < 0) (setNewSlot now lost)

/-- `update_slot`, for a slot that lasts to the end of the phase and was not looked at yet. -/
def keepSlot (lost : Option ℕ) : Section :=
  (Procedure.modify fun s => { s with slot := { s.slot with time := some (-2) } }).andThen <|
    readTargetLoad.andThen (logEvent lost 0)

/-- `update_slot`, between `acquire` and `release`. -/
def updateSlot (now : ℚ) (lost : Option ℕ) : Section :=
  (Procedure.branch (fun s => s.slot.truthy)
    ((Procedure.require (fun s => s.slot.time.isSome) .keyError).andThen <|
      .branch (fun s => s.slot.time = some (-1)) (keepSlot lost)
        (.onlyIf (fun s => s.slot.time ≠ some (-2)) (followSlot now lost)))
    (setNewSlot now lost)).andThen <|
  .modify fun s => { s with slot := { s.slot with lastCheck := some now } }

/-- A sample is taken, and the load is that of the samples. -/
def takeSample (s : LoadMonitor) : LoadMonitor :=
  let samples := (s.loadSamples ++ [s.currentLoad]).drop (s.loadSamples.length + 1 - 15)
  { s with loadSamples := samples, currentLoad := samples.sum / samples.length }

/-- The load was found unstable. -/
def noteNotStable (now : ℚ) (lost : Option ℕ) : Section :=
  (Procedure.modify fun s => { s with lastNotStableTime := now }).andThen <|
    readVariance.andThen <| (addRegister .notStable).andThen (logEvent lost 0)

/-- `check_load_stability`, when the target load was reached before. -/
def checkReached (now : ℚ) (lost : Option ℕ) : Section :=
  (Procedure.require (fun s => s.loadSamples ≠ []) .attributeError).andThen <|
  (Procedure.modify takeSample).andThen <| readTargetLoad.andThen <|
  (Procedure.onlyIf LoadInRange readVariance).andThen <|
  .branch (fun s => s.LoadInRange ∧ s.LoadStable)
    (.onlyIf (fun s => s.loadStatus ≠ some .stable)
      ((addRegister .stable).andThen (logEvent lost 0)))
    (.onlyIf (fun s => s.loadStatus ≠ some .notStable) (noteNotStable now lost))

/-- `check_load_stability`, between `acquire` and `release`. -/
def checkLoadStability (now : ℚ) (lost : Option ℕ) : Section :=
  .branch (fun s => s.targetLoadReached) (checkReached now lost)
    (readTargetLoad.andThen <|
      .onlyIf LoadInRange (.modify fun s => { s with targetLoadReached := true }))

/-- `reconfigure`, between `acquire` and `release`. -/
def reconfigure (slots : List Slot) (lost : Option ℕ) : Section :=
  (Procedure.modify fun s => { s with slots := slots, slot := {} }).andThen (logEvent lost 0)

/-- A thread runs a section that no other thread disturbs: it waits for ever when the lock is held, and
keeps the lock when the section raises. -/
def locked (t : MonitorThread) (body : Section) : Section := fun s =>
  if s.mutex.count ≠ 0 then ({ s with mutex := s.mutex.acquire t }, none)
  else
    let r := body { s with mutex := s.mutex.acquire t }
    match r.2 with
    | some e => (r.1, some e)
    | none =>
      match r.1.mutex.release t with
      | .ok mutex => ({ r.1 with mutex := mutex }, none)
      | .error _ => (r.1, some .valueError)

/-! ## Runs -/

/-- What happens. -/
inductive Event
  /-- The thread of the monitor starts, with an update of the slot. -/
  | start (now : ℚ) (lost : Option ℕ)
  /-- It looks whether the monitor is still running. -/
  | loop
  /-- It reads the load: a time-out, or an answer that may be no number. -/
  | read (answer : Option (Option ℤ)) (now : ℚ)
  /-- It updates the slot. -/
  | update (now : ℚ) (lost : Option ℕ)
  /-- It checks the load. -/
  | check (now : ℚ) (lost : Option ℕ)
  /-- Another thread gives it new slots. -/
  | reconfigure (i : ℕ) (slots : List Slot) (lost : Option ℕ)
  /-- Another thread begins to shut it down. -/
  | beginShutdown (now : ℚ)
  /-- That thread closes the log file. -/
  | endShutdown
  /-- Monitoring is enabled or disabled. -/
  | enable (value : Bool)

/-- The loop of the thread counts an error, and shuts the monitor down when there are too many. -/
def countReadingError (now : ℚ) (s : LoadMonitor) : LoadMonitor :=
  if s.readingError + 1 > maxReadingError then
    (shutdown now none { s with readingError := s.readingError + 1 }).1
  else { s with readingError := s.readingError + 1 }

/-- The thread of the monitor runs a section and goes on, or counts the exception. -/
def runSection (body : Section) (next : MonitorPc) (now : ℚ) (s : LoadMonitor) : LoadMonitor :=
  let r := locked .monitor body s
  match r.2 with
  | none => { r.1 with pc := next }
  | some _ => { r.1.countReadingError now with pc := .looping }

/-- What the thread of the monitor does after a reading. -/
def readLoad (answer : Option (Option ℤ)) (now : ℚ) (s : LoadMonitor) : LoadMonitor :=
  match answer with
  | some (some load) => { s with currentLoad := load, pc := .updating }
  | _ => { s.countReadingError now with pc := .looping }

/-- A call of `log_event` fails only while another thread is in `shutdown`. -/
def MayLose (s : LoadMonitor) (lost : Option ℕ) : Prop := lost ≠ none → s.closing

instance (s : LoadMonitor) (lost : Option ℕ) : Decidable (s.MayLose lost) :=
  inferInstanceAs (Decidable (_ → _))

/-- One step.  A thread that waits for the lock makes none. -/
def step (s : LoadMonitor) : Event → Option LoadMonitor
  | .start now lost =>
    if s.pc = .created ∧ MonitorThread.monitor ∉ s.mutex.waiters ∧ s.MayLose lost then
      let r := locked .monitor (updateSlot now lost) { s with running := true }
      -- this call is outside of the handler: an exception ends the thread
      some { r.1 with pc := if r.2 = none then .looping else .ended }
    else none
  | .loop =>
    if s.pc = .looping ∧ MonitorThread.monitor ∉ s.mutex.waiters then
      some { s with pc := if s.running then .reading else .ended }
    else none
  | .read answer now =>
    if s.pc = .reading ∧ MonitorThread.monitor ∉ s.mutex.waiters then
      some (s.readLoad answer now)
    else none
  | .update now lost =>
    if s.pc = .updating ∧ MonitorThread.monitor ∉ s.mutex.waiters ∧ s.MayLose lost then
      some (s.runSection (updateSlot now lost) .checking now)
    else none
  | .check now lost =>
    if s.pc = .checking ∧ MonitorThread.monitor ∉ s.mutex.waiters ∧ s.MayLose lost then
      some (s.runSection (checkLoadStability now lost) .looping now)
    else none
  | .reconfigure i slots lost =>
    if MonitorThread.caller i ∉ s.mutex.waiters ∧ s.MayLose lost then
      some (locked (.caller i) (LoadMonitor.reconfigure slots lost) s).1
    else none
  | .beginShutdown now =>
    let r := shutdown now none s
    some { r.1 with logfile := s.logfile, closing := if r.2 = none then true else s.closing }
  | .endShutdown => if s.closing then some { s with logfile := false, closing := false } else none
  | .enable value => some { s with enableMonitoring := value }

/-! ## When a section completes -/

variable {s : LoadMonitor} {now : ℚ} {lost : Option ℕ}

/-- The log file is not lost in the `k`-th call of `log_event`. -/
def LogKept (s : LoadMonitor) (lost : Option ℕ) (k : ℕ) : Prop := ¬ (s.logfile ∧ lost = some k)

/-- What `shutdown` needs: a transition that can be read, and a register to change if the load got
unstable lately. -/
def ShutdownRuns (s : LoadMonitor) (now : ℚ) (lost : Option ℕ) : Prop :=
  (s.running → s.LogKept lost 0 ∧ s.slot.transition ≠ some none ∧
    (s.NotStableLately now → s.LogKept lost 1 ∧ s.loadDb ≠ [])) ∧
  (s.loadDb ≠ [] → s.LogKept lost 2)

/-- What `set_new_slot` needs: the time and the target load of the next slot, or what `shutdown`
needs when there is none. -/
def NewSlotRuns (s : LoadMonitor) (now : ℚ) (lost : Option ℕ) : Prop :=
  match s.slots with
  | [] => s.ShutdownRuns now lost
  | slot :: _ => slot.time.isSome ∧ slot.targetLoad.isSome ∧ s.LogKept lost 0

/-- What `update_slot` needs of a slot that lasts for some time. -/
def FollowRuns (s : LoadMonitor) (now : ℚ) (lost : Option ℕ) : Prop :=
  s.slot.lastCheck.isSome ∧ (s.slot.lastCheck ≠ some 0 →
    s.slot.pendingTime.isSome ∧ s.slot.transition ≠ some none ∧
      ((s.passTime now).pendingTime < 0 → s.NewSlotRuns now lost))

/-- What `update_slot` needs: the time of the slot, and what the kind of the slot asks for. -/
def UpdateRuns (s : LoadMonitor) (now : ℚ) (lost : Option ℕ) : Prop :=
  (s.slot.truthy → s.slot.time.isSome ∧
    (s.slot.time = some (-1) → s.slot.targetLoad.isSome ∧ s.LogKept lost 0) ∧
    (s.slot.time ≠ some (-1) → s.slot.time ≠ some (-2) → s.FollowRuns now lost)) ∧
  (¬ s.slot.truthy → s.NewSlotRuns now lost)

/-- The check of the load adds a register. -/
def StatusChanges (s : LoadMonitor) : Prop :=
  if s.LoadInRange ∧ s.LoadStable then s.loadStatus ≠ some .stable
  else s.loadStatus ≠ some .notStable

/-- What `check_load_stability` needs: the target load, and when it was reached before also the
variance, unless the load is known to be out of range. -/
def CheckRuns (s : LoadMonitor) (lost : Option ℕ) : Prop :=
  s.TargetReadable ∧ (s.targetLoadReached → s.loadSamples ≠ [] ∧
    (s.takeSample.LoadInRange ∨ s.loadStatus ≠ some .notStable → s.slot.variance.isSome) ∧
    (s.takeSample.StatusChanges → s.LogKept lost 0))

open Procedure

/-- The loss of the log file is all that can go wrong in a call of `log_event`. -/
lemma completes_logEvent {k : ℕ} : Completes (logEvent lost k) s ↔ s.LogKept lost k :=
  completes_require _

/-- A call of `log_event` changes nothing. -/
lemma logEvent_fst {k : ℕ} : (logEvent lost k s).1 = s := require_fst _

/-- The log file is not part of the registers. -/
@[simp] lemma uncheckLast_logfile (s : LoadMonitor) : s.uncheckLast.logfile = s.logfile := rfl

/-- A register that is changed stays there. -/
@[simp] lemma uncheckLast_loadDb (s : LoadMonitor) : s.uncheckLast.loadDb = [] ↔ s.loadDb = [] := by
  unfold uncheckLast
  rcases List.eq_nil_or_concat s.loadDb with h | ⟨db, r, h⟩
  · simp [h]
  · simp [h]

/-- The first part of `shutdown` keeps the log file, and registers remain. -/
lemma shutdown_first (s : LoadMonitor) (now : ℚ) (lost : Option ℕ) :
    let s' := (onlyIf (fun s => s.running = true) ((logEvent lost 0).andThen <|
      readTransition.andThen <| onlyIf (NotStableLately now) <| (logEvent lost 1).andThen <|
        (Procedure.require (fun s => s.loadDb ≠ []) .indexError).andThen <| .modify uncheckLast) s).1
    s'.logfile = s.logfile ∧ (s'.loadDb = [] ↔ s.loadDb = []) := by
  intro s'
  have hkeeps : (s'.logfile, s'.loadDb = []) = (s.logfile, s.loadDb = []) := by
    refine Keeps.onlyIf (g := fun s : LoadMonitor => (s.logfile, s.loadDb = [])) ?_ s
    have huncheck : Keeps (fun s : LoadMonitor => (s.logfile, s.loadDb = []))
        (.modify uncheckLast : Section) := keeps_modify fun s => by simp
    exact (keeps_require _).andThen <| (keeps_require _).andThen <| Keeps.onlyIf <|
      (keeps_require _).andThen <| (keeps_require _).andThen huncheck
  obtain ⟨hlogfile, hdb⟩ := Prod.mk.inj hkeeps
  exact ⟨hlogfile, iff_of_eq hdb⟩

/-- When `shutdown` completes. -/
lemma completes_shutdown : Completes (shutdown now lost) s ↔ s.ShutdownRuns now lost := by
  obtain ⟨hlogfile, hdb⟩ := s.shutdown_first now lost
  unfold shutdown ShutdownRuns
  rw [completes_andThen]
  generalize (onlyIf (fun s : LoadMonitor => s.running = true) _ s).1 = s' at hlogfile hdb ⊢
  refine and_congr ?_ ?_
  · simp only [completes_onlyIf, completes_andThen, completes_logEvent, logEvent_fst, readTransition,
      completes_require, require_fst, completes_modify, and_true]
  · simp only [completes_andThen, completes_modify, completes_onlyIf, completes_logEvent, modify_fst,
      LogKept, true_and, and_true, hlogfile, ne_eq, hdb]

/-- A slot that was set is not empty. -/
lemma truthy_of_lastCheck {slot : Slot} (h : slot.lastCheck.isSome) : slot.truthy := by
  unfold Slot.truthy
  rw [h]
  simp

/-- When the next slot can be set. -/
lemma completes_loadSlot (slot : Slot) (slots : List Slot) :
    Completes (loadSlot slot slots now lost) s ↔
      slot.time.isSome ∧ slot.targetLoad.isSome ∧ s.LogKept lost 0 := by
  have htruthy : Slot.truthy { slot with pendingTime := slot.time, lastCheck := some now } :=
    truthy_of_lastCheck rfl
  simp only [loadSlot, readTargetLoad, addRegister, completes_andThen, completes_modify,
    completes_require, completes_logEvent, modify_fst, require_fst, TargetReadable, LogKept,
    htruthy, true_implies, true_and, and_true]
  exact and_iff_right_of_imp fun h _ => h.2.1

/-- When `set_new_slot` completes. -/
lemma completes_setNewSlot : Completes (setNewSlot now lost) s ↔ s.NewSlotRuns now lost := by
  unfold NewSlotRuns
  cases hslots : s.slots with
  | nil =>
    have hsame : setNewSlot now lost s = shutdown now lost s := by
      unfold setNewSlot
      rw [hslots]
    rw [Completes, hsame]
    exact completes_shutdown
  | cons slot slots =>
    have hsame : setNewSlot now lost s = loadSlot slot slots now lost s := by
      unfold setNewSlot
      rw [hslots]
    rw [Completes, hsame]
    exact completes_loadSlot slot slots

/-- What `set_new_slot` needs does not change with the time that passes. -/
lemma newSlotRuns_passTime (reached : Bool) :
    { s.passTime now with targetLoadReached := reached }.NewSlotRuns now lost ↔
      s.NewSlotRuns now lost := by
  unfold NewSlotRuns
  cases hslots : s.slots <;> simp only [passTime, hslots] <;> exact Iff.rfl

/-- When a slot that lasts for some time can be followed. -/
lemma completes_followSlot : Completes (followSlot now lost) s ↔ s.FollowRuns now lost := by
  have hnew : (if (s.passTime now).pendingTime < (s.passTime now).transition then
        { s.passTime now with targetLoadReached := false } else s.passTime now).NewSlotRuns now lost ↔
      s.NewSlotRuns now lost := by
    split_ifs
    · exact newSlotRuns_passTime false
    · exact newSlotRuns_passTime s.targetLoadReached
  have hpending : (if (s.passTime now).pendingTime < (s.passTime now).transition then
        { s.passTime now with targetLoadReached := false } else s.passTime now).pendingTime =
      (s.passTime now).pendingTime := by
    split_ifs <;> rfl
  have htransition : (s.passTime now).slot.transition = s.slot.transition := rfl
  simp only [followSlot, FollowRuns, readTransition, completes_andThen, completes_require, require_fst,
    completes_onlyIf, completes_modify, modify_fst, onlyIf_modify_fst, completes_setNewSlot, hnew,
    hpending, htransition, implies_true, true_and]

/-- When a slot can be kept to the end of the phase. -/
lemma completes_keepSlot :
    Completes (keepSlot lost) s ↔ s.slot.targetLoad.isSome ∧ s.LogKept lost 0 := by
  have htruthy : Slot.truthy { s.slot with time := some (-2) } := by
    simp [Slot.truthy]
  simp only [keepSlot, readTargetLoad, completes_andThen, completes_modify, completes_require,
    completes_logEvent, modify_fst, require_fst, TargetReadable, LogKept, htruthy, true_implies,
    true_and]

/-- When `update_slot` completes. -/
lemma completes_updateSlot : Completes (updateSlot now lost) s ↔ s.UpdateRuns now lost := by
  simp only [updateSlot, UpdateRuns, completes_andThen, completes_modify, and_true,
    completes_branch, completes_require, require_fst, completes_onlyIf, completes_followSlot,
    completes_keepSlot, completes_setNewSlot]

/-- When the load is found unstable. -/
lemma completes_noteNotStable :
    Completes (noteNotStable now lost) s ↔ s.slot.variance.isSome ∧ s.LogKept lost 0 := by
  simp only [noteNotStable, readVariance, addRegister, completes_andThen, completes_modify,
    completes_require, completes_logEvent, modify_fst, require_fst, LogKept, true_and]

/-- When the load can be checked after the target load was reached. -/
lemma completes_checkReached : Completes (checkReached now lost) s ↔
    s.loadSamples ≠ [] ∧ s.TargetReadable ∧
      (s.takeSample.LoadInRange → s.slot.variance.isSome) ∧
      (s.takeSample.LoadInRange ∧ s.takeSample.LoadStable →
        s.loadStatus ≠ some .stable → s.LogKept lost 0) ∧
      (¬ (s.takeSample.LoadInRange ∧ s.takeSample.LoadStable) →
        s.loadStatus ≠ some .notStable → s.slot.variance.isSome ∧ s.LogKept lost 0) := by
  have hstatus : s.takeSample.loadStatus = s.loadStatus := rfl
  have hslot : s.takeSample.slot = s.slot := rfl
  have hlogfile : s.takeSample.logfile = s.logfile := rfl
  have htarget : s.takeSample.TargetReadable ↔ s.TargetReadable := Iff.rfl
  simp only [checkReached, readTargetLoad, readVariance, completes_andThen, completes_require,
    require_fst, completes_modify, modify_fst, completes_onlyIf, onlyIf_require_fst, completes_branch,
    completes_noteNotStable, addRegister, completes_logEvent, LogKept, hstatus, hslot, hlogfile,
    htarget, true_and]

/-- When `check_load_stability` completes. -/
lemma completes_checkLoadStability :
    Completes (checkLoadStability now lost) s ↔ s.CheckRuns lost := by
  have hstatus : s.takeSample.loadStatus = s.loadStatus := rfl
  simp only [checkLoadStability, CheckRuns, StatusChanges, readTargetLoad, completes_branch,
    completes_checkReached, completes_andThen, completes_require, require_fst, completes_onlyIf,
    completes_modify, implies_true, and_true, hstatus]
  by_cases hreached : s.targetLoadReached = true
  · by_cases hrange : s.takeSample.LoadInRange ∧ s.takeSample.LoadStable
    · simp only [hreached, hrange, and_self, if_true, true_or, true_implies, not_true_eq_false,
        false_implies, and_true]
      exact and_left_comm
    · simp only [hreached, hrange, if_false, true_implies, not_true_eq_false, false_implies,
        not_false_eq_true, true_and, and_true]
      constructor
      · rintro ⟨h, hslot, hvar, hnot⟩
        refine ⟨hslot, h, ?_, fun hne => (hnot hne).2⟩
        rintro (hin | hne)
        · exact hvar hin
        · exact (hnot hne).1
      · rintro ⟨hslot, h, hvar, hlog⟩
        exact ⟨h, hslot, fun hin => hvar (Or.inl hin), fun hne => ⟨hvar (Or.inr hne), hlog hne⟩⟩
  · simp only [hreached, Bool.false_eq_true, false_implies, not_false_eq_true, true_implies,
      true_and, and_true]

end LoadMonitor

end HssRtc
