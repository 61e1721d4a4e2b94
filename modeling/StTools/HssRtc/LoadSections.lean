import StTools.Lib.Program
import StTools.HssRtc.LoadMonitor

/-!
# The sections of the load monitor

`LoadMonitor` takes what a thread does between `acquire` and `release` for one step.  `QLock` does not keep
two threads out of each other's sections, so here the sections run statement by statement: reading a key
of the slot is a statement of its own, and so are the test whether there is a log file and writing to it.
Several threads run their sections, and `shutdown`, which does not use the lock, in any order.

The main theorem says that the lock is released in exactly the runs in which every statement of a section
finds what it reads.
-/

namespace HssRtc

open HssUtils (QLock)

/-! ## The statements -/

namespace LoadProgram

open Program LoadMonitor

/-- What a thread does with the monitor. -/
abbrev Statements := Program LoadMonitor SectionError

/-- `target_load`: the slot is looked at, and if it is not empty its key is read. -/
def withTarget (next : ℤ → Statements) : Statements :=
  Program.look fun s =>
    if s.slot.truthy then readValue (fun s => s.slot.targetLoad) .keyError next else next 0

/-- The target load is read for a text. -/
def readTarget : Statements := withTarget fun _ => .done

/-- `variance`. -/
def withVariance (next : ℤ → Statements) : Statements :=
  readValue (fun s => s.slot.variance) .keyError next

/-- `transition`, as a number. -/
def withTransition (next : ℚ → Statements) : Statements :=
  Program.look fun s => if s.slot.transition = some none then .raise .valueError else next s.transition

/-- `load_in_range`: the target load is read for `min_load`, and again for `max_load`. -/
def ifInRange (yes no : Statements) : Statements :=
  withTarget fun low => Program.look fun s =>
    if low - 5 ≤ s.currentLoad then
      withTarget fun high => branch (fun s => s.currentLoad ≤ high + 5) yes no
    else no

/-- `log_event`: another thread may clear the log file between the test and the call of `write`. -/
def logEvent : Statements :=
  onlyIf (fun s => s.logfile) (require (fun s => s.logfile) .attributeError)

/-- Add a register. -/
def addRegister (state : LoadState) : Statements :=
  Program.modify fun s => { s with loadDb := s.loadDb ++ [⟨state, s.enableMonitoring⟩] }

/-- The last register is left out of the checks, if there is one. -/
def discardLast : Statements :=
  .act uncheckLast fun s => if s.loadDb = [] then .raise .indexError else .done

/-- `shutdown`. -/
def shutdown (now : ℚ) : Statements :=
  (onlyIf (fun s => s.running) <| logEvent.andThen <| Program.look fun s =>
    withTransition fun transition =>
      if now - s.lastNotStableTime < transition then logEvent.andThen discardLast else .done).andThen <|
  (Program.modify fun s => { s with enableMonitoring := false }).andThen <|
  (Program.modify fun s => { s with running := false }).andThen <|
  (onlyIf (fun s => s.loadDb ≠ []) logEvent).andThen <|
  onlyIf (fun s => s.logfile) <|
    (require (fun s => s.logfile) .attributeError).andThen <|
      Program.modify fun s => { s with logfile := false }

/-- A slot gets its `pending_time` and `last_check`. -/
def beginSlot (now : ℚ) : Statements :=
  .act (fun s =>
    if s.slot.time.isSome then
      { s with slot := { s.slot with pendingTime := s.slot.time, lastCheck := some now } }
    else s)
    fun s => if s.slot.time.isSome then .done else .raise .keyError

/-- `set_new_slot` with a next slot. -/
def loadSlot (slot : Slot) (now : ℚ) : Statements :=
  (Program.modify fun s => { s with slot := slot }).andThen <|
  (withTarget fun target => Program.modify fun s => { s with loadSamples := List.replicate 15 target }).andThen <|
  (Program.modify fun s => { s with targetLoadReached := false }).andThen <|
  (beginSlot now).andThen <| readTarget.andThen <| readTarget.andThen <| logEvent.andThen <|
  addRegister .newSlot

/-- `set_new_slot`: without a next slot the monitor is shut down. -/
def setNewSlot (now : ℚ) : Statements :=
  .act (fun s => { s with slots := s.slots.tail }) fun s =>
    match s.slots with
    | [] => shutdown now
    | slot :: _ => loadSlot slot now

/-- The time that passed is taken off; `last_check` is read for it. -/
def spendTime (now : ℚ) : Statements :=
  .act (fun s => if s.slot.lastCheck.isSome then s.passTime now else s)
    fun s => if s.slot.lastCheck.isSome then .done else .raise .keyError

/-- `update_slot`, for a slot that lasts for some time. -/
def followSlot (now : ℚ) : Statements :=
  readValue (fun s => s.slot.lastCheck) .keyError fun last =>
    if last = 0 then .done
    else
      (readValue (fun s => s.slot.pendingTime) .keyError fun _ => spendTime now).andThen <|
      (readValue (fun s => s.slot.pendingTime) .keyError fun pending =>
        withTransition fun transition =>
          if pending < transition then Program.modify fun s => { s with targetLoadReached := false }
          else .done).andThen <|
      readValue (fun s => s.slot.pendingTime) .keyError fun pending =>
        if pending < 0 then setNewSlot now else .done

/-- `update_slot`, for a slot that lasts to the end of the phase and was not looked at yet. -/
def keepSlot : Statements :=
  (Program.modify fun s => { s with slot := { s.slot with time := some (-2) } }).andThen <|
    readTarget.andThen <| readTarget.andThen logEvent

/-- `update_slot`, between `acquire` and `release`. -/
def updateSlot (now : ℚ) : Statements :=
  (branch (fun s => s.slot.truthy)
    (readValue (fun s => s.slot.time) .keyError fun time =>
      if time = -1 then keepSlot
      else readValue (fun s => s.slot.time) .keyError fun time =>
        if time = -2 then .done else followSlot now)
    (setNewSlot now)).andThen <|
  Program.modify fun s => { s with slot := { s.slot with lastCheck := some now } }

/-- A sample is taken, if a slot was set. -/
def addSample : Statements :=
  .act (fun s => if s.loadSamples = [] then s else s.takeSample)
    fun s => if s.loadSamples = [] then .raise .attributeError else .done

/-- The load is stable. -/
def noteStable : Statements :=
  onlyIf (fun s => s.loadStatus ≠ some .stable) <|
    (addRegister .stable).andThen <| readTarget.andThen <| readTarget.andThen logEvent

/-- The load is not stable: it is out of range, or varies too much. -/
def noteNotStable (now : ℚ) : Statements :=
  onlyIf (fun s => s.loadStatus ≠ some .notStable) <|
    (Program.modify fun s => { s with lastNotStableTime := now }).andThen <|
    withVariance fun variance => Program.look fun s =>
      if var s.loadSamples ≤ variance then
        readTarget.andThen <| readTarget.andThen <| (addRegister .notStable).andThen <|
          readTarget.andThen <| readTarget.andThen logEvent
      else
        (withVariance fun _ => .done).andThen <| (addRegister .notStable).andThen <|
          (withVariance fun _ => .done).andThen logEvent

/-- `check_load_stability`, between `acquire` and `release`. -/
def checkLoadStability (now : ℚ) : Statements :=
  branch (fun s => s.targetLoadReached)
    (addSample.andThen <| ifInRange
      (withVariance fun variance => Program.look fun s =>
        if var s.loadSamples ≤ variance then noteStable else noteNotStable now)
      (noteNotStable now))
    (ifInRange (Program.modify fun s => { s with targetLoadReached := true }) .done)

/-- `reconfigure`, between `acquire` and `release`. -/
def reconfigure (slots : List Slot) : Statements :=
  (Program.modify fun s => { s with slots := slots }).andThen <|
    (Program.modify fun s => { s with slot := {} }).andThen logEvent

/-! ## A section that nobody disturbs -/

variable {now : ℚ} {s : LoadMonitor} {slots : List Slot}

/-- Alone a thread does not lose the log file. -/
lemma logEvent_alone (k : ℕ) : LoadMonitor.logEvent none k = fun s => (s, none) := by
  funext s
  unfold LoadMonitor.logEvent Procedure.require
  rw [if_pos (by simp)]

/-- `log_event`. -/
lemma run_logEvent : LoadProgram.logEvent.run = fun s => (s, none) := by
  funext s
  rw [LoadProgram.logEvent, run_onlyIf, run_require, Procedure.onlyIf, Procedure.require]
  split_ifs <;> rfl

/-- The target load is read. -/
lemma run_withTarget (next : ℤ → Statements) : (withTarget next).run s =
    if s.TargetReadable then (next s.targetLoad).run s else (s, some .keyError) := by
  unfold withTarget
  rw [run_look, LoadMonitor.targetLoad]
  unfold LoadMonitor.TargetReadable
  by_cases htruthy : s.slot.truthy = true
  · rw [if_pos htruthy, run_readValue]
    obtain htarget | ⟨target, htarget⟩ := Option.eq_none_or_eq_some s.slot.targetLoad
    · simp [htruthy, htarget]
    · simp [htruthy, htarget]
  · simp [htruthy]

/-- The target load is read for a text. -/
lemma run_readTarget : readTarget.run = LoadMonitor.readTargetLoad := by
  funext s
  exact run_withTarget _

/-- The variance is read. -/
lemma run_withVariance (next : ℤ → Statements) : (withVariance next).run s =
    if s.slot.variance.isSome then (next (s.slot.variance.getD 0)).run s
    else (s, some .keyError) := by
  rw [withVariance, run_readValue]
  cases s.slot.variance <;> rfl

/-- The transition is read. -/
lemma run_withTransition (next : ℚ → Statements) : (withTransition next).run s =
    if s.slot.transition ≠ some none then (next s.transition).run s
    else (s, some .valueError) := by
  unfold withTransition
  rw [run_look, ite_not]
  split_ifs <;> rfl

/-- The last register is left out. -/
lemma run_discardLast : discardLast.run =
    (Procedure.require (fun s : LoadMonitor => s.loadDb ≠ []) .indexError).andThen (.modify uncheckLast) := by
  funext s
  unfold discardLast Procedure.andThen Procedure.require
  rw [run_act]
  by_cases hdb : s.loadDb = []
  · have hsame : s.uncheckLast = s := by
      unfold uncheckLast
      rw [hdb]
      exact congrArg (fun db => { s with loadDb := db }) hdb.symm
    simp [hdb, hsame]
  · simp only [hdb, ne_eq, not_false_eq_true, if_true, if_false]
    rfl

/-- The last part of `shutdown`. -/
lemma run_closeLog : (onlyIf (fun s : LoadMonitor => s.logfile) <|
    (require (fun s : LoadMonitor => s.logfile) SectionError.attributeError).andThen <|
      Program.modify fun s => { s with logfile := false }).run =
        Procedure.modify fun s => { s with logfile := false } := by
  funext s
  rw [run_onlyIf, Procedure.onlyIf]
  by_cases hlogfile : s.logfile = true
  · rw [if_pos hlogfile, run_andThen, run_require, Procedure.andThen, Procedure.require, if_pos hlogfile]
    rfl
  · rw [if_neg hlogfile, Procedure.modify, ← Bool.eq_false_iff.mpr hlogfile]

/-- `shutdown`. -/
lemma run_shutdown : (LoadProgram.shutdown now).run = LoadMonitor.shutdown now none := by
  have hlately : (Program.look fun s : LoadMonitor => withTransition fun transition =>
      if now - s.lastNotStableTime < transition then LoadProgram.logEvent.andThen discardLast
      else .done).run = LoadMonitor.readTransition.andThen (.onlyIf (NotStableLately now) <|
        (LoadMonitor.logEvent none 1).andThen <|
          (Procedure.require (fun s => s.loadDb ≠ []) .indexError).andThen <| .modify uncheckLast) := by
    funext s
    rw [run_look, run_withTransition, LoadMonitor.readTransition, Procedure.andThen, Procedure.require]
    by_cases htransition : s.slot.transition = some none
    · simp [htransition]
    · simp only [htransition, ne_eq, not_false_eq_true, if_true, Procedure.onlyIf, NotStableLately]
      split_ifs
      · rw [run_andThen, run_discardLast, run_logEvent, logEvent_alone]
      · rfl
  unfold LoadProgram.shutdown LoadMonitor.shutdown
  rw [run_andThen, run_onlyIf, run_andThen, hlately, run_andThen, run_andThen, run_andThen, run_onlyIf,
    run_closeLog, run_logEvent, logEvent_alone, logEvent_alone, logEvent_alone]
  rfl

/-- A slot begins. -/
lemma run_beginSlot : (beginSlot now).run =
    (Procedure.require (fun s : LoadMonitor => s.slot.time.isSome) .keyError).andThen
      (.modify fun s =>
        { s with slot := { s.slot with pendingTime := s.slot.time, lastCheck := some now } }) := by
  funext s
  unfold beginSlot Procedure.andThen Procedure.require
  rw [run_act]
  split_ifs <;> rfl

/-- Reading the target load for a text twice. -/
lemma run_readTarget_twice (a : Statements) : (readTarget.andThen (readTarget.andThen a)).run =
    LoadMonitor.readTargetLoad.andThen a.run := by
  funext s
  rw [run_andThen, run_andThen, run_readTarget]
  unfold LoadMonitor.readTargetLoad Procedure.andThen Procedure.require
  by_cases htarget : s.TargetReadable <;> simp [htarget]

/-- The samples are filled with the target load. -/
lemma run_fillSamples (a : Statements) :
    ((withTarget fun target => Program.modify fun s =>
        { s with loadSamples := List.replicate 15 target }).andThen <|
      (Program.modify fun s => { s with targetLoadReached := false }).andThen a).run =
      LoadMonitor.readTargetLoad.andThen ((Procedure.modify fun s =>
        { s with loadSamples := List.replicate 15 s.targetLoad, targetLoadReached := false }).andThen
          a.run) := by
  funext s
  rw [run_andThen, Procedure.andThen, run_withTarget, Procedure.andThen, LoadMonitor.readTargetLoad,
    Procedure.require]
  split_ifs
  · rw [run_andThen]
    rfl
  · rfl

/-- `set_new_slot`, with a next slot. -/
lemma run_loadSlot (slot : Slot) :
    (LoadProgram.loadSlot slot now).run { s with slots := slots } =
      LoadMonitor.loadSlot slot slots now none s := by
  unfold LoadProgram.loadSlot LoadMonitor.loadSlot
  rw [run_andThen, run_modify, run_fillSamples, run_andThen, run_beginSlot, run_readTarget_twice,
    run_andThen, run_logEvent, logEvent_alone, Procedure.andThen_assoc]
  rfl

/-- `set_new_slot`. -/
lemma run_setNewSlot : (LoadProgram.setNewSlot now).run = LoadMonitor.setNewSlot now none := by
  funext s
  unfold LoadProgram.setNewSlot LoadMonitor.setNewSlot
  rw [run_act]
  rcases hslots : s.slots with _ | ⟨slot, slots⟩
  · dsimp only
    rw [run_shutdown, List.tail_nil, ← hslots]
  · exact run_loadSlot slot

/-- `update_slot`, for a slot to the end of the phase. -/
lemma run_keepSlot : LoadProgram.keepSlot.run = LoadMonitor.keepSlot none := by
  unfold LoadProgram.keepSlot LoadMonitor.keepSlot
  rw [run_andThen, run_modify, run_readTarget_twice, run_logEvent, logEvent_alone]

/-- The time that is left is looked at. -/
lemma run_readPending {s : LoadMonitor} {next : ℚ → Statements} (h : s.slot.pendingTime.isSome) :
    (readValue (fun s => s.slot.pendingTime) .keyError next).run s = (next s.pendingTime).run s := by
  obtain ⟨pending, hpending⟩ := Option.isSome_iff_exists.mp h
  rw [run_readValue, hpending, Option.elim_some, LoadMonitor.pendingTime, hpending, Option.getD_some]

/-- The time that passed is taken off. -/
lemma run_spendTime {s : LoadMonitor} (h : s.slot.lastCheck.isSome) :
    (spendTime now).run s = (s.passTime now, none) := by
  unfold spendTime
  rw [run_act, if_pos h, if_pos h]
  rfl

/-- The end of the slot comes soon. -/
lemma run_nearEnd {s : LoadMonitor} (h : s.slot.pendingTime.isSome) :
    (readValue (fun s => s.slot.pendingTime) SectionError.keyError fun pending =>
      withTransition fun transition =>
        if pending < transition then Program.modify fun s => { s with targetLoadReached := false }
        else .done).run s =
      (LoadMonitor.readTransition.andThen (.onlyIf (fun s => s.pendingTime < s.transition)
        (.modify fun s => { s with targetLoadReached := false }))) s := by
  rw [run_readPending h, run_withTransition, Procedure.andThen, LoadMonitor.readTransition,
    Procedure.require]
  by_cases htransition : s.slot.transition = some none
  · simp [htransition]
  · simp only [htransition, ne_eq, not_false_eq_true, if_true, Procedure.onlyIf]
    split_ifs <;> rfl

/-- `update_slot`, for a slot that lasts for some time. -/
lemma run_followSlot : (LoadProgram.followSlot now).run = LoadMonitor.followSlot now none := by
  funext s
  unfold LoadProgram.followSlot LoadMonitor.followSlot
  rw [run_readValue, Procedure.andThen, Procedure.require]
  obtain hlast | ⟨last, hlast⟩ := Option.eq_none_or_eq_some s.slot.lastCheck
  · simp [hlast]
  by_cases hzero : last = 0
  · simp [hlast, hzero, Procedure.onlyIf]
  obtain hpending | ⟨pending, hpending⟩ := Option.eq_none_or_eq_some s.slot.pendingTime
  · simp [hlast, hzero, hpending, Procedure.onlyIf, Procedure.andThen, Procedure.require]
  have hafter : (s.passTime now).slot.pendingTime.isSome := by
    simp [LoadMonitor.passTime, hpending]
  -- the look at the transition does not change the slot
  have hkeeps : Procedure.Keeps LoadMonitor.slot (LoadMonitor.readTransition.andThen
      (.onlyIf (fun s => s.pendingTime < s.transition)
        (.modify fun s => { s with targetLoadReached := false }))) :=
    (Procedure.keeps_require _).andThen (Procedure.Keeps.onlyIf (Procedure.keeps_modify fun _ => rfl))
  rw [hlast, Option.elim_some, if_neg hzero, if_pos (by rfl)]
  dsimp only
  rw [Procedure.onlyIf, if_pos (by simp [hlast, hzero]), run_andThen, Procedure.andThen,
    run_readPending (by rw [hpending]; rfl), run_spendTime (by rw [hlast]; rfl), Procedure.andThen,
    Procedure.require, if_pos (by rw [hpending]; rfl)]
  dsimp only
  rw [run_andThen, Procedure.andThen, run_nearEnd hafter]
  show _ = (LoadMonitor.readTransition.andThen ((Procedure.onlyIf (fun s => s.pendingTime < s.transition)
    (.modify fun s => { s with targetLoadReached := false })).andThen
      (.onlyIf (fun s => s.pendingTime < 0) (LoadMonitor.setNewSlot now none)))) (s.passTime now)
  rw [← Procedure.andThen_assoc]
  conv_rhs => rw [Procedure.andThen]
  have hstill := hkeeps (s.passTime now)
  generalize LoadMonitor.readTransition.andThen (Procedure.onlyIf (fun s => s.pendingTime < s.transition)
    (Procedure.modify fun s => { s with targetLoadReached := false })) (s.passTime now) = r at hstill ⊢
  obtain ⟨t, e⟩ := r
  cases e with
  | some e => rfl
  | none =>
    dsimp only at hstill ⊢
    rw [run_readPending (by rw [hstill]; exact hafter), Procedure.onlyIf]
    split_ifs
    · rw [run_setNewSlot]
    · rfl

/-- `update_slot`. -/
lemma run_updateSlot : (LoadProgram.updateSlot now).run = LoadMonitor.updateSlot now none := by
  have hslot : (readValue (fun s : LoadMonitor => s.slot.time) SectionError.keyError fun time =>
      if time = -1 then LoadProgram.keepSlot
      else readValue (fun s => s.slot.time) .keyError fun time =>
        if time = -2 then .done else LoadProgram.followSlot now).run =
      (Procedure.require (fun s => s.slot.time.isSome) .keyError).andThen
        (.branch (fun s => s.slot.time = some (-1)) (LoadMonitor.keepSlot none)
          (.onlyIf (fun s => s.slot.time ≠ some (-2)) (LoadMonitor.followSlot now none))) := by
    funext s
    rw [run_readValue, Procedure.andThen, Procedure.require]
    obtain htime | ⟨time, htime⟩ := Option.eq_none_or_eq_some s.slot.time
    · simp [htime]
    · simp only [htime, Option.elim_some, Option.isSome_some, if_true, Procedure.branch,
        Procedure.onlyIf, Option.some.injEq, ne_eq, ite_not]
      split_ifs with hkeep hlast
      · rw [run_keepSlot]
      · rw [run_readValue, htime, Option.elim_some, if_pos hlast]
        rfl
      · rw [run_readValue, htime, Option.elim_some, if_neg hlast, run_followSlot]
  unfold LoadProgram.updateSlot LoadMonitor.updateSlot
  rw [run_andThen, run_branch, hslot, run_setNewSlot, run_modify]
/-- The test whether the load is in range. -/
lemma run_ifInRange (yes no : Statements) : (ifInRange yes no).run s =
    if s.TargetReadable then if s.LoadInRange then yes.run s else no.run s
    else (s, some .keyError) := by
  unfold ifInRange LoadMonitor.LoadInRange
  rw [run_withTarget]
  by_cases htarget : s.TargetReadable
  · rw [if_pos htarget, if_pos htarget, run_look]
    by_cases hlow : s.targetLoad - 5 ≤ s.currentLoad
    · rw [if_pos hlow, run_withTarget, if_pos htarget, run_branch, Procedure.branch]
      simp only [hlow, true_and]
    · simp only [hlow, false_and, if_false]
  · rw [if_neg htarget, if_neg htarget]

/-- Texts with the target load. -/
lemma run_texts (s : LoadMonitor) (h : s.TargetReadable) (a : Statements) :
    (readTarget.andThen (readTarget.andThen a)).run s = a.run s := by
  rw [run_readTarget_twice, Procedure.andThen, LoadMonitor.readTargetLoad, Procedure.require, if_pos h]

/-- A text with the variance. -/
lemma run_varianceText (s : LoadMonitor) (h : s.slot.variance.isSome) (a : Statements) :
    ((withVariance fun _ => .done).andThen a).run s = a.run s := by
  rw [run_andThen, Procedure.andThen, run_withVariance, if_pos h]
  rfl

/-- A register is added, and noted in the log file. -/
lemma run_register (s : LoadMonitor) (state : LoadState) (a : Statements)
    (ha : ∀ db, a.run { s with loadDb := db } = ({ s with loadDb := db }, none)) :
    ((LoadProgram.addRegister state).andThen a).run s =
      ((LoadMonitor.addRegister state).andThen (LoadMonitor.logEvent none 0)) s := by
  rw [run_andThen, logEvent_alone]
  exact ha _

/-- A stable load is noted. -/
lemma run_noteStable (h : s.TargetReadable) : noteStable.run s =
    (Procedure.onlyIf (fun s : LoadMonitor => s.loadStatus ≠ some .stable)
      ((LoadMonitor.addRegister .stable).andThen (LoadMonitor.logEvent none 0))) s := by
  unfold noteStable
  rw [run_onlyIf, Procedure.onlyIf, Procedure.onlyIf]
  split_ifs
  · refine run_register s .stable _ fun db => ?_
    rw [run_texts { s with loadDb := db } h, run_logEvent]
  · rfl

/-- An unstable load is noted. -/
lemma run_unstable (s : LoadMonitor) (h : s.TargetReadable) :
    (withVariance fun variance => Program.look fun s =>
      if LoadMonitor.var s.loadSamples ≤ variance then
        readTarget.andThen <| readTarget.andThen <| (LoadProgram.addRegister .notStable).andThen <|
          readTarget.andThen <| readTarget.andThen LoadProgram.logEvent
      else
        (withVariance fun _ => .done).andThen <| (LoadProgram.addRegister .notStable).andThen <|
          (withVariance fun _ => .done).andThen LoadProgram.logEvent).run s =
      (LoadMonitor.readVariance.andThen <|
        (LoadMonitor.addRegister .notStable).andThen (LoadMonitor.logEvent none 0)) s := by
  rw [run_withVariance, Procedure.andThen, LoadMonitor.readVariance, Procedure.require]
  by_cases hvariance : s.slot.variance.isSome = true
  · rw [if_pos hvariance, if_pos hvariance, run_look]
    split_ifs
    · rw [run_texts s h]
      refine run_register s .notStable _ fun db => ?_
      rw [run_texts { s with loadDb := db } h, run_logEvent]
    · rw [run_varianceText s hvariance]
      refine run_register s .notStable _ fun db => ?_
      rw [run_varianceText { s with loadDb := db } hvariance, run_logEvent]
  · rw [if_neg hvariance, if_neg hvariance]

/-- A load that is not stable is noted. -/
lemma run_noteNotStable (h : s.TargetReadable) : (LoadProgram.noteNotStable now).run s =
    (Procedure.onlyIf (fun s : LoadMonitor => s.loadStatus ≠ some .notStable)
      (LoadMonitor.noteNotStable now none)) s := by
  unfold LoadProgram.noteNotStable
  rw [run_onlyIf, Procedure.onlyIf, Procedure.onlyIf]
  split_ifs
  · rw [run_andThen]
    exact run_unstable { s with lastNotStableTime := now } h
  · rfl

/-- A sample is taken. -/
lemma run_addSample : addSample.run = (Procedure.require (fun s : LoadMonitor => s.loadSamples ≠ [])
    .attributeError).andThen (.modify LoadMonitor.takeSample) := by
  funext s
  unfold addSample Procedure.andThen Procedure.require
  rw [run_act]
  by_cases hsamples : s.loadSamples = []
  · simp [hsamples]
  · simp only [hsamples, ne_eq, not_false_eq_true, if_true, if_false]
    rfl

/-- `check_load_stability`. -/
lemma run_checkLoadStability :
    (LoadProgram.checkLoadStability now).run = LoadMonitor.checkLoadStability now none := by
  have hreached : (addSample.andThen <| ifInRange
      (withVariance fun variance => Program.look fun s =>
        if LoadMonitor.var s.loadSamples ≤ variance then noteStable else LoadProgram.noteNotStable now)
      (LoadProgram.noteNotStable now)).run = LoadMonitor.checkReached now none := by
    rw [run_andThen, run_addSample, Procedure.andThen_assoc]
    unfold LoadMonitor.checkReached
    refine congrArg _ (congrArg _ (funext fun s => ?_))
    rw [run_ifInRange, Procedure.andThen, LoadMonitor.readTargetLoad, Procedure.require]
    by_cases htarget : s.TargetReadable
    · rw [if_pos htarget, if_pos htarget]
      dsimp only
      rw [Procedure.andThen, Procedure.onlyIf, LoadMonitor.readVariance, Procedure.require]
      by_cases hrange : s.LoadInRange
      · rw [if_pos hrange, if_pos hrange, run_withVariance]
        by_cases hvariance : s.slot.variance.isSome = true
        · rw [if_pos hvariance, if_pos hvariance, run_look]
          simp only [Procedure.branch, hrange, true_and]
          by_cases hstable : s.LoadStable
          · rw [if_pos hstable, ← run_noteStable htarget]
            exact congrArg (run · s) (if_pos hstable)
          · rw [if_neg hstable, ← run_noteNotStable htarget]
            exact congrArg (run · s) (if_neg hstable)
        · rw [if_neg hvariance, if_neg hvariance]
      · rw [if_neg hrange, if_neg hrange, run_noteNotStable htarget]
        simp only [Procedure.branch, hrange, false_and, if_false]
    · rw [if_neg htarget, if_neg htarget]
  unfold LoadProgram.checkLoadStability LoadMonitor.checkLoadStability
  rw [run_branch, hreached]
  refine congrArg _ (funext fun s => ?_)
  rw [run_ifInRange, Procedure.andThen, LoadMonitor.readTargetLoad, Procedure.require, Procedure.onlyIf]
  split_ifs <;> rfl

/-- `reconfigure`. -/
lemma run_reconfigure : (LoadProgram.reconfigure slots).run = LoadMonitor.reconfigure slots none := by
  unfold LoadProgram.reconfigure LoadMonitor.reconfigure
  rw [run_andThen, run_andThen, run_logEvent, logEvent_alone]
  rfl

/-- A thread that is alone gets through `update_slot` when the slot, or the next one, has its keys. -/
lemma completes_updateSlot :
    Procedure.Completes (LoadProgram.updateSlot now).run s ↔ s.UpdateRuns now none := by
  rw [run_updateSlot]
  exact LoadMonitor.completes_updateSlot

/-- And through `check_load_stability` when the slot has its target load and variance. -/
lemma completes_checkLoadStability :
    Procedure.Completes (LoadProgram.checkLoadStability now).run s ↔ s.CheckRuns none := by
  rw [run_checkLoadStability]
  exact LoadMonitor.completes_checkLoadStability

/-! ## The statements do not use the lock -/

/-- The statements do not use the lock. -/
abbrev KeepsMutex (a : Statements) : Prop := a.Keeps LoadMonitor.mutex

/-- Reading the target load. -/
lemma keepsMutex_withTarget {next : ℤ → Statements} (h : ∀ target, KeepsMutex (next target)) :
    KeepsMutex (withTarget next) :=
  keeps_look fun s => by
    split_ifs
    · exact keeps_readValue h
    · exact h 0

/-- Reading it for a text. -/
lemma keepsMutex_readTarget : KeepsMutex readTarget := keepsMutex_withTarget fun _ => trivial

/-- Reading the transition. -/
lemma keepsMutex_withTransition {next : ℚ → Statements} (h : ∀ transition, KeepsMutex (next transition)) :
    KeepsMutex (withTransition next) :=
  keeps_look fun s => by
    split_ifs
    · trivial
    · exact h _

/-- The test whether the load is in range. -/
lemma keepsMutex_ifInRange {yes no : Statements} (hyes : KeepsMutex yes) (hno : KeepsMutex no) :
    KeepsMutex (ifInRange yes no) :=
  keepsMutex_withTarget fun _ => keeps_look fun _ => by
    split_ifs
    · exact keepsMutex_withTarget fun _ => hyes.branch hno
    · exact hno

/-- `log_event`. -/
lemma keepsMutex_logEvent : KeepsMutex LoadProgram.logEvent := (keeps_require _).onlyIf

/-- A register is added. -/
lemma keepsMutex_addRegister (state : LoadState) : KeepsMutex (LoadProgram.addRegister state) :=
  keeps_modify fun _ => rfl

/-- `shutdown`. -/
lemma keepsMutex_shutdown : KeepsMutex (LoadProgram.shutdown now) := by
  have hdiscard : KeepsMutex discardLast := ⟨fun _ => rfl, fun s => by dsimp only; split_ifs <;> trivial⟩
  have hlately : KeepsMutex (Program.look fun s : LoadMonitor => withTransition fun transition =>
      if now - s.lastNotStableTime < transition then LoadProgram.logEvent.andThen discardLast
      else .done) :=
    keeps_look fun s => keepsMutex_withTransition fun transition => by
      split_ifs
      · exact keepsMutex_logEvent.andThen hdiscard
      · trivial
  exact (keepsMutex_logEvent.andThen hlately).onlyIf.andThen <|
    Keeps.andThen (keeps_modify fun _ => rfl) <| Keeps.andThen (keeps_modify fun _ => rfl) <|
      keepsMutex_logEvent.onlyIf.andThen <|
        Keeps.onlyIf <| Keeps.andThen (keeps_require _) <| keeps_modify fun _ => rfl

/-- `set_new_slot`. -/
lemma keepsMutex_setNewSlot : KeepsMutex (LoadProgram.setNewSlot now) := by
  refine ⟨fun _ => rfl, fun s => ?_⟩
  dsimp only
  split
  · exact keepsMutex_shutdown
  · have hbegin : KeepsMutex (beginSlot now) :=
      ⟨fun s => by dsimp only; split_ifs <;> rfl, fun s => by dsimp only; split_ifs <;> trivial⟩
    exact Keeps.andThen (keeps_modify fun _ => rfl) <|
      Keeps.andThen (keepsMutex_withTarget fun _ => keeps_modify fun _ => rfl) <|
        Keeps.andThen (keeps_modify fun _ => rfl) <| hbegin.andThen <| keepsMutex_readTarget.andThen <|
          keepsMutex_readTarget.andThen <| keepsMutex_logEvent.andThen <| keepsMutex_addRegister _

/-- `update_slot`. -/
lemma keepsMutex_updateSlot : KeepsMutex (LoadProgram.updateSlot now) := by
  have hkeep : KeepsMutex LoadProgram.keepSlot :=
    Keeps.andThen (keeps_modify fun _ => rfl) <| keepsMutex_readTarget.andThen <|
      keepsMutex_readTarget.andThen keepsMutex_logEvent
  have hspend : KeepsMutex (spendTime now) :=
    ⟨fun s => by dsimp only; split_ifs <;> rfl, fun s => by dsimp only; split_ifs <;> trivial⟩
  have hfollow : KeepsMutex (LoadProgram.followSlot now) :=
    keeps_readValue fun last => by
      split_ifs
      · trivial
      · refine (keeps_readValue fun _ => hspend).andThen <| (keeps_readValue fun pending =>
          keepsMutex_withTransition fun transition => ?_).andThen <| keeps_readValue fun pending => ?_
        · split_ifs
          · exact keeps_modify fun _ => rfl
          · trivial
        · split_ifs
          · exact keepsMutex_setNewSlot
          · trivial
  refine (Keeps.branch (keeps_readValue fun time => ?_) keepsMutex_setNewSlot).andThen <|
    keeps_modify fun _ => rfl
  split_ifs
  · exact hkeep
  · refine keeps_readValue fun time => ?_
    split_ifs
    · trivial
    · exact hfollow

/-- `check_load_stability`. -/
lemma keepsMutex_checkLoadStability : KeepsMutex (LoadProgram.checkLoadStability now) := by
  have hvariance : KeepsMutex (withVariance fun _ => .done) := keeps_readValue fun _ => trivial
  have hsample : KeepsMutex addSample :=
    ⟨fun s => by dsimp only; split_ifs <;> rfl, fun s => by dsimp only; split_ifs <;> trivial⟩
  have hstable : KeepsMutex noteStable :=
    Keeps.onlyIf <| (keepsMutex_addRegister _).andThen <| keepsMutex_readTarget.andThen <|
      keepsMutex_readTarget.andThen keepsMutex_logEvent
  have hnot : KeepsMutex (LoadProgram.noteNotStable now) := by
    refine Keeps.onlyIf <| Keeps.andThen (keeps_modify fun _ => rfl) <| keeps_readValue fun variance =>
      keeps_look fun s => ?_
    split_ifs
    · exact keepsMutex_readTarget.andThen <| keepsMutex_readTarget.andThen <|
        (keepsMutex_addRegister _).andThen <| keepsMutex_readTarget.andThen <|
          keepsMutex_readTarget.andThen keepsMutex_logEvent
    · exact hvariance.andThen <| (keepsMutex_addRegister _).andThen <|
        hvariance.andThen keepsMutex_logEvent
  refine Keeps.branch (hsample.andThen <| keepsMutex_ifInRange (keeps_readValue fun variance =>
    keeps_look fun s => ?_) hnot) (keepsMutex_ifInRange (keeps_modify fun _ => rfl) trivial)
  split_ifs
  · exact hstable
  · exact hnot

/-- `reconfigure`. -/
lemma keepsMutex_reconfigure : KeepsMutex (LoadProgram.reconfigure slots) :=
  Keeps.andThen (keeps_modify fun _ => rfl) <| Keeps.andThen (keeps_modify fun _ => rfl) keepsMutex_logEvent

end LoadProgram

/-! ## The threads -/

/-- What a thread does with the monitor. -/
inductive LoadTask
  | idle
  /-- It waits in `acquire`, before a section. -/
  | waits (body : LoadProgram.Statements)
  /-- It is between `acquire` and `release`. -/
  | inside (rest : LoadProgram.Statements)
  /-- It is in `shutdown`, which does not use the lock. -/
  | outside (rest : LoadProgram.Statements)

namespace LoadTask

/-- The thread does nothing. -/
def Idle : LoadTask → Prop
  | .idle => True
  | _ => False

instance : DecidablePred Idle
  | .idle => isTrue trivial
  | .waits _ => isFalse not_false
  | .inside _ => isFalse not_false
  | .outside _ => isFalse not_false

/-- The thread is between `acquire` and `release`. -/
def Inside : LoadTask → Prop
  | .inside _ => True
  | _ => False

/-- The statements that are left do not use the lock. -/
def KeepsMutex : LoadTask → Prop
  | .idle => True
  | .waits body => LoadProgram.KeepsMutex body
  | .inside rest => LoadProgram.KeepsMutex rest
  | .outside rest => LoadProgram.KeepsMutex rest

end LoadTask

/-- The monitor and the threads that use it. -/
structure LoadThreads where
  monitor : LoadMonitor
  tasks : MonitorThread → LoadTask

namespace LoadThreads

/-- The monitor was created. -/
def init (slots : List Slot) : LoadThreads where
  monitor := LoadMonitor.init slots
  tasks _ := .idle

/-- What happens. -/
inductive Event
  /-- The thread of the monitor starts, with an update of the slot. -/
  | start (now : ℚ)
  /-- It looks whether the monitor is still running. -/
  | loop
  /-- It reads the load: a time-out, or an answer that may be no number. -/
  | read (answer : Option (Option ℤ)) (now : ℚ)
  /-- It calls `update_slot`. -/
  | update (now : ℚ)
  /-- It calls `check_load_stability`. -/
  | check (now : ℚ)
  /-- Another thread gives it new slots. -/
  | reconfigure (i : ℕ) (slots : List Slot)
  /-- Another thread shuts it down. -/
  | shutdown (i : ℕ) (now : ℚ)
  /-- Monitoring is enabled or disabled. -/
  | enable (value : Bool)
  /-- A thread that was woken takes the lock. -/
  | wake (t : MonitorThread)
  /-- A thread executes its next statement. -/
  | advance (t : MonitorThread) (now : ℚ)
  /-- A thread is at the end of its section, and releases the lock, or at the end of `shutdown`. -/
  | finish (t : MonitorThread) (now : ℚ)

/-- A thread does something else. -/
def setTask (s : LoadThreads) (t : MonitorThread) (task : LoadTask) : LoadThreads :=
  { s with tasks := Function.update s.tasks t task }

/-- A thread calls `acquire` before a section. -/
def ask (s : LoadThreads) (t : MonitorThread) (body : LoadProgram.Statements) : LoadThreads :=
  setTask { s with monitor := { s.monitor with mutex := s.monitor.mutex.acquire t } } t
    (if s.monitor.mutex.count ≠ 0 then .waits body else .inside body)

/-- The loop of the monitor counts an error, and shuts the monitor down when there are too many. -/
def countReadingError (s : LoadThreads) (now : ℚ) : LoadThreads :=
  setTask
    { s with monitor := { s.monitor with
        readingError := s.monitor.readingError + 1
        pc := .looping } }
    .monitor
    (if s.monitor.readingError + 1 > maxReadingError then .outside (LoadProgram.shutdown now)
    else .idle)

/-- An exception ends what a thread does.  The loop of the monitor catches those of `update_slot` and
`check_load_stability`, but no other. -/
def raised (s : LoadThreads) (t : MonitorThread) (now : ℚ) : LoadThreads :=
  match t with
  | .caller _ => s.setTask t .idle
  | .monitor =>
    if s.monitor.pc = .updating ∨ s.monitor.pc = .checking then s.countReadingError now
    else setTask { s with monitor := { s.monitor with pc := .ended } } .monitor .idle

/-- A thread executes a statement and goes on. -/
def execute (s : LoadThreads) (t : MonitorThread) (now : ℚ) (f : LoadMonitor → LoadMonitor)
    (next : LoadMonitor → LoadProgram.Statements) (task : LoadProgram.Statements → LoadTask) :
    LoadThreads :=
  match next s.monitor with
  | .raise _ => raised { s with monitor := f s.monitor } t now
  | rest => setTask { s with monitor := f s.monitor } t (task rest)

/-- Where the thread of the monitor goes on after a section. -/
def afterSection : MonitorPc → MonitorPc
  | .updating => .checking
  | _ => .looping

/-- A thread calls `release` after a section. -/
def release (s : LoadThreads) (t : MonitorThread) (now : ℚ) : LoadThreads :=
  match s.monitor.mutex.release t with
  | .error _ => s.raised t now
  | .ok mutex =>
    setTask
      { s with monitor := { s.monitor with
          mutex := mutex
          pc := if t = .monitor then afterSection s.monitor.pc else s.monitor.pc } }
      t .idle

/-- One step. -/
def step (s : LoadThreads) : Event → Option LoadThreads
  | .start now =>
    if s.monitor.pc = .created ∧ (s.tasks .monitor).Idle then
      some (ask { s with monitor := { s.monitor with running := true } } .monitor
        (LoadProgram.updateSlot now))
    else none
  | .loop =>
    if s.monitor.pc = .looping ∧ (s.tasks .monitor).Idle then
      some { s with monitor := { s.monitor with
        pc := if s.monitor.running then .reading else .ended } }
    else none
  | .read answer now =>
    if s.monitor.pc = .reading ∧ (s.tasks .monitor).Idle then
      match answer with
      | some (some load) =>
        some { s with monitor := { s.monitor with currentLoad := load, pc := .updating } }
      | _ => some (s.countReadingError now)
    else none
  | .update now =>
    if s.monitor.pc = .updating ∧ (s.tasks .monitor).Idle then
      some (s.ask .monitor (LoadProgram.updateSlot now))
    else none
  | .check now =>
    if s.monitor.pc = .checking ∧ (s.tasks .monitor).Idle then
      some (s.ask .monitor (LoadProgram.checkLoadStability now))
    else none
  | .reconfigure i slots =>
    if (s.tasks (.caller i)).Idle then some (s.ask (.caller i) (LoadProgram.reconfigure slots))
    else none
  | .shutdown i now =>
    if (s.tasks (.caller i)).Idle then
      some (s.setTask (.caller i) (.outside (LoadProgram.shutdown now)))
    else none
  | .enable value => some { s with monitor := { s.monitor with enableMonitoring := value } }
  | .wake t =>
    match s.tasks t with
    | .waits body =>
      if t ∈ s.monitor.mutex.woken then
        some (setTask { s with monitor := { s.monitor with mutex := s.monitor.mutex.retake t } } t
          (.inside body))
      else none
    | _ => none
  | .advance t now =>
    match s.tasks t with
    | .inside (.act f next) => some (s.execute t now f next .inside)
    | .outside (.act f next) => some (s.execute t now f next .outside)
    | _ => none
  | .finish t now =>
    match s.tasks t with
    | .inside .done => some (s.release t now)
    | .outside .done => some (s.setTask t .idle)
    | _ => none

/-! ## What should hold -/

/-- The lock is released by whoever leaves a section. -/
structure MutexReleased (s : LoadThreads) : Prop where
  /-- Only a thread in a section has the lock. -/
  left : ∀ t ∈ s.monitor.mutex.holders, (s.tasks t).Inside
  /-- It is counted, so that without such a thread the lock is free. -/
  counted : s.monitor.mutex.count = s.monitor.mutex.holders.length
  /-- When a thread waits, one was woken or is in a section. -/
  served : s.monitor.mutex.waiters ≠ [] →
    s.monitor.mutex.woken ≠ [] ∨ ∃ t, (s.tasks t).Inside

/-- A statement of a section finds what it reads: the keys of the slot, and the log file after the test
that it is there. -/
def SectionRuns (s : LoadThreads) : Event → Prop
  | .advance t _ =>
    match s.tasks t with
    | .inside rest => rest.error s.monitor = none
    | _ => True
  | _ => True

/-- The invariant of the runs in which every section runs to its end. -/
structure Inv (s : LoadThreads) : Prop extends MutexReleased s where
  /-- A thread in a section has the lock. -/
  holds : ∀ t, (s.tasks t).Inside → t ∈ s.monitor.mutex.holders
  /-- It has it once. -/
  once : s.monitor.mutex.holders.Nodup
  /-- It gives it back with `release` only. -/
  keeps : ∀ t, (s.tasks t).KeepsMutex

variable {s s' : LoadThreads} {t : MonitorThread}

/-- Nobody has used the monitor. -/
lemma inv_init (slots : List Slot) : (init slots).Inv where
  left _ h := by cases h
  counted := rfl
  served h := absurd rfl h
  holds _ h := h.elim
  once := List.nodup_nil
  keeps _ := trivial

/-! ## One step -/

/-- The task that was set. -/
@[simp] lemma setTask_self (task : LoadTask) : (s.setTask t task).tasks t = task :=
  Function.update_self ..

/-- The other threads go on. -/
lemma setTask_of_ne {u : MonitorThread} (hne : u ≠ t) (task : LoadTask) :
    (s.setTask t task).tasks u = s.tasks u :=
  Function.update_of_ne hne ..

/-- What holds of the new task and of the others holds of all. -/
lemma forall_setTask {P : MonitorThread → LoadTask → Prop} {task : LoadTask} (htask : P t task)
    (h : ∀ u, u ≠ t → P u (s.tasks u)) (u : MonitorThread) : P u ((s.setTask t task).tasks u) := by
  obtain rfl | hne := eq_or_ne u t
  · rw [setTask_self]
    exact htask
  · rw [setTask_of_ne hne]
    exact h u hne

/-- A thread changes the monitor, but not the lock. -/
lemma Inv.setMonitor (h : s.Inv) {m : LoadMonitor} (hm : m.mutex = s.monitor.mutex) :
    Inv { s with monitor := m } where
  left := by simpa only [hm] using h.left
  counted := by simpa only [hm] using h.counted
  served := by simpa only [hm] using h.served
  holds := by simpa only [hm] using h.holds
  once := by simpa only [hm] using h.once
  keeps := h.keeps

/-- A thread does something else, and is in a section as before. -/
lemma Inv.setTask (h : s.Inv) {task : LoadTask} (hinside : task.Inside ↔ (s.tasks t).Inside)
    (hkeeps : task.KeepsMutex) : (s.setTask t task).Inv := by
  have hsame : ∀ u, ((s.setTask t task).tasks u).Inside ↔ (s.tasks u).Inside :=
    forall_setTask (P := fun u task => task.Inside ↔ (s.tasks u).Inside) hinside
      fun _ _ => Iff.rfl
  refine ⟨⟨fun u hu => (hsame u).mpr (h.left u hu), h.counted, fun hwaiters => ?_⟩,
    fun u hu => h.holds u ((hsame u).mp hu), h.once,
    forall_setTask (P := fun _ => LoadTask.KeepsMutex) hkeeps fun u _ => h.keeps u⟩
  exact (h.served hwaiters).imp_right fun ⟨u, hu⟩ => ⟨u, (hsame u).mpr hu⟩

/-- A thread that does nothing is not in a section. -/
lemma not_inside_of_idle {task : LoadTask} (h : task.Idle) : ¬ task.Inside := by
  cases task with
  | idle => exact not_false
  | waits body => exact h.elim
  | inside rest => exact h.elim
  | outside rest => exact not_false

/-- A thread takes the lock, and enters a section. -/
lemma Inv.enter (h : s.Inv) (hout : ¬ (s.tasks t).Inside) {m : LoadMonitor}
    {body : LoadProgram.Statements} (hbody : LoadProgram.KeepsMutex body)
    (hcount : m.mutex.count = s.monitor.mutex.count + 1)
    (hholders : m.mutex.holders = t :: s.monitor.mutex.holders) :
    (LoadThreads.setTask { s with monitor := m } t (.inside body)).Inv := by
  have hnot : t ∉ s.monitor.mutex.holders := fun ht => hout (h.left t ht)
  have hself : ((LoadThreads.setTask { s with monitor := m } t (.inside body)).tasks t).Inside := by
    rw [setTask_self]
    trivial
  refine ⟨⟨?_, ?_, fun _ => .inr ⟨t, hself⟩⟩, ?_, ?_,
    forall_setTask (P := fun _ => LoadTask.KeepsMutex) hbody fun u _ => h.keeps u⟩
  · intro u hu
    obtain rfl | hu := List.mem_cons.mp (hholders ▸ hu)
    · exact hself
    · have hne : u ≠ t := fun heq => hnot (heq ▸ hu)
      rw [setTask_of_ne hne]
      exact h.left u hu
  · show m.mutex.count = m.mutex.holders.length
    rw [hcount, hholders, h.counted, List.length_cons]
  · show ∀ u, _ → u ∈ m.mutex.holders
    rw [hholders]
    exact forall_setTask (P := fun u task => task.Inside → u ∈ t :: s.monitor.mutex.holders)
      (fun _ => List.mem_cons_self) fun u _ hu => List.mem_cons_of_mem t (h.holds u hu)
  · show m.mutex.holders.Nodup
    rw [hholders]
    exact List.nodup_cons.mpr ⟨hnot, h.once⟩

/-- A thread asks for the lock. -/
lemma Inv.ask (h : s.Inv) (hidle : (s.tasks t).Idle) {body : LoadProgram.Statements}
    (hbody : LoadProgram.KeepsMutex body) : (s.ask t body).Inv := by
  have hout := not_inside_of_idle hidle
  unfold LoadThreads.ask QLock.acquire
  dsimp only
  by_cases hheld : s.monitor.mutex.count ≠ 0
  · -- the lock is held, by a thread that is in a section
    rw [if_pos hheld, if_pos hheld]
    have hsome : s.monitor.mutex.holders ≠ [] := fun hnil => hheld (by rw [h.counted, hnil]; rfl)
    obtain ⟨u, hu⟩ := List.exists_mem_of_ne_nil _ hsome
    have hleft : ∀ v ∈ s.monitor.mutex.holders, v ≠ t := fun v hv heq => hout (heq ▸ h.left v hv)
    refine ⟨⟨fun v hv => ?_, h.counted, fun _ => .inr ⟨u, ?_⟩⟩, ?_, h.once,
      forall_setTask (P := fun _ => LoadTask.KeepsMutex) hbody fun u _ => h.keeps u⟩
    · rw [setTask_of_ne (hleft v hv)]
      exact h.left v hv
    · rw [setTask_of_ne (hleft u hu)]
      exact h.left u hu
    · exact forall_setTask (P := fun u task => task.Inside → u ∈ s.monitor.mutex.holders) False.elim
        fun u _ => h.holds u
  · rw [if_neg hheld, if_neg hheld]
    exact h.enter hout hbody rfl rfl

/-- A thread releases the lock at the end of its section. -/
lemma Inv.release (h : s.Inv) (hinside : (s.tasks t).Inside) {now : ℚ} : (s.release t now).Inv := by
  have ht := h.holds t hinside
  have hcount : s.monitor.mutex.count ≠ 0 := by
    rw [h.counted]
    exact (List.length_pos_of_mem ht).ne'
  have hrelease : ∃ mutex, s.monitor.mutex.release t = .ok mutex ∧
      mutex.count = s.monitor.mutex.count - 1 ∧
      mutex.holders = s.monitor.mutex.holders.erase t ∧ (mutex.waiters ≠ [] → mutex.woken ≠ []) := by
    unfold QLock.release
    rw [if_neg hcount]
    dsimp only
    cases s.monitor.mutex.waiters with
    | nil => exact ⟨_, rfl, rfl, rfl, fun hne => absurd rfl hne⟩
    | cons w waiters => exact ⟨_, rfl, rfl, rfl, fun _ => by simp⟩
  obtain ⟨mutex, heq, hcount', hholders, hserved⟩ := hrelease
  unfold LoadThreads.release
  rw [heq]
  dsimp only
  refine ⟨⟨fun u hu => ?_, ?_, fun hne => .inl (hserved hne)⟩, ?_, ?_,
    forall_setTask (P := fun _ => LoadTask.KeepsMutex) trivial fun u _ => h.keeps u⟩
  · obtain ⟨hne, hu⟩ := (List.Nodup.mem_erase_iff h.once).mp (hholders ▸ hu)
    rw [setTask_of_ne hne]
    exact h.left u hu
  · show mutex.count = mutex.holders.length
    rw [hcount', hholders, List.length_erase_of_mem ht, h.counted]
  · show ∀ u, _ → u ∈ mutex.holders
    rw [hholders]
    exact forall_setTask (P := fun u task => task.Inside → u ∈ s.monitor.mutex.holders.erase t)
      False.elim fun u hne hu => (List.mem_erase_of_ne hne).mpr (h.holds u hu)
  · show mutex.holders.Nodup
    rw [hholders]
    exact h.once.erase t

/-- A reading error. -/
lemma Inv.countReadingError (h : s.Inv) (hout : ¬ (s.tasks .monitor).Inside) {now : ℚ} :
    (s.countReadingError now).Inv := by
  have hcount : Inv { s with monitor :=
      { s.monitor with readingError := s.monitor.readingError + 1, pc := .looping } } :=
    h.setMonitor rfl
  refine hcount.setTask (iff_of_false ?_ hout) ?_
  · split_ifs <;> exact not_false
  · split_ifs
    · exact LoadProgram.keepsMutex_shutdown
    · trivial

/-- An exception in `shutdown` ends what the thread does. -/
lemma Inv.raised (h : s.Inv) (hout : ¬ (s.tasks t).Inside) {now : ℚ} : (s.raised t now).Inv := by
  cases t with
  | caller i => exact h.setTask (iff_of_false not_false hout) trivial
  | monitor =>
    unfold LoadThreads.raised
    dsimp only
    split_ifs
    · exact h.countReadingError hout
    · have hended : Inv { s with monitor := { s.monitor with pc := .ended } } := h.setMonitor rfl
      exact hended.setTask (iff_of_false not_false hout) trivial

/-- A thread that leaves a section with an exception keeps the lock. -/
lemma not_mutexReleased_raised (ht : t ∈ s.monitor.mutex.holders) {now : ℚ} :
    ¬ (s.raised t now).MutexReleased := by
  intro h
  cases t with
  | caller i =>
    have hinside := h.left (.caller i) ht
    unfold LoadThreads.raised at hinside
    dsimp only at hinside
    rw [setTask_self] at hinside
    exact hinside
  | monitor =>
    unfold LoadThreads.raised at h
    dsimp only at h
    split_ifs at h
    · have hinside := h.left .monitor ht
      unfold LoadThreads.countReadingError at hinside
      rw [setTask_self] at hinside
      split_ifs at hinside
      · exact hinside
      · exact hinside
    · have hinside := h.left .monitor ht
      rw [setTask_self] at hinside
      exact hinside

/-- What a statement leads to: the thread goes on, or an exception ends what it does. -/
lemma execute_cases (s : LoadThreads) (t : MonitorThread) (now : ℚ) (f : LoadMonitor → LoadMonitor)
    (next : LoadMonitor → LoadProgram.Statements) (task : LoadProgram.Statements → LoadTask) :
    ((Program.act f next).error s.monitor = none ∧ s.execute t now f next task =
        LoadThreads.setTask { s with monitor := f s.monitor } t (task (next s.monitor))) ∨
      ((Program.act f next).error s.monitor ≠ none ∧ s.execute t now f next task =
        LoadThreads.raised { s with monitor := f s.monitor } t now) := by
  unfold execute Program.error
  dsimp only
  cases next s.monitor with
  | done => exact .inl ⟨rfl, rfl⟩
  | raise e => exact .inr ⟨by simp, rfl⟩
  | act f next => exact .inl ⟨rfl, rfl⟩

/-- A step that is not a statement of a section. -/
lemma Inv.step_of_ne (h : s.Inv) {e : Event} (he : ∀ t now, e ≠ .advance t now)
    (hstep : step s e = some s') : s'.Inv := by
  cases e with
  | start now =>
    obtain ⟨⟨-, hidle⟩, heq⟩ := Option.ite_none_right_eq_some.mp hstep
    obtain rfl := Option.some.inj heq
    have hrunning : Inv { s with monitor := { s.monitor with running := true } } := h.setMonitor rfl
    exact hrunning.ask hidle LoadProgram.keepsMutex_updateSlot
  | loop =>
    obtain ⟨-, heq⟩ := Option.ite_none_right_eq_some.mp hstep
    obtain rfl := Option.some.inj heq
    exact h.setMonitor rfl
  | read answer now =>
    obtain ⟨⟨-, hidle⟩, heq⟩ := Option.ite_none_right_eq_some.mp hstep
    split at heq
    · obtain rfl := Option.some.inj heq
      exact h.setMonitor rfl
    · obtain rfl := Option.some.inj heq
      exact h.countReadingError (not_inside_of_idle hidle)
  | update now =>
    obtain ⟨⟨-, hidle⟩, heq⟩ := Option.ite_none_right_eq_some.mp hstep
    obtain rfl := Option.some.inj heq
    exact h.ask hidle LoadProgram.keepsMutex_updateSlot
  | check now =>
    obtain ⟨⟨-, hidle⟩, heq⟩ := Option.ite_none_right_eq_some.mp hstep
    obtain rfl := Option.some.inj heq
    exact h.ask hidle LoadProgram.keepsMutex_checkLoadStability
  | reconfigure i slots =>
    obtain ⟨hidle, heq⟩ := Option.ite_none_right_eq_some.mp hstep
    obtain rfl := Option.some.inj heq
    exact h.ask hidle LoadProgram.keepsMutex_reconfigure
  | shutdown i now =>
    obtain ⟨hidle, heq⟩ := Option.ite_none_right_eq_some.mp hstep
    obtain rfl := Option.some.inj heq
    exact h.setTask (iff_of_false not_false (not_inside_of_idle hidle)) LoadProgram.keepsMutex_shutdown
  | enable value =>
    obtain rfl := Option.some.inj hstep
    exact h.setMonitor rfl
  | wake t =>
    simp only [step] at hstep
    split at hstep
    · rename_i body htask
      obtain ⟨-, heq⟩ := Option.ite_none_right_eq_some.mp hstep
      obtain rfl := Option.some.inj heq
      have hbody := h.keeps t
      rw [htask] at hbody
      exact h.enter (by rw [htask]; exact not_false) hbody rfl rfl
    · cases hstep
  | advance t now => exact absurd rfl (he t now)
  | finish t now =>
    simp only [step] at hstep
    split at hstep
    · rename_i htask
      obtain rfl := Option.some.inj hstep
      exact h.release (by rw [htask]; trivial)
    · rename_i htask
      obtain rfl := Option.some.inj hstep
      exact h.setTask (by rw [htask]; exact Iff.rfl) trivial
    · cases hstep

/-- A statement of a section, or of `shutdown`: it leaves the lock released exactly when it is not one of
a section that raises. -/
lemma Inv.advance_iff (h : s.Inv) {now : ℚ} (hstep : step s (.advance t now) = some s') :
    (s.SectionRuns (.advance t now) → s'.Inv) ∧
      (¬ s.SectionRuns (.advance t now) → ¬ s'.MutexReleased) := by
  have hkeeps := h.keeps t
  simp only [step] at hstep
  split at hstep
  · rename_i f next htask
    obtain rfl := Option.some.inj hstep
    rw [htask] at hkeeps
    have hinside : (s.tasks t).Inside := by
      rw [htask]
      trivial
    have hruns : s.SectionRuns (.advance t now) ↔ (Program.act f next).error s.monitor = none := by
      simp only [SectionRuns, htask]
    have hf : Inv { s with monitor := f s.monitor } := h.setMonitor (hkeeps.1 s.monitor)
    obtain ⟨hnone, heq⟩ | ⟨hsome, heq⟩ := execute_cases s t now f next .inside
    · rw [heq]
      exact ⟨fun _ => hf.setTask (iff_of_true trivial hinside) (hkeeps.2 s.monitor),
        fun hnot => absurd (hruns.mpr hnone) hnot⟩
    · rw [heq]
      exact ⟨fun hnone => absurd (hruns.mp hnone) hsome,
        fun _ => not_mutexReleased_raised (hf.holds t hinside)⟩
  · rename_i f next htask
    obtain rfl := Option.some.inj hstep
    rw [htask] at hkeeps
    have hout : ¬ (s.tasks t).Inside := by
      rw [htask]
      exact not_false
    have hruns : s.SectionRuns (.advance t now) := by
      simp only [SectionRuns, htask]
    have hf : Inv { s with monitor := f s.monitor } := h.setMonitor (hkeeps.1 s.monitor)
    refine ⟨fun _ => ?_, fun hnot => absurd hruns hnot⟩
    obtain ⟨-, heq⟩ | ⟨-, heq⟩ := execute_cases s t now f next .outside
    · rw [heq]
      exact hf.setTask (iff_of_false not_false hout) (hkeeps.2 s.monitor)
    · rw [heq]
      exact hf.raised hout
  · cases hstep

/-- **One step.**  While the lock is released, a step leaves it released exactly when it is not a statement
of a section that raises. -/
lemma Inv.step_iff (h : s.Inv) {e : Event} (hstep : step s e = some s') :
    (s.SectionRuns e → s'.Inv) ∧ (¬ s.SectionRuns e → ¬ s'.MutexReleased) := by
  cases e with
  | advance t now => exact h.advance_iff hstep
  | _ => exact ⟨fun _ => h.step_of_ne (by simp) hstep, fun hnot => absurd trivial hnot⟩

/-- One slot that lasts for an hour, at a load of 50. -/
def hourSlot : Slot :=
  { time := some 3600, targetLoad := some 50, variance := some 10, transition := some (some 10) }

/-- A thread executes some statements, and is at the end. -/
def runsThrough (t : MonitorThread) (statements : ℕ) (now : ℚ) : List Event :=
  List.replicate statements (.advance t now) ++ [.finish t now]

/-- The load is reached, and later the slots are replaced between the update of the slot and the check of
the load. -/
def reconfiguredInBetween : List Event :=
  [.start 1] ++ runsThrough .monitor 16 1 ++ [.loop, .read (some (some 50)) 2, .update 2] ++
    runsThrough .monitor 10 2 ++ [.check 2] ++ runsThrough .monitor 8 2 ++
    [.loop, .read (some (some 50)) 3, .update 3] ++ runsThrough .monitor 10 3 ++
    [.reconfigure 0 [hourSlot]] ++ runsThrough (.caller 0) 4 3 ++ [.check 3] ++
    List.replicate 9 (.advance .monitor 3)

end LoadThreads

end HssRtc
