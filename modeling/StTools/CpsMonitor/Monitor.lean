import StTools.ScenarioDeployGenerator.Text
import Mathlib.Logic.Function.Basic

/-!
# The monitor of the call rate

`_MonitorThread` asks a traffic tool again and again for its target rate and its current rate, writes an
average of both after every `scan` measurements, and sets the target rates of a schedule, which has a
list of steps for each phase of the traffic.  One pass of its loop is `pass`, whose first part is
`measure` and whose second part is `schedule`.

Fields that are called ghosts are not variables of the program; they record what has happened.
-/

namespace CpsMonitor

open ScenarioDeployGenerator (Text toInt32 atoi isSpace)

/-! ## Commands and their answers -/

/-- What comes back for a command. -/
inductive Answer
  /-- Nothing, for five seconds. -/
  | missing
  /-- The command was not sent, or nothing could be received. -/
  | failure
  /-- A datagram. -/
  | datagram (buff : Text)
  deriving Repr, DecidableEq

/-- The first word of a text. -/
def firstWord (t : Text) : Text := (t.dropWhile isSpace).takeWhile fun c => ¬ isSpace c

/-- `sendCommand`: the text of the answer, which is empty if there is none, unless the thread calls
`exitMonitor`. -/
def sendCommand : Answer → Option Text
  | .missing => some []
  | .failure => none
  | .datagram buff =>
    let answer := buff.takeWhile (· ≠ '\x00')
    if buff = [] ∨ (firstWord answer).map Char.toLower = "error:".toList then none else some answer

/-- An answer that the program counts as one. -/
def Answer.text (a : Answer) : Option Text :=
  match sendCommand a with
  | some (x :: text) => some (x :: text)
  | _ => none

/-- `MAX_NO_ANSWER`. -/
def maxNoAnswer : ℕ := 3

/-! ## The schedule -/

/-- The phases that have a list of steps. -/
inductive Phase
  | pre
  | load
  | post
  deriving Repr, DecidableEq

/-- `Step`. -/
structure Step where
  /-- How many seconds the step lasts. -/
  time : ℤ
  /-- The target rate. -/
  cps : ℤ
  deriving Repr, DecidableEq

/-- The phase that an answer to `get ScGrpStatus` names. -/
def phaseOf (answer : Text) : Option Phase :=
  if "preexec".toList <:+: answer then some .pre
  else if "loadgen".toList <:+: answer then some .load
  else if "postexec".toList <:+: answer then some .post
  else none

/-- Ghost: a command `set targetCps` that was sent. -/
structure Sent where
  /-- The step. -/
  step : Step
  /-- When it was sent, in nanoseconds. -/
  sentAt : ℕ
  /-- Whether it was acknowledged. -/
  answered : Bool
  /-- What `event_time` was. -/
  eventTime : Option ℤ
  deriving Repr, DecidableEq

/-! ## The variables -/

/-- A line of the data file. -/
structure Line where
  /-- The seconds since the start. -/
  seconds : ℤ
  /-- The average of the target rate. -/
  target : ℤ
  /-- The average of the current rate. -/
  current : ℤ
  /-- Ghost: the target and the current rate of each pass since the previous line in which both were
  answered. -/
  measured : List (ℤ × ℤ)
  deriving Repr, DecidableEq

/-- `MonitorStatus`. -/
inductive MonitorStatus
  | off
  | starting
  | on
  | haveToExit
  deriving Repr, DecidableEq

/-- What does not change. -/
structure Config where
  /-- How many measurements make an average. -/
  scan : ℤ
  /-- How often the display is refreshed, if there is one. -/
  refreshTime : ℤ
  /-- Whether there is a schedule. -/
  schedulingEnabled : Bool
  /-- When the thread has read `start_time`. -/
  startTime : ℕ
  /-- What stands in `event_time.tv_sec` before it is set. -/
  unsetTime : ℤ
  deriving Repr, DecidableEq

/-- The variables. -/
structure Monitor where
  /-- `monitorData.status`. -/
  status : MonitorStatus
  /-- `noAnswerCounter`. -/
  noAnswerCounter : ℕ
  /-- `acc_targetCPS`. -/
  accTargetCPS : ℤ
  /-- `acc_currentCPS`. -/
  accCurrentCPS : ℤ
  /-- `accTimes`. -/
  accTimes : ℕ
  /-- `display_active`. -/
  displayActive : Bool
  /-- `event_time.tv_sec`, once it is set. -/
  eventTime : Option ℤ
  /-- `step_time_stop`. -/
  stepTimeStop : ℤ
  /-- The steps that are left: `q_stepPre`, `q_stepLoad`, `q_stepPost`. -/
  steps : Phase → List Step
  /-- The averages in the data file. -/
  outFile : List Line
  /-- The thread has called `exitMonitor`. -/
  exited : Bool
  /-- The monotonic clock, in nanoseconds. -/
  now : ℕ
  /-- Ghost: the measurements since the last line. -/
  measured : List (ℤ × ℤ)
  /-- Ghost: the sum of the target rates since the last line that were answered without a current
  rate. -/
  stray : ℤ
  /-- Ghost: the commands of each phase. -/
  sent : Phase → List Sent
  /-- Ghost: since the last acknowledged command of the phase a status without traffic has come. -/
  idled : Phase → Bool
  /-- Ghost: a step with time 0 had its turn. -/
  passedOver : Phase → Bool

/-- The whole seconds of a time. -/
def seconds (t : ℕ) : ℤ := (t / 1000000000 : ℕ)

/-- The variables before the loop. -/
def init (cfg : Config) (steps : Phase → List Step) : Monitor where
  status := .starting
  noAnswerCounter := 0
  accTargetCPS := 0
  accCurrentCPS := 0
  accTimes := 0
  displayActive := false
  eventTime := none
  stepTimeStop := 0
  steps := steps
  outFile := []
  exited := false
  now := cfg.startTime
  measured := []
  stray := 0
  sent := fun _ => []
  idled := fun _ => false
  passedOver := fun _ => false

/-! ## A pass of the loop -/

/-- What happens in a pass. -/
structure Pass where
  /-- What comes back for `get targetCps`. -/
  target : Answer
  /-- What comes back for `get currentCps`. -/
  current : Answer
  /-- Whether a display that is due could be started. -/
  displayStarts : Bool
  /-- The time from the end of the last pass to the moment when the clock may be read. -/
  untilRead : ℕ
  /-- What comes back for `get ScGrpStatus`. -/
  status : Answer
  /-- The time from then to the moment when a step may be sent. -/
  untilSent : ℕ
  /-- What comes back for `set targetCps`. -/
  set : Answer
  deriving Repr, DecidableEq

/-- `exitMonitor`. -/
def Monitor.exitMonitor (s : Monitor) : Monitor := { s with exited := true }

/-- One more command without an answer: three in a row are too many. -/
def Monitor.noAnswer (s : Monitor) : Monitor :=
  let s := { s with noAnswerCounter := s.noAnswerCounter + 1 }
  if maxNoAnswer ≤ s.noAnswerCounter ∧ s.status = .on then s.exitMonitor else s

/-- The target rate was answered. -/
def Monitor.addTarget (s : Monitor) (target : ℤ) : Monitor :=
  { s with noAnswerCounter := 0, accTargetCPS := toInt32 (s.accTargetCPS + target) }

/-- The current rate was answered as well. -/
def Monitor.turnOn (s : Monitor) : Monitor :=
  { s with
    status := if s.status = .haveToExit then s.status else .on
    noAnswerCounter := 0 }

/-- The current rate is added up, and the passes are counted. -/
def Monitor.addCurrent (s : Monitor) (target current : ℤ) : Monitor :=
  { s with
    accCurrentCPS := toInt32 (s.accCurrentCPS + current)
    accTimes := s.accTimes + 1
    measured := s.measured ++ [(target, current)] }

/-- After `scan` passes the clock is read, and an average is written. -/
def Monitor.average (cfg : Config) (s : Monitor) : Monitor :=
  if s.accTimes = cfg.scan ∧ cfg.scan ≠ 0 then
    { s with
      eventTime := some (seconds s.now)
      outFile := s.outFile ++ [{
        seconds := seconds s.now - seconds cfg.startTime
        target := s.accTargetCPS.tdiv s.accTimes
        current := s.accCurrentCPS.tdiv s.accTimes
        measured := s.measured }]
      accTimes := 0
      accCurrentCPS := 0
      accTargetCPS := 0
      measured := []
      stray := 0 }
  else s

/-- A display is due and cannot be started. -/
def Pass.DisplayFails (cfg : Config) (c : Pass) (displayActive : Bool) : Prop :=
  displayActive = false ∧ 0 < cfg.refreshTime ∧ c.displayStarts = false

instance (cfg : Config) (c : Pass) (displayActive : Bool) :
    Decidable (c.DisplayFails cfg displayActive) :=
  inferInstanceAs (Decidable (_ ∧ _ ∧ _))

/-- The part of the loop up to the averages.  It ends with an `error` where the program goes to the
next pass or exits. -/
def Monitor.measure (cfg : Config) (c : Pass) (s : Monitor) : Except Monitor Monitor :=
  let s := { s with now := s.now + c.untilRead }
  match sendCommand c.target with
  | none => .error s.exitMonitor
  | some [] => .error s.noAnswer
  | some target =>
    let s := s.addTarget (atoi target)
    match sendCommand c.current with
    | none => .error { s with stray := s.stray + atoi target }.exitMonitor
    | some [] => .error { s with stray := s.stray + atoi target }.noAnswer
    | some current =>
      let s := s.turnOn
      if c.DisplayFails cfg s.displayActive then .error { s with stray := s.stray + atoi target }.exitMonitor
      else
        let s := { s with displayActive := s.displayActive || decide (0 < cfg.refreshTime) }
        .ok ((s.addCurrent (atoi target) (atoi current)).average cfg)

/-- The step of the phase that is due. -/
def Monitor.due (cfg : Config) (p : Phase) (s : Monitor) : Option Step :=
  if s.stepTimeStop < s.eventTime.getD cfg.unsetTime then (s.steps p).head? else none

/-- A step is taken out of its list and sent. -/
def Monitor.send (p : Phase) (step : Step) (c : Pass) (answered : Bool) (s : Monitor) : Monitor :=
  { s with
    steps := Function.update s.steps p (s.steps p).tail
    sent := Function.update s.sent p
      (s.sent p ++ [⟨step, s.now + c.untilSent, answered, s.eventTime⟩]) }

/-- The command was acknowledged: the time up to which the step lasts is set. -/
def Monitor.hold (cfg : Config) (p : Phase) (step : Step) (s : Monitor) : Monitor :=
  { s with
    stepTimeStop := s.eventTime.getD cfg.unsetTime + step.time
    idled := Function.update s.idled p false }

/-- The step of a running phase that is due, if there is one, has its turn. -/
def Monitor.takeTurn (cfg : Config) (c : Pass) (p : Phase) (s : Monitor) : Monitor :=
  match s.due cfg p with
  | none => s
  | some step =>
    if step.time = 0 then { s with passedOver := Function.update s.passedOver p true }
    else
      match sendCommand c.set with
      | none => (s.send p step c false).exitMonitor
      | some [] => (s.send p step c false).noAnswer
      | some _ => (s.send p step c true).hold cfg p step

/-- The part of the loop about the schedule. -/
def Monitor.schedule (cfg : Config) (c : Pass) (s : Monitor) : Monitor :=
  match sendCommand c.status with
  | none => s.exitMonitor
  | some answer =>
    if "RUNNING".toList <:+: answer then
      match phaseOf answer with
      | none => s
      | some p => s.takeTurn cfg c p
    else { s with stepTimeStop := 0, idled := fun _ => true }

/-- The body of the loop. -/
def Monitor.pass (cfg : Config) (c : Pass) (s : Monitor) : Monitor :=
  match s.measure cfg c with
  | .error s => s
  | .ok s =>
    let s := if cfg.schedulingEnabled then s.schedule cfg c else s
    { s with now := s.now + c.untilSent }

/-- What may happen: a pass of the loop, or a signal to terminate.  A signal during a pass has no
other effect than one right after it. -/
inductive Event
  | pass (c : Pass)
  | terminate
  deriving Repr, DecidableEq

/-- One step, until the thread has exited. -/
def step (cfg : Config) (s : Monitor) : Event → Option Monitor
  | .pass c =>
    if s.exited then none
    else if s.status = .haveToExit then some s.exitMonitor
    else some (s.pass cfg c)
  | .terminate => if s.exited then none else some { s with status := .haveToExit }

end CpsMonitor
