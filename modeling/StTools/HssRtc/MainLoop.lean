import StTools.HssRtc.TestSuite
import StTools.Lib.LabelledSystem

/-!
# The main loop and its remote control

`HSS_rtc` runs two threads.  The main thread executes the test cases of a suite in a loop.  The
thread of the remote control receives commands and changes three flags of the main thread, `paused`,
`exit_rtc` and `exit_test_case`; a command is a short program of such assignments, with the answer
somewhere in it.

A step is one read or one write of a flag, so every interleaving of the two threads is a run.  What
happens inside of a phase is left to events: the verdicts, the execution status, and how the phases
end.  The ghost fields keep the history of the attempts and what became of the last order to quit.
-/

namespace HssRtc

/-! ## The remote control -/

/-- The commands that the remote control knows; those that change nothing here are one. -/
inductive Command
  | quit
  | continueQuit
  | forceQuit
  | resume
  /-- `set test_execution_status`; `none` stands for a value that is not allowed. -/
  | setTestExecutionStatus (failed : Option Bool)
  | setHssBuild (build : List Char)
  | other
  deriving DecidableEq

/-- What the thread of the remote control does for a command, one statement at a time. -/
inductive Act
  /-- The answer is sent. -/
  | answer (c : Command)
  /-- `RTC.paused = False`. -/
  | unpause
  | setExitRtc (value : Bool)
  | setExitTestCase (value : Bool)
  | setTestExecutionStatus (failed : Bool)
  | setHssBuild (build : List Char)
  /-- The process sends itself `SIGINT`. -/
  | kill
  deriving DecidableEq

/-- The statements for a command. -/
def Command.program : Command → List Act
  | .quit => [.answer .quit, .unpause, .setExitRtc true, .setExitTestCase false]
  | .continueQuit =>
    [.answer .continueQuit, .unpause, .setExitTestCase true, .setExitRtc false, .kill]
  | .forceQuit => [.answer .forceQuit, .unpause, .setExitTestCase true, .setExitRtc true, .kill]
  | .resume => [.unpause, .answer .resume]
  | .setTestExecutionStatus failed =>
    (failed.map Act.setTestExecutionStatus).toList ++ [.answer (.setTestExecutionStatus failed)]
  | .setHssBuild build => [.setHssBuild build, .answer (.setHssBuild build)]
  | .other => [.answer .other]

/-! ## The main thread -/

/-- Where the main thread is. -/
inductive MainPc
  /-- At the top of the loop, in `while self.__paused`. -/
  | top
  /-- About to test `exit_rtc`. -/
  | testing
  /-- It has the next test case and is about to clear `exit_rtc`. -/
  | initializing
  /-- About to clear `exit_test_case`. -/
  | clearing
  /-- About to check the references of the test case. -/
  | checking
  /-- The phases of the test case are executed. -/
  | executing
  /-- The test case has ended. -/
  | closing
  /-- About to look whether the controller is to be told. -/
  | announcing
  /-- The signal was emitted, and `paused` is about to be set. -/
  | pausing
  /-- The loop has ended. -/
  | ended
  deriving DecidableEq

/-- How the phases of a test case end. -/
inductive Outcome
  | finished
  /-- `exit_test_case` was seen between two phases. -/
  | exitOrdered
  /-- `ExecutionConfigurationError`, `ExecutionStartError` or `ExecutionRunError`. -/
  | executionError (message : String)
  | batError (message : String)
  | exitRtc
  | stopTestCaseOnFail
  | otherException
  deriving DecidableEq

/-- What becomes of the test case. -/
def Outcome.apply (o : Outcome) (t : TestCase) : TestCase :=
  match o with
  | .finished => t.updateStatus .finished "" false
  | .exitOrdered =>
    (t.updateStatus .notFinished "Test case exit order has been received" false).updateStatus
      .finished "" false
  | .executionError message => t.updateStatus .notFinished message false
  | .batError message => t.updateStatus .notFinished message true
  | .exitRtc | .stopTestCaseOnFail | .otherException => t.updateStatus .notFinished "" false

/-- An outcome changes nothing that the test case was created from. -/
@[simp] lemma Outcome.apply_toDefinition (o : Outcome) (t : TestCase) :
    (o.apply t).toDefinition = t.toDefinition := by
  cases o <;> simp [Outcome.apply]

/-- What became of the last order to quit, unless a `continue_quit` has followed. -/
inductive QuitState
  | none
  /-- The answer `ORDERED` was sent. -/
  | ordered
  /-- And `paused` was reset. -/
  | unpaused
  /-- And `exit_rtc` was set. -/
  | applied
  deriving DecidableEq

/-- `HSS_rtc`. -/
structure Rtc where
  paused : Bool
  exitRtc : Bool
  exitTestCase : Bool
  testSuite : TestSuite
  /-- `user_config.dbus`: the controller listens. -/
  dbus : Bool
  hssBuild : List Char
  pc : MainPc
  /-- The commands that were sent and not received. -/
  inbox : List Command
  /-- What is left of the command that the remote control executes. -/
  todo : List Act
  /-- The `SIGINT`s that the main thread has not noticed. -/
  interrupts : ℕ
  /-- Ghost: the attempts so far. -/
  history : List Attempt
  /-- Ghost: the last order to quit. -/
  quit : QuitState
  /-- Ghost: since that order, another test case was taken from the suite. -/
  chosenSince : Bool
  /-- Ghost: since that order, a test case that was not running was executed. -/
  executedSince : Bool

/-- `HSS_rtc` at the start of `run`. -/
def Rtc.init (dbus : Bool) (hssBuild : List Char) (file : List Definition) : Rtc where
  paused := false
  exitRtc := false
  exitTestCase := false
  testSuite := TestSuite.ofFile file
  dbus := dbus
  hssBuild := hssBuild
  pc := .top
  inbox := []
  todo := []
  interrupts := 0
  history := []
  quit := .none
  chosenSince := false
  executedSince := false

namespace Rtc

/-- How `check_reference` ends. -/
inductive CheckOutcome
  | allowed
  | notAllowed (reason : String)
  deriving DecidableEq

/-- What can happen. -/
inductive Event
  /-- A command is sent to `HSS_rtc`. -/
  | send (c : Command)
  /-- The remote control receives a command. -/
  | receive (index : ℕ)
  /-- It makes its next statement. -/
  | act
  /-- The user interrupts. -/
  | ctrlC
  /-- The main thread looks at `paused`. -/
  | wake
  /-- It looks at `exit_rtc`, and takes the next test case. -/
  | exitTest
  /-- It clears `exit_rtc`. -/
  | clearExitRtc
  /-- It clears `exit_test_case`. -/
  | clearExitTestCase
  /-- It checks the references, and the test case is running or skipped. -/
  | checkReference (o : CheckOutcome)
  /-- A phase reports a failure. -/
  | updateVerdict (message : String) (repeats : Bool)
  /-- A phase sets the execution status. -/
  | setExecutionStatus (failed : Bool)
  /-- The phases end. -/
  | finish (o : Outcome)
  /-- The main thread is interrupted; `second` says that the user interrupts once more when asked. -/
  | interrupt (second : Bool)
  /-- The test case is closed, and repeated if it shall be. -/
  | close
  /-- The controller is told that there could be a new build. -/
  | announce
  /-- `self.__paused = True`. -/
  | setPaused
  /-- An exception outside of all handlers. -/
  | escape
  deriving DecidableEq

/-- One statement of the remote control. -/
def runAct (s : Rtc) : Act → Rtc
  | .answer .quit =>
    if s.quit = .none then
      { s with quit := .ordered, chosenSince := false, executedSince := false }
    else s
  | .answer .continueQuit => { s with quit := .none }
  | .answer _ => s
  | .unpause =>
    { s with paused := false, quit := if s.quit = .ordered then .unpaused else s.quit }
  | .setExitRtc value =>
    { s with exitRtc := value, quit := if s.quit = .unpaused then .applied else s.quit }
  | .setExitTestCase value => { s with exitTestCase := value }
  | .setTestExecutionStatus failed =>
    { s with testSuite := s.testSuite.forceExecutionStatus failed }
  | .setHssBuild build => { s with hssBuild := build }
  | .kill => { s with interrupts := s.interrupts + 1 }

/-- The next test case, unless the exit was ordered. -/
def exitTest (s : Rtc) : Rtc :=
  if s.exitRtc then { s with pc := .ended }
  else
    match s.testSuite.nextTextCase with
    | none => { s with pc := .ended }
    | some testSuite =>
      { s with testSuite := testSuite, pc := .initializing, chosenSince := true }

/-- The end of `initialize`. -/
def checkReference (s : Rtc) : CheckOutcome → Rtc
  | .allowed =>
    { s with
      testSuite := s.testSuite.updateCurrent fun t => t.updateStatus .running "" false
      pc := .executing
      executedSince := true }
  | .notAllowed reason =>
    { s with
      testSuite := s.testSuite.updateCurrent fun t => t.updateStatus .skipped reason false
      pc := .top
      history := s.history ++ (s.testSuite.currentTextCase.map fun t =>
        ⟨t.toDefinition, false, false⟩).toList }

/-- The handlers of `run`: after `ExitRtc` the loop ends, unless the test case shall be repeated. -/
def finish (s : Rtc) (o : Outcome) : Rtc :=
  let testSuite := s.testSuite.updateCurrent o.apply
  { s with
    testSuite := testSuite
    pc := .closing
    exitRtc := s.exitRtc ||
      (o = .exitRtc && !(testSuite.currentTextCase.any TestCase.shallRepeat)) }

/-- The handler of `KeyboardInterrupt`: without an order the user is asked. -/
def interrupt (s : Rtc) (second : Bool) : Rtc :=
  if s.pc = .executing then
    { s with
      interrupts := s.interrupts - 1
      testSuite := s.testSuite.updateCurrent fun t =>
        t.updateStatus .notFinished "Test case stopped by user" false
      pc := .closing
      exitRtc := s.exitRtc || (!s.exitTestCase && second) }
  else { s with interrupts := s.interrupts - 1, pc := .ended }

/-- The test case is closed. -/
def close (s : Rtc) : Rtc :=
  let repeats := s.testSuite.currentTextCase.any TestCase.shallRepeat
  { s with
    testSuite := if repeats then s.testSuite.repeatTestCase else s.testSuite
    pc := .announcing
    history := s.history ++ (s.testSuite.currentTextCase.map fun t =>
      ⟨t.toDefinition, true, repeats⟩).toList }

/-- The controller is to be told. -/
def Announces (s : Rtc) : Prop :=
  s.dbus = true ∧ (s.testSuite.nextTestCaseIsOptional = true ∨ s.testSuite.failed = true)

instance (s : Rtc) : Decidable s.Announces := inferInstanceAs (Decidable (_ ∧ _))

/-- One step. -/
def step (s : Rtc) : Event → Option Rtc
  | .send c => some { s with inbox := s.inbox ++ [c] }
  | .receive index =>
    match s.todo, s.inbox[index]? with
    | [], some c => some { s with inbox := s.inbox.eraseIdx index, todo := c.program }
    | _, _ => none
  | .act =>
    match s.todo with
    | [] => none
    | a :: todo => some ({ s with todo := todo }.runAct a)
  | .ctrlC => some { s with interrupts := s.interrupts + 1 }
  | .wake =>
    if s.pc = .top then some { s with pc := if s.paused then .top else .testing } else none
  | .exitTest => if s.pc = .testing then some s.exitTest else none
  | .clearExitRtc =>
    if s.pc = .initializing then some { s with exitRtc := false, pc := .clearing } else none
  | .clearExitTestCase =>
    if s.pc = .clearing then some { s with exitTestCase := false, pc := .checking } else none
  | .checkReference o => if s.pc = .checking then some (s.checkReference o) else none
  | .updateVerdict message repeats =>
    if s.pc = .executing then
      some { s with testSuite := s.testSuite.updateCurrent fun t => t.addFailure message repeats }
    else none
  | .setExecutionStatus failed =>
    if s.pc = .executing then
      some { s with testSuite := s.testSuite.setExecutionStatus failed }
    else none
  | .finish o =>
    if s.pc = .executing ∧ (o = .exitOrdered → s.exitTestCase = true) then some (s.finish o)
    else none
  | .interrupt second =>
    if s.interrupts ≠ 0 ∧ s.pc ≠ .ended then some (s.interrupt second) else none
  | .close => if s.pc = .closing then some s.close else none
  | .announce =>
    if s.pc = .announcing then some { s with pc := if s.Announces then .pausing else .top } else none
  | .setPaused => if s.pc = .pausing then some { s with paused := true, pc := .top } else none
  | .escape => if s.pc ≠ .ended then some { s with pc := .ended } else none

/-- The steps of the main thread leave the commands and the order alone, and only one of them sets
`paused`. -/
lemma step_frame {s s' : Rtc} {e : Event} (hsend : ∀ c, e ≠ .send c)
    (hreceive : ∀ index, e ≠ .receive index) (hact : e ≠ .act) (hstep : step s e = some s') :
    s'.inbox = s.inbox ∧ s'.todo = s.todo ∧ s'.quit = s.quit ∧
      (e ≠ .setPaused → s'.paused = s.paused) := by
  cases e with
  | send c => exact absurd rfl (hsend c)
  | receive index => exact absurd rfl (hreceive index)
  | act => exact absurd rfl hact
  | ctrlC =>
    obtain rfl := Option.some.inj hstep
    exact ⟨rfl, rfl, rfl, fun _ => rfl⟩
  | exitTest =>
    obtain ⟨-, heq⟩ := Option.ite_none_right_eq_some.mp hstep
    obtain rfl := Option.some.inj heq
    unfold exitTest
    split_ifs
    · exact ⟨rfl, rfl, rfl, fun _ => rfl⟩
    · split <;> exact ⟨rfl, rfl, rfl, fun _ => rfl⟩
  | checkReference o =>
    obtain ⟨-, heq⟩ := Option.ite_none_right_eq_some.mp hstep
    obtain rfl := Option.some.inj heq
    rcases o with _ | reason <;> exact ⟨rfl, rfl, rfl, fun _ => rfl⟩
  | interrupt second =>
    obtain ⟨-, heq⟩ := Option.ite_none_right_eq_some.mp hstep
    obtain rfl := Option.some.inj heq
    unfold interrupt
    split_ifs <;> exact ⟨rfl, rfl, rfl, fun _ => rfl⟩
  | setPaused =>
    obtain ⟨-, heq⟩ := Option.ite_none_right_eq_some.mp hstep
    obtain rfl := Option.some.inj heq
    exact ⟨rfl, rfl, rfl, fun h => absurd rfl h⟩
  | wake | clearExitRtc | clearExitTestCase | updateVerdict | setExecutionStatus | finish | close
  | announce | escape =>
    obtain ⟨-, heq⟩ := Option.ite_none_right_eq_some.mp hstep
    obtain rfl := Option.some.inj heq
    exact ⟨rfl, rfl, rfl, fun _ => rfl⟩

/-- The remote control receives a command between two commands. -/
lemma step_receive {s s' : Rtc} {index : ℕ} (hstep : step s (.receive index) = some s') :
    ∃ c, s.todo = [] ∧ s.inbox[index]? = some c ∧
      s' = { s with inbox := s.inbox.eraseIdx index, todo := c.program } := by
  simp only [step] at hstep
  split at hstep
  · rename_i c hidle hc
    exact ⟨c, hidle, hc, (Option.some.inj hstep).symm⟩
  · cases hstep

/-- The remote control makes the first statement of what is left. -/
lemma step_act {s s' : Rtc} (hstep : step s .act = some s') :
    ∃ a todo, s.todo = a :: todo ∧ s' = { s with todo := todo }.runAct a := by
  simp only [step] at hstep
  split at hstep
  · cases hstep
  · rename_i a todo htodo
    exact ⟨a, todo, htodo, (Option.some.inj hstep).symm⟩

end Rtc

end HssRtc
