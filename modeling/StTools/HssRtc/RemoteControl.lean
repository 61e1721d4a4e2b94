import StTools.HssRtc.PauseHandshake
import StTools.RunTitansim.PythonText
import StTools.Lib.NamedInstances

/-!
# The texts of the remote control

The controller sends its orders to `HSS_rtc` as texts, and `read_udp_cmd` takes them apart.  This module
goes from the texts to the commands of the main loop (`parse_orderText`), and gives the answer of
`get status`.

When the build under test is cancelled, the controller orders to set the status of the test to
`DISCARDED`.  The remote control allows `SUCCESS` and `FAILED` only: `reflects_iff` says what is left of
the cancellation.
-/

namespace HssRtc

open RtcController (Controller Order)
open BuildHandler (Text)
open RunTitansim (isWhite strip)

attribute [local instance] NamedInstances.lawfulBEq_list

/-! ## From texts to commands -/

/-- The words of a text. -/
def words (t : Text) : List Text := (t.splitOnP isWhite).filter (· ≠ [])

/-- The values that `set test_execution_status` allows. -/
def executionStatusOf (value : Text) : Option Bool :=
  if value = "SUCCESS".toList then some false
  else if value = "FAILED".toList then some true
  else none

/-- What `set` sets. -/
def setCommand (var value : Text) : Command :=
  if var = "test_execution_status".toList then .setTestExecutionStatus (executionStatusOf value)
  else if var = "hss_build".toList then .setHssBuild value
  else .other

/-- The command of a datagram.  What action handlers have subscribed to is left to them. -/
def Command.parse (subscribed : List Text) (data : Text) : Command :=
  match words (strip data) with
  | [] => .other
  | cmd :: param =>
    if cmd ∈ subscribed then .other
    else if cmd = "set".toList then
      match param with
      | [var, value] => setCommand var value
      | _ => .other
    else if cmd = "quit".toList then .quit
    else if cmd = "continue_quit".toList then .continueQuit
    else if cmd = "force_quit".toList then .forceQuit
    else if cmd = "resume".toList then .resume
    else .other

/-- `True` or `False`. -/
def boolText (b : Bool) : Text := if b then "True".toList else "False".toList

/-- The texts that the controller sends. -/
def orderText : Order → Text
  | .quit _ _ => "quit".toList
  | .resume => "resume".toList
  | .setTestExecutionStatusDiscarded => "set test_execution_status DISCARDED".toList
  | .setHighPriority value => "set high_priority ".toList ++ boolText value

/-! ## The remote control -/

/-- The data of `HSS_rtc` that the remote control reads and changes. -/
structure RtcData where
  rtc : Rtc
  owner : Text
  highPriority : Bool
  suiteName : Text
  rootPath : Text

namespace RtcData

/-- Execute the statements of a command. -/
def execute (d : RtcData) (c : Command) : RtcData :=
  { d with rtc := c.program.foldl Rtc.runAct d.rtc }

/-- A number. -/
def numberText (n : ℕ) : Text := (toString n).toList

/-- How many test cases of a kind there are, and how many of them were executed. -/
def phaseText (d : RtcData) (mandatory : Bool) : Text :=
  let testCases := d.rtc.testSuite.testCases.filter (·.mandatory = mandatory)
  let executed := testCases.filter fun t => t.status ≠ .notExecuted ∧ t.status ≠ .running
  (if mandatory then " MANDATORY Executed ".toList else " OPTIONAL  Executed ".toList) ++
    numberText executed.length ++ " (".toList ++ numberText testCases.length ++ ")".toList

/-- The lines of the status. -/
def statusLines (d : RtcData) : List (Text × Text) :=
  [("Status".toList, if d.rtc.exitRtc then "Stopping".toList else "Running".toList),
    ("User".toList, d.owner),
    ("Build".toList, d.rtc.hssBuild),
    ("High Priority".toList, boolText d.highPriority),
    ("Test Suite".toList, d.suiteName),
    ("Phase".toList, d.phaseText true),
    ("Phase".toList, d.phaseText false),
    ("Prov_Result".toList,
      if d.rtc.testSuite.failed then "FAILED".toList else "SUCCESS".toList),
    ("Root_Path".toList, d.rootPath)]

/-- The answer of `get status`. -/
def statusText (d : RtcData) : Text :=
  '\n' :: d.statusLines.flatMap fun line => line.1 ++ ':' :: line.2 ++ ['\n']

/-- `get`; the answer of `get report` is not modelled. -/
def get (d : RtcData) : List Text → Option Text
  | [var] =>
    if var = "report".toList then none
    else if var = "status".toList then some d.statusText
    else some ("ERROR: ".toList ++ var ++ " NOT FOUND".toList)
  | _ => some "WRONG SYNTAX: get <var_name>".toList

/-- `set`. -/
def set (d : RtcData) : List Text → RtcData × Option Text
  | [var, value] =>
    if var = "test_execution_status".toList then
      (d.execute (setCommand var value),
        if executionStatusOf value = none then
          some "Wrong value. Allowed values are: SUCCESS | FAILED".toList
        else some "EXECUTED".toList)
    else if var = "hss_build".toList then
      (d.execute (setCommand var value), some "EXECUTED".toList)
    else if var = "high_priority".toList then
      ({ d with highPriority := value = "True".toList ∨ value = "true".toList },
        some "EXECUTED".toList)
    else if var = "owner".toList then ({ d with owner := value }, some "EXECUTED".toList)
    else (d, some ("ERROR: ".toList ++ var ++ " NOT FOUND".toList))
  | _ => (d, some "WRONG SYNTAX: set <var_name> <value>".toList)

/-- Read a datagram, and answer it.  There is no answer here where it comes from an action handler or
from other data. -/
def readUdpCmd (subscribed : List Text) (d : RtcData) (data : Text) : RtcData × Option Text :=
  match words (strip data) with
  | [] => (d, some "HSS_rtc command NOT VALID".toList)
  | cmd :: param =>
    if cmd ∈ subscribed then (d, none)
    else if cmd = "who_are_you".toList then (d, some "HSS_rtc".toList)
    else if cmd = "show_summary".toList then
      (d, if param.length ≠ 1 then some "WRONG SYNTAX: show_summary <test_case_name>".toList
        else none)
    else if cmd = "show_macro".toList then (d, none)
    else if cmd = "get".toList then (d, d.get param)
    else if cmd = "set".toList then d.set param
    else if cmd = "quit".toList then (d.execute .quit, some "ORDERED".toList)
    else if cmd = "continue_quit".toList then (d.execute .continueQuit, some "ORDERED".toList)
    else if cmd = "force_quit".toList then (d.execute .forceQuit, some "ORDERED".toList)
    else if cmd = "resume".toList then (d.execute .resume, some "EXECUTED".toList)
    else (d, some ("Unknown HSS_rtc command: ".toList ++ cmd))

/-- Read datagrams one after another. -/
def readAll (subscribed : List Text) (d : RtcData) (texts : List Text) : RtcData :=
  texts.foldl (fun d data => (d.readUdpCmd subscribed data).1) d

/-- The `Prov_Result` of the status. -/
def provResult (d : RtcData) : Option Text := d.statusLines.lookup "Prov_Result".toList

/-- If a test case has ended, the cancellation of a build shows in the status: in what `get status`
reports after the orders of the controller, those that follow the cancellation included. -/
def Reflects (subscribed : List Text) (c : Controller) (build : Text) (later : List Order)
    (d : RtcData) : Prop :=
  (∃ t ∈ d.rtc.testSuite.testCases, t.status = .finished ∨ t.status = .notFinished) →
    (d.readAll subscribed
      (((c.setTestToFaulty build).orders.drop c.orders.length ++ later).map orderText)).provResult ≠
        some "SUCCESS".toList

end RtcData

/-! ## Datagrams and commands -/

namespace RtcData

variable {subscribed : List Text} {d : RtcData} {c : Command}

/-- `set` executes its command. -/
lemma set_rtc (d : RtcData) (var value : Text) :
    (d.set [var, value]).1.rtc = (setCommand var value).program.foldl Rtc.runAct d.rtc := by
  by_cases hstatus : var = "test_execution_status".toList
  · simp only [set, if_pos hstatus]
    rfl
  · by_cases hbuild : var = "hss_build".toList
    · simp only [set, if_neg hstatus, if_pos hbuild]
      rfl
    · have hother : setCommand var value = .other := by
        rw [setCommand, if_neg hstatus, if_neg hbuild]
      rw [hother]
      simp only [set, if_neg hstatus, if_neg hbuild]
      split_ifs <;> rfl

/-- A datagram does to the main thread what its command does. -/
lemma readUdpCmd_rtc (subscribed : List Text) (d : RtcData) (data : Text) :
    (d.readUdpCmd subscribed data).1.rtc =
      (Command.parse subscribed data).program.foldl Rtc.runAct d.rtc := by
  rw [readUdpCmd, Command.parse]
  cases words (strip data) with
  | nil => rfl
  | cons cmd param =>
    dsimp only
    by_cases hsubscribed : cmd ∈ subscribed
    · rw [if_pos hsubscribed, if_pos hsubscribed]
      rfl
    · rw [if_neg hsubscribed, if_neg hsubscribed]
      by_cases hset : cmd = "set".toList
      · subst hset
        rw [if_neg (by decide), if_neg (by decide), if_neg (by decide), if_neg (by decide),
          if_pos rfl, if_pos rfl]
        match param with
        | [var, value] => exact set_rtc d var value
        | [] => rfl
        | [_] => rfl
        | _ :: _ :: _ :: _ => rfl
      · rw [if_neg hset, if_neg hset]
        by_cases hquit : cmd = "quit".toList
        · subst hquit
          rw [if_neg (by decide), if_neg (by decide), if_neg (by decide), if_neg (by decide),
            if_pos rfl, if_pos rfl]
          rfl
        · rw [if_neg hquit, if_neg hquit]
          by_cases hcontinue : cmd = "continue_quit".toList
          · subst hcontinue
            rw [if_neg (by decide), if_neg (by decide), if_neg (by decide), if_neg (by decide),
              if_pos rfl, if_pos rfl]
            rfl
          · rw [if_neg hcontinue, if_neg hcontinue]
            by_cases hforce : cmd = "force_quit".toList
            · subst hforce
              rw [if_neg (by decide), if_neg (by decide), if_neg (by decide), if_neg (by decide),
                if_pos rfl, if_pos rfl]
              rfl
            · rw [if_neg hforce, if_neg hforce]
              by_cases hresume : cmd = "resume".toList
              · subst hresume
                rw [if_neg (by decide), if_neg (by decide), if_neg (by decide),
                  if_neg (by decide), if_pos rfl, if_pos rfl]
                rfl
              · -- The other commands only answer.
                rw [if_neg hresume, if_neg hresume]
                split_ifs <;> rfl

end RtcData

/-- Only a status of the test changes the test cases. -/
lemma testSuite_program {c : Command} (s : Rtc)
    (hc : ∀ failed, c ≠ .setTestExecutionStatus (some failed)) :
    (c.program.foldl Rtc.runAct s).testSuite = s.testSuite := by
  have hact : ∀ a s, (∀ failed, a ≠ Act.setTestExecutionStatus failed) →
      (Rtc.runAct s a).testSuite = s.testSuite := by
    intro a s ha
    cases a with
    | setTestExecutionStatus failed => exact absurd rfl (ha failed)
    | answer c =>
      cases c with
      | quit =>
        rw [Rtc.runAct]
        split_ifs <;> rfl
      | _ => rfl
    | _ => rfl
  have hprogram : ∀ a ∈ c.program, ∀ failed, a ≠ Act.setTestExecutionStatus failed := by
    cases c with
    | setTestExecutionStatus failed =>
      cases failed with
      | none => simp [Command.program]
      | some failed => exact absurd rfl (hc failed)
    | _ => simp [Command.program]
  generalize c.program = acts at hprogram
  induction acts generalizing s with
  | nil => rfl
  | cons a acts ih =>
    rw [List.foldl_cons, ih _ fun a ha => hprogram a (List.mem_cons_of_mem _ ha),
      hact a s (hprogram a List.mem_cons_self)]

/-! ## Orders and commands -/

/-- An order arrives as its command. -/
lemma parse_orderText (o : Order) : Command.parse [] (orderText o) = commandOf o := by
  cases o with
  | quit _ _ =>
    show Command.parse [] "quit".toList = .quit
    decide
  | resume => decide
  | setTestExecutionStatusDiscarded => decide
  | setHighPriority value => cases value <;> decide

/-- What action handlers have subscribed to is left to them. -/
lemma parse_subscribed (subscribed : List Text) (data : Text) :
    Command.parse subscribed data = .other ∨
      Command.parse subscribed data = Command.parse [] data := by
  rw [Command.parse, Command.parse]
  cases words (strip data) with
  | nil => exact .inl rfl
  | cons cmd param =>
    dsimp only
    by_cases hsubscribed : cmd ∈ subscribed
    · exact .inl (if_pos hsubscribed)
    · rw [if_neg hsubscribed, if_neg (List.not_mem_nil)]
      exact .inr rfl

namespace RtcData

variable {subscribed : List Text} {d : RtcData}

/-- No order changes the test cases. -/
lemma testSuite_order (subscribed : List Text) (d : RtcData) (o : Order) :
    (d.readUdpCmd subscribed (orderText o)).1.rtc.testSuite = d.rtc.testSuite := by
  rw [readUdpCmd_rtc]
  refine testSuite_program _ fun failed => ?_
  rcases parse_subscribed subscribed (orderText o) with h | h
  · rw [h]
    exact nofun
  · rw [h, parse_orderText]
    cases o <;> exact nofun

lemma testSuite_orders (orders : List Order) :
    (d.readAll subscribed (orders.map orderText)).rtc.testSuite = d.rtc.testSuite := by
  induction orders generalizing d with
  | nil => rfl
  | cons o orders ih =>
    rw [List.map_cons, readAll, List.foldl_cons]
    exact (ih (d := (d.readUdpCmd subscribed (orderText o)).1)).trans (testSuite_order subscribed d o)

/-- The result of the status is that of the suite. -/
lemma provResult_ne_success_iff : d.provResult ≠ some "SUCCESS".toList ↔
    d.rtc.testSuite.failed = true := by
  have heq : d.provResult =
      some (if d.rtc.testSuite.failed then "FAILED".toList else "SUCCESS".toList) := rfl
  rw [heq]
  cases d.rtc.testSuite.failed with
  | true => decide
  | false => decide

/-- The controller cancels the build under test by a single order. -/
lemma orders_setTestToFaulty {c : Controller} {build : Text} (hpaused : c.servicePaused = false)
    (hbuild : c.build = some build) (hhandler : c.rtcHandler.isSome = true) :
    (c.setTestToFaulty build).orders.drop c.orders.length =
      [.setTestExecutionStatusDiscarded] := by
  have horders : ∀ (c : Controller) status, (c.updateBuildStatus status).orders = c.orders := by
    intro c status
    rw [Controller.updateBuildStatus]
    split <;> rfl
  have heq : (c.setTestToFaulty build).orders = c.orders ++ [.setTestExecutionStatusDiscarded] := by
    have hrunning : ¬ c.servicePaused = true := by simp [hpaused]
    have hsame : ¬ c.build ≠ some build := not_not.mpr hbuild
    have hsome : ¬ c.rtcHandler.isNone = true := by simpa using Option.isSome_iff_ne_none.mp hhandler
    rw [Controller.setTestToFaulty, if_neg hrunning, if_neg hsame, if_neg hsome]
    exact horders (c.order .setTestExecutionStatusDiscarded) "CANCELLED".toList
  rw [heq, List.drop_left]

/-- A cancelled build shows in the status exactly when no test case has ended, or one of them was
marked as failed before. -/
theorem reflects_iff (subscribed : List Text) (c : Controller) (build : Text) (later : List Order)
    (d : RtcData) : d.Reflects subscribed c build later ↔
      ((∃ t ∈ d.rtc.testSuite.testCases, t.status = .finished ∨ t.status = .notFinished) →
        ∃ t ∈ d.rtc.testSuite.testCases, t.reportNotValid = true) := by
  rw [Reflects, provResult_ne_success_iff, testSuite_orders, TestSuite.failed, List.any_eq_true]

/-- A controller that tests a build. -/
def testingController : Controller :=
  { Controller.init .null BuildHandler.Handler.init with
    servicePaused := false
    build := some "HSS-1.28.2.20".toList
    rtcHandler := some ⟨true, false⟩ }

/-- A suite whose first test case has finished. -/
def finishedFirst : RtcData where
  rtc :=
    { Rtc.init true "HSS-1.28.2.20".toList [.plain "first", .plain "second"] with
      testSuite :=
        { testCases := [{ (Definition.plain "first").create with status := .finished },
            (Definition.plain "second").create]
          handedOut := 1 } }
  owner := "tester".toList
  highPriority := false
  suiteName := "suite".toList
  rootPath := "/opt/hss".toList

/-- The build is cancelled, and the status is `SUCCESS`. -/
theorem cancelled_success :
    ¬ finishedFirst.Reflects [] testingController "HSS-1.28.2.20".toList [.quit false true] := by
  intro h
  have hended : ∃ t ∈ finishedFirst.rtc.testSuite.testCases,
      t.status = .finished ∨ t.status = .notFinished := by decide
  refine h hended ?_
  rw [orders_setTestToFaulty rfl rfl rfl]
  decide

end RtcData

end HssRtc
