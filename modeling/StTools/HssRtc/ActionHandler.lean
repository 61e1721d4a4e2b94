import StTools.HssRtc.LoadMonitor
import StTools.HssRtc.RemoteControl
import StTools.Lib.TextSearch

/-!
# The action handler

The action handler executes commands on a node while the traffic runs.  While it waits for the end of a
command it holds its lock, and when nothing comes from the node it reads one message of the remote
control, still with the lock.  The handlers for exceptions around this are for time-outs and for the end
of the connection; anything else ends the thread as it is.

A message is read only when nothing has come from the node for two seconds, and one at a time.  So a
message can also be left in the queue, by a command that goes on writing, or that ends too soon.

The main theorem says in which runs every message gets its answer, and every iteration gives the lock
back.
-/

namespace HssRtc

open BuildHandler (Text)
open RunTitansim (strip)

namespace ActionHandler

/-! ## Data -/

/-- What may be raised. -/
inductive Raised
  /-- `pexpect.TIMEOUT`. -/
  | timeout
  /-- `pexpect.EOF`. -/
  | eof
  | nameError
  | attributeError
  | executionRunError
  | other
  deriving DecidableEq

/-- The configuration of an action. -/
structure Action where
  displayExecution : Bool := false
  addToVerdict : Bool := false
  reportNotValid : Bool := false
  maxActionTime : ℚ := -1
  disableLoadMonitor : Bool := false
  stopErrorScenarioRegister : Bool := false
  allowInfoToSummary : Bool := true

/-- The execution of the action is limited in time. -/
def Action.isTimed (a : Action) : Prop := 0 < a.maxActionTime

instance (a : Action) : Decidable a.isTimed := inferInstanceAs (Decidable (_ < _))

/-- The sections in which other code is called. -/
inductive Place
  /-- While the handler waits for the command, with the lock. -/
  | held
  /-- In `read_udp_cmd`. -/
  | udp
  /-- When a time-out or the end of the connection is reported. -/
  | report
  /-- In `shutdown`. -/
  | closing
  deriving DecidableEq

/-- Calls of other code. -/
inductive Call
  /-- A call of `log_event`, with its number in the section.  The log file may be cleared by another
  thread in between. -/
  | log (k : ℕ)
  /-- The output of the command is printed. -/
  | display
  /-- `get_return_code`. -/
  | returnCode
  /-- `get_error_info`. -/
  | errorInfo
  /-- The text of the command, with its macros translated. -/
  | cmd
  | updateVerdict
  /-- `set_test_suite_execution_status`. -/
  | setStatus
  | addActionResult
  | addActionInfo
  /-- Write to the channel. -/
  | write
  /-- Release the node. -/
  | nodeRelease
  | startMonitoring
  | stopMonitoring
  | closeLog
  deriving DecidableEq

/-- How the wait for the end of a command goes on that is being stopped. -/
inductive Waiting
  /-- `force_exit` is set. -/
  | forced
  /-- The command has ended. -/
  | stopped
  /-- The connection has ended. -/
  | eof
  /-- Nothing came; how long that lasted, and how it goes on if there is time left. -/
  | timeout (elapsed : ℚ) (rest : Waiting)
  /-- Anything else is raised. -/
  | raises (e : Raised)

/-- The end of such a wait. -/
inductive WaitEnd
  | forced
  | finished
  | raises (e : Raised)
  deriving DecidableEq

/-- The loop of `stop_cmd`, with the time that is left. -/
def Waiting.ends (maxTime : ℚ) : Waiting → WaitEnd
  | .forced => .forced
  | .stopped => .finished
  | .eof => .finished
  | .raises e => .raises e
  | .timeout elapsed rest => if 0 < maxTime - elapsed then rest.ends (maxTime - elapsed) else .finished

/-- What `expect` may find. -/
inductive Found
  /-- The prompt: the command has ended. -/
  | sync
  /-- The end of a line. -/
  | line
  deriving DecidableEq

/-- What one iteration of the loop meets. -/
structure Turn where
  /-- `force_exit` is set. -/
  forceExit : Bool := false
  /-- What `expect` finds or raises. -/
  result : Except Raised Found
  returnCode : ℤ := 0
  /-- The time of the action is over. -/
  expired : Bool := false
  /-- What the other code raises. -/
  raises : Place → Call → Option Raised := fun _ _ => none
  /-- How long a stopped command lasts. -/
  waiting : Place → Waiting := fun _ => .stopped
  /-- The last error rate of the error monitor and its limit, unless it is a `FakeMonitor`. -/
  errorMonitor : Option (ℚ × ℚ) := none
  /-- Whether the load monitor is ready and its status, unless it is a `FakeMonitor`. -/
  loadMonitor : Option (Bool × Option LoadState) := none

/-- The load in an answer. -/
inductive LoadVerdict
  | evaluationNotConfigured
  | status (s : Option LoadState)
  deriving DecidableEq

/-- The answers. -/
inductive CmdAnswer
  | ordered
  | ok
  | allowInfoToSummaryNotAllowed
  | notConfigured
  /-- `OK:` or `FAILED:`, with the load and the error rate. -/
  | stableCheck (ok : Bool) (load : LoadVerdict) (errorRate : ℚ)
  /-- The command is not handled. -/
  | notHandled (cmd : Text)
  deriving DecidableEq

end ActionHandler

open ActionHandler in
/-- The action handler. -/
structure ActionHandler where
  /-- The current action. -/
  action : Action
  /-- It has its node. -/
  node : Bool
  executingCmd : Bool
  running : Bool
  /-- Its thread has not ended. -/
  alive : Bool
  udpMessages : List Text
  /-- How many messages have come. -/
  forwarded : ℕ
  /-- How many had come when the last one came during the execution of an action. -/
  due : ℕ
  /-- The answers that it has put. -/
  answers : List CmdAnswer
  /-- What was added to the summary. -/
  actionInfo : List Text
  /-- How often the lock was acquired. -/
  acquired : ℕ
  /-- How often the lock was released. -/
  released : ℕ

namespace ActionHandler

/-- What a section does. -/
abbrev Section := Procedure ActionHandler Raised

variable (t : Turn)

/-! ## Sections -/

/-- The lock is acquired. -/
def acquire (s : ActionHandler) : ActionHandler := { s with acquired := s.acquired + 1 }

/-- The lock is released. -/
def release (s : ActionHandler) : ActionHandler := { s with released := s.released + 1 }

/-- Other code is called, until it raises. -/
def calls (place : Place) (cs : List Call) : Section := fun s =>
  (s, cs.findSome? (t.raises place))

/-- The verdict of the test case is updated, if the action asks for it. -/
def Action.verdictCalls (a : Action) : List Call := if a.addToVerdict then [.updateVerdict] else []

/-- Put an answer. -/
def putAnswer (a : CmdAnswer) : Section := .modify fun s => { s with answers := s.answers ++ [a] }

/-- The command is no longer executed. -/
def endCmd : Section := .modify fun s => { s with executingCmd := false }

/-- `stop_cmd`, after the interrupt was written. -/
def waitStopped (place : Place) : Section :=
  match (t.waiting place).ends 30 with
  | .forced => .modify id
  | .raises e => .raise e
  | .finished => Procedure.andThen (fun s => calls t place (.cmd :: .log 4 :: s.action.verdictCalls) s) endCmd

/-- `stop_cmd`. -/
def stopCmd (place : Place) : Section :=
  (calls t place [.log 2]).andThen <| .branch (fun s => s.node)
    ((calls t place [.write, .log 3]).andThen (waitStopped t place)) endCmd

/-! ## `read_udp_cmd` -/

/-- `add_info_to_summary`. -/
def addInfoToSummary (params : Text) : Section :=
  .branch (fun s => params ≠ [] ∧ s.action.allowInfoToSummary)
    ((calls t .udp [.addActionInfo]).andThen <|
      (Procedure.modify fun s => { s with actionInfo := s.actionInfo ++ [params] }).andThen <|
        putAnswer .ok)
    (putAnswer .allowInfoToSummaryNotAllowed)

/-- `start_scenario_stable_check`. -/
def startScenarioStableCheck : Section :=
  .branch (fun s => s.action.disableLoadMonitor ∨ s.action.stopErrorScenarioRegister)
    ((Procedure.onlyIf (fun s => s.action.stopErrorScenarioRegister)
      (calls t .udp [.startMonitoring])).andThen <| putAnswer .ok)
    (putAnswer .notConfigured)

/-- The error rate of `stop_scenario_stable_check`. -/
def errorRate (a : Action) : ℚ :=
  if a.stopErrorScenarioRegister then (t.errorMonitor.map Prod.fst).getD (-1) else -1

/-- The load of `stop_scenario_stable_check`. -/
def loadVerdict (a : Action) : LoadVerdict :=
  if a.disableLoadMonitor then .status (t.loadMonitor.bind Prod.snd) else .evaluationNotConfigured

/-- The load is stable, or it was not evaluated. -/
def LoadVerdict.accepted (v : LoadVerdict) : Prop :=
  v = .status (some .stable) ∨ v = .evaluationNotConfigured

instance (v : LoadVerdict) : Decidable v.accepted := inferInstanceAs (Decidable (_ ∨ _))

/-- The error rate is below the limit of the error monitor. -/
def BelowLimit (rate : ℚ) : Prop := ∃ m ∈ t.errorMonitor, rate < m.2

instance (rate : ℚ) : Decidable (BelowLimit t rate) :=
  match h : t.errorMonitor with
  | none => isFalse fun ⟨_, hm, _⟩ => by rw [h] at hm; cases hm
  | some m => decidable_of_iff (rate < m.2) (by simp [BelowLimit, h])

/-- `stop_scenario_stable_check`.  A `FakeMonitor` has no `skip_check_last_register`, no `load_status`
and no `error_rate`. -/
def stopScenarioStableCheck : Section :=
  (Procedure.onlyIf (fun s => s.action.stopErrorScenarioRegister) <|
    (calls t .udp [.stopMonitoring]).andThen <|
      .require (fun _ => t.errorMonitor.isSome) .attributeError).andThen <|
  (Procedure.onlyIf (fun s => s.action.disableLoadMonitor) <|
    (Procedure.require (fun _ => t.loadMonitor.isSome) .attributeError).andThen <|
      .require (fun _ => t.loadMonitor.map Prod.fst = some true) .executionRunError).andThen <|
  (Procedure.onlyIf (fun s => (loadVerdict t s.action).accepted) <|
    .require (fun _ => t.errorMonitor.isSome) .attributeError).andThen <|
  fun s => putAnswer (.stableCheck
    ((loadVerdict t s.action).accepted ∧ BelowLimit t (errorRate t s.action))
    (loadVerdict t s.action) (errorRate t s.action)) s

/-- The command of a message, as `split(' ', 1)` gives it. -/
def cmdOf (data : Text) : Text :=
  match TextSearch.splitOnce [' '] data with
  | none => data
  | some (cmd, _) => cmd

/-- `params`: it is not bound when there is no blank. -/
def paramsOf (data : Text) : Option Text := (TextSearch.splitOnce [' '] data).map Prod.snd

/-- The commands to which the handler has subscribed. -/
inductive UdpCmd
  | startScenarioStableCheck
  | stopScenarioStableCheck
  | cancelAction
  | addInfoToSummary
  deriving DecidableEq

/-- The texts of the commands. -/
def UdpCmd.text : UdpCmd → Text
  | .startScenarioStableCheck => "start_scenario_stable_check".toList
  | .stopScenarioStableCheck => "stop_scenario_stable_check".toList
  | .cancelAction => "cancel_action".toList
  | .addInfoToSummary => "add_info_to_summary".toList

/-- All of them. -/
def UdpCmd.all : List UdpCmd :=
  [.startScenarioStableCheck, .stopScenarioStableCheck, .cancelAction, .addInfoToSummary]

/-- The command with a text. -/
def UdpCmd.parse (cmd : Text) : Option UdpCmd := UdpCmd.all.find? fun c => c.text = cmd

/-- What is done for a message. -/
def handleCmd (data : Text) : Section :=
  match UdpCmd.parse (cmdOf data) with
  | some .cancelAction => (putAnswer .ordered).andThen (stopCmd t .udp)
  | some .addInfoToSummary =>
    match paramsOf data with
    | none => .raise .nameError
    | some params => addInfoToSummary t params
  | some .startScenarioStableCheck => startScenarioStableCheck t
  | some .stopScenarioStableCheck => stopScenarioStableCheck t
  | none => putAnswer (.notHandled (cmdOf data))

/-- `read_udp_cmd`. -/
def readUdpCmd : Section := fun s =>
  match s.udpMessages with
  | [] => (s, none)
  | data :: rest =>
    ((calls t .udp [.log 0]).andThen (handleCmd t data)) { s with udpMessages := rest }

/-! ## The loop -/

/-- Do something with the lock. -/
def underMutex (body : Section) : Section :=
  (Procedure.modify acquire).andThen <| body.andThen (.modify release)

/-- `shutdown`, with the lock. -/
def closeNode : Section :=
  (Procedure.onlyIf (fun s => s.node) <|
    (Procedure.onlyIf (fun s => s.executingCmd) (stopCmd t .closing)).andThen <|
      (calls t .closing [.nodeRelease]).andThen <| .modify fun s => { s with node := false }).andThen <|
  calls t .closing [.log 1]

/-- `shutdown`. -/
def shutdown : Section :=
  (calls t .closing [.log 0]).andThen <|
  (Procedure.onlyIf (fun s => s.running) (underMutex (closeNode t))).andThen <|
  (Procedure.modify fun s => { s with running := false }).andThen <| calls t .closing [.closeLog]

/-- What is called when the command has ended. -/
def resultCalls (a : Action) : List Call :=
  (if a.displayExecution then [.display] else []) ++ .returnCode ::
    (if t.returnCode ≠ 0 then
      .errorInfo :: .cmd :: .log 0 :: a.verdictCalls ++ if a.reportNotValid then [.setStatus] else []
    else [.cmd, .log 0]) ++ [.addActionResult]

/-- What is called when a time-out or the end of the connection is reported. -/
def Action.reportCalls (a : Action) : List Call := .cmd :: .log 0 :: a.verdictCalls

/-- One look at the channel, with the lock. -/
def waitResult : Section := fun s =>
  match t.result with
  | .error e => (s, some e)
  | .ok .sync =>
    if s.executingCmd then ((calls t .held (resultCalls t s.action)).andThen endCmd) s else (s, none)
  | .ok .line => calls t .held (if s.action.displayExecution then [.display] else []) s

/-- How an iteration ends. -/
inductive Exit
  | goesOn
  | breaks
  | returns
  | raises (e : Raised)
  deriving DecidableEq

/-- The end of an iteration. -/
def exitOf : Option Raised → Exit
  | none => .goesOn
  | some e => .raises e

/-- The handler shuts itself down. -/
def closes (s : ActionHandler) : ActionHandler × Exit :=
  ((shutdown t s).1, exitOf (shutdown t s).2)

/-- The action is stopped when its time is over. -/
def checkTime (s : ActionHandler) : ActionHandler × Exit :=
  if s.action.isTimed ∧ t.expired then
    match s.action.reportCalls.findSome? (t.raises .report) with
    | some e => (s, .raises e)
    | none => closes t s
  else (s, .goesOn)

/-- The exception handler for time-outs. -/
def onTimeout (s : ActionHandler) : ActionHandler × Exit :=
  match (readUdpCmd t s).2 with
  | some e => ((readUdpCmd t s).1, .raises e)
  | none => checkTime t (readUdpCmd t s).1.release

/-- The exception handler for the end of the connection. -/
def onEof (s : ActionHandler) : ActionHandler × Exit :=
  if s.node then
    match s.action.reportCalls.findSome? (t.raises .report) with
    | some e => (s, .raises e)
    | none => closes t s.release
  else (s.release, .breaks)

/-- One iteration of the command loop. -/
def iteration (s : ActionHandler) : ActionHandler × Exit :=
  if t.forceExit then (s, .returns)
  else if ¬ s.node then (s.acquire.release, .returns)
  else
    match (waitResult t s.acquire).2 with
    -- the `break` after the end of the command is found by the test of the loop
    | none => ((waitResult t s.acquire).1.release, .goesOn)
    | some .timeout => onTimeout t (waitResult t s.acquire).1
    | some .eof => onEof t (waitResult t s.acquire).1
    | some e => ((waitResult t s.acquire).1, .raises e)

/-! ## When a section completes -/

open Procedure

variable {t} {s : ActionHandler} {place : Place}

/-- None of the calls raises. -/
def CallsRun (t : Turn) (place : Place) (cs : List Call) : Prop := ∀ c ∈ cs, t.raises place c = none

instance (place : Place) (cs : List Call) : Decidable (CallsRun t place cs) :=
  inferInstanceAs (Decidable (∀ c ∈ cs, _))

/-- What `stop_cmd` needs after the interrupt: nothing unknown is raised, and the report can be made. -/
def WaitRuns (t : Turn) (place : Place) (s : ActionHandler) : Prop :=
  match (t.waiting place).ends 30 with
  | .forced => True
  | .raises _ => False
  | .finished => CallsRun t place (.cmd :: .log 4 :: s.action.verdictCalls)

/-- What `stop_cmd` needs. -/
def StopRuns (t : Turn) (place : Place) (s : ActionHandler) : Prop :=
  CallsRun t place [.log 2] ∧ (s.node → CallsRun t place [.write, .log 3] ∧ WaitRuns t place s)

/-- What `stop_scenario_stable_check` needs: the monitors of which the action makes use. -/
def StableCheckRuns (t : Turn) (a : Action) : Prop :=
  (a.stopErrorScenarioRegister → CallsRun t .udp [.stopMonitoring] ∧ t.errorMonitor.isSome) ∧
    (a.disableLoadMonitor → t.loadMonitor.map Prod.fst = some true) ∧
    ((loadVerdict t a).accepted → t.errorMonitor.isSome)

/-- What a message needs. -/
def CmdRuns (t : Turn) (s : ActionHandler) (data : Text) : Prop :=
  match UdpCmd.parse (cmdOf data) with
  | some .cancelAction => StopRuns t .udp s
  | some .addInfoToSummary => ∃ params ∈ paramsOf data,
      params ≠ [] → s.action.allowInfoToSummary → CallsRun t .udp [.addActionInfo]
  | some .startScenarioStableCheck =>
    s.action.stopErrorScenarioRegister → CallsRun t .udp [.startMonitoring]
  | some .stopScenarioStableCheck => StableCheckRuns t s.action
  | none => True

/-- What `read_udp_cmd` needs. -/
def UdpRuns (t : Turn) (s : ActionHandler) : Prop :=
  ∀ data ∈ s.udpMessages.head?, CallsRun t .udp [.log 0] ∧ CmdRuns t s data

/-- What `shutdown` needs with the lock. -/
def CloseRuns (t : Turn) (s : ActionHandler) : Prop :=
  (s.node → (s.executingCmd → StopRuns t .closing s) ∧ CallsRun t .closing [.nodeRelease]) ∧
    CallsRun t .closing [.log 1]

/-- Calls complete when none of them raises. -/
lemma completes_calls {cs : List Call} : Completes (calls t place cs) s ↔ CallsRun t place cs :=
  List.findSome?_eq_none_iff

/-- Calls change nothing here. -/
@[simp] lemma calls_fst {cs : List Call} : (calls t place cs s).1 = s := rfl

/-- When the wait for the end of a command completes. -/
lemma completes_waitStopped : Completes (waitStopped t place) s ↔ WaitRuns t place s := by
  unfold waitStopped WaitRuns
  cases (t.waiting place).ends 30 with
  | forced => exact iff_of_true rfl trivial
  | raises e => exact iff_of_false (not_completes_raise e) not_false
  | finished =>
    dsimp only
    rw [completes_andThen]
    exact (and_iff_left rfl).trans completes_calls

/-- When `stop_cmd` completes. -/
lemma completes_stopCmd : Completes (stopCmd t place) s ↔ StopRuns t place s := by
  simp only [stopCmd, StopRuns, endCmd, completes_andThen, completes_branch, completes_calls,
    calls_fst, completes_waitStopped, completes_modify, implies_true, and_true]

/-- When `stop_scenario_stable_check` completes. -/
lemma completes_stopScenarioStableCheck :
    Completes (stopScenarioStableCheck t) s ↔ StableCheckRuns t s.action := by
  have hcalls : Keeps id (calls t .udp [.stopMonitoring]) := fun _ => rfl
  have herror : Keeps id (onlyIf (fun s : ActionHandler => s.action.stopErrorScenarioRegister)
      ((calls t .udp [.stopMonitoring]).andThen <|
        .require (fun _ => t.errorMonitor.isSome) .attributeError)) :=
    Keeps.onlyIf (hcalls.andThen (keeps_require _))
  have hload : Keeps id (onlyIf (fun s : ActionHandler => s.action.disableLoadMonitor)
      ((Procedure.require (fun _ => t.loadMonitor.isSome) .attributeError).andThen <|
        .require (fun _ => t.loadMonitor.map Prod.fst = some true) .executionRunError) : Section) :=
    Keeps.onlyIf (Keeps.andThen (keeps_require _) (keeps_require _))
  have hready : t.loadMonitor.isSome = true ∧ t.loadMonitor.map Prod.fst = some true ↔
      t.loadMonitor.map Prod.fst = some true := by
    refine and_iff_right_of_imp fun h => ?_
    obtain ⟨m, hm, -⟩ := Option.map_eq_some_iff.mp h
    rw [hm]
    rfl
  have hput : ∀ s : ActionHandler, Completes (fun s => putAnswer (.stableCheck
      ((loadVerdict t s.action).accepted ∧ BelowLimit t (errorRate t s.action))
      (loadVerdict t s.action) (errorRate t s.action)) s : Section) s := fun _ => rfl
  unfold stopScenarioStableCheck StableCheckRuns
  rw [herror.completes_andThen, hload.completes_andThen, completes_andThen]
  simp only [completes_onlyIf, completes_andThen, completes_calls, calls_fst, completes_require,
    require_fst, hready, hput, and_true]

/-- When a message can be handled. -/
lemma completes_handleCmd {data : Text} : Completes (handleCmd t data) s ↔ CmdRuns t s data := by
  unfold handleCmd CmdRuns
  cases UdpCmd.parse (cmdOf data) with
  | none => exact iff_of_true rfl trivial
  | some c =>
    cases c with
    | startScenarioStableCheck =>
      simp only [startScenarioStableCheck, completes_branch, completes_andThen, completes_onlyIf,
        completes_calls, putAnswer, completes_modify, and_true, implies_true]
      exact ⟨fun h hstop => h (Or.inr hstop) hstop, fun h _ hstop => h hstop⟩
    | stopScenarioStableCheck => exact completes_stopScenarioStableCheck
    | cancelAction =>
      dsimp only
      rw [completes_andThen]
      exact (and_iff_right rfl).trans completes_stopCmd
    | addInfoToSummary =>
      dsimp only
      cases paramsOf data with
      | none =>
        refine iff_of_false (not_completes_raise _) ?_
        rintro ⟨_, h, -⟩
        cases h
      | some params =>
        simp only [addInfoToSummary, completes_branch, completes_andThen, completes_calls, putAnswer,
          completes_modify, and_true, implies_true, Option.mem_some_iff, exists_eq_left', and_imp]

/-- When `read_udp_cmd` completes. -/
lemma completes_readUdpCmd : Completes (readUdpCmd t) s ↔ UdpRuns t s := by
  unfold UdpRuns
  cases hmessages : s.udpMessages with
  | nil =>
    refine iff_of_true ?_ fun _ h => nomatch h
    unfold Completes readUdpCmd
    rw [hmessages]
  | cons data rest =>
    have hread : readUdpCmd t s =
        ((calls t .udp [.log 0]).andThen (handleCmd t data)) { s with udpMessages := rest } := by
      unfold readUdpCmd
      rw [hmessages]
    rw [Completes, hread]
    refine completes_andThen.trans ?_
    rw [completes_calls, calls_fst, completes_handleCmd]
    simp only [List.head?_cons, Option.mem_some_iff, forall_eq']
    exact Iff.rfl

/-- When `shutdown` completes with the lock. -/
lemma completes_closeNode : Completes (closeNode t) s ↔ CloseRuns t s := by
  simp only [closeNode, CloseRuns, completes_andThen, completes_onlyIf, completes_calls, calls_fst,
    completes_stopCmd, completes_modify, and_true]

/-! ## What the sections leave alone -/

/-- How often the lock was acquired and released. -/
def lockCount (s : ActionHandler) : ℕ × ℕ := (s.acquired, s.released)

/-- What neither a call nor a command changes. -/
def frame (s : ActionHandler) : Action × Bool × Bool × ℕ × ℕ :=
  (s.action, s.node, s.running, s.lockCount)

/-- Calls keep everything. -/
lemma keeps_calls {α : Type*} {g : ActionHandler → α} (cs : List Call) :
    Keeps g (calls t place cs) := fun _ => rfl

/-- The wait for the end of a command keeps what the command does not change. -/
lemma keeps_waitStopped {α : Type*} {g : ActionHandler → α}
    (hg : ∀ s : ActionHandler, g { s with executingCmd := false } = g s) :
    Keeps g (waitStopped t place) := by
  unfold waitStopped
  cases (t.waiting place).ends 30 with
  | forced => exact keeps_modify fun _ => rfl
  | raises e => exact fun _ => rfl
  | finished => exact Keeps.andThen (fun _ => rfl) (keeps_modify hg)

/-- So does `stop_cmd`. -/
lemma keeps_stopCmd {α : Type*} {g : ActionHandler → α}
    (hg : ∀ s : ActionHandler, g { s with executingCmd := false } = g s) :
    Keeps g (stopCmd t place) :=
  (keeps_calls _).andThen <| ((keeps_calls _).andThen (keeps_waitStopped hg)).branch (keeps_modify hg)

/-- `stop_scenario_stable_check` changes the answers only. -/
lemma keeps_stopScenarioStableCheck {α : Type*} {g : ActionHandler → α}
    (hg : ∀ (s : ActionHandler) answers, g { s with answers := answers } = g s) :
    Keeps g (stopScenarioStableCheck t) :=
  (Keeps.onlyIf ((keeps_calls _).andThen (keeps_require _))).andThen <|
    (Keeps.onlyIf (Keeps.andThen (keeps_require _) (keeps_require _))).andThen <|
    (Keeps.onlyIf (keeps_require _)).andThen fun s => hg s _

/-- A message changes the answers and the summary only, unless it stops the command. -/
lemma keeps_handleCmd {α : Type*} {g : ActionHandler → α} {data : Text}
    (hanswers : ∀ (s : ActionHandler) answers, g { s with answers := answers } = g s)
    (hinfo : ∀ (s : ActionHandler) info, g { s with actionInfo := info } = g s)
    (hstop : UdpCmd.parse (cmdOf data) = some .cancelAction →
      ∀ s : ActionHandler, g { s with executingCmd := false } = g s) :
    Keeps g (handleCmd t data) := by
  have hput : ∀ a, Keeps g (putAnswer a) := fun _ => keeps_modify fun s => hanswers s _
  unfold handleCmd
  cases hcmd : UdpCmd.parse (cmdOf data) with
  | none => exact hput _
  | some c =>
    cases c with
    | startScenarioStableCheck =>
      exact Keeps.branch ((Keeps.onlyIf (keeps_calls _)).andThen (hput _)) (hput _)
    | stopScenarioStableCheck => exact keeps_stopScenarioStableCheck hanswers
    | cancelAction => exact (hput _).andThen (keeps_stopCmd (hstop hcmd))
    | addInfoToSummary =>
      dsimp only
      cases paramsOf data with
      | none => exact fun _ => rfl
      | some params =>
        exact Keeps.branch ((keeps_calls _).andThen <|
          Keeps.andThen (keeps_modify fun s => hinfo s _) (hput _)) (hput _)

/-- To read a message changes neither the action, nor the node, nor the lock. -/
lemma keepsFrame_readUdpCmd : Keeps frame (readUdpCmd t) := by
  intro s
  unfold readUdpCmd
  split
  · rfl
  · exact (keeps_calls _).andThen (keeps_handleCmd (fun _ _ => rfl) (fun _ _ => rfl)
      fun _ _ => rfl) _

/-! ## Answers -/

/-- A section that puts one answer when it completes. -/
def PutsOne (a : Section) : Prop :=
  ∀ s, Completes a s → ∃ answer, (a s).1.answers = s.answers ++ [answer]

/-- An answer is put. -/
lemma putsOne_putAnswer (a : CmdAnswer) : PutsOne (putAnswer a) := fun _ _ => ⟨a, rfl⟩

/-- No answer is put before. -/
lemma PutsOne.after {a b : Section} (ha : Keeps answers a) (hb : PutsOne b) :
    PutsOne (a.andThen b) := by
  intro s hcompletes
  obtain ⟨hfirst, hsecond⟩ := completes_andThen.mp hcompletes
  obtain ⟨answer, hanswer⟩ := hb _ hsecond
  exact ⟨answer, by rw [andThen_fst hfirst, hanswer, ha s]⟩

/-- No answer is put afterwards. -/
lemma PutsOne.before {a b : Section} (ha : PutsOne a) (hb : Keeps answers b) :
    PutsOne (a.andThen b) := by
  intro s hcompletes
  obtain ⟨answer, hanswer⟩ := ha s (completes_andThen.mp hcompletes).1
  exact ⟨answer, by rw [hb.andThen_right, hanswer]⟩

/-- One of two sections that put one answer. -/
lemma PutsOne.branch {p : ActionHandler → Prop} [DecidablePred p] {a b : Section} (ha : PutsOne a)
    (hb : PutsOne b) : PutsOne (branch p a b) := by
  intro s hcompletes
  obtain ⟨hpos, hneg⟩ := completes_branch.mp hcompletes
  unfold Procedure.branch
  split_ifs with h
  · exact ha s (hpos h)
  · exact hb s (hneg h)

/-- Every command puts one answer, or raises. -/
lemma putsOne_handleCmd (data : Text) : PutsOne (handleCmd t data) := by
  unfold handleCmd
  cases UdpCmd.parse (cmdOf data) with
  | none => exact putsOne_putAnswer _
  | some c =>
    cases c with
    | startScenarioStableCheck =>
      exact PutsOne.branch (.after (Keeps.onlyIf (keeps_calls _)) (putsOne_putAnswer _))
        (putsOne_putAnswer _)
    | stopScenarioStableCheck =>
      exact PutsOne.after (Keeps.onlyIf ((keeps_calls _).andThen (keeps_require _))) <|
        PutsOne.after (Keeps.onlyIf (Keeps.andThen (keeps_require _) (keeps_require _))) <|
        PutsOne.after (Keeps.onlyIf (keeps_require _)) fun s _ => ⟨_, rfl⟩
    | cancelAction => exact (putsOne_putAnswer _).before (keeps_stopCmd fun _ => rfl)
    | addInfoToSummary =>
      dsimp only
      cases paramsOf data with
      | none => exact fun s h => absurd h (not_completes_raise _)
      | some params =>
        exact PutsOne.branch (.after (keeps_calls _) <|
          .after (keeps_modify fun _ => rfl) (putsOne_putAnswer _)) (putsOne_putAnswer _)

/-- `read_udp_cmd` raises nothing, and it puts one answer if there is a message. -/
def AnswersOnce (t : Turn) (s : ActionHandler) : Prop :=
  Completes (readUdpCmd t) s ∧
    (s.udpMessages ≠ [] → ∃ answer, (readUdpCmd t s).1.answers = s.answers ++ [answer])

/-- **One message.** -/
lemma answersOnce_iff : AnswersOnce t s ↔ UdpRuns t s := by
  refine ⟨fun h => completes_readUdpCmd.mp h.1, fun h => ⟨completes_readUdpCmd.mpr h, fun hne => ?_⟩⟩
  obtain ⟨data, rest, hmessages⟩ := List.exists_cons_of_ne_nil hne
  have hread : readUdpCmd t s =
      ((calls t .udp [.log 0]).andThen (handleCmd t data)) { s with udpMessages := rest } := by
    unfold readUdpCmd
    rw [hmessages]
  have hcompletes := completes_readUdpCmd.mpr h
  rw [Completes, hread] at hcompletes
  rw [hread]
  exact PutsOne.after (keeps_calls _) (putsOne_handleCmd data) _ hcompletes

/-! ## The lock is given back -/

/-- The lock was released as often as it was acquired in between. -/
def Balanced (s s' : ActionHandler) : Prop := s'.acquired + s.released = s.acquired + s'.released

/-- What keeps the lock is balanced. -/
lemma balanced_of_lockCount {s' : ActionHandler} (h : s'.lockCount = s.lockCount) : Balanced s s' := by
  obtain ⟨hacquired, hreleased⟩ := Prod.mk.inj h
  rw [Balanced, hacquired, hreleased]

/-- A lock that was acquired has to be released. -/
lemma balanced_release {s' : ActionHandler} (h : s'.lockCount = s.acquire.lockCount) :
    Balanced s s'.release := by
  obtain ⟨hacquired, hreleased⟩ := Prod.mk.inj h
  show s'.acquired + s.released = s.acquired + (s'.released + 1)
  rw [hacquired, hreleased]
  exact Nat.add_right_comm ..

/-- A lock that was acquired is not given back yet. -/
lemma not_balanced_acquire {s' : ActionHandler} (h : s'.lockCount = s.acquire.lockCount) :
    ¬ Balanced s s' := by
  obtain ⟨hacquired, hreleased⟩ := Prod.mk.inj h
  rw [Balanced, hacquired, hreleased]
  show ¬ s.acquired + 1 + s.released = s.acquired + s.released
  omega

/-- What is done with the lock gives it back exactly when it completes. -/
lemma balanced_underMutex_iff {body : Section} (hbody : Keeps lockCount body) :
    Balanced s (underMutex body s).1 ↔ Completes body s.acquire := by
  unfold underMutex
  rw [andThen_fst (completes_modify _), modify_fst]
  by_cases hcompletes : Completes body s.acquire
  · rw [andThen_fst hcompletes, modify_fst]
    exact iff_of_true (balanced_release (hbody _)) hcompletes
  · rw [andThen_fst_raises hcompletes]
    exact iff_of_false (not_balanced_acquire (hbody _)) hcompletes

/-- With the lock, `shutdown` changes only whether there is a node and whether a command is executed. -/
lemma keeps_closeNode {α : Type*} {g : ActionHandler → α}
    (hexecuting : ∀ s : ActionHandler, g { s with executingCmd := false } = g s)
    (hnode : ∀ s : ActionHandler, g { s with node := false } = g s) : Keeps g (closeNode t) := by
  have hstop : Keeps g (onlyIf (fun s => s.executingCmd) (stopCmd t .closing)) :=
    Keeps.onlyIf (keeps_stopCmd hexecuting)
  have hrelease : Keeps g (onlyIf (fun s : ActionHandler => s.node) <|
      (Procedure.onlyIf (fun s => s.executingCmd) (stopCmd t .closing)).andThen <|
        (calls t .closing [.nodeRelease]).andThen <| .modify fun s => { s with node := false }) :=
    Keeps.onlyIf <| hstop.andThen <| (keeps_calls _).andThen <| keeps_modify hnode
  exact hrelease.andThen (keeps_calls _)

/-- What `shutdown` needs. -/
def ShutdownRuns (t : Turn) (s : ActionHandler) : Prop :=
  CallsRun t .closing [.log 0] → s.running → CloseRuns t s

/-- A `shutdown` gives the lock back exactly when it finds what it needs. -/
lemma balanced_shutdown_iff : Balanced s (shutdown t s).1 ↔ ShutdownRuns t s := by
  unfold shutdown ShutdownRuns
  by_cases hlog : CallsRun t .closing [.log 0]
  · have hend : Keeps lockCount ((Procedure.modify fun s : ActionHandler =>
        { s with running := false }).andThen <| calls t .closing [.closeLog]) :=
      Keeps.andThen (keeps_modify fun _ => rfl) (keeps_calls _)
    have hafter := hend.andThen_right
      (a := onlyIf (fun s => s.running) (underMutex (closeNode t))) s
    rw [andThen_fst (completes_calls.mpr hlog), calls_fst]
    have hsame : ∀ s' s'' : ActionHandler, s''.lockCount = s'.lockCount →
        (Balanced s s'' ↔ Balanced s s') := by
      intro s' s'' h
      obtain ⟨hacquired, hreleased⟩ := Prod.mk.inj h
      rw [Balanced, Balanced, hacquired, hreleased]
    rw [hsame _ _ hafter]
    by_cases hrunning : s.running = true
    · rw [onlyIf_fst_pos (p := fun s : ActionHandler => s.running = true) hrunning,
        balanced_underMutex_iff (keeps_closeNode (fun _ => rfl) fun _ => rfl), completes_closeNode]
      exact ⟨fun h _ _ => h, fun h => h hlog hrunning⟩
    · rw [onlyIf_fst_neg (p := fun s : ActionHandler => s.running = true) hrunning]
      exact iff_of_true (balanced_of_lockCount rfl) fun _ h => absurd h hrunning
  · rw [andThen_fst_raises fun h => hlog (completes_calls.mp h), calls_fst]
    exact iff_of_true (balanced_of_lockCount rfl) fun h => absurd h hlog

/-! ## One iteration -/

/-- What is raised while the handler looks at the channel. -/
def heldRaised (t : Turn) (s : ActionHandler) : Option Raised :=
  match t.result with
  | .error e => some e
  | .ok .sync =>
    if s.executingCmd then (resultCalls t s.action).findSome? (t.raises .held) else none
  | .ok .line =>
    (if s.action.displayExecution then [.display] else []).findSome? (t.raises .held)

/-- This is what a look at the channel raises. -/
lemma waitResult_snd : (waitResult t s).2 = heldRaised t s := by
  unfold waitResult heldRaised
  cases t.result with
  | error e => rfl
  | ok found =>
    cases found with
    | line => rfl
    | sync =>
      dsimp only
      split_ifs
      · unfold andThen calls
        dsimp only
        split
        · rename_i hnone
          exact hnone.symm
        · rename_i e hsome
          exact hsome.symm
      · rfl

/-- A look at the channel that raises changes nothing. -/
lemma waitResult_fst_of_raised {e : Raised} (h : heldRaised t s = some e) :
    (waitResult t s).1 = s := by
  rw [← waitResult_snd] at h
  unfold waitResult at h ⊢
  cases hresult : t.result with
  | error e => rfl
  | ok found =>
    rw [hresult] at h
    cases found with
    | line => rfl
    | sync =>
      dsimp only at h ⊢
      split_ifs with hexecuting
      · rw [if_pos hexecuting] at h
        refine andThen_fst_raises fun hcompletes => ?_
        have hends : Completes ((calls t .held (resultCalls t s.action)).andThen endCmd) s :=
          completes_andThen.mpr ⟨hcompletes, completes_modify _⟩
        rw [hends] at h
        cases h
      · rfl

/-- A look at the channel changes only whether a command is executed. -/
lemma keeps_waitResult {α : Type*} {g : ActionHandler → α}
    (hg : ∀ s : ActionHandler, g { s with executingCmd := false } = g s) :
    Keeps g (waitResult t) := by
  intro s
  unfold waitResult
  cases t.result with
  | error e => rfl
  | ok found =>
    cases found with
    | line => rfl
    | sync =>
      dsimp only
      split_ifs
      · exact ((keeps_calls _).andThen (keeps_modify hg) :
          Keeps g ((calls t .held (resultCalls t s.action)).andThen endCmd)) s
      · rfl

/-- The message that is read stops the command. -/
def Cancels (t : Turn) (s : ActionHandler) : Prop :=
  s.udpMessages.head?.map (fun data => UdpCmd.parse (cmdOf data)) = some (some .cancelAction) ∧
    (s.node → (t.waiting .udp).ends 30 = .finished)

instance (t : Turn) (s : ActionHandler) : Decidable (Cancels t s) :=
  inferInstanceAs (Decidable (_ ∧ _))

/-- The handler after a message was read, as far as `shutdown` is concerned. -/
def afterUdp (t : Turn) (s : ActionHandler) : ActionHandler :=
  if Cancels t s then { s with executingCmd := false } else s

/-- No call that is made with the lock raises: an iteration waits for a command that goes on or ends;
or it times out, its message can be handled, and if its time is over the handler can be shut down; or
the connection has ended, and the handler can be shut down. -/
def IterationRuns (t : Turn) (s : ActionHandler) : Prop :=
  t.forceExit = false → s.node = true →
    match heldRaised t s with
    | none => True
    | some .timeout => UdpRuns t s ∧ (s.action.isTimed → t.expired = true →
        CallsRun t .report s.action.reportCalls → ShutdownRuns t (afterUdp t s))
    | some .eof => CallsRun t .report s.action.reportCalls ∧ ShutdownRuns t s
    | some _ => False

/-- A command that is waited for to the end is no longer executed. -/
lemma stopCmd_executingCmd (h : StopRuns t place s) :
    (stopCmd t place s).1.executingCmd =
      if s.node = true → (t.waiting place).ends 30 = .finished then false else s.executingCmd := by
  obtain ⟨hlog, hnode⟩ := h
  unfold stopCmd
  rw [andThen_fst (completes_calls.mpr hlog), calls_fst]
  unfold branch
  by_cases hhas : s.node = true
  · obtain ⟨hwrite, hwait⟩ := hnode hhas
    rw [if_pos hhas, andThen_fst (completes_calls.mpr hwrite), calls_fst]
    unfold waitStopped
    unfold WaitRuns at hwait
    cases hends : (t.waiting place).ends 30 with
    | forced => simp [hhas]
    | raises e =>
      rw [hends] at hwait
      exact absurd hwait not_false
    | finished =>
      rw [hends] at hwait
      rw [if_pos fun _ => rfl]
      have hreport : Completes (fun s => calls t place (.cmd :: .log 4 :: s.action.verdictCalls) s)
          s := completes_calls.mpr hwait
      dsimp only
      rw [andThen_fst hreport]
      rfl
  · rw [if_neg hhas, if_pos fun h => absurd h hhas]
    rfl

/-- Whether a command is still executed after a message was read. -/
lemma readUdpCmd_executingCmd (h : UdpRuns t s) :
    (readUdpCmd t s).1.executingCmd = if Cancels t s then false else s.executingCmd := by
  cases hmessages : s.udpMessages with
  | nil =>
    have hno : ¬ Cancels t s := by simp [Cancels, hmessages]
    unfold readUdpCmd
    rw [hmessages, if_neg hno]
  | cons data rest =>
    obtain ⟨hlog, hruns⟩ := h data (by rw [hmessages]; rfl)
    have hread : readUdpCmd t s =
        ((calls t .udp [.log 0]).andThen (handleCmd t data)) { s with udpMessages := rest } := by
      unfold readUdpCmd
      rw [hmessages]
    have hcancels : Cancels t s ↔ UdpCmd.parse (cmdOf data) = some .cancelAction ∧
        (s.node = true → (t.waiting .udp).ends 30 = .finished) := by
      simp [Cancels, hmessages]
    rw [hread, andThen_fst (completes_calls.mpr hlog), calls_fst]
    by_cases hcancel : UdpCmd.parse (cmdOf data) = some .cancelAction
    · have hstop : StopRuns t .udp s := by
        unfold CmdRuns at hruns
        rw [hcancel] at hruns
        exact hruns
      unfold handleCmd
      rw [hcancel]
      dsimp only
      have hordered : StopRuns t .udp { s with
          udpMessages := rest, answers := s.answers ++ [.ordered] } := hstop
      unfold putAnswer
      rw [andThen_fst (completes_modify _), modify_fst, stopCmd_executingCmd hordered]
      exact if_congr (hcancels.trans (and_iff_right hcancel)).symm rfl rfl
    · have hkeeps : Keeps executingCmd (handleCmd t data) :=
        keeps_handleCmd (fun _ _ => rfl) (fun _ _ => rfl) fun h => absurd h hcancel
      rw [hkeeps, if_neg fun h => hcancel (hcancels.mp h).1]

/-- What `shutdown` needs depends on the action, the node, and what goes on. -/
lemma shutdownRuns_congr {s' : ActionHandler} (haction : s'.action = s.action)
    (hnode : s'.node = s.node) (hrunning : s'.running = s.running)
    (hexecuting : s'.executingCmd = s.executingCmd) : ShutdownRuns t s' ↔ ShutdownRuns t s := by
  unfold ShutdownRuns CloseRuns StopRuns WaitRuns
  rw [haction, hnode, hrunning, hexecuting]

/-- What goes on from a balanced state. -/
lemma Balanced.iff {u v : ActionHandler} (h : Balanced s u) : Balanced s v ↔ Balanced u v := by
  unfold Balanced at h ⊢
  omega

/-- A report that raises is one that does not run. -/
lemma not_callsRun_of_findSome {cs : List Call} {e : Raised}
    (h : cs.findSome? (t.raises place) = some e) : ¬ CallsRun t place cs := by
  intro hruns
  rw [List.findSome?_eq_none_iff.mpr hruns] at h
  cases h

/-- The time of the action is checked without the lock. -/
lemma balanced_checkTime_iff {u : ActionHandler} (h : Balanced s u) :
    Balanced s (checkTime t u).1 ↔ (u.action.isTimed → t.expired = true →
      CallsRun t .report u.action.reportCalls → ShutdownRuns t u) := by
  unfold checkTime
  split_ifs with htime
  · split
    · rename_i e hreport
      exact iff_of_true h fun _ _ hruns => absurd hruns (not_callsRun_of_findSome hreport)
    · rename_i hreport
      have hruns : CallsRun t .report u.action.reportCalls := List.findSome?_eq_none_iff.mp hreport
      exact (h.iff.trans balanced_shutdown_iff).trans
        ⟨fun hshutdown _ _ _ => hshutdown, fun hshutdown => hshutdown htime.1 htime.2 hruns⟩
  · exact iff_of_true h fun htimed hexpired => absurd ⟨htimed, hexpired⟩ htime

/-- The exception handler for time-outs gives the lock back. -/
lemma balanced_onTimeout_iff : Balanced s (onTimeout t s.acquire).1 ↔
    UdpRuns t s ∧ (s.action.isTimed → t.expired = true →
      CallsRun t .report s.action.reportCalls → ShutdownRuns t (afterUdp t s)) := by
  have hframe : (readUdpCmd t s.acquire).1.frame = s.acquire.frame := keepsFrame_readUdpCmd _
  obtain ⟨haction, hrest⟩ := Prod.mk.inj hframe
  obtain ⟨hnode, hrest⟩ := Prod.mk.inj hrest
  obtain ⟨hrunning, hlock⟩ := Prod.mk.inj hrest
  unfold onTimeout
  split
  · rename_i e hraised
    refine iff_of_false (not_balanced_acquire hlock) fun h => ?_
    have hcompletes : Completes (readUdpCmd t) s.acquire := completes_readUdpCmd.mpr h.1
    rw [hcompletes] at hraised
    cases hraised
  · rename_i hcompletes
    have hruns : UdpRuns t s.acquire := completes_readUdpCmd.mp hcompletes
    have hexecuting : (readUdpCmd t s.acquire).1.executingCmd = (afterUdp t s).executingCmd := by
      have hcancels : (afterUdp t s).executingCmd =
          if Cancels t s then false else s.executingCmd := by
        unfold afterUdp
        split_ifs <;> rfl
      rw [hcancels]
      exact readUdpCmd_executingCmd hruns
    have hafter : ShutdownRuns t (readUdpCmd t s.acquire).1.release ↔
        ShutdownRuns t (afterUdp t s) := by
      refine shutdownRuns_congr (haction.trans ?_) (hnode.trans ?_) (hrunning.trans ?_) hexecuting
      all_goals
        unfold afterUdp
        split_ifs <;> rfl
    rw [balanced_checkTime_iff (balanced_release hlock), hafter]
    have hsame : (readUdpCmd t s.acquire).1.release.action = s.action := haction
    rw [hsame]
    exact (and_iff_right hruns).symm

/-- The exception handler for the end of the connection gives the lock back. -/
lemma balanced_onEof_iff (hnode : s.node = true) : Balanced s (onEof t s.acquire).1 ↔
    CallsRun t .report s.action.reportCalls ∧ ShutdownRuns t s := by
  unfold onEof
  rw [if_pos (show s.acquire.node = true from hnode)]
  split
  · rename_i e hreport
    exact iff_of_false (not_balanced_acquire rfl) fun h => not_callsRun_of_findSome hreport h.1
  · rename_i hreport
    have hruns : CallsRun t .report s.action.reportCalls := List.findSome?_eq_none_iff.mp hreport
    have hreleased : Balanced s s.acquire.release := balanced_release rfl
    exact (hreleased.iff.trans balanced_shutdown_iff).trans (and_iff_right hruns).symm

/-- **One iteration.**  The lock is given back exactly when no call that is made with the lock raises
anything but a time-out or the end of the connection, and the handlers of these find what they
need. -/
lemma balanced_iteration_iff : Balanced s (iteration t s).1 ↔ IterationRuns t s := by
  unfold iteration IterationRuns
  by_cases hforce : t.forceExit = true
  · rw [if_pos hforce]
    exact iff_of_true (balanced_of_lockCount rfl) fun h => by rw [hforce] at h; cases h
  · rw [if_neg hforce]
    by_cases hnode : s.node = true
    · rw [if_neg (not_not.mpr hnode), waitResult_snd]
      have hheld : heldRaised t s.acquire = heldRaised t s := rfl
      have hlock : (waitResult t s.acquire).1.lockCount = s.acquire.lockCount :=
        keeps_waitResult (fun _ => rfl) _
      rw [hheld]
      refine Iff.trans ?_ (forall_prop_of_true (Bool.eq_false_iff.mpr hforce)).symm
      refine Iff.trans ?_ (forall_prop_of_true hnode).symm
      cases hraised : heldRaised t s with
      | none => exact iff_of_true (balanced_release hlock) trivial
      | some e =>
        have hsame : (waitResult t s.acquire).1 = s.acquire :=
          waitResult_fst_of_raised (hheld.trans hraised)
        cases e with
        | timeout =>
          dsimp only
          rw [hsame]
          exact balanced_onTimeout_iff
        | eof =>
          dsimp only
          rw [hsame]
          exact balanced_onEof_iff hnode
        | nameError | attributeError | executionRunError | other =>
          exact iff_of_false (not_balanced_acquire hlock) not_false
    · rw [if_pos hnode]
      exact iff_of_true (balanced_release rfl) fun _ h => absurd h hnode

/-! ## Messages and answers -/

/-- The iteration reads a message, if there is one. -/
def ReadsUdp (t : Turn) (s : ActionHandler) : Prop :=
  t.forceExit = false ∧ s.node = true ∧ heldRaised t s = some .timeout

instance (t : Turn) (s : ActionHandler) : Decidable (ReadsUdp t s) :=
  inferInstanceAs (Decidable (_ ∧ _ ∧ _))

/-- What came and what was answered. -/
def mail (s : ActionHandler) : List Text × ℕ × ℕ × List CmdAnswer :=
  (s.udpMessages, s.forwarded, s.due, s.answers)

/-- `shutdown` reads no message and puts no answer. -/
lemma keepsMail_shutdown : Keeps mail (shutdown t) := by
  have hacquire : Keeps mail (Procedure.modify acquire : Section) := keeps_modify fun _ => rfl
  have hrelease : Keeps mail (Procedure.modify release : Section) := keeps_modify fun _ => rfl
  have hnode : Keeps mail (closeNode t) := keeps_closeNode (fun _ => rfl) fun _ => rfl
  have hclose : Keeps mail (underMutex (closeNode t)) := hacquire.andThen (hnode.andThen hrelease)
  exact (keeps_calls _).andThen <| (Keeps.onlyIf hclose).andThen <|
    Keeps.andThen (keeps_modify fun _ => rfl) (keeps_calls _)

/-- Nor does the handler when it looks at the time. -/
lemma mail_checkTime : (checkTime t s).1.mail = s.mail := by
  unfold checkTime
  split_ifs
  · split
    · rfl
    · exact keepsMail_shutdown s
  · rfl

/-- Nor when the connection has ended. -/
lemma mail_onEof : (onEof t s).1.mail = s.mail := by
  unfold onEof
  split_ifs
  · split
    · rfl
    · exact keepsMail_shutdown s.release
  · rfl

/-- How many messages have come is left alone by their reader. -/
lemma readUdpCmd_due : (readUdpCmd t s).1.forwarded = s.forwarded ∧ (readUdpCmd t s).1.due = s.due := by
  let came (s : ActionHandler) : ℕ × ℕ := (s.forwarded, s.due)
  have hkeeps : ∀ data, Keeps came (handleCmd t data) := fun data =>
    keeps_handleCmd (fun _ _ => rfl) (fun _ _ => rfl) fun _ _ => rfl
  have hcame : came (readUdpCmd t s).1 = came s := by
    unfold readUdpCmd
    split
    · rfl
    · exact (keeps_calls _).andThen (hkeeps _) _
  exact Prod.mk.inj hcame

/-- The message that is read leaves the queue. -/
lemma readUdpCmd_udpMessages : (readUdpCmd t s).1.udpMessages = s.udpMessages.tail := by
  have hkeeps : ∀ data, Keeps udpMessages (handleCmd t data) := fun data =>
    keeps_handleCmd (fun _ _ => rfl) (fun _ _ => rfl) fun _ _ => rfl
  unfold readUdpCmd
  split
  · rename_i hnil
    rw [hnil]
    rfl
  · rename_i data rest hcons
    rw [hcons]
    exact (keeps_calls _).andThen (hkeeps data) _

/-- What an iteration does about the messages: one is read and answered, or none. -/
structure MailKept (s s' : ActionHandler) (read : Prop) [Decidable read] : Prop where
  forwarded : s'.forwarded = s.forwarded
  due : s'.due = s.due
  udpMessages : s'.udpMessages.length + (if read then 1 else 0) = s.udpMessages.length
  answers : s'.answers.length = s.answers.length + if read then 1 else 0

/-- No message is read. -/
lemma mailKept_of_mail {s' : ActionHandler} {read : Prop} [Decidable read] (h : s'.mail = s.mail)
    (hread : ¬ read) : MailKept s s' read := by
  simp only [mail, Prod.mk.injEq] at h
  obtain ⟨hudp, hforwarded, hdue, hanswers⟩ := h
  exact ⟨hforwarded, hdue, by rw [if_neg hread, hudp]; rfl, by rw [if_neg hread, hanswers]; rfl⟩

/-- An iteration that does not time out reads nothing. -/
lemma not_readsUdp (h : heldRaised t s ≠ some .timeout) : ¬ ReadsUdp t s := fun hread => h hread.2.2

/-- The messages of an iteration that times out. -/
lemma mailKept_onTimeout (hreads : ReadsUdp t s) (h : AnswersOnce t s.acquire) :
    MailKept s (onTimeout t s.acquire).1 (ReadsUdp t s ∧ s.udpMessages ≠ []) := by
  obtain ⟨hcompletes, hanswer⟩ := h
  have hmail : (onTimeout t s.acquire).1.mail = (readUdpCmd t s.acquire).1.mail := by
    unfold onTimeout
    rw [show (readUdpCmd t s.acquire).2 = none from hcompletes]
    exact mail_checkTime
  by_cases hempty : s.udpMessages = []
  · have hnothing : readUdpCmd t s.acquire = (s.acquire, none) := by
      unfold readUdpCmd
      rw [show s.acquire.udpMessages = [] from hempty]
    rw [hnothing] at hmail
    exact mailKept_of_mail hmail fun hread => hread.2 hempty
  · obtain ⟨hforwarded, hdue⟩ := readUdpCmd_due (t := t) (s := s.acquire)
    have hudp := readUdpCmd_udpMessages (t := t) (s := s.acquire)
    obtain ⟨answer, hanswer⟩ := hanswer hempty
    simp only [mail, Prod.mk.injEq] at hmail
    obtain ⟨hudp', hforwarded', hdue', hanswers'⟩ := hmail
    refine ⟨hforwarded'.trans hforwarded, hdue'.trans hdue, ?_, ?_⟩
    · rw [if_pos ⟨hreads, hempty⟩, hudp', hudp, List.length_tail]
      exact Nat.sub_add_cancel (List.length_pos_iff.mpr hempty)
    · rw [if_pos ⟨hreads, hempty⟩, hanswers', hanswer, List.length_append]
      rfl

/-- **The messages of one iteration.**  When the message that is read gets its answer, the queue is
shorter by one, and the answers are more by one. -/
lemma mailKept_iteration (h : ReadsUdp t s → AnswersOnce t s.acquire) :
    MailKept s (iteration t s).1 (ReadsUdp t s ∧ s.udpMessages ≠ []) := by
  unfold iteration
  by_cases hforce : t.forceExit = true
  · rw [if_pos hforce]
    exact mailKept_of_mail rfl fun hread => by rw [hread.1.1] at hforce; cases hforce
  rw [if_neg hforce]
  by_cases hnode : s.node = true
  swap
  · rw [if_pos hnode]
    exact mailKept_of_mail rfl fun hread => hnode hread.1.2.1
  have hheld : heldRaised t s.acquire = heldRaised t s := rfl
  have hkept : (waitResult t s.acquire).1.mail = s.mail := keeps_waitResult (fun _ => rfl) _
  rw [if_neg (not_not.mpr hnode), waitResult_snd, hheld]
  cases hraised : heldRaised t s with
  | none =>
    exact mailKept_of_mail hkept fun hread => not_readsUdp (by rw [hraised]; decide) hread.1
  | some e =>
    have hsame : (waitResult t s.acquire).1 = s.acquire :=
      waitResult_fst_of_raised (hheld.trans hraised)
    cases e with
    | timeout =>
      have hreads : ReadsUdp t s := ⟨Bool.eq_false_iff.mpr hforce, hnode, hraised⟩
      dsimp only
      rw [hsame]
      exact mailKept_onTimeout hreads (h hreads)
    | eof =>
      dsimp only
      rw [hsame]
      exact mailKept_of_mail mail_onEof fun hread => not_readsUdp (by rw [hraised]; decide) hread.1
    | nameError | attributeError | executionRunError | other =>
      exact mailKept_of_mail hkept fun hread => not_readsUdp (by rw [hraised]; decide) hread.1

/-! ## Runs -/

/-- The handler when its thread has started. -/
def init : ActionHandler where
  action := {}
  node := true
  executingCmd := false
  running := true
  alive := true
  udpMessages := []
  forwarded := 0
  due := 0
  answers := []
  actionInfo := []
  acquired := 0
  released := 0

/-- What happens. -/
inductive Event
  /-- The command of the next action is written to the channel. -/
  | startAction (a : Action)
  /-- The remote control gets a datagram. -/
  | datagram (data : Text)
  /-- One iteration of the command loop. -/
  | iterate (t : Turn)
  /-- Another thread shuts the handler down. -/
  | shutdown (t : Turn)

/-- An action is being executed. -/
def Executes (s : ActionHandler) : Prop := s.alive = true ∧ s.executingCmd = true

instance (s : ActionHandler) : Decidable s.Executes := inferInstanceAs (Decidable (_ ∧ _))

/-- The datagram is one of the commands to which the handler has subscribed. -/
def IsForwarded (data : Text) : Prop := (words (strip data)).head?.bind UdpCmd.parse ≠ none

instance (data : Text) : Decidable (IsForwarded data) := inferInstanceAs (Decidable (_ ≠ _))

/-- The remote control forwards the commands to which the handler has subscribed. -/
def forward (data : Text) (s : ActionHandler) : ActionHandler :=
  if IsForwarded data then
    { s with
      udpMessages := s.udpMessages ++ [strip data]
      forwarded := s.forwarded + 1
      due := if s.Executes then s.forwarded + 1 else s.due }
  else s

/-- The thread goes on after an iteration. -/
def Exit.continues : Exit → Bool
  | .goesOn | .breaks => true
  | .returns | .raises _ => false

/-- One step.  A thread that waits for the lock makes none. -/
def step (s : ActionHandler) : Event → Option ActionHandler
  | .startAction a =>
    if s.alive ∧ ¬ s.executingCmd then some { s with action := a, executingCmd := true } else none
  | .datagram data => some (s.forward data)
  | .iterate t =>
    if s.alive ∧ s.executingCmd ∧ s.acquired = s.released then
      some { (iteration t s).1 with alive := (iteration t s).2.continues }
    else none
  | .shutdown t => if s.acquired = s.released then some (shutdown t s).1 else none

/-- A message that is read gets one answer, nothing is raised meanwhile, and the iteration releases the
lock as often as it acquires it. -/
def Handled (s : ActionHandler) : Event → Prop
  | .iterate t => (ReadsUdp t s → AnswersOnce t s.acquire) ∧ Balanced s (iteration t s).1
  | _ => True

/-- An iteration finds what it needs. -/
def Runs (s : ActionHandler) : Event → Prop
  | .iterate t => IterationRuns t s
  | _ => True

/-- Every message that came during the execution of an action has its answer: the messages are read in
order, and each that was read has put one. -/
def AllAnswered (s : ActionHandler) : Prop := s.due ≤ s.answers.length

instance (s : ActionHandler) : Decidable s.AllAnswered := inferInstanceAs (Decidable (_ ≤ _))

/-- The event reads a message, if there is one. -/
def readsMessage (s : ActionHandler) : Event → ℕ
  | .iterate t => if ReadsUdp t s then 1 else 0
  | .startAction _ | .datagram _ | .shutdown _ => 0

/-- How many iterations of a run read a message, if there is one. -/
def readings (s : ActionHandler) : List Event → ℕ
  | [] => 0
  | e :: es =>
    match step s e with
    | none => 0
    | some s' => s.readsMessage e + s'.readings es

/-- The event is a message that comes during the execution of an action. -/
def IsDue (s : ActionHandler) : Event → Prop
  | .datagram data => IsForwarded data ∧ s.Executes
  | .startAction _ | .iterate _ | .shutdown _ => False

instance (s : ActionHandler) (e : Event) : Decidable (s.IsDue e) :=
  match e with
  | .datagram _ => inferInstanceAs (Decidable (_ ∧ _))
  | .startAction _ | .iterate _ | .shutdown _ => inferInstanceAs (Decidable False)

/-- Behind each message that comes during the execution of an action, as many iterations read a message
as there are in the queue then. -/
def ReadInTime (s : ActionHandler) : List Event → Prop
  | [] => True
  | e :: es =>
    ∀ s' ∈ step s e, (s.IsDue e → s'.udpMessages.length ≤ s'.readings es) ∧ s'.ReadInTime es

instance decidableReadInTime (s : ActionHandler) : (es : List Event) → Decidable (s.ReadInTime es)
  | [] => inferInstanceAs (Decidable True)
  | e :: es =>
    have : ∀ s' : ActionHandler, Decidable (s'.ReadInTime es) := fun s' => decidableReadInTime s' es
    inferInstanceAs (Decidable (∀ s' ∈ step s e, _ ∧ s'.ReadInTime es))

/-- The messages that came are answered or in the queue. -/
structure MailInv (s : ActionHandler) : Prop where
  due_le : s.due ≤ s.forwarded
  sum_eq : s.answers.length + s.udpMessages.length = s.forwarded

/-- What a step that forwards no message does about them. -/
lemma MailInv.kept {s' : ActionHandler} (h : MailInv s) {read : Prop} [Decidable read]
    (hkept : MailKept s s' read) : MailInv s' := by
  obtain ⟨hforwarded, hdue, hudp, hanswers⟩ := hkept
  obtain ⟨hle, hsum⟩ := h
  exact ⟨by omega, by omega⟩

/-- What a message changes when it comes. -/
lemma MailInv.forward (h : MailInv s) (data : Text) :
    MailInv (s.forward data) ∧ (s.forward data).answers = s.answers ∧
      (s.forward data).due = if s.IsDue (.datagram data) then (s.forward data).forwarded else s.due := by
  obtain ⟨hle, hsum⟩ := h
  unfold ActionHandler.forward IsDue
  by_cases hforwarded : IsForwarded data
  · by_cases hexecutes : s.Executes
    · simp only [hforwarded, hexecutes, and_self, if_true, and_true]
      exact ⟨le_rfl, by simp only [List.length_append, List.length_singleton]; omega⟩
    · simp only [hforwarded, hexecutes, and_false, if_true, if_false, and_true]
      exact ⟨by dsimp only; omega, by simp only [List.length_append, List.length_singleton]; omega⟩
  · simp only [hforwarded, false_and, if_false, and_true]
    exact ⟨hle, hsum⟩

/-- What a step that forwards no message does about them. -/
lemma mailKept_of_step {s' : ActionHandler} {e : Event} (he : ∀ data, e ≠ .datagram data)
    (hhandled : Handled s e) (hstep : step s e = some s') :
    MailKept s s' (0 < s.readsMessage e ∧ s.udpMessages ≠ []) := by
  cases e with
  | startAction a =>
    obtain ⟨-, heq⟩ := Option.ite_none_right_eq_some.mp hstep
    rw [← Option.some.inj heq]
    exact mailKept_of_mail rfl fun hread => absurd hread.1 (Nat.lt_irrefl 0)
  | datagram data => exact absurd rfl (he data)
  | iterate t =>
    obtain ⟨-, heq⟩ := Option.ite_none_right_eq_some.mp hstep
    rw [← Option.some.inj heq]
    have hreads : 0 < s.readsMessage (.iterate t) ↔ ReadsUdp t s := by
      dsimp only [readsMessage]
      split_ifs with h <;> simp [h]
    obtain ⟨hforwarded, hdue, hudp, hanswers⟩ := mailKept_iteration hhandled.1
    rw [if_congr (and_congr_left' hreads.symm) rfl rfl] at hudp hanswers
    exact ⟨hforwarded, hdue, hudp, hanswers⟩
  | shutdown t =>
    obtain ⟨-, heq⟩ := Option.ite_none_right_eq_some.mp hstep
    rw [← Option.some.inj heq]
    exact mailKept_of_mail (keepsMail_shutdown s) fun hread => absurd hread.1 (Nat.lt_irrefl 0)

/-- At most one message is read. -/
lemma readsMessage_le (s : ActionHandler) (e : Event) : s.readsMessage e ≤ 1 := by
  unfold readsMessage
  split
  · split_ifs <;> omega
  all_goals omega

/-- **Who is answered by the end of a run.**  The messages that were due before are when they are among
those that are read in it, and those that come are when they are read in time. -/
lemma allAnswered_iff {es : List Event} {s' : ActionHandler} (h : MailInv s)
    (hhandled : LabelledSystem.Along step Handled s es)
    (hexec : LabelledSystem.exec step s es = some s') :
    s'.AllAnswered ↔ s.due ≤ s.answers.length + s.readings es ∧ s.ReadInTime es := by
  induction es generalizing s with
  | nil =>
    obtain rfl := Option.some.inj hexec
    exact (and_iff_left trivial).symm
  | cons e es ih =>
    obtain ⟨u, hstep, hexec⟩ := LabelledSystem.exec_cons_eq_some.mp hexec
    obtain ⟨hhead, hrest⟩ := hhandled u hstep
    have hreadings : s.readings (e :: es) = s.readsMessage e + u.readings es := by
      rw [readings, hstep]
    have hintime : s.ReadInTime (e :: es) ↔
        (s.IsDue e → u.udpMessages.length ≤ u.readings es) ∧ u.ReadInTime es := by
      rw [ReadInTime, hstep]
      simp only [Option.mem_some_iff, forall_eq']
    rw [hreadings, hintime, ← and_assoc]
    have hle := h.due_le
    have hsum := h.sum_eq
    by_cases hdata : ∃ data, e = .datagram data
    · obtain ⟨data, rfl⟩ := hdata
      obtain ⟨hinv, hanswers, hdue⟩ := h.forward data
      obtain rfl : s.forward data = u := Option.some.inj hstep
      have hsum' := hinv.sum_eq
      rw [ih hinv hrest hexec, hanswers, hdue]
      rw [hanswers] at hsum'
      have hnone : s.readsMessage (.datagram data) = 0 := rfl
      refine and_congr_left fun _ => ?_
      -- A message that is due comes behind all others.
      split_ifs with hisdue
      · have hcame : s.forwarded ≤ (s.forward data).forwarded := by
          rw [ActionHandler.forward, if_pos hisdue.1]
          exact Nat.le_succ _
        simp only [hisdue, true_implies]
        omega
      · simp only [hisdue, false_implies, and_true, hnone, Nat.zero_add]
    · have hnot : ¬ s.IsDue e := by
        cases e with
        | datagram data => exact absurd ⟨data, rfl⟩ hdata
        | startAction | iterate | shutdown => exact not_false
      have hkept := mailKept_of_step (fun data he => hdata ⟨data, he⟩) hhead hstep
      rw [ih (h.kept hkept) hrest hexec, hkept.due, hkept.answers]
      refine and_congr_left fun _ => ?_
      simp only [hnot, false_implies, and_true]
      have hone := s.readsMessage_le e
      -- Nothing is due when there is nothing to read.
      by_cases hempty : s.udpMessages = []
      · rw [hempty, List.length_nil] at hsum
        rw [if_neg fun hread => hread.2 hempty]
        omega
      · simp only [hempty, ne_eq, not_false_eq_true, and_true]
        split_ifs <;> omega

/-- The steps of a run are handled when they find what they need. -/
lemma handled_along_iff_runs (es : List Event) :
    LabelledSystem.Along step Handled init es ↔ LabelledSystem.Along step Runs init es := by
  refine LabelledSystem.along_congr (I := fun _ => True) (fun _ _ _ _ _ => trivial)
    (fun s e _ _ _ => ?_) trivial
  cases e with
  | startAction | datagram | shutdown => exact Iff.rfl
  | iterate t =>
    refine ⟨fun h => balanced_iteration_iff.mp h.2, fun h => ⟨?_, balanced_iteration_iff.mpr h⟩⟩
    rintro ⟨hforce, hnode, hraised⟩
    have hruns := h hforce hnode
    rw [hraised] at hruns
    exact answersOnce_iff.mpr hruns.1

/-- **Commands are answered and the lock is given back.**  In a run every message that comes during the
execution of an action gets exactly one answer, to read a message raises nothing, and every iteration of
the command loop releases the lock as often as it acquires it, if and only if in every iteration the calls
that are made with the lock raise nothing but time-outs and the end of the connection, the message that is
read can be handled (what is added to the summary is there, the monitors that are asked are there and ready,
a command can be stopped), the handler can be shut down when it has to be, and behind each such message
there are as many time-outs as messages in the queue. -/
theorem handled_along_iff {es : List Event} {s : ActionHandler}
    (hexec : LabelledSystem.exec step init es = some s) :
    LabelledSystem.Along step Handled init es ∧ s.AllAnswered ↔
      LabelledSystem.Along step Runs init es ∧ init.ReadInTime es := by
  rw [← handled_along_iff_runs]
  refine and_congr_right fun hhandled => ?_
  rw [allAnswered_iff ⟨le_rfl, rfl⟩ hhandled hexec]
  exact and_iff_right (Nat.zero_le _)

/-- A result is added to the summary. -/
def summaryInfo : Text := "add_info_to_summary 17 calls".toList

/-- A command is executed and ends, and a result of it is added to the summary meanwhile. -/
def resultInfo : List Event :=
  [.startAction {}, .datagram summaryInfo,
    .iterate { result := .ok .line }, .iterate { result := .error .timeout },
    .iterate { result := .ok .sync }]

/-- The message is answered, and the lock is free. -/
theorem resultInfo_handled :
    ∃ s, LabelledSystem.exec step init resultInfo = some s ∧ s.answers = [.ok] ∧
      LabelledSystem.Along step Handled init resultInfo ∧ s.AllAnswered := by
  refine ⟨_, rfl, by decide +kernel, (handled_along_iff rfl).mpr ⟨?_, by decide +kernel⟩⟩
  rintro _ ⟨⟩
  refine ⟨trivial, ?_⟩
  rintro _ ⟨⟩
  refine ⟨trivial, ?_⟩
  rintro _ ⟨⟩
  refine ⟨fun _ _ => trivial, ?_⟩
  rintro _ ⟨⟩
  refine ⟨fun _ _ => ⟨fun data hdata => ⟨fun _ _ => rfl, ?_⟩, fun htimed => absurd htimed (by decide)⟩, ?_⟩
  · obtain rfl : summaryInfo = data := Option.some.inj (Eq.trans (by decide +kernel) hdata)
    have hparse : UdpCmd.parse (cmdOf summaryInfo) = some .addInfoToSummary := by decide +kernel
    unfold CmdRuns
    rw [hparse]
    exact ⟨"17 calls".toList, by decide +kernel, fun _ _ _ _ => rfl⟩
  · rintro _ ⟨⟩
    refine ⟨fun _ _ => ?_, trivial⟩
    have hnone : ∀ t s, (∀ place call, t.raises place call = none) → t.result = .ok .sync →
        heldRaised t s = none := by
      intro t s hraises hresult
      unfold heldRaised
      rw [hresult]
      dsimp only
      split_ifs
      · exact List.findSome?_eq_none_iff.mpr fun c _ => hraises _ c
      · rfl
    rw [hnone _ _ (fun _ _ => rfl) rfl]
    trivial

/-- A command is executed, and something without a text is added to the summary. -/
def emptyInfo : List Event :=
  [.startAction {}, .datagram "add_info_to_summary".toList, .iterate { result := .error .timeout }]

/-- There is no answer, the thread has ended, and the lock is never released. -/
theorem emptyInfo_not_handled :
    (LabelledSystem.exec step init emptyInfo).map (fun s =>
        (s.udpMessages, s.answers, s.alive, s.acquired, s.released)) =
      some ([], [], false, 1, 0) ∧
    ¬ LabelledSystem.Along step Handled init emptyInfo := by
  refine ⟨by decide +kernel, fun h => ?_⟩
  have hbalanced : Balanced _ _ := (((h _ rfl).2 _ rfl).2 _ rfl).1.2
  exact absurd hbalanced (by unfold Balanced; decide +kernel)

end ActionHandler

end HssRtc
