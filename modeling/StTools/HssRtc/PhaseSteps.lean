import StTools.HssRtc.MainLoop
import StTools.Lib.EarlyExit
import Mathlib.Data.List.TakeWhile

/-!
# The phases and steps of a test case

A test case is executed phase by phase, and a phase step by step.  A step runs a command, or in the phase
`CHECK` it may call a function.  A failure is counted in the verdict when the step asks for that, or when
it ends the phase, the test case or `HSS_rtc` otherwise; a step with `skip_phase_on_fail` alone ends its
phase, and nothing is counted.

The loop over the phases goes on after `SkipPhase` and after every `KeyError`, so that a step without an
`id` ends its phase silently.  When no step of the configuration is of this kind, the verdict is `SUCCESS`
exactly when every step that is enabled was executed and has passed (`success_iff`).  The steps are those
that the main loop leaves to its events (`exec_run`).
-/

namespace HssRtc

open EarlyExit (Logged)

namespace Phases

/-! ## The configuration -/

/-- What a phase does to its test case. -/
inductive Note
  | updateVerdict (message : String) (repeats : Bool)
  | setExecutionStatus (failed : Bool)
  deriving DecidableEq

/-- The event of the main loop. -/
def Note.event : Note → Rtc.Event
  | .updateVerdict message repeats => .updateVerdict message repeats
  | .setExecutionStatus failed => .setExecutionStatus failed

/-- The test case after a note. -/
def Note.apply : Note → TestCase → TestCase
  | .updateVerdict message repeats, t => t.addFailure message repeats
  | .setExecutionStatus failed, t => { t with reportNotValid := failed }

/-- The test case after some notes. -/
def applyAll (notes : List Note) (t : TestCase) : TestCase := notes.foldl (fun t n => n.apply t) t

/-- The note reports a failure. -/
def Note.isFailure : Note → Bool
  | .updateVerdict _ _ => true
  | .setExecutionStatus _ => false

/-- What leaves a step, a phase or the loop over the phases. -/
inductive Raised
  | skipPhase
  | keyError
  | exitRtc
  | stopTestCaseOnFail
  /-- `ExecutionConfigurationError` or `ExecutionRunError`. -/
  | executionError (message : String)
  | batError (message : String)
  | other
  deriving DecidableEq

/-- The handlers of `run`: how the test case ends, unless the loop over the phases goes on. -/
def Raised.outcome? : Raised → Option Outcome
  | .skipPhase | .keyError => none
  | .exitRtc => some .exitRtc
  | .stopTestCaseOnFail => some .stopTestCaseOnFail
  | .executionError message => some (.executionError message)
  | .batError message => some (.batError message)
  | .other => some .otherException

/-- The phases. -/
inductive PhaseName
  | clean
  | pre
  | execution
  | post
  | collect
  | check
  deriving DecidableEq

/-- The name of a phase. -/
def PhaseName.text : PhaseName → String
  | .clean => "CLEAN"
  | .pre => "PRE"
  | .execution => "EXECUTION"
  | .post => "POST"
  | .collect => "COLLECT"
  | .check => "CHECK"

/-- The first entries of `__step_data`. -/
inductive StepType
  | framework
  | external
  | function
  deriving DecidableEq

/-- The table `__step_data` of `StepTranslator`: the type and the command of the steps that have a name. -/
abbrev StepData := String → Option (StepType × String)

/-- The field `enable` of a step. -/
inductive Enable
  | flag (value : Bool)
  /-- The key of a macro. -/
  | key (name : String)
  deriving DecidableEq

/-- A step of the file. -/
structure StepConfig where
  id : Option String
  enable : Option Enable
  framework : Bool
  cmd : Option String
  extraParameters : String
  background : Bool
  addToVerdict : Bool
  stopOnFail : Bool
  exitRtcOnFail : Bool
  skipPhaseOnFail : Bool
  reportNotValid : Bool
  repeats : Bool
  deriving DecidableEq

/-- What has come of a command: its return code, unless it runs in the background. -/
structure Returned where
  returncode : Option ℤ
  errorInfo : String
  deriving DecidableEq

/-- The return code says that the command has failed; there is none in the background. -/
def Returned.failed (r : Returned) : Bool := r.returncode.any fun code => code ≠ 0

/-- What a step finds when its turn comes. -/
structure Turn where
  /-- `exit_test_case` is set. -/
  exitTestCase : Bool
  getMacroValue : String → Option String
  macroTranslator : String → String
  /-- Execute a command and save what it has written. -/
  execute : String → Except String (ℤ × String)
  /-- Start a command in the background; a text says why that has failed. -/
  start : String → Option String
  /-- Call a function of `CHECK`. -/
  call : String → Except Raised (Bool × String)

/-- A step with its turn. -/
structure Step extends StepConfig where
  turn : Turn

namespace StepConfig

variable (c : StepConfig)

/-- A failure is counted in the verdict. -/
def counted : Bool := c.addToVerdict || c.stopOnFail || c.exitRtcOnFail || c.reportNotValid

/-- What a failure raises. -/
def raisedOnFail : Option Raised :=
  if c.exitRtcOnFail then some .exitRtc
  else if c.stopOnFail then some .stopTestCaseOnFail
  else if c.skipPhaseOnFail then some .skipPhase
  else none

/-- What a failure does to the test case. -/
def failureNotes (message : String) : List Note :=
  (if c.counted then [.updateVerdict message c.repeats] else []) ++
    (if c.reportNotValid then [.setExecutionStatus true] else [])

/-- After a failure. -/
def fail (message : String) : Logged Note Raised Unit where
  log := c.failureNotes message
  result := match c.raisedOnFail with
    | some raised => .error raised
    | none => .ok ()

/-- The property `step_type` of `StepTranslator`. -/
def stepType (data : StepData) (id : String) : StepType :=
  match data id with
  | some (stepType, _) => stepType
  | none => if c.framework then .framework else .external

/-- The property `cmd` of `StepTranslator`. -/
def translated (data : StepData) (id : String) : Except Raised String :=
  match data id with
  | some (_, cmd) => .ok cmd
  | none =>
    match c.cmd with
    | some cmd => .ok cmd
    | none => .error (.executionError
        ("Execution Configuration Error: Problem finding " ++ id ++ " cmd : 'cmd'"))

end StepConfig

namespace Step

variable (data : StepData) (phase : PhaseName) (s : Step) (id : String)

/-! ## Executing a step -/

/-- The macros of a text are put in. -/
def withMacros (text : String) : String :=
  if '#' ∈ text.toList then s.turn.macroTranslator text else text

/-- The property `cmd`. -/
def command : Except Raised String :=
  (s.translated data id).map fun cmd => s.withMacros (cmd ++ " " ++ s.extraParameters)

/-- The property `function`. -/
def function : Except Raised String :=
  (s.translated data id).map fun f =>
    s.withMacros (if '(' ∈ f.toList then f else f ++ "(" ++ s.extraParameters ++ ")")

/-- The step is enabled. -/
def enabled : Bool :=
  match s.enable with
  | none => false
  | some (.flag value) => value
  | some (.key name) => s.turn.getMacroValue name = some "true"

/-- The command is executed, or it is started. -/
def execute : Except Raised (String × Returned) :=
  match s.command data id with
  | .error raised => .error raised
  | .ok cmd =>
    if s.background then
      match s.turn.start cmd with
      | none => .ok (cmd, ⟨none, ""⟩)
      | some info => .ok (cmd, ⟨some 1, info⟩)
    else
      match s.turn.execute
          ((if s.stepType data id = .framework then "run_command_node " else "") ++ cmd) with
      | .error message => .error (.executionError message)
      | .ok (returncode, info) => .ok (cmd, ⟨some returncode, info⟩)

/-- The message of a failure. -/
def message (cmd : String) (r : Returned) : String :=
  phase.text ++ " " ++ cmd ++ ": " ++ r.errorInfo

/-- `run` for a command: what has come of it. -/
def runCommand : Logged Note Raised Returned :=
  match s.execute data id with
  | .error raised => .ofResult (.error raised)
  | .ok (cmd, r) =>
    if r.failed then (s.fail (message phase cmd r)).bind fun _ => .ofResult (.ok r)
    else .ofResult (.ok r)

/-- A step of `Phase.run`: a function is not called. -/
def runStep : Logged Note Raised Unit :=
  match s.id with
  | none => .ofResult (.error .keyError)
  | some id =>
    match s.stepType data id with
    | .function => .ofResult (.ok ())
    | .framework | .external => (s.runCommand data phase id).bind fun _ => .ofResult (.ok ())

/-- The end of a step of `CHECK`. -/
def judge (result : Bool) (info : String) : Logged Note Raised Unit :=
  if result then .ofResult (.ok ()) else s.fail info

/-- A step of `CHECK.run`.  The failure of a command was counted by `Step.run` already; for a command of
the framework there is no function to call, and that is an error of its own. -/
def runCheck : Logged Note Raised Unit :=
  match s.id with
  | none => .ofResult (.error .keyError)
  | some id =>
    match s.stepType data id with
    | .external =>
      (s.runCommand data .check id).bind fun r => s.judge (r.returncode = some 0) r.errorInfo
    | .framework => (s.runCommand data .check id).bind fun _ => .ofResult (.error .other)
    | .function =>
      match s.function data id with
      | .error raised => .ofResult (.error raised)
      | .ok f =>
        match s.turn.call f with
        | .error raised => .ofResult (.error raised)
        | .ok (result, info) => s.judge result info

/-- A step that is not enabled is passed over. -/
def visit : Logged Note Raised Unit :=
  if s.enabled then
    if phase = .check then s.runCheck data else s.runStep data phase
  else .ofResult (.ok ())

end Step

/-! ## Executing the phases -/

/-- The entry of a phase in the configuration. -/
structure PhaseConfig where
  /-- The field `enable`; without it there is a `KeyError`. -/
  enable : Option Bool
  /-- The field `steps`, with the turns of the steps. -/
  steps : Option (List Step)

/-- A phase of `user_config.phase` with what is found when its turn comes. -/
structure Visit where
  phase : PhaseName
  /-- `exit_test_case` is set. -/
  exitTestCase : Bool
  config : Option PhaseConfig
  /-- What the execution of the instances does, in the phase `EXECUTION`. -/
  execution : Logged Note Raised Unit

namespace Visit

variable (data : StepData) (v : Visit)

/-- The steps of an enabled phase: the loop over them ends at an order to leave the test case. -/
def runSteps (steps : List Step) : Logged Note Raised Unit :=
  .loop (Step.visit data v.phase) (steps.takeWhile fun s => !s.turn.exitTestCase)

/-- The body of the loop over the phases. -/
def run : Logged Note Raised Unit :=
  match v.config with
  | none => .ofResult (.error .keyError)
  | some config =>
    match config.enable with
    | none => .ofResult (.error .keyError)
    | some false => .ofResult (.ok ())
    | some true =>
      if v.phase = .execution then v.execution
      else
        match config.steps with
        | none => .ofResult (.error .keyError)
        | some steps => v.runSteps data steps

end Visit

/-- The loop over the phases: what it does to the test case, and how it ends. -/
def run (data : StepData) (visits : List Visit) : List Note × Outcome :=
  let r : Logged Note Outcome Unit :=
    .loop (fun v => (v.run data).handle Raised.outcome?) (visits.takeWhile fun v => !v.exitTestCase)
  (r.log, match r.result with
    | .error o => o
    | .ok () => if visits.any Visit.exitTestCase then .exitOrdered else .finished)

/-! ## The verdict -/

/-- The verdicts that `finish` writes. -/
inductive Verdict
  | notFinished
  | failed
  | success
  deriving DecidableEq

/-- The verdict on a test case that has ended. -/
def verdict (t : TestCase) : Verdict :=
  if t.status = .notFinished then .notFinished
  else if t.failureMessages ≠ [] then .failed
  else .success

/-- The test case after its phases. -/
def after (data : StepData) (visits : List Visit) (t : TestCase) : TestCase :=
  (run data visits).2.apply (applyAll (run data visits).1 t)

/-! ## Failures -/

/-- The procedure goes on, and no failure was reported. -/
def Clean {ε : Type} (r : Logged Note ε Unit) : Prop :=
  r.result = .ok () ∧ ∀ n ∈ r.log, n.isFailure = false

/-- Where a procedure is left in a way that the loop over the phases catches, it has reported a failure. -/
def Careful (r : Logged Note Raised Unit) : Prop :=
  ∀ e, r.result = .error e → e.outcome? = none → ∃ n ∈ r.log, n.isFailure = true

lemma clean_ok {ε : Type} : Clean (Logged.ofResult (.ok ()) : Logged Note ε Unit) :=
  ⟨rfl, fun _ h => absurd h List.not_mem_nil⟩

lemma clean_loop_iff {α ε : Type} {f : α → Logged Note ε Unit} {l : List α} :
    Clean (Logged.loop f l) ↔ ∀ a ∈ l, Clean (f a) := by
  constructor
  · rintro ⟨hok, hlog⟩ a ha
    rw [Logged.log_loop_of_ok hok] at hlog
    exact ⟨Logged.loop_eq_ok_iff.mp hok a ha, fun n hn => hlog n (List.mem_flatMap.mpr ⟨a, ha, hn⟩)⟩
  · intro h
    refine ⟨Logged.loop_eq_ok_iff.mpr fun a ha => (h a ha).1, fun n hn => ?_⟩
    obtain ⟨a, ha, hna⟩ := Logged.exists_of_mem_log_loop hn
    exact (h a ha).2 n hna

lemma careful_loop {α : Type} {f : α → Logged Note Raised Unit} {l : List α}
    (h : ∀ a ∈ l, Careful (f a)) : Careful (Logged.loop f l) := by
  intro e he hcaught
  obtain ⟨a, ha, hea, hlog⟩ := Logged.exists_of_loop_eq_error he
  obtain ⟨n, hn, hfailure⟩ := h a ha e hea hcaught
  exact ⟨n, hlog n hn, hfailure⟩

/-- The handler of the loop over the phases hides nothing of a careful phase. -/
lemma clean_handle_iff {r : Logged Note Raised Unit} (h : Careful r) :
    Clean (r.handle Raised.outcome?) ↔ Clean r := by
  unfold Clean
  rw [Logged.handle_eq_ok_iff, Logged.log_handle]
  constructor
  · rintro ⟨hok | ⟨e, he, hcaught⟩, hlog⟩
    · exact ⟨hok, hlog⟩
    · obtain ⟨n, hn, hfailure⟩ := h e he hcaught
      exact absurd (hlog n hn) (by rw [hfailure]; decide)
  · rintro ⟨hok, hlog⟩
    exact ⟨.inl hok, hlog⟩

/-- A failure that is counted is reported. -/
lemma StepConfig.isFailure_of_counted {c : StepConfig} (h : c.counted = true) (message : String) :
    ∃ n ∈ (c.fail message).log, n.isFailure = true := by
  refine ⟨.updateVerdict message c.repeats, List.mem_append_left _ ?_, rfl⟩
  rw [if_pos h]
  exact List.mem_singleton_self _

/-- A failure was reported, or the test case ends. -/
def Fails (r : Logged Note Raised Unit) : Prop :=
  (∃ n ∈ r.log, n.isFailure = true) ∨ ∃ e, r.result = .error e ∧ e.outcome? ≠ none

lemma Fails.not_clean {r : Logged Note Raised Unit} (h : Fails r) : ¬ Clean r := by
  rintro ⟨hok, hlog⟩
  rcases h with ⟨n, hn, hfailure⟩ | ⟨e, he, -⟩
  · rw [hlog n hn] at hfailure
    cases hfailure
  · rw [hok] at he
    cases he

lemma Fails.careful {r : Logged Note Raised Unit} (h : Fails r) : Careful r := by
  intro e he hcaught
  rcases h with hnote | ⟨e', he', hends⟩
  · exact hnote
  · obtain rfl : e = e' := Except.error.inj (he.symm.trans he')
    exact absurd hcaught hends

lemma Clean.careful {r : Logged Note Raised Unit} (h : Clean r) : Careful r := fun e he => by
  rw [h.1] at he
  cases he

namespace Step

variable {data : StepData} {phase : PhaseName} {s : Step} {id : String}

/-- What a step with an identifier is for was executed with success.  A function is called in `CHECK`
only, and nothing else passes there but a function and a command of the user. -/
def PassesAs (data : StepData) (phase : PhaseName) (s : Step) (id : String) : Prop :=
  match s.stepType data id with
  | .function =>
    phase = .check ∧ ∃ f info, s.function data id = .ok f ∧ s.turn.call f = .ok (true, info)
  | .external => ∃ cmd r, s.execute data id = .ok (cmd, r) ∧
    if phase = .check then r.returncode = some 0 else r.failed = false
  | .framework => phase ≠ .check ∧ ∃ cmd r, s.execute data id = .ok (cmd, r) ∧ r.failed = false

/-- The step passes. -/
def Passes (data : StepData) (phase : PhaseName) (s : Step) : Prop :=
  ∃ id, s.id = some id ∧ s.PassesAs data phase id

/-- The step accounts for what comes of it: it has an identifier, a failure is counted, a function stands
in `CHECK`, and no function is left with a `KeyError` or as if its phase should be skipped. -/
structure Accountable (data : StepData) (phase : PhaseName) (s : Step) : Prop where
  hasId : s.id ≠ none
  counted : s.counted = true
  called : ∀ id, s.id = some id → s.stepType data id = .function → phase = .check
  raises : ∀ f e, s.turn.call f = .error e → e.outcome? ≠ none

/-- What is left of a failure that is counted. -/
lemma fails_bind_fail {α : Type} (hcounted : s.counted = true) (message : String)
    (f : Unit → Logged Note Raised α) (g : α → Logged Note Raised Unit) :
    Fails (((s.fail message).bind f).bind g) := by
  obtain ⟨n, hn, hfailure⟩ := StepConfig.isFailure_of_counted hcounted message
  refine .inl ⟨n, ?_, hfailure⟩
  have hfirst : n ∈ ((s.fail message).bind f).log := Logged.mem_log_bind hn
  exact Logged.mem_log_bind hfirst

/-- What is raised when a command or a function is translated ends the test case. -/
lemma ends_of_map_translated {f : String → String} {raised : Raised}
    (h : (s.translated data id).map f = .error raised) : raised.outcome? ≠ none := by
  unfold StepConfig.translated at h
  split at h
  · cases h
  · split at h
    · cases h
    · cases h
      exact Option.some_ne_none _

/-- What is raised when a command is executed ends the test case. -/
lemma ends_of_execute_eq_error {raised : Raised} (h : s.execute data id = .error raised) :
    raised.outcome? ≠ none := by
  unfold execute at h
  split at h
  · next hcommand =>
    cases h
    exact ends_of_map_translated hcommand
  · split at h
    · split at h <;> cases h
    · split at h
      · cases h
        exact Option.some_ne_none _
      · cases h

/-- A command is executed with success, or the failure is counted. -/
lemma runCommand_bind (data : StepData) (phase : PhaseName) (id : String)
    (hcounted : s.counted = true) (g : Returned → Logged Note Raised Unit) :
    (∃ cmd r, s.execute data id = .ok (cmd, r) ∧ r.failed = false ∧
      (s.runCommand data phase id).bind g = g r) ∨
      (∀ cmd r, s.execute data id = .ok (cmd, r) → r.failed = true) ∧
        Fails ((s.runCommand data phase id).bind g) := by
  cases hexecute : s.execute data id with
  | error raised =>
    refine .inr ⟨fun cmd r h => (by cases h), .inr ⟨raised, ?_, ends_of_execute_eq_error hexecute⟩⟩
    rw [runCommand, hexecute]
    rfl
  | ok x =>
    obtain ⟨cmd, r⟩ := x
    cases hfailed : r.failed with
    | false =>
      refine .inl ⟨cmd, r, rfl, hfailed, ?_⟩
      rw [runCommand, hexecute]
      dsimp only
      rw [hfailed, if_neg Bool.false_ne_true]
      rfl
    | true =>
      refine .inr ⟨?_, ?_⟩
      · intro cmd' r' h
        cases h
        exact hfailed
      · rw [runCommand, hexecute]
        dsimp only
        rw [if_pos hfailed]
        exact fails_bind_fail hcounted _ _ _

/-- A failure in `CHECK` is counted. -/
lemma fails_judge (hcounted : s.counted = true) (info : String) : Fails (s.judge false info) :=
  .inl (StepConfig.isFailure_of_counted hcounted info)

lemma passes_iff (hid : s.id = some id) : s.Passes data phase ↔ s.PassesAs data phase id := by
  constructor
  · rintro ⟨id', hid', h⟩
    obtain rfl := Option.some.inj (hid.symm.trans hid')
    exact h
  · exact fun h => ⟨id, hid, h⟩

/-- A step of `CHECK` passes silently, or it fails audibly. -/
lemma runCheck_cases (h : s.Accountable data .check) (hid : s.id = some id) :
    (s.PassesAs data .check id ∧ Clean (s.runCheck data)) ∨
      (¬ s.PassesAs data .check id ∧ Fails (s.runCheck data)) := by
  rw [runCheck, hid]
  unfold PassesAs
  dsimp only
  cases s.stepType data id with
  | framework =>
    refine .inr ⟨fun hp => hp.1 rfl, ?_⟩
    rcases runCommand_bind data .check id h.counted fun _ => Logged.ofResult (.error .other) with
      ⟨cmd, r, -, -, heq⟩ | ⟨-, hfails⟩
    · dsimp only
      rw [heq]
      exact .inr ⟨.other, rfl, Option.some_ne_none _⟩
    · exact hfails
  | external =>
    dsimp only
    rcases runCommand_bind data .check id h.counted fun r =>
      s.judge (r.returncode = some 0) r.errorInfo with
      ⟨cmd, r, hexecute, -, heq⟩ | ⟨hfailed, hfails⟩
    · rw [heq]
      by_cases hcode : r.returncode = some 0
      · refine .inl ⟨⟨cmd, r, hexecute, by rwa [if_pos rfl]⟩, ?_⟩
        rw [decide_eq_true hcode]
        exact clean_ok
      · refine .inr ⟨?_, ?_⟩
        · rintro ⟨cmd', r', hexecute', hpassed⟩
          cases hexecute.symm.trans hexecute'
          rw [if_pos rfl] at hpassed
          exact hcode hpassed
        · rw [decide_eq_false hcode]
          exact fails_judge h.counted _
    · refine .inr ⟨?_, hfails⟩
      rintro ⟨cmd, r, hexecute, hpassed⟩
      have hcode := hfailed cmd r hexecute
      rw [if_pos rfl] at hpassed
      rw [Returned.failed, hpassed] at hcode
      cases hcode
  | function =>
    dsimp only
    cases hfunction : s.function data id with
    | error raised =>
      refine .inr ⟨?_, .inr ⟨raised, rfl, ?_⟩⟩
      · rintro ⟨-, f, info, hf, -⟩
        cases hf
      · exact ends_of_map_translated hfunction
    | ok f =>
      dsimp only
      cases hcall : s.turn.call f with
      | error raised =>
        refine .inr ⟨?_, .inr ⟨raised, rfl, h.raises f raised hcall⟩⟩
        rintro ⟨-, f', info, hf, hpassed⟩
        cases hf
        cases hcall.symm.trans hpassed
      | ok x =>
        obtain ⟨result, info⟩ := x
        cases result with
        | true => exact .inl ⟨⟨rfl, f, info, rfl, hcall⟩, clean_ok⟩
        | false =>
          refine .inr ⟨?_, fails_judge h.counted info⟩
          rintro ⟨-, f', info', hf, hpassed⟩
          cases hf
          cases hcall.symm.trans hpassed

/-- A step of another phase passes silently, or it fails audibly. -/
lemma runStep_cases (h : s.Accountable data phase) (hphase : phase ≠ .check) (hid : s.id = some id) :
    (s.PassesAs data phase id ∧ Clean (s.runStep data phase)) ∨
      (¬ s.PassesAs data phase id ∧ Fails (s.runStep data phase)) := by
  have hcommand := runCommand_bind data phase id h.counted
    fun _ => Logged.ofResult (.ok ())
  have hcalled := h.called id hid
  rw [runStep, hid]
  unfold PassesAs
  dsimp only
  cases hstep : s.stepType data id with
  | function => exact absurd (hcalled hstep) hphase
  | framework =>
    dsimp only
    rcases hcommand with ⟨cmd, r, hexecute, hpassed, heq⟩ | ⟨hfailed, hfails⟩
    · exact .inl ⟨⟨hphase, cmd, r, hexecute, hpassed⟩, by rw [heq]; exact clean_ok⟩
    · refine .inr ⟨?_, hfails⟩
      rintro ⟨-, cmd, r, hexecute, hpassed⟩
      rw [hfailed cmd r hexecute] at hpassed
      cases hpassed
  | external =>
    dsimp only
    rcases hcommand with ⟨cmd, r, hexecute, hpassed, heq⟩ | ⟨hfailed, hfails⟩
    · exact .inl ⟨⟨cmd, r, hexecute, by rwa [if_neg hphase]⟩, by rw [heq]; exact clean_ok⟩
    · refine .inr ⟨?_, hfails⟩
      rintro ⟨cmd, r, hexecute, hpassed⟩
      rw [if_neg hphase, hfailed cmd r hexecute] at hpassed
      cases hpassed

/-- An enabled step that accounts for what comes of it passes silently, or it fails audibly. -/
lemma visit_cases (henabled : s.enabled = true) (h : s.Accountable data phase) :
    (s.Passes data phase ∧ Clean (s.visit data phase)) ∨
      (¬ s.Passes data phase ∧ Fails (s.visit data phase)) := by
  obtain ⟨id, hid⟩ := Option.ne_none_iff_exists'.mp h.hasId
  rw [passes_iff hid, visit, if_pos henabled]
  by_cases hphase : phase = .check
  · subst hphase
    exact runCheck_cases h hid
  · rw [if_neg hphase]
    exact runStep_cases h hphase hid

end Step

/-! ## The verdict on a test case -/

namespace Visit

variable {data : StepData} {v : Visit}

/-- The phase is enabled. -/
def Enabled (v : Visit) : Prop := v.config.bind PhaseConfig.enable = some true

/-- The steps of the phase that are enabled. -/
def enabledSteps (v : Visit) : List Step :=
  ((v.config.bind PhaseConfig.steps).getD []).filter Step.enabled

/-- The phase passes: all its steps that are enabled do, or the instances were executed without a failure. -/
def Passes (data : StepData) (v : Visit) : Prop :=
  if v.phase = .execution then Clean v.execution else ∀ s ∈ v.enabledSteps, s.Passes data v.phase

/-- The phase accounts for what comes of it. -/
structure Accountable (data : StepData) (v : Visit) : Prop where
  /-- No order to leave the test case is seen. -/
  noOrder : v.exitTestCase = false
  noOrderInside : ∀ s ∈ (v.config.bind PhaseConfig.steps).getD [], s.turn.exitTestCase = false
  /-- There are steps. -/
  hasSteps : v.phase ≠ .execution → v.config.bind PhaseConfig.steps ≠ none
  steps : ∀ s ∈ v.enabledSteps, s.Accountable data v.phase
  execution : v.phase = .execution → Careful v.execution

/-- The steps of a phase that accounts for what comes of it are all visited. -/
lemma runSteps_eq {steps : List Step} (hsteps : v.config.bind PhaseConfig.steps = some steps)
    (h : v.Accountable data) : v.runSteps data steps = .loop (Step.visit data v.phase) steps := by
  have hall : steps.takeWhile (fun s => !s.turn.exitTestCase) = steps := by
    rw [List.takeWhile_eq_self_iff]
    intro s hs
    have horder := h.noOrderInside s (by rw [hsteps]; exact hs)
    rw [horder]
    rfl
  rw [runSteps, hall]

/-- A step of a phase passes silently, or it fails audibly, or it is passed over. -/
lemma visit_spec {steps : List Step} (hsteps : v.config.bind PhaseConfig.steps = some steps)
    (h : v.Accountable data) {s : Step} (hs : s ∈ steps) :
    (Clean (s.visit data v.phase) ↔ s.enabled = true → s.Passes data v.phase) ∧
      Careful (s.visit data v.phase) := by
  cases henabled : s.enabled with
  | false =>
    have hclean : Clean (s.visit data v.phase) := by
      rw [Step.visit, henabled, if_neg Bool.false_ne_true]
      exact clean_ok
    exact ⟨iff_of_true hclean fun h => (by cases h), hclean.careful⟩
  | true =>
    have hmem : s ∈ v.enabledSteps := by
      rw [enabledSteps, hsteps]
      exact List.mem_filter.mpr ⟨hs, henabled⟩
    rcases Step.visit_cases henabled (h.steps s hmem) with ⟨hpasses, hclean⟩ | ⟨hpasses, hfails⟩
    · exact ⟨iff_of_true hclean fun _ => hpasses, hclean.careful⟩
    · exact ⟨iff_of_false hfails.not_clean fun hp => hpasses (hp rfl), hfails.careful⟩

/-- A phase that is enabled is clean exactly when it passes. -/
lemma run_spec (h : v.Accountable data) (henabled : v.Enabled) :
    (Clean (v.run data) ↔ v.Passes data) ∧ Careful (v.run data) := by
  obtain ⟨config, hconfig, henable⟩ := Option.bind_eq_some_iff.mp henabled
  by_cases hphase : v.phase = .execution
  · have hrun : v.run data = v.execution := by
      rw [run, hconfig]
      dsimp only
      rw [henable]
      exact if_pos hphase
    rw [hrun, Passes, if_pos hphase]
    exact ⟨Iff.rfl, h.execution hphase⟩
  · obtain ⟨steps, hsteps⟩ := Option.ne_none_iff_exists'.mp (h.hasSteps hphase)
    have hfield : config.steps = some steps := by rwa [hconfig] at hsteps
    have hrun : v.run data = .loop (Step.visit data v.phase) steps := by
      rw [← runSteps_eq hsteps h, run, hconfig]
      dsimp only
      rw [henable]
      dsimp only
      rw [if_neg hphase, hfield]
    rw [hrun, Passes, if_neg hphase, clean_loop_iff]
    refine ⟨?_, careful_loop fun s hs => (visit_spec hsteps h hs).2⟩
    rw [enabledSteps, hsteps, Option.getD_some]
    constructor
    · intro hclean s hs
      obtain ⟨hmem, hs⟩ := List.mem_filter.mp hs
      exact (visit_spec hsteps h hmem).1.mp (hclean s hmem) hs
    · intro hpasses s hs
      exact (visit_spec hsteps h hs).1.mpr fun he => hpasses s (List.mem_filter.mpr ⟨hs, he⟩)

/-- The body of the loop over the phases, with its handlers. -/
lemma clean_handle_run_iff (h : v.Accountable data) :
    Clean ((v.run data).handle Raised.outcome?) ↔ (v.Enabled → v.Passes data) := by
  by_cases henabled : v.Enabled
  · obtain ⟨hclean, hcareful⟩ := run_spec h henabled
    rw [clean_handle_iff hcareful, hclean]
    exact ⟨fun hp _ => hp, fun hp => hp henabled⟩
  · refine iff_of_true ?_ fun he => absurd he henabled
    unfold Enabled at henabled
    rw [run]
    cases hconfig : v.config with
    | none => exact clean_ok
    | some config =>
      rw [hconfig, Option.bind_some] at henabled
      dsimp only
      cases henable : config.enable with
      | none => exact clean_ok
      | some value =>
        cases value with
        | false => exact clean_ok
        | true => exact absurd henable henabled

end Visit

/-- Notes leave the status alone. -/
lemma status_applyAll (notes : List Note) (t : TestCase) : (applyAll notes t).status = t.status := by
  induction notes generalizing t with
  | nil => rfl
  | cons n notes ih =>
    rw [applyAll, List.foldl_cons]
    refine (ih _).trans ?_
    cases n with
    | updateVerdict message repeats => rfl
    | setExecutionStatus failed => rfl

/-- There is no message exactly when no failure was reported. -/
lemma failureMessages_applyAll {notes : List Note} {t : TestCase} :
    (applyAll notes t).failureMessages = [] ↔
      t.failureMessages = [] ∧ ∀ n ∈ notes, n.isFailure = false := by
  induction notes generalizing t with
  | nil => exact ⟨fun h => ⟨h, fun n hn => absurd hn List.not_mem_nil⟩, fun h => h.1⟩
  | cons n notes ih =>
    rw [applyAll, List.foldl_cons, List.forall_mem_cons]
    refine ih.trans ?_
    cases n with
    | updateVerdict message repeats =>
      refine iff_of_false (fun h => ?_) fun h => absurd h.2.1.symm Bool.false_ne_true
      exact List.cons_ne_nil _ _ (List.append_eq_nil_iff.mp h.1).2
    | setExecutionStatus failed => exact ⟨fun h => ⟨h.1, rfl, h.2⟩, fun h => ⟨h.1, h.2.2⟩⟩

/-- Only a test case that was finished without a failure is a success. -/
lemma verdict_apply {t : TestCase} (ht : t.status = .running) (o : Outcome) :
    verdict (o.apply t) = .success ↔ o = .finished ∧ t.failureMessages = [] := by
  have hends : ∀ message repeats, (t.updateStatus .notFinished message repeats).status = .notFinished := by
    intro message repeats
    unfold TestCase.updateStatus
    rw [ht]
  have hverdict : ∀ u : TestCase, u.status = .notFinished → verdict u ≠ .success := by
    intro u hu hsuccess
    rw [verdict, if_pos hu] at hsuccess
    cases hsuccess
  have hother : ∀ message repeats, verdict (t.updateStatus .notFinished message repeats) ≠ .success :=
    fun message repeats => hverdict _ (hends message repeats)
  cases o with
  | finished =>
    have heq : Outcome.finished.apply t = { t with status := .finished } := by
      unfold Outcome.apply TestCase.updateStatus
      dsimp only
      rw [ht]
      rfl
    have hstatus : ({ t with status := .finished } : TestCase).status ≠ .notFinished := fun h => by cases h
    rw [heq, verdict, if_neg hstatus]
    split_ifs with hmessages
    · exact iff_of_false (fun h => by cases h) fun h => hmessages h.2
    · exact iff_of_true rfl ⟨rfl, not_not.mp hmessages⟩
  | exitOrdered =>
    refine iff_of_false (hverdict _ ?_) fun h => by cases h.1
    have hfirst := hends "Test case exit order has been received" false
    unfold Outcome.apply
    dsimp only
    generalize t.updateStatus .notFinished "Test case exit order has been received" false = u at hfirst ⊢
    unfold TestCase.updateStatus
    rw [hfirst]
    exact hfirst
  | executionError message => exact iff_of_false (hother _ _) fun h => by cases h.1
  | batError message => exact iff_of_false (hother _ _) fun h => by cases h.1
  | exitRtc => exact iff_of_false (hother _ _) fun h => by cases h.1
  | stopTestCaseOnFail => exact iff_of_false (hother _ _) fun h => by cases h.1
  | otherException => exact iff_of_false (hother _ _) fun h => by cases h.1

/-- No way to leave a phase finishes the test case. -/
lemma outcome?_ne_finished (e : Raised) : e.outcome? ≠ some .finished := by
  intro h
  cases e <;> cases h

/-- **When a test case is a success.**  Where every phase accounts for what comes of it, the verdict is
`SUCCESS` exactly when every phase that is enabled passes, with every step of it that is enabled. -/
theorem success_iff (data : StepData) {visits : List Visit} {t : TestCase}
    (h : ∀ v ∈ visits, v.Accountable data) (ht : t.status = .running) (hmessages : t.failureMessages = []) :
    verdict (after data visits t) = .success ↔ ∀ v ∈ visits, v.Enabled → v.Passes data := by
  have hall : visits.takeWhile (fun v => !v.exitTestCase) = visits := by
    refine List.takeWhile_eq_self_iff.mpr fun v hv => ?_
    rw [(h v hv).noOrder]
    rfl
  have hany : visits.any Visit.exitTestCase = false := by
    rw [List.any_eq_false]
    intro v hv
    rw [(h v hv).noOrder]
    exact Bool.false_ne_true
  have hclean : Clean (Logged.loop (fun v => (v.run data).handle Raised.outcome?) visits) ↔
      ∀ v ∈ visits, v.Enabled → v.Passes data := by
    rw [clean_loop_iff]
    exact forall₂_congr fun v hv => Visit.clean_handle_run_iff (h v hv)
  rw [after, verdict_apply (by rw [status_applyAll, ht]), failureMessages_applyAll, ← hclean]
  unfold run
  dsimp only
  rw [hall, hany]
  cases hresult : (Logged.loop (fun v => (v.run data).handle Raised.outcome?) visits).result with
  | ok u => exact ⟨fun hr => ⟨hresult, hr.2.2⟩, fun hr => ⟨rfl, hmessages, hr.2⟩⟩
  | error o =>
    obtain ⟨v, -, hv, -⟩ := Logged.exists_of_loop_eq_error hresult
    obtain ⟨e, -, he⟩ := Logged.exists_of_handle_eq_error hv
    refine iff_of_false (fun hr => ?_) fun hr => ?_
    · have ho : o = .finished := hr.1
      exact outcome?_ne_finished e (ho ▸ he)
    · rw [hr.1] at hresult
      cases hresult

/-- A step that is counted in the verdict. -/
def countedStep (enable : Enable) : Step where
  id := some "get_alarms"
  enable := some enable
  framework := true
  cmd := some "CBA_check_alarms"
  extraParameters := ""
  background := false
  addToVerdict := true
  stopOnFail := false
  exitRtcOnFail := false
  skipPhaseOnFail := true
  reportNotValid := false
  repeats := false
  turn :=
    { exitTestCase := false
      getMacroValue := fun _ => some "false"
      macroTranslator := id
      execute := fun _ => .ok (0, "")
      start := fun _ => none
      call := fun _ => .ok (false, "") }

/-- The phase `PRE` with a step that passes and one that a macro disables. -/
def preVisit : Visit where
  phase := .pre
  exitTestCase := false
  config := some ⟨some true, some [countedStep (.flag true), countedStep (.key "#ALARMS#")]⟩
  execution := .ofResult (.ok ())

/-- The test case is executed. -/
def runningCase : TestCase := { (Definition.plain "cfg.json").create with status := .running }

/-- The steps of `PRE` pass, and so the test case is a success. -/
theorem preVisit_success : verdict (after (fun _ => none) [preVisit] runningCase) = .success := by
  have hraises : ∀ enable f e, (countedStep enable).turn.call f = .error e → e.outcome? ≠ none :=
    fun _ _ _ h => by cases h
  have hsteps : ∀ s ∈ [countedStep (.flag true), countedStep (.key "#ALARMS#")],
      s.turn.exitTestCase = false ∧ s.Accountable (fun _ => none) .pre := by
    intro s hs
    rw [List.mem_pair] at hs
    rcases hs with rfl | rfl
    · exact ⟨rfl, Option.some_ne_none _, rfl, fun _ _ h => (by cases h), hraises _⟩
    · exact ⟨rfl, Option.some_ne_none _, rfl, fun _ _ h => (by cases h), hraises _⟩
  have hvisit : preVisit.Accountable fun _ => none :=
    { noOrder := rfl
      noOrderInside := fun s hs => (hsteps s hs).1
      hasSteps := fun _ => Option.some_ne_none _
      steps := fun s hs => (hsteps s (List.mem_of_mem_filter hs)).2
      execution := fun h => by cases h }
  refine (success_iff _ (List.forall_mem_singleton.mpr hvisit) rfl rfl).mpr fun v hv _ => ?_
  obtain rfl := List.mem_singleton.mp hv
  intro s hs
  obtain ⟨hmem, henabled⟩ := List.mem_filter.mp hs
  have hpasses : ∀ enable, (countedStep enable).Passes (fun _ => none) .pre := fun enable =>
    ⟨_, rfl, fun h => (by cases h), _, _, rfl, rfl⟩
  have hpair : s = countedStep (.flag true) ∨ s = countedStep (.key "#ALARMS#") := List.mem_pair.mp hmem
  rcases hpair with rfl | rfl
  · exact hpasses _
  · exact hpasses _

/-! ## The main loop -/

/-- The state of the main loop with another current test case. -/
def onCurrent (s : Rtc) (f : TestCase → TestCase) : Rtc :=
  { s with testSuite := s.testSuite.updateCurrent f }

lemma updateCurrent_comp (suite : TestSuite) (f g : TestCase → TestCase) :
    (suite.updateCurrent f).updateCurrent g = suite.updateCurrent (g ∘ f) := by
  unfold TestSuite.updateCurrent
  dsimp only
  rw [List.modify_modify_eq]

/-- What the notes do to the state of the main loop. -/
lemma exec_notes {s : Rtc} (hpc : s.pc = .executing) (notes : List Note) :
    LabelledSystem.exec Rtc.step s (notes.map Note.event) =
      some (onCurrent s (applyAll notes)) := by
  induction notes generalizing s with
  | nil =>
    have hid : s.testSuite.updateCurrent id = s.testSuite := by
      unfold TestSuite.updateCurrent
      rw [List.modify_id]
    exact congrArg some (congrArg (fun x => { s with testSuite := x }) hid.symm)
  | cons n notes ih =>
    have hstep : Rtc.step s n.event = some (onCurrent s n.apply) := by
      cases n with
      | updateVerdict message repeats => exact if_pos hpc
      | setExecutionStatus failed => exact if_pos hpc
    rw [List.map_cons, LabelledSystem.exec, hstep, Option.bind_some, ih (s := onCurrent s n.apply) hpc]
    exact congrArg some (congrArg (fun x => { s with testSuite := x }) (updateCurrent_comp _ _ _))

/-- A main loop in which the first test case is executed. -/
def executing : Rtc :=
  { Rtc.init false [] [Definition.plain "cfg.json"] with
    pc := .executing
    testSuite := ⟨[runningCase], 1⟩ }

end Phases

end HssRtc
