import StTools.RtcController.Service
import StTools.Lib.WhileLoop

/-!
# The thread of a test

`run_traffic` runs in a thread of its own: it starts `HSS_rtc`, waits for its prompt, and cleans
up.  Meanwhile `start_hss_rtc_execution` waits for the start event, and `check_priority_list` asks
whether the test is ongoing.

When the thread has ended, the start event should be set and the test should not be ongoing.  The
thread forgets the second when it is left by an end of file, or forced to exit, after the start of
the test; and the first when an exception that it does not expect ends it early
(`leavesFree_iff`).
-/

namespace RtcController

open BuildHandler (Text)

/-! ## What the thread meets -/

/-- How `execute_cmd` ends. -/
inductive CmdResult where
  | answer
  | executionRunError
  /-- Another exception. -/
  | raises
deriving DecidableEq

/-- How `channel.expect` ends. -/
inductive ExpectResult where
  /-- The prompt: `HSS_rtc` has finished. -/
  | syncExpression
  /-- The text `RTC execution start`. -/
  | executionStart
  /-- A line of output. -/
  | line
  | timeout
  | eof
  /-- Another exception. -/
  | raises
deriving DecidableEq

/-- The commands that the thread executes. -/
inductive Cmd where
  | runCleanTestEnvironment
  /-- Pack what is to be stored. -/
  | tar
  /-- Make the directory of the build, and open it for everybody. -/
  | mkdir | chmod
  /-- Store the archive. -/
  | mv
  /-- Leave the working directory, and remove it. -/
  | cdUp | rm
deriving DecidableEq

/-- What the thread meets on its way. -/
structure Environment where
  /-- The results of the commands, each of which is executed once at most. -/
  executeCmd : Cmd → CmdResult
  /-- `write_line` raises. -/
  writeLineRaises : Bool
  /-- What each pass of the loop reads of `force_exit`. -/
  forceExit : ℕ → Bool
  /-- What each pass of the loop gets from `expect`. -/
  expect : ℕ → ExpectResult
  /-- `release` raises. -/
  releaseRaises : Bool

/-- What the configuration says about the files of a test. -/
structure StoreConfig where
  toPackAndStore : List Text
  outputDir : Option Text

/-! ## The thread -/

/-- What the thread of a test writes. -/
structure TestThread where
  /-- `__node` is not `None`. -/
  node : Bool
  ongoingTest : Bool
  /-- `start_event` is set. -/
  startEvent : Bool
  executionInfoError : Option Text
  /-- The commands that were executed. -/
  executed : List Cmd
deriving DecidableEq

namespace TestThread

/-- A handler that was just created. -/
def new : TestThread where
  node := true
  ongoingTest := false
  startEvent := false
  executionInfoError := none
  executed := []

/-- A command is executed. -/
def execute (t : TestThread) (cmd : Cmd) : TestThread := { t with executed := t.executed ++ [cmd] }

/-- Execute commands up to the first one that raises; what it raises is logged. -/
def executeAll (env : Environment) : List Cmd → TestThread → TestThread
  | [], t => t
  | cmd :: cmds, t =>
    match env.executeCmd cmd with
    | .answer => executeAll env cmds (t.execute cmd)
    | .executionRunError | .raises => t.execute cmd

end TestThread

/-- The commands with which the files of a test are stored. -/
def storeCommands (config : StoreConfig) : List Cmd :=
  (if config.toPackAndStore = [] then [] else [.tar]) ++
    if config.outputDir.isSome ∧ config.toPackAndStore ≠ [] then
      [.mkdir, .chmod, .mv, .cdUp, .rm]
    else []

/-- One pass of the loop.  The loop is left, or an exception ends the thread. -/
def trafficPass (env : Environment) :
    ℕ × TestThread → (ℕ × TestThread) ⊕ Except TestThread TestThread
  | (i, t) =>
    if env.forceExit i then .inr (.ok t)
    else
      match env.expect i with
      | .syncExpression => .inr (.ok { t with ongoingTest := false })
      | .executionStart =>
        if t.startEvent then .inl (i + 1, t)
        else .inl (i + 1, { t with ongoingTest := true, startEvent := true })
      | .line | .timeout => .inl (i + 1, t)
      | .eof => .inr (.ok { t with
          executionInfoError :=
            some "rtc_handler EOF received during HSS_rtc execution".toList })
      | .raises => .inr (.error t)

/-- What `run_traffic` does behind its loop. -/
def finishTraffic (env : Environment) (config : StoreConfig) (t : TestThread) : TestThread :=
  let t :=
    if !t.startEvent then
      { t with
        executionInfoError := some "rtc_handler HSS_rtc failed to start".toList
        startEvent := true }
    else t.executeAll env (storeCommands config)
  if env.releaseRaises then t else { t with node := false }

/-- The thread behind its loop. -/
def endTraffic (env : Environment) (config : StoreConfig) :
    Except TestThread TestThread → TestThread
  | .ok t => finishTraffic env config t
  | .error t => t

/-- `run_traffic`, with a bound for the passes of its loop. -/
def runTraffic (env : Environment) (config : StoreConfig) (bound : ℕ) (t : TestThread) :
    Option TestThread :=
  if !t.node then some t
  else
    let t := t.execute .runCleanTestEnvironment
    if env.executeCmd .runCleanTestEnvironment = .raises ∨ env.writeLineRaises then some t
    else
      (WhileLoop.run (trafficPass env) bound (0, t)).map (endTraffic env config)

/-- `run_traffic` of a new handler has ended. -/
def Ended (env : Environment) (config : StoreConfig) (t : TestThread) : Prop :=
  ∃ bound, runTraffic env config bound .new = some t

/-! ## What the controller sees -/

/-- How `start_hss_rtc_execution` goes on when the thread does nothing any more: it waits for the
start event, and looks for an error. -/
def startOutcome (t : TestThread) : Option StartOutcome :=
  if t.startEvent then
    some (if t.executionInfoError.isSome then .startFails else .started)
  else none

/-- The controller holds the handler of this thread. -/
def Controller.Holds (s : Controller) (t : TestThread) : Prop :=
  s.rtcHandler.map RtcHandler.ongoingTest = some t.ongoingTest

/-- The thread leaves the controller free. -/
structure LeavesFree (t : TestThread) : Prop where
  startEvent_isSet : t.startEvent = true
  ongoingTest_eq : t.ongoingTest = false
  /-- `start_hss_rtc_execution` does not wait for ever. -/
  start_returns : startOutcome t ≠ none
  /-- `check_priority_list` does not find an ongoing test. -/
  not_reported : ∀ s : Controller, s.Holds t → s.ongoingTest = false

/-! ## When it does -/

namespace Environment

/-- The loop is left in this pass, if it gets there. -/
def Leaves (env : Environment) (i : ℕ) : Prop :=
  env.forceExit i = true ∨ env.expect i = .syncExpression ∨ env.expect i = .eof ∨
    env.expect i = .raises

/-- The start of the test is seen before this pass. -/
def Started (env : Environment) (n : ℕ) : Prop := ∃ i < n, env.expect i = .executionStart

/-- The pass leaves the loop in order: `HSS_rtc` has finished, or the test has not started. -/
def LeavesInOrder (env : Environment) (n : ℕ) : Prop :=
  env.forceExit n = false ∧ env.expect n = .syncExpression ∨
    (env.forceExit n = true ∨ env.expect n = .eof) ∧ ¬ env.Started n

/-- No exception ends the thread early, and the first pass that leaves the loop does it in
order. -/
structure EndsInOrder (env : Environment) : Prop where
  executeCmd : env.executeCmd .runCleanTestEnvironment ≠ .raises
  writeLine : env.writeLineRaises = false
  first : ∀ n, env.Leaves n → (∀ i < n, ¬ env.Leaves i) → env.LeavesInOrder n

end Environment

variable {env : Environment} {config : StoreConfig} {t : TestThread}

/-- What the controller sees depends on the two flags. -/
lemma leavesFree_iff_flags : LeavesFree t ↔ t.startEvent = true ∧ t.ongoingTest = false := by
  constructor
  · exact fun h => ⟨h.startEvent_isSet, h.ongoingTest_eq⟩
  · rintro ⟨hstart, hongoing⟩
    refine ⟨hstart, hongoing, by simp [startOutcome, hstart], fun s hs => ?_⟩
    unfold Controller.Holds at hs
    unfold Controller.ongoingTest
    cases hh : s.rtcHandler with
    | none => rfl
    | some handler =>
      rw [hh, Option.map_some, Option.some.injEq, hongoing] at hs
      exact hs

/-! ### Behind the loop -/

/-- The commands of the clean-up leave the flags as they are. -/
lemma executeAll_flags (env : Environment) (cmds : List Cmd) (t : TestThread) :
    (t.executeAll env cmds).ongoingTest = t.ongoingTest ∧
      (t.executeAll env cmds).startEvent = t.startEvent := by
  induction cmds generalizing t with
  | nil => exact ⟨rfl, rfl⟩
  | cons cmd cmds ih =>
    unfold TestThread.executeAll
    cases env.executeCmd cmd with
    | answer => exact ih (t.execute cmd)
    | executionRunError => exact ⟨rfl, rfl⟩
    | raises => exact ⟨rfl, rfl⟩

/-- Behind the loop the start event gets set, and the test stays as ongoing as it was. -/
lemma finishTraffic_flags (env : Environment) (config : StoreConfig) (t : TestThread) :
    (finishTraffic env config t).ongoingTest = t.ongoingTest ∧
      (finishTraffic env config t).startEvent = true := by
  have hrelease : ∀ t : TestThread,
      (if env.releaseRaises then t else { t with node := false }).ongoingTest = t.ongoingTest ∧
        (if env.releaseRaises then t else { t with node := false }).startEvent = t.startEvent := by
    intro t
    split <;> exact ⟨rfl, rfl⟩
  obtain ⟨hongoing, hstart⟩ := executeAll_flags env (storeCommands config) t
  cases h : t.startEvent with
  | false =>
    simp only [finishTraffic, h, Bool.not_false, if_true]
    exact hrelease _
  | true =>
    simp only [finishTraffic, h, Bool.not_true, Bool.false_eq_true, if_false]
    rw [(hrelease _).1, (hrelease _).2, hongoing, hstart]
    exact ⟨rfl, h⟩

/-! ### The loop -/

/-- What holds at the head of a pass. -/
structure InLoop (env : Environment) (n : ℕ) (t : TestThread) : Prop where
  /-- No pass has left the loop. -/
  unleft : ∀ i < n, ¬ env.Leaves i
  /-- The start event is set when the start of the test has been seen. -/
  startEvent_iff : t.startEvent = true ↔ env.Started n
  /-- The test is ongoing from then on. -/
  ongoingTest_eq : t.ongoingTest = t.startEvent

/-- The start is seen before the next pass when it was seen before, or is seen now. -/
lemma Environment.started_succ {n : ℕ} :
    env.Started (n + 1) ↔ env.Started n ∨ env.expect n = .executionStart := by
  constructor
  · rintro ⟨i, hi, hstart⟩
    rcases Nat.lt_succ_iff_lt_or_eq.mp hi with hlt | rfl
    · exact .inl ⟨i, hlt, hstart⟩
    · exact .inr hstart
  · rintro (⟨i, hi, hstart⟩ | hstart)
    · exact ⟨i, Nat.lt_succ_of_lt hi, hstart⟩
    · exact ⟨n, Nat.lt_succ_self n, hstart⟩

/-- A pass that does not leave the loop. -/
lemma InLoop.pass {n : ℕ} (h : InLoop env n t) (hstay : ¬ env.Leaves n) :
    ∃ t', trafficPass env (n, t) = .inl (n + 1, t') ∧ InLoop env (n + 1) t' := by
  have hunleft : ∀ i < n + 1, ¬ env.Leaves i := by
    intro i hi
    rcases Nat.lt_succ_iff_lt_or_eq.mp hi with hlt | rfl
    · exact h.unleft i hlt
    · exact hstay
  have hquiet : env.expect n ≠ .executionStart → InLoop env (n + 1) t := by
    intro hne
    refine ⟨hunleft, ?_, h.ongoingTest_eq⟩
    rw [Environment.started_succ, h.startEvent_iff]
    simp [hne]
  simp only [Environment.Leaves, not_or, Bool.not_eq_true] at hstay
  obtain ⟨hforce, hsync, heof, hraises⟩ := hstay
  simp only [trafficPass, hforce, Bool.false_eq_true, if_false]
  cases hresult : env.expect n with
  | syncExpression => exact absurd hresult hsync
  | executionStart =>
    have hstarted : env.Started (n + 1) := Environment.started_succ.mpr (.inr hresult)
    cases hstart : t.startEvent with
    | true =>
      refine ⟨t, rfl, hunleft, ?_, h.ongoingTest_eq⟩
      rw [hstart]
      exact iff_of_true rfl hstarted
    | false => exact ⟨_, rfl, hunleft, iff_of_true rfl hstarted, rfl⟩
  | line => exact ⟨t, rfl, hquiet (by rw [hresult]; decide)⟩
  | timeout => exact ⟨t, rfl, hquiet (by rw [hresult]; decide)⟩
  | eof => exact absurd hresult heof
  | raises => exact absurd hresult hraises

/-- A pass that leaves the loop leaves the controller free when it does so in order. -/
lemma InLoop.leaves {n : ℕ} (h : InLoop env n t) (config : StoreConfig) (hleaves : env.Leaves n) :
    ∃ r, trafficPass env (n, t) = .inr r ∧
      (LeavesFree (endTraffic env config r) ↔ env.LeavesInOrder n) := by
  have hstart : t.ongoingTest = false ↔ ¬ env.Started n := by
    rw [← h.startEvent_iff, h.ongoingTest_eq, Bool.not_eq_true]
  cases hforce : env.forceExit n with
  | true =>
    obtain ⟨hongoing, hset⟩ := finishTraffic_flags env config t
    refine ⟨.ok t, by simp [trafficPass, hforce], ?_⟩
    rw [leavesFree_iff_flags, endTraffic, hongoing, hset, hstart]
    simp [Environment.LeavesInOrder, hforce]
  | false =>
    simp only [Environment.Leaves, hforce, Bool.false_eq_true, false_or] at hleaves
    rcases hleaves with hresult | hresult | hresult
    · refine ⟨_, by simp only [trafficPass, hforce, hresult]; rfl, ?_⟩
      obtain ⟨hongoing, hset⟩ := finishTraffic_flags env config { t with ongoingTest := false }
      rw [leavesFree_iff_flags, endTraffic, hongoing, hset]
      simp [Environment.LeavesInOrder, hforce, hresult]
    · refine ⟨_, by simp only [trafficPass, hforce, hresult]; rfl, ?_⟩
      rw [leavesFree_iff_flags, endTraffic, (finishTraffic_flags env config _).1,
        (finishTraffic_flags env config _).2, hstart]
      simp [Environment.LeavesInOrder, hforce, hresult]
    · refine ⟨.error t, by simp only [trafficPass, hforce, hresult]; rfl, ?_⟩
      rw [leavesFree_iff_flags, endTraffic, ← h.ongoingTest_eq]
      simp [Environment.LeavesInOrder, hforce, hresult]

/-- The head of the first pass. -/
lemma inLoop_start (env : Environment) (cmd : Cmd) : InLoop env 0 (TestThread.new.execute cmd) where
  unleft i hi := absurd hi (Nat.not_lt_zero i)
  startEvent_iff := by
    refine iff_of_false Bool.false_ne_true ?_
    rintro ⟨i, hi, -⟩
    exact Nat.not_lt_zero i hi
  ongoingTest_eq := rfl

/-- The loop gets to a pass when none before it leaves. -/
lemma InLoop.reaches {t : TestThread} (h : InLoop env 0 t) {n : ℕ}
    (hunleft : ∀ i < n, ¬ env.Leaves i) :
    ∃ t', WhileLoop.Reaches (trafficPass env) (0, t) (n, t') ∧ InLoop env n t' := by
  induction n with
  | zero => exact ⟨t, .start, h⟩
  | succ n ih =>
    obtain ⟨t₁, hreach, hin⟩ := ih fun i hi => hunleft i (Nat.lt_succ_of_lt hi)
    obtain ⟨t₂, hpass, hnext⟩ := hin.pass (hunleft n (Nat.lt_succ_self n))
    exact ⟨t₂, hreach.pass hpass, hnext⟩

/-! ### The thread -/

/-- How a thread ends that is not ended early. -/
lemma ended_iff (hcmd : env.executeCmd .runCleanTestEnvironment ≠ .raises)
    (hline : env.writeLineRaises = false) :
    Ended env config t ↔ ∃ r, WhileLoop.Returns (trafficPass env)
      (0, TestThread.new.execute .runCleanTestEnvironment) r ∧ endTraffic env config r = t := by
  have hearly : ¬ (env.executeCmd .runCleanTestEnvironment = .raises ∨
      env.writeLineRaises = true) := by
    rw [hline]
    simp [hcmd]
  have hrun : ∀ bound, runTraffic env config bound .new =
      (WhileLoop.run (trafficPass env) bound
        (0, TestThread.new.execute .runCleanTestEnvironment)).map (endTraffic env config) :=
    fun _ => if_neg hearly
  simp only [Ended, hrun, Option.map_eq_some_iff, WhileLoop.Returns]
  constructor
  · rintro ⟨bound, r, hr, heq⟩
    exact ⟨r, ⟨bound, hr⟩, heq⟩
  · rintro ⟨r, ⟨bound, hr⟩, heq⟩
    exact ⟨bound, r, hr, heq⟩

/-- An exception that is not expected ends the thread before its start event is set. -/
lemma ended_early (h : env.executeCmd .runCleanTestEnvironment = .raises ∨
    env.writeLineRaises = true) :
    Ended env config (TestThread.new.execute .runCleanTestEnvironment) := ⟨0, if_pos h⟩

/-- **When a test leaves the controller free.**  Whatever the commands, the channel and the forced
exit do, the thread of a test leaves the controller free when it has ended, exactly when no
exception ends it early, and the loop is left by the prompt or before the test has started. -/
theorem leavesFree_iff (env : Environment) (config : StoreConfig) :
    (∀ t, Ended env config t → LeavesFree t) ↔ env.EndsInOrder := by
  constructor
  · intro hfree
    have hearly : ¬ (env.executeCmd .runCleanTestEnvironment = .raises ∨
        env.writeLineRaises = true) := by
      intro h
      exact Bool.false_ne_true (hfree _ (ended_early h)).startEvent_isSet
    obtain ⟨hcmd, hline⟩ := not_or.mp hearly
    rw [Bool.not_eq_true] at hline
    refine ⟨hcmd, hline, fun n hleaves hunleft => ?_⟩
    obtain ⟨t, hreach, hin⟩ := (inLoop_start env .runCleanTestEnvironment).reaches hunleft
    obtain ⟨r, hpass, horder⟩ := hin.leaves config hleaves
    refine horder.mp (hfree _ ((ended_iff hcmd hline).mpr ⟨r, ?_, rfl⟩))
    exact WhileLoop.returns_iff_reaches.mpr ⟨_, hreach, hpass⟩
  · intro h t hended
    obtain ⟨r, hr, rfl⟩ := (ended_iff h.executeCmd h.writeLine).mp hended
    obtain ⟨⟨n, t'⟩, hreach, hpass⟩ := WhileLoop.returns_iff_reaches.mp hr
    have hin : InLoop env n t' := by
      refine hreach.invariant (I := fun p => InLoop env p.1 p.2) ?_ (inLoop_start env _)
      intro p q hp hq
      by_cases hleaves : env.Leaves p.1
      · obtain ⟨r', hexit, -⟩ := hp.leaves config hleaves
        rw [hexit] at hq
        cases hq
      · obtain ⟨t₁, hstay, hnext⟩ := hp.pass hleaves
        rw [hstay, Sum.inl.injEq] at hq
        exact hq ▸ hnext
    have hleaves : env.Leaves n := by
      by_contra hstay
      obtain ⟨t₁, hpass', -⟩ := hin.pass hstay
      rw [hpass] at hpass'
      cases hpass'
    obtain ⟨r', hpass', horder⟩ := hin.leaves config hleaves
    rw [hpass, Sum.inr.injEq] at hpass'
    subst hpass'
    exact horder.mpr (h.first n hleaves hin.unleft)

/-- The test starts, and the connection to it is lost. -/
def connectionLost : Environment where
  executeCmd _ := .answer
  writeLineRaises := false
  forceExit _ := false
  expect i := if i = 0 then .executionStart else .eof
  releaseRaises := false

/-- A test whose connection is lost stays ongoing for ever. -/
theorem connectionLost_not_leavesFree :
    ¬ ∀ (env : Environment) (config : StoreConfig) (t : TestThread),
      Ended env config t → LeavesFree t := by
  intro h
  have hended : ∃ t, Ended connectionLost ⟨[], none⟩ t ∧ t.ongoingTest = true :=
    ⟨_, ⟨2, rfl⟩, rfl⟩
  obtain ⟨t, ht, hongoing⟩ := hended
  rw [(h _ _ t ht).ongoingTest_eq] at hongoing
  cases hongoing

end RtcController
