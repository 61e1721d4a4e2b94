import StTools.BuildHandler.DeliveryOrder
import StTools.RtcController.Handlers

/-!
# No lost wake-up

Builds that wait are looked for only when a check signal is handled.  So whenever the service is
not paused, no test is running and a build waits, a check should be in flight.

A check that is handled while no test is running uses the signal up.  It re-arms nothing when the
start of a test fails, when the build handler cannot give a build with its test info, or when a
high priority that is left over from such a start makes it do nothing: builds that wait then stay
until the next signal from outside.  `LosesCheck` lists these cases, together with a test that
ends without a report of its shutdown, and `wakeUp_throughout_iff` says that there are no others.
-/

namespace RtcController

open BuildHandler (Text Json PyError)

/-- The report that the test of a build has shut down is in flight. -/
def ShutdownReported (bus : List Signal) (build : Text) : Prop :=
  ∃ testResult, .testToolShutdown build testResult ∈ bus

/-- The `RTC_Handler` of the build under test is held until the report of the shutdown, which is
in flight, has been handled. -/
def ShuttingDown (s : Controller) : Prop :=
  s.rtcHandler.isSome ∧ ∃ build, s.build = some build ∧ ShutdownReported s.bus build

/-- An `RTC_Handler` is running a test: the test has not ended, or its end has been reported but
not handled. -/
def RunsTest (s : Controller) : Prop := s.ongoingTest ∨ ShuttingDown s

/-- A build waits in a queue. -/
def Waits (db : BuildHandler.Db) : Prop := ∃ project build, db.Queued project build

/-- When the service is not paused, no test is running and a build waits, a check is in
flight. -/
def WakesUp (s : Controller) : Prop :=
  s.servicePaused = false → ¬ RunsTest s → Waits s.buildHandler.db → .rtcCheckPriorityList ∈ s.bus

/-- The controller does nothing on a check: the build of high priority that it remembers can not
be stopped, or the list of projects cannot be sorted. -/
def IgnoresCheck (s : Controller) : Prop :=
  s.highPriority = true ∧ s.currentTestCanBeStopped = false ∨
    ∃ e, BuildHandler.isThereBuildToTest s.buildHandler.db = .error e

/-- The start of the next test leaves no test running while more builds wait: the entry of the
build is missing, its test info is `None`, or the start fails. -/
def StartLeavesIdle (s : Controller) (outcome : StartOutcome) : Prop :=
  ∃ x rest, BuildHandler.fetchPendingBuildList s.buildHandler.db = .ok (x :: rest) ∧ rest ≠ [] ∧
    match s.buildHandler.db.buildInfo.get? x.1 with
    | none => ¬ ShuttingDown s
    | some entry =>
      if isNone entry.testInfo then ¬ (s.rtcHandler.isSome ∧ ShutdownReported s.bus x.1)
      else outcome ≠ .started

/-- The event leaves builds waiting without a test and without a check in flight. -/
def LosesCheck (s : Controller) : Event → Prop
  | .deliver index outcome =>
    s.bus[index]? = some .rtcCheckPriorityList ∧ .rtcCheckPriorityList ∉ s.bus.eraseIdx index ∧
      s.servicePaused = false ∧ s.ongoingTest = false ∧
      (IgnoresCheck s ∧ ¬ ShuttingDown s ∧ Waits s.buildHandler.db ∨
        ¬ IgnoresCheck s ∧ StartLeavesIdle s outcome)
  | .testEnds =>
    .rtcCheckPriorityList ∉ s.bus ∧ s.servicePaused = false ∧ ¬ ShuttingDown s ∧
      Waits s.buildHandler.db
  -- The service was not paused, and the configuration cannot be read.
  | .resume none =>
    s.serviceConfig.truthy ∧ .rtcCheckPriorityList ∉ s.bus ∧ s.servicePaused = false ∧
      ¬ RunsTest s ∧ Waits s.buildHandler.file
  | _ => False

variable {s s' : Controller} {outcome : StartOutcome} {index : ℕ} {signal signal' : Signal}

/-! ## Signals in flight -/

/-- A signal other than the one that is delivered stays in flight. -/
lemma mem_eraseIdx_iff (hsignal : s.bus[index]? = some signal) (hne : signal' ≠ signal) :
    signal' ∈ s.bus.eraseIdx index ↔ signal' ∈ s.bus := by
  constructor
  · exact fun hmem => List.mem_of_mem_eraseIdx hmem
  · intro hmem
    obtain ⟨i, hi, rfl⟩ := List.getElem_of_mem hmem
    rw [List.mem_eraseIdx_iff_getElem]
    refine ⟨i, hi, ?_, rfl⟩
    rintro rfl
    rw [List.getElem?_eq_getElem hi, Option.some.injEq] at hsignal
    exact hne hsignal

/-- A state with the same queues, handler and build, and at least the same signals, wakes up as
well. -/
lemma WakesUp.mono (hI : WakesUp s) (s' : Controller)
    (hpaused : s'.servicePaused = false → s.servicePaused = false)
    (hruns : RunsTest s → RunsTest s') (hwaits : Waits s'.buildHandler.db → Waits s.buildHandler.db)
    (hcheck : .rtcCheckPriorityList ∈ s.bus → .rtcCheckPriorityList ∈ s'.bus) : WakesUp s' :=
  fun hp hr hw => hcheck (hI (hpaused hp) (fun h => hr (hruns h)) (hwaits hw))

/-- With a check in flight nothing is lost. -/
lemma wakesUp_of_mem (hcheck : .rtcCheckPriorityList ∈ s.bus) : WakesUp s := fun _ _ _ => hcheck

/-- A signal that has just been put on the bus is in flight. -/
lemma mem_bus_emit (s : Controller) (signal : Signal) : signal ∈ (s.emit signal).bus :=
  List.mem_append_right _ (List.mem_singleton_self signal)

/-! ## Starting the next test -/

/-- A state without a running test runs one when the shutdown report is in flight. -/
lemma runsTest_iff_of_idle (hidle : s.ongoingTest = false) : RunsTest s ↔ ShuttingDown s := by
  simp [RunsTest, hidle]

/-- The waiting builds are seen in the table of queues. -/
lemma waits_congr {db db' : BuildHandler.Db} (h : db'.priority = db.priority) :
    Waits db' ↔ Waits db := by
  constructor
  · rintro ⟨project, build, hb⟩
    exact ⟨project, build, hb.of_priority_eq h⟩
  · rintro ⟨project, build, hb⟩
    exact ⟨project, build, hb.of_priority_eq h.symm⟩

/-- A test that is run is running afterwards exactly when it has started; the queues stay. -/
lemma runTest_idle_iff (s : Controller) (outcome : StartOutcome) :
    ¬ RunsTest (s.runTest outcome) ∧ Waits (s.runTest outcome).buildHandler.db ↔
      Waits s.buildHandler.db ∧ outcome ≠ .started := by
  by_cases houtcome : outcome = .started
  · subst houtcome
    obtain ⟨bh, heq, -⟩ := Controller.runTest_started s
    rw [heq]
    constructor
    · rintro ⟨hruns, -⟩
      exact absurd (.inl rfl) hruns
    · rintro ⟨-, hne⟩
      exact absurd rfl hne
  · obtain ⟨bh, heq, hqueues⟩ := Controller.runTest_failed (s := s) houtcome
    rw [heq]
    have hidle : ¬ RunsTest { s with buildHandler := bh }.clean := by
      rintro (hongoing | ⟨hsome, -⟩)
      · cases hongoing
      · cases hsome
    have hwaits : Waits { s with buildHandler := bh }.clean.buildHandler.db ↔
        Waits s.buildHandler.db := waits_congr hqueues
    rw [hwaits]
    exact ⟨fun h => ⟨h.2, houtcome⟩, fun h => ⟨hidle, h.1⟩⟩

/-- What the start leaves behind, for a published list that is given. -/
lemma startLeavesIdle_iff {x : Text × Bool} {rest : List (Text × Bool)}
    (hfetch : BuildHandler.fetchPendingBuildList s.buildHandler.db = .ok (x :: rest)) :
    StartLeavesIdle s outcome ↔ rest ≠ [] ∧
      match s.buildHandler.db.buildInfo.get? x.1 with
      | none => ¬ ShuttingDown s
      | some entry =>
        if isNone entry.testInfo then ¬ (s.rtcHandler.isSome ∧ ShutdownReported s.bus x.1)
        else outcome ≠ .started := by
  constructor
  · rintro ⟨x', rest', hfetch', hleft⟩
    rw [hfetch, Except.ok.injEq, List.cons.injEq] at hfetch'
    obtain ⟨rfl, rfl⟩ := hfetch'
    exact hleft
  · exact fun hleft => ⟨x, rest, hfetch, hleft⟩

/-- When the next build is looked for while no test is running, no test runs afterwards and a
build waits exactly when the start leaves the controller idle. -/
lemma startNext_idle_iff (hidle : s.ongoingTest = false) {x : Text × Bool}
    {rest : List (Text × Bool)}
    (hfetch : BuildHandler.fetchPendingBuildList s.buildHandler.db = .ok (x :: rest)) :
    ¬ RunsTest (s.startHssRtcExecution none .null false outcome) ∧
        Waits (s.startHssRtcExecution none .null false outcome).buildHandler.db ↔
      StartLeavesIdle s outcome := by
  obtain ⟨db', hfind, hrest⟩ := BuildHandler.findNextBuild_of_published hfetch true
  rw [if_pos rfl] at hfind
  have hinfo : db'.buildInfo = s.buildHandler.db.buildInfo := by
    have hkeep : (BuildHandler.findNextBuild true s.buildHandler.db).2.buildInfo =
        s.buildHandler.db.buildInfo := BuildHandler.buildInfo_findNextBuild
    rwa [hfind] at hkeep
  have hwaits : Waits db' ↔ rest ≠ [] := (BuildHandler.published_ne_nil_iff hrest).symm
  let bh := BuildHandler.updateDb { s.buildHandler with db := db' }
  rw [startLeavesIdle_iff hfetch]
  cases hentry : s.buildHandler.db.buildInfo.get? x.1 with
  | none =>
    -- The build is taken off its queue, and then its entry is missing.
    have hget : BuildHandler.getBuild s.buildHandler = (.error (.keyError x.1), bh) := by
      simp [BuildHandler.getBuild, hfind, BuildHandler.updateDb, hinfo, hentry, bh]
    have hstart : s.startHssRtcExecution none .null false outcome =
        { s with buildHandler := bh } := by
      simp only [Controller.startHssRtcExecution, hget]
    rw [hstart]
    have hruns : RunsTest { s with buildHandler := bh } ↔ ShuttingDown s :=
      runsTest_iff_of_idle hidle
    have hdb : Waits bh.db ↔ rest ≠ [] := hwaits
    rw [hruns, hdb]
    exact and_comm
  | some entry =>
    have hget : BuildHandler.getBuild s.buildHandler =
        (.ok (some x.1, entry.testInfo, x.2), bh) := by
      simp [BuildHandler.getBuild, hfind, BuildHandler.updateDb, hinfo, hentry, bh]
    let next : Controller := { s with
      build := some x.1, buildInfo := entry.testInfo, highPriority := x.2, buildHandler := bh }
    have hdb : Waits next.buildHandler.db ↔ rest ≠ [] := hwaits
    dsimp only
    split_ifs with hnull
    · have hstart : s.startHssRtcExecution none .null false outcome = next := by
        simp [Controller.startHssRtcExecution, hget, hnull, next]
      have hruns : RunsTest next ↔ s.rtcHandler.isSome ∧ ShutdownReported s.bus x.1 := by
        rw [runsTest_iff_of_idle (s := next) hidle]
        simp [ShuttingDown, next]
      rw [hstart, hruns, hdb]
      exact and_comm
    · have hstart : s.startHssRtcExecution none .null false outcome = next.runTest outcome := by
        simp [Controller.startHssRtcExecution, hget, hnull, next]
      rw [hstart, runTest_idle_iff, hdb]

/-! ## Handling a check -/

/-- A check leaves the bus and the pause as they are. -/
lemma checkPriorityList_frame (s : Controller) (outcome : StartOutcome) :
    (s.checkPriorityList outcome).bus = s.bus ∧
      (s.checkPriorityList outcome).servicePaused = s.servicePaused := by
  rcases Controller.checkPriorityList_cases s outcome with
    ⟨heq, -⟩ | ⟨-, -, heq⟩ | ⟨-, -, -, hidle, heq⟩ <;> rw [heq]
  · exact ⟨rfl, rfl⟩
  · exact ⟨rfl, rfl⟩
  · obtain ⟨hbus, -, hpaused, -⟩ :=
      Controller.startHssRtcExecution_frame none .null false outcome hidle
    exact ⟨hbus, hpaused⟩

/-- A running test goes on running when a check is handled. -/
lemma runsTest_checkPriorityList (hongoing : s.ongoingTest = true) :
    RunsTest (s.checkPriorityList outcome) := by
  rcases Controller.checkPriorityList_cases s outcome with
    ⟨heq, -⟩ | ⟨-, -, heq⟩ | ⟨-, -, -, hidle, -⟩
  · rw [heq]
    exact .inl hongoing
  · rw [heq]
    exact .inl hongoing
  · rw [hongoing] at hidle
    cases hidle

/-- When a check is handled while no test is running, no test runs afterwards and a build waits
exactly when the check is ignored or the start leaves the controller idle. -/
lemma check_idle_iff (outcome : StartOutcome) (hpaused : s.servicePaused = false)
    (hidle : s.ongoingTest = false) :
    ¬ RunsTest (s.checkPriorityList outcome) ∧
        Waits (s.checkPriorityList outcome).buildHandler.db ↔
      IgnoresCheck s ∧ ¬ ShuttingDown s ∧ Waits s.buildHandler.db ∨
        ¬ IgnoresCheck s ∧ StartLeavesIdle s outcome := by
  cases hl : BuildHandler.fetchPendingBuildList s.buildHandler.db with
  | error e =>
    have herror : BuildHandler.isThereBuildToTest s.buildHandler.db = .error e := by
      rw [BuildHandler.isThereBuildToTest_eq, hl]
      rfl
    have hignores : IgnoresCheck s := .inr ⟨e, herror⟩
    rcases Controller.checkPriorityList_cases s outcome with
      ⟨heq, -⟩ | ⟨hongoing, -, -⟩ | ⟨-, -, htrue, -, -⟩
    · rw [heq, runsTest_iff_of_idle hidle]
      simp [hignores]
    · rw [hidle] at hongoing
      cases hongoing
    · rw [herror] at htrue
      cases htrue
  | ok l =>
    have hthere : BuildHandler.isThereBuildToTest s.buildHandler.db = .ok (!l.isEmpty) := by
      rw [BuildHandler.isThereBuildToTest_eq, hl]
      rfl
    have hwaits := BuildHandler.published_ne_nil_iff hl
    have hignores : IgnoresCheck s ↔
        s.highPriority = true ∧ s.currentTestCanBeStopped = false := by
      unfold IgnoresCheck
      rw [hthere]
      simp
    rcases Controller.checkPriorityList_cases s outcome with
      ⟨heq, hreason⟩ | ⟨hongoing, -, -⟩ | ⟨-, hguard, htrue, -, heq⟩
    · rw [heq, runsTest_iff_of_idle hidle]
      rcases hreason with hp | hguard | hnot | hongoing
      · rw [hpaused] at hp
        cases hp
      · simp [hignores, hguard]
      · -- No build waits, so nothing is left behind either way.
        have hnil : l = [] := by
          cases l with
          | nil => rfl
          | cons x rest => exact absurd hthere hnot
        have hnone : ¬ Waits s.buildHandler.db := fun h => (hwaits.mpr h) hnil
        have hleft : ¬ StartLeavesIdle s outcome := by
          rintro ⟨x, rest, hfetch, -⟩
          rw [hl, hnil] at hfetch
          cases hfetch
        simp [hnone, hleft]
      · rw [hidle] at hongoing
        cases hongoing
    · rw [hidle] at hongoing
      cases hongoing
    · cases l with
      | nil =>
        rw [hthere] at htrue
        cases htrue
      | cons x rest =>
        rw [heq, startNext_idle_iff hidle hl, hignores]
        simp [hguard]

/-- Taking a check off the bus leaves the reports of shutdowns in flight. -/
lemma shutdownReported_takeSignal (hsignal : s.bus[index]? = some .rtcCheckPriorityList)
    (build : Text) :
    ShutdownReported (s.takeSignal index).bus build ↔ ShutdownReported s.bus build := by
  have hmem : ∀ result, Signal.testToolShutdown build result ∈ s.bus.eraseIdx index ↔
      Signal.testToolShutdown build result ∈ s.bus :=
    fun result => mem_eraseIdx_iff hsignal fun h => nomatch h
  unfold ShutdownReported
  exact exists_congr hmem

/-- A handled check wakes up unless it is lost. -/
lemma wakesUp_deliverCheck_iff (hsignal : s.bus[index]? = some .rtcCheckPriorityList) :
    WakesUp ((s.takeSignal index).checkPriorityList outcome) ↔
      ¬ LosesCheck s (.deliver index outcome) := by
  have hreported := shutdownReported_takeSignal hsignal
  have hshutting : ShuttingDown (s.takeSignal index) ↔ ShuttingDown s := by
    unfold ShuttingDown
    simp only [hreported]
    rfl
  have hleaves : StartLeavesIdle (s.takeSignal index) outcome ↔ StartLeavesIdle s outcome := by
    unfold StartLeavesIdle
    simp only [hreported, hshutting]
    rfl
  obtain ⟨hbus, hpaused⟩ := checkPriorityList_frame (s.takeSignal index) outcome
  by_cases hcheck : .rtcCheckPriorityList ∈ (s.takeSignal index).bus
  · constructor
    · exact fun _ hloses => hloses.2.1 hcheck
    · exact fun _ => wakesUp_of_mem (hbus ▸ hcheck)
  by_cases hp : s.servicePaused = false
  · by_cases hongoing : s.ongoingTest = false
    · have hidle := check_idle_iff outcome (s := s.takeSignal index) hp hongoing
      rw [hshutting, hleaves] at hidle
      have hlost : LosesCheck s (.deliver index outcome) ↔
          ¬ RunsTest ((s.takeSignal index).checkPriorityList outcome) ∧
            Waits ((s.takeSignal index).checkPriorityList outcome).buildHandler.db := by
        rw [hidle]
        exact ⟨fun h => h.2.2.2.2, fun h => ⟨hsignal, hcheck, hp, hongoing, h⟩⟩
      rw [hlost]
      constructor
      · rintro hwakes ⟨hruns, hwaits⟩
        exact hcheck (hbus ▸ hwakes (hpaused.trans hp) hruns hwaits)
      · exact fun hnot _ hruns hwaits => absurd ⟨hruns, hwaits⟩ hnot
    · constructor
      · exact fun _ hloses => hongoing hloses.2.2.2.1
      · have hruns : RunsTest ((s.takeSignal index).checkPriorityList outcome) :=
          runsTest_checkPriorityList (s := s.takeSignal index)
            (Bool.eq_true_of_not_eq_false hongoing)
        exact fun _ _ hnot => absurd hruns hnot
  · constructor
    · exact fun _ hloses => hp hloses.2.2.1
    · exact fun _ hunpaused => absurd (hpaused.symm.trans hunpaused) hp

/-! ## The other signals -/

/-- Setting a test to faulty keeps wake-ups: it puts a check on the bus if it does anything. -/
lemma wakesUp_setTestToFaulty (hI : WakesUp s) (build : Text) :
    WakesUp (s.setTestToFaulty build) := by
  unfold Controller.setTestToFaulty
  split_ifs
  · exact hI
  · exact hI
  · exact hI
  · exact wakesUp_of_mem (mem_bus_emit _ _)

/-- A promotion keeps wake-ups. -/
lemma wakesUp_priorityIncrease (hI : WakesUp s) (build : Text) (wasPending : Bool) :
    WakesUp (s.priorityIncrease build wasPending) := by
  unfold Controller.priorityIncrease
  split_ifs with hpaused hrunning
  · exact hI
  · -- The test that is promoted goes on running.
    have hongoing : s.ongoingTest = true := (Bool.and_eq_true_iff.mp hrunning).1
    intro _ hruns
    refine absurd (.inl ?_) hruns
    unfold Controller.ongoingTest at hongoing ⊢
    cases hhandler : s.rtcHandler with
    | none => simp [hhandler] at hongoing
    | some handler => simpa [Controller.order, hhandler] using hongoing
  · exact wakesUp_of_mem (mem_bus_emit _ _)
  · exact hI

/-- A report of the test tool that it is ready keeps wake-ups. -/
lemma wakesUp_testToolReadyForNewBuild (hI : WakesUp s) (build : Text) :
    WakesUp (s.testToolReadyForNewBuild build) := by
  unfold Controller.testToolReadyForNewBuild
  split_ifs
  · exact hI.mono _ (fun h => h) (fun h => h) (fun h => h) fun h => h
  · exact hI
  · exact hI
  · dsimp only
    cases BuildHandler.isThereBuildToTest s.buildHandler.db with
    | error e => exact hI.mono _ (fun h => h) (fun h => h) (fun h => h) fun h => h
    | ok waits =>
      cases waits with
      | true => exact wakesUp_of_mem (mem_bus_emit _ _)
      | false =>
        dsimp only
        split_ifs
        · exact hI.mono _ (fun h => h) (fun h => h) (fun h => h) fun h => h
        · exact hI.mono _ (fun h => h) (fun h => h) (fun h => h) fun h => h

/-- Taking a signal that is neither a check nor a report of a shutdown keeps wake-ups. -/
lemma wakesUp_takeSignal (hI : WakesUp s) (hsignal : s.bus[index]? = some signal)
    (hcheck : .rtcCheckPriorityList ≠ signal)
    (hshutdown : ∀ build result, .testToolShutdown build result ≠ signal) :
    WakesUp (s.takeSignal index) := by
  refine hI.mono _ (fun h => h) ?_ (fun h => h) (mem_eraseIdx_iff hsignal hcheck).mpr
  · rintro (hongoing | ⟨hsome, build, hbuild, result, hmem⟩)
    · exact .inl hongoing
    · exact .inr ⟨hsome, build, hbuild, result,
        (mem_eraseIdx_iff hsignal (hshutdown build result)).mpr hmem⟩

/-- A report of a shutdown keeps wake-ups: the one of the running build puts a check on the bus,
and another one says nothing about the running build. -/
lemma wakesUp_deliverShutdown (hI : WakesUp s) {build : Text} {result : Json}
    (hsignal : s.bus[index]? = some (.testToolShutdown build result)) :
    WakesUp ((s.takeSignal index).testToolShutdown build result) := by
  unfold Controller.testToolShutdown
  dsimp only
  split_ifs with hbuild
  · refine hI.mono _ (fun h => h) ?_ ?_ ?_
    · rintro (hongoing | ⟨hsome, b, hb, result', hmem⟩)
      · exact .inl hongoing
      · refine .inr ⟨hsome, b, hb, result', (mem_eraseIdx_iff hsignal ?_).mpr hmem⟩
        intro heq
        cases heq
        exact hbuild hb
    · exact (waits_congr (BuildHandler.priority_addBuildTestResult result)).mp
    · have hcheck : .rtcCheckPriorityList ≠ Signal.testToolShutdown build result := nofun
      exact (mem_eraseIdx_iff hsignal hcheck).mpr
  · exact wakesUp_of_mem (mem_bus_emit _ _)

/-! ## The other events -/

/-- When the thread of the test notices that `HSS_rtc` has finished, nothing is lost as long as
the report of the shutdown is in flight. -/
lemma wakesUp_testEnds_iff (s : Controller) :
    WakesUp { s with
        rtcHandler := s.rtcHandler.map fun handler => { handler with ongoingTest := false } } ↔
      ¬ LosesCheck s .testEnds := by
  have hruns : RunsTest { s with
      rtcHandler := s.rtcHandler.map fun handler => { handler with ongoingTest := false } } ↔
      ShuttingDown s := by
    rw [runsTest_iff_of_idle Controller.ongoingTest_ended]
    simp [ShuttingDown]
  unfold WakesUp
  rw [hruns]
  constructor
  · rintro hwakes ⟨hcheck, hpaused, hshutting, hwaits⟩
    exact hcheck (hwakes hpaused hshutting hwaits)
  · intro hloses hpaused hshutting hwaits
    by_contra hcheck
    exact hloses ⟨hcheck, hpaused, hshutting, hwaits⟩

/-- Resuming keeps wake-ups, unless the configuration cannot be read and builds come out of the
file of the build handler. -/
lemma wakesUp_resume_iff (hI : WakesUp s) (fileConfig : Option Json) :
    WakesUp (s.resume fileConfig) ↔ ¬ LosesCheck s (.resume fileConfig) := by
  unfold Controller.resume
  split_ifs with htruthy
  · cases fileConfig with
    | none =>
      constructor
      · rintro hwakes ⟨-, hcheck, hpaused, hruns, hwaits⟩
        exact hcheck (hwakes hpaused hruns hwaits)
      · intro hloses hpaused hruns hwaits
        by_contra hcheck
        exact hloses ⟨htruthy, hcheck, hpaused, hruns, hwaits⟩
    | some serviceConfig =>
      exact ⟨fun _ h => h, fun _ => wakesUp_of_mem (mem_bus_emit _ _)⟩
  · refine ⟨fun _ hloses => ?_, fun _ => hI⟩
    cases fileConfig with
    | none => exact htruthy hloses.1
    | some serviceConfig => exact hloses

/-- Forcing a build is refused unless the service is paused, and it stays paused. -/
lemma wakesUp_forceBuild (hI : WakesUp s) (build : Text) (fileInfo : Option Json)
    (highPriority : Bool) (outcome : StartOutcome) :
    WakesUp (s.forceBuild build fileInfo highPriority outcome) := by
  unfold Controller.forceBuild
  split_ifs with hrefused
  · exact hI
  · simp only [Bool.or_eq_true, Bool.not_eq_true', not_or, Bool.not_eq_true,
      Bool.not_eq_false] at hrefused
    obtain ⟨⟨hpaused, -⟩, hidle⟩ := hrefused
    dsimp only
    split
    · exact hI
    · next info _ =>
      split_ifs
      · exact hI
      · obtain ⟨-, -, hstays, -⟩ := Controller.startHssRtcExecution_frame
          (s := { s with buildHandler := BuildHandler.priorityDel s.buildHandler build false })
          (some build) info highPriority outcome hidle
        intro hunpaused
        rw [hstays, hpaused] at hunpaused
        cases hunpaused

/-! ## Every event -/

/-- A request of the gateway keeps wake-ups: what queues a build is followed by a check. -/
lemma wakesUp_request (hI : WakesUp s) {op : BuildHandler.Op} (h : request s op = some s') :
    WakesUp s' := by
  cases op with
  | getBuild => cases h
  | refreshDBMFromFile => cases h
  | priorityAdd build =>
    rcases hr : BuildHandler.priorityAdd s.buildHandler build with ⟨_ | _, bh⟩ <;>
      simp only [request, hr] at h <;> cases h
    · have hsame : bh = s.buildHandler := by
        unfold BuildHandler.priorityAdd at hr
        split_ifs at hr <;> cases hr
        rfl
      subst hsame
      exact hI.mono _ (fun h => h) (fun h => h) (fun h => h) fun h => h
    · exact wakesUp_of_mem (mem_bus_emit _ _)
  | priorityIncrease build =>
    rcases hr : BuildHandler.priorityIncrease s.buildHandler build with ⟨_ | wasPending, bh⟩ <;>
      simp only [request, hr] at h <;> cases h
    · have hsame : bh = s.buildHandler := by
        unfold BuildHandler.priorityIncrease at hr
        split at hr <;> cases hr
        rfl
      subst hsame
      exact hI.mono _ (fun h => h) (fun h => h) (fun h => h) fun h => h
    · exact wakesUp_of_mem (mem_bus_emit _ _)
  | _ =>
    cases h
    refine hI.mono _ (fun h => h) (fun h => h) ?_ fun h => h
    rintro ⟨project, b, hb⟩
    refine ⟨project, b, BuildHandler.queued_of_run _ ?_ hb⟩
    exact fun hmay => hmay

/-- **Step lemma.**  When a wake-up is in flight where it should be, it is so after an event
exactly when the event does not lose the check. -/
lemma wakesUp_step_iff {e : Event} (hI : WakesUp s) (hstep : step s e = some s') :
    WakesUp s' ↔ ¬ LosesCheck s e := by
  cases e with
  | request op => exact ⟨fun _ h => h, fun _ => wakesUp_request hI hstep⟩
  | emit signal =>
    cases hstep
    refine ⟨fun _ h => h, fun _ => ?_⟩
    refine hI.mono _ (fun h => h) ?_ (fun h => h) fun hmem => List.mem_append_left _ hmem
    · rintro (hongoing | ⟨hsome, build, hbuild, result, hmem⟩)
      · exact .inl hongoing
      · exact .inr ⟨hsome, build, hbuild, result, List.mem_append_left _ hmem⟩
  | deliver index outcome =>
    obtain ⟨signal, hsignal, rfl⟩ := Option.map_eq_some_iff.mp hstep
    have hkeeps : ∀ s', signal ≠ .rtcCheckPriorityList → WakesUp s' →
        (WakesUp s' ↔ ¬ LosesCheck s (.deliver index outcome)) := by
      intro s' hne hs'
      refine ⟨fun _ hloses => hne ?_, fun _ => hs'⟩
      exact Option.some.inj (hsignal.symm.trans hloses.1)
    have hrest := fun hcheck hshutdown => wakesUp_takeSignal hI hsignal hcheck hshutdown
    cases signal with
    | rtcCheckPriorityList => exact wakesUp_deliverCheck_iff hsignal
    | rtcSetTestToFaulty build =>
      exact hkeeps _ nofun (wakesUp_setTestToFaulty (hrest nofun nofun) build)
    | rtcPriorityIncrease build wasPending =>
      exact hkeeps _ nofun (wakesUp_priorityIncrease (hrest nofun nofun) build wasPending)
    | testToolReadyForNewBuild build =>
      exact hkeeps _ nofun (wakesUp_testToolReadyForNewBuild (hrest nofun nofun) build)
    | testToolShutdown build result =>
      exact hkeeps _ nofun (wakesUp_deliverShutdown hI hsignal)
  | testEnds =>
    cases hstep
    exact wakesUp_testEnds_iff s
  | pause =>
    cases hstep
    exact ⟨fun _ h => h, fun _ hunpaused => nomatch hunpaused⟩
  | resume fileConfig =>
    cases hstep
    exact wakesUp_resume_iff hI fileConfig
  | forceBuild build fileInfo highPriority outcome =>
    cases hstep
    exact ⟨fun _ h => h, fun _ => wakesUp_forceBuild hI build fileInfo highPriority outcome⟩
  | updateConfig serviceConfig =>
    cases hstep
    exact ⟨fun _ h => h, fun _ => hI.mono _ (fun h => h) (fun h => h) (fun h => h) fun h => h⟩

/-- **No lost wake-up.**  From the start of the service, a check is in flight whenever the service
is not paused, no test is running and a build waits, exactly in the runs none of whose events
loses the check. -/
theorem wakeUp_throughout_iff (serviceConfig : Json) (buildHandler : BuildHandler.Handler)
    (es : List Event) :
    LabelledSystem.Throughout step WakesUp (Controller.init serviceConfig buildHandler) es ↔
      LabelledSystem.Along step (fun s e => ¬ LosesCheck s e)
        (Controller.init serviceConfig buildHandler) es := by
  have hinit : WakesUp (Controller.init serviceConfig buildHandler) := by
    intro hunpaused
    cases hunpaused
  refine LabelledSystem.throughout_iff_along (I := WakesUp) ?_ (fun _ hI => hI) ?_ hinit
  · intro s e s' hI he hstep
    exact (wakesUp_step_iff hI hstep).mpr he
  · intro s e s' hI he hstep hI'
    exact he ((wakesUp_step_iff hI hstep).mp hI')

/-- Two builds are queued while the service is paused, and the checks for them are handled.  Then
the service is resumed, and on the check that follows the `RTC_Handler` for the newest build cannot
be created. -/
def failedStartRun : List Event :=
  [.request (.buildInfoAdd "HSS-1.28.2.20".toList (.obj [])),
    .request (.priorityAdd "HSS-1.28.2.20".toList),
    .request (.buildInfoAdd "HSS-1.28.2.21".toList (.obj [])),
    .request (.priorityAdd "HSS-1.28.2.21".toList), .deliver 0 .started, .deliver 0 .started,
    .resume (some (.obj [("service_parameters".toList, .obj [])])), .deliver 0 .creationFails]

/-- After the failed start the older build waits, no test is running, and no check is in
flight. -/
theorem failedStartRun_losesCheck :
    ¬ LabelledSystem.Throughout step WakesUp
      (Controller.init (.obj [("service_parameters".toList, .obj [])])
        BuildHandler.Handler.init) failedStartRun := by
  intro hall
  have hlast : WakesUp _ := hall.last rfl
  refine absurd (hlast rfl ?_ ?_) ?_
  · rintro (hongoing | ⟨hsome, -⟩)
    · cases hongoing
    · cases hsome
  · exact ⟨"HSS-1.28.2".toList, "HSS-1.28.2.20".toList, .inl (by decide)⟩
  · exact List.not_mem_nil

end RtcController
