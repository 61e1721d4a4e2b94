import StTools.RtcController.Handlers
import StTools.Lib.LabelledSystem

/-!
# Tests of high priority and the quit order

A running test of high priority should be stopped only after it was released: `HSS_rtc` has
reported to be ready for a new build since the test was started, or the test has been set to
faulty.

`check_priority_list` decides by two flags.  The promotion of a waiting build sets
`current_test_can_be_stopped` for the sake of a running test of normal priority; when the running
build is promoted before the next check, the flag stays set, and the check stops a test of high
priority that was not released.  In all other runs the quit order respects the priority.
-/

namespace RtcController

open BuildHandler (Text Json PyError)

/-- An order to quit goes to a test of normal priority or to a released one. -/
def Order.Allowed : Order → Prop
  | .quit highPriority released => highPriority = false ∨ released = true
  | _ => True

/-- No test of high priority has been stopped before it was released. -/
def NoEarlyQuit (s : Controller) : Prop := ∀ o ∈ s.orders, o.Allowed

/-- The event promotes the running build while its test can be stopped without being released:
another build has been promoted before. -/
def PromotesStoppable (s : Controller) : Event → Prop
  | .deliver index _ => ∃ build wasPending,
      s.bus[index]? = some (.rtcPriorityIncrease build wasPending) ∧
        s.servicePaused = false ∧ s.ongoingTest = true ∧ s.build = some build ∧
        s.currentTestCanBeStopped = true ∧ s.released = false
  | _ => False

namespace Controller

variable {s s' : Controller} {outcome : StartOutcome}

/-- No test of high priority has been stopped early, and none that runs can be stopped before it
is released. -/
structure Guarded (s : Controller) : Prop where
  orders : NoEarlyQuit s
  released : s.ongoingTest → s.highPriority → s.currentTestCanBeStopped → s.released

/-- A step that touches neither the flags nor the orders keeps the guard. -/
lemma Guarded.of_same (hI : Guarded s) (horders : s'.orders = s.orders)
    (hongoing : s'.ongoingTest → s.ongoingTest) (hhigh : s'.highPriority = s.highPriority)
    (hstop : s'.currentTestCanBeStopped = s.currentTestCanBeStopped)
    (hreleased : s'.released = s.released) : Guarded s' := by
  constructor
  · unfold NoEarlyQuit
    rw [horders]
    exact hI.orders
  · intro h₁ h₂ h₃
    rw [hreleased]
    exact hI.released (hongoing h₁) (hhigh ▸ h₂) (hstop ▸ h₃)

/-- A test that can not be stopped yet is guarded. -/
lemma Guarded.of_unstoppable (hI : Guarded s) (horders : s'.orders = s.orders)
    (hstop : s'.ongoingTest → s'.currentTestCanBeStopped = false) : Guarded s' := by
  constructor
  · unfold NoEarlyQuit
    rw [horders]
    exact hI.orders
  · intro h₁ _ h₃
    rw [hstop h₁] at h₃
    cases h₃

/-- An order that is allowed keeps the guard. -/
lemma Guarded.order (hI : Guarded s) {o : Order} (ho : o.Allowed) : Guarded (s.order o) := by
  refine ⟨fun o' ho' => ?_, hI.released⟩
  rcases List.mem_append.mp ho' with ho' | ho'
  · exact hI.orders o' ho'
  · rw [List.mem_singleton.mp ho']
    exact ho

/-- Putting a signal on the bus keeps the guard. -/
lemma Guarded.emit (hI : Guarded s) (signal : Signal) : Guarded (s.emit signal) :=
  hI.of_same rfl id rfl rfl rfl

/-- Changing the build handler keeps the guard. -/
lemma Guarded.buildHandler (hI : Guarded s) (bh : BuildHandler.Handler) :
    Guarded { s with buildHandler := bh } :=
  hI.of_same rfl id rfl rfl rfl

/-- Releasing the running test keeps the guard. -/
lemma Guarded.release (hI : Guarded s) :
    Guarded { s with currentTestCanBeStopped := true, released := true } :=
  ⟨hI.orders, fun _ _ _ => rfl⟩

/-! ## One lemma for each handler -/

/-- A check sends the quit order only to a test that can be stopped, which is one of normal
priority or a released one. -/
lemma guarded_checkPriorityList (hI : Guarded s) : Guarded (s.checkPriorityList outcome) := by
  rcases checkPriorityList_cases s outcome with
    ⟨heq, -⟩ | ⟨hongoing, hstop, heq⟩ | ⟨-, -, -, hidle, heq⟩ <;> rw [heq]
  · exact hI
  · apply hI.order
    cases hhigh : s.highPriority with
    | false => exact .inl rfl
    | true => exact .inr (hI.released hongoing hhigh hstop)
  · have hframe := startHssRtcExecution_frame none .null false outcome hidle
    exact hI.of_unstoppable hframe.2.1 hframe.2.2.2

/-- Setting the test to faulty releases it. -/
lemma guarded_setTestToFaulty (hI : Guarded s) (build : Text) :
    Guarded (s.setTestToFaulty build) := by
  unfold setTestToFaulty
  split_ifs
  · exact hI
  · exact hI
  · exact hI
  · have hdiscard : Guarded (s.order .setTestExecutionStatusDiscarded) := hI.order trivial
    obtain ⟨bh, heq, -⟩ := updateBuildStatus_spec (s.order .setTestExecutionStatusDiscarded)
      "CANCELLED".toList
    rw [heq]
    exact ((hdiscard.buildHandler bh).release).emit _

/-- A promotion keeps the guard, unless it promotes a running build whose test can be stopped. -/
lemma guarded_priorityIncrease (hI : Guarded s) (build : Text) (wasPending : Bool)
    (hnot : ¬ (s.servicePaused = false ∧ s.ongoingTest = true ∧ s.build = some build ∧
      s.currentTestCanBeStopped = true ∧ s.released = false)) :
    Guarded (s.priorityIncrease build wasPending) := by
  unfold priorityIncrease
  split_ifs with hpaused hrunning hwaits
  · exact hI
  · -- The running build is promoted: it can not be stopped yet, or it was released.
    simp only [Bool.and_eq_true, decide_eq_true_eq] at hrunning
    have hstops : s.currentTestCanBeStopped → s.released := by
      intro hstop
      by_contra hreleased
      exact hnot ⟨Bool.eq_false_of_not_eq_true hpaused, hrunning.1, hrunning.2, hstop,
        Bool.eq_false_of_not_eq_true hreleased⟩
    have hpromoted : Guarded { s with
        rtcHandler := s.rtcHandler.map fun handler => { handler with highPriority := true }
        highPriority := true } :=
      ⟨hI.orders, fun _ _ hstop => hstops hstop⟩
    exact hpromoted.order trivial
  · -- Another build is promoted while a test of normal priority runs.
    simp only [Bool.and_eq_true, Bool.not_eq_true'] at hwaits
    have hstoppable : Guarded { s with currentTestCanBeStopped := true } := by
      refine ⟨hI.orders, fun _ hhigh _ => ?_⟩
      rw [hwaits.1] at hhigh
      cases hhigh
    exact hstoppable.emit _
  · exact hI

/-- A report of the test tool releases the running test. -/
lemma guarded_testToolReadyForNewBuild (hI : Guarded s) (build : Text) :
    Guarded (s.testToolReadyForNewBuild build) := by
  unfold testToolReadyForNewBuild
  split_ifs
  · exact hI.order trivial
  · exact hI
  · exact hI
  · dsimp only
    cases BuildHandler.isThereBuildToTest s.buildHandler.db with
    | error e => exact hI.release
    | ok waits =>
      cases waits with
      | true => exact hI.release.emit _
      | false =>
        dsimp only
        split_ifs
        · exact hI.release.order trivial
        · exact hI.release

/-- A shutdown of the test tool forgets the test. -/
lemma guarded_testToolShutdown (hI : Guarded s) (build : Text) (testResult : Json) :
    Guarded (s.testToolShutdown build testResult) := by
  have hadded := hI.buildHandler (BuildHandler.addBuildTestResult s.buildHandler build testResult)
  unfold testToolShutdown
  dsimp only
  split_ifs
  · exact hadded
  · have hclean : Guarded (clean { s with
        buildHandler := BuildHandler.addBuildTestResult s.buildHandler build testResult }) :=
      hadded.of_unstoppable rfl fun _ => rfl
    exact hclean.emit _

/-- Forcing a build starts a test while none is running. -/
lemma guarded_forceBuild (hI : Guarded s) (build : Text) (fileInfo : Option Json)
    (highPriority : Bool) : Guarded (s.forceBuild build fileInfo highPriority outcome) := by
  unfold forceBuild
  split_ifs with hguard
  · exact hI
  · simp only [Bool.or_eq_true, not_or, Bool.not_eq_true] at hguard
    dsimp only
    split
    · exact hI
    · split_ifs
      · exact hI
      · next info _ _ =>
        have hframe := startHssRtcExecution_frame (some build) info highPriority outcome
          (s := { s with buildHandler := BuildHandler.priorityDel s.buildHandler build false })
          hguard.2
        exact hI.of_unstoppable hframe.2.1 hframe.2.2.2

/-- **Step lemma.**  Every event keeps the guard, unless it promotes a running build whose test
can be stopped without being released. -/
lemma guarded_step {e : Event} (hI : Guarded s) (he : ¬ PromotesStoppable s e)
    (hstep : step s e = some s') : Guarded s' := by
  cases e with
  | request op =>
    obtain ⟨bh, signals, rfl⟩ := request_eq hstep
    exact hI.of_same rfl id rfl rfl rfl
  | emit signal =>
    cases hstep
    exact hI.emit signal
  | deliver index outcome =>
    obtain ⟨signal, hsignal, rfl⟩ := Option.map_eq_some_iff.mp hstep
    have hrest : Guarded (s.takeSignal index) := hI.of_same rfl id rfl rfl rfl
    cases signal with
    | rtcCheckPriorityList => exact guarded_checkPriorityList hrest
    | rtcSetTestToFaulty build => exact guarded_setTestToFaulty hrest build
    | rtcPriorityIncrease build wasPending =>
      exact guarded_priorityIncrease hrest build wasPending
        fun hbad => he ⟨build, wasPending, hsignal, hbad⟩
    | testToolReadyForNewBuild build => exact guarded_testToolReadyForNewBuild hrest build
    | testToolShutdown build testResult =>
      exact guarded_testToolShutdown hrest build testResult
  | testEnds =>
    cases hstep
    refine hI.of_same rfl (fun hongoing => ?_) rfl rfl rfl
    rw [ongoingTest_ended] at hongoing
    cases hongoing
  | pause =>
    cases hstep
    exact hI.of_same rfl id rfl rfl rfl
  | resume fileConfig =>
    cases hstep
    unfold resume
    split_ifs
    · cases fileConfig <;> exact hI.of_same rfl id rfl rfl rfl
    · exact hI
  | forceBuild build fileInfo highPriority outcome =>
    cases hstep
    exact guarded_forceBuild hI build fileInfo highPriority
  | updateConfig serviceConfig =>
    cases hstep
    exact hI.of_same rfl id rfl rfl rfl

end Controller

/-- **No early quit.**  In every run of the system in which no running build is promoted while its
test can be stopped without being released, every order to quit goes to a test of normal priority
or to a released one. -/
theorem noEarlyQuit_throughout (serviceConfig : Json) (buildHandler : BuildHandler.Handler)
    (es : List Event)
    (hes : LabelledSystem.Along step (fun s e => ¬ PromotesStoppable s e)
      (Controller.init serviceConfig buildHandler) es) :
    LabelledSystem.Throughout step NoEarlyQuit (Controller.init serviceConfig buildHandler) es := by
  have hinit : (Controller.init serviceConfig buildHandler).Guarded := by
    constructor
    · intro o ho
      cases ho
    · intro hongoing
      cases hongoing
  refine LabelledSystem.throughout_of_along (I := Controller.Guarded) ?_ ?_ hinit hes
  · intro s e s' hI he hstep
    exact Controller.guarded_step hI he hstep
  · exact fun s hI => hI.orders

/-- A service configuration. -/
def sampleConfig : Json := .obj [("service_parameters".toList, .obj [])]

/-- A build is queued, the service is resumed and the test of the build is started. -/
def startedRun : List Event :=
  [.request (.buildInfoAdd "HSS-1.28.2.20".toList (.obj [])),
    .request (.priorityAdd "HSS-1.28.2.20".toList), .resume (some sampleConfig),
    .deliver 0 .started]

/-- Another build waits when the running one is promoted; its test reports to be ready for a new
build, and the check that follows stops it. -/
def releasedRun : List Event :=
  startedRun ++
    [.request (.buildInfoAdd "HSS-1.28.2.21".toList (.obj [])),
      .request (.priorityAdd "HSS-1.28.2.21".toList),
      .request (.priorityIncrease "HSS-1.28.2.20".toList), .deliver 2 .started,
      .emit (.testToolReadyForNewBuild "HSS-1.28.2.20".toList), .deliver 3 .started,
      .deliver 0 .started]

/-- The promotion of the running build finds the flag clear, and the quit order that is sent goes to a
test of high priority that was released. -/
theorem releasedRun_noEarlyQuit :
    LabelledSystem.Throughout step NoEarlyQuit
        (Controller.init sampleConfig BuildHandler.Handler.init) releasedRun ∧
      ∃ s, LabelledSystem.exec step (Controller.init sampleConfig BuildHandler.Handler.init)
        releasedRun = some s ∧ .quit true true ∈ s.orders := by
  refine ⟨noEarlyQuit_throughout _ _ _ ?_, _, rfl, by decide⟩
  refine fun s₁ h₁ => ⟨id, ?_⟩
  cases h₁
  refine fun s₂ h₂ => ⟨id, ?_⟩
  cases h₂
  refine fun s₃ h₃ => ⟨id, ?_⟩
  cases h₃
  refine fun s₄ h₄ => ⟨?_, ?_⟩
  · rintro ⟨build, wasPending, hsignal, -⟩
    exact Signal.noConfusion (Option.some.inj hsignal)
  cases h₄
  refine fun s₅ h₅ => ⟨id, ?_⟩
  cases h₅
  refine fun s₆ h₆ => ⟨id, ?_⟩
  cases h₆
  refine fun s₇ h₇ => ⟨id, ?_⟩
  cases h₇
  refine fun s₈ h₈ => ⟨?_, ?_⟩
  · -- the running build is promoted, and its test cannot be stopped yet
    rintro ⟨build, wasPending, -, -, -, -, hstop, -⟩
    cases hstop
  cases h₈
  refine fun s₉ h₉ => ⟨id, ?_⟩
  cases h₉
  refine fun s₁₀ h₁₀ => ⟨?_, ?_⟩
  · rintro ⟨build, wasPending, hsignal, -⟩
    exact Signal.noConfusion (Option.some.inj hsignal)
  cases h₁₀
  refine fun s₁₁ h₁₁ => ⟨?_, trivial⟩
  rintro ⟨build, wasPending, hsignal, -⟩
  exact Signal.noConfusion (Option.some.inj hsignal)

/-- While a test of normal priority runs, a waiting build is promoted, and before the next check
the running build is promoted as well. -/
def promotedRun : List Event :=
  startedRun ++
    [.request (.buildInfoAdd "HSS-1.28.2.21".toList (.obj [])),
      .request (.priorityAdd "HSS-1.28.2.21".toList),
      .request (.priorityIncrease "HSS-1.28.2.21".toList), .deliver 2 .started,
      .request (.priorityIncrease "HSS-1.28.2.20".toList), .deliver 4 .started,
      .deliver 0 .started]

/-- The check after the two promotions stops the running test, which has high priority and was
not released. -/
theorem promotedRun_earlyQuit :
    ¬ LabelledSystem.Throughout step NoEarlyQuit
      (Controller.init sampleConfig BuildHandler.Handler.init) promotedRun := by
  intro hall
  have hlast : NoEarlyQuit _ := hall.last rfl
  have hquit := hlast (.quit true false) (by decide)
  rcases hquit with hquit | hquit <;> cases hquit

end RtcController
