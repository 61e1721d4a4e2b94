import StTools.RtcController.Service
import StTools.BuildHandler.Queues

/-!
# What the handlers of the controller do

One lemma for each way in which a handler can change the state: giving a test up, running it, and
starting the test of the next build.  The build handler is changed on the way, but for the queues
only `get_build` matters; a change of a status leaves the table of queues as it is.
-/

namespace RtcController
namespace Controller

open BuildHandler (Text Json PyError)

variable {s : Controller} {outcome : StartOutcome}

/-- The table of queues that the controller sees. -/
def queues (s : Controller) : Dict Text BuildHandler.Priority := s.buildHandler.db.priority

/-- Setting a status changes the build handler only, and there not the queues. -/
lemma updateBuildStatus_spec (s : Controller) (status : Text) :
    ∃ bh, s.updateBuildStatus status = { s with buildHandler := bh } ∧
      bh.db.priority = s.queues := by
  unfold updateBuildStatus
  split
  · exact ⟨s.buildHandler, rfl, rfl⟩
  · next build _ =>
    refine ⟨BuildHandler.updateBuildStatus s.buildHandler build status, rfl, ?_⟩
    unfold BuildHandler.updateBuildStatus
    cases BuildHandler.Status.ofName? BuildHandler.Status.all status with
    | none => rfl
    | some st => cases s.buildHandler.db.buildInfo.get? build <;> rfl

/-- A test that is given up is forgotten; the queues stay. -/
lemma giveUp_spec (s : Controller) :
    ∃ bh, s.giveUp = clean { s with buildHandler := bh } ∧ bh.db.priority = s.queues := by
  unfold giveUp
  split_ifs
  · exact ⟨s.buildHandler, rfl, rfl⟩
  · obtain ⟨bh, heq, hqueues⟩ := updateBuildStatus_spec s "TEST_FAULTY".toList
    exact ⟨bh, by rw [heq], hqueues⟩

/-- A test that has started is running and can not be stopped yet; the queues stay. -/
lemma runTest_started (s : Controller) :
    ∃ bh, s.runTest .started =
        { s with
          rtcHandler := some ⟨true, s.highPriority⟩
          currentTestCanBeStopped := false
          released := false
          buildHandler := bh } ∧
      bh.db.priority = s.queues := by
  unfold runTest
  dsimp only
  split_ifs
  · exact ⟨s.buildHandler, rfl, rfl⟩
  · obtain ⟨bh, heq, hqueues⟩ := updateBuildStatus_spec
      { s with
        rtcHandler := some ⟨true, s.highPriority⟩
        currentTestCanBeStopped := false
        released := false } "TEST_ONGOING".toList
    exact ⟨bh, heq, hqueues⟩

/-- A test that does not start is forgotten; the queues stay. -/
lemma runTest_failed (houtcome : outcome ≠ .started) :
    ∃ bh, s.runTest outcome = clean { s with buildHandler := bh } ∧
      bh.db.priority = s.queues := by
  cases outcome with
  | creationFails => exact giveUp_spec s
  | preparationFails =>
    obtain ⟨bh, heq, hqueues⟩ := giveUp_spec
      { s with rtcHandler := some ⟨false, s.highPriority⟩, currentTestCanBeStopped := false }
    exact ⟨bh, heq, hqueues⟩
  | startFails =>
    obtain ⟨bh, heq, hqueues⟩ := giveUp_spec
      { s with rtcHandler := some ⟨false, s.highPriority⟩, currentTestCanBeStopped := false }
    exact ⟨bh, heq, hqueues⟩
  | started => exact absurd rfl houtcome

/-- Running a test leaves the bus, the orders and the pause as they are, and afterwards a test is
running only if it can not be stopped yet. -/
lemma runTest_frame (s : Controller) (outcome : StartOutcome) :
    (s.runTest outcome).bus = s.bus ∧ (s.runTest outcome).orders = s.orders ∧
      (s.runTest outcome).servicePaused = s.servicePaused ∧
      (s.runTest outcome).queues = s.queues ∧
      ((s.runTest outcome).ongoingTest → (s.runTest outcome).currentTestCanBeStopped = false) := by
  by_cases houtcome : outcome = .started
  · subst houtcome
    obtain ⟨bh, heq, hqueues⟩ := runTest_started s
    rw [heq]
    exact ⟨rfl, rfl, rfl, hqueues, fun _ => rfl⟩
  · obtain ⟨bh, heq, hqueues⟩ := runTest_failed (s := s) houtcome
    rw [heq]
    exact ⟨rfl, rfl, rfl, hqueues, fun _ => rfl⟩

/-- When no test is running, starting one leaves the bus, the orders and the pause as they are,
and afterwards a test is running only if it can not be stopped yet. -/
lemma startHssRtcExecution_frame (build : Option Text) (buildInfo : Json) (highPriority : Bool)
    (outcome : StartOutcome) (hidle : s.ongoingTest = false) :
    let s' := s.startHssRtcExecution build buildInfo highPriority outcome
    s'.bus = s.bus ∧ s'.orders = s.orders ∧ s'.servicePaused = s.servicePaused ∧
      (s'.ongoingTest → s'.currentTestCanBeStopped = false) := by
  have hkeep : ∀ s' : Controller, s'.rtcHandler = s.rtcHandler →
      (s'.ongoingTest → s'.currentTestCanBeStopped = false) := by
    intro s' hs' hongoing
    rw [ongoingTest, hs', ← ongoingTest, hidle] at hongoing
    cases hongoing
  have hrun : ∀ s' : Controller, s'.bus = s.bus → s'.orders = s.orders →
      s'.servicePaused = s.servicePaused →
      (s'.runTest outcome).bus = s.bus ∧ (s'.runTest outcome).orders = s.orders ∧
        (s'.runTest outcome).servicePaused = s.servicePaused ∧
        ((s'.runTest outcome).ongoingTest →
          (s'.runTest outcome).currentTestCanBeStopped = false) := by
    intro s' hbus horders hpaused
    obtain ⟨hb, ho, hp, -, hstop⟩ := runTest_frame s' outcome
    exact ⟨hb.trans hbus, ho.trans horders, hp.trans hpaused, hstop⟩
  cases build with
  | none =>
    simp only [startHssRtcExecution]
    rcases BuildHandler.getBuild s.buildHandler with ⟨_ | ⟨b, info, rc⟩, bh⟩
    · exact ⟨rfl, rfl, rfl, hkeep _ rfl⟩
    · dsimp only
      split_ifs
      · exact ⟨rfl, rfl, rfl, hkeep _ rfl⟩
      · exact hrun _ rfl rfl rfl
  | some build =>
    simp only [startHssRtcExecution]
    split_ifs
    · cases BuildHandler.fetchBuild s.buildHandler.db build with
      | error e => exact ⟨rfl, rfl, rfl, hkeep _ rfl⟩
      | ok info =>
        dsimp only
        split_ifs
        · exact ⟨rfl, rfl, rfl, hkeep _ rfl⟩
        · exact hrun _ rfl rfl rfl
    · exact hrun _ rfl rfl rfl

/-- What a check does: nothing, or it orders the running test to quit, or it starts the test of
the next build. -/
lemma checkPriorityList_cases (s : Controller) (outcome : StartOutcome) :
    (s.checkPriorityList outcome = s ∧
      (s.servicePaused = true ∨ s.highPriority = true ∧ s.currentTestCanBeStopped = false ∨
        BuildHandler.isThereBuildToTest s.buildHandler.db ≠ .ok true ∨ s.ongoingTest = true)) ∨
    (s.ongoingTest = true ∧ s.currentTestCanBeStopped = true ∧
      s.checkPriorityList outcome = s.order (.quit s.highPriority s.released)) ∨
    (s.servicePaused = false ∧ ¬ (s.highPriority = true ∧ s.currentTestCanBeStopped = false) ∧
      BuildHandler.isThereBuildToTest s.buildHandler.db = .ok true ∧ s.ongoingTest = false ∧
      s.checkPriorityList outcome = s.startHssRtcExecution none .null false outcome) := by
  unfold checkPriorityList
  cases hpaused : s.servicePaused with
  | true => exact .inl ⟨by rw [if_pos rfl], .inl rfl⟩
  | false =>
    rw [if_neg Bool.false_ne_true]
    by_cases hguard : s.highPriority = true ∧ s.currentTestCanBeStopped = false
    · exact .inl ⟨by rw [if_pos (by simp [hguard])], .inr (.inl hguard)⟩
    · rw [if_neg (by simpa using hguard)]
      rcases hwaits : BuildHandler.isThereBuildToTest s.buildHandler.db with e | _ | _
      · exact .inl ⟨rfl, .inr (.inr (.inl (by simp)))⟩
      · exact .inl ⟨rfl, .inr (.inr (.inl (by simp)))⟩
      · cases hongoing : s.ongoingTest with
        | false => exact .inr (.inr ⟨rfl, hguard, rfl, rfl, rfl⟩)
        | true =>
          cases hstop : s.currentTestCanBeStopped with
          | false => exact .inl ⟨rfl, .inr (.inr (.inr rfl))⟩
          | true => exact .inr (.inl ⟨rfl, rfl, rfl⟩)

/-- A test whose thread has noticed the end is not running. -/
@[simp] lemma ongoingTest_ended : ongoingTest { s with
    rtcHandler := s.rtcHandler.map fun handler => { handler with ongoingTest := false } } =
      false := by
  unfold ongoingTest
  cases s.rtcHandler <;> rfl

/-- A request changes the build handler and puts signals on the bus. -/
lemma request_eq {s' : Controller} {op : BuildHandler.Op} (h : request s op = some s') :
    ∃ bh signals, s' = { s with buildHandler := bh, bus := s.bus ++ signals } := by
  have hplain : ∀ bh, s' = { s with buildHandler := bh } →
      ∃ bh signals, s' = { s with buildHandler := bh, bus := s.bus ++ signals } := by
    rintro bh rfl
    exact ⟨bh, [], by rw [List.append_nil]⟩
  cases op with
  | getBuild => cases h
  | refreshDBMFromFile => cases h
  | priorityAdd build =>
    rcases hr : BuildHandler.priorityAdd s.buildHandler build with ⟨_ | _, bh⟩ <;>
      simp only [request, hr] at h <;> cases h
    · exact hplain bh rfl
    · exact ⟨bh, _, rfl⟩
  | priorityIncrease build =>
    rcases hr : BuildHandler.priorityIncrease s.buildHandler build with ⟨_ | wasPending, bh⟩ <;>
      simp only [request, hr] at h <;> cases h
    · exact hplain bh rfl
    · exact ⟨bh, [.rtcPriorityIncrease build wasPending, .rtcCheckPriorityList],
        by simp [emit]⟩
  | _ =>
    cases h
    exact hplain _ rfl

end Controller
end RtcController
