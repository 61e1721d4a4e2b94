import StTools.HssRtc.MainLoop
import StTools.RtcController.Service

/-!
# The pause between two test cases

After a test case `HSS_rtc` tells the controller that it is ready for a new build, and pauses.  The
controller answers with an order to resume or to quit.  The signal is emitted before `paused` is set,
so the answer can be there first; then it resets a flag that is not set yet, and the main thread
pauses for ever.

This module puts the controller and `HSS_rtc` together.  The orders of the controller are the
commands of the remote control, and the signal of `HSS_rtc` is on the bus of the controller.
-/

namespace HssRtc

open RtcController (Controller Signal Order)

/-- The command that the controller sends for an order. -/
def commandOf : Order → Command
  | .quit _ _ => .quit
  | .resume => .resume
  -- `DISCARDED` is no value that the remote control allows.
  | .setTestExecutionStatusDiscarded => .setTestExecutionStatus none
  | .setHighPriority _ => .other

/-- What became of the last signal. -/
inductive SignalState
  | none
  | emitted
  /-- The controller has handled it. -/
  | handled
  /-- And has ordered to resume or to quit. -/
  | answered
  deriving DecidableEq

/-- The controller and `HSS_rtc`. -/
structure Session where
  controller : Controller
  rtc : Rtc
  /-- Ghost: the last signal. -/
  signal : SignalState

namespace Session

/-- What can happen. -/
inductive Event
  | controller (e : RtcController.Event)
  | rtc (e : Rtc.Event)

/-- The event is that the controller handles a signal of `HSS_rtc`. -/
def HandlesReady (c : Controller) : RtcController.Event → Prop
  | .deliver index _ =>
    match c.bus[index]? with
    | some (.testToolReadyForNewBuild _) => True
    | _ => False
  | _ => False

instance (c : Controller) (e : RtcController.Event) : Decidable (HandlesReady c e) := by
  unfold HandlesReady
  split
  · split <;> infer_instance
  · infer_instance

/-- The order answers the signal. -/
def Answers (c : Command) : Prop := c = .quit ∨ c = .resume

instance : DecidablePred Answers := fun _ => inferInstanceAs (Decidable (_ ∨ _))

/-- The commands for the orders that are new. -/
def newCommands (c c' : Controller) : List Command :=
  (c'.orders.drop c.orders.length).map commandOf

/-- What becomes of the signal in a step of the controller. -/
def nextSignal (signal : SignalState) (handles : Prop) [Decidable handles]
    (commands : List Command) : SignalState :=
  let signal := if signal = .emitted ∧ handles then .handled else signal
  if signal = .handled ∧ ∃ c ∈ commands, Answers c then .answered else signal

/-- A step of the controller: its new orders are sent. -/
def controllerStep (s : Session) (e : RtcController.Event) : Option Session :=
  (RtcController.step s.controller e).map fun c =>
    { controller := c
      rtc := { s.rtc with inbox := s.rtc.inbox ++ newCommands s.controller c }
      signal := nextSignal s.signal (HandlesReady s.controller e) (newCommands s.controller c) }

/-- A step of `HSS_rtc`: its signal goes to the controller. -/
def rtcStep (s : Session) (e : Rtc.Event) : Option Session :=
  (Rtc.step s.rtc e).map fun rtc =>
    if e = .announce ∧ s.rtc.Announces then
      { controller := s.controller.emit (.testToolReadyForNewBuild s.rtc.hssBuild)
        rtc := rtc
        signal := .emitted }
    else { s with rtc := rtc }

/-- One step. -/
def step (s : Session) : Event → Option Session
  | .controller e => s.controllerStep e
  | .rtc e => s.rtcStep e

/-- The beginning: the controller is new, and so is `HSS_rtc`. -/
def init (serviceConfig : BuildHandler.Json) (buildHandler : BuildHandler.Handler)
    (build : List Char) (file : List Definition) : Session where
  controller := Controller.init serviceConfig buildHandler
  rtc := Rtc.init true build file
  signal := .none

/-! ## What should hold -/

/-- A command that resets `paused` is on its way, or is being executed. -/
def InFlight (s : Session) : Prop :=
  (∃ c ∈ s.rtc.inbox, .unpause ∈ c.program) ∨ .unpause ∈ s.rtc.todo

/-- `HSS_rtc` waits though its signal was answered, and no command will resume it. -/
def Stranded (s : Session) : Prop :=
  s.rtc.pc = .top ∧ s.rtc.paused = true ∧ s.signal = .answered ∧ ¬ s.InFlight

/-- The answer has not been applied when `paused` is set. -/
def PausesInTime (s : Session) : Event → Prop
  | .rtc .setPaused => s.signal = .answered → s.InFlight
  | _ => True

/-- While it is paused, an answer is on its way. -/
def AnswerComes (s : Session) : Prop :=
  s.rtc.paused = true → s.signal = .answered → s.InFlight

/-! ## One step -/

/-- A command that answers the signal resets `paused`. -/
lemma unpause_mem_of_answers {c : Command} (h : Answers c) : .unpause ∈ c.program := by
  obtain rfl | rfl := h <;> decide

/-- The signal gets answered by a command that is sent in this step. -/
lemma nextSignal_answered {signal : SignalState} {handles : Prop} [Decidable handles]
    {commands : List Command} (h : nextSignal signal handles commands = .answered) :
    signal = .answered ∨ ∃ c ∈ commands, Answers c := by
  by_contra hnot
  obtain ⟨hsignal, hcommands⟩ := not_or.mp hnot
  unfold nextSignal at h
  simp only [hcommands, and_false, if_false] at h
  split_ifs at h
  exact hsignal h

/-- A step of the controller. -/
lemma AnswerComes.controllerStep {s s' : Session} {e : RtcController.Event} (h : s.AnswerComes)
    (hstep : s.controllerStep e = some s') : s'.AnswerComes := by
  obtain ⟨c, -, rfl⟩ := Option.map_eq_some_iff.mp hstep
  intro hpaused hanswered
  obtain hanswered | ⟨command, hmem, hanswers⟩ := nextSignal_answered hanswered
  · obtain ⟨command, hmem, hunpause⟩ | htodo := h hpaused hanswered
    · exact Or.inl ⟨command, List.mem_append_left _ hmem, hunpause⟩
    · exact Or.inr htodo
  · exact Or.inl ⟨command, List.mem_append_right _ hmem, unpause_mem_of_answers hanswers⟩

/-- A statement of the remote control resets `paused`, or that is still to come. -/
lemma AnswerComes.act {s : Session} (h : s.AnswerComes) {a : Act} {todo : List Act}
    (htodo : s.rtc.todo = a :: todo) :
    AnswerComes { s with rtc := Rtc.runAct { s.rtc with todo := todo } a } := by
  by_cases ha : a = .unpause
  · subst ha
    intro hpaused
    cases hpaused
  · have hframe : (Rtc.runAct { s.rtc with todo := todo } a).paused = s.rtc.paused ∧
        (Rtc.runAct { s.rtc with todo := todo } a).inbox = s.rtc.inbox ∧
        (Rtc.runAct { s.rtc with todo := todo } a).todo = todo := by
      cases a with
      | unpause => exact absurd rfl ha
      | answer c =>
        rcases c with _ | _ | _ | _ | _ | _ | _
        case quit =>
          unfold Rtc.runAct
          split_ifs <;> exact ⟨rfl, rfl, rfl⟩
        all_goals exact ⟨rfl, rfl, rfl⟩
      | setExitRtc | setExitTestCase | setTestExecutionStatus | setHssBuild | kill =>
        exact ⟨rfl, rfl, rfl⟩
    obtain ⟨hpaused', hinbox, htodo'⟩ := hframe
    intro hpaused hanswered
    unfold InFlight
    dsimp only at hpaused hanswered ⊢
    rw [hpaused'] at hpaused
    rw [hinbox, htodo']
    refine (h hpaused hanswered).imp_right fun hmem => ?_
    rw [htodo] at hmem
    exact (List.mem_cons.mp hmem).resolve_left fun heq => ha heq.symm

/-- A step of `HSS_rtc` that pauses in time. -/
lemma AnswerComes.rtcStep {s s' : Session} {e : Rtc.Event} (h : s.AnswerComes)
    (hintime : s.PausesInTime (.rtc e)) (hstep : s.rtcStep e = some s') : s'.AnswerComes := by
  obtain ⟨rtc, hrtc, rfl⟩ := Option.map_eq_some_iff.mp hstep
  split_ifs with hannounce
  · intro _ hanswered
    cases hanswered
  · by_cases hremote : (∃ c, e = .send c) ∨ (∃ index, e = .receive index) ∨ e = .act
    · obtain ⟨c, rfl⟩ | ⟨index, rfl⟩ | rfl := hremote
      · obtain rfl := Option.some.inj hrtc
        intro hpaused hanswered
        obtain ⟨command, hmem, hunpause⟩ | htodo := h hpaused hanswered
        · exact Or.inl ⟨command, List.mem_append_left _ hmem, hunpause⟩
        · exact Or.inr htodo
      · obtain ⟨c, hidle, hc, rfl⟩ := Rtc.step_receive hrtc
        intro hpaused hanswered
        obtain ⟨command, hmem, hunpause⟩ | htodo := h hpaused hanswered
        · -- The command that is received is that one, or it stays.
          by_cases hcommand : command = c
          · exact Or.inr (hcommand ▸ hunpause)
          · obtain ⟨i, hi⟩ := List.mem_iff_getElem?.mp hmem
            have hne : i ≠ index := by
              rintro rfl
              exact hcommand (Option.some.inj (hi.symm.trans hc))
            exact Or.inl ⟨command, List.mem_eraseIdx_iff_getElem?.mpr ⟨i, hne, hi⟩, hunpause⟩
        · exact absurd htodo (by simp [hidle])
      · obtain ⟨a, todo, htodo, rfl⟩ := Rtc.step_act hrtc
        exact h.act htodo
    · push Not at hremote
      obtain ⟨hsend, hreceive, hact⟩ := hremote
      obtain ⟨hinbox, htodo, -, hpaused'⟩ := Rtc.step_frame hsend hreceive hact hrtc
      intro hpaused hanswered
      unfold InFlight
      dsimp only at hpaused hanswered ⊢
      rw [hinbox, htodo]
      by_cases he : e = .setPaused
      · subst he
        exact hintime hanswered
      · exact h (hpaused' he ▸ hpaused) hanswered

/-- **One step** that pauses in time. -/
lemma AnswerComes.step {s s' : Session} {e : Event} (h : s.AnswerComes) (hintime : s.PausesInTime e)
    (hstep : step s e = some s') : s'.AnswerComes := by
  rcases e with e | e
  · exact h.controllerStep hstep
  · exact h.rtcStep hintime hstep

/-- A pause that comes after the answer was applied. -/
lemma stranded_of_late {s s' : Session} {e : Event} (hlate : ¬ s.PausesInTime e)
    (hstep : step s e = some s') : s'.Stranded := by
  have hpause : e = .rtc .setPaused := by
    by_contra hne
    apply hlate
    unfold PausesInTime
    split
    · exact absurd rfl hne
    · trivial
  subst hpause
  obtain ⟨hanswered, hflight⟩ := Classical.not_imp.mp hlate
  obtain ⟨rtc, hrtc, rfl⟩ := Option.map_eq_some_iff.mp hstep
  obtain ⟨-, heq⟩ := Option.ite_none_right_eq_some.mp hrtc
  obtain rfl := Option.some.inj heq
  exact ⟨rfl, rfl, hanswered, hflight⟩

/-- **The handshake strands no test suite** in exactly the runs in which no pause comes after the
answer to the signal that it belongs to was applied. -/
theorem not_stranded_throughout_iff (serviceConfig : BuildHandler.Json)
    (buildHandler : BuildHandler.Handler) (build : List Char) (file : List Definition)
    (es : List Event) :
    LabelledSystem.Throughout step (fun s => ¬ Stranded s)
        (init serviceConfig buildHandler build file) es ↔
      LabelledSystem.Along step PausesInTime (init serviceConfig buildHandler build file) es := by
  refine LabelledSystem.throughout_iff_along (I := AnswerComes) ?_ ?_ ?_ ?_
  · intro s e s' h hintime hstep
    exact h.step hintime hstep
  · rintro s h ⟨-, hpaused, hanswered, hflight⟩
    exact hflight (h hpaused hanswered)
  · intro s e s' _ hlate hstep hnot
    exact hnot (stranded_of_late hlate hstep)
  · intro hpaused
    cases hpaused

/-- A configuration of the service. -/
def someConfig : BuildHandler.Json := .obj [("service_parameters".toList, .obj [])]

/-- The paused service is made to test a build; after the first test case the order to resume
overtakes the pause. -/
def answerOvertakes : List Event :=
  [.controller (.forceBuild "b".toList (some (.obj [])) false .started),
    .rtc .wake, .rtc .exitTest, .rtc .clearExitRtc, .rtc .clearExitTestCase,
    .rtc (.checkReference .allowed), .rtc (.finish .finished), .rtc .close, .rtc .announce,
    .controller (.deliver 0 .started), .rtc (.receive 0), .rtc .act, .rtc .act, .rtc .setPaused]

/-- A suite with an optional test case. -/
def optionalSuite : List Definition :=
  [.plain "a", { Definition.plain "b" with mandatory := false }]

/-- In this run the second test case is never executed. -/
theorem answerOvertakes_stranded :
    ∃ s, LabelledSystem.exec step
        (init someConfig BuildHandler.Handler.init "b".toList optionalSuite) answerOvertakes =
          some s ∧ s.Stranded ∧ s.rtc.inbox = [] ∧ s.rtc.todo = [] ∧
      ¬ LabelledSystem.Throughout step (fun s => ¬ Stranded s)
        (init someConfig BuildHandler.Handler.init "b".toList optionalSuite) answerOvertakes := by
  refine ⟨_, rfl, ⟨rfl, rfl, rfl, ?_⟩, rfl, rfl, fun h => h.last rfl ⟨rfl, rfl, rfl, ?_⟩⟩
  all_goals rintro (⟨c, hc, -⟩ | htodo)
  · cases hc
  · cases htodo
  · cases hc
  · cases htodo

end Session

end HssRtc
