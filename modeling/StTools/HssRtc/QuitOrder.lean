import StTools.HssRtc.MainLoop

/-!
# Orders to quit

An order to quit is answered with `ORDERED` before `exit_rtc` is set, and the main thread clears
`exit_rtc` for every test case, after it has tested it.  So an order can come too late for the test
case that is about to be executed, and it can be lost.

The main theorem gives the exact condition: where the main thread must not be when the order is
answered and applied, for the order to be honoured in every state that follows.
-/

namespace HssRtc

namespace Rtc

/-! ## What should hold -/

/-- The last order to quit is honoured so far. -/
structure Honoured (s : Rtc) : Prop where
  /-- The order is not lost. -/
  kept : s.quit = .applied → s.exitRtc = true
  /-- The main thread is not held at the top of the loop. -/
  awake : s.quit = .unpaused ∨ s.quit = .applied → s.paused = false
  /-- The loop has not gone on to another test case. -/
  chosen : s.quit ≠ .none → s.chosenSince = false
  /-- No test case was executed that was not running when the order was answered. -/
  executed : s.quit ≠ .none → s.executedSince = false
  /-- The loop ends when the main thread comes to its top. -/
  ends : s.quit = .applied → s.pc = .top →
    (LabelledSystem.exec step s [.wake, .exitTest]).map Rtc.pc = some .ended

/-- The main thread does nothing that an order to quit forbids: it does not go on to the next test
case before the order that was answered is applied, does not clear an order that was applied, does
not execute a test case that it has taken before, and does not pause after the order. -/
def RespectsQuit (s : Rtc) : Event → Prop
  | .exitTest => s.quit ≠ .none → s.exitRtc = true ∨ s.testSuite.nextTextCase = none
  | .clearExitRtc => s.quit ≠ .applied
  | .checkReference .allowed => s.quit = .none
  | .setPaused => ¬ (s.quit = .unpaused ∨ s.quit = .applied)
  | _ => True

/-- The loop ends when the order is kept and the main thread is not held. -/
lemma ends_of_kept {s : Rtc} (hkept : s.exitRtc = true) (hawake : s.paused = false)
    (htop : s.pc = .top) :
    (LabelledSystem.exec step s [.wake, .exitTest]).map Rtc.pc = some .ended := by
  simp [LabelledSystem.exec, step, exitTest, hkept, hawake, htop]

/-! ## The program of the remote control -/

/-- What is left to do fits to the state of the order. -/
structure Programmed (s : Rtc) : Prop where
  /-- After the answer. -/
  ordered : s.quit = .ordered → s.todo = Command.quit.program.drop 1
  /-- After `paused` was reset. -/
  unpaused : s.quit = .unpaused → s.todo = Command.quit.program.drop 2
  /-- The answer to `quit` is the first statement of its program. -/
  answersQuit : .answer .quit ∈ s.todo → s.todo = Command.quit.program
  /-- So is the answer to `continue_quit`. -/
  answersContinue : .answer .continueQuit ∈ s.todo → s.todo = Command.continueQuit.program
  /-- Only `continue_quit` clears `exit_rtc`, after its answer. -/
  clears : .setExitRtc false ∈ s.todo → s.quit = .none ∨ s.todo = Command.continueQuit.program

/-- Nothing is left to do in the first state. -/
lemma programmed_init (dbus : Bool) (build : List Char) (file : List Definition) :
    Programmed (init dbus build file) := by
  constructor <;> simp [init]

/-- Between two commands an order is not half done. -/
lemma Programmed.quit_of_idle {s : Rtc} (h : s.Programmed) (hidle : s.todo = []) :
    s.quit = .none ∨ s.quit = .applied := by
  rcases hquit : s.quit with _ | _ | _ | _
  · exact Or.inl rfl
  · exact absurd (hidle.symm.trans (h.ordered hquit)) (by decide)
  · exact absurd (hidle.symm.trans (h.unpaused hquit)) (by decide)
  · exact Or.inr rfl

/-- A command is received. -/
lemma Programmed.receive {s : Rtc} (h : s.Programmed) (hidle : s.todo = []) (c : Command)
    (inbox : List Command) : Programmed { s with inbox := inbox, todo := c.program } := by
  have hquit := h.quit_of_idle hidle
  refine ⟨fun hordered => ?_, fun hunpaused => ?_, ?_, ?_, ?_⟩
  · exact absurd hordered (by rcases hquit with hquit | hquit <;> simp [hquit])
  · exact absurd hunpaused (by rcases hquit with hquit | hquit <;> simp [hquit])
  all_goals
    dsimp only
    rcases c with _ | _ | _ | _ | failed | _ | _
    case setTestExecutionStatus => rcases failed with _ | failed <;> simp [Command.program]
    all_goals simp [Command.program]

/-- The answers come first, and `exit_rtc` is cleared after the answer to `continue_quit`. -/
lemma Programmed.rest {s : Rtc} (h : s.Programmed) {a : Act} {todo : List Act}
    (htodo : s.todo = a :: todo) :
    .answer .quit ∉ todo ∧ .answer .continueQuit ∉ todo ∧
      (.setExitRtc false ∈ todo → s.quit = .none ∨ a = .answer .continueQuit) := by
  refine ⟨fun hmem => ?_, fun hmem => ?_, fun hmem => ?_⟩
  · have hprogram := h.answersQuit (htodo ▸ List.mem_cons_of_mem a hmem)
    obtain ⟨-, rfl⟩ := List.cons.inj (htodo.symm.trans hprogram)
    exact absurd hmem (by decide)
  · have hprogram := h.answersContinue (htodo ▸ List.mem_cons_of_mem a hmem)
    obtain ⟨-, rfl⟩ := List.cons.inj (htodo.symm.trans hprogram)
    exact absurd hmem (by decide)
  · refine (h.clears (htodo ▸ List.mem_cons_of_mem a hmem)).imp_right fun hprogram => ?_
    exact (List.cons.inj (htodo.symm.trans hprogram)).1

/-- Where the program of `quit` is, the next statement is known. -/
lemma Programmed.head_of_ordered {s : Rtc} (h : s.Programmed) {a : Act} {todo : List Act}
    (htodo : s.todo = a :: todo) :
    (s.quit = .ordered → a = .unpause ∧ todo = Command.quit.program.drop 2) ∧
      (s.quit = .unpaused → a = .setExitRtc true ∧ todo = Command.quit.program.drop 3) := by
  refine ⟨fun hordered => ?_, fun hunpaused => ?_⟩
  · exact List.cons.inj (htodo.symm.trans (h.ordered hordered))
  · exact List.cons.inj (htodo.symm.trans (h.unpaused hunpaused))

/-- A state whose order is not half done, and whose answers are given. -/
lemma programmed_of_rest {s : Rtc} (hordered : s.quit ≠ .ordered) (hunpaused : s.quit ≠ .unpaused)
    (hquit : .answer .quit ∉ s.todo) (hcontinue : .answer .continueQuit ∉ s.todo)
    (hclears : .setExitRtc false ∈ s.todo → s.quit = .none) : s.Programmed where
  ordered h := absurd h hordered
  unpaused h := absurd h hunpaused
  answersQuit h := absurd h hquit
  answersContinue h := absurd h hcontinue
  clears h := Or.inl (hclears h)

/-- The remote control makes a statement. -/
lemma Programmed.act {s : Rtc} (h : s.Programmed) {a : Act} {todo : List Act}
    (htodo : s.todo = a :: todo) : (runAct { s with todo := todo } a).Programmed := by
  obtain ⟨hquit, hcontinue, hclears⟩ := h.rest htodo
  obtain ⟨hordered, hunpaused⟩ := h.head_of_ordered htodo
  by_cases hpart : s.quit = .ordered ∨ s.quit = .unpaused
  · -- The program of `quit` goes on.
    obtain hs | hs := hpart
    · obtain ⟨rfl, rfl⟩ := hordered hs
      constructor <;> simp [runAct, hs, Command.program]
    · obtain ⟨rfl, rfl⟩ := hunpaused hs
      constructor <;> simp [runAct, hs, Command.program]
  · push Not at hpart
    have hidle : ∀ (s' : Rtc), s'.quit = s.quit → s'.todo = todo → a ≠ .answer .continueQuit →
        s'.Programmed := by
      intro s' hs' htodo' hne
      refine programmed_of_rest (hs' ▸ hpart.1) (hs' ▸ hpart.2) (htodo' ▸ hquit)
        (htodo' ▸ hcontinue) fun hmem => ?_
      rw [hs']
      exact (hclears (htodo' ▸ hmem)).resolve_right hne
    cases a with
    | answer c =>
      rcases c with _ | _ | _ | _ | _ | _ | _
      case quit =>
        by_cases hnone : s.quit = .none
        · have hprogram := h.answersQuit (htodo ▸ List.mem_cons_self)
          obtain ⟨-, rfl⟩ := List.cons.inj (htodo.symm.trans hprogram)
          constructor <;> simp [runAct, hnone, Command.program]
        · have hsame : runAct { s with todo := todo } (.answer .quit) = { s with todo := todo } :=
            if_neg hnone
          rw [hsame]
          exact hidle _ rfl rfl (by simp)
      case continueQuit =>
        exact programmed_of_rest (by simp [runAct]) (by simp [runAct]) hquit hcontinue fun _ => rfl
      all_goals exact hidle _ rfl rfl (by simp)
    | unpause => exact hidle _ (if_neg hpart.1) rfl (by simp)
    | setExitRtc value => exact hidle _ (if_neg hpart.2) rfl (by simp)
    | setExitTestCase | setTestExecutionStatus | setHssBuild | kill =>
      exact hidle _ rfl rfl (by simp)

/-- Every step keeps the remote control programmed. -/
lemma Programmed.step {s s' : Rtc} {e : Event} (h : s.Programmed) (hstep : step s e = some s') :
    s'.Programmed := by
  by_cases hremote : (∃ c, e = .send c) ∨ (∃ index, e = .receive index) ∨ e = .act
  · obtain ⟨c, rfl⟩ | ⟨index, rfl⟩ | rfl := hremote
    · obtain rfl := Option.some.inj hstep
      exact ⟨h.ordered, h.unpaused, h.answersQuit, h.answersContinue, h.clears⟩
    · obtain ⟨c, hidle, -, rfl⟩ := step_receive hstep
      exact h.receive hidle c _
    · obtain ⟨a, todo, htodo, rfl⟩ := step_act hstep
      exact h.act htodo
  · push Not at hremote
    obtain ⟨hsend, hreceive, hact⟩ := hremote
    obtain ⟨-, htodo, hquit, -⟩ := step_frame hsend hreceive hact hstep
    constructor <;> simp only [hquit, htodo]
    exacts [h.ordered, h.unpaused, h.answersQuit, h.answersContinue, h.clears]

/-! ## One step -/

/-- What an order to quit asks for, without its consequence. -/
lemma honoured_of {s : Rtc} (hkept : s.quit = .applied → s.exitRtc = true)
    (hawake : s.quit = .unpaused ∨ s.quit = .applied → s.paused = false)
    (hchosen : s.quit ≠ .none → s.chosenSince = false)
    (hexecuted : s.quit ≠ .none → s.executedSince = false) : s.Honoured where
  kept := hkept
  awake := hawake
  chosen := hchosen
  executed := hexecuted
  ends happlied htop := ends_of_kept (hkept happlied) (hawake (Or.inr happlied)) htop

/-- A state in which no order stands honours it. -/
lemma honoured_of_none {s : Rtc} (h : s.quit = .none) : s.Honoured :=
  honoured_of (by simp [h]) (by simp [h]) (by simp [h]) (by simp [h])

/-- A change that sets none of the flags except for `exit_rtc`. -/
lemma Honoured.of_eq {s s' : Rtc} (h : s.Honoured) (hquit : s'.quit = s.quit)
    (hexit : s.exitRtc = true → s'.exitRtc = true) (hpaused : s'.paused = s.paused)
    (hchosen : s'.chosenSince = s.chosenSince) (hexecuted : s'.executedSince = s.executedSince) :
    s'.Honoured := by
  refine honoured_of ?_ ?_ ?_ ?_
  · exact fun happlied => hexit (h.kept (hquit ▸ happlied))
  · rw [hquit, hpaused]
    exact h.awake
  · rw [hquit, hchosen]
    exact h.chosen
  · rw [hquit, hexecuted]
    exact h.executed

/-- A statement of the remote control honours the order. -/
lemma Honoured.act {s : Rtc} (h : s.Honoured) (hp : s.Programmed) {a : Act} {todo : List Act}
    (htodo : s.todo = a :: todo) : (runAct { s with todo := todo } a).Honoured := by
  obtain ⟨hordered, hunpaused⟩ := hp.head_of_ordered htodo
  cases a with
  | answer c =>
    rcases c with _ | _ | _ | _ | _ | _ | _
    case quit =>
      by_cases hnone : s.quit = .none
      · apply honoured_of <;> simp [runAct, hnone]
      · have hsame : runAct { s with todo := todo } (.answer .quit) = { s with todo := todo } :=
          if_neg hnone
        rw [hsame]
        exact h.of_eq rfl id rfl rfl rfl
    case continueQuit => exact honoured_of_none rfl
    all_goals exact h.of_eq rfl id rfl rfl rfl
  | unpause =>
    refine honoured_of ?_ (fun _ => rfl) ?_ ?_
    all_goals
      dsimp only [runAct]
      split_ifs with hs
    · simp
    · exact h.kept
    · exact fun _ => h.chosen (by simp [hs])
    · exact h.chosen
    · exact fun _ => h.executed (by simp [hs])
    · exact h.executed
  | setExitRtc value =>
    by_cases hs : s.quit = .unpaused
    · obtain ⟨heq, -⟩ := hunpaused hs
      obtain rfl := Act.setExitRtc.inj heq
      refine honoured_of (fun _ => rfl) (fun _ => h.awake (Or.inl hs)) ?_ ?_
      · exact fun _ => h.chosen (by simp [hs])
      · exact fun _ => h.executed (by simp [hs])
    · -- No order is cleared by a `continue_quit` whose answer was given.
      have hquit : (runAct { s with todo := todo } (.setExitRtc value)).quit = s.quit := if_neg hs
      rcases value with _ | _
      · have hnone := (hp.clears (htodo ▸ List.mem_cons_self)).resolve_right fun hprogram => by
          simp [htodo, Command.program] at hprogram
        exact honoured_of_none (hquit.trans hnone)
      · exact h.of_eq hquit (fun _ => rfl) rfl rfl rfl
  | setExitTestCase | setTestExecutionStatus | setHssBuild | kill =>
    exact h.of_eq rfl id rfl rfl rfl

/-- The main thread takes the next test case, or does not. -/
lemma Honoured.exitTest {s : Rtc} (h : s.Honoured) (hrespects : s.RespectsQuit .exitTest) :
    (Rtc.exitTest s).Honoured := by
  by_cases hnone : s.quit = .none
  · refine honoured_of_none ?_
    unfold Rtc.exitTest
    split_ifs
    · exact hnone
    · split <;> exact hnone
  · unfold Rtc.exitTest
    split_ifs with hexit
    · exact h.of_eq rfl id rfl rfl rfl
    · obtain hexit' | hnext := hrespects hnone
      · exact absurd hexit' hexit
      · rw [hnext]
        exact h.of_eq rfl id rfl rfl rfl

/-- A step that respects the order honours it. -/
lemma Honoured.step {s s' : Rtc} {e : Event} (h : s.Honoured) (hp : s.Programmed)
    (hrespects : s.RespectsQuit e) (hstep : step s e = some s') : s'.Honoured := by
  cases e with
  | send | ctrlC =>
    obtain rfl := Option.some.inj hstep
    exact h.of_eq rfl id rfl rfl rfl
  | receive index =>
    obtain ⟨c, -, -, rfl⟩ := step_receive hstep
    exact h.of_eq rfl id rfl rfl rfl
  | act =>
    obtain ⟨a, todo, htodo, rfl⟩ := step_act hstep
    exact h.act hp htodo
  | exitTest =>
    obtain ⟨-, heq⟩ := Option.ite_none_right_eq_some.mp hstep
    obtain rfl := Option.some.inj heq
    exact h.exitTest hrespects
  | clearExitRtc =>
    obtain ⟨-, heq⟩ := Option.ite_none_right_eq_some.mp hstep
    obtain rfl := Option.some.inj heq
    exact honoured_of (fun happlied => absurd happlied hrespects) h.awake h.chosen h.executed
  | checkReference o =>
    obtain ⟨-, heq⟩ := Option.ite_none_right_eq_some.mp hstep
    obtain rfl := Option.some.inj heq
    rcases o with _ | reason
    · exact honoured_of_none hrespects
    · exact h.of_eq rfl id rfl rfl rfl
  | finish o =>
    obtain ⟨-, heq⟩ := Option.ite_none_right_eq_some.mp hstep
    obtain rfl := Option.some.inj heq
    exact h.of_eq rfl (fun hexit => by simp [finish, hexit]) rfl rfl rfl
  | interrupt second =>
    obtain ⟨-, heq⟩ := Option.ite_none_right_eq_some.mp hstep
    obtain rfl := Option.some.inj heq
    unfold interrupt
    split_ifs
    · exact h.of_eq rfl (fun hexit => by simp [hexit]) rfl rfl rfl
    · exact h.of_eq rfl id rfl rfl rfl
  | setPaused =>
    obtain ⟨-, heq⟩ := Option.ite_none_right_eq_some.mp hstep
    obtain rfl := Option.some.inj heq
    exact honoured_of h.kept (fun hquit => absurd hquit hrespects) h.chosen h.executed
  | wake | clearExitTestCase | updateVerdict | setExecutionStatus | close | announce | escape =>
    obtain ⟨-, heq⟩ := Option.ite_none_right_eq_some.mp hstep
    obtain rfl := Option.some.inj heq
    exact h.of_eq rfl id rfl rfl rfl

/-- A step that does not respect the order breaks it. -/
lemma not_honoured_of_step {s s' : Rtc} {e : Event} (hrespects : ¬ s.RespectsQuit e)
    (hstep : step s e = some s') : ¬ s'.Honoured := by
  intro h
  cases e with
  | exitTest =>
    obtain ⟨-, heq⟩ := Option.ite_none_right_eq_some.mp hstep
    obtain rfl := Option.some.inj heq
    obtain ⟨hquit, hnot⟩ := Classical.not_imp.mp hrespects
    obtain ⟨hexit, hnext⟩ := not_or.mp hnot
    obtain ⟨testSuite, hsuite⟩ := Option.ne_none_iff_exists'.mp hnext
    have hchosen := h.chosen
    unfold Rtc.exitTest at hchosen
    rw [if_neg hexit, hsuite] at hchosen
    exact absurd (hchosen hquit) (by simp)
  | clearExitRtc =>
    obtain ⟨-, heq⟩ := Option.ite_none_right_eq_some.mp hstep
    obtain rfl := Option.some.inj heq
    exact absurd (h.kept (not_not.mp hrespects)) (by simp)
  | checkReference o =>
    obtain ⟨-, heq⟩ := Option.ite_none_right_eq_some.mp hstep
    obtain rfl := Option.some.inj heq
    rcases o with _ | reason
    · exact absurd (h.executed hrespects) (by simp [checkReference])
    · exact hrespects trivial
  | setPaused =>
    obtain ⟨-, heq⟩ := Option.ite_none_right_eq_some.mp hstep
    obtain rfl := Option.some.inj heq
    exact absurd (h.awake (not_not.mp hrespects)) (by simp)
  | _ => exact hrespects trivial

/-- **A quit order is never lost** in exactly the runs whose steps respect it: the order is kept
until the loop ends, no test case is executed that was not running when it was answered, and the loop
ends when the running one has. -/
theorem honoured_throughout_iff (dbus : Bool) (build : List Char) (file : List Definition)
    (es : List Event) :
    LabelledSystem.Throughout step Honoured (init dbus build file) es ↔
      LabelledSystem.Along step RespectsQuit (init dbus build file) es := by
  refine LabelledSystem.throughout_iff_along (I := fun s : Rtc => s.Honoured ∧ s.Programmed)
    ?_ (fun _ h => h.1) ?_ ⟨honoured_of_none rfl, programmed_init dbus build file⟩
  · intro s e s' h hrespects hstep
    exact ⟨h.1.step h.2 hrespects hstep, h.2.step hstep⟩
  · intro s e s' _ hrespects hstep
    exact not_honoured_of_step hrespects hstep

/-- The order is applied after the main thread has tested `exit_rtc` and before it clears it. -/
def quitInBetween : List Event :=
  [.send .quit, .wake, .exitTest, .receive 0, .act, .act, .act, .act, .clearExitRtc,
    .clearExitTestCase, .checkReference .allowed, .finish .finished, .close, .announce,
    .wake, .exitTest, .clearExitRtc, .clearExitTestCase, .checkReference .allowed]

/-- In this run the order is lost: two test cases are executed after it. -/
theorem quitInBetween_lost :
    ∃ s, LabelledSystem.exec step
        (init false [] [.plain "a", .plain "b"]) quitInBetween = some s ∧
      s.quit = .applied ∧ s.exitRtc = false ∧ s.history.length = 1 ∧ s.pc = .executing ∧
      s.executedSince = true ∧
      ¬ LabelledSystem.Throughout step Honoured
        (init false [] [.plain "a", .plain "b"]) quitInBetween := by
  refine ⟨_, rfl, rfl, rfl, rfl, rfl, rfl, fun h => ?_⟩
  exact absurd ((h.last rfl).kept rfl) (by decide)

end Rtc

end HssRtc
