import StTools.HssRtc.MainLoop

/-!
# The order of the test cases

Whatever the two threads do, the test cases of a suite are taken in the order of the file, each
re-execution comes directly after the failed attempt that it repeats, and a test case is executed at
most once more than it has retries.  A run that nobody disturbs, and in which no test case asks for
the end of `HSS_rtc`, gets through the whole suite.
-/

namespace HssRtc

namespace Rtc

/-! ## The invariant -/

/-- The definitions from a place of the suite on. -/
def definitionsFrom (s : Rtc) (n : ℕ) : List Definition := s.testSuite.definitions.drop n

/-- The main thread is in a test case. -/
def InTestCase (s : Rtc) : Prop :=
  s.pc = .initializing ∨ s.pc = .clearing ∨ s.pc = .checking ∨ s.pc = .executing ∨ s.pc = .closing

/-- What the history and the suite say together. -/
structure Ordered (file : List Definition) (s : Rtc) : Prop where
  /-- Between two test cases, those that were not handed out are pending. -/
  between : ¬ s.InTestCase → s.pc ≠ .ended →
    Progress file s.history (s.definitionsFrom s.testSuite.handedOut)
  /-- In a test case, this one is pending too. -/
  within : s.InTestCase → ∃ d, s.testSuite.definitions[s.testSuite.handedOut - 1]? = some d ∧
    Progress file s.history (d :: s.definitionsFrom s.testSuite.handedOut)
  /-- In the end, something is pending or not. -/
  after : s.pc = .ended → ∃ pending, Progress file s.history pending

/-- In every state there is some progress. -/
lemma Ordered.progress {file : List Definition} {s : Rtc} (h : Ordered file s) :
    ∃ pending, Progress file s.history pending := by
  by_cases hended : s.pc = .ended
  · exact h.after hended
  · by_cases hin : s.InTestCase
    · obtain ⟨d, -, hprogress⟩ := h.within hin
      exact ⟨_, hprogress⟩
    · exact ⟨_, h.between hin hended⟩

/-- The first state. -/
lemma ordered_init (dbus : Bool) (build : List Char) (file : List Definition) :
    Ordered file (init dbus build file) where
  between _ _ := by
    have hdefinitions : (init dbus build file).definitionsFrom 0 = file :=
      (List.map_map ..).trans (List.map_id file)
    show Progress file [] ((init dbus build file).definitionsFrom 0)
    rw [hdefinitions]
    exact Progress.start file
  within h := by simp [InTestCase, init] at h
  after h := by simp [init] at h

/-- Two states with the same history, suite and place, as far as the order goes. -/
lemma Ordered.of_eq {file : List Definition} {s s' : Rtc} (h : Ordered file s)
    (hhistory : s'.history = s.history)
    (hdefinitions : s'.testSuite.definitions = s.testSuite.definitions)
    (hhandedOut : s'.testSuite.handedOut = s.testSuite.handedOut)
    (hin : s'.InTestCase ↔ s.InTestCase) (hended : s'.pc = .ended ↔ s.pc = .ended) :
    Ordered file s' := by
  have hfrom : ∀ n, s'.definitionsFrom n = s.definitionsFrom n := fun n => by
    rw [definitionsFrom, definitionsFrom, hdefinitions]
  refine ⟨?_, ?_, ?_⟩
  · rw [hin, ne_eq, hended, hhistory, hhandedOut, hfrom]
    exact h.between
  · rw [hin, hhistory, hhandedOut, hfrom, hdefinitions]
    exact h.within
  · rw [hended, hhistory]
    exact h.after

/-- A state in which the loop has ended. -/
lemma Ordered.end {file : List Definition} {s s' : Rtc} (h : Ordered file s)
    (hhistory : s'.history = s.history) (hended : s'.pc = .ended) : Ordered file s' where
  between _ hne := absurd hended hne
  within hin := by simp [InTestCase, hended] at hin
  after _ := hhistory ▸ h.progress

/-! ## One step -/

/-- The place of the cursor before the next test case. -/
lemma Ordered.exitTest {file : List Definition} {s : Rtc} (h : Ordered file s)
    (hpc : s.pc = .testing) : Ordered file (Rtc.exitTest s) := by
  unfold Rtc.exitTest
  split_ifs
  · exact h.end rfl rfl
  · split
    · exact h.end rfl rfl
    · rename_i testSuite hnext
      unfold TestSuite.nextTextCase at hnext
      split_ifs at hnext with hlt
      obtain rfl := Option.some.inj hnext
      have hlt' : s.testSuite.handedOut < s.testSuite.definitions.length := by
        rw [TestSuite.definitions, List.length_map]
        exact hlt
      have hbetween := h.between (by simp [InTestCase, hpc]) (by simp [hpc])
      rw [definitionsFrom, List.drop_eq_getElem_cons hlt'] at hbetween
      refine ⟨fun hin => ?_, fun _ => ⟨_, List.getElem?_eq_getElem hlt', hbetween⟩, fun hended => ?_⟩
      · simp [InTestCase] at hin
      · cases hended

/-- The test case is skipped, or is running now. -/
lemma Ordered.checkReference {file : List Definition} {s : Rtc} (h : Ordered file s)
    (hpc : s.pc = .checking) (o : CheckOutcome) : Ordered file (s.checkReference o) := by
  have hin : s.InTestCase := by simp [InTestCase, hpc]
  rcases o with _ | reason
  · refine h.of_eq rfl ?_ rfl ?_ ?_
    · exact TestSuite.updateCurrent_definitions fun t => t.updateStatus_toDefinition _ _ _
    · simp [InTestCase, Rtc.checkReference, hpc]
    · simp [Rtc.checkReference, hpc]
  · obtain ⟨d, hd, hprogress⟩ := h.within hin
    have hdefinitions := s.testSuite.updateCurrent_definitions
      (f := fun t => t.updateStatus .skipped reason false)
      fun t => t.updateStatus_toDefinition _ _ _
    obtain ⟨t, ht, rfl⟩ := TestSuite.exists_currentTextCase hd
    refine ⟨fun _ _ => ?_, fun hin => ?_, fun hended => ?_⟩
    · show Progress file (s.history ++ (s.testSuite.currentTextCase.map fun t =>
        (⟨t.toDefinition, false, false⟩ : Attempt)).toList) (List.drop s.testSuite.handedOut
          (s.testSuite.updateCurrent fun t => t.updateStatus .skipped reason false).definitions)
      rw [hdefinitions, ht]
      exact hprogress.finish false
    · simp [InTestCase, Rtc.checkReference] at hin
    · simp [Rtc.checkReference] at hended

/-- The test case is closed. -/
lemma Ordered.close {file : List Definition} {s : Rtc} (h : Ordered file s)
    (hpc : s.pc = .closing) : Ordered file s.close := by
  obtain ⟨d, hd, hprogress⟩ := h.within (by simp [InTestCase, hpc])
  obtain ⟨t, ht, rfl⟩ := TestSuite.exists_currentTextCase hd
  have hpos : s.testSuite.handedOut ≤ s.testSuite.definitions.length := by
    have hlt := (List.getElem?_eq_some_iff.mp hd).1
    omega
  refine ⟨fun _ _ => ?_, fun hin => ?_, fun hended => ?_⟩
  · unfold Rtc.close
    simp only [ht, Option.any_some, Option.map_some, Option.toList_some]
    by_cases hrepeat : t.shallRepeat = true
    · -- The clone is the first of those that are pending.
      have hretry : t.nofRetries ≠ 0 := by
        simp only [TestCase.shallRepeat, Bool.and_eq_true, decide_eq_true_eq] at hrepeat
        exact hrepeat.1
      simp only [hrepeat, if_true, definitionsFrom]
      rw [TestSuite.repeatTestCase_handedOut, TestSuite.repeatTestCase_definitions ht,
        List.drop_left' (List.length_take_of_le hpos)]
      exact hprogress.again hretry
    · simp only [hrepeat]
      exact hprogress.finish true
  · simp [InTestCase, Rtc.close] at hin
  · simp [Rtc.close] at hended

/-- A statement of the remote control keeps the definitions of the suite. -/
lemma runAct_frame (s : Rtc) (a : Act) :
    (s.runAct a).history = s.history ∧
      (s.runAct a).testSuite.definitions = s.testSuite.definitions ∧
      (s.runAct a).testSuite.handedOut = s.testSuite.handedOut ∧ (s.runAct a).pc = s.pc := by
  cases a with
  | answer c =>
    rcases c with _ | _ | _ | _ | _ | _ | _
    case quit =>
      unfold runAct
      split_ifs <;> exact ⟨rfl, rfl, rfl, rfl⟩
    all_goals exact ⟨rfl, rfl, rfl, rfl⟩
  | setTestExecutionStatus failed =>
    exact ⟨rfl, TestSuite.forceExecutionStatus_definitions failed, rfl, rfl⟩
  | unpause | setExitRtc | setExitTestCase | setHssBuild | kill => exact ⟨rfl, rfl, rfl, rfl⟩

/-- **One step** keeps the order. -/
lemma Ordered.step {file : List Definition} {s s' : Rtc} {e : Event} (h : Ordered file s)
    (hstep : step s e = some s') : Ordered file s' := by
  cases e with
  | send | ctrlC =>
    obtain rfl := Option.some.inj hstep
    exact h.of_eq rfl rfl rfl Iff.rfl Iff.rfl
  | receive index =>
    obtain ⟨c, -, -, rfl⟩ := step_receive hstep
    exact h.of_eq rfl rfl rfl Iff.rfl Iff.rfl
  | act =>
    obtain ⟨a, todo, -, rfl⟩ := step_act hstep
    obtain ⟨hhistory, hdefinitions, hhandedOut, hpc⟩ := runAct_frame { s with todo := todo } a
    exact h.of_eq hhistory hdefinitions hhandedOut (by rw [InTestCase, hpc]; rfl) (by rw [hpc])
  | exitTest =>
    obtain ⟨hpc, heq⟩ := Option.ite_none_right_eq_some.mp hstep
    obtain rfl := Option.some.inj heq
    exact h.exitTest hpc
  | checkReference o =>
    obtain ⟨hpc, heq⟩ := Option.ite_none_right_eq_some.mp hstep
    obtain rfl := Option.some.inj heq
    exact h.checkReference hpc o
  | close =>
    obtain ⟨hpc, heq⟩ := Option.ite_none_right_eq_some.mp hstep
    obtain rfl := Option.some.inj heq
    exact h.close hpc
  | finish o =>
    obtain ⟨⟨hpc, -⟩, heq⟩ := Option.ite_none_right_eq_some.mp hstep
    obtain rfl := Option.some.inj heq
    refine h.of_eq rfl ?_ rfl ?_ ?_
    · exact TestSuite.updateCurrent_definitions fun t => o.apply_toDefinition t
    · simp [InTestCase, Rtc.finish, hpc]
    · simp [Rtc.finish, hpc]
  | interrupt second =>
    obtain ⟨-, heq⟩ := Option.ite_none_right_eq_some.mp hstep
    obtain rfl := Option.some.inj heq
    unfold Rtc.interrupt
    split_ifs with hpc
    · refine h.of_eq rfl ?_ rfl ?_ ?_
      · exact TestSuite.updateCurrent_definitions fun t => t.updateStatus_toDefinition _ _ _
      · simp [InTestCase, hpc]
      · simp [hpc]
    · exact h.end rfl rfl
  | updateVerdict message repeats =>
    obtain ⟨hpc, heq⟩ := Option.ite_none_right_eq_some.mp hstep
    obtain rfl := Option.some.inj heq
    exact h.of_eq rfl (TestSuite.updateCurrent_definitions fun _ => rfl) rfl Iff.rfl Iff.rfl
  | setExecutionStatus failed =>
    obtain ⟨hpc, heq⟩ := Option.ite_none_right_eq_some.mp hstep
    obtain rfl := Option.some.inj heq
    exact h.of_eq rfl (TestSuite.updateCurrent_definitions fun _ => rfl) rfl Iff.rfl Iff.rfl
  | escape =>
    obtain ⟨-, heq⟩ := Option.ite_none_right_eq_some.mp hstep
    obtain rfl := Option.some.inj heq
    exact h.end rfl rfl
  | clearExitRtc | clearExitTestCase =>
    obtain ⟨hpc, heq⟩ := Option.ite_none_right_eq_some.mp hstep
    obtain rfl := Option.some.inj heq
    exact h.of_eq rfl rfl rfl (by simp [InTestCase, hpc]) (by simp [hpc])
  | wake =>
    obtain ⟨hpc, heq⟩ := Option.ite_none_right_eq_some.mp hstep
    obtain rfl := Option.some.inj heq
    refine h.of_eq rfl rfl rfl ?_ ?_
    all_goals
      dsimp only [InTestCase]
      split_ifs <;> simp [hpc]
  | announce =>
    obtain ⟨hpc, heq⟩ := Option.ite_none_right_eq_some.mp hstep
    obtain rfl := Option.some.inj heq
    refine h.of_eq rfl rfl rfl ?_ ?_
    all_goals
      dsimp only [InTestCase]
      split_ifs <;> simp [hpc]
  | setPaused =>
    obtain ⟨hpc, heq⟩ := Option.ite_none_right_eq_some.mp hstep
    obtain rfl := Option.some.inj heq
    exact h.of_eq rfl rfl rfl (by simp [InTestCase, hpc]) (by simp [hpc])

/-! ## A run that nobody disturbs -/

/-- Nobody orders the end of a test case or of `HSS_rtc`, no exception escapes from the handlers, and
a test case that asks for the end of `HSS_rtc` is repeated. -/
def Undisturbed (s : Rtc) : Event → Prop
  | .send c => c ≠ .quit ∧ c ≠ .continueQuit ∧ c ≠ .forceQuit
  | .ctrlC => False
  | .escape => False
  | .finish o => o = .exitRtc →
    (s.testSuite.updateCurrent o.apply).currentTextCase.any TestCase.shallRepeat = true
  | _ => True

/-- Nobody has ordered an end. -/
structure Quiet (file : List Definition) (s : Rtc) : Prop where
  ordered : Ordered file s
  /-- No order is on its way. -/
  inbox : ∀ c ∈ s.inbox, c ≠ .quit ∧ c ≠ .continueQuit ∧ c ≠ .forceQuit
  /-- No order is executed. -/
  todo : .setExitRtc true ∉ s.todo ∧ .kill ∉ s.todo
  exitRtc : s.exitRtc = false
  interrupts : s.interrupts = 0
  /-- The loop ends with the suite. -/
  done : s.pc = .ended → Progress file s.history []

/-- The first state. -/
lemma quiet_init (dbus : Bool) (build : List Char) (file : List Definition) :
    Quiet file (init dbus build file) where
  ordered := ordered_init dbus build file
  inbox := by simp [init]
  todo := by simp [init]
  exitRtc := rfl
  interrupts := rfl
  done h := by simp [init] at h

/-- A step of the main thread that leaves `exit_rtc` alone and does not end the loop. -/
lemma Quiet.of_eq {file : List Definition} {s s' : Rtc} (h : Quiet file s) (hordered : Ordered file s')
    (hinbox : s'.inbox = s.inbox) (htodo : s'.todo = s.todo) (hexit : s'.exitRtc = false)
    (hinterrupts : s'.interrupts = s.interrupts) (hpc : s'.pc ≠ .ended) : Quiet file s' where
  ordered := hordered
  inbox := hinbox ▸ h.inbox
  todo := htodo ▸ h.todo
  exitRtc := hexit
  interrupts := hinterrupts ▸ h.interrupts
  done hended := absurd hended hpc

/-- A command that orders no end. -/
lemma Quiet.receive {file : List Definition} {s : Rtc} (h : Quiet file s) {index : ℕ} {c : Command}
    (hc : s.inbox[index]? = some c) (hordered : Ordered file
      { s with inbox := s.inbox.eraseIdx index, todo := c.program }) :
    Quiet file { s with inbox := s.inbox.eraseIdx index, todo := c.program } where
  ordered := hordered
  inbox c' hc' := h.inbox c' (List.mem_of_mem_eraseIdx hc')
  todo := by
    obtain ⟨hquit, hcontinue, hforce⟩ := h.inbox c (List.mem_of_getElem? hc)
    rcases c with _ | _ | _ | _ | failed | _ | _
    case setTestExecutionStatus => rcases failed with _ | failed <;> simp [Command.program]
    all_goals simp_all [Command.program]
  exitRtc := h.exitRtc
  interrupts := h.interrupts
  done := h.done

/-- A statement that orders no end. -/
lemma Quiet.act {file : List Definition} {s : Rtc} (h : Quiet file s) {a : Act} {todo : List Act}
    (htodo : s.todo = a :: todo) (hordered : Ordered file (runAct { s with todo := todo } a)) :
    Quiet file (runAct { s with todo := todo } a) := by
  obtain ⟨hhistory, -, -, hpc⟩ := runAct_frame { s with todo := todo } a
  have hsafe : a ≠ .setExitRtc true ∧ a ≠ .kill := by
    refine ⟨fun heq => h.todo.1 ?_, fun heq => h.todo.2 ?_⟩
    all_goals
      rw [htodo, heq]
      exact List.mem_cons_self
  have hrest : .setExitRtc true ∉ todo ∧ .kill ∉ todo :=
    ⟨fun hmem => h.todo.1 (htodo ▸ List.mem_cons_of_mem a hmem),
      fun hmem => h.todo.2 (htodo ▸ List.mem_cons_of_mem a hmem)⟩
  have hfields : (runAct { s with todo := todo } a).inbox = s.inbox ∧
      (runAct { s with todo := todo } a).todo = todo ∧
      (runAct { s with todo := todo } a).exitRtc = false ∧
      (runAct { s with todo := todo } a).interrupts = 0 := by
    have hexit := h.exitRtc
    have hinterrupts := h.interrupts
    cases a with
    | answer c =>
      rcases c with _ | _ | _ | _ | _ | _ | _
      case quit =>
        unfold runAct
        split_ifs <;> exact ⟨rfl, rfl, hexit, hinterrupts⟩
      all_goals exact ⟨rfl, rfl, hexit, hinterrupts⟩
    | setExitRtc value =>
      rcases value with _ | _
      · exact ⟨rfl, rfl, rfl, hinterrupts⟩
      · exact absurd rfl hsafe.1
    | kill => exact absurd rfl hsafe.2
    | unpause | setExitTestCase | setTestExecutionStatus | setHssBuild =>
      exact ⟨rfl, rfl, hexit, hinterrupts⟩
  obtain ⟨hinbox, htodo', hexit, hinterrupts⟩ := hfields
  refine ⟨hordered, ?_, htodo'.symm ▸ hrest, hexit, hinterrupts, fun hended => ?_⟩
  · rw [hinbox]
    exact h.inbox
  · rw [hhistory]
    exact h.done (hpc ▸ hended)

/-- The loop ends when no test case is left. -/
lemma Quiet.exitTest {file : List Definition} {s : Rtc} (h : Quiet file s) (hpc : s.pc = .testing) :
    Quiet file (Rtc.exitTest s) := by
  have hordered := h.ordered.exitTest hpc
  have hnot : ¬ s.exitRtc = true := by simp [h.exitRtc]
  unfold Rtc.exitTest at hordered ⊢
  rw [if_neg hnot] at hordered ⊢
  split
  · rename_i hnone
    have hlen : s.testSuite.definitions.length ≤ s.testSuite.handedOut := by
      unfold TestSuite.nextTextCase at hnone
      rw [TestSuite.definitions, List.length_map]
      by_contra hlt
      rw [if_pos (by omega)] at hnone
      cases hnone
    have hprogress := h.ordered.between (by simp [InTestCase, hpc]) (by simp [hpc])
    rw [definitionsFrom, List.drop_eq_nil_of_le hlen] at hprogress
    rw [hnone] at hordered
    exact ⟨hordered, h.inbox, h.todo, h.exitRtc, h.interrupts, fun _ => hprogress⟩
  · rename_i testSuite hnext
    rw [hnext] at hordered
    exact h.of_eq hordered rfl rfl h.exitRtc rfl (by simp)

/-- A step that nobody disturbs. -/
lemma Quiet.step {file : List Definition} {s s' : Rtc} {e : Event} (h : Quiet file s)
    (hquiet : s.Undisturbed e) (hstep : step s e = some s') : Quiet file s' := by
  have hordered := h.ordered.step hstep
  cases e with
  | send c =>
    obtain rfl := Option.some.inj hstep
    refine ⟨hordered, fun c' hc' => ?_, h.todo, h.exitRtc, h.interrupts, h.done⟩
    rcases List.mem_append.mp hc' with hc' | hc'
    · exact h.inbox c' hc'
    · exact List.mem_singleton.mp hc' ▸ hquiet
  | ctrlC => exact hquiet.elim
  | escape => exact hquiet.elim
  | receive index =>
    obtain ⟨c, -, hc, rfl⟩ := step_receive hstep
    exact h.receive hc hordered
  | act =>
    obtain ⟨a, todo, htodo, rfl⟩ := step_act hstep
    exact h.act htodo hordered
  | exitTest =>
    obtain ⟨hpc, heq⟩ := Option.ite_none_right_eq_some.mp hstep
    obtain rfl := Option.some.inj heq
    exact h.exitTest hpc
  | checkReference o =>
    obtain ⟨-, heq⟩ := Option.ite_none_right_eq_some.mp hstep
    obtain rfl := Option.some.inj heq
    rcases o with _ | reason <;> exact h.of_eq hordered rfl rfl h.exitRtc rfl (by simp [checkReference])
  | finish o =>
    obtain ⟨-, heq⟩ := Option.ite_none_right_eq_some.mp hstep
    obtain rfl := Option.some.inj heq
    refine h.of_eq hordered rfl rfl ?_ rfl (by simp [finish])
    by_cases ho : o = .exitRtc
    · simp [finish, h.exitRtc, hquiet ho]
    · simp [finish, h.exitRtc, ho]
  | interrupt second =>
    obtain ⟨⟨hne, -⟩, -⟩ := Option.ite_none_right_eq_some.mp hstep
    exact absurd h.interrupts hne
  | wake =>
    obtain ⟨hpc, heq⟩ := Option.ite_none_right_eq_some.mp hstep
    obtain rfl := Option.some.inj heq
    exact h.of_eq hordered rfl rfl h.exitRtc rfl (by dsimp only; split_ifs <;> simp)
  | announce =>
    obtain ⟨hpc, heq⟩ := Option.ite_none_right_eq_some.mp hstep
    obtain rfl := Option.some.inj heq
    exact h.of_eq hordered rfl rfl h.exitRtc rfl (by dsimp only; split_ifs <;> simp)
  | clearExitRtc =>
    obtain ⟨-, heq⟩ := Option.ite_none_right_eq_some.mp hstep
    obtain rfl := Option.some.inj heq
    exact h.of_eq hordered rfl rfl rfl rfl (by simp)
  | clearExitTestCase | close | setPaused =>
    obtain ⟨-, heq⟩ := Option.ite_none_right_eq_some.mp hstep
    obtain rfl := Option.some.inj heq
    exact h.of_eq hordered rfl rfl h.exitRtc rfl (by simp [Rtc.close])
  | updateVerdict | setExecutionStatus =>
    obtain ⟨hpc, heq⟩ := Option.ite_none_right_eq_some.mp hstep
    obtain rfl := Option.some.inj heq
    exact h.of_eq hordered rfl rfl h.exitRtc rfl (by simp [hpc])

/-- Blocks of attempts are as long as the definitions allow. -/
lemma forall₂_allowance {done : List Definition} {blocks : List (List Attempt)}
    (h : List.Forall₂ Attempts done blocks) (hdone : ∀ d ∈ done, 0 ≤ d.nofRetries) :
    List.Forall₂ (fun d as => Attempts d as ∧ (as.length : ℤ) ≤ d.nofRetries + 1) done blocks := by
  induction h with
  | nil => exact .nil
  | @cons d as _ _ hblock _ ih =>
    have hnonneg := hdone d List.mem_cons_self
    have hlength := hblock.length_le hnonneg
    refine .cons ⟨hblock, ?_⟩ (ih fun d hd => hdone d (List.mem_cons_of_mem _ hd))
    unfold Definition.allowance at hlength
    omega

/-- **The suite is executed in order.**  In every run, what was done so far are the attempts of the
first test cases of the file in its order, each re-execution directly after the failed attempt that
it repeats, and their number is bounded by the file.  When nobody disturbs the run and the loop has
ended, every test case of the file was executed or skipped, and none was attempted more than once
more than it has retries. -/
theorem suite_inOrder (dbus : Bool) (build : List Char) (file : List Definition)
    (hfile : ∀ d ∈ file, 0 ≤ d.nofRetries) (es : List Event) (s : Rtc)
    (hexec : LabelledSystem.exec step (init dbus build file) es = some s) :
    (∃ pending, Progress file s.history pending) ∧
      s.history.length ≤ (file.map Definition.allowance).sum ∧
      (LabelledSystem.Along step Undisturbed (init dbus build file) es → s.pc = .ended →
        ∃ blocks, s.history = blocks.flatten ∧
          List.Forall₂ (fun d as => Attempts d as ∧ (as.length : ℤ) ≤ d.nofRetries + 1)
            file blocks) := by
  have hordered : Ordered file s :=
    LabelledSystem.exec_of_step (fun _ _ _ h hstep => h.step hstep)
      (ordered_init dbus build file) hexec
  obtain ⟨pending, hprogress⟩ := hordered.progress
  refine ⟨⟨pending, hprogress⟩, hprogress.length_le hfile, fun hquiet hended => ?_⟩
  have hdone : Quiet file s :=
    LabelledSystem.exec_invariant (fun _ _ _ h hC hstep => h.step hC hstep)
      (quiet_init dbus build file) hquiet hexec
  obtain ⟨blocks, hblocks, hhistory⟩ := (hdone.done hended).complete
  exact ⟨blocks, hhistory, forall₂_allowance hblocks hfile⟩

/-- What the main thread does for one test case, up to the end of its phases. -/
def executeTo (o : Outcome) : List Event :=
  [.wake, .exitTest, .clearExitRtc, .clearExitTestCase, .checkReference .allowed, .finish o, .close,
    .announce]

/-- A test case with a retry. -/
def retried : Definition := { Definition.plain "a" with nofRetries := 1 }

/-- The first attempt fails in a BAT instance, and the second succeeds. -/
def retriedOnce : List Event :=
  executeTo (.batError "traffic") ++ executeTo .finished ++ [.wake, .exitTest]

/-- In this run there are two attempts, one after the other. -/
theorem retriedOnce_inOrder :
    ∃ s, LabelledSystem.exec step (init false [] [retried]) retriedOnce = some s ∧
      s.history = [⟨retried, true, true⟩, ⟨retried.retry, true, false⟩] ∧
      ∃ blocks, s.history = blocks.flatten ∧
        List.Forall₂ (fun d as => Attempts d as ∧ (as.length : ℤ) ≤ d.nofRetries + 1)
          [retried] blocks := by
  refine ⟨_, rfl, rfl, ?_⟩
  refine (suite_inOrder false [] [retried] (by decide) retriedOnce _ rfl).2.2 ?_ rfl
  simp only [retriedOnce, executeTo, List.cons_append, List.nil_append]
  iterate 18
    rintro _ ⟨⟩
    refine ⟨by first | trivial | (intro h; cases h), ?_⟩
  trivial

/-- The first test case raises `ExitRtc`. -/
def exitInFirst : List Event := executeTo .exitRtc ++ [.wake, .exitTest]

/-- Nobody gives an order in this run, and the second test case is neither executed nor skipped. -/
theorem exitInFirst_incomplete :
    ∃ s, LabelledSystem.exec step (init false [] [.plain "a", .plain "b"]) exitInFirst = some s ∧
      s.pc = .ended ∧ s.history = [⟨.plain "a", true, false⟩] ∧
      ¬ ∃ blocks, s.history = blocks.flatten ∧
        List.Forall₂ Attempts [.plain "a", .plain "b"] blocks := by
  refine ⟨_, rfl, rfl, rfl, ?_⟩
  rintro ⟨blocks, hhistory, hblocks⟩
  obtain ⟨first, rest, hfirst, hrest, rfl⟩ := List.forall₂_cons_left_iff.mp hblocks
  obtain ⟨second, rest, hsecond, -, rfl⟩ := List.forall₂_cons_left_iff.mp hrest
  obtain ⟨failures, d, executed, -, rfl⟩ := hfirst
  obtain ⟨failures', d', executed', -, rfl⟩ := hsecond
  have hlength : 1 = _ := congrArg List.length hhistory
  simp only [List.flatten_cons, List.length_append, List.length_singleton] at hlength
  omega

end Rtc

end HssRtc
