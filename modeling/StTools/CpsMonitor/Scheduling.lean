import StTools.CpsMonitor.Monitor
import StTools.Lib.LabelledSystem
import Mathlib.Data.List.Chain

/-!
# The steps of the schedule

A step is taken out of its list before its command is acknowledged, so a step whose command gets no
answer is lost.  How long a step lasts is reckoned from `event_time`, which is read only when an average
is written, and forgotten whenever a status without traffic comes.  A step with time 0 is not sent.

`scheduled_iff` says for which runs the acknowledged steps of a phase are the first ones of its list, are
held as long as configured, and none is passed over: the steps that come to their turn must find the
ones before acknowledged and, where the program does not look at the time, held long enough.
-/

namespace CpsMonitor

open ScenarioDeployGenerator (Text)
open LabelledSystem

variable {cfg : Config} {s s' m : Monitor} {c : Pass} {p q : Phase} {step : Step}
  {all : Phase → List Step}

/-! ## The requirement -/

/-- At the time the step has lasted as long as it has to. -/
def Sent.Over (a : Sent) (t : ℕ) : Prop := a.sentAt + a.step.time * 1000000000 ≤ (t : ℤ)

/-- The step was sent in the second for which `event_time` stands. -/
def Sent.Clocked (a : Sent) : Prop := a.eventTime = some (seconds a.sentAt)

instance (a : Sent) (t : ℕ) : Decidable (a.Over t) := inferInstanceAs (Decidable (_ ≤ _))

/-- The part of the variables that the schedule depends on. -/
structure Plan where
  /-- `step_time_stop`. -/
  stepTimeStop : ℤ
  /-- `event_time.tv_sec`, once it is set. -/
  eventTime : Option ℤ
  /-- The monotonic clock. -/
  now : ℕ
  /-- The steps that are left. -/
  steps : Phase → List Step
  /-- The commands of each phase. -/
  sent : Phase → List Sent
  /-- Whether a status without traffic has come since the last acknowledged command. -/
  idled : Phase → Bool
  /-- Whether a step with time 0 had its turn. -/
  passedOver : Phase → Bool

/-- The part of the variables that the schedule depends on. -/
def Monitor.plan (s : Monitor) : Plan where
  stepTimeStop := s.stepTimeStop
  eventTime := s.eventTime
  now := s.now
  steps := s.steps
  sent := s.sent
  idled := s.idled
  passedOver := s.passedOver

/-- What is required of a schedule with these lists of steps. -/
structure Plan.Scheduled (all : Phase → List Step) (x : Plan) : Prop where
  /-- The acknowledged steps of a phase are the first ones of its list. -/
  acknowledged : ∀ p, ((x.sent p).filter Sent.answered).map Sent.step <+: all p
  /-- No step is skipped: none is acknowledged after one that was not. -/
  noneSkipped : ∀ p, (x.sent p).Pairwise fun a b => b.answered = true → a.answered = true
  /-- An acknowledged step is held at least its time before the next one is sent. -/
  held : ∀ p, (x.sent p).IsChain fun a b => a.answered = true → a.Over b.sentAt
  /-- After a step with time 0 no other one is sent. -/
  zeroLast : ∀ p, (x.sent p).Pairwise fun a _ => a.step.time ≠ 0
  /-- A step with time 0 that has its turn is sent. -/
  zeroSent : ∀ p, x.passedOver p = false

/-- What is required of a state. -/
def Monitor.Scheduled (all : Phase → List Step) (s : Monitor) : Prop := s.plan.Scheduled all

/-! ## The condition -/

/-- The phase in which, according to the status, there is traffic. -/
def Pass.runningPhase (c : Pass) : Option Phase :=
  (sendCommand c.status).bind fun answer =>
    if "RUNNING".toList <:+: answer then phaseOf answer else none

/-- At the part about the schedule this step of the phase has its turn. -/
def Monitor.Turn (cfg : Config) (c : Pass) (m : Monitor) (p : Phase) (step : Step) : Prop :=
  cfg.schedulingEnabled = true ∧ c.runningPhase = some p ∧ m.due cfg p = some step

/-- The condition: a step that has its turn does not have time 0; if its command will be acknowledged, those
of the steps before it in the phase were; and the step before it has lasted long enough, if a status
without traffic has come since or if it was not sent in the second of `event_time`. -/
def Timely (cfg : Config) (s : Monitor) : Event → Prop
  | .pass c => s.status ≠ .haveToExit → ∀ m p step, s.measure cfg c = .ok m → m.Turn cfg c p step →
      step.time ≠ 0 ∧ (c.set.text.isSome = true → ∀ a ∈ s.sent p, a.answered = true) ∧
        ∀ a ∈ (s.sent p).getLast?, a.answered = true → s.idled p = true ∨ ¬ a.Clocked →
          a.Over (m.now + c.untilSent)
  | .terminate => True

/-! ## What a step does to the plan -/

/-- Time goes on, and the clock may be read. -/
structure Plan.Advances (x y : Plan) : Prop where
  stepTimeStop : y.stepTimeStop = x.stepTimeStop
  steps : y.steps = x.steps
  sent : y.sent = x.sent
  idled : y.idled = x.idled
  passedOver : y.passedOver = x.passedOver
  now : x.now ≤ y.now
  eventTime : y.eventTime = x.eventTime ∨ y.eventTime = some (seconds y.now)

@[simp] lemma plan_exitMonitor : s.exitMonitor.plan = s.plan := rfl

@[simp] lemma plan_noAnswer : s.noAnswer.plan = s.plan := by
  simp only [Monitor.noAnswer]
  split_ifs <;> rfl

/-- When an average is written the clock is read. -/
lemma advances_average (cfg : Config) (s : Monitor) : s.plan.Advances (s.average cfg).plan := by
  rw [Monitor.average]
  split_ifs
  · exact ⟨rfl, rfl, rfl, rfl, rfl, le_rfl, .inr rfl⟩
  · exact ⟨rfl, rfl, rfl, rfl, rfl, le_rfl, .inl rfl⟩

/-- A state whose plan is that of another one at a later time. -/
lemma advances_of_plan_eq {k : ℕ} (h : m.plan = { s.plan with now := s.now + k }) :
    s.plan.Advances m.plan := by
  rw [h]
  exact ⟨rfl, rfl, rfl, rfl, rfl, Nat.le_add_right _ _, .inl rfl⟩

/-- The part up to the averages lets time go on. -/
lemma advances_measure (cfg : Config) (c : Pass) (s : Monitor) :
    ∃ m, (s.measure cfg c = .error m ∨ s.measure cfg c = .ok m) ∧ s.plan.Advances m.plan := by
  simp only [Monitor.measure]
  cases sendCommand c.target with
  | none => exact ⟨_, .inl rfl, advances_of_plan_eq rfl⟩
  | some target =>
    cases target with
    | nil => exact ⟨_, .inl rfl, advances_of_plan_eq plan_noAnswer⟩
    | cons x target =>
      cases sendCommand c.current with
      | none => exact ⟨_, .inl rfl, advances_of_plan_eq rfl⟩
      | some current =>
        cases current with
        | nil => exact ⟨_, .inl rfl, advances_of_plan_eq plan_noAnswer⟩
        | cons y current =>
          dsimp only
          split_ifs
          · exact ⟨_, .inl rfl, advances_of_plan_eq rfl⟩
          · obtain ⟨hstop, hsteps, hsent, hidled, hpassed, hnow, hevent⟩ :=
              advances_average cfg (Monitor.addCurrent _ _ _)
            exact ⟨_, .inr rfl, hstop, hsteps, hsent, hidled, hpassed,
              (Nat.le_add_right _ _).trans hnow, hevent⟩

/-- What the part about the schedule makes of the plan. -/
inductive Monitor.Schedules (cfg : Config) (c : Pass) (m : Monitor) : Plan → Prop
  /-- No step has its turn. -/
  | quiet (h : ∀ p step, ¬ m.Turn cfg c p step) : Schedules cfg c m m.plan
  /-- There is no traffic. -/
  | idle (h : ∀ p step, ¬ m.Turn cfg c p step) :
      Schedules cfg c m { m.plan with stepTimeStop := 0, idled := fun _ => true }
  /-- A step with time 0 has its turn. -/
  | zero (p : Phase) (step : Step) (h : m.Turn cfg c p step) (htime : step.time = 0) :
      Schedules cfg c m { m.plan with passedOver := Function.update m.passedOver p true }
  /-- A step is sent, and not acknowledged. -/
  | lost (p : Phase) (step : Step) (h : m.Turn cfg c p step) (htime : step.time ≠ 0)
      (hset : c.set.text.isSome = false) : Schedules cfg c m (m.send p step c false).plan
  /-- A step is sent and acknowledged. -/
  | done (p : Phase) (step : Step) (h : m.Turn cfg c p step) (htime : step.time ≠ 0)
      (hset : c.set.text.isSome = true) :
      Schedules cfg c m ((m.send p step c true).hold cfg p step).plan

/-- A phase that is running has its turn. -/
lemma schedules_takeTurn (henabled : cfg.schedulingEnabled = true) (hp : c.runningPhase = some p) :
    m.Schedules cfg c (m.takeTurn cfg c p).plan := by
  rw [Monitor.takeTurn]
  cases hdue : m.due cfg p with
  | none =>
    refine .quiet ?_
    rintro q step ⟨-, hq, hstep⟩
    cases Option.some.inj (hp.symm.trans hq)
    exact nomatch hdue.symm.trans hstep
  | some step =>
    have hturn : m.Turn cfg c p step := ⟨henabled, hp, hdue⟩
    dsimp only
    split_ifs with htime
    · exact .zero p step hturn htime
    · cases hset : sendCommand c.set with
      | none =>
        have htext : c.set.text.isSome = false := by rw [Answer.text, hset]; rfl
        exact .lost p step hturn htime htext
      | some answer =>
        cases answer with
        | nil =>
          have htext : c.set.text.isSome = false := by rw [Answer.text, hset]; rfl
          dsimp only
          rw [plan_noAnswer]
          exact .lost p step hturn htime htext
        | cons x answer =>
          have htext : c.set.text.isSome = true := by rw [Answer.text, hset]; rfl
          exact .done p step hturn htime htext

/-- Without a running phase no step has its turn. -/
lemma no_turn (hp : c.runningPhase = none) : ∀ p step, ¬ m.Turn cfg c p step :=
  fun _ _ h => nomatch hp.symm.trans h.2.1

/-- The part about the schedule. -/
lemma schedules_schedule (henabled : cfg.schedulingEnabled = true) :
    m.Schedules cfg c (m.schedule cfg c).plan := by
  rw [Monitor.schedule]
  cases hstatus : sendCommand c.status with
  | none =>
    refine .quiet (no_turn ?_)
    rw [Pass.runningPhase, hstatus, Option.bind_none]
  | some answer =>
    have hrunning : c.runningPhase =
        if "RUNNING".toList <:+: answer then phaseOf answer else none := by
      rw [Pass.runningPhase, hstatus, Option.bind_some]
    dsimp only
    split_ifs with htraffic
    · rw [if_pos htraffic] at hrunning
      cases hphase : phaseOf answer with
      | none => exact .quiet (no_turn (hrunning.trans hphase))
      | some p => exact schedules_takeTurn henabled (hrunning.trans hphase)
    · rw [if_neg htraffic] at hrunning
      exact .idle (no_turn hrunning)

/-- What a pass makes of the plan: time goes on up to the averages, where the pass may end, and the
schedule follows. -/
lemma pass_cases (cfg : Config) (c : Pass) (s : Monitor) :
    ∃ m, s.plan.Advances m.plan ∧
      ((s.measure cfg c = .error m ∧ (s.pass cfg c).plan = m.plan) ∨
        s.measure cfg c = .ok m ∧
          ∃ x, m.Schedules cfg c x ∧ (s.pass cfg c).plan = { x with now := x.now + c.untilSent }) := by
  obtain ⟨m, hm | hm, hadvances⟩ := advances_measure cfg c s
  · exact ⟨m, hadvances, .inl ⟨hm, by rw [Monitor.pass, hm]⟩⟩
  · refine ⟨m, hadvances, .inr ⟨hm, ?_⟩⟩
    by_cases henabled : cfg.schedulingEnabled = true
    · refine ⟨_, schedules_schedule henabled, ?_⟩
      rw [Monitor.pass, hm]
      dsimp only
      rw [if_pos henabled]
      rfl
    · refine ⟨m.plan, .quiet fun _ _ h => henabled h.1, ?_⟩
      rw [Monitor.pass, hm]
      dsimp only
      rw [if_neg henabled]
      rfl

/-! ## The invariant -/

/-- What every step keeps: the steps of a list are the ones that were sent and those that are left, no
step with time 0 was sent, the clock is not ahead of itself, and a step that was sent in the second of
`event_time` is not followed before its time is over, unless the traffic has stopped. -/
structure Plan.Inv (all : Phase → List Step) (x : Plan) : Prop where
  parts : ∀ p, (x.sent p).map Sent.step ++ x.steps p = all p
  nonzero : ∀ p, ∀ a ∈ x.sent p, a.step.time ≠ 0
  clock : ∀ t ∈ x.eventTime, t ≤ seconds x.now
  read : ∀ p, ∀ a ∈ (x.sent p).getLast?, a.Clocked → x.eventTime ≠ none
  stop : ∀ p, ∀ a ∈ (x.sent p).getLast?, a.answered = true → a.Clocked → x.idled p = false →
    seconds a.sentAt + a.step.time ≤ x.stepTimeStop ∨ a.Over x.now

/-- What has lasted long enough has so later on. -/
lemma Sent.Over.mono {a : Sent} {t u : ℕ} (h : a.Over t) (htu : t ≤ u) : a.Over u :=
  Int.le_trans h (Int.ofNat_le.mpr htu)

/-- Seconds do not run backwards. -/
lemma seconds_mono {t u : ℕ} (h : t ≤ u) : seconds t ≤ seconds u :=
  Int.ofNat_le.mpr (Nat.div_le_div_right h)

namespace Plan.Inv

variable {x y : Plan}

lemma advance (h : x.Inv all) (hxy : x.Advances y) : y.Inv all where
  parts := by
    rw [hxy.sent, hxy.steps]
    exact h.parts
  nonzero := by
    rw [hxy.sent]
    exact h.nonzero
  clock := by
    intro t ht
    rcases hxy.eventTime with htime | htime
    · rw [htime] at ht
      exact Int.le_trans (h.clock t ht) (seconds_mono hxy.now)
    · rw [htime] at ht
      exact Int.le_of_eq (Option.some.inj ht).symm
  read := by
    intro p a ha hclocked
    rw [hxy.sent] at ha
    rcases hxy.eventTime with htime | htime
    · rw [htime]
      exact h.read p a ha hclocked
    · rw [htime]
      exact Option.some_ne_none _
  stop := by
    intro p a ha hanswered hclocked hidled
    rw [hxy.sent] at ha
    rw [hxy.idled] at hidled
    rw [hxy.stepTimeStop]
    exact (h.stop p a ha hanswered hclocked hidled).imp_right fun hover => hover.mono hxy.now

/-- When there is no traffic, nothing is promised about the last commands. -/
lemma idle (h : x.Inv all) : { x with stepTimeStop := 0, idled := fun _ => true : Plan }.Inv all where
  parts := h.parts
  nonzero := h.nonzero
  clock := h.clock
  read := h.read
  stop := fun _ _ _ _ _ hidled => nomatch hidled

/-- The last acknowledged command is over when another step is due. -/
lemma over_of_due (h : m.plan.Inv all) (hdue : m.due cfg q = some step) {a : Sent}
    (ha : a ∈ (m.sent p).getLast?) (hanswered : a.answered = true) (hclocked : a.Clocked)
    (hidled : m.idled p = false) : a.Over m.now := by
  rcases h.stop p a ha hanswered hclocked hidled with hstop | hover
  · rw [Monitor.due] at hdue
    cases htime : m.eventTime with
    | none => exact absurd htime (h.read p a ha hclocked)
    | some t =>
      have hguard : m.stepTimeStop < t := by
        by_contra hnot
        rw [htime, Option.getD_some, if_neg hnot] at hdue
        nomatch hdue
      have hnow : t ≤ seconds m.now := h.clock t htime
      have hbound : seconds a.sentAt + a.step.time < seconds m.now :=
        Int.lt_of_lt_of_le (Int.lt_of_le_of_lt hstop hguard) hnow
      simp only [seconds] at hbound
      simp only [Sent.Over]
      omega
  · exact hover

/-- The step that is due is the first one of its list. -/
lemma steps_of_due (hdue : m.due cfg p = some step) : m.steps p = step :: (m.steps p).tail := by
  rw [Monitor.due] at hdue
  split_ifs at hdue
  exact (List.cons_head?_tail hdue).symm

/-- The parts of a list when the step that is due is sent. -/
lemma parts_send (h : m.plan.Inv all) (hdue : m.due cfg p = some step) (b : Bool) (q : Phase) :
    ((m.send p step c b).sent q).map Sent.step ++ (m.send p step c b).steps q = all q := by
  by_cases hq : q = p
  · subst hq
    have hparts : (m.sent q).map Sent.step ++ m.steps q = all q := h.parts q
    rw [steps_of_due hdue] at hparts
    simp only [Monitor.send, Function.update_self, List.map_append, List.map_cons, List.map_nil,
      List.append_assoc, List.singleton_append]
    exact hparts
  · simp only [Monitor.send, Function.update_of_ne hq]
    exact h.parts q

lemma nonzero_send (h : m.plan.Inv all) (htime : step.time ≠ 0) (b : Bool) :
    ∀ q, ∀ a ∈ (m.send p step c b).sent q, a.step.time ≠ 0 := by
  intro q a ha
  by_cases hq : q = p
  · subst hq
    simp only [Monitor.send, Function.update_self] at ha
    rcases List.mem_append.mp ha with ha | ha
    · exact h.nonzero q a ha
    · cases List.mem_singleton.mp ha
      exact htime
  · simp only [Monitor.send, Function.update_of_ne hq] at ha
    exact h.nonzero q a ha

/-- The last command of a phase is the one that was just sent, or it was the last one before. -/
lemma last_send {b : Bool} {a : Sent} (ha : a ∈ ((m.send p step c b).sent q).getLast?) :
    q = p ∧ a = ⟨step, m.now + c.untilSent, b, m.eventTime⟩ ∨ q ≠ p ∧ a ∈ (m.sent q).getLast? := by
  by_cases hq : q = p
  · subst hq
    simp only [Monitor.send, Function.update_self, List.getLast?_append, List.getLast?_singleton,
      Option.some_or] at ha
    exact .inl ⟨rfl, (Option.some.inj ha).symm⟩
  · simp only [Monitor.send, Function.update_of_ne hq] at ha
    exact .inr ⟨hq, ha⟩

lemma read_send (h : m.plan.Inv all) (b : Bool) :
    ∀ q, ∀ a ∈ ((m.send p step c b).sent q).getLast?, a.Clocked → m.eventTime ≠ none := by
  intro q a ha hclocked
  rcases last_send ha with ⟨-, rfl⟩ | ⟨-, ha⟩
  · have hevent : m.eventTime = some (seconds (m.now + c.untilSent)) := hclocked
    rw [hevent]
    exact Option.some_ne_none _
  · exact h.read q a ha hclocked

/-- A command without an answer. -/
lemma lost (h : m.plan.Inv all) (hdue : m.due cfg p = some step) (htime : step.time ≠ 0) :
    (m.send p step c false).plan.Inv all where
  parts := parts_send h hdue false
  nonzero := nonzero_send h htime false
  clock := h.clock
  read := read_send h false
  stop := by
    intro q a ha hanswered hclocked hidled
    rcases last_send ha with ⟨-, rfl⟩ | ⟨-, ha⟩
    · nomatch hanswered
    · exact h.stop q a ha hanswered hclocked hidled

/-- An acknowledged command. -/
lemma done (h : m.plan.Inv all) (hdue : m.due cfg p = some step) (htime : step.time ≠ 0) :
    ((m.send p step c true).hold cfg p step).plan.Inv all where
  parts := parts_send h hdue true
  nonzero := nonzero_send h htime true
  clock := h.clock
  read := read_send h true
  stop := by
    intro q a ha hanswered hclocked hidled
    rcases last_send ha with ⟨rfl, rfl⟩ | ⟨hq, ha⟩
    · have hevent : m.eventTime = some (seconds (m.now + c.untilSent)) := hclocked
      left
      change seconds (m.now + c.untilSent) + step.time ≤ m.eventTime.getD cfg.unsetTime + step.time
      rw [hevent]
      exact Int.le_refl _
    · have hkeeps : m.idled q = false := by
        rw [← hidled]
        exact (Function.update_of_ne hq _ _).symm
      exact .inr (over_of_due h hdue ha hanswered hclocked hkeeps)

/-- The schedule keeps the invariant. -/
lemma schedules (h : m.plan.Inv all) (hx : m.Schedules cfg c x) : x.Inv all := by
  cases hx with
  | quiet => exact h
  | idle => exact h.idle
  | zero => exact ⟨h.parts, h.nonzero, h.clock, h.read, h.stop⟩
  | lost p step hturn htime => exact h.lost hturn.2.2 htime
  | done p step hturn htime => exact h.done hturn.2.2 htime

/-- Time goes on. -/
lemma wait (h : x.Inv all) (k : ℕ) : { x with now := x.now + k : Plan }.Inv all :=
  h.advance ⟨rfl, rfl, rfl, rfl, rfl, Nat.le_add_right _ _, .inl rfl⟩

/-- A pass keeps the invariant. -/
lemma pass (h : s.plan.Inv all) (c : Pass) : (s.pass cfg c).plan.Inv all := by
  obtain ⟨m, hadvances, ⟨-, hplan⟩ | ⟨-, x, hx, hplan⟩⟩ := pass_cases cfg c s
  · rw [hplan]
    exact h.advance hadvances
  · rw [hplan]
    exact ((h.advance hadvances).schedules hx).wait _

end Plan.Inv

/-- Every step keeps the invariant. -/
lemma inv_step {e : Event} (h : s.plan.Inv all) (hstep : CpsMonitor.step cfg s e = some s') :
    s'.plan.Inv all := by
  cases e with
  | pass c =>
    simp only [CpsMonitor.step] at hstep
    split_ifs at hstep
    · cases hstep
      exact h
    · cases hstep
      exact h.pass c
  | terminate =>
    simp only [CpsMonitor.step] at hstep
    split_ifs at hstep
    cases hstep
    exact h

/-! ## What a step does to the requirement -/

/-- When no command is acknowledged after one that was not, the acknowledged ones are the first. -/
lemma filter_initial {l : List Sent} (h : l.Pairwise fun a b => b.answered = true → a.answered = true) :
    l.filter Sent.answered <+: l := by
  induction h with
  | nil => exact List.prefix_refl _
  | @cons a l hhead _ ih =>
    cases ha : a.answered with
    | true =>
      rw [List.filter_cons_of_pos ha]
      exact List.cons_prefix_cons.mpr ⟨rfl, ih⟩
    | false =>
      have hnone : (a :: l).filter Sent.answered = [] := by
        rw [List.filter_eq_nil_iff]
        intro b hb hanswered
        rcases List.mem_cons.mp hb with rfl | hb
        · exact nomatch ha.symm.trans hanswered
        · exact nomatch ha.symm.trans (hhead b hb hanswered)
      rw [hnone]
      exact List.nil_prefix

/-- With the invariant there is less to show. -/
lemma scheduled_iff_of_inv {x : Plan} (h : x.Inv all) :
    x.Scheduled all ↔
      (∀ p, (x.sent p).Pairwise fun a b => b.answered = true → a.answered = true) ∧
        (∀ p, (x.sent p).IsChain fun a b => a.answered = true → a.Over b.sentAt) ∧
          ∀ p, x.passedOver p = false := by
  constructor
  · intro hx
    exact ⟨hx.noneSkipped, hx.held, hx.zeroSent⟩
  · rintro ⟨hnone, hheld, hzero⟩
    refine ⟨fun p => ?_, hnone, hheld, fun p => ?_, hzero⟩
    · have hsent : (x.sent p).map Sent.step <+: all p := ⟨x.steps p, h.parts p⟩
      exact ((filter_initial (hnone p)).map Sent.step).trans hsent
    · exact List.pairwise_of_forall_mem_list fun a ha _ _ => h.nonzero p a ha

/-- What was required and is left as it was. -/
lemma scheduled_congr {x y : Plan} (hx : x.Inv all) (hy : y.Inv all) (hsent : y.sent = x.sent)
    (hpassed : y.passedOver = x.passedOver) : y.Scheduled all ↔ x.Scheduled all := by
  rw [scheduled_iff_of_inv hx, scheduled_iff_of_inv hy, hsent, hpassed]

/-- When a step is sent, the requirement is kept exactly when the commands before were acknowledged, if
this one is, and the last one is over, if it was acknowledged. -/
lemma scheduled_send_iff {b : Bool} {x : Plan} (hx : x.Inv all)
    (hs : m.plan.Scheduled all) (hsent : x.sent = (m.send p step c b).sent)
    (hpassed : x.passedOver = m.passedOver) :
    x.Scheduled all ↔ (b = true → ∀ a ∈ m.sent p, a.answered = true) ∧
      ∀ a ∈ (m.sent p).getLast?, a.answered = true → a.Over (m.now + c.untilSent) := by
  rw [scheduled_iff_of_inv hx, hsent, hpassed]
  constructor
  · rintro ⟨hnone, hheld, -⟩
    have hnone' := hnone p
    have hheld' := hheld p
    simp only [Monitor.send, Function.update_self] at hnone' hheld'
    refine ⟨fun hb a ha => ?_, fun a ha => ?_⟩
    · exact (List.pairwise_append.mp hnone').2.2 a ha _ (List.mem_singleton_self _) hb
    · exact (List.isChain_append.mp hheld').2.2 a ha _ rfl
  · rintro ⟨hanswered, hover⟩
    refine ⟨fun q => ?_, fun q => ?_, hs.zeroSent⟩
    · by_cases hq : q = p
      · subst hq
        simp only [Monitor.send, Function.update_self]
        refine List.pairwise_append.mpr ⟨hs.noneSkipped q, List.pairwise_singleton _ _, ?_⟩
        intro a ha d hd hd'
        cases List.mem_singleton.mp hd
        exact hanswered hd' a ha
      · simp only [Monitor.send, Function.update_of_ne hq]
        exact hs.noneSkipped q
    · by_cases hq : q = p
      · subst hq
        simp only [Monitor.send, Function.update_self]
        refine (hs.held q).append (List.isChain_singleton _) ?_
        intro a ha d hd
        cases Option.some.inj hd
        exact hover a ha
      · simp only [Monitor.send, Function.update_of_ne hq]
        exact hs.held q

/-- The condition, when a step has its turn. -/
lemma timely_iff_of_turn (hstatus : s.status ≠ .haveToExit) (hm : s.measure cfg c = .ok m)
    (hturn : m.Turn cfg c p step) :
    Timely cfg s (.pass c) ↔
      step.time ≠ 0 ∧ (c.set.text.isSome = true → ∀ a ∈ s.sent p, a.answered = true) ∧
        ∀ a ∈ (s.sent p).getLast?, a.answered = true → s.idled p = true ∨ ¬ a.Clocked →
          a.Over (m.now + c.untilSent) := by
  constructor
  · intro h
    exact h hstatus m p step hm hturn
  · intro h _ m' p' step' hm' hturn'
    cases hm.symm.trans hm'
    cases Option.some.inj (hturn.2.1.symm.trans hturn'.2.1)
    cases Option.some.inj (hturn.2.2.symm.trans hturn'.2.2)
    exact h

/-- Without a turn the condition is met. -/
lemma timely_of_no_turn (h : ∀ m p step, s.measure cfg c = .ok m → ¬ m.Turn cfg c p step) :
    Timely cfg s (.pass c) :=
  fun _ m p step hm hturn => absurd hturn (h m p step hm)

/-- The part about the schedule keeps the requirement exactly when the condition is met. -/
lemma scheduled_schedules_iff {x : Plan} (hstatus : s.status ≠ .haveToExit)
    (hm : s.measure cfg c = .ok m) (hadvances : s.plan.Advances m.plan) (hinv : m.plan.Inv all)
    (hs : m.plan.Scheduled all) (hx : m.Schedules cfg c x) :
    x.Scheduled all ↔ Timely cfg s (.pass c) := by
  have hxinv : x.Inv all := hinv.schedules hx
  have hsent : m.sent = s.sent := hadvances.sent
  have hidled : m.idled = s.idled := hadvances.idled
  -- Where the program looks at the time, the guard says that the command is over.
  have hguard : ∀ {p step}, m.Turn cfg c p step → (∀ a ∈ (m.sent p).getLast?, a.answered = true →
      m.idled p = true ∨ ¬ a.Clocked → a.Over (m.now + c.untilSent)) →
      ∀ a ∈ (m.sent p).getLast?, a.answered = true → a.Over (m.now + c.untilSent) := by
    intro p step hturn h a ha hanswered
    by_cases hlook : m.idled p = true ∨ ¬ a.Clocked
    · exact h a ha hanswered hlook
    · rw [not_or, Bool.not_eq_true, not_not] at hlook
      exact (hinv.over_of_due hturn.2.2 ha hanswered hlook.2 hlook.1).mono (Nat.le_add_right _ _)
  cases hx with
  | quiet hnone =>
    refine iff_of_true hs (timely_of_no_turn ?_)
    intro m' p step hm' hturn
    cases hm.symm.trans hm'
    exact hnone p step hturn
  | idle hnone =>
    refine iff_of_true ((scheduled_congr hinv hxinv rfl rfl).mpr hs) (timely_of_no_turn ?_)
    intro m' p step hm' hturn
    cases hm.symm.trans hm'
    exact hnone p step hturn
  | zero p step hturn htime =>
    rw [timely_iff_of_turn hstatus hm hturn]
    refine iff_of_false (fun h => ?_) fun h => h.1 htime
    have hpassed : Function.update m.passedOver p true p = false := h.zeroSent p
    rw [Function.update_self] at hpassed
    nomatch hpassed
  | lost p step hturn htime hset =>
    rw [timely_iff_of_turn hstatus hm hturn, scheduled_send_iff hxinv hs rfl rfl, ← hsent,
      ← hidled, hset]
    refine ⟨fun h => ⟨htime, h.1, fun a ha hanswered _ => h.2 a ha hanswered⟩, fun h => ?_⟩
    exact ⟨h.2.1, hguard hturn h.2.2⟩
  | done p step hturn htime hset =>
    rw [timely_iff_of_turn hstatus hm hturn, scheduled_send_iff hxinv hs rfl rfl, ← hsent,
      ← hidled, hset]
    refine ⟨fun h => ⟨htime, h.1, fun a ha hanswered _ => h.2 a ha hanswered⟩, fun h => ?_⟩
    exact ⟨h.2.1, hguard hturn h.2.2⟩

/-- A pass keeps the requirement exactly when it meets the condition. -/
lemma scheduled_pass_iff (hinv : s.plan.Inv all) (hs : s.Scheduled all)
    (hstatus : s.status ≠ .haveToExit) :
    (s.pass cfg c).Scheduled all ↔ Timely cfg s (.pass c) := by
  obtain ⟨m, hadvances, ⟨hm, hplan⟩ | ⟨hm, x, hx, hplan⟩⟩ := pass_cases cfg c s
  · rw [Monitor.Scheduled, hplan]
    have hkeeps : m.plan.Scheduled all :=
      (scheduled_congr hinv (hinv.advance hadvances) hadvances.sent hadvances.passedOver).mpr hs
    refine iff_of_true hkeeps (timely_of_no_turn ?_)
    intro m' p step hm'
    nomatch hm.symm.trans hm'
  · have hminv : m.plan.Inv all := hinv.advance hadvances
    have hms : m.plan.Scheduled all :=
      (scheduled_congr hinv hminv hadvances.sent hadvances.passedOver).mpr hs
    have hxinv : x.Inv all := hminv.schedules hx
    rw [Monitor.Scheduled, hplan, scheduled_congr hxinv (hxinv.wait _) rfl rfl]
    exact scheduled_schedules_iff hstatus hm hadvances hminv hms hx

/-- A step keeps the requirement exactly when it meets the condition. -/
lemma scheduled_step_iff {e : Event} (hinv : s.plan.Inv all) (hs : s.Scheduled all)
    (hstep : CpsMonitor.step cfg s e = some s') : s'.Scheduled all ↔ Timely cfg s e := by
  cases e with
  | pass c =>
    simp only [CpsMonitor.step] at hstep
    split_ifs at hstep with _ hstatus
    · cases hstep
      exact iff_of_true hs fun h => absurd hstatus h
    · cases hstep
      exact scheduled_pass_iff hinv hs hstatus
  | terminate =>
    simp only [CpsMonitor.step] at hstep
    split_ifs at hstep
    cases hstep
    exact iff_of_true hs trivial

/-- Before the loop nothing has been sent. -/
lemma inv_init (cfg : Config) (all : Phase → List Step) : (init cfg all).plan.Inv all where
  parts := fun _ => rfl
  nonzero := fun _ _ ha => nomatch ha
  clock := fun _ ht => nomatch ht
  read := fun _ _ ha => nomatch ha
  stop := fun _ _ ha => nomatch ha

/-- In every run, the acknowledged steps of each phase are the first ones of its list with none
skipped, each is held at least its time before the next is sent, and a step with time 0 is sent as the
last one, exactly when every step that has its turn meets the condition. -/
theorem scheduled_iff (cfg : Config) (all : Phase → List Step) (es : List Event) :
    Throughout (CpsMonitor.step cfg) (Monitor.Scheduled all) (init cfg all) es ↔
      Along (CpsMonitor.step cfg) (Timely cfg) (init cfg all) es := by
  refine throughout_iff_along (I := fun s : Monitor => s.plan.Inv all ∧ s.Scheduled all) ?_
    (fun _ h => h.2) ?_ ?_
  · rintro s e s' ⟨hinv, hs⟩ hC hstep
    exact ⟨inv_step hinv hstep, (scheduled_step_iff hinv hs hstep).mpr hC⟩
  · rintro s e s' ⟨hinv, hs⟩ hC hstep hgood
    exact hC ((scheduled_step_iff hinv hs hstep).mp hgood)
  · refine ⟨inv_init cfg all, (scheduled_iff_of_inv (inv_init cfg all)).mpr ?_⟩
    exact ⟨fun _ => List.Pairwise.nil, fun _ => List.isChain_nil, fun _ => rfl⟩

/-! ## Runs that break the schedule -/

/-- A configuration with a schedule, and an average after so many passes. -/
def scheduling (scan : ℤ) : Config where
  scan := scan
  refreshTime := 0
  schedulingEnabled := true
  startTime := 0
  unsetTime := 0

/-- The steps of the load generation, and none in other phases. -/
def loadSteps (steps : List Step) : Phase → List Step
  | .pre => []
  | .load => steps
  | .post => []

/-- A pass with both rates and these answers to the other commands; the clock is read so many seconds after
the pass before. -/
def traffic (wait : ℕ) (status set : Answer) : Event :=
  .pass {
    target := .datagram ['1']
    current := .datagram ['1']
    displayStarts := true
    untilRead := wait * 1000000000
    status := status
    untilSent := 0
    set := set }

/-- An answer that says that the load is running. -/
def loadRunning : Answer := .datagram "RUNNING loadgen".toList

/-- An answer that says that nothing is running. -/
def notRunning : Answer := .datagram "IDLE".toList

/-- An acknowledgement. -/
def acknowledged : Answer := .datagram ['o', 'k']

/-- The first command gets no answer, for which the program waits five seconds, the second one does. -/
def lostRun : List Event := [traffic 2 loadRunning .missing, traffic 7 loadRunning acknowledged]

/-- With an average after two passes, the load starts to run in the third one. -/
def staleRun : List Event :=
  [traffic 2 notRunning acknowledged, traffic 2 notRunning acknowledged,
    traffic 2 loadRunning acknowledged, traffic 2 loadRunning acknowledged]

/-- The only command that is acknowledged is the second one. -/
lemma lostRun_sent :
    (exec (CpsMonitor.step (scheduling 1)) (init (scheduling 1) (loadSteps [⟨100, 200⟩, ⟨100, 250⟩]))
      lostRun).map (fun s => ((s.sent .load).filter Sent.answered).map Sent.step) =
        some [⟨100, 250⟩] := by
  decide +kernel

/-- A step of three seconds is followed after two, since it is reckoned from the average before. -/
lemma staleRun_sent :
    (exec (CpsMonitor.step (scheduling 2)) (init (scheduling 2) (loadSteps [⟨3, 200⟩, ⟨100, 250⟩]))
      staleRun).map (fun s => s.sent .load) =
        some [⟨⟨3, 200⟩, 6000000000, true, some 4⟩, ⟨⟨100, 250⟩, 8000000000, true, some 8⟩] := by
  decide +kernel

/-- A step with time 0 is not sent. -/
lemma zeroRun_passedOver :
    (exec (CpsMonitor.step (scheduling 1)) (init (scheduling 1) (loadSteps [⟨0, 200⟩]))
      lostRun).map (fun s => s.passedOver .load) = some true := by
  decide +kernel

/-- A step whose command gets no answer is skipped, a step may be followed too early, and a step with
time 0 is not sent. -/
theorem steps_not_scheduled :
    ¬ Throughout (CpsMonitor.step (scheduling 1)) (Monitor.Scheduled (loadSteps [⟨100, 200⟩, ⟨100, 250⟩]))
        (init (scheduling 1) (loadSteps [⟨100, 200⟩, ⟨100, 250⟩])) lostRun ∧
      ¬ Throughout (CpsMonitor.step (scheduling 2)) (Monitor.Scheduled (loadSteps [⟨3, 200⟩, ⟨100, 250⟩]))
        (init (scheduling 2) (loadSteps [⟨3, 200⟩, ⟨100, 250⟩])) staleRun ∧
      ¬ Throughout (CpsMonitor.step (scheduling 1)) (Monitor.Scheduled (loadSteps [⟨0, 200⟩]))
        (init (scheduling 1) (loadSteps [⟨0, 200⟩])) lostRun := by
  refine ⟨fun h => ?_, fun h => ?_, fun h => ?_⟩
  · obtain ⟨s, hexec, hsent⟩ := Option.map_eq_some_iff.mp lostRun_sent
    have hprefix := (h.last hexec).acknowledged .load
    change ((s.sent .load).filter Sent.answered).map Sent.step <+: _ at hprefix
    rw [hsent] at hprefix
    exact absurd hprefix (by decide)
  · obtain ⟨s, hexec, hsent⟩ := Option.map_eq_some_iff.mp staleRun_sent
    have hheld := (h.last hexec).held .load
    change (s.sent .load).IsChain _ at hheld
    rw [hsent] at hheld
    exact absurd ((List.isChain_cons_cons.mp hheld).1 rfl) (by decide)
  · obtain ⟨s, hexec, hpassed⟩ := Option.map_eq_some_iff.mp zeroRun_passedOver
    have hsent : s.passedOver .load = false := (h.last hexec).zeroSent .load
    exact nomatch hpassed.symm.trans hsent

end CpsMonitor
