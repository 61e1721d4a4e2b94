import StTools.HssRtc.LoadMonitor
import StTools.Lib.LabelledSystem
import Mathlib.Data.List.Chain
import Mathlib.Tactic.Linarith

/-!
# The latency reports of the DiaProxys

The handler of the DiaProxys takes samples of the latency: it starts a report, stops it after the
configured time and waits before the next one.  Each poll takes the time since `last_action_time` off
the time for the next action.

The commands alternate and there are no more samples than configured, whatever happens
(`throughout_orderly`).  The time for the next action is right as long as every poll without an action
moves `last_action_time` to the clock it has read: a poll that finds the load neither stable nor lost
leaves `last_action_time` where it is, and the same time is taken off once more.  `onTime_iff` says in
which runs the samples have their length.
-/

namespace HssRtc

/-! ## The state -/

/-- The orders of a report. -/
inductive LatencyAction
  | start
  | stop
  deriving DecidableEq

/-- The configuration of the latency reports. -/
structure LatencyConfig where
  samples : ℕ
  time : ℚ
  wait : ℚ
  onlyWhenLoadStable : Bool
  targetLoad : ℤ
  stopLoadgenWhenFinish : Bool

/-- What a poll reads. -/
structure LatencyPoll where
  /-- `load_status` of the load monitor; `none` stands for `UNDEFINED`. -/
  loadStatus : Option LoadState
  /-- `target_load` of the load monitor. -/
  targetLoad : ℤ
  /-- The clock when the elapsed time is taken off. -/
  now : ℚ
  /-- The clock when `last_action_time` is set. -/
  later : ℚ

/-- The state of the latency reports. -/
structure LatencyReports where
  lastActionTime : ℚ
  timeForNextAction : ℚ
  nextAction : LatencyAction
  sampleIndex : ℤ
  pendingSamples : ℕ
  /-- The faulty samples. -/
  faulty : List ℤ
  /-- The end of the phase has been requested. -/
  stopPhase : Bool
  /-- The commands that were sent. -/
  commands : List LatencyAction
  /-- Ghost: to what the time for the next action was set. -/
  interval : ℚ
  /-- Ghost: when it was set. -/
  setAt : ℚ
  /-- Ghost: the samples that were not stopped because the load got lost. -/
  finished : ℕ

namespace LatencyReports

/-- The thread begins at the time `t`. -/
def init (c : LatencyConfig) (t : ℚ) : LatencyReports where
  lastActionTime := t
  timeForNextAction := 30
  nextAction := .start
  sampleIndex := -1
  pendingSamples := c.samples
  faulty := []
  stopPhase := false
  commands := []
  interval := 30
  setAt := t
  finished := 0

/-- `is_load_stable`. -/
def isLoadStable (c : LatencyConfig) (p : LatencyPoll) : Bool :=
  if c.onlyWhenLoadStable then p.loadStatus = some .stable ∧ p.targetLoad = c.targetLoad else true

/-- `is_load_not_stable`. -/
def isLoadNotStable (c : LatencyConfig) (p : LatencyPoll) : Bool :=
  if c.onlyWhenLoadStable then p.loadStatus = some .notStable else false

/-- The next action takes place. -/
def act (c : LatencyConfig) (s : LatencyReports) (p : LatencyPoll) : LatencyReports :=
  match s.nextAction with
  | .start =>
    { s with
      sampleIndex := s.sampleIndex + 1
      commands := s.commands ++ [.start]
      lastActionTime := p.later
      timeForNextAction := c.time
      nextAction := .stop
      interval := c.time
      setAt := p.later }
  | .stop =>
    { s with
      commands := s.commands ++ [.stop]
      lastActionTime := p.later
      pendingSamples := s.pendingSamples - 1
      timeForNextAction := c.wait
      nextAction := .start
      interval := c.wait
      setAt := p.later
      finished := s.finished + 1 }

/-- The load got lost during a sample. -/
def abandon (c : LatencyConfig) (s : LatencyReports) (p : LatencyPoll) : LatencyReports :=
  { s with
    commands := s.commands ++ [.stop]
    faulty := s.faulty ++ [s.sampleIndex]
    lastActionTime := p.later
    timeForNextAction := c.wait
    nextAction := .start
    interval := c.wait
    setAt := p.later }

/-- The time since `last_action_time` is taken off. -/
def elapse (s : LatencyReports) (p : LatencyPoll) : LatencyReports :=
  { s with timeForNextAction := s.timeForNextAction - (p.now - s.lastActionTime) }

/-- One round of the loop in `run`. -/
def poll (c : LatencyConfig) (s : LatencyReports) (p : LatencyPoll) : LatencyReports :=
  if 0 < s.pendingSamples then
    if isLoadStable c p then
      if (s.elapse p).timeForNextAction < 0 then (s.elapse p).act c p
      else { s.elapse p with lastActionTime := p.later }
    else if isLoadNotStable c p ∧ s.nextAction = .stop then (s.elapse p).abandon c p
    else s.elapse p
  else { s with stopPhase := s.stopPhase || c.stopLoadgenWhenFinish }

/-- One step. -/
def step (c : LatencyConfig) (s : LatencyReports) (p : LatencyPoll) : Option LatencyReports :=
  some (s.poll c p)

/-! ## The properties -/

/-- The commands alternate, beginning with a start, and the samples are not too many. -/
structure Orderly (c : LatencyConfig) (s : LatencyReports) : Prop where
  alternate : s.commands.IsChain (· ≠ ·)
  startFirst : ∀ a ∈ s.commands.head?, a = LatencyAction.start
  bounded : s.finished ≤ c.samples

/-- At a poll the time for the next action is what is left of its interval, and a stop that is not
due to a lost load is sent exactly with a stable load after the time of the sample. -/
structure SampleOnTime (c : LatencyConfig) (s : LatencyReports) (p : LatencyPoll) : Prop where
  timer : (s.elapse p).timeForNextAction = s.interval - (p.now - s.setAt)
  stop : s.nextAction = .stop → isLoadNotStable c p = false →
    ((s.poll c p).commands = s.commands ++ [.stop] ↔ isLoadStable c p ∧ c.time < p.now - s.setAt)

/-- The samples have their length, as far as there are any. -/
def OnTime (c : LatencyConfig) (s : LatencyReports) (p : LatencyPoll) : Prop :=
  0 < s.pendingSamples → SampleOnTime c s p

/-- A poll that finds the load stable before the time for the next action reads the same clock twice,
and a poll that finds it neither stable nor lost during a sample comes at `last_action_time`. -/
def KeepsTime (c : LatencyConfig) (s : LatencyReports) (p : LatencyPoll) : Prop :=
  0 < s.pendingSamples →
    if isLoadStable c p then 0 ≤ (s.elapse p).timeForNextAction → p.later = p.now
    else ¬ (isLoadNotStable c p ∧ s.nextAction = .stop) → p.now = s.lastActionTime

/-- The time for the next action is right at `last_action_time`. -/
def InTime (s : LatencyReports) : Prop :=
  s.timeForNextAction = s.interval - (s.lastActionTime - s.setAt)

/-- What holds in every state. -/
structure Consistent (c : LatencyConfig) (s : LatencyReports) : Prop extends Orderly c s where
  next : ∀ a ∈ s.commands.getLast?, a ≠ s.nextAction
  first : s.commands = [] → s.nextAction = .start
  rest : s.finished + s.pendingSamples = c.samples
  sampling : s.nextAction = .stop → s.interval = c.time

variable {c : LatencyConfig} {s s' : LatencyReports} {p : LatencyPoll}

/-- The state in the beginning. -/
lemma consistent_init (c : LatencyConfig) (t : ℚ) : Consistent c (init c t) where
  alternate := List.IsChain.nil
  startFirst := fun _ h => nomatch h
  bounded := Nat.zero_le _
  next := fun _ h => nomatch h
  first := fun _ => rfl
  rest := Nat.zero_add _
  sampling := fun h => nomatch h

/-- The next command follows the ones before it. -/
lemma Consistent.alternate_concat (h : Consistent c s) :
    (s.commands ++ [s.nextAction]).IsChain (· ≠ ·) := by
  refine List.isChain_append.mpr ⟨h.alternate, List.IsChain.singleton _, fun a ha b hb => ?_⟩
  cases hb
  exact h.next a ha

/-- The first command stays a start. -/
lemma Consistent.startFirst_concat (h : Consistent c s) :
    ∀ a ∈ (s.commands ++ [s.nextAction]).head?, a = LatencyAction.start := by
  intro a ha
  cases hcommands : s.commands with
  | nil =>
    rw [hcommands] at ha
    cases ha
    exact h.first hcommands
  | cons b bs =>
    rw [hcommands] at ha
    refine h.startFirst a ?_
    rw [hcommands]
    exact ha

/-- The elapsed time changes nothing else. -/
lemma Consistent.elapse (h : Consistent c s) (p : LatencyPoll) : Consistent c (s.elapse p) where
  alternate := h.alternate
  startFirst := h.startFirst
  bounded := h.bounded
  next := h.next
  first := h.first
  rest := h.rest
  sampling := h.sampling

/-- A start or a stop in its turn. -/
lemma Consistent.act (h : Consistent c s) (hpending : 0 < s.pendingSamples) (p : LatencyPoll) :
    Consistent c (s.act c p) := by
  have halternate := h.alternate_concat
  have hstart := h.startFirst_concat
  have hrest := h.rest
  cases hnext : s.nextAction with
  | start =>
    rw [hnext] at halternate hstart
    have hact : s.act c p = { s with
        sampleIndex := s.sampleIndex + 1, commands := s.commands ++ [.start]
        lastActionTime := p.later, timeForNextAction := c.time, nextAction := .stop
        interval := c.time, setAt := p.later } := by
      rw [LatencyReports.act, hnext]
    rw [hact]
    exact {
      alternate := halternate
      startFirst := hstart
      bounded := h.bounded
      next := by simp
      first := by simp
      rest := hrest
      sampling := fun _ => rfl }
  | stop =>
    rw [hnext] at halternate hstart
    have hact : s.act c p = { s with
        commands := s.commands ++ [.stop], lastActionTime := p.later
        pendingSamples := s.pendingSamples - 1, timeForNextAction := c.wait, nextAction := .start
        interval := c.wait, setAt := p.later, finished := s.finished + 1 } := by
      rw [LatencyReports.act, hnext]
    rw [hact]
    exact {
      alternate := halternate
      startFirst := hstart
      bounded := by
        change s.finished + 1 ≤ c.samples
        omega
      next := by simp
      first := by simp
      rest := by
        change s.finished + 1 + (s.pendingSamples - 1) = c.samples
        omega
      sampling := fun hstop => nomatch hstop }

/-- A stop during a sample, when the load got lost. -/
lemma Consistent.abandon (h : Consistent c s) (hnext : s.nextAction = .stop) (p : LatencyPoll) :
    Consistent c (s.abandon c p) := by
  have halternate := h.alternate_concat
  have hstart := h.startFirst_concat
  rw [hnext] at halternate hstart
  exact {
    alternate := halternate
    startFirst := hstart
    bounded := h.bounded
    next := by simp [LatencyReports.abandon]
    first := by simp [LatencyReports.abandon]
    rest := h.rest
    sampling := fun hstop => nomatch hstop }

/-- What a poll does, one case for each branch of the loop. -/
lemma poll_cases (c : LatencyConfig) (s : LatencyReports) (p : LatencyPoll) :
    (s.pendingSamples = 0 ∧ s.poll c p = { s with
        stopPhase := s.stopPhase || c.stopLoadgenWhenFinish }) ∨
    (0 < s.pendingSamples ∧ isLoadStable c p = true ∧ (s.elapse p).timeForNextAction < 0 ∧
      s.poll c p = (s.elapse p).act c p) ∨
    (0 < s.pendingSamples ∧ isLoadStable c p = true ∧ 0 ≤ (s.elapse p).timeForNextAction ∧
      s.poll c p = { s.elapse p with lastActionTime := p.later }) ∨
    (0 < s.pendingSamples ∧ isLoadStable c p = false ∧ isLoadNotStable c p = true ∧
      s.nextAction = .stop ∧ s.poll c p = (s.elapse p).abandon c p) ∨
    (0 < s.pendingSamples ∧ isLoadStable c p = false ∧
      ¬ (isLoadNotStable c p = true ∧ s.nextAction = .stop) ∧ s.poll c p = s.elapse p) := by
  rcases Nat.eq_zero_or_pos s.pendingSamples with hzero | hpending
  · exact Or.inl ⟨hzero, if_neg (by omega)⟩
  · right
    rw [poll, if_pos hpending]
    cases hstable : isLoadStable c p with
    | true =>
      rw [if_pos rfl]
      by_cases hdue : (s.elapse p).timeForNextAction < 0
      · exact Or.inl ⟨hpending, rfl, hdue, if_pos hdue⟩
      · exact Or.inr (Or.inl ⟨hpending, rfl, not_lt.mp hdue, if_neg hdue⟩)
    | false =>
      rw [if_neg Bool.false_ne_true]
      by_cases hlost : isLoadNotStable c p = true ∧ s.nextAction = .stop
      · exact Or.inr (Or.inr (Or.inl ⟨hpending, rfl, hlost.1, hlost.2, if_pos hlost⟩))
      · exact Or.inr (Or.inr (Or.inr ⟨hpending, rfl, hlost, if_neg hlost⟩))

/-- Every poll keeps the order of the commands and the number of the samples. -/
lemma Consistent.poll (h : Consistent c s) (p : LatencyPoll) : Consistent c (s.poll c p) := by
  rcases poll_cases c s p with ⟨-, heq⟩ | ⟨hpending, -, -, heq⟩ | ⟨-, -, -, heq⟩ |
    ⟨-, -, -, hnext, heq⟩ | ⟨-, -, -, heq⟩
  · rw [heq]
    exact ⟨⟨h.alternate, h.startFirst, h.bounded⟩, h.next, h.first, h.rest, h.sampling⟩
  · rw [heq]
    exact (h.elapse p).act hpending p
  · rw [heq]
    have h' := h.elapse p
    exact ⟨⟨h'.alternate, h'.startFirst, h'.bounded⟩, h'.next, h'.first, h'.rest, h'.sampling⟩
  · rw [heq]
    exact (h.elapse p).abandon hnext p
  · rw [heq]
    exact h.elapse p

/-! ## The time for the next action -/

/-- Whatever was sent in an action, the time for the next one has just been set. -/
lemma inTime_act (s : LatencyReports) (p : LatencyPoll) : InTime (s.act c p) := by
  unfold InTime LatencyReports.act
  cases s.nextAction <;> simp

/-- The time for the next action is right at a poll exactly when it was right before. -/
lemma timer_iff : (s.elapse p).timeForNextAction = s.interval - (p.now - s.setAt) ↔ InTime s := by
  unfold elapse InTime
  constructor
  · intro h
    linarith
  · intro h
    linarith

/-- A sample is on time at a poll exactly when the time for the next action was right before. -/
lemma onTime_iff_inTime (h : Consistent c s) :
    OnTime c s p ↔ (0 < s.pendingSamples → InTime s) := by
  refine forall_congr' fun hpending => ?_
  constructor
  · exact fun htime => timer_iff.mp htime.timer
  · intro hin
    have htimer := (timer_iff (p := p)).mpr hin
    refine ⟨htimer, fun hnext hlost => ?_⟩
    have hdue : (s.elapse p).timeForNextAction < 0 ↔ c.time < p.now - s.setAt := by
      rw [htimer, h.sampling hnext, sub_neg]
    rcases poll_cases c s p with ⟨hzero, -⟩ | ⟨-, hstable, hnegative, heq⟩ |
      ⟨-, hstable, hnonneg, heq⟩ | ⟨-, -, hnot, -, -⟩ | ⟨-, hstable, -, heq⟩
    · omega
    · have hcommands : (s.poll c p).commands = s.commands ++ [.stop] := by
        rw [heq, LatencyReports.act]
        simp only [elapse, hnext]
      exact iff_of_true hcommands ⟨hstable, hdue.mp hnegative⟩
    · have hcommands : (s.poll c p).commands = s.commands := by
        rw [heq]
        rfl
      rw [hcommands]
      refine iff_of_false (by simp) fun hafter => ?_
      exact absurd (hdue.mpr hafter.2) (not_lt.mpr hnonneg)
    · rw [hlost] at hnot
      cases hnot
    · have hcommands : (s.poll c p).commands = s.commands := by
        rw [heq]
        rfl
      rw [hcommands, hstable]
      exact iff_of_false (by simp) fun hafter => Bool.false_ne_true hafter.1

/-- The time for the next action stays right when `last_action_time` is moved to the clock that was
read, and only then. -/
lemma inTime_elapse_iff (h : InTime s) (t : ℚ) :
    InTime { s.elapse p with lastActionTime := t } ↔ t = p.now := by
  unfold InTime at h ⊢
  unfold elapse
  constructor
  · intro htime
    linarith
  · intro hsame
    linarith

/-- A poll keeps the time for the next action right exactly when it keeps the time. -/
lemma inTime_poll_iff (h : 0 < s.pendingSamples → InTime s) :
    (0 < (s.poll c p).pendingSamples → InTime (s.poll c p)) ↔ KeepsTime c s p := by
  rcases poll_cases c s p with ⟨hzero, heq⟩ | ⟨hpending, hstable, hnegative, heq⟩ |
    ⟨hpending, hstable, hnonneg, heq⟩ | ⟨hpending, hstable, hnot, hnext, heq⟩ |
    ⟨hpending, hstable, hidle, heq⟩
  · rw [heq]
    refine iff_of_true (fun hpos => ?_) fun hpos => ?_
    · exact absurd hpos (by simp [hzero])
    · exact absurd hpos (by simp [hzero])
  · rw [heq]
    refine iff_of_true (fun _ => inTime_act _ p) fun _ => ?_
    rw [if_pos hstable]
    exact fun hnonneg => absurd hnonneg (not_le.mpr hnegative)
  · rw [heq, KeepsTime, if_pos hstable]
    have hshift := inTime_elapse_iff (p := p) (h hpending) p.later
    exact ⟨fun htime _ _ => hshift.mp (htime hpending),
      fun hkeeps _ => hshift.mpr (hkeeps hpending hnonneg)⟩
  · rw [heq]
    refine iff_of_true (fun _ => ?_) fun _ => ?_
    · unfold InTime LatencyReports.abandon
      simp
    · rw [if_neg (by simp [hstable])]
      exact fun hidle => absurd ⟨hnot, hnext⟩ hidle
  · have hneg : ¬ isLoadStable c p = true := by simp [hstable]
    rw [heq, KeepsTime, if_neg hneg]
    have hshift : InTime (s.elapse p) ↔ p.now = s.lastActionTime :=
      (inTime_elapse_iff (h hpending) s.lastActionTime).trans eq_comm
    exact ⟨fun htime _ _ => hshift.mp (htime hpending),
      fun hkeeps _ => hshift.mpr (hkeeps hpending hidle)⟩

/-! ## Runs -/

open LabelledSystem

/-- The commands alternate and the samples are not too many in every run. -/
theorem throughout_orderly (c : LatencyConfig) (t : ℚ) (ps : List LatencyPoll) :
    Throughout (step c) (Orderly c) (init c t) ps := by
  have halong : Along (step c) (fun _ _ => True) (init c t) ps :=
    along_of_forall fun _ _ _ => trivial
  exact throughout_of_along (I := Consistent c)
    (fun _ p _ h _ hstep => Option.some.inj hstep ▸ h.poll p) (fun _ h => h.toOrderly)
    (consistent_init c t) halong

/-- **When the samples have their length.**  In a run from the beginning of the thread, the commands
alternate, there are not too many samples, the time for the next action is right at every poll, and
every sample is stopped when its time is over, if and only if every poll but the last one keeps the
time. -/
theorem onTime_iff (c : LatencyConfig) (t : ℚ) (ps : List LatencyPoll) :
    (Throughout (step c) (Orderly c) (init c t) ps ∧
        Along (step c) (OnTime c) (init c t) ps) ↔
      Along (step c) (KeepsTime c) (init c t) ps.dropLast := by
  have hstep : ∀ (s : LatencyReports) (p : LatencyPoll) (s' : LatencyReports), Consistent c s →
      step c s p = some s' → Consistent c s' := fun _ p _ h heq => Option.some.inj heq ▸ h.poll p
  have hbefore : Along (step c) (OnTime c) (init c t) ps ↔
      Along (step c) (fun s _ => 0 < s.pendingSamples → InTime s) (init c t) ps :=
    along_congr (I := Consistent c) hstep (fun _ _ _ h _ => onTime_iff_inTime h)
      (consistent_init c t)
  have hbegin : InTime (init c t) := by
    unfold InTime init
    simp
  rw [hbefore, and_iff_right (throughout_orderly c t ps)]
  refine along_before_iff (I := Consistent c) (P := fun s => 0 < s.pendingSamples → InTime s)
    (fun s p => ⟨s.poll c p, rfl⟩) hstep (fun s p s' _ hin heq => ?_) (consistent_init c t)
    fun _ => hbegin
  exact Option.some.inj heq ▸ inTime_poll_iff hin

/-- One sample of five seconds with a stable load of 50. -/
def oneSample : LatencyConfig where
  samples := 1
  time := 5
  wait := 10
  onlyWhenLoadStable := true
  targetLoad := 50
  stopLoadgenWhenFinish := true

/-- A poll with some load state at a time. -/
def pollAt (loadStatus : Option LoadState) (time : ℚ) : LatencyPoll := ⟨loadStatus, 50, time, time⟩

/-- After the start of the sample the state of the load is undefined for two seconds. -/
def undefinedTwice : List LatencyPoll :=
  [pollAt (some .stable) 31, pollAt none 32, pollAt none 33, pollAt (some .stable) 34]

/-- The sample of five seconds is stopped after three seconds. -/
theorem undefinedTwice_tooShort :
    ¬ (Throughout (step oneSample) (Orderly oneSample) (init oneSample 0) undefinedTwice ∧
      Along (step oneSample) (OnTime oneSample) (init oneSample 0) undefinedTwice) := by
  rintro ⟨-, h⟩
  have hlast := ((((h _ rfl).2 _ rfl).2 _ rfl).2 _ rfl).1
  have hstop := ((hlast (by decide +kernel)).stop (by decide +kernel) (by decide +kernel)).mp
    (by decide +kernel)
  revert hstop
  decide +kernel

end LatencyReports

end HssRtc
