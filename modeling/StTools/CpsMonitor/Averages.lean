import StTools.CpsMonitor.Monitor
import StTools.Lib.LabelledSystem
import Mathlib.Algebra.BigOperators.Group.List.Basic
import Mathlib.Algebra.Ring.Int.Defs

/-!
# The averages in the data file

The target rate of a pass is added up as soon as it is answered, the current rate and the number of
passes only when both rates are.  `dataMeans_iff` says for which runs every line of the data file has the
means of the same passes nevertheless: whenever a line is written, the target rates of the passes between
that were left in the middle, and the limits of an `int`, must not show in the quotients.
-/

namespace CpsMonitor

open ScenarioDeployGenerator (Text toInt32 atoi)
open LabelledSystem

variable {cfg : Config} {s s' m : Monitor} {c : Pass} {v w : ℤ}

/-! ## Numbers -/

/-- Only the last sum has to be cut off. -/
lemma toInt32_add (a b : ℤ) : toInt32 (toInt32 a + b) = toInt32 (a + b) := by
  simp only [toInt32]
  omega

/-! ## The tally -/

/-- The part of the variables that the averages depend on. -/
structure Tally where
  /-- `acc_targetCPS`. -/
  accTargetCPS : ℤ
  /-- `acc_currentCPS`. -/
  accCurrentCPS : ℤ
  /-- `accTimes`. -/
  accTimes : ℕ
  /-- The averages in the data file. -/
  outFile : List Line
  /-- The measurements since the last line. -/
  measured : List (ℤ × ℤ)
  /-- The sum of the target rates without a current rate. -/
  stray : ℤ

/-- The part of the variables that the averages depend on. -/
def Monitor.tally (s : Monitor) : Tally where
  accTargetCPS := s.accTargetCPS
  accCurrentCPS := s.accCurrentCPS
  accTimes := s.accTimes
  outFile := s.outFile
  measured := s.measured
  stray := s.stray

/-- The tally after a pass that was left with the target rate only. -/
def Tally.half (t : Tally) (v : ℤ) : Tally :=
  { t with accTargetCPS := toInt32 (t.accTargetCPS + v), stray := t.stray + v }

/-- The tally after a pass with both rates. -/
def Tally.full (t : Tally) (v w : ℤ) : Tally :=
  { t with
    accTargetCPS := toInt32 (t.accTargetCPS + v)
    accCurrentCPS := toInt32 (t.accCurrentCPS + w)
    accTimes := t.accTimes + 1
    measured := t.measured ++ [(v, w)] }

@[simp] lemma tally_exitMonitor : s.exitMonitor.tally = s.tally := rfl

@[simp] lemma tally_noAnswer : s.noAnswer.tally = s.tally := by
  simp only [Monitor.noAnswer]
  split_ifs <;> rfl

@[simp] lemma tally_takeTurn {p : Phase} : (s.takeTurn cfg c p).tally = s.tally := by
  simp only [Monitor.takeTurn]
  cases s.due cfg p with
  | none => rfl
  | some step =>
    dsimp only
    split_ifs
    · rfl
    · cases sendCommand c.set with
      | none => rfl
      | some answer =>
        cases answer with
        | nil => exact tally_noAnswer
        | cons => rfl

/-- The schedule does not touch the tally. -/
@[simp] lemma tally_schedule : (s.schedule cfg c).tally = s.tally := by
  simp only [Monitor.schedule]
  cases sendCommand c.status with
  | none => rfl
  | some answer =>
    dsimp only
    split_ifs
    · cases phaseOf answer with
      | none => rfl
      | some p => exact tally_takeTurn
    · rfl

/-! ## What a pass measures -/

/-- The rates of a pass in which both were answered. -/
def Pass.rates (c : Pass) : Option (ℤ × ℤ) :=
  c.target.text.bind fun target => c.current.text.map fun current => (atoi target, atoi current)

/-- The pass gets to the averages, with these rates. -/
def Monitor.Measures (cfg : Config) (c : Pass) (s : Monitor) (v w : ℤ) : Prop :=
  c.rates = some (v, w) ∧ ¬ c.DisplayFails cfg s.displayActive

/-- What the part up to the averages does: the pass is left without having measured, perhaps with a
target rate, or the averages are reached with both rates. -/
lemma measure_cases (cfg : Config) (c : Pass) (s : Monitor) :
    (∃ m, s.measure cfg c = .error m ∧ (∀ v w, ¬ s.Measures cfg c v w) ∧
      (m.tally = s.tally ∨ ∃ v, m.tally = s.tally.half v)) ∨
    ∃ (v w : ℤ) (m : Monitor), s.measure cfg c = .ok (m.average cfg) ∧ s.Measures cfg c v w ∧
      m.tally = s.tally.full v w := by
  simp only [Monitor.measure, Monitor.Measures, Monitor.addTarget, Monitor.turnOn, Pass.rates,
    Answer.text]
  cases htarget : sendCommand c.target with
  | none => exact .inl ⟨_, rfl, by simp, .inl rfl⟩
  | some target =>
    cases target with
    | nil => exact .inl ⟨_, rfl, by simp, .inl tally_noAnswer⟩
    | cons x target =>
      cases hcurrent : sendCommand c.current with
      | none => exact .inl ⟨_, rfl, by simp, .inr ⟨_, rfl⟩⟩
      | some current =>
        cases current with
        | nil => exact .inl ⟨_, rfl, by simp, .inr ⟨_, tally_noAnswer⟩⟩
        | cons y current =>
          by_cases hdisplay : c.DisplayFails cfg s.displayActive
          · simp only [hdisplay, if_true]
            exact .inl ⟨_, rfl, by simp, .inr ⟨_, rfl⟩⟩
          · simp only [hdisplay, if_false]
            exact .inr ⟨_, _, _, rfl, by simp, rfl⟩

/-- The tally after a pass. -/
lemma tally_pass_of_ok (h : s.measure cfg c = .ok m) : (s.pass cfg c).tally = m.tally := by
  rw [Monitor.pass, h]
  dsimp only
  split_ifs
  · exact tally_schedule
  · rfl

/-! ## Means -/

/-- The sum of the target rates of measurements. -/
def targetSum (measured : List (ℤ × ℤ)) : ℤ := (measured.map Prod.fst).sum

/-- The sum of the current rates of measurements. -/
def currentSum (measured : List (ℤ × ℤ)) : ℤ := (measured.map Prod.snd).sum

@[simp] lemma targetSum_append (l : List (ℤ × ℤ)) : targetSum (l ++ [(v, w)]) = targetSum l + v := by
  simp [targetSum]

@[simp] lemma currentSum_append (l : List (ℤ × ℤ)) :
    currentSum (l ++ [(v, w)]) = currentSum l + w := by
  simp [currentSum]

/-- The line has the integer means of `scan` measurements. -/
def Line.IsMean (cfg : Config) (l : Line) : Prop :=
  l.measured.length = cfg.scan ∧ l.target = (targetSum l.measured).tdiv cfg.scan ∧
    l.current = (currentSum l.measured).tdiv cfg.scan

/-- Every line of the data file has the integer means of the measurements since the line before. -/
def Monitor.Means (cfg : Config) (s : Monitor) : Prop := ∀ l ∈ s.outFile, l.IsMean cfg

/-- The condition: when a pass completes an average, the target rates without a current rate since the
last line and the limits of an `int` do not show in the quotients. -/
def Hidden (cfg : Config) (s : Monitor) : Event → Prop
  | .pass c => ∀ v w, s.Measures cfg c v w → s.status ≠ .haveToExit →
      (s.measured.length + 1 : ℤ) = cfg.scan → cfg.scan ≠ 0 →
      (toInt32 (targetSum s.measured + v + s.stray)).tdiv cfg.scan =
          (targetSum s.measured + v).tdiv cfg.scan ∧
        (toInt32 (currentSum s.measured + w)).tdiv cfg.scan = (currentSum s.measured + w).tdiv cfg.scan
  | .terminate => True

/-! ## The invariant -/

/-- The variables are the sums and the number of the measurements since the last line, and the target
rates without a current rate are added to the first sum. -/
structure Tally.Sound (t : Tally) : Prop where
  target : t.accTargetCPS = toInt32 (targetSum t.measured + t.stray)
  current : t.accCurrentCPS = toInt32 (currentSum t.measured)
  times : t.accTimes = t.measured.length

namespace Tally.Sound

variable {t : Tally}

lemma half (h : t.Sound) (v : ℤ) : (t.half v).Sound where
  target := by
    change toInt32 (t.accTargetCPS + v) = _
    rw [h.target, toInt32_add, add_assoc]
    rfl
  current := h.current
  times := h.times

lemma full (h : t.Sound) (v w : ℤ) : (t.full v w).Sound where
  target := by
    change toInt32 (t.accTargetCPS + v) = toInt32 (targetSum (t.measured ++ [(v, w)]) + t.stray)
    rw [h.target, toInt32_add, targetSum_append, add_right_comm]
  current := by
    change toInt32 (t.accCurrentCPS + w) = toInt32 (currentSum (t.measured ++ [(v, w)]))
    rw [h.current, toInt32_add, currentSum_append]
  times := by
    change t.accTimes + 1 = (t.measured ++ [(v, w)]).length
    rw [h.times, List.length_append, List.length_singleton]

end Tally.Sound

/-- The invariant keeps when an average is written. -/
lemma sound_average (h : m.tally.Sound) : (m.average cfg).tally.Sound := by
  rw [Monitor.average]
  split_ifs
  · exact ⟨rfl, rfl, rfl⟩
  · exact h

/-- A pass keeps the invariant. -/
lemma sound_pass (h : s.tally.Sound) : (s.pass cfg c).tally.Sound := by
  obtain ⟨m, hm, -, htally | ⟨v, htally⟩⟩ | ⟨v, w, m, hm, -, htally⟩ := measure_cases cfg c s
  · rw [Monitor.pass, hm]
    exact htally ▸ h
  · rw [Monitor.pass, hm]
    exact htally ▸ h.half v
  · rw [tally_pass_of_ok hm]
    exact sound_average (htally ▸ h.full v w)

/-- Every step keeps the invariant. -/
lemma sound_step {e : Event} (h : s.tally.Sound) (hstep : step cfg s e = some s') : s'.tally.Sound := by
  cases e with
  | pass c =>
    simp only [step] at hstep
    split_ifs at hstep
    · cases hstep
      exact h
    · cases hstep
      exact sound_pass h
  | terminate =>
    simp only [step] at hstep
    split_ifs at hstep
    cases hstep
    exact h

/-! ## The lines -/

/-- A line that is added to the data file is written by a pass that completes an average. -/
lemma means_average_iff (hm : m.tally.Sound) (hmeans : m.Means cfg) :
    (m.average cfg).Means cfg ↔ ((m.measured.length : ℤ) = cfg.scan → cfg.scan ≠ 0 →
      (toInt32 (targetSum m.measured + m.stray)).tdiv cfg.scan =
          (targetSum m.measured).tdiv cfg.scan ∧
        (toInt32 (currentSum m.measured)).tdiv cfg.scan = (currentSum m.measured).tdiv cfg.scan) := by
  have htarget : m.accTargetCPS = toInt32 (targetSum m.measured + m.stray) := hm.target
  have hcurrent : m.accCurrentCPS = toInt32 (currentSum m.measured) := hm.current
  have htimes : m.accTimes = m.measured.length := hm.times
  rw [Monitor.average, htarget, hcurrent, htimes]
  by_cases hdue : (m.measured.length : ℤ) = cfg.scan ∧ cfg.scan ≠ 0
  · rw [if_pos hdue]
    constructor
    · intro h _ _
      obtain ⟨-, ht, hc⟩ := h _ (List.mem_append_right _ (List.mem_singleton_self _))
      rw [← hdue.1]
      rw [← hdue.1] at ht hc
      exact ⟨ht, hc⟩
    · intro h l hl
      rcases List.mem_append.mp hl with hl | hl
      · exact hmeans l hl
      · cases List.mem_singleton.mp hl
        obtain ⟨ht, hc⟩ := h hdue.1 hdue.2
        refine ⟨hdue.1, ?_, ?_⟩
        · dsimp only
          rw [hdue.1, ht]
        · dsimp only
          rw [hdue.1, hc]
  · rw [if_neg hdue]
    exact iff_of_true hmeans fun hscan hzero => absurd ⟨hscan, hzero⟩ hdue

/-- The data file does not depend on more than the tally. -/
lemma means_congr (h : s.tally = m.tally) : s.Means cfg ↔ m.Means cfg := by
  have hfile : s.outFile = m.outFile := congrArg Tally.outFile h
  rw [Monitor.Means, Monitor.Means, hfile]

/-- A pass that has measured keeps the means exactly when nothing else shows in the quotients. -/
lemma means_pass_iff (hs : s.tally.Sound) (hmeans : s.Means cfg) (hstatus : s.status ≠ .haveToExit) :
    (s.pass cfg c).Means cfg ↔ Hidden cfg s (.pass c) := by
  obtain ⟨m, hm, hnone, htally⟩ | ⟨v, w, m, hm, hmeasures, htally⟩ := measure_cases cfg c s
  · have hkeeps : m.Means cfg := by
      rcases htally with htally | ⟨v, htally⟩
      · exact (means_congr htally).mpr hmeans
      · have hfile : m.outFile = s.outFile := congrArg Tally.outFile htally
        rw [Monitor.Means, hfile]
        exact hmeans
    refine iff_of_true ?_ fun v w h => absurd h (hnone v w)
    rw [Monitor.pass, hm]
    exact hkeeps
  · have hmeasured : m.measured = s.measured ++ [(v, w)] := congrArg Tally.measured htally
    have hstray : m.stray = s.stray := congrArg Tally.stray htally
    have hfile : m.outFile = s.outFile := congrArg Tally.outFile htally
    have hkeeps : m.Means cfg := by
      rw [Monitor.Means, hfile]
      exact hmeans
    have hsound : m.tally.Sound := htally ▸ hs.full v w
    rw [means_congr (tally_pass_of_ok hm), means_average_iff hsound hkeeps, hmeasured, hstray,
      targetSum_append, currentSum_append, List.length_append, List.length_singleton, Int.natCast_add,
      Int.natCast_one]
    constructor
    · intro h v' w' hmeasures' _ hscan hzero
      obtain ⟨rfl, rfl⟩ : v = v' ∧ w = w' :=
        Prod.mk.inj (Option.some.inj (hmeasures.1.symm.trans hmeasures'.1))
      exact h hscan hzero
    · intro h hscan hzero
      exact h v w hmeasures hstatus hscan hzero

/-- A step keeps the means exactly when it meets the condition. -/
lemma means_step_iff {e : Event} (hs : s.tally.Sound) (hmeans : s.Means cfg)
    (hstep : step cfg s e = some s') : s'.Means cfg ↔ Hidden cfg s e := by
  cases e with
  | pass c =>
    simp only [step] at hstep
    split_ifs at hstep with _ hstatus
    · cases hstep
      exact iff_of_true hmeans fun _ _ _ h => absurd hstatus h
    · cases hstep
      exact means_pass_iff hs hmeans hstatus
  | terminate =>
    simp only [step] at hstep
    split_ifs at hstep
    cases hstep
    exact iff_of_true hmeans trivial

/-- In every run, all lines of the data file have the integer means of the same `scan` measurements,
those since the line before, exactly when no average is completed in whose quotients the target rates
that were answered without a current rate, or the limits of an `int`, show. -/
theorem dataMeans_iff (cfg : Config) (steps : Phase → List Step) (es : List Event) :
    Throughout (step cfg) (Monitor.Means cfg) (init cfg steps) es ↔
      Along (step cfg) (Hidden cfg) (init cfg steps) es := by
  refine throughout_iff_along (I := fun s : Monitor => s.tally.Sound ∧ s.Means cfg) ?_ (fun _ h => h.2) ?_ ?_
  · rintro s e s' ⟨hs, hmeans⟩ hC hstep
    exact ⟨sound_step hs hstep, (means_step_iff hs hmeans hstep).mpr hC⟩
  · rintro s e s' ⟨hs, hmeans⟩ hC hstep hbad
    exact hC ((means_step_iff hs hmeans hstep).mp hbad)
  · exact ⟨⟨rfl, rfl, rfl⟩, fun l hl => nomatch hl⟩

/-! ## A target rate too many -/

/-- A configuration with an average after every pass, and no schedule. -/
def averaging : Config where
  scan := 1
  refreshTime := 0
  schedulingEnabled := false
  startTime := 0
  unsetTime := 0

/-- A pass with these two answers; the clock is read so many seconds after the pass before. -/
def answers (wait : ℕ) (target current : Answer) : Pass where
  target := target
  current := current
  displayStarts := true
  untilRead := wait * 1000000000
  status := .missing
  untilSent := 0
  set := .missing

/-- A pass in which only the target rate is answered, which waits five seconds for the other one, and one in
which both rates are. -/
def halfAndFull : List Event :=
  [.pass (answers 7 (.datagram ['1', '0', '0']) .missing),
    .pass (answers 2 (.datagram ['1', '0', '0']) (.datagram ['1', '0', '0']))]

/-- All rates are 100, and the line says 200 for the target. -/
lemma halfAndFull_outFile :
    (exec (step averaging) (init averaging fun _ => []) halfAndFull).map Monitor.outFile =
      some [⟨9, 200, 100, [(100, 100)]⟩] := by
  decide +kernel

/-- The target rate of a pass whose current rate was not answered is in the next average. -/
theorem unansweredCurrent_not_means :
    ¬ ∀ (cfg : Config) (steps : Phase → List Step) (es : List Event), 0 < cfg.scan →
      Throughout (step cfg) (Monitor.Means cfg) (init cfg steps) es := by
  intro h
  have hall : Throughout (step averaging) (Monitor.Means averaging) (init averaging fun _ => [])
      halfAndFull := h _ _ _ (by decide)
  obtain ⟨s, hexec, hfile⟩ := Option.map_eq_some_iff.mp halfAndFull_outFile
  have hmeans : s.Means averaging := hall.last hexec
  obtain ⟨-, htarget, -⟩ := hmeans ⟨9, 200, 100, [(100, 100)]⟩ (hfile ▸ List.mem_singleton_self _)
  exact absurd htarget (by decide)

end CpsMonitor
