import StTools.Lib.LabelledSystem
import Mathlib.Data.Rat.Defs
import Mathlib.Data.Fintype.Basic
import Mathlib.Algebra.BigOperators.Group.List.Basic
import Mathlib.Algebra.Order.BigOperators.Group.List
import Mathlib.Algebra.Order.Ring.Rat
import Mathlib.Algebra.Group.Prod
import Mathlib.Algebra.Group.Int.Defs
import Mathlib.Tactic.Abel

/-!
# The statistics of a BAT instance

A BAT instance reads the counters of its scripts from a statistics file.  What they have grown by
since the last accepted sample is added to the open register of the traffic phase that the sample
shows, so that a register counts the executed cases and the errors of its phase.

The first sample is written into the same object that the baseline is copied from, and only the phase
after the sample is accounted.  The main theorem says when the registers are right all the same.
-/

namespace HssRtc

/-! ## Samples -/

/-- The traffic phases. -/
inductive TrafficPhase
  | preexec
  | loadgen
  | postexec
  deriving DecidableEq

instance : Fintype TrafficPhase where
  elems := {.preexec, .loadgen, .postexec}
  complete phase := by cases phase <;> decide

/-- The counters of a script in a phase. -/
structure Counters where
  started : ℤ
  success : ℤ
  errors : ℤ
  deriving DecidableEq

/-- A sample of the counters of the scripts `K`. -/
structure Sample (K : Type*) where
  time : ℤ
  values : K → TrafficPhase → Counters

variable {K : Type*}

/-- The first template: all counters are zero. -/
def Sample.zero : Sample K where
  time := 0
  values _ _ := ⟨0, 0, 0⟩

/-- No counter of the scripts is lower than before. -/
def Sample.Le (scripts : List K) (s s' : Sample K) : Prop :=
  ∀ k ∈ scripts, ∀ phase, (s.values k phase).success ≤ (s'.values k phase).success ∧
    (s.values k phase).errors ≤ (s'.values k phase).errors

instance (scripts : List K) (s s' : Sample K) : Decidable (s.Le scripts s') := by
  unfold Sample.Le
  infer_instance

/-- The cases that were executed in a phase, by all scripts. -/
def Sample.executed (scripts : List K) (s : Sample K) (phase : TrafficPhase) : ℤ :=
  (scripts.map fun k => (s.values k phase).success + (s.values k phase).errors).sum

/-- The errors in a phase, of all scripts. -/
def Sample.errors (scripts : List K) (s : Sample K) (phase : TrafficPhase) : ℤ :=
  (scripts.map fun k => (s.values k phase).errors).sum

/-- Executed cases and errors. -/
def Sample.totals (scripts : List K) (s : Sample K) (phase : TrafficPhase) : ℤ × ℤ :=
  (s.executed scripts phase, s.errors scripts phase)

/-! ## Registers -/

/-- A register of errors. -/
structure ErrorRegister where
  stopped : Bool
  executed : ℤ
  errors : ℤ
  /-- Ghost: the number of the scenario register that it was opened with. -/
  scenario : ℕ
  /-- Ghost: what the statistics showed for its phase when it was opened. -/
  opened : ℤ × ℤ
  /-- Ghost: what the last sample that was accepted since then showed for its phase. -/
  accepted : Option (ℤ × ℤ)
  deriving DecidableEq

/-- What its phase has grown by, up to the last accepted sample. -/
def ErrorRegister.growth (r : ErrorRegister) : ℤ × ℤ :=
  match r.accepted with
  | none => 0
  | some totals => totals - r.opened

/-- A BAT instance, as far as its statistics go. -/
structure Bat (K : Type*) where
  /-- The scripts of the template. -/
  scripts : List K
  /-- `monitor_error['enable']`. -/
  enable : TrafficPhase → Bool
  samplingTime : ℚ
  /-- The template, which every sample is written into. -/
  errorTemplate : Sample K
  currentStats : Sample K
  lastStats : Option (Sample K)
  trafficPhase : TrafficPhase
  /-- The registers of each phase, the last first. -/
  errorDb : TrafficPhase → List ErrorRegister
  /-- What the statistics file shows. -/
  measured : Sample K

namespace Bat

/-- A new BAT instance. -/
def init (scripts : List K) (enable : TrafficPhase → Bool) (samplingTime : ℚ) : Bat K where
  scripts := scripts
  enable := enable
  samplingTime := samplingTime
  errorTemplate := Sample.zero
  currentStats := Sample.zero
  lastStats := none
  trafficPhase := .preexec
  errorDb _ := []
  measured := Sample.zero

/-- The last register of a phase changes. -/
def updateLast (b : Bat K) (phase : TrafficPhase) (f : ErrorRegister → ErrorRegister) : Bat K :=
  { b with errorDb := Function.update b.errorDb phase ((b.errorDb phase).modifyHead f) }

/-- `error_db_registering`: the last register of the current phase is open. -/
def errorDbRegistering (b : Bat K) : Bool := (b.errorDb b.trafficPhase).head?.any fun r => !r.stopped

/-- `error_db_open_register`, with a scenario register. -/
def errorDbOpenRegister (b : Bat K) (phase : TrafficPhase) (scenario : ℕ) : Bat K :=
  let register : ErrorRegister :=
    { stopped := false
      executed := 0
      errors := 0
      scenario := scenario
      opened := b.measured.totals b.scripts phase
      accepted := none }
  if b.enable phase then
    { b with errorDb := Function.update b.errorDb phase (register :: b.errorDb phase) }
  else b

/-- `error_db_close_register`. -/
def errorDbCloseRegister (b : Bat K) : Bat K :=
  if b.errorDbRegistering then b.updateLast b.trafficPhase fun r => { r with stopped := true } else b

/-- `error_db_update_register`. -/
def errorDbUpdateRegister (b : Bat K) (executed errors : ℤ) : Bat K :=
  if b.errorDbRegistering then
    b.updateLast b.trafficPhase fun r =>
      { r with executed := r.executed + executed, errors := r.errors + errors }
  else b

/-- `error_db_read_register_counters`, of the last register. -/
def errorDbReadRegisterCounters (b : Bat K) : ℤ × ℤ :=
  match b.errorDb b.trafficPhase with
  | [] => (0, 0)
  | r :: _ => (r.executed, r.errors)

/-! ## Samples are taken -/

/-- The phase that a sample shows. -/
def detectPhase (b : Bat K) (s : Sample K) : TrafficPhase :=
  b.scripts.foldl (fun phase k =>
    if (s.values k .postexec).started ≠ 0 then .postexec
    else if phase ≠ .postexec ∧ (s.values k .loadgen).started ≠ 0 then .loadgen
    else if phase ≠ .postexec ∧ phase ≠ .loadgen ∧ (s.values k .preexec).started ≠ 0 then .preexec
    else phase) b.trafficPhase

/-- `get_current_stats`: the sample is written into the template, and copied from there. -/
def getCurrentStats (b : Bat K) : Bat K :=
  { b with
    errorTemplate := b.measured
    trafficPhase := b.detectPhase b.measured
    currentStats := b.measured }

/-- Ghost: the sample was accepted, and all open registers note what it shows. -/
def noteAccepted (b : Bat K) : Bat K :=
  { b with errorDb := fun phase => (b.errorDb phase).modifyHead fun r =>
      if r.stopped then r else { r with accepted := some (b.currentStats.totals b.scripts phase) } }

/-- The errors of the current phase since a sample. -/
def totalErrors (b : Bat K) (last : Sample K) : ℤ :=
  (b.scripts.map fun k => (b.currentStats.values k b.trafficPhase).errors -
    (last.values k b.trafficPhase).errors).sum

/-- The executed cases of the current phase since a sample. -/
def totalExecuted (b : Bat K) (last : Sample K) : ℤ :=
  (b.scripts.map fun k =>
    ((b.currentStats.values k b.trafficPhase).errors - (last.values k b.trafficPhase).errors) +
    ((b.currentStats.values k b.trafficPhase).success -
      (last.values k b.trafficPhase).success)).sum

/-- The rest of `update_errors_info`, with the baseline. -/
def accountSample (b : Bat K) (last : Sample K) : Bat K :=
  if ((b.currentStats.time - last.time : ℤ) : ℚ) < b.samplingTime then
    { b with lastStats := some last }
  else
    let b' := if b.totalExecuted last ≠ 0 then
      b.errorDbUpdateRegister (b.totalExecuted last) (b.totalErrors last) else b
    noteAccepted { b' with lastStats := some b.currentStats }

/-- `update_errors_info`. -/
def updateErrorsInfo (b : Bat K) : Bat K :=
  let b := b.getCurrentStats
  -- At the first time the baseline is a copy of the template, which shows the new sample.
  b.accountSample (b.lastStats.getD b.errorTemplate)

/-- `check_result`. -/
def checkResult (b : Bat K) : Bat K := if b.enable b.trafficPhase then b.updateErrorsInfo else b

/-! ## Runs -/

/-- What happens. -/
inductive Event (K : Type*)
  /-- The counters in the file grow. -/
  | measure (s : Sample K)
  /-- The BAT instance takes a sample. -/
  | check
  /-- A register of a phase is opened. -/
  | openRegister (phase : TrafficPhase) (scenario : ℕ)
  /-- The register of the current phase is closed. -/
  | closeRegister
  /-- The execution has started a phase. -/
  | setTrafficPhase (phase : TrafficPhase)

/-- One step. -/
def step (b : Bat K) : Event K → Option (Bat K)
  | .measure s => if b.measured.Le b.scripts s then some { b with measured := s } else none
  | .check => some b.checkResult
  | .openRegister phase scenario => some (b.errorDbOpenRegister phase scenario)
  | .closeRegister => some b.errorDbCloseRegister
  | .setTrafficPhase phase => some { b with trafficPhase := phase }

/-! ## What should hold -/

/-- The last register of a phase, if it is open. -/
def openRegister? (b : Bat K) (phase : TrafficPhase) : Option ErrorRegister :=
  (b.errorDb phase).head?.filter fun r => !r.stopped

/-- The open registers hold what their phases have grown by. -/
def Accounted (b : Bat K) : Prop :=
  ∀ phase, ∀ r ∈ b.openRegister? phase, (r.executed, r.errors) = r.growth

/-- The sample that is taken will be accepted. -/
def Accepts (b : Bat K) (last : Sample K) : Prop :=
  b.samplingTime ≤ ((b.measured.time - last.time : ℤ) : ℚ)

/-- Nothing gets lost: a register is opened when nothing has happened in its phase since the last
sample that the baseline was taken from; nothing has happened in the phases of open registers before
the first sample; and when a sample is accepted, something has happened only in the phase that it
shows. -/
def NothingLost (b : Bat K) : Event K → Prop
  | .openRegister phase _ => ∀ last ∈ b.lastStats,
    last.totals b.scripts phase = b.measured.totals b.scripts phase
  | .check => b.enable b.trafficPhase = true → ∀ phase, ∀ r ∈ b.openRegister? phase,
    (b.lastStats = none → b.measured.totals b.scripts phase = r.opened) ∧
      ∀ last ∈ b.lastStats, b.Accepts last → phase ≠ b.detectPhase b.measured →
        b.measured.totals b.scripts phase = last.totals b.scripts phase
  | _ => True

instance (b : Bat K) (last : Sample K) : Decidable (b.Accepts last) :=
  inferInstanceAs (Decidable (_ ≤ _))

instance (b : Bat K) : DecidablePred b.NothingLost
  | .openRegister _ _ => inferInstanceAs (Decidable (∀ last ∈ b.lastStats, _))
  | .check =>
    have : Decidable (b.lastStats = none) := decidable_of_iff _ Option.isNone_iff_eq_none
    inferInstanceAs (Decidable (_ → ∀ phase, ∀ r ∈ b.openRegister? phase, _ ∧ _))
  | .measure _ | .closeRegister | .setTrafficPhase _ => inferInstanceAs (Decidable True)

/-- The baseline fits to the open registers. -/
structure Baseline (b : Bat K) : Prop where
  /-- The registers hold what their phases have grown by. -/
  accounted : b.Accounted
  /-- The baseline is what a register was opened at, or what it has accepted last. -/
  last : ∀ last ∈ b.lastStats, ∀ phase, ∀ r ∈ b.openRegister? phase,
    last.totals b.scripts phase = r.accepted.getD r.opened
  /-- Before the first sample nothing was accepted. -/
  first : b.lastStats = none → ∀ phase, ∀ r ∈ b.openRegister? phase, r.accepted = none
  /-- The counters were not higher before. -/
  le : ∀ last ∈ b.lastStats, last.Le b.scripts b.measured

/-! ## Sums over the scripts -/

variable {b : Bat K}

/-- The sum of differences is the difference of the sums. -/
lemma sum_map_sub (scripts : List K) (f g : K → ℤ) :
    (scripts.map fun k => f k - g k).sum = (scripts.map f).sum - (scripts.map g).sum := by
  induction scripts with
  | nil => rfl
  | cons k scripts ih =>
    rw [List.map_cons, List.map_cons, List.map_cons, List.sum_cons, List.sum_cons, List.sum_cons, ih]
    omega

/-- What was executed since a sample, as a difference of sums. -/
lemma totalExecuted_eq (last : Sample K) : b.totalExecuted last =
    b.currentStats.executed b.scripts b.trafficPhase - last.executed b.scripts b.trafficPhase := by
  unfold totalExecuted Sample.executed
  rw [← sum_map_sub]
  congr 1
  apply List.map_congr_left
  intro k _
  omega

/-- The errors since a sample, as a difference of sums. -/
lemma totalErrors_eq (last : Sample K) : b.totalErrors last =
    b.currentStats.errors b.scripts b.trafficPhase - last.errors b.scripts b.trafficPhase := by
  unfold totalErrors Sample.errors
  rw [← sum_map_sub]

/-- Where nothing was executed, there are no errors. -/
lemma totalErrors_eq_zero {last : Sample K} (hle : last.Le b.scripts b.currentStats)
    (hzero : b.totalExecuted last = 0) : b.totalErrors last = 0 := by
  have hbounds : 0 ≤ b.totalErrors last ∧ b.totalErrors last ≤ b.totalExecuted last := by
    unfold totalErrors totalExecuted
    refine ⟨List.sum_nonneg fun x hx => ?_, List.sum_le_sum fun k hk => ?_⟩
    · obtain ⟨k, hk, rfl⟩ := List.mem_map.mp hx
      have herrors := (hle k hk b.trafficPhase).2
      omega
    · have hsuccess := (hle k hk b.trafficPhase).1
      omega
  omega

/-! ## The open registers -/

/-- A change of the last register that leaves it open or closed. -/
lemma openRegister?_updateLast {f : ErrorRegister → ErrorRegister}
    (hf : ∀ r, (f r).stopped = r.stopped) (phase : TrafficPhase) :
    (b.updateLast phase f).openRegister? phase = (b.openRegister? phase).map f := by
  unfold openRegister? updateLast
  dsimp only
  rw [Function.update_self]
  rcases b.errorDb phase with _ | ⟨r, rs⟩
  · rfl
  · simp only [List.modifyHead_cons, List.head?_cons, Option.filter_some, hf]
    split_ifs <;> rfl

/-- The registers of the other phases. -/
lemma openRegister?_updateLast_of_ne {f : ErrorRegister → ErrorRegister} {phase phase' : TrafficPhase}
    (hne : phase' ≠ phase) : (b.updateLast phase f).openRegister? phase' = b.openRegister? phase' := by
  unfold openRegister? updateLast
  dsimp only
  rw [Function.update_of_ne hne]

/-- Without an open register nothing is registered. -/
lemma errorDbRegistering_eq : b.errorDbRegistering = (b.openRegister? b.trafficPhase).isSome := by
  unfold errorDbRegistering openRegister?
  rcases (b.errorDb b.trafficPhase).head? with _ | r
  · rfl
  · rcases hstopped : r.stopped with _ | _ <;> simp [Option.filter, hstopped]

/-- What is added to the register of the current phase. -/
lemma openRegister?_errorDbUpdateRegister (executed errors : ℤ) (phase : TrafficPhase) :
    (b.errorDbUpdateRegister executed errors).openRegister? phase =
      if phase = b.trafficPhase then (b.openRegister? phase).map fun r =>
        { r with executed := r.executed + executed, errors := r.errors + errors }
      else b.openRegister? phase := by
  unfold errorDbUpdateRegister
  split_ifs with hregistering hphase hphase
  · subst hphase
    refine openRegister?_updateLast ?_ _
    intro r
    rfl
  · exact openRegister?_updateLast_of_ne hphase
  · subst hphase
    rw [errorDbRegistering_eq, Option.not_isSome_iff_eq_none] at hregistering
    rw [hregistering]
    rfl
  · rfl

/-- The register that is open after the current one was closed. -/
lemma openRegister?_errorDbCloseRegister (phase : TrafficPhase) :
    b.errorDbCloseRegister.openRegister? phase =
      if phase = b.trafficPhase then none else b.openRegister? phase := by
  unfold errorDbCloseRegister
  split_ifs with hregistering hphase hphase
  · subst hphase
    unfold openRegister? updateLast
    dsimp only
    rw [Function.update_self]
    rcases b.errorDb b.trafficPhase with _ | ⟨r, rs⟩ <;> rfl
  · exact openRegister?_updateLast_of_ne hphase
  · subst hphase
    rwa [errorDbRegistering_eq, Option.not_isSome_iff_eq_none] at hregistering
  · rfl

/-- The register that is open after one was opened. -/
lemma openRegister?_errorDbOpenRegister {phase phase' : TrafficPhase} {scenario : ℕ}
    {r : ErrorRegister} (hr : r ∈ (b.errorDbOpenRegister phase scenario).openRegister? phase') :
    r ∈ b.openRegister? phase' ∨ phase' = phase ∧ r =
      ⟨false, 0, 0, scenario, b.measured.totals b.scripts phase, none⟩ := by
  unfold errorDbOpenRegister at hr
  dsimp only at hr
  split_ifs at hr with henable
  · by_cases hphase : phase' = phase
    · subst hphase
      unfold openRegister? at hr
      dsimp only at hr
      rw [Function.update_self] at hr
      exact Or.inr ⟨rfl, (Option.some.inj hr).symm⟩
    · unfold openRegister? at hr
      dsimp only at hr
      rw [Function.update_of_ne hphase] at hr
      exact Or.inl hr
  · exact Or.inl hr

/-- The open registers note what was accepted. -/
lemma openRegister?_noteAccepted (phase : TrafficPhase) :
    b.noteAccepted.openRegister? phase = (b.openRegister? phase).map fun r =>
      { r with accepted := some (b.currentStats.totals b.scripts phase) } := by
  unfold openRegister? noteAccepted
  dsimp only
  rcases b.errorDb phase with _ | ⟨r, rs⟩
  · rfl
  · rcases hstopped : r.stopped with _ | _ <;> simp [Option.filter, hstopped]

/-- What a sample adds to the register of a phase. -/
def added (b : Bat K) (last : Sample K) (phase : TrafficPhase) : ℤ × ℤ :=
  if phase = b.trafficPhase then
    b.currentStats.totals b.scripts phase - last.totals b.scripts phase
  else 0

/-- The open registers after a sample was accepted. -/
lemma openRegister?_accountSample {last : Sample K} (hle : last.Le b.scripts b.currentStats)
    (haccepts : ¬ ((b.currentStats.time - last.time : ℤ) : ℚ) < b.samplingTime)
    (phase : TrafficPhase) :
    (b.accountSample last).openRegister? phase = (b.openRegister? phase).map fun r =>
      { r with
        executed := r.executed + (b.added last phase).1
        errors := r.errors + (b.added last phase).2
        accepted := some (b.currentStats.totals b.scripts phase) } := by
  have hadded : ∀ phase, (if b.totalExecuted last ≠ 0 then
      b.errorDbUpdateRegister (b.totalExecuted last) (b.totalErrors last) else b).openRegister? phase =
      (b.openRegister? phase).map fun r =>
        { r with
          executed := r.executed + (b.added last phase).1
          errors := r.errors + (b.added last phase).2 } := by
    intro phase
    have hvalue : phase = b.trafficPhase →
        b.added last phase = (b.totalExecuted last, b.totalErrors last) := by
      rintro rfl
      rw [added, if_pos rfl, totalExecuted_eq, totalErrors_eq]
      rfl
    split_ifs with hzero
    · rw [openRegister?_errorDbUpdateRegister]
      split_ifs with hphase
      · rw [hvalue hphase]
      · simp [added, hphase]
    · have hnone : b.added last phase = 0 := by
        by_cases hphase : phase = b.trafficPhase
        · rw [hvalue hphase, not_not.mp hzero, totalErrors_eq_zero hle (not_not.mp hzero)]
          rfl
        · rw [added, if_neg hphase]
      simp [hnone]
  have hscripts : (if b.totalExecuted last ≠ 0 then
      b.errorDbUpdateRegister (b.totalExecuted last) (b.totalErrors last) else b).scripts =
      b.scripts := by
    unfold errorDbUpdateRegister
    split_ifs <;> rfl
  have hstats : (if b.totalExecuted last ≠ 0 then
      b.errorDbUpdateRegister (b.totalExecuted last) (b.totalErrors last) else b).currentStats =
      b.currentStats := by
    unfold errorDbUpdateRegister
    split_ifs <;> rfl
  unfold accountSample
  rw [if_neg haccepts, openRegister?_noteAccepted]
  dsimp only
  rw [hscripts, hstats]
  have hopen := hadded phase
  unfold openRegister? at hopen ⊢
  dsimp only at hopen ⊢
  rw [hopen, Option.map_map]
  rfl

/-! ## One step -/

/-- The state after a sample that was accepted. -/
lemma accountSample_accepted {last : Sample K}
    (haccepts : ¬ ((b.currentStats.time - last.time : ℤ) : ℚ) < b.samplingTime) :
    (b.accountSample last).lastStats = some b.currentStats ∧
      (b.accountSample last).scripts = b.scripts ∧
      (b.accountSample last).measured = b.measured := by
  unfold accountSample
  rw [if_neg haccepts]
  refine ⟨rfl, ?_, ?_⟩
  all_goals
    dsimp only [noteAccepted]
    unfold errorDbUpdateRegister
    split_ifs <;> rfl

/-- What the registers hold grows with their phases. -/
lemma growth_accepted {r : ErrorRegister} {last totals : ℤ × ℤ}
    (haccounted : (r.executed, r.errors) = r.growth) (hlast : last = r.accepted.getD r.opened)
    (d : ℤ × ℤ) (hd : d = totals - last) :
    (r.executed + d.1, r.errors + d.2) =
      ErrorRegister.growth { r with
        executed := r.executed + d.1
        errors := r.errors + d.2
        accepted := some totals } := by
  have hsum : (r.executed + d.1, r.errors + d.2) = (r.executed, r.errors) + d := rfl
  rw [hsum, haccounted, hd, hlast]
  show r.growth + (totals - r.accepted.getD r.opened) = totals - r.opened
  unfold ErrorRegister.growth
  rcases r.accepted with _ | accepted
  · exact zero_add _
  · show accepted - r.opened + (totals - accepted) = totals - r.opened
    abel

/-- A sample with a baseline that fits. -/
lemma baseline_accountSample {last : Sample K} (hstats : b.currentStats = b.measured)
    (haccounted : b.Accounted)
    (hlast : ∀ phase, ∀ r ∈ b.openRegister? phase,
      last.totals b.scripts phase = r.accepted.getD r.opened)
    (hle : last.Le b.scripts b.measured)
    (hothers : b.Accepts last → ∀ phase, ∀ r ∈ b.openRegister? phase, phase ≠ b.trafficPhase →
      b.measured.totals b.scripts phase = last.totals b.scripts phase) :
    (b.accountSample last).Baseline := by
  by_cases haccepts : ((b.currentStats.time - last.time : ℤ) : ℚ) < b.samplingTime
  · unfold accountSample
    rw [if_pos haccepts]
    refine ⟨haccounted, ?_, fun hnone => by simp at hnone, ?_⟩
    · rintro _ ⟨⟩
      exact hlast
    · rintro _ ⟨⟩
      exact hle
  · obtain ⟨hlastStats, hscripts, hmeasured⟩ := accountSample_accepted haccepts
    have hopen := openRegister?_accountSample (hstats ▸ hle) haccepts
    have hadded : ∀ phase, ∀ r ∈ b.openRegister? phase, b.added last phase =
        b.currentStats.totals b.scripts phase - last.totals b.scripts phase := by
      intro phase r hr
      unfold added
      split_ifs with hphase
      · rfl
      · have hsame := hothers (by rw [Accepts, ← hstats]; exact not_lt.mp haccepts) phase r hr hphase
        rw [hstats, hsame]
        exact (sub_self _).symm
    refine ⟨?_, ?_, fun hnone => absurd (hlastStats.symm.trans hnone) (by simp), ?_⟩
    · intro phase r' hr'
      rw [hopen] at hr'
      obtain ⟨r, hr, rfl⟩ := Option.map_eq_some_iff.mp hr'
      exact growth_accepted (haccounted phase r hr) (hlast phase r hr) _ (hadded phase r hr)
    · intro last' hlast' phase r' hr'
      rw [hlastStats] at hlast'
      obtain rfl := Option.some.inj hlast'
      rw [hopen] at hr'
      obtain ⟨r, hr, rfl⟩ := Option.map_eq_some_iff.mp hr'
      rw [hscripts]
      rfl
    · intro last' hlast'
      rw [hlastStats] at hlast'
      obtain rfl := Option.some.inj hlast'
      rw [hscripts, hmeasured, hstats]
      exact fun k _ phase => ⟨le_refl _, le_refl _⟩

/-- A sample that loses nothing. -/
lemma Baseline.checkResult (h : b.Baseline) (hlost : b.NothingLost .check) :
    b.checkResult.Baseline := by
  unfold Bat.checkResult
  split_ifs with henable
  · have hlost := hlost henable
    unfold updateErrorsInfo
    dsimp only
    rcases hstats : b.lastStats with _ | last
    · rw [show b.getCurrentStats.lastStats = none from hstats, Option.getD_none]
      refine baseline_accountSample rfl h.accounted ?_ ?_ fun _ _ _ _ _ => rfl
      · intro phase r hr
        rw [h.first hstats phase r hr]
        exact (hlost phase r hr).1 hstats
      · exact fun k _ phase => ⟨le_refl _, le_refl _⟩
    · rw [show b.getCurrentStats.lastStats = some last from hstats, Option.getD_some]
      exact baseline_accountSample rfl h.accounted (h.last last hstats) (h.le last hstats)
        fun haccepts phase r hr hphase => (hlost phase r hr).2 last hstats haccepts hphase
  · exact h

/-- A register that is opened when nothing has happened in its phase. -/
lemma Baseline.openRegister (h : b.Baseline) {phase : TrafficPhase} {scenario : ℕ}
    (hlost : b.NothingLost (.openRegister phase scenario)) :
    (b.errorDbOpenRegister phase scenario).Baseline := by
  have hframe : (b.errorDbOpenRegister phase scenario).lastStats = b.lastStats ∧
      (b.errorDbOpenRegister phase scenario).scripts = b.scripts ∧
      (b.errorDbOpenRegister phase scenario).measured = b.measured := by
    unfold errorDbOpenRegister
    dsimp only
    split_ifs <;> exact ⟨rfl, rfl, rfl⟩
  obtain ⟨hstats, hscripts, hmeasured⟩ := hframe
  refine ⟨?_, ?_, ?_, ?_⟩
  · intro phase' r hr
    obtain hr | ⟨-, rfl⟩ := openRegister?_errorDbOpenRegister hr
    · exact h.accounted phase' r hr
    · rfl
  · intro last hlast phase' r hr
    rw [hstats] at hlast
    rw [hscripts]
    obtain hr | ⟨rfl, rfl⟩ := openRegister?_errorDbOpenRegister hr
    · exact h.last last hlast phase' r hr
    · exact hlost last hlast
  · intro hnone phase' r hr
    rw [hstats] at hnone
    obtain hr | ⟨-, rfl⟩ := openRegister?_errorDbOpenRegister hr
    · exact h.first hnone phase' r hr
    · rfl
  · rw [hstats, hscripts, hmeasured]
    exact h.le

/-- A register that is closed. -/
lemma Baseline.closeRegister (h : b.Baseline) : b.errorDbCloseRegister.Baseline := by
  have hframe : b.errorDbCloseRegister.lastStats = b.lastStats ∧
      b.errorDbCloseRegister.scripts = b.scripts ∧
      b.errorDbCloseRegister.measured = b.measured := by
    unfold errorDbCloseRegister
    split_ifs <;> exact ⟨rfl, rfl, rfl⟩
  obtain ⟨hstats, hscripts, hmeasured⟩ := hframe
  have hopen : ∀ phase, ∀ r ∈ b.errorDbCloseRegister.openRegister? phase, r ∈ b.openRegister? phase := by
    intro phase r hr
    rw [openRegister?_errorDbCloseRegister] at hr
    split_ifs at hr
    · cases hr
    · exact hr
  refine ⟨fun phase r hr => h.accounted phase r (hopen phase r hr), ?_, ?_, ?_⟩
  · rw [hstats, hscripts]
    exact fun last hlast phase r hr => h.last last hlast phase r (hopen phase r hr)
  · rw [hstats]
    exact fun hnone phase r hr => h.first hnone phase r (hopen phase r hr)
  · rw [hstats, hscripts, hmeasured]
    exact h.le

/-- **One step** in which nothing gets lost. -/
lemma Baseline.step {b' : Bat K} {e : Event K} (h : b.Baseline) (hlost : b.NothingLost e)
    (hstep : step b e = some b') : b'.Baseline := by
  rcases e with s | _ | ⟨phase, scenario⟩ | _ | phase
  · obtain ⟨hle, heq⟩ := Option.ite_none_right_eq_some.mp hstep
    obtain rfl := Option.some.inj heq
    refine ⟨h.accounted, h.last, h.first, fun last hlast k hk phase => ?_⟩
    have hbefore := h.le last hlast k hk phase
    have hafter := hle k hk phase
    exact ⟨hbefore.1.trans hafter.1, hbefore.2.trans hafter.2⟩
  · obtain rfl := Option.some.inj hstep
    exact h.checkResult hlost
  · obtain rfl := Option.some.inj hstep
    exact h.openRegister hlost
  · obtain rfl := Option.some.inj hstep
    exact h.closeRegister
  · obtain rfl := Option.some.inj hstep
    exact ⟨h.accounted, h.last, h.first, h.le⟩

/-- **Traffic errors are not lost** in runs whose steps lose nothing: every open register holds what
the executed cases and the errors of its phase have grown by, from its opening to the last sample
that was accepted. -/
theorem accounted_throughout (scripts : List K) (enable : TrafficPhase → Bool) (samplingTime : ℚ)
    (es : List (Event K))
    (hlost : LabelledSystem.Along step NothingLost (init scripts enable samplingTime) es) :
    LabelledSystem.Throughout step Accounted (init scripts enable samplingTime) es := by
  refine LabelledSystem.throughout_of_along (I := Baseline) (fun _ _ _ h hC hstep => h.step hC hstep)
    (fun _ h => h.accounted) ?_ hlost
  refine ⟨?_, ?_, ?_, ?_⟩
  · intro phase r hr
    cases hr
  · intro last hlast
    cases hlast
  · intro _ phase r hr
    cases hr
  · intro last hlast
    cases hlast

/-- A sample of one script, with what it has done in the first two phases. -/
def sampleOf (time : ℤ) (preexec loadgen : Counters) : Sample ℕ where
  time := time
  values _ phase :=
    match phase with
    | .preexec => preexec
    | .loadgen => loadgen
    | .postexec => ⟨0, 0, 0⟩

/-- A BAT instance with one script, all of whose phases are monitored. -/
def oneScript : Bat ℕ := init [0] (fun _ => true) 0

/-- The first sample shows that nothing has happened yet, and the second shows some cases. -/
def quietStart : List (Event ℕ) :=
  [.openRegister .preexec 0, .check, .measure (sampleOf 5 ⟨1, 10, 2⟩ ⟨0, 0, 0⟩), .check]

/-- In this run nothing is lost. -/
theorem quietStart_accounted : LabelledSystem.Throughout step Accounted oneScript quietStart := by
  refine accounted_throughout [0] (fun _ => true) 0 quietStart ?_
  iterate 4
    rintro _ ⟨⟩
    refine ⟨by decide +kernel, ?_⟩
  trivial

/-- The first sample shows some cases already, and the second shows the next phase. -/
def loudStart : List (Event ℕ) :=
  [.openRegister .preexec 0, .measure (sampleOf 5 ⟨1, 10, 2⟩ ⟨0, 0, 0⟩), .check,
    .openRegister .loadgen 1, .measure (sampleOf 10 ⟨1, 20, 5⟩ ⟨1, 7, 1⟩), .check]

/-- In this run the register of the first phase holds nothing of the 20 cases and 5 errors. -/
theorem loudStart_lost :
    (LabelledSystem.exec step oneScript loudStart).map (fun b =>
        (b.openRegister? .preexec).map fun r => (r.executed, r.errors, r.growth)) =
      some (some (0, 0, (25, 5))) ∧
      ¬ LabelledSystem.Throughout step Accounted oneScript loudStart := by
  have hregister : (LabelledSystem.exec step oneScript loudStart).map (fun b =>
      (b.openRegister? .preexec).map fun r => (r.executed, r.errors, r.growth)) =
      some (some (0, 0, (25, 5))) := by
    decide +kernel
  refine ⟨hregister, fun h => ?_⟩
  obtain ⟨b, hb, hmap⟩ := Option.map_eq_some_iff.mp hregister
  obtain ⟨r, hr, hvalues⟩ := Option.map_eq_some_iff.mp hmap
  have haccounted := h.last hb .preexec r hr
  obtain ⟨hexecuted, herrors, hgrowth⟩ : r.executed = 0 ∧ r.errors = 0 ∧ r.growth = (25, 5) := by
    simpa using hvalues
  rw [hexecuted, herrors, hgrowth] at haccounted
  cases haccounted

end Bat

end HssRtc
