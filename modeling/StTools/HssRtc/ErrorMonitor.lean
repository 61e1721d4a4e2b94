import StTools.HssRtc.BatStatistics

/-!
# The error monitor

The error monitor opens a *scenario register* together with a register of every BAT instance, and
when it is stopped it closes these and adds them up.  It opens the registers of the BAT instances in
the phase that it is given, but closes and reads the last ones of the phases that the instances are in
at that time.  The phases of the execution, the capacity handler and the action handler call it from
different threads, and no lock keeps the calls apart.

A scenario register and those that were opened with it have the same number, as a ghost.  The main
theorem says in which runs every scenario register is closed once, with the sums of its own registers.
-/

namespace HssRtc

variable {K : Type*}

/-! ## The registers of a BAT instance -/

namespace Bat

/-- The registers that were opened in a phase with a scenario register. -/
def openedWith (b : Bat K) (phase : TrafficPhase) (k : ℕ) : List ErrorRegister :=
  (b.errorDb phase).filter fun e => e.scenario = k

/-- A change that leaves the closed registers as they are, and the others open. -/
structure Harmless (f : ErrorRegister → ErrorRegister) : Prop where
  scenario : ∀ e, (f e).scenario = e.scenario
  stopped : ∀ e, (f e).stopped = e.stopped
  fixed : ∀ e, e.stopped = true → f e = e

/-- The last registers have changed, but not those that are closed. -/
structure Updates (b b' : Bat K) : Prop where
  enable : b'.enable = b.enable
  errorDb : ∀ phase, ∃ f, Harmless f ∧ b'.errorDb phase = (b.errorDb phase).modifyHead f

/-- No change. -/
lemma harmless_id : Harmless id := ⟨fun _ => rfl, fun _ => rfl, fun _ _ => rfl⟩

/-- A change of the open registers. -/
lemma harmless_ite {f : ErrorRegister → ErrorRegister} (hscenario : ∀ e, (f e).scenario = e.scenario)
    (hstopped : ∀ e, (f e).stopped = e.stopped) :
    Harmless fun e => if e.stopped then e else f e := by
  refine ⟨fun e => ?_, fun e => ?_, fun e he => if_pos he⟩
  all_goals split_ifs
  · rfl
  · exact hscenario e
  · rfl
  · exact hstopped e

/-- Two changes. -/
lemma Harmless.comp {f g : ErrorRegister → ErrorRegister} (hf : Harmless f) (hg : Harmless g) :
    Harmless (g ∘ f) where
  scenario e := (hg.scenario _).trans (hf.scenario e)
  stopped e := (hg.stopped _).trans (hf.stopped e)
  fixed e he := by rw [Function.comp_apply, hf.fixed e he, hg.fixed e he]

/-- Registers that stay as they are. -/
lemma updates_of_eq {b b' : Bat K} (henable : b'.enable = b.enable) (hdb : b'.errorDb = b.errorDb) :
    b.Updates b' :=
  ⟨henable, fun phase => ⟨id, harmless_id, by rw [hdb, List.modifyHead_id, id]⟩⟩

/-- Two updates. -/
lemma Updates.trans {b b' b'' : Bat K} (h : b.Updates b') (h' : b'.Updates b'') : b.Updates b'' where
  enable := h'.enable.trans h.enable
  errorDb phase := by
    obtain ⟨f, hf, hdb⟩ := h.errorDb phase
    obtain ⟨g, hg, hdb'⟩ := h'.errorDb phase
    exact ⟨g ∘ f, hf.comp hg, by rw [hdb', hdb, List.modifyHead_modifyHead]⟩

/-- The registers that were opened with a scenario register, after the last register of their phase
has changed. -/
lemma openedWith_modifyHead {b b' : Bat K} {phase : TrafficPhase} {f : ErrorRegister → ErrorRegister}
    (hf : ∀ e, (f e).scenario = e.scenario)
    (hdb : b'.errorDb phase = (b.errorDb phase).modifyHead f) (k : ℕ) :
    b'.openedWith phase k = b.openedWith phase k ∨
      b'.openedWith phase k = (b.openedWith phase k).modifyHead f := by
  unfold Bat.openedWith
  rw [hdb]
  rcases b.errorDb phase with _ | ⟨e, es⟩
  · exact Or.inl rfl
  · by_cases he : e.scenario = k
    · exact Or.inr (by simp [hf, he])
    · exact Or.inl (by simp [hf, he])

/-- The numbers stay as they are. -/
lemma scenario_lt_of_modifyHead {b b' : Bat K} {phase : TrafficPhase}
    {f : ErrorRegister → ErrorRegister} (hf : ∀ e, (f e).scenario = e.scenario)
    (hdb : b'.errorDb phase = (b.errorDb phase).modifyHead f) {n : ℕ}
    (h : ∀ e ∈ b.errorDb phase, e.scenario < n) : ∀ e ∈ b'.errorDb phase, e.scenario < n := by
  intro e he
  rw [hdb] at he
  rcases hlist : b.errorDb phase with _ | ⟨first, rest⟩
  · rw [hlist] at he
    cases he
  · rw [hlist, List.modifyHead_cons] at he
    obtain rfl | he := List.mem_cons.mp he
    · rw [hf]
      exact h first (hlist ▸ List.mem_cons_self)
    · exact h e (hlist ▸ List.mem_cons_of_mem first he)

/-- A single register that is closed stays as it is, and an open one stays open. -/
lemma Updates.openedWith_singleton {b b' : Bat K} (h : b.Updates b') {phase : TrafficPhase} {k : ℕ}
    {e : ErrorRegister} (he : b.openedWith phase k = [e]) :
    ∃ e', b'.openedWith phase k = [e'] ∧ e'.stopped = e.stopped ∧ (e.stopped = true → e' = e) := by
  obtain ⟨f, hf, hdb⟩ := h.errorDb phase
  obtain hsame | hchange := openedWith_modifyHead hf.scenario hdb k
  · exact ⟨e, hsame.trans he, rfl, fun _ => rfl⟩
  · refine ⟨f e, ?_, hf.stopped e, hf.fixed e⟩
    rw [hchange, he]
    rfl

/-- The change of an open register. -/
lemma updates_errorDbUpdateRegister (b : Bat K) (executed errors : ℤ) :
    b.Updates (b.errorDbUpdateRegister executed errors) := by
  unfold errorDbUpdateRegister
  split_ifs with hregistering
  · refine ⟨rfl, fun phase => ?_⟩
    by_cases hphase : phase = b.trafficPhase
    · subst hphase
      refine ⟨_, harmless_ite (f := fun e =>
        { e with executed := e.executed + executed, errors := e.errors + errors })
        (fun _ => rfl) (fun _ => rfl), ?_⟩
      unfold errorDbRegistering at hregistering
      unfold updateLast
      dsimp only
      rw [Function.update_self]
      rcases hdb : b.errorDb b.trafficPhase with _ | ⟨e, es⟩
      · rfl
      · rw [hdb] at hregistering
        have hopen : ¬ e.stopped = true := by simpa using hregistering
        simp [hopen]
    · refine ⟨id, harmless_id, ?_⟩
      unfold updateLast
      dsimp only
      rw [Function.update_of_ne hphase, List.modifyHead_id, id]
  · exact updates_of_eq rfl rfl

/-- What a sample that was accepted changes. -/
lemma updates_noteAccepted (b : Bat K) : b.Updates b.noteAccepted := by
  refine ⟨rfl, fun phase => ⟨fun e => if e.stopped then e else
    { e with accepted := some (b.currentStats.totals b.scripts phase) }, ?_, rfl⟩⟩
  exact harmless_ite (fun _ => rfl) (fun _ => rfl)

/-- The account of a sample changes only the open registers. -/
lemma updates_accountSample (b : Bat K) (last : Sample K) : b.Updates (b.accountSample last) := by
  unfold accountSample
  split_ifs
  · exact updates_of_eq rfl rfl
  · have hregister := updates_errorDbUpdateRegister b (b.totalExecuted last) (b.totalErrors last)
    refine Updates.trans ?_ (updates_noteAccepted _)
    exact hregister.trans (updates_of_eq rfl rfl)
  · refine Updates.trans ?_ (updates_noteAccepted _)
    exact updates_of_eq rfl rfl

/-- A sample changes only the open registers. -/
lemma updates_checkResult (b : Bat K) : b.Updates b.checkResult := by
  unfold checkResult
  split_ifs
  · have hcurrent : b.Updates b.getCurrentStats := updates_of_eq rfl rfl
    exact hcurrent.trans (updates_accountSample _ _)
  · exact updates_of_eq rfl rfl

/-- A step that opens and closes no register. -/
lemma updates_step {b b' : Bat K} {e : Event K} (hopen : ∀ phase k, e ≠ .openRegister phase k)
    (hclose : e ≠ .closeRegister) (hstep : step b e = some b') : b.Updates b' := by
  rcases e with s | _ | ⟨phase, k⟩ | _ | phase
  · obtain ⟨-, heq⟩ := Option.ite_none_right_eq_some.mp hstep
    obtain rfl := Option.some.inj heq
    exact updates_of_eq rfl rfl
  · obtain rfl := Option.some.inj hstep
    exact updates_checkResult b
  · exact absurd rfl (hopen phase k)
  · exact absurd rfl hclose
  · obtain rfl := Option.some.inj hstep
    exact updates_of_eq rfl rfl

/-- A new register is the last one of its phase. -/
lemma errorDb_errorDbOpenRegister_self (b : Bat K) {phase : TrafficPhase} {k : ℕ}
    (henable : b.enable phase = true) : (b.errorDbOpenRegister phase k).errorDb phase =
      ⟨false, 0, 0, k, b.measured.totals b.scripts phase, none⟩ :: b.errorDb phase := by
  unfold errorDbOpenRegister
  rw [if_pos henable]
  exact Function.update_self ..

/-- It is the only one that is new. -/
lemma mem_errorDbOpenRegister (b : Bat K) {phase phase' : TrafficPhase} {k : ℕ} {e : ErrorRegister}
    (he : e ∈ (b.errorDbOpenRegister phase k).errorDb phase') :
    e ∈ b.errorDb phase' ∨ e = ⟨false, 0, 0, k, b.measured.totals b.scripts phase, none⟩ := by
  unfold errorDbOpenRegister at he
  dsimp only at he
  split_ifs at he
  · dsimp only at he
    by_cases hphase : phase' = phase
    · subst hphase
      rw [Function.update_self] at he
      exact (List.mem_cons.mp he).symm
    · rw [Function.update_of_ne hphase] at he
      exact Or.inl he
  · exact Or.inl he

/-- The configuration stays. -/
lemma errorDbOpenRegister_enable (b : Bat K) {phase : TrafficPhase} {k : ℕ} :
    (b.errorDbOpenRegister phase k).enable = b.enable := by
  unfold errorDbOpenRegister
  dsimp only
  split_ifs <;> rfl

/-- The new register is the first with its number. -/
lemma openedWith_errorDbOpenRegister_self (b : Bat K) {phase : TrafficPhase} {k : ℕ}
    (henable : b.enable phase = true) : (b.errorDbOpenRegister phase k).openedWith phase k =
      ⟨false, 0, 0, k, b.measured.totals b.scripts phase, none⟩ :: b.openedWith phase k := by
  unfold openedWith
  rw [b.errorDb_errorDbOpenRegister_self henable, List.filter_cons_of_pos (by simp)]

/-- The registers with other numbers stay. -/
lemma openedWith_errorDbOpenRegister (b : Bat K) {phase phase' : TrafficPhase} {k k' : ℕ}
    (hne : k' ≠ k) : (b.errorDbOpenRegister phase k).openedWith phase' k' = b.openedWith phase' k' := by
  unfold errorDbOpenRegister openedWith
  dsimp only
  split_ifs
  · dsimp only
    by_cases hphase : phase' = phase
    · subst hphase
      rw [Function.update_self, List.filter_cons_of_neg (by simp [hne.symm])]
    · rw [Function.update_of_ne hphase]
  · rfl

/-- The last register of the current phase is closed, if it is open. -/
lemma errorDb_errorDbCloseRegister (b : Bat K) (phase : TrafficPhase) :
    ∃ f : ErrorRegister → ErrorRegister, (f = id ∨ f = fun e => { e with stopped := true }) ∧
      b.errorDbCloseRegister.errorDb phase = (b.errorDb phase).modifyHead f := by
  unfold errorDbCloseRegister
  split_ifs
  · unfold updateLast
    dsimp only
    by_cases hphase : phase = b.trafficPhase
    · subst hphase
      exact ⟨_, Or.inr rfl, Function.update_self ..⟩
    · refine ⟨id, Or.inl rfl, ?_⟩
      rw [Function.update_of_ne hphase, List.modifyHead_id, id]
  · exact ⟨id, Or.inl rfl, by rw [List.modifyHead_id, id]⟩

/-- In the current phase an open register is closed. -/
lemma errorDb_errorDbCloseRegister_self (b : Bat K) {phase : TrafficPhase} {e : ErrorRegister}
    {es : List ErrorRegister} (hphase : b.trafficPhase = phase) (hdb : b.errorDb phase = e :: es)
    (hopen : e.stopped = false) :
    b.errorDbCloseRegister.errorDb phase = { e with stopped := true } :: es := by
  subst hphase
  have hregistering : b.errorDbRegistering = true := by
    unfold errorDbRegistering
    rw [hdb]
    simp [hopen]
  unfold errorDbCloseRegister updateLast
  rw [if_pos hregistering]
  dsimp only
  rw [Function.update_self, hdb, List.modifyHead_cons]

/-- The configuration stays. -/
lemma errorDbCloseRegister_enable (b : Bat K) : b.errorDbCloseRegister.enable = b.enable := by
  unfold errorDbCloseRegister
  split_ifs <;> rfl

/-- A register that is closed keeps what it holds. -/
lemma openedWith_errorDbCloseRegister (b : Bat K) {phase : TrafficPhase} {k : ℕ} {e : ErrorRegister}
    (he : b.openedWith phase k = [e]) :
    ∃ e', b.errorDbCloseRegister.openedWith phase k = [e'] ∧ e'.executed = e.executed ∧
      e'.errors = e.errors ∧ (e.stopped = true → e'.stopped = true) := by
  obtain ⟨f, hf, hdb⟩ := b.errorDb_errorDbCloseRegister phase
  have hscenario : ∀ e, (f e).scenario = e.scenario := by
    obtain rfl | rfl := hf <;> exact fun _ => rfl
  obtain hsame | hchange := openedWith_modifyHead hscenario hdb k
  · exact ⟨e, hsame.trans he, rfl, rfl, id⟩
  · refine ⟨f e, by rw [hchange, he]; rfl, ?_⟩
    obtain rfl | rfl := hf
    · exact ⟨rfl, rfl, id⟩
    · exact ⟨rfl, rfl, fun _ => rfl⟩

end Bat

/-! ## Scenario registers -/

/-- A scenario register. -/
structure ScenarioRegister where
  phase : TrafficPhase
  stopped : Bool
  executed : ℤ
  errors : ℤ
  /-- In percent; `-1` before the register is closed. -/
  errorRate : ℚ
  maxErrorRate : ℚ
  check : Bool
  /-- Ghost: how often it was closed. -/
  closes : ℕ
  deriving DecidableEq

/-- Where a thread is in `start_monitoring` or `stop_monitoring`. -/
inductive MonitorCall
  /-- The registers are opened, and `monitoring` is to be set. -/
  | opened
  /-- The registers of the BAT instances are closed, and the scenario register is to be closed. -/
  | reading
  /-- `monitoring` is to be cleared. -/
  | ending
  deriving DecidableEq

/-- The error monitor, with the BAT instances. -/
structure ErrorMonitor (K : Type*) where
  running : Bool
  monitoring : Bool
  enable : TrafficPhase → Bool
  phase : TrafficPhase
  defaultErrorRate : ℚ
  errorRate : ℚ
  errorDb : List ScenarioRegister
  bats : List (Bat K)
  /-- The calls of the threads that are in the monitor. -/
  calls : List MonitorCall

namespace ErrorMonitor

/-- The monitor for BAT instances with the given scripts and sampling times. -/
def init (enable : TrafficPhase → Bool) (defaultErrorRate : ℚ) (bats : List (List K × ℚ)) :
    ErrorMonitor K where
  running := true
  monitoring := false
  enable := enable
  phase := .preexec
  defaultErrorRate := defaultErrorRate
  errorRate := 1 / 10
  errorDb := []
  bats := bats.map fun b => Bat.init b.1 enable b.2
  calls := []

/-- A new scenario register. -/
def newRegister (phase : TrafficPhase) (maxErrorRate : ℚ) : ScenarioRegister where
  phase := phase
  stopped := false
  executed := 0
  errors := 0
  errorRate := -1
  maxErrorRate := maxErrorRate
  check := true
  closes := 0

/-- `start_monitoring`, up to the statement that sets `monitoring`. -/
def startMonitoring (m : ErrorMonitor K) (phase : TrafficPhase) (errorRate : Option ℚ) :
    ErrorMonitor K :=
  if !m.running then m
  else if m.enable phase then
    let errorRate := errorRate.getD m.defaultErrorRate
    { m with
      phase := phase
      errorRate := errorRate
      errorDb := m.errorDb ++ [newRegister phase errorRate]
      bats := m.bats.map fun b => b.errorDbOpenRegister phase m.errorDb.length
      calls := m.calls ++ [.opened] }
  else { m with phase := phase }

/-- The first part of `stop_monitoring`: while something is monitored, the registers of the BAT
instances are closed. -/
def stopMonitoring (m : ErrorMonitor K) : ErrorMonitor K :=
  if !m.running then m
  else if m.monitoring then
    { m with bats := m.bats.map Bat.errorDbCloseRegister, calls := m.calls ++ [.reading] }
  else { m with calls := m.calls ++ [.ending] }

/-- The executed cases and the errors in percent. -/
def percentage (executed errors : ℤ) : ℚ :=
  if executed ≠ 0 then (errors * 100 : ℤ) / (executed : ℚ) else 0

/-- A scenario register is closed with the sums of what the BAT instances read. -/
def closeRegister (counters : List (ℤ × ℤ)) (r : ScenarioRegister) : ScenarioRegister :=
  let executed := r.executed + counters.sum.1
  let errors := r.errors + counters.sum.2
  { r with
    stopped := true
    executed := executed
    errors := errors
    errorRate := percentage executed errors
    closes := r.closes + 1 }

/-- The last scenario register changes. -/
def updateLast (m : ErrorMonitor K) (f : ScenarioRegister → ScenarioRegister) : ErrorMonitor K :=
  { m with errorDb := m.errorDb.modify (m.errorDb.length - 1) f }

/-- `error_db_close_register`. -/
def errorDbCloseRegister (m : ErrorMonitor K) : ErrorMonitor K :=
  m.updateLast (closeRegister (m.bats.map Bat.errorDbReadRegisterCounters))

/-- The thread of a call goes on. -/
def proceed (m : ErrorMonitor K) (i : ℕ) : MonitorCall → ErrorMonitor K
  | .opened => { m with monitoring := true, calls := m.calls.eraseIdx i }
  | .reading => { m.errorDbCloseRegister with calls := m.calls.set i .ending }
  | .ending => { m with monitoring := false, calls := m.calls.eraseIdx i }

/-- `last_error_rate`. -/
def lastErrorRate (m : ErrorMonitor K) : ℚ :=
  match m.errorDb.getLast? with
  | none => -1
  | some r => r.errorRate

/-- `skip_check_last_register`. -/
def skipCheckLastRegister (m : ErrorMonitor K) : ErrorMonitor K :=
  m.updateLast fun r => { r with check := false }

/-! ## Runs -/

/-- What happens. -/
inductive Event (K : Type*)
  /-- A thread calls `start_monitoring`. -/
  | start (phase : TrafficPhase) (errorRate : Option ℚ)
  /-- A thread calls `stop_monitoring`. -/
  | stop
  /-- The thread of a call goes on. -/
  | proceed (i : ℕ)
  | skipCheck
  /-- The end of `shutdown`, which stops first what is monitored. -/
  | shutdown
  /-- The statistics of a BAT instance grow. -/
  | measure (i : ℕ) (s : Sample K)
  /-- A BAT instance takes a sample. -/
  | check (i : ℕ)
  /-- The execution has started a phase of a BAT instance. -/
  | setTrafficPhase (i : ℕ) (phase : TrafficPhase)

/-- A BAT instance makes a step. -/
def batStep (m : ErrorMonitor K) (i : ℕ) (e : Bat.Event K) : Option (ErrorMonitor K) :=
  match m.bats[i]? with
  | none => none
  | some b => (Bat.step b e).map fun b' => { m with bats := m.bats.set i b' }

/-- One step.  Every thread can call the monitor at any time. -/
def step (m : ErrorMonitor K) : Event K → Option (ErrorMonitor K)
  | .start phase errorRate => some (m.startMonitoring phase errorRate)
  | .stop => some m.stopMonitoring
  | .proceed i =>
    match m.calls[i]? with
    | some call => some (m.proceed i call)
    | none => none
  | .skipCheck => some m.skipCheckLastRegister
  | .shutdown => some { m with running := false }
  | .measure i s => m.batStep i (.measure s)
  | .check i => m.batStep i .check
  | .setTrafficPhase i phase => m.batStep i (.setTrafficPhase phase)

/-! ## What should hold -/

/-- The last scenario register is monitored, or is just opened. -/
def Monitors (m : ErrorMonitor K) (k : ℕ) : Prop :=
  (m.monitoring = true ∨ MonitorCall.opened ∈ m.calls) ∧ k + 1 = m.errorDb.length

/-- The scenario registers and those of the BAT instances fit together. -/
structure Paired (m : ErrorMonitor K) : Prop where
  /-- Every scenario register is closed once, but for the one that is monitored. -/
  closes : ∀ k : ℕ, ∀ r ∈ m.errorDb[k]?, r.closes = 1 ∨ m.Monitors k ∧ r.closes = 0
  /-- Every BAT instance has opened one register with it, if its phase is enabled, and it was closed
  with it. -/
  bats : ∀ k : ℕ, ∀ r ∈ m.errorDb[k]?, ∀ b ∈ m.bats, ∃ e, b.openedWith r.phase k = [e] ∧
    (r.closes = 1 → e.stopped = true)
  /-- A scenario register that was closed holds the sums of the registers that were opened with it. -/
  totals : ∀ k : ℕ, ∀ r ∈ m.errorDb[k]?, r.closes = 1 → (r.executed, r.errors) =
    (m.bats.map fun b => ((b.openedWith r.phase k).map fun e => (e.executed, e.errors)).sum).sum

/-- The calls do not disturb each other: monitoring is not started while it goes on, no call begins
before another is over, and while monitoring is stopped every BAT instance is in the phase that it was
started for. -/
def InTurn (m : ErrorMonitor K) : Event K → Prop
  | .start phase _ => m.running = true → m.enable phase = true → m.monitoring = false ∧ m.calls = []
  | .stop => m.running = true → m.calls = [] ∧
    (m.monitoring = true → ∀ r ∈ m.errorDb.getLast?, ∀ b ∈ m.bats, b.trafficPhase = r.phase)
  | .proceed i => m.calls[i]? = some .reading →
    ∀ r ∈ m.errorDb.getLast?, ∀ b ∈ m.bats, b.trafficPhase = r.phase
  | .shutdown => m.monitoring = false ∧ m.calls = []
  | _ => True

/-- Whether the last scenario register is open, and then whether the registers that were opened with it
are closed. -/
def lastOpen (m : ErrorMonitor K) : Option Bool :=
  match m.calls with
  | [] => if m.monitoring then some false else none
  | .opened :: _ => some false
  | .reading :: _ => some true
  | .ending :: _ => none

/-- What keeps the registers paired. -/
structure Good (m : ErrorMonitor K) : Prop extends Paired m where
  /-- One thread at most is in the monitor. -/
  calls : m.calls.length ≤ 1
  /-- The BAT instances have the same configuration. -/
  enable : ∀ b ∈ m.bats, b.enable = m.enable
  /-- Registers are opened only with scenario registers. -/
  numbers : ∀ b ∈ m.bats, ∀ phase, ∀ e ∈ b.errorDb phase, e.scenario < m.errorDb.length
  /-- A scenario register that is open holds nothing. -/
  zero : ∀ k : ℕ, ∀ r ∈ m.errorDb[k]?, r.closes = 0 → r.executed = 0 ∧ r.errors = 0
  /-- While the last scenario register is open, the registers that were opened with it are the last ones
  of its phase. -/
  last : ∀ stopped ∈ m.lastOpen, m.running = true ∧ ∃ r, m.errorDb.getLast? = some r ∧ r.closes = 0 ∧
    ∀ b ∈ m.bats, ∃ e es, b.errorDb r.phase = e :: es ∧ e.scenario + 1 = m.errorDb.length ∧
      e.stopped = stopped
  /-- Otherwise all are closed. -/
  closed : m.lastOpen = none → ∀ k : ℕ, ∀ r ∈ m.errorDb[k]?, r.closes = 1
  /-- Only what is monitored is stopped. -/
  reading : MonitorCall.reading ∈ m.calls → m.monitoring = true

variable {m m' : ErrorMonitor K}

/-- Nothing is registered in the first state. -/
lemma good_init (enable : TrafficPhase → Bool) (defaultErrorRate : ℚ) (bats : List (List K × ℚ)) :
    Good (init enable defaultErrorRate bats) where
  closes k r hr := by cases hr
  bats k r hr := by cases hr
  totals k r hr := by cases hr
  enable b hb := by
    obtain ⟨_, -, rfl⟩ := List.mem_map.mp hb
    rfl
  numbers b hb phase e he := by
    obtain ⟨_, -, rfl⟩ := List.mem_map.mp hb
    cases he
  calls := Nat.zero_le 1
  zero k r hr := by cases hr
  last _ h := by cases h
  closed _ k r hr := by cases hr
  reading h := by cases h

/-! ## Steps of the BAT instances -/

/-- A list in which an element was replaced by one with the same value. -/
lemma map_set_of_eq {A V : Type*} {l : List A} {i : ℕ} {a a' : A} {g : A → V} (hi : l[i]? = some a)
    (hg : g a' = g a) : (l.set i a').map g = l.map g := by
  apply List.ext_getElem?
  intro j
  rw [List.getElem?_map, List.getElem?_map, List.getElem?_set]
  split_ifs with hj hlt
  · subst hj
    rw [hi, Option.map_some, Option.map_some, hg]
  · subst hj
    rw [List.getElem?_eq_none (not_lt.mp hlt)]
  · rfl

/-- A BAT instance updates its open registers. -/
lemma Good.update (h : m.Good) {i : ℕ} {b b' : Bat K} (hb : m.bats[i]? = some b)
    (hupdates : b.Updates b') : Good { m with bats := m.bats.set i b' } := by
  have hmem : b ∈ m.bats := List.mem_of_getElem? hb
  have hcases : ∀ x ∈ m.bats.set i b', x ∈ m.bats ∨ x = b' := fun x hx =>
    List.mem_or_eq_of_mem_set hx
  refine ⟨⟨h.closes, fun k r hr x hx => ?_, fun k r hr hclosed => ?_⟩, h.calls, fun x hx => ?_,
    fun x hx phase e he => ?_, h.zero, fun stopped hstopped => ?_, h.closed, h.reading⟩
  · obtain hx | rfl := hcases x hx
    · exact h.bats k r hr x hx
    · obtain ⟨e, he, hstopped⟩ := h.bats k r hr b hmem
      obtain ⟨e', he', hsame, -⟩ := hupdates.openedWith_singleton he
      exact ⟨e', he', fun hclosed => hsame.trans (hstopped hclosed)⟩
  · rw [h.totals k r hr hclosed]
    refine congrArg List.sum (map_set_of_eq hb ?_).symm
    obtain ⟨e, he, hstopped⟩ := h.bats k r hr b hmem
    obtain ⟨e', he', -, hfixed⟩ := hupdates.openedWith_singleton he
    rw [he, he', hfixed (hstopped hclosed)]
  · obtain hx | rfl := hcases x hx
    · exact h.enable x hx
    · exact hupdates.enable.trans (h.enable b hmem)
  · obtain hx | rfl := hcases x hx
    · exact h.numbers x hx phase e he
    · obtain ⟨f, hf, hdb⟩ := hupdates.errorDb phase
      exact Bat.scenario_lt_of_modifyHead hf.scenario hdb (h.numbers b hmem phase) e he
  · obtain ⟨hrunning, r, hr, hopen, hbats⟩ := h.last stopped hstopped
    refine ⟨hrunning, r, hr, hopen, fun x hx => ?_⟩
    obtain hx | rfl := hcases x hx
    · exact hbats x hx
    · obtain ⟨e, es, hlist, hscenario, hstopped⟩ := hbats b hmem
      obtain ⟨f, hf, hdb⟩ := hupdates.errorDb r.phase
      refine ⟨f e, es, by rw [hdb, hlist, List.modifyHead_cons], ?_, ?_⟩
      · rw [hf.scenario]
        exact hscenario
      · rw [hf.stopped]
        exact hstopped

/-- A step of a BAT instance. -/
lemma Good.batStep (h : m.Good) {i : ℕ} {e : Bat.Event K} (hopen : ∀ phase k, e ≠ .openRegister phase k)
    (hclose : e ≠ .closeRegister) (hstep : m.batStep i e = some m') : m'.Good := by
  unfold ErrorMonitor.batStep at hstep
  split at hstep
  · cases hstep
  · rename_i b hb
    obtain ⟨b', hb', rfl⟩ := Option.map_eq_some_iff.mp hstep
    exact h.update hb (Bat.updates_step hopen hclose hb')

/-! ## Monitoring starts -/

/-- Monitoring starts with new registers. -/
lemma Good.start (h : m.Good) {phase : TrafficPhase} {errorRate : Option ℚ}
    (hturn : m.InTurn (.start phase errorRate)) : (m.startMonitoring phase errorRate).Good := by
  unfold startMonitoring
  split_ifs with hrunning henable
  · exact h
  · have hrunning : m.running = true := by simpa using hrunning
    obtain ⟨hmonitoring, hcalls⟩ := hturn hrunning henable
    have hclosed := h.closed (by simp [lastOpen, hcalls, hmonitoring])
    have hindex : ∀ k, ∀ r ∈ (m.errorDb ++ [newRegister phase (errorRate.getD m.defaultErrorRate)])[k]?,
        r ∈ m.errorDb[k]? ∧ k < m.errorDb.length ∨ k = m.errorDb.length ∧
          r = newRegister phase (errorRate.getD m.defaultErrorRate) := by
      intro k r hr
      rw [List.getElem?_append] at hr
      split_ifs at hr with hlt
      · exact Or.inl ⟨hr, hlt⟩
      · obtain ⟨hk, hr⟩ := List.getElem?_eq_some_iff.mp hr
        rw [List.length_singleton] at hk
        simp only [List.getElem_singleton] at hr
        exact Or.inr ⟨by omega, hr.symm⟩
    have hopened : m.calls ++ [MonitorCall.opened] = [.opened] := by rw [hcalls, List.nil_append]
    refine ⟨⟨?_, ?_, ?_⟩, ?_, ?_, ?_, ?_, ?_, ?_, ?_⟩
    · intro k r hr
      obtain ⟨hr, -⟩ | ⟨rfl, rfl⟩ := hindex k r hr
      · exact Or.inl (hclosed k r hr)
      · refine Or.inr ⟨⟨Or.inr ?_, by simp⟩, rfl⟩
        exact List.mem_append_right m.calls List.mem_cons_self
    · intro k r hr x hx
      obtain ⟨b, hb, rfl⟩ := List.mem_map.mp hx
      obtain ⟨hr, hlt⟩ | ⟨rfl, rfl⟩ := hindex k r hr
      · rw [b.openedWith_errorDbOpenRegister (by omega)]
        exact h.bats k r hr b hb
      · have henabled : b.enable phase = true := (h.enable b hb) ▸ henable
        have hnone : b.openedWith phase m.errorDb.length = [] :=
          List.filter_eq_nil_iff.mpr fun e he => by
            have hlt := h.numbers b hb phase e he
            simp only [decide_eq_true_eq]
            omega
        refine ⟨⟨false, 0, 0, m.errorDb.length, b.measured.totals b.scripts phase, none⟩, ?_, ?_⟩
        · show (b.errorDbOpenRegister phase m.errorDb.length).openedWith phase _ = _
          rw [b.openedWith_errorDbOpenRegister_self henabled, hnone]
        · intro hclosed
          cases hclosed
    · intro k r hr hclosed
      obtain ⟨hr, hlt⟩ | ⟨rfl, rfl⟩ := hindex k r hr
      · rw [h.totals k r hr hclosed, List.map_map]
        refine congrArg List.sum (List.map_congr_left fun b _ => ?_)
        rw [Function.comp_apply, b.openedWith_errorDbOpenRegister (by omega)]
      · cases hclosed
    · exact (congrArg List.length hopened).le
    · intro x hx
      obtain ⟨b, hb, rfl⟩ := List.mem_map.mp hx
      rw [b.errorDbOpenRegister_enable]
      exact h.enable b hb
    · intro x hx phase' e he
      obtain ⟨b, hb, rfl⟩ := List.mem_map.mp hx
      rw [List.length_append, List.length_singleton]
      obtain he | rfl := b.mem_errorDbOpenRegister he
      · exact Nat.lt_succ_of_lt (h.numbers b hb phase' e he)
      · exact Nat.lt_succ_self _
    · intro k r hr hopen
      obtain ⟨hr, -⟩ | ⟨rfl, rfl⟩ := hindex k r hr
      · exact h.zero k r hr hopen
      · exact ⟨rfl, rfl⟩
    · intro stopped hstopped
      simp only [lastOpen, hopened, Option.mem_some_iff] at hstopped
      subst hstopped
      refine ⟨hrunning, _, List.getLast?_concat, rfl, fun x hx => ?_⟩
      obtain ⟨b, hb, rfl⟩ := List.mem_map.mp hx
      have henabled : b.enable phase = true := (h.enable b hb) ▸ henable
      refine ⟨_, b.errorDb phase, b.errorDb_errorDbOpenRegister_self henabled, ?_, rfl⟩
      rw [List.length_append, List.length_singleton]
    · intro hnone
      simp [lastOpen, hopened] at hnone
    · intro hreading
      simp [hopened] at hreading
  · exact ⟨⟨h.closes, h.bats, h.totals⟩, h.calls, h.enable, h.numbers, h.zero, h.last, h.closed,
      h.reading⟩

/-! ## Monitoring stops -/

/-- Monitoring stops: the registers of the BAT instances are closed. -/
lemma Good.stop (h : m.Good) (hturn : m.InTurn .stop) : m.stopMonitoring.Good := by
  unfold stopMonitoring
  split_ifs with hstopped hmonitoring
  · exact h
  · obtain ⟨hcalls, hphase⟩ := hturn (by simpa using hstopped)
    have hphase := hphase hmonitoring
    have hreading : m.calls ++ [MonitorCall.reading] = [.reading] := by rw [hcalls, List.nil_append]
    refine ⟨⟨fun k r hr => ?_, ?_, ?_⟩, ?_, ?_, ?_, h.zero, ?_, ?_, fun _ => hmonitoring⟩
    · exact (h.closes k r hr).imp_right fun hopen => ⟨⟨Or.inl hmonitoring, hopen.1.2⟩, hopen.2⟩
    · intro k r hr x hx
      obtain ⟨b, hb, rfl⟩ := List.mem_map.mp hx
      obtain ⟨e, he, hstopped⟩ := h.bats k r hr b hb
      obtain ⟨e', he', -, -, hstopped'⟩ := b.openedWith_errorDbCloseRegister he
      exact ⟨e', he', fun hclosed => hstopped' (hstopped hclosed)⟩
    · intro k r hr hclosed
      rw [h.totals k r hr hclosed, List.map_map]
      refine congrArg List.sum (List.map_congr_left fun b hb => ?_)
      obtain ⟨e, he, -⟩ := h.bats k r hr b hb
      obtain ⟨e', he', hexecuted, herrors, -⟩ := b.openedWith_errorDbCloseRegister he
      rw [Function.comp_apply, he, he', List.map_singleton, List.map_singleton, hexecuted, herrors]
    · exact (congrArg List.length hreading).le
    · intro x hx
      obtain ⟨b, hb, rfl⟩ := List.mem_map.mp hx
      rw [b.errorDbCloseRegister_enable]
      exact h.enable b hb
    · intro x hx phase
      obtain ⟨b, hb, rfl⟩ := List.mem_map.mp hx
      obtain ⟨f, hf, hdb⟩ := b.errorDb_errorDbCloseRegister phase
      refine Bat.scenario_lt_of_modifyHead ?_ hdb (h.numbers b hb phase)
      obtain rfl | rfl := hf <;> exact fun _ => rfl
    · intro stopped hlast
      simp only [lastOpen, hreading, Option.mem_some_iff] at hlast
      subst hlast
      obtain ⟨hrunning, r, hr, hopen, hbats⟩ := h.last false (by simp [lastOpen, hcalls, hmonitoring])
      refine ⟨hrunning, r, hr, hopen, fun x hx => ?_⟩
      obtain ⟨b, hb, rfl⟩ := List.mem_map.mp hx
      obtain ⟨e, es, hdb, hscenario, hstopped⟩ := hbats b hb
      exact ⟨_, es, b.errorDb_errorDbCloseRegister_self (hphase r hr b hb) hdb hstopped, hscenario, rfl⟩
    · intro hnone
      simp [lastOpen, hreading] at hnone
  · obtain ⟨hcalls, -⟩ := hturn (by simpa using hstopped)
    have hclosed := h.closed (by simp [lastOpen, hcalls, hmonitoring])
    have hending : m.calls ++ [MonitorCall.ending] = [.ending] := by rw [hcalls, List.nil_append]
    refine ⟨⟨fun k r hr => Or.inl (hclosed k r hr), h.bats, h.totals⟩, ?_, h.enable, h.numbers, h.zero,
      ?_, fun _ => hclosed, ?_⟩
    · exact (congrArg List.length hending).le
    · intro stopped hlast
      simp [lastOpen, hending] at hlast
    · intro hreading
      simp [hending] at hreading

/-- The last scenario register, after a change of it. -/
lemma mem_modify_last {l : List ScenarioRegister} {f : ScenarioRegister → ScenarioRegister} {k : ℕ}
    {r' : ScenarioRegister} (hr' : r' ∈ (l.modify (l.length - 1) f)[k]?) :
    ∃ r ∈ l[k]?, (k + 1 = l.length ∧ r' = f r) ∨ (k + 1 ≠ l.length ∧ r' = r) := by
  rw [List.getElem?_modify] at hr'
  obtain ⟨r, hr, heq⟩ := Option.map_eq_some_iff.mp hr'
  have hlt : k < l.length := (List.getElem?_eq_some_iff.mp hr).1
  refine ⟨r, hr, ?_⟩
  split_ifs at heq with hk
  · exact Or.inl ⟨by omega, heq.symm⟩
  · exact Or.inr ⟨by omega, heq.symm⟩

/-- The last scenario register is the one at the end. -/
lemma eq_last {l : List ScenarioRegister} {k : ℕ} {r r' : ScenarioRegister} (hr : r ∈ l[k]?)
    (hk : k + 1 = l.length) (hr' : l.getLast? = some r') : r = r' := by
  rw [List.getLast?_eq_getElem?, ← hk, Nat.add_sub_cancel] at hr'
  exact Option.some.inj (hr.symm.trans hr')

/-- What a BAT instance reads is what the register holds that it has opened. -/
lemma read_eq_openedWith {b : Bat K} {phase : TrafficPhase} {k : ℕ} {e e' : ErrorRegister}
    {es : List ErrorRegister} (hphase : b.trafficPhase = phase) (hdb : b.errorDb phase = e :: es)
    (hscenario : e.scenario = k) (he' : b.openedWith phase k = [e']) :
    e' = e ∧ b.errorDbReadRegisterCounters = (e.executed, e.errors) := by
  subst hphase
  refine ⟨?_, ?_⟩
  · unfold Bat.openedWith at he'
    rw [hdb, List.filter_cons_of_pos (by simp [hscenario])] at he'
    exact (List.cons.inj he').1.symm
  · unfold Bat.errorDbReadRegisterCounters
    rw [hdb]

/-- The call that goes on is the only one. -/
lemma Good.calls_eq (h : m.Good) {i : ℕ} {call : MonitorCall} (hi : m.calls[i]? = some call) :
    i = 0 ∧ m.calls = [call] := by
  have hcalls := h.calls
  obtain ⟨hlt, hcall⟩ := List.getElem?_eq_some_iff.mp hi
  obtain rfl : i = 0 := by omega
  obtain ⟨call', hsingle⟩ := List.length_eq_one_iff.mp (by omega : m.calls.length = 1)
  simp only [hsingle, List.getElem_cons_zero] at hcall
  exact ⟨rfl, by rw [hsingle, hcall]⟩

/-- The last scenario register is closed. -/
lemma Good.read (h : m.Good) (hcalls : m.calls = [.reading])
    (hphase : ∀ r ∈ m.errorDb.getLast?, ∀ b ∈ m.bats, b.trafficPhase = r.phase) :
    (m.proceed 0 .reading).Good := by
  obtain ⟨-, last, hlast, hopen, hbats⟩ := h.last true (by simp [lastOpen, hcalls])
  have hread : ∀ k, ∀ r ∈ m.errorDb[k]?, k + 1 = m.errorDb.length → ∀ b ∈ m.bats, ∃ e,
      b.openedWith r.phase k = [e] ∧ e.stopped = true ∧
        b.errorDbReadRegisterCounters = (e.executed, e.errors) := by
    intro k r hr hk b hb
    obtain rfl := eq_last hr hk hlast
    obtain ⟨e', he', -⟩ := h.bats k r hr b hb
    obtain ⟨e, es, hdb, hscenario, hstopped⟩ := hbats b hb
    obtain ⟨rfl, hcounters⟩ := read_eq_openedWith (hphase r hlast b hb) hdb (by omega) he'
    exact ⟨e', he', hstopped, hcounters⟩
  have hcloses : ∀ k : ℕ, ∀ r' ∈ (m.proceed 0 .reading).errorDb[k]?, r'.closes = 1 := by
    intro k r' hr'
    obtain ⟨r, hr, ⟨hk, rfl⟩ | ⟨hk, rfl⟩⟩ := mem_modify_last hr'
    · obtain rfl := eq_last hr hk hlast
      show r.closes + 1 = 1
      omega
    · exact (h.closes k r' hr).resolve_right fun hmonitors => hk hmonitors.1.2
  have hlength : (m.proceed 0 .reading).errorDb.length = m.errorDb.length := List.length_modify ..
  have hending : (m.proceed 0 .reading).calls = [.ending] := by
    show m.calls.set 0 .ending = _
    rw [hcalls, List.set_cons_zero]
  refine ⟨⟨fun k r' hr' => Or.inl (hcloses k r' hr'), ?_, ?_⟩, ?_, h.enable, ?_, ?_, ?_,
    fun _ => hcloses, ?_⟩
  · intro k r' hr' b hb
    obtain ⟨r, hr, ⟨hk, rfl⟩ | ⟨hk, rfl⟩⟩ := mem_modify_last hr'
    · obtain ⟨e, he, hstopped, -⟩ := hread k r hr hk b hb
      exact ⟨e, he, fun _ => hstopped⟩
    · exact h.bats k r' hr b hb
  · intro k r' hr' hclosed
    obtain ⟨r, hr, ⟨hk, rfl⟩ | ⟨hk, rfl⟩⟩ := mem_modify_last hr'
    · have hlastopen : r.closes = 0 := (eq_last hr hk hlast) ▸ hopen
      obtain ⟨hexecuted, herrors⟩ := h.zero k r hr hlastopen
      have hsum : (m.bats.map Bat.errorDbReadRegisterCounters) = m.bats.map fun b =>
          ((b.openedWith r.phase k).map fun e => (e.executed, e.errors)).sum := by
        refine List.map_congr_left fun b hb => ?_
        obtain ⟨e, he, -, hcounters⟩ := hread k r hr hk b hb
        rw [hcounters, he, List.map_singleton, List.sum_singleton]
      show (r.executed + _, r.errors + _) = _
      rw [hexecuted, herrors, zero_add, zero_add, hsum]
      rfl
    · exact h.totals k r' hr hclosed
  · exact (congrArg List.length hending).le
  · rw [hlength]
    exact h.numbers
  · intro k r' hr' hzero
    rw [hcloses k r' hr'] at hzero
    cases hzero
  · intro stopped hstopped
    simp [lastOpen, hending] at hstopped
  · intro hreading
    simp [hending] at hreading

/-- A call of the monitor goes on. -/
lemma Good.proceed (h : m.Good) {i : ℕ} {call : MonitorCall} (hi : m.calls[i]? = some call)
    (hturn : m.InTurn (.proceed i)) : (m.proceed i call).Good := by
  obtain ⟨rfl, hcalls⟩ := h.calls_eq hi
  have herase : m.calls.eraseIdx 0 = [] := by rw [hcalls, List.eraseIdx_cons_zero]
  cases call with
  | opened =>
    refine ⟨⟨fun k r hr => ?_, h.bats, h.totals⟩, ?_, h.enable, h.numbers, h.zero,
      fun stopped hstopped => ?_, fun hnone => ?_, fun _ => rfl⟩
    · exact (h.closes k r hr).imp_right fun hopen => ⟨⟨Or.inl rfl, hopen.1.2⟩, hopen.2⟩
    · exact (congrArg List.length herase).le.trans (Nat.zero_le 1)
    · simp only [lastOpen, ErrorMonitor.proceed, herase, if_true, Option.mem_some_iff] at hstopped
      subst hstopped
      exact h.last false (by simp [lastOpen, hcalls])
    · simp [lastOpen, ErrorMonitor.proceed, herase] at hnone
  | reading => exact h.read hcalls (hturn hi)
  | ending =>
    have hclosed := h.closed (by simp [lastOpen, hcalls])
    refine ⟨⟨fun k r hr => Or.inl (hclosed k r hr), h.bats, h.totals⟩, ?_, h.enable, h.numbers, h.zero,
      fun stopped hstopped => ?_, fun _ => hclosed, fun hreading => ?_⟩
    · exact (congrArg List.length herase).le.trans (Nat.zero_le 1)
    · simp [lastOpen, ErrorMonitor.proceed, herase] at hstopped
    · simp [ErrorMonitor.proceed, herase] at hreading

/-- The last scenario register is not checked. -/
lemma Good.skipCheck (h : m.Good) : m.skipCheckLastRegister.Good := by
  have hlength : m.skipCheckLastRegister.errorDb.length = m.errorDb.length := List.length_modify ..
  have hsame : ∀ k : ℕ, ∀ r' ∈ m.skipCheckLastRegister.errorDb[k]?, ∃ r ∈ m.errorDb[k]?,
      r'.closes = r.closes ∧ r'.phase = r.phase ∧ r'.executed = r.executed ∧
        r'.errors = r.errors := by
    intro k r' hr'
    obtain ⟨r, hr, ⟨-, heq⟩ | ⟨-, heq⟩⟩ := mem_modify_last hr'
    · exact ⟨r, hr, by rw [heq], by rw [heq], by rw [heq], by rw [heq]⟩
    · exact ⟨r, hr, by rw [heq], by rw [heq], by rw [heq], by rw [heq]⟩
  refine ⟨⟨?_, ?_, ?_⟩, h.calls, h.enable, ?_, ?_, ?_, ?_, h.reading⟩
  · intro k r' hr'
    obtain ⟨r, hr, hcloses, -⟩ := hsame k r' hr'
    rw [hcloses, Monitors, hlength]
    exact h.closes k r hr
  · intro k r' hr' b hb
    obtain ⟨r, hr, hcloses, hphase, -⟩ := hsame k r' hr'
    rw [hcloses, hphase]
    exact h.bats k r hr b hb
  · intro k r' hr' hclosed
    obtain ⟨r, hr, hcloses, hphase, hexecuted, herrors⟩ := hsame k r' hr'
    rw [hphase, hexecuted, herrors]
    exact h.totals k r hr (hcloses ▸ hclosed)
  · rw [hlength]
    exact h.numbers
  · intro k r' hr' hzero
    obtain ⟨r, hr, hcloses, -, hexecuted, herrors⟩ := hsame k r' hr'
    rw [hexecuted, herrors]
    exact h.zero k r hr (hcloses ▸ hzero)
  · intro stopped hstopped
    obtain ⟨hrunning, r, hr, hopen, hbats⟩ := h.last stopped hstopped
    have hlast : m.skipCheckLastRegister.errorDb.getLast? = some { r with check := false } := by
      rw [List.getLast?_eq_getElem?] at hr ⊢
      rw [hlength]
      show (m.errorDb.modify (m.errorDb.length - 1) _)[m.errorDb.length - 1]? = _
      rw [List.getElem?_modify, hr]
      simp
    refine ⟨hrunning, _, hlast, hopen, ?_⟩
    rw [hlength]
    exact hbats
  · intro hnone k r' hr'
    obtain ⟨r, hr, hcloses, -⟩ := hsame k r' hr'
    rw [hcloses]
    exact h.closed hnone k r hr

/-- **One step** that keeps the registers paired. -/
lemma Good.step {e : Event K} (h : m.Good) (hturn : m.InTurn e) (hstep : step m e = some m') :
    m'.Good := by
  cases e with
  | start phase errorRate =>
    obtain rfl := Option.some.inj hstep
    exact h.start hturn
  | stop =>
    obtain rfl := Option.some.inj hstep
    exact h.stop hturn
  | proceed i =>
    simp only [ErrorMonitor.step] at hstep
    split at hstep
    · rename_i call hcall
      obtain rfl := Option.some.inj hstep
      exact h.proceed hcall hturn
    · cases hstep
  | skipCheck =>
    obtain rfl := Option.some.inj hstep
    exact h.skipCheck
  | shutdown =>
    obtain rfl := Option.some.inj hstep
    obtain ⟨hmonitoring, hcalls⟩ := hturn
    refine ⟨⟨h.closes, h.bats, h.totals⟩, h.calls, h.enable, h.numbers, h.zero,
      fun stopped hstopped => ?_, h.closed, h.reading⟩
    simp [lastOpen, hcalls, hmonitoring] at hstopped
  | measure i s => exact h.batStep (by simp) (by simp) hstep
  | check i => exact h.batStep (by simp) (by simp) hstep
  | setTrafficPhase i phase => exact h.batStep (by simp) (by simp) hstep

instance (m : ErrorMonitor K) : DecidablePred m.InTurn
  | .start _ _ => inferInstanceAs (Decidable (_ → _ → _ ∧ m.calls = []))
  | .stop => inferInstanceAs (Decidable (_ → m.calls = [] ∧
      (_ → ∀ r ∈ m.errorDb.getLast?, ∀ b ∈ m.bats, b.trafficPhase = r.phase)))
  | .proceed i => inferInstanceAs (Decidable (m.calls[i]? = some .reading →
      ∀ r ∈ m.errorDb.getLast?, ∀ b ∈ m.bats, b.trafficPhase = r.phase))
  | .shutdown => inferInstanceAs (Decidable (_ ∧ m.calls = []))
  | .skipCheck | .measure _ _ | .check _ | .setTrafficPhase _ _ => inferInstanceAs (Decidable True)

/-- One BAT instance with one script. -/
def oneBat : ErrorMonitor ℕ := init (fun _ => true) 0 [([0], 0)]

/-- The first phase is monitored, with a sample in between. -/
def monitored : List (Event ℕ) :=
  [.start .preexec none, .proceed 0, .check 0, .measure 0 (Bat.sampleOf 5 ⟨1, 10, 2⟩ ⟨0, 0, 0⟩),
    .check 0, .stop, .proceed 0, .skipCheck, .proceed 0]

/-- Two threads stop what is monitored at once: the register is closed twice, with doubled totals. -/
example :
    (LabelledSystem.exec step oneBat
      [.start .preexec none, .proceed 0, .check 0, .measure 0 (Bat.sampleOf 5 ⟨1, 10, 2⟩ ⟨0, 0, 0⟩),
        .check 0, .stop, .stop, .proceed 0, .proceed 1]).map
        (fun m => m.errorDb.map fun r => (r.closes, r.executed, r.errors)) =
      some [(2, 24, 4)] := by
  decide +kernel

/-- The first phase is monitored, but the sample in between shows the next one already. -/
def phaseMoved : List (Event ℕ) :=
  [.start .preexec none, .proceed 0, .check 0, .measure 0 (Bat.sampleOf 5 ⟨1, 10, 2⟩ ⟨1, 7, 1⟩),
    .check 0, .stop, .proceed 0, .proceed 0]

end ErrorMonitor

end HssRtc
