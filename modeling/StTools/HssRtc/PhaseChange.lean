import StTools.HssRtc.BatStatistics
import StTools.BuildHandler.Database
import StTools.Lib.LabelledSystem

/-!
# The change of the phase

A BAT instance takes part in some of the phases.  `start_phase` starts the phase for the instances that
wait for it, and is meant to remember of the others that the phase is not needed.  `wait_phase_end`
waits until the instances expect the next phase, as if all of them had all phases.

The comparison that should remember it changes nothing.  `changesPhase_iff` says for which instances the
phase can be changed all the same.
-/

namespace HssRtc

open BuildHandler (Text)

/-! ## The status of a BAT instance -/

/-- The name of a phase. -/
def TrafficPhase.text : TrafficPhase → Text
  | .preexec => "preexec".toList
  | .loadgen => "loadgen".toList
  | .postexec => "postexec".toList

/-- The status of a BAT instance that waits for a phase. -/
def TrafficPhase.idleText (p : TrafficPhase) : Text := p.text ++ " - IDLE".toList

/-- The phases after a phase. -/
def TrafficPhase.after : TrafficPhase → List TrafficPhase
  | .preexec => [.loadgen, .postexec]
  | .loadgen => [.postexec]
  | .postexec => []

/-- A BAT instance: the phases in which it takes part, and what its `ScGrpStatus` reads while it does not
wait for a phase. -/
structure PhasedBat where
  takesPart : TrafficPhase → Bool
  takesPart_some : ∃ p, takesPart p
  /-- What it reads while a phase is running. -/
  runningText : TrafficPhase → Text
  runningText_ne : ∀ p q, runningText p ≠ TrafficPhase.idleText q
  /-- What it reads when no phase is left. -/
  finalText : Text
  finalText_ne : ∀ q, finalText ≠ TrafficPhase.idleText q
  /-- It does not read the name of a phase that the instance does not have. -/
  finalText_names : ∀ q, TrafficPhase.text q <:+: finalText → takesPart q
  /-- `first_phase`, which nothing sets. -/
  firstPhase : Text := []

/-- What a BAT instance does. -/
inductive Activity
  /-- It waits for a phase. -/
  | idle (p : TrafficPhase)
  | running (p : TrafficPhase)
  /-- No phase is left. -/
  | over
  deriving DecidableEq

/-- What it does before the first of some phases in which it takes part. -/
def PhasedBat.waitsFor (b : PhasedBat) (ps : List TrafficPhase) : Activity :=
  match ps.find? b.takesPart with
  | some p => .idle p
  | none => .over

/-- What `ScGrpStatus` reads. -/
def PhasedBat.statusText (b : PhasedBat) : Activity → Text
  | .idle p => p.idleText
  | .running p => b.runningText p
  | .over => b.finalText

/-- `ScStatus`. -/
inductive ScStatus
  | running
  | stopped
  | terminated
  deriving DecidableEq

/-- A BAT instance in an execution. -/
structure TelnetBat where
  bat : PhasedBat
  activity : Activity
  scStatus : ScStatus
  /-- `execution_state` is `running`. -/
  executing : Bool
  /-- The command line starts the phase when it is told to. -/
  cliStarts : Bool
  phaseStatus : Option Text
  trafficPhase : TrafficPhase

namespace TelnetBat

/-- What `read_traffic_phase` gives. -/
def scGrpStatus (b : TelnetBat) : Text := b.bat.statusText b.activity

/-- A BAT instance that has finished what comes before a phase. -/
def before (phase : TrafficPhase) (b : PhasedBat) : TelnetBat where
  bat := b
  activity := b.waitsFor (phase :: phase.after)
  scStatus := .running
  executing := true
  cliStarts := true
  phaseStatus := none
  trafficPhase := .preexec

end TelnetBat

/-! ## The executor -/

/-- What the executor raises. -/
inductive PhaseError
  | notRunning
  | problemsStarting
  deriving DecidableEq

/-- `start_phase`, for one instance, with whether the phase was started for it. -/
def startBat (phase : TrafficPhase) (b : TelnetBat) : Except PhaseError (TelnetBat × Bool) :=
  if ¬ b.executing then .error .notRunning
  else if phase.text <:+: b.scGrpStatus ∨ phase = .postexec then
    if b.cliStarts then
      .ok ({ b with
        activity := if b.activity = .idle phase then .running phase else b.activity
        trafficPhase := phase }, true)
    else .error .problemsStarting
  else
    -- `bat.phase_status == 'not_needed'` compares, and changes nothing
    .ok (b, false)

/-- `start_phase`. -/
def startPhase (phase : TrafficPhase) (bats : List TelnetBat) :
    Except PhaseError (List (TelnetBat × Bool)) := bats.mapM (startBat phase)

/-- `expected_phase_status`. -/
def expectedPhaseStatus (phase : TrafficPhase) (b : TelnetBat) : Text :=
  match phase with
  | .preexec => TrafficPhase.loadgen.idleText
  | .loadgen => TrafficPhase.postexec.idleText
  | .postexec => b.bat.firstPhase

/-- What `wait_phase_end` finds out about an instance. -/
structure Look where
  /-- It is not waited for. -/
  ready : Bool
  /-- The scheduler has to refresh it. -/
  refresh : Bool
  /-- The load monitor is shut down. -/
  shutdown : Bool

/-- The loop over the instances in `wait_phase_end`, for one instance. -/
def look (phase : TrafficPhase) (maxWaitingTime : ℚ) (runningPhase : Option TrafficPhase)
    (b : TelnetBat) : Except PhaseError Look :=
  if ¬ b.executing then .error .notRunning
  else if b.scStatus = .stopped ∨ b.scStatus = .terminated then
    .ok ⟨¬ 0 < maxWaitingTime, false, false⟩
  else if b.phaseStatus = some "not_needed".toList then .ok ⟨true, false, false⟩
  else if b.scGrpStatus ≠ expectedPhaseStatus phase b then .ok ⟨false, true, false⟩
  else .ok ⟨true, false, runningPhase = some .loadgen⟩

/-- What one iteration of `wait_phase_end` finds out. -/
structure Polled where
  allReady : Bool
  batToRefresh : List TelnetBat
  shutdown : Bool

/-- One iteration of the loop of `wait_phase_end`. -/
def waitIteration (phase : TrafficPhase) (maxWaitingTime : ℚ) (runningPhase : Option TrafficPhase)
    (bats : List TelnetBat) : Except PhaseError Polled := do
  let looks ← bats.mapM (look phase maxWaitingTime runningPhase)
  pure ⟨looks.all Look.ready, ((bats.zip looks).filter fun p => p.2.refresh).map Prod.fst,
    looks.any Look.shutdown⟩

/-! ## Runs of a phase -/

/-- Some instances finish the phase between two looks at them. -/
abbrev Finishing := ℕ → Bool

/-- An instance that finishes the phase goes on to the next in which it takes part. -/
def TelnetBat.finish (phase : TrafficPhase) (b : TelnetBat) : TelnetBat :=
  if b.activity = .running phase then { b with activity := b.bat.waitsFor phase.after } else b

/-- One step. -/
def finishStep (phase : TrafficPhase) (bats : List TelnetBat) (e : Finishing) :
    Option (List TelnetBat) :=
  some (bats.mapIdx fun i b => if e i then b.finish phase else b)

/-- The iteration waits for the instances that take part and have not finished, and for no other, and
only instances that take part are refreshed. -/
def WaitsRight (phase : TrafficPhase) (bats : List TelnetBat) : Prop :=
  ∀ maxWaitingTime runningPhase, ∃ p, waitIteration phase maxWaitingTime runningPhase bats = .ok p ∧
    (p.allReady = true ↔
      ∀ b ∈ bats, b.bat.takesPart phase → b.activity ≠ .running phase) ∧
    ∀ b ∈ p.batToRefresh, b.bat.takesPart phase

/-- The phase is started for the instances that take part and for no other, and it is waited for the
right ones however they finish. -/
def ChangesPhase (phase : TrafficPhase) (bats : List PhasedBat) : Prop :=
  ∃ started, startPhase phase (bats.map (TelnetBat.before phase)) = .ok started ∧
    (∀ b ∈ started, b.2 = true ↔ b.1.bat.takesPart phase) ∧
    ∀ es, LabelledSystem.Throughout (finishStep phase) (WaitsRight phase) (started.map Prod.fst) es

/-- The instance expects the next phase after the phase. -/
def PhasedBat.ExpectsNext (phase : TrafficPhase) (b : PhasedBat) : Prop :=
  match phase with
  | .preexec => b.takesPart .loadgen
  | .loadgen => b.takesPart .postexec
  | .postexec => b.takesPart .postexec ∧ b.finalText = b.firstPhase ∧
      b.runningText .postexec ≠ b.firstPhase

/-! ## Texts -/

/-- Different phases have different texts. -/
lemma TrafficPhase.idleText_injective : Function.Injective TrafficPhase.idleText := by
  intro p q h
  cases p <;> cases q <;> first | rfl | exact absurd h (by decide)

/-- The status of an instance that waits for a phase has the name of this phase only. -/
lemma TrafficPhase.text_infix_idleText {p q : TrafficPhase} :
    p.text <:+: q.idleText ↔ p = q := by
  cases p <;> cases q <;> decide

namespace PhasedBat

variable {b : PhasedBat} {phase : TrafficPhase}

/-- An instance that takes part waits for the phase. -/
lemma waitsFor_of_takesPart (h : b.takesPart phase) (ps : List TrafficPhase) :
    b.waitsFor (phase :: ps) = .idle phase := by
  unfold waitsFor
  rw [List.find?_cons_of_pos h]

/-- An instance that does not take part waits for a later phase. -/
lemma waitsFor_of_not_takesPart (h : ¬ b.takesPart phase) (ps : List TrafficPhase) :
    b.waitsFor (phase :: ps) = b.waitsFor ps := by
  unfold waitsFor
  rw [List.find?_cons_of_neg h]

/-- The name of a phase without the instance is not read afterwards. -/
lemma not_text_infix (h : ¬ b.takesPart phase) (ps : List TrafficPhase) :
    ¬ phase.text <:+: b.statusText (b.waitsFor ps) := by
  unfold waitsFor
  cases hfind : ps.find? b.takesPart with
  | none => exact fun hin => h (b.finalText_names phase hin)
  | some q =>
    intro hin
    obtain rfl := TrafficPhase.text_infix_idleText.mp hin
    exact h (List.find?_some hfind)

/-- An instance waits for the first of some phases if it takes part in it. -/
lemma statusText_waitsFor_eq_idleText {q : TrafficPhase} {ps : List TrafficPhase} (hq : q ∉ ps) :
    b.statusText (b.waitsFor (q :: ps)) = q.idleText ↔ b.takesPart q := by
  by_cases h : b.takesPart q = true
  · rw [waitsFor_of_takesPart h]
    exact iff_of_true rfl h
  · rw [waitsFor_of_not_takesPart h]
    refine iff_of_false (fun heq => ?_) h
    unfold waitsFor at heq
    cases hfind : ps.find? b.takesPart with
    | none =>
      rw [hfind] at heq
      exact b.finalText_ne q heq
    | some r =>
      rw [hfind] at heq
      obtain rfl := TrafficPhase.idleText_injective heq
      exact hq (List.mem_of_find?_eq_some hfind)

end PhasedBat

/-! ## One look -/

/-- An instance while a phase is running. -/
structure Going (phase : TrafficPhase) (b : TelnetBat) : Prop where
  executing : b.executing = true
  scStatus : b.scStatus = .running
  phaseStatus : b.phaseStatus = none
  activity : b.activity = b.bat.waitsFor phase.after ∨
    b.bat.takesPart phase = true ∧ b.activity = .running phase

/-- Whatever an instance waits for, it is not running. -/
lemma PhasedBat.waitsFor_ne_running (b : PhasedBat) (ps : List TrafficPhase) (p : TrafficPhase) :
    b.waitsFor ps ≠ .running p := by
  unfold waitsFor
  cases ps.find? b.takesPart <;> simp

variable {phase : TrafficPhase} {b : TelnetBat} {bats : List TelnetBat}

/-- A look at an instance that is going. -/
lemma look_of_going (maxWaitingTime : ℚ) (runningPhase : Option TrafficPhase)
    (h : Going phase b) : look phase maxWaitingTime runningPhase b =
    .ok ⟨b.scGrpStatus = expectedPhaseStatus phase b, b.scGrpStatus ≠ expectedPhaseStatus phase b,
      b.scGrpStatus = expectedPhaseStatus phase b ∧ runningPhase = some .loadgen⟩ := by
  unfold look
  rw [if_neg (not_not.mpr h.executing), if_neg (by rw [h.scStatus]; decide), if_neg (by
    rw [h.phaseStatus]
    simp)]
  split_ifs with hstatus
  · simp [hstatus]
  · rw [not_not] at hstatus
    simp [hstatus]

/-- A function that raises nothing on a list. -/
lemma mapM_eq_ok {α β ε : Type*} {f : α → Except ε β} {g : α → β} {l : List α}
    (h : ∀ a ∈ l, f a = .ok (g a)) : l.mapM f = .ok (l.map g) := by
  induction l with
  | nil => rfl
  | cons a l ih =>
    rw [List.mapM_cons, h a List.mem_cons_self, ih fun x hx => h x (List.mem_cons_of_mem a hx)]
    rfl

/-- The elements that are chosen by what was found out about them. -/
lemma mem_filter_zip_map {α β : Type*} {l : List α} {g : α → β} {q : β → Bool} {a : α} :
    a ∈ ((l.zip (l.map g)).filter fun p => q p.2).map Prod.fst ↔ a ∈ l ∧ q (g a) = true := by
  have hzip : l.zip (l.map g) = l.map fun a => (a, g a) := by
    have hzip := List.zip_map' (l := l) (f := id) (g := g)
    rwa [List.map_id] at hzip
  rw [hzip]
  simp

/-- One iteration, while all instances are going. -/
lemma waitIteration_of_going (maxWaitingTime : ℚ) (runningPhase : Option TrafficPhase)
    (h : ∀ b ∈ bats, Going phase b) :
    ∃ p, waitIteration phase maxWaitingTime runningPhase bats = .ok p ∧
      (p.allReady = true ↔ ∀ b ∈ bats, b.scGrpStatus = expectedPhaseStatus phase b) ∧
      ∀ b, b ∈ p.batToRefresh ↔ b ∈ bats ∧ b.scGrpStatus ≠ expectedPhaseStatus phase b := by
  have hlooks := mapM_eq_ok fun b hb =>
    look_of_going maxWaitingTime runningPhase (h b hb)
  unfold waitIteration
  rw [hlooks]
  refine ⟨_, rfl, ?_, fun b => ?_⟩
  · simp
  · refine mem_filter_zip_map.trans ?_
    simp

/-- The status of an instance that has nothing more to do in a phase is the expected one exactly when it
takes part in the next phase; after the last phase, when it reads its first phase again. -/
lemma waitsFor_after_eq_expected_iff : b.bat.statusText (b.bat.waitsFor phase.after) =
    expectedPhaseStatus phase b ↔
      match phase with
      | .preexec => b.bat.takesPart .loadgen = true
      | .loadgen => b.bat.takesPart .postexec = true
      | .postexec => b.bat.finalText = b.bat.firstPhase := by
  cases phase with
  | preexec => exact PhasedBat.statusText_waitsFor_eq_idleText (by decide)
  | loadgen => exact PhasedBat.statusText_waitsFor_eq_idleText List.not_mem_nil
  | postexec => exact Iff.rfl

/-- The status of an instance that expects the next phase is the expected one when it has finished the
phase, and another one before. -/
lemma scGrpStatus_eq_expected_iff (h : Going phase b) (hnext : b.bat.ExpectsNext phase) :
    b.scGrpStatus = expectedPhaseStatus phase b ↔ b.activity ≠ .running phase := by
  have hafter : b.bat.statusText (b.bat.waitsFor phase.after) = expectedPhaseStatus phase b := by
    refine waitsFor_after_eq_expected_iff.mpr ?_
    cases phase with
    | preexec => exact hnext
    | loadgen => exact hnext
    | postexec => exact hnext.2.1
  rcases h.activity with hactivity | ⟨-, hactivity⟩
  · rw [TelnetBat.scGrpStatus, hactivity]
    exact iff_of_true hafter (b.bat.waitsFor_ne_running _ _)
  · rw [TelnetBat.scGrpStatus, hactivity]
    refine iff_of_false ?_ (not_not.mpr rfl)
    cases phase with
    | preexec => exact b.bat.runningText_ne _ _
    | loadgen => exact b.bat.runningText_ne _ _
    | postexec => exact hnext.2.2

/-- An iteration waits for the right instances, when all of them expect the next phase. -/
lemma waitsRight_of_expectsNext (h : ∀ b ∈ bats, Going phase b ∧ b.bat.ExpectsNext phase) :
    WaitsRight phase bats := by
  intro maxWaitingTime runningPhase
  obtain ⟨p, hp, hready, hrefresh⟩ :=
    waitIteration_of_going maxWaitingTime runningPhase fun b hb => (h b hb).1
  refine ⟨p, hp, hready.trans (forall₂_congr fun b hb => ?_), fun b hb => ?_⟩
  · obtain ⟨hgoing, hnext⟩ := h b hb
    rw [scGrpStatus_eq_expected_iff hgoing hnext]
    refine ⟨fun hdone _ => hdone, fun hdone hrunning => ?_⟩
    rcases hgoing.activity with hactivity | ⟨hpart, -⟩
    · exact b.bat.waitsFor_ne_running _ _ (hactivity.symm.trans hrunning)
    · exact hdone hpart hrunning
  · obtain ⟨hmem, hstatus⟩ := (hrefresh b).mp hb
    obtain ⟨hgoing, hnext⟩ := h b hmem
    rw [ne_eq, scGrpStatus_eq_expected_iff hgoing hnext, not_not] at hstatus
    rcases hgoing.activity with hactivity | ⟨hpart, -⟩
    · exact absurd (hactivity.symm.trans hstatus) (b.bat.waitsFor_ne_running _ _)
    · exact hpart

/-! ## The start of a phase -/

/-- An instance after the start of a phase. -/
def TelnetBat.started (phase : TrafficPhase) (b : PhasedBat) : TelnetBat where
  bat := b
  activity := if b.takesPart phase then .running phase else b.waitsFor phase.after
  scStatus := .running
  executing := true
  cliStarts := true
  phaseStatus := none
  trafficPhase := if b.takesPart phase ∨ phase = .postexec then phase else .preexec

/-- The start of a phase for an instance that has finished what comes before. -/
lemma startBat_before (phase : TrafficPhase) (b : PhasedBat) :
    startBat phase (TelnetBat.before phase b) =
      .ok (TelnetBat.started phase b, decide (b.takesPart phase = true ∨ phase = .postexec)) := by
  unfold startBat TelnetBat.started TelnetBat.scGrpStatus TelnetBat.before
  dsimp only
  rw [if_neg (not_not.mpr rfl)]
  by_cases hpart : b.takesPart phase = true
  · have hname : phase.text <:+: b.statusText (.idle phase) :=
      TrafficPhase.text_infix_idleText.mpr rfl
    rw [PhasedBat.waitsFor_of_takesPart hpart, if_pos (Or.inl hname), if_pos rfl, if_pos rfl,
      if_pos hpart, if_pos (Or.inl hpart), decide_eq_true (Or.inl hpart)]
  · have hname : ¬ phase.text <:+: b.statusText (b.waitsFor phase.after) :=
      PhasedBat.not_text_infix hpart _
    have hidle : b.waitsFor phase.after ≠ .idle phase := by
      intro hidle
      rw [hidle] at hname
      exact hname (TrafficPhase.text_infix_idleText.mpr rfl)
    rw [PhasedBat.waitsFor_of_not_takesPart hpart]
    by_cases hlast : phase = .postexec
    · rw [if_pos (Or.inr hlast), if_pos rfl, if_neg hidle, if_neg hpart, if_pos (Or.inr hlast),
        decide_eq_true (Or.inr hlast)]
    · have hno : ¬ (b.takesPart phase = true ∨ phase = .postexec) := not_or.mpr ⟨hpart, hlast⟩
      rw [if_neg (not_or.mpr ⟨hname, hlast⟩), if_neg hpart, if_neg hno, decide_eq_false hno]

/-- An instance is going after the start of the phase. -/
lemma going_started (phase : TrafficPhase) (b : PhasedBat) : Going phase (.started phase b) where
  executing := rfl
  scStatus := rfl
  phaseStatus := rfl
  activity := by
    unfold TelnetBat.started
    dsimp only
    split_ifs with hpart
    · exact Or.inr ⟨hpart, rfl⟩
    · exact Or.inl rfl

/-- It goes on when it finishes the phase. -/
lemma Going.finish (h : Going phase b) : Going phase (b.finish phase) := by
  unfold TelnetBat.finish
  split_ifs
  · exact ⟨h.executing, h.scStatus, h.phaseStatus, Or.inl rfl⟩
  · exact h

/-- To finish a phase does not change what an instance takes part in. -/
lemma TelnetBat.finish_bat (phase : TrafficPhase) (b : TelnetBat) : (b.finish phase).bat = b.bat := by
  unfold TelnetBat.finish
  split_ifs <;> rfl

/-- **One step.**  The instances stay what they are, and go on. -/
lemma going_finishStep {Q : PhasedBat → Prop} {bats' : List TelnetBat} {e : Finishing}
    (h : ∀ b ∈ bats, Going phase b ∧ Q b.bat) (hstep : finishStep phase bats e = some bats') :
    ∀ b ∈ bats', Going phase b ∧ Q b.bat := by
  obtain rfl := Option.some.inj hstep
  intro b hb
  obtain ⟨i, hi, rfl⟩ := List.mem_mapIdx.mp hb
  have hold := h _ (List.getElem_mem hi)
  split_ifs
  · rw [TelnetBat.finish_bat]
    exact ⟨hold.1.finish, hold.2⟩
  · exact hold

/-- The start of a phase for all instances. -/
lemma startPhase_before (phase : TrafficPhase) (bats : List PhasedBat) :
    startPhase phase (bats.map (TelnetBat.before phase)) = .ok (bats.map fun b =>
      (TelnetBat.started phase b, decide (b.takesPart phase = true ∨ phase = .postexec))) := by
  have hmap : ∀ l : List PhasedBat, (l.map (TelnetBat.before phase)).mapM (startBat phase) =
      l.mapM fun b => startBat phase (TelnetBat.before phase b) := by
    intro l
    induction l with
    | nil => rfl
    | cons b l ih => rw [List.map_cons, List.mapM_cons, List.mapM_cons, ih]
  unfold startPhase
  rw [hmap]
  exact mapM_eq_ok fun b _ => startBat_before phase b

/-- When all instances have finished the phase, the iteration is right only if every instance expects
the next phase. -/
lemma expected_of_waitsRight (hgoing : ∀ b ∈ bats, Going phase b)
    (hdone : ∀ b ∈ bats, b.activity ≠ .running phase) (h : WaitsRight phase bats) :
    ∀ b ∈ bats, b.scGrpStatus = expectedPhaseStatus phase b := by
  obtain ⟨p, hp, hready, -⟩ := h 0 none
  obtain ⟨p', hp', hready', -⟩ := waitIteration_of_going 0 none hgoing
  obtain rfl : p = p' := Except.ok.inj (hp.symm.trans hp')
  exact hready'.mp (hready.mpr fun b hb _ => hdone b hb)

/-- An instance that has finished the phase reads what it waits for. -/
lemma scGrpStatus_finish_started (phase : TrafficPhase) (b : PhasedBat) :
    ((TelnetBat.started phase b).finish phase).scGrpStatus =
      b.statusText (b.waitsFor phase.after) := by
  unfold TelnetBat.finish
  split_ifs with hrunning
  · rfl
  · have hpart : ¬ b.takesPart phase = true := fun hpart => hrunning (if_pos hpart)
    rw [TelnetBat.scGrpStatus, TelnetBat.started]
    dsimp only
    rw [if_neg hpart]

/-- An instance that has finished the phase is not running. -/
lemma finish_ne_running (phase : TrafficPhase) (b : TelnetBat) :
    (b.finish phase).activity ≠ .running phase := by
  unfold TelnetBat.finish
  split_ifs with hrunning
  · exact b.bat.waitsFor_ne_running _ _
  · exact hrunning

/-- The instances after some have finished the phase. -/
def afterFinishing (phase : TrafficPhase) (bats : List PhasedBat) (e : Finishing) : List TelnetBat :=
  (bats.map (TelnetBat.started phase)).mapIdx fun i b => if e i then b.finish phase else b

/-- All of them are going. -/
lemma going_afterFinishing {bats : List PhasedBat} {e : Finishing} :
    ∀ b ∈ afterFinishing phase bats e, Going phase b := by
  have hstarted : ∀ b ∈ bats.map (TelnetBat.started phase), Going phase b ∧ True := by
    intro b hb
    obtain ⟨b, -, rfl⟩ := List.mem_map.mp hb
    exact ⟨going_started phase b, trivial⟩
  exact fun b hb => (going_finishStep (Q := fun _ => True) hstarted rfl b hb).1

/-- The instances one by one. -/
lemma mem_afterFinishing {bats : List PhasedBat} {e : Finishing} {x : TelnetBat} :
    x ∈ afterFinishing phase bats e ↔ ∃ i b, bats[i]? = some b ∧
      x = if e i then (TelnetBat.started phase b).finish phase else .started phase b := by
  unfold afterFinishing
  rw [List.mem_mapIdx]
  constructor
  · rintro ⟨i, hi, rfl⟩
    rw [List.length_map] at hi
    exact ⟨i, bats[i], List.getElem?_eq_getElem hi, by rw [List.getElem_map]⟩
  · rintro ⟨i, b, hb, rfl⟩
    obtain ⟨hi, rfl⟩ := List.getElem?_eq_some_iff.mp hb
    exact ⟨i, by rw [List.length_map]; exact hi, by rw [List.getElem_map]⟩

/-- When an iteration is right however the instances finish, they read the expected status
afterwards. -/
lemma afterText_of_waitsRight {bats : List PhasedBat}
    (hright : ∀ e, WaitsRight phase (afterFinishing phase bats e)) {b : PhasedBat} (hb : b ∈ bats) :
    b.statusText (b.waitsFor phase.after) = expectedPhaseStatus phase (.started phase b) := by
  have hdone : ∀ x ∈ afterFinishing phase bats fun _ => true, x.activity ≠ .running phase := by
    intro x hx
    obtain ⟨i, b, -, rfl⟩ := mem_afterFinishing.mp hx
    rw [if_pos rfl]
    exact finish_ne_running phase _
  obtain ⟨i, hi⟩ := List.mem_iff_getElem?.mp hb
  have hmem : (TelnetBat.started phase b).finish phase ∈ afterFinishing phase bats fun _ => true :=
    mem_afterFinishing.mpr ⟨i, b, hi, by rw [if_pos rfl]⟩
  have hstatus := expected_of_waitsRight going_afterFinishing hdone (hright _) _ hmem
  rw [scGrpStatus_finish_started] at hstatus
  rw [hstatus]
  unfold expectedPhaseStatus
  rw [TelnetBat.finish_bat]

/-- And an instance that is still running reads another. -/
lemma runningText_ne_of_waitsRight {bats : List PhasedBat}
    (hright : ∀ e, WaitsRight phase (afterFinishing phase bats e)) {b : PhasedBat} (hb : b ∈ bats)
    (hpart : b.takesPart phase) :
    b.runningText phase ≠ expectedPhaseStatus phase (.started phase b) := by
  intro heq
  obtain ⟨i, hi⟩ := List.mem_iff_getElem?.mp hb
  have hactivity : (TelnetBat.started phase b).activity = .running phase := if_pos hpart
  have hmem : TelnetBat.started phase b ∈ afterFinishing phase bats fun j => decide (j ≠ i) :=
    mem_afterFinishing.mpr ⟨i, b, hi, by simp⟩
  obtain ⟨p, hp, hready, -⟩ := hright (fun j => decide (j ≠ i)) 0 none
  obtain ⟨p', hp', hready', -⟩ :=
    waitIteration_of_going 0 none (going_afterFinishing (e := fun j => decide (j ≠ i)))
  obtain rfl : p = p' := Except.ok.inj (hp.symm.trans hp')
  -- All others have finished, so that this one makes no difference.
  have hall : ∀ x ∈ afterFinishing phase bats fun j => decide (j ≠ i),
      x.scGrpStatus = expectedPhaseStatus phase x := by
    intro x hx
    obtain ⟨j, c, hc, rfl⟩ := mem_afterFinishing.mp hx
    by_cases hji : j = i
    · subst hji
      obtain rfl : b = c := Option.some.inj (hi.symm.trans hc)
      rw [if_neg (by simp), TelnetBat.scGrpStatus, hactivity]
      exact heq
    · rw [if_pos (decide_eq_true hji), scGrpStatus_finish_started,
        afterText_of_waitsRight hright (List.mem_of_getElem? hc)]
      unfold expectedPhaseStatus
      rw [TelnetBat.finish_bat]
  exact hready.mp (hready'.mpr hall) _ hmem hpart hactivity

/-- **The phase changes exactly for instances that have the next phase.**  For any BAT instances, none
of which stops: the phase is started for those that take part in it and for no other, in whatever
order they finish it every iteration waits for those that have not finished and for no other, and only
those are refreshed, if and only if every instance takes part in the phase that comes next, and every
instance takes part in `postexec` when that is started. -/
theorem changesPhase_iff (phase : TrafficPhase) (bats : List PhasedBat) :
    ChangesPhase phase bats ↔ ∀ b ∈ bats, b.ExpectsNext phase := by
  have hstate : (bats.map fun b => (TelnetBat.started phase b,
      decide (b.takesPart phase = true ∨ phase = .postexec))).map Prod.fst =
      bats.map (TelnetBat.started phase) := by
    rw [List.map_map]
    rfl
  constructor
  · rintro ⟨started, hstart, hparts, hruns⟩ b hb
    obtain rfl := Except.ok.inj ((startPhase_before phase bats).symm.trans hstart)
    rw [hstate] at hruns
    have hright : ∀ e, WaitsRight phase (afterFinishing phase bats e) := fun e =>
      ((hruns [e]).2 _ rfl)
    have hafter := afterText_of_waitsRight hright hb
    cases phase with
    | preexec => exact PhasedBat.statusText_waitsFor_eq_idleText (by decide) |>.mp hafter
    | loadgen => exact PhasedBat.statusText_waitsFor_eq_idleText List.not_mem_nil |>.mp hafter
    | postexec =>
      have hpart : b.takesPart .postexec = true :=
        (hparts _ (List.mem_map_of_mem hb)).mp (decide_eq_true (Or.inr rfl))
      exact ⟨hpart, hafter, runningText_ne_of_waitsRight hright hb hpart⟩
  · intro h
    refine ⟨_, startPhase_before phase bats, fun x hx => ?_, fun es => ?_⟩
    · obtain ⟨b, hb, rfl⟩ := List.mem_map.mp hx
      refine decide_eq_true_iff.trans (or_iff_left_of_imp fun hlast => ?_)
      subst hlast
      exact (h b hb).1
    · rw [hstate]
      refine LabelledSystem.throughout_of_along (C := fun _ _ => True)
        (I := fun bats : List TelnetBat => ∀ b ∈ bats, Going phase b ∧ b.bat.ExpectsNext phase)
        (fun _ _ _ hI _ hstep => going_finishStep hI hstep) (fun _ => waitsRight_of_expectsNext) ?_
        (LabelledSystem.along_of_forall fun _ _ _ => trivial)
      intro x hx
      obtain ⟨b, hb, rfl⟩ := List.mem_map.mp hx
      exact ⟨going_started phase b, h b hb⟩

/-- An instance that takes part in `preexec` and `loadgen`, and then waits for `postexec`. -/
def fullBat : PhasedBat where
  takesPart := fun _ => true
  takesPart_some := ⟨.preexec, rfl⟩
  runningText := fun p => p.text ++ " - RUNNING".toList
  runningText_ne := by decide
  finalText := "FINISHED".toList
  finalText_ne := by decide
  finalText_names := fun _ _ => rfl

/-- An instance that takes part in `postexec` only. -/
def postexecBat : PhasedBat where
  takesPart := fun p => p = .postexec
  takesPart_some := ⟨.postexec, rfl⟩
  runningText := fun p => p.text ++ " - RUNNING".toList
  runningText_ne := by decide
  finalText := "FINISHED".toList
  finalText_ne := by decide
  finalText_names := by decide

/-- Every instance that takes part in `preexec` has finished it, but the one that waits for `postexec`
is waited for and refreshed. -/
theorem postexecBat_blocks :
    (startPhase .preexec ([fullBat, postexecBat].map (TelnetBat.before .preexec))).map
        (List.map Prod.snd) = .ok [true, false] ∧
      (waitIteration .preexec 60 (some .preexec)
        (afterFinishing .preexec [fullBat, postexecBat] fun _ => true)).map
        (fun p => (p.allReady, p.batToRefresh.map TelnetBat.scGrpStatus)) =
      .ok (false, ["postexec - IDLE".toList]) ∧
      ¬ ChangesPhase .preexec [fullBat, postexecBat] := by
  refine ⟨by decide +kernel, by decide +kernel, ?_⟩
  rintro ⟨started, hstart, -, hruns⟩
  obtain rfl := Except.ok.inj
    ((startPhase_before .preexec [fullBat, postexecBat]).symm.trans hstart)
  have hright : ∀ e, WaitsRight .preexec (afterFinishing .preexec [fullBat, postexecBat] e) :=
    fun e => (hruns [e]).2 _ rfl
  have hstatus := afterText_of_waitsRight hright (List.mem_cons_of_mem _ List.mem_cons_self)
  exact absurd hstatus (by decide)

end HssRtc
