import StTools.Lib.EarlyExit
import StTools.ScenarioDeployGenerator.Generator
import Mathlib.Data.Set.Basic

/-!
# The phase plan

A phase is coherent when the traffic cases that it starts are those that it stops and those that it
waits for, when they are declared, and when a phase without traffic cases is not executed.

The traffic cases and their flags do not change any more while the files are written, so the lists
of the scenario file come from the cases as they were planned.
-/

namespace ScenarioDeployGenerator

/-! ## Coherence -/

namespace ScenarioFile

variable (f : ScenarioFile)

/-- The actions of a phase when it comes into a state. -/
def actions (p : Phase) (s : PhaseState) : List Action :=
  (f.phaseStateChangeActions.filter fun x => x.1 = p ∧ x.2.1 = s).flatMap fun x => x.2.2

/-- The traffic cases that are started when the phase is running. -/
def started (p : Phase) : Set Text := {tc | .startTc tc ∈ f.actions p .running}

/-- The traffic cases that are stopped when the phase is stopping. -/
def stopped (p : Phase) : Set Text := {tc | .stopTc tc ∈ f.actions p .stopping}

/-- The traffic cases that the phase waits for. -/
def awaited (p : Phase) : Set Text := {tc | ∃ x ∈ f.phaseFinishConditions, x.1 = p ∧ tc ∈ x.2}

/-- The lists of the scenario file describe one plan. -/
structure Coherent : Prop where
  /-- What is started is stopped. -/
  stopped_eq : ∀ p, f.stopped p = f.started p
  /-- What is started is waited for. -/
  awaited_eq : ∀ p, f.awaited p = f.started p
  /-- What is started is declared. -/
  declared : ∀ p, ∀ tc ∈ f.started p,
    p.suffix <:+ tc ∧ tc ∈ f.tcTypeDeclarators ∧ ∃ e ∈ f.tcList, e.tcName = tc
  /-- The phase before the load is executed when it has traffic cases. -/
  preexec_iff : .preexec ∈ f.phases ↔ (f.started .preexec).Nonempty
  /-- The phase after the load is executed when it has traffic cases. -/
  postexec_iff : .postexec ∈ f.phases ↔ (f.started .postexec).Nonempty

end ScenarioFile

/-- No traffic case takes part in the phase before the load, and when one takes part in the phase
after it, then some case of that phase takes part in the load. -/
def Globals.PlanFits (g : Globals) : Prop :=
  (∀ e ∈ includedTcs g, e.2.addPre = false) ∧
    ((∃ e ∈ includedTcs g, e.2.addPost) → ∃ e ∈ includedTcs g, e.2.addPost ∧ e.2.addLoad)

instance (g : Globals) : Decidable g.PlanFits := by
  unfold Globals.PlanFits
  infer_instance

/-! ## The lists of a scenario file -/

section Lists

variable {pre post : Bool} {g : Globals} {p : Phase} {tc : Text}

/-- The flag of a phase; the load is always executed. -/
def needed (pre post : Bool) : Phase → Bool
  | .preexec => pre
  | .loadgen => true
  | .postexec => post

lemma mem_phases : p ∈ (scenarioFile pre post g).phases ↔ needed pre post p := by
  cases p <;> cases pre <;> cases post <;> simp [scenarioFile, whenNeeded, needed]

/-- What a phase starts. -/
lemma started_eq : (scenarioFile pre post g).started p =
    {tc | needed pre post p = true ∧ tc ∈ phaseTcs g p} := by
  ext tc
  cases p <;> cases pre <;> cases post <;>
    simp [ScenarioFile.started, ScenarioFile.actions, scenarioFile, whenNeeded, needed]

/-- What a phase waits for. -/
lemma awaited_eq_started :
    (scenarioFile pre post g).awaited p = (scenarioFile pre post g).started p := by
  rw [started_eq]
  ext tc
  cases p <;> cases pre <;> cases post <;>
    simp [ScenarioFile.awaited, scenarioFile, whenNeeded, needed]

/-- What a phase stops; nothing is stopped in the phase before the load. -/
lemma stopped_eq : (scenarioFile pre post g).stopped p =
    {tc | p ≠ .preexec ∧ tc ∈ (scenarioFile pre post g).started p} := by
  rw [started_eq]
  ext tc
  cases p <;> cases pre <;> cases post <;>
    simp [ScenarioFile.stopped, ScenarioFile.actions, scenarioFile, whenNeeded, needed]

/-- A traffic case of a phase is declared. -/
lemma declared_of_mem_phaseTcs (h : tc ∈ phaseTcs g p) :
    p.suffix <:+ tc ∧ tc ∈ (scenarioFile pre post g).tcTypeDeclarators ∧
      ∃ e ∈ (scenarioFile pre post g).tcList, e.tcName = tc := by
  obtain ⟨e, he, rfl⟩ := List.mem_map.mp h
  have hinc : e ∈ includedTcs g := (List.mem_filter.mp he).1
  have hp : p ∈ Phase.all := by cases p <;> decide
  refine ⟨List.suffix_append e.1 p.suffix, ?_, tcElement g p e, ?_, rfl⟩
  · exact List.mem_flatMap.mpr ⟨p, hp, List.mem_map.mpr ⟨e, hinc, rfl⟩⟩
  · exact List.mem_flatMap.mpr ⟨p, hp, List.mem_map.mpr ⟨e, hinc, rfl⟩⟩

/-- The lists are coherent when nothing is executed before the load, and something after it whenever
that phase is executed. -/
lemma coherent_scenarioFile_iff : (scenarioFile pre post g).Coherent ↔
    (pre = false ∧ (post = true → ∃ tc, tc ∈ phaseTcs g .postexec)) := by
  constructor
  · intro h
    have hpost := h.postexec_iff
    have hpre := h.preexec_iff
    -- nothing is stopped before the load, so nothing may be started there
    have hempty : (scenarioFile pre post g).started .preexec = ∅ := by
      rw [← h.stopped_eq, stopped_eq]
      exact Set.eq_empty_of_forall_notMem fun tc htc => htc.1 rfl
    rw [hempty, mem_phases] at hpre
    rw [mem_phases, started_eq] at hpost
    constructor
    · cases pre with
      | false => rfl
      | true => exact absurd (hpre.mp rfl) Set.not_nonempty_empty
    · intro hneeded
      obtain ⟨tc, htc⟩ := hpost.mp hneeded
      exact ⟨tc, htc.2⟩
  · rintro ⟨rfl, hpost⟩
    refine ⟨fun p => ?_, fun p => awaited_eq_started, fun p tc htc => ?_, ?_, ?_⟩
    · rw [stopped_eq, started_eq]
      ext tc
      cases p <;> simp [needed]
    · rw [started_eq] at htc
      exact declared_of_mem_phaseTcs htc.2
    · rw [mem_phases, started_eq]
      constructor
      · intro hneeded
        cases hneeded
      · rintro ⟨tc, htc⟩
        exact htc.1
    · rw [mem_phases, started_eq]
      constructor
      · intro hneeded
        obtain ⟨tc, htc⟩ := hpost hneeded
        exact ⟨tc, hneeded, htc⟩
      · rintro ⟨tc, htc⟩
        exact htc.1

end Lists

/-! ## The flags while the files are written -/

/-- A traffic case without its range. -/
def ScriptData.flags (s : ScriptData) : ScriptData := { s with base := [], range := [] }

/-- The traffic cases without their ranges. -/
def Globals.flags (g : Globals) : OrderedMap Text ScriptData := g.tcDesc.map fun _ s => s.flags

section Flags

variable {g g' : Globals} {p : Phase}

/-- The range of a case does not change its flags. -/
lemma flags_rangeStep {tc : Text × ScriptData} (h : rangeStep g tc = .ok g') :
    g'.flags = g.flags := by
  rw [rangeStep] at h
  split_ifs at h with hinc
  · cases h
    rfl
  · split at h
    · cases h
    · dsimp only at h
      split at h
      · cases h
      · cases h
        exact OrderedMap.map_modify (f := fun (_ : Text) (s : ScriptData) => s.flags)
          fun s => rfl

/-- The ranges do not change the flags. -/
lemma flags_prepareRangeInfo (h : prepareRangeInfo g = .ok g') : g'.flags = g.flags :=
  EarlyExit.ok_of_foldlM (P := fun s => s.flags = g.flags)
    (fun _ _ _ hs hstep => (flags_rangeStep hstep).trans hs) rfl h

/-- The defines do not change the traffic cases. -/
lemma tcDesc_prepareDefines : (prepareDefines g).tcDesc = g.tcDesc := by
  have hupdate : ∀ (l : List (Text × Text)) (g : Globals),
      (l.foldl (fun g e => g.updateDefineParam e.1 e.2) g).tcDesc = g.tcDesc := fun l => by
    induction l with
    | nil => exact fun g => rfl
    | cons e l ih => exact fun g => ih (g.updateDefineParam e.1 e.2)
  have huser : ∀ (l : List Text) (g : Globals),
      (l.foldl (fun g e => userModifyDefineParam e g) g).tcDesc = g.tcDesc := fun l => by
    induction l with
    | nil => exact fun g => rfl
    | cons e l ih => exact fun g => ih (userModifyDefineParam e g)
  rw [prepareDefines, huser, updateDefine, hupdate]
  split_ifs
  · rfl
  · rfl

/-- The traffic cases of a phase only depend on the flags. -/
lemma phaseTcs_eq : phaseTcs g p = ((g.flags.entries.filter fun e => e.2.toBeIncluded).filter
    fun e => e.2.inPhase p).map fun e => e.1 ++ p.suffix := by
  rw [phaseTcs, includedTcs, Globals.flags, OrderedMap.entries_map, List.filter_map,
    List.filter_map, List.map_map]
  cases p <;> rfl

/-- The traffic cases of the phases do not change while the files are written. -/
lemma phaseTcs_of_writeFiles (h : prepareRangeInfo (writeDeploymentFile g).1 = .ok g') :
    phaseTcs g' p = phaseTcs g p := by
  have htcDesc : (writeDeploymentFile g).1.tcDesc = g.tcDesc := tcDesc_prepareDefines
  have hflags : g'.flags = g.flags :=
    (flags_prepareRangeInfo h).trans (congrArg (OrderedMap.map fun _ s => s.flags) htcDesc :)
  rw [phaseTcs_eq, phaseTcs_eq, hflags]

end Flags

/-! ## The plan of a run -/

section Plan

variable {o : Options} {g : Globals} {out : Output}

/-- The phase before the load is needed by an included case that asks for it. -/
lemma isPreNeeded_eq_false : isPreNeeded g = false ↔ ∀ e ∈ includedTcs g, e.2.addPre = false := by
  simp only [isPreNeeded, includedTcs, List.any_eq_false, List.mem_filter]
  grind

/-- The phase after the load is needed by an included case that asks for it. -/
lemma isPostNeeded_eq_true : isPostNeeded g = true ↔ ∃ e ∈ includedTcs g, e.2.addPost = true := by
  simp only [isPostNeeded, includedTcs, List.any_eq_true, List.mem_filter]
  grind

/-- The phase after the load has a traffic case. -/
lemma exists_mem_phaseTcs_postexec : (∃ tc, tc ∈ phaseTcs g .postexec) ↔
    ∃ e ∈ includedTcs g, e.2.addPost ∧ e.2.addLoad := by
  constructor
  · rintro ⟨tc, htc⟩
    obtain ⟨e, he, -⟩ := List.mem_map.mp htc
    obtain ⟨hinc, hphase⟩ := List.mem_filter.mp he
    exact ⟨e, hinc, Bool.and_eq_true_iff.mp hphase⟩
  · rintro ⟨e, hinc, hphase⟩
    have he : e.2.inPhase .postexec = true := Bool.and_eq_true_iff.mpr hphase
    exact ⟨e.1 ++ Phase.postexec.suffix, List.mem_map_of_mem (List.mem_filter.mpr ⟨hinc, he⟩)⟩

/-- What is written comes from the globals with the ranges. -/
lemma eq_of_writeFiles (h : writeFiles g = .ok out) :
    ∃ ranged, prepareRangeInfo (writeDeploymentFile g).1 = .ok ranged ∧
      out = { deployment := (writeDeploymentFile g).2
              globals := ranged
              scenario := scenarioFile (isPreNeeded g) (isPostNeeded g) ranged } := by
  change (prepareRangeInfo (writeDeploymentFile g).1 >>= fun ranged => .ok
    { deployment := (writeDeploymentFile g).2
      globals := ranged
      scenario := scenarioFile (isPreNeeded g) (isPostNeeded g) ranged }) = .ok out at h
  cases hranged : prepareRangeInfo (writeDeploymentFile g).1 with
  | error e =>
    rw [hranged] at h
    nomatch h
  | ok ranged =>
    rw [hranged] at h
    exact ⟨ranged, rfl, (Except.ok.inj h).symm⟩

/-- **The phase plan.**  The lists of the scenario file are coherent exactly when no included
traffic case takes part before the load, and one that takes part after it comes with such a case
that also takes part in the load. -/
theorem coherent_iff_planFits (hg : plan o = .ok g) (hout : main o = .ok out) :
    out.scenario.Coherent ↔ g.PlanFits := by
  rw [main, hg] at hout
  obtain ⟨ranged, hranged, rfl⟩ := eq_of_writeFiles hout
  rw [coherent_scenarioFile_iff, phaseTcs_of_writeFiles hranged, isPreNeeded_eq_false,
    isPostNeeded_eq_true, exists_mem_phaseTcs_postexec]
  rfl

end Plan

/-- A run with one traffic case, which the user's file names. -/
def oneTc (lines : List Text) : Options where
  trafficType := .esm
  template := "tcName:=A".toList :: "subcriberType:=T".toList :: lines
  trafficDesc := some ["tcName:=A".toList]
  config := ["lgen:=h".toList]

/-- A traffic case that only takes part in the load and after it has a coherent plan. -/
theorem lateTc_coherent : ∃ out, main (oneTc ["preRequired:=false".toList]) = .ok out ∧
    out.scenario.Coherent := by
  obtain ⟨g, hg, hfits⟩ : ∃ g, plan (oneTc ["preRequired:=false".toList]) = .ok g ∧ g.PlanFits :=
    ⟨_, rfl, by decide +kernel⟩
  obtain ⟨out, hout⟩ : ∃ out, main (oneTc ["preRequired:=false".toList]) = .ok out := ⟨_, rfl⟩
  exact ⟨out, hout, (coherent_iff_planFits hg hout).mpr hfits⟩

/-- A traffic case that takes part in all phases is started before the load, and not stopped. -/
theorem earlyTc_not_stopped : ∃ out, main (oneTc []) = .ok out ∧
    "A_Pre".toList ∈ out.scenario.started .preexec ∧ out.scenario.stopped .preexec = ∅ ∧
    ¬ out.scenario.Coherent := by
  obtain ⟨out, hout, hstart, hstop⟩ : ∃ out, main (oneTc []) = .ok out ∧
      .startTc "A_Pre".toList ∈ out.scenario.actions .preexec .running ∧
      ∀ a ∈ out.scenario.actions .preexec .stopping, a = .startTc "A_Pre".toList :=
    ⟨_, rfl, by decide +kernel, by decide +kernel⟩
  have hempty : out.scenario.stopped .preexec = ∅ :=
    Set.eq_empty_of_forall_notMem fun tc htc => nomatch hstop _ htc
  refine ⟨out, hout, hstart, hempty, fun h => ?_⟩
  have hstopped : "A_Pre".toList ∈ out.scenario.stopped .preexec := h.stopped_eq .preexec ▸ hstart
  rw [hempty] at hstopped
  exact hstopped

end ScenarioDeployGenerator
