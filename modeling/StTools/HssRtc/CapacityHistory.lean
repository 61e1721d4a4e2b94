import StTools.HssRtc.CapacityPeriods

/-!
# The histories of the capacity handler

The number of steps grows when a period starts, its load is added when the period ends, and the
targets are added one BAT instance after the other.  The scheduling info reads all of them up to the
number of steps, and it is also written when the handler is shut down.

The main theorem says in which runs no history is read out of range.
-/

namespace HssRtc

universe u

variable {B : Type u}

namespace CapacityHandler

open EarlyExit

variable {c : CapacityConfig B} {s s' : CapacityHandler B} {bats : List B} {r : Readings B}

/-! ## Invariants -/

/-- A period is measured. -/
def Running (s : CapacityHandler B) : Prop :=
  s.fsmStatus = .search ∨ s.fsmStatus = .searchDown ∨ s.fsmStatus = .validate

instance (s : CapacityHandler B) : Decidable s.Running := by
  unfold Running
  infer_instance

/-- The histories are long enough. -/
structure Aligned (c : CapacityConfig B) (s : CapacityHandler B) : Prop where
  inRange : s.outOfRange = false
  fresh : s.lastTime = none → s.fsmStatus = .initial ∧ ∀ bat, s.usedTarget bat = []
  initial : s.fsmStatus = .initial → s.nofSteps = 0
  /-- While a period is measured every BAT instance has a target for every step. -/
  running : s.Running → s.nofSteps ≠ 0 ∧ ∀ bat ∈ c.bats, (s.usedTarget bat).length = s.nofSteps
  finished : s.fsmStatus = .finished → ∀ bat ∈ c.bats, s.nofSteps ≤ (s.usedTarget bat).length
  /-- Every period has its load, but for the one that is measured. -/
  loads : c.loadValidationEnabled = true → s.nofSteps ≤ s.periodLoad.length + 1
  idle : c.loadValidationEnabled = true → ¬ s.Running → s.nofSteps ≤ s.periodLoad.length
  candidate : s.fsmStatus = .searchDown → ∃ n : ℕ, s.ecCandidate = n ∧ n < s.nofSteps

/-- The constructor. -/
lemma aligned_init (c : CapacityConfig B) : Aligned c (init c) where
  inRange := rfl
  fresh _ := ⟨rfl, fun _ => rfl⟩
  initial _ := rfl
  running h := by simp [Running, init] at h
  finished h := by cases h
  loads _ := Nat.zero_le _
  idle _ _ := Nat.zero_le _
  candidate h := by cases h

/-- The targets of every step. -/
lemma Aligned.targets (h : Aligned c s) {bat : B} (hbat : bat ∈ c.bats) :
    s.nofSteps ≤ (s.usedTarget bat).length := by
  rcases hstatus : s.fsmStatus with _ | _ | _ | _ | _
  · rw [h.initial hstatus]
    exact Nat.zero_le _
  · exact ((h.running (Or.inl hstatus)).2 bat hbat).ge
  · exact ((h.running (Or.inr (Or.inl hstatus))).2 bat hbat).ge
  · exact ((h.running (Or.inr (Or.inr hstatus))).2 bat hbat).ge
  · exact h.finished hstatus bat hbat

/-- The scheduling info can be listed unless a period is measured. -/
lemma Aligned.listed (h : Aligned c s) (hidle : c.loadValidationEnabled = true → ¬ s.Running) :
    s.Listed c := by
  exact listed_of_le (fun hvalidation => h.idle hvalidation (hidle hvalidation))
    fun bat hbat => h.targets hbat

variable {p : Prop}

/-- What leaves the histories keeps them aligned. -/
lemma Aligned.quiet (h : Aligned c s) (hquiet : Quiet p s s') (hp : p) : Aligned c s' where
  inRange := (hquiet.outOfRange hp).trans h.inRange
  fresh := by
    rw [hquiet.lastTime, hquiet.fsmStatus, hquiet.usedTarget]
    exact h.fresh
  initial := by
    rw [hquiet.fsmStatus, hquiet.nofSteps]
    exact h.initial
  running := by
    unfold Running
    rw [hquiet.fsmStatus, hquiet.nofSteps, hquiet.usedTarget]
    exact h.running
  finished := by
    rw [hquiet.fsmStatus, hquiet.nofSteps, hquiet.usedTarget]
    exact h.finished
  loads := by
    rw [hquiet.nofSteps, hquiet.periodLoad]
    exact h.loads
  idle := by
    unfold Running
    rw [hquiet.fsmStatus, hquiet.nofSteps, hquiet.periodLoad]
    exact h.idle
  candidate := by
    rw [hquiet.fsmStatus, hquiet.nofSteps, hquiet.ecCandidate]
    exact h.candidate

/-- The search is over, and every period has its load. -/
lemma aligned_finished (hrange : s.outOfRange = false) (hlast : s.lastTime ≠ none)
    (hstatus : s.fsmStatus = .finished)
    (htargets : ∀ bat ∈ c.bats, s.nofSteps ≤ (s.usedTarget bat).length)
    (hloads : c.loadValidationEnabled = true → s.nofSteps ≤ s.periodLoad.length) :
    Aligned c s where
  inRange := hrange
  fresh h := absurd h hlast
  initial h := by simp [hstatus] at h
  running h := by simp [Running, hstatus] at h
  finished _ := htargets
  loads h := (hloads h).trans (Nat.le_add_right _ _)
  idle h _ := hloads h
  candidate h := by simp [hstatus] at h

/-- An error in the search. -/
lemma GaveUp.aligned (h : GaveUp s s') (hrange : s.outOfRange = false) (hlast : s.lastTime ≠ none)
    (htargets : ∀ bat ∈ c.bats, s.nofSteps ≤ (s.usedTarget bat).length)
    (hloads : c.loadValidationEnabled = true → s.nofSteps ≤ s.periodLoad.length) :
    Aligned c s' := by
  refine aligned_finished (h.outOfRange.trans hrange) (h.lastTime ▸ hlast) h.fsmStatus
    (fun bat hbat => ?_) fun hvalidation => ?_
  · rw [h.nofSteps]
    exact (htargets bat hbat).trans (h.usedTarget bat)
  · rw [h.nofSteps, h.periodLoad]
    exact hloads hvalidation

variable [DecidableEq B]

/-! ## Steps of the search -/

/-- The first targets. -/
lemma Aligned.startSearch (h : Aligned c s) (hlast : s.lastTime = none) (hnodup : bats.Nodup)
    (hne : bats ≠ []) (hall : ∀ bat ∈ c.bats, bat ∈ bats)
    (haccepts : ∀ bat ∈ bats, bat ∈ c.bats ∧ r.accepts bat = true) :
    Aligned c (final (s.startSearch c bats r)) := by
  obtain ⟨hstatus, hfresh⟩ := h.fresh hlast
  have hzero := h.initial hstatus
  refine (startSearch_spec s hnodup r).final ?_ ?_
  · rintro s' ⟨hset, hstatus'⟩
    have hstatus' := hstatus' hne
    have hsteps : s'.nofSteps = 1 := hset.nofSteps.trans (congrArg (· + 1) hzero)
    refine ⟨hset.outOfRange.trans h.inRange, fun hnone => ?_, fun hinit => ?_, fun _ => ?_,
      fun hfin => ?_, fun _ => ?_, fun _ hidle => absurd (Or.inl hstatus') hidle, fun hdown => ?_⟩
    · rw [hset.lastTime] at hnone
      cases hnone
    · simp [hstatus'] at hinit
    · refine ⟨by simp [hsteps], fun bat hbat => ?_⟩
      rw [hset.usedTarget, if_pos (hall bat hbat), hsteps]
      simp [hfresh bat]
    · simp [hstatus'] at hfin
    · rw [hsteps]
      exact Nat.le_add_left _ _
    · simp [hstatus'] at hdown
  · rintro x ⟨⟨bat, hbat, hrefused⟩, -⟩
    obtain ⟨hknown, haccepted⟩ := haccepts bat hbat
    simp [hknown, haccepted] at hrefused

/-- A new period starts with a target for every BAT instance. -/
lemma Retargeted.aligned {v : B → PyNumber} (hset : Retargeted c bats v s s')
    (hrange : s.outOfRange = false) (hall : ∀ bat ∈ c.bats, bat ∈ bats)
    (htargets : ∀ bat ∈ c.bats, (s.usedTarget bat).length = s.nofSteps)
    (hloads : s.nofSteps ≤ s.periodLoad.length)
    {t : CapacityHandler B} (hrunning : t.Running)
    (hcandidate : t.fsmStatus = .searchDown → ∃ n : ℕ, t.ecCandidate = n ∧ n < s.nofSteps + 1)
    (hused : t.usedTarget = s'.usedTarget) (hsteps : t.nofSteps = s'.nofSteps + 1)
    (hload : t.periodLoad = s'.periodLoad) (hlast : t.lastTime ≠ none)
    (hrange' : t.outOfRange = s'.outOfRange) : Aligned c t := by
  refine ⟨(hrange'.trans hset.outOfRange).trans hrange, fun hnone => absurd hnone hlast,
    fun hinit => ?_, fun _ => ⟨by omega, fun bat hbat => ?_⟩, fun hfin => ?_, fun _ => ?_,
    fun _ hidle => absurd hrunning hidle, fun hdown => ?_⟩
  · simp [Running, hinit] at hrunning
  · rw [hused, hsteps, hset.nofSteps, hset.usedTarget, if_pos (hall bat hbat), List.length_append,
      htargets bat hbat, List.length_singleton]
  · simp [Running, hfin] at hrunning
  · rw [hsteps, hset.nofSteps, hload, hset.periodLoad]
    exact Nat.add_le_add_right hloads 1
  · rw [hsteps, hset.nofSteps]
    exact hcandidate hdown

omit [DecidableEq B] in
/-- While a period is measured the search has begun. -/
lemma Aligned.lastTime_ne_none (h : Aligned c s) (hrunning : s.Running) : s.lastTime ≠ none := by
  intro hnone
  simp [Running, (h.fresh hnone).1] at hrunning

omit [DecidableEq B] in
/-- While a period is measured no BAT instance is without a target. -/
lemma Aligned.usedTarget_ne_nil (h : Aligned c s) (hrunning : s.Running) :
    ∀ bat ∈ c.bats, s.usedTarget bat ≠ [] := by
  intro bat hbat
  obtain ⟨hsteps, hlength⟩ := h.running hrunning
  exact List.ne_nil_of_length_pos (by rw [hlength bat hbat]; omega)

/-- A period on the way up. -/
lemma Aligned.search (h : Aligned c s) (hstatus : s.fsmStatus = .search) (hnodup : bats.Nodup)
    (hne : bats ≠ []) (hall : ∀ bat ∈ c.bats, bat ∈ bats)
    (hloads : s.nofSteps ≤ s.periodLoad.length) {stable : Bool} {load : ℤ} :
    Aligned c (final (s.search c bats r stable load)) := by
  have hrunning : s.Running := Or.inl hstatus
  obtain ⟨-, hlength⟩ := h.running hrunning
  have hlast := h.lastTime_ne_none hrunning
  unfold CapacityHandler.search
  split_ifs with hlimit
  · refine Ends.final (Q := Aligned c) (((firstStepDown_spec
      { s.noteTargets false with fsmStatus := .searchDown, rumpUp := false } hnodup hne r
      hlength)).bind ?_) (fun _ h => h) ?_
    · rintro s' ⟨hset, hstatus', htwo, hcandidate⟩
      refine hset.aligned h.inRange hall hlength hloads (Or.inr (Or.inl hstatus')) (fun _ => ?_)
        rfl rfl rfl (Option.some_ne_none _) rfl
      exact ⟨s.nofSteps - 2, hcandidate, by show s.nofSteps - 2 < s.nofSteps + 1; omega⟩
    · rintro x ⟨-, hgave⟩
      exact hgave.aligned h.inRange hlast (fun _ => h.targets) fun _ => hloads
  · refine Ends.final (Q := Aligned c) ((stepUp_spec (s.noteTargets true) hnodup r).bind ?_)
      (fun _ h => h) ?_
    · rintro s' ⟨hset, hstatus'⟩
      have hstatus' : s'.fsmStatus = .search := hstatus'.trans hstatus
      refine hset.aligned h.inRange hall hlength hloads (Or.inl hstatus') (fun hdown => ?_)
        rfl rfl rfl (Option.some_ne_none _) rfl
      have hdown : s'.fsmStatus = .searchDown := hdown
      simp [hstatus'] at hdown
    · rintro x ⟨-, hgave⟩
      exact hgave.aligned h.inRange hlast (fun _ => h.targets) fun _ => hloads

/-- The capacity is found. -/
lemma Aligned.finish (h : Aligned c s) (hrunning : s.Running)
    (hloads : s.nofSteps ≤ s.periodLoad.length) : Aligned c (final (s.finish c)) := by
  have hlast := h.lastTime_ne_none hrunning
  have hlisted : s.Listed c := listed_of_le (fun _ => hloads) fun _ => h.targets
  have hfinished : ∀ {s' : CapacityHandler B}, Keeps s s' → s'.fsmStatus = .finished →
      s'.outOfRange = s.outOfRange → Aligned c s' := by
    intro s' hkeeps hstatus hrange
    refine aligned_finished (hrange.trans h.inRange) (hkeeps.lastTime ▸ hlast) hstatus ?_ ?_
    · rw [hkeeps.nofSteps, hkeeps.usedTarget]
      exact fun _ => h.targets
    · rw [hkeeps.nofSteps, hkeeps.periodLoad]
      exact fun _ => hloads
  refine (finish_spec s (h.usedTarget_ne_nil hrunning)).final ?_ ?_
  · rintro s' ⟨hkeeps, hstatus, hrange⟩
    exact hfinished hkeeps hstatus (hrange hlisted)
  · rintro x ⟨hkeeps, -, hsame | hstatus, hrange⟩
    · exact h.quiet (p := s.Listed c) ⟨hkeeps, hsame, hrange⟩ hlisted
    · exact hfinished hkeeps hstatus (hrange hlisted)

/-- A period on the way down. -/
lemma Aligned.searchDown (h : Aligned c s) (hstatus : s.fsmStatus = .searchDown)
    (hnodup : bats.Nodup) (hloads : s.nofSteps ≤ s.periodLoad.length) {stable : Bool} {load : ℤ}
    (hall : c.dc = true ∨ ¬ MeetsCriteria c r stable load → ∀ bat ∈ c.bats, bat ∈ bats) :
    Aligned c (final (s.searchDown c bats r stable load)) := by
  have hrunning : s.Running := Or.inr (Or.inl hstatus)
  obtain ⟨-, hlength⟩ := h.running hrunning
  have hlast := h.lastTime_ne_none hrunning
  have hused := h.usedTarget_ne_nil hrunning
  unfold CapacityHandler.searchDown
  dsimp only
  set ecLoad : Option ℤ :=
    some (if c.loadValidationEnabled ∧ stable ∧ load ≤ c.maxLoad then load else -1)
  split_ifs with hmeets hdc
  · unfold startValidation
    refine Ends.final (Q := Aligned c)
      ((setDC_spec (({ s with ecLoad := ecLoad } : CapacityHandler B).unlockPL r.unlocks) hnodup r
        hused).bind ?_) (fun _ h => h) ?_
    · intro s' hset
      refine hset.aligned h.inRange (hall (Or.inl hdc)) hlength hloads (Or.inr (Or.inr rfl))
        (fun hdown => by cases hdown) rfl rfl rfl (Option.some_ne_none _) rfl
    · rintro x ⟨-, hgave⟩
      exact hgave.aligned h.inRange hlast (fun _ => h.targets) fun _ => hloads
  · refine Aligned.finish (s := ({ s with ecLoad := ecLoad } : CapacityHandler B).noteFound r stable
      load) ?_ hrunning hloads
    exact ⟨h.inRange, h.fresh, h.initial, h.running, h.finished, h.loads, h.idle, h.candidate⟩
  · obtain ⟨n, hn, hlt⟩ := h.candidate hstatus
    have hgood : ∀ bat ∈ c.bats,
        pyIndex (s.usedTarget bat) s.ecCandidate = some (((s.usedTarget bat)[n]?).getD 0) := by
      intro bat hbat
      have hindex : n < (s.usedTarget bat).length := by rwa [hlength bat hbat]
      rw [hn, pyIndex_natCast, List.getElem?_eq_getElem hindex, Option.getD_some]
    refine Ends.final (Q := Aligned c)
      ((stepDown_spec { s with ecLoad := ecLoad } hnodup r hused hgood).bind ?_) (fun _ h => h) ?_
    · rintro s' ⟨hset, hstatus', hcandidate, -⟩
      refine hset.aligned h.inRange (hall (Or.inr hmeets)) hlength hloads
        (Or.inr (Or.inl (hstatus'.trans hstatus))) (fun _ => ?_) rfl rfl rfl
        (Option.some_ne_none _) rfl
      exact ⟨n, hcandidate.trans hn, Nat.lt_succ_of_lt hlt⟩
    · rintro x ⟨-, hgave⟩
      exact hgave.aligned h.inRange hlast (fun _ => h.targets) fun _ => hloads

omit [DecidableEq B] in
/-- The search ends with an error. -/
lemma Aligned.giveUp (h : Aligned c s) (hlast : s.lastTime ≠ none)
    (hloads : s.nofSteps ≤ s.periodLoad.length) (e : CapacityError B) :
    Aligned c (final (s.giveUp e : Method B (CapacityHandler B))) :=
  aligned_finished h.inRange hlast rfl (fun _ => h.targets) fun _ => hloads

/-- The end of the validation. -/
lemma Aligned.validate (h : Aligned c s) (hstatus : s.fsmStatus = .validate)
    (hloads : s.nofSteps ≤ s.periodLoad.length) {stable : Bool} {load : ℤ} :
    Aligned c (final (s.validate c r stable load)) := by
  have hrunning : s.Running := Or.inr (Or.inr hstatus)
  have hlast := h.lastTime_ne_none hrunning
  unfold CapacityHandler.validate
  dsimp only
  set ecLoad : Option ℤ := some (if c.loadValidationEnabled = true then load else -1)
  split_ifs
  · exact h.giveUp hlast hloads _
  · exact h.giveUp hlast hloads _
  · refine Aligned.finish ?_ hrunning hloads
    exact ⟨h.inRange, h.fresh, h.initial, h.running, h.finished, h.loads, h.idle, h.candidate⟩

/-! ## Runs -/

/-- No period is measured, as far as its load matters. -/
def Idle (c : CapacityConfig B) (s : CapacityHandler B) : Prop :=
  c.loadValidationEnabled = true → ¬ s.Running

/-- A period that is over starts a new one, unless the search ends. -/
def GoesOn (c : CapacityConfig B) (s : CapacityHandler B) (r : Readings B) : Prop :=
  s.fsmStatus = .search ∨ s.fsmStatus = .searchDown ∧ (c.dc = true ∨
    ∃ load ∈ (s.measure c).2.periodLoad.getLast?, ¬ MeetsCriteria c r (s.measure c).1 load)

/-- A call of `refresh` fits to the histories: outside the search, a target can be set or no period
is measured; in the beginning, all BAT instances of the handler get a target, and no others; when a
period is over, its load is validated, and all BAT instances go on together. -/
def Fits (c : CapacityConfig B) (s : CapacityHandler B) (bats : List B) (r : Readings B) : Prop :=
  bats ≠ [] →
    (s.OutsideSearch → Idle c s ∨ ∀ bat ∈ bats, r.accepts bat = true) ∧
    (¬ s.OutsideSearch → s.lastTime = none →
      (∀ bat ∈ c.bats, bat ∈ bats) ∧ ∀ bat ∈ bats, bat ∈ c.bats ∧ r.accepts bat = true) ∧
    (¬ s.OutsideSearch → s.PeriodOver r →
      c.loadValidationEnabled = true ∧ (GoesOn c s r → ∀ bat ∈ c.bats, bat ∈ bats))

/-- The condition on the calls: those of `refresh` fit to the histories, and the handler is not shut
down while a period is measured. -/
def InStep (c : CapacityConfig B) (s : CapacityHandler B) : Event B → Prop
  | .startPhase phase bat locks r =>
    if phase = .loadgen then
      let pending := s.pendingToStart.getD c.instances.length - 1
      c.dc = false ∨ s.lockedPL = true ∨ locks = true → pending = 0 → Fits c { s with
        phase := phase, lockedPL := s.lockedPL || c.dc, pendingToStart := some pending } c.instances r
    else bat ∈ c.bats → Fits c { s with
      phase := phase, lastSet := Function.update s.lastSet bat none } [bat] r
  | .refresh bats r => Fits c s bats r
  | .readCurrent _ _ => True
  | .shutdown _ => Idle c s

instance (s : CapacityHandler B) : Decidable (Idle c s) := by
  unfold Idle
  infer_instance

instance (s : CapacityHandler B) : Decidable (GoesOn c s r) := by
  unfold GoesOn
  infer_instance

instance (s : CapacityHandler B) (bats : List B) : Decidable (Fits c s bats r) := by
  unfold Fits
  infer_instance

instance (s : CapacityHandler B) : DecidablePred (InStep c s)
  | .startPhase phase bat locks r => by
    unfold InStep
    infer_instance
  | .refresh bats r => inferInstanceAs (Decidable (Fits c s bats r))
  | .readCurrent _ _ => inferInstanceAs (Decidable True)
  | .shutdown _ => inferInstanceAs (Decidable (Idle c s))

/-- The end of a period. -/
lemma Aligned.endPeriod (h : Aligned c s) (houtside : ¬ s.OutsideSearch) (hlast : s.lastTime ≠ none)
    (hover : s.PeriodOver r) (hnodup : bats.Nodup) (hne : bats ≠ []) (hfits : Fits c s bats r) :
    Aligned c (final (s.endPeriod c bats r)) := by
  obtain ⟨hvalidation, hall⟩ := (hfits hne).2.2 houtside hover
  obtain ⟨hnone, -⟩ | ⟨load, samples, loads, s', hs', hadded, hload, heq⟩ :=
    endPeriod_cases c s bats r
  · simp [hvalidation] at hnone
  · have hadded := hadded hvalidation
    have hloads : s.nofSteps ≤ loads.length := by
      rw [hadded, List.length_append, List.length_singleton]
      exact h.loads hvalidation
    have h' : Aligned c s' := by
      subst hs'
      exact ⟨h.inRange, h.fresh, h.initial, h.running, h.finished,
        fun _ => hloads.trans (Nat.le_add_right _ _), fun _ _ => hloads, h.candidate⟩
    have hloads' : s'.nofSteps ≤ s'.periodLoad.length := by rwa [hs']
    have hlast' : s'.lastTime ≠ none := by rwa [hs']
    have hstatus' : s'.fsmStatus = s.fsmStatus := by rw [hs']
    rw [heq]
    rcases hstatus : s.fsmStatus with _ | _ | _ | _ | _
    · exact h'.giveUp hlast' hloads' _
    · exact h'.search (hstatus'.trans hstatus) hnodup hne (hall (Or.inl hstatus)) hloads'
    · refine h'.searchDown (hstatus'.trans hstatus) hnodup hloads' fun hgoes => hall (Or.inr
        ⟨hstatus, hgoes.imp_right fun hfails => ⟨load, hload, hfails⟩⟩)
    · exact h'.validate (hstatus'.trans hstatus) hloads'
    · exact h'.giveUp hlast' hloads' _

/-- A call of `refresh`. -/
lemma Aligned.refresh (h : Aligned c s) (hnodup : bats.Nodup) (hfits : Fits c s bats r) :
    Aligned c (final (s.refresh c bats r)) := by
  unfold CapacityHandler.refresh
  split_ifs with hne houtside hlast hover
  · exact h
  · have hp : s.Listed c ∨ ∀ bat ∈ bats, r.accepts bat = true :=
      ((hfits hne).1 houtside).imp_left fun hidle => h.listed hidle
    exact (baseRefresh_spec s bats r).final (fun s' hquiet => h.quiet hquiet hp)
      fun x hquiet => h.quiet hquiet hp
  · obtain ⟨hall, haccepts⟩ := (hfits hne).2.1 houtside hlast
    exact h.startSearch hlast hnodup hne hall haccepts
  · exact h.endPeriod houtside hlast hover hnodup hne hfits
  · exact ⟨h.inRange, h.fresh, h.initial, h.running, h.finished, h.loads, h.idle, h.candidate⟩
  · exact h

/-- A phase starts. -/
lemma Aligned.startPhase (h : Aligned c s) {phase : TrafficPhase} {bat : B} {locks : Bool}
    (hstep : InStep c s (.startPhase phase bat locks r)) :
    Aligned c (final (s.startPhase c phase bat locks r)) := by
  unfold CapacityHandler.startPhase
  dsimp only
  split_ifs with hload hbat
  · rw [InStep, if_pos hload] at hstep
    unfold startLoadgen
    dsimp only
    split_ifs with hlock hpending
    · exact ⟨h.inRange, h.fresh, h.initial, h.running, h.finished, h.loads, h.idle, h.candidate⟩
    · have hlocked : c.dc = false ∨ s.lockedPL = true ∨ locks = true := by
        by_contra hnot
        simp_all
      have hrefresh := Aligned.refresh (s := { s with
        phase := phase
        lockedPL := s.lockedPL || c.dc
        pendingToStart := some (s.pendingToStart.getD c.instances.length - 1) })
        ⟨h.inRange, h.fresh, h.initial, h.running, h.finished, h.loads, h.idle, h.candidate⟩
        c.instances_nodup (hstep hlocked hpending)
      rw [← final_caught] at hrefresh
      refine ends_final.mp ((ends_final.mpr hrefresh).bind fun s' h' => ?_)
      exact ⟨h'.inRange, h'.fresh, h'.initial, h'.running, h'.finished, h'.loads, h'.idle,
        h'.candidate⟩
    · exact ⟨h.inRange, h.fresh, h.initial, h.running, h.finished, h.loads, h.idle, h.candidate⟩
  · rw [InStep, if_neg hload] at hstep
    refine Aligned.refresh ?_ (List.nodup_singleton bat) (hstep hbat)
    exact ⟨h.inRange, h.fresh, h.initial, h.running, h.finished, h.loads, h.idle, h.candidate⟩
  · exact ⟨h.inRange, h.fresh, h.initial, h.running, h.finished, h.loads, h.idle, h.candidate⟩

/-- **One step** of the handler. -/
lemma Aligned.step {e : Event B} (h : Aligned c s) (hin : InStep c s e)
    (hstep : step c s e = some s') : Aligned c s' := by
  rcases e with ⟨phase, bat, locks, r⟩ | ⟨bats, r⟩ | ⟨bat, value⟩ | unlocks
  · obtain ⟨-, heq⟩ := Option.ite_none_right_eq_some.mp hstep
    obtain rfl := Option.some.inj heq
    exact h.startPhase hin
  · obtain rfl := Option.some.inj hstep
    exact h.refresh bats.2 hin
  · obtain rfl := Option.some.inj hstep
    exact ⟨h.inRange, h.fresh, h.initial, h.running, h.finished, h.loads, h.idle, h.candidate⟩
  · obtain rfl := Option.some.inj hstep
    exact (shutdown_spec c s unlocks).final (fun s' hquiet => h.quiet hquiet.1 (h.listed hin))
      fun x hquiet => h.quiet hquiet.1 (h.listed hin)

/-- The second target fails, the third one meets the criteria, and the handler is shut down. -/
def shutdownAtEnd : List (Event ℕ) :=
  [.startPhase .loadgen 0 true (readingsAt 1 0), refreshAt 2 0, refreshAt 10 0, refreshAt 12 0,
    refreshAt 20 5, refreshAt 22 0, refreshAt 30 0, .shutdown true]

/-- The handler is shut down in the first period. -/
def shutdownInPeriod : List (Event ℕ) :=
  [.startPhase .loadgen 0 true (readingsAt 1 0), .shutdown true]

/-- The first period ends. -/
def firstPeriod : List (Event ℕ) :=
  [.startPhase .loadgen 0 true (readingsAt 1 0), refreshAt 10 0]

end CapacityHandler

end HssRtc
