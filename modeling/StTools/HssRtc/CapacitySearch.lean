import StTools.HssRtc.CapacityPeriods
import Mathlib.Tactic.Linarith

/-!
# The targets that the capacity handler finds

When references are created, the last target of every BAT instance should lie between the last one
that was good on the way up and the first one that failed.  The steps down are checked against the
good target, but for the first one.  The targets are Python numbers, and a step may be rounded: a good
target plus a step less the same step can be below it.

The main theorem says in which runs the targets are right all the same.
-/

namespace HssRtc

universe u

variable {B : Type u}

/-- The targets are right when references are created. -/
structure Found.Sound (c : CapacityConfig B) (f : Found B) : Prop where
  errorRate : f.tpsErrorRate ≤ c.maxErrorRate
  load : c.loadValidationEnabled = true → f.stable = true ∧ f.load ≤ c.maxLoad
  targets : ∀ bat ∈ c.bats, ∃ target good bad, f.used bat = some target ∧
    f.applied bat = some target ∧ f.lastGood bat = some good ∧ f.firstBad bat = some bad ∧
    good ≤ target ∧ target < bad

namespace CapacityHandler

open EarlyExit

variable {c : CapacityConfig B} {s s' : CapacityHandler B} {bats : List B} {r : Readings B}

/-- The targets were right whenever references were created. -/
def Sound (c : CapacityConfig B) (s : CapacityHandler B) : Prop := ∀ f ∈ s.found, f.Sound c

/-! ## Invariants -/

/-- On the way up every BAT instance has got the same number of targets, and the last but one is the
last good one. -/
def RampUp (c : CapacityConfig B) (s : CapacityHandler B) : Prop :=
  ∃ n : ℕ, ∀ bat ∈ c.bats, ∃ ups target, s.usedTarget bat = ups ++ [target] ∧ ups.length = n ∧
    s.applied bat = some target ∧ s.firstBad bat = none ∧ s.lastGood bat = ups.getLast?

/-- On the way down the candidate is the last good target, and the target lies between it and the
first one that failed.  The next step does not lead upwards. -/
def GoingDown (c : CapacityConfig B) (s : CapacityHandler B) : Prop :=
  ∃ n : ℕ, s.ecCandidate = n ∧ ∀ bat ∈ c.bats, ∃ target good bad,
    (s.usedTarget bat)[n]? = some good ∧ (s.usedTarget bat).getLast? = some target ∧
    s.applied bat = some target ∧ s.lastGood bat = some good ∧ s.firstBad bat = some bad ∧
    good ≤ target ∧ target < bad ∧ target - c.deltaDown bat ≤ target

/-- What keeps the search sound. -/
structure Searching (c : CapacityConfig B) (s : CapacityHandler B) : Prop where
  sound : s.Sound c
  fresh : s.lastTime = none → s.fsmStatus = .initial ∧
    ∀ bat, s.usedTarget bat = [] ∧ s.lastGood bat = none ∧ s.firstBad bat = none
  started : s.lastTime ≠ none → s.phase ≠ .preexec
  notValidate : s.fsmStatus ≠ .validate
  rampUp : s.phase = .loadgen → s.fsmStatus = .search → s.RampUp c
  goingDown : s.phase = .loadgen → s.fsmStatus = .searchDown → s.GoingDown c

/-- The constructor. -/
lemma searching_init (c : CapacityConfig B) : Searching c (init c) where
  sound f hf := by cases hf
  fresh _ := ⟨rfl, fun _ => ⟨rfl, rfl, rfl⟩⟩
  started h := absurd rfl h
  notValidate := by simp [init]
  rampUp _ h := by cases h
  goingDown _ h := by cases h

variable {p : Prop}

/-- What leaves the histories keeps the search sound, if in its phase it leaves the targets that the
BAT instances have. -/
lemma Searching.quiet (h : Searching c s) (hquiet : Quiet p s s')
    (hsame : s.phase = .loadgen → s'.applied = s.applied) : Searching c s' where
  sound := by
    unfold Sound
    rw [hquiet.found]
    exact h.sound
  fresh := by
    rw [hquiet.lastTime, hquiet.fsmStatus, hquiet.usedTarget, hquiet.lastGood, hquiet.firstBad]
    exact h.fresh
  started := by
    rw [hquiet.lastTime, hquiet.phase]
    exact h.started
  notValidate := hquiet.fsmStatus ▸ h.notValidate
  rampUp hphase hstatus := by
    rw [hquiet.phase] at hphase
    unfold RampUp
    rw [hquiet.usedTarget, hquiet.lastGood, hquiet.firstBad, hsame hphase]
    exact h.rampUp hphase (hquiet.fsmStatus ▸ hstatus)
  goingDown hphase hstatus := by
    rw [hquiet.phase] at hphase
    unfold GoingDown
    rw [hquiet.ecCandidate, hquiet.usedTarget, hquiet.lastGood, hquiet.firstBad, hsame hphase]
    exact h.goingDown hphase (hquiet.fsmStatus ▸ hstatus)

/-- The search is over. -/
lemma searching_finished (hsound : s.Sound c) (hlast : s.lastTime ≠ none)
    (hphase : s.phase ≠ .preexec) (hstatus : s.fsmStatus = .finished) : Searching c s where
  sound := hsound
  fresh h := absurd h hlast
  started _ := hphase
  notValidate := by simp [hstatus]
  rampUp _ h := by simp [hstatus] at h
  goingDown _ h := by simp [hstatus] at h

variable [DecidableEq B]

omit [DecidableEq B] in
/-- An error in the search. -/
lemma GaveUp.searching (h : GaveUp s s') (hsound : s.Sound c) (hlast : s.lastTime ≠ none)
    (hphase : s.phase ≠ .preexec) : Searching c s' := by
  refine searching_finished ?_ ?_ ?_ h.fsmStatus
  · unfold Sound
    rw [h.found]
    exact hsound
  · rw [h.lastTime]
    exact hlast
  · rw [h.phase]
    exact hphase

omit [DecidableEq B] in
/-- The wrong state. -/
lemma searching_giveUp (hsound : s.Sound c) (hlast : s.lastTime ≠ none) (hphase : s.phase ≠ .preexec)
    (e : CapacityError B) : Searching c (final (s.giveUp e : Method B (CapacityHandler B))) :=
  searching_finished hsound hlast hphase rfl

/-! ## The way up -/

/-- The first targets. -/
lemma Searching.startSearch (h : Searching c s) (hphase : s.phase = .loadgen)
    (hlast : s.lastTime = none) (hnodup : bats.Nodup) (hne : bats ≠ [])
    (hall : ∀ bat ∈ c.bats, bat ∈ bats) :
    Searching c (final (s.startSearch c bats r)) := by
  obtain ⟨-, hfresh⟩ := h.fresh hlast
  refine (startSearch_spec s hnodup r).final ?_ ?_
  · rintro s' ⟨hset, hstatus⟩
    have hstatus := hstatus hne
    have hphase' : s'.phase = .loadgen := hset.phase.trans hphase
    refine ⟨?_, fun hnone => ?_, fun _ => by simp [hphase'], by simp [hstatus], fun _ _ => ?_,
      fun _ hdown => by simp [hstatus] at hdown⟩
    · unfold Sound
      rw [hset.found]
      exact h.sound
    · rw [hset.lastTime] at hnone
      cases hnone
    · refine ⟨0, fun bat hbat => ⟨[], c.initial bat, ?_, rfl, ?_, ?_, ?_⟩⟩
      · rw [hset.usedTarget, if_pos (hall bat hbat)]
        exact congrArg (· ++ _) (hfresh bat).1
      · rw [hset.applied, if_pos (hall bat hbat)]
      · rw [hset.firstBad]
        exact (hfresh bat).2.2
      · rw [hset.lastGood]
        exact (hfresh bat).2.1
  · rintro x ⟨-, -, hgave⟩
    exact hgave.searching h.sound (by simp) (by simp [hphase])

omit [DecidableEq B] in
/-- A new period starts. -/
lemma searching_startPeriod (hsound : s.Sound c) (hphase : s.phase = .loadgen)
    (hstatus : s.fsmStatus = .search ∧ s.RampUp c ∨ s.fsmStatus = .searchDown ∧ s.GoingDown c) :
    Searching c (s.startPeriod r) where
  sound := hsound
  fresh h := by cases h
  started _ := by
    show s.phase ≠ .preexec
    simp [hphase]
  notValidate := by
    show s.fsmStatus ≠ .validate
    obtain ⟨hstatus, -⟩ | ⟨hstatus, -⟩ := hstatus <;> simp [hstatus]
  rampUp _ hup := by
    have hup : s.fsmStatus = .search := hup
    obtain ⟨-, hramp⟩ | ⟨hstatus, -⟩ := hstatus
    · exact hramp
    · simp [hstatus] at hup
  goingDown _ hdown := by
    have hdown : s.fsmStatus = .searchDown := hdown
    obtain ⟨hstatus, -⟩ | ⟨-, hgoing⟩ := hstatus
    · simp [hstatus] at hdown
    · exact hgoing

/-- All targets have met the criteria, and they grow. -/
lemma RampUp.stepUp {v : B → PyNumber} (h : s.RampUp c) (hall : ∀ bat ∈ c.bats, bat ∈ bats)
    (hset : Retargeted c bats v (s.noteTargets true) s') : s'.RampUp c := by
  obtain ⟨n, hramp⟩ := h
  refine ⟨n + 1, fun bat hbat => ?_⟩
  obtain ⟨ups, target, hused, hups, happlied, hfirst, -⟩ := hramp bat hbat
  refine ⟨ups ++ [target], v bat, ?_, ?_, ?_, ?_, ?_⟩
  · rw [hset.usedTarget, if_pos (hall bat hbat)]
    exact congrArg (· ++ _) hused
  · rw [List.length_append, hups, List.length_singleton]
  · rw [hset.applied, if_pos (hall bat hbat)]
  · rw [hset.firstBad]
    exact hfirst
  · rw [hset.lastGood, List.getLast?_concat]
    exact happlied

omit [DecidableEq B] in
/-- The last entry but one. -/
lemma pyIndex_concat_neg_two {α : Type*} (ups : List α) (target : α) :
    pyIndex (ups ++ [target]) (-2) = ups.getLast? := by
  rcases ups.eq_nil_or_concat with rfl | ⟨before, good, rfl⟩
  · rfl
  · simp [pyIndex]

/-- The first step down of a BAT instance fits: no number overflows, and the next target is lower than
the last one, but not lower than the one before it. -/
def FirstStepFits (c : CapacityConfig B) (s : CapacityHandler B) (bat : B) : Prop :=
  ∀ good ∈ pyIndex (s.usedTarget bat) (-2),
    (∀ x ∈ c.deltaDown bat :: s.usedTarget bat, x.InRange) ∧
      good ≤ s.lastTarget bat - c.deltaDown bat ∧
      s.lastTarget bat - c.deltaDown bat < s.lastTarget bat

/-- The targets have failed, and they fall for the first time. -/
lemma RampUp.firstStepDown {n : ℕ} (h : s.RampUp c) (hall : ∀ bat ∈ c.bats, bat ∈ bats)
    (hlength : ∀ bat ∈ c.bats, (s.usedTarget bat).length = n) (htwo : 2 ≤ n)
    (hdown : ∀ bat ∈ c.bats, 0 < c.deltaDown bat) (hfits : ∀ bat ∈ c.bats, s.FirstStepFits c bat)
    (hset : Retargeted c bats (fun bat => s.lastTarget bat - c.deltaDown bat)
      { s.noteTargets false with fsmStatus := .searchDown, rumpUp := false } s')
    (hcandidate : s'.ecCandidate = ((n - 2 : ℕ) : ℤ)) : s'.GoingDown c := by
  obtain ⟨m, hramp⟩ := h
  refine ⟨n - 2, hcandidate, fun bat hbat => ?_⟩
  obtain ⟨ups, target, hused, hups, happlied, hfirst, hgood⟩ := hramp bat hbat
  have hn : n = ups.length + 1 := by
    rw [← hlength bat hbat, hused, List.length_append, List.length_singleton]
  have hpos : ups ≠ [] := List.ne_nil_of_length_pos (by omega)
  have hlastgood : ups.getLast? = some (ups.getLast hpos) := List.getLast?_eq_some_getLast hpos
  have hlast : s.lastTarget bat = target := by simp [lastTarget, hused]
  obtain ⟨-, hle, hlt⟩ := hfits bat hbat _ (by rw [hused, pyIndex_concat_neg_two, hlastgood]; rfl)
  rw [hlast] at hle hlt
  have hused' : s'.usedTarget bat = ups ++ [target] ++ [target - c.deltaDown bat] := by
    rw [hset.usedTarget, if_pos (hall bat hbat), hlast]
    exact congrArg (· ++ _) hused
  refine ⟨target - c.deltaDown bat, ups.getLast hpos, target, ?_, ?_, ?_, ?_, ?_, hle, hlt,
    PyNumber.sub_sub_le (hdown bat hbat)⟩
  · have hindex : n - 2 = ups.length - 1 := by omega
    rw [hused', hindex, List.append_assoc, List.getElem?_append_left (by omega),
      ← List.getLast?_eq_getElem?, hlastgood]
  · rw [hused', List.getLast?_concat]
  · rw [hset.applied, if_pos (hall bat hbat), hlast]
  · rw [hset.lastGood]
    exact hgood.trans hlastgood
  · rw [hset.firstBad]
    simp [noteTargets, hfirst, happlied]

/-- A period on the way up. -/
lemma Searching.search (h : Searching c s) (hphase : s.phase = .loadgen)
    (hstatus : s.fsmStatus = .search) (hnodup : bats.Nodup) (hne : bats ≠ [])
    (hall : ∀ bat ∈ c.bats, bat ∈ bats) (hdown : ∀ bat ∈ c.bats, 0 < c.deltaDown bat)
    {stable : Bool} {load : ℤ} (hfits : ReachedLimit c r stable load →
      ∀ bat ∈ c.bats, s.FirstStepFits c bat) :
    Searching c (final (s.search c bats r stable load)) := by
  have hlast : s.lastTime ≠ none := fun hnone => by
    rw [(h.fresh hnone).1] at hstatus
    cases hstatus
  have hramp := h.rampUp hphase hstatus
  unfold CapacityHandler.search
  split_ifs with hlimit
  · obtain ⟨n, hn⟩ := h.rampUp hphase hstatus
    have hlength : ∀ bat ∈ c.bats, (s.usedTarget bat).length = n + 1 := by
      intro bat hbat
      obtain ⟨ups, target, hused, hups, -⟩ := hn bat hbat
      rw [hused, List.length_append, hups, List.length_singleton]
    refine Ends.final (Q := Searching c) (((firstStepDown_spec
      { s.noteTargets false with fsmStatus := .searchDown, rumpUp := false } hnodup hne r
      hlength)).bind ?_) (fun _ h => h) ?_
    · rintro s' ⟨hset, hstatus', htwo, hcandidate⟩
      refine searching_startPeriod ?_ (hset.phase.trans hphase) (Or.inr ⟨hstatus', ?_⟩)
      · unfold Sound
        rw [hset.found]
        exact h.sound
      · exact hramp.firstStepDown hall hlength htwo hdown (hfits hlimit) hset hcandidate
    · rintro x ⟨-, hgave⟩
      exact hgave.searching h.sound hlast (by simp [noteTargets, hphase])
  · refine Ends.final (Q := Searching c) ((stepUp_spec (s.noteTargets true) hnodup r).bind ?_)
      (fun _ h => h) ?_
    · rintro s' ⟨hset, hstatus'⟩
      refine searching_startPeriod ?_ (hset.phase.trans hphase)
        (Or.inl ⟨hstatus'.trans hstatus, hramp.stepUp hall hset⟩)
      unfold Sound
      rw [hset.found]
      exact h.sound
    · rintro x ⟨-, hgave⟩
      exact hgave.searching h.sound hlast (by simp [noteTargets, hphase])

/-! ## The way down -/

/-- The targets fall again, but not below the candidates. -/
lemma GoingDown.stepDown {good : B → PyNumber} (h : s.GoingDown c)
    (hgood : ∀ bat ∈ c.bats, pyIndex (s.usedTarget bat) s.ecCandidate = some (good bat))
    (hdown : ∀ bat ∈ c.bats, 0 < c.deltaDown bat)
    (hset : Retargeted c bats (fun bat => s.lastTarget bat - c.deltaDown bat) s s')
    (hcandidate : s'.ecCandidate = s.ecCandidate)
    (hle : ∀ bat ∈ bats, good bat ≤ s.lastTarget bat - c.deltaDown bat) : s'.GoingDown c := by
  obtain ⟨n, hn, hgoing⟩ := h
  refine ⟨n, hcandidate.trans hn, fun bat hbat => ?_⟩
  obtain ⟨target, low, bad, hlow, hlast, happlied, hlastGood, hfirstBad, hge, hlt, hfalls⟩ :=
    hgoing bat hbat
  by_cases hmem : bat ∈ bats
  · have hgoodlow : good bat = low := by
      have hindex := hgood bat hbat
      rw [hn, pyIndex_natCast, hlow] at hindex
      exact (Option.some.inj hindex).symm
    have hlastTarget : s.lastTarget bat = target := by
      rw [lastTarget, List.getLastD_eq_getLast?, hlast, Option.getD_some]
    have hbound := hle bat hmem
    rw [hlastTarget, hgoodlow] at hbound
    have hlength : n < (s.usedTarget bat).length := (List.getElem?_eq_some_iff.mp hlow).1
    refine ⟨target - c.deltaDown bat, low, bad, ?_, ?_, ?_, ?_, ?_, hbound, hfalls.trans_lt hlt,
      PyNumber.sub_sub_le (hdown bat hbat)⟩
    · rw [hset.usedTarget, if_pos hmem, List.getElem?_append_left hlength, hlow]
    · rw [hset.usedTarget, if_pos hmem, List.getLast?_concat, hlastTarget]
    · rw [hset.applied, if_pos hmem, hlastTarget]
    · rw [hset.lastGood, hlastGood]
    · rw [hset.firstBad, hfirstBad]
  · refine ⟨target, low, bad, ?_, ?_, ?_, ?_, ?_, hge, hlt, hfalls⟩
    · rw [hset.usedTarget, if_neg hmem, hlow]
    · rw [hset.usedTarget, if_neg hmem, hlast]
    · rw [hset.applied, if_neg hmem, happlied]
    · rw [hset.lastGood, hlastGood]
    · rw [hset.firstBad, hfirstBad]

omit [DecidableEq B] in
/-- The targets on the way down are sound. -/
lemma GoingDown.sound_noteFound (h : s.GoingDown c) (hsound : s.Sound c) {stable : Bool} {load : ℤ}
    (hmeets : MeetsCriteria c r stable load) : (s.noteFound r stable load).Sound c := by
  intro f hf
  obtain hf | hf := List.mem_append.mp hf
  · exact hsound f hf
  · obtain rfl := List.mem_singleton.mp hf
    obtain ⟨n, -, hgoing⟩ := h
    refine ⟨hmeets.1, hmeets.2, fun bat hbat => ?_⟩
    obtain ⟨target, good, bad, -, hlast, happlied, hgood, hbad, hge, hlt, -⟩ := hgoing bat hbat
    exact ⟨target, good, bad, hlast, happlied, hgood, hbad, hge, hlt⟩

/-- The capacity is found. -/
lemma Searching.finish (h : Searching c s) (hphase : s.phase = .loadgen)
    (hlast : s.lastTime ≠ none) (hgoing : s.GoingDown c) (hstatus : s.fsmStatus = .searchDown) :
    Searching c (final (s.finish c)) := by
  have hused : ∀ bat ∈ c.bats, s.usedTarget bat ≠ [] := by
    intro bat hbat
    obtain ⟨n, -, hgoing⟩ := hgoing
    obtain ⟨target, -, -, -, hlast, -⟩ := hgoing bat hbat
    intro hnil
    rw [hnil] at hlast
    cases hlast
  refine (finish_spec s hused).final ?_ ?_
  · rintro s' ⟨hkeeps, hfinished, -⟩
    refine searching_finished ?_ ?_ ?_ hfinished
    · unfold Sound
      rw [hkeeps.found]
      exact h.sound
    · rw [hkeeps.lastTime]
      exact hlast
    · simp [hkeeps.phase, hphase]
  · rintro x ⟨hkeeps, happlied, hsame | hfinished, -⟩
    · have hsound : x.2.Sound c := by
        unfold Sound
        rw [hkeeps.found]
        exact h.sound
      refine ⟨hsound, fun hnone => absurd (hkeeps.lastTime ▸ hnone) hlast, fun _ => ?_, ?_,
        fun _ hup => ?_, fun _ _ => ?_⟩
      · simp [hkeeps.phase, hphase]
      · simp [hsame, hstatus]
      · simp [hsame, hstatus] at hup
      · unfold GoingDown
        rw [hkeeps.ecCandidate, hkeeps.usedTarget, hkeeps.lastGood, hkeeps.firstBad, happlied]
        exact hgoing
    · refine searching_finished ?_ ?_ ?_ hfinished
      · unfold Sound
        rw [hkeeps.found]
        exact h.sound
      · rw [hkeeps.lastTime]
        exact hlast
      · simp [hkeeps.phase, hphase]

/-- A period on the way down. -/
lemma Searching.searchDown (h : Searching c s) (hphase : s.phase = .loadgen)
    (hstatus : s.fsmStatus = .searchDown) (hnodup : bats.Nodup) (hdc : c.dc = false)
    (hdown : ∀ bat ∈ c.bats, 0 < c.deltaDown bat) {stable : Bool} {load : ℤ} :
    Searching c (final (s.searchDown c bats r stable load)) := by
  have hlast : s.lastTime ≠ none := fun hnone => by
    rw [(h.fresh hnone).1] at hstatus
    cases hstatus
  have hgoing := h.goingDown hphase hstatus
  unfold CapacityHandler.searchDown
  dsimp only
  rw [hdc, if_neg Bool.false_ne_true]
  set ecLoad : Option ℤ :=
    some (if c.loadValidationEnabled ∧ stable ∧ load ≤ c.maxLoad then load else -1)
  have hload : Searching c { s with ecLoad := ecLoad } := h.quiet (p := True)
    ⟨⟨rfl, rfl, rfl, rfl, rfl, rfl, rfl, rfl, rfl⟩, rfl, fun _ => rfl⟩ fun _ => rfl
  split_ifs with hmeets
  · refine Searching.finish ⟨?_, h.fresh, h.started, h.notValidate, h.rampUp, h.goingDown⟩ hphase
      hlast hgoing hstatus
    exact GoingDown.sound_noteFound (s := { s with ecLoad := ecLoad }) hgoing h.sound hmeets
  · obtain ⟨n, hn, hall⟩ := id hgoing
    have hused : ∀ bat ∈ c.bats, s.usedTarget bat ≠ [] ∧
        pyIndex (s.usedTarget bat) s.ecCandidate = some (((s.usedTarget bat)[n]?).getD 0) := by
      intro bat hbat
      obtain ⟨target, good, -, hgood, htarget, -⟩ := hall bat hbat
      refine ⟨fun hnil => ?_, ?_⟩
      · rw [hnil] at htarget
        cases htarget
      · rw [hn, pyIndex_natCast, hgood, Option.getD_some]
    refine Ends.final (Q := Searching c) ((stepDown_spec { s with ecLoad := ecLoad } hnodup r
      (fun bat hbat => (hused bat hbat).1) fun bat hbat => (hused bat hbat).2).bind ?_)
      (fun _ h => h) ?_
    · rintro s' ⟨hset, hstatus', hcandidate, hle⟩
      refine searching_startPeriod ?_ (hset.phase.trans hphase)
        (Or.inr ⟨hstatus'.trans hstatus, ?_⟩)
      · unfold Sound
        rw [hset.found]
        exact h.sound
      · exact GoingDown.stepDown (s := { s with ecLoad := ecLoad }) hgoing
          (fun bat hbat => (hused bat hbat).2) hdown hset hcandidate hle
    · rintro x ⟨-, hgave⟩
      exact hgave.searching h.sound hlast (by simp [hphase])

/-! ## Runs -/

/-- A call passes all BAT instances while the targets go up, and when a limit is reached then the
first step down of each of them fits. -/
def Together (c : CapacityConfig B) (s : CapacityHandler B) (bats : List B) (r : Readings B) : Prop :=
  s.phase = .loadgen → bats ≠ [] →
    (s.lastTime = none → ∀ bat ∈ c.bats, bat ∈ bats) ∧
    (s.fsmStatus = .search → s.PeriodOver r → (∀ bat ∈ c.bats, bat ∈ bats) ∧
      ∀ load ∈ (s.measure c).2.periodLoad.getLast?, ReachedLimit c r (s.measure c).1 load →
        ∀ bat ∈ c.bats, s.FirstStepFits c bat)

/-- The condition on the calls of `refresh`. -/
def UpTogether (c : CapacityConfig B) (s : CapacityHandler B) : Event B → Prop
  | .startPhase phase _ _ r => phase = .loadgen →
    let pending := s.pendingToStart.getD c.instances.length - 1
    pending = 0 → Together c { s with phase := phase, pendingToStart := some pending } c.instances r
  | .refresh bats r => Together c s bats r
  | _ => True

instance (s : CapacityHandler B) (bat : B) : Decidable (s.FirstStepFits c bat) := by
  unfold FirstStepFits
  infer_instance

instance (s : CapacityHandler B) (bats : List B) : Decidable (Together c s bats r) := by
  unfold Together
  infer_instance

instance (s : CapacityHandler B) : DecidablePred (UpTogether c s)
  | .startPhase phase _ _ r => inferInstanceAs (Decidable (phase = .loadgen →
    s.pendingToStart.getD c.instances.length - 1 = 0 →
      Together c { s with
        phase := phase
        pendingToStart := some (s.pendingToStart.getD c.instances.length - 1) } c.instances r))
  | .refresh bats r => inferInstanceAs (Decidable (Together c s bats r))
  | .readCurrent _ _ | .shutdown _ => inferInstanceAs (Decidable True)

/-- The end of a period. -/
lemma Searching.endPeriod (h : Searching c s) (hphase : s.phase = .loadgen)
    (hlast : s.lastTime ≠ none) (hover : s.PeriodOver r) (hnodup : bats.Nodup) (hne : bats ≠ [])
    (hdc : c.dc = false) (hdown : ∀ bat ∈ c.bats, 0 < c.deltaDown bat)
    (htogether : Together c s bats r) : Searching c (final (s.endPeriod c bats r)) := by
  obtain ⟨-, hsearch⟩ := htogether hphase hne
  obtain ⟨-, heq⟩ | ⟨load, samples, loads, s', hs', -, hload, heq⟩ := endPeriod_cases c s bats r
  · rw [heq]
    exact ⟨h.sound, h.fresh, h.started, h.notValidate, h.rampUp, h.goingDown⟩
  · have h' : Searching c s' := by
      subst hs'
      exact ⟨h.sound, h.fresh, h.started, h.notValidate, h.rampUp, h.goingDown⟩
    have hphase' : s'.phase = .loadgen := by rw [hs', hphase]
    have hlast' : s'.lastTime ≠ none := by rwa [hs']
    have hstatus' : s'.fsmStatus = s.fsmStatus := by rw [hs']
    rw [heq]
    rcases hstatus : s.fsmStatus with _ | _ | _ | _ | _
    · exact searching_giveUp h'.sound hlast' (by simp [hphase']) _
    · obtain ⟨hall, hfits⟩ := hsearch hstatus hover
      refine h'.search hphase' (hstatus'.trans hstatus) hnodup hne hall hdown fun hlimit => ?_
      rw [hs']
      exact hfits load hload hlimit
    · exact h'.searchDown hphase' (hstatus'.trans hstatus) hnodup hdc hdown
    · exact absurd hstatus h.notValidate
    · exact searching_giveUp h'.sound hlast' (by simp [hphase']) _

/-- A call of `refresh`. -/
lemma Searching.refresh (h : Searching c s) (hnodup : bats.Nodup) (hdc : c.dc = false)
    (hdown : ∀ bat ∈ c.bats, 0 < c.deltaDown bat) (htogether : Together c s bats r) :
    Searching c (final (s.refresh c bats r)) := by
  unfold CapacityHandler.refresh
  split_ifs with hne houtside hlast hover
  · exact h
  · have hsame : ∀ {s' : CapacityHandler B} {p : Prop}, Quiet p s s' →
        (s.phase = .loadgen → s'.applied = s.applied) ∨ s.fsmStatus = .finished →
          Searching c s' := by
      rintro s' p hquiet (hphase | hfinished)
      · exact h.quiet hquiet hphase
      · have hlast : s.lastTime ≠ none := fun hnone => by
          rw [(h.fresh hnone).1] at hfinished
          cases hfinished
        refine searching_finished ?_ ?_ ?_ (hquiet.fsmStatus.trans hfinished)
        · unfold Sound
          rw [hquiet.found]
          exact h.sound
        · rw [hquiet.lastTime]
          exact hlast
        · rw [hquiet.phase]
          exact h.started hlast
    have hcases : ∀ s' : CapacityHandler B, (s.phase = .loadgen → s'.applied = s.applied) ∨
        s.fsmStatus = .finished := fun s' =>
      houtside.imp_left fun hphase hload => absurd hload hphase
    exact (baseRefresh_spec s bats r).final (fun s' hquiet => hsame hquiet (hcases s'))
      fun x hquiet => hsame hquiet (hcases x.2)
  · obtain ⟨hphase, -⟩ := not_or.mp houtside
    rw [not_ne_iff] at hphase
    exact h.startSearch hphase hlast hnodup hne ((htogether hphase hne).1 hlast)
  · obtain ⟨hphase, -⟩ := not_or.mp houtside
    rw [not_ne_iff] at hphase
    exact h.endPeriod hphase hlast hover hnodup hne hdc hdown htogether
  · exact ⟨h.sound, h.fresh, h.started, h.notValidate, h.rampUp, h.goingDown⟩
  · exact h

/-- A phase starts. -/
lemma Searching.startPhase (h : Searching c s) {phase : TrafficPhase} {bat : B} {locks : Bool}
    (horder : phaseOrder s.phase ≤ phaseOrder phase) (hdc : c.dc = false)
    (hdown : ∀ bat ∈ c.bats, 0 < c.deltaDown bat)
    (htogether : UpTogether c s (.startPhase phase bat locks r)) :
    Searching c (final (s.startPhase c phase bat locks r)) := by
  have hnew : Searching c { s with phase := phase } := by
    refine ⟨h.sound, h.fresh, fun hlast hpre => ?_, h.notValidate, fun hload hup => ?_,
      fun hload hgo => ?_⟩
    · have hpre : phase = .preexec := hpre
      have hstarted := h.started hlast
      rcases hphase : s.phase with _ | _ | _
      · exact hstarted hphase
      all_goals
        rw [hphase, hpre] at horder
        simp [phaseOrder] at horder
    all_goals
      have hload : phase = .loadgen := hload
      have hlast : s.lastTime ≠ none := fun hnone => by simp_all [(h.fresh hnone).1]
      have hstarted := h.started hlast
      rcases hphase : s.phase with _ | _ | _
      · exact absurd hphase hstarted
    · exact h.rampUp hphase hup
    · rw [hphase, hload] at horder
      simp [phaseOrder] at horder
    · exact h.goingDown hphase hgo
    · rw [hphase, hload] at horder
      simp [phaseOrder] at horder
  unfold CapacityHandler.startPhase
  dsimp only
  split_ifs with hload hbat
  · unfold startLoadgen
    rw [hdc]
    simp only [Bool.false_and, Bool.false_eq_true, if_false, Bool.or_false]
    split_ifs with hpending
    · have hrefresh : Searching c (final (({ s with
          phase := phase
          pendingToStart := some (s.pendingToStart.getD c.instances.length - 1) } :
            CapacityHandler B).refresh c c.instances r)) := by
        refine Searching.refresh ?_ c.instances_nodup hdc hdown (htogether hload hpending)
        exact ⟨hnew.sound, hnew.fresh, hnew.started, hnew.notValidate, hnew.rampUp, hnew.goingDown⟩
      rw [← final_caught] at hrefresh
      refine ends_final.mp ((ends_final.mpr hrefresh).bind fun s' h' => ?_)
      exact ⟨h'.sound, h'.fresh, h'.started, h'.notValidate, h'.rampUp, h'.goingDown⟩
    · exact ⟨hnew.sound, hnew.fresh, hnew.started, hnew.notValidate, hnew.rampUp, hnew.goingDown⟩
  · refine Searching.refresh ?_ (List.nodup_singleton bat) hdc hdown fun hphase => ?_
    · exact ⟨hnew.sound, hnew.fresh, hnew.started, hnew.notValidate, hnew.rampUp, hnew.goingDown⟩
    · exact absurd hphase hload
  · exact hnew

/-- **One step** of the search. -/
lemma Searching.step {e : Event B} (h : Searching c s) (hdc : c.dc = false)
    (hdown : ∀ bat ∈ c.bats, 0 < c.deltaDown bat) (htogether : UpTogether c s e)
    (hstep : step c s e = some s') : Searching c s' := by
  rcases e with ⟨phase, bat, locks, r⟩ | ⟨bats, r⟩ | ⟨bat, value⟩ | unlocks
  · obtain ⟨horder, heq⟩ := Option.ite_none_right_eq_some.mp hstep
    obtain rfl := Option.some.inj heq
    exact h.startPhase horder hdc hdown htogether
  · obtain rfl := Option.some.inj hstep
    exact h.refresh bats.2 hdc hdown htogether
  · obtain rfl := Option.some.inj hstep
    exact ⟨h.sound, h.fresh, h.started, h.notValidate, h.rampUp, h.goingDown⟩
  · obtain rfl := Option.some.inj hstep
    refine (shutdown_spec c s unlocks).final ?_ ?_
    · rintro s' ⟨hquiet, hsame, -⟩
      exact h.quiet hquiet fun _ => hsame
    · rintro x ⟨hquiet, hsame, -⟩
      exact h.quiet hquiet fun _ => hsame

/-- **The capacity search is sound** in runs in which every call passes all BAT instances while the
targets go up, and every first step down fits. -/
theorem sound_throughout (c : CapacityConfig B) (hdc : c.dc = false)
    (hdown : ∀ bat ∈ c.bats, 0 < c.deltaDown bat) (es : List (Event B))
    (htogether : LabelledSystem.Along (step c) (UpTogether c) (init c) es) :
    LabelledSystem.Throughout (step c) (Sound c) (init c) es :=
  LabelledSystem.throughout_of_along (I := Searching c)
    (fun _ _ _ h hC hstep => h.step hdc hdown hC hstep) (fun _ h => h.sound) (searching_init c)
    htogether

/-- The second target fails, and the third one meets the criteria. -/
def threePeriods : List (Event ℕ) :=
  [.startPhase .loadgen 0 true (readingsAt 1 0), refreshAt 2 0, refreshAt 10 0, refreshAt 12 0,
    refreshAt 20 5, refreshAt 22 0, refreshAt 30 0]

/-- With small steps down this run is sound. -/
theorem threePeriods_sound :
    LabelledSystem.Throughout (step (oneBat (.literal (1 / 2)) 80))
      (Sound (oneBat (.literal (1 / 2)) 80)) (init (oneBat (.literal (1 / 2)) 80)) threePeriods := by
  have hdown : (0 : PyNumber) < .literal (1 / 2) := by decide +kernel
  refine sound_throughout (oneBat (.literal (1 / 2)) 80) rfl (fun _ _ => hdown) threePeriods ?_
  iterate 7
    rintro _ ⟨⟩
    refine ⟨by decide +kernel, ?_⟩
  trivial

/-- With steps of 5 a reference is created for 6, though 10 was good. -/
theorem threePeriods_unsound :
    (LabelledSystem.exec (step (oneBat 5 80)) (init (oneBat 5 80)) threePeriods).map (fun s =>
        s.found.map fun f => (f.used 0, f.lastGood 0, f.firstBad 0)) =
      some [(some 6, some 10, some 11)] ∧
      ¬ LabelledSystem.Throughout (step (oneBat 5 80)) (Sound (oneBat 5 80)) (init (oneBat 5 80))
        threePeriods := by
  have hfound : (LabelledSystem.exec (step (oneBat 5 80)) (init (oneBat 5 80)) threePeriods).map
      (fun s => s.found.map fun f => (f.used 0, f.lastGood 0, f.firstBad 0)) =
        some [(some 6, some 10, some 11)] := by
    decide +kernel
  refine ⟨hfound, fun h => ?_⟩
  obtain ⟨s, hs, hmap⟩ := Option.map_eq_some_iff.mp hfound
  obtain ⟨f, hf, hvalues⟩ := List.map_eq_singleton_iff.mp hmap
  obtain ⟨hused, hgood, -⟩ : f.used 0 = some 6 ∧ f.lastGood 0 = some 10 ∧ f.firstBad 0 = some 11 := by
    simpa using hvalues
  obtain ⟨target, good, -, htarget, -, hlast, -, hle, -⟩ :=
    (h.last hs f (by simp [hf])).targets 0 List.mem_cons_self
  rw [hused] at htarget
  rw [hgood] at hlast
  rw [← Option.some.inj htarget, ← Option.some.inj hlast] at hle
  exact absurd hle (by decide)

/-- A step down that is as large as the step up does not fit if it is rounded: 10.0 + 6.4 - 6.4 is
below 10.0. -/
example :
    ¬ ({ init (oneBat (.literal (32 / 5)) 80) with
      usedTarget := fun _ => [.literal 10, .literal 10 + .literal (32 / 5)] } :
        CapacityHandler ℕ).FirstStepFits (oneBat (.literal (32 / 5)) 80) 0 := by
  decide +kernel

end CapacityHandler

end HssRtc
