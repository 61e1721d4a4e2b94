import StTools.HssRtc.CapacitySearch

/-!
# The way down of the capacity search

When the traffic is too much, the targets fall period by period until a period meets the criteria.  A
target that would be lower than the entry of its history at a shared index ends the search; the index
is meant to be that of the last accepted target.

The loop over the BAT instances stops at the first that cannot be lowered: those before it have got a
new target then.  An index that is not in the history of a BAT instance leaves the loop with an
`IndexError`, and a step that is lost in the rounding leaves the target as it is.  `stepsDown_iff` says
in which runs the search ends, with one target for every BAT instance in every period and none below
the last accepted one.
-/

namespace HssRtc

universe u

variable {B : Type u}

namespace CapacityHandler

open EarlyExit

variable {c : CapacityConfig B} {s s' : CapacityHandler B} {bats : List B} {r : Readings B}

/-! ## The state on the way down -/

/-- The search goes down. -/
structure Descending (c : CapacityConfig B) (s : CapacityHandler B) : Prop where
  phase : s.phase = .loadgen
  fsmStatus : s.fsmStatus = .searchDown
  lastTime : s.lastTime ≠ none
  loadValidation : c.loadValidationEnabled = true
  candidate : 0 ≤ s.ecCandidate

/-- The next target. -/
def nextTarget (c : CapacityConfig B) (s : CapacityHandler B) (bat : B) : PyNumber :=
  s.lastTarget bat - c.deltaDown bat

/-- The entry of a history at the shared index. -/
def candidate (s : CapacityHandler B) (bat : B) : Option PyNumber :=
  pyIndex (s.usedTarget bat) s.ecCandidate

/-- No target is lower than the last accepted one. -/
def NotBelow (c : CapacityConfig B) (s : CapacityHandler B) : Prop :=
  ∀ bat ∈ c.bats, ∀ good ∈ s.lastGood bat, good ≤ s.lastTarget bat

/-- The period that is over, if it is, does not meet the criteria. -/
def Fails (c : CapacityConfig B) (s : CapacityHandler B) (r : Readings B) : Prop :=
  s.PeriodOver r → ∀ load ∈ (s.measure c).2.periodLoad.getLast?,
    ¬ MeetsCriteria c r (s.measure c).1 load

instance (s : CapacityHandler B) : Decidable (NotBelow c s) := by
  unfold NotBelow
  infer_instance

/-- A BAT instance is lowered when its turn comes: it is known, its next target is not lower than the
entry at the shared index, and it is taken. -/
def Passes (c : CapacityConfig B) (s : CapacityHandler B) (r : Readings B) (bat : B) : Prop :=
  bat ∈ c.bats ∧ (∃ good ∈ s.candidate bat, good ≤ s.nextTarget c bat) ∧ r.accepts bat = true

/-- The search ends when the turn of a BAT instance comes: it is not known, its next target is lower than
the entry at the shared index, or it is not taken. -/
def Stops (c : CapacityConfig B) (s : CapacityHandler B) (r : Readings B) (bat : B) : Prop :=
  bat ∉ c.bats ∨ ∃ good ∈ s.candidate bat, s.nextTarget c bat < good ∨ r.accepts bat = false

lemma Passes.not_stops {bat : B} (h : Passes c s r bat) : ¬ Stops c s r bat := by
  obtain ⟨hknown, ⟨good, hgood, hle⟩, haccepts⟩ := h
  rintro (hunknown | ⟨good', hgood', hlower | hrefused⟩)
  · exact hunknown hknown
  · obtain rfl := Option.mem_unique hgood hgood'
    exact PyNumber.not_lt.mpr hle hlower
  · exact Bool.noConfusion (haccepts.symm.trans hrefused)

/-- A call of `refresh`, with the BAT instances that are passed. -/
abbrev Call (B : Type u) := {l : List B // l.Nodup} × Readings B

/-- When a period is over, every BAT instance that is passed is lowered, and not below its last accepted
target; or the first one ends the search. -/
def AllOrNone (c : CapacityConfig B) (s : CapacityHandler B) (call : Call B) : Prop :=
  s.fsmStatus = .searchDown → s.PeriodOver call.2 →
    (∀ bat ∈ call.1.1, Passes c s call.2 bat ∧ ∀ good ∈ s.lastGood bat, good ≤ s.nextTarget c bat) ∨
      ∃ bat ∈ call.1.1.head?, Stops c s call.2 bat

/-- A period is over, and the next target of some BAT instance is lower than its last one. -/
def Lowers (c : CapacityConfig B) (s : CapacityHandler B) (call : Call B) : Prop :=
  s.PeriodOver call.2 ∧ ∃ bat ∈ call.1.1, (s.lastTarget bat).InRange ∧ (c.deltaDown bat).InRange ∧
    s.nextTarget c bat < s.lastTarget bat

variable [DecidableEq B]

instance (s : CapacityHandler B) (r : Readings B) (bat : B) : Decidable (Passes c s r bat) := by
  unfold Passes
  infer_instance

instance (s : CapacityHandler B) (r : Readings B) (bat : B) : Decidable (Stops c s r bat) := by
  unfold Stops
  infer_instance

instance (s : CapacityHandler B) (call : Call B) : Decidable (AllOrNone c s call) := by
  unfold AllOrNone
  infer_instance

/-- The state after a call. -/
def refreshed (c : CapacityConfig B) (s : CapacityHandler B) (call : Call B) : CapacityHandler B :=
  final (s.refresh c call.1.1 call.2)

/-- The states of a run of calls. -/
abbrev statesOf (c : CapacityConfig B) (s : CapacityHandler B) (calls : ℕ → Call B) :
    ℕ → CapacityHandler B :=
  LabelledSystem.states (refreshed c) s calls

/-- At the end of a period every BAT instance that is passed gets one target, or the search ends and none
gets any. -/
def Once (c : CapacityConfig B) (s : CapacityHandler B) (call : Call B) : Prop :=
  s.fsmStatus = .searchDown → s.PeriodOver call.2 →
    ((refreshed c s call).fsmStatus = .searchDown ∧
      ∀ bat ∈ call.1.1, ∃ v, (refreshed c s call).usedTarget bat = s.usedTarget bat ++ [v]) ∨
    ((refreshed c s call).fsmStatus = .finished ∧
      ∀ bat ∈ call.1.1, (refreshed c s call).usedTarget bat = s.usedTarget bat)

/-- The search ends, with one target for every BAT instance in every period, and none below the last
accepted one. -/
structure StepsDown (c : CapacityConfig B) (s : CapacityHandler B) (calls : ℕ → Call B) : Prop where
  ends : ∃ n, (statesOf c s calls n).fsmStatus = .finished
  once : ∀ n, Once c (statesOf c s calls n) (calls n)
  notBelow : ∀ n, NotBelow c (statesOf c s calls n)

/-! ## One period -/

omit [DecidableEq B] in
/-- A history with an entry is not empty. -/
lemma usedTarget_ne_nil {bat : B} {good : PyNumber} (h : good ∈ s.candidate bat) :
    s.usedTarget bat ≠ [] := by
  intro hnil
  rw [candidate, hnil, pyIndex] at h
  split_ifs at h with hnonneg hlength
  · cases h
  · simp only [List.length_nil, Nat.cast_zero] at hlength
    omega
  · cases h

/-- The turn of a BAT instance that has got no target in this period. -/
lemma stepDown_cases {bat : B} (hused : s'.usedTarget bat = s.usedTarget bat)
    (hcandidate : s'.ecCandidate = s.ecCandidate) :
    Passes c s r bat ∧
        stepDown c r s' bat = .ok { s'.setTarget bat (s.nextTarget c bat) with loadSamples := [] } ∨
      Stops c s r bat ∧ (∃ e, stepDown c r s' bat = s'.giveUp e) ∨
      ¬ Passes c s r bat ∧ ¬ Stops c s r bat ∧ stepDown c r s' bat = s'.indexError := by
  unfold stepDown
  by_cases hbat : bat ∈ c.bats
  · rw [if_pos hbat, hused, hcandidate]
    rcases hgood : s.candidate bat with _ | good
    · refine .inr (.inr ⟨fun h => ?_, fun h => ?_, ?_⟩)
      · obtain ⟨-, ⟨good, hsome, -⟩, -⟩ := h
        cases hgood.symm.trans hsome
      · obtain hunknown | ⟨good, hsome, -⟩ := h
        · exact hunknown hbat
        · cases hgood.symm.trans hsome
      · rw [candidate] at hgood
        rw [hgood]
        rcases (s.usedTarget bat).getLast? with _ | last <;> rfl
    · have hlast := getLast?_usedTarget (usedTarget_ne_nil (s := s) hgood)
      have hindex : pyIndex (s.usedTarget bat) s.ecCandidate = some good := hgood
      rw [hlast, hindex]
      dsimp only
      split_ifs with hlower
      · exact .inr (.inl ⟨.inr ⟨good, hgood, .inl hlower⟩, _, rfl⟩)
      · rw [trySet]
        split_ifs with haccepts
        · exact .inl ⟨⟨hbat, ⟨good, hgood, PyNumber.not_lt.mp hlower⟩, haccepts⟩, rfl⟩
        · exact .inr (.inl ⟨.inr ⟨good, hgood, .inr (by simpa using haccepts)⟩, _, rfl⟩)
  · rw [if_neg hbat]
    exact .inr (.inl ⟨.inl hbat, _, rfl⟩)

/-- How the loop over the BAT instances is left: behind those that have been lowered, at one that is not. -/
structure LeftAt (c : CapacityConfig B) (bats : List B) (s : CapacityHandler B) (r : Readings B)
    (s' : CapacityHandler B) (done : List B) (bat : B) : Prop where
  init : done ++ [bat] <+: bats
  passes : ∀ b ∈ done, Passes c s r b
  not_passes : ¬ Passes c s r bat
  finished : Stops c s r bat → s'.fsmStatus = .finished
  crashed : ¬ Stops c s r bat → s'.fsmStatus = s.fsmStatus
  lastTime : s'.lastTime = s.lastTime
  ecCandidate : s'.ecCandidate = s.ecCandidate
  lastGood : s'.lastGood = s.lastGood
  usedTarget : ∀ b, s'.usedTarget b =
    if b ∈ done then s.usedTarget b ++ [s.nextTarget c b] else s.usedTarget b

/-- The loop over the BAT instances lowers all of them, or it is left. -/
lemma stepDown_loop (s : CapacityHandler B) (hnodup : bats.Nodup) :
    Ends (fun s' => Retargeted c bats (s.nextTarget c) s s' ∧ s'.fsmStatus = s.fsmStatus ∧
        s'.ecCandidate = s.ecCandidate ∧ ∀ bat ∈ bats, Passes c s r bat)
      (fun x => ∃ done bat, LeftAt c bats s r x.2 done bat) (bats.foldlM (stepDown c r) s) := by
  refine Ends.foldlM (fun done s' => Retargeted c done (s.nextTarget c) s s' ∧
    s'.fsmStatus = s.fsmStatus ∧ s'.ecCandidate = s.ecCandidate ∧ ∀ bat ∈ done, Passes c s r bat)
    ?_ ⟨retargeted_nil c _ s, rfl, rfl, by simp⟩
  rintro done bat s' hinit ⟨hset, hstatus, hcandidate, hdone⟩
  have hnew := notMem_done hnodup hinit
  rcases stepDown_cases (c := c) (r := r) (hset.usedTarget_of_notMem hnew) hcandidate with
    ⟨hpasses, heq⟩ | ⟨hstops, e, heq⟩ | ⟨hnot, hnotStops, heq⟩
  · rw [heq]
    have hone := retargeted_setTarget s' hpasses.1 (s.nextTarget c bat)
    refine ⟨hset.append hnew { hone with }, hstatus, hcandidate, fun b hb => ?_⟩
    obtain hb | rfl : b ∈ done ∨ b = bat := by simpa using hb
    · exact hdone b hb
    · exact hpasses
  · rw [heq]
    exact ⟨done, bat, hinit, hdone, fun h => h.not_stops hstops, fun _ => rfl,
      fun h => absurd hstops h, hset.lastTime, hcandidate, hset.lastGood, hset.usedTarget⟩
  · rw [heq]
    exact ⟨done, bat, hinit, hdone, hnot, fun h => absurd h hnotStops, fun _ => hstatus,
      hset.lastTime, hcandidate, hset.lastGood, hset.usedTarget⟩

/-- A period that fails goes through the loop. -/
lemma endPeriod_of_fails (bats : List B) (h : Descending c s) (hfails : Fails c s r)
    (hover : s.PeriodOver r) :
    ∃ samples loads ecLoad, s.endPeriod c bats r =
      bats.foldlM (stepDown c r)
        { s with loadSamples := samples, periodLoad := loads, ecLoad := ecLoad } >>=
      fun s' => .ok (s'.startPeriod r) := by
  obtain ⟨hnone, -⟩ | ⟨load, samples, loads, s', rfl, -, hload, heq⟩ := endPeriod_cases c s bats r
  · exact Bool.noConfusion (h.loadValidation.symm.trans hnone)
  · refine ⟨samples, loads, some (if c.loadValidationEnabled ∧ (s.measure c).1 ∧ load ≤ c.maxLoad
      then load else -1), heq.trans ?_⟩
    rw [h.fsmStatus]
    dsimp only
    unfold searchDown
    dsimp only
    rw [if_neg (hfails hover load hload)]

/-- All BAT instances have been lowered, and the search goes on. -/
structure LoweredAll (c : CapacityConfig B) (bats : List B) (s : CapacityHandler B) (r : Readings B)
    (s' : CapacityHandler B) : Prop where
  passes : ∀ bat ∈ bats, Passes c s r bat
  descending : Descending c s'
  ecCandidate : s'.ecCandidate = s.ecCandidate
  lastGood : s'.lastGood = s.lastGood
  usedTarget : ∀ bat, s'.usedTarget bat =
    if bat ∈ bats then s.usedTarget bat ++ [s.nextTarget c bat] else s.usedTarget bat

omit [DecidableEq B] in
lemma Descending.not_outsideSearch (h : Descending c s) : ¬ s.OutsideSearch := by
  rintro (hphase | hfinished)
  · exact hphase h.phase
  · cases h.fsmStatus.symm.trans hfinished

/-- The end of a period on the way down. -/
lemma Descending.period {call : Call B} (h : Descending c s) (hne : call.1.1 ≠ [])
    (hfails : Fails c s call.2) (hover : s.PeriodOver call.2) :
    LoweredAll c call.1.1 s call.2 (refreshed c s call) ∨
      ∃ done bat, LeftAt c call.1.1 s call.2 (refreshed c s call) done bat := by
  obtain ⟨samples, loads, ecLoad, heq⟩ := endPeriod_of_fails call.1.1 h hfails hover
  have hloop := stepDown_loop (c := c) (r := call.2)
    { s with loadSamples := samples, periodLoad := loads, ecLoad := ecLoad } call.1.2
  rw [refreshed, CapacityHandler.refresh, if_neg hne, if_neg h.not_outsideSearch, if_neg h.lastTime,
    if_pos hover, heq]
  have hend : Ends (LoweredAll c call.1.1 s call.2)
      (fun x => ∃ done bat, LeftAt c call.1.1 s call.2 x.2 done bat)
      (call.1.1.foldlM (stepDown c call.2)
        { s with loadSamples := samples, periodLoad := loads, ecLoad := ecLoad } >>=
          fun s' => .ok (s'.startPeriod call.2)) := by
    refine (hloop.imp (fun _ h => h) ?_).bind ?_
    · rintro x ⟨done, bat, hleft⟩
      exact ⟨done, bat, hleft.init, hleft.passes, hleft.not_passes, hleft.finished, hleft.crashed,
        hleft.lastTime, hleft.ecCandidate, hleft.lastGood, hleft.usedTarget⟩
    · rintro s₁ ⟨hset, hstatus, hcandidate, hall⟩
      refine ⟨hall, ⟨hset.phase.trans h.phase, hstatus.trans h.fsmStatus, Option.some_ne_none _,
        h.loadValidation, ?_⟩, hcandidate, hset.lastGood, hset.usedTarget⟩
      exact h.candidate.trans_eq hcandidate.symm
  exact hend.final (P := fun s' => LoweredAll c call.1.1 s call.2 s' ∨
    ∃ done bat, LeftAt c call.1.1 s call.2 s' done bat) (fun _ h => .inl h) fun _ h => .inr h

/-- A call that ends no period on the way down. -/
lemma Descending.sample {call : Call B} (h : Descending c s)
    (hover : call.1.1 = [] ∨ ¬ s.PeriodOver call.2) :
    Descending c (refreshed c s call) ∧ (refreshed c s call).ecCandidate = s.ecCandidate ∧
      (refreshed c s call).lastGood = s.lastGood ∧
      (refreshed c s call).usedTarget = s.usedTarget := by
  rw [refreshed, CapacityHandler.refresh]
  rcases hover with hnil | hover
  · rw [if_pos hnil]
    exact ⟨h, rfl, rfl, rfl⟩
  · rw [if_neg h.not_outsideSearch, if_neg h.lastTime, if_neg hover]
    split_ifs
    · exact ⟨h, rfl, rfl, rfl⟩
    · exact ⟨⟨h.phase, h.fsmStatus, h.lastTime, h.loadValidation, h.candidate⟩, rfl, rfl, rfl⟩
    · exact ⟨h, rfl, rfl, rfl⟩

/-- Behind the search nothing changes. -/
lemma refreshed_finished (call : Call B) (h : s.fsmStatus = .finished) :
    (refreshed c s call).fsmStatus = .finished ∧ (refreshed c s call).lastGood = s.lastGood ∧
      (refreshed c s call).usedTarget = s.usedTarget := by
  rw [refreshed, CapacityHandler.refresh]
  split_ifs with hne houtside
  · exact ⟨h, rfl, rfl⟩
  · have hkeeps : ∀ {s'}, Quiet (s.Listed c ∨ ∀ bat ∈ call.1.1, call.2.accepts bat) s s' →
        s'.fsmStatus = .finished ∧ s'.lastGood = s.lastGood ∧ s'.usedTarget = s.usedTarget :=
      fun hquiet => ⟨hquiet.fsmStatus.trans h, hquiet.lastGood, hquiet.usedTarget⟩
    exact ends_final.mp ((baseRefresh_spec s call.1.1 call.2).imp (fun _ => hkeeps) fun _ => hkeeps)
  all_goals exact absurd (.inr h) houtside

/-! ## What a call keeps -/

omit [DecidableEq B] in
/-- The last target is the new one if there is one. -/
lemma lastTarget_of_append {bat : B} {v : PyNumber}
    (h : s'.usedTarget bat = s.usedTarget bat ++ [v]) : s'.lastTarget bat = v := by
  rw [lastTarget, h, List.getLastD_concat]

omit [DecidableEq B] in
lemma lastTarget_of_eq {bat : B} (h : s'.usedTarget bat = s.usedTarget bat) :
    s'.lastTarget bat = s.lastTarget bat := by
  rw [lastTarget, h, lastTarget]

omit [DecidableEq B] in
/-- Targets that do not change stay above the last accepted ones. -/
lemma NotBelow.kept (h : NotBelow c s) (hgood : s'.lastGood = s.lastGood)
    (hused : s'.usedTarget = s.usedTarget) : NotBelow c s' := by
  intro bat hbat good hlastGood
  rw [hgood] at hlastGood
  rw [lastTarget_of_eq (congrFun hused bat)]
  exact h bat hbat good hlastGood

/-- If all BAT instances have been lowered, the targets stay above the last accepted ones exactly when
the new ones do. -/
lemma LoweredAll.notBelow_iff (h : LoweredAll c bats s r s') (hbelow : NotBelow c s) :
    NotBelow c s' ↔ ∀ bat ∈ bats, ∀ good ∈ s.lastGood bat, good ≤ s.nextTarget c bat := by
  constructor
  · intro hbelow' bat hbat good hgood
    rw [← lastTarget_of_append ((h.usedTarget bat).trans (if_pos hbat))]
    exact hbelow' bat (h.passes bat hbat).1 good (h.lastGood ▸ hgood)
  · intro hnew bat hknown good hgood
    rw [h.lastGood] at hgood
    by_cases hbat : bat ∈ bats
    · rw [lastTarget_of_append ((h.usedTarget bat).trans (if_pos hbat))]
      exact hnew bat hbat good hgood
    · rw [lastTarget_of_eq ((h.usedTarget bat).trans (if_neg hbat))]
      exact hbelow bat hknown good hgood

/-- The first BAT instance that is passed. -/
lemma LeftAt.head {done : List B} {bat : B} (h : LeftAt c bats s r s' done bat) :
    bats.head? = some (done.head?.getD bat) := by
  obtain ⟨rest, hrest⟩ := h.init
  rw [← hrest]
  cases done <;> rfl

/-- A loop that is left is all or nothing exactly when it is left at the first BAT instance, with the end
of the search. -/
lemma LeftAt.once_iff {call : Call B} {done : List B} {bat : B} (h : Descending c s)
    (hover : s.PeriodOver call.2)
    (hleft : LeftAt c call.1.1 s call.2 (refreshed c s call) done bat) :
    Once c s call ↔ ∃ b ∈ call.1.1.head?, Stops c s call.2 b := by
  have hmem : bat ∈ call.1.1 := hleft.init.subset (by simp)
  have hnew : bat ∉ done := notMem_done call.1.2 hleft.init
  have hbat := hleft.usedTarget bat
  rw [if_neg hnew] at hbat
  rw [hleft.head]
  cases done with
  | nil =>
    constructor
    · intro honce
      refine ⟨bat, rfl, ?_⟩
      rcases honce h.fsmStatus hover with ⟨-, hall⟩ | ⟨hfinished, -⟩
      · obtain ⟨v, hv⟩ := hall bat hmem
        rw [hbat] at hv
        exact absurd hv (by simp)
      · by_contra hnot
        rw [hleft.crashed hnot, h.fsmStatus] at hfinished
        cases hfinished
    · rintro ⟨b, hb, hstops⟩ - -
      obtain rfl : bat = b := Option.some.inj hb
      refine .inr ⟨hleft.finished hstops, fun b' _ => ?_⟩
      rw [hleft.usedTarget, if_neg List.not_mem_nil]
  | cons first done =>
    have hfirst := hleft.usedTarget first
    rw [if_pos List.mem_cons_self] at hfirst
    have hpasses := hleft.passes first List.mem_cons_self
    constructor
    · intro honce
      rcases honce h.fsmStatus hover with ⟨-, hall⟩ | ⟨-, hsame⟩
      · obtain ⟨v, hv⟩ := hall bat hmem
        rw [hbat] at hv
        exact absurd hv (by simp)
      · have hin : first ∈ call.1.1 := hleft.init.subset (by simp)
        rw [hsame first hin] at hfirst
        exact absurd hfirst (by simp)
    · rintro ⟨b, hb, hstops⟩
      obtain rfl : first = b := Option.some.inj hb
      exact absurd hstops hpasses.not_stops

/-- **One call** is all or nothing, with no target below the last accepted one, exactly when the condition
holds. -/
lemma Descending.call_iff {call : Call B} (h : Descending c s) (hfails : Fails c s call.2)
    (hbelow : NotBelow c s) :
    Once c s call ∧ NotBelow c (refreshed c s call) ↔ AllOrNone c s call := by
  by_cases hends : call.1.1 ≠ [] ∧ s.PeriodOver call.2
  · obtain ⟨hne, hover⟩ := hends
    rcases h.period hne hfails hover with hall | ⟨done, bat, hleft⟩
    · have honce : Once c s call := fun _ _ => .inl ⟨hall.descending.fsmStatus, fun bat hbat =>
        ⟨_, (hall.usedTarget bat).trans (if_pos hbat)⟩⟩
      rw [and_iff_right honce, hall.notBelow_iff hbelow]
      constructor
      · exact fun hnew _ _ => .inl fun bat hbat => ⟨hall.passes bat hbat, hnew bat hbat⟩
      · rintro hcondition bat hbat
        rcases hcondition h.fsmStatus hover with hpass | ⟨first, hfirst, hstops⟩
        · exact (hpass bat hbat).2
        · exact absurd hstops (hall.passes first (List.mem_of_mem_head? hfirst)).not_stops
    · have hmem : bat ∈ call.1.1 := hleft.init.subset (by simp)
      rw [hleft.once_iff h hover]
      constructor
      · rintro ⟨hstops, -⟩ - -
        exact .inr hstops
      · intro hcondition
        rcases hcondition h.fsmStatus hover with hpass | ⟨first, hfirst, hstops⟩
        · exact absurd (hpass bat hmem).1 hleft.not_passes
        · refine ⟨⟨first, hfirst, hstops⟩, hbelow.kept hleft.lastGood (funext fun b => ?_)⟩
          rw [hleft.usedTarget]
          cases done with
          | nil => rw [if_neg List.not_mem_nil]
          | cons b' done =>
            obtain rfl : b' = first := Option.some.inj (hleft.head.symm.trans hfirst)
            exact absurd hstops (hleft.passes b' List.mem_cons_self).not_stops
  · have hover : call.1.1 = [] ∨ ¬ s.PeriodOver call.2 := by
      by_contra hnot
      exact hends (not_or.mp hnot |>.imp_right not_not.mp)
    obtain ⟨hdescending, -, hgood, hused⟩ := h.sample hover
    have hnone : s.PeriodOver call.2 → ∀ bat, bat ∉ call.1.1 := by
      rintro hover' bat
      rw [hover.resolve_right (not_not.mpr hover')]
      exact List.not_mem_nil
    refine iff_of_true ⟨fun _ hover' => .inl ⟨hdescending.fsmStatus, fun bat hbat => ?_⟩,
      hbelow.kept hgood hused⟩ fun _ hover' => .inl fun bat hbat => ?_
    · exact absurd hbat (hnone hover' bat)
    · exact absurd hbat (hnone hover' bat)

/-- Under the condition the search goes on downwards, or it is finished. -/
lemma Descending.next {call : Call B} (h : Descending c s) (hfails : Fails c s call.2)
    (hcondition : AllOrNone c s call) (hne : call.1.1 ≠ []) (hover : s.PeriodOver call.2) :
    LoweredAll c call.1.1 s call.2 (refreshed c s call) ∨
      (refreshed c s call).fsmStatus = .finished := by
  rcases h.period hne hfails hover with hall | ⟨done, bat, hleft⟩
  · exact .inl hall
  · right
    rcases hcondition h.fsmStatus hover with hpass | ⟨first, hfirst, hstops⟩
    · exact absurd (hpass bat (hleft.init.subset (by simp))).1 hleft.not_passes
    · have hhead := Option.some.inj (hleft.head.symm.trans hfirst)
      cases done with
      | nil =>
        obtain rfl : bat = first := hhead
        exact hleft.finished hstops
      | cons b done =>
        obtain rfl : b = first := hhead
        exact absurd hstops (hleft.passes b List.mem_cons_self).not_stops

/-! ## How far the targets can fall -/

/-- How far the target of a BAT instance can fall until its next one is too low.  If the step is lost in
the rounding, it does not fall at all. -/
def slack (c : CapacityConfig B) (s : CapacityHandler B) (bat : B) : ℕ :=
  if (s.nextTarget c bat).value = (s.lastTarget bat).value then 0
  else PyNumber.room ((s.candidate bat).getD 0) (s.nextTarget c bat)

/-- How far the targets of all BAT instances can fall. -/
def totalSlack (c : CapacityConfig B) (s : CapacityHandler B) : ℕ := (c.bats.map (slack c s)).sum

omit [DecidableEq B] in
/-- An entry of a history stays where it is when the history grows. -/
lemma pyIndex_append {α : Type*} {l l' : List α} {i : ℤ} {a : α} (hi : 0 ≤ i)
    (h : pyIndex l i = some a) : pyIndex (l ++ l') i = some a := by
  rw [pyIndex, if_pos hi] at h ⊢
  rwa [List.getElem?_append_left (List.getElem?_eq_some_iff.mp h).1]

omit [DecidableEq B] in
lemma slack_of_eq {bat : B} (hused : s'.usedTarget bat = s.usedTarget bat)
    (hcandidate : s'.ecCandidate = s.ecCandidate) : slack c s' bat = slack c s bat := by
  rw [slack, slack, nextTarget, nextTarget, lastTarget_of_eq hused, candidate, candidate, hused,
    hcandidate]

/-- A BAT instance that has been lowered has no more slack than before, and less if its target really is
lower. -/
lemma LoweredAll.slack (h : LoweredAll c bats s r s') (hs : Descending c s)
    (hdown : ∀ bat ∈ c.bats, 0 < c.deltaDown bat) {bat : B} (hbat : bat ∈ bats) :
    slack c s' bat ≤ slack c s bat ∧
      (s.nextTarget c bat < s.lastTarget bat → slack c s' bat < slack c s bat) := by
  obtain ⟨hknown, ⟨good, hgood, hle⟩, -⟩ := h.passes bat hbat
  have hused := (h.usedTarget bat).trans (if_pos hbat)
  have hlast : s'.lastTarget bat = s.nextTarget c bat := lastTarget_of_append hused
  have hgood' : s'.candidate bat = some good := by
    rw [candidate, hused, h.ecCandidate]
    exact pyIndex_append hs.candidate hgood
  have hnext : s'.nextTarget c bat = s.lastTarget bat - c.deltaDown bat - c.deltaDown bat := by
    rw [nextTarget, hlast, nextTarget]
  have hfalls : s'.nextTarget c bat ≤ s.nextTarget c bat := by
    rw [hnext]
    exact PyNumber.sub_sub_le (hdown bat hknown)
  have hroom := PyNumber.room_pos hle
  rw [CapacityHandler.slack, CapacityHandler.slack, hgood', Option.mem_def.mp hgood, hlast,
    Option.getD_some]
  by_cases hlost : (s.nextTarget c bat).value = (s.lastTarget bat).value
  · -- a step that is lost is lost again
    have hlost' : (s'.nextTarget c bat).value = (s.nextTarget c bat).value := by
      rw [hnext]
      exact PyNumber.sub_sub_eq hlost
    rw [if_pos hlost, if_pos hlost']
    exact ⟨le_rfl, fun hlt => absurd hlost (ne_of_lt hlt)⟩
  · rw [if_neg hlost]
    split_ifs with hlost'
    · exact ⟨Nat.zero_le _, fun _ => hroom⟩
    · have hlt := PyNumber.room_lt hle (lt_of_le_of_ne hfalls hlost')
      exact ⟨hlt.le, fun _ => hlt⟩

/-- A period in which all BAT instances are lowered leaves no more slack than before, and less if some
target really is lower. -/
lemma LoweredAll.totalSlack (h : LoweredAll c bats s r s') (hs : Descending c s)
    (hdown : ∀ bat ∈ c.bats, 0 < c.deltaDown bat) :
    totalSlack c s' ≤ totalSlack c s ∧
      ((∃ bat ∈ bats, s.nextTarget c bat < s.lastTarget bat) →
        totalSlack c s' < totalSlack c s) := by
  have hle : ∀ bat ∈ c.bats, CapacityHandler.slack c s' bat ≤ CapacityHandler.slack c s bat := by
    intro bat _
    by_cases hbat : bat ∈ bats
    · exact (h.slack hs hdown hbat).1
    · exact (slack_of_eq ((h.usedTarget bat).trans (if_neg hbat)) h.ecCandidate).le
  refine ⟨List.sum_le_sum hle, ?_⟩
  rintro ⟨bat, hbat, hlower⟩
  exact List.sum_lt_sum _ _ hle ⟨bat, (h.passes bat hbat).1, (h.slack hs hdown hbat).2 hlower⟩

/-! ## Runs -/

variable {calls : ℕ → Call B}

/-- The search goes down, or it is finished. -/
def Down (c : CapacityConfig B) (s : CapacityHandler B) : Prop :=
  Descending c s ∨ s.fsmStatus = .finished

/-- Under the condition a call keeps it so. -/
lemma Down.call {call : Call B} (h : Down c s) (hfails : Fails c s call.2)
    (hcondition : AllOrNone c s call) : Down c (refreshed c s call) := by
  rcases h with hdescending | hfinished
  · by_cases hends : call.1.1 = [] ∨ ¬ s.PeriodOver call.2
    · exact .inl (hdescending.sample hends).1
    · obtain ⟨hne, hover⟩ := not_or.mp hends
      exact (hdescending.next hfails hcondition hne (not_not.mp hover)).imp_left fun hall =>
        hall.descending
  · exact .inr (refreshed_finished _ hfinished).1

/-- One call is as it should be exactly under the condition, also behind the search. -/
lemma Down.call_iff {call : Call B} (h : Down c s) (hfails : Fails c s call.2)
    (hbelow : NotBelow c s) :
    Once c s call ∧ NotBelow c (refreshed c s call) ↔ AllOrNone c s call := by
  rcases h with hdescending | hfinished
  · exact hdescending.call_iff hfails hbelow
  · obtain ⟨-, hgood, hused⟩ := refreshed_finished (c := c) call hfinished
    have hnot : s.fsmStatus ≠ .searchDown := by
      rw [hfinished]
      exact FsmStatus.noConfusion
    exact iff_of_true ⟨fun hdown => absurd hdown hnot, hbelow.kept hgood hused⟩
      fun hdown => absurd hdown hnot

/-- A run in which every call meets the condition, and targets really are lowered again and again, ends. -/
lemma exists_finished (hdown : ∀ bat ∈ c.bats, 0 < c.deltaDown bat)
    (hkept : ∀ n, Down c (statesOf c s calls n))
    (hfails : ∀ n, Fails c (statesOf c s calls n) (calls n).2)
    (hcondition : ∀ n, AllOrNone c (statesOf c s calls n) (calls n))
    (hlowers : ∀ n, ∃ m ≥ n, (statesOf c s calls m).fsmStatus = .searchDown →
      Lowers c (statesOf c s calls m) (calls m)) :
    ∃ n, (statesOf c s calls n).fsmStatus = .finished := by
  refine @LabelledSystem.exists_ended_of_measure _ _ s _ calls (fun s => s.fsmStatus = .finished)
    (totalSlack c) (fun n hgoes => ?_) fun n => ?_
  · rcases hkept n with hdescending | hfinished
    · by_cases hends : (calls n).1.1 = [] ∨ ¬ (statesOf c s calls n).PeriodOver (calls n).2
      · obtain ⟨-, hcandidate, -, hused⟩ := hdescending.sample hends
        refine (congrArg List.sum (List.map_congr_left fun bat _ => ?_)).le
        exact slack_of_eq (congrFun hused bat) hcandidate
      · obtain ⟨hne, hover⟩ := not_or.mp hends
        rcases hdescending.next (hfails n) (hcondition n) hne (not_not.mp hover) with hall | hfinished
        · exact (hall.totalSlack hdescending hdown).1
        · exact absurd hfinished hgoes
    · exact absurd (refreshed_finished _ hfinished).1 hgoes
  · obtain ⟨m, hm, hlower⟩ := hlowers n
    refine ⟨m, hm, ?_⟩
    rcases hkept m with hdescending | hfinished
    · obtain ⟨hover, bat, hbat, -, -, hlt⟩ := hlower hdescending.fsmStatus
      rcases hdescending.next (hfails m) (hcondition m) (List.ne_nil_of_mem hbat) hover with
        hall | hfinished
      · exact .inr (.inr ((hall.totalSlack hdescending hdown).2 ⟨bat, hbat, hlt⟩))
      · exact .inr (.inl hfinished)
    · exact .inl hfinished

/-- From a state in which the search goes down, the run is as it should be exactly under the condition. -/
lemma Descending.run_iff (h : Descending c s) (hdown : ∀ bat ∈ c.bats, 0 < c.deltaDown bat)
    (hfails : ∀ n, Fails c (statesOf c s calls n) (calls n).2) :
    StepsDown c s calls ↔ NotBelow c s ∧
      (∀ n, AllOrNone c (statesOf c s calls n) (calls n)) ∧
      ∀ n, ∃ m ≥ n, (statesOf c s calls m).fsmStatus = .searchDown →
        Lowers c (statesOf c s calls m) (calls m) := by
  constructor
  · intro hsteps
    have hkept : ∀ n, Down c (statesOf c s calls n) ∧ AllOrNone c (statesOf c s calls n) (calls n) := by
      intro n
      induction n with
      | zero => exact ⟨.inl h, (Down.call_iff (.inl h) (hfails 0) (hsteps.notBelow 0)).mp
          ⟨hsteps.once 0, hsteps.notBelow 1⟩⟩
      | succ n ih =>
        have hnext := ih.1.call (hfails n) ih.2
        exact ⟨hnext, (hnext.call_iff (hfails (n + 1)) (hsteps.notBelow (n + 1))).mp
          ⟨hsteps.once (n + 1), hsteps.notBelow (n + 2)⟩⟩
    refine ⟨hsteps.notBelow 0, fun n => (hkept n).2, fun n => ?_⟩
    -- behind the end nothing is asked for
    obtain ⟨m, hm⟩ := hsteps.ends
    have hlater : (statesOf c s calls (max m n)).fsmStatus = .finished :=
      LabelledSystem.states_of_le (I := fun s : CapacityHandler B => s.fsmStatus = .finished)
        (fun _ _ hfinished => (refreshed_finished _ hfinished).1) (le_max_left m n) hm
    exact ⟨max m n, le_max_right m n, fun hsearch => by cases hlater.symm.trans hsearch⟩
  · rintro ⟨hbelow, hcondition, hlowers⟩
    have hkept : ∀ n, Down c (statesOf c s calls n) ∧ NotBelow c (statesOf c s calls n) := by
      intro n
      induction n with
      | zero => exact ⟨.inl h, hbelow⟩
      | succ n ih => exact ⟨ih.1.call (hfails n) (hcondition n),
          ((ih.1.call_iff (hfails n) ih.2).mpr (hcondition n)).2⟩
    exact ⟨exists_finished hdown (fun n => (hkept n).1) hfails hcondition hlowers,
      fun n => (((hkept n).1.call_iff (hfails n) (hkept n).2).mpr (hcondition n)).1,
      fun n => (hkept n).2⟩

/-! ## The states that are reached -/

/-- The search has not begun without a time.  Without the validation of the load no period ends and it does
not go down, and when it goes down the shared index is not negative. -/
structure Begun (c : CapacityConfig B) (s : CapacityHandler B) : Prop where
  fresh : s.lastTime = none → s.fsmStatus = .initial
  unloaded : c.loadValidationEnabled = false → s.periodLoad = [] ∧ s.fsmStatus ≠ .searchDown
  candidate : s.fsmStatus = .searchDown → 0 ≤ s.ecCandidate

/-- The search is where it was, or it is finished. -/
structure Stays (s s' : CapacityHandler B) : Prop where
  lastTime : s'.lastTime = s.lastTime
  ecCandidate : s'.ecCandidate = s.ecCandidate
  fsmStatus : s'.fsmStatus = s.fsmStatus ∨ s'.fsmStatus = .finished

omit [DecidableEq B] in
lemma Quiet.stays {p : Prop} (h : Quiet p s s') : Stays s s' :=
  ⟨h.lastTime, h.ecCandidate, .inl h.fsmStatus⟩

omit [DecidableEq B] in
/-- Validation of the load is on, and the search stays. -/
lemma Begun.stays (h : Begun c s) (hlast : s.lastTime ≠ none)
    (hload : c.loadValidationEnabled = true) (hstays : Stays s s') : Begun c s' where
  fresh hnone := absurd (hstays.lastTime.symm.trans hnone) hlast
  unloaded hnot := Bool.noConfusion (hload.symm.trans hnot)
  candidate hdown := by
    rw [hstays.ecCandidate]
    rcases hstays.fsmStatus with hsame | hfinished
    · exact h.candidate (hsame.symm.trans hdown)
    · cases hfinished.symm.trans hdown

omit [DecidableEq B] in
lemma Begun.quiet {p : Prop} (h : Begun c s) (hquiet : Quiet p s s') : Begun c s' where
  fresh := by
    rw [hquiet.lastTime, hquiet.fsmStatus]
    exact h.fresh
  unloaded := by
    rw [hquiet.periodLoad, hquiet.fsmStatus]
    exact h.unloaded
  candidate := by
    rw [hquiet.fsmStatus, hquiet.ecCandidate]
    exact h.candidate

omit [DecidableEq B] in
/-- The search has ended with an error. -/
lemma begun_finished (hlast : s.lastTime ≠ none) (hload : c.loadValidationEnabled = false → s.periodLoad = [])
    (hstatus : s.fsmStatus = .finished) : Begun c s where
  fresh hnone := absurd hnone hlast
  unloaded hnot := ⟨hload hnot, by rw [hstatus]; exact FsmStatus.noConfusion⟩
  candidate hdown := by cases hstatus.symm.trans hdown

omit [DecidableEq B] in
lemma Stays.refl (s : CapacityHandler B) : Stays s s := ⟨rfl, rfl, .inl rfl⟩

omit [DecidableEq B] in
lemma Stays.trans {s'' : CapacityHandler B} (h : Stays s s') (h' : Stays s' s'') : Stays s s'' where
  lastTime := h'.lastTime.trans h.lastTime
  ecCandidate := h'.ecCandidate.trans h.ecCandidate
  fsmStatus := h'.fsmStatus.elim (fun hsame => h.fsmStatus.imp hsame.trans hsame.trans) .inr

omit [DecidableEq B] in
lemma stays_createReference (s : CapacityHandler B) :
    Ends (Stays s) (fun x => Stays s x.2) (s.createReference c) := by
  refine Ends.foldlM (fun _ => Stays s) (fun done ref s' _ h => ?_) (Stays.refl s)
  have hloadgen : ∀ bats, Ends (fun _ => True) (fun x => Stays s x.2)
      (s'.referenceLoadgen ref bats) := by
    intro bats
    induction bats with
    | nil => trivial
    | cons bat bats ih =>
      unfold referenceLoadgen
      split
      · exact ⟨h.lastTime, h.ecCandidate, h.fsmStatus⟩
      · split
        · exact h
        · rcases hrest : s'.referenceLoadgen ref bats with x | loadgen
          · rw [hrest] at ih
            exact ih
          · trivial
  refine (hloadgen c.bats).bind fun loadgen _ => ?_
  dsimp only
  split
  · exact h
  · exact ⟨h.lastTime, h.ecCandidate, h.fsmStatus⟩

lemma stays_buildCpsTable (s : CapacityHandler B) :
    Ends (Stays s) (fun x => Stays s x.2) (s.buildCpsTable c) := by
  refine Ends.foldlM (fun _ => Stays s) (fun done bat s' _ h => ?_) (Stays.refl s)
  unfold buildOne
  dsimp only
  split_ifs
  · refine Ends.foldlM (fun _ => Stays s) (fun _ slot s'' _ h => ?_)
      ⟨h.lastTime, h.ecCandidate, h.fsmStatus⟩
    unfold buildSlot
    split
    · exact h
    · split
      · exact ⟨h.lastTime, h.ecCandidate, h.fsmStatus⟩
      · exact ⟨h.lastTime, h.ecCandidate, h.fsmStatus⟩
  · exact ⟨h.lastTime, h.ecCandidate, h.fsmStatus⟩

/-- The end of the search leaves it where it is, or finishes it. -/
lemma stays_finish (s : CapacityHandler B) :
    Ends (Stays s) (fun x => Stays s x.2) (s.finish c) := by
  refine (stays_createReference s).bind fun s₁ h₁ => ?_
  refine Ends.bind (Q := Stays s) ((stays_buildCpsTable s₁).imp (fun _ h => h₁.trans h)
    fun _ h => h₁.trans h) fun s₂ h₂ => ?_
  have hlog : ∀ {s₃ : CapacityHandler B} {p : Prop}, Quiet p { s₂ with fsmStatus := .finished } s₃ →
      Stays s s₃ := fun hquiet =>
    ⟨hquiet.lastTime.trans h₂.lastTime, hquiet.ecCandidate.trans h₂.ecCandidate,
      .inr hquiet.fsmStatus⟩
  refine Ends.bind (Q := Stays s) ((logInfo_spec c { s₂ with fsmStatus := .finished }).imp
    (fun _ h => hlog h.1) fun _ h => hlog h.1) fun s₃ h₃ => ?_
  split_ifs
  · exact ⟨h₃.lastTime, h₃.ecCandidate, h₃.fsmStatus⟩
  · unfold reconfigureLoadMonitor
    split_ifs <;> exact h₃
  · exact h₃

/-- The first step down sets the shared index, which is not negative then. -/
lemma firstStepDown_loop (s : CapacityHandler B) (hne : bats ≠ []) :
    Ends (fun s' => s'.fsmStatus = s.fsmStatus ∧ s'.lastTime = s.lastTime ∧ 0 ≤ s'.ecCandidate)
      (fun x => x.2.fsmStatus = .finished ∧ x.2.lastTime = s.lastTime)
      (bats.foldlM (firstStepDown c r) s) := by
  suffices h : Ends (fun s' => s'.fsmStatus = s.fsmStatus ∧ s'.lastTime = s.lastTime ∧
      (bats ≠ [] → 0 ≤ s'.ecCandidate))
      (fun x => x.2.fsmStatus = .finished ∧ x.2.lastTime = s.lastTime)
      (bats.foldlM (firstStepDown c r) s) from
    h.imp (fun _ h => ⟨h.1, h.2.1, h.2.2 hne⟩) fun _ h => h
  refine Ends.foldlM (fun done (s' : CapacityHandler B) => s'.fsmStatus = s.fsmStatus ∧
    s'.lastTime = s.lastTime ∧ (done ≠ [] → 0 ≤ s'.ecCandidate)) ?_ ⟨rfl, rfl, fun h => absurd rfl h⟩
  rintro done bat s' - ⟨hstatus, hlast, -⟩
  unfold firstStepDown
  split_ifs with hbat
  · dsimp only
    split_ifs with hnegative
    · exact ⟨rfl, hlast⟩
    · have hne' : s'.usedTarget bat ≠ [] := List.ne_nil_of_length_pos (by omega)
      rw [getLast?_usedTarget hne']
      dsimp only
      unfold trySet
      split_ifs
      · exact ⟨hstatus, hlast, fun _ => not_lt.mp hnegative⟩
      · exact ⟨rfl, hlast⟩
  · exact ⟨rfl, hlast⟩

omit [DecidableEq B] in
/-- A new period starts. -/
lemma begun_startPeriod (hload : c.loadValidationEnabled = true)
    (hcandidate : s.fsmStatus = .searchDown → 0 ≤ s.ecCandidate) : Begun c (s.startPeriod r) where
  fresh hnone := by cases hnone
  unloaded hnot := Bool.noConfusion (hload.symm.trans hnot)
  candidate := hcandidate

/-- The end of a period. -/
lemma Begun.endPeriod (h : Begun c s) (hdc : c.dc = false) (hlast : s.lastTime ≠ none)
    (hnodup : bats.Nodup) (hne : bats ≠ []) : Begun c (final (s.endPeriod c bats r)) := by
  rcases endPeriod_cases c s bats r with ⟨-, heq⟩ | ⟨load, samples, loads, s', hs', -, hmeasured, heq⟩
  · rw [heq]
    exact ⟨h.fresh, h.unloaded, h.candidate⟩
  -- a load is there, so that it is validated
  have hload : c.loadValidationEnabled = true := by
    by_contra hnot
    rw [measure, if_neg hnot, (h.unloaded (by simpa using hnot)).1] at hmeasured
    cases hmeasured
  have hgave : ∀ {t t' : CapacityHandler B}, t.lastTime = s.lastTime → t'.fsmStatus = .finished →
      t'.lastTime = t.lastTime → Begun c t' := fun ht hfinished hsame =>
    begun_finished (by rw [hsame, ht]; exact hlast)
      (fun hnot => Bool.noConfusion (hload.symm.trans hnot)) hfinished
  have hlast' : s'.lastTime = s.lastTime := by rw [hs']
  have hstatus' : s'.fsmStatus = s.fsmStatus := by rw [hs']
  have h' : Begun c s' := by
    subst hs'
    exact ⟨h.fresh, fun hnot => Bool.noConfusion (hload.symm.trans hnot), h.candidate⟩
  rw [heq]
  rcases hstatus : s.fsmStatus with _ | _ | _ | _ | _
  · exact hgave hlast' rfl rfl
  · dsimp only
    unfold CapacityHandler.search
    split_ifs
    · refine Ends.final (Q := Begun c) ((firstStepDown_loop _ hne).bind ?_) (fun _ h => h) ?_
      · rintro t ⟨-, -, hcandidate⟩
        exact begun_startPeriod hload fun _ => hcandidate
      · rintro x ⟨hfinished, hsame⟩
        exact hgave hlast' hfinished hsame
    · refine Ends.final (Q := Begun c) ((stepUp_spec _ hnodup r).bind ?_) (fun _ h => h) ?_
      · rintro t ⟨-, hsame⟩
        refine begun_startPeriod hload fun hdown => ?_
        cases (hsame.trans (hstatus'.trans hstatus)).symm.trans hdown
      · rintro x ⟨-, hgaveUp⟩
        exact hgave hlast' hgaveUp.fsmStatus hgaveUp.lastTime
  · dsimp only
    unfold CapacityHandler.searchDown
    dsimp only
    rw [hdc, if_neg Bool.false_ne_true]
    set ecLoad : Option ℤ := some (if c.loadValidationEnabled ∧ (s.measure c).1 ∧ load ≤ c.maxLoad
      then load else -1)
    split_ifs with hmeets
    · refine ends_final.mp ((stays_finish _).imp (fun t ht => ?_) fun x hx => ?_)
      · exact h'.stays (hlast' ▸ hlast) hload ⟨ht.lastTime, ht.ecCandidate, ht.fsmStatus⟩
      · exact h'.stays (hlast' ▸ hlast) hload ⟨hx.lastTime, hx.ecCandidate, hx.fsmStatus⟩
    · refine Ends.final (Q := Begun c)
        ((stepDown_loop (c := c) (r := r) { s' with ecLoad := ecLoad } hnodup).bind ?_)
        (fun _ h => h) ?_
      · rintro t ⟨-, hsame, hcandidate, -⟩
        refine begun_startPeriod hload fun hdown => ?_
        rw [hcandidate]
        exact h'.candidate (hsame.symm.trans hdown)
      · rintro x ⟨done, bat, hleft⟩
        refine h'.stays (hlast' ▸ hlast) hload ⟨hleft.lastTime, hleft.ecCandidate, ?_⟩
        by_cases hstops : Stops c { s' with ecLoad := ecLoad } r bat
        · exact .inr (hleft.finished hstops)
        · exact .inl (hleft.crashed hstops)
  · dsimp only
    unfold CapacityHandler.validate
    dsimp only
    split_ifs
    · exact hgave hlast' rfl rfl
    · exact hgave hlast' rfl rfl
    all_goals
      refine ends_final.mp ((stays_finish _).imp (fun t ht => ?_) fun x hx => ?_)
      · exact h'.stays (hlast' ▸ hlast) hload ⟨ht.lastTime, ht.ecCandidate, ht.fsmStatus⟩
      · exact h'.stays (hlast' ▸ hlast) hload ⟨hx.lastTime, hx.ecCandidate, hx.fsmStatus⟩
  · exact hgave hlast' rfl rfl

/-- A call of `refresh`. -/
lemma Begun.refresh (h : Begun c s) (hdc : c.dc = false) (hnodup : bats.Nodup) :
    Begun c (final (s.refresh c bats r)) := by
  rw [CapacityHandler.refresh]
  split_ifs with hne houtside hlast hover
  · exact h
  · exact ends_final.mp ((baseRefresh_spec s bats r).imp (fun _ hquiet => h.quiet hquiet)
      fun _ hquiet => h.quiet hquiet)
  · have hfresh := h.fresh hlast
    refine (startSearch_spec s hnodup r).final ?_ ?_
    · rintro s' ⟨hset, hstatus⟩
      have hstatus := hstatus hne
      refine ⟨fun hnone => ?_, fun hnot => ⟨hset.periodLoad.trans (h.unloaded hnot).1, ?_⟩,
        fun hdown => ?_⟩
      · cases hset.lastTime.symm.trans hnone
      · rw [hstatus]
        exact FsmStatus.noConfusion
      · cases hstatus.symm.trans hdown
    · rintro x ⟨-, -, hgave⟩
      refine begun_finished ?_ (fun hnot => hgave.periodLoad.trans (h.unloaded hnot).1) hgave.fsmStatus
      rw [hgave.lastTime]
      exact Option.some_ne_none _
  · exact h.endPeriod hdc hlast hnodup hne
  · exact ⟨h.fresh, h.unloaded, h.candidate⟩
  · exact h

/-- **One step** of the handler. -/
lemma Begun.step {e : Event B} (h : Begun c s) (hdc : c.dc = false) (hstep : step c s e = some s') :
    Begun c s' := by
  have hsame : ∀ {t : CapacityHandler B}, t.lastTime = s.lastTime → t.fsmStatus = s.fsmStatus →
      t.periodLoad = s.periodLoad → t.ecCandidate = s.ecCandidate → Begun c t := by
    intro t hlast hstatus hload hcandidate
    refine ⟨?_, ?_, ?_⟩
    · rw [hlast, hstatus]
      exact h.fresh
    · rw [hload, hstatus]
      exact h.unloaded
    · rw [hstatus, hcandidate]
      exact h.candidate
  cases e with
  | startPhase phase bat locks r =>
    obtain ⟨-, heq⟩ := Option.ite_none_right_eq_some.mp hstep
    obtain rfl := Option.some.inj heq
    unfold CapacityHandler.startPhase startLoadgen
    dsimp only
    split_ifs with hphase hlock hpending hbat
    · exact hsame rfl rfl rfl rfl
    · have hcall : Begun c (final (caught (CapacityHandler.refresh c { s with
          phase := phase
          lockedPL := s.lockedPL || c.dc
          pendingToStart := some (s.pendingToStart.getD c.instances.length - 1) } c.instances r))) := by
        rw [final_caught]
        exact Begun.refresh (hsame rfl rfl rfl rfl) hdc c.instances_nodup
      refine ends_final.mp ((ends_final.mpr hcall).bind fun s' hs' => ?_)
      exact ⟨hs'.fresh, hs'.unloaded, hs'.candidate⟩
    · exact hsame rfl rfl rfl rfl
    · exact Begun.refresh (hsame rfl rfl rfl rfl) hdc (List.nodup_singleton bat)
    · exact hsame rfl rfl rfl rfl
  | refresh bats r =>
    cases hstep
    exact h.refresh hdc bats.2
  | readCurrent bat value =>
    cases hstep
    exact hsame rfl rfl rfl rfl
  | shutdown unlocks =>
    cases hstep
    exact ends_final.mp ((shutdown_spec c s unlocks).imp (fun _ hquiet => h.quiet hquiet.1)
      fun _ hquiet => h.quiet hquiet.1)

/-- In every run the search goes down as it should as far as the shared index is a place in some
history. -/
lemma descending_of_exec (hdc : c.dc = false) {es : List (Event B)}
    (hexec : LabelledSystem.exec (step c) (init c) es = some s) (hphase : s.phase = .loadgen)
    (hstatus : s.fsmStatus = .searchDown) : Descending c s := by
  have hinit : Begun c (init c) := ⟨fun _ => rfl, fun _ => ⟨rfl, FsmStatus.noConfusion⟩, fun h => by
    cases h⟩
  have hbegun : Begun c s := LabelledSystem.exec_of_step (I := Begun c)
    (fun _ _ _ h hstep => h.step hdc hstep) hinit hexec
  refine ⟨hphase, hstatus, fun hnone => ?_, ?_, hbegun.candidate hstatus⟩
  · cases hstatus.symm.trans (hbegun.fresh hnone)
  · by_contra hnot
    exact (hbegun.unloaded (by simpa using hnot)).2 hstatus

/-- In the runs in which all BAT instances go up together, and every first step down fits, the shared index
is that of the last accepted target of each of them, and no target is below it. -/
theorem candidate_of_together (hdc : c.dc = false) (hdown : ∀ bat ∈ c.bats, 0 < c.deltaDown bat)
    {es : List (Event B)}
    (htogether : LabelledSystem.Along (step c) (UpTogether c) (init c) es)
    (hexec : LabelledSystem.exec (step c) (init c) es = some s) (hphase : s.phase = .loadgen)
    (hstatus : s.fsmStatus = .searchDown) :
    NotBelow c s ∧ ∀ bat ∈ c.bats, s.candidate bat = s.lastGood bat := by
  have hsearching : Searching c s := LabelledSystem.exec_invariant (I := Searching c)
    (fun _ _ _ h hC hstep => h.step hdc hdown hC hstep) (searching_init c) htogether hexec
  obtain ⟨n, hn, hgoing⟩ := hsearching.goingDown hphase hstatus
  constructor
  · intro bat hbat g hg
    obtain ⟨target, good, bad, -, hlast, -, hlastGood, -, hle, -⟩ := hgoing bat hbat
    rw [hlastGood] at hg
    rw [lastTarget, List.getLastD_eq_getLast?, hlast, ← Option.some.inj hg]
    exact hle
  · intro bat hbat
    obtain ⟨target, good, bad, hgood, -, -, hlastGood, -⟩ := hgoing bat hbat
    rw [candidate, hn, pyIndex_natCast, hgood, hlastGood]

/-- **The way down is as it should be** exactly when the first target down is not below the last accepted
one; at the end of every period either all BAT instances that are passed pass the check, none below its
last accepted target, or the first one ends the search; and targets really are lowered again and again as
long as the search goes down. -/
theorem stepsDown_iff (hdc : c.dc = false) (hdown : ∀ bat ∈ c.bats, 0 < c.deltaDown bat)
    {es : List (Event B)} (hexec : LabelledSystem.exec (step c) (init c) es = some s)
    (hphase : s.phase = .loadgen) (hstatus : s.fsmStatus = .searchDown) (calls : ℕ → Call B)
    (hfails : ∀ n, Fails c (statesOf c s calls n) (calls n).2) :
    StepsDown c s calls ↔ NotBelow c s ∧
      (∀ n, AllOrNone c (statesOf c s calls n) (calls n)) ∧
      ∀ n, ∃ m ≥ n, (statesOf c s calls m).fsmStatus = .searchDown →
        Lowers c (statesOf c s calls m) (calls m) :=
  (descending_of_exec hdc hexec hphase hstatus).run_iff hdown hfails

/-! ## Examples -/

/-- The second target of one BAT instance fails. -/
def secondFails : List (Event ℕ) :=
  [.startPhase .loadgen 0 true (readingsAt 1 0), refreshAt 2 0, refreshAt 10 0, refreshAt 12 0,
    refreshAt 20 5, refreshAt 22 0]

/-- The search goes down by small steps. -/
def smallSteps : CapacityHandler ℕ :=
  (LabelledSystem.exec (step (oneBat (.literal (1 / 2)) 80)) (init (oneBat (.literal (1 / 2)) 80))
    secondFails).getD (init (oneBat (.literal (1 / 2)) 80))

/-- The only BAT instance is there once. -/
lemma nodup_zero : [0].Nodup := List.nodup_singleton 0

/-- Every period fails. -/
def allFail (n : ℕ) : Call ℕ := (⟨[0], nodup_zero⟩, readingsAt (30 + 10 * n) 5)

/-- With one BAT instance the way down ends. -/
theorem smallSteps_end : StepsDown (oneBat (.literal (1 / 2)) 80) smallSteps allFail := by
  have hdown : (0 : PyNumber) < .literal (1 / 2) := by decide +kernel
  have hexec : LabelledSystem.exec (step (oneBat (.literal (1 / 2)) 80))
      (init (oneBat (.literal (1 / 2)) 80)) secondFails = some smallSteps := by
    rfl
  have hfails : ∀ n, Fails (oneBat (.literal (1 / 2)) 80)
      (statesOf (oneBat (.literal (1 / 2)) 80) smallSteps allFail n) (allFail n).2 := by
    rintro n - load - ⟨herror, -⟩
    exact absurd herror (show ¬ (5 : ℚ) ≤ 1 by norm_num)
  have hlater : ∀ n, 2 ≤ n →
      (statesOf (oneBat (.literal (1 / 2)) 80) smallSteps allFail n).fsmStatus = .finished := by
    intro n hn
    refine LabelledSystem.states_of_le (I := fun s : CapacityHandler ℕ => s.fsmStatus = .finished)
      (fun _ _ hfinished => (refreshed_finished _ hfinished).1) hn ?_
    decide +kernel
  refine (stepsDown_iff rfl (fun _ _ => hdown) hexec (by decide +kernel) (by decide +kernel) allFail
    hfails).mpr ⟨by decide +kernel, fun n => ?_, fun n => ?_⟩
  · rcases n with _ | _ | n
    · decide +kernel
    · decide +kernel
    · intro hsearch
      cases (hlater (n + 2) (by omega)).symm.trans hsearch
  · refine ⟨max 2 n, le_max_right 2 n, fun hsearch => ?_⟩
    cases (hlater (max 2 n) (le_max_left 2 n)).symm.trans hsearch

/-- Two BAT instances; the second one has less room on the way down. -/
def twoBats : CapacityConfig ℕ :=
  { oneBat 1 80 with
    instances := [0, 1]
    instances_nodup := by decide
    bats := [0, 1]
    deltaUp := fun bat => if bat = 0 then 10 else 2
    deltaDown := fun bat => if bat = 0 then 1 else 2 }

/-- A call of `refresh` for both. -/
def refreshBoth (now errorRate : ℚ) : Event ℕ := .refresh ⟨[0, 1], by decide⟩ (readingsAt now errorRate)

/-- The second targets fail. -/
def bothFail : List (Event ℕ) :=
  [.startPhase .loadgen 0 true (readingsAt 1 0), .startPhase .loadgen 1 true (readingsAt 1 0),
    refreshBoth 2 0, refreshBoth 10 0, refreshBoth 12 0, refreshBoth 20 5, refreshBoth 22 0]

/-- Every later period fails. -/
def bothFailAgain (n : ℕ) : Call ℕ := (⟨[0, 1], by decide⟩, readingsAt (30 + 10 * n) 5)

/-- At the end of the next period one BAT instance is lowered and the other one is not. -/
theorem bothFail_halfWay : ∃ s,
    LabelledSystem.exec (step twoBats) (init twoBats) bothFail = some s ∧
      s.phase = .loadgen ∧ s.fsmStatus = .searchDown ∧
      (∀ n, Fails twoBats (statesOf twoBats s bothFailAgain n) (bothFailAgain n).2) ∧
      ¬ StepsDown twoBats s bothFailAgain := by
  refine ⟨_, rfl, by decide +kernel, by decide +kernel, ?_, fun h => ?_⟩
  · rintro n - load - ⟨herror, -⟩
    exact absurd herror (show ¬ (5 : ℚ) ≤ 1 by norm_num)
  · rcases h.once 0 (by decide +kernel) (by decide +kernel) with ⟨hstatus, -⟩ | ⟨-, hsame⟩
    · revert hstatus
      decide +kernel
    · have hfirst := hsame 0 List.mem_cons_self
      revert hfirst
      decide +kernel

/-- A step can be lost in the rounding: then the search does not end. -/
example : PyNumber.literal (10 ^ 16) - .literal (1 / 2) = .literal (10 ^ 16) := by decide +kernel

end CapacityHandler

end HssRtc
