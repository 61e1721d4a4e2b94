import StTools.HssRtc.CapacityHandler

/-!
# What the methods of the capacity handler change

A loop over BAT instances either sets a new target for each of them, or gives up.  The methods
outside the search, the reports and the creation of references leave the histories as they are.
-/

namespace HssRtc

universe u

variable {B : Type u}

namespace CapacityHandler

open EarlyExit

variable {c : CapacityConfig B} {s s' s'' : CapacityHandler B} {bats done : List B}
  {r : Readings B}

/-! ## Histories that stay -/

/-- The histories stay as they are. -/
structure Keeps (s s' : CapacityHandler B) : Prop where
  phase : s'.phase = s.phase
  lastTime : s'.lastTime = s.lastTime
  nofSteps : s'.nofSteps = s.nofSteps
  periodLoad : s'.periodLoad = s.periodLoad
  ecCandidate : s'.ecCandidate = s.ecCandidate
  usedTarget : s'.usedTarget = s.usedTarget
  lastGood : s'.lastGood = s.lastGood
  firstBad : s'.firstBad = s.firstBad
  found : s'.found = s.found

/-- No change. -/
lemma Keeps.refl (s : CapacityHandler B) : Keeps s s := ⟨rfl, rfl, rfl, rfl, rfl, rfl, rfl, rfl, rfl⟩

/-- Two changes. -/
lemma Keeps.trans (h : Keeps s s') (h' : Keeps s' s'') : Keeps s s'' where
  phase := h'.phase.trans h.phase
  lastTime := h'.lastTime.trans h.lastTime
  nofSteps := h'.nofSteps.trans h.nofSteps
  periodLoad := h'.periodLoad.trans h.periodLoad
  ecCandidate := h'.ecCandidate.trans h.ecCandidate
  usedTarget := h'.usedTarget.trans h.usedTarget
  lastGood := h'.lastGood.trans h.lastGood
  firstBad := h'.firstBad.trans h.firstBad
  found := h'.found.trans h.found

/-- The scheduling info can be listed. -/
def Listed (c : CapacityConfig B) (s : CapacityHandler B) : Prop := (s.schedulingInfo c).isSome

/-- What is listed depends on the histories only. -/
lemma Keeps.listed (h : Keeps s s') : s'.Listed c ↔ s.Listed c := by
  unfold Listed schedulingInfo
  rw [h.nofSteps, h.periodLoad, h.usedTarget]

/-- The histories and the search stay, and if `p` then no history is read out of range. -/
structure Quiet (p : Prop) (s s' : CapacityHandler B) : Prop extends Keeps s s' where
  fsmStatus : s'.fsmStatus = s.fsmStatus
  outOfRange : p → s'.outOfRange = s.outOfRange

variable {p : Prop}

/-- No change. -/
lemma Quiet.refl (s : CapacityHandler B) : Quiet p s s := ⟨Keeps.refl s, rfl, fun _ => rfl⟩

/-- Two changes. -/
lemma Quiet.trans (h : Quiet p s s') (h' : Quiet p s' s'') : Quiet p s s'' where
  toKeeps := h.toKeeps.trans h'.toKeeps
  fsmStatus := h'.fsmStatus.trans h.fsmStatus
  outOfRange hp := (h'.outOfRange hp).trans (h.outOfRange hp)

/-- A list of results is complete if each of them is there. -/
lemma isSome_mapM {α β : Type*} {f : α → Option β} {l : List α} (h : ∀ a ∈ l, (f a).isSome) :
    (l.mapM f).isSome := by
  induction l with
  | nil => rfl
  | cons a l ih =>
    obtain ⟨x, hx⟩ := Option.isSome_iff_exists.mp (h a List.mem_cons_self)
    obtain ⟨xs, hxs⟩ := Option.isSome_iff_exists.mp (ih fun b hb => h b (List.mem_cons_of_mem a hb))
    rw [List.mapM_cons, hx, hxs]
    rfl

/-- The scheduling info can be listed if the histories are long enough. -/
lemma listed_of_le (hload : c.loadValidationEnabled = true → s.nofSteps ≤ s.periodLoad.length)
    (htarget : ∀ bat ∈ c.bats, s.nofSteps ≤ (s.usedTarget bat).length) : s.Listed c := by
  refine isSome_mapM fun count hcount => ?_
  rw [List.mem_range] at hcount
  have htargets : (c.bats.mapM fun bat => (s.usedTarget bat)[count]?).isSome := by
    refine isSome_mapM fun bat hbat => ?_
    rw [List.getElem?_eq_getElem (hcount.trans_le (htarget bat hbat))]
    rfl
  obtain ⟨targets, htargets⟩ := Option.isSome_iff_exists.mp htargets
  rw [htargets]
  split_ifs with hvalidation
  · rw [List.getElem?_eq_getElem (hcount.trans_le (hload hvalidation))]
    rfl
  · rfl

/-- `scheduling_info` leaves everything but its report. -/
lemma logInfo_spec (c : CapacityConfig B) (s : CapacityHandler B) :
    Ends (fun s' => Quiet (s.Listed c) s s' ∧ s'.applied = s.applied ∧ s'.target = s.target)
      (fun x => Quiet (s.Listed c) s x.2 ∧ x.2.applied = s.applied ∧ x.2.target = s.target)
      (s.logInfo c) := by
  unfold logInfo
  rcases hinfo : s.schedulingInfo c with _ | info
  · refine ⟨⟨⟨rfl, rfl, rfl, rfl, rfl, rfl, rfl, rfl, rfl⟩, rfl, fun hlisted => ?_⟩, rfl, rfl⟩
    unfold Listed at hlisted
    rw [hinfo] at hlisted
    cases hlisted
  · exact ⟨⟨⟨rfl, rfl, rfl, rfl, rfl, rfl, rfl, rfl, rfl⟩, rfl, fun _ => rfl⟩, rfl, rfl⟩

/-- `shutdown` leaves everything but its report and the PL. -/
lemma shutdown_spec (c : CapacityConfig B) (s : CapacityHandler B) (unlocks : Bool) :
    Ends (fun s' => Quiet (s.Listed c) s s' ∧ s'.applied = s.applied ∧ s'.target = s.target)
      (fun x => Quiet (s.Listed c) s x.2 ∧ x.2.applied = s.applied ∧ x.2.target = s.target)
      (s.shutdown c unlocks) := by
  have hunlock : Quiet (s.Listed c) s (s.unlockPL unlocks) :=
    ⟨⟨rfl, rfl, rfl, rfl, rfl, rfl, rfl, rfl, rfl⟩, rfl, fun _ => rfl⟩
  refine (logInfo_spec c (s.unlockPL unlocks)).imp ?_ ?_
  · rintro s' ⟨hquiet, happlied, htarget⟩
    exact ⟨hunlock.trans hquiet, happlied, htarget⟩
  · rintro x ⟨hquiet, happlied, htarget⟩
    exact ⟨hunlock.trans hquiet, happlied, htarget⟩

/-! ## References are created -/

/-- The targets for a traffic reference are read from histories that are not empty. -/
lemma referenceLoadgen_spec (s : CapacityHandler B) (ref : TrafficReference) (bats : List B)
    (hused : ∀ bat ∈ bats, s.usedTarget bat ≠ []) :
    Ends (fun _ => True) (fun x => x.2 = s) (s.referenceLoadgen ref bats) := by
  induction bats with
  | nil => trivial
  | cons bat bats ih =>
    have hrest := ih fun bat' hbat' => hused bat' (List.mem_cons_of_mem bat hbat')
    unfold referenceLoadgen
    rw [List.getLast?_eq_some_getLast (hused bat List.mem_cons_self)]
    dsimp only
    split
    · rfl
    · rcases hloadgen : s.referenceLoadgen ref bats with x | loadgen
      · rw [hloadgen] at hrest
        exact hrest
      · trivial

/-- `create_reference` only adds references. -/
lemma createReference_spec (s : CapacityHandler B)
    (hused : ∀ bat ∈ c.bats, s.usedTarget bat ≠ []) :
    Ends (fun s' => Quiet True s s' ∧ s'.applied = s.applied)
      (fun x => Quiet True s x.2 ∧ x.2.applied = s.applied) (s.createReference c) := by
  refine Ends.foldlM (fun _ s' => Quiet True s s' ∧ s'.applied = s.applied) ?_ ⟨Quiet.refl s, rfl⟩
  rintro done ref s' - ⟨hquiet, happlied⟩
  unfold createOne
  have hloadgen := referenceLoadgen_spec s' ref c.bats (hquiet.usedTarget ▸ hused)
  refine (hloadgen.imp (fun _ h => h) ?_).bind fun loadgen _ => ?_
  · rintro x rfl
    exact ⟨hquiet, happlied⟩
  · dsimp only
    split
    · exact ⟨hquiet, happlied⟩
    · exact ⟨hquiet.trans ⟨⟨rfl, rfl, rfl, rfl, rfl, rfl, rfl, rfl, rfl⟩, rfl, fun _ => rfl⟩, happlied⟩

variable [DecidableEq B]

/-- `build_cps_table` changes only what follows the search. -/
lemma buildCpsTable_spec (s : CapacityHandler B) :
    Ends (fun s' => Quiet True s s' ∧ s'.applied = s.applied)
      (fun x => Quiet True s x.2 ∧ x.2.applied = s.applied) (s.buildCpsTable c) := by
  refine Ends.foldlM (fun _ s' => Quiet True s s' ∧ s'.applied = s.applied) ?_ ⟨Quiet.refl s, rfl⟩
  rintro done bat s' - ⟨hquiet, happlied⟩
  unfold buildOne
  dsimp only
  split_ifs with hlength
  · have hused : s.usedTarget bat ≠ [] := by
      rw [hquiet.usedTarget] at hlength
      exact List.ne_nil_of_length_pos (Nat.zero_lt_of_lt hlength)
    refine Ends.foldlM (fun _ s'' => Quiet True s s'' ∧ s''.applied = s.applied) ?_ ?_
    · rintro - slot s'' - ⟨hquiet'', happlied''⟩
      unfold buildSlot
      split
      · exact ⟨hquiet'', happlied''⟩
      · have hlast : (s''.usedTarget bat).getLast? = some ((s.usedTarget bat).getLast hused) := by
          rw [hquiet''.usedTarget, List.getLast?_eq_some_getLast hused]
        rw [hlast]
        exact ⟨hquiet''.trans ⟨⟨rfl, rfl, rfl, rfl, rfl, rfl, rfl, rfl, rfl⟩, rfl, fun _ => rfl⟩, happlied''⟩
    · exact ⟨hquiet.trans ⟨⟨rfl, rfl, rfl, rfl, rfl, rfl, rfl, rfl, rfl⟩, rfl, fun _ => rfl⟩, happlied⟩
  · exact ⟨hquiet.trans ⟨⟨rfl, rfl, rfl, rfl, rfl, rfl, rfl, rfl, rfl⟩, rfl, fun _ => rfl⟩, happlied⟩

/-- The end of the search leaves the histories; it reads them in range if it can be listed. -/
lemma finish_spec (s : CapacityHandler B) (hused : ∀ bat ∈ c.bats, s.usedTarget bat ≠ []) :
    Ends (fun s' => Keeps s s' ∧ s'.fsmStatus = .finished ∧
        (s.Listed c → s'.outOfRange = s.outOfRange))
      (fun x => Keeps s x.2 ∧ x.2.applied = s.applied ∧
        (x.2.fsmStatus = s.fsmStatus ∨ x.2.fsmStatus = .finished) ∧
        (s.Listed c → x.2.outOfRange = s.outOfRange)) (s.finish c) := by
  have hfinished : ∀ {s₂ s₃ : CapacityHandler B}, Quiet True s s₂ →
      Quiet (({ s₂ with fsmStatus := .finished } : CapacityHandler B).Listed c)
        { s₂ with fsmStatus := .finished } s₃ → Keeps s s₃ ∧ s₃.fsmStatus = .finished ∧
        (s.Listed c → s₃.outOfRange = s.outOfRange) := by
    intro s₂ s₃ hquiet hlog
    have hkeeps : Keeps s { s₂ with fsmStatus := .finished } :=
      hquiet.toKeeps.trans ⟨rfl, rfl, rfl, rfl, rfl, rfl, rfl, rfl, rfl⟩
    refine ⟨hkeeps.trans hlog.toKeeps, hlog.fsmStatus, fun hlisted => ?_⟩
    exact (hlog.outOfRange (hkeeps.listed.mpr hlisted)).trans (hquiet.outOfRange trivial)
  unfold finish
  refine Ends.bind ((createReference_spec s hused).imp (fun _ h => h) ?_) ?_
  · rintro x ⟨hquiet, happlied⟩
    exact ⟨hquiet.toKeeps, happlied, Or.inl hquiet.fsmStatus, fun _ => hquiet.outOfRange trivial⟩
  rintro s₁ ⟨hcreated, happlied₁⟩
  refine Ends.bind ((buildCpsTable_spec s₁).imp (fun _ h => h) ?_) ?_
  · rintro x ⟨hbuilt, happlied⟩
    have hquiet := hcreated.trans hbuilt
    exact ⟨hquiet.toKeeps, happlied.trans happlied₁, Or.inl hquiet.fsmStatus,
      fun _ => hquiet.outOfRange trivial⟩
  rintro s₂ ⟨hbuilt, happlied₂⟩
  have hquiet := hcreated.trans hbuilt
  refine Ends.bind ((logInfo_spec c { s₂ with fsmStatus := .finished }).imp (fun _ h => h) ?_) ?_
  · rintro x ⟨hlog, happlied, -⟩
    obtain ⟨hkeeps, hstatus, hrange⟩ := hfinished hquiet hlog
    exact ⟨hkeeps, happlied.trans (happlied₂.trans happlied₁), Or.inr hstatus, hrange⟩
  rintro s₃ ⟨hlog, happlied₃, -⟩
  obtain ⟨hkeeps, hstatus, hrange⟩ := hfinished hquiet hlog
  split_ifs
  · exact ⟨hkeeps.trans ⟨rfl, rfl, rfl, rfl, rfl, rfl, rfl, rfl, rfl⟩, hstatus, hrange⟩
  · unfold reconfigureLoadMonitor
    split_ifs
    · exact ⟨hkeeps, happlied₃.trans (happlied₂.trans happlied₁), Or.inr hstatus, hrange⟩
    · exact ⟨hkeeps, hstatus, hrange⟩
  · exact ⟨hkeeps, hstatus, hrange⟩

/-! ## The base class -/

/-- A slot that is started changes no history. -/
lemma startSlot_spec (s : CapacityHandler B) (bat : B) (slot : CpsSlot) :
    Ends (Quiet (s.Listed c ∨ r.accepts bat) s) (fun x => Quiet (s.Listed c ∨ r.accepts bat) s x.2)
      (s.startSlot c r bat slot) := by
  unfold startSlot
  split_ifs with haccepts
  · exact ⟨⟨rfl, rfl, rfl, rfl, rfl, rfl, rfl, rfl, rfl⟩, rfl, fun _ => rfl⟩
  · have hlisted : s.Listed c ∨ r.accepts bat → s.Listed c := fun h => h.resolve_right haccepts
    refine Ends.bind (Q := Quiet (s.Listed c ∨ r.accepts bat) s)
      ((shutdown_spec c s r.unlocks).imp ?_ ?_) fun s' hquiet => hquiet
    · rintro s' ⟨hquiet, -⟩
      exact ⟨hquiet.toKeeps, hquiet.fsmStatus, fun h => hquiet.outOfRange (hlisted h)⟩
    · rintro x ⟨hquiet, -⟩
      exact ⟨hquiet.toKeeps, hquiet.fsmStatus, fun h => hquiet.outOfRange (hlisted h)⟩

/-- `refresh` of the base class changes no history. -/
lemma baseRefresh_spec (s : CapacityHandler B) (bats : List B) (r : Readings B) :
    Ends (Quiet (s.Listed c ∨ ∀ bat ∈ bats, r.accepts bat) s)
      (fun x => Quiet (s.Listed c ∨ ∀ bat ∈ bats, r.accepts bat) s x.2)
      (s.baseRefresh c bats r) := by
  set p : Prop := s.Listed c ∨ ∀ bat ∈ bats, r.accepts bat with hp
  have hslot : ∀ {s' s₁ : CapacityHandler B} {bat : B} (slot : CpsSlot), bat ∈ bats → Quiet p s s' →
      Quiet True s' s₁ → Ends (fun x : CapacityHandler B × Bool => Quiet p s x.1)
        (fun x => Quiet p s x.2) ((s₁.startSlot c r bat slot).map (·, false)) := by
    intro s' s₁ bat slot hbat hquiet hsame
    have hquiet₁ : Quiet p s s₁ := hquiet.trans ⟨hsame.toKeeps, hsame.fsmStatus, fun _ =>
      hsame.outOfRange trivial⟩
    have himp : p → s₁.Listed c ∨ r.accepts bat := fun h =>
      h.imp hquiet₁.listed.mpr fun haccepts => haccepts bat hbat
    have hstart := startSlot_spec (c := c) (r := r) s₁ bat slot
    rcases hs₂ : s₁.startSlot c r bat slot with x | s₂
    · rw [hs₂] at hstart
      exact hquiet₁.trans ⟨hstart.toKeeps, hstart.fsmStatus, fun h => hstart.outOfRange (himp h)⟩
    · rw [hs₂] at hstart
      exact hquiet₁.trans ⟨hstart.toKeeps, hstart.fsmStatus, fun h => hstart.outOfRange (himp h)⟩
  unfold baseRefresh
  refine Ends.bind (Q := fun x : CapacityHandler B × Bool => Quiet p s x.1) ?_ fun x hquiet =>
    hquiet.trans ⟨⟨rfl, rfl, rfl, rfl, rfl, rfl, rfl, rfl, rfl⟩, rfl, fun _ => rfl⟩
  refine Ends.foldlM (fun _ (x : CapacityHandler B × Bool) => Quiet p s x.1) ?_ (Quiet.refl s)
  intro done bat x hinit hquiet
  have hbat : bat ∈ bats := hinit.subset (by simp)
  unfold refreshSlots
  split
  · exact hquiet
  · exact hquiet
  · rename_i slot slots hslots
    split
    · exact hslot slot hbat hquiet (Quiet.refl _)
    · split_ifs
      · exact hquiet
      · have hsame : Quiet True x.1 { x.1 with
          slots := Function.update x.1.slots x.1.phase
            (Function.update (x.1.slots x.1.phase) bat (some slots)) } :=
          ⟨⟨rfl, rfl, rfl, rfl, rfl, rfl, rfl, rfl, rfl⟩, rfl, fun _ => rfl⟩
        split
        · exact hquiet.trans ⟨hsame.toKeeps, rfl, fun _ => rfl⟩
        · exact hslot _ hbat hquiet hsame
      · exact hquiet

/-! ## Loops over BAT instances -/

/-- The BAT instances that were done have got the targets `v`. -/
structure Retargeted (c : CapacityConfig B) (done : List B) (v : B → PyNumber)
    (s s' : CapacityHandler B) : Prop where
  known : ∀ bat ∈ done, bat ∈ c.bats
  usedTarget : ∀ bat, s'.usedTarget bat =
    if bat ∈ done then s.usedTarget bat ++ [v bat] else s.usedTarget bat
  applied : ∀ bat, s'.applied bat = if bat ∈ done then some (v bat) else s.applied bat
  target : ∀ bat, s'.target bat = if bat ∈ done then v bat else s.target bat
  phase : s'.phase = s.phase
  lastTime : s'.lastTime = s.lastTime
  nofSteps : s'.nofSteps = s.nofSteps
  periodLoad : s'.periodLoad = s.periodLoad
  lastGood : s'.lastGood = s.lastGood
  firstBad : s'.firstBad = s.firstBad
  found : s'.found = s.found
  outOfRange : s'.outOfRange = s.outOfRange

/-- The search has ended with an error, and the histories are not shorter than before. -/
structure GaveUp (s s' : CapacityHandler B) : Prop where
  fsmStatus : s'.fsmStatus = .finished
  usedTarget : ∀ bat, (s.usedTarget bat).length ≤ (s'.usedTarget bat).length
  phase : s'.phase = s.phase
  lastTime : s'.lastTime = s.lastTime
  nofSteps : s'.nofSteps = s.nofSteps
  periodLoad : s'.periodLoad = s.periodLoad
  found : s'.found = s.found
  outOfRange : s'.outOfRange = s.outOfRange

variable {v : B → PyNumber} {bat : B}

/-- Nothing is done yet. -/
lemma retargeted_nil (c : CapacityConfig B) (v : B → PyNumber) (s : CapacityHandler B) :
    Retargeted c [] v s s :=
  ⟨by simp, by simp, by simp, by simp, rfl, rfl, rfl, rfl, rfl, rfl, rfl, rfl⟩

/-- One target is set. -/
lemma retargeted_setTarget (s : CapacityHandler B) (hbat : bat ∈ c.bats) (value : PyNumber) :
    Retargeted c [bat] (fun _ => value) s (s.setTarget bat value) := by
  refine ⟨by simpa using hbat, ?_, ?_, ?_, rfl, rfl, rfl, rfl, rfl, rfl, rfl, rfl⟩
  all_goals
    intro bat'
    by_cases heq : bat' = bat
    · subst heq
      simp [setTarget]
    · simp [setTarget, heq]

/-- One more target is set. -/
lemma Retargeted.append (h : Retargeted c done v s s') (hnew : bat ∉ done)
    (h' : Retargeted c [bat] (fun _ => v bat) s' s'') : Retargeted c (done ++ [bat]) v s s'' := by
  refine ⟨?_, ?_, ?_, ?_, h'.phase.trans h.phase, h'.lastTime.trans h.lastTime,
    h'.nofSteps.trans h.nofSteps, h'.periodLoad.trans h.periodLoad, h'.lastGood.trans h.lastGood,
    h'.firstBad.trans h.firstBad, h'.found.trans h.found, h'.outOfRange.trans h.outOfRange⟩
  · intro bat' hbat'
    obtain hdone | hlast := List.mem_append.mp hbat'
    · exact h.known bat' hdone
    · exact h'.known bat' hlast
  all_goals
    intro bat'
    by_cases heq : bat' = bat
  · subst heq
    simp [h'.usedTarget, h.usedTarget, hnew]
  · simp [h'.usedTarget, h.usedTarget, heq]
  · subst heq
    simp [h'.applied]
  · simp [h'.applied, h.applied, heq]
  · subst heq
    simp [h'.target]
  · simp [h'.target, h.target, heq]

/-- What a BAT instance had before it is done. -/
lemma Retargeted.usedTarget_of_notMem (h : Retargeted c done v s s') (hnew : bat ∉ done) :
    s'.usedTarget bat = s.usedTarget bat := by
  rw [h.usedTarget, if_neg hnew]

/-- An error in the loop. -/
lemma Retargeted.gaveUp (h : Retargeted c done v s s') (e : CapacityError B) :
    GaveUp s { s' with fsmStatus := .finished, stopPhase := true, errors := s'.errors ++ [e] } := by
  refine ⟨rfl, fun bat => ?_, h.phase, h.lastTime, h.nofSteps, h.periodLoad, h.found, h.outOfRange⟩
  show (s.usedTarget bat).length ≤ (s'.usedTarget bat).length
  rw [h.usedTarget]
  split_ifs <;> simp

/-- One more target in the search, or an error. -/
lemma Retargeted.trySet (h : Retargeted c done v s s') (hnew : bat ∉ done) (hbat : bat ∈ c.bats) :
    Ends (fun s'' => Retargeted c (done ++ [bat]) v s s'' ∧ s''.fsmStatus = s'.fsmStatus ∧
        s''.ecCandidate = s'.ecCandidate)
      (fun x => x.1 = .returned ∧ GaveUp s x.2) (s'.trySet r bat (v bat)) := by
  unfold CapacityHandler.trySet
  split_ifs
  · have hset := retargeted_setTarget s' hbat (v bat)
    exact ⟨h.append hnew { hset with }, rfl, rfl⟩
  · exact ⟨rfl, h.gaveUp _⟩

omit [DecidableEq B] in
/-- The next element of a list without duplicates is not done. -/
lemma notMem_done (hnodup : bats.Nodup) (hinit : done ++ [bat] <+: bats) : bat ∉ done := by
  have hsub := hnodup.sublist hinit.sublist
  intro hmem
  exact (List.nodup_append.mp hsub).2.2 bat hmem bat (by simp) rfl

/-- In the beginning every BAT instance gets its first target, or one is not known or cannot be
set. -/
lemma startSearch_spec (s : CapacityHandler B) (hnodup : bats.Nodup) (r : Readings B) :
    Ends (fun s' => Retargeted c bats c.initial
        { s with lastTime := some r.now, nofSteps := s.nofSteps + 1 } s' ∧
        (bats ≠ [] → s'.fsmStatus = .search))
      (fun x => (∃ bat ∈ bats, bat ∉ c.bats ∨ r.accepts bat = false) ∧ x.1 = .returned ∧
        GaveUp { s with lastTime := some r.now, nofSteps := s.nofSteps + 1 } x.2)
      (s.startSearch c bats r) := by
  refine Ends.foldlM (fun done s' => Retargeted c done c.initial
    { s with lastTime := some r.now, nofSteps := s.nofSteps + 1 } s' ∧
    (done ≠ [] → s'.fsmStatus = .search)) ?_ ⟨retargeted_nil c _ _, fun h => absurd rfl h⟩
  rintro done bat s' hinit ⟨h, -⟩
  have hbats : bat ∈ bats := hinit.subset (by simp)
  unfold setInitial
  split_ifs with hbat haccepts
  · have hset := retargeted_setTarget s' hbat (c.initial bat)
    exact ⟨h.append (notMem_done hnodup hinit) { hset with }, fun _ => rfl⟩
  · exact ⟨⟨bat, hbats, Or.inr (by simpa using haccepts)⟩, rfl, h.gaveUp _⟩
  · exact ⟨⟨bat, hbats, Or.inl hbat⟩, rfl, h.gaveUp _⟩

/-- On the way up every target grows. -/
lemma stepUp_spec (s : CapacityHandler B) (hnodup : bats.Nodup) (r : Readings B) :
    Ends (fun s' => Retargeted c bats (fun bat => s.target bat + c.deltaUp bat) s s' ∧
        s'.fsmStatus = s.fsmStatus)
      (fun x => x.1 = .returned ∧ GaveUp s x.2) (bats.foldlM (stepUp c r) s) := by
  refine Ends.foldlM (fun done s' =>
    Retargeted c done (fun bat => s.target bat + c.deltaUp bat) s s' ∧
      s'.fsmStatus = s.fsmStatus) ?_ ⟨retargeted_nil c _ s, rfl⟩
  rintro done bat s' hinit ⟨h, hstatus⟩
  have hnew := notMem_done hnodup hinit
  unfold stepUp
  split_ifs with hbat
  · exact ⟨rfl, h.gaveUp _⟩
  · have htarget : s'.target bat = s.target bat := by rw [h.target, if_neg hnew]
    rw [htarget]
    refine (h.trySet hnew hbat).imp (fun s'' h' => ⟨h'.1, h'.2.1.trans hstatus⟩) fun _ h' => h'
  · exact ⟨rfl, h.gaveUp _⟩

/-- What a BAT instance had last. -/
def lastTarget (s : CapacityHandler B) (bat : B) : PyNumber := (s.usedTarget bat).getLastD 0

omit [DecidableEq B] in
/-- The last target is there if there was one. -/
lemma getLast?_usedTarget (h : s.usedTarget bat ≠ []) :
    (s.usedTarget bat).getLast? = some (s.lastTarget bat) := by
  rw [lastTarget, List.getLastD_eq_getLast?, List.getLast?_eq_some_getLast h, Option.getD_some]

/-- The first step down: the candidate is the target before the last one. -/
lemma firstStepDown_spec (s : CapacityHandler B) (hnodup : bats.Nodup) (hne : bats ≠ [])
    (r : Readings B) {n : ℕ} (hlength : ∀ bat ∈ c.bats, (s.usedTarget bat).length = n) :
    Ends (fun s' => Retargeted c bats (fun bat => s.lastTarget bat - c.deltaDown bat) s s' ∧
        s'.fsmStatus = s.fsmStatus ∧ 2 ≤ n ∧ s'.ecCandidate = ((n - 2 : ℕ) : ℤ))
      (fun x => x.1 = .returned ∧ GaveUp s x.2) (bats.foldlM (firstStepDown c r) s) := by
  suffices h : Ends (fun s' =>
      Retargeted c bats (fun bat => s.lastTarget bat - c.deltaDown bat) s s' ∧
        s'.fsmStatus = s.fsmStatus ∧
        (bats ≠ [] → 2 ≤ n ∧ s'.ecCandidate = ((n - 2 : ℕ) : ℤ)))
      (fun x => x.1 = .returned ∧ GaveUp s x.2) (bats.foldlM (firstStepDown c r) s) from
    h.imp (fun s' h => ⟨h.1, h.2.1, h.2.2 hne⟩) fun _ h => h
  refine Ends.foldlM (fun done s' =>
    Retargeted c done (fun bat => s.lastTarget bat - c.deltaDown bat) s s' ∧
      s'.fsmStatus = s.fsmStatus ∧ (done ≠ [] → 2 ≤ n ∧ s'.ecCandidate = ((n - 2 : ℕ) : ℤ)))
    ?_ ⟨retargeted_nil c _ s, rfl, fun h => absurd rfl h⟩
  rintro done bat s' hinit ⟨h, hstatus, -⟩
  have hnew := notMem_done hnodup hinit
  unfold firstStepDown
  split_ifs with hbat
  · have hused : s'.usedTarget bat = s.usedTarget bat := h.usedTarget_of_notMem hnew
    have hn := hlength bat hbat
    dsimp only
    split_ifs with hcandidate
    · have hgave := h.gaveUp .firstStep
      exact ⟨rfl, { hgave with }⟩
    · rw [hused, hn] at hcandidate
      have hpos : s.usedTarget bat ≠ [] := List.ne_nil_of_length_pos (by omega)
      have hlast : (s'.usedTarget bat).getLast? = some (s.lastTarget bat) := by
        rw [hused, getLast?_usedTarget hpos]
      rw [hlast]
      have hcand : Retargeted c done (fun bat => s.lastTarget bat - c.deltaDown bat) s
          { s' with ecCandidate := ((s'.usedTarget bat).length : ℤ) - 2 } := { h with }
      refine (hcand.trySet hnew hbat).imp (fun s'' h' => ⟨h'.1, h'.2.1.trans hstatus, fun _ => ?_⟩)
        fun _ h' => h'
      refine ⟨by omega, h'.2.2.trans ?_⟩
      show ((s'.usedTarget bat).length : ℤ) - 2 = _
      rw [hused, hn]
      omega
  · exact ⟨rfl, h.gaveUp _⟩

omit [DecidableEq B] in
/-- An index that is not negative. -/
@[simp] lemma pyIndex_natCast {α : Type*} (l : List α) (n : ℕ) : pyIndex l (n : ℤ) = l[n]? := by
  simp [pyIndex]

/-- The next steps down: no target falls below the candidate. -/
lemma stepDown_spec (s : CapacityHandler B) (hnodup : bats.Nodup) (r : Readings B)
    {good : B → PyNumber} (hused : ∀ bat ∈ c.bats, s.usedTarget bat ≠ [])
    (hgood : ∀ bat ∈ c.bats, pyIndex (s.usedTarget bat) s.ecCandidate = some (good bat)) :
    Ends (fun s' => Retargeted c bats (fun bat => s.lastTarget bat - c.deltaDown bat) s s' ∧
        s'.fsmStatus = s.fsmStatus ∧ s'.ecCandidate = s.ecCandidate ∧
        ∀ bat ∈ bats, good bat ≤ s.lastTarget bat - c.deltaDown bat)
      (fun x => x.1 = .returned ∧ GaveUp s x.2) (bats.foldlM (stepDown c r) s) := by
  refine Ends.foldlM (fun done s' =>
    Retargeted c done (fun bat => s.lastTarget bat - c.deltaDown bat) s s' ∧
      s'.fsmStatus = s.fsmStatus ∧ s'.ecCandidate = s.ecCandidate ∧
      ∀ bat ∈ done, good bat ≤ s.lastTarget bat - c.deltaDown bat)
    ?_ ⟨retargeted_nil c _ s, rfl, rfl, by simp⟩
  rintro done bat s' hinit ⟨h, hstatus, hcandidate, hdone⟩
  have hnew := notMem_done hnodup hinit
  unfold stepDown
  split_ifs with hbat
  · have hlast : (s'.usedTarget bat).getLast? = some (s.lastTarget bat) := by
      rw [h.usedTarget_of_notMem hnew, getLast?_usedTarget (hused bat hbat)]
    rw [hlast, h.usedTarget_of_notMem hnew, hcandidate, hgood bat hbat]
    dsimp only
    split_ifs with hlower
    · exact ⟨rfl, h.gaveUp _⟩
    · refine (h.trySet hnew hbat).imp (fun s'' h' => ⟨h'.1, h'.2.1.trans hstatus,
        h'.2.2.trans hcandidate, fun bat' hbat' => ?_⟩) fun _ h' => h'
      obtain hmem | rfl : bat' ∈ done ∨ bat' = bat := by simpa using hbat'
      · exact hdone bat' hmem
      · exact PyNumber.not_lt.mp hlower
  · exact ⟨rfl, h.gaveUp _⟩

/-- The targets for the validation of the DC. -/
lemma setDC_spec (s : CapacityHandler B) (hnodup : bats.Nodup) (r : Readings B)
    (hused : ∀ bat ∈ c.bats, s.usedTarget bat ≠ []) :
    Ends (Retargeted c bats (fun bat => .literal (4 / 5) * s.lastTarget bat) s)
      (fun x => x.1 = .returned ∧ GaveUp s x.2) (bats.foldlM (setDC c r) s) := by
  refine Ends.foldlM (fun done s' =>
    Retargeted c done (fun bat => .literal (4 / 5) * s.lastTarget bat) s s') ?_ (retargeted_nil c _ s)
  intro done bat s' hinit h
  have hnew := notMem_done hnodup hinit
  unfold setDC
  by_cases hbat : bat ∈ c.bats
  · have hlast : (s'.usedTarget bat).getLast? = some (s.lastTarget bat) := by
      rw [h.usedTarget_of_notMem hnew, getLast?_usedTarget (hused bat hbat)]
    rw [if_pos hbat, hlast]
    dsimp only
    split_ifs
    · have hset := retargeted_setTarget s' hbat (.literal (4 / 5) * s.lastTarget bat)
      exact h.append hnew { hset with }
    · exact ⟨rfl, h.gaveUp _⟩
  · rw [if_neg hbat]
    exact ⟨rfl, h.gaveUp _⟩

/-! ## The end of a period -/

omit [DecidableEq B] in
/-- When a period is over its load is known. -/
lemma loadStable_spec (c : CapacityConfig B) (s : CapacityHandler B) :
    ∃ load samples, (s.loadStable c).2 =
      { s with loadSamples := samples, periodLoad := s.periodLoad ++ [load] } := by
  unfold loadStable
  dsimp only
  by_cases hmedia : loadMedia s.loadSamples ≠ 0
  · rw [if_pos hmedia]
    exact ⟨_, _, rfl⟩
  · rw [if_neg hmedia]
    exact ⟨-1, s.loadSamples, rfl⟩

/-- The end of a period: without a load a history is read out of range; otherwise the load is added,
and the method for the state follows. -/
lemma endPeriod_cases (c : CapacityConfig B) (s : CapacityHandler B) (bats : List B)
    (r : Readings B) :
    (c.loadValidationEnabled = false ∧ s.endPeriod c bats r = s.indexError) ∨
    ∃ (load : ℤ) (samples loads : List ℤ) (s' : CapacityHandler B),
      s' = { s with loadSamples := samples, periodLoad := loads } ∧
      (c.loadValidationEnabled = true → loads = s.periodLoad ++ [load]) ∧
      load ∈ (s.measure c).2.periodLoad.getLast? ∧
      s.endPeriod c bats r = match s.fsmStatus with
        | .validate => s'.validate c r (s.measure c).1 load
        | .search => s'.search c bats r (s.measure c).1 load
        | .searchDown => s'.searchDown c bats r (s.measure c).1 load
        | .initial | .finished => s'.giveUp .wrongState := by
  unfold endPeriod measure
  by_cases hvalidation : c.loadValidationEnabled = true
  · obtain ⟨load, samples, hloaded⟩ := loadStable_spec c s
    right
    refine ⟨load, samples, _, _, rfl, fun _ => rfl, ?_, ?_⟩
    · rw [if_pos hvalidation, hloaded]
      exact List.getLast?_concat
    · rw [if_pos hvalidation]
      dsimp only
      rewrite [hloaded, List.getLast?_concat]
      rfl
  · rw [if_neg hvalidation]
    rcases hload : s.periodLoad.getLast? with _ | load
    · left
      refine ⟨by simpa using hvalidation, ?_⟩
      dsimp only
      rw [hload]
    · right
      refine ⟨load, s.loadSamples, s.periodLoad, s, rfl, fun h => absurd h hvalidation, rfl, ?_⟩
      dsimp only
      rewrite [hload]
      rfl

omit [DecidableEq B] in
/-- A method that has returned has the same state in the end. -/
lemma final_caught (x : Method B (CapacityHandler B)) : final (caught x) = final x := by
  rcases x with ⟨_ | _ | _, s⟩ | s <;> rfl

/-! ## A handler with one BAT instance -/

/-- One BAT instance that starts with 10 and goes up by 1. -/
def oneBat (deltaDown : PyNumber) (maxLoad : ℚ) : CapacityConfig ℕ where
  instances := [0]
  instances_nodup := List.nodup_singleton 0
  bats := [0]
  initial _ := 10
  deltaUp _ := 1
  deltaDown _ := deltaDown
  slots _ _ := none
  period := 5
  maxLoad := maxLoad
  maxErrorRate := 1
  maxLoadVariance := 0
  dc := false
  trafficSlots := []
  trafficRef := [⟨"reference", [⟨some (binary64.nearest 1), -1⟩], 1⟩]
  updateLoadMonitor := false
  validationTime := 5

/-- What is read at a time. -/
def readingsAt (now errorRate : ℚ) : Readings ℕ where
  now := now
  later := now
  errorRate := errorRate
  tpsErrorRate := errorRate
  load := 50
  unlocks := false
  accepts _ := true
  clock _ := now

/-- A call of `refresh` for the BAT instance. -/
def refreshAt (now errorRate : ℚ) : Event ℕ :=
  .refresh ⟨[0], List.nodup_singleton 0⟩ (readingsAt now errorRate)

end CapacityHandler

end HssRtc
