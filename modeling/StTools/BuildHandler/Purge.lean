import StTools.BuildHandler.Queues

/-!
# Purging a release or a project

The gateway purges the release or the project of a build, and the controller deletes a baseline
with all builds of its release.  All three select the builds by a prefix of their name.

`PurgeFrame` says what a purge leaves alone: it deletes only entries whose name starts with the
purged text, of builds that are neither under test nor a baseline nor excluded; a baseline loses
its test results only; and the queue entries of all builds that are not cleaned stay.
-/

namespace BuildHandler

/-! ## The three requests -/

/-- The gateway's request to purge the release of a build. -/
def releaseInfoPurge (h : Handler) (build : Text) : Except PyError Text × Handler :=
  cleanBuild h (getRelease build) []

/-- The gateway's request to purge the project of a build, except the build itself. -/
def projectInfoPurge (h : Handler) (build : Text) : Except PyError Text × Handler :=
  cleanBuild h (getProject build) build

/-- The release that a baseline stands for. -/
def baselineRelease (baseline : Text) : Text := "HSS-".toList ++ baseline

/-- The controller's request to delete a baseline, with its release if `clean`.  `active` is the
baseline set in the configuration.  An exception is caught and answered. -/
def delBaseline (h : Handler) (active : Option Text) (baseline : Text) (clean force : Bool) :
    Except PyError Text × Option Text × Handler :=
  if active = some baseline ∧ force = false then
    (.ok ("NOT EXECUTED: ".toList ++ baseline ++ " is the active baseline".toList), active, h)
  else
    let answer : Text :=
      if active = some baseline then
        "EXECUTED. WARNING: From now on there is not an active baseline".toList
      else "EXECUTED".toList
    let active := if active = some baseline then none else active
    let h := baselineDel h baseline
    if clean then
      let cleaned := cleanBuild h (baselineRelease baseline) []
      (cleaned.1.map fun _ => answer, active, cleaned.2)
    else (.ok answer, active, h)

/-! ## What a purge leaves alone -/

/-- The build is set as a baseline. -/
def Db.IsBaseline (db : Db) (build : Text) : Prop :=
  ∃ baselines, db.baselines = some baselines ∧ build ∈ baselines.values

/-- An entry without its test results. -/
def BuildInfo.clearResults (entry : BuildInfo) : BuildInfo := { entry with testResult := [] }

/-- What cleaning the builds that start with `wildcard` leaves alone. -/
structure PurgeFrame (wildcard exclude : Text) (db db' : Db) : Prop where
  /-- An entry stays, unless its build is cleaned: then a baseline loses its results, and another
  build its entry. -/
  entry : ∀ build, db'.buildInfo.get? build = db.buildInfo.get? build ∨
    cleans db wildcard exclude build ∧
      (db.IsBaseline build ∧
          db'.buildInfo.get? build = (db.buildInfo.get? build).map BuildInfo.clearResults ∨
        ¬ db.IsBaseline build ∧ db'.buildInfo.get? build = none)
  /-- The builds that wait and are not cleaned keep waiting, in their order. -/
  pending : ∀ project, (db'.pending project).filter (fun b => !cleans db wildcard exclude b) =
    (db.pending project).filter fun b => !cleans db wildcard exclude b
  /-- A build of high priority that is not cleaned keeps it, and no other build gets it. -/
  highPriority : ∀ project, db'.highPriority project = db.highPriority project ∨
    db'.highPriority project = none ∧
      ∃ build, db.highPriority project = some build ∧ cleans db wildcard exclude build
  baselines : db'.baselines = db.baselines

/-- Only entries of builds that start with `wildcard` are deleted, and none of a build that is
excluded, under test or a baseline. -/
def DeletesOnly (wildcard exclude : Text) (db db' : Db) : Prop :=
  ∀ build entry, db.buildInfo.get? build = some entry → db'.buildInfo.get? build = none →
    wildcard.isPrefixOf build ∧ build ≠ exclude ∧ entry.status ≠ .testOngoing ∧
      ¬ db.IsBaseline build

namespace PurgeFrame

variable {wildcard exclude : Text} {db db' db'' : Db} {build : Text}

/-- Nothing done leaves everything alone. -/
lemma refl (db : Db) : PurgeFrame wildcard exclude db db :=
  ⟨fun _ => .inl rfl, fun _ => rfl, fun _ => .inl rfl, rfl⟩

/-- The baselines stay the same. -/
lemma isBaseline_iff (h : PurgeFrame wildcard exclude db db') :
    db'.IsBaseline build ↔ db.IsBaseline build := by
  unfold Db.IsBaseline
  rw [h.baselines]

/-- What is still to be cleaned was to be cleaned before. -/
lemma cleans_of_cleans (h : PurgeFrame wildcard exclude db db')
    (hclean : cleans db' wildcard exclude build) : cleans db wildcard exclude build := by
  rcases h.entry build with hsame | ⟨hclean', -⟩
  · rwa [cleans, hsame] at hclean
  · exact hclean'

/-- Purges that leave alone what they should do so together. -/
lemma trans (h : PurgeFrame wildcard exclude db db') (h' : PurgeFrame wildcard exclude db' db'') :
    PurgeFrame wildcard exclude db db'' := by
  constructor
  · intro b
    rcases h'.entry b with hsame' | ⟨hclean', hchange'⟩
    · rw [hsame']
      exact h.entry b
    · have hclean := h.cleans_of_cleans hclean'
      refine .inr ⟨hclean, ?_⟩
      rw [h.isBaseline_iff] at hchange'
      rcases hchange' with ⟨hbase, hclear'⟩ | ⟨hbase, hnone'⟩
      · refine .inl ⟨hbase, ?_⟩
        rcases h.entry b with hsame | ⟨-, ⟨-, hclear⟩ | ⟨hnot, -⟩⟩
        · rw [hclear', hsame]
        · rw [hclear', hclear, Option.map_map]
          rfl
        · exact absurd hbase hnot
      · exact .inr ⟨hbase, hnone'⟩
  · intro project
    -- What is not cleaned by the first purge is not cleaned by the second.
    have hfilter : ∀ l : List Text, l.filter (fun b => !cleans db wildcard exclude b) =
        (l.filter fun b => !cleans db' wildcard exclude b).filter
          fun b => !cleans db wildcard exclude b := by
      intro l
      rw [List.filter_filter]
      apply List.filter_congr
      intro b _
      have himp : cleans db' wildcard exclude b → cleans db wildcard exclude b :=
        h.cleans_of_cleans
      cases hc' : cleans db' wildcard exclude b <;> cases hc : cleans db wildcard exclude b <;>
        simp_all
    rw [hfilter, h'.pending, ← hfilter, h.pending]
  · intro project
    rcases h'.highPriority project with hsame' | ⟨hnone', b, hb, hclean'⟩
    · rw [hsame']
      exact h.highPriority project
    · rcases h.highPriority project with hsame | ⟨hnone, -⟩
      · exact .inr ⟨hnone', b, hsame ▸ hb, h.cleans_of_cleans hclean'⟩
      · rw [hnone] at hb
        cases hb
  · rw [h'.baselines, h.baselines]

/-- What a purge leaves alone bounds what it deletes. -/
lemma deletesOnly (h : PurgeFrame wildcard exclude db db') :
    DeletesOnly wildcard exclude db db' := by
  intro b entry hentry hnone
  rcases h.entry b with hsame | ⟨hclean, ⟨-, hclear⟩ | ⟨hbase, -⟩⟩
  · rw [hnone, hentry] at hsame
    cases hsame
  · rw [hnone, hentry] at hclear
    cases hclear
  · simp only [cleans, hentry, Option.any_some, Bool.and_eq_true, bne_iff_ne] at hclean
    exact ⟨hclean.1.1, hclean.1.2, hclean.2, hbase⟩

end PurgeFrame

/-! ## The loop -/

variable {wildcard exclude : Text} {h : Handler} {db : Db} {build : Text}

/-- Deleting empty queues leaves everything alone. -/
lemma purgeFrame_cleanPriority (db : Db) : PurgeFrame wildcard exclude db db.cleanPriority :=
  ⟨fun _ => .inl rfl, fun _ => by rw [Db.pending_cleanPriority],
    fun _ => .inl Db.highPriority_cleanPriority, rfl⟩

/-- Taking a build that is cleaned off its queue leaves the other builds alone. -/
lemma purgeFrame_priorityDel (hclean : cleans h.db wildcard exclude build) :
    PurgeFrame wildcard exclude h.db (priorityDel h build false).db := by
  constructor
  · intro b
    rw [buildInfo_priorityDel_false]
    exact .inl rfl
  · intro project
    rw [pending_priorityDel]
    split_ifs
    · rw [← List.erase_filter, List.erase_of_not_mem]
      simp [hclean]
    · rfl
  · intro project
    rw [highPriority_priorityDel]
    split_ifs with hfront
    · exact .inr ⟨rfl, build, hfront.2.2, hclean⟩
    · exact .inl rfl
  · exact baselines_priorityDel

/-- Emptying the results of a baseline that is cleaned leaves the other entries alone. -/
lemma purgeFrame_clearResults (hclean : cleans db wildcard exclude build)
    (hbase : db.IsBaseline build) :
    PurgeFrame wildcard exclude db (db.modifyBuild build BuildInfo.clearResults) := by
  refine ⟨fun b => ?_, fun _ => rfl, fun _ => .inl rfl, rfl⟩
  rcases eq_or_ne b build with rfl | hne
  · exact .inr ⟨hclean, .inl ⟨hbase, Dict.get?_modify_self⟩⟩
  · exact .inl (Dict.get?_modify_of_ne hne)

/-- Deleting the entry of a build that is cleaned leaves the other entries alone. -/
lemma purgeFrame_delete (hclean : cleans db wildcard exclude build)
    (hbase : ¬ db.IsBaseline build) :
    PurgeFrame wildcard exclude db { db with buildInfo := db.buildInfo.delete build } := by
  refine ⟨fun b => ?_, fun _ => rfl, fun _ => .inl rfl, rfl⟩
  rcases eq_or_ne b build with rfl | hne
  · exact .inr ⟨hclean, .inr ⟨hbase, by rw [Dict.get?_delete, if_pos rfl]⟩⟩
  · exact .inl (by rw [Dict.get?_delete, if_neg hne])

/-- The loop of `clean_build` leaves alone what it should. -/
lemma purgeFrame_cleanLoop (keys : List Text) (counter : ℕ) (h : Handler) :
    PurgeFrame wildcard exclude h.db (cleanLoop wildcard exclude keys counter h).2.db := by
  induction keys generalizing counter h with
  | nil => exact PurgeFrame.refl h.db
  | cons key keys ih =>
    unfold cleanLoop
    split_ifs with hclean
    · have hdel := purgeFrame_priorityDel hclean
      have hclean' : cleans (priorityDel h key false).db wildcard exclude key := by
        rwa [cleans, buildInfo_priorityDel_false]
      cases hb : (priorityDel h key false).db.baselines with
      | none =>
        simp only [hb]
        exact hdel
      | some baselines =>
        simp only [hb]
        apply PurgeFrame.trans _ (ih _ _)
        apply hdel.trans
        dsimp only
        split_ifs with hvalue
        · exact purgeFrame_clearResults hclean' ⟨baselines, hb, hvalue⟩
        · rw [← hb]
          apply purgeFrame_delete hclean'
          rintro ⟨baselines', hb', hvalue'⟩
          rw [hb, Option.some.injEq] at hb'
          subst hb'
          exact hvalue hvalue'
    · exact ih counter h

/-- Cleaning leaves alone what it should, also when it raises. -/
lemma purgeFrame_cleanBuild (h : Handler) (wildcard exclude : Text) :
    PurgeFrame wildcard exclude h.db (cleanBuild h wildcard exclude).2.db := by
  have hloop : PurgeFrame wildcard exclude h.db
      (cleanLoop wildcard exclude h.db.buildInfo.keys 0 h).2.db :=
    purgeFrame_cleanLoop _ 0 h
  rcases hc : cleanLoop wildcard exclude h.db.buildInfo.keys 0 h with ⟨_ | counter, h'⟩ <;>
    rw [hc] at hloop <;> simp only [cleanBuild, hc]
  · exact hloop
  · exact hloop.trans (purgeFrame_cleanPriority h'.db)

/-- **What purges leave alone.**  Purging the release or the project of a build, or deleting a
baseline with its release, deletes only entries whose name starts with the purged text, of builds
that are neither under test nor a baseline (and, for a project, not the build itself).  Every
other entry stays as it is, but for the test results of a baseline that matches, and the queue
entries of all builds that are not cleaned stay.  A baseline that is active is deleted only by
force. -/
theorem purge_frame (h : Handler) (build baseline : Text) (active : Option Text) (force : Bool) :
    (DeletesOnly (getRelease build) [] h.db (releaseInfoPurge h build).2.db ∧
      PurgeFrame (getRelease build) [] h.db (releaseInfoPurge h build).2.db) ∧
    (DeletesOnly (getProject build) build h.db (projectInfoPurge h build).2.db ∧
      PurgeFrame (getProject build) build h.db (projectInfoPurge h build).2.db) ∧
    (active = some baseline ∧ force = false ∧ (delBaseline h active baseline true force).2.2 = h ∨
      DeletesOnly (baselineRelease baseline) [] (baselineDel h baseline).db
          (delBaseline h active baseline true force).2.2.db ∧
        PurgeFrame (baselineRelease baseline) [] (baselineDel h baseline).db
          (delBaseline h active baseline true force).2.2.db) := by
  refine ⟨?_, ?_, ?_⟩
  · have hframe := purgeFrame_cleanBuild h (getRelease build) []
    exact ⟨hframe.deletesOnly, hframe⟩
  · have hframe := purgeFrame_cleanBuild h (getProject build) build
    exact ⟨hframe.deletesOnly, hframe⟩
  · by_cases hactive : active = some baseline ∧ force = false
    · exact .inl ⟨hactive.1, hactive.2, by rw [delBaseline, if_pos hactive]⟩
    · have hframe := purgeFrame_cleanBuild (baselineDel h baseline) (baselineRelease baseline) []
      rw [delBaseline, if_neg hactive]
      exact .inr ⟨hframe.deletesOnly, hframe⟩

/-- Three builds of two releases; the first is a baseline, has a test result and waits. -/
def threeBuilds : Handler :=
  let baseline := "HSS-1.2.3.1".toList
  let ops : List Op := [.buildInfoAdd baseline (.obj []), .buildInfoAdd "HSS-1.2.3.4".toList (.obj []),
    .buildInfoAdd "HSS-1.20.1.1".toList (.obj []), .baselineAdd baseline,
    .addBuildTestResult baseline (.obj []), .priorityAdd baseline]
  ops.foldl Op.run Handler.init

/-- Purging the release `HSS-1.2` of a build deletes that build and one of release `HSS-1.20`;
purging its project takes the results and the queue entry of the baseline. -/
theorem threeBuilds_purged :
    (threeBuilds.db.Known "HSS-1.20.1.1".toList ∧
      getRelease "HSS-1.20.1.1".toList ≠ getRelease "HSS-1.2.3.4".toList ∧
      ¬ (releaseInfoPurge threeBuilds "HSS-1.2.3.4".toList).2.db.Known "HSS-1.20.1.1".toList) ∧
    (threeBuilds.db.Known "HSS-1.2.3.4".toList ∧
      ¬ (releaseInfoPurge threeBuilds "HSS-1.2.3.4".toList).2.db.Known "HSS-1.2.3.4".toList) ∧
    ((getBuildTestResult threeBuilds.db "HSS-1.2.3.1".toList).length = 1 ∧
      getBuildTestResult (projectInfoPurge threeBuilds "HSS-1.2.3.4".toList).2.db
        "HSS-1.2.3.1".toList = []) ∧
    (threeBuilds.db.pending "HSS-1.2.3".toList = ["HSS-1.2.3.1".toList] ∧
      (projectInfoPurge threeBuilds "HSS-1.2.3.4".toList).2.db.pending "HSS-1.2.3".toList =
        []) := by
  refine ⟨by decide, by decide, ⟨by decide, rfl⟩, by decide⟩

end BuildHandler
