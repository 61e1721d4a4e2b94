import StTools.BuildHandler.FileSync
import StTools.BuildHandler.Purge
import Mathlib.Logic.Function.Basic

/-!
# Baselines and their builds

A baseline stands for a build, and the test of another build uses the test info of that build.  So
the build of a baseline should stay known, with the test info it was given, whatever is cleaned
and purged.

`Given` records what the builds were given: in memory, and in what was written last.  From the
empty database the build of every baseline is known with what it was given, after every sequence of
requests (`baselinesBuilt_throughout`).
-/

namespace BuildHandler

/-! ## What the builds are given -/

/-- The test info that an update makes of another one: its packages and its repositories are taken
over, or nothing is. -/
def updatedTestInfo (info testInfo : Json) : Json :=
  if testInfo.truthy then
    match copyField "packages".toList info testInfo with
    | .error _ => testInfo
    | .ok withPackages =>
      match copyField "GIT_repos".toList info withPackages with
      | .error _ => testInfo
      | .ok updated => updated
  else testInfo

/-- The test info that each build was given last: in memory, and when the file was written. -/
structure Given where
  memory : Text → Option Json
  file : Text → Option Json

/-- No build has been given a test info. -/
def Given.none : Given := ⟨fun _ => .none, fun _ => .none⟩

/-- What the builds have been given after a request, but for reading the file again: a new build
its test info, and a known one the updated or the replaced one. -/
def Op.give (h : Handler) (given : Text → Option Json) : Op → Text → Option Json
  | .buildInfoAdd build info =>
    if h.db.Known build then given else Function.update given build (some info)
  | .buildInfoUpdate build info =>
    if h.db.Known build then
      Function.update given build ((given build).map (updatedTestInfo info))
    else given
  | .updateBuildTestInfo build testInfo _ =>
    if h.db.Known build then Function.update given build (some testInfo) else given
  | _ => given

/-- The request reads the file again. -/
def Op.isRefresh : Op → Bool
  | .refreshDBMFromFile => true
  | _ => false

/-- The record after a request. -/
def Given.after (h : Handler) (g : Given) (op : Op) : Given :=
  let memory := if op.isRefresh then g.file else op.give h g.memory
  ⟨memory, if (op.run h).unsaved then g.file else memory⟩

/-- The handler with the record of what the builds were given. -/
def giveStep (s : Handler × Given) (op : Op) : Option (Handler × Given) :=
  some (op.run s.1, s.2.after s.1 op)

/-- The build that a baseline stands for. -/
def Db.baselineBuild (db : Db) (baseline : Text) : Option Text :=
  db.baselines.bind (·.get? baseline)

/-- Baselines have their builds. -/
structure BaselinesBuilt (s : Handler × Given) : Prop where
  /-- The build of a baseline is known with the test info it was given. -/
  built : ∀ baseline build, s.1.db.baselineBuild baseline = some build →
    ∃ entry, s.1.db.buildInfo.get? build = some entry ∧ s.2.memory build = some entry.testInfo
  /-- This build and this test info are fetched. -/
  fetched : ∀ baseline build, s.1.db.baselineBuild baseline = some build →
    ∃ testInfo, fetchBaselineTestInfo s.1.db baseline = .ok (build, testInfo) ∧
      s.2.memory build = some testInfo
  /-- Only a name that is not registered is not fetched. -/
  fails_iff : ∀ baseline, (∃ e, fetchBaselineTestInfo s.1.db baseline = .error e) ↔
    s.1.db.baselineBuild baseline = none

/-! ## One table -/

/-- A database in which the builds of the baselines are known and all builds have the test infos
they were given. -/
structure Intact (db : Db) (given : Text → Option Json) : Prop where
  /-- There is a table of baselines. -/
  baselines : db.baselines.isSome
  known : ∀ build, db.IsBaseline build → db.Known build
  testInfo : ∀ build entry, db.buildInfo.get? build = some entry →
    given build = some entry.testInfo

/-- A change that keeps the baselines, their builds, and all test infos. -/
structure Keeps (db db' : Db) : Prop where
  baselines : db'.baselines = db.baselines
  known : ∀ build, db.IsBaseline build → db.Known build → db'.Known build
  testInfo : ∀ build entry', db'.buildInfo.get? build = some entry' →
    ∃ entry, db.buildInfo.get? build = some entry ∧ entry'.testInfo = entry.testInfo

variable {db db' db'' : Db} {given : Text → Option Json} {build : Text}

/-- A change that keeps what matters keeps a database intact. -/
lemma Intact.keeps (hI : Intact db given) (hk : Keeps db db') : Intact db' given := by
  have hbase : ∀ b, db'.IsBaseline b → db.IsBaseline b := by
    intro b hb
    rwa [Db.IsBaseline, hk.baselines] at hb
  refine ⟨hk.baselines ▸ hI.baselines, fun b hb => ?_, fun b entry' hentry' => ?_⟩
  · exact hk.known b (hbase b hb) (hI.known b (hbase b hb))
  · obtain ⟨entry, hentry, heq⟩ := hk.testInfo b entry' hentry'
    rw [heq]
    exact hI.testInfo b entry hentry

namespace Keeps

/-- A change of the queues alone. -/
lemma of_eq (hinfo : db'.buildInfo = db.buildInfo) (hbase : db'.baselines = db.baselines) :
    Keeps db db' := by
  refine ⟨hbase, fun b _ hknown => ?_, fun b entry hentry => ?_⟩
  · rwa [Db.Known, hinfo]
  · exact ⟨entry, hinfo ▸ hentry, rfl⟩

/-- One change after another. -/
lemma trans (hk : Keeps db db') (hk' : Keeps db' db'') : Keeps db db'' := by
  refine ⟨hk'.baselines.trans hk.baselines, fun b hb hknown => ?_, fun b entry'' hentry'' => ?_⟩
  · exact hk'.known b (by rwa [Db.IsBaseline, hk.baselines]) (hk.known b hb hknown)
  · obtain ⟨entry', hentry', heq'⟩ := hk'.testInfo b entry'' hentry''
    obtain ⟨entry, hentry, heq⟩ := hk.testInfo b entry' hentry'
    exact ⟨entry, hentry, heq'.trans heq⟩

/-- A change of an entry that keeps its test info. -/
lemma modifyBuild {f : BuildInfo → BuildInfo} (hf : ∀ entry, (f entry).testInfo = entry.testInfo) :
    Keeps db (db.modifyBuild build f) := by
  refine ⟨rfl, fun b _ hknown => Db.known_modifyBuild.mpr hknown, fun b entry' hentry' => ?_⟩
  unfold Db.modifyBuild at hentry'
  rw [Dict.get?_modify] at hentry'
  split_ifs at hentry' with hb
  · obtain ⟨entry, hentry, rfl⟩ := Option.map_eq_some_iff.mp hentry'
    exact ⟨entry, hentry, hf entry⟩
  · exact ⟨entry', hentry', rfl⟩

/-- What is cleaned leaves the builds of baselines with their test infos. -/
lemma of_purgeFrame {wildcard exclude : Text} (hframe : PurgeFrame wildcard exclude db db') :
    Keeps db db' := by
  refine ⟨hframe.baselines, fun b hb hknown => ?_, fun b entry' hentry' => ?_⟩
  · unfold Db.Known at hknown ⊢
    rcases hframe.entry b with hsame | ⟨-, ⟨-, hclear⟩ | ⟨hnot, -⟩⟩
    · rwa [hsame]
    · rwa [hclear, Option.isSome_map]
    · exact absurd hb hnot
  · rcases hframe.entry b with hsame | ⟨-, ⟨-, hclear⟩ | ⟨-, hnone⟩⟩
    · exact ⟨entry', hsame ▸ hentry', rfl⟩
    · rw [hclear] at hentry'
      obtain ⟨entry, hentry, rfl⟩ := Option.map_eq_some_iff.mp hentry'
      exact ⟨entry, hentry, rfl⟩
    · rw [hnone] at hentry'
      cases hentry'

/-- The loop of `purge_build` takes test results only. -/
lemma purgeLoop {wildcard : Text} (keys : List Text) (counter : ℕ) (db : Db) :
    Keeps db (purgeLoop wildcard keys counter db).2 := by
  induction keys generalizing counter db with
  | nil => exact of_eq rfl rfl
  | cons key keys ih =>
    unfold BuildHandler.purgeLoop
    split_ifs
    · have hlast : Keeps db (db.modifyBuild key BuildInfo.keepLast) := modifyBuild fun _ => rfl
      exact hlast.trans (ih _ _)
    · exact ih _ _

end Keeps

/-- A new build comes with what it was given. -/
lemma Intact.set (hI : Intact db given) (build : Text) (info : Json) :
    Intact { db with buildInfo := db.buildInfo.set build ⟨info, [], .notTested⟩ }
      (Function.update given build (some info)) := by
  refine ⟨hI.baselines, fun b hb => ?_, fun b entry hentry => ?_⟩
  · have hknown : (db.buildInfo.get? b).isSome := hI.known b hb
    unfold Db.Known
    rw [Dict.get?_set]
    split_ifs
    · rfl
    · exact hknown
  · rw [Dict.get?_set] at hentry
    split_ifs at hentry with hb
    · subst hb
      cases hentry
      exact Function.update_self b _ given
    · rw [Function.update_of_ne hb]
      exact hI.testInfo b entry hentry

/-- A build gets the test info it is given. -/
lemma Intact.withTestInfo (hI : Intact db given) (build : Text) (testInfo : Json) :
    Intact (db.modifyBuild build (·.withTestInfo testInfo))
      (Function.update given build (some testInfo)) := by
  refine ⟨hI.baselines, fun b hb => Db.known_modifyBuild.mpr (hI.known b hb), ?_⟩
  intro b entry' hentry'
  unfold Db.modifyBuild at hentry'
  rw [Dict.get?_modify] at hentry'
  split_ifs at hentry' with hb
  · subst hb
    obtain ⟨entry, -, rfl⟩ := Option.map_eq_some_iff.mp hentry'
    exact Function.update_self b _ given
  · rw [Function.update_of_ne hb]
    exact hI.testInfo b entry' hentry'

/-- A known build becomes a baseline. -/
lemma Intact.baselineSet (hI : Intact db given) (hknown : db.Known build) (baseline : Text) :
    Intact { db with baselines := some ((db.baselines.getD ∅).set baseline build) } given := by
  refine ⟨rfl, ?_, hI.testInfo⟩
  rintro b ⟨_, hset, hb⟩
  rw [← Option.some.inj hset] at hb
  obtain ⟨name, hname⟩ := Dict.mem_values.mp hb
  rw [Dict.get?_set] at hname
  split_ifs at hname
  · cases hname
    exact hknown
  · obtain ⟨baselines, hbase⟩ := Option.isSome_iff_exists.mp hI.baselines
    rw [hbase, Option.getD_some] at hname
    exact hI.known b ⟨baselines, hbase, Dict.mem_values.mpr ⟨name, hname⟩⟩

/-- A baseline is forgotten. -/
lemma Intact.baselineDelete (hI : Intact db given) (baseline : Text) :
    Intact { db with baselines := db.baselines.map (·.delete baseline) } given := by
  refine ⟨by rw [Option.isSome_map]; exact hI.baselines, ?_, hI.testInfo⟩
  rintro b ⟨_, hmap, hb⟩
  obtain ⟨baselines, hbase, rfl⟩ := Option.map_eq_some_iff.mp hmap
  obtain ⟨name, hname⟩ := Dict.mem_values.mp hb
  rw [Dict.get?_delete] at hname
  split_ifs at hname
  exact hI.known b ⟨baselines, hbase, Dict.mem_values.mpr ⟨name, hname⟩⟩

/-- In an intact database the baselines have their builds. -/
lemma Intact.baselinesBuilt {h : Handler} {g : Given} (hI : Intact h.db g.memory) :
    BaselinesBuilt (h, g) := by
  have hbuilt : ∀ baseline build, h.db.baselineBuild baseline = some build →
      ∃ entry, h.db.buildInfo.get? build = some entry ∧
        g.memory build = some entry.testInfo := by
    intro baseline b hb
    obtain ⟨baselines, hbase, hget⟩ := Option.bind_eq_some_iff.mp hb
    have hknown := hI.known b ⟨baselines, hbase, Dict.mem_values.mpr ⟨baseline, hget⟩⟩
    obtain ⟨entry, hentry⟩ := Option.isSome_iff_exists.mp hknown
    exact ⟨entry, hentry, hI.testInfo b entry hentry⟩
  have hfetched : ∀ baseline build, h.db.baselineBuild baseline = some build →
      ∃ testInfo, fetchBaselineTestInfo h.db baseline = .ok (build, testInfo) ∧
        g.memory build = some testInfo := by
    intro baseline b hb
    obtain ⟨entry, hentry, hgiven⟩ := hbuilt baseline b hb
    unfold Db.baselineBuild at hb
    exact ⟨entry.testInfo, by simp only [fetchBaselineTestInfo, hb, hentry], hgiven⟩
  refine ⟨hbuilt, hfetched, fun baseline => ?_⟩
  constructor
  · rintro ⟨e, he⟩
    cases hb : h.db.baselineBuild baseline with
    | none => rfl
    | some b =>
      obtain ⟨testInfo, hok, -⟩ := hfetched baseline b hb
      rw [hok] at he
      cases he
  · intro hnone
    unfold Db.baselineBuild at hnone
    exact ⟨_, by simp only [fetchBaselineTestInfo, hnone]; rfl⟩

/-! ## The handler -/

/-- Both databases are intact, with what the builds were given; unless a test info has been left
unwritten, this is the same for both. -/
structure GivenInv (s : Handler × Given) : Prop where
  memory : Intact s.1.db s.2.memory
  file : Intact s.1.file s.2.file
  saved : s.1.unsaved = false → s.2.file = s.2.memory

variable {h h' : Handler} {g : Given}

namespace GivenInv

variable {op : Op} {memory : Text → Option Json}

/-- A request that writes nothing and gives nothing. -/
lemma of_kept (hI : GivenInv (h, g)) (hrun : op.run h = h') (hrefresh : op.isRefresh = false)
    (hgive : op.give h g.memory = g.memory) (hk : Keeps h.db h'.db) (hfile : h'.file = h.file)
    (hunsaved : h'.unsaved = h.unsaved) : GivenInv (op.run h, g.after h op) := by
  have hafter : g.after h op = ⟨g.memory, if h'.unsaved then g.file else g.memory⟩ := by
    simp only [Given.after, hrefresh, Bool.false_eq_true, if_false, hgive, hrun]
  have hgiven : (if h'.unsaved then g.file else g.memory) = g.file := by
    split_ifs with hu
    · rfl
    · rw [hunsaved, Bool.not_eq_true] at hu
      exact (hI.saved hu).symm
  rw [hafter, hgiven, hrun]
  refine ⟨hI.memory.keeps hk, ?_, fun hsaved => hI.saved (hunsaved ▸ hsaved)⟩
  exact hfile ▸ hI.file

/-- A request that writes what it leaves in memory. -/
lemma of_written (hrun : op.run h = updateDb h') (hrefresh : op.isRefresh = false)
    (hgive : op.give h g.memory = memory) (hdb : Intact h'.db memory) :
    GivenInv (op.run h, g.after h op) := by
  have hafter : g.after h op = ⟨memory, memory⟩ := by
    simp only [Given.after, hrefresh, Bool.false_eq_true, if_false, hgive, hrun]
    rfl
  rw [hafter, hrun]
  exact ⟨hdb, hdb, fun _ => rfl⟩

/-- A request that keeps what matters, deletes the empty queues and writes the file. -/
lemma of_cleaned (hI : GivenInv (h, g)) (hrun : op.run h = cleanAndUpdate h')
    (hrefresh : op.isRefresh = false) (hgive : op.give h g.memory = g.memory)
    (hk : Keeps h.db h'.db) : GivenInv (op.run h, g.after h op) :=
  of_written hrun hrefresh hgive (hI.memory.keeps (hk.trans (.of_eq rfl rfl)))

end GivenInv

/-- What an update of a test info does: nothing for a build that is not known; nothing that
matters when it is refused or raises; otherwise it writes the updated test info. -/
lemma buildInfoUpdate_spec (h : Handler) (build : Text) (info : Json) :
    h.db.buildInfo.get? build = none ∧ (buildInfoUpdate h build info).2 = h ∨
    ∃ entry, h.db.buildInfo.get? build = some entry ∧
      (updatedTestInfo info entry.testInfo = entry.testInfo ∧
          Keeps h.db (buildInfoUpdate h build info).2.db ∧
          (buildInfoUpdate h build info).2.file = h.file ∧
          (buildInfoUpdate h build info).2.unsaved = h.unsaved ∨
        ∃ withPackages, (buildInfoUpdate h build info).2 = updateDb { h with
          db := (h.db.modifyBuild build (·.withTestInfo withPackages)).modifyBuild build
            (·.withTestInfo (updatedTestInfo info entry.testInfo)) }) := by
  unfold buildInfoUpdate
  cases hentry : h.db.buildInfo.get? build with
  | none => exact .inl ⟨rfl, rfl⟩
  | some entry =>
    refine .inr ⟨entry, rfl, ?_⟩
    dsimp only
    split_ifs with htruthy
    · cases hfirst : copyField "packages".toList info entry.testInfo with
      | error e =>
        exact .inl ⟨by simp only [updatedTestInfo, htruthy, hfirst, if_true],
          .of_eq rfl rfl, rfl, rfl⟩
      | ok withPackages =>
        dsimp only
        cases hnext : copyField "GIT_repos".toList info withPackages with
        | error e =>
          -- The packages have not been taken over either.
          refine .inl ⟨by simp only [updatedTestInfo, htruthy, hfirst, hnext, if_true], ?_,
            rfl, rfl⟩
          refine ⟨rfl, fun b _ hknown => Db.known_modifyBuild.mpr hknown, fun b entry' hb => ?_⟩
          have hsame : h.db.Same (h.db.modifyBuild build (·.withTestInfo withPackages)) := by
            refine Db.Same.modifyBuild fun entry'' hentry'' => ?_
            rw [hentry, Option.some.injEq] at hentry''
            rw [← hentry'', eq_of_copyField_error hfirst hnext]
            rfl
          exact ⟨entry', (hsame.buildInfo b).trans hb, rfl⟩
        | ok updated =>
          refine .inr ⟨withPackages, ?_⟩
          simp only [updatedTestInfo, htruthy, hfirst, hnext, if_true]
    · exact .inl ⟨if_neg htruthy, .of_eq rfl rfl, rfl, rfl⟩

/-- A known build whose test info is updated is given the updated one. -/
lemma givenInv_buildInfoUpdate (hI : GivenInv (h, g)) (info : Json) :
    GivenInv (Op.run h (.buildInfoUpdate build info), g.after h (.buildInfoUpdate build info)) := by
  rcases buildInfoUpdate_spec h build info with ⟨hnone, heq⟩ | ⟨entry, hentry, hcases⟩
  · have hunknown : ¬ h.db.Known build := by simp [Db.Known, hnone]
    exact hI.of_kept heq rfl (if_neg hunknown) (.of_eq rfl rfl) rfl rfl
  · have hknown : h.db.Known build := by simp [Db.Known, hentry]
    have hgiven : g.memory build = some entry.testInfo := hI.memory.testInfo build entry hentry
    have hgive : Op.give h g.memory (.buildInfoUpdate build info) =
        Function.update g.memory build (some (updatedTestInfo info entry.testInfo)) := by
      rw [Op.give, if_pos hknown, hgiven, Option.map_some]
    rcases hcases with ⟨hsame, hkeeps, hfile, hunsaved⟩ | ⟨withPackages, heq⟩
    · rw [hsame, ← hgiven, Function.update_eq_self] at hgive
      exact hI.of_kept rfl rfl hgive hkeeps hfile hunsaved
    · refine GivenInv.of_written heq rfl hgive ?_
      have hboth := (hI.memory.withTestInfo build withPackages).withTestInfo build
        (updatedTestInfo info entry.testInfo)
      rwa [Function.update_idem] at hboth

/-- Taking a build off its queue gives nothing, written or not. -/
lemma givenInv_priorityDel (hI : GivenInv (h, g)) (updateStatus : Bool) :
    GivenInv (Op.run h (.priorityDel build updateStatus),
      g.after h (.priorityDel build updateStatus)) := by
  cases hq : h.db.priority.get? (getProject build) with
  | none => exact hI.of_kept (priorityDel_of_none hq) rfl rfl (.of_eq rfl rfl) rfl rfl
  | some q =>
    have hdequeue : Keeps h.db
        (h.db.modifyQueue (getProject build) (Priority.dequeue build)) := .of_eq rfl rfl
    have hskip : ∀ entry : BuildInfo, entry.skip.testInfo = entry.testInfo := by
      intro entry
      unfold BuildInfo.skip
      split <;> rfl
    rcases priorityDel_of_some updateStatus hq with ⟨-, hdel⟩ | ⟨-, -, hdel⟩ | ⟨-, -, hdel⟩
    · exact hI.of_cleaned hdel rfl rfl hdequeue
    · exact hI.of_kept hdel rfl rfl hdequeue rfl rfl
    · exact hI.of_cleaned hdel rfl rfl (hdequeue.trans (.modifyBuild hskip))

/-- A delivery gives nothing, written or not. -/
lemma givenInv_getBuild (hI : GivenInv (h, g)) :
    GivenInv (Op.run h .getBuild, g.after h .getBuild) := by
  have hkeeps : Keeps h.db (findNextBuild true h.db).2 := by
    refine .of_eq buildInfo_findNextBuild ?_
    rcases Db.findNextBuild_cases true h.db with
      ⟨e, hf⟩ | ⟨project, b, -, hf⟩ | ⟨project, b, -, hf⟩ | hf <;> rw [hf] <;> rfl
  rcases hf : findNextBuild true h.db with ⟨e | ⟨_ | b, rc⟩, db'⟩ <;> rw [hf] at hkeeps
  · have hrun : Op.run h .getBuild = { h with db := db' } := by simp only [Op.run, getBuild, hf]
    exact hI.of_kept hrun rfl rfl hkeeps rfl rfl
  · have hrun : Op.run h .getBuild = { h with db := db' } := by simp only [Op.run, getBuild, hf]
    exact hI.of_kept hrun rfl rfl hkeeps rfl rfl
  · have hrun : Op.run h .getBuild = updateDb { h with db := db' } := by
      simp only [Op.run, getBuild, hf]
      split <;> rfl
    exact GivenInv.of_written hrun rfl rfl (hI.memory.keeps hkeeps)

/-- Cleaning gives nothing; with a table of baselines it does not raise, and writes the file. -/
lemma givenInv_cleanBuild (hI : GivenInv (h, g)) (wildcard exclude : Text) :
    GivenInv (Op.run h (.cleanBuild wildcard exclude),
      g.after h (.cleanBuild wildcard exclude)) := by
  have hkeeps : Keeps h.db (cleanLoop wildcard exclude h.db.buildInfo.keys 0 h).2.db :=
    .of_purgeFrame (purgeFrame_cleanLoop _ 0 h)
  rcases hc : cleanLoop wildcard exclude h.db.buildInfo.keys 0 h with ⟨e | counter, h'⟩
  · exact absurd (congrArg Prod.fst hc) (cleanLoop_ne_error _ 0 hI.memory.baselines)
  · rw [hc] at hkeeps
    have hrun : Op.run h (.cleanBuild wildcard exclude) = cleanAndUpdate h' := by
      simp only [Op.run, cleanBuild, hc]
    exact hI.of_cleaned hrun rfl rfl hkeeps

/-- A test info is replaced in memory, and written on request. -/
lemma updateBuildTestInfo_snd (h : Handler) (build : Text) (testInfo : Json) (persist : Bool) :
    (updateBuildTestInfo h build testInfo persist).2 =
      let replaced : Handler :=
        if h.db.Known build then
          { h with db := h.db.modifyBuild build (·.withTestInfo testInfo), unsaved := true }
        else h
      if persist then updateDb replaced else replaced := by
  unfold updateBuildTestInfo
  cases hentry : h.db.buildInfo.get? build with
  | none => rw [if_neg (show ¬ h.db.Known build by simp [Db.Known, hentry])]
  | some entry => rw [if_pos (show h.db.Known build by simp [Db.Known, hentry])]

/-- A replaced test info is given, written or not. -/
lemma givenInv_updateBuildTestInfo (hI : GivenInv (h, g)) (testInfo : Json) (persist : Bool) :
    GivenInv (Op.run h (.updateBuildTestInfo build testInfo persist),
      g.after h (.updateBuildTestInfo build testInfo persist)) := by
  have hrun := updateBuildTestInfo_snd h build testInfo persist
  by_cases hknown : h.db.Known build
  · have hdb := hI.memory.withTestInfo build testInfo
    simp only [if_pos hknown] at hrun
    cases persist with
    | true => exact GivenInv.of_written hrun rfl (if_pos hknown) hdb
    | false =>
      have hafter : g.after h (.updateBuildTestInfo build testInfo false) =
          ⟨Function.update g.memory build (some testInfo), g.file⟩ := by
        unfold Given.after
        rw [Op.run, hrun, Op.give, if_pos hknown]
        rfl
      rw [hafter, Op.run, hrun]
      refine ⟨hdb, hI.file, fun hsaved => ?_⟩
      cases hsaved
  · simp only [if_neg hknown] at hrun
    cases persist with
    | true => exact GivenInv.of_written hrun rfl (if_neg hknown) hI.memory
    | false => exact hI.of_kept hrun rfl (if_neg hknown) (.of_eq rfl rfl) rfl rfl

/-- A change of the entry of a build that keeps its test info is written if the build is known. -/
lemma GivenInv.modifyEntry {op : Op} (hI : GivenInv (h, g)) (build : Text)
    {f : BuildInfo → BuildInfo}
    (hf : ∀ entry, (f entry).testInfo = entry.testInfo) (hrefresh : op.isRefresh = false)
    (hgive : op.give h g.memory = g.memory)
    (hnone : h.db.buildInfo.get? build = none → op.run h = h)
    (hsome : ∀ entry, h.db.buildInfo.get? build = some entry →
      op.run h = updateDb { h with db := h.db.modifyBuild build f }) :
    GivenInv (op.run h, g.after h op) := by
  cases hentry : h.db.buildInfo.get? build with
  | none => exact hI.of_kept (hnone hentry) hrefresh hgive (.of_eq rfl rfl) rfl rfl
  | some entry =>
    exact of_written (hsome entry hentry) hrefresh hgive (hI.memory.keeps (.modifyBuild hf))

/-- **Step lemma.**  Every request keeps both databases intact, with what the builds were given. -/
lemma GivenInv.step (op : Op) (hI : GivenInv (h, g)) : GivenInv (op.run h, g.after h op) := by
  cases op with
  | buildInfoAdd b info =>
    by_cases hknown : h.db.Known b
    · exact hI.of_kept (congrArg Prod.snd (if_pos hknown)) rfl (if_pos hknown) (.of_eq rfl rfl)
        rfl rfl
    · exact of_written (congrArg Prod.snd (if_neg hknown)) rfl (if_neg hknown)
        (hI.memory.set b info)
  | buildInfoUpdate b info => exact givenInv_buildInfoUpdate hI info
  | priorityAdd b =>
    have henqueue : Keeps h.db (h.db.enqueue b) := by
      refine .of_eq Db.buildInfo_enqueue ?_
      unfold Db.enqueue
      split
      · split <;> rfl
      · rfl
    by_cases hnone : (h.db.buildInfo.get? b).isNone
    · exact hI.of_kept (congrArg Prod.snd (if_pos hnone)) rfl rfl (.of_eq rfl rfl) rfl rfl
    · exact hI.of_cleaned (congrArg Prod.snd (if_neg hnone)) rfl rfl henqueue
  | priorityDel b updateStatus => exact givenInv_priorityDel hI updateStatus
  | priorityIncrease b =>
    cases hq : h.db.priority.get? (getProject b) with
    | none =>
      have hrun : Op.run h (.priorityIncrease b) = h := by simp only [Op.run, priorityIncrease, hq]
      exact hI.of_kept hrun rfl rfl (.of_eq rfl rfl) rfl rfl
    | some q =>
      have hrun : Op.run h (.priorityIncrease b) = cleanAndUpdate { h with
          db := h.db.modifyQueue (getProject b) (Priority.promote b) } := by
        simp only [Op.run, priorityIncrease, hq]
      exact hI.of_cleaned hrun rfl rfl (.of_eq rfl rfl)
  | baselineAdd b =>
    by_cases hnone : (h.db.buildInfo.get? b).isNone
    · exact hI.of_kept (congrArg Prod.snd (if_pos hnone)) rfl rfl (.of_eq rfl rfl) rfl rfl
    · have hknown : h.db.Known b := by simpa [Db.Known, Option.isSome_iff_ne_none] using hnone
      exact of_written (congrArg Prod.snd (if_neg hnone)) rfl rfl
        (hI.memory.baselineSet hknown _)
  | baselineDel baseline => exact of_written rfl rfl rfl (hI.memory.baselineDelete baseline)
  | addBuildTestResult b result =>
    refine hI.modifyEntry b (f := (·.addResult result)) (fun _ => rfl) rfl rfl ?_ ?_
    · intro hnone
      simp only [Op.run, addBuildTestResult, hnone]
    · intro entry hentry
      simp only [Op.run, addBuildTestResult, hentry]
  | updateBuildStatus b status =>
    cases hs : Status.ofName? Status.all status with
    | none =>
      have hrun : Op.run h (.updateBuildStatus b status) = h := by
        simp only [Op.run, updateBuildStatus, hs]
      exact hI.of_kept hrun rfl rfl (.of_eq rfl rfl) rfl rfl
    | some s =>
      refine hI.modifyEntry b (f := (·.withStatus s)) (fun _ => rfl) rfl rfl ?_ ?_
      · intro hnone
        simp only [Op.run, updateBuildStatus, hs, hnone]
      · intro entry hentry
        simp only [Op.run, updateBuildStatus, hs, hentry]
  | forceBuildStatus b status =>
    cases hs : Status.ofName? Status.forcible status with
    | none =>
      have hrun : Op.run h (.forceBuildStatus b status) = h := by
        simp only [Op.run, forceBuildStatus, hs]
      exact hI.of_kept hrun rfl rfl (.of_eq rfl rfl) rfl rfl
    | some s =>
      refine hI.modifyEntry b (f := (·.withStatus s)) (fun _ => rfl) rfl rfl ?_ ?_
      · intro hnone
        simp only [Op.run, forceBuildStatus, hs, hnone]
      · intro entry hentry
        simp only [Op.run, forceBuildStatus, hs, hentry]
  | getBuild => exact givenInv_getBuild hI
  | cleanBuild wildcard exclude => exact givenInv_cleanBuild hI wildcard exclude
  | purgeBuild wildcard => exact hI.of_cleaned rfl rfl rfl (.purgeLoop _ 0 h.db)
  | updateBuildTestInfo b testInfo persist => exact givenInv_updateBuildTestInfo hI testInfo persist
  | refreshDBMFromFile => exact ⟨hI.file, hI.file, fun _ => rfl⟩

/-- The database of a new installation is intact. -/
lemma intact_empty (given : Text → Option Json) : Intact Db.empty given := by
  refine ⟨rfl, ?_, fun b entry hentry => nomatch hentry⟩
  rintro b ⟨_, hsome, hb⟩
  rw [← Option.some.inj hsome] at hb
  cases hb

end BuildHandler
