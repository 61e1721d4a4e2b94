import StTools.BuildHandler.Queues
import StTools.Lib.LabelledSystem

/-!
# Queued builds can be delivered

Every build in a queue should be known, in the queue of its own project, and queued once.  This
is what `get_build` needs: it takes a build off the queue before it looks the build up.

One request breaks it.  `priority_add` looks for the build among those that wait, but not at the
build of high priority, so a build that has been promoted and is added again is queued twice.
Apart from that every request keeps the queues in order, and `queueOk_throughout_iff` says so for
all sequences of requests.
-/

namespace BuildHandler

/-- The queues are in order. -/
structure QueueOk (db : Db) : Prop where
  /-- Queued builds are known. -/
  known : ∀ project build, db.Queued project build → db.Known build
  /-- Queued builds are in the queue of their project. -/
  placed : ∀ project build, db.Queued project build → getProject build = project
  /-- No build waits twice. -/
  nodup : ∀ project, (db.pending project).Nodup
  /-- The build of high priority does not wait. -/
  notBoth : ∀ project build, db.highPriority project = some build → build ∉ db.pending project

/-- A request for the next build that fails has taken no build off its queue. -/
def GetBuildSafe (h : Handler) : Prop :=
  ∀ e, (getBuild h).1 = .error e → (getBuild h).2.db = h.db

/-- Every queued build can be delivered. -/
def Deliverable (h : Handler) : Prop := QueueOk h.db ∧ GetBuildSafe h

/-- The request adds a build that has high priority already. -/
def ReaddsHighPriority (h : Handler) : Op → Prop
  | .priorityAdd build => h.db.highPriority (getProject build) = some build
  | _ => False

namespace QueueOk

variable {db db' : Db} {build : Text}

/-- The empty database is in order. -/
lemma empty : QueueOk Db.empty :=
  ⟨by simp [Db.Queued, Db.pending, Db.highPriority, Db.empty],
    by simp [Db.Queued, Db.pending, Db.highPriority, Db.empty],
    by simp [Db.pending, Db.empty], by simp [Db.highPriority, Db.empty]⟩

/-- Queues stay in order when builds are taken off, as long as the queued ones stay known. -/
lemma mono (hdb : QueueOk db)
    (hpending : ∀ project, (db'.pending project).Sublist (db.pending project))
    (hhigh : ∀ project build, db'.highPriority project = some build →
      db.highPriority project = some build)
    (hknown : ∀ project build, db'.Queued project build → db.Known build → db'.Known build) :
    QueueOk db' := by
  have hqueued : ∀ project build, db'.Queued project build → db.Queued project build := by
    rintro project build (hmem | hhp)
    · exact .inl ((hpending project).mem hmem)
    · exact .inr (hhigh project build hhp)
  constructor
  · intro project build hq
    exact hknown project build hq (hdb.known project build (hqueued project build hq))
  · intro project build hq
    exact hdb.placed project build (hqueued project build hq)
  · intro project
    exact (hdb.nodup project).sublist (hpending project)
  · intro project build hhp hmem
    exact hdb.notBoth project build (hhigh project build hhp) ((hpending project).mem hmem)

/-- Queues stay in order when the table of queues stays and known builds stay known. -/
lemma of_priority_eq (hdb : QueueOk db) (hpriority : db'.priority = db.priority)
    (hknown : ∀ build, db.Known build → db'.Known build) : QueueOk db' := by
  apply hdb.mono
  · intro project
    rw [Db.pending_congr hpriority]
  · intro project build hhp
    rwa [Db.highPriority_congr hpriority] at hhp
  · exact fun _ build _ => hknown build

/-- Deleting empty queues keeps them in order. -/
lemma cleanPriority (hdb : QueueOk db) : QueueOk db.cleanPriority := by
  apply hdb.mono
  · intro project
    rw [Db.pending_cleanPriority]
  · intro project build hhp
    rwa [Db.highPriority_cleanPriority] at hhp
  · exact fun _ _ _ hknown => hknown

end QueueOk

/-- The tables in memory and in the file are in order. -/
def BothOk (h : Handler) : Prop := QueueOk h.db ∧ QueueOk h.file

variable {h : Handler} {db : Db} {build : Text}

/-- What is written is in order when it was in memory. -/
lemma bothOk_updateDb (hdb : QueueOk h.db) : BothOk (updateDb h) := ⟨hdb, hdb⟩

/-- Deleting the empty queues before writing changes nothing about that. -/
lemma bothOk_cleanAndUpdate (hdb : QueueOk h.db) : BothOk (cleanAndUpdate h) :=
  bothOk_updateDb hdb.cleanPriority

/-! ## Changes of entries -/

/-- Changing an entry keeps the queues in order. -/
lemma QueueOk.modifyBuild (hdb : QueueOk db) (b : Text) (f : BuildInfo → BuildInfo) :
    QueueOk (db.modifyBuild b f) :=
  hdb.of_priority_eq rfl fun _ hknown => Db.known_modifyBuild.mpr hknown

/-- The loop of `purge_build` keeps the queues in order. -/
lemma queueOk_purgeLoop {wildcard : Text} (keys : List Text) (counter : ℕ) (hdb : QueueOk db) :
    QueueOk (purgeLoop wildcard keys counter db).2 := by
  induction keys generalizing counter db with
  | nil => exact hdb
  | cons key keys ih =>
    unfold purgeLoop
    split_ifs
    · exact ih _ (hdb.modifyBuild key _)
    · exact ih _ hdb

/-! ## Changes of queues -/

/-- Queueing a build that is known and has no high priority keeps the queues in order. -/
lemma QueueOk.enqueue (hdb : QueueOk db) (hknown : db.Known build)
    (hnot : db.highPriority (getProject build) ≠ some build) : QueueOk (db.enqueue build) := by
  have hqueued : ∀ project b, (db.enqueue build).Queued project b →
      db.Queued project b ∨ (project = getProject build ∧ b = build) := by
    rintro project b (hmem | hhp)
    · rw [Db.pending_enqueue] at hmem
      split_ifs at hmem with hadd
      · rcases List.mem_append.mp hmem with hmem | hmem
        · exact .inl (.inl hmem)
        · exact .inr ⟨hadd.1, List.mem_singleton.mp hmem⟩
      · exact .inl (.inl hmem)
    · rw [Db.highPriority_enqueue] at hhp
      exact .inl (.inr hhp)
  constructor
  · intro project b hb
    have hinfo : (db.enqueue build).buildInfo = db.buildInfo := Db.buildInfo_enqueue
    unfold Db.Known
    rw [hinfo]
    rcases hqueued project b hb with hb | ⟨-, rfl⟩
    · exact hdb.known project b hb
    · exact hknown
  · intro project b hb
    rcases hqueued project b hb with hb | ⟨rfl, rfl⟩
    · exact hdb.placed project b hb
    · rfl
  · intro project
    rw [Db.pending_enqueue]
    split_ifs with hadd
    · rw [← List.concat_eq_append]
      exact (hdb.nodup project).concat hadd.2
    · exact hdb.nodup project
  · intro project b hhp
    rw [Db.highPriority_enqueue] at hhp
    rw [Db.pending_enqueue]
    split_ifs with hadd
    · obtain ⟨rfl, -⟩ := hadd
      rw [List.mem_append, List.mem_singleton, not_or]
      constructor
      · exact hdb.notBoth _ b hhp
      · rintro rfl
        exact hnot hhp
    · exact hdb.notBoth project b hhp

/-- What is behind the first occurrence of a build does not hold it again. -/
lemma not_mem_drop_idxOf {l : List Text} (hnodup : l.Nodup) :
    build ∉ l.drop (l.idxOf build + 1) := by
  intro hmem
  have hdisjoint := List.disjoint_take_drop hnodup (Nat.le_refl (l.idxOf build + 1))
  apply hdisjoint _ hmem
  have hlt : l.idxOf build < l.length := List.idxOf_lt_length_of_mem (List.mem_of_mem_drop hmem)
  have hget : l[l.idxOf build] = build := List.getElem_idxOf hlt
  rw [List.mem_take_iff_getElem]
  exact ⟨l.idxOf build, by omega, hget⟩

/-- Promoting a build keeps the queues in order. -/
lemma QueueOk.promote (hdb : QueueOk db) :
    QueueOk (db.modifyQueue (getProject build) (Priority.promote build)) := by
  have hsub : ∀ project,
      ((db.modifyQueue (getProject build) (Priority.promote build)).pending project).Sublist
        (db.pending project) := by
    intro project
    rw [Db.pending_modifyQueue_promote]
    split_ifs
    · exact List.drop_sublist _ _
    · exact List.Sublist.refl _
  have hqueued : ∀ project b,
      (db.modifyQueue (getProject build) (Priority.promote build)).Queued project b →
        db.Queued project b := by
    rintro project b (hmem | hhp)
    · exact .inl ((hsub project).mem hmem)
    · rw [Db.highPriority_modifyQueue_promote] at hhp
      split_ifs at hhp with hwaits
      · cases hhp
        exact .inl hwaits.2
      · exact .inr hhp
  constructor
  · intro project b hb
    exact hdb.known project b (hqueued project b hb)
  · intro project b hb
    exact hdb.placed project b (hqueued project b hb)
  · intro project
    exact (hdb.nodup project).sublist (hsub project)
  · intro project b hhp
    rw [Db.highPriority_modifyQueue_promote] at hhp
    rw [Db.pending_modifyQueue_promote]
    split_ifs at hhp ⊢
    · cases hhp
      exact not_mem_drop_idxOf (hdb.nodup project)
    · exact hdb.notBoth project b hhp

/-- Taking a build off its queue keeps the queues in order. -/
lemma QueueOk.priorityDel {updateStatus : Bool} (hdb : QueueOk h.db) :
    QueueOk (priorityDel h build updateStatus).db := by
  apply hdb.mono
  · intro project
    rw [pending_priorityDel]
    split_ifs
    · exact List.erase_sublist
    · exact List.Sublist.refl _
  · intro project b hhp
    rw [highPriority_priorityDel] at hhp
    split_ifs at hhp
    exact hhp
  · intro project b _ hknown
    exact known_priorityDel.mpr hknown

/-- A build that has been taken off its queue is in no queue. -/
lemma QueueOk.not_queued_priorityDel {updateStatus : Bool} (hdb : QueueOk h.db) (project : Text) :
    ¬ (BuildHandler.priorityDel h build updateStatus).db.Queued project build := by
  rintro (hmem | hhp)
  · rw [pending_priorityDel] at hmem
    split_ifs at hmem with hproject
    · exact (hdb.nodup project).not_mem_erase hmem
    · exact hproject (hdb.placed project build (.inl hmem)).symm
  · rw [highPriority_priorityDel] at hhp
    split_ifs at hhp with hfront
    apply hfront
    exact ⟨(hdb.placed project build (.inr hhp)).symm, hdb.notBoth project build hhp, hhp⟩

/-- The search for the next build keeps the queues in order. -/
lemma queueOk_findNextBuild {extract : Bool} (hdb : QueueOk db) :
    QueueOk (findNextBuild extract db).2 := by
  rcases Db.findNextBuild_cases extract db with
    ⟨e, hf⟩ | ⟨project, build, -, hf⟩ | ⟨project, build, -, hf⟩ | hf <;> rw [hf]
  · exact hdb
  · cases extract
    · exact hdb
    · apply hdb.mono
      · intro p
        rw [if_pos rfl, Db.pending_modifyQueue_clearHigh]
      · intro p b hhp
        rw [if_pos rfl, Db.highPriority_modifyQueue_clearHigh] at hhp
        split_ifs at hhp
        exact hhp
      · exact fun _ _ _ hknown => hknown
  · cases extract
    · exact hdb
    · apply hdb.mono
      · intro p
        rw [if_pos rfl, Db.pending_modifyQueue_pop]
        split_ifs
        · exact List.dropLast_sublist _
        · exact List.Sublist.refl _
      · intro p b hhp
        rwa [if_pos rfl, Db.highPriority_modifyQueue_pop] at hhp
      · exact fun _ _ _ hknown => hknown
  · exact hdb

/-- The next build is in a queue. -/
lemma queued_of_findNextBuild {extract rc : Bool}
    (h : (findNextBuild extract db).1 = .ok (some build, rc)) :
    ∃ project, db.Queued project build := by
  rcases Db.findNextBuild_cases extract db with
    ⟨e, hf⟩ | ⟨project, b, hhp, hf⟩ | ⟨project, b, hlast, hf⟩ | hf <;> rw [hf] at h
  · cases h
  · cases h
    exact ⟨project, .inr hhp⟩
  · cases h
    exact ⟨project, .inl (List.mem_of_getLast? hlast)⟩
  · cases h

/-- A search that raises has changed nothing. -/
lemma eq_of_findNextBuild_error {extract : Bool} {e : PyError} {db' : Db}
    (h : findNextBuild extract db = (.error e, db')) : db' = db := by
  rcases Db.findNextBuild_cases extract db with
    ⟨e', hf⟩ | ⟨project, b, -, hf⟩ | ⟨project, b, -, hf⟩ | hf <;> rw [hf] at h <;> cases h
  rfl

/-- The search for the next build keeps what is known of the builds. -/
lemma buildInfo_findNextBuild {extract : Bool} :
    (findNextBuild extract db).2.buildInfo = db.buildInfo := by
  rcases Db.findNextBuild_cases extract db with
    ⟨e, hf⟩ | ⟨project, b, hhp, hf⟩ | ⟨project, b, hlast, hf⟩ | hf <;> rw [hf]
  · cases extract <;> rfl
  · cases extract <;> rfl

/-- A delivery does nothing to the tables but take a build off its queue. -/
lemma db_getBuild : (getBuild h).2.db = (findNextBuild true h.db).2 := by
  unfold getBuild
  rcases findNextBuild true h.db with ⟨_ | ⟨_ | b, rc⟩, db'⟩
  · rfl
  · rfl
  · cases hb : db'.buildInfo.get? b <;> simp [updateDb, hb]

/-- With the queues in order, a request for the next build never fails after it has taken one. -/
lemma getBuildSafe_of_queueOk (hdb : QueueOk h.db) : GetBuildSafe h := by
  intro e he
  rw [db_getBuild]
  rcases hf : findNextBuild true h.db with ⟨_ | ⟨_ | b, rc⟩, db'⟩
  · exact eq_of_findNextBuild_error hf
  · simp [getBuild, hf] at he
  · obtain ⟨project, hq⟩ := queued_of_findNextBuild (by rw [hf])
    have hknown : h.db.Known b := hdb.known project b hq
    have hinfo : db'.buildInfo = h.db.buildInfo := by
      have hkeep : (findNextBuild true h.db).2.buildInfo = h.db.buildInfo :=
        buildInfo_findNextBuild
      rwa [hf] at hkeep
    obtain ⟨entry, hentry⟩ := Option.isSome_iff_exists.mp hknown
    simp [getBuild, hf, updateDb, hinfo, hentry] at he

/-! ## Every request -/

/-- A build that is entered is known, and the others stay known. -/
lemma QueueOk.buildInfoSet (hdb : QueueOk db) (entry : BuildInfo) :
    QueueOk { db with buildInfo := db.buildInfo.set build entry } := by
  have hknown : ∀ b, db.Known b →
      Db.Known { db with buildInfo := db.buildInfo.set build entry } b := by
    intro b hb
    unfold Db.Known
    rw [Dict.get?_set]
    split_ifs
    · rfl
    · exact hb
  exact hdb.of_priority_eq rfl hknown

/-- An update of a test info leaves the tables in order, also when it raises half-way. -/
lemma bothOk_buildInfoUpdate (info : Json) (hI : BothOk h) :
    BothOk (buildInfoUpdate h build info).2 := by
  unfold buildInfoUpdate
  cases h.db.buildInfo.get? build with
  | none => exact hI
  | some entry =>
    dsimp only
    split_ifs
    · cases copyField "packages".toList info entry.testInfo with
      | error e => exact hI
      | ok testInfo =>
        dsimp only
        have hdb := hI.1.modifyBuild build (·.withTestInfo testInfo)
        cases copyField "GIT_repos".toList info testInfo with
        | error e => exact ⟨hdb, hI.2⟩
        | ok testInfo' => exact bothOk_updateDb (hdb.modifyBuild build _)
    · exact hI

/-- Taking a build off its queue leaves both tables in order, also on its early returns. -/
lemma bothOk_priorityDel {updateStatus : Bool} (hI : BothOk h) :
    BothOk (priorityDel h build updateStatus) := by
  refine ⟨hI.1.priorityDel, ?_⟩
  cases hq : h.db.priority.get? (getProject build) with
  | none =>
    rw [priorityDel_of_none hq]
    exact hI.2
  | some q =>
    have hdb : QueueOk (priorityDel h build updateStatus).db := hI.1.priorityDel
    rcases priorityDel_of_some updateStatus hq with ⟨-, hdel⟩ | ⟨-, -, hdel⟩ | ⟨-, -, hdel⟩
    · rw [hdel] at hdb ⊢
      exact hdb
    · rw [hdel]
      exact hI.2
    · rw [hdel] at hdb ⊢
      exact hdb

/-- A delivery leaves both tables in order. -/
lemma bothOk_getBuild (hI : BothOk h) : BothOk (getBuild h).2 := by
  have hdb : QueueOk (findNextBuild true h.db).2 := queueOk_findNextBuild hI.1
  rcases hf : findNextBuild true h.db with ⟨_ | ⟨_ | b, rc⟩, db'⟩ <;> rw [hf] at hdb <;>
    simp only [getBuild, hf]
  · exact ⟨hdb, hI.2⟩
  · exact ⟨hdb, hI.2⟩
  · have hwritten : BothOk (updateDb { h with db := db' }) := bothOk_updateDb hdb
    split <;> exact hwritten

/-- The loop of `clean_build` keeps the queues in order: a build is taken off its queue before
its entry is deleted. -/
lemma bothOk_cleanLoop {wildcard exclude : Text} (keys : List Text) (counter : ℕ)
    (hI : BothOk h) : BothOk (cleanLoop wildcard exclude keys counter h).2 := by
  induction keys generalizing counter h with
  | nil => exact hI
  | cons key keys ih =>
    have hdel : BothOk (priorityDel h key false) := bothOk_priorityDel hI
    unfold cleanLoop
    split_ifs
    · cases hbase : (priorityDel h key false).db.baselines with
      | none =>
        simp only [hbase]
        exact hdel
      | some baselines =>
        simp only [hbase]
        apply ih
        refine ⟨?_, hdel.2⟩
        split_ifs
        · exact hdel.1.modifyBuild key _
        · apply hdel.1.mono
          · exact fun _ => List.Sublist.refl _
          · exact fun _ _ hhp => hhp
          · intro project b hb hknown
            have hne : b ≠ key := by
              rintro rfl
              exact hI.1.not_queued_priorityDel project hb
            unfold Db.Known
            rwa [Dict.get?_delete, if_neg hne]
    · exact ih _ hI

/-- Replacing a test info leaves both tables in order, written or not. -/
lemma bothOk_updateBuildTestInfo (testInfo : Json) (persist : Bool) (hI : BothOk h) :
    BothOk (updateBuildTestInfo h build testInfo persist).2 := by
  unfold updateBuildTestInfo
  cases h.db.buildInfo.get? build with
  | none =>
    cases persist
    · exact hI
    · exact bothOk_updateDb hI.1
  | some entry =>
    have hdb := hI.1.modifyBuild build (·.withTestInfo testInfo)
    cases persist
    · exact ⟨hdb, hI.2⟩
    · exact ⟨hdb, hdb⟩

/-- **Step lemma.**  Every request keeps both tables in order, unless it adds a build that has
high priority. -/
lemma bothOk_run (op : Op) (hI : BothOk h) (hop : ¬ ReaddsHighPriority h op) :
    BothOk (op.run h) := by
  cases op with
  | buildInfoAdd b info =>
    simp only [Op.run, buildInfoAdd]
    split_ifs
    · exact hI
    · exact bothOk_updateDb (hI.1.buildInfoSet _)
  | buildInfoUpdate b info => exact bothOk_buildInfoUpdate info hI
  | priorityAdd b =>
    simp only [Op.run, priorityAdd]
    split_ifs with hnone
    · exact hI
    · have hknown : h.db.Known b := by simpa [Db.Known, Option.isSome_iff_ne_none] using hnone
      exact bothOk_cleanAndUpdate (hI.1.enqueue hknown hop)
  | priorityDel b updateStatus => exact bothOk_priorityDel hI
  | priorityIncrease b =>
    simp only [Op.run, priorityIncrease]
    cases h.db.priority.get? (getProject b) with
    | none => exact hI
    | some q => exact bothOk_cleanAndUpdate hI.1.promote
  | baselineAdd b =>
    simp only [Op.run, baselineAdd]
    split_ifs
    · exact hI
    · exact bothOk_updateDb (hI.1.of_priority_eq rfl fun _ hknown => hknown)
  | baselineDel baseline =>
    exact bothOk_updateDb (hI.1.of_priority_eq rfl fun _ hknown => hknown)
  | addBuildTestResult b result =>
    simp only [Op.run, addBuildTestResult]
    cases h.db.buildInfo.get? b with
    | none => exact hI
    | some entry => exact bothOk_updateDb (hI.1.modifyBuild b _)
  | updateBuildStatus b status =>
    simp only [Op.run, updateBuildStatus]
    cases Status.ofName? Status.all status with
    | none => exact hI
    | some s =>
      cases h.db.buildInfo.get? b with
      | none => exact hI
      | some entry => exact bothOk_updateDb (hI.1.modifyBuild b _)
  | forceBuildStatus b status =>
    simp only [Op.run, forceBuildStatus]
    cases Status.ofName? Status.forcible status with
    | none => exact hI
    | some s =>
      cases h.db.buildInfo.get? b with
      | none => exact hI
      | some entry => exact bothOk_updateDb (hI.1.modifyBuild b _)
  | getBuild => exact bothOk_getBuild hI
  | cleanBuild wildcard exclude =>
    simp only [Op.run, cleanBuild]
    have hloop : BothOk (cleanLoop wildcard exclude h.db.buildInfo.keys 0 h).2 :=
      bothOk_cleanLoop _ 0 hI
    rcases hc : cleanLoop wildcard exclude h.db.buildInfo.keys 0 h with ⟨_ | counter, h'⟩ <;>
      rw [hc] at hloop
    · exact hloop
    · exact bothOk_cleanAndUpdate hloop.1
  | purgeBuild wildcard =>
    simp only [Op.run, purgeBuild]
    exact bothOk_cleanAndUpdate (queueOk_purgeLoop h.db.buildInfo.keys 0 hI.1)
  | updateBuildTestInfo b info persist => exact bothOk_updateBuildTestInfo info persist hI
  | refreshDBMFromFile => exact ⟨hI.2, hI.2⟩

/-- A request that adds a build of high priority queues it twice. -/
lemma not_queueOk_of_readds (op : Op) (hdb : QueueOk h.db) (hop : ReaddsHighPriority h op) :
    ¬ QueueOk (op.run h).db := by
  cases op with
  | priorityAdd b =>
    intro hafter
    have hhp : h.db.highPriority (getProject b) = some b := hop
    have hnone : (h.db.buildInfo.get? b).isNone = false := by
      obtain ⟨entry, hentry⟩ := Option.isSome_iff_exists.mp (hdb.known _ b (.inr hhp))
      rw [hentry, Option.isNone_some]
    have hrun : (Op.run h (.priorityAdd b)).db = (h.db.enqueue b).cleanPriority := by
      simp [Op.run, priorityAdd, hnone, cleanAndUpdate, updateDb]
    apply hafter.notBoth (getProject b) b
    · rw [hrun, Db.highPriority_cleanPriority, Db.highPriority_enqueue]
      exact hhp
    · rw [hrun, Db.pending_cleanPriority, Db.pending_enqueue,
        if_pos ⟨rfl, hdb.notBoth _ b hhp⟩]
      exact List.mem_append_right _ (List.mem_singleton_self b)
  | _ => exact hop.elim

/-- **Queued builds can be delivered.**  From the empty database, every queued build can be
delivered in every state of a sequence of requests exactly when no request of the sequence adds a
build that has high priority at that moment. -/
theorem deliverable_throughout_iff (ops : List Op) :
    LabelledSystem.Throughout step Deliverable Handler.init ops ↔
      LabelledSystem.Along step (fun h op => ¬ ReaddsHighPriority h op) Handler.init ops := by
  have hinit : BothOk Handler.init := ⟨QueueOk.empty, QueueOk.empty⟩
  refine LabelledSystem.throughout_iff_along (I := BothOk) ?_ ?_ ?_ hinit
  · intro h op h' hI hop hstep
    cases hstep
    exact bothOk_run op hI hop
  · intro h hI
    exact ⟨hI.1, getBuildSafe_of_queueOk hI.1⟩
  · intro h op h' hI hop hstep hafter
    cases hstep
    exact not_queueOk_of_readds op hI.1 (not_not.mp hop) hafter.1

/-- A build is promoted and added again; when its entry is deleted, only one of the two is taken
off the queue. -/
def readdedRun : List Op :=
  [.buildInfoAdd "HSS-1.28.2.20".toList (.obj []), .priorityAdd "HSS-1.28.2.20".toList,
    .priorityIncrease "HSS-1.28.2.20".toList, .priorityAdd "HSS-1.28.2.20".toList,
    .cleanBuild "HSS-1.28".toList []]

/-- The build that was promoted and added again is queued twice, and after its entry has been
deleted `get_build` takes it off its queue and fails. -/
theorem readdedRun_not_deliverable :
    ¬ LabelledSystem.Throughout step Deliverable Handler.init readdedRun ∧
      ∃ h, LabelledSystem.exec step Handler.init readdedRun = some h ∧
        (getBuild h).1 = .error (.keyError "HSS-1.28.2.20".toList) ∧
        (getBuild h).2.db.highPriority "HSS-1.28.2".toList ≠
          h.db.highPriority "HSS-1.28.2".toList := by
  refine ⟨?_, _, rfl, ?_, ?_⟩
  · intro hall
    have hlast : Deliverable _ := hall.last rfl
    have hknown := hlast.1.known "HSS-1.28.2".toList "HSS-1.28.2.20".toList (.inr (by decide))
    exact absurd hknown (by decide)
  · rfl
  · decide

end BuildHandler
