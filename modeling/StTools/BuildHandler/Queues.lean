import StTools.BuildHandler.Service

/-!
# What the operations do to the queues

A project without an entry in the table has an empty queue, so the queues are looked at through
`Db.pending` and `Db.highPriority`, which do not see whether an empty queue has been deleted.
For each change of the table there is one lemma about each of the two.
-/

namespace BuildHandler
namespace Db

variable {db : Db} {project project' build : Text} {f : Priority → Priority}

/-- A build is in the queue of a project, as one that waits or as the one that goes first. -/
def Queued (db : Db) (project build : Text) : Prop :=
  build ∈ db.pending project ∨ db.highPriority project = some build

/-- The queue of a project with an entry. -/
lemma pending_of_get? {q : Priority} (h : db.priority.get? project = some q) :
    db.pending project = q.pending := by
  simp [pending, h]

/-- The build of high priority of a project with an entry. -/
lemma highPriority_of_get? {q : Priority} (h : db.priority.get? project = some q) :
    db.highPriority project = q.highPriority := by
  simp [highPriority, h]

/-- Without an entry nothing waits. -/
lemma pending_of_none (h : db.priority.get? project = none) : db.pending project = [] := by
  simp [pending, h]

/-- Without an entry there is no build of high priority. -/
lemma highPriority_of_none (h : db.priority.get? project = none) :
    db.highPriority project = none := by
  simp [highPriority, h]

/-- The build is a key of the table of builds. -/
def Known (db : Db) (build : Text) : Prop := (db.buildInfo.get? build).isSome

instance : Decidable (db.Known build) := inferInstanceAs (Decidable (_ = true))

/-- Changing an entry keeps the known builds. -/
@[simp] lemma known_modifyBuild {b : Text} {g : BuildInfo → BuildInfo} :
    (db.modifyBuild b g).Known build ↔ db.Known build := by
  unfold Known modifyBuild
  rw [Dict.get?_modify]
  split_ifs <;> simp

/-! ## Deleting empty queues -/

/-- Deleting empty queues keeps the builds that wait. -/
@[simp] lemma pending_cleanPriority : db.cleanPriority.pending project = db.pending project := by
  cases hq : db.priority.get? project with
  | none => simp [pending, cleanPriority, hq]
  | some q =>
    rcases hp : q.pending with _ | ⟨b, l⟩
    · cases hh : q.highPriority <;> simp [pending, cleanPriority, Option.filter_some, hq, hp, hh]
    · simp [pending, cleanPriority, Option.filter_some, hq, hp]

/-- Deleting empty queues keeps the builds of high priority. -/
@[simp] lemma highPriority_cleanPriority :
    db.cleanPriority.highPriority project = db.highPriority project := by
  cases hq : db.priority.get? project with
  | none => simp [highPriority, cleanPriority, hq]
  | some q =>
    cases hh : q.highPriority with
    | none =>
      rcases hp : q.pending with _ | ⟨b, l⟩ <;>
        simp [highPriority, cleanPriority, Option.filter_some, hq, hp, hh]
    | some rc => simp [highPriority, cleanPriority, Option.filter_some, hq, hh]

/-- Deleting empty queues keeps what is known of the builds. -/
@[simp] lemma buildInfo_cleanPriority : db.cleanPriority.buildInfo = db.buildInfo := rfl

/-- Deleting empty queues keeps the baselines. -/
@[simp] lemma baselines_cleanPriority : db.cleanPriority.baselines = db.baselines := rfl

/-! ## Changing one queue -/

/-- The other projects keep their queues. -/
lemma pending_modifyQueue_of_ne (h : project' ≠ project) :
    (db.modifyQueue project f).pending project' = db.pending project' := by
  simp [pending, modifyQueue, Dict.get?_modify_of_ne h]

/-- The other projects keep their builds of high priority. -/
lemma highPriority_modifyQueue_of_ne (h : project' ≠ project) :
    (db.modifyQueue project f).highPriority project' = db.highPriority project' := by
  simp [highPriority, modifyQueue, Dict.get?_modify_of_ne h]

/-- The entry of the project that is changed. -/
lemma get?_modifyQueue_self {q : Priority} (h : db.priority.get? project = some q) :
    (db.modifyQueue project f).priority.get? project = some (f q) := by
  simp [modifyQueue, h]

/-- The projects with a queue stay the same. -/
@[simp] lemma keys_modifyQueue : (db.modifyQueue project f).priority.keys = db.priority.keys :=
  Dict.keys_modify

/-- Changing a queue keeps what is known of the builds. -/
@[simp] lemma buildInfo_modifyQueue : (db.modifyQueue project f).buildInfo = db.buildInfo := rfl

/-- Changing a queue keeps the baselines. -/
@[simp] lemma baselines_modifyQueue : (db.modifyQueue project f).baselines = db.baselines := rfl

/-- Changing an entry keeps the queues. -/
@[simp] lemma priority_modifyBuild {g : BuildInfo → BuildInfo} :
    (db.modifyBuild build g).priority = db.priority := rfl

/-- Changing an entry keeps the baselines. -/
@[simp] lemma baselines_modifyBuild {g : BuildInfo → BuildInfo} :
    (db.modifyBuild build g).baselines = db.baselines := rfl

/-- Databases with the same table of queues have the same builds waiting. -/
lemma pending_congr {db' : Db} (h : db'.priority = db.priority) :
    db'.pending project = db.pending project := by
  rw [pending, pending, h]

/-- Databases with the same table of queues have the same builds of high priority. -/
lemma highPriority_congr {db' : Db} (h : db'.priority = db.priority) :
    db'.highPriority project = db.highPriority project := by
  rw [highPriority, highPriority, h]

end Db

/-! ## Dequeuing -/

namespace Priority

variable {q : Priority} {build b : Text}

/-- One occurrence is taken from the builds that wait. -/
@[simp] lemma pending_dequeue : (q.dequeue build).pending = q.pending.erase build := by
  unfold dequeue
  split_ifs with hmem hhp
  · rfl
  · rw [List.erase_of_not_mem hmem]
  · rw [List.erase_of_not_mem hmem]

/-- The build of high priority is taken if the build does not wait. -/
lemma highPriority_dequeue : (q.dequeue build).highPriority =
    if build ∉ q.pending ∧ q.highPriority = some build then none else q.highPriority := by
  unfold dequeue
  split_ifs with hmem h h <;> simp_all

end Priority

/-! ## The requests about queues -/

section Requests

variable {h : Handler} {db : Db} {project build : Text} {updateStatus : Bool}

/-- Taking a build off its queue takes one occurrence from the builds that wait. -/
lemma Db.pending_modifyQueue_dequeue :
    (db.modifyQueue (getProject build) (Priority.dequeue build)).pending project =
      if project = getProject build then (db.pending project).erase build
      else db.pending project := by
  split_ifs with hproject
  · subst hproject
    cases hq : db.priority.get? (getProject build) with
    | none => simp [pending, modifyQueue, hq]
    | some q =>
      rw [pending_of_get? (get?_modifyQueue_self hq), pending_of_get? hq, Priority.pending_dequeue]
  · exact pending_modifyQueue_of_ne hproject

/-- Taking a build off its queue takes it from the front if it does not wait. -/
lemma Db.highPriority_modifyQueue_dequeue :
    (db.modifyQueue (getProject build) (Priority.dequeue build)).highPriority project =
      if project = getProject build ∧ build ∉ db.pending project ∧
        db.highPriority project = some build then none else db.highPriority project := by
  rcases eq_or_ne project (getProject build) with rfl | hproject
  · cases hq : db.priority.get? (getProject build) with
    | none => simp [highPriority, modifyQueue, hq]
    | some q =>
      rw [highPriority_of_get? (get?_modifyQueue_self hq), highPriority_of_get? hq,
        pending_of_get? hq, Priority.highPriority_dequeue]
      simp
  · rw [highPriority_modifyQueue_of_ne hproject, if_neg fun h => hproject h.1]

/-- Promoting a build drops the builds that wait longer, if it waits. -/
lemma Db.pending_modifyQueue_promote :
    (db.modifyQueue (getProject build) (Priority.promote build)).pending project =
      if project = getProject build ∧ build ∈ db.pending project then
        (db.pending project).drop ((db.pending project).idxOf build + 1)
      else db.pending project := by
  rcases eq_or_ne project (getProject build) with rfl | hproject
  · cases hq : db.priority.get? (getProject build) with
    | none => simp [pending, modifyQueue, hq]
    | some q =>
      rw [pending_of_get? (get?_modifyQueue_self hq), pending_of_get? hq, Priority.promote]
      split_ifs with h h' h' <;> simp_all
  · rw [pending_modifyQueue_of_ne hproject, if_neg fun h => hproject h.1]

/-- Promoting a build puts it in front, if it waits. -/
lemma Db.highPriority_modifyQueue_promote :
    (db.modifyQueue (getProject build) (Priority.promote build)).highPriority project =
      if project = getProject build ∧ build ∈ db.pending project then some build
      else db.highPriority project := by
  rcases eq_or_ne project (getProject build) with rfl | hproject
  · cases hq : db.priority.get? (getProject build) with
    | none => simp [highPriority, pending, modifyQueue, hq]
    | some q =>
      rw [highPriority_of_get? (get?_modifyQueue_self hq), highPriority_of_get? hq,
        pending_of_get? hq, Priority.promote]
      split_ifs with h h' h' <;> simp_all
  · rw [highPriority_modifyQueue_of_ne hproject, if_neg fun h => hproject h.1]

/-- Queueing a build puts it behind those that wait, unless it waits already. -/
lemma Db.pending_enqueue : (db.enqueue build).pending project =
    if project = getProject build ∧ build ∉ db.pending project then db.pending project ++ [build]
    else db.pending project := by
  unfold enqueue
  cases hq : db.priority.get? (getProject build) with
  | none =>
    rcases eq_or_ne project (getProject build) with rfl | hproject
    · simp [pending, Dict.get?_set, hq]
    · simp [pending, Dict.get?_set, hproject]
  | some q =>
    rcases eq_or_ne project (getProject build) with rfl | hproject
    · by_cases hmem : build ∈ q.pending
      · simp [hmem, pending_of_get? hq]
      · simp [hmem, pending_of_get? hq, pending_of_get? (get?_modifyQueue_self hq)]
    · by_cases hmem : build ∈ q.pending <;>
        simp [hmem, hproject, pending_modifyQueue_of_ne hproject]

/-- Queueing a build leaves the builds of high priority alone. -/
lemma Db.highPriority_enqueue : (db.enqueue build).highPriority project =
    db.highPriority project := by
  unfold enqueue
  cases hq : db.priority.get? (getProject build) with
  | none =>
    rcases eq_or_ne project (getProject build) with rfl | hproject
    · simp [highPriority, Dict.get?_set, hq]
    · simp [highPriority, Dict.get?_set, hproject]
  | some q =>
    rcases eq_or_ne project (getProject build) with rfl | hproject
    · by_cases hmem : build ∈ q.pending
      · simp [hmem]
      · simp [hmem, highPriority_of_get? hq, highPriority_of_get? (get?_modifyQueue_self hq)]
    · by_cases hmem : build ∈ q.pending <;>
        simp [hmem, highPriority_modifyQueue_of_ne hproject]

/-- Queueing a build keeps what is known of the builds. -/
lemma Db.buildInfo_enqueue : (db.enqueue build).buildInfo = db.buildInfo := by
  unfold enqueue
  cases db.priority.get? (getProject build) with
  | none => rfl
  | some q => by_cases hmem : build ∈ q.pending <;> simp [hmem]

/-- Without an entry for the project, taking a build off its queue does nothing. -/
lemma priorityDel_of_none (hq : h.db.priority.get? (getProject build) = none) :
    priorityDel h build updateStatus = h := by
  simp [priorityDel, hq]

/-- With an entry for the project, `priority_del` takes the build off the queue.  Then it
deletes the empty queues and writes the file, unless it looks for a build that is not known. -/
lemma priorityDel_of_some (updateStatus : Bool) {q : Priority}
    (hq : h.db.priority.get? (getProject build) = some q) :
    let dequeued := h.db.modifyQueue (getProject build) (Priority.dequeue build)
    (updateStatus = false ∧
      priorityDel h build updateStatus = cleanAndUpdate { h with db := dequeued }) ∨
    (updateStatus = true ∧ h.db.buildInfo.get? build = none ∧
      priorityDel h build updateStatus = { h with db := dequeued }) ∨
    (updateStatus = true ∧ (h.db.buildInfo.get? build).isSome ∧
      priorityDel h build updateStatus =
        cleanAndUpdate { h with db := dequeued.modifyBuild build BuildInfo.skip }) := by
  cases updateStatus with
  | false => exact .inl ⟨rfl, by simp [priorityDel, hq]⟩
  | true =>
    cases hb : h.db.buildInfo.get? build with
    | none => exact .inr (.inl ⟨rfl, rfl, by simp [priorityDel, hq, hb]⟩)
    | some entry => exact .inr (.inr ⟨rfl, rfl, by simp [priorityDel, hq, hb]⟩)

/-- `priority_del` leaves the queues of the table with the build taken off, whether or not it
deletes the empty ones and writes the file. -/
lemma pending_priorityDel : (priorityDel h build updateStatus).db.pending project =
    if project = getProject build then (h.db.pending project).erase build
    else h.db.pending project := by
  rw [← Db.pending_modifyQueue_dequeue]
  cases hq : h.db.priority.get? (getProject build) with
  | none =>
    rw [priorityDel_of_none hq, Db.pending_modifyQueue_dequeue]
    split_ifs with hproject
    · subst hproject
      rw [Db.pending_of_none hq, List.erase_nil]
    · rfl
  | some q =>
    rcases priorityDel_of_some updateStatus hq with
      ⟨-, hdel⟩ | ⟨-, -, hdel⟩ | ⟨-, -, hdel⟩ <;> rw [hdel]
    · exact Db.pending_cleanPriority
    · exact Db.pending_cleanPriority

/-- `priority_del` and the build of high priority. -/
lemma highPriority_priorityDel : (priorityDel h build updateStatus).db.highPriority project =
    if project = getProject build ∧ build ∉ h.db.pending project ∧
      h.db.highPriority project = some build then none else h.db.highPriority project := by
  rw [← Db.highPriority_modifyQueue_dequeue]
  cases hq : h.db.priority.get? (getProject build) with
  | none =>
    rw [priorityDel_of_none hq, Db.highPriority_modifyQueue_dequeue]
    split_ifs with hproject
    · obtain ⟨rfl, -, -⟩ := hproject
      exact Db.highPriority_of_none hq
    · rfl
  | some q =>
    rcases priorityDel_of_some updateStatus hq with
      ⟨-, hdel⟩ | ⟨-, -, hdel⟩ | ⟨-, -, hdel⟩ <;> rw [hdel]
    · exact Db.highPriority_cleanPriority
    · exact Db.highPriority_cleanPriority

/-- Without a status to update, `priority_del` keeps what is known of the builds. -/
@[simp] lemma buildInfo_priorityDel_false :
    (priorityDel h build false).db.buildInfo = h.db.buildInfo := by
  unfold priorityDel
  cases h.db.priority.get? (getProject build) <;> rfl

/-- `priority_del` keeps the known builds. -/
@[simp] lemma known_priorityDel {b : Text} :
    (priorityDel h build updateStatus).db.Known b ↔ h.db.Known b := by
  cases hq : h.db.priority.get? (getProject build) with
  | none => rw [priorityDel_of_none hq]
  | some q =>
    rcases priorityDel_of_some updateStatus hq with ⟨-, hdel⟩ | ⟨-, -, hdel⟩ | ⟨-, -, hdel⟩ <;> rw [hdel]
    · exact Iff.rfl
    · exact Iff.rfl
    · exact Db.known_modifyBuild

/-- `priority_del` keeps the baselines. -/
@[simp] lemma baselines_priorityDel :
    (priorityDel h build updateStatus).db.baselines = h.db.baselines := by
  cases hq : h.db.priority.get? (getProject build) with
  | none => rw [priorityDel_of_none hq]
  | some q =>
    rcases priorityDel_of_some updateStatus hq with
      ⟨-, hdel⟩ | ⟨-, -, hdel⟩ | ⟨-, -, hdel⟩ <;> rw [hdel] <;> rfl

end Requests

/-! ## Requests that queue no build -/

section NoNewBuild

variable {h : Handler} {db db' : Db} {project build b : Text}

/-- With the same table of queues the same builds are queued. -/
lemma Db.Queued.of_priority_eq (hpriority : db'.priority = db.priority)
    (hb : db'.Queued project b) : db.Queued project b := by
  rwa [Db.Queued, Db.pending_congr hpriority, Db.highPriority_congr hpriority] at hb

/-- Deleting empty queues queues no build. -/
lemma Db.Queued.of_cleanPriority (hb : db.cleanPriority.Queued project b) :
    db.Queued project b := by
  rwa [Db.Queued, Db.pending_cleanPriority, Db.highPriority_cleanPriority] at hb

/-- Taking a build off its queue queues no build. -/
lemma queued_of_priorityDel {updateStatus : Bool}
    (hb : (priorityDel h build updateStatus).db.Queued project b) : h.db.Queued project b := by
  rcases hb with hb | hb
  · rw [pending_priorityDel] at hb
    split_ifs at hb
    · exact .inl (List.mem_of_mem_erase hb)
    · exact .inl hb
  · rw [highPriority_priorityDel] at hb
    split_ifs at hb
    exact .inr hb

/-- The loop of `clean_build` queues no build. -/
lemma queued_of_cleanLoop {wildcard exclude : Text} (keys : List Text) (counter : ℕ)
    (hb : (cleanLoop wildcard exclude keys counter h).2.db.Queued project b) :
    h.db.Queued project b := by
  induction keys generalizing counter h with
  | nil => exact hb
  | cons key keys ih =>
    unfold cleanLoop at hb
    split_ifs at hb
    · cases hbase : (priorityDel h key false).db.baselines with
      | none =>
        simp only [hbase] at hb
        exact queued_of_priorityDel hb
      | some baselines =>
        simp only [hbase] at hb
        have hstep := ih _ hb
        split_ifs at hstep
        · exact queued_of_priorityDel (hstep.of_priority_eq rfl)
        · exact queued_of_priorityDel (hstep.of_priority_eq rfl)
    · exact ih counter hb

/-- The loop of `purge_build` keeps the table of queues. -/
lemma priority_purgeLoop {wildcard : Text} (keys : List Text) (counter : ℕ) (db : Db) :
    (purgeLoop wildcard keys counter db).2.priority = db.priority := by
  induction keys generalizing counter db with
  | nil => rfl
  | cons key keys ih =>
    unfold purgeLoop
    split_ifs
    · rw [ih, Db.priority_modifyBuild]
    · exact ih counter db

/-- An update of a test info keeps the table of queues. -/
lemma priority_buildInfoUpdate (info : Json) :
    (buildInfoUpdate h build info).2.db.priority = h.db.priority := by
  unfold buildInfoUpdate
  cases h.db.buildInfo.get? build with
  | none => rfl
  | some entry =>
    dsimp only
    split_ifs
    · cases copyField "packages".toList info entry.testInfo with
      | error e => rfl
      | ok testInfo =>
        dsimp only
        cases copyField "GIT_repos".toList info testInfo <;> rfl
    · rfl

/-- A test result keeps the table of queues. -/
lemma priority_addBuildTestResult (testResult : Json) :
    (addBuildTestResult h build testResult).db.priority = h.db.priority := by
  unfold addBuildTestResult
  cases h.db.buildInfo.get? build <;> rfl

/-- Replacing a test info keeps the table of queues. -/
lemma priority_updateBuildTestInfo (testInfo : Json) (persist : Bool) :
    (updateBuildTestInfo h build testInfo persist).2.db.priority = h.db.priority := by
  unfold updateBuildTestInfo
  cases h.db.buildInfo.get? build <;> cases persist <;> rfl

/-- The requests that may queue a build or read queues from the file. -/
def Op.MayQueue : Op → Prop
  | .priorityAdd _ | .priorityIncrease _ | .getBuild | .refreshDBMFromFile => True
  | _ => False

/-- The other requests queue no build. -/
lemma queued_of_run (op : Op) (hop : ¬ op.MayQueue) (hb : (op.run h).db.Queued project b) :
    h.db.Queued project b := by
  cases op with
  | buildInfoAdd c info =>
    simp only [Op.run, buildInfoAdd] at hb
    split_ifs at hb
    · exact hb
    · exact hb.of_priority_eq rfl
  | buildInfoUpdate c info => exact hb.of_priority_eq (priority_buildInfoUpdate info)
  | priorityDel c updateStatus => exact queued_of_priorityDel hb
  | baselineAdd c =>
    simp only [Op.run, baselineAdd] at hb
    split_ifs at hb
    · exact hb
    · exact hb.of_priority_eq rfl
  | baselineDel baseline => exact hb.of_priority_eq rfl
  | addBuildTestResult c result => exact hb.of_priority_eq (priority_addBuildTestResult result)
  | updateBuildStatus c status =>
    apply hb.of_priority_eq
    simp only [Op.run, updateBuildStatus]
    cases Status.ofName? Status.all status with
    | none => rfl
    | some s => cases h.db.buildInfo.get? c <;> rfl
  | forceBuildStatus c status =>
    apply hb.of_priority_eq
    simp only [Op.run, forceBuildStatus]
    cases Status.ofName? Status.forcible status with
    | none => rfl
    | some s => cases h.db.buildInfo.get? c <;> rfl
  | cleanBuild wildcard exclude =>
    simp only [Op.run, cleanBuild] at hb
    have hloop : ∀ h', (cleanLoop wildcard exclude h.db.buildInfo.keys 0 h).2 = h' →
        h'.db.Queued project b → h.db.Queued project b := by
      rintro h' rfl hq
      exact queued_of_cleanLoop _ 0 hq
    rcases hc : cleanLoop wildcard exclude h.db.buildInfo.keys 0 h with ⟨_ | counter, h'⟩ <;>
      simp only [hc] at hb hloop
    · exact hloop h' rfl hb
    · exact hloop h' rfl hb.of_cleanPriority
  | purgeBuild wildcard =>
    simp only [Op.run, purgeBuild] at hb
    exact hb.of_cleanPriority.of_priority_eq (priority_purgeLoop h.db.buildInfo.keys 0 h.db)
  | updateBuildTestInfo c info persist =>
    exact hb.of_priority_eq (priority_updateBuildTestInfo info persist)
  | _ => exact absurd trivial hop

end NoNewBuild

/-! ## The next build -/

namespace Db

variable {db : Db} {project project' build : Text} {projects : List Text}

/-- Taking the build of high priority keeps the builds that wait. -/
@[simp] lemma pending_modifyQueue_clearHigh :
    (db.modifyQueue project Priority.clearHigh).pending project' = db.pending project' := by
  rcases eq_or_ne project' project with rfl | hproject
  · cases hq : db.priority.get? project' with
    | none => simp [pending, modifyQueue, hq]
    | some q => simp [pending_of_get? hq, pending_of_get? (get?_modifyQueue_self hq),
        Priority.clearHigh]
  · exact pending_modifyQueue_of_ne hproject

/-- Taking the build of high priority. -/
lemma highPriority_modifyQueue_clearHigh :
    (db.modifyQueue project Priority.clearHigh).highPriority project' =
      if project' = project then none else db.highPriority project' := by
  rcases eq_or_ne project' project with rfl | hproject
  · cases hq : db.priority.get? project' with
    | none => simp [highPriority, modifyQueue, hq]
    | some q => simp [highPriority_of_get? (get?_modifyQueue_self hq), Priority.clearHigh]
  · rw [highPriority_modifyQueue_of_ne hproject, if_neg hproject]

/-- Taking the youngest build that waits. -/
lemma pending_modifyQueue_pop :
    (db.modifyQueue project Priority.pop).pending project' =
      if project' = project then (db.pending project').dropLast else db.pending project' := by
  rcases eq_or_ne project' project with rfl | hproject
  · cases hq : db.priority.get? project' with
    | none => simp [pending, modifyQueue, hq]
    | some q => simp [pending_of_get? hq, pending_of_get? (get?_modifyQueue_self hq),
        Priority.pop]
  · rw [pending_modifyQueue_of_ne hproject, if_neg hproject]

/-- Taking the youngest build that waits keeps the builds of high priority. -/
@[simp] lemma highPriority_modifyQueue_pop :
    (db.modifyQueue project Priority.pop).highPriority project' = db.highPriority project' := by
  rcases eq_or_ne project' project with rfl | hproject
  · cases hq : db.priority.get? project' with
    | none => simp [highPriority, modifyQueue, hq]
    | some q => simp [highPriority_of_get? hq, highPriority_of_get? (get?_modifyQueue_self hq),
        Priority.pop]
  · exact highPriority_modifyQueue_of_ne hproject

/-- The build found by the first loop has high priority. -/
lemma highPriority_of_firstHighPriority (h : firstHighPriority db projects = some (project, build)) :
    db.highPriority project = some build := by
  induction projects with
  | nil => cases h
  | cons p ps ih =>
    unfold firstHighPriority at h
    cases hp : db.highPriority p with
    | none => exact ih (by simpa [hp] using h)
    | some rc =>
      simp only [hp, Option.some.injEq, Prod.mk.injEq] at h
      obtain ⟨rfl, rfl⟩ := h
      exact hp

/-- The build found by the second loop is the youngest that waits. -/
lemma getLast?_of_firstPending (h : firstPending db projects = some (project, build)) :
    (db.pending project).getLast? = some build := by
  induction projects with
  | nil => cases h
  | cons p ps ih =>
    unfold firstPending at h
    cases hp : (db.pending p).getLast? with
    | none => exact ih (by simpa [hp] using h)
    | some b =>
      simp only [hp, Option.some.injEq, Prod.mk.injEq] at h
      obtain ⟨rfl, rfl⟩ := h
      exact hp

/-- The search for the next build raises before it has changed anything, or finds a build of
high priority, or the youngest build that waits in a project, or nothing. -/
lemma findNextBuild_cases (extract : Bool) (db : Db) :
    (∃ e, findNextBuild extract db = (.error e, db)) ∨
    (∃ project build, db.highPriority project = some build ∧
      findNextBuild extract db = (.ok (some build, true),
        if extract then db.modifyQueue project Priority.clearHigh else db)) ∨
    (∃ project build, (db.pending project).getLast? = some build ∧
      findNextBuild extract db = (.ok (some build, false),
        if extract then db.modifyQueue project Priority.pop else db)) ∨
    findNextBuild extract db = (.ok (none, false), db) := by
  cases hs : sortedByVersion db.priority.keys with
  | error e => exact .inl ⟨e, by simp [findNextBuild, hs]⟩
  | ok projects =>
    cases hf : firstHighPriority db projects with
    | some found =>
      obtain ⟨project, build⟩ := found
      exact .inr (.inl ⟨project, build, highPriority_of_firstHighPriority hf,
        by simp [findNextBuild, hs, hf]⟩)
    | none =>
      cases hw : firstPending db projects.reverse with
      | some found =>
        obtain ⟨project, build⟩ := found
        exact .inr (.inr (.inl ⟨project, build, getLast?_of_firstPending hw,
          by simp [findNextBuild, hs, hf, hw]⟩))
      | none => exact .inr (.inr (.inr (by simp [findNextBuild, hs, hf, hw])))

end Db

end BuildHandler
