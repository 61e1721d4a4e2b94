import StTools.BuildHandler.QueueInvariant

/-!
# The file and the memory

A request that changes the tables should write them, whichever way it returns; only
`update_build_test_info` with `persist` false may leave a change unwritten.

The early return of `priority_del` for a build that is not known misses this: when the build is
queued, it has been taken off its queue by then, and the file still holds it.  All other
requests write what they change, on every path.
-/

namespace BuildHandler

/-- Two databases hold the same: every look-up finds the same in both. -/
structure Db.Same (a b : Db) : Prop where
  priority : ∀ project, a.priority.get? project = b.priority.get? project
  buildInfo : ∀ build, a.buildInfo.get? build = b.buildInfo.get? build
  baselines : a.baselines.map Dict.get? = b.baselines.map Dict.get?

/-- Unless a test info has been left unwritten on purpose, the file holds what the memory
holds.  What a restart or a refresh reads is then what was in memory. -/
def FileAgrees (h : Handler) : Prop := h.unsaved = false → h.file.Same h.db

/-- The request takes a queued build that is not known off its queue and looks it up, while
nothing else is unwritten. -/
def DropsUnwritten (h : Handler) : Op → Prop
  | .priorityDel build true =>
    h.unsaved = false ∧ h.db.Queued (getProject build) build ∧ ¬ h.db.Known build
  | _ => False

namespace Db.Same

variable {a b c : Db}

/-- A database holds the same as itself. -/
lemma refl (a : Db) : a.Same a := ⟨fun _ => rfl, fun _ => rfl, rfl⟩

/-- Holding the same carries over. -/
lemma trans (hab : a.Same b) (hbc : b.Same c) : a.Same c :=
  ⟨fun p => (hab.priority p).trans (hbc.priority p),
    fun build => (hab.buildInfo build).trans (hbc.buildInfo build),
    hab.baselines.trans hbc.baselines⟩

/-- A change of an entry that changes nothing. -/
lemma modifyBuild {build : Text} {f : BuildInfo → BuildInfo}
    (hf : ∀ entry, a.buildInfo.get? build = some entry → f entry = entry) :
    a.Same (a.modifyBuild build f) := by
  refine ⟨fun _ => rfl, fun b => ?_, rfl⟩
  unfold Db.modifyBuild
  rw [Dict.get?_modify]
  split_ifs with hb
  · subst hb
    cases hentry : a.buildInfo.get? b with
    | none => rfl
    | some entry => rw [Option.map_some, hf entry hentry]
  · rfl

/-- A change of a queue that changes nothing. -/
lemma modifyQueue {project : Text} {f : Priority → Priority}
    (hf : ∀ q, a.priority.get? project = some q → f q = q) :
    a.Same (a.modifyQueue project f) := by
  refine ⟨fun p => ?_, fun _ => rfl, rfl⟩
  unfold Db.modifyQueue
  rw [Dict.get?_modify]
  split_ifs with hp
  · subst hp
    cases hq : a.priority.get? p with
    | none => rfl
    | some q => rw [Option.map_some, hf q hq]
  · rfl

end Db.Same

variable {h h' : Handler} {db : Db} {build : Text}

/-- What has just been written agrees. -/
lemma fileAgrees_updateDb (h : Handler) : FileAgrees (updateDb h) := fun _ => Db.Same.refl h.db

/-- What has just been cleaned and written agrees. -/
lemma fileAgrees_cleanAndUpdate (h : Handler) : FileAgrees (cleanAndUpdate h) :=
  fileAgrees_updateDb _

/-- Memory that holds the same as before agrees as before. -/
lemma FileAgrees.of_same (hI : FileAgrees h) (hsame : h.db.Same db) :
    FileAgrees { h with db } :=
  fun hsaved => (hI hsaved).trans hsame

/-! ## Updates of test infos -/

/-- A field is taken over by one object from another, or not at all. -/
lemma copyField_ok_cases {field : Text} {info testInfo testInfo' : Json}
    (hok : copyField field info testInfo = .ok testInfo') :
    testInfo' = testInfo ∨ ∃ m m', info = .obj m ∧ testInfo' = .obj m' := by
  unfold copyField at hok
  cases info with
  | obj m =>
    cases hv : (Json.obj m).getItem field with
    | ok v =>
      simp only [hv] at hok
      split_ifs at hok
      · cases testInfo with
        | obj m' => exact .inr ⟨m, _, rfl, (Except.ok.inj hok).symm⟩
        | _ => cases hok
      · exact .inl (Except.ok.inj hok).symm
    | error e =>
      cases e with
      | keyError key => exact .inl (by simpa [hv] using hok.symm)
      | _ => simp [hv] at hok
  | _ => simp [Json.getItem] at hok

/-- One object can take over a field from another. -/
lemma copyField_obj (field : Text) (m m' : List (Text × Json)) :
    ∃ testInfo, copyField field (.obj m) (.obj m') = .ok testInfo := by
  cases hv : m.lookup field with
  | none => exact ⟨.obj m', by simp [copyField, Json.getItem, hv]⟩
  | some v =>
    cases ht : v.truthy with
    | false => exact ⟨.obj m', by simp [copyField, Json.getItem, hv, ht]⟩
    | true =>
      exact ⟨.obj (Json.setKey field v m'), by simp [copyField, Json.getItem, Json.update, hv, ht]⟩

/-- When taking over the second field raises, the first has not been taken over. -/
lemma eq_of_copyField_error {field field' : Text} {info testInfo testInfo' : Json} {e : PyError}
    (hfirst : copyField field info testInfo = .ok testInfo')
    (hnext : copyField field' info testInfo' = .error e) : testInfo' = testInfo := by
  rcases copyField_ok_cases hfirst with hsame | ⟨m, m', rfl, rfl⟩
  · exact hsame
  · obtain ⟨testInfo'', hok⟩ := copyField_obj field' m m'
    rw [hok] at hnext
    cases hnext

/-- An update of a test info writes what it changes: when it raises, nothing is changed. -/
lemma fileAgrees_buildInfoUpdate (info : Json) (hI : FileAgrees h) :
    FileAgrees (buildInfoUpdate h build info).2 := by
  unfold buildInfoUpdate
  cases hentry : h.db.buildInfo.get? build with
  | none => exact hI
  | some entry =>
    dsimp only
    split_ifs
    · cases hfirst : copyField "packages".toList info entry.testInfo with
      | error e => exact hI
      | ok testInfo =>
        dsimp only
        cases hnext : copyField "GIT_repos".toList info testInfo with
        | error e =>
          apply hI.of_same
          apply Db.Same.modifyBuild
          intro entry' hentry'
          rw [hentry, Option.some.injEq] at hentry'
          subst hentry'
          rw [eq_of_copyField_error hfirst hnext]
          rfl
        | ok testInfo' => exact fileAgrees_updateDb _
    · exact hI

/-! ## Queues -/

/-- Taking a build off a queue changes nothing exactly when it is not in the queue. -/
lemma Priority.dequeue_eq_self_iff {q : Priority} :
    q.dequeue build = q ↔ build ∉ q.pending ∧ q.highPriority ≠ some build := by
  constructor
  · intro heq
    have hpending : q.pending.erase build = q.pending := by
      rw [← Priority.pending_dequeue, heq]
    have hnot : build ∉ q.pending := by
      intro hmem
      have hlength := List.length_erase_of_mem hmem
      have hpos := List.length_pos_of_mem hmem
      rw [hpending] at hlength
      omega
    refine ⟨hnot, fun hhp => ?_⟩
    have hhigh : (q.dequeue build).highPriority = _ := Priority.highPriority_dequeue
    rw [heq, if_pos ⟨hnot, hhp⟩, hhp] at hhigh
    cases hhigh
  · rintro ⟨hnot, hhp⟩
    rw [Priority.dequeue, if_neg hnot, if_neg hhp]

/-- `priority_del` writes what it changes, unless it drops a queued build that is not known. -/
lemma fileAgrees_priorityDel {updateStatus : Bool} (hI : FileAgrees h)
    (hop : ¬ DropsUnwritten h (.priorityDel build updateStatus)) :
    FileAgrees (priorityDel h build updateStatus) := by
  cases hq : h.db.priority.get? (getProject build) with
  | none =>
    rw [priorityDel_of_none hq]
    exact hI
  | some q =>
    rcases priorityDel_of_some updateStatus hq with
      ⟨-, hdel⟩ | ⟨rfl, hnone, hdel⟩ | ⟨-, -, hdel⟩
    · rw [hdel]
      exact fileAgrees_cleanAndUpdate _
    · rw [hdel]
      intro hsaved
      have hunknown : ¬ h.db.Known build := by simp [Db.Known, hnone]
      have hnot : ¬ h.db.Queued (getProject build) build :=
        fun hqueued => hop ⟨hsaved, hqueued, hunknown⟩
      refine (hI hsaved).trans (Db.Same.modifyQueue ?_)
      intro q' hq'
      rw [hq, Option.some.injEq] at hq'
      subst hq'
      rw [Priority.dequeue_eq_self_iff, ← Db.pending_of_get? hq, ← Db.highPriority_of_get? hq]
      exact not_or.mp hnot
    · rw [hdel]
      exact fileAgrees_cleanAndUpdate _

/-- A queued build that is not known is dropped in memory only. -/
lemma not_fileAgrees_of_drops (op : Op) (hI : FileAgrees h) (hop : DropsUnwritten h op) :
    ¬ FileAgrees (op.run h) := by
  obtain ⟨b, rfl⟩ : ∃ b, op = .priorityDel b true := by
    unfold DropsUnwritten at hop
    split at hop
    · exact ⟨_, rfl⟩
    · exact hop.elim
  obtain ⟨hsaved, hqueued, hunknown⟩ := hop
  have hnone : h.db.buildInfo.get? b = none := by
    simpa [Db.Known] using hunknown
  cases hq : h.db.priority.get? (getProject b) with
  | none =>
    rcases hqueued with hmem | hhp
    · simp [Db.pending_of_none hq] at hmem
    · simp [Db.highPriority_of_none hq] at hhp
  | some q =>
    have hrun : Op.run h (.priorityDel b true) =
        { h with db := h.db.modifyQueue (getProject b) (Priority.dequeue b) } := by
      simp [Op.run, priorityDel, hq, hnone]
    rw [hrun]
    intro hagrees
    have hfile := (hI hsaved).priority (getProject b)
    have hafter := (hagrees hsaved).priority (getProject b)
    rw [Db.get?_modifyQueue_self hq] at hafter
    simp only [hfile, hq, Option.some.injEq] at hafter
    obtain ⟨hpending, hhigh⟩ := Priority.dequeue_eq_self_iff.mp hafter.symm
    rw [← Db.pending_of_get? hq] at hpending
    rw [← Db.highPriority_of_get? hq] at hhigh
    exact hqueued.elim hpending hhigh

/-! ## Cleaning -/

/-- With a table of baselines the loop of `clean_build` does not raise. -/
lemma cleanLoop_ne_error {wildcard exclude : Text} {e : PyError} (keys : List Text) (counter : ℕ)
    (hbase : h.db.baselines.isSome) : (cleanLoop wildcard exclude keys counter h).1 ≠ .error e := by
  induction keys generalizing counter h with
  | nil => exact fun herror => nomatch herror
  | cons key keys ih =>
    unfold cleanLoop
    obtain ⟨baselines, hb⟩ := Option.isSome_iff_exists.mp hbase
    split_ifs
    · simp only [baselines_priorityDel, hb]
      apply ih
      split_ifs <;> simp [hb]
    · exact ih counter hbase

/-- When the loop of `clean_build` raises, the file agrees as before: it raises at the first
build that it cleans, after this build has been taken off its queue. -/
lemma fileAgrees_cleanLoop_error {wildcard exclude : Text} {e : PyError} (keys : List Text)
    (counter : ℕ) (hI : FileAgrees h)
    (herror : (cleanLoop wildcard exclude keys counter h).1 = .error e) :
    FileAgrees (cleanLoop wildcard exclude keys counter h).2 := by
  induction keys generalizing counter h with
  | nil => cases herror
  | cons key keys ih =>
    unfold cleanLoop at herror ⊢
    split_ifs at herror ⊢
    · cases hb : h.db.baselines with
      | none =>
        simp only [baselines_priorityDel, hb]
        exact fileAgrees_priorityDel hI id
      | some baselines =>
        simp only [baselines_priorityDel, hb] at herror
        refine absurd herror (cleanLoop_ne_error keys (counter + 1) ?_)
        split_ifs <;> simp [hb]
    · exact ih counter hI herror

/-! ## Every request -/

/-- A delivery writes what it takes off a queue, also when it fails afterwards. -/
lemma fileAgrees_getBuild (hI : FileAgrees h) : FileAgrees (getBuild h).2 := by
  rcases hf : findNextBuild true h.db with ⟨_ | ⟨_ | b, rc⟩, db'⟩ <;> simp only [getBuild, hf]
  · rw [eq_of_findNextBuild_error hf]
    exact hI
  · rcases Db.findNextBuild_cases true h.db with
      ⟨e, hf'⟩ | ⟨project, b, -, hf'⟩ | ⟨project, b, -, hf'⟩ | hf' <;> rw [hf] at hf' <;>
      cases hf'
    exact hI
  · have hwritten : FileAgrees (updateDb { h with db := db' }) := fileAgrees_updateDb _
    split <;> exact hwritten

/-- Replacing a test info is written, or marked as unwritten. -/
lemma fileAgrees_updateBuildTestInfo (testInfo : Json) (persist : Bool) (hI : FileAgrees h) :
    FileAgrees (updateBuildTestInfo h build testInfo persist).2 := by
  unfold updateBuildTestInfo
  cases persist with
  | true => exact fileAgrees_updateDb _
  | false =>
    cases h.db.buildInfo.get? build with
    | none => exact hI
    | some entry => exact fun hsaved => nomatch hsaved

/-- **Step lemma.**  After every request the file agrees with the memory, unless the request
drops a queued build that is not known. -/
lemma fileAgrees_run (op : Op) (hI : FileAgrees h) (hop : ¬ DropsUnwritten h op) :
    FileAgrees (op.run h) := by
  cases op with
  | buildInfoAdd b info =>
    simp only [Op.run, buildInfoAdd]
    split_ifs
    · exact hI
    · exact fileAgrees_updateDb _
  | buildInfoUpdate b info => exact fileAgrees_buildInfoUpdate info hI
  | priorityAdd b =>
    simp only [Op.run, priorityAdd]
    split_ifs
    · exact hI
    · exact fileAgrees_cleanAndUpdate _
  | priorityDel b updateStatus => exact fileAgrees_priorityDel hI hop
  | priorityIncrease b =>
    simp only [Op.run, priorityIncrease]
    cases h.db.priority.get? (getProject b) with
    | none => exact hI
    | some q => exact fileAgrees_cleanAndUpdate _
  | baselineAdd b =>
    simp only [Op.run, baselineAdd]
    split_ifs
    · exact hI
    · exact fileAgrees_updateDb _
  | baselineDel baseline => exact fileAgrees_updateDb _
  | addBuildTestResult b result =>
    simp only [Op.run, addBuildTestResult]
    cases h.db.buildInfo.get? b with
    | none => exact hI
    | some entry => exact fileAgrees_updateDb _
  | updateBuildStatus b status =>
    simp only [Op.run, updateBuildStatus]
    cases Status.ofName? Status.all status with
    | none => exact hI
    | some s =>
      cases h.db.buildInfo.get? b with
      | none => exact hI
      | some entry => exact fileAgrees_updateDb _
  | forceBuildStatus b status =>
    simp only [Op.run, forceBuildStatus]
    cases Status.ofName? Status.forcible status with
    | none => exact hI
    | some s =>
      cases h.db.buildInfo.get? b with
      | none => exact hI
      | some entry => exact fileAgrees_updateDb _
  | getBuild => exact fileAgrees_getBuild hI
  | cleanBuild wildcard exclude =>
    simp only [Op.run, cleanBuild]
    rcases hc : cleanLoop wildcard exclude h.db.buildInfo.keys 0 h with ⟨_ | counter, h'⟩
    · have hloop : FileAgrees (cleanLoop wildcard exclude h.db.buildInfo.keys 0 h).2 :=
        fileAgrees_cleanLoop_error _ 0 hI (congrArg Prod.fst hc)
      rwa [hc] at hloop
    · exact fileAgrees_cleanAndUpdate _
  | purgeBuild wildcard => exact fileAgrees_cleanAndUpdate _
  | updateBuildTestInfo b info persist => exact fileAgrees_updateBuildTestInfo info persist hI
  | refreshDBMFromFile => exact fun _ => Db.Same.refl h.file

/-- **The file and the memory.**  From a state in which the file holds what the memory holds, it
does so after every request of a sequence, a test info left unwritten on purpose apart, exactly
when no request of the sequence drops a queued build that is not known. -/
theorem fileAgrees_throughout_iff (h : Handler) (hsame : h.file.Same h.db) (ops : List Op) :
    LabelledSystem.Throughout step FileAgrees h ops ↔
      LabelledSystem.Along step (fun h op => ¬ DropsUnwritten h op) h ops := by
  refine LabelledSystem.throughout_iff_along (I := FileAgrees) ?_ ?_ ?_ fun _ => hsame
  · intro h op h' hI hop hstep
    cases hstep
    exact fileAgrees_run op hI hop
  · exact fun _ hI => hI
  · intro h op h' hI hop hstep
    cases hstep
    exact not_fileAgrees_of_drops op hI (not_not.mp hop)

/-- No request of `readdedRun` drops an unknown build, so the file agrees all along. -/
theorem readdedRun_fileAgrees :
    LabelledSystem.Throughout step FileAgrees Handler.init readdedRun :=
  (fileAgrees_throughout_iff Handler.init (Db.Same.refl _) readdedRun).mpr
    (by simp [LabelledSystem.Along, readdedRun, DropsUnwritten])

/-- A build that is queued but no longer known is taken off its queue by a faulty-build report,
and a refresh brings it back. -/
theorem droppedBuild_resurrected :
    ¬ LabelledSystem.Throughout step FileAgrees Handler.init
        (readdedRun ++ [.priorityDel "HSS-1.28.2.20".toList true]) ∧
      ∃ h, LabelledSystem.exec step Handler.init
          (readdedRun ++ [.priorityDel "HSS-1.28.2.20".toList true]) = some h ∧
        h.db.highPriority "HSS-1.28.2".toList = none ∧
        (refreshDBMFromFile h).db.highPriority "HSS-1.28.2".toList =
          some "HSS-1.28.2.20".toList := by
  refine ⟨?_, _, rfl, by decide, by decide⟩
  intro hall
  have hlast : FileAgrees _ := hall.last rfl
  have hqueue := (hlast rfl).priority "HSS-1.28.2".toList
  exact absurd hqueue (by decide)

end BuildHandler
