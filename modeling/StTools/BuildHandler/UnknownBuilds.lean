import StTools.BuildHandler.Queues

/-!
# Requests about unknown builds

Eight requests name a build that should be in the table of builds.  When it is not, they say so in
different ways: some raise, some answer a text or `False`, some only log.  `BuildRequest.serve` puts
them together with what they give back.

A request about a build that is neither known nor queued changes nothing, but for one thing:
increasing the priority deletes the queues that hold no build, as all changes of the queues do
(`serve_unknown`).
-/

namespace BuildHandler

/-- The requests about a build that should be known. -/
inductive BuildRequest where
  | buildInfoUpdate (info : Json)
  | priorityAdd
  | priorityIncrease
  | baselineAdd
  | addBuildTestResult (testResult : Json)
  | forceBuildStatus (status : Text)
  | updateBuildStatus (status : Text)
  | updateBuildTestInfo (testInfo : Json) (persist : Bool)

/-- What a request gives back. -/
inductive Reply where
  | raised (e : PyError)
  | flag (b : Bool)
  | text (t : Text)
  | nothing

/-- An answer, or the exception that was raised instead. -/
def Reply.ofExcept {α : Type} (answer : α → Reply) : Except PyError α → Reply
  | .error e => .raised e
  | .ok a => answer a

/-- Serve a request about a build. -/
def BuildRequest.serve (h : Handler) (build : Text) : BuildRequest → Reply × Handler
  | .buildInfoUpdate info =>
    (.ofExcept .flag (BuildHandler.buildInfoUpdate h build info).1,
      (BuildHandler.buildInfoUpdate h build info).2)
  | .priorityAdd =>
    (.ofExcept .flag (BuildHandler.priorityAdd h build).1, (BuildHandler.priorityAdd h build).2)
  | .priorityIncrease =>
    (.ofExcept .flag (BuildHandler.priorityIncrease h build).1,
      (BuildHandler.priorityIncrease h build).2)
  | .baselineAdd =>
    (.ofExcept .text (BuildHandler.baselineAdd h build).1, (BuildHandler.baselineAdd h build).2)
  | .addBuildTestResult testResult =>
    (.nothing, BuildHandler.addBuildTestResult h build testResult)
  | .forceBuildStatus status =>
    (.text (BuildHandler.forceBuildStatus h build status).1,
      (BuildHandler.forceBuildStatus h build status).2)
  | .updateBuildStatus status => (.nothing, BuildHandler.updateBuildStatus h build status)
  | .updateBuildTestInfo testInfo persist =>
    (.text (BuildHandler.updateBuildTestInfo h build testInfo persist).1,
      (BuildHandler.updateBuildTestInfo h build testInfo persist).2)

/-! ## Answers -/

/-- The texts that report success: `EXECUTED`, and that the status of the build was updated. -/
def IsSuccessText (build t : Text) : Prop :=
  t = "EXECUTED".toList ∨
    ∃ s ∈ Status.forcible, t = build ++ " build status updated to ".toList ++ s.name

/-- The reply reports a failure. -/
def Reply.ReportsFailure (build : Text) : Reply → Prop
  | .raised _ => True
  | .flag b => b = false
  | .text t => ¬ IsSuccessText build t
  | .nothing => False

/-- The request gives something back, or raises. -/
def BuildRequest.Answers : BuildRequest → Prop
  | .addBuildTestResult _ => False
  | .updateBuildStatus _ => False
  | _ => True

/-- The request replaces the test info. -/
def BuildRequest.ReplacesTestInfo : BuildRequest → Prop
  | .updateBuildTestInfo _ _ => True
  | _ => False

/-- A text that reports success ends like `EXECUTED` or like a status after a blank and `to`. -/
lemma IsSuccessText.ends {build t : Text} (h : IsSuccessText build t) :
    "EXECUTED".toList <:+ t ∨ ∃ s ∈ Status.forcible, "to ".toList ++ s.name <:+ t := by
  rcases h with rfl | ⟨s, hs, rfl⟩
  · exact .inl List.suffix_rfl
  · refine .inr ⟨s, hs, ?_⟩
    have hsplit : " build status updated to ".toList =
        " build status updated ".toList ++ "to ".toList := by decide
    rw [hsplit, ← List.append_assoc, List.append_assoc]
    exact List.suffix_append _ _

/-- A text that ends differently does not report success. -/
lemma not_isSuccessText {build t e : Text}
    (hexecuted : ¬ "EXECUTED".toList <:+ e ∧ ¬ e <:+ "EXECUTED".toList)
    (hstatus : ∀ s ∈ Status.forcible,
      ¬ "to ".toList ++ s.name <:+ e ∧ ¬ e <:+ "to ".toList ++ s.name) :
    ¬ IsSuccessText build (t ++ e) := by
  have happart : ∀ {a : Text}, ¬ a <:+ e ∧ ¬ e <:+ a → ¬ a <:+ t ++ e := fun hne hsuffix =>
    (List.suffix_or_suffix_of_suffix hsuffix (List.suffix_append t e)).elim hne.1 hne.2
  intro h
  rcases h.ends with hsuffix | ⟨s, hs, hsuffix⟩
  · exact happart hexecuted hsuffix
  · exact happart (hstatus s hs) hsuffix

/-- Forcing the status of an unknown build reports a failure and changes nothing. -/
lemma forceBuildStatus_unknown {h : Handler} {build : Text}
    (hunknown : h.db.buildInfo.get? build = none) (status : Text) :
    ¬ IsSuccessText build (forceBuildStatus h build status).1 ∧
      (forceBuildStatus h build status).2 = h := by
  cases hs : Status.ofName? Status.forcible status with
  | none =>
    have hforce : forceBuildStatus h build status =
        (status ++ " build status not valid. Allowed values are: ".toList ++
          List.intercalate [' '] (Status.forcible.map Status.name), h) := by
      simp only [forceBuildStatus, hs]
    rw [hforce]
    exact ⟨not_isSuccessText (by decide) (by decide), rfl⟩
  | some s =>
    have hforce : forceBuildStatus h build status =
        ("Build to update ".toList ++ build ++ " not found".toList, h) := by
      simp only [forceBuildStatus, hs, hunknown]
    rw [hforce]
    exact ⟨not_isSuccessText (by decide) (by decide), rfl⟩

/-! ## Queues -/

/-- Increasing the priority of a build that does not wait changes no queue. -/
lemma modifyQueue_promote {db : Db} {project build : Text}
    (hpending : build ∉ db.pending project) :
    db.modifyQueue project (Priority.promote build) = db := by
  have hsame : ∀ e ∈ db.priority.entries,
      (if e.1 = project then Priority.promote build e.2 else e.2) = e.2 := by
    intro e he
    split_ifs with hproject
    · have hq : db.priority.get? project = some e.2 := by
        rw [← hproject]
        exact Dict.get?_eq_some_iff.mpr he
      rw [Db.pending_of_get? hq] at hpending
      exact if_neg hpending
    · rfl
  have hentries : (db.priority.modify project (Priority.promote build)).entries =
      db.priority.entries := by
    refine (List.map_congr_left fun e he => ?_).trans (List.map_id _)
    exact congrArg (Sigma.mk e.1) (hsame e he)
  rw [Db.modifyQueue, AList.ext hentries]

/-- Increasing the priority of an unknown build fails; the queues without builds may be deleted. -/
lemma priorityIncrease_notQueued {h : Handler} {build : Text}
    (hqueued : ¬ h.db.Queued (getProject build) build) :
    (Reply.ofExcept .flag (priorityIncrease h build).1).ReportsFailure build ∧
      ((priorityIncrease h build).2 = h ∨ (priorityIncrease h build).2 = cleanAndUpdate h) := by
  have hpending : build ∉ h.db.pending (getProject build) := fun hmem => hqueued (.inl hmem)
  cases hq : h.db.priority.get? (getProject build) with
  | none =>
    have hincrease : priorityIncrease h build = (.error (.faultyAction
        (build ++ " build not found. ".toList ++ keyErrorText (getProject build))), h) := by
      simp only [priorityIncrease, hq]
    rw [hincrease]
    exact ⟨trivial, .inl rfl⟩
  | some q =>
    have hincrease : priorityIncrease h build = (.ok (decide (build ∈ q.pending)),
        cleanAndUpdate { h with
          db := h.db.modifyQueue (getProject build) (Priority.promote build) }) := by
      simp only [priorityIncrease, hq]
    rw [hincrease, modifyQueue_promote hpending]
    rw [Db.pending_of_get? hq] at hpending
    exact ⟨decide_eq_false hpending, .inr rfl⟩

/-! ## The eight requests -/

/-- What a request about an unknown build may do to the database in memory. -/
def BuildRequest.Leaves (h : Handler) (req : BuildRequest) (db : Db) : Prop :=
  db = h.db ∨ req = .priorityIncrease ∧ db = h.db.cleanPriority

/-- **Unknown builds.**  A request about a build that is neither known nor queued leaves the
database as it is, but for empty queues that increasing the priority deletes.  What it answers or
raises reports a failure, unless it replaces the test info. -/
theorem serve_unknown (h : Handler) (build : Text) (req : BuildRequest)
    (hunknown : ¬ h.db.Known build) (hqueued : ∀ project, ¬ h.db.Queued project build) :
    req.Leaves h (req.serve h build).2.db ∧
      (req.Answers → ¬ req.ReplacesTestInfo → (req.serve h build).1.ReportsFailure build) := by
  have hnone : h.db.buildInfo.get? build = none := by
    simpa [Db.Known] using hunknown
  have hisNone : (h.db.buildInfo.get? build).isNone := by
    rw [hnone]
    rfl
  cases req with
  | buildInfoUpdate info =>
    have hupdate : buildInfoUpdate h build info = (.error (.faultyAction
        (build ++ " does not exists in DB. No actions".toList)), h) := by
      simp only [buildInfoUpdate, hnone]
    refine ⟨.inl ?_, fun _ _ => ?_⟩
    · rw [BuildRequest.serve, hupdate]
    · rw [BuildRequest.serve, hupdate]
      trivial
  | priorityAdd =>
    have hadd : priorityAdd h build = (.error (.faultyAction
        (build ++ " does not exists in DB. No actions".toList)), h) := if_pos hisNone
    refine ⟨.inl ?_, fun _ _ => ?_⟩
    · rw [BuildRequest.serve, hadd]
    · rw [BuildRequest.serve, hadd]
      trivial
  | priorityIncrease =>
    obtain ⟨hfailure, hleaves⟩ := priorityIncrease_notQueued (hqueued (getProject build))
    refine ⟨?_, fun _ _ => hfailure⟩
    rcases hleaves with hsame | hclean
    · exact .inl (congrArg Handler.db hsame)
    · exact .inr ⟨rfl, congrArg Handler.db hclean⟩
  | baselineAdd =>
    have hadd : baselineAdd h build = (.error (.faultyAction
        (build ++ " does not exists in DB. No actions".toList)), h) := if_pos hisNone
    refine ⟨.inl ?_, fun _ _ => ?_⟩
    · rw [BuildRequest.serve, hadd]
    · rw [BuildRequest.serve, hadd]
      trivial
  | addBuildTestResult testResult =>
    refine ⟨.inl ?_, False.elim⟩
    simp only [BuildRequest.serve, addBuildTestResult, hnone]
  | forceBuildStatus status =>
    obtain ⟨hfailure, hsame⟩ := forceBuildStatus_unknown hnone status
    exact ⟨.inl (congrArg Handler.db hsame), fun _ _ => hfailure⟩
  | updateBuildStatus status =>
    refine ⟨.inl ?_, False.elim⟩
    cases hs : Status.ofName? Status.all status with
    | none => simp only [BuildRequest.serve, updateBuildStatus, hs]
    | some s => simp only [BuildRequest.serve, updateBuildStatus, hs, hnone]
  | updateBuildTestInfo testInfo persist =>
    refine ⟨.inl ?_, fun _ hreplaces => (hreplaces trivial).elim⟩
    change (updateBuildTestInfo h build testInfo persist).2.db = h.db
    unfold updateBuildTestInfo
    rw [hnone]
    cases persist
    · rfl
    · rfl

/-- A build was added, queued and taken for a test; its queue is empty. -/
def emptiedQueue : Handler :=
  let build := "HSS-1.28.2.20".toList
  let ops : List Op := [.buildInfoAdd build (.obj []), .priorityAdd build, .getBuild]
  ops.foldl Op.run Handler.init

/-- The queue of the project is empty, and no other build is known or queued. -/
lemma emptiedQueue_unknown : ¬ emptiedQueue.db.Known "HSS-1.28.2.21".toList ∧
    ∀ project, ¬ emptiedQueue.db.Queued project "HSS-1.28.2.21".toList := by
  have hqueue : ∀ project, emptiedQueue.db.priority.get? project =
      if project = "HSS-1.28.2".toList then some ⟨[], none⟩ else none := by
    intro project
    split_ifs with h
    · rw [h]
      rfl
    · exact List.dlookup_eq_none.mpr fun hmem => h (List.mem_singleton.mp hmem)
  constructor
  · intro hknown
    cases hknown
  · intro project hqueued
    rw [Db.Queued, Db.pending, Db.highPriority, hqueue] at hqueued
    split_ifs at hqueued <;> simp at hqueued

/-- The attempt to promote such a build fails. -/
theorem emptiedQueue_fails :
    BuildRequest.priorityIncrease.Leaves emptiedQueue
        (BuildRequest.priorityIncrease.serve emptiedQueue "HSS-1.28.2.21".toList).2.db ∧
      (BuildRequest.priorityIncrease.serve emptiedQueue
        "HSS-1.28.2.21".toList).1.ReportsFailure "HSS-1.28.2.21".toList := by
  obtain ⟨hleaves, hfailure⟩ := serve_unknown emptiedQueue "HSS-1.28.2.21".toList
    .priorityIncrease emptiedQueue_unknown.1 emptiedQueue_unknown.2
  exact ⟨hleaves, hfailure trivial not_false⟩

/-- The attempt deletes the empty queue. -/
theorem emptiedQueue_changed :
    (¬ emptiedQueue.db.Known "HSS-1.28.2.21".toList ∧
      ∀ project, ¬ emptiedQueue.db.Queued project "HSS-1.28.2.21".toList) ∧
      (BuildRequest.priorityIncrease.serve emptiedQueue "HSS-1.28.2.21".toList).2.db ≠
        emptiedQueue.db := by
  refine ⟨emptiedQueue_unknown, fun hsame => ?_⟩
  have hkeys := congrArg (fun db => db.priority.keys.length) hsame
  exact absurd hkeys (by decide)

end BuildHandler
