import StTools.BuildHandler.QueueInvariant
import StTools.Lib.Drain

/-!
# The published queue is the delivery order

`fetch_pending_build_list` lists all queued builds in two passes over the projects;
`find_next_build` makes the same two passes but stops at the first build, and `get_build` takes
that build off its queue.  Both are read as draining queues in order: the projects in ascending
order with their build of high priority, and then in descending order with the builds that wait,
the youngest first.
-/

namespace BuildHandler

/-- The build of high priority of a project, as a queue. -/
def Db.highQueue (db : Db) (project : Text) : List (Text × Bool) :=
  ((db.highPriority project).map fun rc => (rc, true)).toList

/-- The builds of a project that wait, in the order of delivery. -/
def Db.waitQueue (db : Db) (project : Text) : List (Text × Bool) :=
  (db.pending project).reverse.map fun build => (build, false)

variable {db : Db} {h : Handler} {project build : Text} {projects : List Text}

/-- The first loop looks for the front of the queues of high priority. -/
lemma firstHighPriority_eq_next (db : Db) (projects : List Text) :
    (firstHighPriority db projects).map (fun found => (found.1, found.2, true)) =
      Drain.next db.highQueue projects := by
  induction projects with
  | nil => rfl
  | cons p ps ih =>
    unfold firstHighPriority Drain.next
    cases hp : db.highPriority p with
    | none => simpa [Db.highQueue, hp] using ih
    | some rc => simp [Db.highQueue, hp]

/-- The second loop looks for the front of the queues of builds that wait. -/
lemma firstPending_eq_next (db : Db) (projects : List Text) :
    (firstPending db projects).map (fun found => (found.1, found.2, false)) =
      Drain.next db.waitQueue projects := by
  induction projects with
  | nil => rfl
  | cons p ps ih =>
    unfold firstPending Drain.next
    cases hp : (db.pending p).getLast? with
    | none =>
      have hnil : db.pending p = [] := List.getLast?_eq_none_iff.mp hp
      simpa [Db.waitQueue, hp, hnil] using ih
    | some b =>
      obtain ⟨l, hl⟩ := List.getLast?_eq_some_iff.mp hp
      simp [Db.waitQueue, hl]

/-- The published list in terms of the queues. -/
lemma fetchPendingBuildList_of_sorted (hs : sortedByVersion db.priority.keys = .ok projects) :
    fetchPendingBuildList db =
      .ok (projects.flatMap db.highQueue ++ projects.reverse.flatMap db.waitQueue) := by
  rw [fetchPendingBuildList, hs]
  simp only [List.filterMap_eq_flatMap_toList]
  rfl

/-- Taking the build of high priority of a project takes the front of its queue. -/
lemma highQueue_clearHigh : (db.modifyQueue project Priority.clearHigh).highQueue =
    Function.update db.highQueue project (db.highQueue project).tail := by
  funext p
  rcases eq_or_ne p project with rfl | hne
  · rw [Function.update_self, Db.highQueue, Db.highPriority_modifyQueue_clearHigh, if_pos rfl]
    cases hp : db.highPriority p <;> simp [Db.highQueue, hp]
  · rw [Function.update_of_ne hne, Db.highQueue, Db.highPriority_modifyQueue_clearHigh,
      if_neg hne, Db.highQueue]

/-- Taking the youngest build that waits takes the front of the queue of its project. -/
lemma waitQueue_pop : (db.modifyQueue project Priority.pop).waitQueue =
    Function.update db.waitQueue project (db.waitQueue project).tail := by
  funext p
  rcases eq_or_ne p project with rfl | hne
  · rw [Function.update_self, Db.waitQueue, Db.pending_modifyQueue_pop, if_pos rfl, Db.waitQueue,
      ← List.map_tail, List.tail_reverse]
  · rw [Function.update_of_ne hne, Db.waitQueue, Db.pending_modifyQueue_pop, if_neg hne,
      Db.waitQueue]

/-- What a database publishes decides the next build: the head of the list is found, and without
it the rest of the list is published. -/
lemma findNextBuild_of_published {l : List (Text × Bool)} (hl : fetchPendingBuildList db = .ok l)
    (extract : Bool) :
    match l with
    | [] => findNextBuild extract db = (.ok (none, false), db)
    | x :: rest => ∃ db', findNextBuild extract db =
        (.ok (some x.1, x.2), if extract then db' else db) ∧
          fetchPendingBuildList db' = .ok rest := by
  cases hs : sortedByVersion db.priority.keys with
  | error e => simp [fetchPendingBuildList, hs] at hl
  | ok projects =>
    have hnodup : projects.Nodup :=
      (perm_of_sortedByVersion hs).nodup_iff.mpr (AList.keys_nodup db.priority)
    rw [fetchPendingBuildList_of_sorted hs] at hl
    have hl : projects.flatMap db.highQueue ++ projects.reverse.flatMap db.waitQueue = l :=
      Except.ok.inj hl
    have hhigh := firstHighPriority_eq_next db projects
    have hwait := firstPending_eq_next db projects.reverse
    cases hf : firstHighPriority db projects with
    | some found =>
      obtain ⟨project, rc⟩ := found
      rw [hf] at hhigh
      have hsplit := Drain.flatMap_of_next_some hnodup hhigh.symm
      rw [hsplit, List.cons_append] at hl
      subst hl
      refine ⟨db.modifyQueue project Priority.clearHigh, by simp [findNextBuild, hs, hf], ?_⟩
      have hs' : sortedByVersion (db.modifyQueue project Priority.clearHigh).priority.keys =
          .ok projects := by
        rw [Db.keys_modifyQueue, hs]
      rw [fetchPendingBuildList_of_sorted hs', highQueue_clearHigh]
      have hsame : (db.modifyQueue project Priority.clearHigh).waitQueue = db.waitQueue := by
        funext p
        simp [Db.waitQueue]
      rw [hsame]
    | none =>
      rw [hf] at hhigh
      rw [Drain.flatMap_of_next_none hhigh.symm, List.nil_append] at hl
      cases hw : firstPending db projects.reverse with
      | some found =>
        obtain ⟨project, b⟩ := found
        rw [hw] at hwait
        have hsplit := Drain.flatMap_of_next_some (List.nodup_reverse.mpr hnodup) hwait.symm
        rw [hsplit] at hl
        subst hl
        refine ⟨db.modifyQueue project Priority.pop, by simp [findNextBuild, hs, hf, hw], ?_⟩
        have hs' : sortedByVersion (db.modifyQueue project Priority.pop).priority.keys =
            .ok projects := by
          rw [Db.keys_modifyQueue, hs]
        rw [fetchPendingBuildList_of_sorted hs', waitQueue_pop]
        have hsame : (db.modifyQueue project Priority.pop).highQueue = db.highQueue := by
          funext p
          simp [Db.highQueue]
        rw [hsame, Drain.flatMap_of_next_none hhigh.symm, List.nil_append]
      | none =>
        rw [hw] at hwait
        rw [Drain.flatMap_of_next_none hwait.symm] at hl
        subst hl
        simp [findNextBuild, hs, hf, hw]

/-! ## Delivering everything -/

/-- One pass of `while True: build, info, rc = h.get_build` that collects the builds until there
is none. -/
def deliverPass (s : Handler × List (Text × Bool)) :
    (Handler × List (Text × Bool)) ⊕ Except PyError (List (Text × Bool)) :=
  match getBuild s.1 with
  | (.error e, _) => .inr (.error e)
  | (.ok (none, _, _), _) => .inr (.ok s.2)
  | (.ok (some build, _, rc), h) => .inl (h, s.2 ++ [(build, rc)])

/-- Published builds are queued. -/
lemma queued_of_published {l : List (Text × Bool)} (hl : fetchPendingBuildList db = .ok l)
    {x : Text × Bool} (hx : x ∈ l) : ∃ project, db.Queued project x.1 := by
  cases hs : sortedByVersion db.priority.keys with
  | error e => simp [fetchPendingBuildList, hs] at hl
  | ok projects =>
    rw [fetchPendingBuildList_of_sorted hs] at hl
    rw [← Except.ok.inj hl] at hx
    rcases List.mem_append.mp hx with hx | hx
    · obtain ⟨project, -, hmem⟩ := List.mem_flatMap.mp hx
      simp only [Db.highQueue, Option.mem_toList, Option.map_eq_some_iff] at hmem
      obtain ⟨rc, hrc, rfl⟩ := hmem
      exact ⟨project, .inr hrc⟩
    · obtain ⟨project, -, hmem⟩ := List.mem_flatMap.mp hx
      simp only [Db.waitQueue, List.mem_map, List.mem_reverse] at hmem
      obtain ⟨b, hb, rfl⟩ := hmem
      exact ⟨project, .inl hb⟩

/-- What the handler publishes, and that the published builds are known. -/
def Publishes (h : Handler) (l : List (Text × Bool)) : Prop :=
  fetchPendingBuildList h.db = .ok l ∧ ∀ x ∈ l, h.db.Known x.1

/-- With nothing published there is no build to deliver. -/
lemma getBuild_of_publishes_nil (hl : Publishes h []) :
    getBuild h = (.ok (none, .null, false), h) := by
  have hfind := findNextBuild_of_published hl.1 true
  simp only at hfind
  rw [getBuild, hfind]

/-- The head of the published list is delivered, and the rest stays published. -/
lemma getBuild_of_publishes_cons {x : Text × Bool} {rest : List (Text × Bool)}
    (hl : Publishes h (x :: rest)) : ∃ info h',
      getBuild h = (.ok (some x.1, info, x.2), h') ∧ Publishes h' rest := by
  obtain ⟨db', hfind, hrest⟩ := findNextBuild_of_published hl.1 true
  rw [if_pos rfl] at hfind
  have hinfo : db'.buildInfo = h.db.buildInfo := by
    have hkeep : (findNextBuild true h.db).2.buildInfo = h.db.buildInfo :=
      buildInfo_findNextBuild
    rwa [hfind] at hkeep
  obtain ⟨entry, hentry⟩ := Option.isSome_iff_exists.mp (hl.2 x List.mem_cons_self)
  refine ⟨entry.testInfo, updateDb { h with db := db' }, ?_, hrest, ?_⟩
  · simp [getBuild, hfind, updateDb, hinfo, hentry]
  · intro y hy
    have hy' : h.db.Known y.1 := hl.2 y (List.mem_cons_of_mem x hy)
    unfold Db.Known at hy' ⊢
    simpa [updateDb, hinfo] using hy'

/-- Delivering until there is no build collects what was published. -/
lemma returns_deliverPass {l : List (Text × Bool)} (hl : Publishes h l) :
    WhileLoop.Returns deliverPass (h, []) (.ok l) := by
  have hdrain := Drain.returns_of_drain (fun h => ∃ l, Publishes h l)
    (fun h => (fetchPendingBuildList h.db).toOption.getD []) Except.ok deliverPass ?_ ?_
    (s := h) ⟨l, hl⟩ []
  · simpa [hl.1, Except.toOption] using hdrain
  · rintro h acc ⟨l, hl⟩ hnil
    have : l = [] := by simpa [hl.1, Except.toOption] using hnil
    subst this
    simp [deliverPass, getBuild_of_publishes_nil hl]
  · rintro h acc x xs ⟨l, hl⟩ hcons
    have : l = x :: xs := by simpa [hl.1, Except.toOption] using hcons
    subst this
    obtain ⟨info, h', hget, hrest⟩ := getBuild_of_publishes_cons hl
    refine ⟨h', by simp [deliverPass, hget], ⟨xs, hrest⟩, ?_⟩
    simp [hrest.1, Except.toOption]

/-- When the published list raises, so does a delivery. -/
lemma returns_deliverPass_error {e : PyError} (he : fetchPendingBuildList h.db = .error e) :
    WhileLoop.Returns deliverPass (h, []) (.error e) := by
  cases hs : sortedByVersion h.db.priority.keys with
  | error e' =>
    have heq : e' = e := by simpa [fetchPendingBuildList, hs] using he
    subst heq
    rw [WhileLoop.returns_of_exit (q := .error e')]
    simp [deliverPass, getBuild, findNextBuild, hs]
  | ok projects => simp [fetchPendingBuildList, hs] at he

/-- A search for a build is decided by the published list, which raises when the search does. -/
lemma findNextBuild_fst (db : Db) (extract : Bool) : (findNextBuild extract db).1 =
    (fetchPendingBuildList db).map fun l =>
      (l.head?.map Prod.fst, (l.head?.map Prod.snd).getD false) := by
  cases hl : fetchPendingBuildList db with
  | error e =>
    cases hs : sortedByVersion db.priority.keys with
    | error e' =>
      have heq : e' = e := by simpa [fetchPendingBuildList, hs] using hl
      simp [findNextBuild, hs, heq, Except.map]
    | ok projects => simp [fetchPendingBuildList, hs] at hl
  | ok l =>
    have hfind := findNextBuild_of_published hl extract
    cases l with
    | nil => rw [hfind]; rfl
    | cons x rest =>
      obtain ⟨db', hfind, -⟩ := hfind
      rw [hfind]
      rfl

/-- There is a build to test when one is published. -/
lemma isThereBuildToTest_eq (db : Db) :
    isThereBuildToTest db = (fetchPendingBuildList db).map fun l => !l.isEmpty := by
  rw [isThereBuildToTest, findNextBuild_fst]
  cases fetchPendingBuildList db with
  | error e => rfl
  | ok l => cases l <;> rfl

/-- Builds are published when some are queued. -/
lemma published_ne_nil_iff {l : List (Text × Bool)} (hl : fetchPendingBuildList db = .ok l) :
    l ≠ [] ↔ ∃ project build, db.Queued project build := by
  constructor
  · intro hne
    obtain ⟨x, hx⟩ := List.exists_mem_of_ne_nil l hne
    obtain ⟨project, hqueued⟩ := queued_of_published hl hx
    exact ⟨project, x.1, hqueued⟩
  · rintro ⟨project, b, hqueued⟩ rfl
    cases hs : sortedByVersion db.priority.keys with
    | error e => simp [fetchPendingBuildList, hs] at hl
    | ok projects =>
      rw [fetchPendingBuildList_of_sorted hs, Except.ok.injEq, List.append_eq_nil_iff,
        List.flatMap_eq_nil_iff, List.flatMap_eq_nil_iff] at hl
      have hmem : project ∈ projects := by
        rw [(perm_of_sortedByVersion hs).mem_iff, Dict.mem_keys_iff]
        cases hq : db.priority.get? project with
        | some q => exact ⟨q, rfl⟩
        | none =>
          rcases hqueued with hb | hb
          · simp [Db.pending_of_none hq] at hb
          · simp [Db.highPriority_of_none hq] at hb
      rcases hqueued with hb | hb
      · have hnil := hl.2 project (List.mem_reverse.mpr hmem)
        simp only [Db.waitQueue, List.map_eq_nil_iff, List.reverse_eq_nil_iff] at hnil
        simp [hnil] at hb
      · have hnil := hl.1 project hmem
        simp [Db.highQueue, hb] at hnil

/-- **The published queue is the delivery order.**  In every database whose queued builds are
known, repeating `get_build` until it answers no build delivers exactly the builds and priority
flags of the published list, in its order (and raises when the list does);
`is_there_build_to_test` tells whether the list is empty; and a search that extracts nothing
leaves the database as it is and names the build that the next delivery answers. -/
theorem delivery_order (h : Handler)
    (hknown : ∀ project build, h.db.Queued project build → h.db.Known build) :
    WhileLoop.Returns deliverPass (h, []) (fetchPendingBuildList h.db) ∧
      isThereBuildToTest h.db = (fetchPendingBuildList h.db).map (fun l => !l.isEmpty) ∧
      (findNextBuild false h.db).2 = h.db ∧
      (getBuild h).1.map (fun answer => (answer.1, answer.2.2)) = (findNextBuild false h.db).1 := by
  have hpublishes : ∀ l, fetchPendingBuildList h.db = .ok l → Publishes h l := by
    intro l hl
    refine ⟨hl, fun x hx => ?_⟩
    obtain ⟨project, hqueued⟩ := queued_of_published hl hx
    exact hknown project x.1 hqueued
  refine ⟨?_, ?_, ?_, ?_⟩
  · cases hl : fetchPendingBuildList h.db with
    | error e => exact returns_deliverPass_error hl
    | ok l => exact returns_deliverPass (hpublishes l hl)
  · exact isThereBuildToTest_eq h.db
  · rcases Db.findNextBuild_cases false h.db with
      ⟨e, hf⟩ | ⟨project, b, -, hf⟩ | ⟨project, b, -, hf⟩ | hf <;> rw [hf] <;> rfl
  · rw [findNextBuild_fst]
    cases hl : fetchPendingBuildList h.db with
    | error e =>
      have hfind : (findNextBuild true h.db).1 = .error e := by
        rw [findNextBuild_fst, hl]
        rfl
      rcases hf : findNextBuild true h.db with ⟨answer, db'⟩
      rw [hf] at hfind
      subst hfind
      simp [getBuild, hf, Except.map]
    | ok l =>
      cases l with
      | nil =>
        rw [getBuild_of_publishes_nil (hpublishes [] hl)]
        rfl
      | cons x rest =>
        obtain ⟨info, h', hget, -⟩ := getBuild_of_publishes_cons (hpublishes _ hl)
        rw [hget]
        rfl

/-- Two builds of different projects wait, and one of them has high priority. -/
def twoQueued : Handler :=
  let build₁ := "HSS-1.9.2.1".toList
  let build₂ := "HSS-1.10.2.1".toList
  let ops : List Op := [.buildInfoAdd build₁ (.obj []), .buildInfoAdd build₂ (.obj []),
    .priorityAdd build₁, .priorityAdd build₂, .priorityIncrease build₁]
  ops.foldl Op.run Handler.init

example : fetchPendingBuildList twoQueued.db =
    .ok [("HSS-1.9.2.1".toList, true), ("HSS-1.10.2.1".toList, false)] := by
  decide

/-- Both builds of `twoQueued` are delivered in the published order. -/
theorem twoQueued_delivery :
    WhileLoop.Returns deliverPass (twoQueued, []) (fetchPendingBuildList twoQueued.db) ∧
      isThereBuildToTest twoQueued.db =
        (fetchPendingBuildList twoQueued.db).map (fun l => !l.isEmpty) ∧
      (findNextBuild false twoQueued.db).2 = twoQueued.db ∧
      (getBuild twoQueued).1.map (fun answer => (answer.1, answer.2.2)) =
        (findNextBuild false twoQueued.db).1 := by
  refine delivery_order twoQueued ?_
  have hinit : BothOk Handler.init := ⟨QueueOk.empty, QueueOk.empty⟩
  have h₁ := bothOk_run (.buildInfoAdd "HSS-1.9.2.1".toList (.obj [])) hinit id
  have h₂ := bothOk_run (.buildInfoAdd "HSS-1.10.2.1".toList (.obj [])) h₁ id
  have h₃ := bothOk_run (.priorityAdd "HSS-1.9.2.1".toList) h₂ (by unfold ReaddsHighPriority; decide)
  have h₄ := bothOk_run (.priorityAdd "HSS-1.10.2.1".toList) h₃ (by unfold ReaddsHighPriority; decide)
  have h₅ := bothOk_run (.priorityIncrease "HSS-1.9.2.1".toList) h₄ id
  exact h₅.1.known

end BuildHandler
