import StTools.BuildHandler.Database
import StTools.Lib.NamedInstances

/-!
# The operations of the build handler

Each operation of the service takes the handler and gives its answer, or the exception it raises,
with the handler afterwards: what has been changed before an exception stays changed.  The
operations that answer nothing give the handler alone.

`db` is the table in memory and `file` what the JSON file holds; `updateDb` writes the one to the
other.  `unsaved` is a ghost: it says that a test info was changed without being written and
that nothing has been written since.
-/

namespace BuildHandler

attribute [local instance] NamedInstances.lawfulBEq_list

/-- The build handler: the database in memory and the one in the file. -/
structure Handler where
  db : Db
  file : Db
  unsaved : Bool

/-- The handler of a new installation writes the empty database. -/
def Handler.init : Handler := ⟨Db.empty, Db.empty, false⟩

namespace Db

/-- Change the entry of a build. -/
def modifyBuild (db : Db) (build : Text) (f : BuildInfo → BuildInfo) : Db :=
  { db with buildInfo := db.buildInfo.modify build f }

/-- Change the queue of a project. -/
def modifyQueue (db : Db) (project : Text) (f : Priority → Priority) : Db :=
  { db with priority := db.priority.modify project f }

/-- Delete the queues that hold no build. -/
def cleanPriority (db : Db) : Db :=
  { db with priority := db.priority.prune fun q => q.pending.isEmpty && q.highPriority.isNone }

end Db

/-! ## Reading and writing the file -/

/-- Write the tables to the file. -/
def updateDb (h : Handler) : Handler := { h with file := h.db, unsaved := false }

/-- Read the tables from the file. -/
def refreshDBMFromFile (h : Handler) : Handler := { h with db := h.file, unsaved := false }

/-- Delete the empty queues and write the tables. -/
def cleanAndUpdate (h : Handler) : Handler := updateDb { h with db := h.db.cleanPriority }

/-! ## Test infos -/

/-- Enter a new build. -/
def buildInfoAdd (h : Handler) (build : Text) (info : Json) : Except PyError Bool × Handler :=
  if (h.db.buildInfo.get? build).isSome then
    (.error (.faultyAction (build ++ " already exists in DB.".toList)), h)
  else
    let entry : BuildInfo := ⟨info, [], .notTested⟩
    (.ok true, updateDb { h with db.buildInfo := h.db.buildInfo.set build entry })

/-- Take over one field of a new test info, if it is there and not empty. -/
def copyField (field : Text) (info testInfo : Json) : Except PyError Json :=
  match info.getItem field with
  | .ok v => if v.truthy then testInfo.update field v else .ok testInfo
  | .error (.keyError _) => .ok testInfo
  | .error e => .error e

/-- Change the test info of an entry. -/
def BuildInfo.withTestInfo (testInfo : Json) (entry : BuildInfo) : BuildInfo :=
  { entry with testInfo }

/-- Take over the packages and the repositories of a new test info. -/
def buildInfoUpdate (h : Handler) (build : Text) (info : Json) : Except PyError Bool × Handler :=
  match h.db.buildInfo.get? build with
  | none => (.error (.faultyAction (build ++ " does not exists in DB. No actions".toList)), h)
  | some entry =>
    if entry.testInfo.truthy then
      match copyField "packages".toList info entry.testInfo with
      | .error e => (.error e, h)
      | .ok testInfo =>
        -- The packages are in memory before the repositories are looked at.
        let h := { h with db := h.db.modifyBuild build (·.withTestInfo testInfo) }
        match copyField "GIT_repos".toList info testInfo with
        | .error e => (.error e, h)
        | .ok testInfo =>
          (.ok true, updateDb { h with db := h.db.modifyBuild build (·.withTestInfo testInfo) })
    else
      (.error (.faultyAction
        ("Test info for ".toList ++ build ++ " build does not exists in DB. No actions".toList)), h)

/-! ## Queues -/

/-- Put a build at the end of the queue of its project. -/
def Db.enqueue (db : Db) (build : Text) : Db :=
  match db.priority.get? (getProject build) with
  | some q =>
    if build ∈ q.pending then db
    else db.modifyQueue (getProject build) fun q => { q with pending := q.pending ++ [build] }
  | none => { db with priority := db.priority.set (getProject build) ⟨[build], none⟩ }

/-- Queue a build for a test. -/
def priorityAdd (h : Handler) (build : Text) : Except PyError Bool × Handler :=
  if (h.db.buildInfo.get? build).isNone then
    (.error (.faultyAction (build ++ " does not exists in DB. No actions".toList)), h)
  else (.ok true, cleanAndUpdate { h with db := h.db.enqueue build })

/-- Take one occurrence of a build off a queue. -/
def Priority.dequeue (build : Text) (q : Priority) : Priority :=
  if build ∈ q.pending then { q with pending := q.pending.erase build }
  else if q.highPriority = some build then { q with highPriority := none }
  else q

/-- A build that was not tested is skipped. -/
def BuildInfo.skip (entry : BuildInfo) : BuildInfo :=
  if entry.status = .notTested then { entry with status := .skipped } else entry

/-- Take a build off the queue of its project. -/
def priorityDel (h : Handler) (build : Text) (updateStatus : Bool) : Handler :=
  match h.db.priority.get? (getProject build) with
  | none => h
  | some _ =>
    let h := { h with db := h.db.modifyQueue (getProject build) (Priority.dequeue build) }
    if updateStatus then
      match h.db.buildInfo.get? build with
      -- The queue has been changed, but this return comes before the file is written.
      | none => h
      | some _ => cleanAndUpdate { h with db := h.db.modifyBuild build BuildInfo.skip }
    else cleanAndUpdate h

/-- Move a build that waits to the front; the builds that wait longer are dropped. -/
def Priority.promote (build : Text) (q : Priority) : Priority :=
  if build ∈ q.pending then ⟨q.pending.drop (q.pending.idxOf build + 1), some build⟩ else q

/-- `str(e)` for a `KeyError` of a key made of plain characters. -/
def keyErrorText (key : Text) : Text := "u'".toList ++ key ++ "'".toList

/-- Give a build that waits high priority; answers whether it waited. -/
def priorityIncrease (h : Handler) (build : Text) : Except PyError Bool × Handler :=
  match h.db.priority.get? (getProject build) with
  | none =>
    (.error (.faultyAction
      (build ++ " build not found. ".toList ++ keyErrorText (getProject build))), h)
  | some q =>
    (.ok (build ∈ q.pending),
      cleanAndUpdate { h with db := h.db.modifyQueue (getProject build) (Priority.promote build) })

/-! ## Baselines -/

/-- The build of a baseline and its test info. -/
def fetchBaselineTestInfo (db : Db) (baseline : Text) : Except PyError (Text × Json) :=
  match db.baselines.bind (·.get? baseline) with
  | none => .error (.faultyAction
      ("Not build found for ".toList ++ baseline ++ " baseline".toList))
  | some build =>
    match db.buildInfo.get? build with
    | none => .error (.faultyAction ("Not test info for ".toList ++ build))
    | some entry => .ok (build, entry.testInfo)

/-- Make a build the baseline of its release. -/
def baselineAdd (h : Handler) (build : Text) : Except PyError Text × Handler :=
  if (h.db.buildInfo.get? build).isNone then
    (.error (.faultyAction (build ++ " does not exists in DB. No actions".toList)), h)
  else
    let baseline := baselineName (getRelease build)
    let baselines := (h.db.baselines.getD ∅).set baseline build
    (.ok (build ++ " build is set as baseline for ".toList ++ baseline),
      updateDb { h with db.baselines := some baselines })

/-- Forget a baseline. -/
def baselineDel (h : Handler) (baseline : Text) : Handler :=
  updateDb { h with db.baselines := h.db.baselines.map (·.delete baseline) }

/-- The names of the baselines. -/
def baselineList (db : Db) : Except PyError (List Text) :=
  match db.baselines with
  | none => .error (.keyError "baselines".toList)
  | some baselines => .ok baselines.keys

/-! ## Test results -/

/-- Add a test result; a build under test has been tested with it. -/
def BuildInfo.addResult (testResult : Json) (entry : BuildInfo) : BuildInfo :=
  { entry with
    status := if entry.status = .testOngoing then .tested else entry.status
    testResult := entry.testResult ++ [testResult] }

/-- Add a test result to the entry of a build. -/
def addBuildTestResult (h : Handler) (build : Text) (testResult : Json) : Handler :=
  match h.db.buildInfo.get? build with
  | none => h
  | some _ => updateDb { h with db := h.db.modifyBuild build (·.addResult testResult) }

/-- The test results of a build. -/
def getBuildTestResult (db : Db) (build : Text) : List Json :=
  ((db.buildInfo.get? build).map BuildInfo.testResult).getD []

/-! ## The next build -/

/-- The build of high priority of a project. -/
def Db.highPriority (db : Db) (project : Text) : Option Text :=
  (db.priority.get? project).bind Priority.highPriority

/-- The builds of a project that wait. -/
def Db.pending (db : Db) (project : Text) : List Text :=
  ((db.priority.get? project).map Priority.pending).getD []

/-- The first project of the list with a build of high priority, and that build. -/
def firstHighPriority (db : Db) : List Text → Option (Text × Text)
  | [] => none
  | project :: projects =>
    match db.highPriority project with
    | none => firstHighPriority db projects
    | some rc => some (project, rc)

/-- The first project of the list with a build that waits, and its youngest build. -/
def firstPending (db : Db) : List Text → Option (Text × Text)
  | [] => none
  | project :: projects =>
    match (db.pending project).getLast? with
    | none => firstPending db projects
    | some build => some (project, build)

/-- Take the build of high priority off a queue. -/
def Priority.clearHigh (q : Priority) : Priority := { q with highPriority := none }

/-- Take the youngest build that waits off a queue. -/
def Priority.pop (q : Priority) : Priority := { q with pending := q.pending.dropLast }

/-- The build to test next and whether it has high priority; taken off its queue if `extract`. -/
def findNextBuild (extract : Bool) (db : Db) : Except PyError (Option Text × Bool) × Db :=
  match sortedByVersion db.priority.keys with
  | .error e => (.error e, db)
  | .ok projects =>
    match firstHighPriority db projects with
    | some (project, rc) =>
      (.ok (some rc, true),
        if extract then db.modifyQueue project Priority.clearHigh else db)
    | none =>
      match firstPending db projects.reverse with
      | some (project, build) =>
        (.ok (some build, false),
          if extract then db.modifyQueue project Priority.pop else db)
      | none => (.ok (none, false), db)

/-! ## Status -/

/-- Change the status of an entry. -/
def BuildInfo.withStatus (status : Status) (entry : BuildInfo) : BuildInfo := { entry with status }

/-- Set the status of a build. -/
def updateBuildStatus (h : Handler) (build status : Text) : Handler :=
  match Status.ofName? Status.all status with
  | none => h
  | some s =>
    match h.db.buildInfo.get? build with
    | none => h
    | some _ => updateDb { h with db := h.db.modifyBuild build (·.withStatus s) }

/-- Set the status of a build by hand. -/
def forceBuildStatus (h : Handler) (build status : Text) : Text × Handler :=
  match Status.ofName? Status.forcible status with
  | none =>
    (status ++ " build status not valid. Allowed values are: ".toList ++
      List.intercalate [' '] (Status.forcible.map Status.name), h)
  | some s =>
    match h.db.buildInfo.get? build with
    | none => ("Build to update ".toList ++ build ++ " not found".toList, h)
    | some _ =>
      (build ++ " build status updated to ".toList ++ status,
        updateDb { h with db := h.db.modifyBuild build (·.withStatus s) })

/-- The status of a build. -/
def getBuildStatus (db : Db) (build : Text) : Text :=
  match db.buildInfo.get? build with
  | none => "NOT FOUND".toList
  | some entry => entry.status.name

/-! ## Delivery -/

/-- Is there a build that waits for a test? -/
def isThereBuildToTest (db : Db) : Except PyError Bool :=
  (findNextBuild false db).1.map fun answer => answer.1.isSome

/-- Take the next build off its queue; answers the build, its test info and its priority. -/
def getBuild (h : Handler) : Except PyError (Option Text × Json × Bool) × Handler :=
  match findNextBuild true h.db with
  | (.error e, db) => (.error e, { h with db })
  | (.ok (none, _), db) => (.ok (none, .null, false), { h with db })
  | (.ok (some build, rc), db) =>
    let h := updateDb { h with db }
    match h.db.buildInfo.get? build with
    | none => (.error (.keyError build), h)
    | some entry => (.ok (some build, entry.testInfo, rc), h)

/-- All builds that wait, in the order of delivery. -/
def fetchPendingBuildList (db : Db) : Except PyError (List (Text × Bool)) :=
  match sortedByVersion db.priority.keys with
  | .error e => .error e
  | .ok projects => .ok
      (projects.filterMap (fun project => (db.highPriority project).map fun rc => (rc, true)) ++
        projects.reverse.flatMap fun project =>
          (db.pending project).reverse.map fun build => (build, false))

/-! ## Cleaning -/

/-- Is the build to be cleaned: it matches, and no test of it is running? -/
def cleans (db : Db) (wildcard exclude key : Text) : Bool :=
  wildcard.isPrefixOf key && key != exclude &&
    ((db.buildInfo.get? key).any fun entry => entry.status != .testOngoing)

/-- The loop of `clean_build` over the builds, with the number of builds cleaned. -/
def cleanLoop (wildcard exclude : Text) : List Text → ℕ → Handler → Except PyError ℕ × Handler
  | [], counter, h => (.ok counter, h)
  | key :: keys, counter, h =>
    if cleans h.db wildcard exclude key then
      let h := priorityDel h key false
      match h.db.baselines with
      | none => (.error (.keyError "baselines".toList), h)
      | some baselines =>
        let db :=
          if key ∈ baselines.values then
            h.db.modifyBuild key fun entry => { entry with testResult := [] }
          else { h.db with buildInfo := h.db.buildInfo.delete key }
        cleanLoop wildcard exclude keys (counter + 1) { h with db }
    else cleanLoop wildcard exclude keys counter h

/-- Clean the builds whose name starts with a text. -/
def cleanBuild (h : Handler) (wildcard exclude : Text) : Except PyError Text × Handler :=
  match cleanLoop wildcard exclude h.db.buildInfo.keys 0 h with
  | (.error e, h) => (.error e, h)
  | (.ok counter, h) =>
    (.ok (" ".toList ++ Nat.toDigits 10 counter ++ " builds cleaned from db".toList),
      cleanAndUpdate h)

/-- Keep the last test result only. -/
def BuildInfo.keepLast (entry : BuildInfo) : BuildInfo :=
  { entry with testResult := entry.testResult.drop (entry.testResult.length - 1) }

/-- Does `purge_build` take results from the build? -/
def purges (db : Db) (wildcard key : Text) : Bool :=
  wildcard.isPrefixOf key &&
    ((db.buildInfo.get? key).any fun entry => 1 < entry.testResult.length)

/-- The loop of `purge_build` over the builds, with the number of builds purged. -/
def purgeLoop (wildcard : Text) : List Text → ℕ → Db → ℕ × Db
  | [], counter, db => (counter, db)
  | key :: keys, counter, db =>
    if purges db wildcard key then
      purgeLoop wildcard keys (counter + 1) (db.modifyBuild key BuildInfo.keepLast)
    else purgeLoop wildcard keys counter db

/-- Keep the last test result of the builds whose name starts with a text. -/
def purgeBuild (h : Handler) (wildcard : Text) : Text × Handler :=
  let purged := purgeLoop wildcard h.db.buildInfo.keys 0 h.db
  (" ".toList ++ Nat.toDigits 10 purged.1 ++ " builds purged from db".toList,
    cleanAndUpdate { h with db := purged.2 })

/-! ## Reading and replacing test infos -/

/-- The test info of a build. -/
def fetchBuild (db : Db) (build : Text) : Except PyError Json :=
  match db.buildInfo.get? build with
  | none => .error (.keyError build)
  | some entry => .ok entry.testInfo

/-- Replace the test info of a build, in the file only if `persist`. -/
def updateBuildTestInfo (h : Handler) (build : Text) (testInfo : Json) (persist : Bool) :
    Text × Handler :=
  let h :=
    match h.db.buildInfo.get? build with
    | none => h
    | some _ =>
      { h with
        db := h.db.modifyBuild build (·.withTestInfo testInfo)
        unsaved := true }
  ("EXECUTED".toList, if persist then updateDb h else h)

/-- The builds with their status, a line each. -/
def fetchAvailableBuilds (db : Db) : Except PyError Text :=
  (sortedByVersion db.buildInfo.keys).map fun builds =>
    builds.flatMap fun build =>
      "  ".toList ++ build ++ "\t".toList ++ getBuildStatus db build ++ "\n".toList

/-! ## Requests -/

/-- The requests that may change the handler. -/
inductive Op where
  | buildInfoAdd (build : Text) (info : Json)
  | buildInfoUpdate (build : Text) (info : Json)
  | priorityAdd (build : Text)
  | priorityDel (build : Text) (updateStatus : Bool)
  | priorityIncrease (build : Text)
  | baselineAdd (build : Text)
  | baselineDel (baseline : Text)
  | addBuildTestResult (build : Text) (testResult : Json)
  | updateBuildStatus (build status : Text)
  | forceBuildStatus (build status : Text)
  | getBuild
  | cleanBuild (wildcard exclude : Text)
  | purgeBuild (wildcard : Text)
  | updateBuildTestInfo (build : Text) (testInfo : Json) (persist : Bool)
  | refreshDBMFromFile

/-- The handler after a request, whether it is answered or raises. -/
def Op.run (h : Handler) : Op → Handler
  | .buildInfoAdd build info => (BuildHandler.buildInfoAdd h build info).2
  | .buildInfoUpdate build info => (BuildHandler.buildInfoUpdate h build info).2
  | .priorityAdd build => (BuildHandler.priorityAdd h build).2
  | .priorityDel build updateStatus => BuildHandler.priorityDel h build updateStatus
  | .priorityIncrease build => (BuildHandler.priorityIncrease h build).2
  | .baselineAdd build => (BuildHandler.baselineAdd h build).2
  | .baselineDel baseline => BuildHandler.baselineDel h baseline
  | .addBuildTestResult build testResult => BuildHandler.addBuildTestResult h build testResult
  | .updateBuildStatus build status => BuildHandler.updateBuildStatus h build status
  | .forceBuildStatus build status => (BuildHandler.forceBuildStatus h build status).2
  | .getBuild => (BuildHandler.getBuild h).2
  | .cleanBuild wildcard exclude => (BuildHandler.cleanBuild h wildcard exclude).2
  | .purgeBuild wildcard => (BuildHandler.purgeBuild h wildcard).2
  | .updateBuildTestInfo build testInfo persist =>
    (BuildHandler.updateBuildTestInfo h build testInfo persist).2
  | .refreshDBMFromFile => BuildHandler.refreshDBMFromFile h

/-- The handler as a system: every request is served. -/
def step (h : Handler) (op : Op) : Option Handler := some (op.run h)

end BuildHandler
