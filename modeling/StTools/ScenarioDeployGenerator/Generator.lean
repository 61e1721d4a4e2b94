import StTools.ScenarioDeployGenerator.Scenario
import StTools.Lib.NamedInstances

/-!
# The generator

The passes over the traffic cases between the reading of the files and the writing of the results,
and the program as a whole.
-/

namespace ScenarioDeployGenerator

attribute [local instance] NamedInstances.lawfulBEq_list

/-! ## The passes -/

/-- The cases of the groups that are added take part. -/
def addTrafficGroup (g : Globals) : Globals :=
  { g with
    tcDesc := g.tcDesc.map fun _ s =>
      if ∃ group ∈ s.groupName, group ∈ g.groupToAdd then { s with toBeIncluded := true } else s }

/-- The defines of a layered or of a monolithic system replace those of the template. -/
def mergeDefines (g : Globals) : Globals :=
  let table := if g.switch .layer then g.defineParamLayer else g.defineParamMO
  { g with
    defineParam := table.entries.foldl (fun params e => params.assign e.1 e.2) g.defineParam }

/-- A traffic case is taken out; with WSM traffic it is only taken out of the phases. -/
def ScriptData.remove (t : TrafficType) (s : ScriptData) : ScriptData :=
  if t = .wsm then { s with addPre := false, addLoad := false, addPost := false }
  else { s with toBeIncluded := false }

/-- Take out the traffic cases whose names contain a text. -/
def remTrafficCase (tc : Text) (g : Globals) : Except Failure Globals :=
  if ∃ e ∈ g.tcDesc.entries, tc <:+: e.1 then
    .ok { g with
      tcDesc := g.tcDesc.map fun k s => if tc <:+: k then s.remove g.trafficType else s }
  else .error (.exit <| "ERROR:Wrong traffic case to be removed: ".toList ++ tc)

/-- A traffic case that belongs to a group that is taken out. -/
def excludeFromGroup (g : Globals) (name group : Text) : Except Failure Globals :=
  g.groupToExclude.foldlM (fun g excluded =>
    match g.tcDesc.find? name with
    | some s => if group = excluded ∧ s.toBeIncluded then remTrafficCase s.name g else .ok g
    | none => .ok g) g

/-- Take out the traffic cases of the groups that are taken out, and those the user names. -/
def excludeTraffiCase (g : Globals) : Except Failure Globals := do
  let g ← g.tcDesc.entries.foldlM (fun g e =>
    e.2.groupName.foldlM (fun g group => excludeFromGroup g e.1 group) g) g
  g.tcToExclude.foldlM (fun g tc => remTrafficCase tc g) g

/-- Some traffic case takes part. -/
def isAnyTcToBeIncluded (g : Globals) : Bool := g.tcDesc.entries.any fun e => e.2.toBeIncluded

/-! ## The program -/

/-- The command line, and the files it names. -/
structure Options where
  /-- The kind of traffic. -/
  trafficType : TrafficType
  /-- The option `-s`. -/
  specificTrafficMix : Bool := false
  /-- The template of the kind of traffic. -/
  template : List Text
  /-- The user's traffic mix. -/
  trafficDesc : Option (List Text) := none
  /-- The name of the configuration file. -/
  configFile : Text := []
  /-- The configuration. -/
  config : List Text

/-- The files that are read. -/
def readFiles (o : Options) : Except Failure Globals :=
  let g : Globals :=
    { trafficType := o.trafficType
      specificTrafficMix := o.specificTrafficMix
      configFile := o.configFile }
  let g := readTemplateFile o.template g
  let g :=
    match o.trafficDesc with
    | some file => readTrafficDescUserFile file g
    | none => g
  readConfigurationFile o.config g

/-- The tests before the files are written. -/
def checkTcs (g : Globals) : Except Failure Globals :=
  if isAnyTcToBeIncluded g = false then
    .error (.exit "ERROR:There is not a valid traffic case to be executed.".toList)
  else if g.lgen = [] then
    .error (.exit "ERROR:There must be at least one traffic generator.".toList)
  else if g.lgen.length ≠ 1 ∧ g.switch .ttcn3startUsed then
    .error (.exit
      "ERROR:There must be only one traffic generator when using ttcn3_start.".toList)
  else .ok g

/-- The files are read, and the traffic cases that take part are known. -/
def plan (o : Options) : Except Failure Globals := do
  let g ← readFiles o
  let g ← excludeTraffiCase (mergeDefines (addTrafficGroup g))
  checkTcs g

/-- What the program writes. -/
structure Output where
  /-- The deployment file. -/
  deployment : Text
  /-- The global variables in the end. -/
  globals : Globals
  /-- The lists of the scenario file. -/
  scenario : ScenarioFile

/-- The scenario file. -/
def Output.scenarioText (out : Output) : Text :=
  ScenarioDeployGenerator.scenarioText out.globals out.scenario

/-- Write the files. -/
def writeFiles (g : Globals) : Except Failure Output := do
  let (written, deployment) := writeDeploymentFile g
  let ranged ← prepareRangeInfo written
  return {
    deployment := deployment
    globals := ranged
    scenario := scenarioFile (isPreNeeded g) (isPostNeeded g) ranged }

/-- The program. -/
def main (o : Options) : Except Failure Output := do
  let g ← plan o
  writeFiles g

end ScenarioDeployGenerator
