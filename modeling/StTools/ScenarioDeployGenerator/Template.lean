import StTools.ScenarioDeployGenerator.Globals

/-!
# The template and the user's traffic mix

The template lists the traffic cases that exist, the subscriber types and the defines; the user's
file says which cases take part, moves cases between groups and changes defines.
-/

namespace ScenarioDeployGenerator

open TextSearch

/-! ## The template -/

/-- The traffic case that is read, with the global variables. -/
structure Reading where
  /-- The traffic case. -/
  scriptData : ScriptData
  /-- The global variables. -/
  globals : Globals

namespace Reading

/-- The traffic case is complete. -/
def insertScript (r : Reading) : Globals :=
  if r.scriptData.name = [] then r.globals
  else
    { r.globals with
      tcDesc := r.globals.tcDesc.insert r.scriptData.name r.scriptData }

/-- A line `tcName:=` begins the next traffic case. -/
def tcName (r : Reading) (line : Text) : Reading :=
  let script :=
    if r.scriptData.name = [] then r.scriptData else ScriptData.fresh r.globals.trafficType
  { scriptData :=
      match readKey line "tcName".toList with
      | some element => { script with name := element }
      | none => script
    globals := r.insertScript }

/-- A line `subcriberType:=`: the type is known from now on. -/
def subcriberType (r : Reading) (line : Text) : Reading :=
  match readKey line "subcriberType".toList with
  | some element =>
    { scriptData := { r.scriptData with subcriberTypeName := element }
      globals := { r.globals with subType := r.globals.subType.insert element 0 } }
  | none => r

/-- A line whose key says something about the traffic case, or sets a variable. -/
def key (r : Reading) (line element : Text) : Reading :=
  if element = "tcName".toList then r.tcName line
  else if element = "subcriberType".toList then r.subcriberType line
  else if element = "preRequired".toList then
    match readKey line "preRequired".toList with
    | some value =>
      { r with scriptData := { r.scriptData with addPre := value = "true".toList } }
    | none => r
  else if element = "postRequired".toList then
    match readKey line "postRequired".toList with
    | some value =>
      { r with scriptData := { r.scriptData with addPost := value = "true".toList } }
    | none => r
  else if element = "trafficWeight".toList then
    { r with scriptData := { r.scriptData with trafficWeight := line } }
  else if element = "pName".toList then
    { r with scriptData := { r.scriptData with params := r.scriptData.params ++ [line] } }
  else if element = "groupName".toList then
    match readKey line "groupName".toList with
    | some value =>
      { r with
        scriptData :=
          { r.scriptData with groupName := r.scriptData.groupName ++ [toUpper value] } }
    | none => r
  else if element = "FileMask".toList then
    match readKey line "FileMask".toList with
    | some value => { r with globals := r.globals.setSetting .fileMask value }
    | none => r
  else if element = "ConsoleMask".toList then
    match readKey line "ConsoleMask".toList with
    | some value => { r with globals := r.globals.setSetting .consoleMask value }
    | none => r
  else if element = "LogFile".toList then
    match readKey line "LogFile".toList with
    | some value => { r with globals := r.globals.setSetting .logFile value }
    | none => r
  else if element = "numOfPTCs".toList then
    match readKey line "numOfPTCs".toList with
    | some value => { r with globals := r.globals.setNumber .numOfPTCs (atoi value) }
    | none => r
  else if element = "Range".toList then
    match readKey line "Range".toList with
    | some value => { r with globals := r.globals.setRange value }
    | none => r
  else if element = "Time".toList then
    match readKey line "Time".toList with
    | some value => { r with globals := r.globals.setTime value }
    | none => r
  else r

end Reading

/-- What is left of a line, with the variable `after`, and a table of defines. -/
structure DefineScan where
  /-- The line. -/
  line : Text
  /-- The variable `after`. -/
  after : Bool
  /-- The defines. -/
  table : OrderedMap Text Text

/-- A define of the template: `keyword NAME := VALUE`. -/
def defineLine (keyword line : Text) (after : Bool) (table : OrderedMap Text Text) : DefineScan :=
  match filterLine line keyword after with
  | none => { line := line, after := after, table := table }
  | some element =>
    match splitOnce ":=".toList element with
    | none => { line := element, after := false, table := table }
    | some (name, value) =>
      { line := element, after := true, table := table.assign name value }

/-- A line of the template. -/
def templateLine (r : Reading) (raw : Text) : Reading :=
  let line := purgeLine raw
  let r :=
    match filterLine line ":=".toList false with
    | some element => r.key line element
    | none => r
  let params := defineLine "DEFINE".toList line true r.globals.defineParam
  let layer := defineLine "DEF_LAYER".toList params.line params.after r.globals.defineParamLayer
  let mo := defineLine "DEF_MO".toList layer.line layer.after r.globals.defineParamMO
  { r with
    globals :=
      { r.globals with
        defineParam := params.table
        defineParamLayer := layer.table
        defineParamMO := mo.table } }

/-- Read the template. -/
def readTemplateFile (file : List Text) (g : Globals) : Globals :=
  let start : Reading :=
    { scriptData :=
        { ScriptData.fresh g.trafficType with
          trafficWeight := "trafficWeight := 1.000000".toList }
      globals := g }
  ((getlines file).foldl templateLine start).insertScript

/-! ## The user's traffic mix -/

/-- A traffic case that the user's file names takes part. -/
def Globals.includeTc (g : Globals) (element : Text) : Globals :=
  if g.specificTrafficMix then g
  else
    { g with
      tcDesc := g.tcDesc.modify element fun s => { s with toBeIncluded := true, addLoad := true } }

/-- A line `keyword GROUP := TC` of the user's file. -/
def groupLine (keyword line : Text) (change : List Text → Text → List Text) (g : Globals) :
    Text × Globals :=
  match filterLine line keyword true with
  | none => (line, g)
  | some element =>
    match splitOnce ":=".toList element with
    | none => (element, g)
    | some (value, name) =>
      (element,
        { g with
          tcDesc := g.tcDesc.modify name fun s => { s with groupName := change s.groupName value } })

/-- A define that the user's file changes: the first one whose name contains the given name. -/
def userDefineLine (keyword line : Text) (after : Bool) (table : OrderedMap Text Text) :
    DefineScan :=
  match filterLine line keyword after with
  | none => { line := line, after := after, table := table }
  | some element =>
    match splitOnce ":=".toList element with
    | none => { line := element, after := false, table := table }
    | some (name, value) =>
      { line := element
        after := true
        table :=
          match table.firstKey fun k => name <:+: k ∧ value ≠ [] with
          | some k => table.assign k value
          | none => table }

/-- A line of the user's file. -/
def userLine (g : Globals) (raw : Text) : Globals :=
  let line := purgeLine raw
  let g :=
    match filterLine line ":=".toList false with
    | some element =>
      if element = "tcName".toList then
        match readKey line "tcName".toList with
        | some name => g.includeTc name
        | none => g
      else g
    | none => g
  let (line, g) := groupLine "addToGroup".toList line (fun groups value => groups ++ [value]) g
  let (line, g) := groupLine "remFromGroup".toList line (fun groups value => groups.erase value) g
  let params := userDefineLine "DEFINE".toList line true g.defineParam
  let layer := userDefineLine "DEF_LAYER".toList params.line params.after g.defineParamLayer
  let mo := userDefineLine "DEF_MO".toList layer.line layer.after g.defineParamMO
  { g with
    defineParam := params.table
    defineParamLayer := layer.table
    defineParamMO := mo.table }

/-- Read the user's file. -/
def readTrafficDescUserFile (file : List Text) (g : Globals) : Globals :=
  (getlines file).foldl userLine g

end ScenarioDeployGenerator
