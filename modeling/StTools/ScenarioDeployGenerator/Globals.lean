import StTools.Lib.OrderedMap
import StTools.ScenarioDeployGenerator.Text
import Mathlib.Data.String.Basic
import Mathlib.Logic.Function.Basic

/-!
# The data of the scenario and deployment generator

The traffic cases and the defines are maps that the generator goes through in the order of their
names.  Most keys of the configuration only store a text, a number or a truth value; these variables
are indexed by the enumerations `Setting`, `Number` and `Switch`.
-/

namespace ScenarioDeployGenerator

open TextSearch

/-- How the program ends before its files are written. -/
inductive Failure
  /-- A message is printed, and the program exits. -/
  | exit (message : Text)
  /-- The behaviour of the program is not defined. -/
  | undefinedBehaviour
  deriving DecidableEq

/-- The kinds of traffic. -/
inductive TrafficType
  | ismsda
  | esm
  | wsm
  | oam
  deriving DecidableEq

/-- A traffic case. -/
structure ScriptData where
  /-- The name. -/
  name : Text := []
  /-- The line with the weight. -/
  trafficWeight : Text := []
  /-- The type of the subscribers, or an alias of a type. -/
  subcriberTypeName : Text := []
  /-- The lines with the parameters. -/
  params : List Text := []
  /-- The case takes part. -/
  toBeIncluded : Bool
  /-- It takes part in the phase `preexec`. -/
  addPre : Bool := true
  /-- It takes part in the load phase. -/
  addLoad : Bool
  /-- It takes part in the phase `postexec`. -/
  addPost : Bool := true
  /-- The first subscriber. -/
  base : Text := []
  /-- The number of subscribers. -/
  range : Text := []
  /-- The groups the case belongs to. -/
  groupName : List Text := []
  deriving DecidableEq

/-- A new traffic case: with WSM traffic all cases take part, but only in the phases before and
after the load. -/
def ScriptData.fresh (t : TrafficType) : ScriptData where
  toBeIncluded := t = .wsm
  addLoad := t ≠ .wsm

/-- A Diameter proxy. -/
structure Host where
  /-- The name, as it stands in the configuration. -/
  name : Text
  /-- The port. -/
  port : ℤ
  /-- The number of connections. -/
  nc : ℤ
  /-- The local address. -/
  localIp : Text
  deriving DecidableEq

/-- The variables that a key of the configuration stores a text in. -/
inductive Setting
  | guiHost | conkeeperHost | loadplotterHost | loadplotterPort
  | vipOam | vipSoap | vipDiaTcp | vipDiaSctp | vipRadius | vipUdm | vipSoapLdap | vipController
  | secvipOam | secvipDiaTcp | secvipRadius | secvipController
  | extDBIp
  | loadLevelPre | loadLevel | loadLevelPost
  | numOfCps | cpsDelta | cpsDeltaPre | cpsDeltaLoad | cpsDeltaPost
  | fileMask | consoleMask | logFile
  deriving DecidableEq

/-- The variables that a key of the configuration stores a number in. -/
inductive Number
  | guiPort | conkeeperPort | loadplotterPort | mcPort | numOfPTCs
  deriving DecidableEq

/-- The variables that a key of the configuration stores a truth value in. -/
inductive Switch
  | layer | ttcn3startUsed | stats | manualControl | headlessmode | servermode | slfProxyMode
  | useGui | useConkeeper | useLoadplotter
  deriving DecidableEq

/-- The global variables. -/
structure Globals where
  /-- The kind of traffic. -/
  trafficType : TrafficType
  /-- Only the cases that the configuration adds take part. -/
  specificTrafficMix : Bool
  /-- The name of the configuration file. -/
  configFile : Text
  /-- The traffic cases. -/
  tcDesc : OrderedMap Text ScriptData := ∅
  /-- The subscriber types with their counters. -/
  subType : OrderedMap Text ℤ := ∅
  /-- The defines. -/
  defineParam : OrderedMap Text Text := ∅
  /-- The defines of a layered system. -/
  defineParamLayer : OrderedMap Text Text := ∅
  /-- The defines of a monolithic system. -/
  defineParamMO : OrderedMap Text Text := ∅
  /-- The defines of the user, as `TYPE:NAME:VALUE`. -/
  definedParam : List Text := []
  /-- The load filters. -/
  loadFilter : List Text := []
  /-- The groups that are taken out. -/
  groupToExclude : List Text := []
  /-- The groups that are added. -/
  groupToAdd : List Text := []
  /-- The traffic cases that are taken out. -/
  tcToExclude : List Text := []
  /-- The hosts of the traffic generators. -/
  lgen : List Text := []
  /-- The schedule of the load. -/
  scheduleLoad : List Text := []
  /-- The Diameter proxies. -/
  diaProxy : List Host := []
  /-- How the execution ends. -/
  executionType : Text := []
  /-- The texts. -/
  setting : Setting → Text := fun _ => []
  /-- The numbers. -/
  number : Number → ℤ := fun _ => 0
  /-- The truth values. -/
  switch : Switch → Bool := fun s => s = .slfProxyMode ∨ s = .manualControl ∨ s = .stats

namespace Globals

variable (g : Globals)

/-- The name of the scenario. -/
def scenarioName : Text :=
  match g.trafficType with
  | .ismsda => "ISMSDA".toList
  | .esm => "ESM".toList
  | .oam => "OAM".toList
  | .wsm => "WSM".toList

/-- The name of the load regulator. -/
def regulatorName : Text :=
  match g.trafficType with
  | .ismsda => "IsmSda".toList
  | .esm => "Esm".toList
  | .oam => "Oam".toList
  | .wsm => "Wsm".toList

/-- Store a text. -/
def setSetting (k : Setting) (v : Text) : Globals :=
  { g with setting := Function.update g.setting k v }

/-- Store a number. -/
def setNumber (k : Number) (v : ℤ) : Globals :=
  { g with number := Function.update g.number k v }

/-- Store a truth value. -/
def setSwitch (k : Switch) (v : Bool) : Globals :=
  { g with switch := Function.update g.switch k v }

/-- Give a value to the first define whose name contains a text; without one, add a define of this
name. -/
def updateDefineParam (name value : Text) : Globals :=
  { g with
    defineParam :=
      match g.defineParam.firstKey fun k => name <:+: k with
      | some k => g.defineParam.assign k value
      | none => g.defineParam.insert name value }

/-- The range of an execution that is counted in loops. -/
def setRange (element : Text) : Globals :=
  { g with
    executionType := "\x7bnrOfRangeLoop := \x7bcount := ".toList ++ element ++ ",actions := \x7b\x7d\x7d\x7d".toList }
    |>.updateDefineParam "CYCLIC".toList (booleanToString (element ≠ "1".toList))

/-- The time of an execution. -/
def setTime (element : Text) : Globals :=
  { g with
    executionType := "\x7bexecTime := \x7btime := ".toList ++ element ++ ",actions := \x7b\x7d\x7d\x7d".toList }
    |>.updateDefineParam "CYCLIC".toList (booleanToString true)

/-- The number of starts of an execution. -/
def setExec (element : Text) : Globals :=
  { g with
    executionType := "\x7bnrOfExecStart := \x7bcount := ".toList ++ element ++ ",actions := \x7b\x7d\x7d\x7d".toList }
    |>.updateDefineParam "CYCLIC".toList (booleanToString true)

end Globals

end ScenarioDeployGenerator
