import StTools.ScenarioDeployGenerator.Template
import StTools.Lib.NamedInstances

/-!
# The configuration

Every line of the configuration is `key:=value` with a known key.  Most keys store their value;
`modTc` and `sub_range` change traffic cases and defines at once, `remTc` and `defParam` are kept
for later.
-/

namespace ScenarioDeployGenerator

open TextSearch

attribute [local instance] NamedInstances.lawfulBEq_list

/-! ## Parts of a value -/

/-- The parts of `name:weight:base:range`; a part is only taken when a `:` follows it, and the last
one is what is left. -/
structure TcChange where
  /-- The name, or a part of the names of several traffic cases. -/
  name : Text
  /-- The weight. -/
  weight : Text := []
  /-- The first subscriber. -/
  base : Text := []
  /-- The number of subscribers. -/
  range : Text := []

/-- The parts of the value of `modTc`. -/
def TcChange.parse (tc : Text) : TcChange :=
  match splitOnce [':'] tc with
  | none => { name := tc }
  | some (name, element) =>
    match splitOnce [':'] element with
    | none => { name := name }
    | some (weight, element) =>
      match splitOnce [':'] element with
      | none => { name := name, weight := weight }
      | some (base, range) => { name := name, weight := weight, base := base, range := range }

/-- What `modTc` changes in a traffic case. -/
def TcChange.apply (c : TcChange) (s : ScriptData) : ScriptData :=
  { s with
    toBeIncluded := true
    addLoad := true
    trafficWeight :=
      if c.weight = [] then s.trafficWeight
      else if '.' ∈ c.weight then "trafficWeight := ".toList ++ c.weight
      else "trafficWeight := ".toList ++ c.weight ++ ".0".toList
    base := if c.base = [] then s.base else c.base
    range := if c.range = [] then s.range else c.range }

/-- Add traffic cases, or change them. -/
def modTrafficCase (tc : Text) (g : Globals) : Except Failure Globals :=
  let c := TcChange.parse tc
  let found := g.tcDesc.entries.filter fun e => c.name <:+: e.1
  if found.length > 1 ∧ c.base ≠ [] then
    .error (.exit <| "ERROR:Not allowed to set the same base for more than one script: ".toList ++ tc)
  else if found.length > 1 ∧ c.range ≠ [] then
    .error (.exit <| "ERROR:Not allowed to set the same range for more than one script: ".toList ++ tc)
  else if found = [] then
    .error (.exit <| "ERROR:Wrong traffic case to be added/modified: ".toList ++ tc)
  else
    .ok { g with tcDesc := g.tcDesc.map fun k s => if c.name <:+: k then c.apply s else s }

/-- The parts of the value of `sub_range`. -/
structure RangeChange where
  /-- A part of the names of the defines. -/
  name : Text := []
  /-- The first subscriber. -/
  base : Text := []
  /-- The number of subscribers. -/
  range : Text := []

/-- The parts of `name:base:range`. -/
def RangeChange.parse (userEntry : Text) : RangeChange :=
  match splitOnce [':'] userEntry with
  | none => {}
  | some (name, element) =>
    match splitOnce [':'] element with
    | none => { name := name }
    | some (base, range) => { name := name, base := base, range := range }

/-- The define is the first subscriber of the type. -/
def RangeChange.OnBase (c : RangeChange) (k : Text) : Prop :=
  c.name <:+: k ∧ "BASE_".toList <:+: k ∧ c.base ≠ []

/-- The define is the number of subscribers of the type. -/
def RangeChange.OnRange (c : RangeChange) (k : Text) : Prop :=
  c.name <:+: k ∧ "SUBS_PER_SCRIPT_".toList <:+: k ∧ c.range ≠ []

instance (c : RangeChange) : DecidablePred c.OnBase := fun k => by
  unfold RangeChange.OnBase
  infer_instance

instance (c : RangeChange) : DecidablePred c.OnRange := fun k => by
  unfold RangeChange.OnRange
  infer_instance

/-- Change the defines of a range of subscribers. -/
def changeRange (userEntry : Text) (g : Globals) : Except Failure Globals :=
  let c := RangeChange.parse userEntry
  let baseFound := c.base = [] ∨ ∃ e ∈ g.defineParam.entries, c.OnBase e.1
  let subsPerScriptFound := c.range = [] ∨ ∃ e ∈ g.defineParam.entries, c.OnRange e.1
  if subsPerScriptFound ∧ baseFound then
    .ok
      { g with
        defineParam := g.defineParam.map fun k v =>
          if c.OnRange k then c.range else if c.OnBase k then c.base else v }
  else .error (.exit <| "ERROR:Wrong subcriber range to be modified: ".toList ++ userEntry)

/-- A step of the schedule of the load. -/
def storeloadSched (value : Text) (g : Globals) : Globals :=
  let (target, time) := (splitOnce [':'] value).getD ([], [])
  { g with
    scheduleLoad := g.scheduleLoad ++
      ["\x7bloadTarget:=".toList ++ target ++ ".0,loadTime:=".toList ++ time ++ ".0\x7d".toList] }

/-- The Diameter proxy of a line `diaProxy:=name:port:connections:address`, where the parts behind the
name may be missing. -/
def Host.parse (line : Text) : Option Host :=
  match splitOnce [':'] (line.drop "diaProxy:=".toList.length) with
  | none => none
  | some (name, base) =>
    match splitOnce [':'] base with
    | none => some { name := name, port := atoi base, nc := 0, localIp := [] }
    | some (port, base) =>
      match splitOnce [':'] base with
      | none => some { name := name, port := atoi port, nc := 0, localIp := [] }
      | some (_, localIp) =>
        some { name := name, port := atoi port, nc := atoi base, localIp := localIp }

/-- A line with a Diameter proxy. -/
def diaProxyLine (line : Text) (g : Globals) : Globals :=
  { g with diaProxy := g.diaProxy ++ (Host.parse line).toList }

/-- A define of the user is kept, if it has its three parts. -/
def defParam (element : Text) (g : Globals) : Except Failure Globals :=
  if element.count ':' < 2 then
    .error (.exit <| "ERROR:Wrong syntax for parameter DEFINE ".toList ++ element ++
      " .Format is TYPE:PARAM_NAME:PARAM_VALUE".toList)
  else .ok { g with definedParam := g.definedParam ++ [element] }

/-! ## Lines -/

/-- The keys that store a text. -/
def settingKeys : List (Text × Setting) :=
  [("loadplotterPort".toList, .loadplotterPort),
    ("vip_oam".toList, .vipOam),
    ("vip_soap".toList, .vipSoap),
    ("vip_dia_tcp".toList, .vipDiaTcp),
    ("vip_dia_sctp".toList, .vipDiaSctp),
    ("vip_radius".toList, .vipRadius),
    ("vip_udm".toList, .vipUdm),
    ("vip_soap_ldap".toList, .vipSoapLdap),
    ("vip_controller".toList, .vipController),
    ("secvip_oam".toList, .secvipOam),
    ("secvip_dia_tcp".toList, .secvipDiaTcp),
    ("secvip_radius".toList, .secvipRadius),
    ("secvip_controller".toList, .secvipController),
    ("ExtDB_ip".toList, .extDBIp),
    ("PreLoadTarget".toList, .loadLevelPre),
    ("LoadTarget".toList, .loadLevel),
    ("PostLoadTarget".toList, .loadLevelPost),
    ("numOfCps".toList, .numOfCps),
    ("cpsDelta".toList, .cpsDelta),
    ("cpsDeltaPre".toList, .cpsDeltaPre),
    ("cpsDeltaLoad".toList, .cpsDeltaLoad),
    ("cpsDeltaPost".toList, .cpsDeltaPost),
    ("FileMask".toList, .fileMask),
    ("ConsoleMask".toList, .consoleMask),
    ("LogFile".toList, .logFile)]

/-- The keys that store the name of a host, which is then used. -/
def hostKeys : List (Text × Setting × Switch) :=
  [("guiHost".toList, .guiHost, .useGui),
    ("conkeeperHost".toList, .conkeeperHost, .useConkeeper),
    ("loadplotterHost".toList, .loadplotterHost, .useLoadplotter)]

/-- The keys that store a number. -/
def numberKeys : List (Text × Number) :=
  [("guiPort".toList, .guiPort),
    ("conkeeperPort".toList, .conkeeperPort),
    ("loadplotterPort".toList, .loadplotterPort),
    ("mcPort".toList, .mcPort),
    ("numOfPTCs".toList, .numOfPTCs)]

/-- The keys that store a truth value. -/
def switchKeys : List (Text × Switch) :=
  [("layer".toList, .layer),
    ("ttcn3_start".toList, .ttcn3startUsed),
    ("stats".toList, .stats),
    ("manualControl".toList, .manualControl),
    ("headlessmode".toList, .headlessmode),
    ("servermode".toList, .servermode),
    ("slf_proxy_mode".toList, .slfProxyMode)]

/-- The keys that change a define. -/
def defineKeys : List (Text × Text) :=
  [("GraphLoadFile".toList, "GRAPH_DATA_FILE_NAME".toList),
    ("GraphScanSize".toList, "GRAPH_SCAN_SIZE".toList),
    ("LoadRegHostName".toList, "LOAD_REG_HOSTNAME".toList),
    ("ExtraTime".toList, "EXTRA_TIME".toList)]

/-- The value is one of the texts for true. -/
def isTrue (element : Text) : Bool := element = "true".toList ∨ element = "TRUE".toList

/-- Store a value under the key of a table. -/
def storeIn {τ : Type*} (table : List (Text × τ)) (element : Text) (store : τ → Globals → Globals)
    (g : Globals) : Globals :=
  match table.lookup element with
  | some k => store k g
  | none => g

/-- The key is one of a table. -/
def isKeyOf {τ : Type*} (table : List (Text × τ)) (element : Text) : Bool :=
  (table.lookup element).isSome

/-- The keys that only store their value. -/
def storeKey (element value : Text) (g : Globals) : Option Globals :=
  if isKeyOf settingKeys element ∨ isKeyOf hostKeys element ∨ isKeyOf numberKeys element ∨
      isKeyOf switchKeys element ∨ isKeyOf defineKeys element then
    g |> storeIn settingKeys element (fun k g => g.setSetting k value)
      |> storeIn hostKeys element (fun k g => (g.setSetting k.1 value).setSwitch k.2 true)
      |> storeIn numberKeys element (fun k g => g.setNumber k (atoi value))
      |> storeIn switchKeys element (fun k g => g.setSwitch k (isTrue value))
      |> storeIn defineKeys element (fun name g => g.updateDefineParam name value)
      |> some
  else none

/-- A key of the configuration with its value. -/
def configKey (line element value : Text) (g : Globals) : Except Failure Globals :=
  if element = "Time".toList then .ok (g.setTime value)
  else if element = "Range".toList then .ok (g.setRange value)
  else if element = "Exec".toList then .ok (g.setExec value)
  else if element = "lgen".toList then .ok { g with lgen := g.lgen ++ [value] }
  else if element = "remGroupName".toList then
    .ok { g with groupToExclude := g.groupToExclude ++ [toUpper value] }
  else if element = "trafficGroupName".toList then
    .ok { g with groupToAdd := g.groupToAdd ++ [toUpper value] }
  else if element = "diaProxy".toList then .ok (diaProxyLine line g)
  else if element = "loadFilter".toList then .ok { g with loadFilter := g.loadFilter ++ [value] }
  else if element = "loadSched".toList then .ok (storeloadSched value g)
  else if element = "modTc".toList then modTrafficCase value g
  else if element = "remTc".toList then .ok { g with tcToExclude := g.tcToExclude ++ [value] }
  else if element = "defParam".toList then defParam value g
  else if element = "sub_range".toList then changeRange value g
  else if element = "LoadRegType".toList then
    .ok
      (if value ∈ ["traffic".toList, "oam".toList, "system".toList, "all".toList] then
        g.updateDefineParam "LOAD_REG_TYPE".toList (addQuottes value)
      else g)
  else
    match storeKey element value g with
    | some g => .ok g
    | none =>
      .error (.exit <| "ERROR:Wrong key ".toList ++ element ++ "  on configuration data file: ".toList ++
        g.configFile ++ " line: ".toList ++ line)

/-- A line of the configuration. -/
def configLine (g : Globals) (raw : Text) : Except Failure Globals :=
  let line := purgeLine raw
  match filterLine line ":=".toList false with
  | none => .ok g
  | some element =>
    match readKey line element with
    | some value => configKey line element value g
    | none => .ok g

/-- Read the configuration. -/
def readConfigurationFile (file : List Text) (g : Globals) : Except Failure Globals :=
  (getlines file).foldlM configLine g

end ScenarioDeployGenerator
