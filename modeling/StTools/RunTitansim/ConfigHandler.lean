import StTools.Lib.GreedyMatch
import StTools.RunTitansim.PythonText
import StTools.ScenarioDeployGenerator.Generator
import StTools.Lib.NamedInstances

/-!
# The configuration of a test

`build_config_file` writes the options of the user into the configuration of the scenario and
deployment generator, runs the generator, and patches what it wrote; the result is the configuration
of the test, which the other programs read again.  Of the options only the scenario, the traffic
generators and the Diameter proxies are modelled; the other lines of the configuration are given.
-/

namespace RunTitansim

open ScenarioDeployGenerator (Text intToString)
open GreedyMatch

attribute [local instance] NamedInstances.lawfulBEq_list

/-! ## Scenarios -/

/-- The scenarios. -/
inductive ScenarioMode
  | ims | imsSlf | imsSlfr | imsR
  | epc | epcSlf | epcR
  | wlan | oam
  deriving DecidableEq

namespace ScenarioMode

/-- The kind of traffic of a scenario. -/
def trafficType : ScenarioMode → ScenarioDeployGenerator.TrafficType
  | ims | imsSlf | imsSlfr | imsR => .ismsda
  | epc | epcSlf | epcR => .esm
  | wlan => .wsm
  | oam => .oam

/-- The scenario has Diameter proxies. -/
def usesProxies (m : ScenarioMode) : Bool := m ≠ wlan ∧ m ≠ oam

/-- The scenario is refused without proxies. -/
def needsProxies (m : ScenarioMode) : Bool := m ∈ [ims, imsR, epc, epcR]

end ScenarioMode

/-! ## Diameter proxies -/

/-- The parts of a definition, with a colon between them. -/
def joinColon (parts : List Text) : Text := [':'].intercalate parts

/-- A definition of the option `-p`, with what is missing filled in. -/
def completeProxy (hostname : Text) (freePort : Text → Text) (proxy : Text) : Text :=
  match proxy.splitOn ':' with
  | [_] => proxy ++ ":".toList ++ freePort proxy ++ ":1:".toList
  | [host, port] =>
    if host = [] ∧ port = [] then joinColon [hostname, freePort hostname, "1".toList, []]
    else if host = [] then joinColon [hostname, port, "1".toList, []]
    else if port = [] then joinColon [host, freePort hostname, "1".toList, []]
    else proxy ++ ":0:".toList
  | host :: port :: nc :: rest =>
    if rest.length ≤ 1 then
      let host := if host = [] then hostname else host
      let port := if port = [] then freePort hostname else port
      let nc := if nc = [] then "1".toList else nc
      joinColon [host, port, nc, rest.headD []]
    else proxy
  | [] => proxy

/-- The loop of `__proxies_cfg`: the lines, and the numbers of the last definition that had them. -/
structure ProxyLines where
  /-- The lines. -/
  cfg : List Text := []
  /-- The port. -/
  port : Option ℤ := none
  /-- The number of connections. -/
  nc : Option ℤ := none

/-- A definition in `__proxies_cfg`.  A wrong definition is only reported; without an address, or
without a number, an exception ends the program. -/
def ProxyLines.add (s : ProxyLines) (proxy : Text) : Option ProxyLines := do
  let parts := proxy.splitOn ':'
  let host := parts.headD []
  let port := (parts[1]?.bind pyInt).or s.port
  let nc := (parts[2]?.bind pyInt).or s.nc
  let localIp ← parts[3]?
  let line := "diaProxy:= \"".toList ++ host ++ "\":".toList ++ intToString (← port) ++ ":".toList ++
    intToString (← nc) ++ ":".toList ++ localIp
  return { cfg := s.cfg ++ [line], port := port, nc := nc }

/-- The lines of the proxies. -/
def proxiesCfg (proxies : List Text) : Option (List Text) :=
  (proxies.foldlM ProxyLines.add {}).map ProxyLines.cfg

/-! ## The configuration of the test -/

/-- The lines that are commented out. -/
def specialLines : List Text :=
  ["[INCLUDE]".toList, "\"params.cfg\"".toList, "\"debug_flags.cfg\"".toList,
    "\"deployment.cfg\"".toList, "\"scenario.cfg\"".toList]

/-- The key of the title of the window. -/
def windowTitle : Text := "tsp_EPTF_GUI_Main_Window_Title".toList

/-- A line is a comment. -/
def isComment (line : Text) : Bool := "#".toList <+: line ∨ "//".toList <+: line

/-- A line of the patched configuration, unless it is left out. -/
def patchLine (asctime line : Text) : Option Text :=
  let cleanLine := strip line
  if cleanLine ∈ specialLines then some ("//".toList ++ line)
  else if isComment cleanLine then none
  else if windowTitle <+: cleanLine then
    some (windowTitle ++ " := \"HSS traffic <> ".toList ++ asctime ++ "\"".toList)
  else some line

/-- Patch what the generator wrote. -/
def patchConfig (asctime rawConfig : Text) : Text :=
  unlines ((splitlines rawConfig).filterMap (patchLine asctime))

/-- The options of the user, and the files and services of the machine. -/
structure BuildOptions where
  /-- The scenario. -/
  mode : ScenarioMode
  /-- The hosts of the traffic generators. -/
  generators : List Text
  /-- The definitions of the option `-p`. -/
  proxies : Option (List Text)
  /-- The lines of the configuration that come from the other options. -/
  otherLines : List Text
  /-- Only the traffic cases that the configuration adds take part. -/
  specificTrafficMix : Bool
  /-- The template of the kind of traffic. -/
  template : List Text
  /-- The traffic mix. -/
  trafficMix : List Text
  /-- The configuration files of the kind of traffic. -/
  batFiles : Text
  /-- The name of this machine. -/
  hostname : Text
  /-- A free port of a host. -/
  freePort : Text → Text
  /-- The time. -/
  asctime : Text

namespace BuildOptions

variable (b : BuildOptions)

/-- The proxies of the scenario. -/
def scenarioProxies : List Text :=
  if b.mode.usesProxies then
    match b.proxies with
    | none => [b.hostname ++ ":".toList ++ b.freePort b.hostname ++ ":1:".toList]
    | some proxies => proxies.map (completeProxy b.hostname b.freePort)
  else []

/-- The line of a traffic generator. -/
def generatorLine (generator : Text) : Text :=
  "lgen:= \"".toList ++ generator ++ "\"".toList

/-- The configuration of the generator; without it the program ends. -/
def configFileContents : Option (List Text) :=
  if b.mode.needsProxies ∧ b.scenarioProxies = [] then none
  else
    (proxiesCfg b.scenarioProxies).map fun cfg =>
      b.generators.map generatorLine ++ cfg ++ b.otherLines

/-- The command line of the generator. -/
def sdgOptions (config : List Text) : ScenarioDeployGenerator.Options where
  trafficType := b.mode.trafficType
  specificTrafficMix := b.specificTrafficMix
  template := b.template
  trafficDesc := some b.trafficMix
  config := config

/-- The text of the configuration files, in the order in which they are put together. -/
def deploymentConfig (out : ScenarioDeployGenerator.Output) : Text :=
  out.deployment ++ b.batFiles ++ out.scenarioText

/-- The configuration of the test, unless the program or the generator ends with an error. -/
def buildConfigFile : Option Text := do
  let config ← b.configFileContents
  let out ← (ScenarioDeployGenerator.main (b.sdgOptions config)).toOption
  return patchConfig b.asctime (b.deploymentConfig out)

end BuildOptions

/-! ## Reading the proxies -/

/-- A character that the dot of a regular expression stands for. -/
def isDot (c : Char) : Bool := c ≠ '\n'

/-- The regular expression in front of the host name. -/
def hostKey : Text := "hostname:=\"".toList

/-- The regular expression in front of the port. -/
def portKey : Text := "\", listeningPort:=\"".toList

/-- The regular expression in front of the number of connections. -/
def ncKey : Text := "\", connections_number:=".toList

/-- The regular expression in front of the local address. -/
def ipKey : Text := ", local_ip:=\"".toList

/-- The groups of the regular expression of `find_diaproxy_list`. -/
def diaproxyGroups (line : Text) : Option (Text × Text × Text × Text) :=
  (plus isDot (literal hostKey (plus isDot (literal portKey (plus isDot (literal ncKey
    (plus Char.isDigit (literal ipKey (star isDot (literal ['"', '\x7d'] fun _ => some ())))))))))
      line).map fun x => (x.2.1, x.2.2.1, x.2.2.2.1, x.2.2.2.2.1)

/-- The proxies of a configuration. -/
def findDiaproxyList (file : Text) : List (Text × Text × Text × Text) :=
  (readlines file).filterMap fun line =>
    let line := strip line
    if line = [] ∨ isComment line then none else diaproxyGroups line

/-- A Diameter proxy as the other programs get it. -/
abbrev Proxy := Text × ℤ × ℤ × Text

/-- The proxies of `get_BAT_config`; a wrong number raises an exception. -/
def diaproxies (file : Text) : Option (List Proxy) :=
  (findDiaproxyList file).mapM fun x => do
    return (x.1, ← pyInt x.2.1, ← pyInt x.2.2.1, x.2.2.2)

example : findDiaproxyList ("a\n\t\x7bhostname:=\"h\", listeningPort:=\"3868\", ".toList ++
    "connections_number:=2, local_ip:=\"10.0.0.1\"\x7d,\n".toList) =
      [("h".toList, "3868".toList, "2".toList, "10.0.0.1".toList)] := by
  decide +kernel

end RunTitansim
