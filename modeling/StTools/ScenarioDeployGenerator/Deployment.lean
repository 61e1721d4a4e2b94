import StTools.ScenarioDeployGenerator.Configuration

/-!
# The deployment file

The deployment file has the hosts, the parameters of the test ports and the defines.  The defines
that the configuration implies are set first, then those of the user, one after the other.
-/

namespace ScenarioDeployGenerator

open TextSearch

/-! ## The defines -/

/-- The defines that follow from the configuration, in the order in which they are set. -/
def configDefines (g : Globals) : List (Text × Text) :=
  let s := g.setting
  let layer := g.switch .layer
  let slf := g.switch .slfProxyMode
  let conkeeper := g.switch .useConkeeper
  let loadplotter := s .loadplotterHost
  let vipSoap := if s .vipSoap = [] then "0.0.0.0".toList else s .vipSoap
  let unlessEmpty (name value : Text) : List (Text × Text) :=
    if value = [] then [] else [(name, value)]
  [("TCPPORT".toList, intToString (g.number .mcPort)),
    ("NUMHCS".toList, intToString g.lgen.length),
    ("NUMBEROFENTITIES".toList, intToString (toInt32 (1000 + 50 * g.number .numOfPTCs))),
    ("USE_GUI".toList, booleanToString (g.switch .useGui)),
    ("MANUALCONTROL".toList, booleanToString (g.switch .manualControl)),
    ("HEADLESSMODE".toList, booleanToString (g.switch .headlessmode)),
    ("SERVERMODE".toList, booleanToString (g.switch .servermode)),
    ("SLF_PROXY_MODE".toList, booleanToString slf),
    ("LAYER_SCENARIO".toList, booleanToString layer),
    ("SUT_LOAD_IP".toList, s .vipOam)] ++
  (if loadplotter = [] then [("SUT_LOAD_PORT".toList, "10000".toList)]
  else
    ("SUT_LOAD_PORT".toList, s .loadplotterPort) ::
      (if s .secvipDiaTcp = [] then [("SUT_LOAD_IP".toList, "0.0.0.0".toList)] else [])) ++
  unlessEmpty "SUT_DIAMETER_TCP".toList (s .vipDiaTcp) ++
  unlessEmpty "SUT_DIAMETER_SCTP".toList (s .vipDiaSctp) ++
  unlessEmpty "SUT_RADIUS".toList (s .vipRadius) ++
  unlessEmpty "SUT_UDM_IP".toList (s .vipUdm) ++
  unlessEmpty "SUT_SOAP_LDAP_IP".toList (s .vipSoapLdap) ++
  [("SUT_SOAP_IP".toList, vipSoap)] ++
  unlessEmpty "SUT_SEC_DIAMETER_TCP".toList (s .secvipDiaTcp) ++
  unlessEmpty "SUT_SEC_LOAD_IP".toList (s .secvipOam) ++
  (if s .secvipOam = [] then []
  else [("SUT_SEC_LDAP_IP".toList, if layer then s .extDBIp else s .secvipOam)]) ++
  [("NUMOFCPS".toList, if layer then "4.0".toList else "10.0".toList),
    ("SUT_LDAP_IP".toList, if layer then s .extDBIp else s .vipOam),
    ("SUT_DIAMETER_PORT".toList,
      if slf then "3872".toList
      else if g.trafficType = .ismsda then "3868".toList else "3870".toList),
    ("SUT_RADIUS_PORT".toList, if slf then "2813".toList else "1813".toList),
    ("LOAD_SERVER_IP".toList, if conkeeper then s .conkeeperHost else s .vipOam)] ++
  unlessEmpty "LOAD_SERVER_IP".toList loadplotter ++
  [("DIAMETER_SERVER_SCTP".toList, if conkeeper then s .conkeeperHost else s .vipDiaSctp),
    ("DIAMETER_SERVER_TCP".toList, if conkeeper then s .conkeeperHost else s .vipDiaTcp),
    ("LDAP_SERVER_IP".toList,
      if conkeeper then s .conkeeperHost else if layer then s .extDBIp else s .vipOam),
    ("SUT_LDAP_PORT".toList,
      if layer then (if conkeeper then "1389".toList else "389".toList) else "7323".toList),
    ("RADIUS_SERVER_IP".toList, s .vipRadius),
    ("UDM_SERVER_IP".toList, s .vipUdm),
    ("SOAP_SERVER_IP".toList, vipSoap),
    ("CRED_ADMINISTRATOR".toList,
      if layer then addQuottes "cn=manager,dc=operator,dc=com".toList
      else addQuottes "administratorName=jambala,nodeName=jambala".toList),
    ("CRED_PASSWORD".toList,
      if layer then addQuottes "MIL1Int_2".toList else addQuottes "Pokemon1".toList)] ++
  unlessEmpty "LOAD_LEVEL_PRE".toList (s .loadLevelPre) ++
  unlessEmpty "LOAD_LEVEL".toList (s .loadLevel) ++
  unlessEmpty "LOAD_LEVEL_POST".toList (s .loadLevelPost) ++
  unlessEmpty "CPSDELTA".toList (s .cpsDelta) ++
  unlessEmpty "CPSDELTA_PRE".toList (s .cpsDeltaPre) ++
  unlessEmpty "CPSDELTA_LOAD".toList (s .cpsDeltaLoad) ++
  unlessEmpty "CPSDELTA_POST".toList (s .cpsDeltaPost) ++
  (if s .numOfCps = [] then []
  else
    [("NUMOFCPS".toList, s .numOfCps),
      ("LOCKCPS".toList, booleanToString true),
      ("ENABLE_REG".toList, booleanToString false)])

/-- Set the defines that follow from the configuration. -/
def updateDefine (g : Globals) : Globals :=
  (configDefines g).foldl (fun g e => g.updateDefineParam e.1 e.2) g

/-- The parts of a define of the user. -/
structure UserEntry where
  /-- The type is `q`. -/
  toBeQuotted : Bool := false
  /-- The name. -/
  name : Text := []
  /-- The value. -/
  value : Text := []
  deriving DecidableEq

/-- The parts of `TYPE:NAME:VALUE`. -/
def UserEntry.parse (userEntry : Text) : UserEntry :=
  match splitOnce [':'] userEntry with
  | none => {}
  | some (type, element) =>
    match splitOnce [':'] element with
    | none => { toBeQuotted := type = ['q'] }
    | some (name, value) => { toBeQuotted := type = ['q'], name := name, value := value }

/-- The value as it is written. -/
def UserEntry.written (e : UserEntry) : Text :=
  if e.toBeQuotted then addQuottes e.value else e.value

/-- The define that a define of the user changes: the first one whose name contains the name. -/
def UserEntry.changed (e : UserEntry) (table : OrderedMap Text Text) : Option Text :=
  table.firstKey fun k => e.name <:+: k ∧ e.value ≠ []

/-- A define of the user is set, or added. -/
def UserEntry.store (e : UserEntry) (table : OrderedMap Text Text) : OrderedMap Text Text :=
  match e.changed table with
  | some k => table.assign k e.written
  | none => table.insert e.name e.written

/-- Set a define of the user. -/
def userModifyDefineParam (userEntry : Text) (g : Globals) : Globals :=
  { g with defineParam := (UserEntry.parse userEntry).store g.defineParam }

/-- The number of LDAP proxies; the number of traffic generators is unsigned. -/
def numberOfLdapProxies (g : Globals) : ℤ :=
  toInt32 (1 + g.number .numOfPTCs % 2 ^ 64 / g.lgen.length / 50)

/-- The defines that the deployment file is written with. -/
def prepareDefines (g : Globals) : Globals :=
  let g :=
    if g.trafficType = .wsm then g
    else
      { g with
        defineParam := g.defineParam.insert "NUMBERLDAPPROXIES".toList
          (intToString (numberOfLdapProxies g)) }
  g.definedParam.foldl (fun g e => userModifyDefineParam e g) (updateDefine g)

/-! ## The text -/

/-- A text with the end of the line and an empty line. -/
def paragraph (t : Text) : Text := t ++ "\n\n".toList

/-- Texts with commas between them. -/
def commaSeparated (l : List Text) : Text := [','].intercalate l

/-- The lines of the Diameter proxies among the parameters of the test ports. -/
def poolLines (g : Globals) : Text :=
  g.diaProxy.zipIdx.flatMap fun x =>
    let pool := "DIAMETER_POOL_".toList ++ intToString x.2 ++
      (if g.trafficType = .ismsda then [] else "_ESM".toList)
    pool ++ ".Diameter.remote_address_ipv4 := ".toList ++ x.1.name ++ "\n".toList ++
      paragraph (pool ++ ".Diameter.remote_port_ipv4 := ".toList ++
        addQuottes (intToString x.1.port))

/-- The part `[MODULE_PARAMETERS]`. -/
def moduleParameters (g : Globals) : Text :=
  let hosts := commaSeparated g.lgen
  paragraph "[MODULE_PARAMETERS]".toList ++
  (if g.setting .guiHost = [] then []
  else
    paragraph ("tsp_xtdp_listen_addr := ".toList ++ g.setting .guiHost) ++
      paragraph ("tsp_xtdp_listen_port := ".toList ++ intToString (g.number .guiPort))) ++
  paragraph ("tsp_use_".toList ++ g.scenarioName ++ "_Stack := true".toList) ++
  paragraph ("tsp_nof_CS_Admins_".toList ++ g.scenarioName ++ " := ".toList ++
    intToString g.lgen.length) ++
  paragraph ("tsp_CS_Admin_".toList ++ g.scenarioName ++ "_HostList := \x7b".toList ++ hosts ++
    "\x7d".toList) ++
  (if g.trafficType = .ismsda ∨ g.trafficType = .esm then
    paragraph "use_DIAMETER_proxy := true ".toList ++
      paragraph ("tsp_".toList ++ g.scenarioName ++ "_nrOfDiameterProxies := ".toList ++
        intToString g.diaProxy.length)
  else []) ++
  (if g.trafficType = .wsm then []
  else
    paragraph ("tsp_".toList ++ g.scenarioName ++
      "_nrOfLDAPProxies := $\x7bNUMBERLDAPPROXIES,integer\x7d".toList) ++
      paragraph ("tsp_CS_Admin_".toList ++ g.scenarioName ++ "_LDAPProxyHostList := \x7b".toList ++
        hosts ++ "\x7d".toList)) ++
  paragraph ("tsp_EPTF_CS_LGenHostnameList := \x7b".toList ++ hosts ++ "\x7d".toList) ++
  paragraph "full_admin_deploy := true".toList ++
  (if g.switch .useConkeeper ∧ g.trafficType ≠ .wsm then
    paragraph ("conkeeperHost := \x7benable:=true,hostName:=".toList ++ g.setting .conkeeperHost ++
      ",hostPort:=".toList ++ intToString (g.number .conkeeperPort) ++ "\x7d".toList)
  else []) ++
  (if g.switch .useLoadplotter then
    paragraph ("loadplotterHost := \x7benable:=true,hostName:=".toList ++
      g.setting .loadplotterHost ++ ",hostPort:=".toList ++
      intToString (g.number .loadplotterPort) ++ "\x7d".toList)
  else []) ++
  (if g.loadFilter = [] then []
  else
    "\ntsp_Load_Filter:= \x7b".toList ++ commaSeparated g.loadFilter ++ "\x7d\n".toList) ++
  "\n".toList ++
  paragraph "loadSchedulingEnabled := false".toList ++
  (if g.scheduleLoad = [] then []
  else
    paragraph "loadSchedulingEnabled := true".toList ++
      paragraph ("loadschedList := \x7b".toList ++ commaSeparated g.scheduleLoad ++ "\x7d".toList))

/-- The part `[TESTPORT_PARAMETERS]`. -/
def testportParameters (g : Globals) : Text :=
  paragraph "\n[TESTPORT_PARAMETERS]".toList ++
  (if g.trafficType = .ismsda ∨ g.trafficType = .esm then poolLines g else []) ++
  g.loadFilter.flatMap fun filter =>
    "*.EPTF_CPUloadOnSUT_PCO.filter := ".toList ++ filter ++ "\n".toList

/-- The part `[LOGGING]`. -/
def logging (g : Globals) : Text :=
  paragraph "\n\n[LOGGING]".toList ++
  paragraph ("FileMask := ".toList ++ g.setting .fileMask) ++
  paragraph "ExecCtrl.FileMask := ERROR|USER|ACTION|PARALLEL|WARNING".toList ++
  paragraph ("ConsoleMask := ".toList ++ g.setting .consoleMask) ++
  paragraph ("LogFile := ".toList ++ g.setting .logFile)

/-- The line of a define. -/
def defineText (name value : Text) : Text :=
  name ++ " := ".toList ++ (if value = [] then "\"\"".toList else value) ++ "\n".toList

/-- The part `[DEFINE]`. -/
def defines (g : Globals) : Text :=
  paragraph "\n\n[DEFINE]".toList ++
  g.defineParam.entries.flatMap fun e => defineText e.1 e.2

/-- The part `[MAIN_CONTROLLER]`. -/
def mainController (g : Globals) : Text :=
  "\n\n".toList ++ paragraph "[MAIN_CONTROLLER]".toList ++
  "TCPPort := $\x7bTCPPORT, integer\x7d\n".toList ++
  (if g.switch .ttcn3startUsed then [] else "NumHCs  := $\x7bNUMHCS,integer\x7d\n".toList) ++
  "\n\n".toList

/-- The deployment file.  The defines in the globals are those that were prepared. -/
def deploymentText (g : Globals) : Text :=
  moduleParameters g ++ testportParameters g ++ logging g ++ defines g ++ mainController g

/-- Write the deployment file: the globals afterwards, and the text. -/
def writeDeploymentFile (g : Globals) : Globals × Text :=
  let prepared := prepareDefines g
  ({ prepared with definedParam := [], scheduleLoad := [] }, deploymentText prepared)

end ScenarioDeployGenerator
