import StTools.ScenarioDeployGenerator.Deployment

/-!
# The scenario file

Each traffic case that takes part gets a range of subscribers of its type.  The scenario file then
declares every case once for each of the three phases, and says which cases are started, stopped and
waited for in a phase.

`ScenarioFile` holds what the loops of `writeScenarioFile` write; `scenarioText` is the text.
-/

namespace ScenarioDeployGenerator

open TextSearch

/-! ## Subscriber ranges -/

/-- The define with the first subscriber of a type. -/
def baseDefine (type : Text) : Text := "BASE_".toList ++ type

/-- The define with the number of subscribers of a traffic case. -/
def rangeDefine (type : Text) : Text := "SUBS_PER_SCRIPT_".toList ++ type

/-- The number of subscribers, as it is written. -/
def rangeText (type : Text) : Text := "$\x7b".toList ++ rangeDefine type ++ ",integer\x7d".toList

/-- The first subscriber of the case with a number, as it is written. -/
def baseText (counter : ℤ) (type : Text) : Text :=
  intToString counter ++ " * $\x7b".toList ++ rangeDefine type ++ ",integer\x7d + $\x7b".toList ++
    baseDefine type ++ ",integer\x7d".toList

/-- The type of a traffic case: what stands behind a `$` is the name of a define. -/
def subscriberTypeOf (defines : OrderedMap Text Text) (name : Text) : Text :=
  match filterLine name ['$'] true with
  | some element => (defines.find? element).getD name
  | none => name

/-- The range of a traffic case, unless the user gave one. -/
def ScriptData.setRange (s : ScriptData) (counter : ℤ) (type : Text) : ScriptData :=
  { s with
    range := if s.range = [] then rangeText type else s.range
    base := if s.base = [] then baseText counter type else s.base }

/-- One traffic case of the loop of `prepareRangeInfo`. -/
def rangeStep (g : Globals) (tc : Text × ScriptData) : Except Failure Globals :=
  if tc.2.toBeIncluded = false then .ok g
  else
    match g.subType.find? tc.2.subcriberTypeName with
    -- the name of the type is read through the iterator
    | none => .error .undefinedBehaviour
    | some _ =>
      let type := subscriberTypeOf g.defineParam tc.2.subcriberTypeName
      match g.subType.find? type with
      -- the counter is incremented before the test that would exit
      | none => .error .undefinedBehaviour
      | some counter =>
        .ok
          { g with
            subType := g.subType.assign type (counter + 1)
            tcDesc := g.tcDesc.modify tc.1 fun s => s.setRange counter type }

/-- Give every traffic case its range. -/
def prepareRangeInfo (g : Globals) : Except Failure Globals :=
  g.tcDesc.entries.foldlM rangeStep { g with subType := g.subType.map fun _ _ => 0 }

/-! ## What is written -/

/-- The phases of an execution. -/
inductive Phase
  | preexec
  | loadgen
  | postexec
  deriving DecidableEq

/-- The phases, in the order of the loops. -/
def Phase.all : List Phase := [.preexec, .loadgen, .postexec]

/-- The name of a phase. -/
def Phase.name : Phase → Text
  | .preexec => "preexec".toList
  | .loadgen => "loadgen".toList
  | .postexec => "postexec".toList

/-- What is appended to the name of a traffic case (`phases_suffix`). -/
def Phase.suffix : Phase → Text
  | .preexec => "_Pre".toList
  | .loadgen => []
  | .postexec => "_Post".toList

/-- What is appended to the name of the load regulator. -/
def Phase.regulatorSuffix : Phase → Text
  | .preexec => "Pre".toList
  | .loadgen => []
  | .postexec => "Post".toList

/-- The define with the load of a phase. -/
def Phase.loadLevel : Phase → Text
  | .preexec => "$\x7bLOAD_LEVEL_PRE, float\x7d".toList
  | .loadgen => "$\x7bLOAD_LEVEL, float\x7d".toList
  | .postexec => "$\x7bLOAD_LEVEL_POST, float\x7d".toList

/-- The states of a phase in which actions are taken. -/
inductive PhaseState
  | running
  | stopping
  deriving DecidableEq

/-- The name of a state. -/
def PhaseState.name : PhaseState → Text
  | .running => "RUNNING".toList
  | .stopping => "STOPPING".toList

/-- An action on a traffic case of a phase. -/
inductive Action
  | startTc (tc : Text)
  | stopTc (tc : Text)
  deriving DecidableEq

/-- A traffic case of a phase in `tcList`. -/
structure TcElement where
  /-- The name. -/
  tcName : Text
  /-- The line with the weight. -/
  trafficWeight : Text
  /-- The first subscriber. -/
  base : Text
  /-- The number of subscribers. -/
  range : Text
  /-- The parameters. -/
  params : List Text
  /-- How the execution ends. -/
  executionType : Text
  deriving DecidableEq

/-- The lists of the scenario file. -/
structure ScenarioFile where
  /-- The phases that are executed. -/
  phases : List Phase
  /-- The names in the type declarators. -/
  tcTypeDeclarators : List Text
  /-- The traffic cases. -/
  tcList : List TcElement
  /-- The traffic cases that a phase waits for. -/
  phaseFinishConditions : List (Phase × List Text)
  /-- The actions when a phase comes into a state. -/
  phaseStateChangeActions : List (Phase × PhaseState × List Action)
  deriving DecidableEq

/-- Some traffic case needs the phase before the load. -/
def isPreNeeded (g : Globals) : Bool :=
  g.tcDesc.entries.any fun e => e.2.addPre && e.2.toBeIncluded

/-- Some traffic case needs the phase after the load. -/
def isPostNeeded (g : Globals) : Bool :=
  g.tcDesc.entries.any fun e => e.2.addPost && e.2.toBeIncluded

/-- The traffic cases that take part. -/
def includedTcs (g : Globals) : List (Text × ScriptData) :=
  g.tcDesc.entries.filter fun e => e.2.toBeIncluded

/-- The test of the loops over the traffic cases of a phase. -/
def ScriptData.inPhase (s : ScriptData) : Phase → Bool
  | .preexec => s.addPre && s.addLoad
  | .loadgen => s.addLoad
  | .postexec => s.addPost && s.addLoad

/-- The names that the loop over the traffic cases of a phase writes. -/
def phaseTcs (g : Globals) (p : Phase) : List Text :=
  ((includedTcs g).filter fun e => e.2.inPhase p).map fun e => e.1 ++ p.suffix

/-- What is written when the flag of a phase is set. -/
def whenNeeded {τ : Type*} (needed : Bool) (l : List τ) : List τ := if needed then l else []

/-- How the traffic cases of the other two phases end. -/
def rangeExecutionType : Text := "\x7bnrOfRangeLoop:=\x7bcount:=1,actions:=\x7b\x7d\x7d\x7d".toList

/-- A traffic case of a phase; with WSM traffic it has its parameters in all phases. -/
def tcElement (g : Globals) (p : Phase) (e : Text × ScriptData) : TcElement where
  tcName := e.1 ++ p.suffix
  trafficWeight := e.2.trafficWeight
  base := e.2.base
  range := e.2.range
  params := if p = .loadgen ∨ g.trafficType = .wsm then e.2.params else []
  executionType := if p = .loadgen then g.executionType else rangeExecutionType

/-- The lists that the loops of `writeScenarioFile` write. -/
def scenarioFile (preNeeded postNeeded : Bool) (g : Globals) : ScenarioFile where
  phases :=
    whenNeeded preNeeded [.preexec] ++ [.loadgen] ++ whenNeeded postNeeded [.postexec]
  tcTypeDeclarators :=
    Phase.all.flatMap fun p => (includedTcs g).map fun e => e.1 ++ p.suffix
  tcList := Phase.all.flatMap fun p => (includedTcs g).map (tcElement g p)
  phaseFinishConditions :=
    whenNeeded preNeeded [(.preexec, phaseTcs g .preexec)] ++
      [(.loadgen, phaseTcs g .loadgen)] ++
      whenNeeded postNeeded [(.postexec, phaseTcs g .postexec)]
  phaseStateChangeActions :=
    whenNeeded preNeeded
        [(.preexec, .running, (phaseTcs g .preexec).map .startTc),
          -- also when the phase stops, `startTc` is written
          (.preexec, .stopping, (phaseTcs g .preexec).map .startTc)] ++
      [(.loadgen, .running, (phaseTcs g .loadgen).map .startTc),
        (.loadgen, .stopping, (phaseTcs g .loadgen).map .stopTc)] ++
      whenNeeded postNeeded
        [(.postexec, .running, (phaseTcs g .postexec).map .startTc),
          (.postexec, .stopping, (phaseTcs g .postexec).map .stopTc)]

/-! ## The text -/

/-- The entry of a Diameter proxy. -/
def diaproxyEntry (h : Host) : Text :=
  "\t\x7bhostname:=".toList ++ h.name ++ ", listeningPort:=\"".toList ++ intToString h.port ++
    "\", connections_number:=".toList ++ intToString h.nc ++ ", local_ip:=\"".toList ++
    h.localIp ++ "\"\x7d".toList

/-- The Diameter proxies. -/
def diaproxyInfo (g : Globals) : Text :=
  if g.trafficType = .ismsda ∨ g.trafficType = .esm then
    "Diaproxy_info_list:=\x7b \n".toList ++
      g.diaProxy.zipIdx.flatMap (fun x =>
        diaproxyEntry x.1 ++ (if x.2 < g.diaProxy.length - 1 then ",".toList else []) ++
          "\n".toList) ++
      "\x7d\n\n".toList
  else []

/-- A load regulator. -/
def loadRegulator (g : Globals) (p : Phase) : Text :=
  "\n\t\x7b\n\t  host := $LOAD_REG_HOSTNAME,\n\t  name := \"LoadReg".toList ++ g.regulatorName ++
    p.regulatorSuffix ++ "\", \n\t  loadToReach :=".toList ++ p.loadLevel ++ "\n\t\x7d".toList

/-- A regulated item. -/
def regulatedItem (g : Globals) (p : Phase) : Text :=
  "\n\t\x7b\n\t  idName := \x7b\n\t\tcps_SCInPhase := \x7b\n\t\t  eGrpName := \"eg_Tc_".toList ++
    g.scenarioName ++ "\",\n\t\t  scName := \"".toList ++ g.scenarioName ++
    "\",\n\t\t  phase := \"".toList ++ p.name ++
    "\"\n\t\t\x7d\n\t  \x7d,\n\t  weight := 1.0,".toList ++
    "\n\t  enabled := $\x7bENABLE_REG, boolean\x7d,".toList ++
    "\n\t  regulatorName := \"LoadReg".toList ++ g.regulatorName ++ p.regulatorSuffix ++
    "\"\n\t\x7d".toList

/-- The load regulators, the regulated items and the phases. -/
def regulators (g : Globals) (phases : List Phase) : Text :=
  "\ntsp_LoadRegulators := \n\x7b".toList ++ commaSeparated (phases.map (loadRegulator g)) ++
    "\n\x7d\n".toList ++
  "\ntsp_EPTF_ExecCtrl_RegulatorNames :=\n\x7b".toList ++
    commaSeparated (phases.map fun p =>
      "\n\t\"LoadReg".toList ++ g.regulatorName ++ p.regulatorSuffix ++ "\"".toList) ++
    "\n\x7d\n".toList ++
  "\ntsp_EPTF_ExecCtrl_RegulatedItems :=\n\x7b".toList ++
    commaSeparated (phases.map (regulatedItem g)) ++ "\n\x7d\n".toList ++
  ("\n\ntsp_EPTF_ExecCtrl_PhaseList_Declarators :=\n\x7b\n\t\x7b".toList ++
    "\n\t  name := \"ExecPhases\",\n\t  phases :=\n\t    \x7b".toList) ++
    commaSeparated (phases.map fun p =>
      "\n\t\t \x7b name := \"".toList ++ p.name ++ "\", enabled := true \x7d".toList) ++
    "\n\t    \x7d\n\t  \x7d\n\x7d\n\n".toList

/-- The scenario group and the entity groups. -/
def groups (g : Globals) : Text :=
  let sc := g.scenarioName
  let numOfPTCs := intToString (g.number .numOfPTCs)
  "\ntsp_EPTF_ExecCtrl_ScenarioGroup_Declarators :=\n\x7b\n  \x7b\n\tname := \"ScGroup_".toList ++
    sc ++
    "\",\n\texecMode := AUTOMATIC,\n\tscenarioNames := \x7b \"eg_Tc_".toList ++ sc ++ ".".toList ++
    sc ++ "\" \x7d,\n\tphaseListName := \"ExecPhases\"\n  \x7d\n\x7d\n".toList ++
  "tsp_LGenBase_EntityGrpDeclarators :=\n\x7b\n\t\x7bname := \"eg_Tc_".toList ++ sc ++
    "\", eType := \"CS_Entity_Tc_".toList ++ sc ++
    "\", eCount := $\x7bNUMBEROFENTITIES,integer\x7d\x7d,\n\t\x7bname := \"eg_LGen_".toList ++ sc ++
    "\", eType := \"CS_Entity_LGen_".toList ++ sc ++ "\", eCount := ".toList ++ numOfPTCs ++
    "\x7d\n\x7d".toList ++
  "\ntsp_EPTF_ExecCtrl_Scenario2EntityGroupList :=\n\x7b\n\t\x7bscenarioName := \"".toList ++ sc ++
    "\", eGrpName := \"eg_Tc_".toList ++ sc ++ "\", name := omit\x7d\n\x7d".toList

/-- A type declarator. -/
def typeDeclarator (g : Globals) (name : Text) : Text :=
  "\n\t\x7b\n\t\tname := \"".toList ++ name ++
    "\",\n\t\tfsmName := \"EPTF_CS_FSM_Tc\",\n\t\tentityType := \"CS_Entity_Tc_".toList ++
    g.scenarioName ++ "\",\n\t\tcustomEntitySucc := \"\"\n\t\x7d".toList

/-- A parameter of a traffic case. -/
def paramText (g : Globals) (param : Text) : Text :=
  "\n\t\t\t\t\t\t\t\x7baName:=\"".toList ++ g.scenarioName ++ "\", ".toList ++ param ++
    "\x7d".toList

/-- An element of `tcList`. -/
def TcElement.text (g : Globals) (e : TcElement) : Text :=
  "\n\t\t\t\x7b\n\t\t\t\ttcName := \"".toList ++ e.tcName ++
    "\",\n\t\t\t\ttcParamsList := \x7b\n\t\t\t\t\t\x7btarget := \x7b ".toList ++ e.trafficWeight ++
    "\x7d\x7d,\n\t\t\t\t\t\x7benableEntitiesAtStart := true\x7d,\n\t\t\t\t\t".toList ++
    "\x7branges := \x7b\x7bname := \"subscriber id\", enableSplit := true, baseOffset := ".toList ++
    e.base ++ ", count := ".toList ++ e.range ++ "\x7d".toList ++
    "\x7d\x7d,\n\t\t\t\t\t\x7bparams := \x7b\n".toList ++
    commaSeparated (e.params.map (paramText g)) ++
    "\n\t\t\t\t\t\t\x7d\n\t\t\t\t\t\x7d,\n\t\t\t\t\t\x7btrafficStartFinish := \x7b\n".toList ++
    "\t\t\t\t\t\t".toList ++ e.executionType ++
    "\n\t\t\t\t\t\t\x7d\n\t\t\t\t\t\x7d\n\t\t\t\t\x7d\n\t\t\t\x7d".toList

/-- An action. -/
def Action.text : Action → Text
  | .startTc tc => "\n\t\t\t\t\t\t\x7b startTc := \"".toList ++ tc ++ "\"\x7d".toList
  | .stopTc tc => "\n\t\t\t\t\t\t\x7b stopTc := \"".toList ++ tc ++ "\"\x7d".toList

/-- The finish conditions of a phase. -/
def finishCondition (x : Phase × List Text) : Text :=
  "\n\t\t\t\t\x7b\n\t\t\t\t\tphase := \"".toList ++ x.1.name ++
    "\",\n\t\t\t\t\tconditions := \x7b".toList ++
    commaSeparated (x.2.map fun tc =>
      "\n\t\t\t\t\t\t\x7b tcFinished := \"".toList ++ tc ++ "\"\x7d".toList) ++
    "\n\t\t\t\t\t\x7d\n\t\t\t\t\x7d".toList

/-- The actions of a phase in a state. -/
def changeAction (x : Phase × PhaseState × List Action) : Text :=
  "\n\t\t\t\t\x7b\n\t\t\t\t\tphase := \"".toList ++ x.1.name ++
    "\",\n\t\t\t\t\tstate := ".toList ++ x.2.1.name ++
    ",\n\t\t\t\t\tactions := \x7b".toList ++ commaSeparated (x.2.2.map Action.text) ++
    "\n\t\t\t\t\t\x7d\n\t\t\t\t\x7d".toList

/-- The scenario declarators. -/
def declarators (g : Globals) (f : ScenarioFile) : Text :=
  "tsp_LGenBase_TcMgmt_ScenarioDeclarators3 := \x7b\n\t\x7b\n\t\tname := \"".toList ++
    g.scenarioName ++ "\",\n".toList ++
  "\t\ttcList := \x7b".toList ++ commaSeparated (f.tcList.map (TcElement.text g)) ++
    "\n\t\t\x7d,\n".toList ++
  ("\t\tscParamsList := \x7b\n\t\t\t\x7bweightedScData := ".toList ++
    "\x7bcpsToReach := $\x7bNUMOFCPS, float\x7d, lockCPS := $\x7bLOCKCPS, boolean\x7d, ".toList ++
    "deterministicMix := true, scheduler := omit\x7d\x7d,\n".toList ++
    "\t\t\t\x7bphaseListName := \"ExecPhases\"\x7d,\n".toList) ++
  "\t\t\t\x7bphaseFinishConditions := \x7b".toList ++
    commaSeparated (f.phaseFinishConditions.map finishCondition) ++ "\n\t\t\t\x7d\x7d,".toList ++
  "\n\t\t\t\x7bphaseStateChangeActions := \x7b".toList ++
    commaSeparated (f.phaseStateChangeActions.map changeAction) ++ "\n\t\t\t\x7d\x7d".toList ++
  "\n\t\t\x7d\n".toList ++ "\n\t\x7d\n\x7d\n\n".toList

/-- The scenario file as a text. -/
def scenarioText (g : Globals) (f : ScenarioFile) : Text :=
  "[MODULE_PARAMETERS]\n".toList ++ diaproxyInfo g ++ regulators g f.phases ++ groups g ++
  "\ntsp_LGenBase_TcMgmt_tcTypeDeclarators2 := \x7b".toList ++
    commaSeparated (f.tcTypeDeclarators.map (typeDeclarator g)) ++ "\n\x7d\n\n\n".toList ++
  declarators g f

end ScenarioDeployGenerator
