import StTools.Lib.LabelledSystem
import StTools.Lib.Words
import StTools.LoadPlotter.ConnectionThread
import StTools.ScenarioDeployGenerator.Text
import Mathlib.Data.Fintype.Basic
import Mathlib.Data.List.FinRange
import Mathlib.Data.Rat.Defs

/-!
# Adding connections

`addConnection` takes the first place of `v_connections` that is `NOT_USED`, and writes the parameters of the
command into it one by one.  A connection that ends only sets its status, an unknown parameter ends the
command at once, and `initConnection`, which is called when `checkConnectionData` rejects the data, leaves
two of the fields.  So what a place holds when it is taken again depends on its past.

`addsRight_of_along` says in which runs the connections that are added start from the defaults, and
commands that are rejected change nothing.
-/

namespace LoadPlotter

open LabelledSystem
open ScenarioDeployGenerator (Text filterLine readKey atoi isSpace)

/-! ## The data of a connection -/

/-- `LoadType`. -/
inductive LoadType
  | traffic
  | system
  | oam
  | total
  deriving Repr, DecidableEq

/-- The loads and sums of a connection. -/
structure Measured where
  regulatedloadValue : ℚ
  trafficloadValue : ℚ
  oamloadValue : ℚ
  systemloadValue : ℚ
  totalloadValue : ℚ
  /-- `acc_systemLoad`, `acc_trafficLoad` and `acc_oamLoad`. -/
  accSystemLoad : ℕ
  accTrafficLoad : ℕ
  accOamLoad : ℕ
  /-- `cba_acc_Load`, `cba_total_Load`, `cba_load_cnt` and `cba_round_cnt`. -/
  cbaAccLoad : ℚ
  cbaTotalLoad : ℚ
  cbaLoadCnt : ℕ
  cbaRoundCnt : ℕ
  deriving DecidableEq

/-- Nothing is measured. -/
def Measured.zero : Measured := ⟨0, 0, 0, 0, 0, 0, 0, 0, 0, 0, 0, 0⟩

/-- A `Connection`. -/
structure ConnectionData where
  destHostIP : Text
  dataFileName : Text
  cmdFileName : Text
  loopFileName : Text
  name : Text
  destPort : ℤ
  scanSize : ℕ
  measureTime : ℕ
  refreshTime : ℕ
  procFilter : List Text
  excludeProcFilter : List Text
  regulatedLoadType : LoadType
  loadTotalPlot : Bool
  cbaUserid : Text
  cbaPassword : Text
  sock : ℤ
  status : ConnectionStatus
  measured : Measured
  deriving DecidableEq

/-- The parameters that a command may have. -/
inductive Key
  | name
  | port
  | destHostIO2
  | destHostIP
  | refreshTime
  | platform
  | cbaUserId
  | cbaPassword
  | graphScanSize
  | measureTime
  | excludeProcFilter
  | procFilter
  | regulatedloadType
  | loadTotalPlot
  deriving Repr, DecidableEq

namespace Key

/-- The parameters in the order in which `addConnection` compares them. -/
def all : List Key :=
  [name, port, destHostIO2, destHostIP, refreshTime, platform, cbaUserId, cbaPassword, graphScanSize,
    measureTime, excludeProcFilter, procFilter, regulatedloadType, loadTotalPlot]

/-- The text of a parameter. -/
def text : Key → Text
  | name => "Name".toList
  | port => "Port".toList
  | destHostIO2 => "DestHostIO2".toList
  | destHostIP => "DestHostIP".toList
  | refreshTime => "RefreshTime".toList
  | platform => "Platform".toList
  | cbaUserId => "CBA_UserId".toList
  | cbaPassword => "CBA_Password".toList
  | graphScanSize => "GraphScanSize".toList
  | measureTime => "MeasureTime".toList
  | excludeProcFilter => "ExcludeProcFilter".toList
  | procFilter => "ProcFilter".toList
  | regulatedloadType => "RegulatedloadType".toList
  | loadTotalPlot => "LoadTotalPlot".toList

/-- The parameter with a text. -/
def ofText (element : Text) : Option Key := all.find? fun k => k.text = element

end Key

/-- A word of a command. -/
inductive Param
  /-- It is passed over. -/
  | ignored
  /-- The parameter does not exist. -/
  | unknown (element : Text)
  | set (key : Key) (value : Text)
  deriving DecidableEq

/-- What a word of a command is. -/
def readParam (word : Text) : Param :=
  match filterLine word ":=".toList false with
  | none => .ignored
  | some element =>
    match Key.ofText element with
    | none => .unknown element
    | some key => ((readKey word key.text).map (Param.set key)).getD .ignored

/-- The parameters of a command. -/
def params (cmd : Text) : List Param := (Words.words isSpace cmd).map readParam

/-- An `int` as an `unsigned int`. -/
def toUnsigned (n : ℤ) : ℕ := (n % 2 ^ 32).toNat

/-- The load type for a text. -/
def LoadType.ofText (element : Text) : LoadType :=
  if element = "TRAFFIC".toList ∨ element = "traffic".toList then traffic
  else if element = "SYSTEM".toList ∨ element = "system".toList then system
  else if element = "OAM".toList ∨ element = "oam".toList then oam
  else total

namespace ConnectionData

/-- A connection with nothing but the defaults. -/
def defaults : ConnectionData where
  destHostIP := []
  dataFileName := []
  cmdFileName := []
  loopFileName := []
  name := []
  destPort := -1
  scanSize := 0
  measureTime := 1
  refreshTime := 0
  procFilter := []
  excludeProcFilter := []
  regulatedLoadType := .total
  loadTotalPlot := true
  cbaUserid := "root".toList
  cbaPassword := "rootroot".toList
  sock := -1
  status := .notUsed
  measured := .zero

/-- `initConnection`, which leaves two fields as they are. -/
def initConnection (c : ConnectionData) : ConnectionData :=
  { defaults with loopFileName := c.loopFileName, excludeProcFilter := c.excludeProcFilter }

/-- The data with the value of a parameter; `getIp` is `getIpByHostname`. -/
def set (getIp : Text → Text) (c : ConnectionData) (key : Key) (element : Text) : ConnectionData :=
  match key with
  | .name =>
    { c with
      name := element
      dataFileName := element ++ ".data".toList
      cmdFileName := "gnuplot_".toList ++ element ++ ".cmd".toList
      loopFileName := "loop_forever_".toList ++ element ++ ".gnu".toList }
  | .port => { c with destPort := atoi element }
  | .destHostIO2 => c
  | .destHostIP => { c with destHostIP := getIp element }
  | .refreshTime => { c with refreshTime := toUnsigned (atoi element) }
  | .platform => c
  | .cbaUserId => { c with cbaUserid := element }
  | .cbaPassword => { c with cbaPassword := element }
  | .graphScanSize => { c with scanSize := toUnsigned (atoi element) }
  | .measureTime => { c with measureTime := toUnsigned (atoi element) }
  | .excludeProcFilter => { c with excludeProcFilter := c.excludeProcFilter ++ [element] }
  | .procFilter => { c with procFilter := c.procFilter ++ [element] }
  | .regulatedloadType => { c with regulatedLoadType := .ofText element }
  | .loadTotalPlot => { c with loadTotalPlot := element = "true".toList ∨ element = "TRUE".toList }

/-- The loop over the parameters, with the name of the unknown one that ends it. -/
def readParams (getIp : Text → Text) : List Param → ConnectionData → ConnectionData × Option Text
  | [], c => (c, none)
  | .ignored :: ps, c => readParams getIp ps c
  | .unknown element :: _, c => (c, some element)
  | .set key value :: ps, c => readParams getIp ps (c.set getIp key value)

/-- The port 22 where there is none. -/
def withDefaultPort (c : ConnectionData) : ConnectionData :=
  { c with destPort := if c.destPort = -1 then 22 else c.destPort }

end ConnectionData

open ConnectionData

/-! ## The command -/

section Command

variable {n : ℕ}

/-- `v_connections`. -/
abbrev Connections (n : ℕ) := Fin n → ConnectionData

/-- `findConnection`: the first place that is not used. -/
def findConnection (s : Connections n) : Option (Fin n) :=
  (List.finRange n).find? fun i => (s i).status = .notUsed

/-- The first other connection with the name of the connection `i` is to be closed. -/
def closeNamesake (s : Connections n) (i : Fin n) : Connections n :=
  match (List.finRange n).find? fun j => (s j).status ≠ .notUsed ∧ j ≠ i ∧ (s j).name = (s i).name with
  | none => s
  | some j => Function.update s j { s j with status := .toBeClosed }

/-- `checkConnectionData`. -/
def checkConnectionData (s : Connections n) (i : Fin n) : Text × Connections n :=
  if (s i).name = [] then ("ERROR: Name parameter is mandatory".toList, s)
  else
    let s := closeNamesake s i
    if (s i).destHostIP = [] then ("ERROR: destHostIP parameter is mandatory".toList, s)
    else
      let s := Function.update s i (s i).withDefaultPort
      if 0 < (s i).refreshTime ∧ (s i).scanSize = 0 then
        ("ERROR: GraphScanSize must be greater then zero when RefreshTime is set".toList, s)
      else ("OK".toList, s)

/-- `addConnection`, with its answer.  Without a free place the program ends. -/
def addConnection (getIp : Text → Text) (s : Connections n) (cmd : Text) :
    Option (Text × Connections n) :=
  match findConnection s with
  | none => none
  | some i =>
    match readParams getIp (params cmd) (s i) with
    | (c, some element) =>
      some ("FAIL Param ".toList ++ element ++ " doesn't exist \n".toList, Function.update s i c)
    | (c, none) =>
      let (result, s) := checkConnectionData (Function.update s i c) i
      if result ≠ "OK".toList then some (result, Function.update s i (initConnection (s i)))
      else some (result, Function.update s i { s i with status := .offline })

/-- What happens to the connections. -/
inductive AddEvent (n : ℕ)
  /-- A command to add one. -/
  | add (cmd : Text)
  /-- The thread of one writes what threads write. -/
  | run (i : Fin n) (procFilter : List Text) (sock : ℤ) (status : ConnectionStatus)
    (measured : Measured)

/-- A step.  A thread runs only on a connection that is used, until it says that it is not. -/
def addStep (getIp : Text → Text) (s : Connections n) : AddEvent n → Option (Connections n)
  | .add cmd => (addConnection getIp s cmd).map Prod.snd
  | .run i procFilter sock status measured =>
    if (s i).status ≠ .notUsed then
      some (Function.update s i
        { s i with procFilter := procFilter, sock := sock, status := status, measured := measured })
    else none

/-- What the threads use of it. -/
def ConnectionData.con (c : ConnectionData) : Connection := ⟨c.name, c.procFilter, c.sock, c.status⟩

/-- A step of a thread is a `run` of its connection. -/
lemma addStep_of_thread {getIp : Text → Text} {s : Connections n} {i : Fin n} {tool : ToolStatus}
    {t : Thread} {input : Input} {o : Outcome} (hused : (s i).status ≠ .notUsed)
    (h : t.step tool (s i).con input = some o) :
    ∃ s', addStep getIp s (.run i o.con.procFilter o.con.sock o.con.status (s i).measured) = some s' ∧
      (s' i).con = o.con := by
  have hname : o.con.name = (s i).name := Thread.name_of_step h
  refine ⟨_, if_pos hused, ?_⟩
  rw [Function.update_self, ConnectionData.con, ← hname]

/-! ## What a connection should start from -/

namespace ConnectionData

/-- `checkConnectionData` accepts the data. -/
def Passes (c : ConnectionData) : Prop :=
  c.name ≠ [] ∧ c.destHostIP ≠ [] ∧ ¬ (0 < c.refreshTime ∧ c.scanSize = 0)

instance : DecidablePred Passes := fun _ => inferInstanceAs (Decidable (_ ∧ _ ∧ ¬ _))

/-- The connection for a command: the defaults, with the parameters of the command. -/
def fromDefaults (getIp : Text → Text) (cmd : Text) : Option ConnectionData :=
  match readParams getIp (params cmd) defaults with
  | (c, none) => if c.Passes then some { c.withDefaultPort with status := .offline } else none
  | (_, some _) => none

end ConnectionData

/-- A connection that is accepted is the one that the command stands for, and a command that is rejected
changes nothing. -/
def AddsRight (getIp : Text → Text) (s : Connections n) : AddEvent n → Prop
  | .add cmd => ∀ x ∈ addConnection getIp s cmd,
      if x.1 = "OK".toList then (findConnection s).map x.2 = fromDefaults getIp cmd else x.2 = s
  | .run .. => True

instance (getIp : Text → Text) (s : Connections n) : ∀ e, Decidable (AddsRight getIp s e)
  | .add _ => inferInstanceAs (Decidable (∀ _ ∈ _, ite _ _ _))
  | .run .. => isTrue trivial

/-- The parameters that are set before the loop ends. -/
def keys : List Param → List Key
  | [] => []
  | .ignored :: ps => keys ps
  | .unknown _ :: _ => []
  | .set key _ :: ps => key :: keys ps

/-- The first unknown parameter. -/
def unknown : List Param → Option Text
  | [] => none
  | .ignored :: ps => unknown ps
  | .unknown element :: _ => some element
  | .set _ _ :: ps => unknown ps

namespace ConnectionData

/-- The data with the default where a value for the parameter would be written; the lists are kept, as
values are added to them. -/
def erase (c : ConnectionData) : Key → ConnectionData
  | .name => { c with name := [], dataFileName := [], cmdFileName := [], loopFileName := [] }
  | .port => { c with destPort := -1 }
  | .destHostIO2 => c
  | .destHostIP => { c with destHostIP := [] }
  | .refreshTime => { c with refreshTime := 0 }
  | .platform => c
  | .cbaUserId => { c with cbaUserid := "root".toList }
  | .cbaPassword => { c with cbaPassword := "rootroot".toList }
  | .graphScanSize => { c with scanSize := 0 }
  | .measureTime => { c with measureTime := 1 }
  | .excludeProcFilter => c
  | .procFilter => c
  | .regulatedloadType => { c with regulatedLoadType := .total }
  | .loadTotalPlot => { c with loadTotalPlot := true }

/-- What is not written over is as the defaults are, with 22 as good as no port. -/
def FreshFor (c : ConnectionData) (ps : List Param) : Prop :=
  ((keys ps).foldl erase c).withDefaultPort = defaults.withDefaultPort

instance (c : ConnectionData) (ps : List Param) : Decidable (c.FreshFor ps) :=
  inferInstanceAs (Decidable (_ = _))

end ConnectionData

/-- A command finds a place in order: no parameter is set before an unknown one; without an unknown one,
the place is as the defaults are where the command does not write, and, when the command is to be rejected,
it is so everywhere, and neither a name nor an excluded processor is set. -/
def InOrder (getIp : Text → Text) (s : Connections n) : AddEvent n → Prop
  | .add cmd => ∀ i, findConnection s = some i →
      if unknown (params cmd) ≠ none then
        ∀ key ∈ keys (params cmd), key = .destHostIO2 ∨ key = .platform
      else
        (s i).FreshFor (params cmd) ∧
          (fromDefaults getIp cmd = none →
            s i = defaults ∧ ∀ key ∈ keys (params cmd), key ≠ .name ∧ key ≠ .excludeProcFilter)
  | .run .. => True

instance (getIp : Text → Text) (s : Connections n) : ∀ e, Decidable (InOrder getIp s e)
  | .add _ => inferInstanceAs (Decidable (∀ _, _ → ite _ _ _))
  | .run .. => isTrue trivial

end Command

/-! ## The parameters and the data -/

namespace ConnectionData

variable {getIp : Text → Text} {ps : List Param} {key : Key} {c : ConnectionData}

lemma foldl_erase_defaults (ks : List Key) : ks.foldl erase defaults = defaults := by
  induction ks with
  | nil => rfl
  | cons key ks ih =>
    have hkey : defaults.erase key = defaults := by cases key <;> rfl
    rw [List.foldl_cons, hkey, ih]

/-- A value is written over what was there. -/
lemma set_erase_self (c : ConnectionData) (key : Key) (value : Text) :
    (c.erase key).set getIp key value = c.set getIp key value := by
  cases key <;> rfl

/-- Other fields are kept. -/
lemma set_erase_of_ne {key' : Key} (h : key' ≠ key) (c : ConnectionData) (value : Text) :
    (c.erase key).set getIp key' value = (c.set getIp key' value).erase key := by
  cases key' <;> cases key <;> first | rfl | exact absurd rfl h

/-- A field that is written over may be erased before. -/
lemma readParams_erase (h : key ∈ keys ps) (c : ConnectionData) :
    readParams getIp ps (c.erase key) = readParams getIp ps c := by
  induction ps generalizing c with
  | nil => nomatch h
  | cons p ps ih =>
    cases p with
    | ignored => exact ih h c
    | unknown => nomatch h
    | set key' value =>
      by_cases hkey : key' = key
      · rw [readParams, readParams, hkey, set_erase_self]
      · have hmem : key ∈ keys ps := (List.mem_cons.mp h).resolve_left (Ne.symm hkey)
        rw [readParams, readParams, set_erase_of_ne hkey, ih hmem]

lemma readParams_foldl_erase {ks : List Key} (h : ∀ key ∈ ks, key ∈ keys ps) (c : ConnectionData) :
    readParams getIp ps (ks.foldl erase c) = readParams getIp ps c := by
  induction ks generalizing c with
  | nil => rfl
  | cons key ks ih =>
    rw [List.foldl_cons, ih fun k hk => h k (List.mem_cons_of_mem key hk),
      readParams_erase (h key List.mem_cons_self)]

lemma withDefaultPort_withDefaultPort (c : ConnectionData) :
    c.withDefaultPort.withDefaultPort = c.withDefaultPort := by
  unfold withDefaultPort
  split_ifs <;> simp_all

/-- The default port may be filled in before a parameter. -/
lemma withDefaultPort_set (c : ConnectionData) (key : Key) (value : Text) :
    (c.withDefaultPort.set getIp key value).withDefaultPort =
      (c.set getIp key value).withDefaultPort := by
  by_cases hport : key = .port
  · rw [hport]
    rfl
  · have hother : c.withDefaultPort.set getIp key value = (c.set getIp key value).withDefaultPort := by
      cases key <;> first | rfl | exact absurd rfl hport
    rw [hother, withDefaultPort_withDefaultPort]

/-- What the port is at the end depends on the data up to the default port. -/
lemma withDefaultPort_readParams {c d : ConnectionData} (h : c.withDefaultPort = d.withDefaultPort) :
    (readParams getIp ps c).1.withDefaultPort = (readParams getIp ps d).1.withDefaultPort := by
  induction ps generalizing c d with
  | nil => exact h
  | cons p ps ih =>
    cases p with
    | ignored => exact ih h
    | unknown => exact h
    | set key value =>
      refine ih ?_
      rw [← withDefaultPort_set c, h, withDefaultPort_set]

/-- **Fresh places.**  What is read into a fresh place is what is read into the defaults. -/
lemma FreshFor.readParams_eq (getIp : Text → Text) (h : c.FreshFor ps) :
    (readParams getIp ps c).1.withDefaultPort = (readParams getIp ps defaults).1.withDefaultPort := by
  rw [← readParams_foldl_erase (fun _ hkey => hkey) c]
  exact withDefaultPort_readParams h

lemma readParams_snd (ps : List Param) (c : ConnectionData) : (readParams getIp ps c).2 = unknown ps := by
  induction ps generalizing c with
  | nil => rfl
  | cons p ps ih =>
    cases p with
    | ignored => exact ih c
    | unknown => rfl
    | set key value => exact ih _

/-- The two results of the loop. -/
lemma readParams_eq (getIp : Text → Text) {found : Option Text} (h : unknown ps = found) (c : ConnectionData) :
    readParams getIp ps c = ((readParams getIp ps c).1, found) := Prod.ext rfl ((readParams_snd ps c).trans h)

/-- What no parameter of a command changes is kept. -/
lemma readParams_keeps {α : Type*} {f : ConnectionData → α}
    (h : ∀ key ∈ keys ps, ∀ c value, f (c.set getIp key value) = f c) (c : ConnectionData) :
    f (readParams getIp ps c).1 = f c := by
  induction ps generalizing c with
  | nil => rfl
  | cons p ps ih =>
    cases p with
    | ignored => exact ih h c
    | unknown => rfl
    | set key value =>
      rw [readParams, ih fun k hk => h k (List.mem_cons_of_mem key hk), h key List.mem_cons_self]

/-- Data that differ in the default port pass alike. -/
lemma passes_congr {c d : ConnectionData} (h : c.withDefaultPort = d.withDefaultPort) :
    c.Passes ↔ d.Passes := by
  change c.withDefaultPort.Passes ↔ d.withDefaultPort.Passes
  rw [h]

end ConnectionData

/-! ## The check -/

section Check

variable {n : ℕ} {s : Connections n} {i : Fin n}

/-- The connection that is checked is not its own namesake. -/
lemma closeNamesake_self (s : Connections n) (i : Fin n) : closeNamesake s i i = s i := by
  unfold closeNamesake
  generalize hfind : List.find? _ _ = found
  cases found with
  | none => rfl
  | some j =>
    have hother := List.find?_some hfind
    have hne : j ≠ i := (decide_eq_true_eq.mp hother).2.1
    exact Function.update_of_ne (Ne.symm hne) ..

/-- Data that pass get the default port. -/
lemma checkConnectionData_of_passes (h : (s i).Passes) :
    (checkConnectionData s i).1 = "OK".toList ∧
      (checkConnectionData s i).2 i = (s i).withDefaultPort := by
  obtain ⟨hname, hhost, htime⟩ := h
  unfold checkConnectionData
  rw [if_neg hname]
  simp only [closeNamesake_self, if_neg hhost, Function.update_self]
  rw [if_neg (by exact htime)]
  exact ⟨rfl, Function.update_self ..⟩

/-- Others do not. -/
lemma checkConnectionData_of_not_passes (h : ¬ (s i).Passes) :
    (checkConnectionData s i).1 ≠ "OK".toList := by
  unfold checkConnectionData
  split
  · exact fun heq => by simp at heq
  · rename_i hname
    simp only [closeNamesake_self, Function.update_self]
    split
    · exact fun heq => by simp at heq
    · rename_i hhost
      have htime : 0 < (s i).refreshTime ∧ (s i).scanSize = 0 := by
        by_contra htime
        exact h ⟨hname, hhost, htime⟩
      rw [if_pos (by exact htime)]
      exact fun heq => by simp at heq

end Check

/-! ## Steps and runs -/

section Steps

variable {n : ℕ} {s : Connections n} {i : Fin n} {getIp : Text → Text} {cmd : Text}

/-- A command with an unknown parameter. -/
lemma addConnection_of_unknown {element : Text} (hfind : findConnection s = some i)
    (h : unknown (params cmd) = some element) :
    addConnection getIp s cmd = some ("FAIL Param ".toList ++ element ++ " doesn't exist \n".toList,
      Function.update s i (readParams getIp (params cmd) (s i)).1) := by
  have hread := readParams_eq getIp h (s i)
  rw [addConnection, hfind]
  dsimp only
  rw [hread]

/-- A command without one whose data pass. -/
lemma addConnection_of_passes (hfind : findConnection s = some i) (h : unknown (params cmd) = none)
    (hpass : (readParams getIp (params cmd) (s i)).1.Passes) :
    ∃ s', addConnection getIp s cmd = some ("OK".toList, s') ∧
      s' i = { (readParams getIp (params cmd) (s i)).1.withDefaultPort with status := .offline } := by
  have hread := readParams_eq getIp h (s i)
  set c := (readParams getIp (params cmd) (s i)).1
  obtain ⟨hok, hdata⟩ := checkConnectionData_of_passes (s := Function.update s i c) (i := i)
    (by rwa [Function.update_self])
  rw [Function.update_self] at hdata
  rw [addConnection, hfind]
  dsimp only
  rw [hread]
  dsimp only
  rw [if_neg (not_not_intro hok), hok, hdata]
  exact ⟨_, rfl, Function.update_self ..⟩

/-- A command without one whose data do not pass.  When there is no name, no other connection is closed. -/
lemma addConnection_of_not_passes (hfind : findConnection s = some i) (h : unknown (params cmd) = none)
    (hpass : ¬ (readParams getIp (params cmd) (s i)).1.Passes) :
    ∃ result s', addConnection getIp s cmd = some (result, s') ∧ result ≠ "OK".toList ∧
      ((readParams getIp (params cmd) (s i)).1.name = [] →
        s' = Function.update s i (initConnection (readParams getIp (params cmd) (s i)).1)) := by
  have hread := readParams_eq getIp h (s i)
  set c := (readParams getIp (params cmd) (s i)).1
  have hfail := checkConnectionData_of_not_passes (s := Function.update s i c) (i := i)
    (by rwa [Function.update_self])
  rw [addConnection, hfind]
  dsimp only
  rw [hread]
  dsimp only
  rw [if_pos hfail]
  refine ⟨_, _, rfl, hfail, fun hname => ?_⟩
  rw [checkConnectionData, if_pos (by rwa [Function.update_self])]
  dsimp only
  rw [Function.update_self, Function.update_idem]

/-- What a command stands for that has no unknown parameter, at a fresh place. -/
lemma fromDefaults_of_freshFor (getIp : Text → Text) (h : unknown (params cmd) = none)
    (hfresh : (s i).FreshFor (params cmd)) :
    fromDefaults getIp cmd =
      if (readParams getIp (params cmd) (s i)).1.Passes then
        some { (readParams getIp (params cmd) (s i)).1.withDefaultPort with status := .offline }
      else none := by
  have hread := readParams_eq getIp h defaults
  have heq := hfresh.readParams_eq getIp
  rw [fromDefaults, hread, heq]
  exact if_congr (passes_congr heq).symm rfl rfl

/-- A command that finds a place in order adds right. -/
lemma InOrder.addsRight {e : AddEvent n} (h : InOrder getIp s e) : AddsRight getIp s e := by
  cases e with
  | run => trivial
  | add cmd =>
    intro x hadd
    cases hfind : findConnection s with
    | none =>
      rw [addConnection, hfind] at hadd
      cases hadd
    | some i =>
    have hi := h i hfind
    cases hunknown : unknown (params cmd) with
    | some element =>
      rw [if_pos (by simp [hunknown])] at hi
      have hkept : (readParams getIp (params cmd) (s i)).1 = s i := by
        refine readParams_keeps (f := id) (fun key hkey c value => ?_) (s i)
        rcases hi key hkey with rfl | rfl <;> rfl
      rw [addConnection_of_unknown hfind hunknown, hkept, Function.update_eq_self] at hadd
      cases hadd
      rw [if_neg (by simp)]
    | none =>
    rw [if_neg (by simp [hunknown])] at hi
    obtain ⟨hfresh, hreject⟩ := hi
    have hexpect := fromDefaults_of_freshFor getIp hunknown hfresh
    by_cases hpass : (readParams getIp (params cmd) (s i)).1.Passes
    · obtain ⟨t, ht, hti⟩ := addConnection_of_passes hfind hunknown hpass
      cases ht.symm.trans hadd
      rw [if_pos rfl]
      rw [hexpect, if_pos hpass, ← hti]
      rfl
    · obtain ⟨result, t, ht, hresult, hinit⟩ := addConnection_of_not_passes hfind hunknown hpass
      cases ht.symm.trans hadd
      rw [if_neg hresult]
      -- The place holds the defaults, and `initConnection` brings them back.
      obtain ⟨hdefaults, hkeys⟩ := hreject (by rw [hexpect, if_neg hpass])
      have hname : (readParams getIp (params cmd) (s i)).1.name = [] := by
        rw [readParams_keeps (f := ConnectionData.name) fun key hkey c value => ?_, hdefaults]
        · rfl
        · cases key <;> first | rfl | exact absurd rfl (hkeys _ hkey).1
      have hback : initConnection (readParams getIp (params cmd) (s i)).1 = initConnection (s i) := by
        refine readParams_keeps (fun key hkey c value => ?_) (s i)
        obtain ⟨hname, hexclude⟩ := hkeys key hkey
        cases key <;> first | rfl | exact absurd rfl hname | exact absurd rfl hexclude
      have hsame : initConnection (s i) = s i := by rw [hdefaults]; rfl
      rw [hinit hname, hback, hsame, Function.update_eq_self]

/-! ## Places that are new

At the beginning all places hold the defaults.  A command that is accepted gives its place to a connection,
and as long as that has not happened, a place holds the defaults still. -/

/-- The place that a command gives to a connection. -/
def given (getIp : Text → Text) (s : Connections n) : AddEvent n → Option (Fin n)
  | .add cmd => if (addConnection getIp s cmd).map Prod.fst = some "OK".toList then findConnection s else none
  | .run .. => none

/-- A step, with the places that have been given to connections so far. -/
def givenStep (getIp : Text → Text) (x : Connections n × List (Fin n)) (e : AddEvent n) :
    Option (Connections n × List (Fin n)) :=
  (addStep getIp x.1 e).map fun t => (t, x.2 ++ (given getIp x.1 e).toList)

/-- A command that sets nothing before an unknown parameter, nor a name or an excluded processor when it is
to be rejected. -/
def Plain (getIp : Text → Text) (cmd : Text) : Prop :=
  if unknown (params cmd) ≠ none then ∀ key ∈ keys (params cmd), key = .destHostIO2 ∨ key = .platform
  else fromDefaults getIp cmd = none →
    ∀ key ∈ keys (params cmd), key ≠ .name ∧ key ≠ .excludeProcFilter

/-- A plain command that finds a place which no connection has had. -/
def NewPlace (getIp : Text → Text) (x : Connections n × List (Fin n)) : AddEvent n → Prop
  | .add cmd => Plain getIp cmd ∧ ∀ i, findConnection x.1 = some i → i ∉ x.2
  | .run .. => True

/-- Closing a namesake leaves the places that are not used. -/
lemma closeNamesake_of_notUsed {j : Fin n} (hj : (s j).status = .notUsed) : closeNamesake s i j = s j := by
  unfold closeNamesake
  generalize hfind : List.find? _ _ = found
  cases found with
  | none => rfl
  | some k =>
    have hother := List.find?_some hfind
    have hused : (s k).status ≠ .notUsed := (decide_eq_true_eq.mp hother).1
    have hne : j ≠ k := by
      rintro rfl
      exact hused hj
    exact Function.update_of_ne hne ..

/-- A command leaves the other places that are not used. -/
lemma addConnection_of_notUsed {j : Fin n} {x : Text × Connections n} (hfind : findConnection s = some i)
    (hne : j ≠ i) (hj : (s j).status = .notUsed) (h : addConnection getIp s cmd = some x) : x.2 j = s j := by
  have hcheck : ∀ c, (checkConnectionData (Function.update s i c) i).2 j = s j := by
    intro c
    have hat : Function.update s i c j = s j := Function.update_of_ne hne ..
    have hclose : closeNamesake (Function.update s i c) i j = s j := by
      rw [closeNamesake_of_notUsed (by rw [hat, hj]), hat]
    unfold checkConnectionData
    dsimp only
    split_ifs <;> simp only [Function.update_of_ne hne, hclose]
  rw [addConnection, hfind] at h
  dsimp only at h
  split at h
  · obtain rfl := Option.some.inj h
    exact Function.update_of_ne hne ..
  · split_ifs at h <;>
    · obtain rfl := Option.some.inj h
      exact (Function.update_of_ne hne ..).trans (hcheck _)

/-- A plain command that finds the defaults finds a place in order. -/
lemma Plain.inOrder (h : Plain getIp cmd) (hi : ∀ i, findConnection s = some i → s i = defaults) :
    InOrder getIp s (.add cmd) := by
  intro i hfind
  unfold Plain at h
  split_ifs at h ⊢ with hunknown
  · exact h
  · rw [hi i hfind]
    refine ⟨?_, fun hreject => ⟨rfl, h hreject⟩⟩
    rw [FreshFor, foldl_erase_defaults]

/-- **One step.**  A place that has not been given to a connection holds the defaults. -/
lemma defaults_of_givenStep {x y : Connections n × List (Fin n)} {e : AddEvent n}
    (hI : ∀ i ∉ x.2, x.1 i = defaults) (h : NewPlace getIp x e) (hstep : givenStep getIp x e = some y) :
    ∀ i ∉ y.2, y.1 i = defaults := by
  obtain ⟨t, ht, rfl⟩ := Option.map_eq_some_iff.mp hstep
  intro j hj
  rw [List.mem_append, not_or] at hj
  have hbefore := hI j hj.1
  have hnotUsed : (x.1 j).status = .notUsed := by rw [hbefore]; rfl
  cases e with
  | run i procFilter sock status measured =>
    obtain ⟨hused, hrun⟩ := Option.ite_none_right_eq_some.mp ht
    obtain rfl := Option.some.inj hrun
    have hne : j ≠ i := by
      rintro rfl
      exact hused hnotUsed
    exact (Function.update_of_ne hne ..).trans hbefore
  | add cmd =>
    obtain ⟨answer, hadd, rfl⟩ := Option.map_eq_some_iff.mp ht
    cases hfind : findConnection x.1 with
    | none =>
      rw [addConnection, hfind] at hadd
      cases hadd
    | some i =>
    by_cases hne : j = i
    · -- The command has been rejected: its place has not been given away.
      subst hne
      have hright := (h.1.inOrder fun i hi => hI i (h.2 i hi)).addsRight _ hadd
      have hrejected : answer.1 ≠ "OK".toList := by
        intro hok
        refine hj.2 ?_
        rw [given, if_pos (by rw [hadd, Option.map_some, hok]), hfind]
        exact List.mem_singleton_self j
      rw [if_neg hrejected] at hright
      rw [hright, hbefore]
    · exact (addConnection_of_notUsed hfind hne hnotUsed hadd).trans hbefore

/-- **New places are in order.**  In a run from the beginning in which every command is plain and finds a
place that no connection has had, every command finds a place in order. -/
theorem inOrder_of_newPlaces {es : List (AddEvent n)}
    (h : Along (givenStep getIp) (NewPlace getIp) (fun _ => defaults, []) es) :
    Along (addStep getIp) (InOrder getIp) (fun _ => defaults) es := by
  suffices hrun : ∀ (x : Connections n × List (Fin n)), (∀ i ∉ x.2, x.1 i = defaults) →
      Along (givenStep getIp) (NewPlace getIp) x es → Along (addStep getIp) (InOrder getIp) x.1 es from
    hrun _ (fun _ _ => rfl) h
  clear h
  induction es with
  | nil => exact fun _ _ _ => trivial
  | cons e es ih =>
    intro x hI h t ht
    have hstep : givenStep getIp x e = some (t, x.2 ++ (given getIp x.1 e).toList) := by
      rw [givenStep, ht, Option.map_some]
    obtain ⟨hnew, hrest⟩ := h _ hstep
    refine ⟨?_, ih _ (defaults_of_givenStep hI hnew hstep) hrest⟩
    cases e with
    | run => trivial
    | add cmd => exact hnew.1.inOrder fun i hi => hI i (hnew.2 i hi)

/-- Two connections that are accepted for one command have the same data, whatever was there before. -/
lemma AddsRight.same {m : ℕ} {t : Connections m} {s' : Connections n} {t' : Connections m}
    (hs : AddsRight getIp s (.add cmd)) (ht : AddsRight getIp t (.add cmd))
    (hs' : addConnection getIp s cmd = some ("OK".toList, s'))
    (ht' : addConnection getIp t cmd = some ("OK".toList, t')) :
    (findConnection s).map s' = (findConnection t).map t' := by
  have hleft := hs _ hs'
  have hright := ht _ ht'
  rw [if_pos rfl] at hleft hright
  exact hleft.trans hright.symm

/-- **Connections start from the defaults.**  In a run in which every command finds a place in order, the
data of every connection that is accepted are the defaults with the parameters of its command, and commands
that are rejected leave all places as they were. -/
theorem addsRight_of_along (getIp : Text → Text) {s : Connections n} {es : List (AddEvent n)}
    (h : Along (addStep getIp) (InOrder getIp) s es) :
    Along (addStep getIp) (AddsRight getIp) s es :=
  along_of_along (I := fun _ => True) (fun _ _ _ _ _ _ => trivial) (fun _ _ _ => InOrder.addsRight)
    trivial h

/-- Two commands for fresh places, the first of them without a name. -/
theorem freshPlaces_addsRight :
    Along (addStep id) (AddsRight id) (fun _ : Fin 1 => defaults)
      [.add "Port:=5".toList, .add "Name:=a DestHostIP:=h".toList] :=
  addsRight_of_along id (by decide +kernel)

/-- The second connection measures the processor of the first as well, which has ended before. -/
theorem takenAgain_not_addsRight :
    ¬ Along (addStep id) (AddsRight id) (fun _ : Fin 1 => defaults)
      [.add "Name:=a DestHostIP:=h ProcFilter:=PL-3".toList,
        .run 0 ["PL-3".toList] (-1) .notUsed .zero,
        .add "Name:=b DestHostIP:=h ProcFilter:=PL-4".toList] := by
  decide +kernel

end Steps

end LoadPlotter
