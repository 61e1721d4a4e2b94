import StTools.Lib.EarlyExit
import StTools.ScenarioDeployGenerator.CalmText
import StTools.ScenarioDeployGenerator.Generator

/-!
# The data of the files

A line is read without its blanks, so almost all texts in the globals have no blanks, and those that
the generator puts together are calm.  `Globals.Tidy` says so; every pass over the traffic cases and
the defines keeps it, and at the end both files are calm, up to the entries of the proxies.
-/

namespace ScenarioDeployGenerator

open TextSearch

/-! ## Texts without blanks -/

variable {t a b line element : Text}

lemma NoBlank.append (ha : NoBlank a) (hb : NoBlank b) : NoBlank (a ++ b) := fun h =>
  (List.mem_append.mp h).elim ha hb

/-- A part of a text without blanks. -/
lemma NoBlank.subset (ht : NoBlank t) (h : a ⊆ t) : NoBlank a := fun ha => ht (h ha)

lemma noBlank_addQuottes (h : NoBlank t) : NoBlank (addQuottes t) := by
  intro hmem
  rcases List.mem_cons.mp hmem with hmem | hmem
  · exact absurd hmem (by decide)
  · rcases List.mem_append.mp hmem with hmem | hmem
    · exact h hmem
    · exact absurd hmem (by decide)

lemma noBlank_booleanToString (value : Bool) : NoBlank (booleanToString value) := by
  cases value <;> decide

/-- A purged line has no blanks. -/
lemma noBlank_purgeLine : NoBlank (purgeLine t) := fun h => (mem_purgeLine h).2.1 rfl

/-- What `filterLine` takes out of a line. -/
lemma filterLine_subset {filter : Text} {after : Bool} (h : filterLine line filter after = some a) :
    a ⊆ line := by
  obtain ⟨x, hx, rfl⟩ := Option.map_eq_some_iff.mp h
  obtain ⟨hfst, hsnd⟩ := splitOnce_subset hx
  cases after
  · exact hfst
  · exact hsnd

lemma readKey_subset {key : Text} (h : readKey line key = some a) : a ⊆ line := filterLine_subset h

/-! ## The globals -/

/-- The texts of a traffic case. -/
structure ScriptData.Tidy (s : ScriptData) : Prop where
  name : NoBlank s.name
  weight : Calm s.trafficWeight
  type : NoBlank s.subcriberTypeName
  params : ∀ x ∈ s.params, Calm (", ".toList ++ x)
  base : Calm s.base
  range : Calm s.range

/-- A table of texts without blanks. -/
def NoBlankTable (table : OrderedMap Text Text) : Prop :=
  table.All fun k v => NoBlank k ∧ NoBlank v

/-- The texts of the globals. -/
structure Globals.Tidy (g : Globals) : Prop where
  tcs : g.tcDesc.All fun k s => NoBlank k ∧ s.Tidy
  defines : NoBlankTable g.defineParam
  layer : NoBlankTable g.defineParamLayer
  mo : NoBlankTable g.defineParamMO
  definedParam : ∀ x ∈ g.definedParam, NoBlank x
  loadFilter : ∀ x ∈ g.loadFilter, NoBlank x
  lgen : ∀ x ∈ g.lgen, NoBlank x
  scheduleLoad : ∀ x ∈ g.scheduleLoad, NoBlank x
  proxies : ∀ h ∈ g.diaProxy, NoBlank h.name
  settings : ∀ k, NoBlank (g.setting k)
  execution : Calm g.executionType

section Updates

variable {g : Globals} {s : ScriptData}

lemma Globals.Tidy.setSetting (h : g.Tidy) {k : Setting} (ha : NoBlank a) :
    (g.setSetting k a).Tidy :=
  { h with
    settings := fun k' => by
      change NoBlank (Function.update g.setting k a k')
      rw [Function.update_apply]
      split_ifs
      · exact ha
      · exact h.settings k' }

lemma Globals.Tidy.setNumber (h : g.Tidy) {k : Number} {n : ℤ} : (g.setNumber k n).Tidy :=
  { h with }

lemma Globals.Tidy.setSwitch (h : g.Tidy) {k : Switch} {v : Bool} : (g.setSwitch k v).Tidy :=
  { h with }

/-- A define is changed or added. -/
lemma Globals.Tidy.updateDefineParam (h : g.Tidy) {name value : Text} (hname : NoBlank name)
    (hvalue : NoBlank value) : (g.updateDefineParam name value).Tidy :=
  { h with
    defines := by
      rw [Globals.updateDefineParam]
      dsimp only
      cases hkey : g.defineParam.firstKey fun k => name <:+: k with
      | none => exact h.defines.insert ⟨hname, hvalue⟩
      | some k =>
        obtain ⟨v, hv⟩ := OrderedMap.mem_of_firstKey hkey
        exact h.defines.assign ⟨(h.defines _ hv).1, hvalue⟩ }

lemma Globals.Tidy.setExecution (h : g.Tidy) (ht : Calm t) {cyclic : Bool} :
    ({ g with executionType := t } |>.updateDefineParam "CYCLIC".toList
      (booleanToString cyclic)).Tidy :=
  Globals.Tidy.updateDefineParam (g := { g with executionType := t }) { h with execution := ht }
    (by decide) (noBlank_booleanToString cyclic)

lemma Globals.Tidy.setRange (h : g.Tidy) (ha : NoBlank a) : (g.setRange a).Tidy :=
  h.setExecution ((Calm.append (by decide) (.of_noBlank ha)).append (by decide))

lemma Globals.Tidy.setTime (h : g.Tidy) (ha : NoBlank a) : (g.setTime a).Tidy :=
  h.setExecution ((Calm.append (by decide) (.of_noBlank ha)).append (by decide))

lemma Globals.Tidy.setExec (h : g.Tidy) (ha : NoBlank a) : (g.setExec a).Tidy :=
  h.setExecution ((Calm.append (by decide) (.of_noBlank ha)).append (by decide))

/-- The traffic cases are changed one by one. -/
lemma Globals.Tidy.mapTcs (h : g.Tidy) {f : Text → ScriptData → ScriptData}
    (hf : ∀ k s, s.Tidy → (f k s).Tidy) : ({ g with tcDesc := g.tcDesc.map f } : Globals).Tidy :=
  { h with tcs := h.tcs.map fun k s hs => ⟨hs.1, hf k s hs.2⟩ }

/-- One traffic case is changed. -/
lemma Globals.Tidy.modifyTc (h : g.Tidy) {k : Text} {f : ScriptData → ScriptData}
    (hf : ∀ s, s.Tidy → (f s).Tidy) : ({ g with tcDesc := g.tcDesc.modify k f } : Globals).Tidy :=
  { h with tcs := h.tcs.modify fun s hs => ⟨hs.1, hf s hs.2⟩ }

end Updates

/-! ## The template -/

section Template

variable {r : Reading} {g : Globals} {table : OrderedMap Text Text}

/-- The texts of the traffic case that is read, and of the globals. -/
structure Reading.Tidy (r : Reading) : Prop where
  scriptData : r.scriptData.Tidy
  globals : r.globals.Tidy

lemma ScriptData.tidy_fresh {kind : TrafficType} : (ScriptData.fresh kind).Tidy where
  name := List.not_mem_nil
  weight := Calm.nil
  type := List.not_mem_nil
  params _ h := nomatch h
  base := Calm.nil
  range := Calm.nil

lemma Reading.Tidy.insertScript (h : r.Tidy) : r.insertScript.Tidy := by
  rw [Reading.insertScript]
  split_ifs
  · exact h.globals
  · exact { h.globals with tcs := h.globals.tcs.insert ⟨h.scriptData.name, h.scriptData⟩ }

lemma Reading.Tidy.tcName (h : r.Tidy) (hline : NoBlank line) : (r.tcName line).Tidy := by
  refine ⟨?_, h.insertScript⟩
  have hscript : (if r.scriptData.name = [] then r.scriptData
      else ScriptData.fresh r.globals.trafficType).Tidy := by
    split_ifs
    · exact h.scriptData
    · exact ScriptData.tidy_fresh
  rw [Reading.tcName]
  dsimp only
  cases hkey : readKey line "tcName".toList with
  | none => exact hscript
  | some name => exact { hscript with name := hline.subset (readKey_subset hkey) }

lemma Reading.Tidy.subcriberType (h : r.Tidy) (hline : NoBlank line) :
    (r.subcriberType line).Tidy := by
  rw [Reading.subcriberType]
  cases hkey : readKey line "subcriberType".toList with
  | none => exact h
  | some name =>
    exact ⟨{ h.scriptData with type := hline.subset (readKey_subset hkey) }, { h.globals with }⟩

/-- A line with a parameter begins with its key. -/
lemma calm_param (hline : NoBlank line)
    (hkey : filterLine line ":=".toList false = some "pName".toList) :
    Calm (", ".toList ++ line) := by
  obtain ⟨x, hx, hfst⟩ := Option.map_eq_some_iff.mp hkey
  obtain ⟨x, rest⟩ := x
  change x = "pName".toList at hfst
  subst hfst
  have hrest : NoBlank rest := hline.subset (splitOnce_subset hx).2
  rw [eq_append_of_splitOnce hx, ← List.append_assoc]
  exact Calm.append (by decide) (.of_noBlank hrest)

/-- A flag of the script data is set to the value of its line. -/
lemma Reading.Tidy.flag (h : r.Tidy) (hline : NoBlank line) (name : Text) (f : Text → ScriptData → ScriptData)
    (hf : ∀ value, NoBlank value → (f value r.scriptData).Tidy) :
    (match readKey line name with
      | some value => ({ r with scriptData := f value r.scriptData } : Reading)
      | none => r).Tidy := by
  cases hvalue : readKey line name with
  | none => exact h
  | some value => exact ⟨hf value (hline.subset (readKey_subset hvalue)), h.globals⟩

/-- A global setting is set to the value of its line. -/
lemma Reading.Tidy.setting (h : r.Tidy) (hline : NoBlank line) (name : Text) (f : Text → Globals → Globals)
    (hf : ∀ value, NoBlank value → (f value r.globals).Tidy) :
    (match readKey line name with
      | some value => ({ r with globals := f value r.globals } : Reading)
      | none => r).Tidy := by
  cases hvalue : readKey line name with
  | none => exact h
  | some value => exact ⟨h.scriptData, hf value (hline.subset (readKey_subset hvalue))⟩

/-- A line of the template about a traffic case, or one that sets a variable. -/
lemma Reading.Tidy.key (h : r.Tidy) (hline : NoBlank line)
    (hkey : filterLine line ":=".toList false = some element) : (r.key line element).Tidy := by
  have hg := h.globals
  rw [Reading.key]
  refine iteInduction (fun _ => h.tcName hline) fun _ => ?_
  refine iteInduction (fun _ => h.subcriberType hline) fun _ => ?_
  refine iteInduction (fun _ => ?_) fun _ => ?_
  · exact h.flag hline _ (fun value s => { s with addPre := value = "true".toList })
      fun value _ => { h.scriptData with }
  refine iteInduction (fun _ => ?_) fun _ => ?_
  · exact h.flag hline _ (fun value s => { s with addPost := value = "true".toList })
      fun value _ => { h.scriptData with }
  refine iteInduction (fun _ => ?_) fun _ => ?_
  · exact ⟨{ h.scriptData with weight := .of_noBlank hline }, hg⟩
  refine iteInduction (fun hpName => ?_) fun _ => ?_
  · refine ⟨{ h.scriptData with params := fun x hx => ?_ }, hg⟩
    rcases List.mem_append.mp hx with hx | hx
    · exact h.scriptData.params x hx
    · rw [List.mem_singleton.mp hx]
      exact calm_param hline (hpName ▸ hkey)
  refine iteInduction (fun _ => ?_) fun _ => ?_
  · exact h.flag hline _ (fun value s => { s with groupName := s.groupName ++ [toUpper value] })
      fun value _ => { h.scriptData with }
  refine iteInduction (fun _ => ?_) fun _ => ?_
  · exact h.setting hline _ (fun value g => g.setSetting .fileMask value) fun _ hv => hg.setSetting hv
  refine iteInduction (fun _ => ?_) fun _ => ?_
  · exact h.setting hline _ (fun value g => g.setSetting .consoleMask value) fun _ hv => hg.setSetting hv
  refine iteInduction (fun _ => ?_) fun _ => ?_
  · exact h.setting hline _ (fun value g => g.setSetting .logFile value) fun _ hv => hg.setSetting hv
  refine iteInduction (fun _ => ?_) fun _ => ?_
  · exact h.setting hline _ (fun value g => g.setNumber .numOfPTCs (atoi value)) fun _ _ => hg.setNumber
  refine iteInduction (fun _ => ?_) fun _ => ?_
  · exact h.setting hline _ (fun value g => g.setRange value) fun _ hv => hg.setRange hv
  refine iteInduction (fun _ => ?_) fun _ => h
  exact h.setting hline _ (fun value g => g.setTime value) fun _ hv => hg.setTime hv

/-- What is left of a line and the table have no blanks. -/
lemma noBlank_defineLine (keyword : Text) (after : Bool) (hline : NoBlank line)
    (htable : NoBlankTable table) :
    NoBlank (defineLine keyword line after table).line ∧
      NoBlankTable (defineLine keyword line after table).table := by
  rw [defineLine]
  cases hfilter : filterLine line keyword after with
  | none => exact ⟨hline, htable⟩
  | some element =>
    have helement : NoBlank element := hline.subset (filterLine_subset hfilter)
    dsimp only
    cases hsplit : splitOnce ":=".toList element with
    | none => exact ⟨helement, htable⟩
    | some x =>
      obtain ⟨hfst, hsnd⟩ := splitOnce_subset hsplit
      exact ⟨helement, htable.assign ⟨helement.subset hfst, helement.subset hsnd⟩⟩

/-- A line with a key and a value. -/
lemma Reading.Tidy.keyLine (h : r.Tidy) (hline : NoBlank line) :
    (match filterLine line ":=".toList false with
      | some element => r.key line element
      | none => r).Tidy := by
  split
  · next element helement => exact h.key hline helement
  · exact h

/-- **Step.**  A line of the template. -/
lemma Reading.Tidy.templateLine {raw : Text} (h : r.Tidy) : (templateLine r raw).Tidy := by
  have hline : NoBlank (purgeLine raw) := noBlank_purgeLine
  have hkey := h.keyLine hline
  have hparams := noBlank_defineLine "DEFINE".toList true hline hkey.globals.defines
  refine ⟨hkey.scriptData, { hkey.globals with defines := hparams.2, layer := ?_, mo := ?_ }⟩
  · exact (noBlank_defineLine _ _ hparams.1 hkey.globals.layer).2
  · exact (noBlank_defineLine _ _ (noBlank_defineLine _ _ hparams.1 hkey.globals.layer).1
      hkey.globals.mo).2

/-- The template. -/
lemma Globals.Tidy.readTemplateFile {file : List Text} (h : g.Tidy) :
    (readTemplateFile file g).Tidy := by
  have hfold : ∀ (lines : List Text) (r : Reading), r.Tidy →
      (lines.foldl ScenarioDeployGenerator.templateLine r).Tidy := by
    intro lines
    induction lines with
    | nil => exact fun r hr => hr
    | cons line lines ih => exact fun r hr => ih _ hr.templateLine
  have hweight : Calm "trafficWeight := 1.000000".toList := by decide
  have hfresh : (ScriptData.fresh g.trafficType).Tidy := ScriptData.tidy_fresh
  exact Reading.Tidy.insertScript (hfold _ _ ⟨{ hfresh with weight := hweight }, h⟩)

end Template

/-! ## The user's traffic mix -/

section UserFile

variable {g : Globals} {table : OrderedMap Text Text}

/-- What is left of a line has no blanks, and the traffic cases only change their groups. -/
lemma tidy_groupLine (keyword : Text) (change : List Text → Text → List Text) (h : g.Tidy)
    (hline : NoBlank line) : NoBlank (groupLine keyword line change g).1 ∧
      (groupLine keyword line change g).2.Tidy := by
  rw [groupLine]
  cases hfilter : filterLine line keyword true with
  | none => exact ⟨hline, h⟩
  | some element =>
    have helement : NoBlank element := hline.subset (filterLine_subset hfilter)
    dsimp only
    cases splitOnce ":=".toList element with
    | none => exact ⟨helement, h⟩
    | some x => exact ⟨helement, h.modifyTc fun s hs => { hs with }⟩

/-- What is left of a line and the table have no blanks. -/
lemma noBlank_userDefineLine (keyword : Text) (after : Bool) (hline : NoBlank line)
    (htable : NoBlankTable table) :
    NoBlank (userDefineLine keyword line after table).line ∧
      NoBlankTable (userDefineLine keyword line after table).table := by
  rw [userDefineLine]
  cases hfilter : filterLine line keyword after with
  | none => exact ⟨hline, htable⟩
  | some element =>
    have helement : NoBlank element := hline.subset (filterLine_subset hfilter)
    dsimp only
    cases hsplit : splitOnce ":=".toList element with
    | none => exact ⟨helement, htable⟩
    | some x =>
      refine ⟨helement, ?_⟩
      dsimp only
      split
      · next k hk =>
        obtain ⟨v, hv⟩ := OrderedMap.mem_of_firstKey hk
        exact htable.assign ⟨(htable _ hv).1, helement.subset (splitOnce_subset hsplit).2⟩
      · exact htable

/-- A traffic case that the user names. -/
lemma Globals.Tidy.includeTc (h : g.Tidy) : (g.includeTc a).Tidy := by
  rw [Globals.includeTc]
  split_ifs
  · exact h
  · exact h.modifyTc fun s hs => { hs with }

/-- A line with the name of a traffic case. -/
lemma Globals.Tidy.tcNameLine (h : g.Tidy) (line : Text) :
    (match filterLine line ":=".toList false with
      | some element =>
        if element = "tcName".toList then
          match readKey line "tcName".toList with
          | some name => g.includeTc name
          | none => g
        else g
      | none => g).Tidy := by
  split
  · refine iteInduction (fun _ => ?_) fun _ => h
    split
    · exact h.includeTc
    · exact h
  · exact h

/-- **Step.**  A line of the user's file. -/
lemma Globals.Tidy.userLine {raw : Text} (h : g.Tidy) : (userLine g raw).Tidy := by
  have hline : NoBlank (purgeLine raw) := noBlank_purgeLine
  have hadd := tidy_groupLine "addToGroup".toList (fun groups value => groups ++ [value])
    (h.tcNameLine (purgeLine raw)) hline
  have hrem := tidy_groupLine "remFromGroup".toList (fun groups value => groups.erase value)
    hadd.2 hadd.1
  have hparams := noBlank_userDefineLine "DEFINE".toList true hrem.1 hrem.2.defines
  refine { hrem.2 with defines := hparams.2, layer := ?_, mo := ?_ }
  · exact (noBlank_userDefineLine _ _ hparams.1 hrem.2.layer).2
  · exact (noBlank_userDefineLine _ _ (noBlank_userDefineLine _ _ hparams.1 hrem.2.layer).1
      hrem.2.mo).2

/-- The user's file. -/
lemma Globals.Tidy.readTrafficDescUserFile {file : List Text} (h : g.Tidy) :
    (readTrafficDescUserFile file g).Tidy := by
  rw [ScenarioDeployGenerator.readTrafficDescUserFile]
  induction getlines file generalizing g with
  | nil => exact h
  | cons line lines ih => exact ih h.userLine

end UserFile

/-! ## The configuration -/

section Configuration

variable {g : Globals} {value : Text}

/-- When the program goes on, the texts are tidy. -/
def TidyAfter (r : Except Failure Globals) : Prop := EarlyExit.Ends Globals.Tidy (fun _ => True) r

/-- The parts of the value of `modTc`. -/
lemma TcChange.noBlank_parse (h : NoBlank value) :
    NoBlank (TcChange.parse value).weight ∧ NoBlank (TcChange.parse value).base ∧
      NoBlank (TcChange.parse value).range := by
  have hnil : NoBlank [] := List.not_mem_nil
  rw [TcChange.parse]
  cases h1 : splitOnce [':'] value with
  | none => exact ⟨hnil, hnil, hnil⟩
  | some x =>
    have hx : NoBlank x.2 := h.subset (splitOnce_subset h1).2
    dsimp only
    cases h2 : splitOnce [':'] x.2 with
    | none => exact ⟨hnil, hnil, hnil⟩
    | some y =>
      obtain ⟨hfst, hsnd⟩ := splitOnce_subset h2
      dsimp only
      cases h3 : splitOnce [':'] y.2 with
      | none => exact ⟨hx.subset hfst, hnil, hnil⟩
      | some z =>
        obtain ⟨hfst', hsnd'⟩ := splitOnce_subset h3
        exact ⟨hx.subset hfst, (hx.subset hsnd).subset hfst', (hx.subset hsnd).subset hsnd'⟩

lemma ScriptData.Tidy.applyChange {s : ScriptData} (hs : s.Tidy) (h : NoBlank value) :
    ((TcChange.parse value).apply s).Tidy := by
  obtain ⟨hweight, hbase, hrange⟩ := TcChange.noBlank_parse h
  refine { hs with weight := ?_, base := ?_, range := ?_ }
  · refine iteInduction (fun _ => hs.weight) fun _ => iteInduction (fun _ => ?_) fun _ => ?_
    · exact Calm.append (by decide) (.of_noBlank hweight)
    · exact (Calm.append (by decide) (.of_noBlank hweight)).append (by decide)
  · exact iteInduction (fun _ => hs.base) fun _ => .of_noBlank hbase
  · exact iteInduction (fun _ => hs.range) fun _ => .of_noBlank hrange

lemma Globals.Tidy.modTrafficCase (h : g.Tidy) (hvalue : NoBlank value) :
    TidyAfter (modTrafficCase value g) := by
  refine iteInduction (fun _ => trivial) fun _ => iteInduction (fun _ => trivial) fun _ =>
    iteInduction (fun _ => trivial) fun _ => h.mapTcs fun k s hs => ?_
  split_ifs
  · exact hs.applyChange hvalue
  · exact hs

/-- The parts of the value of `sub_range`. -/
lemma RangeChange.noBlank_parse (h : NoBlank value) :
    NoBlank (RangeChange.parse value).base ∧ NoBlank (RangeChange.parse value).range := by
  have hnil : NoBlank [] := List.not_mem_nil
  rw [RangeChange.parse]
  cases h1 : splitOnce [':'] value with
  | none => exact ⟨hnil, hnil⟩
  | some x =>
    have hx : NoBlank x.2 := h.subset (splitOnce_subset h1).2
    dsimp only
    cases h2 : splitOnce [':'] x.2 with
    | none => exact ⟨hnil, hnil⟩
    | some y => exact ⟨hx.subset (splitOnce_subset h2).1, hx.subset (splitOnce_subset h2).2⟩

lemma Globals.Tidy.changeRange (h : g.Tidy) (hvalue : NoBlank value) :
    TidyAfter (changeRange value g) := by
  obtain ⟨hbase, hrange⟩ := RangeChange.noBlank_parse hvalue
  refine iteInduction (fun _ => ?_) fun _ => trivial
  have hdefines : NoBlankTable (g.defineParam.map fun k v =>
      if (RangeChange.parse value).OnRange k then (RangeChange.parse value).range
      else if (RangeChange.parse value).OnBase k then (RangeChange.parse value).base else v) := by
    refine h.defines.map fun k v hv => ⟨hv.1, ?_⟩
    split_ifs
    · exact hrange
    · exact hbase
    · exact hv.2
  exact { h with defines := hdefines }

lemma Globals.Tidy.storeloadSched (h : g.Tidy) (hvalue : NoBlank value) :
    (storeloadSched value g).Tidy := by
  have hparts : NoBlank ((splitOnce [':'] value).getD ([], [])).1 ∧
      NoBlank ((splitOnce [':'] value).getD ([], [])).2 := by
    cases hsplit : splitOnce [':'] value with
    | none => exact ⟨List.not_mem_nil, List.not_mem_nil⟩
    | some x =>
      obtain ⟨hfst, hsnd⟩ := splitOnce_subset hsplit
      exact ⟨hvalue.subset hfst, hvalue.subset hsnd⟩
  refine { h with scheduleLoad := fun x hx => ?_ }
  rcases List.mem_append.mp hx with hx | hx
  · exact h.scheduleLoad x hx
  · rw [List.mem_singleton.mp hx]
    refine NoBlank.append (NoBlank.append (NoBlank.append (NoBlank.append ?_ hparts.1) ?_) hparts.2) ?_
    · decide
    · decide
    · decide

/-- The name of a proxy is a part of its line. -/
lemma Host.noBlank_parse {h : Host} (hline : NoBlank line) (hparse : Host.parse line = some h) :
    NoBlank h.name := by
  rw [Host.parse] at hparse
  cases hsplit : splitOnce [':'] (line.drop "diaProxy:=".toList.length) with
  | none =>
    rw [hsplit] at hparse
    cases hparse
  | some x =>
    have hname : NoBlank x.1 :=
      (hline.subset (List.drop_subset _ _)).subset (splitOnce_subset hsplit).1
    rw [hsplit] at hparse
    dsimp only at hparse
    split at hparse
    · cases hparse
      exact hname
    · split at hparse
      · cases hparse
        exact hname
      · cases hparse
        exact hname

lemma Globals.Tidy.diaProxyLine (h : g.Tidy) (hline : NoBlank line) : (diaProxyLine line g).Tidy := by
  refine { h with proxies := fun p hp => ?_ }
  rcases List.mem_append.mp hp with hp | hp
  · exact h.proxies p hp
  · exact Host.noBlank_parse hline (Option.mem_toList.mp hp)

/-- An element is added to a list of texts. -/
lemma noBlank_of_mem_append {l : List Text} {x : Text} (hl : ∀ x ∈ l, NoBlank x)
    (hvalue : NoBlank value) (hx : x ∈ l ++ [value]) : NoBlank x := by
  rcases List.mem_append.mp hx with hx | hx
  · exact hl x hx
  · exact List.mem_singleton.mp hx ▸ hvalue

lemma Globals.Tidy.defParam (h : g.Tidy) (hvalue : NoBlank value) :
    TidyAfter (defParam value g) :=
  iteInduction (fun _ => trivial) fun _ =>
    { h with definedParam := fun _ => noBlank_of_mem_append h.definedParam hvalue }

/-- What is stored under the key of a table. -/
lemma Globals.Tidy.storeIn {τ : Type*} {table : List (Text × τ)} {store : τ → Globals → Globals}
    (h : g.Tidy) (hstore : ∀ e ∈ table, ∀ g : Globals, g.Tidy → (store e.2 g).Tidy) :
    (storeIn table element store g).Tidy := by
  rw [ScenarioDeployGenerator.storeIn]
  cases hlookup : table.lookup element with
  | none => exact h
  | some k =>
    obtain ⟨l₁, l₂, htable, -⟩ := List.lookup_eq_some_iff.mp hlookup
    exact hstore (element, k) (htable ▸ List.mem_append_right _ List.mem_cons_self) g h

lemma Globals.Tidy.storeKey {g' : Globals} (h : g.Tidy) (hvalue : NoBlank value)
    (hok : storeKey element value g = some g') : g'.Tidy := by
  rw [ScenarioDeployGenerator.storeKey] at hok
  split_ifs at hok
  cases hok
  have hdefines : ∀ e ∈ defineKeys, NoBlank e.2 := by decide
  refine Globals.Tidy.storeIn (Globals.Tidy.storeIn (Globals.Tidy.storeIn (Globals.Tidy.storeIn
    (Globals.Tidy.storeIn h ?_) ?_) ?_) ?_) ?_
  · exact fun e _ g hg => hg.setSetting hvalue
  · exact fun e _ g hg => (hg.setSetting hvalue).setSwitch
  · exact fun e _ g hg => hg.setNumber
  · exact fun e _ g hg => hg.setSwitch
  · exact fun e he g hg => hg.updateDefineParam (hdefines e he) hvalue

/-- A key of the configuration with its value. -/
lemma Globals.Tidy.configKey (h : g.Tidy) (hline : NoBlank line) (hvalue : NoBlank value) :
    TidyAfter (configKey line element value g) := by
  rw [ScenarioDeployGenerator.configKey]
  refine iteInduction (fun _ => h.setTime hvalue) fun _ => ?_
  refine iteInduction (fun _ => h.setRange hvalue) fun _ => ?_
  refine iteInduction (fun _ => h.setExec hvalue) fun _ => ?_
  refine iteInduction (fun _ => ?_) fun _ => ?_
  · exact { h with lgen := fun _ => noBlank_of_mem_append h.lgen hvalue }
  refine iteInduction (fun _ => { h with }) fun _ => ?_
  refine iteInduction (fun _ => { h with }) fun _ => ?_
  refine iteInduction (fun _ => h.diaProxyLine hline) fun _ => ?_
  refine iteInduction (fun _ => ?_) fun _ => ?_
  · exact { h with loadFilter := fun _ => noBlank_of_mem_append h.loadFilter hvalue }
  refine iteInduction (fun _ => h.storeloadSched hvalue) fun _ => ?_
  refine iteInduction (fun _ => h.modTrafficCase hvalue) fun _ => ?_
  refine iteInduction (fun _ => { h with }) fun _ => ?_
  refine iteInduction (fun _ => h.defParam hvalue) fun _ => ?_
  refine iteInduction (fun _ => h.changeRange hvalue) fun _ => ?_
  refine iteInduction (fun _ => ?_) fun _ => ?_
  · refine iteInduction (fun _ => ?_) fun _ => h
    exact h.updateDefineParam (by decide) (noBlank_addQuottes hvalue)
  · split
    · next g' hok => exact h.storeKey hvalue hok
    · trivial

/-- **Step.**  A line of the configuration. -/
lemma Globals.Tidy.configLine {raw : Text} (h : g.Tidy) : TidyAfter (configLine g raw) := by
  have hline : NoBlank (purgeLine raw) := noBlank_purgeLine
  rw [ScenarioDeployGenerator.configLine]
  split
  · exact h
  · split
    · next value hvalue => exact h.configKey hline (hline.subset (readKey_subset hvalue))
    · exact h

/-- The configuration. -/
lemma Globals.Tidy.readConfigurationFile {file : List Text} (h : g.Tidy) :
    TidyAfter (readConfigurationFile file g) :=
  EarlyExit.Ends.foldlM (fun _ => Globals.Tidy) (fun _ _ _ _ hs => hs.configLine) h

end Configuration

/-! ## The passes over the traffic cases -/

section Passes

variable {g : Globals}

lemma Globals.Tidy.addTrafficGroup (h : g.Tidy) : (addTrafficGroup g).Tidy := by
  refine h.mapTcs fun k s hs => ?_
  split_ifs
  · exact { hs with }
  · exact hs

lemma Globals.Tidy.mergeDefines (h : g.Tidy) : (mergeDefines g).Tidy := by
  have hfold : ∀ (l : List (Text × Text)) (table : OrderedMap Text Text),
      (∀ e ∈ l, NoBlank e.1 ∧ NoBlank e.2) → NoBlankTable table →
      NoBlankTable (l.foldl (fun params e => params.assign e.1 e.2) table) := by
    intro l
    induction l with
    | nil => exact fun table _ htable => htable
    | cons e l ih =>
      intro table hl htable
      exact ih _ (fun x hx => hl x (List.mem_cons_of_mem e hx))
        (htable.assign (hl e List.mem_cons_self))
  refine { h with defines := hfold _ _ ?_ h.defines }
  refine iteInduction (motive := fun table : OrderedMap Text Text =>
    ∀ e ∈ table.entries, NoBlank e.1 ∧ NoBlank e.2) (fun _ => h.layer) fun _ => h.mo

lemma Globals.Tidy.remTrafficCase {tc : Text} (h : g.Tidy) : TidyAfter (remTrafficCase tc g) := by
  refine iteInduction (fun _ => h.mapTcs fun k s hs => ?_) fun _ => trivial
  refine iteInduction (fun _ => ?_) fun _ => hs
  exact iteInduction (fun _ => { hs with }) fun _ => { hs with }

lemma Globals.Tidy.excludeFromGroup {name group : Text} (h : g.Tidy) :
    TidyAfter (excludeFromGroup g name group) := by
  refine EarlyExit.Ends.foldlM (fun _ => Globals.Tidy) (fun _ excluded s _ hs => ?_) h
  split
  · exact iteInduction (fun _ => hs.remTrafficCase) fun _ => hs
  · exact hs

lemma Globals.Tidy.excludeTraffiCase (h : g.Tidy) : TidyAfter (excludeTraffiCase g) := by
  refine EarlyExit.Ends.bind (Q := Globals.Tidy) ?_ fun s hs => ?_
  · refine EarlyExit.Ends.foldlM (fun _ => Globals.Tidy) (fun _ e s _ hs => ?_) h
    exact EarlyExit.Ends.foldlM (fun _ => Globals.Tidy) (fun _ _ _ _ hs => hs.excludeFromGroup) hs
  · exact EarlyExit.Ends.foldlM (fun _ => Globals.Tidy) (fun _ _ _ _ hs => hs.remTrafficCase) hs

/-- The texts are tidy when the files are read. -/
lemma tidy_plan (o : Options) : TidyAfter (plan o) := by
  have hstart : (Globals.mk o.trafficType o.specificTrafficMix o.configFile
      ∅ ∅ ∅ ∅ ∅ [] [] [] [] [] [] [] [] [] (fun _ => []) (fun _ => 0)
      fun s => s = .slfProxyMode ∨ s = .manualControl ∨ s = .stats).Tidy :=
    { tcs := OrderedMap.All.empty
      defines := OrderedMap.All.empty
      layer := OrderedMap.All.empty
      mo := OrderedMap.All.empty
      definedParam := fun _ h => nomatch h
      loadFilter := fun _ h => nomatch h
      lgen := fun _ h => nomatch h
      scheduleLoad := fun _ h => nomatch h
      proxies := fun _ h => nomatch h
      settings := fun _ => List.not_mem_nil
      execution := Calm.nil }
  have hread : TidyAfter (readFiles o) := by
    refine Globals.Tidy.readConfigurationFile ?_
    have htemplate : (readTemplateFile o.template _).Tidy := hstart.readTemplateFile
    cases o.trafficDesc with
    | none => exact htemplate
    | some file => exact htemplate.readTrafficDescUserFile
  refine hread.bind fun g hg => ?_
  refine EarlyExit.Ends.bind hg.addTrafficGroup.mergeDefines.excludeTraffiCase fun g hg => ?_
  refine iteInduction (fun _ => trivial) fun _ => iteInduction (fun _ => trivial) fun _ => ?_
  exact iteInduction (fun _ => trivial) fun _ => hg

end Passes

end ScenarioDeployGenerator
