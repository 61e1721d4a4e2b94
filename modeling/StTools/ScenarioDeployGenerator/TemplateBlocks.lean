import StTools.ScenarioDeployGenerator.Template

/-!
# The traffic cases of a template

`readTemplateFile` uses one record for all traffic cases.  At the next `tcName` it is stored and its
fields are reset by hand, and the weight is reset to an empty text, while the record of the first traffic
case begins with the weight 1.  `compositional_iff` says for which templates every traffic case is stored
as if the template had no other one.
-/

namespace ScenarioDeployGenerator

open TextSearch

variable {sc : ScriptData} {r : Reading} {g : Globals} {line element raw w : Text}

/-! ## What a line says about a traffic case -/

/-- What a line with a key other than `tcName` changes in the record. -/
def ScriptData.key (sc : ScriptData) (line element : Text) : ScriptData :=
  if element = "subcriberType".toList then
    match readKey line "subcriberType".toList with
    | some value => { sc with subcriberTypeName := value }
    | none => sc
  else if element = "preRequired".toList then
    match readKey line "preRequired".toList with
    | some value => { sc with addPre := value = "true".toList }
    | none => sc
  else if element = "postRequired".toList then
    match readKey line "postRequired".toList with
    | some value => { sc with addPost := value = "true".toList }
    | none => sc
  else if element = "trafficWeight".toList then { sc with trafficWeight := line }
  else if element = "pName".toList then { sc with params := sc.params ++ [line] }
  else if element = "groupName".toList then
    match readKey line "groupName".toList with
    | some value => { sc with groupName := sc.groupName ++ [toUpper value] }
    | none => sc
  else sc

/-- The traffic cases and the kind of traffic are kept. -/
def KeepsCases (g g' : Globals) : Prop := g'.tcDesc = g.tcDesc ∧ g'.trafficType = g.trafficType

/-- The traffic case that is read is the same, and only other global variables differ. -/
def SameCase (r x : Reading) : Prop := x.scriptData = r.scriptData ∧ KeepsCases r.globals x.globals

/-- A key that sets a global variable. -/
lemma SameCase.read (name : Text) (f : Text → Globals → Globals)
    (hf : ∀ value g, KeepsCases g (f value g)) :
    SameCase r
      (match readKey line name with
      | some value => { r with globals := f value r.globals }
      | none => r) := by
  cases readKey line name with
  | none => exact ⟨rfl, rfl, rfl⟩
  | some value => exact ⟨rfl, hf value r.globals⟩

/-- One of two keys. -/
lemma SameCase.ite {p : Prop} [Decidable p] {x y : Reading} (hx : SameCase r x) (hy : SameCase r y) :
    SameCase r (if p then x else y) := by
  split_ifs
  · exact hx
  · exact hy

/-- Such a line changes the record, and stores no traffic case. -/
lemma key_of_ne_tcName (h : element ≠ "tcName".toList) :
    (r.key line element).scriptData = r.scriptData.key line element ∧
      KeepsCases r.globals (r.key line element).globals := by
  rw [Reading.key, if_neg h, ScriptData.key, Reading.subcriberType]
  by_cases h₁ : element = "subcriberType".toList
  · rw [if_pos h₁, if_pos h₁]
    cases readKey line "subcriberType".toList <;> exact ⟨rfl, rfl, rfl⟩
  rw [if_neg h₁, if_neg h₁]
  by_cases h₂ : element = "preRequired".toList
  · rw [if_pos h₂, if_pos h₂]
    cases readKey line "preRequired".toList <;> exact ⟨rfl, rfl, rfl⟩
  rw [if_neg h₂, if_neg h₂]
  by_cases h₃ : element = "postRequired".toList
  · rw [if_pos h₃, if_pos h₃]
    cases readKey line "postRequired".toList <;> exact ⟨rfl, rfl, rfl⟩
  rw [if_neg h₃, if_neg h₃]
  by_cases h₄ : element = "trafficWeight".toList
  · rw [if_pos h₄, if_pos h₄]
    exact ⟨rfl, rfl, rfl⟩
  rw [if_neg h₄, if_neg h₄]
  by_cases h₅ : element = "pName".toList
  · rw [if_pos h₅, if_pos h₅]
    exact ⟨rfl, rfl, rfl⟩
  rw [if_neg h₅, if_neg h₅]
  by_cases h₆ : element = "groupName".toList
  · rw [if_pos h₆, if_pos h₆]
    cases readKey line "groupName".toList <;> exact ⟨rfl, rfl, rfl⟩
  rw [if_neg h₆, if_neg h₆]
  -- The other keys set global variables.
  exact (SameCase.read _ (fun value g => g.setSetting .fileMask value) fun _ _ => ⟨rfl, rfl⟩).ite <|
    (SameCase.read _ (fun value g => g.setSetting .consoleMask value) fun _ _ => ⟨rfl, rfl⟩).ite <|
    (SameCase.read _ (fun value g => g.setSetting .logFile value) fun _ _ => ⟨rfl, rfl⟩).ite <|
    (SameCase.read _ (fun value g => g.setNumber .numOfPTCs (atoi value)) fun _ _ => ⟨rfl, rfl⟩).ite <|
    (SameCase.read _ (fun value g => g.setRange value) fun _ _ => ⟨rfl, rfl⟩).ite <|
    (SameCase.read _ (fun value g => g.setTime value) fun _ _ => ⟨rfl, rfl⟩).ite ⟨rfl, rfl, rfl⟩

/-- The key of a line. -/
def lineKey (raw : Text) : Option Text := filterLine (purgeLine raw) ":=".toList false

/-- What a line without `tcName` changes in the record. -/
def ScriptData.readLine (sc : ScriptData) (raw : Text) : ScriptData :=
  match lineKey raw with
  | some element => sc.key (purgeLine raw) element
  | none => sc

/-- A line without `tcName`. -/
lemma templateLine_of_ne_tcName (h : lineKey raw ≠ some "tcName".toList) :
    (templateLine r raw).scriptData = r.scriptData.readLine raw ∧
      KeepsCases r.globals (templateLine r raw).globals := by
  rw [lineKey] at h
  rw [ScriptData.readLine, lineKey, templateLine]
  cases hkey : filterLine (purgeLine raw) ":=".toList false with
  | none => exact ⟨rfl, rfl, rfl⟩
  | some element =>
    have hne : element ≠ "tcName".toList := fun heq => h (hkey.trans (congrArg some heq))
    exact key_of_ne_tcName hne

/-- The record for the next traffic case. -/
def Reading.next (r : Reading) : ScriptData :=
  if r.scriptData.name = [] then r.scriptData else ScriptData.fresh r.globals.trafficType

/-- A line with `tcName` stores the record. -/
lemma keepsCases_tcName (h : lineKey raw = some "tcName".toList) :
    KeepsCases r.insertScript (templateLine r raw).globals := by
  rw [lineKey] at h
  rw [templateLine, h]
  dsimp only
  rw [Reading.key, if_pos rfl]
  exact ⟨rfl, rfl⟩

/-- It begins the next one. -/
lemma scriptData_tcName {name : Text} (h : lineKey raw = some "tcName".toList)
    (hname : readKey (purgeLine raw) "tcName".toList = some name) :
    (templateLine r raw).scriptData = { r.next with name := name } := by
  rw [lineKey] at h
  rw [templateLine, h]
  dsimp only
  rw [Reading.key, if_pos rfl, Reading.tcName, hname]
  rfl

/-! ## The weight -/

/-- The record with another weight. -/
def ScriptData.setWeight (sc : ScriptData) (w : Text) : ScriptData := { sc with trafficWeight := w }

/-- A line sets the weight, or it does not matter for it. -/
lemma ScriptData.readLine_setWeight (sc : ScriptData) (w raw : Text) :
    (sc.setWeight w).readLine raw =
      if lineKey raw = some "trafficWeight".toList then sc.readLine raw else (sc.readLine raw).setWeight w := by
  rw [ScriptData.readLine, ScriptData.readLine]
  cases lineKey raw with
  | none => rfl
  | some element =>
    simp only [Option.some.injEq, ScriptData.key, ScriptData.setWeight]
    by_cases hweight : element = "trafficWeight".toList
    · have hne : ∀ name ∈ ["subcriberType".toList, "preRequired".toList, "postRequired".toList],
          element ≠ name := by
        rw [hweight]
        decide
      have h₁ : element ≠ "subcriberType".toList := hne _ (by decide)
      have h₂ : element ≠ "preRequired".toList := hne _ (by decide)
      have h₃ : element ≠ "postRequired".toList := hne _ (by decide)
      simp only [if_neg h₁, if_neg h₂, if_neg h₃, if_pos hweight]
    · simp only [if_neg hweight]
      split_ifs
      · cases readKey (purgeLine raw) "subcriberType".toList <;> rfl
      · cases readKey (purgeLine raw) "preRequired".toList <;> rfl
      · cases readKey (purgeLine raw) "postRequired".toList <;> rfl
      · rfl
      · cases readKey (purgeLine raw) "groupName".toList <;> rfl
      · rfl

/-- A line that does not set the weight keeps it. -/
lemma ScriptData.trafficWeight_readLine (h : lineKey raw ≠ some "trafficWeight".toList) :
    (sc.readLine raw).trafficWeight = sc.trafficWeight := by
  have hself : sc.setWeight sc.trafficWeight = sc := rfl
  have hline := sc.readLine_setWeight sc.trafficWeight raw
  rw [if_neg h, hself] at hline
  rw [hline]
  rfl

/-- A line keeps the name. -/
lemma ScriptData.name_readLine : (sc.readLine raw).name = sc.name := by
  rw [ScriptData.readLine]
  cases lineKey raw with
  | none => rfl
  | some element =>
    simp only [ScriptData.key]
    split_ifs
    · cases readKey (purgeLine raw) "subcriberType".toList <;> rfl
    · cases readKey (purgeLine raw) "preRequired".toList <;> rfl
    · cases readKey (purgeLine raw) "postRequired".toList <;> rfl
    · rfl
    · rfl
    · cases readKey (purgeLine raw) "groupName".toList <;> rfl
    · rfl

/-! ## Blocks -/

/-- A traffic case of a template: a line with `tcName`, and other lines behind it. -/
structure Block where
  /-- The line with `tcName`. -/
  head : Text
  /-- The name. -/
  name : Text
  /-- The other lines. -/
  body : List Text
  /-- The key of the first line. -/
  begins : lineKey (buffer head) = some "tcName".toList
  /-- Its value. -/
  named : readKey (purgeLine (buffer head)) "tcName".toList = some name
  /-- The traffic case has a name. -/
  name_ne : name ≠ []
  /-- The other lines have other keys. -/
  others : ∀ raw ∈ body, lineKey (buffer raw) ≠ some "tcName".toList

namespace Block

variable {b : Block} {bs pre post : List Block}

/-- The lines. -/
def lines (b : Block) : List Text := b.head :: b.body

/-- All lines fit into the buffer. -/
def Fits (b : Block) : Prop := ∀ raw ∈ b.lines, FitsBuffer raw

/-- The lines behind the first one that are read. -/
def rest (b : Block) : List Text := if FitsBuffer b.head then getlines b.body else []

/-- One of them sets the weight. -/
def SetsWeight (b : Block) : Prop := ∃ raw ∈ b.rest, lineKey raw = some "trafficWeight".toList

/-- The record after the lines, when this is the one before. -/
def script (b : Block) (sc : ScriptData) : ScriptData :=
  b.rest.foldl ScriptData.readLine { sc with name := b.name }

/-- The lines that are read. -/
lemma getlines_lines (b : Block) : getlines b.lines = buffer b.head :: b.rest := by
  rw [lines, getlines, rest]
  by_cases h : b.head.length < lineSize
  · rw [if_pos h, if_pos (show FitsBuffer b.head from h), buffer_of_fits h]
  · rw [if_neg h, if_neg (show ¬ FitsBuffer b.head from h)]
    rfl

/-- None of the lines behind the first one begins another traffic case. -/
lemma lineKey_of_mem_rest (h : raw ∈ b.rest) : lineKey raw ≠ some "tcName".toList := by
  rw [rest] at h
  split_ifs at h
  · obtain ⟨x, hx, rfl⟩ := exists_of_mem_getlines h
    exact b.others x hx
  · nomatch h

/-- Lines without `tcName` change the record one after the other. -/
lemma foldl_others {l : List Text} (h : ∀ raw ∈ l, lineKey raw ≠ some "tcName".toList) :
    (l.foldl templateLine r).scriptData = l.foldl ScriptData.readLine r.scriptData ∧
      KeepsCases r.globals (l.foldl templateLine r).globals := by
  induction l generalizing r with
  | nil => exact ⟨rfl, rfl, rfl⟩
  | cons raw l ih =>
    obtain ⟨hscript, hcases⟩ := templateLine_of_ne_tcName (r := r) (h raw List.mem_cons_self)
    obtain ⟨hscript', hcases'⟩ := ih (r := templateLine r raw)
      fun x hx => h x (List.mem_cons_of_mem _ hx)
    rw [hscript] at hscript'
    exact ⟨hscript', hcases'.1.trans hcases.1, hcases'.2.trans hcases.2⟩

/-- The lines of a traffic case store the record before and set up the next one. -/
lemma foldl_lines (b : Block) (r : Reading) :
    ((getlines b.lines).foldl templateLine r).scriptData = b.script r.next ∧
      KeepsCases r.insertScript ((getlines b.lines).foldl templateLine r).globals := by
  rw [getlines_lines, List.foldl_cons]
  have hscript := scriptData_tcName (r := r) b.begins b.named
  have hcases := keepsCases_tcName (r := r) b.begins
  obtain ⟨hscript', hcases'⟩ := foldl_others (r := templateLine r (buffer b.head)) (l := b.rest)
    fun _ => lineKey_of_mem_rest
  rw [hscript] at hscript'
  exact ⟨hscript', hcases'.1.trans hcases.1, hcases'.2.trans hcases.2⟩

/-- The name of the record. -/
lemma name_script : (b.script sc).name = b.name := by
  have hfold : ∀ (l : List Text) (sc : ScriptData),
      (l.foldl ScriptData.readLine sc).name = sc.name := by
    intro l
    induction l with
    | nil => exact fun _ => rfl
    | cons raw l ih => exact fun sc => (ih _).trans ScriptData.name_readLine
  exact hfold _ _

/-- The weight before matters only if the lines do not set it. -/
lemma script_setWeight_eq_iff {w : Text} (hw : w ≠ sc.trafficWeight) :
    b.script (sc.setWeight w) = b.script sc ↔ b.SetsWeight := by
  have hfold : ∀ (l : List Text) (sc : ScriptData), (sc.trafficWeight ≠ w) →
      (l.foldl ScriptData.readLine (sc.setWeight w) = l.foldl ScriptData.readLine sc ↔
        ∃ raw ∈ l, lineKey raw = some "trafficWeight".toList) := by
    intro l
    induction l with
    | nil =>
      intro sc hsc
      refine iff_of_false (fun h => hsc ?_) fun ⟨_, hraw, _⟩ => nomatch hraw
      exact (congrArg ScriptData.trafficWeight h).symm
    | cons raw l ih =>
      intro sc hsc
      rw [List.foldl_cons, List.foldl_cons, ScriptData.readLine_setWeight]
      by_cases hraw : lineKey raw = some "trafficWeight".toList
      · rw [if_pos hraw]
        exact iff_of_true rfl ⟨raw, List.mem_cons_self, hraw⟩
      · rw [if_neg hraw, ih _ (by rwa [ScriptData.trafficWeight_readLine hraw])]
        simp only [List.mem_cons, or_and_right, exists_or, exists_eq_left, hraw, false_or]
  exact hfold b.rest { sc with name := b.name } hw.symm

end Block

/-! ## Templates -/

section Templates

variable {b : Block} {bs pre post : List Block} {k : Text}

/-- What is stored when the traffic cases are read. -/
def Reading.finish (r : Reading) (bs : List Block) : Globals :=
  ((getlines (bs.flatMap Block.lines)).foldl templateLine r).insertScript

/-- The state after traffic cases whose lines fit. -/
def Reading.after (r : Reading) (bs : List Block) : Reading :=
  bs.foldl (fun r b => (getlines b.lines).foldl templateLine r) r

/-- When the lines of the first traffic cases fit, the others are read behind them. -/
lemma finish_append (h : ∀ b ∈ pre, b.Fits) : r.finish (pre ++ bs) = (r.after pre).finish bs := by
  induction pre generalizing r with
  | nil => rfl
  | cons b pre ih =>
    have hb : b.Fits := h b List.mem_cons_self
    have hlines : getlines ((b :: pre ++ bs).flatMap Block.lines) =
        getlines b.lines ++ getlines ((pre ++ bs).flatMap Block.lines) := by
      rw [List.cons_append, List.flatMap_cons, getlines_append_of_fits hb, getlines_of_fits hb]
    rw [Reading.finish, hlines, List.foldl_append]
    exact ih fun x hx => h x (List.mem_cons_of_mem _ hx)

/-- When a line of the first traffic cases does not fit, the others are not read. -/
lemma finish_append_of_not_fits (h : ¬ ∀ b ∈ pre, b.Fits) :
    r.finish (pre ++ bs) = r.finish pre := by
  have hlines : ¬ ∀ raw ∈ pre.flatMap Block.lines, FitsBuffer raw := by
    intro hall
    refine h fun b hb raw hraw => hall raw ?_
    exact List.mem_flatMap.mpr ⟨b, hb, hraw⟩
  rw [Reading.finish, Reading.finish, List.flatMap_append, getlines_append_of_not_fits hlines]

/-- One traffic case. -/
lemma finish_singleton (b : Block) : r.finish [b] = (r.after [b]).insertScript := by
  rw [Reading.finish, List.flatMap_singleton]
  rfl

/-- After a traffic case the record has its name, and the one before is stored. -/
lemma tcDesc_after_singleton (b : Block) :
    (r.after [b]).insertScript.tcDesc = r.insertScript.tcDesc.insert b.name (b.script r.next) := by
  obtain ⟨hscript, hcases, -⟩ := b.foldl_lines r
  have hname : (r.after [b]).scriptData.name = b.name :=
    (congrArg ScriptData.name hscript).trans Block.name_script
  rw [Reading.insertScript, if_neg (hname ▸ b.name_ne), hname]
  change OrderedMap.insert (r.after [b]).globals.tcDesc _ _ = _
  rw [← hcases]
  exact congrArg _ hscript

/-- What is stored when the first traffic case is read. -/
lemma finish_cons (b : Block) (bs : List Block) :
    r.finish (b :: bs) = (r.after [b]).finish bs ∨ r.finish (b :: bs) = (r.after [b]).finish [] := by
  by_cases hb : ∀ x ∈ [b], x.Fits
  · exact .inl (finish_append hb)
  · right
    rw [← List.singleton_append, finish_append_of_not_fits hb, finish_singleton]
    rfl

/-- What is stored is kept. -/
lemma find?_finish_of_isSome (h : (r.insertScript.tcDesc.find? k).isSome) :
    (r.finish bs).tcDesc.find? k = r.insertScript.tcDesc.find? k := by
  induction bs generalizing r with
  | nil => rfl
  | cons b bs ih =>
    have hinsert : (r.after [b]).insertScript.tcDesc.find? k = r.insertScript.tcDesc.find? k := by
      rw [tcDesc_after_singleton]
      exact OrderedMap.find?_insert_of_mem h
    rcases finish_cons b bs (r := r) with hfinish | hfinish
    · rw [hfinish, ih (hinsert ▸ h), hinsert]
    · rw [hfinish]
      exact hinsert

/-- Nothing is stored under another name. -/
lemma find?_finish_of_notMem (h : r.insertScript.tcDesc.find? k = none)
    (hk : k ∉ bs.map Block.name) : (r.finish bs).tcDesc.find? k = none := by
  induction bs generalizing r with
  | nil => exact h
  | cons b bs ih =>
    rw [List.map_cons, List.mem_cons, not_or] at hk
    have hinsert : (r.after [b]).insertScript.tcDesc.find? k = none := by
      rw [tcDesc_after_singleton, OrderedMap.find?_insert_of_ne hk.1]
      exact h
    rcases finish_cons b bs (r := r) with hfinish | hfinish
    · rw [hfinish]
      exact ih hinsert hk.2
    · rw [hfinish]
      exact hinsert

/-- The first traffic case is stored. -/
lemma find?_finish_cons (h : r.insertScript.tcDesc.find? b.name = none) :
    (r.finish (b :: bs)).tcDesc.find? b.name = some (b.script r.next) := by
  have hinsert : (r.after [b]).insertScript.tcDesc.find? b.name = some (b.script r.next) := by
    rw [tcDesc_after_singleton]
    exact OrderedMap.find?_insert_self h
  rcases finish_cons b bs (r := r) with hfinish | hfinish
  · rw [hfinish, find?_finish_of_isSome (by rw [hinsert]; rfl), hinsert]
  · rw [hfinish]
    exact hinsert

/-- Traffic cases that are read one after the other. -/
lemma after_append (pre bs : List Block) : r.after (pre ++ bs) = (r.after pre).after bs :=
  List.foldl_append

/-- The traffic cases before store nothing under another name. -/
lemma find?_after_of_notMem (h : r.insertScript.tcDesc.find? k = none)
    (hk : k ∉ pre.map Block.name) : (r.after pre).insertScript.tcDesc.find? k = none := by
  induction pre using List.reverseRecOn with
  | nil => exact h
  | append_singleton pre b ih =>
    rw [List.map_append, List.mem_append, not_or] at hk
    have hne : k ≠ b.name := fun heq => hk.2 (heq ▸ List.mem_singleton_self _)
    rw [after_append, tcDesc_after_singleton, OrderedMap.find?_insert_of_ne hne]
    exact ih hk.1

/-- Behind another traffic case the record is reset. -/
lemma next_after (hpre : pre ≠ []) :
    (r.after pre).next = ScriptData.fresh r.globals.trafficType := by
  have hkind : ∀ bs : List Block, (r.after bs).globals.trafficType = r.globals.trafficType := by
    intro bs
    induction bs using List.reverseRecOn with
    | nil => rfl
    | append_singleton bs b ih =>
      rw [after_append, ← ih]
      refine (b.foldl_lines (r.after bs)).2.2.trans ?_
      rw [Reading.insertScript]
      split_ifs <;> rfl
  obtain ⟨init, b, rfl⟩ : ∃ init b, pre = init ++ [b] :=
    ⟨pre.dropLast, pre.getLast hpre, (List.dropLast_append_getLast hpre).symm⟩
  have hname : (r.after (init ++ [b])).scriptData.name = b.name := by
    rw [after_append]
    exact (congrArg ScriptData.name (b.foldl_lines _).1).trans Block.name_script
  rw [Reading.next, if_neg (hname ▸ b.name_ne), hkind]

end Templates

/-! ## The result -/

/-- A template of traffic cases with distinct names. -/
structure CaseTemplate where
  /-- The traffic cases. -/
  blocks : List Block
  /-- The names are distinct. -/
  distinct : (blocks.map Block.name).Nodup

/-- The lines. -/
def CaseTemplate.lines (t : CaseTemplate) : List Text := t.blocks.flatMap Block.lines

/-- The global variables before a file is read. -/
def Globals.initial (kind : TrafficType) (specificTrafficMix : Bool) (configFile : Text) : Globals where
  trafficType := kind
  specificTrafficMix := specificTrafficMix
  configFile := configFile

/-- Every traffic case is stored as if the template had no other one. -/
def Compositional (g : Globals) (t : CaseTemplate) : Prop :=
  ∀ b ∈ t.blocks, (readTemplateFile t.lines g).tcDesc.find? b.name =
    (readTemplateFile b.lines g).tcDesc.find? b.name

/-- The state before the first line. -/
def Reading.first (g : Globals) : Reading where
  scriptData := (ScriptData.fresh g.trafficType).setWeight "trafficWeight := 1.000000".toList
  globals := g

lemma readTemplateFile_flatMap (bs : List Block) (g : Globals) :
    readTemplateFile (bs.flatMap Block.lines) g = (Reading.first g).finish bs := rfl

variable {b : Block} {pre post : List Block} {kind : TrafficType} {mix : Bool} {configFile : Text}

/-- A traffic case that is alone. -/
lemma find?_alone (b : Block) :
    (readTemplateFile b.lines (.initial kind mix configFile)).tcDesc.find? b.name =
      some (b.script (Reading.first (.initial kind mix configFile)).scriptData) := by
  have hlines : b.lines = [b].flatMap Block.lines := by rw [List.flatMap_singleton]
  rw [hlines, readTemplateFile_flatMap]
  exact find?_finish_cons rfl

/-- A traffic case behind others is stored as if it were alone exactly when it is read and sets its
weight. -/
lemma find?_behind_iff (hpre : pre ≠ []) (hb : b.name ∉ pre.map Block.name) :
    (readTemplateFile ((pre ++ b :: post).flatMap Block.lines)
        (.initial kind mix configFile)).tcDesc.find? b.name =
      (readTemplateFile b.lines (.initial kind mix configFile)).tcDesc.find? b.name ↔
      (∀ x ∈ pre, x.Fits) ∧ b.SetsWeight := by
  rw [find?_alone, readTemplateFile_flatMap]
  by_cases hfits : ∀ x ∈ pre, x.Fits
  · rw [finish_append hfits, find?_finish_cons (find?_after_of_notMem rfl hb), next_after hpre,
      Option.some.injEq, eq_comm]
    have hweight : "trafficWeight := 1.000000".toList ≠ (ScriptData.fresh kind).trafficWeight := by
      change _ ≠ ([] : Text)
      decide
    exact (Block.script_setWeight_eq_iff hweight).trans (and_iff_right hfits).symm
  · rw [finish_append_of_not_fits hfits, find?_finish_of_notMem rfl hb]
    exact iff_of_false (fun h => nomatch h) fun h => hfits h.1

/-- Every traffic case of a template is stored as if it were alone exactly when all lines but those of
the last one fit into the buffer, and all but the first one set their weight. -/
theorem compositional_iff (kind : TrafficType) (mix : Bool) (configFile : Text) (t : CaseTemplate) :
    Compositional (.initial kind mix configFile) t ↔
      (∀ b ∈ t.blocks.dropLast, b.Fits) ∧ ∀ b ∈ t.blocks.tail, b.SetsWeight := by
  have hnames : ∀ {pre b post}, t.blocks = pre ++ b :: post → b.name ∉ pre.map Block.name := by
    intro pre b post heq hmem
    have hdistinct := t.distinct
    rw [heq, List.map_append, List.map_cons] at hdistinct
    exact (List.nodup_append.mp hdistinct).2.2 _ hmem _ List.mem_cons_self rfl
  have hbehind : ∀ {pre b post}, t.blocks = pre ++ b :: post → pre ≠ [] →
      ((readTemplateFile t.lines (.initial kind mix configFile)).tcDesc.find? b.name =
        (readTemplateFile b.lines (.initial kind mix configFile)).tcDesc.find? b.name ↔
          (∀ x ∈ pre, x.Fits) ∧ b.SetsWeight) := by
    intro pre b post heq hpre
    rw [CaseTemplate.lines, heq]
    exact find?_behind_iff hpre (hnames heq)
  constructor
  · intro h
    refine ⟨fun x hx => ?_, fun b hb => ?_⟩
    · have hne : t.blocks ≠ [] := fun heq => by simp [heq] at hx
      have heq : t.blocks = t.blocks.dropLast ++ [t.blocks.getLast hne] :=
        (List.dropLast_append_getLast hne).symm
      have hlast := h (t.blocks.getLast hne) (List.getLast_mem hne)
      exact ((hbehind heq (List.ne_nil_of_mem hx)).mp hlast).1 x hx
    · obtain ⟨pre, post, heq⟩ := List.append_of_mem hb
      cases hblocks : t.blocks with
      | nil => simp [hblocks] at hb
      | cons first bs =>
        rw [hblocks, List.tail_cons] at heq
        have hall : t.blocks = (first :: pre) ++ b :: post := by rw [hblocks, heq, List.cons_append]
        have hmem : b ∈ t.blocks := List.mem_of_mem_tail hb
        exact ((hbehind hall (List.cons_ne_nil _ _)).mp (h b hmem)).2
  · rintro ⟨hfits, hweight⟩ b hb
    obtain ⟨pre, post, heq⟩ := List.append_of_mem hb
    cases hpre : pre with
    | nil =>
      rw [hpre, List.nil_append] at heq
      rw [find?_alone, CaseTemplate.lines, heq, readTemplateFile_flatMap]
      exact find?_finish_cons rfl
    | cons first bs =>
      have hne : pre ≠ [] := hpre ▸ List.cons_ne_nil _ _
      refine (hbehind heq hne).mpr ⟨fun x hx => hfits x ?_, hweight b ?_⟩
      · rw [heq, List.dropLast_append_of_ne_nil (List.cons_ne_nil _ _)]
        exact List.mem_append_left _ hx
      · rw [heq, hpre, List.cons_append, List.tail_cons]
        exact List.mem_append_right _ List.mem_cons_self

/-! ## A case without a weight -/

/-- A traffic case with no line but the first one. -/
def bareBlock (head name : Text) (hbegins : lineKey (buffer head) = some "tcName".toList)
    (hnamed : readKey (purgeLine (buffer head)) "tcName".toList = some name) (hname : name ≠ []) :
    Block where
  head := head
  name := name
  body := []
  begins := hbegins
  named := hnamed
  name_ne := hname
  others := fun _ h => nomatch h

/-- The first traffic case. -/
def bareA : Block :=
  bareBlock "tcName:=A".toList ['A'] (by decide +kernel) (by decide +kernel) (List.cons_ne_nil _ _)

/-- The second traffic case. -/
def bareB : Block :=
  bareBlock "tcName:=B".toList ['B'] (by decide +kernel) (by decide +kernel) (List.cons_ne_nil _ _)

/-- Two traffic cases without a line for the weight. -/
def twoBare : CaseTemplate where
  blocks := [bareA, bareB]
  distinct := by decide

/-- The second one has no weight, and it has the weight 1 when it is alone. -/
lemma twoBare_weight :
    ((readTemplateFile twoBare.lines (.initial .ismsda false [])).tcDesc.find? ['B']).map
        ScriptData.trafficWeight = some [] ∧
      ((readTemplateFile bareB.lines (.initial .ismsda false [])).tcDesc.find? ['B']).map
        ScriptData.trafficWeight = some "trafficWeight := 1.000000".toList := by
  decide +kernel

/-- A traffic case without a line for the weight has another weight behind one than alone. -/
theorem twoBare_not_compositional :
    ¬ ∀ (kind : TrafficType) (mix : Bool) (configFile : Text) (t : CaseTemplate),
      Compositional (.initial kind mix configFile) t := by
  intro h
  have hsame := h .ismsda false [] twoBare bareB (by simp [twoBare])
  have hweight := congrArg (Option.map ScriptData.trafficWeight) hsame
  exact absurd (twoBare_weight.1.symm.trans (hweight.trans twoBare_weight.2)) (by decide)

end ScenarioDeployGenerator
