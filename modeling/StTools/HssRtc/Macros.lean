import StTools.Lib.Dict
import StTools.Lib.TextReplace
import StTools.RunTitansim.PythonText
import Mathlib.Data.Finset.Dedup
import Mathlib.Data.Finset.Lattice.Lemmas

/-!
# The macros of a test case

A macro is a key `#name#` and a value.  `create_macro` takes the first macros from the configuration
of the user and `add_macro_file` adds those of a file.  `macro_translator` goes through the dictionary
and replaces one key after the other, so that the value of one macro is seen by the macros that come
behind it in the order of the dictionary.

The references of a text stay apart when the replacement of a macro always finds its references in
the original text and nothing else, whatever macros were replaced before (`Apart`).  Then the
translation is the text with the values at the references, for every order (`orderFree_of_apart`).
A value that contains another macro makes the order matter (`nested_not_orderFree`).

The dictionary keeps the names of the macros; the key of a name is `macroKey name`.
-/

namespace HssRtc

open ScenarioDeployGenerator (Text)
open RunTitansim (strip)
open TextReplace (framed written stage Finds Separated)

/-- The text `#name#`. -/
def macroKey (name : Text) : Text := framed '#' name

/-- The dictionary of macros; the value `none` is an object that is not a text. -/
abbrev Macros := Dict Text (Option Text)

/-- An entry of the dictionary of macros. -/
abbrev MacroEntry := Sigma fun _ : Text => Option Text

namespace Macros

/-! ## Building the dictionary -/

/-- A line without the comment that a `#` begins. -/
def cleanLine (line : Text) : Text := strip (line.takeWhile (· ≠ '#'))

/-- The name and the value of a line of a macro file. -/
def parseLine (line : Text) : Option (Text × Text) :=
  if cleanLine line = [] then none
  else if ['/', '/'] <+: cleanLine line then none
  else TextSearch.splitOnce [':'] (cleanLine line)

/-- Add the macro of a line. -/
def addLine (expandvars : Text → Text) (d : Macros) (line : Text) : Macros :=
  match parseLine line with
  | none => d
  | some (name, value) => d.set name (some (expandvars value))

/-- The function `add_macro_file` for a file with these lines. -/
def addMacroFile (expandvars : Text → Text) (lines : List Text) (d : Macros) : Macros :=
  lines.foldl (addLine expandvars) d

/-- What `create_macro` reads of the configuration of the user. -/
structure UserConfig where
  NODE : Option Text
  user : Text
  port : Text
  extdb : Option Text
  extdbBackup : Text
  hssBackup : Text
  generators : List Text
  nodeType : Option Text
  scxb : Option Text
  rootPath : Text
  nodeController : Option Text
  macroData : List Text
  /-- The lines of the macro file. -/
  macroFile : Option (List Text)

/-- Add a macro unless its value is `None` or empty. -/
def addIfSet (name : Text) (value : Option Text) (d : Macros) : Macros :=
  if value.getD [] = [] then d else d.set name value

/-- Add the macro of an element `name:value`. -/
def addElement (d : Macros) (element : Text) : Macros :=
  match element.splitOn ':' with
  | [name, value] => d.set name (some value)
  | _ => d

/-- The macros that `create_macro` gives in any case. -/
def environmentMacros (expandvars : Text → Text) (c : UserConfig) : Macros :=
  let d : Macros := addIfSet "NODE".toList c.NODE ∅
  let d := d.set "USER".toList (some c.user)
  let d := d.set "PORT".toList (some c.port)
  let d := d.set "TIME_BETWEEN_BAT_INSTANCES".toList (some ['0'])
  let d := addIfSet "EXTDB".toList c.extdb d
  let d := addIfSet "EXTDB_BACKUP".toList (some c.extdbBackup) d
  let d := addIfSet "HSS_BACKUP".toList (some c.hssBackup) d
  let d := d.set "GENERATORS".toList (some ([' '].intercalate c.generators))
  let d := d.set "NODE_TYPE".toList c.nodeType
  let d := addIfSet "SCXB".toList c.scxb d
  let d := d.set "TESTCASE_PATH".toList (some c.rootPath)
  let d := addIfSet "NODE_CONTROLLER".toList c.nodeController d
  d.set "LOCAL_BAT".toList
    (some ("-b ".toList ++ expandvars "$GIT_PATH/ST_BAT/build/BAT_HSSTraffic".toList ++
      " --set-bat-cfg-path ".toList ++ expandvars "$GIT_PATH/ST_BAT/cfg".toList))

/-- The function `create_macro`. -/
def createMacro (expandvars : Text → Text) (c : UserConfig) : Macros :=
  let d := c.macroData.foldl addElement (environmentMacros expandvars c)
  match c.macroFile with
  | none => d
  | some lines => addMacroFile expandvars lines d

end Macros

/-! ## The translators -/

/-- The text method `replace`; `none` is a `TypeError`. -/
def strReplace (text key : Text) (value : Option Text) : Option Text :=
  value.map fun v => TextReplace.replace key v text

/-- The function `macro_translator` of `RTC_Data`, with the items of the dictionary in the order of
its iteration. -/
def RtcData.macroTranslator (items : List MacroEntry) (text : Text) : Text :=
  items.foldl (fun text item => (strReplace text (macroKey item.1) item.2).getD text) text

/-- The function `macro_translator` of `RTC_Handler`; `none` is a `TypeError`. -/
def RtcHandler.macroTranslator (items : List MacroEntry) (text : Text) : Option Text :=
  items.foldlM (fun text item => strReplace text (macroKey item.1) item.2) text

namespace Macros

/-- The translation of a text does not depend on the order of the dictionary. -/
def OrderFree (d : Macros) (text : Text) : Prop :=
  ∀ items : List MacroEntry, items.Perm d.entries →
    RtcData.macroTranslator items text = RtcData.macroTranslator d.entries text ∧
      RtcHandler.macroTranslator items text = RtcHandler.macroTranslator d.entries text

/-- What the translation writes for a name. -/
def shown (d : Macros) (name : Text) : Text := ((d.get? name).join).getD (macroKey name)

/-- The references of a text stay apart: the text can be read as characters and references such
that, whatever macros have been replaced, each other macro is found exactly at its references. -/
def Apart (d : Macros) (text : Text) : Prop :=
  ∃ p : List (Char ⊕ Text), written macroKey p = text ∧
    ∀ (done : Finset Text) (name value : Text), d.get? name = some (some value) → name ∉ done →
      Finds (macroKey name) (stage macroKey d.shown done) name p

variable {d : Macros} {text : Text} {p : List (Char ⊕ Text)} {items : List MacroEntry}

/-! ## The order of the replacements -/

/-- A replacement of one macro brings the text to the next stage. -/
lemma translate_item {done : Finset Text} {item : MacroEntry} (hitem : item ∈ d.entries)
    (hdone : item.1 ∉ done)
    (hfinds : ∀ value, d.get? item.1 = some (some value) →
      Finds (macroKey item.1) (stage macroKey d.shown done) item.1 p) :
    (strReplace (written (stage macroKey d.shown done) p) (macroKey item.1) item.2).getD
        (written (stage macroKey d.shown done) p) =
      written (stage macroKey d.shown (insert item.1 done)) p := by
  have hget : d.get? item.1 = some item.2 := Dict.get?_eq_some_iff.mpr hitem
  cases hvalue : item.2 with
  | none =>
    have hshown : d.shown item.1 = macroKey item.1 := by
      rw [shown, hget, hvalue]
      rfl
    have hstage : stage macroKey d.shown (insert item.1 done) = stage macroKey d.shown done := by
      rw [← TextReplace.update_stage, hshown]
      refine Function.update_eq_self_iff.mpr ?_
      rw [stage, if_neg hdone]
    rw [hstage]
    rfl
  | some value =>
    have hshown : d.shown item.1 = value := by
      rw [shown, hget, hvalue]
      rfl
    rw [← TextReplace.update_stage, hshown]
    exact TextReplace.replace_written (hfinds value (hget.trans (congrArg some hvalue)))

/-- The replacement of some of the macros brings the text to the stage where these have been
replaced. -/
lemma translate_items (done : Finset Text)
    (hfinds : ∀ (done : Finset Text) (name value : Text), d.get? name = some (some value) →
      name ∉ done → Finds (macroKey name) (stage macroKey d.shown done) name p)
    (hitems : items ⊆ d.entries) (hnodup : (items.map Sigma.fst).Nodup)
    (hdone : ∀ item ∈ items, item.1 ∉ done) :
    RtcData.macroTranslator items (written (stage macroKey d.shown done) p) =
      written (stage macroKey d.shown (done ∪ (items.map Sigma.fst).toFinset)) p := by
  induction items generalizing done with
  | nil => simp [RtcData.macroTranslator]
  | cons item items ih =>
    have hhead := translate_item (hitems List.mem_cons_self) (hdone item List.mem_cons_self)
      fun value hvalue => hfinds done item.1 value hvalue (hdone item List.mem_cons_self)
    rw [List.map_cons, List.nodup_cons] at hnodup
    have hrest : ∀ other ∈ items, other.1 ∉ insert item.1 done := by
      intro other hother hmem
      rcases Finset.mem_insert.mp hmem with heq | hmem
      · exact hnodup.1 (heq ▸ List.mem_map_of_mem hother)
      · exact hdone other (List.mem_cons_of_mem item hother) hmem
    have htail := ih _ (fun x hx => hitems (List.mem_cons_of_mem item hx)) hnodup.2 hrest
    have hunion : insert item.1 done ∪ (items.map Sigma.fst).toFinset =
        done ∪ ((item :: items).map Sigma.fst).toFinset := by
      rw [List.map_cons, List.toFinset_cons, Finset.union_insert, Finset.insert_union]
    rw [← hunion, ← htail, ← hhead]
    rfl

/-- In a text whose references stay apart the translation writes the values at the references. -/
lemma macroTranslator_eq (hp : written macroKey p = text)
    (hfinds : ∀ (done : Finset Text) (name value : Text), d.get? name = some (some value) →
      name ∉ done → Finds (macroKey name) (stage macroKey d.shown done) name p)
    (hitems : items.Perm d.entries) :
    RtcData.macroTranslator items text = written d.shown p := by
  have hkeys : (items.map Sigma.fst).Nodup :=
    (hitems.map Sigma.fst).nodup_iff.mpr d.nodupKeys
  have hrun := translate_items ∅ hfinds hitems.subset hkeys
    fun _ _ => Finset.notMem_empty _
  have hbegin : stage macroKey d.shown ∅ = macroKey := by
    funext name
    rw [stage, if_neg (Finset.notMem_empty name)]
  have hend : stage macroKey d.shown (∅ ∪ (items.map Sigma.fst).toFinset) = d.shown := by
    funext name
    rw [stage]
    split_ifs with hname
    · rfl
    · -- A name that is not in the dictionary stays as it is.
      have hnone : d.get? name = none := by
        cases hget : d.get? name with
        | none => rfl
        | some value =>
          have hmem := hitems.mem_iff.mpr (Dict.get?_eq_some_iff.mp hget)
          refine absurd ?_ hname
          rw [Finset.empty_union, List.mem_toFinset]
          exact List.mem_map_of_mem (f := Sigma.fst) hmem
      rw [shown, hnone]
      rfl
  rw [hbegin, hp, hend] at hrun
  exact hrun

/-- The translation of `RTC_Handler` differs only when some value is not a text. -/
lemma handler_eq : RtcHandler.macroTranslator items text =
    if ∀ item ∈ items, item.2.isSome then some (RtcData.macroTranslator items text) else none := by
  induction items generalizing text with
  | nil => simp [RtcHandler.macroTranslator, RtcData.macroTranslator]
  | cons item items ih =>
    have hcons : RtcHandler.macroTranslator (item :: items) text =
        (strReplace text (macroKey item.1) item.2).bind (RtcHandler.macroTranslator items) := rfl
    rw [hcons]
    cases hvalue : item.2 with
    | none => simp [strReplace, hvalue]
    | some value =>
      have hstep : RtcData.macroTranslator (item :: items) text =
          RtcData.macroTranslator items (TextReplace.replace (macroKey item.1) value text) := by
        simp [RtcData.macroTranslator, strReplace, hvalue]
      rw [strReplace, Option.map_some, Option.bind_some, ih, hstep]
      simp [hvalue]

/-- When the references of a text stay apart, the order of the dictionary does not matter. -/
theorem orderFree_of_apart (h : Apart d text) : OrderFree d text := by
  obtain ⟨p, hp, hfinds⟩ := h
  intro items hitems
  have hsame : RtcData.macroTranslator items text = RtcData.macroTranslator d.entries text :=
    (macroTranslator_eq hp hfinds hitems).trans
      (macroTranslator_eq hp hfinds (List.Perm.refl d.entries)).symm
  refine ⟨hsame, ?_⟩
  rw [handler_eq, handler_eq, hsame]
  simp only [hitems.mem_iff]

/-- A name of a dictionary whose names meet `P`. -/
lemma forall_names {P : Text → Prop} (h : ∀ name ∈ d.keys, P name) {name value : Text}
    (hget : d.get? name = some (some value)) : P name :=
  h name (Dict.mem_keys_iff.mpr ⟨_, hget⟩)

/-! ## Texts with separated references -/

/-- No delimiter stands in the names and the values of a dictionary. -/
def Plain (d : Macros) : Prop :=
  ∀ name value, d.get? name = some (some value) → '#' ∉ name ∧ '#' ∉ value

/-- The references stay apart in a text in which a separator stands between every two of them, when
neither the other characters nor the values hold a delimiter. -/
lemma apart_of_separated {s : Char} (hplain : d.Plain)
    (hnames : ∀ name value, d.get? name = some (some value) → s ∉ name)
    (hchars : ∀ c, Sum.inl c ∈ p → c ≠ '#') (hrefs : ∀ name, Sum.inr name ∈ p → '#' ∉ name)
    (hp : Separated s p) : d.Apart (written macroKey p) := by
  refine ⟨p, rfl, fun done name value hget hdone => ?_⟩
  have hname : stage macroKey d.shown done name = framed '#' name := if_neg hdone
  refine TextReplace.finds_of_separated (hplain name value hget).1 (hnames name value hget) hname
    hchars (fun j hj => ⟨hrefs j hj, ?_⟩) hp
  by_cases hj : j ∈ done
  · rw [stage, if_pos hj, shown]
    rcases hvalue : (d.get? j).join with _ | v
    · exact Or.inl rfl
    · exact Or.inr (hplain j v (Option.join_eq_some_iff.mp hvalue)).2
  · exact Or.inl (if_neg hj)

/-- A plain macro leaves the dictionary plain. -/
lemma Plain.set {name value : Text} (h : d.Plain) (hname : '#' ∉ name) (hvalue : '#' ∉ value) :
    Plain (d.set name (some value)) := by
  intro n v hget
  rw [Dict.get?_set] at hget
  split_ifs at hget with hn
  · cases hget
    exact ⟨hn ▸ hname, hvalue⟩
  · exact h n v hget

/-- A line of a macro file gives a plain macro, since the delimiter begins a comment. -/
lemma parseLine_plain {line name value : Text} (h : parseLine line = some (name, value)) :
    '#' ∉ name ∧ '#' ∉ value := by
  have hcut : '#' ∉ cleanLine line := fun hmem => by
    have hmem' := RunTitansim.strip_subset hmem
    simpa using List.mem_takeWhile_imp hmem'
  unfold parseLine at h
  split_ifs at h
  obtain ⟨hname, hvalue⟩ := TextSearch.splitOnce_subset h
  exact ⟨fun hmem => hcut (hname hmem), fun hmem => hcut (hvalue hmem)⟩

/-- Macro files keep the dictionary plain when the environment brings no delimiter in. -/
lemma Plain.addMacroFile {expandvars : Text → Text} {lines : List Text} (h : d.Plain)
    (hexpand : ∀ t, '#' ∉ t → '#' ∉ expandvars t) :
    Plain (Macros.addMacroFile expandvars lines d) := by
  induction lines generalizing d with
  | nil => exact h
  | cons line lines ih =>
    refine ih (d := addLine expandvars d line) ?_
    cases hline : parseLine line with
    | none => simpa only [addLine, hline] using h
    | some entry =>
      obtain ⟨hname, hvalue⟩ := parseLine_plain hline
      simpa only [addLine, hline] using h.set hname (hexpand _ hvalue)

/-! ## Macros in the values of macros -/

/-- Macros with longer keys leave a text of three characters as it is. -/
lemma macroTranslator_of_length {t : Text} (ht : t.length ≤ 3)
    (hitems : ∀ item ∈ items, 2 ≤ item.1.length) : RtcData.macroTranslator items t = t := by
  induction items with
  | nil => rfl
  | cons item items ih =>
    have hlength : t.length < (macroKey item.1).length := by
      have hname := hitems item List.mem_cons_self
      simp only [macroKey, framed, List.length_cons, List.length_append, List.length_nil]
      omega
    have hstep : (strReplace t (macroKey item.1) item.2).getD t = t := by
      cases item.2 with
      | none => rfl
      | some value => exact TextReplace.replace_of_length_lt hlength
    have hcons : RtcData.macroTranslator (item :: items) t = RtcData.macroTranslator items t := by
      rw [RtcData.macroTranslator, List.foldl_cons, hstep]
      rfl
    rw [hcons]
    exact ih fun x hx => hitems x (List.mem_cons_of_mem item hx)

/-- The macro `A` has the macro `B` as its value: what `#A#` gives depends on which of them comes
first. -/
lemma not_orderFree_of_nested (ha : d.get? ['A'] = some (some ['#', 'B', '#']))
    (hb : d.get? ['B'] = some (some ['x']))
    (hnames : ∀ name ∈ d.keys, name = ['A'] ∨ name = ['B'] ∨ 2 ≤ name.length) :
    ¬ d.OrderFree ['#', 'A', '#'] := by
  intro h
  have hma : (⟨['A'], some ['#', 'B', '#']⟩ : MacroEntry) ∈ d.entries :=
    Dict.get?_eq_some_iff.mp ha
  have hmb : (⟨['B'], some ['x']⟩ : MacroEntry) ∈ d.entries := Dict.get?_eq_some_iff.mp hb
  obtain ⟨rest, hrest⟩ : ∃ rest : List MacroEntry, d.entries.Perm
      (⟨['A'], some ['#', 'B', '#']⟩ :: ⟨['B'], some ['x']⟩ :: rest) := by
    refine ⟨(d.entries.erase ⟨['A'], some ['#', 'B', '#']⟩).erase ⟨['B'], some ['x']⟩, ?_⟩
    have hmb' : (⟨['B'], some ['x']⟩ : MacroEntry) ∈
        d.entries.erase ⟨['A'], some ['#', 'B', '#']⟩ :=
      (List.mem_erase_of_ne (by simp)).mpr hmb
    exact (List.perm_cons_erase hma).trans ((List.perm_cons_erase hmb').cons _)
  have hlong : ∀ item ∈ rest, 2 ≤ item.1.length := by
    intro item hitem
    have hnodup := (hrest.map Sigma.fst).nodup_iff.mp d.nodupKeys
    simp only [List.map_cons, List.nodup_cons, List.mem_cons, not_or] at hnodup
    have hmem : item.1 ∈ rest.map Sigma.fst := List.mem_map_of_mem hitem
    have hkey : item.1 ∈ d.keys :=
      List.mem_map_of_mem (hrest.mem_iff.mpr
        (List.mem_cons_of_mem _ (List.mem_cons_of_mem _ hitem)))
    rcases hnames item.1 hkey with heq | heq | hlength
    · exact absurd (heq ▸ hmem) hnodup.1.2
    · exact absurd (heq ▸ hmem) hnodup.2.1
    · exact hlength
  have hfirst := (h _ hrest.symm).1
  have hsecond := (h _ ((List.Perm.swap _ _ rest).trans hrest.symm)).1
  have hab : RtcData.macroTranslator
      (⟨['A'], some ['#', 'B', '#']⟩ :: ⟨['B'], some ['x']⟩ :: rest) ['#', 'A', '#'] = ['x'] :=
    macroTranslator_of_length (t := ['x']) (by decide) hlong
  have hba : RtcData.macroTranslator
      (⟨['B'], some ['x']⟩ :: ⟨['A'], some ['#', 'B', '#']⟩ :: rest) ['#', 'A', '#'] =
        ['#', 'B', '#'] :=
    macroTranslator_of_length (t := ['#', 'B', '#']) (by decide) hlong
  have hsame := hab.symm.trans (hfirst.trans (hsecond.symm.trans hba))
  exact absurd hsame (by decide)

/-- The macros of a file with a user and a port. -/
def loginMacros : Macros :=
  addMacroFile id ["USER:hss".toList, "PORT:22 # the default".toList] ∅

/-- The text of a command that refers to the user and to the port. -/
def loginText : List (Char ⊕ Text) :=
  [.inr "USER".toList, .inl ' ', .inl '-', .inl 'p', .inl ' ', .inr "PORT".toList]

/-- The references of the command stay apart. -/
theorem loginText_orderFree : OrderFree loginMacros (written macroKey loginText) := by
  have hplain : Plain loginMacros :=
    Plain.addMacroFile (d := ∅) (fun _ _ h => (nomatch h)) fun _ h => h
  have hblank : ∀ name ∈ loginMacros.keys, ' ' ∉ name := by decide +kernel
  exact orderFree_of_apart (apart_of_separated hplain (fun _ _ => forall_names hblank)
    (by simp [loginText]) (by simp [loginText]) (by simp [loginText, Separated,
      TextReplace.SeparatorFirst]))

/-- The user adds the macro `A` with the value `#B#` and the macro `B` with the value `x`. -/
def nestedConfig : UserConfig where
  NODE := none
  user := "com-emergency".toList
  port := "22".toList
  extdb := none
  extdbBackup := []
  hssBackup := []
  generators := ["TG1".toList]
  nodeType := some "CBA".toList
  scxb := none
  rootPath := "/tmp".toList
  nodeController := none
  macroData := ["A:#B#".toList, "B:x".toList]
  macroFile := none

/-- The translation of `#A#` depends on the order of the dictionary. -/
theorem nested_not_orderFree : ¬ (createMacro id nestedConfig).OrderFree ['#', 'A', '#'] :=
  not_orderFree_of_nested (by decide +kernel) (by decide +kernel) (by decide +kernel)

end Macros

end HssRtc
