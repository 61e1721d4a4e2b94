import StTools.RunTitansim.ConfigLines
import StTools.RunTitansim.ProxyFile
import StTools.RunTitansim.QuickConfigParser
import StTools.ScenarioDeployGenerator.UserDefines

/-!
# User parameters through the tools

A parameter of the option `-E` becomes a line `defParam` of the configuration, then a define of the
generator, then a line of the deployment file, and is read by `quick_config_parser`.  On the way the
value is cut off at a comment, and a define whose name contains the name of the parameter, a later
parameter or a later line may come in between.
-/

namespace RunTitansim

open ScenarioDeployGenerator (Text Globals Output UserEntry purgeLine filterLine_key readKey_value getlines
  lineSize definesOfLine storeAll toolDefines Untouched textBefore textBehind defineText addQuottes
  prepareDefines fromConfig_plan deployment_main deploymentText_eq defineParam_prepareDefines)
open TextSearch

/-! ## Parameters -/

/-- A character of a value: no white space, no quote, no backslash, and no character that cannot
stand on a command line. -/
def isValueChar (c : Char) : Bool := ¬ isWhite c ∧ c ∉ ['"', '\\', Char.ofNat 0]

/-- A parameter `TYPE:NAME:VALUE`. -/
structure UserParameter where
  /-- The type. -/
  type : Text
  /-- The name. -/
  name : Text
  /-- The value. -/
  value : Text
  type_plain : ∀ c ∈ type, isPlain c = true
  type_field : ':' ∉ type
  name_ne : name ≠ []
  name_plain : ∀ c ∈ name, isPlain c = true
  name_field : ':' ∉ name
  value_ne : value ≠ []
  value_chars : ∀ c ∈ value, isValueChar c = true

namespace UserParameter

variable (u : UserParameter)

/-- The line of the configuration. -/
def line : Text := "defParam:= ".toList ++ (u.type ++ ':' :: (u.name ++ ':' :: u.value))

/-- The define of the user that the generator takes from the line. -/
def entry : UserEntry where
  toBeQuotted := u.type = ['q']
  name := u.name
  value := purgeLine u.value

/-- What the parser should return. -/
def expected {F : Type} (py : Builtins F) : PyValue F :=
  if u.type = ['q'] then .str u.value else py.convert u.value

/-- There is no comment in the value, and an unquoted value does not end with a semicolon. -/
structure Kept : Prop where
  noNumberSign : '#' ∉ u.value
  noSlashes : ¬ ['/', '/'] <:+: u.value
  noSemicolon : u.type ≠ ['q'] → ¬ [';'] <:+ u.value

variable {u}

/-! ### The line of the configuration -/

lemma value_white : ∀ c ∈ u.value, isWhite c = false := by
  intro c hc
  have h := u.value_chars c hc
  simp only [isValueChar, decide_eq_true_eq] at h
  simpa using h.1

lemma value_noBlanks : ∀ c ∈ u.value, c ≠ ' ' ∧ c ≠ '\t' := by
  intro c hc
  have h := u.value_white c hc
  constructor
  · rintro rfl
    exact absurd h (by decide)
  · rintro rfl
    exact absurd h (by decide)

/-- The value of the define is the start of the value, without comments. -/
lemma entry_value : u.entry.value <+: u.value ∧ '#' ∉ u.entry.value ∧
    ¬ ['/', '/'] <:+: u.entry.value :=
  ScenarioDeployGenerator.purgeLine_of_noBlanks u.value_noBlanks

/-- A value without comments is the value of the define. -/
lemma entry_value_eq_iff : u.entry.value = u.value ↔
    '#' ∉ u.value ∧ ¬ ['/', '/'] <:+: u.value := by
  constructor
  · intro heq
    have h := u.entry_value
    rw [heq] at h
    exact h.2
  · rintro ⟨hsign, hslashes⟩
    refine ScenarioDeployGenerator.purgeLine_eq_self (fun c hc hmem => ?_) hslashes
    have hwhite := u.value_white c hc
    simp only [List.mem_cons, List.not_mem_nil, or_false] at hmem
    rcases hmem with rfl | rfl | rfl | rfl
    · exact absurd hwhite (by decide)
    · exact absurd hwhite (by decide)
    · exact absurd hwhite (by decide)
    · exact hsign hc

lemma purgeLine_line : purgeLine u.line =
    "defParam:=".toList ++ (u.type ++ ':' :: (u.name ++ ':' :: u.entry.value)) := by
  have hkept : ∀ c ∈ "defParam:=".toList, isKept c = true := forall_mem_of_all (by decide)
  have hcolon : ∀ c ∈ [':'], isKept c = true := forall_mem_of_all (by decide)
  have hplain : ∀ {t : Text}, (∀ c ∈ t, isPlain c = true) → ∀ c ∈ t, isKept c = true :=
    fun h c hc => (isKept_of_isPlain (h c hc)).1
  have hparts : purgeLine (u.type ++ ([':'] ++ (u.name ++ ([':'] ++ u.value)))) =
      u.type ++ ([':'] ++ (u.name ++ ([':'] ++ u.entry.value))) := by
    rw [purgeLine_append (hplain u.type_plain), purgeLine_append hcolon,
      purgeLine_append (hplain u.name_plain), purgeLine_append hcolon]
    rfl
  have hblank : ∀ k k' v v' : Text, k = k' ++ [' '] → (∀ c ∈ k', isKept c = true) →
      purgeLine v = v' → purgeLine (k ++ v) = k' ++ v' := by
    rintro _ k' v _ rfl hk rfl
    rw [List.append_assoc, purgeLine_append hk, List.singleton_append, purgeLine]
  exact hblank _ _ _ _ (by decide) hkept hparts

/-- The generator takes the define from the line. -/
lemma definesOfLine_line : (definesOfLine u.line).map UserEntry.parse = [u.entry] := by
  have hparse : UserEntry.parse (u.type ++ ':' :: (u.name ++ ':' :: u.entry.value)) = u.entry := by
    rw [UserEntry.parse, splitOnce_singleton u.type_field]
    dsimp only
    rw [splitOnce_singleton u.name_field]
    rfl
  have hdefines : definesOfLine u.line = [u.type ++ ':' :: (u.name ++ ':' :: u.entry.value)] := by
    rw [definesOfLine, purgeLine_line]
    refine (if_pos (filterLine_key (by decide) (by decide) _)).trans ?_
    rw [readKey_value (by decide)]
    rfl
  rw [hdefines, List.map_singleton, hparse]

/-! ### The line of the define -/

/-- The value as it is written. -/
def writtenValue (u : UserParameter) : Text :=
  if u.entry.written = [] then ['"', '"'] else u.entry.written

/-- The line of the define. -/
def defineLine (u : UserParameter) : Text := u.name ++ ' ' :: ':' :: '=' :: ' ' :: u.writtenValue

/-- What the parser makes of the line. -/
def received {F : Type} (u : UserParameter) (py : Builtins F) : PyValue F :=
  if u.type = ['q'] ∨ u.entry.value = [] then .str u.entry.value
  else py.convert (if [';'] <:+ u.entry.value then u.entry.value.dropLast else u.entry.value)

/-- The text of the define is its line. -/
lemma defineText_eq : defineText u.name u.entry.written = u.defineLine ++ ['\n'] := by
  have hregroup : ∀ n c w e : Text, c = [' ', ':', '=', ' '] → e = ['\n'] →
      n ++ c ++ w ++ e = n ++ ' ' :: ':' :: '=' :: ' ' :: w ++ ['\n'] := by
    rintro n _ w _ rfl rfl
    simp only [List.append_assoc, List.cons_append, List.nil_append]
  exact hregroup _ _ _ _ (by decide) (by decide)

/-- The written value is quoted, or it is the value. -/
lemma writtenValue_eq : (u.type = ['q'] ∨ u.entry.value = []) ∧
      u.writtenValue = '"' :: u.entry.value ++ ['"'] ∨
    u.type ≠ ['q'] ∧ u.entry.value ≠ [] ∧ u.writtenValue = u.entry.value := by
  by_cases htype : u.type = ['q']
  · have hwritten : u.entry.written = '"' :: u.entry.value ++ ['"'] := if_pos (decide_eq_true htype)
    refine .inl ⟨.inl htype, ?_⟩
    rw [writtenValue, hwritten, if_neg (by simp)]
  · have hwritten : u.entry.written = u.entry.value := if_neg (by simp [entry, htype])
    by_cases hnil : u.entry.value = []
    · refine .inl ⟨.inr hnil, ?_⟩
      rw [writtenValue, hwritten, if_pos hnil, hnil]
      rfl
    · refine .inr ⟨htype, hnil, ?_⟩
      rw [writtenValue, hwritten, if_neg hnil]

/-- The characters of the value of the define. -/
lemma entry_chars : ∀ c ∈ u.entry.value, isWhite c = false ∧ c ∉ ['"', '\\', Char.ofNat 0] := by
  intro c hc
  have h := u.value_chars c (u.entry_value.1.subset hc)
  simp only [isValueChar, decide_eq_true_eq] at h
  exact ⟨by simpa using h.1, h.2⟩

/-- The written value has no white space. -/
lemma writtenValue_white : ∀ c ∈ u.writtenValue, isWhite c = false := by
  intro c hc
  rcases u.writtenValue_eq with ⟨-, heq⟩ | ⟨-, -, heq⟩
  · rw [heq] at hc
    simp only [List.mem_append, List.mem_cons, List.not_mem_nil, or_false] at hc
    rcases hc with (rfl | hc) | rfl
    · rfl
    · exact (u.entry_chars c hc).1
    · rfl
  · exact (u.entry_chars c (heq ▸ hc)).1

lemma writtenValue_ne : u.writtenValue ≠ [] := by
  rcases u.writtenValue_eq with ⟨-, heq⟩ | ⟨-, hne, heq⟩
  · rw [heq]
    simp
  · rwa [heq]

/-- The line has no white space at its ends. -/
lemma strip_defineLine : strip u.defineLine = u.defineLine := by
  obtain ⟨c, cs, hname⟩ := List.exists_cons_of_ne_nil u.name_ne
  obtain ⟨t, d, hwritten⟩ : ∃ t d, u.writtenValue = t ++ [d] :=
    ⟨_, _, (List.dropLast_append_getLast u.writtenValue_ne).symm⟩
  have hc : isWhite c = false := by
    have h := u.name_plain c (hname ▸ List.mem_cons_self)
    simp only [isPlain, decide_eq_true_eq] at h
    simpa using h.1
  have hd : isWhite d = false := u.writtenValue_white d (hwritten ▸ List.mem_append_right _
    List.mem_cons_self)
  have hline : u.defineLine = c :: ((cs ++ ' ' :: ':' :: '=' :: ' ' :: t) ++ [d]) := by
    rw [defineLine, hname, hwritten]
    simp
  rw [hline, strip_of_ends hc hd]

/-- The line is no comment. -/
lemma isComment_defineLine : isComment u.defineLine = false := by
  obtain ⟨c, cs, hname⟩ := List.exists_cons_of_ne_nil u.name_ne
  have hc := u.name_plain c (hname ▸ List.mem_cons_self)
  refine decide_eq_false ?_
  rw [defineLine, hname]
  rintro (hpre | hpre)
  · have heq : '#' = c := (List.cons_prefix_cons.mp hpre).1
    subst heq
    exact absurd hc (by decide)
  · have heq : '/' = c := (List.cons_prefix_cons.mp hpre).1
    subst heq
    exact absurd hc (by decide)

/-- The text of the value that the parser reads. -/
lemma cleanValue_writtenValue : cleanValue (' ' :: u.writtenValue) =
    if u.type = ['q'] ∨ u.entry.value = [] then '"' :: u.entry.value ++ ['"']
    else if [';'] <:+ u.entry.value then u.entry.value.dropLast else u.entry.value := by
  have hstrip : strip (' ' :: u.writtenValue) = u.writtenValue := by
    rw [strip_cons (by decide), strip_eq_self u.writtenValue_white]
  have hnone : ∀ t : Text, t <:+: u.entry.value → splitOnce ['/', '/'] t = none := fun t ht =>
    splitOnce_eq_none_iff.mpr fun hin => u.entry_value.2.2 (hin.trans ht)
  rw [cleanValue, hstrip]
  rcases u.writtenValue_eq with ⟨hquoted, heq⟩ | ⟨htype, hne, heq⟩
  · have hend : ¬ [';'] <:+ u.writtenValue := by
      rw [heq]
      intro hsuffix
      have hlast := hsuffix.getLast (List.cons_ne_nil _ _)
      rw [List.getLast_append_singleton] at hlast
      exact absurd hlast (by decide)
    have hpair : splitOnce ['/', '/'] u.writtenValue = none := by
      rw [heq, splitOnce_eq_none_iff]
      intro hin
      rcases (TextSearch.infix_append_cons_iff (by decide)).mp hin with hin | hin
      · rcases List.infix_cons_iff.mp hin with hpre | hin
        · exact absurd (List.cons_prefix_cons.mp hpre).1 (by decide)
        · exact u.entry_value.2.2 hin
      · exact absurd hin (by decide)
    rw [if_neg hend, hpair, if_pos hquoted, heq]
  · have hno : ¬ (u.type = ['q'] ∨ u.entry.value = []) := not_or.mpr ⟨htype, hne⟩
    rw [if_neg hno, heq]
    split_ifs
    · have hdrop : strip u.entry.value.dropLast = u.entry.value.dropLast :=
        strip_eq_self fun c hc => (u.entry_chars c (List.dropLast_subset _ hc)).1
      rw [hdrop, hnone _ (List.dropLast_prefix _).isInfix]
    · rw [hnone _ List.infix_rfl]

/-- The parser takes the value from the line. -/
lemma setsTo_defineLine {F : Type} {py : Builtins F} (hpy : py.Documented) :
    SetsTo py u.name (some (u.received py)) u.defineLine := by
  have hsplit : splitOnce [':', '='] u.defineLine = some (u.name ++ [' '], ' ' :: u.writtenValue) := by
    have hname : ':' ∉ u.name ++ [' '] := by
      simpa using u.name_field
    have hline : u.defineLine = (u.name ++ [' ']) ++ ([':', '='] ++ ' ' :: u.writtenValue) := by
      rw [defineLine]
      simp
    rw [hline]
    exact splitOnce_append hname
  have hne : u.defineLine ≠ [] := by
    rw [defineLine]
    simp
  have hname : strip (u.name ++ [' ']) = u.name := by
    refine strip_concat (fun c hc => ?_) (by decide)
    have h := u.name_plain c hc
    simp only [isPlain, decide_eq_true_eq] at h
    simpa using h.1
  refine ⟨cleanValue (' ' :: u.writtenValue), ?_, ?_⟩
  · rw [assignment, strip_defineLine, hsplit, if_neg (by simp [hne, isComment_defineLine]), Option.map_some, hname]
  · rw [cleanValue_writtenValue, received]
    split_ifs with hquoted
    · have hchars : ∀ c ∈ u.entry.value, c ∉ ['"', '\\', '\n', '\r', Char.ofNat 0] := by
        intro c hc hmem
        obtain ⟨hwhite, hother⟩ := u.entry_chars c hc
        simp only [List.mem_cons, List.not_mem_nil, or_false] at hmem hother
        rcases hmem with rfl | rfl | rfl | rfl | rfl
        · exact hother (.inl rfl)
        · exact hother (.inr (.inl rfl))
        · exact absurd hwhite (by decide)
        · exact absurd hwhite (by decide)
        · exact hother (.inr (.inr rfl))
      rw [Builtins.valueOf, if_pos ⟨⟨u.entry.value ++ ['"'], rfl⟩, ⟨'"' :: u.entry.value, rfl⟩⟩]
      exact hpy.eval_quoted _ hchars
    all_goals
      refine (if_neg fun hquote => ?_)
      have hmem : '"' ∈ u.entry.value := by
        first
          | exact hquote.1.subset List.mem_cons_self
          | exact List.dropLast_subset _ (hquote.1.subset List.mem_cons_self)
      exact (u.entry_chars _ hmem).2 List.mem_cons_self

/-- The value is the expected one when it was kept. -/
lemma received_eq_iff {F : Type} {py : Builtins F} (hpy : py.Documented) :
    u.received py = u.expected py ↔ u.Kept := by
  have hvalue : u.entry.value = u.value → u.type = ['q'] ∨ ¬ [';'] <:+ u.value → u.Kept := by
    intro heq hsemicolon
    obtain ⟨hsign, hslashes⟩ := u.entry_value_eq_iff.mp heq
    exact ⟨hsign, hslashes, fun htype => hsemicolon.resolve_left htype⟩
  rw [received, expected]
  by_cases htype : u.type = ['q']
  · rw [if_pos (.inl htype), if_pos htype]
    constructor
    · exact fun h => hvalue (PyValue.str.inj h) (.inl htype)
    · exact fun h => congrArg _ (u.entry_value_eq_iff.mpr ⟨h.noNumberSign, h.noSlashes⟩)
  rw [if_neg htype]
  constructor
  · intro h
    by_contra hkept
    -- the value has a character that makes it a text
    obtain ⟨c, hc, hmem⟩ : ∃ c ∈ ['#', '/', ';'], c ∈ u.value := by
      by_contra! hno
      refine hkept ⟨hno '#' (by decide), fun hin => ?_, fun _ hsuffix => ?_⟩
      · exact hno '/' (by decide) (hin.subset List.mem_cons_self)
      · exact hno ';' (by decide) (hsuffix.subset List.mem_cons_self)
    rw [convert_of_mem hpy hc hmem u.value_white] at h
    have hlength := u.entry_value.1.length_le
    by_cases hnil : u.entry.value = []
    · rw [if_pos (.inr hnil), hnil] at h
      exact u.value_ne (PyValue.str.inj h).symm
    · rw [if_neg (not_or.mpr ⟨htype, hnil⟩)] at h
      have heq := eq_of_convert h
      split_ifs at heq with hsemicolon
      · have hshort := congrArg List.length heq
        rw [List.length_dropLast] at hshort
        have hpos := List.length_pos_iff.mpr hnil
        omega
      · exact hkept (hvalue heq (.inr (heq ▸ hsemicolon)))
  · intro h
    have heq := u.entry_value_eq_iff.mpr ⟨h.noNumberSign, h.noSlashes⟩
    rw [heq, if_neg (not_or.mpr ⟨htype, u.value_ne⟩), if_neg (h.noSemicolon htype)]

/-- The line is one line of the deployment file. -/
lemma patchedLines_defineText {asctime rest : Text} :
    patchedLines asctime (defineText u.name u.entry.written ++ rest) =
      (if windowTitle <+: u.name then titleLine asctime else u.defineLine) ::
        patchedLines asctime rest := by
  have hwhite : ∀ c : Char, isWhite c = false → c ≠ '\n' ∧ c ≠ '\r' := by
    intro c hc
    constructor
    · rintro rfl
      exact absurd hc (by decide)
    · rintro rfl
      exact absurd hc (by decide)
  have hchars : ∀ c ∈ u.defineLine, c ≠ '\n' ∧ c ≠ '\r' := by
    intro c hc
    simp only [defineLine, List.mem_append, List.mem_cons] at hc
    rcases hc with hc | rfl | rfl | rfl | rfl | hc
    · have h := u.name_plain c hc
      simp only [isPlain, decide_eq_true_eq] at h
      exact hwhite c (by simpa using h.1)
    · decide
    · decide
    · decide
    · decide
    · exact hwhite c (u.writtenValue_white c hc)
  have hspecial : u.defineLine ∉ specialLines := by
    have hno : ∀ l ∈ specialLines, ':' ∉ l := by decide
    refine fun hmem => hno _ hmem ?_
    rw [defineLine]
    simp
  have htitle : windowTitle <+: u.defineLine ↔ windowTitle <+: u.name := by
    refine ⟨fun hpre => ?_, fun hpre => hpre.trans (List.prefix_append _ _)⟩
    obtain ⟨t, ht⟩ := hpre
    rcases List.append_eq_append_iff.mp ht with ⟨a, hname, -⟩ | ⟨c, hkey, hrest⟩
    · exact ⟨a, hname.symm⟩
    · cases c with
      | nil => exact ⟨[], by simpa using hkey⟩
      | cons d ds =>
        have hblank : ' ' = d := (List.cons.inj hrest).1
        subst hblank
        have hmem : ' ' ∈ windowTitle := hkey ▸ List.mem_append_right _ List.mem_cons_self
        exact absurd hmem (by decide)
  have hpatch : patchLine asctime u.defineLine =
      some (if windowTitle <+: u.name then titleLine asctime else u.defineLine) := by
    rw [patchLine, strip_defineLine, if_neg hspecial, if_neg (by simp [isComment_defineLine])]
    split_ifs with h h' h'
    · rfl
    · exact absurd (htitle.mp h) h'
    · exact absurd (htitle.mpr h') h
    · rfl
  rw [defineText_eq, patchedLines, List.append_assoc, List.singleton_append,
    splitlines_append (fun h => (hchars _ h).1 rfl) (fun h => (hchars _ h).2 rfl),
    List.filterMap_cons_some hpatch]
  rfl

end UserParameter

/-! ## The run -/

lemma patchedLines_append {asctime a b : Text} (ha : ∃ t, a = t ++ ['\n']) :
    patchedLines asctime (a ++ b) = patchedLines asctime a ++ patchedLines asctime b := by
  obtain ⟨t, rfl⟩ := ha
  rw [patchedLines, List.append_assoc, List.singleton_append, splitlines_append_newline,
    List.filterMap_append]
  rfl

/-- The defines of the user that the generator takes from lines of the configuration. -/
def entriesOf (lines : List Text) : List UserEntry :=
  (lines.flatMap definesOfLine).map UserEntry.parse

/-- A run of the programs with a parameter of the user, whose configuration the parser reads. -/
structure ParameterRun {F : Type} (py : Builtins F) (b : BuildOptions) (u : UserParameter) where
  /-- The lines of the configuration before that of the parameter. -/
  before : List Text
  /-- The lines behind it. -/
  after : List Text
  /-- The globals of the generator before the files are written. -/
  g : Globals
  /-- What the generator writes. -/
  out : Output
  /-- What the parser returns. -/
  cfg : Dict Text (PyValue F)
  config : b.configFileContents = some (before ++ u.line :: after)
  plan : ScenarioDeployGenerator.plan (b.sdgOptions (before ++ u.line :: after)) = .ok g
  main : ScenarioDeployGenerator.main (b.sdgOptions (before ++ u.line :: after)) = .ok out
  parsed : quickConfigParser py (patchConfig b.asctime (b.deploymentConfig out)) = some cfg

namespace ParameterRun

variable {F : Type} {py : Builtins F} {b : BuildOptions} {u : UserParameter}
  (r : ParameterRun py b u)

/-- The lines before that of the parameter and the line itself fit into the buffer of the generator. -/
def Fits : Prop := ∀ l ∈ r.before ++ [u.line], l.length < lineSize

/-- The defines when the parameter is set. -/
def table : OrderedMap Text Text := storeAll (entriesOf (getlines r.before)) (toolDefines r.g)

/-- The defines of the lines behind it that the generator gets. -/
def laterEntries : List UserEntry := entriesOf (getlines r.after)

/-- The defines of the line of the parameter when it is cut off. -/
def cutEntries (_ : ParameterRun py b u) : List UserEntry := entriesOf [u.line.take (lineSize - 1)]

/-- The deployment file before the define. -/
def textBefore : Text := ScenarioDeployGenerator.textBefore (prepareDefines r.g) u.name

/-- The configuration of the test behind the define. -/
def textBehind : Text :=
  ScenarioDeployGenerator.textBehind (prepareDefines r.g) u.name ++ b.batFiles ++ r.out.scenarioText

/-- The parameter is read and sets the define with its name, and nothing sets it again. -/
structure LastSetting : Prop where
  /-- The generator gets the line as it was written. -/
  fits : r.Fits
  /-- The define is the first one whose name contains the name. -/
  target : u.entry.target r.table = some u.name
  /-- No later line `defParam` touches the define. -/
  untouched : Untouched u.name r.laterEntries (u.entry.store r.table)
  /-- The line is not taken for the title of the window. -/
  notTitle : ¬ windowTitle <+: u.name
  /-- No line behind the define sets the variable. -/
  silent : ∀ line ∈ patchedLines b.asctime r.textBehind, LeavesOut u.name line

/-- No line of a text gives the variable the expected value. -/
def Differs (_ : ParameterRun py b u) (text : Text) : Prop :=
  ∀ line ∈ patchedLines b.asctime text, ¬ SetsTo py u.name (some (u.expected py)) line

/-- Whatever else sets the variable, the cut off line of a parameter included, gives it another
value. -/
structure OthersDiffer : Prop where
  textBefore : r.Differs r.textBefore
  textBehind : r.Differs r.textBehind
  title : ¬ SetsTo py u.name (some (u.expected py)) (titleLine b.asctime)
  /-- The define before the parameter is set. -/
  define : ∀ v, r.table.find? u.name = some v → r.Differs (defineText u.name v)
  /-- The parameters behind it that may touch the define. -/
  later : ∀ e ∈ r.laterEntries, e.name <:+: u.name → r.Differs (defineText u.name e.written)
  /-- What is left of the parameter in a line that is cut off. -/
  cut : lineSize ≤ u.line.length → ∀ e ∈ r.cutEntries, e.name <:+: u.name →
    r.Differs (defineText u.name e.written)

variable {r}

/-- Lines that fit into the buffer are read. -/
lemma getlines_of_fits {ls : List Text} (h : ∀ l ∈ ls, l.length < lineSize) : getlines ls = ls := by
  have happend : getlines (ls ++ []) = ls ++ getlines [] := getlines_append h
  rwa [List.append_nil, getlines, List.append_nil] at happend

/-- The defines are those of the lines that the generator gets. -/
lemma defineParam_eq_storeAll : (prepareDefines r.g).defineParam =
    storeAll (entriesOf (getlines (r.before ++ u.line :: r.after))) (toolDefines r.g) := by
  rw [defineParam_prepareDefines, (fromConfig_plan r.plan).definedParam]
  rfl

lemma entriesOf_append (ls ls' : List Text) :
    entriesOf (ls ++ ls') = entriesOf ls ++ entriesOf ls' := by
  rw [entriesOf, List.flatMap_append, List.map_append]
  rfl

lemma storeAll_append (es es' : List UserEntry) (table : OrderedMap Text Text) :
    storeAll (es ++ es') table = storeAll es' (storeAll es table) := List.foldl_append

/-- The defines of a run in which the parameter is read. -/
lemma defineParam_eq (hfits : r.Fits) : (prepareDefines r.g).defineParam =
    storeAll r.laterEntries (u.entry.store r.table) := by
  obtain ⟨hbefore, hline⟩ := List.forall_mem_append.mp hfits
  have hregroup : r.before ++ u.line :: r.after = (r.before ++ [u.line]) ++ r.after := by
    rw [List.append_assoc, List.singleton_append]
  have hone : entriesOf [u.line] = [u.entry] := by
    rw [entriesOf, List.flatMap_singleton, u.definesOfLine_line]
  rw [defineParam_eq_storeAll, hregroup, getlines_append hfits, entriesOf_append, entriesOf_append,
    hone, storeAll_append, storeAll_append, table, getlines_of_fits hbefore]
  rfl

/-- The defines of a run in which a line before the parameter is too long. -/
lemma defineParam_of_before (h : ¬ ∀ l ∈ r.before, l.length < lineSize) :
    (prepareDefines r.g).defineParam = r.table := by
  push Not at h
  rw [defineParam_eq_storeAll, getlines_append_of_le h]
  rfl

/-- The defines of a run in which the line of the parameter is cut off. -/
lemma defineParam_of_cut (hbefore : ∀ l ∈ r.before, l.length < lineSize)
    (hline : lineSize ≤ u.line.length) :
    (prepareDefines r.g).defineParam = storeAll r.cutEntries r.table := by
  have hcut : getlines (u.line :: r.after) = [u.line.take (lineSize - 1)] := by
    rw [getlines, if_neg (Nat.not_lt.mpr hline)]
  rw [defineParam_eq_storeAll, getlines_append hbefore, hcut, entriesOf_append, storeAll_append,
    table, getlines_of_fits hbefore]
  rfl

/-- The deployment file of a run. -/
lemma deployment_eq : r.out.deployment = ScenarioDeployGenerator.deploymentText (prepareDefines r.g) := by
  obtain ⟨g, hg, hout⟩ := deployment_main r.main
  have hsame : r.g = g := Except.ok.inj (r.plan.symm.trans hg)
  rw [hout, hsame]

/-- The lines of the configuration of the test, when the define is there. -/
lemma patchedLines_of_find? {v : Text} (h : (prepareDefines r.g).defineParam.find? u.name = some v) :
    patchedLines b.asctime (b.deploymentConfig r.out) = patchedLines b.asctime r.textBefore ++
      patchedLines b.asctime (defineText u.name v ++ r.textBehind) := by
  have hregroup : ∀ a d e f s : Text, a ++ (d ++ e) ++ f ++ s = a ++ (d ++ (e ++ f ++ s)) :=
    fun a d e f s => by simp only [List.append_assoc]
  rw [BuildOptions.deploymentConfig, deployment_eq, deploymentText_eq h, hregroup,
    patchedLines_append ScenarioDeployGenerator.textBefore_eq]
  rfl

/-- The lines of the configuration of the test, when the define is not there. -/
lemma patchedLines_of_find?_eq_none (h : (prepareDefines r.g).defineParam.find? u.name = none) :
    patchedLines b.asctime (b.deploymentConfig r.out) =
      patchedLines b.asctime r.textBefore ++ patchedLines b.asctime r.textBehind := by
  have hregroup : ∀ a e f s : Text, a ++ e ++ f ++ s = a ++ (e ++ f ++ s) :=
    fun a e f s => by simp only [List.append_assoc]
  rw [BuildOptions.deploymentConfig, deployment_eq,
    ScenarioDeployGenerator.deploymentText_eq_of_none h, hregroup,
    patchedLines_append ScenarioDeployGenerator.textBefore_eq]
  rfl

/-- The parser reads the lines. -/
lemma foldlM_patchedLines (htime : '\n' ∉ b.asctime) :
    (patchedLines b.asctime (b.deploymentConfig r.out)).foldlM (parseLine py) ∅ = some r.cfg := by
  have h := r.parsed
  rwa [quickConfigParser, readlines_patchConfig htime] at h

/-- A line that sets the variable to one value does not set it to another. -/
lemma SetsTo.unique {name line : Text} {v w : Option (PyValue F)} (h : SetsTo py name v line)
    (h' : SetsTo py name w line) : v = w := by
  obtain ⟨t, ht, rfl⟩ := h
  obtain ⟨t', ht', rfl⟩ := h'
  rw [ht] at ht'
  cases ht'
  rfl

/-- The last setting of the define arrives. -/
lemma LastSetting.get?_eq (h : r.LastSetting) (hpy : py.Documented) (htime : '\n' ∉ b.asctime) :
    r.cfg.get? u.name = some (u.received py) := by
  have hfind : (prepareDefines r.g).defineParam.find? u.name = some u.entry.written := by
    rw [defineParam_eq h.fits, h.untouched.find?_storeAll]
    exact UserEntry.find?_store_of_target h.target
  have hrun := foldlM_patchedLines (r := r) htime
  rw [patchedLines_of_find? hfind, UserParameter.patchedLines_defineText, if_neg h.notTitle,
    List.foldlM_append] at hrun
  obtain ⟨start, -, hrest⟩ := Option.bind_eq_some_iff.mp hrun
  rcases get?_foldlM_cons (UserParameter.setsTo_defineLine hpy) hrest with ⟨-, heq⟩ | ⟨l, hl, hset⟩
  · exact heq
  · obtain ⟨t, ht, -⟩ := hset
    exact absurd ht (h.silent l hl t)

/-- When everything else gives the variable another value, a value that arrives comes from the
parameter. -/
lemma lastSetting_of_get?_eq (hdiffer : r.OthersDiffer) (hpy : py.Documented)
    (htime : '\n' ∉ b.asctime) (hget : r.cfg.get? u.name = some (u.expected py)) :
    r.LastSetting := by
  have hrun := foldlM_patchedLines (r := r) htime
  obtain ⟨line, hline, hset⟩ : ∃ line ∈ patchedLines b.asctime (b.deploymentConfig r.out),
      SetsTo py u.name (some (u.expected py)) line := by
    rcases get?_foldlM hrun with ⟨-, hnone⟩ | ⟨line, hline, hset⟩
    · rw [hnone] at hget
      nomatch hget
    · exact ⟨line, hline, hget ▸ hset⟩
  -- the define has the text of the parameter
  have hdefine : ∀ v, (prepareDefines r.g).defineParam.find? u.name = some v →
      ¬ r.Differs (defineText u.name v) := by
    intro v hv hdiff
    have hend : ∃ t, defineText u.name v = t ++ ['\n'] := ⟨_, rfl⟩
    rw [patchedLines_of_find? hv, patchedLines_append hend] at hline
    rcases List.mem_append.mp hline with h | h
    · exact hdiffer.textBefore line h hset
    · exact (List.mem_append.mp h).elim (fun h => hdiff line h hset)
        fun h => hdiffer.textBehind line h hset
  obtain ⟨v, hv⟩ : ∃ v, (prepareDefines r.g).defineParam.find? u.name = some v := by
    rw [← Option.isSome_iff_exists, Option.isSome_iff_ne_none]
    intro hnone
    rw [patchedLines_of_find?_eq_none hnone] at hline
    exact (List.mem_append.mp hline).elim (fun h => hdiffer.textBefore line h hset)
      fun h => hdiffer.textBehind line h hset
  have hfits : r.Fits := by
    refine List.forall_mem_append.mpr ?_
    have hbefore : ∀ l ∈ r.before, l.length < lineSize := by
      by_contra hlong
      rw [defineParam_of_before hlong] at hv hdefine
      exact hdefine v hv (hdiffer.define v hv)
    refine ⟨hbefore, List.forall_mem_singleton.mpr ?_⟩
    by_contra hlong
    have hlong' : lineSize ≤ u.line.length := Nat.not_lt.mp hlong
    rw [defineParam_of_cut hbefore hlong'] at hv hdefine
    rcases ScenarioDeployGenerator.untouched_or u.name r.cutEntries r.table with
      h | ⟨e, he, hin, hfind⟩
    · refine hdefine v hv (hdiffer.define v ?_)
      rw [← h.find?_storeAll]
      exact hv
    · exact hdefine _ hfind (hdiffer.cut hlong' e he hin)
  have huntouched : Untouched u.name r.laterEntries (u.entry.store r.table) := by
    rcases ScenarioDeployGenerator.untouched_or u.name r.laterEntries (u.entry.store r.table)
      with h | ⟨e, he, hin, hfind⟩
    · exact h
    · rw [← defineParam_eq hfits] at hfind
      exact absurd (hdiffer.later e he hin) (hdefine _ hfind)
  have htarget : u.entry.target r.table = some u.name := by
    by_contra hno
    rw [defineParam_eq hfits, huntouched.find?_storeAll, UserEntry.find?_store_of_ne hno] at hv
    refine hdefine v ?_ (hdiffer.define v hv)
    rw [defineParam_eq hfits, huntouched.find?_storeAll, UserEntry.find?_store_of_ne hno, hv]
  have hfind : (prepareDefines r.g).defineParam.find? u.name = some u.entry.written := by
    rw [defineParam_eq hfits, huntouched.find?_storeAll]
    exact UserEntry.find?_store_of_target htarget
  -- the line of the define sets the variable, and no later line does
  rw [patchedLines_of_find? hfind, UserParameter.patchedLines_defineText] at hrun hline
  have htitle : ¬ windowTitle <+: u.name := by
    intro htitle
    rw [if_pos htitle] at hline
    rcases List.mem_append.mp hline with h | h
    · exact hdiffer.textBefore line h hset
    · rcases List.mem_cons.mp h with rfl | h
      · exact hdiffer.title hset
      · exact hdiffer.textBehind line h hset
  rw [if_neg htitle, List.foldlM_append] at hrun
  obtain ⟨start, -, hrest⟩ := Option.bind_eq_some_iff.mp hrun
  refine ⟨hfits, htarget, huntouched, htitle, ?_⟩
  rcases get?_foldlM_cons (UserParameter.setsTo_defineLine hpy) hrest with ⟨hsilent, -⟩ | ⟨l, hl, hl'⟩
  · exact hsilent
  · exact absurd (hget ▸ hl') (hdiffer.textBehind l hl)

/-- **The way of a parameter.**  The expected value arrives when the value has no comment, an unquoted
one does not end with a semicolon, and the parameter is read and sets its define last.  When whatever
else sets the variable gives it another value, the expected value arrives only then. -/
theorem arrives_iff (r : ParameterRun py b u) (hpy : py.Documented) (htime : '\n' ∉ b.asctime) :
    (u.Kept ∧ r.LastSetting → r.cfg.get? u.name = some (u.expected py)) ∧
      (r.OthersDiffer → r.cfg.get? u.name = some (u.expected py) → u.Kept ∧ r.LastSetting) := by
  constructor
  · rintro ⟨hkept, hlast⟩
    rw [hlast.get?_eq hpy htime, (UserParameter.received_eq_iff hpy).mpr hkept]
  · intro hdiffer hget
    have hlast := lastSetting_of_get?_eq hdiffer hpy htime hget
    have hsame := (hlast.get?_eq hpy htime).symm.trans hget
    exact ⟨(UserParameter.received_eq_iff hpy).mp (Option.some.inj hsame), hlast⟩

end ParameterRun

/-! ## A run with two parameters -/

/-- The built-in functions on texts between quotes, with no other quotes and no backslashes. -/
def quotedTexts : Builtins Unit where
  eval t := some (.str (t.drop 1).dropLast)
  float _ := none

lemma documented_quotedTexts : quotedTexts.Documented where
  eval_quoted t _ := by
    have hinner : (('"' :: t ++ ['"']).drop 1).dropLast = t := by simp
    rw [quotedTexts]
    dsimp only
    rw [hinner]
  float_chars _ _ h := nomatch h

/-- The parameter `q:NAME:VALUE`. -/
def quotedParameter (name value : Text) (hname : name ≠ []) (hplain : ∀ c ∈ name, isPlain c = true)
    (hfield : ':' ∉ name) (hvalue : value ≠ []) (hchars : ∀ c ∈ value, isValueChar c = true) :
    UserParameter where
  type := ['q']
  name := name
  value := value
  type_plain := forall_mem_of_all (by decide)
  type_field := by decide
  name_ne := hname
  name_plain := hplain
  name_field := hfield
  value_ne := hvalue
  value_chars := hchars

/-- The parameter `q:USER_A:x`. -/
def plainParameter : UserParameter :=
  quotedParameter "USER_A".toList "x".toList (by decide) (forall_mem_of_all (by decide)) (by decide)
    (by decide) (forall_mem_of_all (by decide))

/-- The parameter `q:USER_B:x#y`. -/
def signParameter : UserParameter :=
  quotedParameter "USER_B".toList "x#y".toList (by decide) (forall_mem_of_all (by decide)) (by decide)
    (by decide) (forall_mem_of_all (by decide))

/-- A test with one traffic case, one traffic generator and the two parameters. -/
def twoParameters : BuildOptions where
  mode := .wlan
  generators := ["h".toList]
  proxies := none
  otherLines := [plainParameter.line, signParameter.line]
  specificTrafficMix := false
  template := ["tcName:=A".toList, "subcriberType:=T".toList]
  trafficMix := ["tcName:=A".toList]
  batFiles := []
  hostname := []
  freePort := fun _ => []
  asctime := []

/-- The configuration of the generator. -/
def twoParametersConfig : List Text :=
  ["lgen:= \"h\"".toList, plainParameter.line, signParameter.line]

/-- No line of a text sets the variable. -/
def isSilent (name text : Text) : Bool :=
  (patchedLines [] text).all fun line => (assignment line).all fun x => x.1 ≠ name

lemma leavesOut_of_isSilent {name text : Text} (h : isSilent name text = true) :
    ∀ line ∈ patchedLines [] text, LeavesOut name line := by
  intro line hline t ht
  have hall := List.all_eq_true.mp h line hline
  rw [ht] at hall
  exact absurd rfl (of_decide_eq_true hall)

/-- The text behind the define of a parameter. -/
def behindDefine (g : Globals) (out : Output) (u : UserParameter) : Text :=
  textBehind (prepareDefines g) u.name ++ [] ++ out.scenarioText

lemma config_twoParameters : twoParameters.configFileContents = some twoParametersConfig := by
  rfl

lemma fits_twoParameters : ∀ l ∈ twoParametersConfig, l.length < lineSize := by
  decide +kernel

/-- There is a run with a parameter of the configuration. -/
lemma exists_run (u : UserParameter) (before after : List Text)
    (hlines : twoParametersConfig = before ++ u.line :: after) :
    ∃ r : ParameterRun quotedTexts twoParameters u, r.before = before ∧ r.after = after := by
  obtain ⟨g, hg⟩ : ∃ g, ScenarioDeployGenerator.plan (twoParameters.sdgOptions twoParametersConfig) =
      .ok g := ⟨_, rfl⟩
  obtain ⟨out, hout⟩ : ∃ out,
      ScenarioDeployGenerator.main (twoParameters.sdgOptions twoParametersConfig) = .ok out := ⟨_, rfl⟩
  have hparsed : (quickConfigParser quotedTexts
      (patchConfig twoParameters.asctime (twoParameters.deploymentConfig out))).isSome :=
    isSome_quickConfigParser fun _ => rfl
  obtain ⟨cfg, hcfg⟩ := Option.isSome_iff_exists.mp hparsed
  exact ⟨⟨before, after, g, out, cfg, hlines ▸ config_twoParameters, hlines ▸ hg, hlines ▸ hout,
    hcfg⟩, rfl, rfl⟩

/-- A text that ends a line may be checked before what follows it. -/
lemma isSilent_append {name a b : Text} (hend : ∃ t, a = t ++ ['\n']) :
    isSilent name (a ++ b) = (isSilent name a && isSilent name b) := by
  rw [isSilent, patchedLines_append hend, List.all_append]
  rfl

/-- Both parameters set the define with their name. -/
lemma targets_twoParameters :
    (ScenarioDeployGenerator.plan (twoParameters.sdgOptions twoParametersConfig)).toOption.all
      (fun g => plainParameter.entry.target (toolDefines g) = some plainParameter.name ∧
        signParameter.entry.target (plainParameter.entry.store (toolDefines g)) =
          some signParameter.name) = true := by
  -- evaluating a literal is slow: the characters of the fixed texts are put in first
  open ScenarioDeployGenerator in
  unfold toolDefines updateDefine configDefines withLdapProxies
  repeat rw [String.toList_ofList]
  decide +kernel

/-- The two names do not occur behind their defines in the deployment file. -/
lemma silent_textBehind :
    (ScenarioDeployGenerator.plan (twoParameters.sdgOptions twoParametersConfig)).toOption.all
      (fun g => [plainParameter, signParameter].all fun u =>
        isSilent u.name (textBehind (prepareDefines g) u.name)) = true := by
  open ScenarioDeployGenerator in
  unfold textBehind prepareDefines updateDefine configDefines mainController
  repeat rw [String.toList_ofList]
  decide +kernel

/-- The two names do not occur in the scenario file. -/
lemma silent_scenarioText :
    (ScenarioDeployGenerator.main (twoParameters.sdgOptions twoParametersConfig)).toOption.all
      (fun out => [plainParameter, signParameter].all fun u =>
        isSilent u.name out.scenarioText) = true := by
  open ScenarioDeployGenerator in
  unfold Output.scenarioText scenarioText regulators loadRegulator regulatedItem groups
    declarators TcElement.text finishCondition changeAction typeDeclarator Action.text
  repeat rw [String.toList_ofList]
  simp only [List.append_assoc]
  decide +kernel

/-- A test that the result of a computation passes. -/
lemma of_all {ε α : Type} {x : Except ε α} {a : α} {P : α → Bool} (hx : x = .ok a)
    (h : x.toOption.all P = true) : P a = true := by
  subst hx
  exact h

/-- What the runs with the two parameters have in common. -/
lemma facts_twoParameters {u : UserParameter} (r : ParameterRun quotedTexts twoParameters u)
    (hlines : r.before ++ u.line :: r.after = twoParametersConfig) :
    (plainParameter.entry.target (toolDefines r.g) = some plainParameter.name ∧
      signParameter.entry.target (plainParameter.entry.store (toolDefines r.g)) =
        some signParameter.name) ∧
    ∀ x ∈ [plainParameter, signParameter], isSilent x.name (behindDefine r.g r.out x) = true := by
  have hplan := r.plan
  have hmain := r.main
  rw [hlines] at hplan hmain
  have hdefines := of_all hplan silent_textBehind
  have hscenario := of_all hmain silent_scenarioText
  rw [List.all_eq_true] at hdefines hscenario
  have htargets := of_all hplan targets_twoParameters
  refine ⟨of_decide_eq_true htargets, fun x hx => ?_⟩
  have hend : ∃ t, textBehind (prepareDefines r.g) x.name = t ++ ['\n'] :=
    ScenarioDeployGenerator.textBehind_eq
  rw [behindDefine, List.append_nil, isSilent_append hend, hdefines x hx, hscenario x hx]
  rfl

/-- The line of a traffic generator has no define. -/
lemma entriesOf_generatorLine : entriesOf ["lgen:= \"h\"".toList] = [] := by
  rfl

/-- The line of a parameter has its define. -/
lemma entriesOf_line (u : UserParameter) : entriesOf [u.line] = [u.entry] := by
  rw [entriesOf, List.flatMap_singleton, u.definesOfLine_line]

/-- The parameter without a comment arrives. -/
theorem plainParameter_arrives : ∃ r : ParameterRun quotedTexts twoParameters plainParameter,
    r.cfg.get? plainParameter.name = some (plainParameter.expected quotedTexts) := by
  obtain ⟨r, hbefore, hafter⟩ := exists_run plainParameter
    ["lgen:= \"h\"".toList] [signParameter.line] rfl
  obtain ⟨⟨htarget, hsecond⟩, hboth⟩ := facts_twoParameters r (by rw [hbefore, hafter]; rfl)
  have hsilent := hboth plainParameter List.mem_cons_self
  have hkept : plainParameter.Kept :=
    ⟨by decide, by decide, fun h => absurd rfl h⟩
  have hlines : ∀ l ∈ ["lgen:= \"h\"".toList, plainParameter.line] ++ [signParameter.line],
      l.length < lineSize := fits_twoParameters
  obtain ⟨hread, hrest⟩ := List.forall_mem_append.mp hlines
  have hother : r.laterEntries = [signParameter.entry] := by
    rw [ParameterRun.laterEntries, hafter, ParameterRun.getlines_of_fits hrest, entriesOf_line]
  have htable : r.table = toolDefines r.g := by
    have hfirst : getlines ["lgen:= \"h\"".toList] = ["lgen:= \"h\"".toList] :=
      ParameterRun.getlines_of_fits fun l hl => hread l (List.mem_append_left [plainParameter.line] hl)
    rw [ParameterRun.table, hbefore, hfirst, entriesOf_generatorLine, storeAll, List.foldl_nil]
  have hlast : r.LastSetting := by
    rw [← htable] at htarget hsecond
    have hfits : r.Fits := by
      rw [ParameterRun.Fits, hbefore]
      exact hread
    refine ⟨hfits, htarget, ?_, by decide, leavesOut_of_isSilent hsilent⟩
    rw [hother]
    refine ⟨fun hsame => ?_, trivial⟩
    have hnames := Option.some.inj (hsecond.symm.trans hsame)
    exact absurd hnames (by decide)
  exact ⟨r, (r.arrives_iff documented_quotedTexts (by decide)).1 ⟨hkept, hlast⟩⟩

/-- The value `x#y` is cut off at the number sign. -/
theorem signParameter_cutOff : ∃ r : ParameterRun quotedTexts twoParameters signParameter,
    r.cfg.get? signParameter.name = some (.str ['x']) ∧
      signParameter.expected quotedTexts = .str ['x', '#', 'y'] := by
  obtain ⟨r, hbefore, hafter⟩ := exists_run signParameter
    ["lgen:= \"h\"".toList, plainParameter.line] [] rfl
  obtain ⟨⟨-, htarget⟩, hboth⟩ := facts_twoParameters r (by rw [hbefore, hafter]; rfl)
  have hsilent := hboth signParameter (List.mem_cons_of_mem _ List.mem_cons_self)
  have hentries : entriesOf ["lgen:= \"h\"".toList, plainParameter.line] = [plainParameter.entry] := by
    change entriesOf ["lgen:= \"h\"".toList] ++ entriesOf [plainParameter.line] = _
    rw [entriesOf_generatorLine, entriesOf_line]
    rfl
  have hlines : ∀ l ∈ ["lgen:= \"h\"".toList, plainParameter.line] ++ [signParameter.line],
      l.length < lineSize := fits_twoParameters
  have hfirst : getlines ["lgen:= \"h\"".toList, plainParameter.line] =
      ["lgen:= \"h\"".toList, plainParameter.line] :=
    ParameterRun.getlines_of_fits (List.forall_mem_append.mp hlines).1
  have htable : r.table = plainParameter.entry.store (toolDefines r.g) := by
    rw [ParameterRun.table, hbefore, hfirst, hentries, storeAll, List.foldl_cons, List.foldl_nil]
  have hlast : r.LastSetting := by
    have hfits : r.Fits := by
      rw [ParameterRun.Fits, hbefore]
      exact hlines
    have hlater : r.laterEntries = [] := by
      rw [ParameterRun.laterEntries, hafter]
      rfl
    refine ⟨hfits, htable ▸ htarget, ?_, by decide, leavesOut_of_isSilent hsilent⟩
    rw [hlater]
    trivial
  exact ⟨r, hlast.get?_eq documented_quotedTexts (by decide), rfl⟩

end RunTitansim
