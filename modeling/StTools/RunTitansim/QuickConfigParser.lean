import StTools.Lib.Dict
import StTools.RunTitansim.ConfigHandler

/-!
# The parser of the configuration

`quick_config_parser` reads the configuration of a test, line by line, into a dictionary.  A later line
replaces the value of an earlier one.

The built-in functions `eval`, for a value between quotes, and `float` are parameters.
-/

namespace RunTitansim

open ScenarioDeployGenerator (Text)
open TextSearch

/-- A value of the dictionary, with the numbers `F` of the function `float`. -/
inductive PyValue (F : Type)
  | str (t : Text)
  | bool (b : Bool)
  | int (n : ℤ)
  | float (x : F)
  deriving DecidableEq

/-- The built-in functions; `none` stands for an exception. -/
structure Builtins (F : Type) where
  /-- The function `eval`. -/
  eval : Text → Option (PyValue F)
  /-- The function `float`. -/
  float : Text → Option F

namespace Builtins

variable {F : Type}

/-- What is documented about the functions. -/
structure Documented (py : Builtins F) : Prop where
  /-- A text between quotes is evaluated to the text. -/
  eval_quoted : ∀ t, (∀ c ∈ t, c ∉ ['"', '\\', '\n', '\r', Char.ofNat 0]) →
    py.eval ('"' :: t ++ ['"']) = some (.str t)
  /-- A number does not have these characters. -/
  float_chars : ∀ t x, py.float t = some x → ∀ c ∈ t, c ∉ ['#', '/', ';']

variable (py : Builtins F)

/-- The value of a text without quotes. -/
def convert (t : Text) : PyValue F :=
  if t = "true".toList then .bool true
  else if t = "false".toList then .bool false
  else
    match pyInt t with
    | some n => .int n
    | none =>
      match py.float t with
      | some x => .float x
      | none => .str t

/-- The value of a text. -/
def valueOf (t : Text) : Option (PyValue F) :=
  if ['"'] <+: t ∧ ['"'] <:+ t then py.eval t else some (py.convert t)

end Builtins

/-- The text of a value, without a semicolon at its end and without a comment. -/
def cleanValue (value : Text) : Text :=
  let value := strip value
  let value := if [';'] <:+ value then strip value.dropLast else value
  match splitOnce ['/', '/'] value with
  | some x => strip x.1
  | none => value

/-- The variable of a line and the text of its value. -/
def assignment (line : Text) : Option (Text × Text) :=
  let line := strip line
  if line = [] ∨ isComment line then none
  else (splitOnce [':', '='] line).map fun x => (strip x.1, cleanValue x.2)

/-- A line of the configuration. -/
def parseLine {F : Type} (py : Builtins F) (cfg : Dict Text (PyValue F)) (line : Text) :
    Option (Dict Text (PyValue F)) :=
  match assignment line with
  | none => some cfg
  | some (var, value) => (py.valueOf value).map (cfg.set var)

/-- The variables of a configuration, unless `eval` raises an exception. -/
def quickConfigParser {F : Type} (py : Builtins F) (file : Text) : Option (Dict Text (PyValue F)) :=
  (readlines file).foldlM (parseLine py) ∅

/-! ## Lines that set a variable -/

section Sets

variable {F : Type} {py : Builtins F} {cfg cfg' : Dict Text (PyValue F)} {name line : Text}
  {lines : List Text}

/-- The line gives the variable a value. -/
def SetsTo (py : Builtins F) (name : Text) (v : Option (PyValue F)) (line : Text) : Prop :=
  ∃ t, assignment line = some (name, t) ∧ py.valueOf t = v

/-- The line does not give the variable a value. -/
def LeavesOut (name line : Text) : Prop := ∀ t, assignment line ≠ some (name, t)

/-- A line that does not set the variable. -/
lemma get?_parseLine_of_leavesOut (h : LeavesOut name line) (hrun : parseLine py cfg line = some cfg') :
    cfg'.get? name = cfg.get? name := by
  rw [parseLine] at hrun
  cases hline : assignment line with
  | none =>
    rw [hline] at hrun
    cases hrun
    rfl
  | some x =>
    obtain ⟨var, value⟩ := x
    rw [hline] at hrun
    obtain ⟨v, -, rfl⟩ := Option.map_eq_some_iff.mp hrun
    rw [Dict.get?_set, if_neg]
    rintro rfl
    exact h value hline

/-- A line that sets the variable. -/
lemma get?_parseLine_of_setsTo {v : Option (PyValue F)} (h : SetsTo py name v line)
    (hrun : parseLine py cfg line = some cfg') : cfg'.get? name = v := by
  obtain ⟨t, hline, rfl⟩ := h
  rw [parseLine, hline] at hrun
  obtain ⟨v, hv, rfl⟩ := Option.map_eq_some_iff.mp hrun
  rw [Dict.get?_set, if_pos rfl, hv]

/-- A line sets the variable, or does not. -/
lemma leavesOut_or_setsTo (py : Builtins F) (name line : Text) :
    LeavesOut name line ∨ ∃ v, SetsTo py name v line := by
  by_cases h : ∃ t, assignment line = some (name, t)
  · obtain ⟨t, ht⟩ := h
    exact .inr ⟨_, t, ht, rfl⟩
  · exact .inl fun t ht => h ⟨t, ht⟩

/-- **Run.**  The variable keeps its value, or has one that a line gives it. -/
lemma get?_foldlM (hrun : lines.foldlM (parseLine py) cfg = some cfg') :
    ((∀ line ∈ lines, LeavesOut name line) ∧ cfg'.get? name = cfg.get? name) ∨
      ∃ line ∈ lines, SetsTo py name (cfg'.get? name) line := by
  induction lines generalizing cfg with
  | nil =>
    cases hrun
    exact .inl ⟨fun _ h => (nomatch h), rfl⟩
  | cons line lines ih =>
    rw [List.foldlM_cons] at hrun
    obtain ⟨next, hnext, hrest⟩ := Option.bind_eq_some_iff.mp hrun
    rcases ih hrest with ⟨hlines, hsame⟩ | ⟨l, hl, hset⟩
    · rcases leavesOut_or_setsTo py name line with hline | ⟨v, hline⟩
      · refine .inl ⟨List.forall_mem_cons.mpr ⟨hline, hlines⟩, ?_⟩
        exact hsame.trans (get?_parseLine_of_leavesOut hline hnext)
      · refine .inr ⟨line, List.mem_cons_self, ?_⟩
        rw [hsame, get?_parseLine_of_setsTo hline hnext]
        exact hline
    · exact .inr ⟨l, List.mem_cons_of_mem line hl, hset⟩

/-- What follows a line that sets the variable. -/
lemma get?_foldlM_cons {v : Option (PyValue F)} (h : SetsTo py name v line)
    (hrun : (line :: lines).foldlM (parseLine py) cfg = some cfg') :
    ((∀ l ∈ lines, LeavesOut name l) ∧ cfg'.get? name = v) ∨
      ∃ l ∈ lines, SetsTo py name (cfg'.get? name) l := by
  rw [List.foldlM_cons] at hrun
  obtain ⟨next, hnext, hrest⟩ := Option.bind_eq_some_iff.mp hrun
  refine (get?_foldlM hrest).imp (fun hleft => And.intro hleft.1 ?_) id
  exact hleft.2.trans (get?_parseLine_of_setsTo h hnext)

/-- Without exceptions the parser returns the variables. -/
lemma isSome_quickConfigParser {file : Text} (h : ∀ t, (py.eval t).isSome) :
    (quickConfigParser py file).isSome := by
  have hfold : ∀ (lines : List Text) (cfg : Dict Text (PyValue F)),
      (lines.foldlM (parseLine py) cfg).isSome := by
    intro lines
    induction lines with
    | nil => exact fun cfg => rfl
    | cons line lines ih =>
      intro cfg
      have hline : (parseLine py cfg line).isSome := by
        rw [parseLine]
        split
        · rfl
        · rw [Option.isSome_map, Builtins.valueOf]
          split_ifs
          · exact h _
          · rfl
      obtain ⟨next, hnext⟩ := Option.isSome_iff_exists.mp hline
      rw [List.foldlM_cons, hnext]
      exact ih next
  exact hfold _ _

end Sets

/-! ## Texts that are kept -/

section Values

variable {F : Type} {py : Builtins F} {t : Text}

/-- A number in the sense of `int` consists of digits and a sign. -/
lemma isDigit_of_pyInt {n : ℤ} (h : pyInt t = some n) (hwhite : ∀ c ∈ t, isWhite c = false) :
    ∀ c ∈ t, c = '-' ∨ c = '+' ∨ c.isDigit = true := by
  have hdigits : ∀ (t : Text) (m : ℕ), digitsToNat t = some m → ∀ c ∈ t, c.isDigit = true := by
    intro t m h
    rw [digitsToNat] at h
    split_ifs at h with hall
    exact List.all_eq_true.mp hall.2
  rw [pyInt, strip_eq_self hwhite] at h
  intro c hc
  split at h
  · obtain ⟨m, hm, -⟩ := Option.map_eq_some_iff.mp h
    exact (List.mem_cons.mp hc).imp id fun hc => .inr (hdigits _ m hm c hc)
  · obtain ⟨m, hm, -⟩ := Option.map_eq_some_iff.mp h
    exact .inr ((List.mem_cons.mp hc).imp id (hdigits _ m hm c))
  · obtain ⟨m, hm, -⟩ := Option.map_eq_some_iff.mp h
    exact .inr (.inr (hdigits _ m hm c hc))

/-- A text with one of these characters is neither a truth value nor a number. -/
lemma convert_of_mem (hpy : py.Documented) {c : Char} (hc : c ∈ ['#', '/', ';']) (ht : c ∈ t)
    (hwhite : ∀ c ∈ t, isWhite c = false) : py.convert t = .str t := by
  have htrue : t ≠ "true".toList := by
    rintro rfl
    simp only [List.mem_cons, List.not_mem_nil, or_false] at hc
    rcases hc with rfl | rfl | rfl <;> exact absurd ht (by decide)
  have hfalse : t ≠ "false".toList := by
    rintro rfl
    simp only [List.mem_cons, List.not_mem_nil, or_false] at hc
    rcases hc with rfl | rfl | rfl <;> exact absurd ht (by decide)
  have hint : pyInt t = none := by
    cases hint : pyInt t with
    | none => rfl
    | some n =>
      have hother : ∀ d ∈ ['#', '/', ';'], ¬ (d = '-' ∨ d = '+' ∨ d.isDigit = true) :=
        forall_mem_of_all (by decide)
      exact absurd (isDigit_of_pyInt hint hwhite c ht) (hother c hc)
  have hfloat : py.float t = none := by
    cases hfloat : py.float t with
    | none => rfl
    | some x => exact absurd hc (hpy.float_chars t x hfloat c ht)
  rw [Builtins.convert, if_neg htrue, if_neg hfalse, hint]
  dsimp only
  rw [hfloat]

/-- A text that is no truth value and no number stays. -/
lemma eq_of_convert {t' : Text} (h : py.convert t = .str t') : t = t' := by
  rw [Builtins.convert] at h
  split_ifs at h
  split at h
  · cases h
  · split at h
    · cases h
    · exact PyValue.str.inj h

end Values

end RunTitansim
