import StTools.Lib.LabelledSystem
import StTools.ScenarioDeployGenerator.UserDefines

/-!
# Updates of defines

Four functions change defines after the template was read.  Each of them looks for a define whose name
contains the given name, and takes the first one, or all of them.  Beside a session of the program runs
what is expected: that a define changes when an update has exactly its name.  `updatesExact_iff` says
that the two agree throughout a sequence of updates exactly when every search lands on the define it
is meant for.
-/

namespace ScenarioDeployGenerator

open LabelledSystem TextSearch

/-! ## What the program does -/

/-- The tables of defines, by the keyword of their lines. -/
inductive DefineTable
  | define
  | defLayer
  | defMO
  deriving DecidableEq

namespace Globals

/-- A table. -/
def table (g : Globals) : DefineTable → OrderedMap Text Text
  | .define => g.defineParam
  | .defLayer => g.defineParamLayer
  | .defMO => g.defineParamMO

/-- Store a table. -/
def setTable (g : Globals) (t : DefineTable) (table : OrderedMap Text Text) : Globals :=
  match t with
  | .define => { g with defineParam := table }
  | .defLayer => { g with defineParamLayer := table }
  | .defMO => { g with defineParamMO := table }

end Globals

/-- The global variables and the warnings that were written. -/
structure Session where
  /-- The global variables. -/
  globals : Globals
  /-- The warnings about defines. -/
  warnings : List Text := []

namespace Session

variable (s : Session)

/-- The update of `readTrafficDescUserFile` for a line with a define. -/
def modifyDefine (t : DefineTable) (name value : Text) : Session :=
  match (s.globals.table t).firstKey fun k => name <:+: k ∧ value ≠ [] with
  | some k => { s with globals := s.globals.setTable t ((s.globals.table t).assign k value) }
  | none =>
    { s with
      warnings := s.warnings ++ ["WARNING:Wrong define parameter to be modified: ".toList ++ name] }

/-- A define of the user. -/
def userModifyDefineParam (userEntry : Text) : Session where
  globals := ScenarioDeployGenerator.userModifyDefineParam userEntry s.globals
  warnings :=
    match (UserEntry.parse userEntry).changed s.globals.defineParam with
    | some _ => s.warnings
    | none =>
      s.warnings ++
        ["WARNING:define parameter not found: ".toList ++ userEntry ++ "   added to cfg.".toList]

end Session

/-- The updates of defines. -/
inductive Update
  /-- `updateDefineParam`. -/
  | param (name value : Text)
  /-- A define in the file of the user. -/
  | line (t : DefineTable) (name value : Text)
  /-- `userModifyDefineParam`. -/
  | entry (userEntry : Text)
  /-- `changeRange`. -/
  | range (userEntry : Text)

/-- An update; the program may exit. -/
def Update.run (s : Session) : Update → Option Session
  | .param name value => some { s with globals := s.globals.updateDefineParam name value }
  | .line t name value => some (s.modifyDefine t name value)
  | .entry userEntry => some (s.userModifyDefineParam userEntry)
  | .range userEntry =>
    (changeRange userEntry s.globals).toOption.map fun g => { s with globals := g }

/-- A line of the file of the user that has a define makes its update. -/
lemma table_userDefineLine {keyword line : Text} {after : Bool} {t : DefineTable} {s : Session} :
    (userDefineLine keyword line after (s.globals.table t)).table =
      match (filterLine line keyword after).bind (splitOnce ":=".toList) with
      | some (name, value) => (s.modifyDefine t name value).globals.table t
      | none => s.globals.table t := by
  rw [userDefineLine]
  cases filterLine line keyword after with
  | none => rfl
  | some element =>
    dsimp only [Option.bind_some]
    cases splitOnce ":=".toList element with
    | none => rfl
    | some x =>
      dsimp only [Session.modifyDefine]
      cases (s.globals.table t).firstKey fun k => decide (x.1 <:+: k ∧ x.2 ≠ []) with
      | none => rfl
      | some k => cases t <;> rfl

/-! ## What is expected -/

/-- The values of the defines. -/
abbrev Values := DefineTable → Text → Option Text

/-- A define has a value. -/
def Values.set (d : Values) (t : DefineTable) (k v : Text) : Values :=
  Function.update d t (Function.update (d t) k (some v))

/-- The values that the defines have. -/
def Globals.values (g : Globals) : Values := fun t k => (g.table t).find? k

/-- The values that the defines should have, and the warnings that should be written. -/
structure Expected where
  /-- The values. -/
  values : Values
  /-- The warnings. -/
  warnings : List Text

/-- An update that looks for one define. -/
structure Search where
  /-- The table. -/
  table : DefineTable := .define
  /-- The given name. -/
  name : Text
  /-- The value as it is stored. -/
  value : Text
  /-- What is asked beside the name. -/
  usable : Bool := true
  /-- A define is added when none is found. -/
  adds : Bool
  /-- The warnings when none is found. -/
  warnings : List Text := []
  /-- Without a warning, every value is used, and a define is added. -/
  silent : warnings = [] → adds = true ∧ usable = true

namespace Search

variable (c : Search)

/-- The define that is found. -/
def found (g : Globals) : Option Text :=
  (g.table c.table).firstKey fun k => c.name <:+: k ∧ c.usable

/-- The define that is found gets the value; without one, a define is added, or there is a warning. -/
def run (s : Session) : Session :=
  match c.found s.globals with
  | some k =>
    { s with
      globals := s.globals.setTable c.table ((s.globals.table c.table).assign k c.value) }
  | none =>
    { globals :=
        if c.adds then
          s.globals.setTable c.table ((s.globals.table c.table).insert c.name c.value)
        else s.globals
      warnings := s.warnings ++ c.warnings }

/-- The define with the name gets the value; without one, a define is added, or there is a warning. -/
def expect (x : Expected) : Expected :=
  if (x.values c.table c.name).isSome then
    { x with values := x.values.set c.table c.name c.value }
  else
    { values := if c.adds then x.values.set c.table c.name c.value else x.values
      warnings := x.warnings ++ c.warnings }

/-- The define that is found has the name, or both have the value; when none is found there is none
with the name. -/
def Lands (g : Globals) : Prop :=
  match c.found g with
  | some k =>
    k = c.name ∨
      (g.values c.table k = some c.value ∧ g.values c.table c.name = some c.value)
  | none => g.values c.table c.name = none

/-- The search of `updateDefineParam`. -/
def param (name value : Text) : Search where
  name := name
  value := value
  adds := true
  silent := fun _ => ⟨rfl, rfl⟩

/-- The search for a define in the file of the user. -/
def line (t : DefineTable) (name value : Text) : Search where
  table := t
  name := name
  value := value
  usable := value ≠ []
  adds := false
  warnings := ["WARNING:Wrong define parameter to be modified: ".toList ++ name]
  silent := fun h => absurd h (List.cons_ne_nil _ _)

/-- The search of `userModifyDefineParam`. -/
def entry (userEntry : Text) : Search where
  name := (UserEntry.parse userEntry).name
  value := (UserEntry.parse userEntry).written
  usable := (UserEntry.parse userEntry).value ≠ []
  adds := true
  warnings :=
    ["WARNING:define parameter not found: ".toList ++ userEntry ++ "   added to cfg.".toList]
  silent := fun h => absurd h (List.cons_ne_nil _ _)

end Search

namespace RangeChange

variable (c : RangeChange)

/-- The value that `changeRange` gives a define. -/
def found (k : Text) : Option Text :=
  if c.OnRange k then some c.range else if c.OnBase k then some c.base else none

/-- The value for a define by its name. -/
def named (k : Text) : Option Text :=
  if k = rangeDefine c.name ∧ c.range ≠ [] then some c.range
  else if k = baseDefine c.name ∧ c.base ≠ [] then some c.base
  else none

/-- A define that should change is not there. -/
def Absent (d : Text → Option Text) : Prop :=
  (c.base ≠ [] ∧ d (baseDefine c.name) = none) ∨ (c.range ≠ [] ∧ d (rangeDefine c.name) = none)

instance (d : Text → Option Text) : Decidable (c.Absent d) := by
  unfold Absent
  infer_instance

/-- The two defines of the type get their values; the program exits when one is not there. -/
def expect (x : Expected) : Option Expected :=
  if c.Absent (x.values .define) then none
  else
    some
      { x with
        values := Function.update x.values .define fun k =>
          (x.values .define k).map fun v => (c.named k).getD v }

/-- The defines that are found are those of the type, or they have the value. -/
def Lands (d : Text → Option Text) : Prop :=
  ¬ c.Absent d ∧ ∀ k v, d k = some v →
    c.found k = c.named k ∨ ∀ w, c.found k = some w ∨ c.named k = some w → v = w

end RangeChange

namespace Update

/-- What is expected of an update; the program may have to exit. -/
def expect (x : Expected) : Update → Option Expected
  | .param name value => some ((Search.param name value).expect x)
  | .line t name value => some ((Search.line t name value).expect x)
  | .entry userEntry => some ((Search.entry userEntry).expect x)
  | .range userEntry => (RangeChange.parse userEntry).expect x

/-- The search of an update lands on the define that it is meant for. -/
def Lands (g : Globals) : Update → Prop
  | .param name value => (Search.param name value).Lands g
  | .line t name value => (Search.line t name value).Lands g
  | .entry userEntry => (Search.entry userEntry).Lands g
  | .range userEntry => (RangeChange.parse userEntry).Lands (g.values .define)

/-- A step of the program, and of what is expected. -/
def step (x : Session × Option Expected) (u : Update) : Option (Session × Option Expected) :=
  (u.run x.1).map fun s => (s, x.2.bind fun e => u.expect e)

end Update

/-- The defines have the expected values, and the expected warnings were written. -/
def Exact (x : Session × Option Expected) : Prop :=
  x.2 = some { values := x.1.globals.values, warnings := x.1.warnings }

/-- The beginning of a sequence of updates. -/
def Globals.updating (g : Globals) : Session × Option Expected :=
  ({ globals := g }, some { values := g.values, warnings := [] })

/-- The program exits only when a define that should change is not there. -/
def ExitsForAbsent : Prop :=
  ∀ userEntry g f, changeRange userEntry g = .error f →
    (RangeChange.parse userEntry).Absent (g.values .define)

/-! ## Values -/

section Values

variable {d : Values} {g : Globals} {t : DefineTable} {k n v : Text}

/-- Two defines set to one value. -/
lemma set_eq_set_iff : d.set t k v = d.set t n v ↔ k = n ∨ (d t k = some v ∧ d t n = some v) := by
  constructor
  · intro h
    have htable : Function.update (d t) k (some v) = Function.update (d t) n (some v) := by
      have ht := congrFun h t
      rwa [Values.set, Values.set, Function.update_self, Function.update_self] at ht
    by_cases hkn : k = n
    · exact .inl hkn
    · have hk := congrFun htable k
      have hn := congrFun htable n
      rw [Function.update_self, Function.update_of_ne hkn] at hk
      rw [Function.update_self, Function.update_of_ne (Ne.symm hkn)] at hn
      exact .inr ⟨hk.symm, hn⟩
  · have hself : ∀ m, d t m = some v → d.set t m v = d := fun m hm => by
      rw [Values.set, ← hm, Function.update_eq_self, Function.update_eq_self]
    rintro (rfl | ⟨hk, hn⟩)
    · rfl
    · rw [hself k hk, hself n hn]

/-- The value of the define that is set. -/
lemma set_self : d.set t k v t k = some v := by
  rw [Values.set, Function.update_self, Function.update_self]

/-- The value of another define. -/
lemma set_of_ne (h : n ≠ k) : d.set t k v t n = d t n := by
  rw [Values.set, Function.update_self, Function.update_of_ne h]

/-- The values with a table stored. -/
lemma values_setTable {table : OrderedMap Text Text} :
    (g.setTable t table).values = Function.update g.values t fun k => table.find? k := by
  funext t' k
  cases t <;> cases t' <;> rfl

/-- A value is assigned. -/
lemma values_assign : (g.setTable t ((g.table t).assign k v)).values = g.values.set t k v := by
  rw [values_setTable, Values.set]
  congr 1
  funext k'
  by_cases hk : k' = k
  · subst hk
    rw [OrderedMap.find?_assign_self, Function.update_self]
  · rw [OrderedMap.find?_assign_of_ne hk, Function.update_of_ne hk]
    rfl

/-- A new define. -/
lemma values_insert (h : g.values t k = none) :
    (g.setTable t ((g.table t).insert k v)).values = g.values.set t k v := by
  rw [values_setTable, Values.set]
  congr 1
  funext k'
  by_cases hk : k' = k
  · subst hk
    rw [OrderedMap.find?_insert_self h, Function.update_self]
  · rw [OrderedMap.find?_insert_of_ne hk, Function.update_of_ne hk]
    rfl

end Values

/-! ## Searches for one define -/

namespace Search

variable {c : Search} {s : Session} {k : Text}

/-- The define that is found is there. -/
lemma isSome_of_found {g : Globals} (h : c.found g = some k) : (g.values c.table k).isSome := by
  obtain ⟨v, hv⟩ := OrderedMap.mem_of_firstKey h
  have hfind : (g.table c.table).find? k = some v := OrderedMap.find?_eq_some_iff.mpr hv
  exact Option.isSome_of_eq_some hfind

/-- When nothing else is asked, a define with the name is found. -/
lemma absent_of_found {g : Globals} (h : c.found g = none) (husable : c.usable = true) :
    g.values c.table c.name = none := by
  by_contra hfind
  obtain ⟨v, hv⟩ := Option.ne_none_iff_exists'.mp hfind
  have hmem : c.name ∈ (g.table c.table).entries.map Prod.fst :=
    List.mem_map_of_mem (OrderedMap.find?_eq_some_iff.mp hv)
  have hno := List.find?_eq_none.mp h _ hmem
  exact hno (decide_eq_true ⟨List.infix_rfl, husable⟩)

/-- **Step.**  A session that is as expected stays so exactly when the search lands on the define that
it is meant for. -/
lemma exact_iff (c : Search) (s : Session) :
    Exact (c.run s, some (c.expect { values := s.globals.values, warnings := s.warnings })) ↔
      c.Lands s.globals := by
  rw [Exact, Option.some.injEq, expect, run, Lands]
  cases hfound : c.found s.globals with
  | some k =>
    dsimp only
    by_cases hname : (s.globals.values c.table c.name).isSome
    · rw [if_pos hname, values_assign, Expected.mk.injEq, eq_self, and_true, eq_comm, set_eq_set_iff]
    · have hk : c.name ≠ k := fun heq => hname (heq ▸ isSome_of_found hfound)
      have habsent : s.globals.values c.table c.name = none := by simpa using hname
      have hlands : ¬ (k = c.name ∨ s.globals.values c.table k = some c.value ∧
          s.globals.values c.table c.name = some c.value) := by
        rintro (heq | ⟨-, heq⟩)
        · exact hk heq.symm
        · exact nomatch habsent.symm.trans heq
      rw [if_neg hname, values_assign, Expected.mk.injEq]
      refine iff_of_false ?_ hlands
      -- without a warning the define would have been added
      rintro ⟨hvalues, hwarnings⟩
      have hadds : c.adds = true := (c.silent (List.append_right_eq_self.mp hwarnings)).1
      have hset := congrFun (congrFun hvalues c.table) c.name
      rw [if_pos hadds, set_self, set_of_ne hk, habsent] at hset
      nomatch hset
  | none =>
    dsimp only
    by_cases hname : (s.globals.values c.table c.name).isSome
    · rw [if_pos hname, Expected.mk.injEq]
      refine iff_of_false ?_ (Option.isSome_iff_ne_none.mp hname)
      -- without a warning the define would have been found
      rintro ⟨-, hwarnings⟩
      have husable : c.usable = true := (c.silent (List.append_right_eq_self.mp hwarnings.symm)).2
      exact Option.isSome_iff_ne_none.mp hname (absent_of_found hfound husable)
    · have habsent : s.globals.values c.table c.name = none := by simpa using hname
      rw [if_neg hname, Expected.mk.injEq]
      refine iff_of_true ⟨?_, rfl⟩ habsent
      split_ifs
      · exact (values_insert habsent).symm
      · rfl

/-- The update of `updateDefineParam`. -/
lemma run_param {name value : Text} :
    (param name value).run s = { s with globals := s.globals.updateDefineParam name value } := by
  rw [run, found]
  simp only [param, and_true, Globals.table, Globals.updateDefineParam]
  cases s.globals.defineParam.firstKey fun k => decide (name <:+: k) with
  | some k => rfl
  | none => simp [Globals.setTable]

/-- The update of a line. -/
lemma run_line {t : DefineTable} {name value : Text} :
    (line t name value).run s = s.modifyDefine t name value := by
  rw [run, found, Session.modifyDefine]
  simp only [line, decide_eq_true_eq]
  cases (s.globals.table t).firstKey fun k => decide (name <:+: k ∧ value ≠ []) with
  | some k => rfl
  | none => rfl

/-- The update of a define of the user. -/
lemma run_entry {userEntry : Text} :
    (entry userEntry).run s = s.userModifyDefineParam userEntry := by
  rw [run, found, Session.userModifyDefineParam, userModifyDefineParam, UserEntry.store]
  simp only [entry, decide_eq_true_eq, Globals.table, UserEntry.changed]
  cases s.globals.defineParam.firstKey fun k => decide ((UserEntry.parse userEntry).name <:+: k ∧
      (UserEntry.parse userEntry).value ≠ []) with
  | some k => rfl
  | none => rfl

end Search

/-! ## Ranges -/

/-- Two optional values with the same default. -/
lemma getD_eq_getD_iff {α : Type*} {a b : Option α} {v : α} :
    a.getD v = b.getD v ↔ a = b ∨ ∀ w, a = some w ∨ b = some w → v = w := by
  cases a with
  | none =>
    cases b with
    | none => simp
    | some y => simp
  | some x =>
    cases b with
    | none => simp [eq_comm]
    | some y =>
      simp only [Option.getD_some, Option.some.injEq]
      constructor
      · exact .inl
      · rintro (rfl | h)
        · rfl
        · exact (h x (.inl rfl)).symm.trans (h y (.inr rfl))

namespace RangeChange

variable {c : RangeChange} {s : Session} {g g' : Globals} {userEntry : Text}

/-- The define of the type for the first subscriber. -/
lemma onBase_baseDefine (h : c.base ≠ []) : c.OnBase (baseDefine c.name) :=
  ⟨(List.suffix_append _ _).isInfix, (List.prefix_append _ _).isInfix, h⟩

/-- The define of the type for the number of subscribers. -/
lemma onRange_rangeDefine (h : c.range ≠ []) : c.OnRange (rangeDefine c.name) :=
  ⟨(List.suffix_append _ _).isInfix, (List.prefix_append _ _).isInfix, h⟩

/-- A define that is there is an entry. -/
lemma exists_entry {P : Text → Prop} {k : Text} (hP : P k) (h : g.values .define k ≠ none) :
    ∃ e ∈ g.defineParam.entries, P e.1 := by
  obtain ⟨v, hv⟩ := Option.ne_none_iff_exists'.mp h
  exact ⟨(k, v), OrderedMap.find?_eq_some_iff.mp hv, hP⟩

/-- The program exits only when a define that should change is not there. -/
lemma exitsForAbsent : ExitsForAbsent := by
  intro userEntry g f h
  by_contra habsent
  rw [Absent, not_or, not_and, not_and] at habsent
  have hbase : (parse userEntry).base = [] ∨
      ∃ e ∈ g.defineParam.entries, (parse userEntry).OnBase e.1 :=
    or_iff_not_imp_left.mpr fun hne => exists_entry (onBase_baseDefine hne) (habsent.1 hne)
  have hrange : (parse userEntry).range = [] ∨
      ∃ e ∈ g.defineParam.entries, (parse userEntry).OnRange e.1 :=
    or_iff_not_imp_left.mpr fun hne => exists_entry (onRange_rangeDefine hne) (habsent.2 hne)
  rw [changeRange] at h
  simp only [hrange, hbase, and_self, if_true] at h
  nomatch h

/-- The defines that `changeRange` finds get their values. -/
lemma values_changeRange (h : changeRange userEntry g = .ok g') :
    g'.values = Function.update g.values .define fun k =>
      (g.values .define k).map fun v => ((parse userEntry).found k).getD v := by
  rw [changeRange] at h
  split_ifs at h with hfound
  cases h
  funext t k
  cases t with
  | define =>
    rw [Function.update_self]
    refine OrderedMap.find?_map.trans ?_
    congr 1
    funext v
    rw [found]
    split_ifs <;> rfl
  | defLayer => rfl
  | defMO => rfl

/-- **Step.**  A session that is as expected stays so exactly when the defines that are found are those
of the type. -/
lemma exact_iff (h : changeRange userEntry s.globals = .ok g') :
    Exact ({ s with globals := g' },
      (parse userEntry).expect { values := s.globals.values, warnings := s.warnings }) ↔
      (parse userEntry).Lands (s.globals.values .define) := by
  rw [Exact, expect, Lands]
  by_cases habsent : (parse userEntry).Absent (s.globals.values .define)
  · rw [if_pos habsent]
    exact iff_of_false (fun hnone => nomatch hnone) fun hlands => hlands.1 habsent
  · rw [if_neg habsent, Option.some.injEq, Expected.mk.injEq, values_changeRange h]
    simp only [and_true, habsent, not_false_eq_true, true_and]
    rw [(Function.update_injective s.globals.values DefineTable.define).eq_iff, funext_iff]
    refine forall_congr' fun k => ?_
    cases s.globals.values .define k with
    | none => simp
    | some v =>
      simp only [Option.map_some, Option.some.injEq, forall_eq']
      rw [eq_comm, getD_eq_getD_iff]

end RangeChange

/-! ## The result -/

/-- **Step.**  An update keeps a session as expected exactly when its search lands. -/
lemma exact_step_iff {s s' : Session} {u : Update} (h : u.run s = some s') :
    Exact (s', u.expect { values := s.globals.values, warnings := s.warnings }) ↔
      u.Lands s.globals := by
  cases u with
  | param name value =>
    have hrun : (Search.param name value).run s = s' := Search.run_param.trans (Option.some.inj h)
    exact hrun ▸ (Search.param name value).exact_iff s
  | line t name value =>
    have hrun : (Search.line t name value).run s = s' := Search.run_line.trans (Option.some.inj h)
    exact hrun ▸ (Search.line t name value).exact_iff s
  | entry userEntry =>
    have hrun : (Search.entry userEntry).run s = s' := Search.run_entry.trans (Option.some.inj h)
    exact hrun ▸ (Search.entry userEntry).exact_iff s
  | range userEntry =>
    obtain ⟨g', hok, rfl⟩ := Option.map_eq_some_iff.mp h
    have hchange : changeRange userEntry s.globals = .ok g' := by
      cases hresult : changeRange userEntry s.globals with
      | error f =>
        rw [hresult] at hok
        nomatch hok
      | ok g =>
        rw [hresult] at hok
        exact congrArg Except.ok (Option.some.inj hok)
    exact RangeChange.exact_iff hchange

/-- The defines have the values that the updates gave to their names, every missing define was added or
reported, throughout a sequence of updates, exactly when every search lands on the define it is meant
for; and the program exits only when a define is missing. -/
theorem updatesExact_iff (g : Globals) (us : List Update) :
    (Throughout Update.step Exact g.updating us ∧ ExitsForAbsent) ↔
      Along Update.step (fun x u => u.Lands x.1.globals) g.updating us := by
  have hstep : ∀ x u x', Exact x → Update.step x u = some x' → (Exact x' ↔ u.Lands x.1.globals) := by
    rintro ⟨s, e⟩ u x' hexact hstep
    obtain ⟨s', hrun, rfl⟩ := Option.map_eq_some_iff.mp hstep
    have hexpected : e = some { values := s.globals.values, warnings := s.warnings } := hexact
    subst hexpected
    exact exact_step_iff hrun
  rw [and_iff_left RangeChange.exitsForAbsent]
  exact throughout_iff_along (fun x u x' hexact hlands hx' => (hstep x u x' hexact hx').mpr hlands)
    (fun _ hexact => hexact)
    (fun x u x' hexact hlands hx' h => hlands ((hstep x u x' hexact hx').mp h))
    (show Exact g.updating from rfl)

/-- Only the define of the load before the measurement. -/
def onlyPre : Globals where
  trafficType := .esm
  specificTrafficMix := false
  configFile := []
  defineParam := (∅ : OrderedMap Text Text).insert "LOAD_LEVEL_PRE".toList "10".toList

/-- A new define is not added: another one, whose name contains its name, gets its value. -/
theorem onlyPre_not_exact :
    ¬ Throughout Update.step Exact onlyPre.updating
      [.param "LOAD_LEVEL".toList "100".toList] := by
  intro h
  have hexact := (h.2 _ rfl).head
  have hvalues := congrArg Expected.values (Option.some.inj hexact)
  have hpre := congrFun (congrFun hvalues .define) "LOAD_LEVEL_PRE".toList
  exact absurd hpre (by decide +kernel)

end ScenarioDeployGenerator
