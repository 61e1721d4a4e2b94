import StTools.ScenarioDeployGenerator.Configuration

/-!
# Optional fields

The values of `modTc`, `sub_range` and `loadSched` have fields behind their first one that may be empty
or left out.  The functions take a field, apart from the name of a traffic case, only when a `:` follows
it or when it is the last one of the format, so the last field of a shorter value is lost.
`optionalFields_iff` says when this makes no difference.
-/

namespace ScenarioDeployGenerator

open TextSearch

/-! ## Entries -/

/-- A value with at least one and at most `n` fields. -/
structure Entry (n : ℕ) where
  /-- The fields that are present. -/
  fields : List Text
  /-- The first field is present. -/
  ne_nil : fields ≠ []
  /-- There are not too many. -/
  length_le : fields.length ≤ n
  /-- A field has no separator. -/
  noColon : ∀ f ∈ fields, ':' ∉ f

/-- The value, with a `:` between its fields. -/
def Entry.text {n : ℕ} (e : Entry n) : Text := [':'].intercalate e.fields

/-- A field, which is empty when it is left out. -/
def Entry.field {n : ℕ} (e : Entry n) (i : ℕ) : Text := e.fields.getD i []

/-! ## What the fields ask for -/

namespace TcChange

variable (c : TcChange)

/-- The fields of `name:weight:base:range`. -/
def ofEntry (e : Entry 4) : TcChange where
  name := e.field 0
  weight := e.field 1
  base := e.field 2
  range := e.field 3

/-- The traffic cases that match the name. -/
def matching (g : Globals) : List (Text × ScriptData) := g.tcDesc.entries.filter fun e => c.name <:+: e.1

/-- Change the matching traffic cases by all fields that are not empty. -/
def modify (tc : Text) (g : Globals) : Except Failure Globals :=
  if (c.matching g).length > 1 ∧ c.base ≠ [] then
    .error (.exit <| "ERROR:Not allowed to set the same base for more than one script: ".toList ++ tc)
  else if (c.matching g).length > 1 ∧ c.range ≠ [] then
    .error (.exit <| "ERROR:Not allowed to set the same range for more than one script: ".toList ++ tc)
  else if c.matching g = [] then
    .error (.exit <| "ERROR:Wrong traffic case to be added/modified: ".toList ++ tc)
  else .ok { g with tcDesc := g.tcDesc.map fun k s => if c.name <:+: k then c.apply s else s }

/-- A weight makes no difference. -/
def WeightKept (g : Globals) : Prop :=
  c.weight = [] ∨ ∀ e ∈ c.matching g, (c.apply e.2).trafficWeight = e.2.trafficWeight

/-- A first subscriber makes no difference. -/
def BaseKept (g : Globals) : Prop :=
  c.base = [] ∨ c.matching g = [] ∨ ∃ e, c.matching g = [e] ∧ e.2.base = c.base

end TcChange

namespace RangeChange

variable (c : RangeChange)

/-- The fields of `type:base:count`. -/
def ofEntry (e : Entry 3) : RangeChange where
  name := e.field 0
  base := e.field 1
  range := e.field 2

/-- Change the matching defines by all fields that are not empty. -/
def change (userEntry : Text) (g : Globals) : Except Failure Globals :=
  if (c.range = [] ∨ ∃ e ∈ g.defineParam.entries, c.OnRange e.1) ∧
      (c.base = [] ∨ ∃ e ∈ g.defineParam.entries, c.OnBase e.1) then
    .ok
      { g with
        defineParam := g.defineParam.map fun k v =>
          if c.OnRange k then c.range else if c.OnBase k then c.base else v }
  else .error (.exit <| "ERROR:Wrong subcriber range to be modified: ".toList ++ userEntry)

/-- A first subscriber makes no difference. -/
def BaseKept (g : Globals) : Prop :=
  c.base = [] ∨ ((∃ e ∈ g.defineParam.entries, c.OnBase e.1) ∧
    ∀ e ∈ g.defineParam.entries, c.OnBase e.1 → e.2 = c.base)

end RangeChange

/-- A step of the schedule with a load and a time. -/
def Globals.schedule (g : Globals) (target time : Text) : Globals :=
  { g with
    scheduleLoad := g.scheduleLoad ++
      ["\x7bloadTarget:=".toList ++ target ++ ".0,loadTime:=".toList ++ time ++ ".0\x7d".toList] }

/-- The fields that `modTrafficCase` applies are its own. -/
lemma modTrafficCase_eq {tc : Text} {g : Globals} :
    modTrafficCase tc g = (TcChange.parse tc).modify tc g := rfl

/-- So are those of `changeRange`. -/
lemma changeRange_eq {userEntry : Text} {g : Globals} :
    changeRange userEntry g = (RangeChange.parse userEntry).change userEntry g := rfl

/-! ## Which fields are taken -/

section Parts

variable {f f' : Text} {fs : List Text}

/-- A field is taken when another one follows it. -/
lemma splitOnce_intercalate (h : ':' ∉ f) :
    splitOnce [':'] ([':'].intercalate (f :: f' :: fs)) = some (f, [':'].intercalate (f' :: fs)) := by
  have hsplit : splitOnce [':'] (f ++ ([':'] ++ [':'].intercalate (f' :: fs))) =
      some (f, [':'].intercalate (f' :: fs)) := splitOnce_append h
  rw [List.intercalate_cons_cons, List.append_assoc, hsplit]

/-- It is not taken when it is the last one. -/
lemma splitOnce_intercalate_singleton (h : ':' ∉ f) :
    splitOnce [':'] ([':'].intercalate [f]) = none := by
  rw [List.intercalate_singleton, splitOnce_eq_none_iff]
  exact fun hpart => h (hpart.subset List.mem_cons_self)

end Parts

/-- The weight is lost when it is the last field, and so is the first subscriber. -/
lemma TcChange.parse_text (e : Entry 4) :
    TcChange.parse e.text =
      { TcChange.ofEntry e with
        weight := if e.fields.length = 2 then [] else e.field 1
        base := if e.fields.length = 3 then [] else e.field 2 } := by
  rcases e with ⟨_ | ⟨name, fields⟩, hne, hlength, hcolon⟩
  · exact absurd rfl hne
  obtain ⟨hname, hcolon⟩ := List.forall_mem_cons.mp hcolon
  rw [Entry.text, parse]
  rcases fields with _ | ⟨weight, fields⟩
  · rw [splitOnce_intercalate_singleton hname, List.intercalate_singleton]
    rfl
  obtain ⟨hweight, hcolon⟩ := List.forall_mem_cons.mp hcolon
  rw [splitOnce_intercalate hname]
  dsimp only
  rcases fields with _ | ⟨base, fields⟩
  · rw [splitOnce_intercalate_singleton hweight]
    rfl
  obtain ⟨hbase, hcolon⟩ := List.forall_mem_cons.mp hcolon
  rw [splitOnce_intercalate hweight]
  dsimp only
  rcases fields with _ | ⟨range, fields⟩
  · rw [splitOnce_intercalate_singleton hbase]
    rfl
  simp only [List.length_cons] at hlength
  obtain rfl : fields = [] := List.eq_nil_of_length_eq_zero (by omega)
  rw [splitOnce_intercalate hbase, List.intercalate_singleton]
  rfl

/-- The first subscriber is lost when it is the last field; without it the type is, too. -/
lemma RangeChange.parse_text (e : Entry 3) :
    RangeChange.parse e.text =
      { RangeChange.ofEntry e with
        name := if e.fields.length = 1 then [] else e.field 0
        base := if e.fields.length = 2 then [] else e.field 1 } := by
  rcases e with ⟨_ | ⟨name, fields⟩, hne, hlength, hcolon⟩
  · exact absurd rfl hne
  obtain ⟨hname, hcolon⟩ := List.forall_mem_cons.mp hcolon
  rw [Entry.text, parse]
  rcases fields with _ | ⟨base, fields⟩
  · rw [splitOnce_intercalate_singleton hname]
    rfl
  obtain ⟨hbase, hcolon⟩ := List.forall_mem_cons.mp hcolon
  rw [splitOnce_intercalate hname]
  dsimp only
  rcases fields with _ | ⟨range, fields⟩
  · rw [splitOnce_intercalate_singleton hbase]
    rfl
  simp only [List.length_cons] at hlength
  obtain rfl : fields = [] := List.eq_nil_of_length_eq_zero (by omega)
  rw [splitOnce_intercalate hbase, List.intercalate_singleton]
  rfl

/-- The load is lost when it is the last field. -/
lemma storeloadSched_text (e : Entry 2) (g : Globals) :
    storeloadSched e.text g =
      g.schedule (if e.fields.length = 1 then [] else e.field 0) (e.field 1) := by
  rcases e with ⟨_ | ⟨target, fields⟩, hne, hlength, hcolon⟩
  · exact absurd rfl hne
  obtain ⟨htarget, hcolon⟩ := List.forall_mem_cons.mp hcolon
  rw [Entry.text, storeloadSched]
  rcases fields with _ | ⟨time, fields⟩
  · rw [splitOnce_intercalate_singleton htarget]
    rfl
  simp only [List.length_cons] at hlength
  obtain rfl : fields = [] := List.eq_nil_of_length_eq_zero (by omega)
  rw [splitOnce_intercalate htarget, List.intercalate_singleton]
  rfl

/-! ## What is lost -/

section Lost

variable {c : TcChange} {g : Globals} {tc : Text} {w : Text}

/-- Two changes of the matching traffic cases. -/
lemma map_matching_iff {f f' : ScriptData → ScriptData} :
    ({ g with tcDesc := g.tcDesc.map fun k s => if c.name <:+: k then f s else s } : Globals) =
        { g with tcDesc := g.tcDesc.map fun k s => if c.name <:+: k then f' s else s } ↔
      ∀ e ∈ c.matching g, f e.2 = f' e.2 := by
  have htables : ∀ m m' : OrderedMap Text ScriptData,
      ({ g with tcDesc := m } : Globals) = { g with tcDesc := m' } ↔ m = m' := fun m m' =>
    ⟨fun h => congrArg Globals.tcDesc h, fun h => h ▸ rfl⟩
  rw [htables, OrderedMap.map_eq_map_iff]
  constructor
  · intro h e he
    obtain ⟨hmem, hname⟩ := List.mem_filter.mp he
    have hinfix : c.name <:+: e.1 := of_decide_eq_true hname
    have heq := h e hmem
    rwa [if_pos hinfix, if_pos hinfix] at heq
  · intro h e hmem
    split_ifs with hname
    · exact h e (List.mem_filter.mpr ⟨hmem, decide_eq_true hname⟩)
    · rfl

/-- Without a matching traffic case the program exits. -/
lemma modify_of_nil (h : c.matching g = []) :
    c.modify tc g =
      .error (.exit <| "ERROR:Wrong traffic case to be added/modified: ".toList ++ tc) := by
  simp [TcChange.modify, h]

/-- The matching traffic cases are changed. -/
lemma modify_of_ne_nil (h : c.matching g ≠ [])
    (hone : (c.matching g).length > 1 → c.base = [] ∧ c.range = []) :
    c.modify tc g =
      .ok { g with tcDesc := g.tcDesc.map fun k s => if c.name <:+: k then c.apply s else s } := by
  rw [TcChange.modify, if_neg fun hbase => hbase.2 (hone hbase.1).1,
    if_neg fun hrange => hrange.2 (hone hrange.1).2, if_neg h]

/-- A change without its weight. -/
lemma apply_weight_iff {s : ScriptData} :
    ({ c with weight := [] } : TcChange).apply s = c.apply s ↔
      c.weight = [] ∨ (c.apply s).trafficWeight = s.trafficWeight := by
  constructor
  · exact fun h => .inr (congrArg ScriptData.trafficWeight h).symm
  · rintro (h | h)
    · rw [← h]
    · simp only [TcChange.apply, if_true] at h ⊢
      rw [h]

/-- A change without its first subscriber. -/
lemma apply_base_iff {s : ScriptData} (hbase : c.base ≠ []) :
    ({ c with base := [] } : TcChange).apply s = c.apply s ↔ s.base = c.base := by
  simp only [TcChange.apply, if_true, hbase, if_false]
  constructor
  · exact fun h => congrArg ScriptData.base h
  · exact fun h => h ▸ rfl

/-- The weight of a change that has neither a first subscriber nor a number of subscribers is lost. -/
lemma weightKept_iff (hbase : c.base = []) (hrange : c.range = []) :
    ({ c with weight := [] } : TcChange).modify tc g = c.modify tc g ↔ c.WeightKept g := by
  by_cases hmatching : c.matching g = []
  · have hlost : ({ c with weight := [] } : TcChange).matching g = [] := hmatching
    rw [modify_of_nil hlost, modify_of_nil hmatching]
    refine iff_of_true rfl (.inr fun e he => ?_)
    rw [hmatching] at he
    nomatch he
  · have hlost : ({ c with weight := [] } : TcChange).matching g ≠ [] := hmatching
    rw [modify_of_ne_nil hlost fun _ => ⟨hbase, hrange⟩,
      modify_of_ne_nil hmatching fun _ => ⟨hbase, hrange⟩, Except.ok.injEq, map_matching_iff,
      TcChange.WeightKept]
    simp only [apply_weight_iff, forall_or_left]
    exact Iff.rfl

/-- The first subscriber of a change that has no number of subscribers is lost. -/
lemma baseKept_iff (hrange : c.range = []) :
    ({ c with base := [] } : TcChange).modify tc g = c.modify tc g ↔ c.BaseKept g := by
  by_cases hbase : c.base = []
  · have hsame : ({ c with base := [] } : TcChange) = c := by rw [← hbase]
    rw [hsame]
    exact iff_of_true rfl (.inl hbase)
  · rw [TcChange.BaseKept, or_iff_right hbase]
    cases hmatching : c.matching g with
    | nil =>
      have hlost : ({ c with base := [] } : TcChange).matching g = [] := hmatching
      rw [modify_of_nil hlost, modify_of_nil hmatching]
      exact iff_of_true rfl (.inl rfl)
    | cons e es =>
      have hne : c.matching g ≠ [] := hmatching ▸ List.cons_ne_nil e es
      have hlost : ({ c with base := [] } : TcChange).matching g ≠ [] := hne
      rw [modify_of_ne_nil hlost fun _ => ⟨rfl, hrange⟩]
      cases es with
      | nil =>
        have hone : ¬ (c.matching g).length > 1 := by
          rw [hmatching]
          exact Nat.lt_irrefl 1
        rw [modify_of_ne_nil hne fun h => absurd h hone, Except.ok.injEq, map_matching_iff]
        have hsingle : ({ c with base := [] } : TcChange).matching g = [e] := hmatching
        rw [hsingle]
        simp [apply_base_iff hbase]
      | cons e' es =>
        have hmany : (c.matching g).length > 1 := by
          rw [hmatching]
          exact Nat.succ_lt_succ (Nat.succ_pos _)
        rw [TcChange.modify, if_pos ⟨hmany, hbase⟩]
        refine iff_of_false (fun h => nomatch h) ?_
        simp

/-- Defines with other values. -/
lemma map_defines_iff {f : Text → Text → Text} :
    ({ g with defineParam := g.defineParam.map f } : Globals) = g ↔
      ∀ e ∈ g.defineParam.entries, f e.1 e.2 = e.2 := by
  have hself : g.defineParam.map (fun _ v => v) = g.defineParam :=
    OrderedMap.eq_of_entries (List.map_id _)
  have htable : ({ g with defineParam := g.defineParam.map f } : Globals) = g ↔
      g.defineParam.map f = g.defineParam.map fun _ v => v :=
    ⟨fun h => (congrArg Globals.defineParam h).trans hself.symm, fun h => by rw [h, hself]⟩
  rw [htable, OrderedMap.map_eq_map_iff]

/-- Without values nothing changes. -/
lemma change_of_empty {c : RangeChange} (hbase : c.base = []) (hrange : c.range = []) :
    c.change tc g = .ok g := by
  rw [RangeChange.change, if_pos ⟨.inl hrange, .inl hbase⟩, Except.ok.injEq, map_defines_iff]
  intro e _
  rw [if_neg fun h => h.2.2 hrange, if_neg fun h => h.2.2 hbase]

/-- The first subscriber of a range without a number of subscribers is lost, so nothing changes. -/
lemma rangeKept_iff {c : RangeChange} (hrange : c.range = []) :
    ({ c with base := [] } : RangeChange).change tc g = c.change tc g ↔ c.BaseKept g := by
  have hlost : ({ c with base := [] } : RangeChange).change tc g = .ok g := change_of_empty rfl hrange
  rw [hlost, RangeChange.BaseKept]
  by_cases hbase : c.base = []
  · rw [change_of_empty hbase hrange]
    exact iff_of_true rfl (.inl hbase)
  · rw [or_iff_right (a := c.base = []) hbase, RangeChange.change]
    by_cases hfound : ∃ e ∈ g.defineParam.entries, c.OnBase e.1
    · rw [if_pos ⟨.inl hrange, .inr hfound⟩, Except.ok.injEq, eq_comm, map_defines_iff,
        and_iff_right hfound]
      refine forall₂_congr fun e _ => ?_
      rw [if_neg fun h => h.2.2 hrange]
      by_cases he : c.OnBase e.1
      · rw [if_pos he, eq_comm]
        exact ⟨fun h _ => h, fun h => h he⟩
      · rw [if_neg he]
        exact iff_of_true rfl fun h => absurd h he
    · rw [if_neg fun h => h.2.elim hbase hfound]
      exact iff_of_false (fun h => nomatch h) fun h => hfound h.1

end Lost

/-! ## The three functions -/

/-- A field behind the last one is empty. -/
lemma Entry.field_eq_nil {n i : ℕ} {e : Entry n} (h : e.fields.length ≤ i) : e.field i = [] :=
  (List.getD_eq_getElem?_getD ..).trans (by rw [List.getElem?_eq_none h]; rfl)

/-- `modTrafficCase`. -/
lemma modTrafficCase_iff (e : Entry 4) (g : Globals) :
    modTrafficCase e.text g = (TcChange.ofEntry e).modify e.text g ↔
      (e.fields.length = 2 → (TcChange.ofEntry e).WeightKept g) ∧
        (e.fields.length = 3 → (TcChange.ofEntry e).BaseKept g) := by
  rw [modTrafficCase_eq]
  by_cases htwo : e.fields.length = 2
  · have hthree : e.fields.length ≠ 3 := by rw [htwo]; decide
    have hparse : TcChange.parse e.text = { TcChange.ofEntry e with weight := [] } := by
      rw [TcChange.parse_text, if_pos htwo, if_neg hthree]
      rfl
    have hbase : (TcChange.ofEntry e).base = [] := Entry.field_eq_nil htwo.le
    have hrange : (TcChange.ofEntry e).range = [] := Entry.field_eq_nil (htwo.le.trans (Nat.le_succ 2))
    rw [hparse, weightKept_iff hbase hrange]
    exact ⟨fun h => ⟨fun _ => h, fun h => absurd h hthree⟩, fun h => h.1 htwo⟩
  · by_cases hthree : e.fields.length = 3
    · have hparse : TcChange.parse e.text = { TcChange.ofEntry e with base := [] } := by
        rw [TcChange.parse_text, if_pos hthree, if_neg htwo]
        rfl
      have hrange : (TcChange.ofEntry e).range = [] := Entry.field_eq_nil hthree.le
      rw [hparse, baseKept_iff hrange]
      exact ⟨fun h => ⟨fun h => absurd h htwo, fun _ => h⟩, fun h => h.2 hthree⟩
    · have hparse : TcChange.parse e.text = TcChange.ofEntry e := by
        rw [TcChange.parse_text, if_neg hthree, if_neg htwo]
        rfl
      rw [hparse]
      exact iff_of_true rfl ⟨fun h => absurd h htwo, fun h => absurd h hthree⟩

/-- `changeRange`. -/
lemma changeRange_iff (e : Entry 3) (g : Globals) :
    changeRange e.text g = (RangeChange.ofEntry e).change e.text g ↔
      (e.fields.length = 2 → (RangeChange.ofEntry e).BaseKept g) := by
  rw [changeRange_eq]
  by_cases hone : e.fields.length = 1
  · have htwo : e.fields.length ≠ 2 := by rw [hone]; decide
    have hbase : (RangeChange.ofEntry e).base = [] := Entry.field_eq_nil hone.le
    have hrange : (RangeChange.ofEntry e).range = [] := Entry.field_eq_nil (hone.le.trans (Nat.le_succ 1))
    have hparse : RangeChange.parse e.text = { RangeChange.ofEntry e with name := [] } := by
      rw [RangeChange.parse_text, if_pos hone, if_neg htwo]
      rfl
    have hchange : (RangeChange.ofEntry e).change e.text g = .ok g := change_of_empty hbase hrange
    -- there is no value, so that it does not matter that the type is lost
    have hlost : ({ RangeChange.ofEntry e with name := [] } : RangeChange).change e.text g = .ok g :=
      change_of_empty hbase hrange
    rw [hparse, hlost, hchange]
    exact iff_of_true rfl fun h => absurd h htwo
  · by_cases htwo : e.fields.length = 2
    · have hparse : RangeChange.parse e.text = { RangeChange.ofEntry e with base := [] } := by
        rw [RangeChange.parse_text, if_pos htwo, if_neg hone]
        rfl
      have hrange : (RangeChange.ofEntry e).range = [] := Entry.field_eq_nil htwo.le
      rw [hparse, rangeKept_iff hrange]
      exact ⟨fun h _ => h, fun h => h htwo⟩
    · have hparse : RangeChange.parse e.text = RangeChange.ofEntry e := by
        rw [RangeChange.parse_text, if_neg htwo, if_neg hone]
        rfl
      rw [hparse]
      exact iff_of_true rfl fun h => absurd h htwo

/-- `storeloadSched`. -/
lemma storeloadSched_iff (e : Entry 2) (g : Globals) :
    storeloadSched e.text g = g.schedule (e.field 0) (e.field 1) ↔
      (e.fields.length = 1 → e.field 0 = []) := by
  rw [storeloadSched_text]
  by_cases hone : e.fields.length = 1
  · rw [if_pos hone]
    constructor
    · intro h _
      have hsteps := congrArg Globals.scheduleLoad h
      simpa [Globals.schedule] using hsteps
    · exact fun h => by rw [h hone]
  · rw [if_neg hone]
    exact iff_of_true rfl fun h => absurd h hone

/-! ## The result -/

/-- Every field that is present is applied by the three functions exactly when the value has the fields
that the last one needs behind it, or the last one makes no difference. -/
theorem optionalFields_iff (tc : Entry 4) (range : Entry 3) (load : Entry 2) (g : Globals) :
    (modTrafficCase tc.text g = (TcChange.ofEntry tc).modify tc.text g ↔
      (tc.fields.length = 2 → (TcChange.ofEntry tc).WeightKept g) ∧
        (tc.fields.length = 3 → (TcChange.ofEntry tc).BaseKept g)) ∧
    (changeRange range.text g = (RangeChange.ofEntry range).change range.text g ↔
      (range.fields.length = 2 → (RangeChange.ofEntry range).BaseKept g)) ∧
    (storeloadSched load.text g = g.schedule (load.field 0) (load.field 1) ↔
      (load.fields.length = 1 → load.field 0 = [])) := by
  exact ⟨modTrafficCase_iff tc g, changeRange_iff range g, storeloadSched_iff load g⟩

/-- A traffic case `A`. -/
def oneCase : Globals where
  trafficType := .esm
  specificTrafficMix := false
  configFile := []
  tcDesc := OrderedMap.empty.insert ['A'] { ScriptData.fresh .esm with name := ['A'] }

/-- The value `A:2`. -/
def twoFields : Entry 4 where
  fields := [['A'], ['2']]
  ne_nil := List.cons_ne_nil _ _
  length_le := by decide
  noColon := by decide

/-- The weight that stands behind the name is not applied. -/
theorem twoFields_not_applied :
    modTrafficCase twoFields.text oneCase ≠ (TcChange.ofEntry twoFields).modify twoFields.text oneCase := by
  intro h
  have hweight := congrArg (fun r => r.toOption.map fun g =>
    (g.tcDesc.find? ['A']).map ScriptData.trafficWeight) h
  exact absurd hweight (by decide +kernel)

end ScenarioDeployGenerator
