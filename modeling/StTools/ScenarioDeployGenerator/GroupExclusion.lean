import StTools.Lib.EarlyExit
import StTools.ScenarioDeployGenerator.Generator
import StTools.ScenarioDeployGenerator.TemplateBlocks
import StTools.Lib.NamedInstances

/-!
# Groups that are added and groups that are taken out

`addTrafficGroup` includes the traffic cases of the groups that are added.  For an included traffic case
of a group that is taken out, `excludeTraffiCase` calls `remTrafficCase` with its name, which takes out
every traffic case whose name contains it.  `groupsExact_iff` says when these are no others.
-/

namespace ScenarioDeployGenerator

attribute [local instance] NamedInstances.lawfulBEq_list

/-! ## The requirement -/

/-- The loop of `excludeTraffiCase` over the groups. -/
def excludeGroups (g : Globals) : Except Failure Globals :=
  g.tcDesc.entries.foldlM (fun g e =>
    e.2.groupName.foldlM (fun g group => excludeFromGroup g e.1 group) g) g

/-- It comes first, and the traffic cases that the user names follow. -/
lemma excludeTraffiCase_eq (g : Globals) :
    excludeTraffiCase g =
      (excludeGroups g).bind fun g => g.tcToExclude.foldlM (fun g tc => remTrafficCase tc g) g := rfl

variable {g s : Globals} {sc : ScriptData} {names : List Text}

/-- The traffic case after the groups are added. -/
def ScriptData.add (groupToAdd : List Text) (sc : ScriptData) : ScriptData :=
  if ∃ group ∈ sc.groupName, group ∈ groupToAdd then { sc with toBeIncluded := true } else sc

/-- The traffic case is included, and belongs to a group that is taken out. -/
def ScriptData.Excluded (groupToExclude : List Text) (sc : ScriptData) : Prop :=
  sc.toBeIncluded = true ∧ ∃ group ∈ sc.groupName, group ∈ groupToExclude

instance (groupToExclude : List Text) : DecidablePred (ScriptData.Excluded groupToExclude) :=
  fun _ => inferInstanceAs (Decidable (_ ∧ _))

/-- What is required of a traffic case: those of the groups that are added are included, of the
included ones those of the groups that are taken out are taken out, and nothing else changes. -/
def ScriptData.grouped (g : Globals) (sc : ScriptData) : ScriptData :=
  let added := sc.add g.groupToAdd
  if added.Excluded g.groupToExclude then added.remove g.trafficType else added

/-- The passes over the groups do to every traffic case what is required. -/
def GroupsExact (g : Globals) : Prop :=
  ∃ g', excludeGroups (addTrafficGroup g) = .ok g' ∧
    ∀ k, g'.tcDesc.find? k = (g.tcDesc.find? k).map (ScriptData.grouped g)

/-- The condition: a traffic case whose name contains that of one to be taken out is to be taken out
too, or would not change. -/
def NoNamesakes (g : Globals) : Prop :=
  ∀ e ∈ (addTrafficGroup g).tcDesc.entries, e.2.Excluded g.groupToExclude →
    ∀ e' ∈ (addTrafficGroup g).tcDesc.entries, e.1 <:+: e'.1 →
      e'.2.Excluded g.groupToExclude ∨ e'.2.remove g.trafficType = e'.2

/-! ## Names -/

/-- Every traffic case is stored under its name. -/
def Globals.Named (g : Globals) : Prop := ∀ e ∈ g.tcDesc.entries, e.2.name = e.1

/-- The same traffic cases. -/
lemma Globals.Named.congr (h : g.Named) (hcases : s.tcDesc = g.tcDesc) : s.Named := by
  rw [Globals.Named, hcases]
  exact h

/-- A change that keeps the names. -/
lemma Globals.Named.map (h : g.Named) {f : Text → ScriptData → ScriptData}
    (hf : ∀ k sc, (f k sc).name = sc.name) :
    ({ g with tcDesc := g.tcDesc.map f } : Globals).Named := by
  intro e he
  obtain ⟨x, hx, rfl⟩ := List.mem_map.mp he
  exact (hf x.1 x.2).trans (h x hx)

lemma ScriptData.name_remove (t : TrafficType) : (sc.remove t).name = sc.name := by
  rw [ScriptData.remove]
  split_ifs <;> rfl

lemma ScriptData.remove_remove (t : TrafficType) : (sc.remove t).remove t = sc.remove t := by
  rw [ScriptData.remove, ScriptData.remove]
  split_ifs <;> rfl

/-- Taking out includes nothing. -/
lemma ScriptData.toBeIncluded_of_remove {t : TrafficType} (h : (sc.remove t).toBeIncluded = true) :
    sc.toBeIncluded = true := by
  rw [ScriptData.remove] at h
  split_ifs at h
  exact h

/-- The record is stored under its name. -/
lemma named_insertScript {r : Reading} (h : r.globals.Named) : r.insertScript.Named := by
  rw [Reading.insertScript]
  split_ifs
  · exact h
  · exact OrderedMap.All.insert (P := fun (k : Text) (sc : ScriptData) => sc.name = k) h rfl

/-- Under their names the template stores the traffic cases. -/
lemma named_readTemplateFile (file : List Text) (h : g.Named) : (readTemplateFile file g).Named := by
  have hline : ∀ (r : Reading) (raw : Text), r.globals.Named → (templateLine r raw).globals.Named := by
    intro r raw hr
    by_cases hkey : lineKey raw = some "tcName".toList
    · exact (named_insertScript hr).congr (keepsCases_tcName hkey).1
    · exact hr.congr (templateLine_of_ne_tcName hkey).2.1
  have hlines : ∀ (lines : List Text) (r : Reading), r.globals.Named →
      (lines.foldl templateLine r).globals.Named := by
    intro lines
    induction lines with
    | nil => exact fun _ hr => hr
    | cons raw lines ih => exact fun r hr => ih _ (hline r raw hr)
  exact named_insertScript (hlines _ _ h)

/-- A traffic case may be changed, but not its name. -/
lemma Globals.Named.modify (h : g.Named) (k : Text) {f : ScriptData → ScriptData}
    (hf : ∀ sc, (f sc).name = sc.name) :
    ({ g with tcDesc := g.tcDesc.modify k f } : Globals).Named := by
  refine h.map fun k' sc => ?_
  split_ifs
  · exact hf sc
  · rfl

/-- A line about groups keeps the names. -/
lemma named_groupLine (keyword line : Text) (change : List Text → Text → List Text) (h : g.Named) :
    (groupLine keyword line change g).2.Named := by
  rw [groupLine]
  cases filterLine line keyword true with
  | none => exact h
  | some element =>
    dsimp only
    cases TextSearch.splitOnce ":=".toList element with
    | none => exact h
    | some x => exact h.modify x.2 fun _ => rfl

/-- So does a line that names a traffic case. -/
lemma named_includeTc (element : Text) (h : g.Named) : (g.includeTc element).Named := by
  rw [Globals.includeTc]
  split_ifs
  · exact h
  · exact h.modify element fun _ => rfl

lemma named_tcNameLine (line : Text) (h : g.Named) :
    (match filterLine line ":=".toList false with
      | some element =>
        if element = "tcName".toList then
          match readKey line "tcName".toList with
          | some name => g.includeTc name
          | none => g
        else g
      | none => g).Named := by
  split
  · refine iteInduction (fun _ => ?_) fun _ => h
    split
    · exact named_includeTc _ h
    · exact h
  · exact h

/-- A line of the user's file changes traffic cases, but not their names. -/
lemma named_userLine (raw : Text) (h : g.Named) : (userLine g raw).Named := by
  have hadd := named_groupLine "addToGroup".toList (purgeLine raw)
    (fun groups value => groups ++ [value]) (named_tcNameLine (purgeLine raw) h)
  exact (named_groupLine "remFromGroup".toList _ (fun groups value => groups.erase value) hadd).congr rfl

/-- The user's file keeps the names. -/
lemma named_readTrafficDescUserFile (file : List Text) (h : g.Named) :
    (readTrafficDescUserFile file g).Named := by
  rw [readTrafficDescUserFile]
  induction getlines file generalizing g with
  | nil => exact h
  | cons raw lines ih => exact ih (named_userLine raw h)

/-- What only stores its value changes no traffic case. -/
lemma tcDesc_storeKey {element value : Text} (h : storeKey element value g = some s) :
    s.tcDesc = g.tcDesc := by
  have hstore : ∀ {τ : Type} (table : List (Text × τ)) (store : τ → Globals → Globals) (g : Globals),
      (∀ k g, (store k g).tcDesc = g.tcDesc) → (storeIn table element store g).tcDesc = g.tcDesc := by
    intro τ table store g hkeeps
    rw [storeIn]
    cases table.lookup element with
    | none => rfl
    | some k => exact hkeeps k g
  rw [storeKey] at h
  split_ifs at h
  cases h
  calc (storeIn defineKeys element (fun name g => g.updateDefineParam name value) _).tcDesc
    _ = (storeIn switchKeys element (fun k g => g.setSwitch k (isTrue value)) _).tcDesc :=
      hstore _ _ _ fun _ _ => rfl
    _ = (storeIn numberKeys element (fun k g => g.setNumber k (atoi value)) _).tcDesc :=
      hstore _ _ _ fun _ _ => rfl
    _ = (storeIn hostKeys element
        (fun k g => (g.setSetting k.1 value).setSwitch k.2 true) _).tcDesc := hstore _ _ _ fun _ _ => rfl
    _ = (storeIn settingKeys element (fun k g => g.setSetting k value) g).tcDesc :=
      hstore _ _ _ fun _ _ => rfl
    _ = g.tcDesc := hstore _ _ _ fun _ _ => rfl

/-- `modTc` changes traffic cases, but not their names. -/
lemma named_modTrafficCase (tc : Text) (h : g.Named) :
    EarlyExit.Ends Globals.Named (fun _ => True) (modTrafficCase tc g) := by
  rw [modTrafficCase]
  refine iteInduction (fun _ => trivial) fun _ => iteInduction (fun _ => trivial) fun _ =>
    iteInduction (fun _ => trivial) fun _ => h.map fun k sc => ?_
  split_ifs <;> rfl

/-- The configuration changes traffic cases, but not their names. -/
lemma named_configKey {line element value : Text} (h : g.Named) :
    EarlyExit.Ends Globals.Named (fun _ => True) (configKey line element value g) := by
  have hsame : ∀ {g' : Globals}, g'.tcDesc = g.tcDesc →
      EarlyExit.Ends Globals.Named (fun _ => True) (.ok g' : Except Failure Globals) :=
    fun hcases => h.congr hcases
  rw [configKey]
  refine iteInduction (fun _ => hsame rfl) fun _ => ?_
  refine iteInduction (fun _ => hsame rfl) fun _ => ?_
  refine iteInduction (fun _ => hsame rfl) fun _ => ?_
  refine iteInduction (fun _ => hsame rfl) fun _ => ?_
  refine iteInduction (fun _ => hsame rfl) fun _ => ?_
  refine iteInduction (fun _ => hsame rfl) fun _ => ?_
  refine iteInduction (fun _ => hsame rfl) fun _ => ?_
  refine iteInduction (fun _ => hsame rfl) fun _ => ?_
  refine iteInduction (fun _ => hsame rfl) fun _ => ?_
  refine iteInduction (fun _ => named_modTrafficCase value h) fun _ => ?_
  refine iteInduction (fun _ => hsame rfl) fun _ => ?_
  refine iteInduction (fun _ => iteInduction (fun _ => trivial) fun _ => hsame rfl) fun _ => ?_
  refine iteInduction (fun _ => iteInduction (fun _ => hsame rfl) fun _ => trivial) fun _ => ?_
  refine iteInduction (fun _ => ?_) fun _ => ?_
  · exact iteInduction (motive := fun g' : Globals =>
      EarlyExit.Ends Globals.Named (fun _ => True) (.ok g' : Except Failure Globals))
      (fun _ => hsame rfl) fun _ => hsame rfl
  cases hstore : storeKey element value g with
  | none => trivial
  | some g' =>
    refine hsame ?_
    exact tcDesc_storeKey hstore

/-- When the files are read, every traffic case is stored under its name. -/
lemma named_readFiles (o : Options) :
    EarlyExit.Ends Globals.Named (fun _ => True) (readFiles o) := by
  have hconfig : ∀ (g : Globals), g.Named →
      EarlyExit.Ends Globals.Named (fun _ => True) (readConfigurationFile o.config g) := by
    intro g hg
    refine EarlyExit.Ends.foldlM (fun _ => Globals.Named) (fun _ raw s _ hs => ?_) hg
    rw [configLine]
    split
    · exact hs
    · split
      · exact named_configKey hs
      · exact hs
  rw [readFiles]
  refine hconfig _ ?_
  have hstart : ({
      trafficType := o.trafficType
      specificTrafficMix := o.specificTrafficMix
      configFile := o.configFile } : Globals).Named := fun _ he => nomatch he
  cases o.trafficDesc with
  | none => exact named_readTemplateFile _ hstart
  | some file => exact named_readTrafficDescUserFile _ (named_readTemplateFile _ hstart)

/-! ## Traffic cases that are taken out -/

/-- The globals when the traffic cases are taken out whose names contain one of these texts. -/
def Globals.takeOut (g : Globals) (names : List Text) : Globals :=
  { g with
    tcDesc := g.tcDesc.map fun k sc => if ∃ n ∈ names, n <:+: k then sc.remove g.trafficType else sc }

/-- Taking nothing out. -/
lemma takeOut_nil : g.takeOut [] = g := by
  have htable : (g.tcDesc.map fun k sc =>
      if ∃ n ∈ ([] : List Text), n <:+: k then sc.remove g.trafficType else sc) = g.tcDesc := by
    refine OrderedMap.eq_of_entries ?_
    simp
  rw [Globals.takeOut, htable]

/-- What is found when traffic cases are taken out. -/
lemma find?_takeOut (names : List Text) (k : Text) :
    (g.takeOut names).tcDesc.find? k = (g.tcDesc.find? k).map fun sc =>
      if ∃ n ∈ names, n <:+: k then sc.remove g.trafficType else sc := OrderedMap.find?_map

/-- The texts with one more. -/
lemma exists_infix_append {t k : Text} :
    (∃ n ∈ names ++ [t], n <:+: k) ↔ (∃ n ∈ names, n <:+: k) ∨ t <:+: k := by
  simp only [List.mem_append, List.mem_singleton, or_and_right, exists_or, exists_eq_left]

/-- Taking out one more. -/
lemma remTrafficCase_takeOut {e : Text × ScriptData} (he : e ∈ g.tcDesc.entries) (names : List Text) :
    remTrafficCase e.1 (g.takeOut names) = .ok (g.takeOut (names ++ [e.1])) := by
  have hfound : ∃ x ∈ (g.takeOut names).tcDesc.entries, e.1 <:+: x.1 :=
    ⟨_, List.mem_map_of_mem he, List.infix_rfl⟩
  rw [remTrafficCase, if_pos hfound]
  refine congrArg Except.ok ?_
  simp only [Globals.takeOut, OrderedMap.map, List.map_map, exists_infix_append]
  congr 2
  refine List.map_congr_left fun x _ => Prod.ext rfl ?_
  simp only [Function.comp_apply]
  by_cases hold : ∃ n ∈ names, n <:+: x.1
  · simp only [hold, true_or, if_true, ScriptData.remove_remove, ite_self]
  · simp only [hold, false_or, if_false]

/-! ## The loop -/

/-- What the loop has done about the groups of a traffic case, of which some are to be taken out if `b`
holds: its name may have been added to those that are taken out, and if it has to be one of them is part of
it. -/
def TakenOut (g : Globals) (e : Text × ScriptData) (before : List Text) (b : Prop) (s : Globals) :
    Prop :=
  ∃ names, s = g.takeOut names ∧ before ⊆ names ∧
    (∀ n ∈ names, n ∈ before ∨ n = e.1 ∧ e.2.toBeIncluded = true ∧ b) ∧
      (e.2.toBeIncluded = true → b → ∃ n ∈ names, n <:+: e.1)

/-- The loop goes on, with this. -/
def GoesOn (Q : Globals → Prop) (r : Except Failure Globals) : Prop :=
  EarlyExit.Ends Q (fun _ => False) r

/-- Nothing has been done yet. -/
lemma takenOut_false {e : Text × ScriptData} {b : Prop} (hb : ¬ b) :
    TakenOut g e names b (g.takeOut names) :=
  ⟨names, rfl, List.Subset.refl _, fun _ hn => .inl hn, fun _ h => absurd h hb⟩

/-- One more step, which may have found a reason to take the traffic case out. -/
lemma TakenOut.andThen {e : Text × ScriptData} {before : List Text} {b b' c : Prop}
    {f : Globals → Except Failure Globals} (h : TakenOut g e before b s) (hc : c ↔ b ∨ b')
    (hstep : ∀ names, GoesOn (TakenOut g e names b') (f (g.takeOut names))) :
    GoesOn (TakenOut g e before c) (f s) := by
  obtain ⟨names, rfl, hsub, hfrom, hall⟩ := h
  refine (hstep names).imp (fun s' hs' => ?_) fun _ h => h
  obtain ⟨names', hs', hsub', hfrom', hall'⟩ := hs'
  refine ⟨names', hs', List.Subset.trans hsub hsub', fun n hn => ?_, fun hincluded hc' => ?_⟩
  · rcases hfrom' n hn with hn | ⟨rfl, hincluded, hb'⟩
    · rcases hfrom n hn with hn | ⟨rfl, hincluded, hb⟩
      · exact .inl hn
      · exact .inr ⟨rfl, hincluded, hc.mpr (.inl hb)⟩
    · exact .inr ⟨rfl, hincluded, hc.mpr (.inr hb')⟩
  · rcases hc.mp hc' with hb | hb'
    · obtain ⟨n, hn, hinfix⟩ := hall hincluded hb
      exact ⟨n, hsub' hn, hinfix⟩
    · exact hall' hincluded hb'

/-- **Step.**  One group of a traffic case is compared with one of those that are taken out. -/
lemma takenOut_compare (hg : g.Named) {e : Text × ScriptData} (he : e ∈ g.tcDesc.entries)
    (group excluded : Text) (names : List Text) :
    GoesOn (TakenOut g e names (group = excluded))
      (match (g.takeOut names).tcDesc.find? e.1 with
        | some sc =>
          if group = excluded ∧ sc.toBeIncluded then remTrafficCase sc.name (g.takeOut names)
          else .ok (g.takeOut names)
        | none => .ok (g.takeOut names)) := by
  rw [find?_takeOut, OrderedMap.find?_eq_some_iff.mpr he, Option.map_some]
  dsimp only
  by_cases hgroup : group = excluded
  · have hadd : e.2.toBeIncluded = true →
        TakenOut g e names (group = excluded) (g.takeOut (names ++ [e.1])) := by
      refine fun hincluded => ⟨_, rfl, List.subset_append_left _ _, fun n hn => ?_, fun _ _ => ?_⟩
      · rcases List.mem_append.mp hn with hn | hn
        · exact .inl hn
        · exact .inr ⟨List.mem_singleton.mp hn, hincluded, hgroup⟩
      · exact ⟨e.1, List.mem_append_right _ (List.mem_singleton_self _), List.infix_rfl⟩
    by_cases hold : ∃ n ∈ names, n <:+: e.1
    · rw [if_pos hold]
      split_ifs with hin
      · rw [ScriptData.name_remove, hg e he, remTrafficCase_takeOut he]
        exact hadd (ScriptData.toBeIncluded_of_remove hin.2)
      · exact ⟨names, rfl, List.Subset.refl _, fun _ hn => .inl hn, fun _ _ => hold⟩
    · rw [if_neg hold]
      split_ifs with hin
      · rw [hg e he, remTrafficCase_takeOut he]
        exact hadd hin.2
      · refine ⟨names, rfl, List.Subset.refl _, fun _ hn => .inl hn, fun hincluded _ => ?_⟩
        exact absurd ⟨hgroup, hincluded⟩ hin
  · rw [if_neg fun h => hgroup h.1]
    exact takenOut_false hgroup

/-- **Loop.**  One group of a traffic case is compared with all that are taken out. -/
lemma takenOut_excludeFromGroup (hg : g.Named) {e : Text × ScriptData} (he : e ∈ g.tcDesc.entries)
    (group : Text) (names : List Text) :
    GoesOn (TakenOut g e names (group ∈ g.groupToExclude))
      (excludeFromGroup (g.takeOut names) e.1 group) := by
  refine EarlyExit.Ends.foldlM (fun done => TakenOut g e names (group ∈ done)) ?_
    (takenOut_false List.not_mem_nil)
  intro done excluded s _ hs
  have hstep := takenOut_compare hg he group excluded
  refine TakenOut.andThen (f := fun s => match s.tcDesc.find? e.1 with
    | some sc => if group = excluded ∧ sc.toBeIncluded then remTrafficCase sc.name s else .ok s
    | none => .ok s) hs ?_ hstep
  rw [List.mem_append, List.mem_singleton]

/-- **Loop.**  All groups of a traffic case. -/
lemma takenOut_groups (hg : g.Named) {e : Text × ScriptData} (he : e ∈ g.tcDesc.entries)
    (names : List Text) :
    GoesOn (TakenOut g e names (∃ group ∈ e.2.groupName, group ∈ g.groupToExclude))
      (e.2.groupName.foldlM (fun s group => excludeFromGroup s e.1 group) (g.takeOut names)) := by
  refine EarlyExit.Ends.foldlM
    (fun done => TakenOut g e names (∃ group ∈ done, group ∈ g.groupToExclude)) ?_
    (takenOut_false fun h => nomatch h)
  intro done group s _ hs
  refine TakenOut.andThen (f := fun s => excludeFromGroup s e.1 group) hs ?_
    (takenOut_excludeFromGroup hg he group)
  simp only [List.mem_append, List.mem_singleton, or_and_right, exists_or, exists_eq_left]

/-- **Loop.**  All traffic cases: those whose names contain the name of one that has to be taken out are
taken out. -/
lemma excludeGroups_eq (hg : g.Named) :
    ∃ names, excludeGroups g = .ok (g.takeOut names) ∧ ∀ k,
      (∃ n ∈ names, n <:+: k) ↔
        ∃ e ∈ g.tcDesc.entries, e.2.Excluded g.groupToExclude ∧ e.1 <:+: k := by
  have hloop : GoesOn (fun s => ∃ names, s = g.takeOut names ∧
      (∀ n ∈ names, ∃ e ∈ g.tcDesc.entries, e.2.Excluded g.groupToExclude ∧ e.1 = n) ∧
      ∀ e ∈ g.tcDesc.entries, e.2.Excluded g.groupToExclude → ∃ n ∈ names, n <:+: e.1)
      (excludeGroups g) := by
    refine EarlyExit.Ends.foldlM (fun (done : List (Text × ScriptData)) s => ∃ names,
      s = g.takeOut names ∧ (∀ n ∈ names, ∃ e ∈ g.tcDesc.entries, e.2.Excluded g.groupToExclude ∧ e.1 = n) ∧
      ∀ e ∈ done, e.2.Excluded g.groupToExclude → ∃ n ∈ names, n <:+: e.1) ?_ ?_
    · rintro done e s hdone ⟨names, rfl, hfrom, hall⟩
      have he : e ∈ g.tcDesc.entries :=
        hdone.subset (List.mem_append_right _ (List.mem_singleton_self _))
      refine (takenOut_groups hg he names).imp (fun s' hs' => ?_) fun _ h => h
      obtain ⟨names', hs', hsub, hfrom', hall'⟩ := hs'
      refine ⟨names', hs', fun n hn => ?_, fun e' he' hexcluded => ?_⟩
      · rcases hfrom' n hn with hn | ⟨rfl, hincluded, hgroup⟩
        · exact hfrom n hn
        · exact ⟨e, he, ⟨hincluded, hgroup⟩, rfl⟩
      · rcases List.mem_append.mp he' with he' | he'
        · obtain ⟨n, hn, hinfix⟩ := hall e' he' hexcluded
          exact ⟨n, hsub hn, hinfix⟩
        · cases List.mem_singleton.mp he'
          exact hall' hexcluded.1 hexcluded.2
    · exact ⟨[], takeOut_nil.symm, fun _ h => absurd h List.not_mem_nil, fun _ h => absurd h List.not_mem_nil⟩
  cases hres : excludeGroups g with
  | error f =>
    rw [hres] at hloop
    exact hloop.elim
  | ok s =>
    rw [hres] at hloop
    obtain ⟨names, rfl, hfrom, hall⟩ := hloop
    refine ⟨names, rfl, fun k => ⟨?_, ?_⟩⟩
    · rintro ⟨n, hn, hinfix⟩
      obtain ⟨e, he, hexcluded, rfl⟩ := hfrom n hn
      exact ⟨e, he, hexcluded, hinfix⟩
    · rintro ⟨e, he, hexcluded, hinfix⟩
      obtain ⟨n, hn, hn'⟩ := hall e he hexcluded
      exact ⟨n, hn, hn'.trans hinfix⟩

/-! ## The result -/

/-- What is found when groups are added. -/
lemma find?_addTrafficGroup (k : Text) :
    (addTrafficGroup g).tcDesc.find? k = (g.tcDesc.find? k).map (ScriptData.add g.groupToAdd) :=
  OrderedMap.find?_map

lemma Globals.Named.addTrafficGroup (hg : g.Named) : (addTrafficGroup g).Named := by
  refine hg.map fun k sc => ?_
  split_ifs <;> rfl

/-- A traffic case is left as it is required exactly when it is taken out only if it has to be, or would
not change. -/
lemma takenOut_eq_grouped_iff {p : Prop} [Decidable p] (h : (sc.add g.groupToAdd).Excluded g.groupToExclude → p) :
    (if p then (sc.add g.groupToAdd).remove g.trafficType else sc.add g.groupToAdd) = sc.grouped g ↔
      (p → (sc.add g.groupToAdd).Excluded g.groupToExclude ∨
        (sc.add g.groupToAdd).remove g.trafficType = sc.add g.groupToAdd) := by
  simp only [ScriptData.grouped]
  by_cases hexcluded : (sc.add g.groupToAdd).Excluded g.groupToExclude
  · rw [if_pos hexcluded, if_pos (h hexcluded)]
    exact iff_of_true rfl fun _ => .inl hexcluded
  · rw [if_neg hexcluded]
    by_cases hp : p
    · rw [if_pos hp]
      constructor
      · exact fun heq _ => .inr heq
      · exact fun hor => (hor hp).resolve_left hexcluded
    · rw [if_neg hp]
      exact iff_of_true rfl fun hp' => absurd hp' hp

/-- The passes over the groups include the traffic cases of the groups that are added, and take out of
the included ones those of the groups that are taken out, and nothing else changes, exactly when no
other traffic case that would change has a name with that of one of the latter in it. -/
theorem groupsExact_iff (g : Globals) (hg : g.Named) : GroupsExact g ↔ NoNamesakes g := by
  obtain ⟨names, hok, hnames⟩ := excludeGroups_eq hg.addTrafficGroup
  have hfind : ∀ k, ((addTrafficGroup g).takeOut names).tcDesc.find? k =
      (g.tcDesc.find? k).map fun sc => if ∃ n ∈ names, n <:+: k then
        (sc.add g.groupToAdd).remove g.trafficType else sc.add g.groupToAdd := by
    intro k
    rw [find?_takeOut, find?_addTrafficGroup, Option.map_map]
    rfl
  have hentry : ∀ {k sc}, g.tcDesc.find? k = some sc →
      (k, sc.add g.groupToAdd) ∈ (addTrafficGroup g).tcDesc.entries := by
    intro k sc hsc
    rw [← OrderedMap.find?_eq_some_iff, find?_addTrafficGroup, hsc, Option.map_some]
  have hself : ∀ {k sc}, g.tcDesc.find? k = some sc →
      (sc.add g.groupToAdd).Excluded g.groupToExclude → ∃ n ∈ names, n <:+: k :=
    fun hsc hexcluded => (hnames _).mpr ⟨_, hentry hsc, hexcluded, List.infix_rfl⟩
  constructor
  · rintro ⟨g', hg', hexact⟩ e he hexcluded e' he' hinfix
    cases hok.symm.trans hg'
    obtain ⟨x, hx, rfl⟩ := List.mem_map.mp he'
    have hsc : g.tcDesc.find? x.1 = some x.2 := OrderedMap.find?_eq_some_iff.mpr hx
    have htaken := hexact x.1
    rw [hfind, hsc, Option.map_some, Option.map_some, Option.some.injEq,
      takenOut_eq_grouped_iff (hself hsc)] at htaken
    exact htaken ((hnames x.1).mpr ⟨e, he, hexcluded, hinfix⟩)
  · intro h
    refine ⟨_, hok, fun k => ?_⟩
    rw [hfind]
    cases hsc : g.tcDesc.find? k with
    | none => rfl
    | some sc =>
      rw [Option.map_some, Option.map_some, Option.some.injEq, takenOut_eq_grouped_iff (hself hsc)]
      intro hin
      obtain ⟨e, he, hexcluded, hinfix⟩ := (hnames k).mp hin
      exact h e he hexcluded _ (hentry hsc) hinfix

/-! ## Two names -/

/-- An included traffic case. -/
def includedCase (name : Text) (groupName : List Text) : ScriptData :=
  { ScriptData.fresh .esm with name := name, toBeIncluded := true, groupName := groupName }

/-- A traffic case `A` of the group `C`, which is taken out, and another one `AB` that belongs to no
group. -/
def namesakes : Globals where
  trafficType := .esm
  specificTrafficMix := false
  configFile := []
  tcDesc := (OrderedMap.empty.insert ['A'] (includedCase ['A'] [['C']])).insert ['A', 'B']
    (includedCase ['A', 'B'] [])
  groupToExclude := [['C']]

lemma namesakes_named : namesakes.Named := by
  have hall : ∀ e ∈ namesakes.tcDesc.entries, e.2.name = e.1 := by decide +kernel
  exact hall

/-- What is required of this state, and when it is met. -/
theorem groupsExact_iff_namesakes : GroupsExact namesakes ↔ NoNamesakes namesakes :=
  groupsExact_iff namesakes namesakes_named

/-- Both are taken out. -/
lemma namesakes_included :
    (excludeGroups (addTrafficGroup namesakes)).toOption.map (fun g =>
      (g.tcDesc.find? ['A', 'B']).map ScriptData.toBeIncluded) = some (some false) := by
  decide +kernel

/-- A traffic case that belongs to no group is taken out, since its name has that of another one in it. -/
theorem namesakes_not_exact : ¬ ∀ g : Globals, g.Named → GroupsExact g := by
  intro h
  obtain ⟨g', hok, hexact⟩ := h namesakes namesakes_named
  have hincluded := namesakes_included
  rw [hok] at hincluded
  have hfind : (g'.tcDesc.find? ['A', 'B']).map ScriptData.toBeIncluded = some false :=
    Option.some.inj hincluded
  rw [hexact] at hfind
  exact absurd hfind (by decide +kernel)

end ScenarioDeployGenerator
