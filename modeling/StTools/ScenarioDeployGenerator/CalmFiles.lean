import StTools.ScenarioDeployGenerator.PhasePlan
import StTools.ScenarioDeployGenerator.TidyData

/-!
# The files are calm

With tidy data the deployment file is calm, and so are the parts of the scenario file before and
behind the entries of the Diameter proxies.
-/

namespace ScenarioDeployGenerator

open TextSearch

/-! ## The defines and the ranges -/

section Prepare

variable {g g' : Globals}

/-- The names and values of defines have no blanks. -/
def NoBlankEntries (l : List (Text × Text)) : Prop := ∀ e ∈ l, NoBlank e.1 ∧ NoBlank e.2

lemma NoBlankEntries.append {l l' : List (Text × Text)} (h : NoBlankEntries l)
    (h' : NoBlankEntries l') : NoBlankEntries (l ++ l') := fun e he =>
  (List.mem_append.mp he).elim (h e) (h' e)

lemma NoBlankEntries.nil : NoBlankEntries [] := fun _ h => nomatch h

lemma NoBlankEntries.cons {name value : Text} {l : List (Text × Text)} (hname : NoBlank name)
    (hvalue : NoBlank value) (h : NoBlankEntries l) : NoBlankEntries ((name, value) :: l) :=
  List.forall_mem_cons.mpr ⟨⟨hname, hvalue⟩, h⟩

lemma NoBlankEntries.ite {c : Prop} [Decidable c] {l l' : List (Text × Text)}
    (h : NoBlankEntries l) (h' : NoBlankEntries l') : NoBlankEntries (if c then l else l') :=
  iteInduction (fun _ => h) fun _ => h'

lemma NoBlank.ite {c : Prop} [Decidable c] {a b : Text} (ha : NoBlank a) (hb : NoBlank b) :
    NoBlank (if c then a else b) :=
  iteInduction (fun _ => ha) fun _ => hb

/-- The defines that follow from the configuration have no blanks. -/
lemma noBlank_configDefines (h : g.Tidy) : NoBlankEntries (configDefines g) := by
  have hs := h.settings
  unfold configDefines
  repeat' with_reducible first
    | apply NoBlankEntries.append
    | apply NoBlankEntries.cons
    | apply NoBlankEntries.nil
    | apply NoBlankEntries.ite
    | apply NoBlank.ite
    | apply hs
    | apply noBlank_booleanToString
    | apply noBlank_intToString
    | apply noBlank_addQuottes
  -- what is left are fixed texts
  all_goals exact .literal (by decide)

/-- The parts of a define of the user. -/
lemma UserEntry.noBlank_parse {userEntry : Text} (h : NoBlank userEntry) :
    NoBlank (UserEntry.parse userEntry).name ∧ NoBlank (UserEntry.parse userEntry).written := by
  have hnil : NoBlank [] := List.not_mem_nil
  have hwritten : ∀ (quoted : Bool) (name value : Text), NoBlank value →
      NoBlank (UserEntry.written ⟨quoted, name, value⟩) := by
    intro quoted name value hvalue
    exact iteInduction (fun _ => noBlank_addQuottes hvalue) fun _ => hvalue
  rw [UserEntry.parse]
  cases h1 : splitOnce [':'] userEntry with
  | none => exact ⟨hnil, hwritten _ _ _ hnil⟩
  | some x =>
    have hx : NoBlank x.2 := h.subset (splitOnce_subset h1).2
    dsimp only
    cases h2 : splitOnce [':'] x.2 with
    | none => exact ⟨hnil, hwritten _ _ _ hnil⟩
    | some y =>
      obtain ⟨hfst, hsnd⟩ := splitOnce_subset h2
      exact ⟨hx.subset hfst, hwritten _ _ _ (hx.subset hsnd)⟩

lemma Globals.Tidy.userModifyDefineParam {userEntry : Text} (h : g.Tidy)
    (hentry : NoBlank userEntry) : (userModifyDefineParam userEntry g).Tidy := by
  obtain ⟨hname, hwritten⟩ := UserEntry.noBlank_parse hentry
  refine { h with defines := ?_ }
  change NoBlankTable ((UserEntry.parse userEntry).store g.defineParam)
  rw [UserEntry.store]
  split
  · next k hk =>
    obtain ⟨v, hv⟩ := OrderedMap.mem_of_firstKey hk
    exact h.defines.assign ⟨(h.defines _ hv).1, hwritten⟩
  · exact h.defines.insert ⟨hname, hwritten⟩

lemma Globals.Tidy.prepareDefines (h : g.Tidy) : (prepareDefines g).Tidy := by
  have hupdate : ∀ (l : List (Text × Text)) (g : Globals), (∀ e ∈ l, NoBlank e.1 ∧ NoBlank e.2) →
      g.Tidy → (l.foldl (fun g e => g.updateDefineParam e.1 e.2) g).Tidy := by
    intro l
    induction l with
    | nil => exact fun g _ hg => hg
    | cons e l ih =>
      intro g hl hg
      obtain ⟨hname, hvalue⟩ := hl e List.mem_cons_self
      exact ih _ (fun x hx => hl x (List.mem_cons_of_mem e hx)) (hg.updateDefineParam hname hvalue)
  have huser : ∀ (l : List Text) (g : Globals), (∀ e ∈ l, NoBlank e) → g.Tidy →
      (l.foldl (fun g e => ScenarioDeployGenerator.userModifyDefineParam e g) g).Tidy := by
    intro l
    induction l with
    | nil => exact fun g _ hg => hg
    | cons e l ih =>
      intro g hl hg
      exact ih _ (fun x hx => hl x (List.mem_cons_of_mem e hx))
        (hg.userModifyDefineParam (hl e List.mem_cons_self))
  have hproxies : (if g.trafficType = .wsm then g
      else { g with
        defineParam := g.defineParam.insert "NUMBERLDAPPROXIES".toList
          (intToString (numberOfLdapProxies g)) } : Globals).Tidy :=
    iteInduction (motive := Globals.Tidy) (fun _ => h) fun _ =>
      { h with defines := h.defines.insert ⟨by decide, noBlank_intToString _⟩ }
  refine huser _ _ ?_ (hupdate _ _ (noBlank_configDefines hproxies) hproxies)
  exact hproxies.definedParam

/-- The type of a traffic case has no blanks. -/
lemma noBlank_subscriberTypeOf {table : OrderedMap Text Text} {name : Text}
    (htable : NoBlankTable table) (hname : NoBlank name) :
    NoBlank (subscriberTypeOf table name) := by
  rw [subscriberTypeOf]
  split
  · next element _ =>
    cases hfind : table.find? element with
    | none => exact hname
    | some value => exact (htable _ (OrderedMap.find?_eq_some_iff.mp hfind)).2
  · exact hname

lemma calm_rangeText {T : Text} (hT : NoBlank T) : Calm (rangeText T) :=
  (Calm.append (.literal (by decide)) (Calm.append (.literal (by decide)) (.of_noBlank hT))).append (.literal (by decide))

lemma calm_baseText {T : Text} (n : ℤ) (hT : NoBlank T) : Calm (baseText n T) := by
  refine Calm.append (Calm.append (Calm.append (Calm.append (Calm.append ?_ ?_) ?_) ?_) ?_) ?_
  · exact .of_noBlank (noBlank_intToString n)
  · exact .literal (by decide)
  · exact Calm.append (.literal (by decide)) (.of_noBlank hT)
  · exact .literal (by decide)
  · exact Calm.append (.literal (by decide)) (.of_noBlank hT)
  · exact .literal (by decide)

/-- The range of a traffic case. -/
lemma Globals.Tidy.rangeStep {tc : Text × ScriptData} (h : g.Tidy)
    (htc : NoBlank tc.2.subcriberTypeName) : TidyAfter (rangeStep g tc) := by
  refine iteInduction (fun _ => h) fun _ => ?_
  split
  · trivial
  · have htype := noBlank_subscriberTypeOf h.defines htc
    dsimp only
    split
    · trivial
    · next counter _ =>
      refine { h with tcs := h.tcs.modify fun s hs => ⟨hs.1, ?_⟩ }
      refine { hs.2 with base := ?_, range := ?_ }
      · exact iteInduction (fun _ => calm_baseText counter htype) fun _ => hs.2.base
      · exact iteInduction (fun _ => calm_rangeText htype) fun _ => hs.2.range

/-- The ranges of the traffic cases. -/
lemma Globals.Tidy.prepareRangeInfo (h : g.Tidy) : TidyAfter (prepareRangeInfo g) := by
  refine EarlyExit.Ends.foldlM (fun _ => Globals.Tidy) (fun done tc s hdone hs => ?_) { h with }
  have htc : tc ∈ g.tcDesc.entries :=
    hdone.subset (List.mem_append_right _ List.mem_cons_self)
  exact hs.rangeStep (h.tcs tc htc).2.type

end Prepare

/-! ## The deployment file -/

section Deployment

variable {g : Globals} {t a b : Text}

lemma Calm.ite {c : Prop} [Decidable c] (ha : Calm a) (hb : Calm b) :
    Calm (if c then a else b) :=
  iteInduction (fun _ => ha) fun _ => hb

lemma Calm.paragraph (h : Calm t) : Calm (paragraph t) := h.append (.literal (by decide))

lemma Calm.intToString (n : ℤ) : Calm (intToString n) := .of_noBlank (noBlank_intToString n)

lemma Globals.Tidy.calm_setting (h : g.Tidy) (k : Setting) : Calm (g.setting k) :=
  .of_noBlank (h.settings k)

lemma calm_scenarioName : Calm g.scenarioName := by
  rw [Globals.scenarioName]
  cases g.trafficType <;> exact .literal (by decide)

lemma calm_regulatorName : Calm g.regulatorName := by
  rw [Globals.regulatorName]
  cases g.trafficType <;> exact .literal (by decide)

lemma calm_commaSeparated_of_noBlank {l : List Text} (h : ∀ x ∈ l, NoBlank x) :
    Calm (commaSeparated l) := .commaSeparated fun x hx => .of_noBlank (h x hx)

lemma Globals.Tidy.calm_moduleParameters (h : g.Tidy) : Calm (moduleParameters g) := by
  have hhosts := calm_commaSeparated_of_noBlank h.lgen
  have hfilter := calm_commaSeparated_of_noBlank h.loadFilter
  have hschedule := calm_commaSeparated_of_noBlank h.scheduleLoad
  have hsc : Calm g.scenarioName := calm_scenarioName
  unfold moduleParameters
  repeat' with_reducible first
    | apply hhosts
    | apply hfilter
    | apply hschedule
    | apply hsc
    | apply h.calm_setting
    | apply Calm.intToString
    | apply Calm.append
    | apply Calm.paragraph
    | apply Calm.ite
    | apply Calm.nil
  -- what is left are fixed texts
  all_goals exact .literal (by decide)

/-- The lines of the proxies among the parameters of the test ports. -/
lemma Globals.Tidy.calm_poolLines (h : g.Tidy) : Calm (poolLines g) := by
  refine Calm.flatMap fun x hx => ?_
  have hname : Calm x.1.name := .of_noBlank (h.proxies x.1 (List.fst_mem_of_mem_zipIdx hx))
  have hport : Calm (addQuottes (ScenarioDeployGenerator.intToString x.1.port)) :=
    .of_noBlank (noBlank_addQuottes (noBlank_intToString _))
  have hpool : Calm ("DIAMETER_POOL_".toList ++ ScenarioDeployGenerator.intToString x.2 ++
      (if g.trafficType = .ismsda then [] else "_ESM".toList)) :=
    (Calm.append (.literal (by decide)) (.intToString _)).append (.ite .nil (.literal (by decide)))
  refine Calm.append (Calm.append (Calm.append (hpool.append ?_) hname) ?_) ?_
  · exact .literal (by decide)
  · exact .literal (by decide)
  · exact Calm.paragraph ((hpool.append (.literal (by decide))).append hport)

lemma Globals.Tidy.calm_testportParameters (h : g.Tidy) : Calm (testportParameters g) := by
  refine Calm.append (Calm.append (.paragraph (.literal (by decide)))
    (.ite h.calm_poolLines .nil)) ?_
  refine Calm.flatMap fun filter hfilter => ?_
  have hcalm : Calm filter := .of_noBlank (h.loadFilter filter hfilter)
  exact (Calm.append (.literal (by decide)) hcalm).append (.literal (by decide))

lemma Globals.Tidy.calm_logging (h : g.Tidy) : Calm (logging g) := by
  unfold logging
  repeat' with_reducible first
    | apply h.calm_setting
    | apply Calm.append
    | apply Calm.paragraph
  all_goals exact .literal (by decide)

lemma Globals.Tidy.calm_defines (h : g.Tidy) : Calm (ScenarioDeployGenerator.defines g) := by
  refine Calm.append (.paragraph (.literal (by decide))) (Calm.flatMap fun e he => ?_)
  obtain ⟨hname, hvalue⟩ := h.defines e he
  refine Calm.append (Calm.append (Calm.append (.of_noBlank hname) ?_) ?_) ?_
  · exact .literal (by decide)
  · exact .ite (.literal (by decide)) (.of_noBlank hvalue)
  · exact .literal (by decide)

/-- The deployment file is calm. -/
lemma Globals.Tidy.calm_deploymentText (h : g.Tidy) : Calm (deploymentText g) := by
  have hcontroller : Calm (mainController g) := by
    unfold mainController
    repeat' with_reducible first
      | apply Calm.append
      | apply Calm.paragraph
      | apply Calm.ite
      | apply Calm.nil
    all_goals exact .literal (by decide)
  exact (((h.calm_moduleParameters.append h.calm_testportParameters).append
    h.calm_logging).append h.calm_defines).append hcontroller

end Deployment

/-! ## The scenario file -/

section Scenario

variable {g : Globals} {p : Phase}

lemma calm_regulatorSuffix : Calm p.regulatorSuffix := by
  cases p
  · exact .literal (by decide)
  · exact .nil
  · exact .literal (by decide)

lemma calm_phaseName : Calm p.name := by
  cases p <;> exact .literal (by decide)

lemma calm_loadRegulator : Calm (loadRegulator g p) := by
  have hlevel : Calm p.loadLevel := by cases p <;> exact .literal (by decide)
  refine Calm.append (Calm.append (Calm.append (Calm.append (Calm.append ?_ calm_regulatorName)
    calm_regulatorSuffix) ?_) hlevel) ?_
  all_goals exact .literal (by decide)

lemma calm_regulatedItem : Calm (regulatedItem g p) := by
  unfold regulatedItem
  repeat' with_reducible first
    | apply calm_scenarioName
    | apply calm_regulatorName
    | apply calm_regulatorSuffix
    | apply calm_phaseName
    | apply Calm.append
  all_goals exact .literal (by decide)

lemma calm_regulators {phases : List Phase} : Calm (regulators g phases) := by
  have hnames : Calm (commaSeparated (phases.map fun p =>
      "\n\t\"LoadReg".toList ++ g.regulatorName ++ p.regulatorSuffix ++ "\"".toList)) := by
    refine .commaSeparated (List.forall_mem_map.mpr fun p _ => ?_)
    exact ((Calm.append (.literal (by decide)) calm_regulatorName).append calm_regulatorSuffix).append
      (.literal (by decide))
  have hphases : Calm (commaSeparated (phases.map fun p =>
      "\n\t\t \x7b name := \"".toList ++ p.name ++ "\", enabled := true \x7d".toList)) := by
    refine .commaSeparated (List.forall_mem_map.mpr fun p _ => ?_)
    exact (Calm.append (.literal (by decide)) calm_phaseName).append (.literal (by decide))
  have hload : Calm (commaSeparated (phases.map (loadRegulator g))) :=
    .commaSeparated (List.forall_mem_map.mpr fun p _ => calm_loadRegulator)
  have hitems : Calm (commaSeparated (phases.map (regulatedItem g))) :=
    .commaSeparated (List.forall_mem_map.mpr fun p _ => calm_regulatedItem)
  unfold regulators
  repeat' with_reducible first
    | apply hnames
    | apply hphases
    | apply hload
    | apply hitems
    | apply Calm.append
  all_goals exact .literal (by decide)

lemma calm_groups : Calm (groups g) := by
  unfold groups
  repeat' with_reducible first
    | apply calm_scenarioName
    | apply Calm.intToString
    | apply Calm.append
  all_goals exact .literal (by decide)

/-- The texts of a traffic case in `tcList`. -/
structure TcElement.Tidy (e : TcElement) : Prop where
  tcName : NoBlank e.tcName
  trafficWeight : Calm e.trafficWeight
  base : Calm e.base
  range : Calm e.range
  params : ∀ x ∈ e.params, Calm (", ".toList ++ x)
  executionType : Calm e.executionType

/-- The traffic case of an action. -/
def Action.tc : Action → Text
  | .startTc tc => tc
  | .stopTc tc => tc

/-- The texts of the lists of the scenario file. -/
structure ScenarioFile.Tidy (f : ScenarioFile) : Prop where
  declarators : ∀ x ∈ f.tcTypeDeclarators, NoBlank x
  tcList : ∀ e ∈ f.tcList, e.Tidy
  conditions : ∀ x ∈ f.phaseFinishConditions, ∀ tc ∈ x.2, NoBlank tc
  actions : ∀ x ∈ f.phaseStateChangeActions, ∀ a ∈ x.2.2, NoBlank a.tc

/-- The name of a traffic case in a phase. -/
lemma Globals.Tidy.noBlank_tcName (h : g.Tidy) {e : Text × ScriptData} (he : e ∈ includedTcs g) :
    NoBlank (e.1 ++ p.suffix) := by
  have hsuffix : NoBlank p.suffix := by
    cases p
    · exact .literal (by decide)
    · exact List.not_mem_nil
    · exact .literal (by decide)
  exact (h.tcs e (List.mem_filter.mp he).1).1.append hsuffix

/-- The lists of the scenario file have tidy texts. -/
lemma Globals.Tidy.scenarioFile (h : g.Tidy) {pre post : Bool} :
    (scenarioFile pre post g).Tidy := by
  have htcs : ∀ p, ∀ tc ∈ phaseTcs g p, NoBlank tc := by
    intro p tc htc
    obtain ⟨e, he, rfl⟩ := List.mem_map.mp htc
    exact h.noBlank_tcName (List.mem_filter.mp he).1
  have hactions : ∀ (p : Phase) (f : Text → Action), (∀ tc, (f tc).tc = tc) →
      ∀ a ∈ (phaseTcs g p).map f, NoBlank a.tc := by
    intro p f hf a ha
    obtain ⟨tc, htc, rfl⟩ := List.mem_map.mp ha
    exact (hf tc).symm ▸ htcs p tc htc
  have hneeded : ∀ {τ : Type} (needed : Bool) {l : List τ} {P : τ → Prop}, (∀ x ∈ l, P x) →
      ∀ x ∈ whenNeeded needed l, P x := by
    intro τ needed l P hl
    cases needed
    · exact fun x hx => nomatch hx
    · exact hl
  refine ⟨fun x hx => ?_, fun e he => ?_, ?_, ?_⟩
  · obtain ⟨p, -, hx⟩ := List.mem_flatMap.mp hx
    obtain ⟨e, he, rfl⟩ := List.mem_map.mp hx
    exact h.noBlank_tcName he
  · obtain ⟨p, -, he⟩ := List.mem_flatMap.mp he
    obtain ⟨e, hinc, rfl⟩ := List.mem_map.mp he
    have hs : e.2.Tidy := (h.tcs e (List.mem_filter.mp hinc).1).2
    refine ⟨h.noBlank_tcName hinc, hs.weight, hs.base, hs.range, fun x hx => ?_, ?_⟩
    · change x ∈ if p = .loadgen ∨ g.trafficType = .wsm then e.2.params else [] at hx
      split_ifs at hx
      · exact hs.params x hx
      · exact absurd hx List.not_mem_nil
    · exact .ite h.execution (.literal (by decide))
  · refine List.forall_mem_append.mpr ⟨List.forall_mem_append.mpr ⟨?_, ?_⟩, ?_⟩
    · exact hneeded pre (List.forall_mem_singleton.mpr (htcs .preexec))
    · exact List.forall_mem_singleton.mpr (htcs .loadgen)
    · exact hneeded post (List.forall_mem_singleton.mpr (htcs .postexec))
  · have hstart := fun p => hactions p .startTc fun _ => rfl
    have hstop := fun p => hactions p .stopTc fun _ => rfl
    refine List.forall_mem_append.mpr ⟨List.forall_mem_append.mpr ⟨?_, ?_⟩, ?_⟩
    · exact hneeded pre (List.forall_mem_cons.mpr
        ⟨hstart .preexec, List.forall_mem_singleton.mpr (hstart .preexec)⟩)
    · exact List.forall_mem_cons.mpr
        ⟨hstart .loadgen, List.forall_mem_singleton.mpr (hstop .loadgen)⟩
    · exact hneeded post (List.forall_mem_cons.mpr
        ⟨hstart .postexec, List.forall_mem_singleton.mpr (hstop .postexec)⟩)

/-- An element of `tcList`. -/
lemma TcElement.Tidy.calm_text {e : TcElement} (h : e.Tidy) : Calm (e.text g) := by
  have hparams : Calm (commaSeparated (e.params.map (paramText g))) := by
    refine .commaSeparated (List.forall_mem_map.mpr fun x hx => ?_)
    have hquote : "\", ".toList = "\"".toList ++ ", ".toList := by decide
    have hregroup : ∀ a b q c d e f : Text, q = c ++ d →
        a ++ b ++ q ++ e ++ f = a ++ b ++ c ++ (d ++ e) ++ f := by
      rintro a b _ c d e f rfl
      simp only [List.append_assoc]
    have hparam : paramText g x = "\n\t\t\t\t\t\t\t\x7baName:=\"".toList ++ g.scenarioName ++
        "\"".toList ++ (", ".toList ++ x) ++ "\x7d".toList :=
      hregroup _ _ _ _ _ _ _ hquote
    rw [hparam]
    exact (((Calm.append (.literal (by decide)) calm_scenarioName).append (.literal (by decide))).append
      (h.params x hx)).append (.literal (by decide))
  have hname : Calm e.tcName := .of_noBlank h.tcName
  unfold TcElement.text
  repeat' with_reducible first
    | apply hparams
    | apply hname
    | apply h.trafficWeight
    | apply h.base
    | apply h.range
    | apply h.executionType
    | apply Calm.append
  all_goals exact .literal (by decide)

/-- The scenario declarators. -/
lemma ScenarioFile.Tidy.calm_declarators {f : ScenarioFile} (h : f.Tidy) :
    Calm (ScenarioDeployGenerator.declarators g f) := by
  have htcList : Calm (commaSeparated (f.tcList.map (TcElement.text g))) :=
    .commaSeparated (List.forall_mem_map.mpr fun e he => (h.tcList e he).calm_text)
  have hconditions : Calm (commaSeparated (f.phaseFinishConditions.map finishCondition)) := by
    refine .commaSeparated (List.forall_mem_map.mpr fun x hx => ?_)
    have htcs : Calm (commaSeparated (x.2.map fun tc =>
        "\n\t\t\t\t\t\t\x7b tcFinished := \"".toList ++ tc ++ "\"\x7d".toList)) := by
      refine .commaSeparated (List.forall_mem_map.mpr fun tc htc => ?_)
      exact (Calm.append (.literal (by decide)) (.of_noBlank (h.conditions x hx tc htc))).append
        (.literal (by decide))
    unfold finishCondition
    exact (((Calm.append (.literal (by decide)) calm_phaseName).append (.literal (by decide))).append
      htcs).append (.literal (by decide))
  have hactions : Calm (commaSeparated (f.phaseStateChangeActions.map changeAction)) := by
    refine .commaSeparated (List.forall_mem_map.mpr fun x hx => ?_)
    have htexts : Calm (commaSeparated (x.2.2.map Action.text)) := by
      refine .commaSeparated (List.forall_mem_map.mpr fun a ha => ?_)
      have htc := h.actions x hx a ha
      cases a with
      | startTc tc =>
        exact (Calm.append (.literal (by decide)) (.of_noBlank htc)).append (.literal (by decide))
      | stopTc tc =>
        exact (Calm.append (.literal (by decide)) (.of_noBlank htc)).append (.literal (by decide))
    have hstate : Calm x.2.1.name := by cases x.2.1 <;> exact .literal (by decide)
    unfold changeAction
    exact (((((Calm.append (.literal (by decide)) calm_phaseName).append (.literal (by decide))).append
      hstate).append (.literal (by decide))).append htexts).append (.literal (by decide))
  -- the second of these texts ends with a comma and a blank
  have hcps : Calm ("\t\tscParamsList := \x7b\n\t\t\t\x7bweightedScData := ".toList ++
      "\x7bcpsToReach := $\x7bNUMOFCPS, float\x7d, lockCPS := $\x7bLOCKCPS, boolean\x7d, ".toList ++
      "deterministicMix := true, scheduler := omit\x7d\x7d,\n".toList) := by
    rw [String.toList_ofList, String.toList_ofList, String.toList_ofList]
    decide
  unfold ScenarioDeployGenerator.declarators
  repeat' with_reducible first
    | apply hcps
    | apply htcList
    | apply hconditions
    | apply hactions
    | apply calm_scenarioName
    | apply Calm.append
  all_goals exact .literal (by decide)

/-- What stands behind the proxies in the scenario file. -/
def scenarioRest (g : Globals) (f : ScenarioFile) : Text :=
  regulators g f.phases ++ groups g ++
  "\ntsp_LGenBase_TcMgmt_tcTypeDeclarators2 := \x7b".toList ++
    commaSeparated (f.tcTypeDeclarators.map (typeDeclarator g)) ++ "\n\x7d\n\n\n".toList ++
  declarators g f

/-- The scenario file begins with the proxies. -/
lemma scenarioText_eq {f : ScenarioFile} : scenarioText g f =
    "[MODULE_PARAMETERS]\n".toList ++ (diaproxyInfo g ++ scenarioRest g f) := by
  have hregroup : ∀ a b c d e k l m : Text, a ++ b ++ c ++ d ++ e ++ k ++ l ++ m =
      a ++ (b ++ (c ++ d ++ e ++ k ++ l ++ m)) :=
    fun a b c d e k l m => by simp only [List.append_assoc]
  exact hregroup _ _ _ _ _ _ _ _

/-- What stands behind the proxies is calm. -/
lemma ScenarioFile.Tidy.calm_scenarioRest {f : ScenarioFile} (h : f.Tidy) :
    Calm (scenarioRest g f) := by
  have htypes : Calm (commaSeparated (f.tcTypeDeclarators.map (typeDeclarator g))) := by
    refine .commaSeparated (List.forall_mem_map.mpr fun name hname => ?_)
    unfold typeDeclarator
    exact (((Calm.append (.literal (by decide)) (.of_noBlank (h.declarators name hname))).append
      (.literal (by decide))).append calm_scenarioName).append (.literal (by decide))
  unfold scenarioRest
  repeat' with_reducible first
    | apply calm_regulators
    | apply calm_groups
    | apply htypes
    | apply h.calm_declarators
    | apply Calm.append
  all_goals exact .literal (by decide)

end Scenario

/-- The texts of a run: both files are calm, up to the entries of the proxies. -/
lemma calm_of_main {o : Options} {out : Output} (h : main o = .ok out) :
    Calm out.deployment ∧ Calm (scenarioRest out.globals out.scenario) := by
  have hplan := tidy_plan o
  rw [main] at h
  cases hg : plan o with
  | error f =>
    rw [hg] at h
    cases h
  | ok g =>
    rw [hg] at h
    have htidy : g.Tidy := hplan.of_eq_ok hg
    obtain ⟨ranged, hranged, hout⟩ := eq_of_writeFiles h
    have hprepared : (prepareDefines g).Tidy := htidy.prepareDefines
    have hwritten : (writeDeploymentFile g).1.Tidy :=
      { hprepared with
        definedParam := fun _ h => absurd h List.not_mem_nil
        scheduleLoad := fun _ h => absurd h List.not_mem_nil }
    have hranges : ranged.Tidy := hwritten.prepareRangeInfo.of_eq_ok hranged
    rw [hout]
    exact ⟨hprepared.calm_deploymentText, hranges.scenarioFile.calm_scenarioRest⟩

end ScenarioDeployGenerator
