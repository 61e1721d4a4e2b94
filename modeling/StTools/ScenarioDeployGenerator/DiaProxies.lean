import StTools.ScenarioDeployGenerator.PhasePlan

/-!
# The Diameter proxies and the user's defines of a run

Only the lines `diaProxy` of the configuration say which proxies there are, and only the lines
`defParam` which defines the user has; all other lines and passes leave the two lists as they are.
-/

namespace ScenarioDeployGenerator

open TextSearch

/-- The proxies, the defines of the user and the kind of traffic are the same. -/
structure SameProxies (g g' : Globals) : Prop where
  diaProxy : g'.diaProxy = g.diaProxy
  definedParam : g'.definedParam = g.definedParam
  trafficType : g'.trafficType = g.trafficType

variable {g g' g'' : Globals}

lemma SameProxies.refl (g : Globals) : SameProxies g g := ⟨rfl, rfl, rfl⟩

lemma SameProxies.trans (h : SameProxies g g') (h' : SameProxies g' g'') : SameProxies g g'' :=
  ⟨h'.diaProxy.trans h.diaProxy, h'.definedParam.trans h.definedParam,
    h'.trafficType.trans h.trafficType⟩

/-- When the program goes on, the proxies are those of before. -/
def KeepsProxies (g : Globals) (r : Except Failure Globals) : Prop :=
  EarlyExit.Ends (SameProxies g) (fun _ => True) r

/-- A loop whose rounds keep the proxies. -/
lemma KeepsProxies.foldlM {α : Type*} {f : Globals → α → Except Failure Globals} {l : List α}
    (hf : ∀ g a, KeepsProxies g (f g a)) : KeepsProxies g (l.foldlM f g) :=
  EarlyExit.Ends.foldlM (fun _ => SameProxies g)
    (fun _ a s _ hs => (hf s a).imp (fun _ h => hs.trans h) fun _ h => h) (.refl g)

/-- A fold whose steps keep the proxies. -/
lemma SameProxies.foldl {α : Type*} {f : Globals → α → Globals} {l : List α}
    (hf : ∀ g a, SameProxies g (f g a)) : SameProxies g (l.foldl f g) := by
  induction l generalizing g with
  | nil => exact .refl g
  | cons a l ih => exact (hf g a).trans ih

/-! ## The files -/

section Files

variable {r : Reading} {line element value : Text}

lemma Reading.sameProxies_insertScript : SameProxies r.globals r.insertScript := by
  rw [Reading.insertScript]
  split_ifs
  · exact .refl _
  · exact ⟨rfl, rfl, rfl⟩

/-- A line of the template does not change the proxies. -/
def Reading.Keeps (r r' : Reading) : Prop := SameProxies r.globals r'.globals

lemma Reading.keeps_readKey {name : Text} {f : Text → Reading} (hf : ∀ v, r.Keeps (f v)) :
    r.Keeps (match readKey line name with
      | some v => f v
      | none => r) := by
  cases readKey line name with
  | none => exact SameProxies.refl _
  | some v => exact hf v

lemma Reading.keeps_key : r.Keeps (r.key line element) := by
  have hrefl : r.Keeps r := SameProxies.refl _
  rw [Reading.key]
  refine iteInduction (fun _ => r.sameProxies_insertScript) fun _ => ?_
  refine iteInduction (fun _ => Reading.keeps_readKey fun _ => ⟨rfl, rfl, rfl⟩) fun _ => ?_
  refine iteInduction (fun _ => Reading.keeps_readKey fun _ => ⟨rfl, rfl, rfl⟩) fun _ => ?_
  refine iteInduction (fun _ => Reading.keeps_readKey fun _ => ⟨rfl, rfl, rfl⟩) fun _ => ?_
  refine iteInduction (fun _ => hrefl) fun _ => ?_
  refine iteInduction (fun _ => hrefl) fun _ => ?_
  refine iteInduction (fun _ => Reading.keeps_readKey fun _ => ⟨rfl, rfl, rfl⟩) fun _ => ?_
  refine iteInduction (fun _ => Reading.keeps_readKey fun _ => ⟨rfl, rfl, rfl⟩) fun _ => ?_
  refine iteInduction (fun _ => Reading.keeps_readKey fun _ => ⟨rfl, rfl, rfl⟩) fun _ => ?_
  refine iteInduction (fun _ => Reading.keeps_readKey fun _ => ⟨rfl, rfl, rfl⟩) fun _ => ?_
  refine iteInduction (fun _ => Reading.keeps_readKey fun _ => ⟨rfl, rfl, rfl⟩) fun _ => ?_
  refine iteInduction (fun _ => Reading.keeps_readKey fun _ => ⟨rfl, rfl, rfl⟩) fun _ => ?_
  exact iteInduction (fun _ => Reading.keeps_readKey fun _ => ⟨rfl, rfl, rfl⟩) fun _ => hrefl

lemma Reading.keeps_templateLine : r.Keeps (templateLine r line) := by
  have hkey : r.Keeps (match filterLine (purgeLine line) ":=".toList false with
      | some element => r.key (purgeLine line) element
      | none => r) := by
    split
    · exact Reading.keeps_key
    · exact SameProxies.refl _
  exact ⟨hkey.diaProxy, hkey.definedParam, hkey.trafficType⟩

lemma sameProxies_readTemplateFile {file : List Text} :
    SameProxies g (readTemplateFile file g) := by
  have hfold : ∀ (lines : List Text) (r : Reading), r.Keeps (lines.foldl templateLine r) := by
    intro lines
    induction lines with
    | nil => exact fun r => SameProxies.refl _
    | cons line lines ih => exact fun r => Reading.keeps_templateLine.trans (ih _)
  let start : Reading :=
    { scriptData :=
        { ScriptData.fresh g.trafficType with
          trafficWeight := "trafficWeight := 1.000000".toList }
      globals := g }
  exact (hfold (getlines file) start).trans Reading.sameProxies_insertScript

lemma sameProxies_groupLine (keyword line : Text) (change : List Text → Text → List Text)
    (g : Globals) :
    SameProxies g (groupLine keyword line change g).2 := by
  rw [groupLine]
  split
  · exact .refl g
  · split
    · exact .refl g
    · exact ⟨rfl, rfl, rfl⟩

lemma sameProxies_userLine : SameProxies g (userLine g line) := by
  have hkey : SameProxies g (match filterLine (purgeLine line) ":=".toList false with
      | some element =>
        if element = "tcName".toList then
          match readKey (purgeLine line) "tcName".toList with
          | some name => g.includeTc name
          | none => g
        else g
      | none => g) := by
    split
    · refine iteInduction (fun _ => ?_) fun _ => .refl g
      split
      · exact iteInduction (fun _ => .refl g) fun _ => ⟨rfl, rfl, rfl⟩
      · exact .refl g
    · exact .refl g
  have hadd := hkey.trans (sameProxies_groupLine "addToGroup".toList (purgeLine line)
    (fun groups value => groups ++ [value]) _)
  have hrem := fun rest => hadd.trans (sameProxies_groupLine "remFromGroup".toList rest
    (fun groups value => groups.erase value) _)
  exact ⟨(hrem _).diaProxy, (hrem _).definedParam, (hrem _).trafficType⟩

lemma sameProxies_readTrafficDescUserFile {file : List Text} :
    SameProxies g (readTrafficDescUserFile file g) :=
  .foldl fun _ _ => sameProxies_userLine

end Files

/-! ## The configuration -/

/-- The proxies that a line of the configuration adds. -/
def proxiesOfLine (raw : Text) : List Host :=
  let line := purgeLine raw
  if filterLine line ":=".toList false = some "diaProxy".toList then (Host.parse line).toList else []

/-- The defines of the user that a line of the configuration adds. -/
def definesOfLine (raw : Text) : List Text :=
  let line := purgeLine raw
  if filterLine line ":=".toList false = some "defParam".toList then
    (readKey line "defParam".toList).toList
  else []

/-- What the configuration adds to the two lists. -/
structure Added (g : Globals) (hosts : List Host) (params : List Text) (g' : Globals) : Prop where
  diaProxy : g'.diaProxy = g.diaProxy ++ hosts
  definedParam : g'.definedParam = g.definedParam ++ params
  trafficType : g'.trafficType = g.trafficType

section Configuration

variable {line element value raw : Text}

lemma sameProxies_updateDefineParam {name : Text} :
    SameProxies g (g.updateDefineParam name value) := ⟨rfl, rfl, rfl⟩

lemma sameProxies_storeIn {τ : Type*} {table : List (Text × τ)} {store : τ → Globals → Globals}
    (hstore : ∀ k g, SameProxies g (store k g)) : SameProxies g (storeIn table element store g) := by
  rw [storeIn]
  split
  · exact hstore _ g
  · exact .refl g

lemma sameProxies_storeKey (h : storeKey element value g = some g') : SameProxies g g' := by
  rw [storeKey] at h
  split_ifs at h
  cases h
  refine ((((sameProxies_storeIn fun _ _ => ?_).trans (sameProxies_storeIn fun _ _ => ?_)).trans
    (sameProxies_storeIn fun _ _ => ?_)).trans (sameProxies_storeIn fun _ _ => ?_)).trans
    (sameProxies_storeIn fun _ _ => ?_)
  all_goals exact ⟨rfl, rfl, rfl⟩

/-- The other keys do not change the two lists. -/
lemma keepsProxies_configKey (hproxy : element ≠ "diaProxy".toList)
    (hparam : element ≠ "defParam".toList) : KeepsProxies g (configKey line element value g) := by
  have hset : ∀ g' : Globals, g'.diaProxy = g.diaProxy → g'.definedParam = g.definedParam →
      g'.trafficType = g.trafficType → KeepsProxies g (.ok g') := fun g' h h' h'' => ⟨h, h', h''⟩
  rw [configKey]
  refine iteInduction (fun _ => hset _ rfl rfl rfl) fun _ => ?_
  refine iteInduction (fun _ => hset _ rfl rfl rfl) fun _ => ?_
  refine iteInduction (fun _ => hset _ rfl rfl rfl) fun _ => ?_
  refine iteInduction (fun _ => hset _ rfl rfl rfl) fun _ => ?_
  refine iteInduction (fun _ => hset _ rfl rfl rfl) fun _ => ?_
  refine iteInduction (fun _ => hset _ rfl rfl rfl) fun _ => ?_
  refine iteInduction (fun h => absurd h hproxy) fun _ => ?_
  refine iteInduction (fun _ => hset _ rfl rfl rfl) fun _ => ?_
  refine iteInduction (fun _ => hset _ rfl rfl rfl) fun _ => ?_
  refine iteInduction (fun _ => ?_) fun _ => ?_
  · exact iteInduction (fun _ => trivial) fun _ => iteInduction (fun _ => trivial) fun _ =>
      iteInduction (fun _ => trivial) fun _ => hset _ rfl rfl rfl
  refine iteInduction (fun _ => hset _ rfl rfl rfl) fun _ => ?_
  refine iteInduction (fun h => absurd h hparam) fun _ => ?_
  refine iteInduction (fun _ => ?_) fun _ => ?_
  · exact iteInduction (fun _ => hset _ rfl rfl rfl) fun _ => trivial
  refine iteInduction (fun _ => ?_) fun _ => ?_
  · exact iteInduction (motive := fun x => KeepsProxies g (.ok x))
      (fun _ => hset _ rfl rfl rfl) fun _ => hset _ rfl rfl rfl
  · split
    · next g' hstore => exact sameProxies_storeKey hstore
    · trivial

/-- The key of a line is found again in front of its value. -/
lemma isSome_readKey (hkey : filterLine line ":=".toList false = some element) :
    (readKey line element).isSome := by
  obtain ⟨x, hx, hfst⟩ := Option.map_eq_some_iff.mp hkey
  change x.1 = element at hfst
  have hline : line = element ++ ":=".toList ++ x.2 := hfst ▸ eq_append_of_splitOnce hx
  rw [readKey, filterLine, Option.isSome_map, Option.isSome_iff_ne_none, Ne, splitOnce_eq_none_iff,
    not_not, hline]
  exact (List.prefix_append _ _).isInfix

/-- The define of the user is kept. -/
lemma added_defParam : EarlyExit.Ends (Added g [] [value]) (fun _ => True) (defParam value g) := by
  rw [defParam]
  exact iteInduction (fun _ => trivial) fun _ => ⟨by simp, rfl, rfl⟩

/-- **Step.**  The two lists after a line of the configuration. -/
lemma added_configLine : EarlyExit.Ends (Added g (proxiesOfLine raw) (definesOfLine raw))
    (fun _ => True) (configLine g raw) := by
  have hproxies : filterLine (purgeLine raw) ":=".toList false ≠ some "diaProxy".toList →
      proxiesOfLine raw = [] := fun h => if_neg h
  have hparams : filterLine (purgeLine raw) ":=".toList false ≠ some "defParam".toList →
      definesOfLine raw = [] := fun h => if_neg h
  rw [configLine]
  cases hkey : filterLine (purgeLine raw) ":=".toList false with
  | none =>
    rw [hproxies (by rw [hkey]; exact nofun), hparams (by rw [hkey]; exact nofun)]
    exact ⟨by simp, by simp, rfl⟩
  | some element =>
    obtain ⟨value, hvalue⟩ := Option.isSome_iff_exists.mp (isSome_readKey hkey)
    dsimp only
    rw [hvalue]
    by_cases hproxy : element = "diaProxy".toList
    · subst hproxy
      have hhosts : proxiesOfLine raw = (Host.parse (purgeLine raw)).toList := if_pos hkey
      have hno : definesOfLine raw = [] := hparams (by rw [hkey]; exact by decide)
      rw [hhosts, hno]
      exact ⟨rfl, by simp; rfl, rfl⟩
    · have hno : proxiesOfLine raw = [] :=
        hproxies (by rw [hkey]; exact fun h => hproxy (Option.some.inj h))
      rw [hno]
      by_cases hparam : element = "defParam".toList
      · subst hparam
        have hvalues : definesOfLine raw = [value] := by
          have h : definesOfLine raw = (readKey (purgeLine raw) "defParam".toList).toList := if_pos hkey
          rw [h, hvalue]
          rfl
        rw [hvalues]
        exact added_defParam
      · rw [hparams (by rw [hkey]; exact fun h => hparam (Option.some.inj h))]
        refine (keepsProxies_configKey hproxy hparam).imp (fun g' h => ?_) fun _ h => h
        exact ⟨by rw [h.diaProxy, List.append_nil], by rw [h.definedParam, List.append_nil],
          h.trafficType⟩

/-- The two lists after the configuration. -/
lemma added_readConfigurationFile {file : List Text} :
    EarlyExit.Ends (Added g ((getlines file).flatMap proxiesOfLine)
      ((getlines file).flatMap definesOfLine)) (fun _ => True) (readConfigurationFile file g) := by
  refine EarlyExit.Ends.foldlM (fun done => Added g (done.flatMap proxiesOfLine)
    (done.flatMap definesOfLine)) (fun done raw s _ hs => ?_) ⟨by simp, by simp, rfl⟩
  refine added_configLine.imp (fun s' h => ?_) fun _ h => h
  rw [List.flatMap_append, List.flatMap_singleton, List.flatMap_append, List.flatMap_singleton]
  refine ⟨?_, ?_, h.trafficType.trans hs.trafficType⟩
  · rw [h.diaProxy, hs.diaProxy, List.append_assoc]
  · rw [h.definedParam, hs.definedParam, List.append_assoc]

end Configuration

/-! ## The passes over the traffic cases -/

lemma keepsProxies_remTrafficCase {tc : Text} : KeepsProxies g (remTrafficCase tc g) :=
  iteInduction (fun _ => ⟨rfl, rfl, rfl⟩) fun _ => trivial

lemma keepsProxies_excludeTraffiCase : KeepsProxies g (excludeTraffiCase g) := by
  refine EarlyExit.Ends.bind (Q := SameProxies g) ?_ fun s hs => ?_
  · refine KeepsProxies.foldlM fun g e => KeepsProxies.foldlM fun g group =>
      KeepsProxies.foldlM fun g excluded => ?_
    split
    · exact iteInduction (fun _ => keepsProxies_remTrafficCase) fun _ => SameProxies.refl g
    · exact SameProxies.refl g
  · have hrem : KeepsProxies s (s.tcToExclude.foldlM (fun g tc => remTrafficCase tc g) s) :=
      KeepsProxies.foldlM fun _ _ => keepsProxies_remTrafficCase
    exact hrem.imp (fun _ h => hs.trans h) fun _ h => h

lemma sameProxies_prepareDefines : SameProxies g (prepareDefines g) := by
  rw [prepareDefines]
  refine SameProxies.trans ?_ (.foldl fun _ _ => ⟨rfl, rfl, rfl⟩)
  refine SameProxies.trans ?_ (.foldl fun _ _ => sameProxies_updateDefineParam)
  exact iteInduction (motive := SameProxies g) (fun _ => .refl g) fun _ => ⟨rfl, rfl, rfl⟩

lemma keepsProxies_rangeStep {tc : Text × ScriptData} : KeepsProxies g (rangeStep g tc) := by
  refine iteInduction (fun _ => SameProxies.refl g) fun _ => ?_
  split
  · trivial
  · dsimp only
    split
    · trivial
    · exact ⟨rfl, rfl, rfl⟩

/-! ## The run -/

/-- The two lists of the globals are those of the configuration. -/
structure FromConfig (o : Options) (g : Globals) : Prop where
  diaProxy : g.diaProxy = (getlines o.config).flatMap proxiesOfLine
  definedParam : g.definedParam = (getlines o.config).flatMap definesOfLine
  trafficType : g.trafficType = o.trafficType

lemma FromConfig.of_same {o : Options} (h : FromConfig o g) (hsame : SameProxies g g') :
    FromConfig o g' :=
  ⟨hsame.diaProxy.trans h.diaProxy, hsame.definedParam.trans h.definedParam,
    hsame.trafficType.trans h.trafficType⟩

/-- The user's file, if there is one, has no proxies. -/
lemma sameProxies_trafficDesc {o : Options} {g g' : Globals} (h : SameProxies g g') :
    SameProxies g (match o.trafficDesc with
      | some file => readTrafficDescUserFile file g'
      | none => g') := by
  split
  · exact h.trans sameProxies_readTrafficDescUserFile
  · exact h

/-- The two lists when the files are read. -/
lemma fromConfig_readFiles {o : Options} :
    EarlyExit.Ends (FromConfig o) (fun _ => True) (readFiles o) := by
  let start : Globals :=
    { trafficType := o.trafficType
      specificTrafficMix := o.specificTrafficMix
      configFile := o.configFile }
  have htemplate : SameProxies start (readTemplateFile o.template start) :=
    sameProxies_readTemplateFile
  have huser := sameProxies_trafficDesc (o := o) htemplate
  refine EarlyExit.Ends.imp added_readConfigurationFile (fun g h => ?_) fun _ h => h
  exact
    { diaProxy := h.diaProxy.trans (congrArg (fun l => l ++ _) huser.diaProxy)
      definedParam := h.definedParam.trans (congrArg (fun l => l ++ _) huser.definedParam)
      trafficType := h.trafficType.trans huser.trafficType }

/-- The two lists when the traffic cases that take part are known. -/
lemma fromConfig_plan {o : Options} (hg : plan o = .ok g) : FromConfig o g := by
  have hplan : EarlyExit.Ends (FromConfig o) (fun _ => True) (plan o) := by
    refine fromConfig_readFiles.bind fun g hg => ?_
    have hmerged : SameProxies g (mergeDefines (addTrafficGroup g)) := ⟨rfl, rfl, rfl⟩
    refine EarlyExit.Ends.bind keepsProxies_excludeTraffiCase fun s hs => ?_
    refine iteInduction (fun _ => trivial) fun _ => iteInduction (fun _ => trivial) fun _ => ?_
    exact iteInduction (fun _ => trivial) fun _ => hg.of_same (hmerged.trans hs)
  exact hplan.of_eq_ok hg

/-- **The proxies of a run** are those of the lines of the configuration, in their order. -/
theorem diaProxy_main {o : Options} {out : Output} (h : main o = .ok out) :
    out.globals.diaProxy = (getlines o.config).flatMap proxiesOfLine ∧
      out.globals.trafficType = o.trafficType := by
  rw [main] at h
  cases hg : plan o with
  | error f =>
    rw [hg] at h
    cases h
  | ok g =>
    rw [hg] at h
    have hplan := fromConfig_plan hg
    obtain ⟨ranged, hranged, rfl⟩ := eq_of_writeFiles h
    have hprepared : SameProxies g (prepareDefines g) := sameProxies_prepareDefines
    have hranges : KeepsProxies (writeDeploymentFile g).1
        (prepareRangeInfo (writeDeploymentFile g).1) :=
      EarlyExit.Ends.foldlM (fun _ => SameProxies (writeDeploymentFile g).1)
        (fun _ _ _ _ hs => keepsProxies_rangeStep.imp (fun _ h => hs.trans h) fun _ h => h)
        ⟨rfl, rfl, rfl⟩
    have hsame := hranges.of_eq_ok hranged
    exact ⟨hsame.diaProxy.trans (hprepared.diaProxy.trans hplan.diaProxy),
      hsame.trafficType.trans (hprepared.trafficType.trans hplan.trafficType)⟩

end ScenarioDeployGenerator
