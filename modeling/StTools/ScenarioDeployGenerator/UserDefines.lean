import StTools.ScenarioDeployGenerator.DiaProxies

/-!
# The defines of the user

The defines of the user are set one after the other, on top of those of the tool.  Each of them
touches one define: the first one whose name contains its name, or a new one with its name.
-/

namespace ScenarioDeployGenerator

/-! ## One define -/

namespace UserEntry

variable {e : UserEntry} {table : OrderedMap Text Text} {k : Text}

/-- The define that a define of the user gives a value. -/
def target (e : UserEntry) (table : OrderedMap Text Text) : Option Text :=
  match e.changed table with
  | some k => some k
  -- without a value, a define that is there is kept
  | none => if (table.find? e.name).isSome then none else some e.name

/-- **Step.**  The define that is touched has the text of the user. -/
lemma find?_store_of_target (h : e.target table = some k) :
    (e.store table).find? k = some e.written := by
  rw [target] at h
  rw [store]
  cases hchanged : e.changed table with
  | some k' =>
    rw [hchanged] at h
    cases h
    exact OrderedMap.find?_assign_self
  | none =>
    rw [hchanged] at h
    dsimp only at h
    split_ifs at h with hfind
    cases h
    refine OrderedMap.find?_insert_self ?_
    simpa using hfind

/-- The other defines stay. -/
lemma find?_store_of_ne (h : e.target table ≠ some k) : (e.store table).find? k = table.find? k := by
  rw [target] at h
  rw [store]
  cases hchanged : e.changed table with
  | some k' =>
    rw [hchanged] at h
    exact OrderedMap.find?_assign_of_ne fun heq => h (congrArg some heq.symm)
  | none =>
    rw [hchanged] at h
    dsimp only at h ⊢
    split_ifs at h with hfind
    · exact OrderedMap.find?_insert_of_isSome hfind
    · exact OrderedMap.find?_insert_of_ne fun heq => h (congrArg some heq.symm)

/-- The name of the define contains the name that the user gives. -/
lemma infix_of_target (h : e.target table = some k) : e.name <:+: k := by
  rw [target] at h
  cases hchanged : e.changed table with
  | some k' =>
    rw [hchanged] at h
    cases h
    have hfound := OrderedMap.of_firstKey hchanged
    exact (of_decide_eq_true hfound).1
  | none =>
    rw [hchanged] at h
    dsimp only at h
    split_ifs at h
    cases h
    exact List.infix_rfl

end UserEntry

/-! ## All defines -/

/-- Set defines of the user one after the other. -/
def storeAll (entries : List UserEntry) (table : OrderedMap Text Text) : OrderedMap Text Text :=
  entries.foldl (fun table e => e.store table) table

/-- None of the defines of the user touches a define. -/
def Untouched (k : Text) : List UserEntry → OrderedMap Text Text → Prop
  | [], _ => True
  | e :: es, table => e.target table ≠ some k ∧ Untouched k es (e.store table)

variable {entries : List UserEntry} {table : OrderedMap Text Text} {k : Text}

/-- **Run.**  A define that is not touched stays. -/
lemma Untouched.find?_storeAll (h : Untouched k entries table) :
    (storeAll entries table).find? k = table.find? k := by
  induction entries generalizing table with
  | nil => rfl
  | cons e es ih => exact (ih h.2).trans (UserEntry.find?_store_of_ne h.1)

/-- A define is not touched, or has the text of one of the defines of the user in the end. -/
lemma untouched_or (k : Text) (entries : List UserEntry) (table : OrderedMap Text Text) :
    Untouched k entries table ∨
      ∃ e ∈ entries, e.name <:+: k ∧ (storeAll entries table).find? k = some e.written := by
  induction entries generalizing table with
  | nil => exact .inl trivial
  | cons e es ih =>
    rcases ih (e.store table) with hrest | ⟨e', he', hinfix, hfind⟩
    · by_cases htarget : e.target table = some k
      · refine .inr ⟨e, List.mem_cons_self, UserEntry.infix_of_target htarget, ?_⟩
        exact hrest.find?_storeAll.trans (UserEntry.find?_store_of_target htarget)
      · exact .inl ⟨htarget, hrest⟩
    · exact .inr ⟨e', List.mem_cons_of_mem e he', hinfix, hfind⟩

/-- The globals with the number of the LDAP proxies. -/
def withLdapProxies (g : Globals) : Globals :=
  if g.trafficType = .wsm then g
  else
    { g with
      defineParam := g.defineParam.insert "NUMBERLDAPPROXIES".toList
        (intToString (numberOfLdapProxies g)) }

/-- The defines of the tool, before those of the user. -/
def toolDefines (g : Globals) : OrderedMap Text Text :=
  (updateDefine (withLdapProxies g)).defineParam

/-- The defines that are written. -/
lemma defineParam_prepareDefines (g : Globals) : (prepareDefines g).defineParam =
    storeAll (g.definedParam.map UserEntry.parse) (toolDefines g) := by
  have hfold : ∀ (l : List Text) (g : Globals),
      (l.foldl (fun g e => userModifyDefineParam e g) g).defineParam =
        storeAll (l.map UserEntry.parse) g.defineParam := by
    intro l
    induction l with
    | nil => exact fun g => rfl
    | cons e l ih => exact fun g => ih (userModifyDefineParam e g)
  have hparams : (withLdapProxies g).definedParam = g.definedParam :=
    iteInduction (motive := fun x : Globals => x.definedParam = g.definedParam) (fun _ => rfl)
      fun _ => rfl
  have hprepared : (prepareDefines g).defineParam =
      storeAll ((withLdapProxies g).definedParam.map UserEntry.parse) (toolDefines g) :=
    hfold (withLdapProxies g).definedParam (updateDefine (withLdapProxies g))
  rw [hprepared, hparams]

/-! ## The text around a define -/

section DeploymentText

variable {g : Globals} {v : Text} {o : Options} {out : Output}

/-- The deployment file before the line of a define. -/
def textBefore (g : Globals) (k : Text) : Text :=
  moduleParameters g ++ testportParameters g ++ logging g ++
    (paragraph "\n\n[DEFINE]".toList ++
      (g.defineParam.entries.takeWhile fun e => e.1 ≠ k).flatMap fun e => defineText e.1 e.2)

/-- The deployment file behind the line of a define. -/
def textBehind (g : Globals) (k : Text) : Text :=
  (((g.defineParam.entries.dropWhile fun e => e.1 ≠ k).drop 1).flatMap fun e => defineText e.1 e.2) ++
    mainController g

/-- The deployment file around the line of a define. -/
lemma deploymentText_eq (h : g.defineParam.find? k = some v) :
    deploymentText g = textBefore g k ++ (defineText k v ++ textBehind g k) := by
  have hmem := OrderedMap.find?_eq_some_iff.mp h
  have hdrop : g.defineParam.entries.dropWhile (fun e => e.1 ≠ k) =
      (k, v) :: (g.defineParam.entries.dropWhile fun e => e.1 ≠ k).drop 1 := by
    cases hrest : g.defineParam.entries.dropWhile fun e => decide (e.1 ≠ k) with
    | nil => exact absurd (List.dropWhile_eq_nil_iff.mp hrest _ hmem) (by simp)
    | cons e es =>
      have hkey : e.1 = k := by
        have hhead := List.head?_dropWhile_not (fun e : Text × Text => decide (e.1 ≠ k))
          g.defineParam.entries
        rw [hrest] at hhead
        simpa using hhead
      have he : e ∈ g.defineParam.entries :=
        (List.dropWhile_suffix _).subset (hrest ▸ List.mem_cons_self)
      rw [OrderedMap.eq_of_mem he hmem hkey]
      rfl
  have hentries : (g.defineParam.entries.flatMap fun e => defineText e.1 e.2) =
      (g.defineParam.entries.takeWhile fun e => e.1 ≠ k).flatMap (fun e => defineText e.1 e.2) ++
        (defineText k v ++ ((g.defineParam.entries.dropWhile fun e => e.1 ≠ k).drop 1).flatMap
          fun e => defineText e.1 e.2) := by
    conv_lhs => rw [← List.takeWhile_append_dropWhile (p := fun e : Text × Text => decide (e.1 ≠ k))
      (l := g.defineParam.entries), hdrop]
    rw [List.flatMap_append, List.flatMap_cons]
  have hregroup : ∀ a b c p l w r m : Text,
      a ++ b ++ c ++ (p ++ (l ++ (w ++ r))) ++ m = a ++ b ++ c ++ (p ++ l) ++ (w ++ (r ++ m)) :=
    fun a b c p l w r m => by simp only [List.append_assoc]
  rw [deploymentText, defines, hentries]
  exact hregroup _ _ _ _ _ _ _ _

/-- The deployment file without the define. -/
lemma deploymentText_eq_of_none (h : g.defineParam.find? k = none) :
    deploymentText g = textBefore g k ++ textBehind g k := by
  have hne : ∀ e ∈ g.defineParam.entries, e.1 ≠ k := by
    rintro e he rfl
    rw [OrderedMap.find?_eq_some_iff.mpr he] at h
    cases h
  have htake : g.defineParam.entries.takeWhile (fun e => e.1 ≠ k) = g.defineParam.entries :=
    List.takeWhile_eq_self_iff.mpr fun e he => decide_eq_true (hne e he)
  have hdrop : g.defineParam.entries.dropWhile (fun e => e.1 ≠ k) = [] :=
    List.dropWhile_eq_nil_iff.mpr fun e he => decide_eq_true (hne e he)
  rw [textBefore, textBehind, htake, hdrop, deploymentText, defines]
  exact List.append_assoc _ _ _ ▸ rfl

/-- The text behind the line of a define ends with the end of a line. -/
lemma textBehind_eq : ∃ t, textBehind g k = t ++ ['\n'] := by
  have hregroup : ∀ a b c : Text, a ++ (b ++ (['\n'] ++ c)) = (a ++ (b ++ ['\n'])) ++ c :=
    fun a b c => by simp only [List.append_assoc]
  exact ⟨_, hregroup _ _ ['\n']⟩

/-- The text before the line of a define ends with the end of a line. -/
lemma textBefore_eq : ∃ t, textBefore g k = t ++ ['\n'] := by
  have hlast : ∀ (l : List (Text × Text)) (t : Text),
      ∃ t', paragraph t ++ (l.flatMap fun e => defineText e.1 e.2) = t' ++ ['\n'] := by
    intro l t
    rcases List.eq_nil_or_concat l with rfl | ⟨l, e, rfl⟩
    · exact ⟨t ++ ['\n'], by simp [paragraph]⟩
    · refine ⟨paragraph t ++ ((l.flatMap fun e => defineText e.1 e.2) ++
        (e.1 ++ " := ".toList ++ (if e.2 = [] then "\"\"".toList else e.2))), ?_⟩
      rw [List.concat_eq_append, List.flatMap_append, List.flatMap_singleton, defineText]
      simp only [List.append_assoc]
      rfl
  obtain ⟨t, ht⟩ := hlast (g.defineParam.entries.takeWhile fun e => e.1 ≠ k) "\n\n[DEFINE]".toList
  refine ⟨moduleParameters g ++ testportParameters g ++ logging g ++ t, ?_⟩
  rw [textBefore, ht, List.append_assoc _ t]

/-- The deployment file of a run. -/
lemma deployment_main (h : main o = .ok out) :
    ∃ g, plan o = .ok g ∧ out.deployment = deploymentText (prepareDefines g) := by
  rw [main] at h
  cases hg : plan o with
  | error f =>
    rw [hg] at h
    cases h
  | ok g =>
    rw [hg] at h
    obtain ⟨ranged, -, rfl⟩ := eq_of_writeFiles h
    exact ⟨g, rfl, rfl⟩

end DeploymentText

end ScenarioDeployGenerator
