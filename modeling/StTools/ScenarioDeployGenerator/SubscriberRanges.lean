import StTools.Lib.EarlyExit
import StTools.ScenarioDeployGenerator.Generator
import Mathlib.Order.Interval.Set.Basic
import Mathlib.Order.Interval.Set.Disjoint
import Mathlib.Order.CompletePartialOrder

/-!
# Subscriber ranges

The traffic cases of one subscriber type are numbered, and the number of a case says which part of
the subscribers it has.  `typeOf` is the type that a case should have; `prepareRangeInfo` gives the
`i`-th case of a type the number `i`, also when the user gave the range of that case.
-/

namespace ScenarioDeployGenerator

open TextSearch

/-! ## Types -/

namespace Globals

variable (g : Globals)

/-- The subscriber types that exist; a text with `$` is an alias. -/
def knowsType (T : Text) : Bool := (g.subType.find? T).isSome ∧ '$' ∉ T

/-- The subscriber type of a traffic case: the one it names, or the define it names behind a `$`. -/
def typeOf (tc : Text × ScriptData) : Option Text :=
  let name := tc.2.subcriberTypeName
  if (g.subType.find? name).isSome then
    (match filterLine name ['$'] true with
      | some element => g.defineParam.find? element
      | none => some name).filter g.knowsType
  else none

/-- The traffic cases of a type, in the order of their names. -/
def ofType (T : Text) : List (Text × ScriptData) :=
  (includedTcs g).filter fun tc => g.typeOf tc = some T

end Globals

/-- The user gave neither the first subscriber nor the number of subscribers. -/
def ScriptData.isFree (s : ScriptData) : Bool := s.base = [] ∧ s.range = []

/-- The traffic cases of a type without a range of the user. -/
def Globals.freeOfType (g : Globals) (T : Text) : List (Text × ScriptData) :=
  (g.ofType T).filter fun tc => tc.2.isFree

/-! ## Ranges -/

/-- The subscribers of the case with a number. -/
def subscribers (base size number : ℕ) : Set ℕ :=
  Set.Ico (base + number * size) (base + (number + 1) * size)

/-- A traffic case has the subscribers of a number, by the defines of a type. -/
def Globals.HasNumber (g : Globals) (tc T : Text) (number : ℕ) : Prop :=
  ∃ s, g.tcDesc.find? tc = some s ∧ s.base = baseText number T ∧ s.range = rangeText T

/-- The traffic cases without a range of the user have different subscribers. -/
structure Separate (g ranged : Globals) : Prop where
  /-- Every such case has a number. -/
  numbered : ∀ T, ∀ tc ∈ g.freeOfType T, ∃ number, ranged.HasNumber tc.1 T number
  /-- The subscribers of two cases are disjoint. -/
  disjoint : ∀ T, (g.freeOfType T).Pairwise fun a b => ∀ i j,
    ranged.HasNumber a.1 T i → ranged.HasNumber b.1 T j →
      ∀ base size, 0 < size → Disjoint (subscribers base size i) (subscribers base size j)

/-- The traffic cases without a range of the user have the numbers 0, 1, 2 and so on. -/
def Consecutive (g ranged : Globals) : Prop :=
  ∀ T i tc, (g.freeOfType T)[i]? = some tc → ranged.HasNumber tc.1 T i

/-- Every traffic case has a known type. -/
def Globals.AllResolve (g : Globals) : Prop := ∀ tc ∈ includedTcs g, (g.typeOf tc).isSome

/-- The program exits because of the type of a traffic case. -/
def Globals.ExitsForType (g : Globals) (f : Failure) : Prop :=
  ∃ tc ∈ includedTcs g, g.typeOf tc = none ∧
    f = .exit ("ERROR:Unknowm subType ".toList ++ tc.2.subcriberTypeName)

/-- The ranges have a property and all types are known, or the program exits because of a type. -/
def Globals.Assigns (g : Globals) (P : Globals → Globals → Prop) : Prop :=
  EarlyExit.Ends (fun ranged => g.AllResolve ∧ P g ranged) g.ExitsForType (prepareRangeInfo g)

/-- No traffic case with a range of the user comes before one of the same type without. -/
def Globals.FreeFirst (g : Globals) : Prop :=
  ∀ T, (g.ofType T).Pairwise fun a b => b.2.isFree → a.2.isFree

/-! ## Texts of ranges -/

section Texts

variable {i j base size : ℕ} {T : Text}

/-- Different numbers are written differently. -/
lemma intToString_inj (h : intToString i = intToString j) : i = j := by
  have hdigits := congrArg (fun t => Nat.ofDigitChars 10 t 0) h
  change Nat.ofDigitChars 10 (Nat.toDigits 10 i) 0 = Nat.ofDigitChars 10 (Nat.toDigits 10 j) 0
    at hdigits
  rwa [Nat.ofDigitChars_ten_toDigits, Nat.ofDigitChars_ten_toDigits] at hdigits

/-- The text of the first subscriber determines the number. -/
lemma baseText_inj (h : baseText i T = baseText j T) : i = j := by
  simp only [baseText, List.append_assoc, List.append_cancel_right_eq] at h
  exact intToString_inj h

/-- A traffic case has at most one number. -/
lemma Globals.HasNumber.unique {g : Globals} {tc : Text} (hi : g.HasNumber tc T i)
    (hj : g.HasNumber tc T j) : i = j := by
  obtain ⟨s, hs, hbase, -⟩ := hi
  obtain ⟨s', hs', hbase', -⟩ := hj
  rw [hs] at hs'
  cases hs'
  exact baseText_inj (hbase.symm.trans hbase')

/-- The subscribers of different numbers are disjoint. -/
lemma disjoint_subscribers (h : i ≠ j) :
    Disjoint (subscribers base size i) (subscribers base size j) := by
  wlog hij : i < j generalizing i j
  · exact (this h.symm (lt_of_le_of_ne (not_lt.mp hij) h.symm)).symm
  · have hle : base + (i + 1) * size ≤ base + j * size :=
      Nat.add_le_add_left (Nat.mul_le_mul_right size hij) base
    exact Set.Ico_disjoint_Ico.mpr ((min_le_left _ _).trans (hle.trans (le_max_right _ _)))

end Texts

/-! ## The loop -/

section Loop

variable {g s : Globals} {tc : Text × ScriptData} {T : Text} {done : List (Text × ScriptData)}
  {f : Failure}

/-- A type that is assigned is known. -/
lemma knowsType_of_typeOf (h : g.typeOf tc = some T) : g.knowsType T := by
  rw [Globals.typeOf] at h
  split_ifs at h with hname
  exact (Option.filter_eq_some_iff.mp h).2

/-- The type that the loop takes is the one that the case should have. -/
lemma subscriberTypeOf_eq (h : g.typeOf tc = some T) :
    subscriberTypeOf g.defineParam tc.2.subcriberTypeName = T := by
  rw [Globals.typeOf] at h
  split_ifs at h with hname
  have hvalue := (Option.filter_eq_some_iff.mp h).1
  rw [subscriberTypeOf]
  cases hfilter : filterLine tc.2.subcriberTypeName ['$'] true with
  | none =>
    rw [hfilter] at hvalue
    exact Option.some.inj hvalue
  | some element =>
    rw [hfilter] at hvalue
    change g.defineParam.find? element = some T at hvalue
    dsimp only
    rw [hvalue]
    rfl

/-- What the loop has done after some traffic cases. -/
structure Ranged (g : Globals) (done : List (Text × ScriptData)) (s : Globals) : Prop where
  /-- The defines are the same. -/
  defines : s.defineParam = g.defineParam
  /-- The counter of a type is the number of its cases. -/
  counters : ∀ T, (g.subType.find? T).isSome →
    s.subType.find? T = some ((done.filter fun tc => g.typeOf tc = some T).length : ℤ)
  /-- The cases of a type have their numbers. -/
  ranges : ∀ T (i : ℕ) tc, (done.filter fun tc => g.typeOf tc = some T)[i]? = some tc →
    s.tcDesc.find? tc.1 = some (tc.2.setRange i T)
  /-- The other cases are as they were. -/
  rest : ∀ tc ∈ g.tcDesc.entries, tc ∉ done → s.tcDesc.find? tc.1 = some tc.2

/-- The loop begins with counters at 0. -/
lemma ranged_nil : Ranged g [] { g with subType := g.subType.map fun _ _ => 0 } where
  defines := rfl
  counters T hT := by
    obtain ⟨n, hn⟩ := Option.isSome_iff_exists.mp hT
    change (g.subType.map fun _ _ => (0 : ℤ)).find? T = some 0
    rw [OrderedMap.find?_map, hn]
    rfl
  ranges T i tc h := nomatch h
  rest tc h _ := OrderedMap.find?_eq_some_iff.mpr h

/-- The globals after a traffic case. -/
def Globals.withRange (s : Globals) (tc : Text × ScriptData) (T : Text) (counter : ℤ) : Globals :=
  { s with
    subType := s.subType.assign T (counter + 1)
    tcDesc := s.tcDesc.modify tc.1 fun d => d.setRange counter T }

/-- A case whose type is known gets the next number. -/
lemma rangeStep_of_typeOf (hs : Ranged g done s) (hinc : tc.2.toBeIncluded = true)
    (hT : g.typeOf tc = some T) : rangeStep s tc =
      .ok (s.withRange tc T (done.filter fun tc => g.typeOf tc = some T).length) := by
  have hname : (g.subType.find? tc.2.subcriberTypeName).isSome := by
    by_contra hname
    rw [Globals.typeOf, if_neg hname] at hT
    cases hT
  have hknown : (g.subType.find? T).isSome :=
    (of_decide_eq_true (knowsType_of_typeOf hT)).1
  have htype : subscriberTypeOf s.defineParam tc.2.subcriberTypeName = T :=
    hs.defines ▸ subscriberTypeOf_eq hT
  rw [rangeStep, if_neg (by simp [hinc]), hs.counters _ hname]
  dsimp only
  rw [htype, hs.counters _ hknown]
  rfl

/-- The traffic cases that take part are traffic cases, each of them once. -/
lemma nodup_includedTcs : (includedTcs g).Nodup := by
  refine List.Pairwise.filter _ (g.tcDesc.sorted.imp ?_)
  rintro a b hab rfl
  exact lt_irrefl _ hab

lemma mem_entries_of_mem_includedTcs (h : tc ∈ includedTcs g) : tc ∈ g.tcDesc.entries :=
  (List.mem_filter.mp h).1

/-- **Step.**  The loop goes on with the next traffic case. -/
lemma Ranged.step (hs : Ranged g done s) (hdone : done ++ [tc] <+: includedTcs g)
    (hT : g.typeOf tc = some T) : Ranged g (done ++ [tc])
      (s.withRange tc T (done.filter fun tc => g.typeOf tc = some T).length) := by
  have hnodup : (done ++ [tc]).Nodup := nodup_includedTcs.sublist hdone.sublist
  have hnew : tc ∉ done := fun h =>
    (List.nodup_append.mp hnodup).2.2 tc h tc (List.mem_singleton_self tc) rfl
  have htc : tc ∈ g.tcDesc.entries :=
    mem_entries_of_mem_includedTcs (hdone.subset (List.mem_append_right _ List.mem_cons_self))
  have hdone' : ∀ e ∈ done, e ∈ g.tcDesc.entries := fun e he =>
    mem_entries_of_mem_includedTcs (hdone.subset (List.mem_append_left _ he))
  have hkey : ∀ e ∈ g.tcDesc.entries, e ≠ tc → e.1 ≠ tc.1 := fun e he hne h =>
    hne (OrderedMap.eq_of_mem he htc h)
  have hfilter : ∀ T', (done ++ [tc]).filter (fun tc => g.typeOf tc = some T') =
      (done.filter fun tc => g.typeOf tc = some T') ++ if T' = T then [tc] else [] := fun T' => by
    rw [List.filter_append, List.filter_singleton, hT]
    simp [eq_comm]
  refine ⟨hs.defines, fun T' hT' => ?_, fun T' i e he => ?_, fun e he hnot => ?_⟩
  · rw [hfilter]
    by_cases h : T' = T
    · subst h
      rw [if_pos rfl, List.length_append]
      exact OrderedMap.find?_assign_self
    · rw [if_neg h, List.append_nil, ← hs.counters T' hT']
      exact OrderedMap.find?_assign_of_ne h
  · rw [hfilter] at he
    have hold : ∀ e ∈ done, s.tcDesc.find? e.1 = some (e.2.setRange i T') →
        (s.withRange tc T (done.filter fun tc => g.typeOf tc = some T).length).tcDesc.find? e.1 =
          some (e.2.setRange i T') := fun e hmem hfind =>
      (OrderedMap.find?_modify_of_ne
        (hkey e (hdone' e hmem) fun heq => hnew (heq ▸ hmem))).trans hfind
    by_cases h : T' = T
    · subst h
      rw [if_pos rfl, List.getElem?_append] at he
      split_ifs at he with hi
      · exact hold e (List.mem_of_mem_filter (List.mem_of_getElem? he)) (hs.ranges T' i e he)
      · -- the next number belongs to the case of this step
        rw [List.getElem?_singleton] at he
        split_ifs at he with hzero
        cases he
        have hlen : i = (done.filter fun tc => g.typeOf tc = some T').length := by omega
        subst hlen
        refine OrderedMap.find?_modify_self.trans ?_
        rw [hs.rest tc htc hnew]
        rfl
    · rw [if_neg h, List.append_nil] at he
      exact hold e (List.mem_of_mem_filter (List.mem_of_getElem? he)) (hs.ranges T' i e he)
  · have hne : e ≠ tc := fun h => hnot (h ▸ List.mem_append_right _ List.mem_cons_self)
    have hnot' : e ∉ done := fun h => hnot (List.mem_append_left _ h)
    exact (OrderedMap.find?_modify_of_ne (hkey e he hne)).trans (hs.rest e he hnot')

/-- A traffic case that does not take part is skipped. -/
lemma prepareRangeInfo_eq : prepareRangeInfo g =
    (includedTcs g).foldlM rangeStep { g with subType := g.subType.map fun _ _ => 0 } := by
  rw [prepareRangeInfo, includedTcs, List.foldlM_filter]
  congr 1
  funext s tc
  split_ifs with hinc
  · rfl
  · exact if_pos (Bool.eq_false_iff.mpr hinc)

/-- When all types are known, the loop goes through all traffic cases. -/
lemma ranged_of_allResolve (h : g.AllResolve) :
    ∃ ranged, prepareRangeInfo g = .ok ranged ∧ Ranged g (includedTcs g) ranged := by
  have hends : EarlyExit.Ends (Ranged g (includedTcs g)) (fun _ => False)
      (prepareRangeInfo g) := by
    rw [prepareRangeInfo_eq]
    refine EarlyExit.Ends.foldlM (Ranged g) (fun done tc s hdone hs => ?_) ranged_nil
    have htc : tc ∈ includedTcs g :=
      hdone.subset (List.mem_append_right _ List.mem_cons_self)
    obtain ⟨T, hT⟩ := Option.isSome_iff_exists.mp (h tc htc)
    rw [rangeStep_of_typeOf hs (List.mem_filter.mp htc).2 hT]
    exact hs.step hdone hT
  cases hr : prepareRangeInfo g with
  | ok ranged => exact ⟨ranged, rfl, hends.of_eq_ok hr⟩
  | error f =>
    rw [hr] at hends
    exact hends.elim

/-- The loop never ends with a message: the test that would exit comes too late. -/
lemma eq_undefinedBehaviour (h : prepareRangeInfo g = .error f) : f = .undefinedBehaviour := by
  have hends : EarlyExit.Ends (fun _ => True) (fun f => f = .undefinedBehaviour)
      (prepareRangeInfo g) := by
    refine EarlyExit.Ends.foldlM (fun _ _ => True) (fun done tc s _ _ => ?_) trivial
    rw [rangeStep]
    split_ifs
    · trivial
    · split
      · rfl
      · dsimp only
        split
        · rfl
        · trivial
  rw [h] at hends
  exact hends

end Loop

/-! ## The numbers of the free cases -/

section Numbers

variable {g ranged : Globals} {tc : Text × ScriptData} {T : Text} {i : ℕ}

/-- A free case gets the number of its place among all cases of its type. -/
lemma hasNumber_of_getElem? (hr : Ranged g (includedTcs g) ranged)
    (hi : (g.ofType T)[i]? = some tc) (hfree : tc.2.isFree = true) :
    ranged.HasNumber tc.1 T i := by
  obtain ⟨hbase, hrange⟩ := of_decide_eq_true hfree
  refine ⟨tc.2.setRange i T, hr.ranges T i tc hi, ?_, ?_⟩
  · exact if_pos hbase
  · exact if_pos hrange

/-- The free cases have disjoint subscribers. -/
lemma separate_of_ranged (hr : Ranged g (includedTcs g) ranged) : Separate g ranged := by
  refine ⟨fun T tc htc => ?_, fun T => ?_⟩
  · obtain ⟨hmem, hfree⟩ := List.mem_filter.mp htc
    obtain ⟨i, hi⟩ := List.mem_iff_getElem?.mp hmem
    exact ⟨i, hasNumber_of_getElem? hr hi hfree⟩
  · refine List.Pairwise.imp_of_mem (fun {a b} ha hb hne i j hi hj base size _ => ?_)
      ((nodup_includedTcs.filter _).filter _)
    obtain ⟨hmemA, hfreeA⟩ := List.mem_filter.mp ha
    obtain ⟨hmemB, hfreeB⟩ := List.mem_filter.mp hb
    obtain ⟨i', hi'⟩ := List.mem_iff_getElem?.mp hmemA
    obtain ⟨j', hj'⟩ := List.mem_iff_getElem?.mp hmemB
    have hiEq : i = i' := hi.unique (hasNumber_of_getElem? hr hi' hfreeA)
    have hjEq : j = j' := hj.unique (hasNumber_of_getElem? hr hj' hfreeB)
    subst hiEq hjEq
    refine disjoint_subscribers fun hij => hne ?_
    subst hij
    exact Option.some.inj (hi'.symm.trans hj')

/-- The elements with a property come first exactly when each of them has the same place among all
elements as among those with the property. -/
lemma pairwise_iff_getElem?_filter {α : Type*} {p : α → Bool} {l : List α} :
    (l.Pairwise fun a b => p b → p a) ↔
      ∀ (i : ℕ) (x : α), (l.filter p)[i]? = some x → l[i]? = some x := by
  induction l with
  | nil => simp
  | cons a l ih =>
    rw [List.pairwise_cons, ih]
    by_cases ha : p a = true
    · rw [List.filter_cons_of_pos ha]
      constructor
      · rintro ⟨-, h⟩ i x hx
        cases i with
        | zero => exact hx
        | succ i => exact h i x hx
      · exact fun h => ⟨fun b _ _ => ha, fun i x hx => h (i + 1) x hx⟩
    · rw [List.filter_cons_of_neg ha]
      constructor
      · rintro ⟨hnone, -⟩ i x hx
        have hmem := List.mem_filter.mp (List.mem_of_getElem? hx)
        exact absurd (hnone x hmem.1 hmem.2) ha
      · intro h
        have hempty : l.filter p = [] := by
          cases hfilter : l.filter p with
          | nil => rfl
          | cons b t =>
            have hb : b ∈ l.filter p := hfilter ▸ List.mem_cons_self
            have hba : some a = some b := h 0 b (hfilter ▸ rfl)
            exact absurd (Option.some.inj hba ▸ (List.mem_filter.mp hb).2) ha
        constructor
        · intro b hb hpb
          have hmem : b ∈ l.filter p := List.mem_filter.mpr ⟨hb, hpb⟩
          rw [hempty] at hmem
          exact absurd hmem List.not_mem_nil
        · intro i x hx
          rw [hempty] at hx
          cases hx

/-- The numbers are 0, 1, 2 and so on exactly when the free cases come first. -/
lemma consecutive_iff_freeFirst (hr : Ranged g (includedTcs g) ranged) :
    Consecutive g ranged ↔ g.FreeFirst := by
  constructor
  · intro h T
    refine pairwise_iff_getElem?_filter.mpr fun i tc hi => ?_
    obtain ⟨hmem, hfree⟩ := List.mem_filter.mp (List.mem_of_getElem? hi)
    obtain ⟨j, hj⟩ := List.mem_iff_getElem?.mp hmem
    have hij : i = j := (h T i tc hi).unique (hasNumber_of_getElem? hr hj hfree)
    exact hij ▸ hj
  · intro h T i tc hi
    have hfree : tc.2.isFree = true := (List.mem_filter.mp (List.mem_of_getElem? hi)).2
    exact hasNumber_of_getElem? hr (pairwise_iff_getElem?_filter.mp (h T) i tc hi) hfree

/-- A property of the ranges holds of every run in which all types are known, and of no other. -/
lemma assigns_iff {P : Globals → Globals → Prop} {Q : Prop}
    (hP : ∀ ranged, Ranged g (includedTcs g) ranged → (P g ranged ↔ Q)) :
    g.Assigns P ↔ g.AllResolve ∧ Q := by
  constructor
  · intro h
    cases hr : prepareRangeInfo g with
    | ok ranged =>
      obtain ⟨hall, hprop⟩ := h.of_eq_ok hr
      obtain ⟨ranged', hr', hranged⟩ := ranged_of_allResolve hall
      rw [hr] at hr'
      cases hr'
      exact ⟨hall, (hP ranged hranged).mp hprop⟩
    | error f =>
      rw [Globals.Assigns, hr] at h
      obtain ⟨tc, -, -, hexit⟩ := h
      exact absurd (hexit.symm.trans (eq_undefinedBehaviour hr)) (by simp)
  · rintro ⟨hall, hprop⟩
    obtain ⟨ranged, hr, hranged⟩ := ranged_of_allResolve hall
    rw [Globals.Assigns, hr]
    exact ⟨hall, (hP ranged hranged).mpr hprop⟩

end Numbers

/-- **Subscriber ranges.**  The traffic cases get disjoint subscribers of their types, and unknown
types are refused, exactly when there is no unknown type.  The numbers of the cases without a range
of the user are then consecutive exactly when these cases come first. -/
theorem assigns_separate_iff (g : Globals) :
    (g.Assigns Separate ↔ g.AllResolve) ∧
      (g.Assigns (fun g ranged => Separate g ranged ∧ Consecutive g ranged) ↔
        g.AllResolve ∧ g.FreeFirst) := by
  constructor
  · have hiff := assigns_iff (g := g) (P := Separate) (Q := True) fun ranged hr =>
      iff_true_intro (separate_of_ranged hr)
    rwa [and_true] at hiff
  · refine assigns_iff fun ranged hr => ?_
    rw [consecutive_iff_freeFirst hr]
    exact and_iff_right (separate_of_ranged hr)

/-- A run with one traffic case, whose type is the alias of a define that does not exist. -/
def undefinedAlias : Options where
  trafficType := .esm
  template := ["tcName:=A".toList, "subcriberType:=$MY_SUBS".toList]
  trafficDesc := some ["tcName:=A".toList]
  config := ["lgen:=h".toList]

/-- An alias without a define is taken as a subscriber type. -/
theorem undefinedAlias_used : ∃ g ranged, plan undefinedAlias = .ok g ∧
    prepareRangeInfo g = .ok ranged ∧
    ((ranged.tcDesc.find? "A".toList).map fun s => s.base) =
      some (baseText 0 "$MY_SUBS".toList) ∧
    ¬ g.Assigns Separate := by
  obtain ⟨g, hg, hunknown, ranged, hr, hbase⟩ : ∃ g, plan undefinedAlias = .ok g ∧
      (¬ ∀ tc ∈ includedTcs g, (g.typeOf tc).isSome = true) ∧
      ∃ ranged, prepareRangeInfo g = .ok ranged ∧
        ((ranged.tcDesc.find? "A".toList).map fun s => s.base) =
          some (baseText 0 "$MY_SUBS".toList) :=
    ⟨_, rfl, by decide +kernel, _, rfl, by decide +kernel⟩
  refine ⟨g, ranged, hg, hr, hbase, fun h => hunknown ?_⟩
  exact ((assigns_iff (Q := True) fun ranged hr => iff_true_intro (separate_of_ranged hr)).mp h).1

end ScenarioDeployGenerator
