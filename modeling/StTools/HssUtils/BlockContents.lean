import StTools.HssUtils.ParseBlock
import Mathlib.Data.List.Basic

/-!
# What is kept of indented output

Every line should be found in the dictionary that `parse` returns: its value under its key, and the lines
that are nested in it in the dictionary under both.  `parse_shows_iff` says for which forests of lines this
is so.

Three things go wrong.  A block inside cannot be attached to a key that has a list of values.  The first
line of a block inside is merged last: it replaces what the block has under its key, and its own block is
dropped.  And when a line comes again, its block replaces the block of the earlier one.
-/

namespace HssUtils

open ScenarioDeployGenerator (Text)
open RunTitansim (splitlines)

variable {V : Type*} [DecidableEq V] (autocast : Text → Scalar V)

/-- A line of a block: its key, its value, and what is nested in it. -/
structure Item (V : Type*) where
  key : Scalar V
  value : Scalar V
  children : Forest

namespace Forest

/-! ## What should be found -/

/-- The lines of the outermost block. -/
def top : Forest → List (Item V)
  | nil => []
  | cons line children rest => ⟨lineKey autocast line, lineValue autocast line, children⟩ :: top rest

/-- Every line is found in the dictionary, under the entry of the line it is nested in. -/
def Shown : Forest → Block V → Prop
  | nil, _ => True
  | cons line children rest, d =>
    (match d.lookup (lineKey autocast line) with
      | none => False
      | some (.value v) => children = nil ∧ v = lineValue autocast line
      | some (.list vs) => children = nil ∧ lineValue autocast line ∈ vs
      | some (.dict m) =>
        match m.lookup (lineValue autocast line) with
        | none => False
        | some sub => Shown children sub) ∧ Shown rest d

/-! ## The condition -/

/-- The first line with the key has a block inside. -/
def FirstHas (l : List (Item V)) (k : Scalar V) : Prop :=
  k ≠ .none ∧ ∃ it, l.find? (fun it => it.key = k) = some it ∧ it.children ≠ nil

/-- A key of the block that gets a block inside gets one at its first line. -/
def Unmixed (F : Forest) : Prop :=
  ∀ it ∈ F.top autocast, it.children ≠ nil → it.key ≠ .none → FirstHas (F.top autocast) it.key

/-- The lines behind the first line. -/
def behind : Forest → Forest
  | nil => nil
  | cons _ _ rest => rest

/-- In every block inside, the lines behind the first line are unmixed. -/
def Calm : Forest → Prop
  | nil => True
  | cons _ children rest => (Unmixed autocast children.behind ∧ Calm children) ∧ Calm rest

/-- Every line of the first forest is also a line of the second. -/
def CoveredBy : Forest → Forest → Prop
  | nil, _ => True
  | cons line children rest, G =>
    (∃ it ∈ G.top autocast, it.key = lineKey autocast line ∧ it.value = lineValue autocast line ∧
      CoveredBy children it.children) ∧ CoveredBy rest G

/-- The first line has no block inside, and the other lines with its key say nothing more. -/
def FirstAlone : Forest → Prop
  | nil => True
  | cons line children rest =>
    children = nil ∧ ∀ it ∈ rest.top autocast, it.key = lineKey autocast line →
      it.children = nil ∧ it.value = lineValue autocast line

/-- The last line with a key and a value. -/
def lastOf (k v : Scalar V) : List (Item V) → Option (Item V)
  | [] => none
  | it :: l => (lastOf k v l).or (if it.key = k ∧ it.value = v then some it else none)

/-- A block inside is kept: its key is not `None`, its first line stands alone, and the lines of a block
that is replaced come again in the block that replaces it. -/
def Kept : Forest → Prop
  | nil => True
  | cons line children rest =>
    (children ≠ nil → lineKey autocast line ≠ .none ∧
      match lastOf (lineKey autocast line) (lineValue autocast line) (rest.top autocast) with
      | none => FirstAlone autocast children ∧ Kept children
      | some it => CoveredBy autocast children it.children) ∧ Kept rest

/-! ## One line -/

variable {autocast} {F G : Forest} {s s' : LoopState V} {it : Item V} {k v : Scalar V} {d : Block V}

/-- What a line does, with what is nested in it. -/
def step (autocast : Text → Scalar V) (s : LoopState V) (it : Item V) : Option (LoopState V) :=
  if it.children = nil then some (s.addLine it.key it.value)
  else (subBlock autocast it.children).bind (s.addLine it.key it.value).attach

/-- The lines of a block one after the other. -/
lemma contents_eq_foldlM (F : Forest) (s : LoopState V) :
    contents autocast F s = (F.top autocast).foldlM (step autocast) s := by
  induction F generalizing s with
  | nil => rfl
  | cons line children rest _ ih =>
    rw [contents, top, List.foldlM_cons, step]
    simp only
    split_ifs with h
    · exact ih _
    · rw [← Option.bind_assoc]
      exact congrArg (Option.bind _) (funext ih)

/-- The dictionary of what is nested in a line. -/
def subOf (autocast : Text → Scalar V) (it : Item V) : Block V := (subBlock autocast it.children).getD []

lemma subOf_of_nil (h : it.children = nil) : subOf autocast it = [] := by
  rw [subOf, h]
  rfl

/-- The values of an entry that is no dictionary. -/
def values : Option (Entry V) → List (Scalar V)
  | some (.value v) => [v]
  | some (.list vs) => vs
  | _ => []

/-- The entry is a dictionary. -/
def IsDict : Option (Entry V) → Prop
  | some (.dict _) => True
  | _ => False

/-- What a line makes of the entry of its key, with the dictionary of what is nested in it. -/
def entryStep (it : Item V) (sub : Block V) (e : Option (Entry V)) : Option (Entry V) :=
  if it.children = nil ∨ it.key = .none then some (addEntry it.value e)
  else attachEntry it.value sub (some (addEntry it.value e))

/-- **What a line does**: the block inside is parsed, and the entry of the key is changed. -/
lemma step_eq_some_iff : (∃ s', step autocast s it = some s') ↔
    ∃ sub, subBlock autocast it.children = some sub ∧ (entryStep it sub (s.data.lookup it.key)).isSome := by
  unfold step entryStep
  by_cases hnil : it.children = nil
  · simp [hnil, subBlock]
  · rw [if_neg hnil]
    by_cases hkey : it.key = .none
    · cases subBlock autocast it.children <;> simp [LoopState.addLine, LoopState.attach, hkey]
    · cases h : subBlock autocast it.children with
      | none => simp
      | some sub =>
        simp [LoopState.addLine, LoopState.attach, hkey, hnil, Option.isSome_iff_exists]

lemma entry_of_step (h : step autocast s it = some s') :
    s'.data.lookup it.key = entryStep it (subOf autocast it) (s.data.lookup it.key) ∧
      ∀ k ≠ it.key, s'.data.lookup k = s.data.lookup k := by
  rw [step] at h
  rw [entryStep]
  by_cases hnil : it.children = nil
  · rw [if_pos hnil] at h
    obtain rfl := Option.some.inj h
    rw [if_pos (Or.inl hnil)]
    exact ⟨lookup_setKey_self, fun k hk => lookup_setKey_of_ne hk⟩
  · rw [if_neg hnil] at h
    obtain ⟨sub, hsub, hattach⟩ := Option.bind_eq_some_iff.mp h
    have hsubOf : subOf autocast it = sub := by rw [subOf, hsub, Option.getD_some]
    by_cases hkey : it.key = .none
    · rw [if_pos (Or.inr hkey)]
      rw [LoopState.attach, LoopState.addLine, if_pos hkey] at hattach
      obtain rfl := Option.some.inj hattach
      exact ⟨lookup_setKey_self, fun k hk => lookup_setKey_of_ne hk⟩
    · rw [if_neg (not_or.mpr ⟨hnil, hkey⟩), hsubOf]
      rw [LoopState.attach, LoopState.addLine, if_neg hkey] at hattach
      simp only [lookup_setKey_self] at hattach
      obtain ⟨e, he, rfl⟩ := Option.map_eq_some_iff.mp hattach
      refine ⟨lookup_setKey_self.trans he.symm, fun k hk => ?_⟩
      rw [lookup_setKey_of_ne hk, lookup_setKey_of_ne hk]

/-- The entry of the key of a line that was parsed. -/
lemma isSome_entryStep (h : step autocast s it = some s') :
    subBlock autocast it.children = some (subOf autocast it) ∧
      (entryStep it (subOf autocast it) (s.data.lookup it.key)).isSome := by
  obtain ⟨sub, hsub, hsome⟩ := step_eq_some_iff.mp ⟨s', h⟩
  have hsubOf : subOf autocast it = sub := by rw [subOf, hsub, Option.getD_some]
  rw [hsubOf]
  exact ⟨hsub, hsome⟩

/-! ## A list of lines -/

variable {l : List (Item V)} {e : Option (Entry V)} {sub : Block V}

/-- What an entry has under a value. -/
def subLookup : Option (Entry V) → Scalar V → Option (Block V)
  | some (.dict m), v => m.lookup v
  | _, _ => none

/-- A dictionary gets the block of the line under its value. -/
lemma entryStep_of_isDict (he : IsDict e) (hk : it.key ≠ .none) (hsub : it.children = nil → sub = []) :
    IsDict (entryStep it sub e) ∧ ∀ v, subLookup (entryStep it sub e) v =
      if v = it.value then some sub else subLookup e v := by
  obtain ⟨m, rfl⟩ : ∃ m, e = some (.dict m) := by
    rcases e with _ | ⟨_ | _ | m⟩
    · exact he.elim
    · exact he.elim
    · exact he.elim
    · exact ⟨m, rfl⟩
  rw [entryStep]
  by_cases hnil : it.children = nil
  · rw [if_pos (Or.inl hnil), hsub hnil]
    refine ⟨trivial, fun v => ?_⟩
    split_ifs with hv
    · rw [hv]
      exact lookup_setKey_self
    · exact lookup_setKey_of_ne hv
  · rw [if_neg (not_or.mpr ⟨hnil, hk⟩)]
    refine ⟨trivial, fun v => ?_⟩
    split_ifs with hv
    · rw [hv]
      exact lookup_setKey_self
    · exact (lookup_setKey_of_ne hv).trans (lookup_setKey_of_ne hv)

/-- An entry that is no dictionary gets one more value. -/
lemma entryStep_of_flat (sub : Block V) (he : ¬ IsDict e) (hflat : it.children = nil ∨ it.key = .none) :
    ¬ IsDict (entryStep it sub e) ∧ entryStep it sub e ≠ none ∧
      values (entryStep it sub e) = values e ++ [it.value] := by
  rw [entryStep, if_pos hflat]
  rcases e with _ | ⟨v | vs | m⟩
  · exact ⟨id, Option.some_ne_none _, rfl⟩
  · exact ⟨id, Option.some_ne_none _, rfl⟩
  · exact ⟨id, Option.some_ne_none _, rfl⟩
  · exact absurd trivial he

/-- A block inside can be attached to an entry that is no dictionary only at the first line of the key. -/
lemma entryStep_opens (he : ¬ IsDict e) (hne : it.children ≠ nil) (hk : it.key ≠ .none)
    (hsome : (entryStep it sub e).isSome) :
    e = none ∧ entryStep it sub e = some (.dict [(it.value, sub)]) := by
  rw [entryStep, if_neg (not_or.mpr ⟨hne, hk⟩)] at hsome ⊢
  rcases e with _ | ⟨v | vs | m⟩
  · exact ⟨rfl, rfl⟩
  · cases hsome
  · cases hsome
  · exact absurd trivial he

/-- The key has a dictionary, or gets one with its next line. -/
def Dictish (e : Option (Entry V)) (l : List (Item V)) (k : Scalar V) : Prop :=
  IsDict e ∨ e = none ∧ FirstHas l k

/-- The first line of the key is in front of the others. -/
lemma firstHas_cons_self : FirstHas (it :: l) it.key ↔ it.key ≠ .none ∧ it.children ≠ nil := by
  rw [FirstHas, List.find?_cons_of_pos (by simp)]
  simp

lemma firstHas_cons_of_ne (h : k ≠ it.key) : FirstHas (it :: l) k ↔ FirstHas l k := by
  rw [FirstHas, List.find?_cons_of_neg (by simpa using Ne.symm h), FirstHas]

/-- One line, for the question whether a key has a dictionary. -/
lemma dictish_step (h : step autocast s it = some s') (hnone : ¬ IsDict (s.data.lookup .none)) :
    (∀ k, Dictish (s.data.lookup k) (it :: l) k ↔ Dictish (s'.data.lookup k) l k) ∧
      ¬ IsDict (s'.data.lookup .none) := by
  obtain ⟨hself, hother⟩ := entry_of_step h
  constructor
  · intro k
    by_cases hk : k = it.key
    · subst hk
      rw [Dictish, Dictish, hself, firstHas_cons_self]
      by_cases hdict : IsDict (s.data.lookup it.key)
      · have hkey : it.key ≠ .none := fun hkey => hnone (hkey ▸ hdict)
        exact iff_of_true (Or.inl hdict) (Or.inl (entryStep_of_isDict hdict hkey subOf_of_nil).1)
      · by_cases hflat : it.children = nil ∨ it.key = .none
        · obtain ⟨hno, hsome, -⟩ := entryStep_of_flat (subOf autocast it) hdict hflat
          refine iff_of_false ?_ ?_
          · rintro (h' | ⟨-, hkey, hne⟩)
            · exact hdict h'
            · exact hflat.elim hne hkey
          · rintro (h' | ⟨h', -⟩)
            · exact hno h'
            · exact hsome h'
        · obtain ⟨hne, hkey⟩ := not_or.mp hflat
          obtain ⟨hlookup, hentry⟩ := entryStep_opens hdict hne hkey (isSome_entryStep h).2
          rw [hentry]
          exact iff_of_true (Or.inr ⟨hlookup, hkey, hne⟩) (Or.inl trivial)
    · rw [hother k hk, Dictish, Dictish, firstHas_cons_of_ne hk]
  · by_cases hkey : it.key = .none
    · rw [← hkey, hself]
      exact (entryStep_of_flat _ (hkey ▸ hnone) (Or.inr hkey)).1
    · rwa [hother _ (Ne.symm hkey)]

/-- What a line makes of an entry that is a dictionary, or becomes one. -/
lemma subLookup_entryStep (hd : Dictish e (it :: l) it.key) (hnone : ¬ IsDict (s.data.lookup .none))
    (he : e = s.data.lookup it.key) (hsub : it.children = nil → sub = [])
    (hsome : (entryStep it sub e).isSome) (v : Scalar V) :
    subLookup (entryStep it sub e) v = if v = it.value then some sub else subLookup e v := by
  by_cases hdict : IsDict e
  · have hkey : it.key ≠ .none := by
      intro hkey
      rw [he, hkey] at hdict
      exact hnone hdict
    exact (entryStep_of_isDict hdict hkey hsub).2 v
  · obtain ⟨-, hfirst⟩ := hd.resolve_left hdict
    obtain ⟨hkey, hne⟩ := firstHas_cons_self.mp hfirst
    obtain ⟨hnil, hentry⟩ := entryStep_opens hdict hne hkey hsome
    rw [hentry, hnil, subLookup, List.lookup_cons]
    split_ifs with hv
    · rw [hv, beq_self_eq_true]
    · rw [beq_false_of_ne hv]
      rfl

/-- **What a list of lines makes of the entry of a key.**  By induction on the lines: a dictionary has
under every value the block of the last line with the key and this value, and another entry has the values
of the lines. -/
lemma entry_of_lines (h : l.foldlM (step autocast) s = some s') (hnone : ¬ IsDict (s.data.lookup .none))
    (k : Scalar V) :
    (Dictish (s.data.lookup k) l k → IsDict (s'.data.lookup k) ∧ ∀ v, subLookup (s'.data.lookup k) v =
      ((lastOf k v l).map (subOf autocast)).or (subLookup (s.data.lookup k) v)) ∧
    (¬ Dictish (s.data.lookup k) l k → ¬ IsDict (s'.data.lookup k) ∧
      values (s'.data.lookup k) = values (s.data.lookup k) ++ (l.filter fun it => it.key = k).map Item.value) := by
  induction l generalizing s with
  | nil =>
    obtain rfl := Option.some.inj h
    refine ⟨?_, fun hno => ⟨fun hd => hno (Or.inl hd), by simp⟩⟩
    rintro (hd | ⟨-, -, it, hit, -⟩)
    · exact ⟨hd, fun v => by simp [lastOf]⟩
    · cases hit
  | cons it l ih =>
    rw [List.foldlM_cons] at h
    obtain ⟨s₁, hstep, hrest⟩ := Option.bind_eq_some_iff.mp h
    obtain ⟨hdictish, hnone₁⟩ := dictish_step hstep hnone
    obtain ⟨hself, hother⟩ := entry_of_step hstep
    obtain ⟨hyes, hno⟩ := ih hrest hnone₁
    by_cases hk : k = it.key
    · subst hk
      have hsome := (isSome_entryStep hstep).2
      refine ⟨fun hd => ⟨(hyes ((hdictish _).mp hd)).1, fun v => ?_⟩,
        fun hd => ⟨(hno (mt (hdictish _).mpr hd)).1, ?_⟩⟩
      · rw [(hyes ((hdictish _).mp hd)).2, hself, subLookup_entryStep hd hnone rfl subOf_of_nil hsome, lastOf]
        cases lastOf it.key v l with
        | some it' => rfl
        | none =>
          by_cases hv : v = it.value
          · simp [hv]
          · simp [hv, Ne.symm hv]
      · have hflat : it.children = nil ∨ it.key = .none := by
          by_contra hboth
          obtain ⟨hne, hkey⟩ := not_or.mp hboth
          have hopens := entryStep_opens (fun h' => hd (Or.inl h')) hne hkey hsome
          exact hd (Or.inr ⟨hopens.1, firstHas_cons_self.mpr ⟨hkey, hne⟩⟩)
        have hvalues := (entryStep_of_flat (subOf autocast it) (fun h' => hd (Or.inl h')) hflat).2.2
        rw [(hno (mt (hdictish _).mpr hd)).2, hself, hvalues, List.filter_cons_of_pos (by simp), List.map_cons,
          List.append_assoc, List.singleton_append]
    · rw [hdictish]
      refine ⟨fun hd => ⟨(hyes hd).1, fun v => ?_⟩, fun hd => ⟨(hno hd).1, ?_⟩⟩
      · rw [(hyes hd).2, hother k hk, lastOf, if_neg fun h' => hk h'.1.symm, Option.or_none]
      · rw [(hno hd).2, hother k hk, List.filter_cons_of_neg (by simpa using Ne.symm hk)]

/-! ## When nothing is raised -/

/-- A line whose block inside is parsed, and attached to a key that has a dictionary or gets one. -/
lemma isSome_entryStep_of_dictish (h : it.children ≠ nil → it.key ≠ .none → Dictish e (it :: l) it.key)
    (hsub : it.children = nil → sub = []) : (entryStep it sub e).isSome := by
  by_cases hflat : it.children = nil ∨ it.key = .none
  · rw [entryStep, if_pos hflat]
    rfl
  · obtain ⟨hne, hkey⟩ := not_or.mp hflat
    rcases h hne hkey with hdict | ⟨rfl, -⟩
    · have hd := (entryStep_of_isDict hdict hkey hsub).1
      cases hentry : entryStep it sub e with
      | none =>
        rw [hentry] at hd
        exact hd.elim
      | some e' => rfl
    · rw [entryStep, if_neg hflat]
      rfl

/-- **When a list of lines raises nothing**, by induction on the lines. -/
lemma lines_eq_some_iff (hnone : ¬ IsDict (s.data.lookup .none)) :
    (∃ s', l.foldlM (step autocast) s = some s') ↔
      (∀ it ∈ l, (subBlock autocast it.children).isSome) ∧
        ∀ it ∈ l, it.children ≠ nil → it.key ≠ .none → Dictish (s.data.lookup it.key) l it.key := by
  induction l generalizing s with
  | nil =>
    have hno : ∀ P : Item V → Prop, ∀ it ∈ [], P it := fun _ it hit => absurd hit List.not_mem_nil
    exact iff_of_true ⟨s, rfl⟩ ⟨hno _, hno _⟩
  | cons it l ih =>
    rw [List.forall_mem_cons, List.forall_mem_cons]
    constructor
    · rintro ⟨s', h⟩
      rw [List.foldlM_cons] at h
      obtain ⟨s₁, hstep, hrest⟩ := Option.bind_eq_some_iff.mp h
      obtain ⟨hdictish, hnone₁⟩ := dictish_step hstep hnone
      obtain ⟨hsub, hentry⟩ := isSome_entryStep hstep
      obtain ⟨hsubs, hdicts⟩ := (ih hnone₁).mp ⟨s', hrest⟩
      refine ⟨⟨by rw [hsub]; rfl, hsubs⟩, fun hne hkey => ?_, fun it' hit' hne hkey => ?_⟩
      · by_cases hdict : IsDict (s.data.lookup it.key)
        · exact Or.inl hdict
        · exact Or.inr ⟨(entryStep_opens hdict hne hkey hentry).1, firstHas_cons_self.mpr ⟨hkey, hne⟩⟩
      · exact (hdictish _).mpr (hdicts it' hit' hne hkey)
    · rintro ⟨⟨hsub, hsubs⟩, hdict, hdicts⟩
      obtain ⟨sub, hsub⟩ := Option.isSome_iff_exists.mp hsub
      have hnil : it.children = nil → sub = [] := by
        intro hnil
        rw [hnil, subBlock] at hsub
        exact (Option.some.inj hsub).symm
      obtain ⟨s₁, hstep⟩ := step_eq_some_iff.mpr ⟨sub, hsub, isSome_entryStep_of_dictish hdict hnil⟩
      obtain ⟨hdictish, hnone₁⟩ := dictish_step hstep hnone
      obtain ⟨s', hrest⟩ := (ih hnone₁).mpr ⟨hsubs, fun it' hit' hne hkey =>
        (hdictish _).mp (hdicts it' hit' hne hkey)⟩
      exact ⟨s', by rw [List.foldlM_cons, hstep]; exact hrest⟩

/-- An empty dictionary has a dictionary for a key when the first line of the key opens one. -/
lemma dictish_init : Dictish (LoopState.init.data.lookup k) l k ↔ FirstHas l k :=
  ⟨fun h => (h.resolve_left id).2, fun h => Or.inr ⟨rfl, h⟩⟩

/-- When the lines of a block raise nothing. -/
lemma contents_eq_some_iff : (∃ s, contents autocast F .init = some s) ↔
    (∀ it ∈ F.top autocast, (subBlock autocast it.children).isSome) ∧ Unmixed autocast F := by
  rw [contents_eq_foldlM, lines_eq_some_iff id]
  refine and_congr_right fun _ => ?_
  simp only [dictish_init]
  exact Iff.rfl

/-- When the blocks inside raise nothing, by induction on the forest. -/
lemma isSome_subBlock_iff (F : Forest) :
    ((subBlock autocast F).isSome ↔ Unmixed autocast F.behind ∧ Calm autocast F) ∧
      ((∀ it ∈ F.top autocast, (subBlock autocast it.children).isSome) ↔ Calm autocast F) := by
  induction F with
  | nil =>
    have hno : ∀ P : Item V → Prop, ∀ it ∈ top autocast nil, P it :=
      fun _ it hit => absurd hit List.not_mem_nil
    exact ⟨iff_of_true rfl ⟨hno _, trivial⟩, iff_of_true (hno _) trivial⟩
  | cons line children rest ihc ihr =>
    have hall : (∀ it ∈ (cons line children rest).top autocast, (subBlock autocast it.children).isSome) ↔
        Calm autocast (cons line children rest) := by
      rw [top, List.forall_mem_cons, Calm, ihr.2, ihc.1]
    refine ⟨?_, hall⟩
    have hsub : (subBlock autocast (cons line children rest)).isSome ↔
        (subBlock autocast children).isSome ∧ ∃ s, contents autocast rest .init = some s := by
      rw [subBlock]
      cases subBlock autocast children with
      | none => simp
      | some sub => simp [Option.isSome_iff_exists]
    rw [hsub, contents_eq_some_iff, ihr.2, ihc.1, behind, Calm]
    exact ⟨fun h => ⟨h.2.2, h.1, h.2.1⟩, fun h => ⟨h.2.1, h.2.2, h.1⟩⟩

/-! ## What is found -/

/-- A line is found in a dictionary. -/
def ShownItem (autocast : Text → Scalar V) (d : Block V) (it : Item V) : Prop :=
  (IsDict (d.lookup it.key) ∧
    ∃ sub, subLookup (d.lookup it.key) it.value = some sub ∧ Shown autocast it.children sub) ∨
  (¬ IsDict (d.lookup it.key) ∧ it.children = nil ∧ it.value ∈ values (d.lookup it.key))

/-- The lines of a block are found one by one. -/
lemma shown_iff : Shown autocast F d ↔ ∀ it ∈ F.top autocast, ShownItem autocast d it := by
  induction F with
  | nil => exact iff_of_true trivial fun _ h => absurd h List.not_mem_nil
  | cons line children rest _ ih =>
    rw [top, List.forall_mem_cons, ← ih, Shown]
    refine and_congr_left fun _ => ?_
    rw [ShownItem]
    rcases d.lookup (lineKey autocast line) with _ | ⟨v | vs | m⟩
    · simp [IsDict, values]
    · simp [IsDict, values, eq_comm]
    · simp [IsDict, values]
    · simp only [IsDict, subLookup, true_and, not_true_eq_false, false_and, or_false]
      cases m.lookup (lineValue autocast line) <;> simp

/-- The last line is one of the lines. -/
lemma of_lastOf {it' : Item V} (h : lastOf k v l = some it') : it' ∈ l ∧ it'.key = k ∧ it'.value = v := by
  induction l with
  | nil => cases h
  | cons it l ih =>
    rw [lastOf, Option.or_eq_some_iff] at h
    rcases h with h | ⟨-, h⟩
    · exact ⟨List.mem_cons_of_mem it (ih h).1, (ih h).2⟩
    · split_ifs at h with hit
      obtain rfl := Option.some.inj h
      exact ⟨List.mem_cons_self, hit⟩

lemma lastOf_append (k v : Scalar V) (l l' : List (Item V)) :
    lastOf k v (l ++ l') = (lastOf k v l').or (lastOf k v l) := by
  induction l with
  | nil => simp [lastOf]
  | cons it l ih => rw [List.cons_append, lastOf, ih, lastOf, Option.or_assoc]

/-- There is a last line when there is one. -/
lemma isSome_lastOf (h : it ∈ l) : ∃ it', lastOf it.key it.value l = some it' := by
  obtain ⟨a, b, rfl⟩ := List.append_of_mem h
  rw [lastOf_append, lastOf, if_pos ⟨rfl, rfl⟩]
  cases lastOf it.key it.value b with
  | none => exact ⟨it, by simp⟩
  | some it' => exact ⟨it', by simp⟩

/-- What is found of a line after the lines of a block. -/
lemma shownItem_contents_iff (h : contents autocast F .init = some s) :
    ShownItem autocast s.data it ↔
      (FirstHas (F.top autocast) it.key ∧
        ∃ it', lastOf it.key it.value (F.top autocast) = some it' ∧
          Shown autocast it.children (subOf autocast it')) ∨
      (¬ FirstHas (F.top autocast) it.key ∧ it.children = nil ∧
        ∃ it' ∈ F.top autocast, it'.key = it.key ∧ it'.value = it.value) := by
  rw [contents_eq_foldlM] at h
  obtain ⟨hyes, hno⟩ := entry_of_lines h id it.key
  rw [dictish_init] at hyes hno
  rw [ShownItem]
  by_cases hfirst : FirstHas (F.top autocast) it.key
  · obtain ⟨hdict, hsub⟩ := hyes hfirst
    have hor : ∀ v, subLookup (s.data.lookup it.key) v =
        (lastOf it.key v (F.top autocast)).map (subOf autocast) := fun v => (hsub v).trans (Option.or_none)
    simp only [hdict, hfirst, hor, true_and, not_true_eq_false, false_and, or_false, Option.map_eq_some_iff]
    constructor
    · rintro ⟨sub, ⟨it', hit', rfl⟩, hshown⟩
      exact ⟨it', hit', hshown⟩
    · rintro ⟨it', hit', hshown⟩
      exact ⟨_, ⟨it', hit', rfl⟩, hshown⟩
  · obtain ⟨hflat, hvalues⟩ := hno hfirst
    simp only [hflat, hfirst, hvalues, not_false_eq_true, true_and, false_and, false_or]
    simp [values, LoopState.init, List.mem_map, List.mem_filter, and_assoc]

/-- A line of the block without a block inside is found. -/
lemma shownItem_of_nil (h : contents autocast F .init = some s) (hit : it ∈ F.top autocast)
    (hnil : it.children = nil) : ShownItem autocast s.data it := by
  rw [shownItem_contents_iff h]
  by_cases hfirst : FirstHas (F.top autocast) it.key
  · obtain ⟨it', hit'⟩ := isSome_lastOf hit
    exact Or.inl ⟨hfirst, it', hit', by rw [hnil]; trivial⟩
  · exact Or.inr ⟨hfirst, hnil, it, hit, rfl, rfl⟩

omit [DecidableEq V] in
/-- Nothing but the empty forest is covered by the empty one. -/
lemma eq_nil_of_coveredBy (h : CoveredBy autocast F nil) : F = nil := by
  cases F with
  | nil => rfl
  | cons line children rest =>
    obtain ⟨⟨it, hit, -⟩, -⟩ := h
    exact absurd hit List.not_mem_nil

lemma shown_cons {line : Text} {children rest : Forest} : Shown autocast (cons line children rest) d ↔
    ShownItem autocast d ⟨lineKey autocast line, lineValue autocast line, children⟩ ∧ Shown autocast rest d := by
  rw [shown_iff, top, List.forall_mem_cons, ← shown_iff]

/-- What is covered by lines that are found is found, by induction on what is covered. -/
lemma shown_of_coveredBy (hG : Shown autocast G d) (h : CoveredBy autocast F G) : Shown autocast F d := by
  induction F generalizing G d with
  | nil => trivial
  | cons line children rest ihc ihr =>
    obtain ⟨⟨it, hit, hkey, hvalue, hchildren⟩, hrest⟩ := h
    have hhead : ShownItem autocast d ⟨lineKey autocast line, lineValue autocast line, children⟩ := by
      have hit' := shown_iff.mp hG it hit
      rw [ShownItem, hkey, hvalue] at hit'
      rcases hit' with ⟨hdict, sub, hsub, hshown⟩ | ⟨hflat, hnil, hmem⟩
      · exact Or.inl ⟨hdict, sub, hsub, ihc hshown hchildren⟩
      · exact Or.inr ⟨hflat, eq_nil_of_coveredBy (hnil ▸ hchildren), hmem⟩
    exact shown_cons.mpr ⟨hhead, ihr hG hrest⟩

lemma not_shownItem_nil : ¬ ShownItem autocast [] it := by
  rintro (⟨h, -⟩ | ⟨-, -, h⟩)
  · exact h
  · cases h

/-- The first line of a block inside replaces what the block has under its key. -/
lemma shownItem_setKey : ShownItem autocast (setKey k (.value v) d) it ↔
    if it.key = k then it.children = nil ∧ it.value = v else ShownItem autocast d it := by
  split_ifs with h
  · rw [ShownItem, h, lookup_setKey_self]
    simp [IsDict, values]
  · rw [ShownItem, lookup_setKey_of_ne h, ShownItem]

/-- What a block inside has behind its first line. -/
lemma eq_of_subBlock_cons {line : Text} {children rest : Forest}
    (h : subBlock autocast (cons line children rest) = some d) :
    ∃ s, contents autocast rest .init = some s ∧
      d = setKey (lineKey autocast line) (.value (lineValue autocast line)) s.data := by
  rw [subBlock] at h
  obtain ⟨-, -, h⟩ := Option.bind_eq_some_iff.mp h
  obtain ⟨s, hs, rfl⟩ := Option.map_eq_some_iff.mp h
  exact ⟨s, hs, rfl⟩

/-- The block inside of a line of the block. -/
lemma subBlock_of_mem (h : contents autocast F .init = some s) (hit : it ∈ F.top autocast) :
    subBlock autocast it.children = some (subOf autocast it) := by
  have hsome := (contents_eq_some_iff.mp ⟨s, h⟩).1 it hit
  rw [subOf, ← Option.some_get hsome, Option.getD_some]

/-- A line that is found after the lines of a block is one of them. -/
lemma exists_of_shownItem (h : contents autocast F .init = some s) (hit : ShownItem autocast s.data it)
    (hsub : ∀ F d, subBlock autocast F = some d → Shown autocast it.children d →
      CoveredBy autocast it.children F) :
    ∃ it' ∈ F.top autocast, it'.key = it.key ∧ it'.value = it.value ∧
      CoveredBy autocast it.children it'.children := by
  rcases (shownItem_contents_iff h).mp hit with
    ⟨-, it', hlast, hshown⟩ | ⟨-, hnil, it', hmem, hkey, hvalue⟩
  · obtain ⟨hmem, hkey, hvalue⟩ := of_lastOf hlast
    exact ⟨it', hmem, hkey, hvalue, hsub _ _ (subBlock_of_mem h hmem) hshown⟩
  · exact ⟨it', hmem, hkey, hvalue, by rw [hnil]; trivial⟩

/-- What is found is covered by the lines of the block, by induction on what is found. -/
lemma coveredBy_of_shown (U : Forest) :
    (∀ F s, contents autocast F .init = some s → Shown autocast U s.data → CoveredBy autocast U F) ∧
      ∀ F d, subBlock autocast F = some d → Shown autocast U d → CoveredBy autocast U F := by
  induction U with
  | nil => exact ⟨fun _ _ _ _ => trivial, fun _ _ _ _ => trivial⟩
  | cons line children rest ihc ihr =>
    refine ⟨fun F s h hshown => ?_, fun F d h hshown => ?_⟩
    · obtain ⟨hhead, hrest⟩ := shown_cons.mp hshown
      exact ⟨exists_of_shownItem h hhead ihc.2, ihr.1 F s h hrest⟩
    · obtain ⟨hhead, hrest⟩ := shown_cons.mp hshown
      refine ⟨?_, ihr.2 F d h hrest⟩
      cases F with
      | nil =>
        obtain rfl := Option.some.inj h
        exact absurd hhead not_shownItem_nil
      | cons line₀ children₀ rest₀ =>
        obtain ⟨s, hs, rfl⟩ := eq_of_subBlock_cons h
        rw [shownItem_setKey] at hhead
        split_ifs at hhead with hkey
        · obtain ⟨rfl, hvalue⟩ : children = nil ∧ _ := hhead
          exact ⟨_, List.mem_cons_self, hkey.symm, hvalue.symm, trivial⟩
        · obtain ⟨it, hit, hcovered⟩ := exists_of_shownItem hs hhead ihc.2
          exact ⟨it, List.mem_cons_of_mem _ hit, hcovered⟩

/-- A line with a block inside is found when the last line with its key and value has its lines. -/
lemma shownItem_iff_of_ne_nil {it' : Item V} (h : contents autocast F .init = some s)
    (hit : it ∈ F.top autocast) (hne : it.children ≠ nil)
    (hlast : lastOf it.key it.value (F.top autocast) = some it') :
    ShownItem autocast s.data it ↔ it.key ≠ .none ∧ Shown autocast it.children (subOf autocast it') := by
  rw [shownItem_contents_iff h, hlast]
  constructor
  · rintro (⟨hfirst, _, ⟨⟩, hshown⟩ | ⟨-, hnil, -⟩)
    · exact ⟨hfirst.1, hshown⟩
    · exact absurd hnil hne
  · rintro ⟨hkey, hshown⟩
    exact Or.inl ⟨(contents_eq_some_iff.mp ⟨s, h⟩).2 it hit hne hkey, it', rfl, hshown⟩

/-- The condition on a line, in terms of what is found. -/
lemma shownItem_iff_kept {pre l : List (Item V)} (h : contents autocast F .init = some s)
    (htop : F.top autocast = pre ++ it :: l) (hl : ∀ it' ∈ l, ShownItem autocast s.data it')
    (hsub : ∀ d, subBlock autocast it.children = some d →
      (Shown autocast it.children d ↔ FirstAlone autocast it.children ∧ Kept autocast it.children)) :
    ShownItem autocast s.data it ↔ (it.children ≠ nil → it.key ≠ .none ∧
      match lastOf it.key it.value l with
      | none => FirstAlone autocast it.children ∧ Kept autocast it.children
      | some it' => CoveredBy autocast it.children it'.children) := by
  have hit : it ∈ F.top autocast := htop ▸ List.mem_append_right pre List.mem_cons_self
  by_cases hnil : it.children = nil
  · exact iff_of_true (shownItem_of_nil h hit hnil) fun hne => absurd hnil hne
  have hlast : ∀ {it'}, lastOf it.key it.value l = some it' →
      lastOf it.key it.value (F.top autocast) = some it' := fun heq => by
    rw [htop, lastOf_append, lastOf, heq]
    rfl
  rw [forall_prop_of_true hnil]
  cases heq : lastOf it.key it.value l with
  | none =>
    have hself : lastOf it.key it.value (F.top autocast) = some it := by
      rw [htop, lastOf_append, lastOf, heq, if_pos ⟨rfl, rfl⟩]
      rfl
    rw [shownItem_iff_of_ne_nil h hit hnil hself, hsub _ (subBlock_of_mem h hit)]
  | some it' =>
    rw [shownItem_iff_of_ne_nil h hit hnil (hlast heq)]
    refine and_congr_right fun hkey => ?_
    obtain ⟨hmem, hkey', hvalue'⟩ := of_lastOf heq
    have hit' : it' ∈ F.top autocast := htop ▸ List.mem_append_right pre (List.mem_cons_of_mem it hmem)
    refine ⟨(coveredBy_of_shown _).2 _ _ (subBlock_of_mem h hit'), fun hcovered => ?_⟩
    have hne' : it'.children ≠ nil := by
      intro hnil'
      simp only [hnil'] at hcovered
      exact hnil (eq_nil_of_coveredBy hcovered)
    have hlast' : lastOf it'.key it'.value (F.top autocast) = some it' := by
      rw [hkey', hvalue', hlast heq]
    exact shown_of_coveredBy ((shownItem_iff_of_ne_nil h hit' hne' hlast').mp (hl it' hmem)).2 hcovered

/-- **What is found**, by induction on the forest: of the last lines of a block, and of a block inside. -/
lemma shown_iff_kept (G : Forest) :
    (∀ F s pre, contents autocast F .init = some s → F.top autocast = pre ++ G.top autocast →
      (Shown autocast G s.data ↔ Kept autocast G)) ∧
    ∀ d, subBlock autocast G = some d → (Shown autocast G d ↔ FirstAlone autocast G ∧ Kept autocast G) := by
  induction G with
  | nil => exact ⟨fun _ _ _ _ _ => Iff.rfl, fun _ _ => iff_of_true trivial ⟨trivial, trivial⟩⟩
  | cons line children rest ihc ihr =>
    refine ⟨fun F s pre h htop => ?_, fun d h => ?_⟩
    · have htop' : F.top autocast =
          (pre ++ [⟨lineKey autocast line, lineValue autocast line, children⟩]) ++ rest.top autocast := by
        rw [htop, top, List.append_assoc, List.singleton_append]
      rw [shown_cons, Kept, ← ihr.1 F s _ h htop']
      exact and_congr_left fun hrest => shownItem_iff_kept h htop (shown_iff.mp hrest) ihc.2
    · obtain ⟨s, hs, rfl⟩ := eq_of_subBlock_cons h
      have hrest := ihr.1 rest s [] hs rfl
      have hkept : children = nil → (Kept autocast (cons line children rest) ↔ Kept autocast rest) := by
        rintro rfl
        exact ⟨fun h => h.2, fun h => ⟨fun hne => absurd rfl hne, h⟩⟩
      rw [shown_cons, shownItem_setKey, if_pos rfl, FirstAlone, shown_iff]
      simp only [and_true, shownItem_setKey]
      constructor
      · rintro ⟨hnil, hshown⟩
        refine ⟨⟨hnil, fun it hit hkey => ?_⟩, (hkept hnil).mpr (hrest.mp (shown_iff.mpr fun it hit => ?_))⟩
        · simpa [hkey] using hshown it hit
        · have hit' := hshown it hit
          split_ifs at hit' with hkey
          · exact shownItem_of_nil hs hit hit'.1
          · exact hit'
      · rintro ⟨⟨hnil, halone⟩, hG⟩
        refine ⟨hnil, fun it hit => ?_⟩
        split_ifs with hkey
        · exact halone it hit hkey
        · exact shown_iff.mp (hrest.mpr ((hkept hnil).mp hG)) it hit

/-- **Nothing is lost exactly when** no key of a block gets a block inside that its first line did not
have, and every block inside is kept. -/
theorem parse_shows_iff {rawData : Text} (hlines : splitlines rawData = F.lines) (hF : Laid 0 F) :
    (∃ d, parse autocast rawData = .ok d ∧ Shown autocast F d) ↔
      Unmixed autocast F ∧ Calm autocast F ∧ Kept autocast F := by
  rw [parse_eq hlines hF]
  have hsome : (∃ s, contents autocast F .init = some s) ↔ Unmixed autocast F ∧ Calm autocast F := by
    rw [contents_eq_some_iff, (isSome_subBlock_iff F).2, and_comm]
  rw [← and_assoc, ← hsome]
  cases h : contents autocast F .init with
  | none => simp
  | some s =>
    have hkept := (shown_iff_kept F).1 F s [] h rfl
    simp [hkept]

/-- A block of two lines. -/
theorem parse_shows_block :
    ∃ d, parse (fun t => (.text t : Scalar Unit)) "pl=on\n cpu=ok\n mem=low".toList = .ok d ∧
      Shown (fun t => .text t)
        (cons "pl=on".toList (cons " cpu=ok".toList nil (cons " mem=low".toList nil nil)) nil) d := by
  have hblock : Laid 1 (cons " cpu=ok".toList nil (cons " mem=low".toList nil nil)) :=
    ⟨by decide, by decide, ⟨2, by decide, trivial⟩, by decide, by decide, ⟨2, by decide, trivial⟩, trivial⟩
  have hF : Laid 0 (cons "pl=on".toList (cons " cpu=ok".toList nil (cons " mem=low".toList nil nil)) nil) :=
    ⟨by decide, by decide, ⟨1, by decide, hblock⟩, trivial⟩
  refine (parse_shows_iff (by decide) hF).mpr ⟨?_, ?_, ?_⟩
  · simp [Unmixed, top, FirstHas, lineKey]
  · simp [Unmixed, top, Calm, behind]
  · simp [Kept, top, lastOf, FirstAlone, lineKey]
    decide

/-- What is nested in the first line of a block is lost, and a block at a repeated key raises. -/
theorem not_parse_shows :
    (¬ ∃ d, parse (fun t => (.text t : Scalar Unit)) "pl=on\n cpu=ok\n  mem=low".toList = .ok d ∧
      Shown (fun t => .text t)
        (cons "pl=on".toList (cons " cpu=ok".toList (cons "  mem=low".toList nil nil) nil) nil) d) ∧
    parse (fun t => (.text t : Scalar Unit)) "pl=on\npl=off\n cpu=ok".toList = .error .typeError := by
  constructor
  · rintro ⟨d, hparse, hshown⟩
    have hlost : parse (fun t => (.text t : Scalar Unit)) "pl=on\n cpu=ok\n  mem=low".toList = .ok
        [(.text "pl".toList, .dict
          [(.text "on".toList, [(.text "cpu".toList, .value (.text "ok".toList))])])] := by rfl
    obtain rfl := Except.ok.inj (hparse.symm.trans hlost)
    exact absurd hshown.1.1.1 (by decide)
  · rfl

end Forest

end HssUtils
