import Mathlib.Order.Basic
import Mathlib.Data.List.Basic
import Mathlib.Tactic.Common
import Mathlib.Order.Lattice

/-!
# Ordered maps

A map whose entries are kept in the order of their keys, so that a loop over the map meets them in
this order.  As with the map of the C++ library, `insert` does not change the value of a key that the
map has, and `assign` does.
-/

/-- A finite map, with its entries in the order of the keys. -/
structure OrderedMap (κ ν : Type*) [LinearOrder κ] where
  /-- The keys and values. -/
  entries : List (κ × ν)
  /-- The keys grow. -/
  sorted : entries.Pairwise fun a b => a.1 < b.1

namespace OrderedMap

variable {κ ν ω : Type*} [LinearOrder κ]

/-- Maps with the same entries are the same. -/
lemma eq_of_entries {m m' : OrderedMap κ ν} (h : m.entries = m'.entries) : m = m' := by
  cases m
  cases m'
  cases h
  rfl

/-- The map without entries. -/
def empty : OrderedMap κ ν where
  entries := []
  sorted := List.Pairwise.nil

instance : EmptyCollection (OrderedMap κ ν) := ⟨empty⟩

/-- The value of a key. -/
def find? (m : OrderedMap κ ν) (k : κ) : Option ν :=
  (m.entries.find? fun e => e.1 = k).map Prod.snd

/-- Put an entry at its place, and give the value `f v` to a key with value `v`. -/
def insertInto (k : κ) (new : ν) (f : ν → ν) : List (κ × ν) → List (κ × ν)
  | [] => [(k, new)]
  | e :: es =>
    if k < e.1 then (k, new) :: e :: es
    else if k = e.1 then (k, f e.2) :: es
    else e :: insertInto k new f es

/-- Every entry is the new one, that of the key, or an old one. -/
lemma mem_insertInto {k : κ} {new : ν} {f : ν → ν} {l : List (κ × ν)} {x : κ × ν}
    (h : x ∈ insertInto k new f l) : x = (k, new) ∨ (∃ v, (k, v) ∈ l ∧ x = (k, f v)) ∨ x ∈ l := by
  induction l with
  | nil => exact Or.inl (List.mem_singleton.mp h)
  | cons e es ih =>
    rw [insertInto] at h
    split_ifs at h with hlt heq
    · rcases List.mem_cons.mp h with rfl | h
      · exact Or.inl rfl
      · exact Or.inr (Or.inr h)
    · rcases List.mem_cons.mp h with rfl | h
      · exact Or.inr (Or.inl ⟨e.2, heq ▸ List.mem_cons_self, rfl⟩)
      · exact Or.inr (Or.inr (List.mem_cons_of_mem _ h))
    · rcases List.mem_cons.mp h with rfl | h
      · exact Or.inr (Or.inr List.mem_cons_self)
      · rcases ih h with h | ⟨v, hv, h⟩ | h
        · exact Or.inl h
        · exact Or.inr (Or.inl ⟨v, List.mem_cons_of_mem _ hv, h⟩)
        · exact Or.inr (Or.inr (List.mem_cons_of_mem _ h))

/-- The key has the new value. -/
lemma mem_insertInto_self {k : κ} {v : ν} (l : List (κ × ν)) :
    (k, v) ∈ insertInto k v (fun _ => v) l := by
  induction l with
  | nil => exact List.mem_cons_self
  | cons e es ih =>
    rw [insertInto]
    split_ifs with hlt heq
    · exact List.mem_cons_self
    · exact List.mem_cons_self
    · exact List.mem_cons_of_mem _ ih

/-- The other entries are kept. -/
lemma mem_insertInto_of_ne {k k' : κ} {new v : ν} {f : ν → ν} {l : List (κ × ν)} (h : k' ≠ k) :
    (k', v) ∈ insertInto k new f l ↔ (k', v) ∈ l := by
  induction l with
  | nil => simp [insertInto, h]
  | cons e es ih =>
    rw [insertInto]
    split_ifs with hlt heq
    · simp [h]
    · subst heq
      obtain ⟨ek, ev⟩ := e
      simp [h]
    · rw [List.mem_cons, List.mem_cons, ih]

/-- Without an entry of the key it does not matter how its value would change. -/
lemma insertInto_eq_of_notMem {k : κ} {new : ν} {f g : ν → ν} {l : List (κ × ν)}
    (h : ∀ v, (k, v) ∉ l) : insertInto k new f l = insertInto k new g l := by
  induction l with
  | nil => rfl
  | cons e es ih =>
    have hne : k ≠ e.1 := by
      rintro rfl
      exact h e.2 List.mem_cons_self
    rw [insertInto, insertInto, if_neg hne, if_neg hne,
      ih fun v hv => h v (List.mem_cons_of_mem e hv)]

/-- An entry that is there stays at its place. -/
lemma insertInto_id_of_mem {k : κ} {new v : ν} {l : List (κ × ν)}
    (hl : l.Pairwise fun a b => a.1 < b.1) (h : (k, v) ∈ l) : insertInto k new id l = l := by
  induction l with
  | nil => nomatch h
  | cons e es ih =>
    obtain ⟨he, hes⟩ := List.pairwise_cons.mp hl
    rw [insertInto]
    rcases List.mem_cons.mp h with rfl | h
    · rw [if_neg (lt_irrefl _), if_pos rfl]
      rfl
    · have hlt : e.1 < k := he _ h
      rw [if_neg (lt_asymm hlt), if_neg hlt.ne', ih hes h]

/-- The entries stay in order. -/
lemma sorted_insertInto {k : κ} {new : ν} {f : ν → ν} {l : List (κ × ν)}
    (h : l.Pairwise fun a b => a.1 < b.1) :
    (insertInto k new f l).Pairwise fun a b => a.1 < b.1 := by
  induction l with
  | nil => exact List.pairwise_singleton _ _
  | cons e es ih =>
    obtain ⟨he, hes⟩ := List.pairwise_cons.mp h
    rw [insertInto]
    split_ifs with hlt heq
    · refine List.pairwise_cons.mpr ⟨fun x hx => ?_, h⟩
      rcases List.mem_cons.mp hx with rfl | hx
      · exact hlt
      · exact lt_trans hlt (he x hx)
    · refine List.pairwise_cons.mpr ⟨fun x hx => ?_, hes⟩
      exact heq ▸ he x hx
    · have hgt : e.1 < k := lt_of_le_of_ne (not_lt.mp hlt) (Ne.symm heq)
      refine List.pairwise_cons.mpr ⟨fun x hx => ?_, ih hes⟩
      rcases mem_insertInto hx with rfl | ⟨v, _, rfl⟩ | hx
      · exact hgt
      · exact hgt
      · exact he x hx

/-- Add an entry, unless the map has the key. -/
def insert (m : OrderedMap κ ν) (k : κ) (v : ν) : OrderedMap κ ν where
  entries := insertInto k v id m.entries
  sorted := sorted_insertInto m.sorted

/-- Add an entry, or give the key another value. -/
def assign (m : OrderedMap κ ν) (k : κ) (v : ν) : OrderedMap κ ν where
  entries := insertInto k v (fun _ => v) m.entries
  sorted := sorted_insertInto m.sorted

/-- Change the values. -/
def map (f : κ → ν → ω) (m : OrderedMap κ ν) : OrderedMap κ ω where
  entries := m.entries.map fun e => (e.1, f e.1 e.2)
  sorted := List.pairwise_map.mpr m.sorted

/-- Change the value of one key. -/
def modify (m : OrderedMap κ ν) (k : κ) (f : ν → ν) : OrderedMap κ ν :=
  m.map fun k' v => if k' = k then f v else v

/-- The first key in the order with a property. -/
def firstKey (m : OrderedMap κ ν) (p : κ → Bool) : Option κ :=
  (m.entries.map Prod.fst).find? p

/-! ## Values -/

variable {m : OrderedMap κ ν} {f : κ → ν → ω} {k k' : κ} {v : ν}

@[simp]
lemma entries_map : (m.map f).entries = m.entries.map fun e => (e.1, f e.1 e.2) := rfl

/-- Two entries with the same key are the same entry. -/
lemma eq_of_mem {e e' : κ × ν} (h : e ∈ m.entries) (h' : e' ∈ m.entries) (hkey : e.1 = e'.1) :
    e = e' := by
  by_contra hne
  have hlt := List.pairwise_iff_getElem.mp m.sorted
  obtain ⟨i, hi, rfl⟩ := List.getElem_of_mem h
  obtain ⟨j, hj, rfl⟩ := List.getElem_of_mem h'
  rcases Nat.lt_trichotomy i j with hij | rfl | hij
  · exact (hlt i j hi hj hij).ne hkey
  · exact hne rfl
  · exact (hlt j i hj hi hij).ne hkey.symm

/-- The value of a key is that of its entry. -/
lemma find?_eq_some_iff : m.find? k = some v ↔ (k, v) ∈ m.entries := by
  rw [find?, Option.map_eq_some_iff]
  constructor
  · rintro ⟨e, he, rfl⟩
    have hkey : e.1 = k := by simpa using List.find?_some he
    exact hkey ▸ List.mem_of_find?_eq_some he
  · intro h
    cases hfind : m.entries.find? fun e => decide (e.1 = k) with
    | none => exact absurd (List.find?_eq_none.mp hfind _ h) (by simp)
    | some e =>
      have hkey : e.1 = k := by simpa using List.find?_some hfind
      exact ⟨e, rfl, congrArg Prod.snd (eq_of_mem (List.mem_of_find?_eq_some hfind) h hkey)⟩

lemma find?_map : (m.map f).find? k = (m.find? k).map (f k) := by
  ext w
  rw [find?_eq_some_iff, entries_map, List.mem_map, Option.map_eq_some_iff]
  constructor
  · rintro ⟨e, he, heq⟩
    cases heq
    exact ⟨e.2, find?_eq_some_iff.mpr he, rfl⟩
  · rintro ⟨v, hv, rfl⟩
    exact ⟨(k, v), find?_eq_some_iff.mp hv, rfl⟩

lemma find?_modify_self {g : ν → ν} : (m.modify k g).find? k = (m.find? k).map g := by
  rw [modify, find?_map]
  simp

lemma find?_modify_of_ne {g : ν → ν} (h : k' ≠ k) : (m.modify k g).find? k' = m.find? k' := by
  rw [modify, find?_map]
  simp [h]

lemma find?_assign_self : (m.assign k v).find? k = some v :=
  find?_eq_some_iff.mpr (mem_insertInto_self m.entries)

lemma find?_assign_of_ne (h : k' ≠ k) : (m.assign k v).find? k' = m.find? k' := by
  ext w
  rw [find?_eq_some_iff, find?_eq_some_iff]
  exact mem_insertInto_of_ne h

lemma find?_insert_of_ne (h : k' ≠ k) : (m.insert k v).find? k' = m.find? k' := by
  ext w
  rw [find?_eq_some_iff, find?_eq_some_iff]
  exact mem_insertInto_of_ne h

/-- A new entry is found. -/
lemma find?_insert_self (h : m.find? k = none) : (m.insert k v).find? k = some v := by
  have hno : ∀ w, (k, w) ∉ m.entries := fun w hw => by
    rw [find?_eq_some_iff.mpr hw] at h
    cases h
  rw [find?_eq_some_iff]
  change (k, v) ∈ insertInto k v id m.entries
  rw [insertInto_eq_of_notMem (g := fun _ => v) hno]
  exact mem_insertInto_self m.entries

/-- A key that the map has keeps its value. -/
lemma find?_insert_of_isSome (h : (m.find? k).isSome) : (m.insert k v).find? k' = m.find? k' := by
  obtain ⟨w, hw⟩ := Option.isSome_iff_exists.mp h
  have hentries : (m.insert k v).entries = m.entries :=
    insertInto_id_of_mem m.sorted (find?_eq_some_iff.mp hw)
  rw [find?, hentries]
  rfl

/-- What the map has is kept by an insertion. -/
lemma find?_insert_of_mem (h : (m.find? k).isSome) : (m.insert k' v).find? k = m.find? k := by
  by_cases hk : k = k'
  · exact find?_insert_of_isSome (hk ▸ h)
  · exact find?_insert_of_ne hk

/-- The key that is found is one of the map. -/
lemma mem_of_firstKey {p : κ → Bool} (h : m.firstKey p = some k) : ∃ v, (k, v) ∈ m.entries := by
  obtain ⟨e, he, rfl⟩ := List.mem_map.mp (List.mem_of_find?_eq_some h)
  exact ⟨e.2, he⟩

lemma of_firstKey {p : κ → Bool} (h : m.firstKey p = some k) : p k = true := List.find?_some h

/-- Two changes of the values agree when they do on every entry. -/
lemma map_eq_map_iff {f' : κ → ν → ω} :
    m.map f = m.map f' ↔ ∀ e ∈ m.entries, f e.1 e.2 = f' e.1 e.2 := by
  constructor
  · intro h e he
    have hfind := congrArg (fun m : OrderedMap κ ω => m.find? e.1) h
    simpa only [find?_map, find?_eq_some_iff.mpr he, Option.map_some, Option.some.injEq] using hfind
  · intro h
    exact eq_of_entries (List.map_congr_left fun e he => congrArg (Prod.mk e.1) (h e he))

/-- A change that a function does not see. -/
lemma map_modify {g : ν → ν} (h : ∀ v, f k (g v) = f k v) : (m.modify k g).map f = m.map f := by
  refine eq_of_entries ?_
  rw [modify, entries_map, entries_map, entries_map, List.map_map]
  refine List.map_congr_left fun e _ => ?_
  by_cases he : e.1 = k
  · subst he
    simp [h]
  · simp [he]

/-! ## Properties of all entries -/

/-- All entries have a property. -/
def All (P : κ → ν → Prop) (m : OrderedMap κ ν) : Prop := ∀ e ∈ m.entries, P e.1 e.2

variable {P : κ → ν → Prop}

lemma All.empty : All P (∅ : OrderedMap κ ν) := fun _ h => nomatch h

lemma All.insert (hm : All P m) (hv : P k v) : All P (m.insert k v) := by
  intro e he
  rcases mem_insertInto he with rfl | ⟨w, hw, rfl⟩ | he
  · exact hv
  · exact hm _ hw
  · exact hm _ he

lemma All.assign (hm : All P m) (hv : P k v) : All P (m.assign k v) := by
  intro e he
  rcases mem_insertInto he with rfl | ⟨w, hw, rfl⟩ | he
  · exact hv
  · exact hv
  · exact hm _ he

lemma All.map {Q : κ → ω → Prop} (hm : All P m) (hf : ∀ k v, P k v → Q k (f k v)) :
    All Q (m.map f) := by
  intro e he
  obtain ⟨x, hx, rfl⟩ := List.mem_map.mp he
  exact hf _ _ (hm x hx)

lemma All.modify {g : ν → ν} (hm : All P m) (hg : ∀ v, P k v → P k (g v)) :
    All P (m.modify k g) := by
  refine hm.map fun k' v hv => ?_
  split_ifs with h
  · subst h
    exact hg v hv
  · exact hv

end OrderedMap
