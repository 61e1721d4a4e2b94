import Mathlib.Data.List.AList

/-!
# Dictionaries

A dictionary is a finite map that keeps the order of its keys.  `AList` has insertion and
deletion; here are the operations that change values in place, and the deletion of all entries
of a kind.  In-place changes keep the list of keys, so a loop over the keys read beforehand
stays meaningful.

`get?` is the look-up at values of one type.  Every operation comes with one lemma that says what
`get?` finds afterwards.
-/

/-- A dictionary with values of one type. -/
abbrev Dict (κ α : Type*) := AList fun _ : κ => α

namespace Dict

variable {κ α : Type*}

/-- The values, in the order of the keys. -/
def values (d : Dict κ α) : List α := d.entries.map Sigma.snd

/-- Change every value by a function of its key. -/
def mapWithKey (d : Dict κ α) (g : κ → α → α) : Dict κ α :=
  ⟨d.entries.map fun e => ⟨e.1, g e.1 e.2⟩, by
    have hkeys := d.nodupKeys
    simpa [List.NodupKeys, List.keys, Function.comp_def] using hkeys⟩

variable [DecidableEq κ]

/-- The value of a key, if it is there. -/
def get? (d : Dict κ α) (k : κ) : Option α := AList.lookup k d

/-- Change the value of one key, if it is there. -/
def modify (d : Dict κ α) (k : κ) (f : α → α) : Dict κ α :=
  d.mapWithKey fun k' v => if k' = k then f v else v

/-- Give a key a value: in place if the key is there, as a new entry otherwise. -/
def set (d : Dict κ α) (k : κ) (v : α) : Dict κ α :=
  if (d.get? k).isSome then d.modify k fun _ => v else AList.insert k v d

/-- Delete a key. -/
def delete (d : Dict κ α) (k : κ) : Dict κ α := AList.erase k d

/-- Go through the entries and delete those whose value meets `p`. -/
def prune (p : α → Bool) (d : Dict κ α) : Dict κ α :=
  d.entries.foldl (fun acc e => if p e.2 then delete acc e.1 else acc) d

variable {d : Dict κ α} {k k' : κ} {v : α} {f : α → α} {g : κ → α → α}

/-- Nothing is found in the empty dictionary. -/
@[simp] lemma get?_empty : get? (∅ : Dict κ α) k = none := rfl

/-- A look-up finds an entry of the dictionary. -/
lemma get?_eq_some_iff : d.get? k = some v ↔ (⟨k, v⟩ : Sigma fun _ : κ => α) ∈ d.entries :=
  AList.mem_lookup_iff

/-- A key is listed when a look-up finds it. -/
lemma mem_keys_iff : k ∈ d.keys ↔ ∃ v, d.get? k = some v := by
  rw [← AList.mem_keys, ← AList.lookup_isSome, Option.isSome_iff_exists]
  rfl

/-- The values are what look-ups find. -/
lemma mem_values : v ∈ d.values ↔ ∃ k, d.get? k = some v := by
  simp only [values, List.mem_map, get?_eq_some_iff]
  constructor
  · rintro ⟨e, he, rfl⟩
    exact ⟨e.1, he⟩
  · rintro ⟨k, hk⟩
    exact ⟨_, hk, rfl⟩

/-! ## Changes in place -/

omit [DecidableEq κ] in
/-- Changing values keeps the keys. -/
@[simp] lemma keys_mapWithKey : (d.mapWithKey g).keys = d.keys := by
  simp [mapWithKey, AList.keys, List.keys, Function.comp_def]

/-- What is found after changing every value. -/
@[simp] lemma get?_mapWithKey : (d.mapWithKey g).get? k = (d.get? k).map (g k) := by
  obtain ⟨l, hl⟩ := d
  simp only [get?, AList.lookup, mapWithKey]
  clear hl
  induction l with
  | nil => rfl
  | cons e l ih =>
    obtain ⟨k', v⟩ := e
    rcases eq_or_ne k k' with rfl | hne
    · simp [List.dlookup_cons_eq]
    · simpa [List.dlookup_cons_ne, hne] using ih

/-- Changing one value keeps the keys. -/
@[simp] lemma keys_modify : (d.modify k f).keys = d.keys := keys_mapWithKey

/-- What is found after changing one value. -/
lemma get?_modify :
    (d.modify k f).get? k' = if k' = k then (d.get? k').map f else d.get? k' := by
  rw [modify, get?_mapWithKey]
  split_ifs with h <;> simp

/-- The changed value is found under its key. -/
@[simp] lemma get?_modify_self : (d.modify k f).get? k = (d.get? k).map f := by
  rw [get?_modify, if_pos rfl]

/-- The values of other keys stay. -/
lemma get?_modify_of_ne (h : k' ≠ k) : (d.modify k f).get? k' = d.get? k' := by
  rw [get?_modify, if_neg h]

/-! ## New values and deletions -/

/-- What is found after giving a key a value. -/
lemma get?_set : (d.set k v).get? k' = if k' = k then some v else d.get? k' := by
  unfold set
  split_ifs with hk h h
  · subst h
    obtain ⟨w, hw⟩ := Option.isSome_iff_exists.mp hk
    rw [get?_modify_self, hw, Option.map_some]
  · exact get?_modify_of_ne h
  · subst h
    exact AList.lookup_insert d
  · exact AList.lookup_insert_ne h

/-- What is found after a deletion. -/
lemma get?_delete : (d.delete k).get? k' = if k' = k then none else d.get? k' := by
  split_ifs with h
  · subst h
    exact AList.lookup_erase _ d
  · exact AList.lookup_erase_ne h

/-- Going through a list of entries deletes the keys of those that meet `p`. -/
lemma get?_foldl_delete {p : α → Bool} (es : List (Sigma fun _ : κ => α)) (acc : Dict κ α) :
    get? (es.foldl (fun acc e => if p e.2 then delete acc e.1 else acc) acc) k =
      if es.any (fun e => p e.2 && decide (e.1 = k)) then none else acc.get? k := by
  induction es generalizing acc with
  | nil => rfl
  | cons e es ih =>
    rw [List.foldl_cons, ih, List.any_cons]
    rcases eq_or_ne k e.1 with rfl | hne
    · cases hp : p e.2
      · rw [Bool.false_and, Bool.false_or, if_neg Bool.false_ne_true]
      · simp [get?_delete]
    · have hget : get? (if p e.2 then delete acc e.1 else acc) k = acc.get? k := by
        split_ifs
        · rw [get?_delete, if_neg hne]
        · rfl
      rw [hget, decide_eq_false hne.symm, Bool.and_false, Bool.false_or]

/-- What is found after deleting the entries whose value meets `p`. -/
@[simp] lemma get?_prune {p : α → Bool} :
    (d.prune p).get? k = (d.get? k).filter fun v => !p v := by
  rw [prune, get?_foldl_delete]
  cases hk : d.get? k with
  | none => simp
  | some v =>
    have hany : d.entries.any (fun e => p e.2 && decide (e.1 = k)) = p v := by
      rw [Bool.eq_iff_iff, List.any_eq_true]
      constructor
      · rintro ⟨e, he, h⟩
        simp only [Bool.and_eq_true, decide_eq_true_eq] at h
        obtain ⟨hp, rfl⟩ := h
        have hv : some e.2 = some v := (get?_eq_some_iff.mpr he).symm.trans hk
        exact Option.some.inj hv ▸ hp
      · intro hp
        exact ⟨⟨k, v⟩, get?_eq_some_iff.mp hk, by simp [hp]⟩
    rw [hany]
    cases hp : p v <;> simp [Option.filter_some, hp]

end Dict
