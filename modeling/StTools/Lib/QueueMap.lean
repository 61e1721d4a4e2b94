import Mathlib.Data.List.AList
import Mathlib.Algebra.Order.Group.Multiset
import Mathlib.Data.Multiset.Filter

/-!
# Maps from keys to queues

A map that gives some keys a queue each: keys are opened with an empty queue, elements are pushed
at the back and taken from the front, and closing a key gives up its queue.

`items` is the multiset of everything that is queued, with its key.  Every operation changes it
by a sum, so a property of all queued elements, or their number, is followed through a run
without looking at the queues one by one.
-/

/-- A finite map from keys to queues. -/
abbrev QueueMap (K M : Type*) := AList fun _ : K => List M

namespace QueueMap

variable {K M : Type*}

/-! ## Queued elements with their keys -/

/-- The elements of one queue, with its key. -/
def keyed (k : K) (l : List M) : Multiset (K × M) := (l.map fun m => (k, m) : List (K × M))

/-- Everything that is queued, with its key. -/
def items (q : QueueMap K M) : Multiset (K × M) :=
  (q.entries.flatMap fun e => e.2.map fun m => (e.1, m) : List (K × M))

variable {k : K} {l : List M} {m : M}

/-- The empty queue has no elements. -/
@[simp] lemma keyed_nil : keyed k ([] : List M) = 0 := rfl

/-- The front element and the rest of a queue. -/
@[simp] lemma keyed_cons : keyed k (m :: l) = (k, m) ::ₘ keyed k l := rfl

/-- The elements of a queue made of two parts. -/
lemma keyed_append {l' : List M} : keyed k (l ++ l') = keyed k l + keyed k l' := by
  simp [keyed]

/-- What is queued under one key. -/
@[simp] lemma mem_keyed {p : K × M} : p ∈ keyed k l ↔ p.1 = k ∧ p.2 ∈ l := by
  obtain ⟨k', m⟩ := p
  simp only [keyed, Multiset.mem_coe, List.mem_map, Prod.mk.injEq]
  constructor
  · rintro ⟨m', hm', rfl, rfl⟩
    exact ⟨rfl, hm'⟩
  · rintro ⟨rfl, hm⟩
    exact ⟨m, hm, rfl, rfl⟩

/-- Nothing is queued in the empty map. -/
@[simp] lemma items_empty : items (∅ : QueueMap K M) = 0 := rfl

variable [DecidableEq K]

/-! ## Operations -/

/-- Give a key an empty queue, unless it has a queue already. -/
def openQueue (q : QueueMap K M) (k : K) : QueueMap K M :=
  if (q.lookup k).isSome then q else q.insert k []

/-- Change the queue of a key; a key without a queue stays without. -/
def mapQueue (q : QueueMap K M) (k : K) (f : List M → List M) : QueueMap K M :=
  match q.lookup k with
  | none => q
  | some l => q.insert k (f l)

/-- Put an element at the back of the queue of a key. -/
def push (q : QueueMap K M) (k : K) (m : M) : QueueMap K M := mapQueue q k fun l => l ++ [m]

/-- Take the front element off the queue of a key. -/
def popFront (q : QueueMap K M) (k : K) : QueueMap K M := mapQueue q k List.tail

/-- Change the front element of the queue of a key. -/
def modifyFront (q : QueueMap K M) (k : K) (f : M → M) : QueueMap K M :=
  mapQueue q k fun l => l.modifyHead f

/-- Give up the queue of a key. -/
def closeQueue (q : QueueMap K M) (k : K) : QueueMap K M := q.erase k

/-! ## What is read after an operation -/

variable {q : QueueMap K M} {k' : K}

/-- The queue of a key after its queue was changed. -/
lemma lookup_mapQueue_self (f : List M → List M) :
    (mapQueue q k f).lookup k = (q.lookup k).map f := by
  unfold mapQueue
  split
  · rename_i h
    rw [h, Option.map_none]
  · rename_i l h
    rw [h, Option.map_some, AList.lookup_insert]

/-- Changing one queue leaves the others. -/
lemma lookup_mapQueue_of_ne (f : List M → List M) (h : k' ≠ k) :
    (mapQueue q k f).lookup k' = q.lookup k' := by
  unfold mapQueue
  split
  · rfl
  · exact AList.lookup_insert_ne h

/-- A closed key has no queue. -/
@[simp] lemma lookup_closeQueue_self : (closeQueue q k).lookup k = none := AList.lookup_erase k q

/-- Closing a key leaves the other queues. -/
lemma lookup_closeQueue_of_ne (h : k' ≠ k) : (closeQueue q k).lookup k' = q.lookup k' :=
  AList.lookup_erase_ne h

/-! ## The multiset of queued elements -/

/-- Closing a key without a queue changes nothing. -/
lemma closeQueue_of_lookup_none (h : q.lookup k = none) : closeQueue q k = q := by
  have hk : k ∉ q := AList.lookup_eq_none.mp h
  exact AList.ext (List.kerase_of_notMem_keys hk)

/-- **Splitting rule.**  The elements of one queue, and those of the map without it. -/
lemma items_eq_add (h : q.lookup k = some l) : items q = keyed k l + items (closeQueue q k) := by
  have hk : k ∈ q.entries.keys := AList.mem_keys.mp (AList.lookup_isSome.mp (by rw [h]; rfl))
  obtain ⟨b, l₁, l₂, hnotin, hentries, herase⟩ := List.exists_of_kerase hk
  have hb : b = l := by
    have hmem : (⟨k, b⟩ : Sigma fun _ : K => List M) ∈ q.entries := by
      rw [hentries]
      exact List.mem_append_right _ List.mem_cons_self
    exact Option.some.inj ((AList.mem_lookup_iff.mpr hmem).symm.trans h)
  subst hb
  have hclose : (closeQueue q k).entries = l₁ ++ l₂ := herase
  unfold items
  rw [hentries, hclose]
  simp only [List.flatMap_append, List.flatMap_cons, ← Multiset.coe_add, keyed]
  rw [add_left_comm]

/-- A queue that is put in replaces the old queue of its key. -/
lemma items_insert : items (q.insert k l) = keyed k l + items (closeQueue q k) := by
  unfold items
  rw [AList.entries_insert, List.flatMap_cons, ← Multiset.coe_add]
  rfl

/-- Changing one queue changes its share of the elements. -/
lemma items_mapQueue (f : List M → List M) (h : q.lookup k = some l) :
    items (mapQueue q k f) = keyed k (f l) + items (closeQueue q k) := by
  unfold mapQueue
  rw [h]
  exact items_insert

/-- A pushed element is added to what is queued. -/
lemma items_push (h : q.lookup k = some l) : items (push q k m) = (k, m) ::ₘ items q := by
  unfold push
  rw [items_mapQueue _ h, items_eq_add h, keyed_append, keyed_cons, keyed_nil, Multiset.cons_zero,
    add_right_comm, add_comm _ {(k, m)}, Multiset.singleton_add]

/-- Taking the front element off removes it from what is queued. -/
lemma items_popFront (h : q.lookup k = some (m :: l)) :
    items q = (k, m) ::ₘ items (popFront q k) := by
  unfold popFront
  rw [items_mapQueue _ h, items_eq_add h, keyed_cons, List.tail_cons, Multiset.cons_add]

/-- Changing the front element replaces it in what is queued. -/
lemma items_modifyFront (f : M → M) (h : q.lookup k = some (m :: l)) :
    items (modifyFront q k f) = (k, f m) ::ₘ items (popFront q k) := by
  unfold modifyFront popFront
  rw [items_mapQueue _ h, items_mapQueue _ h, List.modifyHead_cons, keyed_cons, List.tail_cons,
    Multiset.cons_add]

/-- Opening a key queues nothing. -/
@[simp] lemma items_openQueue : items (openQueue q k) = items q := by
  unfold openQueue
  split
  · rfl
  · rename_i h
    rw [items_insert, keyed_nil, zero_add,
      closeQueue_of_lookup_none (Option.not_isSome_iff_eq_none.mp h)]

/-- An element is queued under a key when it is in the queue of that key. -/
lemma mem_items : (k, m) ∈ items q ↔ ∃ l, q.lookup k = some l ∧ m ∈ l := by
  unfold items
  simp only [Multiset.mem_coe, List.mem_flatMap, List.mem_map, Prod.mk.injEq]
  constructor
  · rintro ⟨⟨k', l⟩, he, m', hm', rfl, rfl⟩
    exact ⟨l, AList.mem_lookup_iff.mpr he, hm'⟩
  · rintro ⟨l, hl, hm⟩
    exact ⟨⟨k, l⟩, AList.mem_lookup_iff.mp hl, m, hm, rfl, rfl⟩

/-- What is queued after a push is the pushed element or was queued before. -/
lemma mem_items_push {x : K × M} (hx : x ∈ items (push q k m)) : x = (k, m) ∨ x ∈ items q := by
  cases h : q.lookup k with
  | none =>
    unfold push mapQueue at hx
    rw [h] at hx
    exact Or.inr hx
  | some l =>
    rw [items_push h] at hx
    exact Multiset.mem_cons.mp hx

/-- What is queued after the front element was taken off was queued before. -/
lemma mem_items_popFront {x : K × M} (h : q.lookup k = some (m :: l))
    (hx : x ∈ items (popFront q k)) : x ∈ items q := by
  rw [items_popFront h]
  exact Multiset.mem_cons_of_mem hx

/-- What is queued after the front element was changed is that element or was queued before. -/
lemma mem_items_modifyFront {f : M → M} {x : K × M} (h : q.lookup k = some (m :: l))
    (hx : x ∈ items (modifyFront q k f)) : x = (k, f m) ∨ x ∈ items q := by
  rw [items_modifyFront f h] at hx
  rcases Multiset.mem_cons.mp hx with hx | hx
  · exact Or.inl hx
  · exact Or.inr (mem_items_popFront h hx)

/-- The front element is queued. -/
lemma mem_items_front (h : q.lookup k = some (m :: l)) : (k, m) ∈ items q :=
  mem_items.mpr ⟨m :: l, h, List.mem_cons_self⟩

/-- What is queued after a queue was given up was queued before. -/
lemma mem_items_closeQueue {x : K × M} (hx : x ∈ items (closeQueue q k)) : x ∈ items q := by
  cases h : q.lookup k with
  | none => rwa [closeQueue_of_lookup_none h] at hx
  | some l =>
    rw [items_eq_add h]
    exact Multiset.mem_add.mpr (Or.inr hx)

/-! ## What is read off some of the queued elements -/

section Selected

variable {α : Type*} {p : M → Prop} [DecidablePred p] {f : M → α}

/-- What is read off the elements with a property. -/
def selected (p : M → Prop) [DecidablePred p] (f : M → α) (items : Multiset (K × M)) :
    Multiset α :=
  (items.filter fun x => p x.2).map fun x => f x.2

/-- What is read off a list of elements with a property. -/
def selectedList (p : M → Prop) [DecidablePred p] (f : M → α) (l : List M) : List α :=
  (l.filter fun m => p m).map f

omit [DecidableEq K] in
/-- One more element with the property. -/
lemma selected_cons_of {items : Multiset (K × M)} (hm : p m) :
    selected p f ((k, m) ::ₘ items) = f m ::ₘ selected p f items := by
  unfold selected
  rw [Multiset.filter_cons_of_pos (p := fun x : K × M => p x.2) items hm, Multiset.map_cons]

omit [DecidableEq K] in
/-- One more element without the property. -/
lemma selected_cons_of_not {items : Multiset (K × M)} (hm : ¬ p m) :
    selected p f ((k, m) ::ₘ items) = selected p f items := by
  unfold selected
  rw [Multiset.filter_cons_of_neg (p := fun x : K × M => p x.2) items hm]

omit [DecidableEq K] in
/-- What is read off the elements of one queue and of others. -/
lemma selected_keyed_add (l : List M) (items : Multiset (K × M)) :
    selected p f (keyed k l + items) = selectedList p f l + selected p f items := by
  induction l with
  | nil =>
    rw [keyed_nil, zero_add]
    exact (zero_add _).symm
  | cons m l ih =>
    rw [keyed_cons, Multiset.cons_add]
    by_cases hm : p m
    · have hlist : selectedList p f (m :: l) = f m :: selectedList p f l := by
        simp [selectedList, hm]
      rw [selected_cons_of hm, ih, hlist, ← Multiset.cons_coe, Multiset.cons_add]
    · have hlist : selectedList p f (m :: l) = selectedList p f l := by
        simp [selectedList, hm]
      rw [selected_cons_of_not hm, ih, hlist]

/-- An element with the property is pushed. -/
lemma selected_push_of (h : q.lookup k = some l) (hm : p m) :
    selected p f (items (push q k m)) = f m ::ₘ selected p f (items q) := by
  rw [items_push h, selected_cons_of hm]

/-- An element without the property is pushed. -/
lemma selected_push_of_not (hm : ¬ p m) :
    selected p f (items (push q k m)) = selected p f (items q) := by
  cases h : q.lookup k with
  | none =>
    unfold push mapQueue
    rw [h]
  | some l => rw [items_push h, selected_cons_of_not hm]

/-- An element with the property is taken off. -/
lemma selected_popFront_of (h : q.lookup k = some (m :: l)) (hm : p m) :
    selected p f (items q) = f m ::ₘ selected p f (items (popFront q k)) := by
  rw [items_popFront h, selected_cons_of hm]

/-- An element without the property is taken off. -/
lemma selected_popFront_of_not (h : q.lookup k = some (m :: l)) (hm : ¬ p m) :
    selected p f (items (popFront q k)) = selected p f (items q) := by
  rw [items_popFront h, selected_cons_of_not hm]

/-- A change of the front element that is not seen. -/
lemma selected_modifyFront {g : M → M} (h : q.lookup k = some (m :: l)) (hp : p (g m) ↔ p m)
    (hf : f (g m) = f m) :
    selected p f (items (modifyFront q k g)) = selected p f (items q) := by
  by_cases hm : p m
  · rw [items_modifyFront g h, selected_cons_of (hp.mpr hm), hf, selected_popFront_of h hm]
  · rw [items_modifyFront g h, selected_cons_of_not (mt hp.mp hm), selected_popFront_of_not h hm]

/-- A queue is given up. -/
lemma selected_closeQueue :
    selected p f (items q) =
      selectedList p f ((q.lookup k).getD []) + selected p f (items (closeQueue q k)) := by
  cases h : q.lookup k with
  | none =>
    rw [closeQueue_of_lookup_none h]
    exact (zero_add _).symm
  | some l =>
    rw [items_eq_add h, selected_keyed_add]
    rfl

end Selected

end QueueMap
