import Mathlib.Data.Multiset.MapFold
import Mathlib.Data.Multiset.Filter
import Mathlib.Data.Finset.Card
import Mathlib.Data.Finset.Image

/-!
# Slots handed out to things in flight

A table of slots is handed out to things that are *in flight*: jobs, requests, messages.  A slot is
free or held by somebody; a thing in flight names the slot it was given.  A slot is *covered* when its
holder is in flight, so that nothing keeps a slot for good.
-/

/-- Slots and the things in flight: who holds which slot, and which slot each thing was given. -/
structure SlotLedger (ι κ : Type*) where
  /-- The holder of a slot; `none` for a free slot. -/
  holder : ι → Option κ
  /-- The things in flight, with their slots. -/
  flight : Multiset (ι × κ)

namespace SlotLedger

variable {ι κ : Type*} {l l' : SlotLedger ι κ}

/-- No slot is held by a thing that is not in flight. -/
def Covered (l : SlotLedger ι κ) : Prop := ∀ i k, l.holder i = some k → (i, k) ∈ l.flight

/-- A free slot is given to a thing that takes off. -/
structure Takes (l : SlotLedger ι κ) (i : ι) (k : κ) (l' : SlotLedger ι κ) : Prop where
  /-- The slot was free. -/
  free : l.holder i = none
  /-- The slot is held now. -/
  holder_self : l'.holder i = some k
  /-- The other slots are as before. -/
  holder_of_ne : ∀ j, j ≠ i → l'.holder j = l.holder j
  /-- The thing is in flight now. -/
  flight_eq : l'.flight = (i, k) ::ₘ l.flight

/-- Some slots are freed, and some flights end. -/
structure Frees (l : SlotLedger ι κ) (freed : ι → Prop) (gone : ι × κ → Prop)
    (l' : SlotLedger ι κ) : Prop where
  /-- The slots that are freed have no holder. -/
  holder_freed : ∀ i, freed i → l'.holder i = none
  /-- The other slots are as before. -/
  holder_kept : ∀ i, ¬ freed i → l'.holder i = l.holder i
  /-- Nothing takes off. -/
  flight_le : l'.flight ≤ l.flight
  /-- Only these flights end. -/
  stays : ∀ x ∈ l.flight, x ∈ l'.flight ∨ gone x

/-- Taking off keeps the slots covered. -/
lemma Covered.take (h : l.Covered) {i : ι} {k : κ} (ht : l.Takes i k l') : l'.Covered := by
  intro j m hj
  rw [ht.flight_eq, Multiset.mem_cons]
  by_cases hji : j = i
  · subst hji
    exact Or.inl (by rw [Option.some.inj (hj.symm.trans ht.holder_self)])
  · exact Or.inr (h j m ((ht.holder_of_ne j hji).symm.trans hj))

/-- Slots stay covered when every flight that ends gives back the slot that it still holds. -/
lemma Covered.free (h : l.Covered) {freed : ι → Prop} {gone : ι × κ → Prop}
    (hf : l.Frees freed gone l')
    (hgone : ∀ i k, gone (i, k) → l.holder i = some k → freed i) : l'.Covered := by
  intro i k hi
  have hkept : ¬ freed i := by
    intro hfreed
    rw [hf.holder_freed i hfreed] at hi
    cases hi
  rw [hf.holder_kept i hkept] at hi
  rcases hf.stays (i, k) (h i k hi) with hstays | hends
  · exact hstays
  · exact absurd (hgone i k hends hi) hkept

/-- **Counting rule.**  When the slots are covered, no more slots are held than things are in
flight. -/
theorem Covered.card_le [DecidableEq ι] (h : l.Covered) (slots : Finset ι)
    (hslots : ∀ i ∈ slots, (l.holder i).isSome) : slots.card ≤ l.flight.card := by
  have hsub : slots ⊆ (l.flight.map Prod.fst).toFinset := by
    intro i hi
    obtain ⟨k, hk⟩ := Option.isSome_iff_exists.mp (hslots i hi)
    rw [Multiset.mem_toFinset]
    exact Multiset.mem_map_of_mem Prod.fst (h i k hk)
  calc slots.card ≤ (l.flight.map Prod.fst).toFinset.card := Finset.card_le_card hsub
    _ ≤ (l.flight.map Prod.fst).card := Multiset.toFinset_card_le _
    _ = l.flight.card := Multiset.card_map _ _

end SlotLedger
