import Mathlib.Data.List.Forall2
import Mathlib.Tactic.Common

/-!
# Writing, reading and writing again

A value survives when it can be written, what was written can be read, what was read is the same as
the value, and it is written in the same way.  A list survives when its elements do, and a pair of
writers and readers that differ in a frame around the written value survives together.
-/

namespace RoundTrip

variable {α β γ δ : Type*} {write : α → Option β} {read : β → Option α} {Same : α → α → Prop}

/-- The value survives being written and read, and is written again in the same way. -/
def Survives (write : α → Option β) (read : β → Option α) (Same : α → α → Prop) (a : α) : Prop :=
  ∃ b a', write a = some b ∧ read b = some a' ∧ Same a a' ∧ write a' = some b

/-- The loop over a list in front of one more element. -/
lemma mapM_cons_eq_some_iff {f : α → Option β} {a : α} {l : List α} {l' : List β} :
    (a :: l).mapM f = some l' ↔ ∃ b bs, f a = some b ∧ l.mapM f = some bs ∧ l' = b :: bs := by
  rw [List.mapM_cons]
  cases f a with
  | none => simp
  | some b =>
    cases l.mapM f with
    | none => simp
    | some bs => simp [eq_comm]

/-- **A list survives when its elements do.** -/
theorem survives_list_iff {l : List α} :
    Survives (List.mapM write) (List.mapM read) (List.Forall₂ Same) l ↔ ∀ a ∈ l, Survives write read Same a := by
  induction l with
  | nil =>
    refine ⟨fun _ a ha => absurd ha List.not_mem_nil, fun _ => ⟨[], [], ?_⟩⟩
    simp
  | cons a l ih =>
    rw [List.forall_mem_cons, ← ih]
    constructor
    · rintro ⟨bs, as, hw, hr, hsame, hw'⟩
      obtain ⟨b, bs', hb, hbs, rfl⟩ := mapM_cons_eq_some_iff.mp hw
      obtain ⟨a', as', ha', has, rfl⟩ := mapM_cons_eq_some_iff.mp hr
      obtain ⟨b', bs'', hb', hbs', heq⟩ := mapM_cons_eq_some_iff.mp hw'
      obtain ⟨rfl, rfl⟩ := List.cons.inj heq
      obtain ⟨hhead, htail⟩ := List.forall₂_cons.mp hsame
      exact ⟨⟨b, a', hb, ha', hhead, hb'⟩, ⟨bs', as', hbs, has, htail, hbs'⟩⟩
    · rintro ⟨⟨b, a', hb, ha', hhead, hb'⟩, ⟨bs, as, hbs, has, htail, hbs'⟩⟩
      exact ⟨b :: bs, a' :: as, mapM_cons_eq_some_iff.mpr ⟨b, bs, hb, hbs, rfl⟩,
        mapM_cons_eq_some_iff.mpr ⟨a', as, ha', has, rfl⟩, List.forall₂_cons.mpr ⟨hhead, htail⟩,
        mapM_cons_eq_some_iff.mpr ⟨b, bs, hb', hbs', rfl⟩⟩

/-- Two loops over a list are one. -/
lemma mapM_bind_mapM {f : α → Option β} {g : β → Option γ} (l : List α) :
    (l.mapM f).bind (List.mapM g) = l.mapM fun a => (f a).bind g := by
  induction l with
  | nil => rfl
  | cons a l ih =>
    rw [List.mapM_cons, List.mapM_cons, ← ih]
    cases f a with
    | none => rfl
    | some b =>
      cases l.mapM f with
      | none => cases h : g b <;> simp [h]
      | some bs => simp [List.mapM_cons]

/-- A loop fails at a step that fails. -/
lemma mapM_eq_none {f : α → Option β} {l : List α} {a : α} (ha : a ∈ l) (h : f a = none) : l.mapM f = none := by
  induction l with
  | nil => exact absurd ha List.not_mem_nil
  | cons b l ih =>
    rw [Option.eq_none_iff_forall_ne_some]
    intro l' hl'
    obtain ⟨c, cs, hc, hcs, rfl⟩ := mapM_cons_eq_some_iff.mp hl'
    rcases List.mem_cons.mp ha with rfl | ha
    · rw [h] at hc
      cases hc
    · rw [ih ha] at hcs
      cases hcs

/-- A loop of steps with known results. -/
lemma mapM_eq_some_map {f : α → Option β} {g : α → β} {l : List α} (h : ∀ a ∈ l, f a = some (g a)) :
    l.mapM f = some (l.map g) := by
  induction l with
  | nil => rfl
  | cons a l ih =>
    obtain ⟨ha, hl⟩ := List.forall_mem_cons.mp h
    exact mapM_cons_eq_some_iff.mpr ⟨g a, l.map g, ha, ih hl, rfl⟩

/-- The results of a loop come from the elements. -/
lemma mem_of_mapM {f : α → Option β} {l : List α} {l' : List β} (h : l.mapM f = some l') {b : β} (hb : b ∈ l') :
    ∃ a ∈ l, f a = some b := by
  induction l generalizing l' with
  | nil =>
    cases h
    exact absurd hb List.not_mem_nil
  | cons a l ih =>
    obtain ⟨c, cs, hc, hcs, rfl⟩ := mapM_cons_eq_some_iff.mp h
    rcases List.mem_cons.mp hb with rfl | hb
    · exact ⟨a, List.mem_cons_self, hc⟩
    · obtain ⟨x, hx, hfx⟩ := ih hcs hb
      exact ⟨x, List.mem_cons_of_mem a hx, hfx⟩

end RoundTrip
