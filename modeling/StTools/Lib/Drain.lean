import Mathlib.Data.List.Nodup
import Mathlib.Logic.Function.Basic
import StTools.Lib.WhileLoop

/-!
# Draining queues one element at a time

A list of keys with a queue each is drained by going through the keys, taking the front element
of the first queue that is not empty, and starting over.  `next` finds that element.  Taking it
leaves the concatenation of all queues without its head, so the elements come out in the order in
which a single pass over all queues lists them.
-/

namespace Drain

variable {κ α σ ρ : Type*}

/-- The first key with a non-empty queue, and the front element of that queue. -/
def next (q : κ → List α) : List κ → Option (κ × α)
  | [] => none
  | k :: ks =>
    match q k with
    | [] => next q ks
    | x :: _ => some (k, x)

variable {q : κ → List α} {ks : List κ} {k : κ} {x : α}

/-- Nothing is found when all queues are empty. -/
lemma flatMap_of_next_none (h : next q ks = none) : ks.flatMap q = [] := by
  induction ks with
  | nil => rfl
  | cons k ks ih =>
    unfold next at h
    cases hk : q k with
    | nil => simpa [hk] using ih (by simpa [hk] using h)
    | cons x l => simp [hk] at h

variable [DecidableEq κ]

/-- The element found is the head of all queues in order, and the rest is what remains when it
is taken. -/
lemma flatMap_of_next_some (hnodup : ks.Nodup) (h : next q ks = some (k, x)) :
    ks.flatMap q = x :: ks.flatMap (Function.update q k (q k).tail) := by
  induction ks with
  | nil => cases h
  | cons k' ks ih =>
    obtain ⟨hk', hks⟩ := List.nodup_cons.mp hnodup
    unfold next at h
    cases hq : q k' with
    | nil =>
      have hnext : next q ks = some (k, x) := by simpa [hq] using h
      have hupdate : Function.update q k (q k).tail k' = [] := by
        rcases eq_or_ne k' k with rfl | hne
        · rw [Function.update_self, hq, List.tail_nil]
        · rw [Function.update_of_ne hne, hq]
      rw [List.flatMap_cons, List.flatMap_cons, hupdate, hq, List.nil_append, List.nil_append]
      exact ih hks hnext
    | cons y l =>
      simp only [hq, Option.some.injEq, Prod.mk.injEq] at h
      obtain ⟨rfl, rfl⟩ := h
      -- The keys behind are other keys, so their queues stay.
      have hrest : ks.flatMap (Function.update q k' l) = ks.flatMap q := by
        apply List.flatMap_congr
        intro k hk
        have hne : k ≠ k' := by
          rintro rfl
          exact hk' hk
        exact Function.update_of_ne hne _ _
      rw [List.flatMap_cons, List.flatMap_cons, hq, List.tail_cons, Function.update_self, hrest,
        List.cons_append]

omit [DecidableEq κ]

/-- **Draining rule.**  A loop that collects the head of what a state holds, until nothing is
held, returns what it had and all that was held. -/
lemma returns_of_drain (I : σ → Prop) (contents : σ → List α) (done : List α → ρ)
    (body : σ × List α → (σ × List α) ⊕ ρ)
    (hnil : ∀ s acc, I s → contents s = [] → body (s, acc) = .inr (done acc))
    (hcons : ∀ s acc x xs, I s → contents s = x :: xs →
      ∃ s', body (s, acc) = .inl (s', acc ++ [x]) ∧ I s' ∧ contents s' = xs)
    {s : σ} (hI : I s) (acc : List α) :
    WhileLoop.Returns body (s, acc) (done (acc ++ contents s)) := by
  generalize hc : contents s = l
  induction l generalizing s acc with
  | nil =>
    rw [WhileLoop.returns_of_exit (hnil s acc hI hc), List.append_nil]
  | cons x xs ih =>
    obtain ⟨s', hbody, hI', hc'⟩ := hcons s acc x xs hI hc
    rw [WhileLoop.returns_of_continue hbody]
    have hrest := ih hI' (acc ++ [x]) hc'
    rwa [List.append_assoc, List.singleton_append] at hrest

end Drain
