import Mathlib.Data.List.Infix
import Mathlib.Tactic.Common

/-!
# Matching with backtracking

A matcher takes a text and gives what it found, or `none`.  It is built from its continuation: what
has to be matched behind it.  A repetition takes as many characters as it can and gives characters
back until the continuation succeeds, as the regular expressions of a scripting language do.
-/

namespace GreedyMatch

variable {α β : Type*}

/-- The text begins with a pattern, and the rest is matched by `k`. -/
def literal [DecidableEq α] (pat : List α) (k : List α → Option β) (t : List α) : Option β :=
  if pat <+: t then k (t.drop pat.length) else none

/-- As many characters with a property as possible, such that the rest is matched by `k`. -/
def star (p : α → Bool) (k : List α → Option β) : List α → Option (List α × β)
  | [] => (k []).map fun b => ([], b)
  | c :: cs =>
    if p c then
      match star p k cs with
      | some x => some (c :: x.1, x.2)
      | none => (k (c :: cs)).map fun b => ([], b)
    else (k (c :: cs)).map fun b => ([], b)

/-- At least one character with a property, and as many as possible. -/
def plus (p : α → Bool) (k : List α → Option β) : List α → Option (List α × β)
  | [] => none
  | c :: cs => if p c then (star p k cs).map fun x => (c :: x.1, x.2) else none

variable {pat t x rest : List α} {k : List α → Option β} {p : α → Bool} {b : β}

/-! ## What is matched -/

/-- A pattern that is matched stands at the start of the text. -/
lemma literal_eq_some_iff [DecidableEq α] : literal pat k t = some b ↔ ∃ rest, t = pat ++ rest ∧ k rest = some b := by
  rw [literal]
  constructor
  · intro h
    split_ifs at h with hpat
    obtain ⟨rest, rfl⟩ := hpat
    exact ⟨rest, rfl, by rwa [List.drop_left] at h⟩
  · rintro ⟨rest, rfl, hk⟩
    rw [if_pos (List.prefix_append pat rest), List.drop_left, hk]

/-- A repetition splits the text. -/
lemma of_star_eq_some (h : star p k t = some (x, b)) :
    ∃ rest, t = x ++ rest ∧ (∀ c ∈ x, p c = true) ∧ k rest = some b := by
  induction t generalizing x with
  | nil =>
    obtain ⟨b', hk, heq⟩ := Option.map_eq_some_iff.mp h
    cases heq
    exact ⟨[], rfl, fun c hc => absurd hc List.not_mem_nil, hk⟩
  | cons c cs ih =>
    have hempty : ((k (c :: cs)).map fun b => ([], b)) = some (x, b) →
        ∃ rest, c :: cs = x ++ rest ∧ (∀ c ∈ x, p c = true) ∧ k rest = some b := fun h => by
      obtain ⟨b', hk, heq⟩ := Option.map_eq_some_iff.mp h
      cases heq
      exact ⟨c :: cs, rfl, fun c hc => absurd hc List.not_mem_nil, hk⟩
    rw [star] at h
    split_ifs at h with hp
    · split at h
      · rename_i y hy
        cases h
        obtain ⟨rest, hcs, hall, hk⟩ := ih hy
        refine ⟨rest, by rw [hcs]; rfl, fun d hd => ?_, hk⟩
        rcases List.mem_cons.mp hd with rfl | hd
        · exact hp
        · exact hall d hd
      · exact hempty h
    · exact hempty h

/-- A repetition succeeds when the rest is matched behind some of its characters. -/
lemma isSome_star (hx : ∀ c ∈ x, p c = true) (hk : (k rest).isSome) :
    (star p k (x ++ rest)).isSome := by
  induction x with
  | nil =>
    cases rest with
    | nil => simpa [star] using hk
    | cons c cs =>
      rw [List.nil_append, star]
      split_ifs
      · split
        · rfl
        · simpa using hk
      · simpa using hk
  | cons c cs ih =>
    obtain ⟨y, hy⟩ := Option.isSome_iff_exists.mp (ih fun d hd => hx d (List.mem_cons_of_mem c hd))
    rw [List.cons_append, star, if_pos (hx c List.mem_cons_self), hy]
    rfl

/-- A repetition of at least one character splits the text. -/
lemma of_plus_eq_some (h : plus p k t = some (x, b)) :
    ∃ rest, t = x ++ rest ∧ x ≠ [] ∧ (∀ c ∈ x, p c = true) ∧ k rest = some b := by
  cases t with
  | nil => cases h
  | cons c cs =>
    rw [plus] at h
    split_ifs at h with hp
    obtain ⟨y, hy, heq⟩ := Option.map_eq_some_iff.mp h
    cases heq
    obtain ⟨rest, hcs, hall, hk⟩ := of_star_eq_some hy
    refine ⟨rest, by rw [hcs]; rfl, List.cons_ne_nil _ _, fun d hd => ?_, hk⟩
    rcases List.mem_cons.mp hd with rfl | hd
    · exact hp
    · exact hall d hd

/-- A repetition of at least one character succeeds when the rest is matched behind some of them. -/
lemma isSome_plus (hne : x ≠ []) (hx : ∀ c ∈ x, p c = true) (hk : (k rest).isSome) :
    (plus p k (x ++ rest)).isSome := by
  cases x with
  | nil => exact absurd rfl hne
  | cons c cs =>
    have hstar := isSome_star (fun d hd => hx d (List.mem_cons_of_mem c hd)) hk
    rw [List.cons_append, plus, if_pos (hx c List.mem_cons_self), Option.isSome_map]
    exact hstar

/-! ## Tokens -/

/-- A repetition ends where the characters with the property end, if the rest is matched there. -/
lemma star_append (hx : ∀ c ∈ x, p c = true) (hrest : ∀ c ∈ rest.head?, p c = false) (hk : k rest = some b) :
    star p k (x ++ rest) = some (x, b) := by
  induction x with
  | nil =>
    cases rest with
    | nil => rw [List.append_nil, star, hk, Option.map_some]
    | cons c cs => rw [List.nil_append, star, if_neg (by simp [hrest c rfl]), hk, Option.map_some]
  | cons c cs ih =>
    rw [List.cons_append, star, if_pos (hx c List.mem_cons_self), ih fun d hd => hx d (List.mem_cons_of_mem c hd)]

/-- A repetition of at least one character ends where the characters with the property end. -/
lemma plus_append (hne : x ≠ []) (hx : ∀ c ∈ x, p c = true) (hrest : ∀ c ∈ rest.head?, p c = false)
    (hk : k rest = some b) : plus p k (x ++ rest) = some (x, b) := by
  cases x with
  | nil => exact absurd rfl hne
  | cons c cs =>
    have hstar := star_append (fun d hd => hx d (List.mem_cons_of_mem c hd)) hrest hk
    rw [List.cons_append, plus, if_pos (hx c List.mem_cons_self), hstar, Option.map_some]

/-- What a matcher finds from left to right, for a text of at most `fuel` characters: the search
goes on behind a match, and one character later where there is none. -/
def findAll (m : List α → Option (β × List α)) : (fuel : ℕ) → List α → List β
  | 0, _ => []
  | _, [] => []
  | fuel + 1, c :: cs =>
    match m (c :: cs) with
    | some (b, rest) => b :: findAll m fuel rest
    | none => findAll m fuel cs

variable {m : List α → Option (β × List α)}

/-- Two amounts of fuel that are enough: each match takes at least one character. -/
lemma findAll_congr (hm : ∀ t b rest, m t = some (b, rest) → rest.length < t.length) {fuel fuel' : ℕ}
    (h : t.length ≤ fuel) (h' : t.length ≤ fuel') : findAll m fuel t = findAll m fuel' t := by
  induction fuel generalizing t fuel' with
  | zero =>
    obtain rfl : t = [] := List.length_eq_zero_iff.mp (Nat.le_zero.mp h)
    cases fuel' <;> rfl
  | succ fuel ih =>
    cases t with
    | nil => cases fuel' <;> rfl
    | cons c cs =>
      cases fuel' with
      | zero => exact absurd h' (by simp)
      | succ fuel' =>
        rw [findAll, findAll]
        split
        · rename_i b rest hmatch
          have hlt : rest.length < cs.length + 1 := hm _ _ _ hmatch
          rw [List.length_cons] at h h'
          exact congrArg (b :: ·) (ih (by omega) (by omega))
        · exact ih (Nat.le_of_succ_le_succ h) (Nat.le_of_succ_le_succ h')

/-- The search behind a match. -/
lemma findAll_of_match (hm : ∀ t b rest, m t = some (b, rest) → rest.length < t.length)
    (h : m t = some (b, rest)) : findAll m t.length t = b :: findAll m rest.length rest := by
  have hlt := hm _ _ _ h
  cases t with
  | nil => exact absurd hlt (by simp)
  | cons c cs =>
    rw [List.length_cons, findAll, h]
    simp only
    rw [findAll_congr hm (Nat.le_of_lt_succ hlt) le_rfl]

end GreedyMatch
