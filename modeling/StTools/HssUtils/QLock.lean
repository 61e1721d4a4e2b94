import StTools.Lib.LabelledSystem
import Mathlib.Data.List.Basic
import Mathlib.Data.List.Infix
import Mathlib.Tactic.Common

/-!
# A lock with a queue

`QLock` is a lock that is meant to be given to the threads in the order in which they ask for it.
Its fields are guarded by an internal lock, so a thread takes part in three sections: it asks for
the lock, and has it or is put in the queue; when it was woken it takes the lock; and it gives the
lock back, which wakes the first thread of the queue.

Between the second and the third section of two threads the lock belongs to nobody, and a thread
that asks then is given it at once.  The main theorem says that this is the only fault: the lock is
held by one thread at a time and in the order of asking exactly in the runs in which no thread asks
in that moment.
-/

namespace HssUtils

/-! ## The lock -/

/-- What `release` raises: `ValueError("lock not acquired")`. -/
inductive LockError
  | notAcquired
  deriving DecidableEq

/-- The lock, with the threads that are between its sections. -/
structure QLock (T : Type*) where
  /-- How often the lock is held. -/
  count : ℕ
  /-- The threads in the queue. -/
  waiters : List T
  /-- The threads that were woken and have not taken the lock yet. -/
  woken : List T
  /-- Ghost: the threads whose `acquire` has returned and that have not released the lock. -/
  holders : List T
  /-- Ghost: the calls of `acquire`, in the order in which they were made. -/
  asked : List T
  /-- Ghost: the calls of `acquire`, in the order in which they obtained the lock. -/
  obtained : List T

namespace QLock

variable {T : Type*} [DecidableEq T]

/-- The lock after its creation. -/
def init : QLock T where
  count := 0
  waiters := []
  woken := []
  holders := []
  asked := []
  obtained := []

/-- A thread counts itself: its `acquire` returns. -/
def take (l : QLock T) (t : T) : QLock T :=
  { l with
    count := l.count + 1
    holders := t :: l.holders
    obtained := l.obtained ++ [t] }

/-- The first section of `acquire`. -/
def acquire (l : QLock T) (t : T) : QLock T :=
  let l := { l with asked := l.asked ++ [t] }
  if l.count ≠ 0 then { l with waiters := l.waiters ++ [t] } else l.take t

/-- The second section of `acquire`, of a thread that had to wait. -/
def retake (l : QLock T) (t : T) : QLock T := { l with woken := l.woken.erase t }.take t

/-- `release`. -/
def release (l : QLock T) (t : T) : Except LockError (QLock T) :=
  if l.count = 0 then .error .notAcquired
  else
    let l := { l with count := l.count - 1, holders := l.holders.erase t }
    match l.waiters with
    | [] => .ok l
    | w :: waiters => .ok { l with waiters := waiters, woken := l.woken ++ [w] }

/-! ## Runs -/

/-- What a thread does. -/
inductive Event (T : Type*)
  /-- It asks for the lock; a thread that waits can not. -/
  | acquire (t : T)
  /-- It was woken and takes the lock. -/
  | retake (t : T)
  /-- It releases the lock after its `acquire` has returned. -/
  | release (t : T)

/-- One step.  A `release` that raises leaves the lock as it is. -/
def step (l : QLock T) : Event T → Option (QLock T)
  | .acquire t => if t ∉ l.waiters ∧ t ∉ l.woken then some (l.acquire t) else none
  | .retake t => if t ∈ l.woken then some (l.retake t) else none
  | .release t =>
    if t ∈ l.holders then
      match l.release t with
      | .error _ => some l
      | .ok l' => some l'
    else none

/-! ## What should hold -/

/-- The lock is a fair lock. -/
structure Fair (l : QLock T) : Prop where
  /-- At most one thread has it. -/
  exclusive : l.holders.length ≤ 1 ∧ l.count ≤ 1
  /-- To release it does not raise. -/
  release_ok : ∀ t ∈ l.holders, l.release t ≠ .error .notAcquired
  /-- It was obtained in the order of asking. -/
  order : l.obtained <+: l.asked

/-- No thread asks for the lock after a thread was woken and before that one has taken it. -/
def NoNewcomer (l : QLock T) : Event T → Prop
  | .acquire _ => l.count = 0 → l.woken = []
  | _ => True

/-! ## The lock is fair without newcomers -/

/-- The lock belongs to one thread, or one thread was woken, or nobody wants it. -/
structure Orderly (l : QLock T) : Prop where
  /-- Those who have the lock are counted. -/
  count_eq : l.count = l.holders.length
  /-- One thread has the lock or was woken, at most. -/
  one : l.holders.length + l.woken.length ≤ 1
  /-- When the queue is not empty, there is such a thread. -/
  served : l.waiters ≠ [] → l.holders.length + l.woken.length = 1
  /-- Who asked has obtained the lock, or was woken, or is in the queue. -/
  line : l.asked = l.obtained ++ (l.woken ++ l.waiters)

omit [DecidableEq T] in
/-- The first state is orderly. -/
lemma orderly_init : Orderly (init : QLock T) := ⟨rfl, Nat.zero_le 1, fun h => absurd rfl h, rfl⟩

/-- An orderly lock is fair. -/
lemma Orderly.fair {l : QLock T} (h : Orderly l) : Fair l where
  exclusive := by
    have hcount := h.count_eq
    have hone := h.one
    omega
  release_ok t ht := by
    have hpos : 0 < l.holders.length := List.length_pos_of_mem ht
    have hcount : l.count ≠ 0 := by
      rw [h.count_eq]
      omega
    unfold release
    rw [if_neg hcount]
    dsimp only
    split <;> simp
  order := h.line ▸ List.prefix_append _ _

omit [DecidableEq T] in
/-- A thread that asks keeps the lock orderly, unless another was woken. -/
lemma Orderly.acquire {l : QLock T} (h : Orderly l) (t : T)
    (hnew : l.count = 0 → l.woken = []) : Orderly (l.acquire t) := by
  have hone := h.one
  have hcount := h.count_eq
  unfold QLock.acquire
  dsimp only
  split_ifs with hzero
  · refine ⟨hcount, hone, fun _ => ?_, ?_⟩
    · dsimp only
      omega
    · dsimp only
      rw [h.line, List.append_assoc, List.append_assoc]
  · -- Nobody has the lock and nobody was woken, so nobody waits.
    have hzero : l.count = 0 := not_not.mp hzero
    have hwoken := hnew hzero
    have hwaiters : l.waiters = [] := by
      by_contra hne
      have hserved := h.served hne
      rw [hwoken, List.length_nil] at hserved
      omega
    refine ⟨?_, ?_, fun hne => absurd hwaiters hne, ?_⟩
    · simp only [take, List.length_cons, hcount]
    · simp only [take, List.length_cons, hwoken, List.length_nil]
      omega
    · simp only [take, h.line, hwoken, hwaiters, List.append_nil]

/-- A woken thread that takes the lock keeps it orderly. -/
lemma Orderly.retake {l : QLock T} (h : Orderly l) {t : T} (ht : t ∈ l.woken) :
    Orderly (l.retake t) := by
  have hone := h.one
  have hcount := h.count_eq
  have hpos : 0 < l.woken.length := List.length_pos_of_mem ht
  have hwoken : l.woken = [t] := by
    obtain ⟨w, hw⟩ := List.length_eq_one_iff.mp (show l.woken.length = 1 by omega)
    rw [hw, List.mem_singleton] at ht
    rw [hw, ht]
  have hnone : l.holders.length = 0 := by omega
  have herase : l.woken.erase t = [] := by rw [hwoken, List.erase_cons_head]
  refine ⟨?_, ?_, fun _ => ?_, ?_⟩
  · simp only [QLock.retake, take, List.length_cons, hcount]
  · simp only [QLock.retake, take, List.length_cons, herase, List.length_nil]
    omega
  · simp only [QLock.retake, take, List.length_cons, herase, List.length_nil]
    omega
  · simp only [QLock.retake, take, herase, List.nil_append]
    rw [h.line, hwoken, List.append_assoc]

/-- A release keeps the lock orderly. -/
lemma Orderly.release {l l' : QLock T} (h : Orderly l) {t : T} (ht : t ∈ l.holders)
    (hl' : l.release t = .ok l') : Orderly l' := by
  have hone := h.one
  have hcount := h.count_eq
  have hpos : 0 < l.holders.length := List.length_pos_of_mem ht
  have herase : (l.holders.erase t).length = 0 := by
    rw [List.length_erase_of_mem ht]
    omega
  have hwoken : l.woken = [] := List.length_eq_zero_iff.mp (by omega)
  unfold QLock.release at hl'
  split_ifs at hl' with hzero
  dsimp only at hl'
  split at hl'
  · rename_i hwaiters
    obtain rfl := Except.ok.inj hl'
    refine ⟨?_, ?_, fun hne => absurd hwaiters hne, h.line⟩
    · dsimp only
      omega
    · dsimp only
      omega
  · rename_i w waiters hwaiters
    obtain rfl := Except.ok.inj hl'
    refine ⟨?_, ?_, fun _ => ?_, ?_⟩
    · dsimp only
      omega
    · rw [hwoken]
      simp [herase]
    · rw [hwoken]
      simp [herase]
    · dsimp only
      rw [h.line, hwoken, hwaiters]
      rfl

/-- Steps without newcomers keep the lock orderly. -/
lemma Orderly.step {l l' : QLock T} {e : Event T} (h : Orderly l) (hnew : NoNewcomer l e)
    (hstep : step l e = some l') : Orderly l' := by
  cases e with
  | acquire t =>
    obtain ⟨-, heq⟩ := Option.ite_none_right_eq_some.mp hstep
    obtain rfl := Option.some.inj heq
    exact h.acquire t hnew
  | retake t =>
    obtain ⟨ht, heq⟩ := Option.ite_none_right_eq_some.mp hstep
    obtain rfl := Option.some.inj heq
    exact h.retake ht
  | release t =>
    obtain ⟨ht, heq⟩ := Option.ite_none_right_eq_some.mp hstep
    cases hrelease : l.release t with
    | error e =>
      rw [hrelease] at heq
      exact Option.some.inj heq ▸ h
    | ok l'' =>
      rw [hrelease] at heq
      obtain rfl := Option.some.inj heq
      exact h.release ht hrelease

/-- A newcomer overtakes the thread that was woken. -/
lemma Orderly.not_fair_of_newcomer {l l' : QLock T} {e : Event T} (h : Orderly l)
    (hnew : ¬ NoNewcomer l e) (hstep : QLock.step l e = some l') : ¬ Fair l' := by
  cases e with
  | acquire t =>
    obtain ⟨⟨-, hwoken⟩, heq⟩ := Option.ite_none_right_eq_some.mp hstep
    obtain rfl := Option.some.inj heq
    obtain ⟨hzero, hne⟩ := Classical.not_imp.mp hnew
    obtain ⟨w, rest, hw⟩ := List.exists_cons_of_ne_nil hne
    intro hfair
    have horder := hfair.order
    unfold QLock.acquire at horder
    dsimp only at horder
    rw [if_neg (not_not.mpr hzero)] at horder
    -- The next of the line is the thread that was woken, and the newcomer is another.
    simp only [take, h.line, hw, List.cons_append, List.append_assoc] at horder
    rw [List.prefix_append_right_inj, List.cons_prefix_cons] at horder
    apply hwoken
    rw [hw, horder.1]
    exact List.mem_cons_self
  | retake t => exact absurd trivial hnew
  | release t => exact absurd trivial hnew

/-- **The lock is fair exactly without newcomers.**  Throughout a run the lock is held by one thread
at a time, is released without an error and is obtained in the order of asking if and only if no
thread asks for it between the moment in which another was woken and the one in which that takes
it. -/
theorem fair_throughout_iff (es : List (Event T)) :
    LabelledSystem.Throughout step Fair (init : QLock T) es ↔
      LabelledSystem.Along step NoNewcomer (init : QLock T) es :=
  LabelledSystem.throughout_iff_along (I := Orderly) (fun _ _ _ h hC hstep => h.step hC hstep)
    (fun _ h => h.fair) (fun _ _ _ h hC hstep => h.not_fair_of_newcomer hC hstep) orderly_init

/-- One thread waits, is woken, and a newcomer is faster: both have the lock. -/
def overtaken : List (Event ℕ) :=
  [.acquire 0, .acquire 1, .release 0, .acquire 2, .retake 1]

/-- In this run two threads have the lock at the same time. -/
theorem overtaken_notExclusive :
    ∃ l, LabelledSystem.exec step (init : QLock ℕ) overtaken = some l ∧ l.holders = [1, 2] ∧
      l.count = 2 ∧ ¬ LabelledSystem.Throughout step Fair (init : QLock ℕ) overtaken := by
  refine ⟨_, rfl, by decide, by decide, fun h => ?_⟩
  exact absurd (h.last rfl).exclusive.1 (by decide)

end QLock

end HssUtils
