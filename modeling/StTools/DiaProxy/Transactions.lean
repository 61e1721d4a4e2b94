import StTools.Lib.RoundRobin
import StTools.DiaProxy.PendingMessages

/-!
# Transaction slots

A request that is forwarded is given a slot of `v_transaction`, which keeps what is needed to
send its answer back.  `findTransaction` takes the next free slot.
-/

namespace DiaProxy

namespace Proxy

/-- `v_transaction[i].status` is `NOTUSED`. -/
def isFree (s : Proxy) (i : ℕ) : Bool := (s.transaction i).status = .notUsed

/-- `findTransaction`: the next free slot is taken; `none` stands for the result `-1`. -/
def findTransaction (s : Proxy) : Proxy × Option ℕ :=
  let found := RoundRobin.search s.isFree s.vTransaction.length s.nextTransaction
  match found.1 with
  | some i =>
    ({ s.setTransaction i fun t => { t with status := .used } with nextTransaction := found.2 },
      some i)
  | none => ({ s.uses (.transaction s.nextTransaction) with nextTransaction := found.2 }, none)

/-- The slot is free, and it is the one that `findTransaction` finds. -/
def Finds (s : Proxy) (slot : ℕ) : Prop := s.isFree slot ∧ s.findTransaction.2 = some slot

/-- There is a free slot. -/
def HasFreeTransaction (s : Proxy) : Prop := ∃ i < s.vTransaction.length, s.isFree i

/-- What `findTransaction` does: it takes a free slot, or there is none. -/
theorem findTransaction_cases (s : Proxy) (hcur : s.nextTransaction < s.vTransaction.length) :
    (∃ i next, i < s.vTransaction.length ∧ s.isFree i ∧ next < s.vTransaction.length ∧
      s.findTransaction = ({ s.setTransaction i fun t => { t with status := .used } with
        nextTransaction := next }, some i)) ∨
    (¬ s.HasFreeTransaction ∧ ∃ next < s.vTransaction.length,
      s.findTransaction = ({ s.uses (.transaction s.nextTransaction) with
        nextTransaction := next }, none)) := by
  have hnext : (RoundRobin.search s.isFree s.vTransaction.length s.nextTransaction).2 <
      s.vTransaction.length := RoundRobin.search_cursor_lt hcur
  unfold findTransaction
  cases hfound : (RoundRobin.search s.isFree s.vTransaction.length s.nextTransaction).1 with
  | some i =>
    obtain ⟨hi, hfree⟩ := RoundRobin.search_eq_some hcur hfound
    exact Or.inl ⟨i, _, hi, hfree, hnext, by simp only [hfound]⟩
  | none =>
    refine Or.inr ⟨?_, _, hnext, by simp only [hfound]⟩
    rintro ⟨i, hi, hfree⟩
    have hnot := RoundRobin.search_eq_none hcur hfound hi
    rw [hfree] at hnot
    cases hnot

/-- What is expected of `findTransaction`. -/
structure FindsTransaction (s : Proxy) : Prop where
  /-- The loop ends. -/
  ends : WhileLoop.Returns (RoundRobin.pass s.isFree s.vTransaction.length) (s.nextTransaction, 1)
    (s.findTransaction.2, s.findTransaction.1.nextTransaction)
  /-- Nothing is found exactly when all slots are taken. -/
  none_iff : s.findTransaction.2 = none ↔
    ∀ i < s.vTransaction.length, (s.transaction i).status = .used
  /-- Then the table is as before. -/
  unchanged : s.findTransaction.2 = none → s.findTransaction.1.vTransaction = s.vTransaction
  /-- What is found is a free slot, and nothing else in the table changes than that it is taken. -/
  taken : ∀ i, s.findTransaction.2 = some i →
    i < s.vTransaction.length ∧ (s.transaction i).status = .notUsed ∧
      (s.findTransaction.1.transaction i).status = .used ∧
        s.findTransaction.1.vTransaction =
          Table.modify s.vTransaction i fun t => { t with status := .used }
  /-- The cursor stays inside the table. -/
  cursor_lt : s.findTransaction.1.nextTransaction < s.vTransaction.length

/-- A slot that is not free is taken. -/
lemma isFree_eq_false_iff {s : Proxy} {i : ℕ} :
    s.isFree i = false ↔ (s.transaction i).status = .used := by
  unfold isFree
  cases (s.transaction i).status <;> simp

/-- The result of `findTransaction` is that of the search. -/
lemma findTransaction_search (s : Proxy) :
    (s.findTransaction.2, s.findTransaction.1.nextTransaction) =
      RoundRobin.search s.isFree s.vTransaction.length s.nextTransaction := by
  unfold findTransaction
  cases hfound : (RoundRobin.search s.isFree s.vTransaction.length s.nextTransaction).1 with
  | some i =>
    simp only [hfound]
    rw [← hfound]
  | none =>
    simp only [hfound]
    rw [← hfound]

/-- `findTransaction` does what is expected of it. -/
lemma findsTransaction (s : Proxy) (hcur : s.nextTransaction < s.vTransaction.length) :
    s.FindsTransaction := by
  have hends : WhileLoop.Returns (RoundRobin.pass s.isFree s.vTransaction.length)
      (s.nextTransaction, 1) (s.findTransaction.2, s.findTransaction.1.nextTransaction) :=
    s.findTransaction_search ▸ RoundRobin.search_returns hcur
  rcases s.findTransaction_cases hcur with
    ⟨i, next, hi, hfree, hnext, heq⟩ | ⟨hnone, next, hnext, heq⟩
  · have hstatus : (s.transaction i).status = .notUsed := of_decide_eq_true hfree
    have hrange : Table.InRange s.vTransaction i := ⟨Int.natCast_nonneg i, Int.ofNat_lt.mpr hi⟩
    refine ⟨hends, ?_, ?_, ?_, ?_⟩
    · simp only [heq, reduceCtorEq, false_iff, not_forall]
      exact ⟨i, hi, by simp [hstatus]⟩
    · simp [heq]
    · intro k hk
      rw [heq] at hk ⊢
      obtain rfl := Option.some.inj hk
      refine ⟨hi, hstatus, ?_, rfl⟩
      simp only [transaction, setTransaction, Table.read_modify_self _ hrange]
    · rw [heq]
      exact hnext
  · refine ⟨hends, ?_, ?_, ?_, ?_⟩
    · simp only [heq, true_iff]
      intro i hi
      exact isFree_eq_false_iff.mp (Bool.eq_false_iff.mpr fun hfree => hnone ⟨i, hi, hfree⟩)
    · intro _
      rw [heq]
      rfl
    · simp [heq]
    · rw [heq]
      exact hnext

/-- **`findTransaction` is exact**, and as long as the slot that it found is not released, no later call
finds it again. -/
theorem findTransaction_exact (s : Proxy) (hcur : s.nextTransaction < s.vTransaction.length) :
    s.FindsTransaction ∧
      ∀ i, s.findTransaction.2 = some i → ∀ t : Proxy, t.nextTransaction < t.vTransaction.length →
        (t.transaction i).status = .used → t.findTransaction.2 ≠ some i := by
  refine ⟨s.findsTransaction hcur, fun i _ t ht hused hagain => ?_⟩
  have hfree := ((t.findsTransaction ht).taken i hagain).2.1
  rw [hused] at hfree
  cases hfree

/-- A proxy with two slots, and the cursor at the second. -/
def twoSlots : Proxy := { Proxy.init .twoTransactions with nextTransaction := 1 }

/-- The second slot is found and not found again, and after the first there is none. -/
theorem findTransaction_twoSlots :
    twoSlots.FindsTransaction ∧ twoSlots.findTransaction.2 = some 1 ∧
      twoSlots.findTransaction.1.findTransaction.2 ≠ some 1 ∧
      twoSlots.findTransaction.1.findTransaction.1.findTransaction.2 = none := by
  have hexact := findTransaction_exact twoSlots (by decide)
  have hsecond : twoSlots.findTransaction.2 = some 1 := by decide +kernel
  refine ⟨hexact.1, hsecond, hexact.2 1 hsecond twoSlots.findTransaction.1 ?_ ?_, ?_⟩ <;>
    decide +kernel

/-- Free a slot. -/
def freeTransaction (s : Proxy) (i : ℤ) : Proxy :=
  s.setTransaction i fun t => { t with status := .notUsed }

/-- Free a slot and forget when its request was sent. -/
def clearTransaction (s : Proxy) (i : ℤ) : Proxy :=
  s.setTransaction i Transaction.clear

/-- The state in which a request has been received and its slot filled. -/
def withRequest (s : Proxy) (next slot : ℕ) (fill : Transaction → Transaction) : Proxy :=
  { s with
    requests := s.requests + 1
    nextTransaction := next
    vTransaction := Table.modify s.vTransaction slot fill }

/-- `findTransaction` for a request that was received. -/
lemma Logged.findTransaction_cases {s s' : Proxy}
    (h : Logged { s with requests := s.requests + 1 } s')
    (hcur : s.nextTransaction < s.vTransaction.length) :
    (∃ slot next t, slot < s.vTransaction.length ∧ s.Finds slot ∧
      next < s.vTransaction.length ∧ s'.findTransaction = (t, some slot) ∧
      (s.withRequest next slot fun t => { t with status := .used }).Logged t) ∨
    (¬ s.HasFreeTransaction ∧ ∃ next t, next < s.vTransaction.length ∧
      s'.findTransaction = (t, none) ∧
      Logged { s with requests := s.requests + 1, nextTransaction := next } t) := by
  have hcases := s'.findTransaction_cases
  have hsame : s'.findTransaction.2 = s.findTransaction.2 := by
    obtain ⟨_, _, _, _, rfl⟩ := h
    exact (congrArg Prod.fst (findTransaction_search _)).trans
      (congrArg Prod.fst s.findTransaction_search).symm
  obtain ⟨_, _, _, _, rfl⟩ := h
  rcases hcases hcur with
    ⟨slot, next, hslot, hfree, hnext, hfind⟩ | ⟨hnone, next, hnext, hfind⟩
  · have hfound : s.findTransaction.2 = some slot := hsame.symm.trans (congrArg Prod.snd hfind)
    exact Or.inl ⟨slot, next, _, hslot, ⟨hfree, hfound⟩, hnext, hfind, ⟨_, _, _, _, rfl⟩⟩
  · exact Or.inr ⟨hnone, next, _, hnext, hfind, ⟨_, _, _, _, rfl⟩⟩

/-- What becomes of a request that is to be forwarded on a connection.  `message` is the message
that carries it, `fill` what is noted in its slot, and `drop` how the slot is freed again when the
message is not queued. -/
inductive RequestOutcome (s : Proxy) (up : Prop) (socket : ℤ) (message : ℕ → Message)
    (fill drop : Transaction → Transaction) (s' : Proxy) : Prop
  /-- There was no free slot. -/
  | noSlot (next : ℕ) (hnone : ¬ s.HasFreeTransaction) (hnext : next < s.vTransaction.length)
    (hs' : Logged { s with requests := s.requests + 1, nextTransaction := next } s')
  /-- The message was refused: the slot was filled, and freed again. -/
  | refused (next slot : ℕ) (hacc : ¬ s.Accepts up socket) (hslot : slot < s.vTransaction.length)
    (hfree : s.Finds slot) (hnext : next < s.vTransaction.length)
    (hs' : Logged { s with
      requests := s.requests + 1
      nextTransaction := next
      vTransaction := Table.modify s.vTransaction slot fun t =>
        drop (fill { t with status := .used }) } s')
  /-- The message was queued, and the slot is taken. -/
  | queued (next slot : ℕ) (hacc : s.Accepts up socket) (hslot : slot < s.vTransaction.length)
    (hfree : s.Finds slot) (hnext : next < s.vTransaction.length)
    (hs' : Logged { s.enqueue socket (message slot) with
      requests := s.requests + 1
      nextTransaction := next
      vTransaction := Table.modify s.vTransaction slot fun t =>
        fill { t with status := .used } } s')

end Proxy

end DiaProxy
