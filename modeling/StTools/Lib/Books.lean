import Mathlib.Algebra.Order.Group.Multiset
import Mathlib.Data.Multiset.Filter
import Mathlib.Data.Multiset.UnionInter

/-!
# Books of what came in and what was settled

Items come in under a key and are numbered; they wait in stock until they are settled.  Two counters
for each key, with values in any commutative monoid, count what came in and what was settled.  An
item should be settled once, and until then it is in stock.

The books are *sound* when the counters count the items, when no number was given twice, and when
everything that came in is settled or in stock.  Then the counters of a key differ by what is in
stock, and every item is settled once or in stock.
-/

/-- The books: which items came in, which were settled, which wait, and the counters. -/
structure Books (K R : Type*) where
  /-- The number that the next item is given. -/
  next : ℕ
  /-- The items that came in. -/
  received : Multiset (K × ℕ)
  /-- The items that were settled. -/
  settled : Multiset (K × ℕ)
  /-- The items that wait. -/
  stock : Multiset (K × ℕ)
  /-- How often something came in under a key. -/
  arrivals : K → R
  /-- How often something was settled under a key. -/
  departures : K → R

namespace Books

variable {K R : Type*} {b : Books K R}

/-- How many items have this key. -/
def tally [DecidableEq K] (items : Multiset (K × ℕ)) (k : K) : ℕ := items.countP fun x => x.1 = k

/-- No number was given twice. -/
structure Numbered (b : Books K R) : Prop where
  /-- No item came in twice. -/
  nodup : b.received.Nodup
  /-- The numbers given so far. -/
  lt_next : ∀ x ∈ b.received, x.2 < b.next

/-- Everything that came in is settled or waits. -/
def Balanced (b : Books K R) : Prop := b.received = b.settled + b.stock

/-- **Every item is settled once or waits.** -/
theorem Balanced.count_eq_one [DecidableEq K] (h : b.Balanced) (hnumbered : b.Numbered)
    {x : K × ℕ} (hx : x ∈ b.received) : b.settled.count x + b.stock.count x = 1 := by
  rw [← Multiset.count_add, ← h]
  exact Multiset.count_eq_one_of_mem hnumbered.nodup hx

variable [DecidableEq K] [AddCommMonoid R] {one : R}

/-- One more item. -/
lemma tally_cons (x : K × ℕ) (items : Multiset (K × ℕ)) (k : K) :
    tally (x ::ₘ items) k = tally items k + if x.1 = k then 1 else 0 := by
  unfold tally
  rw [Multiset.countP_cons]

/-! ## Entries -/

/-- An item comes in. -/
def receive (one : R) (b : Books K R) (k : K) : Books K R :=
  { b with
    next := b.next + 1
    received := (k, b.next) ::ₘ b.received
    arrivals := Function.update b.arrivals k (b.arrivals k + one) }

/-- A number is given to something else. -/
def skip (b : Books K R) : Books K R := { b with next := b.next + 1 }

/-- An item is settled. -/
def settle (one : R) (b : Books K R) (x : K × ℕ) : Books K R :=
  { b with
    settled := x ::ₘ b.settled
    departures := Function.update b.departures x.1 (b.departures x.1 + one) }

/-- The stock is another one. -/
def withStock (b : Books K R) (stock : Multiset (K × ℕ)) : Books K R := { b with stock := stock }

/-- Several items are settled. -/
def settleAll (one : R) (b : Books K R) (xs : List (K × ℕ)) : Books K R :=
  xs.foldl (settle one) b

/-- Settling several items leaves the stock. -/
lemma settleAll_withStock (one : R) (b : Books K R) (xs : List (K × ℕ))
    (stock : Multiset (K × ℕ)) :
    settleAll one (b.withStock stock) xs = (settleAll one b xs).withStock stock := by
  induction xs generalizing b with
  | nil => rfl
  | cons x xs ih => exact ih (b.settle one x)

/-! ## Sound books -/

/-- The counters count the items. -/
structure Tallied (one : R) (b : Books K R) : Prop where
  /-- What came in. -/
  arrivals : ∀ k, b.arrivals k = tally b.received k • one
  /-- What was settled. -/
  departures : ∀ k, b.departures k = tally b.settled k • one

/-- The counters are right, and so are the numbers. -/
structure Kept (one : R) (b : Books K R) : Prop where
  /-- The counters. -/
  tallied : b.Tallied one
  /-- The numbers. -/
  numbered : b.Numbered

/-- The counter of a key after one more item. -/
lemma update_tally {counter : K → R} {items : Multiset (K × ℕ)}
    (h : ∀ k, counter k = tally items k • one) (x : K × ℕ) (k : K) :
    Function.update counter x.1 (counter x.1 + one) k = tally (x ::ₘ items) k • one := by
  rw [tally_cons]
  by_cases hk : x.1 = k
  · subst hk
    rw [Function.update_self, if_pos rfl, succ_nsmul, h]
  · rw [Function.update_of_ne (Ne.symm hk), if_neg hk, Nat.add_zero, h]

/-- An item that comes in keeps the books. -/
lemma Kept.receive (h : b.Kept one) (k : K) : (b.receive one k).Kept one := by
  obtain ⟨⟨harrivals, hdepartures⟩, hnodup, hlt⟩ := h
  refine ⟨⟨update_tally harrivals (k, b.next), hdepartures⟩, ?_, ?_⟩
  · refine Multiset.nodup_cons.mpr ⟨fun hmem => ?_, hnodup⟩
    exact absurd (hlt _ hmem) (Nat.lt_irrefl _)
  · intro x hx
    rcases Multiset.mem_cons.mp hx with rfl | hx
    · exact Nat.lt_succ_self _
    · exact Nat.lt_succ_of_lt (hlt x hx)

/-- A number that is given to something else keeps the books. -/
lemma Kept.skip (h : b.Kept one) : b.skip.Kept one :=
  ⟨⟨h.tallied.arrivals, h.tallied.departures⟩, h.numbered.nodup,
    fun x hx => Nat.lt_succ_of_lt (h.numbered.lt_next x hx)⟩

/-- An item that is settled keeps the books. -/
lemma Kept.settle (h : b.Kept one) (x : K × ℕ) : (b.settle one x).Kept one :=
  ⟨⟨h.tallied.arrivals, update_tally h.tallied.departures x⟩, h.numbered.nodup,
    h.numbered.lt_next⟩

/-- Another stock keeps the books. -/
lemma Kept.withStock (h : b.Kept one) (stock : Multiset (K × ℕ)) : (b.withStock stock).Kept one :=
  ⟨⟨h.tallied.arrivals, h.tallied.departures⟩, h.numbered.nodup, h.numbered.lt_next⟩

/-- Items that are settled keep the books. -/
lemma Kept.settleAll (h : b.Kept one) (xs : List (K × ℕ)) : (b.settleAll one xs).Kept one := by
  induction xs generalizing b with
  | nil => exact h
  | cons x xs ih => exact ih (h.settle x)

/-! ## Balance -/

/-- What several items leave settled. -/
lemma settled_settleAll (one : R) (b : Books K R) (xs : List (K × ℕ)) :
    (b.settleAll one xs).settled = xs + b.settled ∧
      (b.settleAll one xs).received = b.received := by
  induction xs generalizing b with
  | nil => exact ⟨(zero_add _).symm, rfl⟩
  | cons x xs ih =>
    obtain ⟨hsettled, hreceived⟩ := ih (b.settle one x)
    refine ⟨hsettled.trans ?_, hreceived⟩
    change (xs : Multiset (K × ℕ)) + (x ::ₘ b.settled) = x ::ₘ (xs : Multiset (K × ℕ)) + b.settled
    rw [Multiset.add_cons, Multiset.cons_add]

/-- An item that comes in and waits. -/
lemma Balanced.receive_store (h : b.Balanced) (k : K) :
    ((b.receive one k).withStock ((k, b.next) ::ₘ b.stock)).Balanced := by
  change (k, b.next) ::ₘ b.received = b.settled + ((k, b.next) ::ₘ b.stock)
  rw [Multiset.add_cons, ← h]

/-- An item that comes in and is settled at once. -/
lemma Balanced.receive_settle (h : b.Balanced) (k : K) :
    ((b.receive one k).settle one (k, b.next)).Balanced := by
  change (k, b.next) ::ₘ b.received = ((k, b.next) ::ₘ b.settled) + b.stock
  rw [Multiset.cons_add, ← h]

/-- Items that wait are settled. -/
lemma Balanced.settleAll_stock (h : b.Balanced) {xs : List (K × ℕ)} {stock : Multiset (K × ℕ)}
    (hstock : b.stock = xs + stock) : ((b.settleAll one xs).withStock stock).Balanced := by
  obtain ⟨hsettled, hreceived⟩ := b.settled_settleAll one xs
  change (b.settleAll one xs).received = (b.settleAll one xs).settled + stock
  rw [hsettled, hreceived, h, hstock, add_comm (xs : Multiset (K × ℕ)) b.settled, add_assoc]

/-- **The counters of a key differ by what waits.** -/
theorem Balanced.arrivals_eq (h : b.Balanced) (htallied : b.Tallied one) (k : K) :
    b.arrivals k = b.departures k + tally b.stock k • one := by
  rw [htallied.arrivals, htallied.departures, ← add_nsmul]
  congr 1
  unfold tally
  rw [h, Multiset.countP_add]

/-! ## Proper entries -/

/-- The second books continue the first by a proper entry. -/
inductive Entry (one : R) (b : Books K R) : Books K R → Prop
  /-- Nothing happened. -/
  | same : Entry one b b
  /-- A number was given to something else. -/
  | skip : Entry one b b.skip
  /-- An item came in and waits. -/
  | store (k : K) : Entry one b ((b.receive one k).withStock ((k, b.next) ::ₘ b.stock))
  /-- An item came in and was settled at once. -/
  | refuse (k : K) : Entry one b ((b.receive one k).settle one (k, b.next))
  /-- Items that waited were settled. -/
  | settle (xs : List (K × ℕ)) (stock : Multiset (K × ℕ)) (h : b.stock = xs + stock) :
    Entry one b ((b.settleAll one xs).withStock stock)

/-- Sound books: the counters and the numbers are right, and nothing is lost. -/
structure Sound (one : R) (b : Books K R) : Prop where
  /-- The counters and the numbers. -/
  kept : b.Kept one
  /-- Nothing is lost. -/
  balanced : b.Balanced

/-- A proper entry leaves the books sound. -/
theorem Sound.entry {b' : Books K R} (h : b.Sound one) (hentry : Entry one b b') :
    b'.Sound one := by
  obtain ⟨hkept, hbalanced⟩ := h
  cases hentry with
  | same => exact ⟨hkept, hbalanced⟩
  | skip => exact ⟨hkept.skip, hbalanced⟩
  | store k => exact ⟨(hkept.receive k).withStock _, hbalanced.receive_store k⟩
  | refuse k => exact ⟨(hkept.receive k).settle _, hbalanced.receive_settle k⟩
  | settle xs stock hstock =>
    exact ⟨(hkept.settleAll xs).withStock stock, hbalanced.settleAll_stock hstock⟩

/-- Every item that came in is settled once or waits. -/
def CountedOnce (b : Books K R) : Prop :=
  ∀ x ∈ b.received, b.settled.count x + b.stock.count x = 1

/-- Settling an item that goes on waiting counts it twice. -/
lemma Sound.not_countedOnce_settle (h : b.Sound one) {x : K × ℕ} (hx : x ∈ b.stock) :
    ¬ (b.settle one x).CountedOnce := by
  intro honce
  have hreceived : x ∈ b.received := by
    rw [h.balanced]
    exact Multiset.mem_add.mpr (Or.inr hx)
  have hbefore := h.balanced.count_eq_one h.kept.numbered hreceived
  have hafter : (x ::ₘ b.settled).count x + b.stock.count x = 1 := honce x hreceived
  rw [Multiset.count_cons_self] at hafter
  omega

/-- Settling a new item twice counts it twice. -/
lemma not_countedOnce_twice (b : Books K R) (k : K) :
    ¬ (((b.receive one k).settle one (k, b.next)).settle one (k, b.next)).CountedOnce := by
  intro honce
  have hafter : ((k, b.next) ::ₘ (k, b.next) ::ₘ b.settled).count (k, b.next) +
      b.stock.count (k, b.next) = 1 := honce _ (Multiset.mem_cons_self _ _)
  rw [Multiset.count_cons_self, Multiset.count_cons_self] at hafter
  omega

end Books
