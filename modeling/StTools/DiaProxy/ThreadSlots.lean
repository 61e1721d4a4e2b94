import StTools.DiaProxy.RunRule
import Mathlib.Algebra.BigOperators.Group.Finset.Basic
import Mathlib.Algebra.Order.BigOperators.Group.Finset

/-!
# Client threads and their slots

The listener decides by a global number whether to start a thread, and by an unrelated cursor which
thread slot the new client goes to.  So it may start a second thread on a slot that has one.  This
is the only way in which threads and slots lose their one-to-one correspondence: the main theorem
says that they correspond throughout a run exactly when every thread is started on an idle slot.
-/

namespace DiaProxy

/-! ## The correspondence -/

/-- Every slot with a client is served by one thread, and no slot is served by two. -/
def OneToOne (s : Proxy) : Prop :=
  ∀ i : ℤ, (s.clientThread i).running ≤ 1 ∧
    ((s.clientThread i).conectionClients ≠ [] → (s.clientThread i).running = 1)

/-- When the listener starts a thread, the slot it is started on has none. -/
def StartsOnIdleSlot (s : Proxy) : Event → Prop
  | .accept _ => s.findSlot ≠ none → ¬ s.SharesThread →
    ∀ thread, s.chooseClientThread = some thread → (s.clientThread thread).running = 0
  | _ => True

/-- How many threads are served by each slot. -/
def runningOn (threads : List ClientThread) (i : ℤ) : ℕ := (Table.read threads {} i).running

/-- The invariant of the thread slots: the global number counts the threads, and when clients share
threads only the slots that may be used are used. -/
structure ThreadsInv (cerData : CerData) (threads : List ClientThread) (number : ℕ) (next : ℤ) :
    Prop where
  /-- The number of slots. -/
  length_eq : threads.length = maxClientsThreads
  /-- The number of threads that run. -/
  number_eq : number = ∑ i ∈ Finset.range maxClientsThreads, runningOn threads i
  /-- No slot is served by two threads. -/
  le_one : ∀ i, runningOn threads i ≤ 1
  /-- A slot with clients is served. -/
  served : ∀ i, (Table.read threads {} i).conectionClients ≠ [] → runningOn threads i = 1
  /-- The cursor is a slot, or stands before the first. -/
  cursor : -1 ≤ next ∧ next < maxClientsThreads
  /-- When clients share threads the cursor stays among the slots that may be used. -/
  sharing : cerData.clientsSharingThreads = true → next < cerData.maxNumberClientThreads ∧
    ∀ i : ℤ, cerData.maxNumberClientThreads ≤ i → runningOn threads i = 0

/-- The invariant of a state. -/
def Proxy.ThreadsOk (s : Proxy) : Prop :=
  ThreadsInv s.cerData s.vClientThread s.numberClientThreads s.nextClientThread

/-- The invariant gives the correspondence. -/
lemma Proxy.ThreadsOk.oneToOne {s : Proxy} (h : s.ThreadsOk) : OneToOne s :=
  fun i => ⟨h.le_one i, h.served i⟩

/-! ## Counting threads -/

/-- If at most one thread runs on each of `m` slots and at least `m` run, one runs on each. -/
lemma eq_one_of_le_sum {m : ℕ} {r : ℕ → ℕ} (hr : ∀ i < m, r i ≤ 1)
    (hsum : m ≤ ∑ i ∈ Finset.range m, r i) {i : ℕ} (hi : i < m) : r i = 1 := by
  by_contra hne
  have hlt : r i < 1 := lt_of_le_of_ne (hr i hi) hne
  have hless : ∑ j ∈ Finset.range m, r j < ∑ _j ∈ Finset.range m, 1 :=
    Finset.sum_lt_sum (fun j hj => hr j (Finset.mem_range.mp hj))
      ⟨i, Finset.mem_range.mpr hi, hlt⟩
  rw [← Finset.card_eq_sum_ones, Finset.card_range] at hless
  exact absurd hsum (Nat.not_le.mpr hless)

/-- A sum over slots when the number on one slot changes. -/
lemma sum_change {n : ℕ} (r r' : ℕ → ℕ) {k : ℕ} (hk : k < n) (hr : ∀ i, i ≠ k → r' i = r i) :
    (∑ i ∈ Finset.range n, r' i) + r k = (∑ i ∈ Finset.range n, r i) + r' k := by
  have hmem : k ∈ Finset.range n := Finset.mem_range.mpr hk
  rw [← Finset.add_sum_erase _ r' hmem, ← Finset.add_sum_erase _ r hmem]
  have hrest : ∑ i ∈ (Finset.range n).erase k, r' i = ∑ i ∈ (Finset.range n).erase k, r i :=
    Finset.sum_congr rfl fun i hi => hr i (Finset.ne_of_mem_erase hi)
  rw [hrest]
  omega

/-! ## The invariant is kept -/

/-- When enough threads run for clients to share them, one runs on every slot that may be used. -/
lemma ThreadsInv.shared {cerData : CerData} {threads : List ClientThread} {number : ℕ} {next : ℤ}
    (h : ThreadsInv cerData threads number next) (hsharing : cerData.clientsSharingThreads = true)
    (henough : cerData.maxNumberClientThreads ≤ number) {i : ℕ}
    (hi : i < cerData.maxNumberClientThreads) : runningOn threads i = 1 := by
  refine eq_one_of_le_sum (m := cerData.maxNumberClientThreads)
    (r := fun i : ℕ => runningOn threads i) (fun j _ => h.le_one j) ?_ hi
  have hsub : Finset.range cerData.maxNumberClientThreads ⊆ Finset.range maxClientsThreads :=
    Finset.range_mono cerData.threads_le
  have hrest : ∀ j ∈ Finset.range maxClientsThreads,
      j ∉ Finset.range cerData.maxNumberClientThreads → runningOn threads j = 0 := by
    intro j _ hj
    apply (h.sharing hsharing).2
    rw [Finset.mem_range, not_lt] at hj
    exact Int.ofNat_le.mpr hj
  rw [Finset.sum_subset hsub hrest, ← h.number_eq]
  exact henough

/-- The slot that is chosen is inside the table. -/
lemma Proxy.ThreadsOk.chosen {s : Proxy} (h : s.ThreadsOk) {thread : ℤ}
    (hchoose : s.chooseClientThread = some thread) :
    ∃ k : ℕ, thread = k ∧ k < maxClientsThreads ∧
      (s.cerData.clientsSharingThreads = true → k < s.cerData.maxNumberClientThreads) := by
  have hpos := s.cerData.threads_pos
  have hle := s.cerData.threads_le
  obtain ⟨hlow, hhigh⟩ := h.cursor
  unfold Proxy.chooseClientThread at hchoose
  by_cases hsharing : s.cerData.clientsSharingThreads = true
  · rw [if_pos hsharing] at hchoose
    split at hchoose
    · obtain rfl := Option.some.inj hchoose
      refine ⟨(s.nextClientThread + 1).toNat, ?_, ?_, fun _ => ?_⟩ <;> omega
    · obtain rfl := Option.some.inj hchoose
      exact ⟨0, rfl, by omega, fun _ => hpos⟩
  · rw [if_neg hsharing] at hchoose
    split at hchoose
    · obtain rfl := Option.some.inj hchoose
      have hlen := h.length_eq
      refine ⟨(s.nextClientThread + 1).toNat, ?_, ?_, fun hs => absurd hs hsharing⟩ <;> omega
    · cases hchoose

/-- A thread table in which the threads are the same, and the clients no more, keeps the
invariant. -/
lemma ThreadsInv.fewer {cerData : CerData} {threads threads' : List ClientThread} {number : ℕ}
    {next : ℤ} (h : ThreadsInv cerData threads number next) (hlen : threads'.length = threads.length)
    (hrun : ∀ i, runningOn threads' i = runningOn threads i)
    (hclients : ∀ i, (Table.read threads' {} i).conectionClients ≠ [] →
      (Table.read threads {} i).conectionClients ≠ []) :
    ThreadsInv cerData threads' number next where
  length_eq := hlen.trans h.length_eq
  number_eq := by simpa only [hrun] using h.number_eq
  le_one i := (hrun i).trans_le (h.le_one i)
  served i hne := (hrun i).trans (h.served i (hclients i hne))
  cursor := h.cursor
  sharing hs := ⟨(h.sharing hs).1, fun i hi => (hrun i).trans ((h.sharing hs).2 i hi)⟩

/-- The number of threads on a slot whose record changes. -/
lemma runningOn_modify_self {threads : List ClientThread} {i : ℤ} (f : ClientThread → ClientThread)
    (h : Table.InRange threads i) :
    runningOn (Table.modify threads i f) i = (f (Table.read threads {} i)).running := by
  unfold runningOn
  rw [Table.read_modify_self f h]

/-- The number of threads on any other slot. -/
lemma runningOn_modify_of_ne {threads : List ClientThread} {i j : ℤ}
    (f : ClientThread → ClientThread) (h : i ≠ j) :
    runningOn (Table.modify threads i f) j = runningOn threads j := by
  unfold runningOn
  rw [Table.read_modify_of_ne f h]

/-- Nothing runs outside the table. -/
lemma inRange_of_runningOn {threads : List ClientThread} {i : ℤ} (h : 0 < runningOn threads i) :
    Table.InRange threads i := by
  by_contra hnot
  unfold runningOn at h
  rw [Table.read_of_not_inRange hnot] at h
  exact absurd h (Nat.lt_irrefl 0)

/-- A client joins the chosen slot: the invariant is kept if a thread is started exactly when the
slot has none. -/
lemma Proxy.ThreadsOk.join {s : Proxy} (h : s.ThreadsOk) {nr : ℕ} {thread sock : ℤ}
    (hchoose : s.chooseClientThread = some thread)
    (hidle : (s.clientThread thread).running + s.threadsToStart = 1) :
    ThreadsInv s.cerData (Table.modify s.vClientThread thread (s.joinedThread nr sock))
      (s.numberClientThreads + s.threadsToStart) thread := by
  obtain ⟨k, rfl, hk, hshare⟩ := h.chosen hchoose
  have hrange : Table.InRange s.vClientThread k :=
    ⟨Int.natCast_nonneg k, by rw [h.length_eq]; exact Int.ofNat_lt.mpr hk⟩
  have hself : runningOn (Table.modify s.vClientThread k (s.joinedThread nr sock)) k = 1 :=
    (runningOn_modify_self _ hrange).trans hidle
  constructor
  · exact (Table.length_modify _ _ _).trans h.length_eq
  · have hsum := sum_change (fun i : ℕ => runningOn s.vClientThread i)
      (fun i : ℕ => runningOn (Table.modify s.vClientThread k (s.joinedThread nr sock)) i)
      hk fun i hi => runningOn_modify_of_ne _ fun heq => hi (Int.ofNat_inj.mp heq).symm
    have hnumber := h.number_eq
    have hold : runningOn s.vClientThread k + s.threadsToStart = 1 := hidle
    omega
  · intro i
    by_cases hi : (k : ℤ) = i
    · rw [← hi, hself]
    · rw [runningOn_modify_of_ne _ hi]
      exact h.le_one i
  · intro i hne
    by_cases hi : (k : ℤ) = i
    · rw [← hi, hself]
    · rw [Table.read_modify_of_ne _ hi] at hne
      rw [runningOn_modify_of_ne _ hi]
      exact h.served i hne
  · exact ⟨by omega, Int.ofNat_lt.mpr hk⟩
  · intro hs
    refine ⟨Int.ofNat_lt.mpr (hshare hs), fun i hi => ?_⟩
    have hne : (k : ℤ) ≠ i := by
      rintro rfl
      exact absurd (hshare hs) (Nat.not_lt.mpr (Int.ofNat_le.mp hi))
    rw [runningOn_modify_of_ne _ hne]
    exact (h.sharing hs).2 i hi

/-- A thread without clients ends: the invariant is kept. -/
lemma Proxy.ThreadsOk.exit {s : Proxy} (h : s.ThreadsOk) {thread : ℕ}
    (hrunning : 0 < (s.clientThread thread).running) :
    ThreadsInv s.cerData
      (Table.modify s.vClientThread thread fun t =>
        { t with fds := ∅, maxFd := -1, conectionClients := [], running := t.running - 1 })
      (s.numberClientThreads - 1) s.nextClientThread := by
  have hrange : Table.InRange s.vClientThread thread := inRange_of_runningOn hrunning
  have hone : runningOn s.vClientThread thread = 1 := le_antisymm (h.le_one thread) hrunning
  have hself : runningOn (Table.modify s.vClientThread thread fun t =>
      { t with fds := ∅, maxFd := -1, conectionClients := [], running := t.running - 1 })
      thread = 0 := by
    rw [runningOn_modify_self _ hrange]
    exact congrArg (· - 1) hone
  have hthread : thread < maxClientsThreads := by
    rw [← h.length_eq]
    exact Int.ofNat_lt.mp hrange.2
  constructor
  · exact (Table.length_modify _ _ _).trans h.length_eq
  · have hsum := sum_change (fun i : ℕ => runningOn s.vClientThread i)
      (fun i : ℕ => runningOn (Table.modify s.vClientThread thread fun t =>
        { t with fds := ∅, maxFd := -1, conectionClients := [], running := t.running - 1 }) i)
      hthread fun i hi => runningOn_modify_of_ne _ fun heq => hi (Int.ofNat_inj.mp heq).symm
    have hnumber := h.number_eq
    omega
  · intro i
    by_cases hi : (thread : ℤ) = i
    · rw [← hi, hself]
      exact Nat.zero_le 1
    · rw [runningOn_modify_of_ne _ hi]
      exact h.le_one i
  · intro i hne
    by_cases hi : (thread : ℤ) = i
    · rw [← hi, Table.read_modify_self _ hrange] at hne
      exact absurd rfl hne
    · rw [Table.read_modify_of_ne _ hi] at hne
      rw [runningOn_modify_of_ne _ hi]
      exact h.served i hne
  · exact h.cursor
  · intro hs
    refine ⟨(h.sharing hs).1, fun i hi => ?_⟩
    by_cases hthread : (thread : ℤ) = i
    · rw [← hthread, hself]
    · rw [runningOn_modify_of_ne _ hthread]
      exact (h.sharing hs).2 i hi

/-- A thread is started on the chosen slot exactly when it has none, if a thread that is started
is started on an idle slot. -/
lemma Proxy.ThreadsOk.running_add {s : Proxy} (h : s.ThreadsOk) {thread : ℤ}
    (hchoose : s.chooseClientThread = some thread)
    (hidle : ¬ s.SharesThread → (s.clientThread thread).running = 0) :
    (s.clientThread thread).running + s.threadsToStart = 1 := by
  obtain ⟨k, rfl, hk, hshare⟩ := h.chosen hchoose
  unfold Proxy.threadsToStart
  by_cases hs : s.SharesThread
  · rw [if_pos hs, Nat.add_zero]
    exact h.shared hs.1 hs.2 (hshare hs.1)
  · rw [if_neg hs, hidle hs]

/-- The limit on where threads are started. -/
def idleSlots : Limits where
  give s _ := ¬ s.SharesThread →
    ∀ thread, s.chooseClientThread = some thread → (s.clientThread thread).running = 0

/-- A request changes nothing about threads. -/
lemma Proxy.ThreadsOk.request {s s' : Proxy} {up : Prop} {socket : ℤ} {message : ℕ → Message}
    {fill drop : Transaction → Transaction} (h : s.ThreadsOk)
    (hout : s.RequestOutcome up socket message fill drop s') : s'.ThreadsOk := by
  rcases hout with ⟨_, _, _, _, _, _, _, rfl⟩ | ⟨_, _, _, _, _, _, _, _, _, _, rfl⟩ |
    ⟨_, _, _, _, _, _, _, _, _, _, rfl⟩ <;> exact h

/-- The invariant of the thread slots is kept when threads are started on idle slots. -/
theorem threadsOk_isInvariant : IsInvariant Proxy.ThreadsOk idleSlots where
  logged := by
    rintro s s' h ⟨_, _, _, _, rfl⟩
    exact h
  client _ _ _ h := h
  register _ _ _ _ _ h := h
  cursor _ h := h
  closeClient thread nr threads hthreads _ h := by
    obtain ⟨hlen, hsame⟩ := hthreads
    refine ThreadsInv.fewer h hlen (fun i => (hsame i).1) fun i hne hnil => hne ?_
    rw [(hsame i).2, Proxy.clientThread, hnil]
    split <;> rfl
  exitThread _ hrunning _ h := h.exit hrunning
  enqueue _ _ _ _ h := h
  answered _ _ _ _ _ h := h
  clientRequest _ _ _ _ _ _ _ _ hout h := h.request hout
  discard h := h
  serverRequest _ _ _ _ _ _ hout h := h.request hout
  finish _ _ _ _ _ h := h
  advance _ _ _ _ h := h
  skip _ _ _ _ _ h := h
  drop _ _ _ _ h := h
  connection _ _ h := h
  startDia _ _ h := h
  cleanDia _ _ h := h
  connect _ _ _ _ _ h := h
  openQueue _ h := h
  accept nr conFound next thread sock _ hchoose _ _ hgive h :=
    h.join hchoose (h.running_add hchoose fun hs => hgive hs thread hchoose)
  processing h := h
  supervise _ _ h := h
  forget h := h
  freed _ h := h
  purge _ _ _ _ h := h

/-! ## Runs -/

/-- The thread slots of the first state. -/
lemma threadsOk_init (cerData : CerData) : (Proxy.init cerData).ThreadsOk := by
  have hread : ∀ i, Table.read (Proxy.init cerData).vClientThread {} i = {} :=
    Table.read_replicate maxClientsThreads ({} : ClientThread)
  have hzero : ∀ i, runningOn (Proxy.init cerData).vClientThread i = 0 :=
    fun i => congrArg ClientThread.running (hread i)
  constructor
  · exact List.length_replicate
  · have hsum : ∑ i ∈ Finset.range maxClientsThreads,
        runningOn (Proxy.init cerData).vClientThread i = 0 := Finset.sum_eq_zero fun i _ => hzero i
    rw [hsum]
    rfl
  · exact fun i => (hzero i).trans_le (Nat.zero_le 1)
  · exact fun i hne => absurd (congrArg ClientThread.conectionClients (hread i)) hne
  · exact ⟨le_rfl, show (-1 : ℤ) < maxClientsThreads by decide⟩
  · have hneg : (-1 : ℤ) < 0 := by decide
    exact fun _ => ⟨lt_of_lt_of_le hneg (Int.natCast_nonneg _), fun i _ => hzero i⟩

/-- The limit is about starting threads only. -/
lemma idleSlots_allows {s : Proxy} {e : Event} (h : StartsOnIdleSlot s e) :
    idleSlots.Allows s e := by
  cases e with
  | accept sock => exact fun nr hslot => h (by rw [hslot]; exact Option.some_ne_none nr)
  | closeClient thread nr => trivial
  | clientMessage thread nr sender counterE2e buff toreceive answers =>
    refine ⟨trivial, fun _ _ => ?_, fun _ _ _ _ => trivial⟩
    split <;> trivial
  | exitClientThread thread => trivial
  | send sock result now => exact fun _ _ _ => trivial
  | startDiaThread c => trivial
  | connect c sock => exact fun _ => trivial
  | lose c => trivial
  | reconnect c => trivial
  | serverMessage c buff dpSize answers =>
    exact ⟨fun _ => trivial, fun _ _ => trivial, fun _ _ _ => trivial⟩
  | watchClients => trivial
  | startCleaning => trivial
  | clean => exact fun _ _ => ⟨trivial, fun _ _ _ _ => trivial⟩

/-- A thread that is started on a slot that has one makes two. -/
lemma not_oneToOne_of_not_idle {s s' : Proxy} {e : Event} (hs : Sized s) (h : s.ThreadsOk)
    (hbusy : ¬ StartsOnIdleSlot s e) (hstep : step s e = some s') : ¬ OneToOne s' := by
  cases e with
  | accept sock =>
    obtain ⟨-, haccept⟩ := Option.ite_none_right_eq_some.mp hstep
    rcases Proxy.acceptClient_cases hs.clients haccept with
      ⟨hnone, -⟩ | ⟨nr, conFound, next, thread, -, -, -, hthread, _, _, _, _, rfl⟩
    · exact absurd (fun hfound => absurd hnone hfound) hbusy
    · intro hone
      apply hbusy
      intro _ hstarts thread' hthread'
      obtain rfl : thread = thread' := Option.some.inj (hthread.symm.trans hthread')
      obtain ⟨k, rfl, hk, -⟩ := h.chosen hthread
      have hrange : Table.InRange s.vClientThread k :=
        ⟨Int.natCast_nonneg k, by rw [h.length_eq]; exact Int.ofNat_lt.mpr hk⟩
      have hle : runningOn (Table.modify s.vClientThread k (s.joinedThread nr sock)) k ≤ 1 :=
        (hone k).1
      rw [runningOn_modify_self _ hrange] at hle
      have hstart : s.threadsToStart = 1 := if_neg hstarts
      have hrunning : (s.clientThread k).running + s.threadsToStart ≤ 1 := hle
      omega
  | _ => exact absurd trivial hbusy

/-- **Threads and slots correspond exactly while threads are started on idle slots.** -/
theorem oneToOne_throughout_iff (cerData : CerData) (es : List Event) :
    LabelledSystem.Throughout step OneToOne (Proxy.init cerData) es ↔
      LabelledSystem.Along step StartsOnIdleSlot (Proxy.init cerData) es := by
  refine LabelledSystem.throughout_iff_along (I := fun s => Sized s ∧ s.ThreadsOk) ?_ ?_ ?_ ?_
  · rintro s e s' ⟨hs, h⟩ hC hstep
    have hL := idleSlots_allows hC
    exact ⟨(sized_isInvariant idleSlots).of_step hs hL hstep hs,
      threadsOk_isInvariant.of_step hs hL hstep h⟩
  · exact fun s h => h.2.oneToOne
  · exact fun s e s' h hbusy hstep => not_oneToOne_of_not_idle h.1 h.2 hbusy hstep
  · exact ⟨sized_init cerData, threadsOk_init cerData⟩

/-! ## Two threads on one slot -/

/-- A small proxy with two client threads. -/
def twoThreads : CerData := .twoThreads

/-- Four clients are spread over two threads; both clients of the second thread leave, and it
ends; then a fifth client comes. -/
def fifthClient : List Event :=
  [.startDiaThread 0, .connect 0 5, .accept 6, .accept 7, .accept 8, .accept 9,
    .closeClient 1 1, .closeClient 1 3, .exitClientThread 1, .accept 10]

/-- The fifth client is given to the first slot, and a second thread is started on it. -/
theorem fifthClient_two_threads :
    ∃ s, LabelledSystem.exec step (Proxy.init twoThreads) fifthClient = some s ∧
      (s.clientThread 0).running = 2 ∧ ¬ OneToOne s := by
  refine ⟨_, rfl, by decide, fun h => ?_⟩
  exact absurd (h 0).1 (by decide)

end DiaProxy
