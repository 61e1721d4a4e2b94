import StTools.DiaProxy.DataModel
import Mathlib.Data.List.Basic
import Mathlib.Data.List.Range

/-!
# Cleaning up after inactivity

When no client has been active for too long the signal handler gives the proxy a fresh start: it
clears the session map, frees the transaction slots, empties the queues of pending messages and
sets the counters of the server connections to zero.  Each container is swept by a loop of its
own.

The loop over `v_transaction` stops one entry short, so the last transaction slot keeps its
status: `maxInactiveReached_cleanedUp_iff` says that the proxy is reset exactly when that slot
was free before.

The other threads go on during the clean-up.  For them it is made of pieces: one turn of one of the
loops each.  It is the proxy thread that asks for the clean-up, when it has counted no client.
-/

namespace DiaProxy

/-- The counters that `get_connection_info` and `get_connection_statistic` show. -/
def Statistic.trafficCounters (c : Statistic) : List UInt32 :=
  [c.numberOfClients, c.totalNumberOfClients,
    c.requestSentToServer, c.requestReceivedFromServer,
    c.requestSentToClient, c.requestReceivedFromClient,
    c.requestDiscardFromClient, c.requestDiscardFromServer,
    c.answerSentToServer, c.answerReceivedFromServer,
    c.answerSentToClient, c.answerReceivedFromClient,
    c.answerDiscardFromClient, c.answerDiscardFromServer]

/-- The assignments of the loop over `v_connections`.  The result code counters are not among
them: they are moved to the report by another thread. -/
def Statistic.cleaned (c : Statistic) : Statistic :=
  { c with
    numberOfClients := 0
    totalNumberOfClients := 0
    requestSentToServer := 0
    requestReceivedFromServer := 0
    requestSentToClient := 0
    requestReceivedFromClient := 0
    requestDiscardFromClient := 0
    requestDiscardFromServer := 0
    answerSentToServer := 0
    answerReceivedFromServer := 0
    answerSentToClient := 0
    answerReceivedFromClient := 0
    answerDiscardFromClient := 0
    answerDiscardFromServer := 0 }

/-- The body of the loop over `v_transaction`. -/
def Transaction.freed (t : Transaction) : Transaction :=
  if t.status = .used then { t with status := .notUsed } else t

/-- The inner loop over a queue: `pop_front` until the queue is empty. -/
def drain : List Message → List Message
  | [] => []
  | _ :: pending => drain pending

namespace Proxy

/-- `m_session.clear()`; it is skipped for an empty map, which is empty afterwards as well. -/
def clearSessions (s : Proxy) : Proxy := { s with mSession := fun _ => none }

/-- The loop over `v_transaction`, for `index < v_transaction.size() - 1`. -/
def cleanTransactions (s : Proxy) : Proxy :=
  (List.range (s.vTransaction.length - 1)).foldl
    (fun s (index : ℕ) => s.setTransaction index Transaction.freed) s

/-- The loop over `m_pendingToSend`. -/
def cleanQueues (s : Proxy) : Proxy :=
  { s with
    mPendingToSend :=
      s.mPendingToSend.keys.foldl (fun q sock => q.mapQueue sock drain) s.mPendingToSend }

/-- The loop over `v_connections`, for `i < v_connections.size()`. -/
def cleanCounters (s : Proxy) : Proxy :=
  (List.range s.vConnections.length).foldl (fun s (i : ℕ) => s.count i Statistic.cleaned) s

/-- The `MAX__INACTIVE__REACHED` branch of `handler`. -/
def maxInactiveReached (s : Proxy) : Proxy :=
  s.clearSessions.cleanTransactions.cleanQueues.cleanCounters

/-- The signal thread goes on to another part of the clean-up. -/
def goTo (s : Proxy) (stage : CleanStage) : Proxy :=
  { s with supervision := { s.supervision with stage := some stage } }

/-- The first descriptor with a queue behind one, as the map is ordered. -/
def nextQueue (s : Proxy) (last : Option ℤ) : Option ℤ :=
  (s.mPendingToSend.keys.filter fun sock => last.all (· < sock)).min?

/-- The end of the clean-up.  A listener that has accepted a client meanwhile waits for
`TOOL_STATUS`, so its assignment comes behind this one. -/
def endCleaning (s : Proxy) : Proxy :=
  { s with
    supervision := { s.supervision with
      stage := none
      diaProxyState :=
        if s.supervision.diaProxyState = .cleanning then .standby else s.supervision.diaProxyState } }

/-- A piece of the clean-up. -/
def cleanPiece (s : Proxy) : CleanStage → Proxy
  | .sessions => s.clearSessions.goTo (.transactions 0)
  | .transactions index =>
    if index < s.vTransaction.length - 1 then
      (s.setTransaction index Transaction.freed).goTo (.transactions (index + 1))
    else s.goTo (.queues none)
  | .queues last =>
    match last.filter fun sock => (s.mPendingToSend.lookup sock).getD [] ≠ [] with
    | some sock => { s with mPendingToSend := s.mPendingToSend.popFront sock }
    | none =>
      match s.nextQueue last with
      | some sock => s.goTo (.queues (some sock))
      | none => s.goTo (.connections 0)
  | .connections i =>
    if i < s.vConnections.length then
      (s.count i Statistic.cleaned).goTo (.connections (i + 1))
    else s.endCleaning

/-- The signal thread begins to clean up. -/
def startCleaning (s : Proxy) : Proxy :=
  { s with
    supervision := { s.supervision with
      maxInactive := false
      diaProxyState := .cleanning
      stage := some .sessions
      cleanUps := s.supervision.cleanUps + 1 } }

/-- The proxy thread adds the clients of one connection more; when it has added all of them and there
is none, it asks for a clean-up. -/
def watchClients (s : Proxy) : Proxy :=
  if s.supervision.index < s.vConnections.length then
    { s.uses (.connection s.supervision.index) with
      supervision := { s.supervision with
        index := s.supervision.index + 1
        activeTtcnConnections := s.supervision.activeTtcnConnections +
          (s.statistic s.supervision.index).numberOfClients } }
  else
    { s with
      supervision := { s.supervision with
        index := 0
        activeTtcnConnections := 0
        maxInactive := s.supervision.maxInactive ||
          (s.supervision.activeTtcnConnections = 0 && s.supervision.diaProxyState ≠ .standby) } }

/-- Counting clients neither begins a clean-up nor takes part in one. -/
lemma supervision_watchClients (s : Proxy) :
    s.watchClients.supervision.cleanUps = s.supervision.cleanUps ∧
      s.watchClients.supervision.stage = s.supervision.stage := by
  unfold watchClients
  split <;> exact ⟨rfl, rfl⟩

/-- A piece of the clean-up begins no other. -/
lemma cleanUps_cleanPiece (s : Proxy) (stage : CleanStage) :
    (s.cleanPiece stage).supervision.cleanUps = s.supervision.cleanUps := by
  cases stage with
  | sessions => rfl
  | transactions index =>
    dsimp only [cleanPiece]
    split <;> rfl
  | queues last =>
    dsimp only [cleanPiece]
    split
    · rfl
    · split <;> rfl
  | connections i =>
    dsimp only [cleanPiece]
    split <;> rfl

/-- The proxy holds nothing of the traffic that was there before. -/
structure CleanedUp (s : Proxy) : Prop where
  /-- Every transaction slot is free. -/
  transactions : ∀ t ∈ s.vTransaction, t.status = .notUsed
  /-- No session is registered. -/
  sessions : ∀ name, s.mSession name = none
  /-- No message is pending. -/
  queues : ∀ sock queue, s.mPendingToSend.lookup sock = some queue → queue = []
  /-- Every traffic counter of every connection is zero. -/
  counters : ∀ i < s.vConnections.length,
    ∀ n ∈ (s.statistic (i : ℤ)).trafficCounters, n = 0

end Proxy

/-! ## What the loops do -/

/-- A freed slot is not used. -/
@[simp] lemma Transaction.freed_status (t : Transaction) : t.freed.status = .notUsed := by
  unfold Transaction.freed
  split
  · rfl
  · rename_i h
    cases hs : t.status with
    | notUsed => rfl
    | used => exact absurd hs h

/-- Draining a queue empties it. -/
lemma drain_eq_nil (queue : List Message) : drain queue = [] := by
  induction queue with
  | nil => rfl
  | cons m pending ih => exact ih

/-- The cleaned counters are zero. -/
lemma Statistic.eq_zero_of_mem_cleaned {c : Statistic} {n : UInt32}
    (h : n ∈ c.cleaned.trafficCounters) : n = 0 := by
  simpa [Statistic.cleaned, Statistic.trafficCounters] using h

namespace Proxy

variable (s : Proxy)

/-- The loop over the transaction slots changes only these and the ghost log of indices. -/
lemma cleanTransactions_eq : ∃ accesses, s.cleanTransactions =
    { s with
      vTransaction := Table.sweep s.vTransaction Transaction.freed (s.vTransaction.length - 1)
      accesses := accesses } := by
  unfold cleanTransactions
  induction s.vTransaction.length - 1 with
  | zero => exact ⟨s.accesses, rfl⟩
  | succ n ih =>
    obtain ⟨accesses, h⟩ := ih
    refine ⟨.transaction n :: accesses, ?_⟩
    rw [List.range_succ, List.foldl_append, h, Table.sweep_succ]
    rfl

/-- The loop over the first connections changes only their counters and the ghost log. -/
lemma foldl_count_cleaned (n : ℕ) : ∃ accesses,
    (List.range n).foldl (fun s (i : ℕ) => s.count i Statistic.cleaned) s =
      { s with
        statistic := fun j => if 0 ≤ j ∧ j < n then (s.statistic j).cleaned else s.statistic j
        accesses := accesses } := by
  induction n with
  | zero =>
    refine ⟨s.accesses, ?_⟩
    have hstat : (fun j : ℤ => if 0 ≤ j ∧ j < ((0 : ℕ) : ℤ) then (s.statistic j).cleaned
        else s.statistic j) = s.statistic :=
      funext fun j => if_neg fun h => absurd (h.1.trans_lt h.2) (lt_irrefl _)
    rw [hstat]
    rfl
  | succ n ih =>
    obtain ⟨accesses, h⟩ := ih
    refine ⟨.connection n :: accesses, ?_⟩
    rw [List.range_succ, List.foldl_append, h, List.foldl_cons, List.foldl_nil, count]
    congr 1
    funext j
    by_cases hj : j = n
    · simp [hj]
    · have hiff : (0 ≤ j ∧ j < ((n + 1 : ℕ) : ℤ)) ↔ 0 ≤ j ∧ j < (n : ℤ) := by omega
      rw [if_neg hj]
      exact (if_congr hiff rfl rfl).symm

/-- Draining the queues of some descriptors empties these and leaves the others. -/
lemma lookup_foldl_drain (socks : List ℤ) (q : QueueMap ℤ Message) (sock : ℤ) :
    (socks.foldl (fun q sock => q.mapQueue sock drain) q).lookup sock =
      if sock ∈ socks then (q.lookup sock).map fun _ => [] else q.lookup sock := by
  induction socks generalizing q with
  | nil => rfl
  | cons k socks ih =>
    rw [List.foldl_cons, ih]
    by_cases hk : sock = k
    · subst hk
      rw [QueueMap.lookup_mapQueue_self, if_pos List.mem_cons_self]
      cases q.lookup sock <;> simp [drain_eq_nil]
    · have hiff : sock ∈ k :: socks ↔ sock ∈ socks := by rw [List.mem_cons, or_iff_right hk]
      rw [QueueMap.lookup_mapQueue_of_ne _ hk]
      exact (if_congr hiff rfl rfl).symm

/-- After the loop over the queues none of them holds a message. -/
lemma cleanQueues_lookup {sock : ℤ} {queue : List Message}
    (h : s.cleanQueues.mPendingToSend.lookup sock = some queue) : queue = [] := by
  have hlook : some queue = _ :=
    h.symm.trans (lookup_foldl_drain s.mPendingToSend.keys s.mPendingToSend sock)
  by_cases hk : sock ∈ s.mPendingToSend.keys
  · rw [if_pos hk] at hlook
    obtain ⟨_, _, rfl⟩ := Option.map_eq_some_iff.mp hlook.symm
    rfl
  · rw [if_neg hk, AList.lookup_eq_none.mpr hk] at hlook
    exact absurd hlook (Option.some_ne_none _)

/-- The state after the clean-up, container by container. -/
lemma maxInactiveReached_eq : ∃ accesses, s.maxInactiveReached =
    { s with
      vTransaction := Table.sweep s.vTransaction Transaction.freed (s.vTransaction.length - 1)
      mSession := fun _ => none
      mPendingToSend := s.cleanQueues.mPendingToSend
      statistic := fun j =>
        if 0 ≤ j ∧ j < s.vConnections.length then (s.statistic j).cleaned else s.statistic j
      accesses := accesses } := by
  obtain ⟨accesses, htrans⟩ := s.clearSessions.cleanTransactions_eq
  obtain ⟨accesses', hcount⟩ :=
    s.clearSessions.cleanTransactions.cleanQueues.foldl_count_cleaned s.vConnections.length
  refine ⟨accesses', ?_⟩
  unfold maxInactiveReached cleanCounters
  rw [htrans] at hcount ⊢
  exact hcount

end Proxy

/-! ## The clean-up as a whole -/

/-- In a table that was swept up to its last entry, the last entry is as before. -/
lemma mem_sweep_iff {t : List Transaction} (h : t ≠ []) :
    (∀ a ∈ Table.sweep t Transaction.freed (t.length - 1), a.status = .notUsed) ↔
      (t.getLast h).status = .notUsed := by
  have hlen : t.length - 1 < t.length := Nat.sub_one_lt (List.length_pos_iff.mpr h).ne'
  have hlast : (Table.sweep t Transaction.freed (t.length - 1))[t.length - 1]? =
      some (t.getLast h) := by
    rw [Table.getElem?_sweep, if_neg (lt_irrefl _), List.getElem?_eq_getElem hlen,
      List.getLast_eq_getElem]
  constructor
  · intro hall
    exact hall _ (List.mem_of_getElem? hlast)
  · intro hfree a ha
    obtain ⟨i, hi⟩ := List.mem_iff_getElem?.mp ha
    rw [Table.getElem?_sweep] at hi
    by_cases hlt : i < t.length - 1
    · rw [if_pos hlt] at hi
      obtain ⟨b, -, rfl⟩ := Option.map_eq_some_iff.mp hi
      exact b.freed_status
    · rw [if_neg hlt] at hi
      have hi' : i < t.length := (List.getElem?_eq_some_iff.mp hi).1
      have hieq : i = t.length - 1 := by omega
      rw [hieq, List.getElem?_eq_getElem hlen, ← List.getLast_eq_getElem h] at hi
      rw [← Option.some.inj hi]
      exact hfree

/-- **The proxy is reset exactly when its last transaction slot was free.** -/
theorem maxInactiveReached_cleanedUp_iff (s : Proxy) (h : s.vTransaction ≠ []) :
    s.maxInactiveReached.CleanedUp ↔ (s.vTransaction.getLast h).status = .notUsed := by
  obtain ⟨accesses, heq⟩ := s.maxInactiveReached_eq
  rw [heq, ← mem_sweep_iff h]
  constructor
  · intro hclean
    exact hclean.transactions
  · intro hfree
    exact {
      transactions := hfree
      sessions := fun _ => rfl
      queues := fun _ _ hqueue => s.cleanQueues_lookup hqueue
      counters := by
        intro i hi n hn
        have hrange : 0 ≤ (i : ℤ) ∧ (i : ℤ) < s.vConnections.length :=
          ⟨Int.natCast_nonneg i, Int.ofNat_lt.mpr hi⟩
        simp only [if_pos hrange] at hn
        exact Statistic.eq_zero_of_mem_cleaned hn }

/-- A proxy with two transaction slots. -/
def twoTransactions (t t' : Transaction) : Proxy :=
  { Proxy.init .twoTransactions with vTransaction := [t, t'] }

/-- A used slot before the last one is freed by the clean-up. -/
theorem firstTransaction_cleaned :
    (twoTransactions { status := .used } {}).maxInactiveReached.CleanedUp :=
  (maxInactiveReached_cleanedUp_iff _ (by simp [twoTransactions])).mpr rfl

/-- The last slot stays in use. -/
theorem lastTransaction_not_cleaned :
    ¬ (twoTransactions {} { status := .used }).maxInactiveReached.CleanedUp := by
  intro h
  have hused := h.transactions { status := .used } (by decide)
  exact absurd hused (by decide)

end DiaProxy
