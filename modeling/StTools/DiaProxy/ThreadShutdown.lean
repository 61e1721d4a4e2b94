import StTools.DiaProxy.ClientCounts
import StTools.DiaProxy.SelectSet

/-!
# The end of a client thread

`resetAndExit` closes the clients of a thread in a loop over their list, and `closeClient` removes
each of them from that list.  So the loop goes on behind the client that took the place of the one
removed, and every other client stays open.  With one client nothing is passed over.
-/

namespace DiaProxy

/-- What is expected of `resetAndExit`: every client of the thread is closed. -/
structure ClosesClients (s : Proxy) (thread : ℕ) : Prop where
  /-- Every client is offline and has no descriptor. -/
  closed : ∀ i ∈ (s.clientThread thread).conectionClients,
    ((s.resetAndExit thread).client i).status = .offline ∧
      ((s.resetAndExit thread).client i).sock = -1
  /-- The queues of the clients are gone. -/
  queues : ∀ i ∈ (s.clientThread thread).conectionClients,
    (s.resetAndExit thread).mPendingToSend.lookup (s.client i).sock = none
  /-- Every client is counted off its server connection. -/
  counts : ∀ c : ℤ, (s.resetAndExit thread).clientsOn c = s.clientsOn c -
    UInt32.ofNat ((s.clientThread thread).conectionClients.countP fun i =>
      (s.client i).diaServerConnection = c)

/-- The queue of a client that is closed is gone. -/
lemma lookup_closeClient {s : Proxy} {nr : ℕ} (thread : ℕ) (hsock : (s.client nr).sock ≠ -1) :
    (s.closeClient thread nr).mPendingToSend.lookup (s.client nr).sock = none := by
  obtain ⟨threads, ⟨_, _, _, _, heq⟩, -, -⟩ := s.closeClient_eq thread nr
  rw [heq, Proxy.tearDownIf_of_ne s hsock]
  exact QueueMap.lookup_closeQueue_self

/-- The loop of `resetAndExit` leaves the first client alone once it is behind it. -/
lemma client_closeClientsFrom {s : Proxy} {thread : ℕ} (h : ServesOwnSlots s thread) {i : ℤ}
    {rest : List ℤ} (hclients : (s.clientThread thread).conectionClients = i :: rest) (n : ℕ)
    {index : ℕ} (hindex : 0 < index) :
    (s.closeClientsFrom thread n index).client i = s.client i := by
  induction n generalizing s rest index with
  | zero => rfl
  | succ n ih =>
    unfold Proxy.closeClientsFrom
    split
    · rfl
    · rename_i k hk
      have hmem : k ∈ (s.clientThread thread).conectionClients := List.mem_of_getElem? hk
      obtain ⟨nr, rfl⟩ := Int.eq_ofNat_of_zero_le (h.inRange k hmem).1
      -- The client that is closed is behind the first one.
      have hne : i ≠ nr := by
        rintro rfl
        rw [hclients] at hk
        obtain ⟨index, rfl⟩ := Nat.exists_eq_add_of_lt hindex
        rw [Nat.zero_add, List.getElem?_cons_succ] at hk
        have hnodup := h.nodup
        rw [hclients] at hnodup
        exact (List.nodup_cons.mp hnodup).1 (List.mem_of_getElem? hk)
      have hleft : ((s.closeClient thread nr).clientThread thread).conectionClients =
          i :: rest.erase nr := by
        rw [h.conectionClients_closeClient (.inr (h.pos_eq nr hmem)), hclients, List.erase_cons_tail (by simpa using hne)]
      rw [Int.toNat_natCast, ih (h.close (.inr (h.pos_eq nr hmem))) hleft (Nat.succ_pos index),
        s.client_closeClient_of_ne thread hne.symm]

/-- The client behind the first is passed over. -/
lemma client_resetAndExit_second {s : Proxy} {thread : ℕ} (h : ServesOwnSlots s thread) {i j : ℤ}
    {rest : List ℤ} (hclients : (s.clientThread thread).conectionClients = i :: j :: rest) :
    (s.resetAndExit thread).client j = s.client j := by
  have hi : i ∈ (s.clientThread thread).conectionClients := by simp [hclients]
  obtain ⟨nr, rfl⟩ := Int.eq_ofNat_of_zero_le (h.inRange i hi).1
  have hleft : ((s.closeClient thread nr).clientThread thread).conectionClients = j :: rest := by
    rw [h.conectionClients_closeClient (.inr (h.pos_eq nr hi)), hclients, List.erase_cons_head]
  have hne : (nr : ℤ) ≠ j := by
    rintro rfl
    have hnodup := h.nodup
    rw [hclients] at hnodup
    exact (List.nodup_cons.mp hnodup).1 List.mem_cons_self
  have hloop : s.closeClientsFrom thread (rest.length + 2) 0 =
      (s.closeClient thread nr).closeClientsFrom thread (rest.length + 1) 1 := by
    rw [Proxy.closeClientsFrom, hclients]
    rfl
  -- The second client takes the place of the first, and the loop is behind it.
  have hkept : (s.resetAndExit thread).client j =
      ((s.closeClient thread nr).closeClientsFrom thread (rest.length + 1) 1).client j := by
    rw [← hloop, Proxy.resetAndExit, hclients]
    rfl
  rw [hkept, client_closeClientsFrom (h.close (.inr (h.pos_eq nr hi))) hleft _ Nat.one_pos,
    s.client_closeClient_of_ne thread hne]

/-- A thread without clients has nothing to close. -/
lemma closesClients_nil {s : Proxy} {thread : ℕ}
    (hclients : (s.clientThread thread).conectionClients = []) : ClosesClients s thread := by
  have hnone : (s.resetAndExit thread).statistic = s.statistic := by
    rw [Proxy.resetAndExit, hclients]
    rfl
  constructor
  · simp [hclients]
  · simp [hclients]
  · intro c
    rw [hclients, Proxy.clientsOn, hnone]
    simp [Proxy.clientsOn]

/-- The only client of a thread is closed. -/
lemma closesClients_singleton {s : Proxy} {thread nr : ℕ} (hnr : Table.InRange s.vClient nr)
    (hsock : (s.client nr).sock ≠ -1)
    (hclients : (s.clientThread thread).conectionClients = [(nr : ℤ)]) :
    ClosesClients s thread := by
  have hone : s.closeClientsFrom thread (s.clientThread thread).conectionClients.length 0 =
      s.closeClient thread nr := by
    rw [hclients, List.length_singleton, Proxy.closeClientsFrom, hclients]
    rfl
  obtain ⟨hexitClients, hexitQueues, hexitCounts⟩ :
      (s.resetAndExit thread).vClient = (s.closeClient thread nr).vClient ∧
      (s.resetAndExit thread).mPendingToSend = (s.closeClient thread nr).mPendingToSend ∧
      (s.resetAndExit thread).statistic = (s.closeClient thread nr).statistic := by
    rw [Proxy.resetAndExit, hone]
    exact ⟨rfl, rfl, rfl⟩
  constructor
  · rw [hclients]
    refine List.forall_mem_singleton.mpr ?_
    have hclosed : (s.resetAndExit thread).client nr = Proxy.closedClient (s.client nr) := by
      rw [Proxy.client, hexitClients]
      exact Proxy.client_closeClient_self thread hnr
    rw [hclosed]
    exact ⟨rfl, rfl⟩
  · rw [hclients, hexitQueues]
    exact List.forall_mem_singleton.mpr (lookup_closeClient thread hsock)
  · intro c
    rw [hclients, Proxy.clientsOn, hexitCounts]
    refine (s.clientsOn_closeClient thread nr c).trans ?_
    by_cases hc : c = (s.client nr).diaServerConnection
    · rw [if_pos hc, List.countP_singleton, if_pos (decide_eq_true hc.symm)]
      rfl
    · rw [if_neg hc, List.countP_singleton, if_neg (by simpa using Ne.symm hc)]
      simp

/-- **When `resetAndExit` closes every client of a thread**: there is at most one. -/
theorem closesClients_iff {s : Proxy} {thread : ℕ} (h : ServesOwnSlots s thread)
    (hsock : ∀ i ∈ (s.clientThread thread).conectionClients, (s.client i).sock ≠ -1) :
    ClosesClients s thread ↔ (s.clientThread thread).conectionClients.length ≤ 1 := by
  match hclients : (s.clientThread thread).conectionClients with
  | [] => exact iff_of_true (closesClients_nil hclients) (Nat.zero_le 1)
  | [i] =>
    have hi : i ∈ (s.clientThread thread).conectionClients := by simp [hclients]
    obtain ⟨nr, rfl⟩ := Int.eq_ofNat_of_zero_le (h.inRange i hi).1
    exact iff_of_true (closesClients_singleton (h.inRange nr hi) (hsock nr hi) hclients) le_rfl
  | i :: j :: rest =>
    refine iff_of_false (fun hcloses => ?_) (by simp)
    have hj : j ∈ (s.clientThread thread).conectionClients := by simp [hclients]
    have hoffline := (hcloses.closed j hj).1
    rw [client_resetAndExit_second h hclients, h.online j hj] at hoffline
    cases hoffline

/-- A thread with one client. -/
def withOne : Proxy := (Proxy.init fewSlots).addClient 0 5 0 (-1)

/-- A thread with two clients. -/
def withTwo : Proxy := withOne.addClient 1 7 0 (-1)

/-- The only client is closed. -/
theorem withOne_closesClients : ClosesClients withOne 0 := by
  have hinv : SelectInv 0 withOne := (selectInv_init fewSlots 0).add (by decide +kernel)
    (by decide +kernel) (by decide) (by decide +kernel) (by decide +kernel)
  exact (closesClients_iff hinv.slots hinv.sock_ne).mpr (by decide +kernel)

/-- The second of two clients stays online, with its descriptor. -/
theorem withTwo_not_closesClients : ((withTwo.resetAndExit 0).client 1).status = .online ∧
    ((withTwo.resetAndExit 0).client 1).sock = 7 ∧ ¬ ClosesClients withTwo 0 := by
  have honline : ((withTwo.resetAndExit 0).client 1).status = .online := by decide +kernel
  refine ⟨honline, by decide +kernel, fun h => ?_⟩
  have hoffline := (h.closed 1 (by decide +kernel)).1
  rw [honline] at hoffline
  cases hoffline

end DiaProxy
