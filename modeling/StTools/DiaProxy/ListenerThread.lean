import StTools.DiaProxy.ClientThread

/-!
# The listener

The listener accepts client connections: it looks for a free client slot and a connected server
connection, fills the slot, gives the client to a client thread, and starts that thread when
there are not enough of them.
-/

namespace DiaProxy

namespace Proxy

/-- The loop of `findConnection`, from an index on, for at most `n` connections.  The index runs
on behind the end of the table. -/
def findConnectionFrom (s : Proxy) : (n index : ℕ) → Proxy × Option ℕ
  | 0, _ => (s, none)
  | n + 1, index =>
    let s := s.uses (.connection index)
    if (s.connection index).status = .connected ∧ (s.connection index).type = .generic then
      ({ s with nextConnection := RoundRobin.advance s.vConnections.length s.nextConnection },
        some index)
    else s.findConnectionFrom n (index + 1)

/-- `findConnection`: a generic connection that is connected; `none` stands for `-1`. -/
def findConnection (s : Proxy) : Proxy × Option ℕ :=
  s.findConnectionFrom s.vConnections.length s.nextConnection

/-- The loop that looks for a free client slot. -/
def findSlot (s : Proxy) : Option ℕ :=
  (List.range s.cerData.numberOfClients).find? fun nr => (s.client nr).status = .offline

/-- The fields of the client slot are filled for a descriptor. -/
def storeClient (s : Proxy) (nr : ℕ) (sock : ℤ) (conFound : ℕ) : Proxy :=
  { s.setClient nr fun c =>
      { c with
        sock := sock
        pos := nr
        diaServerConnection := conFound
        esmServerConnection := conFound
        ismServerConnection := if s.cerData.ismPort ≠ 0 then 0 else conFound
        conn := some s.accepted } with
    descriptors := fun k => if k = sock then some (.client s.accepted) else s.descriptors k
    accepted := s.accepted + 1 }

/-- The choice of a thread slot by `addConnectionToClientThread`: the next one, from the first
again after the last that may be used; `none` when there is none left. -/
def chooseClientThread (s : Proxy) : Option ℤ :=
  if s.cerData.clientsSharingThreads then
    some (if s.nextClientThread < s.cerData.maxNumberClientThreads - 1 then s.nextClientThread + 1
      else 0)
  else if s.nextClientThread < s.vClientThread.length - 1 then some (s.nextClientThread + 1)
  else none

/-- The client is added to a thread slot and is online. -/
def joinThread (s : Proxy) (thread : ℤ) (nr : ℕ) : Proxy :=
  let sock := (s.client nr).sock
  (s.setClientThread thread fun t =>
    { t with
      conectionClients := t.conectionClients ++ [(nr : ℤ)]
      fds := insert sock t.fds
      maxFd := if sock ≥ t.maxFd then sock + 1 else t.maxFd }).setClient nr fun c =>
    { c with status := .online }

/-- `addConnectionToClientThread`: the client is given to a thread slot and its descriptor a
queue; `none` stands for the result `-1`, also when the descriptor has a queue already. -/
def addConnectionToClientThread (s : Proxy) (nr : ℕ) : Proxy × Option ℤ :=
  match s.chooseClientThread with
  | none => (s, none)
  | some thread =>
    let sock := (s.client nr).sock
    let s := { s with nextClientThread := thread }.joinThread thread nr
    if (s.mPendingToSend.lookup sock).isSome then (s, none)
    else ({ s with mPendingToSend := s.mPendingToSend.openQueue sock }, some thread)

/-- A thread is started with this slot as its argument. -/
def startClientThread (s : Proxy) (thread : ℤ) : Proxy :=
  { s.setClientThread thread fun t => { t with running := t.running + 1 } with
    numberClientThreads := s.numberClientThreads + 1 }

/-- The proxy is processing, and the server connection has a client more. -/
def joinConnection (s : Proxy) (conFound : ℕ) : Proxy :=
  { s with supervision := { s.supervision with diaProxyState := .processing } }.count conFound
    fun c =>
      { c with
        numberOfClients := c.numberOfClients + 1
        totalNumberOfClients := c.totalNumberOfClients + 1 }

/-- Enough threads run: the new client shares one of them. -/
def SharesThread (s : Proxy) : Prop :=
  s.cerData.clientsSharingThreads ∧ s.cerData.maxNumberClientThreads ≤ s.numberClientThreads

instance (s : Proxy) : Decidable s.SharesThread := inferInstanceAs (Decidable (_ ∧ _))

/-- What the listener does with a connection accepted on a descriptor.  `none` means that the
listener gives up and the process ends.  When no slot is free, the descriptor is closed again. -/
def acceptClient (s : Proxy) (sock : ℤ) : Option Proxy :=
  match s.findSlot with
  | none => some s
  | some nr =>
    match s.findConnection with
    | (_, none) => none
    | (s, some conFound) =>
      let s := s.storeClient nr sock conFound
      let shares := s.SharesThread
      match s.addConnectionToClientThread nr with
      | (s, thread) =>
        if shares then some (s.joinConnection conFound)
        else
          match thread with
          | none => none
          | some thread => some ((s.startClientThread thread).joinConnection conFound)

/-! ## The choice of a connection -/

/-- The connection is generic and connected. -/
def IsLive (s : Proxy) (i : ℕ) : Prop :=
  (s.connection i).status = .connected ∧ (s.connection i).type = .generic

instance (s : Proxy) (i : ℕ) : Decidable (s.IsLive i) := inferInstanceAs (Decidable (_ ∧ _))

/-- The notes of the connections that are read. -/
def connectionReads (indices : List ℕ) : List Access := indices.map fun i : ℕ => .connection i

/-- What is expected of `findConnection`. -/
structure FindsConnection (s : Proxy) : Prop where
  /-- Only connections of the table are read. -/
  reads : ∃ indices, s.findConnection.1.accesses = connectionReads indices ++ s.accesses ∧
    ∀ i ∈ indices, i < s.vConnections.length
  /-- What is found is live. -/
  live : ∀ i, s.findConnection.2 = some i → i < s.vConnections.length ∧ s.IsLive i
  /-- Something is found when there is a live connection. -/
  found : s.findConnection.2 = none → ∀ i < s.vConnections.length, ¬ s.IsLive i
  /-- The cursor stays inside the table. -/
  cursor_lt : s.findConnection.1.nextConnection < s.vConnections.length

/-- One pass of the search. -/
lemma findConnectionFrom_succ (s : Proxy) (n index : ℕ) :
    s.findConnectionFrom (n + 1) index =
      if s.IsLive index then
        ({ s.uses (.connection index) with
            nextConnection := RoundRobin.advance s.vConnections.length s.nextConnection },
          some index)
      else (s.uses (.connection index)).findConnectionFrom n (index + 1) := rfl

/-- The search without a hit reads one connection after the other. -/
lemma findConnectionFrom_of_none {s : Proxy} {n index : ℕ}
    (hnone : ∀ i, index ≤ i → i < index + n → ¬ s.IsLive i) :
    s.findConnectionFrom n index = ({ s with
      accesses := connectionReads (List.range' index n).reverse ++ s.accesses }, none) := by
  induction n generalizing s index with
  | zero => rfl
  | succ n ih =>
    rw [findConnectionFrom_succ, if_neg (hnone index le_rfl (by omega)),
      ih (s := s.uses (.connection index)) fun i hi hlt => hnone i (by omega) (by omega)]
    simp [uses, List.range'_succ, connectionReads]

/-- The search with a hit reads the connections up to the first live one. -/
lemma findConnectionFrom_of_live {s : Proxy} {n index i : ℕ} (hindex : index ≤ i)
    (hi : i < index + n) (hlive : s.IsLive i) (hfirst : ∀ k, index ≤ k → k < i → ¬ s.IsLive k) :
    s.findConnectionFrom n index = ({ s with
      nextConnection := RoundRobin.advance s.vConnections.length s.nextConnection
      accesses := connectionReads (List.range' index (i + 1 - index)).reverse ++ s.accesses },
      some i) := by
  induction n generalizing s index with
  | zero => omega
  | succ n ih =>
    rw [findConnectionFrom_succ]
    by_cases hhere : index = i
    · subst hhere
      rw [if_pos hlive]
      simp [uses, connectionReads]
    · have hsplit : i + 1 - index = (i + 1 - (index + 1)) + 1 := by omega
      rw [if_neg (hfirst index le_rfl (by omega)), ih (s := s.uses (.connection index)) (by omega)
        (by omega) hlive fun k hk hlt => hfirst k (by omega) hlt, hsplit, List.range'_succ]
      simp [uses, connectionReads]

/-- A connection that is behind the end of the table is not live. -/
lemma lt_of_isLive {s : Proxy} {i : ℕ} (h : s.IsLive i) : i < s.vConnections.length := by
  by_contra hlength
  have hrange : ¬ Table.InRange s.vConnections i := fun hin => hlength (Int.ofNat_lt.mp hin.2)
  rw [IsLive, connection, Table.read_of_not_inRange hrange] at h
  cases h.1

/-- **When `findConnection` does what is expected**: the search starts at the first connection, or it meets a
live one before it comes to the end of the table. -/
theorem findsConnection_iff (s : Proxy) (hcur : s.nextConnection < s.vConnections.length) :
    s.FindsConnection ↔ s.nextConnection = 0 ∨
      ∃ i, s.nextConnection ≤ i ∧ i < s.vConnections.length ∧ s.IsLive i := by
  by_cases hhit : ∃ i, s.nextConnection ≤ i ∧ s.IsLive i
  · -- The first live connection from the cursor on is found.
    obtain ⟨hindex, hlive⟩ := Nat.find_spec hhit
    have hlt := lt_of_isLive hlive
    have hfirst : ∀ k, s.nextConnection ≤ k → k < Nat.find hhit → ¬ s.IsLive k :=
      fun k hk hlt hlive => Nat.find_min hhit hlt ⟨hk, hlive⟩
    have hfind : s.findConnection = _ :=
      findConnectionFrom_of_live hindex (by omega) hlive hfirst
    refine ⟨fun _ => .inr ⟨_, hindex, hlt, hlive⟩, fun _ => ?_⟩
    rw [findConnection] at hfind
    refine ⟨⟨_, by rw [findConnection, hfind], fun i hi => ?_⟩, fun i hi => ?_, fun hnone => ?_, ?_⟩
    · rw [List.mem_reverse, List.mem_range'_1] at hi
      omega
    · rw [findConnection, hfind] at hi
      obtain rfl := Option.some.inj hi
      exact ⟨hlt, hlive⟩
    · rw [findConnection, hfind] at hnone
      cases hnone
    · rw [findConnection, hfind]
      exact RoundRobin.advance_lt hcur
  · -- Nothing is found, after a read behind the end unless the search starts at the first connection.
    have hnone : ∀ i, s.nextConnection ≤ i → ¬ s.IsLive i := fun i hi hlive => hhit ⟨i, hi, hlive⟩
    have hfind := findConnectionFrom_of_none (n := s.vConnections.length) fun i hi _ => hnone i hi
    constructor
    · intro h
      left
      by_contra hcursor
      obtain ⟨indices, hreads, hinside⟩ := h.reads
      rw [findConnection, hfind] at hreads
      have hread : Access.connection s.vConnections.length ∈ connectionReads indices := by
        rw [← List.append_cancel_right hreads]
        refine List.mem_map.mpr ⟨s.vConnections.length, ?_, rfl⟩
        rw [List.mem_reverse, List.mem_range'_1]
        omega
      obtain ⟨i, hi, heq⟩ := List.mem_map.mp hread
      have hlt := hinside i hi
      obtain rfl : i = s.vConnections.length := Int.ofNat.inj (Access.connection.inj heq)
      omega
    · rintro (hzero | ⟨i, hi, -, hlive⟩)
      · refine ⟨⟨_, by rw [findConnection, hfind], fun i hi => ?_⟩, fun i hi => ?_,
          fun _ i _ => hnone i (by omega), ?_⟩
        · rw [List.mem_reverse, List.mem_range'_1] at hi
          omega
        · rw [findConnection, hfind] at hi
          cases hi
        · rw [findConnection, hfind]
          exact hcur
      · exact absurd hlive (hnone i hi)

/-- A proxy with two generic connections, of which only the first is connected. -/
def firstConnected (nextConnection : ℕ) : Proxy :=
  { Proxy.init .twoConnections with
    vConnections := [{ status := .connected, pos := 0 }, { pos := 1 }]
    nextConnection := nextConnection }

/-- The search finds it when it starts there. -/
theorem findsConnection_first : (firstConnected 0).FindsConnection ∧
    (firstConnected 0).findConnection.2 = some 0 :=
  ⟨(findsConnection_iff (firstConnected 0) (by decide)).mpr (.inl rfl), by decide⟩

/-- But not when it starts at the second one. -/
theorem not_findsConnection_second : (firstConnected 1).findConnection.2 = none ∧
    (firstConnected 1).findConnection.1.accesses = [.connection 2, .connection 1] ∧
      ¬ (firstConnected 1).FindsConnection :=
  ⟨by decide, by decide, fun h => h.found (by decide) 0 (by decide) (by decide)⟩

/-! ## What accepting changes -/

/-- `findConnection` moves the cursor of that search only; what it finds is connected. -/
lemma findConnectionFrom_eq (s : Proxy) (n index : ℕ) :
    ((s.findConnectionFrom n index).2 = none ∨
      ∃ con next accesses, s.findConnectionFrom n index =
          ({ s with nextConnection := next, accesses := accesses }, some con) ∧
        (next = s.nextConnection ∨ next = RoundRobin.advance s.vConnections.length s.nextConnection) ∧
        (s.connection con).status = .connected) := by
  induction n generalizing s index with
  | zero => exact Or.inl rfl
  | succ n ih =>
    unfold findConnectionFrom
    dsimp only
    split
    · rename_i h
      exact Or.inr ⟨index, _, _, rfl, Or.inr rfl, h.1⟩
    · rcases ih (s.uses (.connection index)) (index + 1) with hnone | ⟨con, next, acc, heq, hnext, hst⟩
      · exact Or.inl hnone
      · exact Or.inr ⟨con, next, acc, heq, hnext, hst⟩

/-- The slot that is found is free and inside the table. -/
lemma findSlot_eq_some {s : Proxy} {nr : ℕ} (h : s.findSlot = some nr) :
    nr < s.cerData.numberOfClients ∧ (s.client nr).status = .offline := by
  unfold findSlot at h
  have hmem := List.mem_of_find?_eq_some h
  have hoff := List.find?_some h
  exact ⟨List.mem_range.mp hmem, of_decide_eq_true hoff⟩

/-- What `addConnectionToClientThread` changes: the client joins the chosen thread, and its
descriptor has a queue; it fails when there was one already. -/
lemma addConnectionToClientThread_eq {s : Proxy} {nr : ℕ} {thread : ℤ}
    (h : s.chooseClientThread = some thread) :
    s.addConnectionToClientThread nr =
      ({ { s with nextClientThread := thread }.joinThread thread nr with
          mPendingToSend := s.mPendingToSend.openQueue (s.client nr).sock },
        if (s.mPendingToSend.lookup (s.client nr).sock).isSome then none else some thread) := by
  unfold addConnectionToClientThread
  rw [h]
  dsimp only
  by_cases hqueue : (s.mPendingToSend.lookup (s.client nr).sock).isSome
  · rw [if_pos hqueue, if_pos (show (AList.lookup (s.client nr).sock (Proxy.joinThread
      { s with nextClientThread := thread } thread nr).mPendingToSend).isSome = true from hqueue)]
    unfold QueueMap.openQueue
    rw [if_pos hqueue]
    rfl
  · rw [if_neg hqueue, if_neg (show ¬ (AList.lookup (s.client nr).sock (Proxy.joinThread
      { s with nextClientThread := thread } thread nr).mPendingToSend).isSome = true from hqueue)]
    rfl

/-- The slot of a client that was stored has its descriptor. -/
lemma storeClient_sock (s : Proxy) {nr : ℕ} (sock : ℤ) (conFound : ℕ)
    (h : nr < s.vClient.length) : ((s.storeClient nr sock conFound).client nr).sock = sock := by
  have hrange : Table.InRange s.vClient nr := ⟨Int.natCast_nonneg nr, Int.ofNat_lt.mpr h⟩
  unfold storeClient client setClient
  dsimp only
  rw [Table.read_modify_self _ hrange]

/-- `joinThread` of a client with a known descriptor, on the chosen thread. -/
lemma joinThread_eq {s : Proxy} {nr : ℕ} {sock thread : ℤ} (h : (s.client nr).sock = sock) :
    { s with nextClientThread := thread }.joinThread thread nr =
      ({ s with nextClientThread := thread }.setClientThread thread fun t =>
        { t with
          conectionClients := t.conectionClients ++ [(nr : ℤ)]
          fds := insert sock t.fds
          maxFd := if sock ≥ t.maxFd then sock + 1 else t.maxFd }).setClient nr fun c =>
      { c with status := .online } := by
  subst h
  rfl

/-- How many threads are started for a new client. -/
def threadsToStart (s : Proxy) : ℕ := if s.SharesThread then 0 else 1

/-- The client slot of a connection that was accepted on a descriptor. -/
def acceptedClient (s : Proxy) (nr : ℕ) (sock : ℤ) (conFound : ℕ) (c : ClientConnection) :
    ClientConnection :=
  { c with
    sock := sock
    pos := nr
    diaServerConnection := conFound
    esmServerConnection := conFound
    ismServerConnection := if s.cerData.ismPort ≠ 0 then 0 else conFound
    conn := some s.accepted
    status := .online }

/-- A thread record with one more client, and perhaps a thread that was started. -/
def joinedThread (s : Proxy) (nr : ℕ) (sock : ℤ) (t : ClientThread) : ClientThread :=
  { t with
    conectionClients := t.conectionClients ++ [(nr : ℤ)]
    fds := insert sock t.fds
    maxFd := if sock ≥ t.maxFd then sock + 1 else t.maxFd
    running := t.running + s.threadsToStart }

/-- **What accepting a client changes.**  Either there was no free slot, or a free slot is filled,
its client joins the chosen thread, which may be started, and its descriptor has a queue. -/
theorem acceptClient_cases {s s' : Proxy} {sock : ℤ}
    (hlen : s.vClient.length = s.cerData.numberOfClients) (h : s.acceptClient sock = some s') :
    (s.findSlot = none ∧ s' = s) ∨
    ∃ (nr conFound next : ℕ) (thread : ℤ), s.findSlot = some nr ∧ (s.connection conFound).status = .connected ∧
      (next = s.nextConnection ∨
        next = RoundRobin.advance s.vConnections.length s.nextConnection) ∧
      s.chooseClientThread = some thread ∧
      Logged { s with
        nextConnection := next
        vClient := Table.modify s.vClient nr (s.acceptedClient nr sock conFound)
        descriptors := fun k => if k = sock then some (.client s.accepted) else s.descriptors k
        accepted := s.accepted + 1
        nextClientThread := thread
        vClientThread := Table.modify s.vClientThread thread (s.joinedThread nr sock)
        numberClientThreads := s.numberClientThreads + s.threadsToStart
        mPendingToSend := s.mPendingToSend.openQueue sock
        supervision := { s.supervision with diaProxyState := .processing } } s' := by
  unfold acceptClient at h
  cases hslot : s.findSlot with
  | none =>
    rw [hslot] at h
    exact Or.inl ⟨rfl, (Option.some.inj h).symm⟩
  | some nr =>
    rw [hslot] at h
    dsimp only at h
    rcases s.findConnectionFrom_eq s.vConnections.length s.nextConnection with
      hnone | ⟨con, next, accesses, heq, hnext, hstatus⟩
    · unfold findConnection at h
      cases hfind : s.findConnectionFrom s.vConnections.length s.nextConnection with
      | mk t found =>
        rw [hfind] at h hnone
        obtain rfl : found = none := hnone
        cases h
    · unfold findConnection at h
      rw [heq] at h
      dsimp only at h
      obtain ⟨hlt, -⟩ := findSlot_eq_some hslot
      generalize hstore : Proxy.storeClient _ nr sock con = stored at h
      have hsock : (stored.client nr).sock = sock := by
        rw [← hstore]
        exact storeClient_sock _ sock con (by rw [← hlen] at hlt; exact hlt)
      have hshares : stored.SharesThread ↔ s.SharesThread := by rw [← hstore]; exact Iff.rfl
      have hchoose : stored.chooseClientThread = s.chooseClientThread := by rw [← hstore]; rfl
      cases hthread : s.chooseClientThread with
      | none =>
        have hsharing : s.cerData.clientsSharingThreads = false := by
          unfold chooseClientThread at hthread
          by_contra hsharing
          rw [if_pos (by simpa using hsharing)] at hthread
          cases hthread
        unfold addConnectionToClientThread at h
        rw [hchoose, hthread] at h
        dsimp only at h
        rw [if_neg fun hs => by rw [hshares, SharesThread, hsharing] at hs; exact absurd hs.1 (by simp)]
          at h
        cases h
      | some thread =>
        rw [addConnectionToClientThread_eq (hchoose.trans hthread), hsock] at h
        refine Or.inr ⟨nr, con, next, thread, rfl, hstatus, hnext, rfl, ?_⟩
        dsimp only at h
        by_cases hs : s.SharesThread
        · rw [if_pos (hshares.mpr hs)] at h
          obtain rfl := Option.some.inj h
          subst hstore
          have hstart : s.threadsToStart = 0 := if_pos hs
          unfold joinedThread
          rw [hstart, joinThread_eq hsock]
          unfold joinConnection count setClient setClientThread storeClient setClient
          simp only [Table.modify_modify]
          exact ⟨_, _, _, _, rfl⟩
        · rw [if_neg (mt hshares.mp hs)] at h
          by_cases hqueue : (stored.mPendingToSend.lookup sock).isSome
          · rw [if_pos hqueue] at h
            cases h
          · rw [if_neg hqueue] at h
            obtain rfl := Option.some.inj h
            subst hstore
            have hstart : s.threadsToStart = 1 := if_neg hs
            unfold joinedThread
            rw [hstart, joinThread_eq hsock]
            unfold startClientThread joinConnection count setClient setClientThread storeClient
              setClient
            simp only [Table.modify_modify]
            exact ⟨_, _, _, _, rfl⟩

end Proxy

end DiaProxy
