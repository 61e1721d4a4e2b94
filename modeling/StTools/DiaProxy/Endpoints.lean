import StTools.DiaProxy.RunRule

/-!
# Descriptors and their owners

A client that is online and a server connection that has a descriptor own it: the kernel knows the
descriptor as theirs, and nobody else has it.  A slot that is offline has no descriptor.  Every
accepted connection was given to one slot only.
-/

namespace DiaProxy

/-! ## The invariant -/

/-- A client slot and its descriptor agree. -/
structure ClientOk (descriptors : ℤ → Option Peer) (i : ℤ) (c : ClientConnection) : Prop where
  /-- A client that is online owns its descriptor. -/
  online : c.status = .online →
    c.pos = i ∧ ∃ conn, c.conn = some conn ∧ descriptors c.sock = some (.client conn)
  /-- A free slot has none. -/
  offline : c.status = .offline → c.sock = -1 ∧ c.pos = -1

/-- A descriptor that was not open is none of a client. -/
lemma ClientOk.opened {descriptors : ℤ → Option Peer} {i sock : ℤ} {c : ClientConnection}
    (h : ClientOk descriptors i c) (hfree : descriptors sock = none) (peer : Option Peer) :
    ClientOk (fun k => if k = sock then peer else descriptors k) i c := by
  refine ⟨fun honline => ?_, h.offline⟩
  obtain ⟨hpos, conn, hconn, hopen⟩ := h.online honline
  refine ⟨hpos, conn, hconn, ?_⟩
  have hne : c.sock ≠ sock := by
    intro heq
    rw [heq, hfree] at hopen
    cases hopen
  rw [if_neg hne]
  exact hopen

/-- Descriptors and their owners agree. -/
structure EndpointsInv (clients : List ClientConnection) (connections : List DiaServerConnection)
    (descriptors : ℤ → Option Peer) (accepted : ℕ) : Prop where
  /-- A descriptor is not negative. -/
  nonneg : ∀ sock, descriptors sock ≠ none → 0 ≤ sock
  /-- The clients. -/
  client : ∀ i, ClientOk descriptors i (Table.read clients {} i)
  /-- A slot was given to a connection that was accepted. -/
  conn_lt : ∀ i conn, (Table.read clients {} i).conn = some conn → conn < accepted
  /-- A connection was given to one slot. -/
  conn_inj : ∀ i j conn, (Table.read clients {} i).conn = some conn →
    (Table.read clients {} j).conn = some conn → i = j
  /-- A server connection owns its descriptor. -/
  server : ∀ c : ℕ, (Table.read connections {} c).sockId ≠ -1 →
    descriptors (Table.read connections {} c).sockId = some (.server c)
  /-- A server connection knows its index. -/
  server_pos : ∀ c : ℕ, c < connections.length → (Table.read connections {} c).pos = c

/-- The invariant of a state. -/
def Proxy.EndpointsOk (s : Proxy) : Prop :=
  EndpointsInv s.vClient s.vConnections s.descriptors s.accepted

namespace EndpointsInv

variable {clients clients' : List ClientConnection}
  {connections connections' : List DiaServerConnection} {descriptors : ℤ → Option Peer}
  {accepted : ℕ}

/-- No connection is on the descriptor `-1`. -/
lemma not_open (h : EndpointsInv clients connections descriptors accepted) :
    descriptors (-1) = none := by
  by_contra hopen
  exact absurd (h.nonneg (-1) hopen) (by decide)

/-- A slot whose descriptor is that of an accepted connection was given to it. -/
lemma conn_of_open (h : EndpointsInv clients connections descriptors accepted) {i : ℤ} {conn : ℕ}
    (hopen : descriptors (Table.read clients {} i).sock = some (.client conn)) :
    (Table.read clients {} i).conn = some conn := by
  cases hstatus : (Table.read clients {} i).status with
  | offline =>
    rw [((h.client i).offline hstatus).1, h.not_open] at hopen
    cases hopen
  | online =>
    obtain ⟨-, conn', hconn, hopen'⟩ := (h.client i).online hstatus
    rw [hopen'] at hopen
    cases hopen
    exact hconn

/-- A client that is online shares its descriptor with no other slot. -/
lemma sock_ne (h : EndpointsInv clients connections descriptors accepted) {i j : ℤ}
    (honline : (Table.read clients {} i).status = .online) (hij : i ≠ j) :
    (Table.read clients {} i).sock ≠ (Table.read clients {} j).sock := by
  intro heq
  obtain ⟨-, conn, hconn, hopen⟩ := (h.client i).online honline
  exact hij (h.conn_inj i j conn hconn (h.conn_of_open (heq ▸ hopen)))

/-- A client that is online shares its descriptor with no server connection. -/
lemma sock_ne_sockId (h : EndpointsInv clients connections descriptors accepted) {i : ℤ}
    (honline : (Table.read clients {} i).status = .online) (c : ℕ) :
    (Table.read clients {} i).sock ≠ (Table.read connections {} c).sockId := by
  intro heq
  obtain ⟨-, conn, -, hopen⟩ := (h.client i).online honline
  by_cases hsock : (Table.read connections {} c).sockId = -1
  · rw [heq, hsock, h.not_open] at hopen
    cases hopen
  · rw [heq, h.server c hsock] at hopen
    cases hopen

/-- A server connection shares its descriptor with no client. -/
lemma sockId_ne_sock (h : EndpointsInv clients connections descriptors accepted) {c : ℕ}
    (hsock : (Table.read connections {} c).sockId ≠ -1) (i : ℤ) :
    (Table.read connections {} c).sockId ≠ (Table.read clients {} i).sock := by
  intro heq
  cases hstatus : (Table.read clients {} i).status with
  | offline => exact hsock (heq.trans ((h.client i).offline hstatus).1)
  | online => exact h.sock_ne_sockId hstatus c heq.symm

/-- Two server connections have different descriptors. -/
lemma sockId_ne (h : EndpointsInv clients connections descriptors accepted) {c c' : ℕ}
    (hsock : (Table.read connections {} c).sockId ≠ -1) (hc : c ≠ c') :
    (Table.read connections {} c).sockId ≠ (Table.read connections {} c').sockId := by
  intro heq
  have hopen := h.server c hsock
  rw [heq, h.server c' (heq ▸ hsock)] at hopen
  cases hopen
  exact hc rfl

/-- A client table with the same endpoints. -/
lemma sameClients (h : EndpointsInv clients connections descriptors accepted)
    (hsame : ∀ i, (Table.read clients' {} i).status = (Table.read clients {} i).status ∧
      (Table.read clients' {} i).sock = (Table.read clients {} i).sock ∧
      (Table.read clients' {} i).pos = (Table.read clients {} i).pos ∧
      (Table.read clients' {} i).conn = (Table.read clients {} i).conn) :
    EndpointsInv clients' connections descriptors accepted where
  nonneg := h.nonneg
  client i := by
    obtain ⟨hstatus, hsock, hpos, hconn⟩ := hsame i
    constructor
    · rw [hstatus, hsock, hpos, hconn]
      exact (h.client i).online
    · rw [hstatus, hsock, hpos]
      exact (h.client i).offline
  conn_lt i conn hi := h.conn_lt i conn ((hsame i).2.2.2 ▸ hi)
  conn_inj i j conn hi hj :=
    h.conn_inj i j conn ((hsame i).2.2.2 ▸ hi) ((hsame j).2.2.2 ▸ hj)
  server := h.server
  server_pos := h.server_pos

/-- A connection table with the same endpoints. -/
lemma sameConnections (h : EndpointsInv clients connections descriptors accepted)
    (hlen : connections'.length = connections.length)
    (hsame : ∀ c : ℕ,
      (Table.read connections' {} c).sockId = (Table.read connections {} c).sockId ∧
        (Table.read connections' {} c).pos = (Table.read connections {} c).pos) :
    EndpointsInv clients connections' descriptors accepted where
  nonneg := h.nonneg
  client := h.client
  conn_lt := h.conn_lt
  conn_inj := h.conn_inj
  server c := by
    rw [(hsame c).1]
    exact h.server c
  server_pos c hc := (hsame c).2.trans (h.server_pos c (hlen ▸ hc))

/-- The status of a server connection is no part of the endpoints. -/
lemma connectionStatus (h : EndpointsInv clients connections descriptors accepted) (c : ℤ)
    (status : ConnectionStatus) :
    EndpointsInv clients (Table.modify connections c fun d => { d with status := status })
      descriptors accepted := by
  refine h.sameConnections (Table.length_modify _ _ _) fun c' => ⟨?_, ?_⟩
  · refine Table.read_modify_field DiaServerConnection.sockId ?_
    exact fun _ => rfl
  · refine Table.read_modify_field DiaServerConnection.pos ?_
    exact fun _ => rfl

/-- A server connection without a descriptor is started. -/
lemma start (h : EndpointsInv clients connections descriptors accepted) {c : ℕ}
    (hsock : (Table.read connections {} c).sockId = -1) :
    EndpointsInv clients
      (Table.modify connections c fun d => { d with status := .connecting, sockId := -1 })
      descriptors accepted := by
  refine h.sameConnections (Table.length_modify _ _ _) fun c' => ⟨?_, ?_⟩
  · rw [Table.read_modify]
    split_ifs with hc
    · rw [← hc.1]
      exact hsock.symm
    · rfl
  · refine Table.read_modify_field DiaServerConnection.pos ?_
    exact fun _ => rfl

/-- Closing a client does not change which connection a slot was given to. -/
lemma conn_closeClient (nr : ℕ) (i : ℤ) :
    (Table.read (Table.modify clients nr Proxy.closedClient) {} i).conn =
      (Table.read clients {} i).conn := by
  refine Table.read_modify_field ClientConnection.conn ?_
  exact fun _ => rfl

/-- A client is closed. -/
lemma closeClient (h : EndpointsInv clients connections descriptors accepted) (nr : ℕ) :
    EndpointsInv (Table.modify clients nr Proxy.closedClient) connections
      (fun k => if k = (Table.read clients {} nr).sock then none else descriptors k) accepted where
  nonneg sock hopen := by
    refine h.nonneg sock fun hnone => hopen ?_
    rw [hnone, ite_self]
  client i := by
    by_cases hi : (nr : ℤ) = i ∧ Table.InRange clients i
    · rw [Table.read_modify, if_pos hi]
      refine ⟨fun honline => ?_, fun _ => ⟨rfl, rfl⟩⟩
      cases honline
    · rw [Table.read_modify, if_neg hi]
      refine ⟨fun honline => ?_, (h.client i).offline⟩
      have hne : i ≠ nr := by
        rintro rfl
        apply hi
        refine ⟨rfl, ?_⟩
        by_contra hrange
        rw [Table.read_of_not_inRange hrange] at honline
        cases honline
      rw [if_neg (h.sock_ne honline hne)]
      exact (h.client i).online honline
  conn_lt i conn hi := by
    rw [conn_closeClient] at hi
    exact h.conn_lt i conn hi
  conn_inj i j conn hi hj := by
    rw [conn_closeClient] at hi hj
    exact h.conn_inj i j conn hi hj
  server c hc := by
    rw [if_neg (h.sockId_ne_sock hc nr)]
    exact h.server c hc
  server_pos := h.server_pos

/-- A server connection is cleaned up. -/
lemma cleanConnection (h : EndpointsInv clients connections descriptors accepted) (c : ℕ) :
    EndpointsInv clients (Table.modify connections c fun d => { d with sockId := -1 })
      (fun k => if k = (Table.read connections {} c).sockId then none else descriptors k)
      accepted where
  nonneg sock hopen := by
    refine h.nonneg sock fun hnone => hopen ?_
    rw [hnone, ite_self]
  client i := by
    refine ⟨fun honline => ?_, (h.client i).offline⟩
    rw [if_neg (h.sock_ne_sockId honline c)]
    exact (h.client i).online honline
  conn_lt := h.conn_lt
  conn_inj := h.conn_inj
  server c' hc' := by
    by_cases hcc : (c : ℤ) = c' ∧ Table.InRange connections c'
    · rw [Table.read_modify, if_pos hcc] at hc'
      exact absurd rfl hc'
    · rw [Table.read_modify, if_neg hcc] at hc' ⊢
      have hne : c' ≠ c := by
        rintro rfl
        apply hcc
        refine ⟨rfl, ?_⟩
        by_contra hrange
        rw [Table.read_of_not_inRange hrange] at hc'
        exact hc' rfl
      rw [if_neg (h.sockId_ne hc' hne)]
      exact h.server c' hc'
  server_pos c' hc' := by
    rw [Table.length_modify] at hc'
    refine (Table.read_modify_field DiaServerConnection.pos ?_).trans (h.server_pos c' hc')
    exact fun _ => rfl

/-- A server connection is established on a descriptor that was not open. -/
lemma connect (h : EndpointsInv clients connections descriptors accepted) {c : ℕ} {sock : ℤ}
    (hsock : 0 ≤ sock) (hfree : descriptors sock = none) :
    EndpointsInv clients
      (Table.modify connections c fun d => { d with sockId := sock, status := .connected })
      (fun k => if k = sock then some (.server c) else descriptors k) accepted where
  nonneg k hopen := by
    by_cases hk : k = sock
    · exact hk ▸ hsock
    · rw [if_neg hk] at hopen
      exact h.nonneg k hopen
  client i := (h.client i).opened hfree _
  conn_lt := h.conn_lt
  conn_inj := h.conn_inj
  server c' hc' := by
    by_cases hcc : (c : ℤ) = c' ∧ Table.InRange connections c'
    · rw [Table.read_modify, if_pos hcc]
      dsimp only
      rw [if_pos rfl, Int.ofNat_inj.mp hcc.1]
    · rw [Table.read_modify, if_neg hcc] at hc' ⊢
      have hopen := h.server c' hc'
      have hne : (Table.read connections {} c').sockId ≠ sock := by
        intro heq
        rw [heq, hfree] at hopen
        cases hopen
      rw [if_neg hne]
      exact hopen
  server_pos c' hc' := by
    rw [Table.length_modify] at hc'
    refine (Table.read_modify_field DiaServerConnection.pos ?_).trans (h.server_pos c' hc')
    exact fun _ => rfl

/-- A connection is accepted on a descriptor that was not open, for a free slot. -/
lemma accept (h : EndpointsInv clients connections descriptors accepted) {nr : ℕ} {sock : ℤ}
    {store : ClientConnection → ClientConnection}
    (hstore : ∀ c, (store c).sock = sock ∧ (store c).pos = nr ∧ (store c).conn = some accepted ∧
      (store c).status = .online)
    (hsock : 0 ≤ sock) (hfree : descriptors sock = none) :
    EndpointsInv (Table.modify clients nr store) connections
      (fun k => if k = sock then some (.client accepted) else descriptors k) (accepted + 1) := by
  have hold : ∀ {i conn}, (Table.read clients {} i).conn = some conn → conn ≠ accepted :=
    fun hconn => Nat.ne_of_lt (h.conn_lt _ _ hconn)
  constructor
  · intro k hopen
    by_cases hk : k = sock
    · exact hk ▸ hsock
    · rw [if_neg hk] at hopen
      exact h.nonneg k hopen
  · intro i
    by_cases hi : (nr : ℤ) = i ∧ Table.InRange clients i
    · rw [Table.read_modify, if_pos hi]
      obtain ⟨hs, hpos, hconn, hstatus⟩ := hstore (Table.read clients {} i)
      refine ⟨fun _ => ⟨hpos.trans hi.1, accepted, hconn, ?_⟩, fun hoff => ?_⟩
      · rw [hs, if_pos rfl]
      · rw [hstatus] at hoff
        cases hoff
    · rw [Table.read_modify, if_neg hi]
      exact (h.client i).opened hfree _
  · intro i conn hi
    rw [Table.read_modify] at hi
    split_ifs at hi
    · rw [(hstore _).2.2.1, Option.some.injEq] at hi
      exact hi ▸ Nat.lt_succ_self _
    · exact Nat.lt_succ_of_lt (h.conn_lt i conn hi)
  · intro i j conn hi hj
    rw [Table.read_modify] at hi hj
    split_ifs at hi hj with hi' hj' hj'
    · exact hi'.1.symm.trans hj'.1
    · rw [(hstore _).2.2.1, Option.some.injEq] at hi
      exact absurd hi.symm (hold hj)
    · rw [(hstore _).2.2.1, Option.some.injEq] at hj
      exact absurd hj.symm (hold hi)
    · exact h.conn_inj i j conn hi hj
  · intro c hc
    have hopen := h.server c hc
    have hne : (Table.read connections {} c).sockId ≠ sock := by
      intro heq
      rw [heq, hfree] at hopen
      cases hopen
    rw [if_neg hne]
    exact hopen
  · exact h.server_pos

end EndpointsInv

/-! ## The invariant is kept -/

/-- Without a connection on the descriptor `-1`, the end of a connection frees its descriptor. -/
lemma descriptors_tearDownIf {s : Proxy} (h : s.descriptors (-1) = none) (sock : ℤ) :
    (s.tearDownIf sock).descriptors = fun k => if k = sock then none else s.descriptors k := by
  by_cases hsock : sock = -1
  · subst hsock
    funext k
    change s.descriptors k = _
    split_ifs with hk
    · rw [hk, h]
    · rfl
  · rw [Proxy.tearDownIf_of_ne s hsock]
    rfl

/-- A request changes nothing about endpoints. -/
lemma Proxy.EndpointsOk.request {s s' : Proxy} {up : Prop} {socket : ℤ} {message : ℕ → Message}
    {fill drop : Transaction → Transaction} (h : s.EndpointsOk)
    (hout : s.RequestOutcome up socket message fill drop s') : s'.EndpointsOk := by
  rcases hout with ⟨_, _, _, _, _, _, _, rfl⟩ | ⟨_, _, _, _, _, _, _, _, _, _, rfl⟩ |
    ⟨_, _, _, _, _, _, _, _, _, _, rfl⟩ <;> exact h

/-- Endpoints are in order in every run. -/
theorem endpointsOk_isInvariant (L : Limits) : IsInvariant Proxy.EndpointsOk L where
  logged := by
    rintro s s' h ⟨_, _, _, _, rfl⟩
    exact h
  client nr choice waiting h := by
    refine h.sameClients fun i => ⟨?_, ?_, ?_, ?_⟩
    · refine Table.read_modify_field ClientConnection.status ?_
      exact fun _ => rfl
    · refine Table.read_modify_field ClientConnection.sock ?_
      exact fun _ => rfl
    · refine Table.read_modify_field ClientConnection.pos ?_
      exact fun _ => rfl
    · refine Table.read_modify_field ClientConnection.conn ?_
      exact fun _ => rfl
  register _ _ _ _ _ h := h
  cursor _ h := h
  closeClient thread nr threads _ _ h := by
    have hclosed := EndpointsInv.closeClient h nr
    rw [← Proxy.client, ← descriptors_tearDownIf (EndpointsInv.not_open h)] at hclosed
    exact hclosed
  exitThread _ _ _ h := h
  enqueue _ _ _ _ h := h
  answered _ _ _ _ _ h := h
  clientRequest _ _ _ _ _ _ _ _ hout h := h.request hout
  discard h := h
  serverRequest _ _ _ _ _ _ hout h := h.request hout
  finish _ _ _ _ _ h := h
  advance _ _ _ _ h := h
  skip _ _ _ _ _ h := h
  drop sock m _ _ h := by
    change EndpointsInv _ (if _ then _ else _) _ _
    split_ifs
    · exact EndpointsInv.connectionStatus h _ _
    · exact h
  connection c status h := EndpointsInv.connectionStatus h c status
  startDia c hsock h := EndpointsInv.start h hsock
  cleanDia c _ h := by
    have hclosed := EndpointsInv.cleanConnection h c
    rw [← Proxy.connection, ← descriptors_tearDownIf (EndpointsInv.not_open h)] at hclosed
    exact hclosed
  connect c sock _ hsock hfree h := EndpointsInv.connect h hsock hfree
  openQueue _ h := h
  accept nr conFound next thread sock _ _ hsock hfree _ h :=
    EndpointsInv.accept h (fun c => ⟨rfl, rfl, rfl, rfl⟩) hsock hfree
  processing h := h
  supervise _ _ h := h
  forget h := h
  freed _ h := h
  purge _ _ _ _ h := h

/-- The server connections of the first state. -/
lemma connection_init (cerData : CerData) (c : ℕ) :
    Table.read (Proxy.init cerData).vConnections {} (c : ℤ) =
      if c < cerData.numberOfConnections then
        { pos := c, type := if cerData.ismPort ≠ 0 ∧ (c : ℤ) = 0 then .specific else .generic }
      else {} := by
  simp only [Proxy.init, Table.read, Table.get_natCast, List.getElem?_map, bind_pure_comp,
    List.map_eq_map]
  by_cases hc : c < cerData.numberOfConnections
  · rw [if_pos hc, List.getElem?_range hc]
    rfl
  · rw [if_neg hc, List.getElem?_eq_none (by simpa using hc)]
    rfl

/-- In the first state there are no endpoints. -/
lemma endpointsOk_init (cerData : CerData) : (Proxy.init cerData).EndpointsOk := by
  have hclient : ∀ i, Table.read (Proxy.init cerData).vClient {} i = {} :=
    Table.read_replicate cerData.numberOfClients ({} : ClientConnection)
  constructor
  · exact fun sock hopen => absurd rfl hopen
  · intro i
    rw [hclient]
    refine ⟨fun honline => ?_, fun _ => ⟨rfl, rfl⟩⟩
    cases honline
  · intro i conn hi
    rw [hclient] at hi
    cases hi
  · intro i j conn hi
    rw [hclient] at hi
    cases hi
  · intro c hc
    refine absurd ?_ hc
    rw [connection_init]
    split_ifs <;> rfl
  · intro c hc
    have hlt : c < cerData.numberOfConnections := by
      simpa [Proxy.init] using hc
    rw [connection_init, if_pos hlt]

end DiaProxy
