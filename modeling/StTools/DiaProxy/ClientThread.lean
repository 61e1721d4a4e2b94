import StTools.DiaProxy.InputFraming
import StTools.DiaProxy.Transactions

/-!
# Client threads

A client thread serves a set of client connections: it closes those that fail, and handles every
message it gets from them in a switch over command codes.  A capabilities exchange registers the
name of the client; an answer to a request of the server is given its old identifiers and queued
for the server connection the request came from; everything else is a request for the server and
is given a transaction slot.
-/

namespace DiaProxy

/-! ## Codes -/

/-- `USERNAME_CODE`. -/
def userNameCode : ℕ := 1

/-- `ORIGINHOST_CODE`. -/
def originHostCode : ℕ := 264

/-- `DESTINATIONHOST_CODE`. -/
def destinationHostCode : ℕ := 293

/-- `cmd__code__cer`. -/
def cmdCodeCer : ℕ := 0x101

/-- `cmd__clr_rfe5`, `cmd__clr`, `cmd__idr_rfe5`, `cmd__idr` and `cmd__dsr_rfe5`: the requests
that a server makes. -/
def serverRequestCodes : List ℕ := [0x13d, 0x28d, 0x13f, 0x28c, 0x140]

/-- `applicationId_zx`, `applicationId_sh`, `applicationId_zh` and `applicationId_cx`. -/
def ismApplicationIds : List ℕ := [0x0100000C, 0x01000001, 0x01000005, 0x01000000]

/-- `applicationId_slh`. -/
def slhApplicationId : ℕ := 0x0100004b

/-- `applicationId_s6a`, `applicationId_s6t`, `applicationId_s6m` and `applicationId_swx`. -/
def esmApplicationIds : List ℕ := [0x01000023, 0x01000081, 0x0100005E, 0x01000031]

/-- `"hss.ericsson.se"`. -/
def hssHost : List UInt8 := [104, 115, 115, 46, 101, 114, 105, 99, 115, 115, 111, 110, 46, 115, 101]

/-- The transaction slot that a hop-by-hop identifier names: `hop2hop - 1`, as an `unsigned int`. -/
def namedSlot (buff : Mem) : ℕ := (buff.hop2hop - 1).toNat

/-- A transaction record filled for a request. -/
def Transaction.fill (t : Transaction) (tag : RequestTag) : Transaction :=
  { t with
    end2end := tag.end2end
    hopByHop := tag.hopByHop
    client := tag.client
    taker := some tag.id }

/-- An `int` assigned to an `unsigned int`. -/
def toUint (i : ℤ) : ℤ := i % 4294967296

/-- An `unsigned int` assigned to an `int`. -/
def toInt (u : ℤ) : ℤ := if u < 2147483648 then u else u - 4294967296

namespace Proxy

/-! ## Closing a client -/

/-- `close`: the descriptor is free, and what was sent on it will not be answered on it. -/
def closeDescriptor (s : Proxy) (sock : ℤ) : Proxy :=
  { s with
    descriptors := fun k => if k = sock then none else s.descriptors k
    sent := s.sent.map fun e => if e.sock = sock then { e with live := false } else e }

/-- The first section of `closeClient`: the slot is marked as free. -/
def markOffline (s : Proxy) (nr : ℕ) : Proxy :=
  s.setClient nr fun c => { c with status := .offline }

/-- The second section, if there is a descriptor: it is closed. -/
def closeSocket (s : Proxy) (nr : ℕ) : Proxy := s.closeDescriptor (s.client nr).sock

/-- The third section, if there is a descriptor: its queue is given up. -/
def cleanQueue (s : Proxy) (nr : ℕ) : Proxy := s.cleanPendingMessages (s.client nr).sock

/-- The fourth section: the server connection has a client less. -/
def leaveConnection (s : Proxy) (nr : ℕ) : Proxy :=
  s.count (s.client nr).diaServerConnection fun c =>
    { c with numberOfClients := c.numberOfClients - 1 }

/-- The fifth section: the fields of the slot are reset. -/
def resetClient (s : Proxy) (nr : ℕ) : Proxy :=
  s.setClient nr fun c =>
    { c with waitingAnswer := false, sock := -1, diaServerConnection := -1 }

/-- The sixth section: the thread does not serve the client any more, and its descriptor set is
cleared. -/
def leaveThread (s : Proxy) (thread nr : ℕ) : Proxy :=
  (s.setClientThread thread fun t =>
    { t with
      conectionClients := t.conectionClients.erase (s.client nr).pos
      fds := ∅
      maxFd := 0 }).setClient nr fun c => { c with pos := -1 }

/-- The loop at the end: the descriptors of the remaining clients are put into the set. -/
def rebuildFds (s : Proxy) (thread : ℕ) : Proxy :=
  (s.clientThread thread).conectionClients.foldl
    (fun s index =>
      let sock := (s.client index).sock
      (s.uses (.client index)).setClientThread thread fun t =>
        { t with
          fds := insert sock t.fds
          maxFd := if sock > t.maxFd then sock + 1 else t.maxFd }) s

/-- `closeClient`, called by a client thread for one of its clients. -/
def closeClient (s : Proxy) (thread nr : ℕ) : Proxy :=
  let s := s.markOffline nr
  -- the descriptor is tested once, before it is closed
  let s := if (s.client nr).sock ≠ -1 then (s.closeSocket nr).cleanQueue nr else s
  (((s.leaveConnection nr).resetClient nr).leaveThread thread nr).rebuildFds thread

/-- The loop of `resetAndExit`, from an index on, for at most `n` clients. -/
def closeClientsFrom (s : Proxy) (thread : ℕ) : (n index : ℕ) → Proxy
  | 0, _ => s
  | n + 1, index =>
    match (s.clientThread thread).conectionClients[index]? with
    | none => s
    | some nr => (s.closeClient thread nr.toNat).closeClientsFrom thread n (index + 1)

/-- `resetAndExit`: the clients of the thread are closed, its record is cleared, and it ends. -/
def resetAndExit (s : Proxy) (thread : ℕ) : Proxy :=
  let s := s.closeClientsFrom thread (s.clientThread thread).conectionClients.length 0
  { s.setClientThread thread fun t =>
      { t with fds := ∅, maxFd := -1, conectionClients := [], running := t.running - 1 } with
    numberClientThreads := s.numberClientThreads - 1 }

/-! ## What closing changes -/

/-- What the end of a connection changes: its queue and its descriptor are gone, the transaction
slots of the messages in the queue are free, and what was sent on it will not be answered. -/
def tearDown (s : Proxy) (sock : ℤ) : Proxy :=
  { s.closeDescriptor sock with
    vTransaction := clearSlots s.vTransaction (s.queueOf sock)
    mPendingToSend := s.mPendingToSend.closeQueue sock }

/-- The connection on a descriptor ends, if there is a descriptor. -/
def tearDownIf (s : Proxy) (sock : ℤ) : Proxy :=
  { s with
    vTransaction := if sock = -1 then s.vTransaction else (s.tearDown sock).vTransaction
    mPendingToSend := if sock = -1 then s.mPendingToSend else (s.tearDown sock).mPendingToSend
    descriptors := if sock = -1 then s.descriptors else (s.tearDown sock).descriptors
    sent := if sock = -1 then s.sent else (s.tearDown sock).sent }

/-- Without a descriptor nothing ends. -/
lemma tearDownIf_neg_one (s : Proxy) : s.tearDownIf (-1) = s := rfl

/-- With a descriptor its connection ends. -/
lemma tearDownIf_of_ne (s : Proxy) {sock : ℤ} (h : sock ≠ -1) :
    s.tearDownIf sock = s.tearDown sock := by
  simp only [tearDownIf, if_neg h]
  rfl

/-- A client slot after its connection was closed. -/
def closedClient (c : ClientConnection) : ClientConnection :=
  { c with
    status := .offline, waitingAnswer := false, sock := -1, pos := -1, diaServerConnection := -1 }

/-- The thread records differ in their descriptor sets only. -/
def SameThreads (s s' : Proxy) : Prop :=
  s'.vClientThread.length = s.vClientThread.length ∧
    ∀ i, (s'.clientThread i).running = (s.clientThread i).running ∧
      (s'.clientThread i).conectionClients = (s.clientThread i).conectionClients

/-- The loop at the end of `closeClient` changes descriptor sets only. -/
theorem rebuildFds_eq (s : Proxy) (thread : ℕ) :
    ∃ accesses threads, s.rebuildFds thread =
      { s with accesses := accesses, vClientThread := threads } ∧
        s.SameThreads (s.rebuildFds thread) := by
  unfold rebuildFds
  generalize (s.clientThread thread).conectionClients = clients
  induction clients generalizing s with
  | nil => exact ⟨_, _, rfl, rfl, fun i => ⟨rfl, rfl⟩⟩
  | cons index rest ih =>
    rw [List.foldl_cons]
    obtain ⟨accesses, threads, heq, hlen, hsame⟩ := ih ((s.uses (.client index)).setClientThread
      thread fun t => { t with
        fds := insert (s.client index).sock t.fds
        maxFd := if (s.client index).sock > t.maxFd then (s.client index).sock + 1 else t.maxFd })
    refine ⟨accesses, threads, heq, ?_, fun i => ?_⟩
    · rw [hlen]
      simp only [setClientThread, uses, Table.length_modify]
    · rw [(hsame i).1, (hsame i).2]
      simp only [clientThread, setClientThread, uses]
      exact ⟨Table.read_modify_field ClientThread.running fun _ => rfl,
        Table.read_modify_field ClientThread.conectionClients fun _ => rfl⟩

/-- The first three sections of `closeClient` on the slot of a connection. -/
theorem closeSocket_cleanQueue_eq (s : Proxy) (nr : ℕ) :
    Logged (s.tearDown (s.client nr).sock) ((s.closeSocket nr).cleanQueue nr) := by
  obtain ⟨statistic, received, counted, accesses, h⟩ :=
    (s.closeSocket nr).cleanPendingMessages_eq (s.client nr).sock
  exact ⟨statistic, received, counted, accesses, h⟩

/-- A field that a change of a client slot keeps. -/
lemma client_setClient_field {α : Type*} (g : ClientConnection → α) {s : Proxy} {i j : ℤ}
    {f : ClientConnection → ClientConnection} (hf : ∀ c, g (f c) = g c) :
    g ((s.setClient i f).client j) = g (s.client j) :=
  Table.read_modify_field g hf

/-- **What `closeClient` changes.**  The connection on the descriptor of the client ends, its slot
is reset, the client leaves its thread, and something was counted. -/
theorem closeClient_eq (s : Proxy) (thread nr : ℕ) :
    ∃ threads,
      Logged { s.tearDownIf (s.client nr).sock with
          vClient := Table.modify s.vClient nr closedClient
          vClientThread := threads }
        (s.closeClient thread nr) ∧
      threads.length = s.vClientThread.length ∧
      ∀ i, (Table.read threads {} i).running = (s.clientThread i).running ∧
        (Table.read threads {} i).conectionClients =
          if i = thread then (s.clientThread i).conectionClients.erase (s.client nr).pos
          else (s.clientThread i).conectionClients := by
  have hsock : ((s.markOffline nr).client nr).sock = (s.client nr).sock := by
    unfold markOffline
    rw [client_setClient_field ClientConnection.sock]
    exact fun _ => rfl
  have hclean : Logged { s.tearDownIf (s.client nr).sock with
        vClient := Table.modify s.vClient nr fun c => { c with status := .offline } }
      (if ((s.markOffline nr).client nr).sock ≠ -1 then
        ((s.markOffline nr).closeSocket nr).cleanQueue nr else s.markOffline nr) := by
    by_cases h : (s.client nr).sock = -1
    · rw [if_neg (by rw [hsock]; exact fun hne => hne h), h, tearDownIf_neg_one]
      exact ⟨_, _, _, _, rfl⟩
    · obtain ⟨statistic, received, counted, accesses, heq⟩ :=
        (s.markOffline nr).closeSocket_cleanQueue_eq nr
      rw [if_pos (by rw [hsock]; exact h), heq, hsock, tearDownIf_of_ne s h]
      exact ⟨statistic, received, counted, accesses, rfl⟩
  obtain ⟨statistic, received, counted, accesses, hclean⟩ := hclean
  unfold closeClient
  simp only [hclean]
  generalize hbase : ({ s.tearDownIf (s.client nr).sock with
    vClient := Table.modify s.vClient nr fun c => { c with status := .offline }
    statistic := statistic
    received := received
    counted := counted
    accesses := accesses } : Proxy) = base
  have hthreads : base.vClientThread = s.vClientThread := by
    rw [← hbase]
    rfl
  have hclients : base.vClient =
      Table.modify s.vClient nr fun c => { c with status := .offline } := by rw [← hbase]
  have hpos : (((base.leaveConnection nr).resetClient nr).client nr).pos = (s.client nr).pos := by
    have hoffline : ((s.markOffline nr).client nr).pos = (s.client nr).pos := by
      unfold markOffline
      rw [client_setClient_field ClientConnection.pos]
      exact fun _ => rfl
    unfold resetClient
    rw [client_setClient_field ClientConnection.pos]
    · change ((Table.get base.vClient nr).getD {}).pos = _
      rw [hclients]
      exact hoffline
    · exact fun _ => rfl
  obtain ⟨accesses', threads, heq, hlen, hsame⟩ :=
    (((base.leaveConnection nr).resetClient nr).leaveThread thread nr).rebuildFds_eq thread
  refine ⟨threads, ⟨(base.leaveConnection nr).statistic, base.received, base.counted, accesses', ?_⟩,
    ?_, ?_⟩
  · rw [heq, ← hbase]
    simp only [leaveThread, setClient, setClientThread, resetClient, leaveConnection, count,
      Table.modify_modify]
    rfl
  · have hlen' : threads.length =
        (((base.leaveConnection nr).resetClient nr).leaveThread thread nr).vClientThread.length := by
      rw [← hlen, heq]
    rw [hlen']
    simp only [leaveThread, setClient, setClientThread, resetClient, leaveConnection, count,
      Table.length_modify, hthreads]
  · intro i
    have hthread : Table.read threads {} i = ((((base.leaveConnection nr).resetClient
        nr).leaveThread thread nr).rebuildFds thread).clientThread i := by rw [heq]; rfl
    rw [hthread, (hsame i).1, (hsame i).2]
    simp only [leaveThread, hpos]
    simp only [setClient, setClientThread, resetClient, leaveConnection, count, clientThread,
      hthreads]
    refine ⟨Table.read_modify_field ClientThread.running fun _ => rfl, ?_⟩
    by_cases hi : i = thread
    · rw [if_pos hi, hi]
      by_cases hrange : Table.InRange s.vClientThread thread
      · rw [Table.read_modify_self _ hrange]
      · rw [Table.read_of_not_inRange (mt Table.inRange_modify.mp hrange),
          Table.read_of_not_inRange hrange]
        rfl
    · rw [if_neg hi, Table.read_modify_of_ne _ fun h => hi h.symm]

/-! ## Handling a message -/

/-- The choice of the server connection by application id, with a separate connection for ISM
applications.  `none` means that the scan of the message does not end. -/
def selectConnection (s : Proxy) (nr : ℕ) (buff : Mem) (toreceive : ℕ) : Option Proxy :=
  if s.cerData.ismPort = 0 then some s
  else
    let useIsm := s.setClient nr fun c => { c with diaServerConnection := c.ismServerConnection }
    let useEsm := s.setClient nr fun c => { c with diaServerConnection := c.esmServerConnection }
    if buff.appId ∈ ismApplicationIds then some useIsm
    else if buff.appId = slhApplicationId then
      match extractAVP buff toreceive destinationHostCode with
      | .found host => some (if host = hssHost then useIsm else useEsm)
      | .notFound => some s
      | .throws => none
      | .loops => none
    else if buff.appId ∈ esmApplicationIds then some useEsm
    else some s

/-- A name is registered for a client in `m_session`. -/
def registerSession (s : Proxy) (nr sender : ℕ) (name : List UInt8) : Proxy :=
  { s with
    mSession := fun n =>
      if n = name then
        some
          { status := .established
            client := (s.client nr).pos
            diaServerConnection := (s.client nr).diaServerConnection
            registrar := sender }
      else s.mSession n }

/-- `case cmd__code__cer`: the user name, or else the origin host, is registered, and the message
goes back as an answer.  A scan that throws or does not end is a `failedScan`, for which there is no
such step. -/
def clientCer (s : Proxy) (nr sender : ℕ) (buff : Mem) (toreceive : ℕ) : Proxy × Mem :=
  let answer (name : List UInt8) :=
    (s.registerSession nr sender name, buff.setByte 4 (buff.flags &&& 0x7f))
  match extractAVP buff toreceive userNameCode with
  | .found name => answer name
  | .notFound =>
    match extractAVP buff toreceive originHostCode with
    | .found name => answer name
    | _ => (s, buff)
  | _ => (s, buff)

/-- Ghost: the requests not answered yet, without the one answered now. -/
def unansweredAfter (s : Proxy) (type : MessageType) (id : ℕ) (slot : ℤ) : List Sent :=
  s.sent.filter fun e =>
    ¬ (e.message.messageType = type ∧ e.message.tag.id = id ∧ e.message.transaction = slot)

/-- The answer of a client, with the identifiers that the request had. -/
def answerToServer (s : Proxy) (slot : ℤ) (buff : Mem) : Mem :=
  (buff.setEnd2end (s.transaction slot).end2end).setHop2hop (s.transaction slot).hopByHop

/-- `conIndex`: the server connection that an answer of a client goes to, as an `unsigned int`; so
the test `conIndex < 0` never holds. -/
def answerConIndex (s : Proxy) (slot : ℤ) : ℤ :=
  toUint (s.transaction slot).answerToDiaServerConnection

/-- The message that is queued for the server connection. -/
def answerToServerMessage (s : Proxy) (slot : ℤ) (buff : Mem) (toreceive : ℕ) : Message where
  messageType := .answerToServer
  transaction := -1
  diaServerConnection := toInt (s.answerConIndex slot)
  buffer := (s.answerToServer slot buff).bytes toreceive

/-- An answer of a client is received: it is counted on the connection its request came from. -/
def receiveAnswer (s : Proxy) (slot : ℤ) : Proxy :=
  (s.uses (.transaction slot)).count (s.transaction slot).answerToDiaServerConnection
    fun c => { c with answerReceivedFromClient := c.answerReceivedFromClient + 1 }

/-- The answer is queued for the server connection, if it is connected. -/
def queueAnswerToServer (s : Proxy) (slot : ℤ) (buff : Mem) (toreceive : ℕ) : Proxy × Bool :=
  let connection := s.connection (s.answerConIndex slot)
  (s.uses (.connection (s.answerConIndex slot))).queueIf (connection.status = .connected)
    connection.sockId (s.answerToServerMessage slot buff toreceive)

/-- An answer of a client that was not queued is counted as discarded. -/
def discardAnswerIf (s : Proxy) (inserted : Bool) (conIndex : ℤ) : Proxy :=
  if inserted then s
  else s.count conIndex fun c => { c with answerDiscardFromClient := c.answerDiscardFromClient + 1 }

/-- The slot of an answered request is freed. -/
def settleClientAnswer (s : Proxy) (slot : ℤ) (answers : ℕ) : Proxy :=
  { s.freeTransaction slot with sent := s.unansweredAfter .requestToClient answers slot }

/-- `case cmd__clr` and the other requests of the server: the answer of a client.  `answers` is
the request the client means. -/
def clientAnswer (s : Proxy) (thread nr : ℕ) (buff : Mem) (toreceive answers : ℕ) : Proxy × Mem :=
  if namedSlot buff > s.vTransaction.length - 1 then (s.closeClient thread nr, buff)
  else
    let slot : ℤ := namedSlot buff
    let s := s.receiveAnswer slot
    let queued := s.queueAnswerToServer slot buff toreceive
    ((queued.1.discardAnswerIf queued.2 (s.answerConIndex slot)).settleClientAnswer slot answers,
      s.answerToServer slot buff)

/-- A client request is received: it is counted on the server connection of the client. -/
def receiveRequest (s : Proxy) (nr : ℕ) : Proxy :=
  let c := (s.client nr).diaServerConnection
  { s.count c fun c => { c with requestReceivedFromClient := c.requestReceivedFromClient + 1 } with
    requests := s.requests + 1
    received := (c, s.requests) :: s.received }

/-- A client request is counted as discarded. -/
def discardRequest (s : Proxy) (c : ℤ) (id : ℕ) : Proxy :=
  { s.count c fun c => { c with requestDiscardFromClient := c.requestDiscardFromClient + 1 } with
    counted := (c, id) :: s.counted }

/-- The end-to-end identifier a request is sent to the server with. -/
def requestEnd2end (s : Proxy) (nr counterE2e : ℕ) : UInt32 :=
  UInt32.ofInt (((s.client nr).pos + 1) * 1000000 + s.cerData.e2eSeed * 10000 + counterE2e)

/-- What is noted about a request of a client. -/
def requestTag (s : Proxy) (nr sender id : ℕ) (buff : Mem) : RequestTag where
  id := id
  origin := sender
  client := (s.client nr).pos
  hopByHop := buff.hop2hop
  end2end := buff.end2end

/-- The transaction record of a request is filled. -/
def fillTransaction (s : Proxy) (slot : ℕ) (tag : RequestTag) : Proxy :=
  s.setTransaction slot fun t => t.fill tag

/-- The request as it goes to the server: with the number of its slot, from one on, as its
hop-by-hop identifier. -/
def requestToServer (s : Proxy) (nr counterE2e slot : ℕ) (buff : Mem) : Mem :=
  (buff.setEnd2end (s.requestEnd2end nr counterE2e)).setHop2hop (UInt32.ofNat (slot + 1))

/-- The message that is queued for the server connection of the client. -/
def requestToServerMessage (s : Proxy) (nr counterE2e : ℕ) (tag : RequestTag) (buff : Mem)
    (toreceive slot : ℕ) : Message where
  messageType := .requestToServer
  transaction := slot
  diaServerConnection := (s.client nr).diaServerConnection
  buffer := (s.requestToServer nr counterE2e slot buff).bytes toreceive
  tag := tag

/-- The request is queued for the server connection of the client, if it is connected. -/
def queueRequestToServer (s : Proxy) (nr : ℕ) (m : Message) : Proxy × Bool :=
  let connection := s.connection (s.client nr).diaServerConnection
  (s.uses (.connection (s.client nr).diaServerConnection)).queueIf
    (connection.status = .connected) connection.sockId m

/-- The slot of a client request that was not queued is freed, and it is counted as discarded. -/
def refuseRequestIf (s : Proxy) (inserted : Bool) (slot : ℕ) (c : ℤ) (id : ℕ) : Proxy :=
  if inserted then s else (s.freeTransaction slot).discardRequest c id

/-- `default`: a request for the server.  `counterE2e` is a counter of the thread. -/
def clientRequest (s : Proxy) (nr sender counterE2e : ℕ) (buff : Mem) (toreceive : ℕ) :
    Proxy × Mem :=
  let c := (s.client nr).diaServerConnection
  let tag := s.requestTag nr sender s.requests buff
  let s := s.receiveRequest nr
  match s.findTransaction with
  | (s, none) => (s.discardRequest c tag.id, buff)
  | (s, some slot) =>
    let s := s.fillTransaction slot tag
    let m := s.requestToServerMessage nr counterE2e tag buff toreceive slot
    let queued := s.queueRequestToServer nr m
    (queued.1.refuseRequestIf queued.2 slot c tag.id, s.requestToServer nr counterE2e slot buff)

/-- What a client thread does with a complete message: the choice of the server connection and the
switch over the command code. -/
def clientMessage (s : Proxy) (thread nr sender counterE2e : ℕ) (buff : Mem)
    (toreceive answers : ℕ) : Proxy × Mem :=
  match s.selectConnection nr buff toreceive with
  | none => (s, buff)
  | some s =>
    if buff.cmdCode = cmdCodeCer then s.clientCer nr sender buff toreceive
    else if buff.cmdCode ∈ serverRequestCodes then s.clientAnswer thread nr buff toreceive answers
    else s.clientRequest nr sender counterE2e buff toreceive

/-! ## Scans that fail -/

/-- The scans that are made for a message: for the destination host, when it decides about the server
connection, and for the names in a capabilities exchange. -/
def scans (s : Proxy) (buff : Mem) (toreceive : ℕ) : List (Scan (List UInt8)) :=
  (if s.cerData.ismPort ≠ 0 ∧ buff.appId ∉ ismApplicationIds ∧ buff.appId = slhApplicationId then
    [extractAVP buff toreceive destinationHostCode]
  else []) ++
  (if buff.cmdCode = cmdCodeCer then
    extractAVP buff toreceive userNameCode ::
      (if extractAVP buff toreceive userNameCode = .notFound then
        [extractAVP buff toreceive originHostCode]
      else [])
  else [])

/-- The first scan that does not come to a result. -/
def failedScan (s : Proxy) (buff : Mem) (toreceive : ℕ) : Option (Scan (List UInt8)) :=
  (s.scans buff toreceive).find? Scan.fails

/-- A request does not fail when the choice of its server connection does not. -/
lemma failedScan_eq_none {s s' : Proxy} {nr : ℕ} {buff : Mem} {toreceive : ℕ}
    (h : s.selectConnection nr buff toreceive = some s') (hcode : buff.cmdCode ≠ cmdCodeCer) :
    s.failedScan buff toreceive = none := by
  rw [failedScan, List.find?_eq_none, scans, if_neg hcode, List.append_nil]
  intro scan hscan
  split_ifs at hscan with hslh
  · obtain ⟨hport, hism, happ⟩ := hslh
    obtain rfl := List.mem_singleton.mp hscan
    unfold selectConnection at h
    rw [if_neg hport, if_neg hism, if_pos happ] at h
    cases hextract : extractAVP buff toreceive destinationHostCode with
    | found host => exact Bool.false_ne_true
    | notFound => exact Bool.false_ne_true
    | throws =>
      rw [hextract] at h
      cases h
    | loops =>
      rw [hextract] at h
      cases h
  · exact absurd hscan List.not_mem_nil

/-! ## What handling a message changes -/

/-- The choice of the server connection changes it for the client, at most. -/
theorem selectConnection_eq {s s' : Proxy} {nr : ℕ} {buff : Mem} {toreceive : ℕ}
    (h : s.selectConnection nr buff toreceive = some s') :
    ∃ (choice : ClientConnection → ℤ) (accesses : List Access), s' = { s with
        vClient := Table.modify s.vClient nr fun c => { c with diaServerConnection := choice c }
        accesses := accesses } ∧
      ((∀ c, choice c = c.diaServerConnection) ∨ (∀ c, choice c = c.ismServerConnection) ∨
        ∀ c, choice c = c.esmServerConnection) := by
  have hsame : s = { s with
      vClient := Table.modify s.vClient nr fun c =>
        { c with diaServerConnection := c.diaServerConnection } } := by
    rw [Table.modify_id]
  unfold selectConnection at h
  split at h
  · obtain rfl := Option.some.inj h
    exact ⟨_, s.accesses, hsame, Or.inl fun _ => rfl⟩
  · dsimp only at h
    split at h
    · obtain rfl := Option.some.inj h
      exact ⟨_, _, rfl, Or.inr (Or.inl fun _ => rfl)⟩
    · split at h
      · split at h
        · split at h
          · obtain rfl := Option.some.inj h
            exact ⟨_, _, rfl, Or.inr (Or.inl fun _ => rfl)⟩
          · obtain rfl := Option.some.inj h
            exact ⟨_, _, rfl, Or.inr (Or.inr fun _ => rfl)⟩
        · obtain rfl := Option.some.inj h
          exact ⟨_, s.accesses, hsame, Or.inl fun _ => rfl⟩
        · cases h
        · cases h
      · split at h
        · obtain rfl := Option.some.inj h
          exact ⟨_, _, rfl, Or.inr (Or.inr fun _ => rfl)⟩
        · obtain rfl := Option.some.inj h
          exact ⟨_, s.accesses, hsame, Or.inl fun _ => rfl⟩

/-- A capabilities exchange registers a name, at most. -/
theorem clientCer_eq (s : Proxy) (nr sender : ℕ) (buff : Mem) (toreceive : ℕ) :
    (s.clientCer nr sender buff toreceive).1 = s ∨
      ∃ name, (s.clientCer nr sender buff toreceive).1 = s.registerSession nr sender name := by
  unfold clientCer
  dsimp only
  split
  · exact Or.inr ⟨_, rfl⟩
  · split
    · exact Or.inr ⟨_, rfl⟩
    · exact Or.inl rfl
  · exact Or.inl rfl

/-- Where an answer of a client goes is read from its slot. -/
lemma Logged.answerConIndex_eq {s s' : Proxy} (h : s.Logged s') (slot : ℤ) :
    s'.answerConIndex slot = s.answerConIndex slot := by
  rw [answerConIndex, answerConIndex, h.transaction_eq]

/-- The answer of a client is made from its slot. -/
lemma Logged.answerToServerMessage_eq {s s' : Proxy} (h : s.Logged s') (slot : ℤ) (buff : Mem)
    (toreceive : ℕ) :
    s'.answerToServerMessage slot buff toreceive = s.answerToServerMessage slot buff toreceive := by
  rw [answerToServerMessage, answerToServerMessage, answerToServer, answerToServer,
    h.answerConIndex_eq, h.transaction_eq]

/-- Counting a discarded answer changes counters and logs only. -/
lemma logged_discardAnswerIf (s : Proxy) (inserted : Bool) (conIndex : ℤ) :
    s.Logged (s.discardAnswerIf inserted conIndex) := by
  unfold discardAnswerIf
  split
  · exact Logged.refl s
  · exact s.logged_count conIndex _

/-- An attempt to queue the answer of a client. -/
lemma Logged.queueAnswerToServer {s s' : Proxy} (h : s.Logged s') (slot : ℤ) (buff : Mem)
    (toreceive : ℕ) :
    ∃ t, s.QueueOutcome ((s.connection (s.answerConIndex slot)).status = .connected)
        (s.connection (s.answerConIndex slot)).sockId
        (s.answerToServerMessage slot buff toreceive) t ∧
      t.Logged (s'.queueAnswerToServer slot buff toreceive).1 := by
  have hqueue := (h.trans (s'.logged_uses (.connection (s'.answerConIndex slot)))).queueOutcome
    ((s'.connection (s'.answerConIndex slot)).status = .connected)
    (s'.connection (s'.answerConIndex slot)).sockId (s'.answerToServerMessage slot buff toreceive)
  rw [h.answerToServerMessage_eq, h.answerConIndex_eq, h.connection_eq] at hqueue
  delta queueAnswerToServer
  rw [h.answerToServerMessage_eq, h.answerConIndex_eq, h.connection_eq]
  exact hqueue

/-- The case of `clientAnswer` in which the slot is inside the table. -/
lemma clientAnswer_of_le (s : Proxy) (thread nr : ℕ) {buff : Mem} (toreceive answers : ℕ)
    (hslot : ¬ namedSlot buff > s.vTransaction.length - 1) :
    (s.clientAnswer thread nr buff toreceive answers).1 =
      (((s.receiveAnswer (namedSlot buff)).queueAnswerToServer (namedSlot buff) buff
          toreceive).1.discardAnswerIf
        ((s.receiveAnswer (namedSlot buff)).queueAnswerToServer (namedSlot buff) buff toreceive).2
        ((s.receiveAnswer (namedSlot buff)).answerConIndex (namedSlot buff))).settleClientAnswer
          (namedSlot buff) answers := by
  delta clientAnswer
  exact congrArg Prod.fst (if_neg hslot)

/-- The table when the slot of an answered request is freed, and the requests then unanswered. -/
def answered (s : Proxy) (type : MessageType) (free : Transaction → Transaction) (answers : ℕ)
    (slot : ℤ) : Proxy :=
  { s with
    vTransaction := Table.modify s.vTransaction slot free
    sent := s.unansweredAfter type answers slot }

/-- **What an answer of a client changes.**  The answer may be queued for the server connection
noted in its slot; then the slot is free and the request it answers is not waiting any more. -/
theorem clientAnswer_outcome (s : Proxy) (thread nr : ℕ) {buff : Mem} (toreceive answers : ℕ)
    (hslot : namedSlot buff ≤ s.vTransaction.length - 1) :
    ∃ t, s.QueueOutcome ((s.connection (s.answerConIndex (namedSlot buff))).status = .connected)
        (s.connection (s.answerConIndex (namedSlot buff))).sockId
        (s.answerToServerMessage (namedSlot buff) buff toreceive) t ∧
      Logged (t.answered .requestToClient (fun d => { d with status := .notUsed }) answers
        (namedSlot buff)) (s.clientAnswer thread nr buff toreceive answers).1 := by
  rw [clientAnswer_of_le s thread nr toreceive answers (Nat.not_lt.mpr hslot)]
  have hreceive : s.Logged (s.receiveAnswer (namedSlot buff)) :=
    (s.logged_uses _).trans (logged_count _ _ _)
  obtain ⟨t, hout, hqueue⟩ := hreceive.queueAnswerToServer (namedSlot buff) buff toreceive
  have hdiscard := hqueue.trans (logged_discardAnswerIf _
    ((s.receiveAnswer (namedSlot buff)).queueAnswerToServer (namedSlot buff) buff toreceive).2
    ((s.receiveAnswer (namedSlot buff)).answerConIndex (namedSlot buff)))
  refine ⟨t, hout, ?_⟩
  generalize Proxy.discardAnswerIf _ _ _ = u at hdiscard ⊢
  obtain ⟨_, _, _, _, rfl⟩ := hdiscard
  exact ⟨_, _, _, _, rfl⟩

/-- The message of a request is made from the client's slot. -/
lemma Logged.requestToServerMessage_eq {s s' : Proxy} (h : s.Logged s') (nr counterE2e : ℕ)
    (tag : RequestTag) (buff : Mem) (toreceive slot : ℕ) :
    s'.requestToServerMessage nr counterE2e tag buff toreceive slot =
      s.requestToServerMessage nr counterE2e tag buff toreceive slot := by
  obtain ⟨_, _, _, _, rfl⟩ := h
  rfl

/-- A request that was not queued gives its slot back. -/
lemma Logged.refuse {s s' : Proxy} (h : s.Logged s') (slot : ℕ) (c : ℤ) (id : ℕ) :
    Logged { s with
        vTransaction := Table.modify s.vTransaction slot fun t => { t with status := .notUsed } }
      (s'.refuseRequestIf false slot c id) := by
  obtain ⟨_, _, _, _, rfl⟩ := h
  exact ⟨_, _, _, _, rfl⟩

/-- A request that was queued keeps its slot. -/
lemma Logged.keep {s s' : Proxy} (h : s.Logged s') (slot : ℕ) (c : ℤ) (id : ℕ) :
    s.Logged (s'.refuseRequestIf true slot c id) := h

/-- **What a request of a client changes.** -/
theorem clientRequest_outcome (s : Proxy) (nr sender counterE2e : ℕ) (buff : Mem) (toreceive : ℕ)
    (hcur : s.nextTransaction < s.vTransaction.length) :
    s.RequestOutcome
      ((s.connection (s.client nr).diaServerConnection).status = .connected)
      (s.connection (s.client nr).diaServerConnection).sockId
      (s.requestToServerMessage nr counterE2e (s.requestTag nr sender s.requests buff) buff
        toreceive)
      (fun t => t.fill (s.requestTag nr sender s.requests buff))
      (fun t => { t with status := .notUsed })
      (s.clientRequest nr sender counterE2e buff toreceive).1 := by
  generalize htag : s.requestTag nr sender s.requests buff = tag
  delta clientRequest
  simp only [htag]
  have hreceive : Logged { s with requests := s.requests + 1 } (s.receiveRequest nr) :=
    ⟨_, _, _, _, rfl⟩
  rcases hreceive.findTransaction_cases hcur with
    ⟨slot, next, t, hslot, hfree, hnext, hfind, hlog⟩ | ⟨hnone, next, t, hnext, hfind, hlog⟩
  · rw [hfind]
    dsimp only
    have hfill : (s.withRequest next slot fun t => Transaction.fill { t with status := .used }
        tag).Logged (t.fillTransaction slot tag) := by
      obtain ⟨_, _, _, _, rfl⟩ := hlog
      unfold fillTransaction setTransaction withRequest
      rw [Table.modify_modify]
      exact ⟨_, _, _, _, rfl⟩
    generalize t.fillTransaction slot tag = t at hfill ⊢
    rw [hfill.requestToServerMessage_eq]
    delta queueRequestToServer
    rw [hfill.client_eq, hfill.connection_eq]
    rcases (hfill.trans (logged_uses _ (.connection (s.client nr).diaServerConnection))).queueIf
        ((s.connection (s.client nr).diaServerConnection).status = .connected)
        (s.connection (s.client nr).diaServerConnection).sockId
        (s.requestToServerMessage nr counterE2e tag buff toreceive slot) with
      ⟨hacc, hqueue, hfalse⟩ | ⟨hacc, hqueue, htrue⟩
    · have hrefuse := hqueue.refuse slot (s.client nr).diaServerConnection tag.id
      rw [← hfalse, withRequest, Table.modify_modify] at hrefuse
      exact .refused next slot hacc hslot hfree hnext hrefuse
    · have hkeep := hqueue.keep slot (s.client nr).diaServerConnection tag.id
      rw [← htrue] at hkeep
      exact .queued next slot hacc hslot hfree hnext hkeep
  · rw [hfind]
    refine .noSlot next hnone hnext (hlog.trans ?_)
    exact ⟨_, _, _, _, rfl⟩

end Proxy

end DiaProxy
