import StTools.DiaProxy.System

/-!
# The invariant rule of the proxy

Many invariants of the proxy are proved below, and each of them has to look at every kind of step.
The steps are made of a few *changes* of the state.  `IsInvariant I L` collects what has to be shown of
an invariant `I`: that each change keeps it, where `L` limits some of the changes: which
connections may end, which answers may come, to whom a slot may be given.  The rule
`IsInvariant.of_step` then says that every step that the limits allow keeps `I`.
-/

namespace DiaProxy

/-! ## Limits -/

/-- The part of the state that the life of a request is about: the transaction table, the queues
and the requests written. -/
structure RequestState where
  /-- `v_transaction`. -/
  table : List Transaction
  /-- `m_pendingToSend`. -/
  queues : QueueMap ℤ Message
  /-- The requests written completely and not answered yet. -/
  sent : List Sent

/-- The requests of a state. -/
def Proxy.requestState (s : Proxy) : RequestState := ⟨s.vTransaction, s.mPendingToSend, s.sent⟩

/-- Which changes may happen. -/
structure Limits where
  /-- The connection on a descriptor may end. -/
  close : RequestState → ℤ → Prop := fun _ _ => True
  /-- A message may be taken off a queue without having been written. -/
  drop : RequestState → Message → Prop := fun _ _ => True
  /-- An answer with the meaning of a request, of this type and number, may name this slot. -/
  answer : RequestState → MessageType → ℕ → ℤ → Prop := fun _ _ _ _ => True
  /-- A transaction slot may be given to a new request. -/
  take : RequestState → ℕ → Prop := fun _ _ => True
  /-- A client slot may be given to a new connection. -/
  give : Proxy → ℕ → Prop := fun _ _ => True
  /-- A message of this connection may be handled for a slot that was given to that one. -/
  handle : Option ℕ → ℕ → Prop := fun _ _ => True
  /-- The proxy thread and the signal thread may go on like this. -/
  supervise : Supervision → Supervision → Prop := fun _ _ => True

/-- The message is lost for good when `send` returns this. -/
def SendResult.Loses (m : Message) : SendResult → Prop
  | .wrote n errno => n = 0 ∧ errno = 0 ∧ 0 < m.messageLen - m.bytesSent
  | .failed errno => errno ≠ eagain ∧ m.messageLen ≠ 0

/-- A message of a client is taken as an answer. -/
def IsClientAnswer (buff : Mem) : Prop :=
  buff.cmdCode ≠ cmdCodeCer ∧ buff.cmdCode ∈ serverRequestCodes

/-- A message of a server is taken as an answer. -/
def IsServerAnswer (buff : Mem) : Prop :=
  buff.cmdCode ∉ [cmdWatchdog, cmdDpr, cmdRsr] ∧ buff.cmdCode ∉ serverRequestCodes

/-- The slot that a new request would be given may be given to it. -/
def Limits.AllowsRequest (L : Limits) (s : Proxy) : Prop :=
  ∀ slot, s.findTransaction.2 = some slot → L.take s.requestState slot

/-- The limits allow the event in the state. -/
def Limits.Allows (L : Limits) (s : Proxy) : Event → Prop
  | .accept _ => ∀ nr, s.findSlot = some nr → L.give s nr
  | .closeClient _ nr => L.close s.requestState (s.client nr).sock
  | .clientMessage _ nr sender _ buff toreceive answers =>
    L.handle (s.client nr).conn sender ∧
      (IsClientAnswer buff → s.selectConnection nr buff toreceive ≠ none →
        if namedSlot buff > s.vTransaction.length - 1 then L.close s.requestState (s.client nr).sock
        else L.answer s.requestState .requestToClient answers (namedSlot buff)) ∧
      (buff.cmdCode ≠ cmdCodeCer → buff.cmdCode ∉ serverRequestCodes → L.AllowsRequest s)
  | .exitClientThread _ => True
  | .send sock result _ => ∀ m, s.IsFront sock m → result.Loses m → L.drop s.requestState m
  | .startDiaThread _ => True
  | .connect _ sock =>
    (s.mPendingToSend.lookup sock).isSome → L.close s.requestState sock
  | .lose _ => True
  | .reconnect c => L.close s.requestState (s.connection c).sockId
  | .serverMessage c buff _ answers =>
    (buff.cmdCode = cmdDpr → L.close s.requestState (s.connection c).sockId) ∧
      (IsServerAnswer buff → namedSlot buff ≤ s.vTransaction.length - 1 →
        L.answer s.requestState .requestToServer answers (namedSlot buff)) ∧
      (buff.cmdCode ∈ serverRequestCodes → L.AllowsRequest s)
  | .watchClients => L.supervise s.supervision s.watchClients.supervision
  | .startCleaning => L.supervise s.supervision s.startCleaning.supervision
  | .clean => ∀ stage, s.supervision.stage = some stage →
    L.supervise s.supervision (s.cleanPiece stage).supervision ∧
      ∀ sock m, stage = .queues (some sock) → s.IsFront sock m → L.drop s.requestState m

/-- No limits. -/
def Limits.none : Limits := {}

/-- The slot of a new request depends on the transaction table and its cursor. -/
lemma Limits.AllowsRequest.congr {L : Limits} {s s' : Proxy} (h : L.AllowsRequest s)
    (htable : s'.vTransaction = s.vTransaction) (hnext : s'.nextTransaction = s.nextTransaction)
    (hstate : s'.requestState = s.requestState) : L.AllowsRequest s' := by
  intro slot hslot
  rw [hstate]
  refine h slot ?_
  rw [← hslot]
  have hfree : s'.isFree = s.isFree := by
    funext i
    rw [Proxy.isFree, Proxy.isFree, Proxy.transaction, Proxy.transaction, htable]
  have hsearch := congrArg Prod.fst s'.findTransaction_search
  rw [hfree, htable, hnext] at hsearch
  exact (congrArg Prod.fst s.findTransaction_search).trans hsearch.symm

/-- Without limits everything is allowed. -/
lemma Limits.none_allows (s : Proxy) (e : Event) : Limits.none.Allows s e := by
  cases e with
  | accept sock => exact fun _ _ => trivial
  | closeClient thread nr => trivial
  | clientMessage thread nr sender counterE2e buff toreceive answers =>
    refine ⟨trivial, fun _ _ => ?_, fun _ _ _ _ => trivial⟩
    split <;> trivial
  | exitClientThread thread => trivial
  | send sock result now => exact fun _ _ _ => trivial
  | startDiaThread c => trivial
  | connect c sock => exact fun _ => trivial
  | lose c => trivial
  | reconnect c => trivial
  | serverMessage c buff dpSize answers =>
    exact ⟨fun _ => trivial, fun _ _ => trivial, fun _ _ _ => trivial⟩
  | watchClients => trivial
  | startCleaning => trivial
  | clean => exact fun _ _ => ⟨trivial, fun _ _ _ _ => trivial⟩

/-! ## Changes -/

/-- The records of two thread tables differ in descriptor sets, and in one client of one thread
that is gone. -/
def ThreadsWithout (s : Proxy) (thread nr : ℕ) (threads : List ClientThread) : Prop :=
  threads.length = s.vClientThread.length ∧
    ∀ i, (Table.read threads {} i).running = (s.clientThread i).running ∧
      (Table.read threads {} i).conectionClients =
        if i = thread then (s.clientThread i).conectionClients.erase (s.client nr).pos
        else (s.clientThread i).conectionClients

/-- What is to be shown of an invariant. -/
structure IsInvariant (I : Proxy → Prop) (L : Limits) : Prop where
  /-- Counting and logging keeps it. -/
  logged : ∀ {s s' : Proxy}, I s → s.Logged s' → I s'
  /-- A client is given another server connection, or waits for an answer no more. -/
  client : ∀ {s : Proxy} (nr : ℤ) (choice : ClientConnection → ℤ)
    (waiting : ClientConnection → Bool), I s →
    I { s with vClient := Table.modify s.vClient nr fun c =>
      { c with diaServerConnection := choice c, waitingAnswer := waiting c } }
  /-- A name is registered. -/
  register : ∀ {s : Proxy} (nr sender : ℕ) (name : List UInt8), s.MayHandle nr sender →
    L.handle (s.client nr).conn sender → I s → I (s.registerSession nr sender name)
  /-- The cursor of the search for a client moves. -/
  cursor : ∀ {s : Proxy} (next : ℕ), I s → I { s with nextClient := next }
  /-- A client is closed. -/
  closeClient : ∀ {s : Proxy} (thread nr : ℕ) (threads : List ClientThread),
    ThreadsWithout s thread nr threads → L.close s.requestState (s.client nr).sock → I s →
    I { s.tearDownIf (s.client nr).sock with
      vClient := Table.modify s.vClient nr Proxy.closedClient
      vClientThread := threads }
  /-- A client thread without clients ends. -/
  exitThread : ∀ {s : Proxy} (thread : ℕ), 0 < (s.clientThread thread).running →
    (s.clientThread thread).conectionClients = [] → I s →
    I { s with
      vClientThread := Table.modify s.vClientThread thread fun t =>
        { t with fds := ∅, maxFd := -1, conectionClients := [], running := t.running - 1 }
      numberClientThreads := s.numberClientThreads - 1 }
  /-- An answer is queued. -/
  enqueue : ∀ {s : Proxy} (sock : ℤ) (m : Message), ¬ m.IsRequest → m.transaction = -1 → I s →
    I (s.enqueue sock m)
  /-- The slot that an answer names is freed. -/
  answered : ∀ {s : Proxy} (type : MessageType) (requestTime : Transaction → ℕ) (answers : ℕ)
    (slot : ℤ), L.answer s.requestState type answers slot → I s →
    I (s.answered type (fun t => { t with status := .notUsed, requestTime := requestTime t })
      answers slot)
  /-- A request of a client is handled. -/
  clientRequest : ∀ {s s' : Proxy} (nr sender counterE2e : ℕ) (buff : Mem) (toreceive : ℕ),
    s.MayHandle nr sender → L.handle (s.client nr).conn sender → L.AllowsRequest s →
    s.RequestOutcome
      ((s.connection (s.client nr).diaServerConnection).status = .connected)
      (s.connection (s.client nr).diaServerConnection).sockId
      (s.requestToServerMessage nr counterE2e (s.requestTag nr sender s.requests buff) buff
        toreceive)
      (fun t => t.fill (s.requestTag nr sender s.requests buff))
      (fun t => { t with status := .notUsed }) s' → I s → I s'
  /-- A request of a server is discarded before it is given a slot. -/
  discard : ∀ {s : Proxy}, I s → I { s with requests := s.requests + 1 }
  /-- A request of a server is handled. -/
  serverRequest : ∀ {s s' : Proxy} (c : ℕ) (client : ℤ) (buff : Mem) (dpSize : ℕ),
    c < s.vConnections.length → L.AllowsRequest s →
    s.RequestOutcome ((s.client client).status = .online) (s.client client).sock
      (s.requestToClientMessage c (Proxy.serverRequestTag c s.requests client buff) buff dpSize)
      (fun t => t.fillServer (Proxy.serverRequestTag c s.requests client buff) (s.connection c).pos)
      Transaction.clear s' → I s → I s'
  /-- A message is written to its end. -/
  finish : ∀ {s : Proxy} (sock : ℤ) (m : Message) (now : ℕ), s.IsFront sock m →
    s.descriptors sock ≠ none → I s → I (s.finishFront sock m now)
  /-- A part of a message is written. -/
  advance : ∀ {s : Proxy} (sock : ℤ) (m : Message) (n : ℕ), s.IsFront sock m → I s →
    I (s.advanceFront sock m n)
  /-- A message is taken off though nothing was written. -/
  skip : ∀ {s : Proxy} (sock : ℤ) (m : Message) (now : ℕ), s.IsFront sock m →
    L.drop s.requestState m → I s → I (s.skipFront sock m now)
  /-- A message is taken off after an error. -/
  drop : ∀ {s : Proxy} (sock : ℤ) (m : Message), s.IsFront sock m → L.drop s.requestState m →
    I s → I (s.dropFront sock m)
  /-- The status of a server connection changes. -/
  connection : ∀ {s : Proxy} (c : ℕ) (status : ConnectionStatus), I s →
    I { s with vConnections := Table.modify s.vConnections c fun d => { d with status := status } }
  /-- A server thread is started for a connection without a descriptor. -/
  startDia : ∀ {s : Proxy} (c : ℕ), (s.connection c).sockId = -1 → I s →
    I { s with vConnections := Table.modify s.vConnections c fun d =>
      { d with status := .connecting, sockId := -1 } }
  /-- A server connection ends. -/
  cleanDia : ∀ {s : Proxy} (c : ℕ), L.close s.requestState (s.connection c).sockId → I s →
    I { s.tearDownIf (s.connection c).sockId with
      vConnections := Table.modify s.vConnections c fun d => { d with sockId := -1 } }
  /-- A server connection is established. -/
  connect : ∀ {s : Proxy} (c : ℕ) (sock : ℤ), c < s.vConnections.length → 0 ≤ sock →
    s.descriptors sock = none → I s →
    I { s with
      descriptors := fun k => if k = sock then some (.server c) else s.descriptors k
      vConnections := Table.modify s.vConnections c fun d =>
        { d with sockId := sock, status := .connected } }
  /-- A descriptor is given a queue. -/
  openQueue : ∀ {s : Proxy} (sock : ℤ), I s →
    I { s with mPendingToSend := s.mPendingToSend.openQueue sock }
  /-- A client is accepted. -/
  accept : ∀ {s : Proxy} (nr conFound next : ℕ) (thread sock : ℤ), s.findSlot = some nr →
    s.chooseClientThread = some thread → 0 ≤ sock → s.descriptors sock = none →
    L.give s nr → I s →
    I { s with
      nextConnection := next
      vClient := Table.modify s.vClient nr (s.acceptedClient nr sock conFound)
      descriptors := fun k => if k = sock then some (.client s.accepted) else s.descriptors k
      accepted := s.accepted + 1
      nextClientThread := thread
      vClientThread := Table.modify s.vClientThread thread (s.joinedThread nr sock)
      numberClientThreads := s.numberClientThreads + s.threadsToStart }
  /-- A client is accepted, and the proxy is processing. -/
  processing : ∀ {s : Proxy}, I s →
    I { s with supervision := { s.supervision with diaProxyState := .processing } }
  /-- The proxy thread and the signal thread go on. -/
  supervise : ∀ {s : Proxy} (x : Supervision), L.supervise s.supervision x → I s →
    I { s with supervision := x }
  /-- The clean-up forgets the sessions. -/
  forget : ∀ {s : Proxy}, I s → I s.clearSessions
  /-- It frees a transaction slot. -/
  freed : ∀ {s : Proxy} (index : ℕ), I s →
    I { s with vTransaction := Table.modify s.vTransaction index Transaction.freed }
  /-- It takes a message off a queue. -/
  purge : ∀ {s : Proxy} (sock : ℤ) (m : Message), s.IsFront sock m → L.drop s.requestState m →
    I s → I { s with mPendingToSend := s.mPendingToSend.popFront sock }

/-! ## The rule -/

/-- The tables have their sizes and the cursor of the search for a slot is inside the table. -/
structure Sized (s : Proxy) : Prop where
  /-- The next slot that is looked at exists. -/
  cursor : s.nextTransaction < s.vTransaction.length
  /-- There are as many client slots as configured. -/
  clients : s.vClient.length = s.cerData.numberOfClients

variable {I : Proxy → Prop} {L : Limits}

/-- The choice of the server connection keeps an invariant. -/
lemma IsInvariant.selectConnection (hI : IsInvariant I L) {s s' : Proxy} {nr : ℕ} {buff : Mem}
    {toreceive : ℕ} (h : I s) (hs : s.selectConnection nr buff toreceive = some s') : I s' := by
  obtain ⟨choice, accesses, rfl, -⟩ := Proxy.selectConnection_eq hs
  exact hI.logged (hI.client nr choice ClientConnection.waitingAnswer h) ⟨_, _, _, _, rfl⟩

/-- An answer that frees its slot, and may be queued, keeps an invariant. -/
lemma IsInvariant.answer (hI : IsInvariant I L) {s s' : Proxy} {up : Prop} {sock : ℤ} {m : Message}
    {type : MessageType} (requestTime : Transaction → ℕ) {answers : ℕ} {slot : ℤ}
    (hout : s.QueueOutcome up sock m s') (hm : ¬ m.IsRequest) (hslot : m.transaction = -1)
    (hanswer : L.answer s.requestState type answers slot) (h : I s) :
    I (s'.answered type (fun t => { t with status := .notUsed, requestTime := requestTime t })
      answers slot) := by
  have hanswered := hI.answered type requestTime answers slot hanswer h
  rcases hout with ⟨-, rfl⟩ | ⟨-, rfl⟩
  · exact hanswered
  · exact hI.enqueue sock m hm hslot hanswered

/-- `closeClient` keeps an invariant. -/
lemma IsInvariant.close (hI : IsInvariant I L) {s : Proxy} (thread nr : ℕ)
    (hclose : L.close s.requestState (s.client nr).sock) (h : I s) :
    I (s.closeClient thread nr) := by
  obtain ⟨threads, hlog, hlen, hthreads⟩ := s.closeClient_eq thread nr
  exact hI.logged (hI.closeClient thread nr threads ⟨hlen, hthreads⟩ hclose h) hlog

/-- `cleanDiaConnection` keeps an invariant. -/
lemma IsInvariant.clean (hI : IsInvariant I L) {s : Proxy} (c : ℕ)
    (hclose : L.close s.requestState (s.connection c).sockId) (h : I s) :
    I (s.cleanDiaConnection c) :=
  hI.logged (hI.cleanDia c hclose h) (s.cleanDiaConnection_logged c)

/-- A field that the choice of the server connection keeps. -/
lemma Proxy.selectConnection_client {α : Type*} (g : ClientConnection → α)
    (hg : ∀ (c : ClientConnection) d, g { c with diaServerConnection := d } = g c) {s s' : Proxy}
    {nr : ℕ} {buff : Mem} {toreceive : ℕ} (h : s.selectConnection nr buff toreceive = some s')
    (i : ℤ) : g (s'.client i) = g (s.client i) := by
  obtain ⟨choice, accesses, rfl, -⟩ := Proxy.selectConnection_eq h
  exact Table.read_modify_field (t := s.vClient) (d := {}) (i := nr) (j := i) g
    fun c => hg c (choice c)

/-- The choice of the server connection does not change whose messages may be handled. -/
lemma Proxy.MayHandle.selectConnection {s s' : Proxy} {nr sender : ℕ} {buff : Mem} {toreceive : ℕ}
    (hmay : s.MayHandle nr sender) (h : s.selectConnection nr buff toreceive = some s') :
    s'.MayHandle nr sender := by
  have hconn : ∀ i : ℤ, (s'.client i).conn = (s.client i).conn :=
    selectConnection_client ClientConnection.conn (fun _ _ => rfl) h
  have hstatus : ∀ i : ℤ, (s'.client i).status = (s.client i).status :=
    selectConnection_client ClientConnection.status (fun _ _ => rfl) h
  obtain ⟨choice, accesses, rfl, -⟩ := Proxy.selectConnection_eq h
  obtain ⟨hnr, hlt, hor⟩ := hmay
  refine ⟨by rw [Table.length_modify]; exact hnr, hlt, ?_⟩
  rcases hor with hown | hclosed
  · exact Or.inl ((hconn nr).trans hown)
  · refine Or.inr fun k hk honline => ?_
    rw [Table.length_modify] at hk
    rw [hconn k]
    exact hclosed k hk ((hstatus k).symm.trans honline)

/-- `clientMessage` keeps an invariant. -/
lemma IsInvariant.clientMessage (hI : IsInvariant I L) {s : Proxy}
    {thread nr sender counterE2e : ℕ} {buff : Mem} {toreceive answers : ℕ}
    (hcur : s.nextTransaction < s.vTransaction.length) (hmay : s.MayHandle nr sender)
    (hL : L.Allows s (.clientMessage thread nr sender counterE2e buff toreceive answers))
    (h : I s) : I (s.clientMessage thread nr sender counterE2e buff toreceive answers).1 := by
  obtain ⟨hhandle, hanswer, hrequest⟩ := hL
  unfold Proxy.clientMessage
  cases hselect : s.selectConnection nr buff toreceive with
  | none => exact h
  | some t =>
    have ht : I t := hI.selectConnection h hselect
    have hmay' : t.MayHandle nr sender := hmay.selectConnection hselect
    have hconn : (t.client nr).conn = (s.client nr).conn :=
      Proxy.selectConnection_client ClientConnection.conn (fun _ _ => rfl) hselect nr
    have hsock : (t.client nr).sock = (s.client nr).sock :=
      Proxy.selectConnection_client ClientConnection.sock (fun _ _ => rfl) hselect nr
    have hhandle' : L.handle (t.client nr).conn sender := by rw [hconn]; exact hhandle
    obtain ⟨hreq, hcur', hlen, hallows⟩ : t.requestState = s.requestState ∧
        t.nextTransaction < t.vTransaction.length ∧
        t.vTransaction.length = s.vTransaction.length ∧ (L.AllowsRequest s → L.AllowsRequest t) := by
      obtain ⟨choice, accesses, rfl, -⟩ := Proxy.selectConnection_eq hselect
      exact ⟨rfl, hcur, rfl, fun h => h.congr rfl rfl rfl⟩
    dsimp only
    by_cases hcer : buff.cmdCode = cmdCodeCer
    · rw [if_pos hcer]
      rcases t.clientCer_eq nr sender buff toreceive with heq | ⟨name, heq⟩
      · rw [heq]
        exact ht
      · rw [heq]
        exact hI.register nr sender name hmay' hhandle' ht
    · rw [if_neg hcer]
      by_cases hcode : buff.cmdCode ∈ serverRequestCodes
      · rw [if_pos hcode]
        have hlimit := hanswer ⟨hcer, hcode⟩ (by rw [hselect]; exact Option.some_ne_none t)
        by_cases hslot : namedSlot buff > t.vTransaction.length - 1
        · rw [if_pos (hlen ▸ hslot)] at hlimit
          unfold Proxy.clientAnswer
          rw [if_pos hslot]
          exact hI.close thread nr (by rw [hreq, hsock]; exact hlimit) ht
        · rw [if_neg (hlen ▸ hslot)] at hlimit
          obtain ⟨u, hout, hlog⟩ :=
            t.clientAnswer_outcome thread nr toreceive answers (Nat.not_lt.mp hslot)
          exact hI.logged (hI.answer _ hout
            (by rintro (hm | hm) <;> cases hm) rfl (by rw [hreq]; exact hlimit) ht) hlog
      · rw [if_neg hcode]
        exact hI.clientRequest nr sender counterE2e buff toreceive hmay' hhandle'
          (hallows (hrequest hcer hcode)) (t.clientRequest_outcome nr sender counterE2e buff toreceive hcur') ht

/-- An answer of a server that frees its slot, and may be queued, keeps an invariant. -/
lemma IsInvariant.answerServer (hI : IsInvariant I L) {s t s' : Proxy} {up : Prop} {sock : ℤ}
    {m : Message} {answers : ℕ} {slot client : ℤ} {waiting : ClientConnection → Bool}
    (hout : s.QueueOutcome up sock m t) (hm : ¬ m.IsRequest) (hslot : m.transaction = -1)
    (hanswer : L.answer s.requestState .requestToServer answers slot) (h : I s)
    (hlog : Proxy.Logged { t.answered .requestToServer Transaction.clear answers slot with
      vClient := Table.modify t.vClient client fun d => { d with waitingAnswer := waiting d } } s') :
    I s' := by
  have ht := hI.answer (fun _ => 0) hout hm hslot hanswer h
  exact hI.logged (hI.client client ClientConnection.diaServerConnection waiting ht) hlog

/-- `serverMessage` keeps an invariant. -/
lemma IsInvariant.serverMessage (hI : IsInvariant I L) {s : Proxy} {c : ℕ} {buff : Mem}
    {dpSize answers : ℕ} (hcur : s.nextTransaction < s.vTransaction.length)
    (hc : c < s.vConnections.length) (hL : L.Allows s (.serverMessage c buff dpSize answers))
    (h : I s) : I (s.serverMessage c buff dpSize answers) := by
  obtain ⟨hclose, hanswer, hrequest⟩ := hL
  unfold Proxy.serverMessage
  by_cases hwatchdog : buff.cmdCode = cmdWatchdog
  · rw [if_pos hwatchdog]
    exact h
  · rw [if_neg hwatchdog]
    by_cases hdpr : buff.cmdCode = cmdDpr
    · rw [if_pos hdpr]
      have hoff : I (s.setConnection c fun d => { d with status := .disconnected }) :=
        hI.logged (hI.connection c .disconnected h) ⟨_, _, _, _, rfl⟩
      refine hI.clean c ?_ hoff
      have hsock : ((s.setConnection c fun d => { d with status := .disconnected }).connection
          c).sockId = (s.connection c).sockId :=
        Table.read_modify_field (t := s.vConnections) (d := {}) (i := c) (j := c)
          DiaServerConnection.sockId fun _ => rfl
      rw [hsock]
      exact hclose hdpr
    · rw [if_neg hdpr]
      by_cases hrsr : buff.cmdCode = cmdRsr
      · rw [if_pos hrsr]
        exact h
      · rw [if_neg hrsr]
        by_cases hcode : buff.cmdCode ∈ serverRequestCodes
        · rw [if_pos hcode]
          obtain ⟨next, hlog | ⟨client, hout⟩⟩ := s.serverRequest_outcome c buff dpSize hcur
          · exact hI.logged (hI.cursor next (hI.discard h)) hlog
          · exact hI.serverRequest (s := { s with nextClient := next }) c client buff dpSize hc
              ((hrequest hcode).congr rfl rfl rfl) hout (hI.cursor next h)
        · rw [if_neg hcode]
          rcases s.serverAnswer_outcome c buff dpSize answers with
            hlog | ⟨hslot, t, waiting, hout, hlog⟩
          · exact hI.logged h hlog
          · have hlimit := hanswer ⟨by simp [hwatchdog, hdpr, hrsr], hcode⟩ hslot
            exact hI.answerServer hout (by rintro (hm | hm) <;> cases hm) rfl hlimit h hlog

/-- A pass of `sendPendingMessage` keeps an invariant. -/
lemma IsInvariant.sendPass (hI : IsInvariant I L) {s : Proxy} {sock : ℤ} {result : SendResult}
    {now : ℕ} (hopen : s.descriptors sock ≠ none)
    (hL : ∀ m, s.IsFront sock m → result.Loses m → L.drop s.requestState m) (h : I s) :
    I (s.sendPass sock result now).1 := by
  rcases s.sendPass_cases sock result now with hsame | ⟨m, hfront, hpass⟩
  · rw [hsame]
    exact h
  · rcases hpass with ⟨n, e, -, -, hp⟩ | ⟨hr, hleft, hp⟩ | ⟨n, e, -, -, hp⟩ | ⟨-, hp⟩ |
      ⟨e, hr, he, hlen, hp⟩
    · rw [hp]
      exact hI.finish sock m now hfront hopen h
    · rw [hp]
      exact hI.skip sock m now hfront (hL m hfront (hr ▸ ⟨rfl, rfl, hleft⟩)) h
    · rw [hp]
      exact hI.advance sock m n hfront h
    · rw [hp]
      exact hI.logged h ⟨_, _, _, _, rfl⟩
    · rw [hp]
      exact hI.drop sock m hfront (hL m hfront (hr ▸ ⟨he, hlen⟩)) h

/-- `connectDia` keeps an invariant. -/
lemma IsInvariant.connectDia (hI : IsInvariant I L) {s : Proxy} {c : ℕ} {sock : ℤ}
    (hc : c < s.vConnections.length) (hsock : 0 ≤ sock) (hfree : s.descriptors sock = none)
    (hL : (s.mPendingToSend.lookup sock).isSome → L.close s.requestState sock) (h : I s) :
    I (s.connectDia c sock) := by
  have hconnected := hI.logged (hI.connect c sock hc hsock hfree h)
    (Proxy.logged_uses _ (.connection c))
  unfold Proxy.connectDia
  dsimp only
  split
  · rename_i hqueue
    refine hI.clean c ?_ hconnected
    have hrange : Table.InRange s.vConnections c := ⟨Int.natCast_nonneg c, Int.ofNat_lt.mpr hc⟩
    have hsock' : (Table.read (Table.modify s.vConnections c fun d : DiaServerConnection =>
        { d with sockId := sock, status := .connected }) {} c).sockId = sock := by
      rw [Table.read_modify_self _ hrange]
    change L.close s.requestState (Table.read (Table.modify s.vConnections c
      fun d : DiaServerConnection => { d with sockId := sock, status := .connected }) {} c).sockId
    rw [hsock']
    exact hL hqueue
  · exact hI.openQueue sock hconnected

/-- Counting clients keeps an invariant. -/
lemma IsInvariant.watchClients (hI : IsInvariant I L) {s : Proxy}
    (hL : L.supervise s.supervision s.watchClients.supervision) (h : I s) : I s.watchClients := by
  unfold Proxy.watchClients at hL ⊢
  split_ifs at hL ⊢
  · exact hI.supervise _ hL (hI.logged h (s.logged_uses _))
  · exact hI.supervise _ hL h

/-- The clean-up of the queues takes a message off, or goes on. -/
lemma Proxy.cleanPiece_queues (s : Proxy) (last : Option ℤ) :
    (∃ sock m, last = some sock ∧ s.IsFront sock m ∧ s.cleanPiece (.queues last) =
      { s with mPendingToSend := s.mPendingToSend.popFront sock }) ∨
    ∃ stage, s.cleanPiece (.queues last) = s.goTo stage := by
  unfold Proxy.cleanPiece
  dsimp only
  split
  · next sock hlast =>
    obtain ⟨rfl, hqueue⟩ := Option.filter_eq_some_iff.mp hlast
    left
    cases hlookup : s.mPendingToSend.lookup sock with
    | none => simp [hlookup] at hqueue
    | some queue =>
      cases queue with
      | nil => simp [hlookup] at hqueue
      | cons m rest => exact ⟨sock, m, rfl, ⟨rest, hlookup⟩, rfl⟩
  · right
    split <;> exact ⟨_, rfl⟩

/-- A piece of the clean-up keeps an invariant. -/
lemma IsInvariant.cleanPiece (hI : IsInvariant I L) {s : Proxy} {stage : CleanStage}
    (hL : L.supervise s.supervision (s.cleanPiece stage).supervision)
    (hdrop : ∀ sock m, stage = .queues (some sock) → s.IsFront sock m → L.drop s.requestState m)
    (h : I s) : I (s.cleanPiece stage) := by
  cases stage with
  | sessions => exact hI.supervise _ hL (hI.forget h)
  | transactions index =>
    dsimp only [Proxy.cleanPiece] at hL ⊢
    split_ifs at hL ⊢
    · exact hI.supervise _ hL (hI.logged (hI.freed index h) ⟨_, _, _, _, rfl⟩)
    · exact hI.supervise _ hL h
  | queues last =>
    rcases s.cleanPiece_queues last with ⟨sock, m, rfl, hfront, heq⟩ | ⟨stage, heq⟩
    · rw [heq]
      exact hI.purge sock m hfront (hdrop sock m rfl hfront) h
    · rw [heq] at hL ⊢
      exact hI.supervise _ hL h
  | connections i =>
    dsimp only [Proxy.cleanPiece] at hL ⊢
    split_ifs at hL ⊢
    · exact hI.supervise _ hL (hI.logged h ⟨_, _, _, _, rfl⟩)
    · exact hI.supervise _ hL h

/-- **The invariant rule.**  A step that the limits allow keeps an invariant. -/
theorem IsInvariant.of_step (hI : IsInvariant I L) {s s' : Proxy} {e : Event} (hs : Sized s)
    (hL : L.Allows s e) (hstep : step s e = some s') (h : I s) : I s' := by
  cases e with
  | accept sock =>
    obtain ⟨⟨hsock, hfree⟩, haccept⟩ := Option.ite_none_right_eq_some.mp hstep
    rcases Proxy.acceptClient_cases hs.clients haccept with
      ⟨-, rfl⟩ | ⟨nr, conFound, next, thread, hslot, -, -, hthread, hlog⟩
    · exact h
    · exact hI.logged (hI.processing (hI.openQueue sock (hI.accept nr conFound next thread sock
        hslot hthread hsock hfree (hL nr hslot) h))) hlog
  | closeClient thread nr =>
    obtain ⟨-, heq⟩ := Option.ite_none_right_eq_some.mp hstep
    obtain rfl := Option.some.inj heq
    exact hI.close thread nr hL h
  | clientMessage thread nr sender counterE2e buff toreceive answers =>
    obtain ⟨⟨hmay, -⟩, heq⟩ := Option.ite_none_right_eq_some.mp hstep
    obtain rfl := Option.some.inj heq
    exact hI.clientMessage hs.cursor hmay hL h
  | exitClientThread thread =>
    obtain ⟨⟨hrunning, hempty⟩, heq⟩ := Option.ite_none_right_eq_some.mp hstep
    obtain rfl := Option.some.inj heq
    unfold Proxy.resetAndExit
    rw [hempty]
    exact hI.exitThread thread hrunning hempty h
  | send sock result now =>
    obtain ⟨hopen, heq⟩ := Option.ite_none_right_eq_some.mp hstep
    obtain rfl := Option.some.inj heq
    exact hI.sendPass hopen hL h
  | startDiaThread c =>
    obtain ⟨⟨-, hsock⟩, heq⟩ := Option.ite_none_right_eq_some.mp hstep
    obtain rfl := Option.some.inj heq
    exact hI.logged (hI.startDia c hsock h) ⟨_, _, _, _, rfl⟩
  | connect c sock =>
    obtain ⟨⟨hc, -, hsock, hfree⟩, heq⟩ := Option.ite_none_right_eq_some.mp hstep
    obtain rfl := Option.some.inj heq
    exact hI.connectDia hc hsock hfree hL h
  | lose c =>
    obtain ⟨-, heq⟩ := Option.ite_none_right_eq_some.mp hstep
    obtain rfl := Option.some.inj heq
    exact hI.logged (hI.connection c .toBeConnected h) ⟨_, _, _, _, rfl⟩
  | reconnect c =>
    obtain ⟨-, heq⟩ := Option.ite_none_right_eq_some.mp hstep
    obtain rfl := Option.some.inj heq
    exact hI.logged (hI.connection c .connecting (hI.clean c hL h)) ⟨_, _, _, _, rfl⟩
  | serverMessage c buff dpSize answers =>
    obtain ⟨⟨hc, -⟩, heq⟩ := Option.ite_none_right_eq_some.mp hstep
    obtain rfl := Option.some.inj heq
    exact hI.serverMessage hs.cursor hc hL h
  | watchClients =>
    obtain rfl := Option.some.inj hstep
    exact hI.watchClients hL h
  | startCleaning =>
    obtain ⟨-, heq⟩ := Option.ite_none_right_eq_some.mp hstep
    obtain rfl := Option.some.inj heq
    exact hI.supervise _ hL h
  | clean =>
    obtain ⟨stage, hstage, rfl⟩ := Option.map_eq_some_iff.mp hstep
    exact hI.cleanPiece (hL stage hstage).1 (hL stage hstage).2 h

/-! ## The tables keep their sizes -/

/-- The end of a connection keeps the size of the transaction table. -/
lemma length_tearDownIf (s : Proxy) (sock : ℤ) :
    (s.tearDownIf sock).vTransaction.length = s.vTransaction.length := by
  by_cases h : sock = -1
  · rw [h, Proxy.tearDownIf_neg_one]
  · rw [Proxy.tearDownIf_of_ne s h]
    exact length_clearSlots _ _

/-- Noting when a request was sent keeps the size of the transaction table. -/
lemma length_noteRequestTime (s : Proxy) (m : Message) (now : ℕ) :
    (s.noteRequestTime m now).vTransaction.length = s.vTransaction.length := by
  unfold Proxy.noteRequestTime
  dsimp only
  split
  · exact Table.length_modify _ _ _
  · rfl

/-- A request keeps the sizes. -/
lemma Sized.request {s s' : Proxy} {up : Prop} {socket : ℤ} {message : ℕ → Message}
    {fill drop : Transaction → Transaction} (h : Sized s)
    (hout : s.RequestOutcome up socket message fill drop s') : Sized s' := by
  cases hout with
  | noSlot next hnone hnext hs' =>
    obtain ⟨_, _, _, _, rfl⟩ := hs'
    exact ⟨hnext, h.clients⟩
  | refused next slot hacc hslot hfree hnext hs' =>
    obtain ⟨_, _, _, _, rfl⟩ := hs'
    exact ⟨by simpa only [Table.length_modify] using hnext, h.clients⟩
  | queued next slot hacc hslot hfree hnext hs' =>
    obtain ⟨_, _, _, _, rfl⟩ := hs'
    exact ⟨by simpa only [Table.length_modify] using hnext, h.clients⟩

/-- The end of a connection does not touch the supervision. -/
lemma supervision_tearDownIf (s : Proxy) (sock : ℤ) :
    (s.tearDownIf sock).supervision = s.supervision := by
  by_cases h : sock = -1
  · rw [h, Proxy.tearDownIf_neg_one]
  · rw [Proxy.tearDownIf_of_ne s h]
    rfl

/-- A request does not touch the supervision. -/
lemma supervision_request {s s' : Proxy} {up : Prop} {socket : ℤ} {message : ℕ → Message}
    {fill drop : Transaction → Transaction}
    (hout : s.RequestOutcome up socket message fill drop s') : s'.supervision = s.supervision := by
  rcases hout with ⟨_, _, _, _, _, _, _, rfl⟩ | ⟨_, _, _, _, _, _, _, _, _, _, rfl⟩ |
    ⟨_, _, _, _, _, _, _, _, _, _, rfl⟩ <;> rfl

/-- The sizes are kept by every step. -/
theorem sized_isInvariant (L : Limits) : IsInvariant Sized L where
  logged := by
    rintro s s' h ⟨_, _, _, _, rfl⟩
    exact ⟨h.cursor, h.clients⟩
  client nr choice waiting h :=
    ⟨h.cursor, (Table.length_modify _ _ _).trans h.clients⟩
  register nr sender name _ _ h := ⟨h.cursor, h.clients⟩
  cursor next h := ⟨h.cursor, h.clients⟩
  closeClient thread nr threads _ _ h :=
    ⟨h.cursor.trans_eq (length_tearDownIf _ _).symm,
      (Table.length_modify _ nr Proxy.closedClient).trans h.clients⟩
  exitThread thread _ _ h := ⟨h.cursor, h.clients⟩
  enqueue sock m _ _ h := ⟨h.cursor, h.clients⟩
  answered type requestTime answers slot _ h :=
    ⟨by simpa only [Proxy.answered, Table.length_modify] using h.cursor, h.clients⟩
  clientRequest nr sender counterE2e buff toreceive _ _ _ hout h := h.request hout
  discard h := ⟨h.cursor, h.clients⟩
  serverRequest c client buff dpSize _ _ hout h := h.request hout
  finish sock m now _ _ h := ⟨h.cursor.trans_eq (length_noteRequestTime _ m now).symm, h.clients⟩
  advance sock m n _ h := ⟨h.cursor, h.clients⟩
  skip sock m now _ _ h := ⟨h.cursor.trans_eq (length_noteRequestTime _ m now).symm, h.clients⟩
  drop sock m _ _ h := ⟨h.cursor, h.clients⟩
  connection c status h := ⟨h.cursor, h.clients⟩
  startDia c _ h := ⟨h.cursor, h.clients⟩
  cleanDia c _ h := ⟨h.cursor.trans_eq (length_tearDownIf _ _).symm, h.clients⟩
  connect c sock _ _ _ h := ⟨h.cursor, h.clients⟩
  openQueue sock h := ⟨h.cursor, h.clients⟩
  accept nr conFound next thread sock _ _ _ _ _ h :=
    ⟨h.cursor, by simpa only [Table.length_modify] using h.clients⟩
  processing h := ⟨h.cursor, h.clients⟩
  supervise x _ h := ⟨h.cursor, h.clients⟩
  forget h := ⟨h.cursor, h.clients⟩
  freed index h := ⟨by simpa only [Table.length_modify] using h.cursor, h.clients⟩
  purge sock m _ _ h := ⟨h.cursor, h.clients⟩

/-- Something about the supervision is kept when its own steps keep it. -/
theorem supervision_isInvariant {P : Supervision → Prop}
    (hP : ∀ x, P x → P { x with diaProxyState := .processing }) :
    IsInvariant (fun s => P s.supervision) { supervise := fun _ x => P x } where
  logged := by
    rintro s s' h ⟨_, _, _, _, rfl⟩
    exact h
  client _ _ _ h := h
  register _ _ _ _ _ h := h
  cursor _ h := h
  closeClient _ _ _ _ _ h := by
    dsimp only
    rw [supervision_tearDownIf]
    exact h
  exitThread _ _ _ h := h
  enqueue _ _ _ _ h := h
  answered _ _ _ _ _ h := h
  clientRequest _ _ _ _ _ _ _ _ hout h := supervision_request hout ▸ h
  discard h := h
  serverRequest _ _ _ _ _ _ hout h := supervision_request hout ▸ h
  finish sock m now _ _ h := by
    change P (Proxy.noteRequestTime _ m now).supervision
    unfold Proxy.noteRequestTime
    split_ifs <;> exact h
  advance _ _ _ _ h := h
  skip sock m now _ _ h := by
    change P (Proxy.noteRequestTime _ m now).supervision
    unfold Proxy.noteRequestTime
    split_ifs <;> exact h
  drop _ _ _ _ h := h
  connection _ _ h := h
  startDia _ _ h := h
  cleanDia _ _ h := by
    dsimp only
    rw [supervision_tearDownIf]
    exact h
  connect _ _ _ _ _ h := h
  openQueue _ h := h
  accept _ _ _ _ _ _ _ _ _ _ h := h
  processing h := hP _ h
  supervise _ hx _ := hx
  forget h := h
  freed _ h := h
  purge _ _ _ _ h := h

/-- What the steps of the supervision keep about it, every step keeps. -/
lemma supervision_of_step {P : Supervision → Prop}
    (hP : ∀ x, P x → P { x with diaProxyState := .processing }) {s s' : Proxy} {e : Event}
    (hs : Sized s) (hstep : step s e = some s') (hwatch : P s.watchClients.supervision)
    (hstart : e = .startCleaning → P s.startCleaning.supervision)
    (hclean : ∀ stage, s.supervision.stage = some stage → P (s.cleanPiece stage).supervision)
    (h : P s.supervision) : P s'.supervision := by
  refine (supervision_isInvariant hP).of_step hs ?_ hstep h
  cases e with
  | accept sock => exact fun _ _ => trivial
  | closeClient thread nr => trivial
  | clientMessage thread nr sender counterE2e buff toreceive answers =>
    refine ⟨trivial, fun _ _ => ?_, fun _ _ _ _ => trivial⟩
    split <;> trivial
  | exitClientThread thread => trivial
  | send sock result now => exact fun _ _ _ => trivial
  | startDiaThread c => trivial
  | connect c sock => exact fun _ => trivial
  | lose c => trivial
  | reconnect c => trivial
  | serverMessage c buff dpSize answers =>
    exact ⟨fun _ => trivial, fun _ _ => trivial, fun _ _ _ => trivial⟩
  | watchClients => exact hwatch
  | startCleaning => exact hstart rfl
  | clean => exact fun stage hstage => ⟨hclean stage hstage, fun _ _ _ _ => trivial⟩

/-- The sizes of the first state. -/
lemma sized_init (cerData : CerData) : Sized (Proxy.init cerData) where
  cursor := (List.length_replicate).symm ▸ cerData.transactions_pos
  clients := List.length_replicate

/-! ## Runs -/

/-- **The run rule.**  In a run whose steps the limits allow, every state has the invariant. -/
theorem IsInvariant.throughout (hI : IsInvariant I L) {s : Proxy} (hs : Sized s) (h : I s)
    {es : List Event} (hL : LabelledSystem.Along step L.Allows s es) :
    LabelledSystem.Throughout step I s es :=
  LabelledSystem.throughout_of_along (I := fun s => Sized s ∧ I s)
    (fun _ _ _ h hC hstep =>
      ⟨(sized_isInvariant L).of_step h.1 hC hstep h.1, hI.of_step h.1 hC hstep h.2⟩)
    (fun _ h => h.2) ⟨hs, h⟩ hL

/-- The state after a run whose steps the limits allow has the invariant. -/
theorem IsInvariant.exec (hI : IsInvariant I L) {s s' : Proxy} (hs : Sized s) (h : I s)
    {es : List Event} (hL : LabelledSystem.Along step L.Allows s es)
    (hexec : LabelledSystem.exec step s es = some s') : I s' :=
  (hI.throughout hs h hL).last hexec

end DiaProxy
