import StTools.DiaProxy.ClientThread

/-!
# Server threads

A thread for each server connection connects it, cleans it up when it breaks, and handles the
messages of the server: its own requests are routed to a client by the names they carry, and its
answers to the client whose request has the transaction slot that the answer names.
-/

namespace DiaProxy

/-- `cmd__watchdog`. -/
def cmdWatchdog : ℕ := 0x118

/-- `cmd__dpr`. -/
def cmdDpr : ℕ := 0x11a

/-- `cmd__rsr_rfe5`. -/
def cmdRsr : ℕ := 0x142

/-- `SESSIONID_CODE`. -/
def sessionIdCode : ℕ := 263

/-- The `switch` that counts a result code; an answer without one counts as another result. -/
def Statistic.result (d : Statistic) : Option ℕ → Statistic
  | some 2001 => { d with resultCodeSuccess := d.resultCodeSuccess + 1 }
  | some 5012 => { d with resultCodeUnableToComply := d.resultCodeUnableToComply + 1 }
  | some 3004 => { d with resultCodeBusy := d.resultCodeBusy + 1 }
  | some value =>
    if value > 2001 ∧ value < 3000 then { d with resultCodeSuccess := d.resultCodeSuccess + 1 }
    else { d with resultCodeOther := d.resultCodeOther + 1 }
  | none => { d with resultCodeOther := d.resultCodeOther + 1 }

/-- A transaction record filled for a request of the server; `pos` is the server connection. -/
def Transaction.fillServer (t : Transaction) (tag : RequestTag) (pos : ℤ) : Transaction :=
  { t.fill tag with answerToDiaServerConnection := pos }

namespace Proxy

/-! ## The connection -/

/-- `cleanDiaConnection`, but for the disconnect message that it sends first. -/
def cleanDiaConnection (s : Proxy) (c : ℕ) : Proxy :=
  let sockId := (s.connection c).sockId
  let s := if sockId ≠ -1 then (s.cleanPendingMessages sockId).closeDescriptor sockId else s
  s.setConnection c fun d => { d with sockId := -1 }

/-- The start of a server thread. -/
def startDiaThread (s : Proxy) (c : ℕ) : Proxy :=
  s.setConnection c fun d => { d with status := .connecting, sockId := -1 }

/-- The cases `BROKEN`, `TOBECONNECTED` and `CONFIGURATIONERROR` of a server thread. -/
def reconnect (s : Proxy) (c : ℕ) : Proxy :=
  (s.cleanDiaConnection c).setConnection c fun d => { d with status := .connecting }

/-- The end of the case `CONNECTING`, when the capabilities exchange was made on a descriptor: the
connection is given a queue, and if the descriptor has one already the thread ends. -/
def connectDia (s : Proxy) (c : ℕ) (sock : ℤ) : Proxy :=
  let s := { s with descriptors := fun k => if k = sock then some (.server c) else s.descriptors k }
  let s := s.setConnection c fun d => { d with sockId := sock, status := .connected }
  if (s.mPendingToSend.lookup sock).isSome then s.cleanDiaConnection c
  else { s with mPendingToSend := s.mPendingToSend.openQueue sock }

/-- An error or the end of the stream when a server thread reads. -/
def loseConnection (s : Proxy) (c : ℕ) : Proxy :=
  s.setConnection c fun d => { d with status := .toBeConnected }

/-! ## Requests of the server -/

/-- The search for a client that passes a test, from `nextClient` on. -/
def findClient (s : Proxy) (test : ClientConnection → Bool) : Proxy × Option ℕ :=
  let found := RoundRobin.search (fun i => test (s.client i)) s.vClient.length s.nextClient
  ({ s.uses (.client s.nextClient) with nextClient := found.2 }, found.1)

/-- `findUsedClientWaitingAnswer`. -/
def findUsedClientWaitingAnswer (s : Proxy) : Proxy × Option ℕ :=
  s.findClient fun c => c.status = .online ∧ c.waitingAnswer

/-- `findUsedClient`: a client that waits for an answer, or else any client that is online. -/
def findUsedClient (s : Proxy) : Proxy × Option ℕ :=
  match s.findUsedClientWaitingAnswer with
  | (s, some i) => (s, some i)
  | (s, none) => s.findClient fun c => c.status = .online

/-- The client slot for a request of the server: that of the destination host, else that of the
user name, else that of any client; `none` stands for `-1`. -/
def clientFor (s : Proxy) (userName destHost : List UInt8) : Proxy × Option ℤ :=
  match s.mSession destHost with
  | some session => (s, some session.client)
  | none =>
    match s.mSession userName with
    | some session => (s, some session.client)
    | none =>
      match s.findUsedClient with
      | (s, some i) => (s, some (i : ℤ))
      | (s, none) => (s, none)

/-- A request of the server is received. -/
def receiveServerRequest (s : Proxy) (c : ℕ) : Proxy :=
  { s.count c fun d => { d with requestReceivedFromServer := d.requestReceivedFromServer + 1 } with
    requests := s.requests + 1 }

/-- A request of the server is counted as discarded. -/
def discardServerRequest (s : Proxy) (c : ℕ) : Proxy :=
  s.count c fun d => { d with requestDiscardFromServer := d.requestDiscardFromServer + 1 }

/-- The transaction record of a request of the server is filled. -/
def fillServerTransaction (s : Proxy) (slot : ℕ) (tag : RequestTag) (pos : ℤ) : Proxy :=
  s.setTransaction slot fun t => t.fillServer tag pos

/-- The message that is queued for the client; its hop-by-hop identifier is the number of the slot,
from one on. -/
def requestToClientMessage (s : Proxy) (c : ℕ) (tag : RequestTag) (buff : Mem)
    (dpSize slot : ℕ) : Message where
  messageType := .requestToClient
  transaction := slot
  diaServerConnection := (s.connection c).pos
  buffer := (buff.setHop2hop (UInt32.ofNat (slot + 1))).bytes dpSize
  tag := tag

/-- A message is queued for a client, if it is online. -/
def queueForClient (s : Proxy) (client : ℤ) (m : Message) : Proxy × Bool :=
  (s.uses (.client client)).queueIf ((s.client client).status = .online) (s.client client).sock m

/-- The slot of a request of the server that was not queued is freed, and it is counted as
discarded. -/
def refuseServerRequestIf (s : Proxy) (inserted : Bool) (c slot : ℕ) : Proxy :=
  if inserted then s else (s.discardServerRequest c).clearTransaction slot

/-- What is noted about a request of the server. -/
def serverRequestTag (c id : ℕ) (client : ℤ) (buff : Mem) : RequestTag where
  id := id
  origin := c
  client := client
  hopByHop := buff.hop2hop
  end2end := buff.end2end

/-- A request of the server for a client slot: it is given a transaction slot and queued. -/
def forwardServerRequest (s : Proxy) (c id : ℕ) (client : ℤ) (buff : Mem) (dpSize : ℕ) : Proxy :=
  let tag := serverRequestTag c id client buff
  match s.findTransaction with
  | (s, none) => s.discardServerRequest c
  | (s, some slot) =>
    let s := s.fillServerTransaction slot tag (s.connection c).pos
    let m := s.requestToClientMessage c tag buff dpSize slot
    let queued := s.queueForClient client m
    queued.1.refuseServerRequestIf queued.2 c slot

/-- `case cmd__clr` and the other requests of the server. -/
def serverRequest (s : Proxy) (c : ℕ) (buff : Mem) (dpSize : ℕ) : Proxy :=
  let id := s.requests
  let s := s.receiveServerRequest c
  match extractAVP buff dpSize userNameCode with
  | .found userName =>
    match extractAVP buff dpSize destinationHostCode with
    | .found destHost =>
      match s.clientFor userName destHost with
      | (s, some client) => s.forwardServerRequest c id client buff dpSize
      | (s, none) => s.discardServerRequest c
    | .notFound => s.discardServerRequest c
    | _ => s
  | .notFound => s.discardServerRequest c
  | _ => s

/-! ## Answers of the server -/

/-- The counters of an answer of the server: its result code, and a sample of its latency, for
which the session id is looked up.  `none` means that a scan of the message does not end. -/
def reportAnswer (s : Proxy) (c : ℕ) (slot : ℤ) (buff : Mem) (dpSize : ℕ) : Option Proxy :=
  let counted :=
    if s.cerData.diaErrCountersReportRunning then
      match extractResultCodeAVP buff dpSize with
      | .found value => some (s.count c fun d => d.result (some value))
      | .notFound => some (s.count c fun d => d.result none)
      | _ => none
    else some s
  if s.cerData.latencyReportRunning ∧ (s.transaction slot).requestTime ≠ 0 then
    match extractAVP buff dpSize sessionIdCode with
    | .found _ => counted
    | .notFound => counted
    | _ => none
  else counted

/-- The answer of the server, with the identifiers that the request had. -/
def answerToClient (s : Proxy) (slot : ℤ) (buff : Mem) : Mem :=
  (buff.setEnd2end (s.transaction slot).end2end).setHop2hop (s.transaction slot).hopByHop

/-- The message that is queued for the client. -/
def answerToClientMessage (s : Proxy) (c : ℕ) (slot : ℤ) (buff : Mem) (dpSize : ℕ) : Message where
  messageType := .answerToClient
  transaction := -1
  diaServerConnection := (s.connection c).pos
  buffer := (s.answerToClient slot buff).bytes dpSize

/-- An answer of the server is counted as discarded. -/
def discardServerAnswer (s : Proxy) (c : ℕ) : Proxy :=
  s.count c fun d => { d with answerDiscardFromServer := d.answerDiscardFromServer + 1 }

/-- A client whose answer was queued does not wait any more; an answer that was not queued is
counted as discarded. -/
def noteAnswer (s : Proxy) (inserted : Bool) (c : ℕ) (client : ℤ) : Proxy :=
  if inserted then s.setClient client fun d => { d with waitingAnswer := false }
  else s.discardServerAnswer c

/-- The slot of an answered request is freed. -/
def settleServerAnswer (s : Proxy) (slot : ℤ) (answers : ℕ) : Proxy :=
  { s.clearTransaction slot with sent := s.unansweredAfter .requestToServer answers slot }

/-- An answer of the server is received. -/
def receiveServerAnswer (s : Proxy) (c : ℕ) : Proxy :=
  s.count c fun d => { d with answerReceivedFromServer := d.answerReceivedFromServer + 1 }

/-- `default`: an answer of the server.  `answers` is the request the server means. -/
def serverAnswer (s : Proxy) (c : ℕ) (buff : Mem) (dpSize answers : ℕ) : Proxy :=
  let s := s.receiveServerAnswer c
  if namedSlot buff > s.vTransaction.length - 1 then s.discardServerAnswer c
  else
    let slot : ℤ := namedSlot buff
    match (s.uses (.transaction slot)).reportAnswer c slot buff dpSize with
    | none => s
    | some s =>
      let client := (s.transaction slot).client
      let queued := s.queueForClient client (s.answerToClientMessage c slot buff dpSize)
      (queued.1.noteAnswer queued.2 c client).settleServerAnswer slot answers

/-- What a server thread does with a message: the switch over the command code. -/
def serverMessage (s : Proxy) (c : ℕ) (buff : Mem) (dpSize answers : ℕ) : Proxy :=
  if buff.cmdCode = cmdWatchdog then s
  else if buff.cmdCode = cmdDpr then
    (s.setConnection c fun d => { d with status := .disconnected }).cleanDiaConnection c
  else if buff.cmdCode = cmdRsr then s
  else if buff.cmdCode ∈ serverRequestCodes then s.serverRequest c buff dpSize
  else s.serverAnswer c buff dpSize answers

/-! ## What handling a message changes -/

/-- What `cleanDiaConnection` changes: its connection ends and has no descriptor any more. -/
theorem cleanDiaConnection_logged (s : Proxy) (c : ℕ) :
    Logged { s.tearDownIf (s.connection c).sockId with
        vConnections := Table.modify s.vConnections c fun d => { d with sockId := -1 } }
      (s.cleanDiaConnection c) := by
  unfold cleanDiaConnection
  dsimp only
  by_cases h : (s.connection c).sockId = -1
  · rw [if_neg (not_not.mpr h), h, tearDownIf_neg_one]
    exact ⟨_, _, _, _, rfl⟩
  · rw [if_pos h, tearDownIf_of_ne s h]
    obtain ⟨_, _, _, _, heq⟩ := s.cleanPendingMessages_eq (s.connection c).sockId
    rw [heq]
    exact ⟨_, _, _, _, rfl⟩

/-- Looking for a client moves the cursor of that search only. -/
lemma findUsedClient_logged (s : Proxy) :
    ∃ next, Logged { s with nextClient := next } s.findUsedClient.1 := by
  unfold findUsedClient
  cases h : s.findUsedClientWaitingAnswer with
  | mk t found =>
    have ht : ∃ next, Logged { s with nextClient := next } t := by
      rw [show t = s.findUsedClientWaitingAnswer.1 by rw [h]]
      exact ⟨_, _, _, _, _, rfl⟩
    obtain ⟨next, _, _, _, _, rfl⟩ := ht
    cases found with
    | some i => exact ⟨next, _, _, _, _, rfl⟩
    | none => exact ⟨_, _, _, _, _, rfl⟩

/-- The choice of the client moves the cursor of the search for one only. -/
lemma clientFor_logged (s : Proxy) (userName destHost : List UInt8) :
    ∃ next, Logged { s with nextClient := next } (s.clientFor userName destHost).1 := by
  unfold clientFor
  split
  · exact ⟨s.nextClient, Logged.refl s⟩
  · split
    · exact ⟨s.nextClient, Logged.refl s⟩
    · obtain ⟨next, h⟩ := s.findUsedClient_logged
      cases hfound : s.findUsedClient with
      | mk t found =>
        rw [hfound] at h
        cases found with
        | some i => exact ⟨next, h⟩
        | none => exact ⟨next, h⟩

/-- A request of the server that was not queued gives its slot back. -/
lemma Logged.refuseServerRequest {s s' : Proxy} (h : s.Logged s') (c slot : ℕ) :
    Logged { s with vTransaction := Table.modify s.vTransaction slot Transaction.clear }
      (s'.refuseServerRequestIf false c slot) := by
  obtain ⟨_, _, _, _, rfl⟩ := h
  exact ⟨_, _, _, _, rfl⟩

/-- A request of the server that was queued keeps its slot. -/
lemma Logged.keepServerRequest {s s' : Proxy} (h : s.Logged s') (c slot : ℕ) :
    s.Logged (s'.refuseServerRequestIf true c slot) := h

/-- The message of a request of the server is made from the connection table. -/
lemma Logged.requestToClientMessage_eq {s s' : Proxy} (h : s.Logged s') (c : ℕ) (tag : RequestTag)
    (buff : Mem) (dpSize slot : ℕ) :
    s'.requestToClientMessage c tag buff dpSize slot =
      s.requestToClientMessage c tag buff dpSize slot := by
  rw [requestToClientMessage, requestToClientMessage, h.connection_eq]

/-- **What a request of the server for a client changes.** -/
theorem forwardServerRequest_outcome {s s' : Proxy}
    (h : Logged { s with requests := s.requests + 1 } s') (c id : ℕ) (client : ℤ) (buff : Mem)
    (dpSize : ℕ) (hcur : s.nextTransaction < s.vTransaction.length) :
    s.RequestOutcome ((s.client client).status = .online) (s.client client).sock
      (s.requestToClientMessage c (serverRequestTag c id client buff) buff dpSize)
      (fun t => t.fillServer (serverRequestTag c id client buff) (s.connection c).pos)
      Transaction.clear (s'.forwardServerRequest c id client buff dpSize) := by
  generalize htag : serverRequestTag c id client buff = tag
  delta forwardServerRequest
  simp only [htag]
  rcases h.findTransaction_cases hcur with
    ⟨slot, next, t, hslot, hfree, hnext, hfind, hlog⟩ | ⟨hnone, next, t, hnext, hfind, hlog⟩
  · rw [hfind]
    dsimp only
    have hfill : (s.withRequest next slot fun t => Transaction.fillServer { t with status := .used }
        tag (s.connection c).pos).Logged
          (t.fillServerTransaction slot tag (t.connection c).pos) := by
      obtain ⟨_, _, _, _, rfl⟩ := hlog
      unfold fillServerTransaction setTransaction withRequest
      rw [Table.modify_modify]
      exact ⟨_, _, _, _, rfl⟩
    generalize t.fillServerTransaction slot tag (t.connection c).pos = t at hfill ⊢
    rw [hfill.requestToClientMessage_eq]
    delta queueForClient
    rw [hfill.client_eq]
    rcases (hfill.trans (logged_uses _ (.client client))).queueIf
        ((s.client client).status = .online) (s.client client).sock
        (s.requestToClientMessage c tag buff dpSize slot) with
      ⟨hacc, hqueue, hfalse⟩ | ⟨hacc, hqueue, htrue⟩
    · have hrefuse := hqueue.refuseServerRequest c slot
      rw [← hfalse, withRequest, Table.modify_modify] at hrefuse
      exact .refused next slot hacc hslot hfree hnext hrefuse
    · have hkeep := hqueue.keepServerRequest c slot
      rw [← htrue] at hkeep
      exact .queued next slot hacc hslot hfree hnext hkeep
  · rw [hfind]
    exact .noSlot next hnone hnext (hlog.trans (logged_count _ _ _))

/-- **What a request of the server changes**: it is discarded, or forwarded to some client. -/
theorem serverRequest_outcome (s : Proxy) (c : ℕ) (buff : Mem) (dpSize : ℕ)
    (hcur : s.nextTransaction < s.vTransaction.length) :
    ∃ next, Logged { s with requests := s.requests + 1, nextClient := next }
        (s.serverRequest c buff dpSize) ∨
      ∃ client, RequestOutcome { s with nextClient := next }
        ((s.client client).status = .online) (s.client client).sock
        (s.requestToClientMessage c (serverRequestTag c s.requests client buff) buff dpSize)
        (fun t => t.fillServer (serverRequestTag c s.requests client buff) (s.connection c).pos)
        Transaction.clear (s.serverRequest c buff dpSize) := by
  have hreceive : Logged { s with requests := s.requests + 1 } (s.receiveServerRequest c) :=
    ⟨_, _, _, _, rfl⟩
  have hdiscard : Logged { s with requests := s.requests + 1 }
      ((s.receiveServerRequest c).discardServerRequest c) :=
    hreceive.trans (logged_count _ _ _)
  unfold serverRequest
  dsimp only
  split
  · rename_i userName _
    split
    · rename_i destHost _
      obtain ⟨next, hfor⟩ := (s.receiveServerRequest c).clientFor_logged userName destHost
      cases hclient : (s.receiveServerRequest c).clientFor userName destHost with
      | mk t found =>
        rw [hclient] at hfor
        have ht : Logged { s with requests := s.requests + 1, nextClient := next } t := by
          obtain ⟨_, _, _, _, rfl⟩ := hfor
          exact ⟨_, _, _, _, rfl⟩
        cases found with
        | some client =>
          exact ⟨next, Or.inr ⟨client, forwardServerRequest_outcome ht c s.requests client buff
            dpSize hcur⟩⟩
        | none => exact ⟨next, Or.inl (ht.trans (logged_count _ _ _))⟩
    · exact ⟨s.nextClient, Or.inl hdiscard⟩
    · exact ⟨s.nextClient, Or.inl hreceive⟩
  · exact ⟨s.nextClient, Or.inl hdiscard⟩
  · exact ⟨s.nextClient, Or.inl hreceive⟩

/-- The counters of an answer of the server are counters. -/
lemma reportAnswer_logged {s s' : Proxy} {c : ℕ} {slot : ℤ} {buff : Mem} {dpSize : ℕ}
    (h : s.reportAnswer c slot buff dpSize = some s') : s.Logged s' := by
  have hcounted : ∀ {t}, (if s.cerData.diaErrCountersReportRunning then
      match extractResultCodeAVP buff dpSize with
      | .found value => some (s.count c fun d => d.result (some value))
      | .notFound => some (s.count c fun d => d.result none)
      | _ => none
    else some s) = some t → s.Logged t := by
    intro t ht
    split at ht
    · split at ht
      · exact Option.some.inj ht ▸ logged_count _ _ _
      · exact Option.some.inj ht ▸ logged_count _ _ _
      · cases ht
    · exact Option.some.inj ht ▸ Logged.refl s
  unfold reportAnswer at h
  dsimp only at h
  split at h
  · split at h
    · exact hcounted h
    · exact hcounted h
    · cases h
  · exact hcounted h

/-- The answer of the server is made from its slot and the connection table. -/
lemma Logged.answerToClientMessage_eq {s s' : Proxy} (h : s.Logged s') (c : ℕ) (slot : ℤ)
    (buff : Mem) (dpSize : ℕ) :
    s'.answerToClientMessage c slot buff dpSize = s.answerToClientMessage c slot buff dpSize := by
  rw [answerToClientMessage, answerToClientMessage, answerToClient, answerToClient,
    h.connection_eq, h.transaction_eq]

/-- The end of an answer of the server that was not queued. -/
lemma Logged.settleRefused {s s' : Proxy} (h : s.Logged s') (c : ℕ) (client slot : ℤ)
    (answers : ℕ) :
    Logged { s.answered .requestToServer Transaction.clear answers slot with
        vClient := Table.modify s.vClient client fun d =>
          { d with waitingAnswer := d.waitingAnswer } }
      ((s'.noteAnswer false c client).settleServerAnswer slot answers) := by
  rw [Table.modify_id]
  obtain ⟨_, _, _, _, rfl⟩ := h
  exact ⟨_, _, _, _, rfl⟩

/-- The end of an answer of the server that was queued. -/
lemma Logged.settleQueued {s s' : Proxy} (h : s.Logged s') (c : ℕ) (client slot : ℤ)
    (answers : ℕ) :
    Logged { s.answered .requestToServer Transaction.clear answers slot with
        vClient := Table.modify s.vClient client fun d => { d with waitingAnswer := false } }
      ((s'.noteAnswer true c client).settleServerAnswer slot answers) := by
  obtain ⟨_, _, _, _, rfl⟩ := h
  exact ⟨_, _, _, _, rfl⟩

/-- **What an answer of the server changes.**  It is discarded, or its scan does not end; or it may
be queued for the client noted in its slot, which does not wait any more then, the slot is free,
and the request it answers is not waiting any more. -/
theorem serverAnswer_outcome (s : Proxy) (c : ℕ) (buff : Mem) (dpSize answers : ℕ) :
    s.Logged (s.serverAnswer c buff dpSize answers) ∨
    namedSlot buff ≤ s.vTransaction.length - 1 ∧
    ∃ (t : Proxy) (waiting : ClientConnection → Bool), s.QueueOutcome
        ((s.client (s.transaction (namedSlot buff)).client).status = .online)
        (s.client (s.transaction (namedSlot buff)).client).sock
        (s.answerToClientMessage c (namedSlot buff) buff dpSize) t ∧
      Logged { t.answered .requestToServer Transaction.clear answers (namedSlot buff) with
          vClient := Table.modify t.vClient (s.transaction (namedSlot buff)).client fun d =>
            { d with waitingAnswer := waiting d } }
        (s.serverAnswer c buff dpSize answers) := by
  have hreceive : s.Logged (s.receiveServerAnswer c) := logged_count _ _ _
  delta serverAnswer
  dsimp only
  by_cases hslot : namedSlot buff > (s.receiveServerAnswer c).vTransaction.length - 1
  · rw [if_pos hslot]
    exact Or.inl (hreceive.trans (logged_count _ _ _))
  · rw [if_neg hslot]
    cases hreport : ((s.receiveServerAnswer c).uses (.transaction (namedSlot buff))).reportAnswer c
        (namedSlot buff) buff dpSize with
    | none => exact Or.inl hreceive
    | some t =>
      refine Or.inr ⟨Nat.not_lt.mp hslot, ?_⟩
      have ht : s.Logged t :=
        (hreceive.trans (logged_uses _ _)).trans (reportAnswer_logged hreport)
      dsimp only
      rw [ht.transaction_eq, ht.answerToClientMessage_eq]
      delta queueForClient
      rw [ht.client_eq]
      generalize (s.transaction (namedSlot buff)).client = client
      rcases (ht.trans (logged_uses _ (.client client))).queueIf
          ((s.client client).status = .online) (s.client client).sock
          (s.answerToClientMessage c (namedSlot buff) buff dpSize) with
        ⟨hacc, hqueue, hfalse⟩ | ⟨hacc, hqueue, htrue⟩
      · refine ⟨s, ClientConnection.waitingAnswer, Or.inl ⟨hacc, rfl⟩, ?_⟩
        rw [hfalse]
        exact hqueue.settleRefused c client (namedSlot buff) answers
      · refine ⟨_, fun _ => false, Or.inr ⟨hacc, rfl⟩, ?_⟩
        rw [htrue]
        exact hqueue.settleQueued c client (namedSlot buff) answers

end Proxy

end DiaProxy
