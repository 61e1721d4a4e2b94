import StTools.Lib.Books
import StTools.DiaProxy.System
import StTools.DiaProxy.SlotLeak
import Mathlib.Data.UInt

/-!
# Conservation of requests

The requests of clients are counted when they are received, when they are sent to the server and
when they are discarded.  A request should be counted as sent or discarded once, and until then be
queued.  The proxy counts some requests twice: `send` may return `EAGAIN`, and the message stays at
the front of its queue though it is counted as discarded; and a request that a full queue refuses is
counted by `addMessageAsPending` and by its caller.  `traffic_throughout_iff` says that requests are
conserved in exactly the runs in which neither happens, as long as no clean-up resets the counters.
-/

namespace DiaProxy

/-! ## The books of a state -/

/-- What is noted about a client request: the server connection it is counted on, and its
number. -/
def Message.entry (m : Message) : ℤ × ℕ := (m.diaServerConnection, m.tag.id)

/-- The message is the request of a client. -/
def Message.ToServer (m : Message) : Prop := m.messageType = .requestToServer

instance (m : Message) : Decidable m.ToServer := inferInstanceAs (Decidable (_ = _))

/-- The client requests among queued messages. -/
def clientRequests (items : Multiset (ℤ × Message)) : Multiset (ℤ × ℕ) :=
  QueueMap.selected Message.ToServer Message.entry items

/-- How many client requests were counted as sent or discarded. -/
def Statistic.handled (d : Statistic) : UInt32 :=
  d.requestSentToServer + d.requestDiscardFromClient

/-- The books of the client requests. -/
def Proxy.books (s : Proxy) : Books ℤ UInt32 where
  next := s.requests
  received := s.received
  settled := s.counted
  stock := clientRequests s.mPendingToSend.items
  arrivals c := (s.statistic c).requestReceivedFromClient
  departures c := (s.statistic c).handled

/-- How many client requests for a server connection are queued. -/
def Proxy.queuedRequests (s : Proxy) (c : ℤ) : ℕ :=
  s.mPendingToSend.items.countP fun x => x.2.ToServer ∧ x.2.diaServerConnection = c

/-- The client requests are conserved: the counters of every server connection add up, and every
request that was received is counted as sent or discarded once, or is queued. -/
structure TrafficConserved (s : Proxy) : Prop where
  /-- The counters add up. -/
  counters : ∀ c : ℕ, c < s.vConnections.length →
    (s.statistic c).requestReceivedFromClient =
      (s.statistic c).requestSentToServer + (s.statistic c).requestDiscardFromClient +
        UInt32.ofNat (s.queuedRequests c)
  /-- Every request is counted once, or queued. -/
  once : ∀ x ∈ s.received,
    (s.counted : Multiset (ℤ × ℕ)).count x + (clientRequests s.mPendingToSend.items).count x = 1

/-- A message of a client is a request for the server. -/
def IsClientRequest (buff : Mem) : Prop :=
  buff.cmdCode ≠ cmdCodeCer ∧ buff.cmdCode ∉ serverRequestCodes

/-- The request of a client is refused by the full queue of a connected server connection. -/
def Proxy.RefusedByQueue (s : Proxy) (nr : ℕ) : Prop :=
  s.HasFreeTransaction ∧
    (s.connection (s.client nr).diaServerConnection).status = .connected ∧
      s.QueueFull (s.connection (s.client nr).diaServerConnection).sockId

/-- The event counts no client request twice. -/
def CountsOnce (s : Proxy) : Event → Prop
  | .send sock (.failed errno) _ =>
    errno = eagain → ∀ m, s.IsFront sock m → m.messageLen ≠ 0 → ¬ m.ToServer
  | .clientMessage _ nr _ _ buff toreceive _ =>
    IsClientRequest buff →
      ∀ t, s.selectConnection nr buff toreceive = some t → ¬ t.RefusedByQueue nr
  | _ => True

/-- Sound books are what is claimed. -/
lemma trafficConserved_of_sound {s : Proxy} (h : s.books.Sound 1) : TrafficConserved s where
  counters c _ := by
    have harrivals := h.balanced.arrivals_eq h.kept.tallied (c : ℤ)
    have htally : Books.tally s.books.stock (c : ℤ) = s.queuedRequests c := by
      unfold Books.tally Proxy.queuedRequests
      change (clientRequests s.mPendingToSend.items).countP _ = _
      unfold clientRequests QueueMap.selected
      rw [Multiset.countP_map, ← Multiset.countP_eq_card_filter, Multiset.countP_filter]
      apply Multiset.countP_congr rfl
      intro x _
      exact propext and_comm
    have hofNat : ∀ n : ℕ, n • (1 : UInt32) = UInt32.ofNat n := by
      intro n
      induction n with
      | zero => rw [zero_nsmul]; rfl
      | succ n ih => rw [succ_nsmul, ih, UInt32.ofNat_add]; rfl
    rw [htally, hofNat] at harrivals
    exact harrivals
  once x hx := h.balanced.count_eq_one h.kept.numbered (x := x) hx

/-! ## What is noted in the books -/

namespace Proxy

variable (s : Proxy)

/-- The counters of client requests are left alone. -/
def Quiet (f : Statistic → Statistic) : Prop :=
  ∀ d, (f d).requestReceivedFromClient = d.requestReceivedFromClient ∧ (f d).handled = d.handled

/-- Counting something else is not noted. -/
lemma books_count {f : Statistic → Statistic} (hf : Quiet f) (i : ℤ) :
    (s.count i f).books = s.books := by
  unfold books count
  congr 1
  · funext j
    dsimp only
    split_ifs
    · exact (hf _).1
    · rfl
  · funext j
    dsimp only
    split_ifs
    · exact (hf _).2
    · rfl

/-- A request that is counted as discarded is settled. -/
lemma books_discardRequest (c : ℤ) (id : ℕ) :
    (s.discardRequest c id).books = s.books.settle 1 (c, id) := by
  unfold books discardRequest count Books.settle
  congr 1
  · funext j
    dsimp only
    split_ifs <;> rfl
  · funext j
    dsimp only
    by_cases h : j = c
    · subst h
      rw [if_pos rfl, Function.update_self]
      exact (UInt32.add_assoc _ _ _).symm
    · rw [if_neg h, Function.update_of_ne h]

/-- A request that is received comes in. -/
lemma books_receiveRequest (nr : ℕ) :
    (s.receiveRequest nr).books = s.books.receive 1 (s.client nr).diaServerConnection := by
  unfold books receiveRequest count Books.receive
  congr 1
  · funext j
    dsimp only
    by_cases h : j = (s.client nr).diaServerConnection
    · subst h
      rw [if_pos rfl, Function.update_self]
    · rw [if_neg h, Function.update_of_ne h]
  · funext j
    dsimp only
    split_ifs <;> rfl

/-- A message that is counted as discarded is settled, if it is a client request. -/
lemma books_countDiscard (m : Message) :
    (s.countDiscard m).books = if m.ToServer then s.books.settle 1 m.entry else s.books := by
  split_ifs with hm
  · have hcounted : s.countedWith m = (m.diaServerConnection, m.tag.id) :: s.counted := if_pos hm
    have heq : s.countDiscard m = s.discardRequest m.diaServerConnection m.tag.id := by
      unfold countDiscard discardRequest
      rw [hcounted, show m.messageType = .requestToServer from hm]
      rfl
    rw [heq, books_discardRequest]
    rfl
  · have hquiet : Quiet fun c => c.discard m.messageType := by
      intro d
      unfold Message.ToServer at hm
      cases htype : m.messageType with
      | requestToServer => exact absurd htype hm
      | requestToClient => exact ⟨rfl, rfl⟩
      | answerToServer => exact ⟨rfl, rfl⟩
      | answerToClient => exact ⟨rfl, rfl⟩
    have hcounted : s.countedWith m = s.counted := if_neg hm
    unfold countDiscard
    rw [hcounted]
    exact s.books_count hquiet m.diaServerConnection

/-- A message that is counted as sent is settled, if it is a client request. -/
lemma books_countSent (m : Message) :
    (s.countSent m).books = if m.ToServer then s.books.settle 1 m.entry else s.books := by
  have hcounted : s.countedWith m =
      if m.ToServer then m.entry :: s.counted else s.counted := rfl
  unfold countSent
  rw [hcounted]
  split_ifs with hm
  · unfold books count Books.settle
    congr 1
    · funext j
      dsimp only
      rw [show m.messageType = .requestToServer from hm]
      split_ifs <;> rfl
    · funext j
      dsimp only
      rw [show m.messageType = .requestToServer from hm]
      by_cases h : j = m.diaServerConnection
      · subst h
        rw [if_pos rfl, show m.entry.1 = m.diaServerConnection from rfl, Function.update_self]
        exact add_right_comm _ _ _
      · rw [if_neg h, show m.entry.1 = m.diaServerConnection from rfl, Function.update_of_ne h]
  · have hquiet : Quiet fun c => c.send s.cerData.diaErrCountersReportRunning m.messageType := by
      intro d
      unfold Message.ToServer at hm
      cases htype : m.messageType with
      | requestToServer => exact absurd htype hm
      | requestToClient => exact ⟨rfl, rfl⟩
      | answerToServer => exact ⟨rfl, rfl⟩
      | answerToClient => exact ⟨rfl, rfl⟩
    exact s.books_count hquiet m.diaServerConnection

/-- A client request that is queued waits. -/
lemma books_enqueue {sock : ℤ} {queue : List Message} (m : Message)
    (h : s.mPendingToSend.lookup sock = some queue) :
    (s.enqueue sock m).books =
      if m.ToServer then s.books.withStock (m.entry ::ₘ s.books.stock) else s.books := by
  have hstock : (s.enqueue sock m).books.stock =
      if m.ToServer then m.entry ::ₘ s.books.stock else s.books.stock := by
    change clientRequests (s.mPendingToSend.push sock { m with serial := s.queued.length }).items =
      if m.ToServer then m.entry ::ₘ clientRequests s.mPendingToSend.items
      else clientRequests s.mPendingToSend.items
    unfold clientRequests
    split_ifs with hm
    · exact QueueMap.selected_push_of h hm
    · exact QueueMap.selected_push_of_not hm
  have heq : (s.enqueue sock m).books = s.books.withStock (s.enqueue sock m).books.stock := rfl
  rw [heq, hstock]
  split_ifs <;> rfl

/-- An attempt to queue something else than a client request is not noted. -/
lemma books_queueIf (up : Prop) [Decidable up] (sock : ℤ) {m : Message} (hm : ¬ m.ToServer) :
    (s.queueIf up sock m).1.books = s.books := by
  rcases s.queueIf_cases up sock m with ⟨-, -, hq⟩ | ⟨-, -, -, hq⟩ | ⟨⟨-, -, queue, hqueue⟩, hq⟩
  · rw [hq]
  · rw [hq, books_countDiscard, if_neg hm]
  · rw [hq, s.books_enqueue m hqueue, if_neg hm]

/-- Taking a slot is not noted. -/
lemma books_findTransaction : s.findTransaction.1.books = s.books := by
  unfold findTransaction
  dsimp only
  split <;> rfl

/-! ## What the handlers note -/

/-- The messages of a queue that is given up are settled, as far as they are client requests. -/
lemma books_foldl_cleanMessage (queue : List Message) :
    (queue.foldl cleanMessage s).books =
      s.books.settleAll 1 (QueueMap.selectedList Message.ToServer Message.entry queue) := by
  induction queue generalizing s with
  | nil => rfl
  | cons m rest ih =>
    have hclean : (s.cleanMessage m).books =
        if m.ToServer then s.books.settle 1 m.entry else s.books := books_countDiscard _ m
    rw [List.foldl_cons, ih, hclean]
    unfold QueueMap.selectedList
    split_ifs with hm
    · rw [List.filter_cons_of_pos (by simpa using hm)]
      rfl
    · rw [List.filter_cons_of_neg (by simpa using hm)]

/-- Giving a queue up is a proper entry. -/
lemma entry_cleanPendingMessages (sock : ℤ) :
    Books.Entry 1 s.books (s.cleanPendingMessages sock).books := by
  have hstock : s.books.stock =
      QueueMap.selectedList Message.ToServer Message.entry (s.queueOf sock) +
        clientRequests (s.mPendingToSend.closeQueue sock).items := QueueMap.selected_closeQueue
  have hbooks : (s.cleanPendingMessages sock).books =
      (s.books.settleAll 1 (QueueMap.selectedList Message.ToServer Message.entry
        (s.queueOf sock))).withStock (clientRequests (s.mPendingToSend.closeQueue sock).items) := by
    unfold cleanPendingMessages queueOf
    cases hlookup : s.mPendingToSend.lookup sock with
    | none =>
      rw [QueueMap.closeQueue_of_lookup_none hlookup]
      rfl
    | some queue =>
      dsimp only
      rw [books_foldl_cleanMessage, Option.getD_some, ← Books.settleAll_withStock]
      rfl
  rw [hbooks]
  exact .settle _ _ hstock

/-- Closing a client is a proper entry. -/
lemma entry_closeClient (thread nr : ℕ) :
    Books.Entry 1 s.books (s.closeClient thread nr).books := by
  have hrest : ∀ t : Proxy, ((((t.leaveConnection nr).resetClient nr).leaveThread thread
      nr).rebuildFds thread).books = t.books := by
    intro t
    obtain ⟨accesses, threads, heq, -⟩ :=
      (((t.leaveConnection nr).resetClient nr).leaveThread thread nr).rebuildFds_eq thread
    have hleave : (t.leaveConnection nr).books = t.books := by
      refine books_count t ?_ _
      exact fun d => ⟨rfl, rfl⟩
    rw [heq]
    exact hleave
  unfold closeClient
  dsimp only
  rw [hrest]
  split_ifs
  · exact ((s.markOffline nr).closeSocket nr).entry_cleanPendingMessages _
  · exact .same

/-- The end of a server connection is a proper entry. -/
lemma entry_cleanDiaConnection (c : ℕ) : Books.Entry 1 s.books (s.cleanDiaConnection c).books := by
  unfold cleanDiaConnection
  dsimp only
  split_ifs
  · exact s.entry_cleanPendingMessages _
  · exact .same

/-- An answer that a client sends for a slot is not noted. -/
lemma books_queueAnswer (slot : ℤ) (buff : Mem) (toreceive answers : ℕ) (inserted : Bool)
    (conIndex : ℤ) :
    (((((s.receiveAnswer slot).queueAnswerToServer slot buff toreceive).1.discardAnswerIf inserted
      conIndex).settleClientAnswer slot answers).books = s.books) := by
  have hreceive : (s.receiveAnswer slot).books = s.books := by
    refine books_count (s.uses (.transaction slot)) ?_ _
    exact fun d => ⟨rfl, rfl⟩
  have hqueue : ((s.receiveAnswer slot).queueAnswerToServer slot buff toreceive).1.books =
      s.books := by
    unfold queueAnswerToServer
    rw [books_queueIf _ _ _ (by intro h; cases h)]
    exact hreceive
  have hdiscard : ∀ t : Proxy, (t.discardAnswerIf inserted conIndex).books = t.books := by
    intro t
    unfold discardAnswerIf
    split_ifs
    · rfl
    · refine books_count t ?_ _
      exact fun d => ⟨rfl, rfl⟩
  exact (hdiscard _).trans hqueue

/-- The answer of a client is a proper entry: it closes the client, or notes nothing. -/
lemma entry_clientAnswer (thread nr : ℕ) (buff : Mem) (toreceive answers : ℕ) :
    Books.Entry 1 s.books (s.clientAnswer thread nr buff toreceive answers).1.books := by
  by_cases hslot : namedSlot buff > s.vTransaction.length - 1
  · unfold clientAnswer
    rw [if_pos hslot]
    exact s.entry_closeClient thread nr
  · rw [clientAnswer_of_le s thread nr toreceive answers hslot, books_queueAnswer]
    exact .same

/-- A client request that was received is queued, or refused: it is settled once, or twice if a full
queue refuses it. -/
lemma books_queueRequest {t : Proxy} {c : ℤ} (ht : t.books = s.books.receive 1 c) (nr slot : ℕ)
    {m : Message} (hm : m.ToServer) (hentry : m.entry = (c, s.requests)) :
    let queued := t.queueRequestToServer nr m
    let up := (t.connection (t.client nr).diaServerConnection).status = .connected
    let sock := (t.connection (t.client nr).diaServerConnection).sockId
    (¬ (up ∧ t.QueueFull sock) ∧
      Books.Entry 1 s.books (queued.1.refuseRequestIf queued.2 slot c s.requests).books) ∨
    ((up ∧ t.QueueFull sock) ∧ (queued.1.refuseRequestIf queued.2 slot c s.requests).books =
      ((s.books.receive 1 c).settle 1 (c, s.requests)).settle 1 (c, s.requests)) := by
  intro queued up sock
  have hfree : ∀ u : Proxy, (u.freeTransaction slot).books = u.books := fun _ => rfl
  have hqueued : queued =
      (t.uses (.connection (t.client nr).diaServerConnection)).queueIf up sock m := rfl
  rcases (t.uses (.connection (t.client nr).diaServerConnection)).queueIf_cases up sock m with
    ⟨-, hfull, hq⟩ | ⟨-, hup, hfull, hq⟩ | ⟨⟨-, hfull, queue, hqueue⟩, hq⟩
  · refine Or.inl ⟨hfull, ?_⟩
    rw [hqueued, hq, refuseRequestIf, if_neg Bool.false_ne_true, books_discardRequest, hfree]
    exact ht ▸ .refuse c
  · refine Or.inr ⟨⟨hup, hfull⟩, ?_⟩
    rw [hqueued, hq, refuseRequestIf, if_neg Bool.false_ne_true, books_discardRequest, hfree,
      books_countDiscard, if_pos hm, hentry]
    exact congrArg (fun b => (Books.settle 1 b (c, s.requests)).settle 1 (c, s.requests)) ht
  · refine Or.inl ⟨fun h => hfull h.2, ?_⟩
    rw [hqueued, hq, refuseRequestIf, if_pos rfl, books_enqueue _ m hqueue, if_pos hm, hentry]
    exact ht ▸ .store c

/-- The request of a client is a proper entry, unless a full queue refuses it: then it is settled
twice. -/
lemma books_clientRequest (nr sender counterE2e : ℕ) (buff : Mem) (toreceive : ℕ)
    (hcur : s.nextTransaction < s.vTransaction.length) :
    (¬ s.RefusedByQueue nr ∧
      Books.Entry 1 s.books (s.clientRequest nr sender counterE2e buff toreceive).1.books) ∨
    (s.RefusedByQueue nr ∧ ∃ c, (s.clientRequest nr sender counterE2e buff toreceive).1.books =
      ((s.books.receive 1 c).settle 1 (c, s.requests)).settle 1 (c, s.requests)) := by
  have hreceive := s.books_receiveRequest nr
  unfold clientRequest
  dsimp only
  rcases (s.receiveRequest nr).findTransaction_cases hcur with
    ⟨slot, next, hslot, hfree, -, hfind⟩ | ⟨hnone, next, -, hfind⟩
  · rw [hfind]
    dsimp only
    have hsome : s.HasFreeTransaction := ⟨slot, hslot, hfree⟩
    generalize ht : fillTransaction _ slot _ = t
    have hbooks : t.books = s.books.receive 1 (s.client nr).diaServerConnection := by
      rw [← ht]
      exact hreceive
    have hclient : (t.client nr).diaServerConnection = (s.client nr).diaServerConnection := by
      rw [← ht]
      rfl
    let m := t.requestToServerMessage nr counterE2e (s.requestTag nr sender s.requests buff) buff
      toreceive slot
    have hm : m.ToServer := rfl
    have hentry : m.entry = ((s.client nr).diaServerConnection, s.requests) := by
      rw [← hclient]
      rfl
    have hrefused : s.RefusedByQueue nr ↔
        (t.connection (t.client nr).diaServerConnection).status = .connected ∧
          t.QueueFull (t.connection (t.client nr).diaServerConnection).sockId := by
      rw [← ht]
      exact ⟨fun h => h.2, fun h => ⟨hsome, h⟩⟩
    rw [hrefused]
    rcases s.books_queueRequest hbooks nr slot hm hentry with hproper | ⟨hfull, htwice⟩
    · exact Or.inl hproper
    · exact Or.inr ⟨hfull, _, htwice⟩
  · rw [hfind]
    refine Or.inl ⟨fun h => hnone h.1, ?_⟩
    dsimp only
    rw [books_discardRequest]
    exact hreceive ▸ .refuse _

/-- A message of a client is a proper entry, unless it is a request that is counted twice. -/
lemma books_clientMessage (thread nr sender counterE2e : ℕ) (buff : Mem) (toreceive answers : ℕ)
    (hcur : s.nextTransaction < s.vTransaction.length) :
    let e := Event.clientMessage thread nr sender counterE2e buff toreceive answers
    let s' := (s.clientMessage thread nr sender counterE2e buff toreceive answers).1
    (CountsOnce s e ∧ Books.Entry 1 s.books s'.books) ∨
    (¬ CountsOnce s e ∧ ∃ c, s'.books =
      ((s.books.receive 1 c).settle 1 (c, s.requests)).settle 1 (c, s.requests)) := by
  intro e s'
  have hs' : s' = (s.clientMessage thread nr sender counterE2e buff toreceive answers).1 := rfl
  unfold clientMessage at hs'
  cases hselect : s.selectConnection nr buff toreceive with
  | none =>
    refine Or.inl ⟨fun _ t ht => ?_, ?_⟩
    · rw [hselect] at ht
      cases ht
    · rw [hs', hselect]
      exact .same
  | some t =>
    rw [hselect] at hs'
    dsimp only at hs'
    obtain ⟨hbooks, hrequests, hcur'⟩ : t.books = s.books ∧ t.requests = s.requests ∧
        t.nextTransaction < t.vTransaction.length := by
      obtain ⟨choice, accesses, rfl, -⟩ := selectConnection_eq hselect
      exact ⟨rfl, rfl, hcur⟩
    by_cases hcer : buff.cmdCode = cmdCodeCer
    · refine Or.inl ⟨fun hrequest => absurd hcer hrequest.1, ?_⟩
      rw [hs', if_pos hcer, ← hbooks]
      rcases t.clientCer_eq nr sender buff toreceive with heq | ⟨name, heq⟩
      · rw [heq]
        exact .same
      · rw [heq]
        exact .same
    · by_cases hcode : buff.cmdCode ∈ serverRequestCodes
      · refine Or.inl ⟨fun hrequest => absurd hcode hrequest.2, ?_⟩
        rw [hs', if_neg hcer, if_pos hcode, ← hbooks]
        exact t.entry_clientAnswer thread nr buff toreceive answers
      · rw [hs', if_neg hcer, if_neg hcode, ← hbooks, ← hrequests]
        rcases t.books_clientRequest nr sender counterE2e buff toreceive hcur' with
          ⟨hnot, hentry⟩ | ⟨hrefused, htwice⟩
        · refine Or.inl ⟨fun _ u hu => ?_, hentry⟩
          obtain rfl : t = u := Option.some.inj (hselect.symm.trans hu)
          exact hnot
        · exact Or.inr ⟨fun honce => honce ⟨hcer, hcode⟩ t hselect hrefused, htwice⟩

/-- The choice of the client for a request of the server is not noted. -/
lemma books_clientFor (userName destHost : List UInt8) :
    (s.clientFor userName destHost).1.books = s.books := by
  have hused : s.findUsedClient.1.books = s.books := by
    unfold findUsedClient
    split
    · next t i h =>
      have ht : t = s.findUsedClientWaitingAnswer.1 := by rw [h]
      rw [ht]
      rfl
    · next t h =>
      have ht : t = s.findUsedClientWaitingAnswer.1 := by rw [h]
      rw [ht]
      rfl
  unfold clientFor
  split
  · rfl
  · split
    · rfl
    · split
      · next t i h => rw [← hused, h]
      · next t h => rw [← hused, h]

/-- A request of the server that is discarded is not noted. -/
lemma books_discardServerRequest (c : ℕ) : (s.discardServerRequest c).books = s.books := by
  refine books_count s ?_ c
  exact fun d => ⟨rfl, rfl⟩

/-- A request of the server that is forwarded is not noted. -/
lemma books_forwardServerRequest (c id : ℕ) (client : ℤ) (buff : Mem) (dpSize : ℕ) :
    (s.forwardServerRequest c id client buff dpSize).books = s.books := by
  have hrefuse : ∀ (t : Proxy) (inserted : Bool) (slot : ℕ),
      (t.refuseServerRequestIf inserted c slot).books = t.books := by
    intro t inserted slot
    unfold refuseServerRequestIf
    split_ifs
    · rfl
    · exact t.books_discardServerRequest c
  have hfind := s.books_findTransaction
  unfold forwardServerRequest
  dsimp only
  split
  · next t h =>
    rw [h] at hfind
    exact (t.books_discardServerRequest c).trans hfind
  · next t slot h =>
    rw [h] at hfind
    rw [hrefuse]
    unfold queueForClient
    rw [books_queueIf _ _ _ (by intro h; cases h)]
    exact hfind

/-- Nothing but the number of a request of the server is noted. -/
lemma books_serverRequest (c : ℕ) (buff : Mem) (dpSize : ℕ) :
    (s.serverRequest c buff dpSize).books = s.books.skip := by
  have hreceive : (s.receiveServerRequest c).books = s.books.skip := by
    have hcount : (s.count c fun d =>
        { d with requestReceivedFromServer := d.requestReceivedFromServer + 1 }).books = s.books := by
      refine books_count s ?_ c
      exact fun d => ⟨rfl, rfl⟩
    exact congrArg Books.skip hcount
  unfold serverRequest
  dsimp only
  split
  · next userName _ =>
    split
    · next destHost _ =>
      have hfor := (s.receiveServerRequest c).books_clientFor userName destHost
      split
      · next t client h =>
        rw [h] at hfor
        rw [books_forwardServerRequest]
        exact hfor.trans hreceive
      · next t h =>
        rw [h] at hfor
        rw [books_discardServerRequest]
        exact hfor.trans hreceive
    · exact (books_discardServerRequest _ c).trans hreceive
    · exact hreceive
  · exact (books_discardServerRequest _ c).trans hreceive
  · exact hreceive

/-- Counting the result of an answer leaves the books as they are. -/
lemma books_counted {s t : Proxy} {c : ℕ} {buff : Mem} {dpSize : ℕ}
    (h : (if s.cerData.diaErrCountersReportRunning then
      match extractResultCodeAVP buff dpSize with
      | .found value => some (s.count c fun d => d.result (some value))
      | .notFound => some (s.count c fun d => d.result none)
      | _ => none
    else some s) = some t) : t.books = s.books := by
  have hresult : ∀ value : Option ℕ, Quiet fun d => d.result value := by
    intro value d
    unfold Statistic.result
    split
    · exact ⟨rfl, rfl⟩
    · exact ⟨rfl, rfl⟩
    · exact ⟨rfl, rfl⟩
    · split_ifs <;> exact ⟨rfl, rfl⟩
    · exact ⟨rfl, rfl⟩
  split at h
  · split at h
    · exact Option.some.inj h ▸ s.books_count (hresult _) c
    · exact Option.some.inj h ▸ s.books_count (hresult _) c
    · cases h
  · exact Option.some.inj h ▸ rfl

/-- The counters of an answer of the server are not noted. -/
lemma books_reportAnswer {s s' : Proxy} {c : ℕ} {slot : ℤ} {buff : Mem} {dpSize : ℕ}
    (h : s.reportAnswer c slot buff dpSize = some s') : s'.books = s.books := by
  unfold reportAnswer at h
  dsimp only at h
  split at h
  · split at h
    · exact books_counted h
    · exact books_counted h
    · cases h
  · exact books_counted h

/-- An answer of the server is not noted. -/
lemma books_serverAnswer (c : ℕ) (buff : Mem) (dpSize answers : ℕ) :
    (s.serverAnswer c buff dpSize answers).books = s.books := by
  have hreceive : (s.receiveServerAnswer c).books = s.books := by
    refine books_count s ?_ c
    exact fun d => ⟨rfl, rfl⟩
  have hdiscard : ∀ t : Proxy, (t.discardServerAnswer c).books = t.books := by
    intro t
    refine books_count t ?_ c
    exact fun d => ⟨rfl, rfl⟩
  have hnote : ∀ (t : Proxy) (inserted : Bool) (client slot : ℤ),
      ((t.noteAnswer inserted c client).settleServerAnswer slot answers).books = t.books := by
    intro t inserted client slot
    unfold noteAnswer
    split_ifs
    · rfl
    · exact hdiscard t
  delta serverAnswer
  dsimp only
  by_cases hslot : namedSlot buff > (s.receiveServerAnswer c).vTransaction.length - 1
  · rw [if_pos hslot, hdiscard]
    exact hreceive
  · rw [if_neg hslot]
    split
    · exact hreceive
    · next t hreport =>
      rw [hnote]
      unfold queueForClient
      rw [books_queueIf _ _ _ (by intro h; cases h)]
      exact (books_reportAnswer hreport).trans hreceive

/-- A message of a server is a proper entry. -/
lemma entry_serverMessage (c : ℕ) (buff : Mem) (dpSize answers : ℕ) :
    Books.Entry 1 s.books (s.serverMessage c buff dpSize answers).books := by
  unfold serverMessage
  split_ifs
  · exact .same
  · exact entry_cleanDiaConnection (s.setConnection c fun d => { d with status := .disconnected }) c
  · exact .same
  · rw [books_serverRequest]
    exact .skip
  · rw [books_serverAnswer]
    exact .same

/-- The front message of a queue is counted: a proper entry. -/
lemma entry_popFront {sock : ℤ} {m : Message} {b : Books ℤ UInt32} (hfront : s.IsFront sock m)
    (hb : b = (if m.ToServer then s.books.settle 1 m.entry else s.books).withStock
      (clientRequests (s.mPendingToSend.popFront sock).items)) : Books.Entry 1 s.books b := by
  obtain ⟨rest, hlookup⟩ := hfront
  rw [hb]
  split_ifs with hm
  · exact .settle [m.entry] _ (QueueMap.selected_popFront_of hlookup hm)
  · have hstock : clientRequests (s.mPendingToSend.popFront sock).items = s.books.stock :=
      QueueMap.selected_popFront_of_not hlookup hm
    rw [hstock]
    exact .same

/-- A pass of `sendPendingMessage` is a proper entry, unless `send` returns `EAGAIN` for a client
request: then a request that waits is settled. -/
lemma books_sendPass (sock : ℤ) (result : SendResult) (now : ℕ) :
    (CountsOnce s (.send sock result now) ∧
      Books.Entry 1 s.books (s.sendPass sock result now).1.books) ∨
    (¬ CountsOnce s (.send sock result now) ∧ ∃ x ∈ s.books.stock,
      (s.sendPass sock result now).1.books = s.books.settle 1 x) := by
  by_cases honce : CountsOnce s (.send sock result now)
  · refine Or.inl ⟨honce, ?_⟩
    rcases s.sendPass_cases sock result now with hsame | ⟨m, hfront, hpass⟩
    · rw [hsame]
      exact .same
    · have hsent : ∀ t : Proxy, (t.countSent m).books =
          if m.ToServer then t.books.settle 1 m.entry else t.books := fun t => t.books_countSent m
      rcases hpass with ⟨n, e, -, -, hp⟩ | ⟨-, -, hp⟩ | ⟨n, e, -, -, hp⟩ | ⟨hr, hp⟩ |
        ⟨e, -, -, -, hp⟩
      · rw [hp]
        refine s.entry_popFront hfront ?_
        rw [← hsent]
        rfl
      · rw [hp]
        refine s.entry_popFront hfront ?_
        rw [← hsent]
        rfl
      · obtain ⟨rest, hlookup⟩ := hfront
        have hstock : clientRequests (s.mPendingToSend.modifyFront sock fun m =>
            { m with bytesSent := m.bytesSent + n }).items = s.books.stock :=
          QueueMap.selected_modifyFront hlookup Iff.rfl rfl
        have hadvance : (s.advanceFront sock m n).books = s.books.withStock s.books.stock := by
          rw [← hstock]
          rfl
        rw [hp, hadvance]
        exact .same
      · -- The message stays at the front; it is not a client request.
        subst hr
        by_cases hlen : m.messageLen = 0
        · obtain ⟨rest, hlookup⟩ := hfront
          have hsame : s.sendPass sock (.failed eagain) now = (s, true) := by
            unfold sendPass
            rw [hlookup]
            exact if_pos hlen
          rw [hsame]
          exact .same
        · rw [hp, books_countDiscard, if_neg (honce rfl m hfront hlen)]
          exact .same
      · rw [hp]
        refine s.entry_popFront hfront ?_
        rw [← s.books_countDiscard m]
        rfl
  · refine Or.inr ⟨honce, ?_⟩
    cases result with
    | wrote n e => exact absurd trivial honce
    | failed e =>
      unfold CountsOnce at honce
      push Not at honce
      obtain ⟨rfl, m, ⟨rest, hlookup⟩, hlen, hm⟩ := honce
      have hpass : s.sendPass sock (.failed eagain) now = (s.countDiscard m, false) := by
        unfold sendPass
        rw [hlookup]
        dsimp only
        rw [if_neg hlen, if_pos rfl]
      refine ⟨m.entry, ?_, ?_⟩
      · change m.entry ∈ clientRequests s.mPendingToSend.items
        unfold clientRequests
        rw [QueueMap.selected_popFront_of hlookup hm]
        exact Multiset.mem_cons_self _ _
      · rw [hpass, books_countDiscard, if_pos hm]

/-- Accepting a client is not noted. -/
lemma books_acceptClient {s s' : Proxy} {sock : ℤ} (h : s.acceptClient sock = some s') :
    s'.books = s.books := by
  have hfind : ∀ (n index : ℕ) (t : Proxy), (t.findConnectionFrom n index).1.books = t.books := by
    intro n
    induction n with
    | zero => exact fun index t => rfl
    | succ n ih =>
      intro index t
      unfold findConnectionFrom
      dsimp only
      split_ifs
      · rfl
      · exact ih (index + 1) _
  have hopen : ∀ (t : Proxy) (k : ℤ),
      books { t with mPendingToSend := t.mPendingToSend.openQueue k } = t.books := by
    intro t k
    unfold books
    rw [QueueMap.items_openQueue]
  have hadd : ∀ (t : Proxy) (nr : ℕ), (t.addConnectionToClientThread nr).1.books = t.books := by
    intro t nr
    unfold addConnectionToClientThread
    split
    · rfl
    · dsimp only
      split_ifs
      · rfl
      · exact hopen _ _
  have hjoin : ∀ (t : Proxy) (c : ℕ), (t.joinConnection c).books = t.books := by
    intro t c
    refine books_count { t with supervision := { t.supervision with diaProxyState := .processing } }
      ?_ c
    exact fun d => ⟨rfl, rfl⟩
  unfold acceptClient at h
  split at h
  · exact Option.some.inj h ▸ rfl
  · next nr _ =>
    split at h
    · cases h
    · next t con hcon =>
      have ht : t.books = s.books := by
        have := hfind s.vConnections.length s.nextConnection s
        unfold findConnection at hcon
        rwa [hcon] at this
      dsimp only at h
      have hadded := hadd (t.storeClient nr sock con) nr
      generalize (t.storeClient nr sock con).addConnectionToClientThread nr = added at h hadded
      obtain ⟨u, thread⟩ := added
      dsimp only at h
      have hu : u.books = s.books := hadded.trans ht
      split_ifs at h
      · obtain rfl := Option.some.inj h
        exact (hjoin u con).trans hu
      · cases thread with
        | none => cases h
        | some thread =>
          obtain rfl := Option.some.inj h
          exact (hjoin _ con).trans hu

/-- Establishing a server connection is a proper entry. -/
lemma entry_connectDia (c : ℕ) (sock : ℤ) :
    Books.Entry 1 s.books (s.connectDia c sock).books := by
  unfold connectDia
  dsimp only
  split_ifs
  · exact entry_cleanDiaConnection (setConnection
      { s with descriptors := fun k => if k = sock then some (.server c) else s.descriptors k } c
      fun d => { d with sockId := sock, status := .connected }) c
  · have hopen : books { s with mPendingToSend := s.mPendingToSend.openQueue sock } = s.books := by
      unfold books
      rw [QueueMap.items_openQueue]
    exact hopen ▸ .same

end Proxy

/-! ## Every step -/

/-- **Step lemma.**  Without a clean-up every step is a proper entry, unless its event counts a request
twice: then an item that waits is settled, or a new item is settled twice. -/
theorem step_books {s s' : Proxy} {e : Event} (hs : Sized s) (hstep : step s e = some s')
    (hstart : e ≠ .startCleaning) (hstage : s.supervision.stage = none) :
    (CountsOnce s e ∧ Books.Entry 1 s.books s'.books) ∨
    (¬ CountsOnce s e ∧
      ((∃ x ∈ s.books.stock, s'.books = s.books.settle 1 x) ∨
        ∃ c, s'.books = ((s.books.receive 1 c).settle 1 (c, s.requests)).settle 1
          (c, s.requests))) := by
  cases e with
  | accept sock =>
    obtain ⟨-, haccept⟩ := Option.ite_none_right_eq_some.mp hstep
    exact Or.inl ⟨trivial, Proxy.books_acceptClient haccept ▸ .same⟩
  | closeClient thread nr =>
    obtain ⟨-, heq⟩ := Option.ite_none_right_eq_some.mp hstep
    obtain rfl := Option.some.inj heq
    exact Or.inl ⟨trivial, s.entry_closeClient thread nr⟩
  | clientMessage thread nr sender counterE2e buff toreceive answers =>
    obtain ⟨-, heq⟩ := Option.ite_none_right_eq_some.mp hstep
    obtain rfl := Option.some.inj heq
    rcases s.books_clientMessage thread nr sender counterE2e buff toreceive answers hs.cursor with
      hproper | ⟨hnot, htwice⟩
    · exact Or.inl hproper
    · exact Or.inr ⟨hnot, Or.inr htwice⟩
  | exitClientThread thread =>
    obtain ⟨⟨-, hempty⟩, heq⟩ := Option.ite_none_right_eq_some.mp hstep
    obtain rfl := Option.some.inj heq
    unfold Proxy.resetAndExit
    rw [hempty]
    exact Or.inl ⟨trivial, .same⟩
  | send sock result now =>
    obtain ⟨-, heq⟩ := Option.ite_none_right_eq_some.mp hstep
    obtain rfl := Option.some.inj heq
    rcases s.books_sendPass sock result now with hproper | ⟨hnot, htwice⟩
    · exact Or.inl hproper
    · exact Or.inr ⟨hnot, Or.inl htwice⟩
  | startDiaThread c =>
    obtain ⟨-, heq⟩ := Option.ite_none_right_eq_some.mp hstep
    obtain rfl := Option.some.inj heq
    exact Or.inl ⟨trivial, .same⟩
  | connect c sock =>
    obtain ⟨-, heq⟩ := Option.ite_none_right_eq_some.mp hstep
    obtain rfl := Option.some.inj heq
    exact Or.inl ⟨trivial, s.entry_connectDia c sock⟩
  | lose c =>
    obtain ⟨-, heq⟩ := Option.ite_none_right_eq_some.mp hstep
    obtain rfl := Option.some.inj heq
    exact Or.inl ⟨trivial, .same⟩
  | reconnect c =>
    obtain ⟨-, heq⟩ := Option.ite_none_right_eq_some.mp hstep
    obtain rfl := Option.some.inj heq
    exact Or.inl ⟨trivial, s.entry_cleanDiaConnection c⟩
  | serverMessage c buff dpSize answers =>
    obtain ⟨-, heq⟩ := Option.ite_none_right_eq_some.mp hstep
    obtain rfl := Option.some.inj heq
    exact Or.inl ⟨trivial, s.entry_serverMessage c buff dpSize answers⟩
  | watchClients =>
    obtain rfl := Option.some.inj hstep
    have hsame : s.watchClients.books = s.books := by
      unfold Proxy.watchClients
      split <;> rfl
    exact Or.inl ⟨trivial, hsame ▸ .same⟩
  | startCleaning => exact absurd rfl hstart
  | clean =>
    obtain ⟨stage, hsome, -⟩ := Option.map_eq_some_iff.mp hstep
    rw [hstage] at hsome
    cases hsome

/-- No clean-up was begun, so that no counter was reset. -/
def Proxy.NotReset (s : Proxy) : Prop := s.supervision.cleanUps = 0

/-- What is not reset was not reset before, and no clean-up is begun. -/
lemma notReset_of_step {s s' : Proxy} {e : Event} (hs : Sized s) (hstep : step s e = some s')
    (h : s'.NotReset) : s.NotReset ∧ e ≠ .startCleaning := by
  constructor
  · by_contra hreset
    refine supervision_of_step (P := fun x => x.cleanUps ≠ 0) (fun _ hx => hx) hs hstep ?_
      (fun _ => Nat.succ_ne_zero _) (fun stage _ => ?_) hreset h
    · rw [s.supervision_watchClients.1]
      exact hreset
    · rw [s.cleanUps_cleanPiece]
      exact hreset
  · rintro rfl
    obtain rfl := Option.some.inj (Option.ite_none_right_eq_some.mp hstep).2
    exact absurd h (Nat.succ_ne_zero _)

/-- While no clean-up is begun, none goes on. -/
lemma stage_of_step {s s' : Proxy} {e : Event} (hs : Sized s) (hstep : step s e = some s')
    (hstart : e ≠ .startCleaning) (h : s.NotReset ∧ s.supervision.stage = none) :
    s'.NotReset ∧ s'.supervision.stage = none := by
  refine supervision_of_step (P := fun x => x.cleanUps = 0 ∧ x.stage = none) (fun _ hx => hx) hs
    hstep ?_ (fun heq => absurd heq hstart) (fun stage hstage => ?_) h
  · rw [s.supervision_watchClients.1, s.supervision_watchClients.2]
    exact h
  · rw [h.2] at hstage
    cases hstage

/-- In the first state nothing has come in. -/
lemma sound_init (cerData : CerData) : (Proxy.init cerData).books.Sound 1 where
  kept :=
    { tallied := ⟨fun _ => (zero_nsmul _).symm, fun _ => (zero_nsmul _).symm⟩
      numbered := ⟨Multiset.nodup_zero, fun x hx => absurd hx (Multiset.notMem_zero x)⟩ }
  balanced := rfl

/-- **Requests are conserved exactly when none is counted twice**, as long as nothing is reset. -/
theorem traffic_throughout_iff (cerData : CerData) (es : List Event) :
    LabelledSystem.Throughout step (fun s => s.NotReset → TrafficConserved s) (Proxy.init cerData) es ↔
      LabelledSystem.Along step (fun s e => s.NotReset → CountsOnce s e) (Proxy.init cerData) es := by
  refine LabelledSystem.throughout_iff_along (I := fun s => Sized s ∧
    (s.NotReset → s.supervision.stage = none ∧ s.books.Sound 1)) ?_ ?_ ?_ ?_
  · rintro s e s' ⟨hs, h⟩ honce hstep
    refine ⟨(sized_isInvariant Limits.none).of_step hs (Limits.none_allows s e) hstep hs, ?_⟩
    intro hreset'
    obtain ⟨hreset, hstart⟩ := notReset_of_step hs hstep hreset'
    obtain ⟨hstage, hsound⟩ := h hreset
    refine ⟨(stage_of_step hs hstep hstart ⟨hreset, hstage⟩).2, ?_⟩
    rcases step_books hs hstep hstart hstage with ⟨-, hentry⟩ | ⟨hnot, -⟩
    · exact hsound.entry hentry
    · exact absurd (honce hreset) hnot
  · exact fun s h hreset => trafficConserved_of_sound (h.2 hreset).2
  · rintro s e s' ⟨hs, h⟩ hnot hstep hconserved
    obtain ⟨hreset, hnot⟩ := Classical.not_imp.mp hnot
    obtain ⟨hstage, hsound⟩ := h hreset
    have hstart : e ≠ .startCleaning := by
      rintro rfl
      exact hnot trivial
    have hreset' := (stage_of_step hs hstep hstart ⟨hreset, hstage⟩).1
    have honce : s'.books.CountedOnce := (hconserved hreset').once
    rcases step_books hs hstep hstart hstage with ⟨hcounts, -⟩ | ⟨-, ⟨x, hx, heq⟩ | ⟨c, heq⟩⟩
    · exact hnot hcounts
    · rw [heq] at honce
      exact hsound.not_countedOnce_settle hx honce
    · rw [heq] at honce
      exact s.books.not_countedOnce_twice c honce
  · exact ⟨sized_init cerData, fun _ => ⟨rfl, sound_init cerData⟩⟩

/-- A client request is queued, and `send` returns `EAGAIN` for it. -/
def busyServer : List Event := oneRequest ++ [.send 5 (.failed eagain) 0]

/-- The one request that was received is counted as discarded, and still queued. -/
theorem busyServer_not_conserved :
    ∃ s, LabelledSystem.exec step (Proxy.init fourSlots) busyServer = some s ∧
      (s.statistic 0).requestReceivedFromClient = 1 ∧
      (s.statistic 0).requestDiscardFromClient = 1 ∧ s.queuedRequests 0 = 1 ∧
      ¬ TrafficConserved s := by
  refine ⟨_, rfl, by decide, by decide, by decide, fun h => ?_⟩
  exact absurd (h.counters 0 (by decide)) (by decide)

end DiaProxy
