import StTools.DiaProxy.Endpoints

/-!
# References between the tables

The records of the proxy refer to each other by index: a client to a server connection, a
transaction slot to a client and to a server connection, a name to a client, a queued message to a
transaction slot and to a server connection.  A field that was never set, or was reset, is `-1`.
In every run each of these fields is `-1` or an index of its table; those of queued messages are
indices.
-/

namespace DiaProxy

/-! ## The invariant -/

/-- An index of a table with so many entries. -/
def Below (n : ℕ) (i : ℤ) : Prop := 0 ≤ i ∧ i < n

instance (n : ℕ) (i : ℤ) : Decidable (Below n i) := inferInstanceAs (Decidable (_ ∧ _))

/-- A field that refers to an entry of such a table, or to nothing. -/
def Reference (n : ℕ) (i : ℤ) : Prop := i = -1 ∨ Below n i

/-- A reference to something is an index. -/
lemma Reference.below_iff {n : ℕ} {i : ℤ} (h : Reference n i) : Below n i ↔ i ≠ -1 := by
  constructor
  · rintro ⟨h0, -⟩ rfl
    exact absurd h0 (by decide)
  · exact fun hne => h.resolve_left hne

/-- What a client refers to. -/
structure ClientRefs (d : CerData) (c : ClientConnection) : Prop where
  /-- The server connection of its requests. -/
  dia : Reference d.numberOfConnections c.diaServerConnection
  /-- The server connection for ISM applications. -/
  ism : Reference d.numberOfConnections c.ismServerConnection
  /-- The server connection for ESM applications. -/
  esm : Reference d.numberOfConnections c.esmServerConnection
  /-- The client slot itself. -/
  pos : Reference d.numberOfClients c.pos

/-- What a transaction slot refers to. -/
structure TransactionRefs (d : CerData) (t : Transaction) : Prop where
  /-- The client slot of the request. -/
  client : Reference d.numberOfClients t.client
  /-- The server connection that an answer of a client goes to. -/
  answerTo : Reference d.numberOfConnections t.answerToDiaServerConnection

/-- What a slot that was filled for a request refers to. -/
lemma TransactionRefs.fill {d : CerData} {t : Transaction} (h : TransactionRefs d t)
    {tag : RequestTag} (htag : Reference d.numberOfClients tag.client) :
    TransactionRefs d (t.fill tag) := ⟨htag, h.answerTo⟩

/-- What a queued message refers to. -/
structure MessageRefs (d : CerData) (m : Message) : Prop where
  /-- The server connection it is counted on. -/
  connection : Below d.numberOfConnections m.diaServerConnection
  /-- The transaction slot of a request. -/
  slot : m.IsRequest → Below d.numberOfTransactions m.transaction
  /-- An answer has none. -/
  answer : ¬ m.IsRequest → m.transaction = -1

/-- The references of a state. -/
structure References (s : Proxy) : Prop where
  /-- The sizes of the tables. -/
  transactions : s.vTransaction.length = s.cerData.numberOfTransactions
  clients : s.vClient.length = s.cerData.numberOfClients
  connections : s.vConnections.length = s.cerData.numberOfConnections
  /-- Clients. -/
  client : ∀ i, ClientRefs s.cerData (s.client i)
  /-- Transaction slots. -/
  transaction : ∀ i, TransactionRefs s.cerData (s.transaction i)
  /-- Names. -/
  session : ∀ name x, s.mSession name = some x → Reference s.cerData.numberOfClients x.client
  /-- Messages. -/
  message : ∀ x ∈ s.mPendingToSend.items, MessageRefs s.cerData x.2
  /-- The clients of a thread. -/
  thread : ∀ i, ∀ nr ∈ (s.clientThread i).conectionClients, Below s.cerData.numberOfClients nr
  /-- The cursor of the search for a client. -/
  cursor : s.nextClient < s.cerData.numberOfClients

/-- What a request refers to does not depend on how much of it was written. -/
lemma MessageRefs.of_route {d : CerData} {m m' : Message} (h : MessageRefs d m)
    (htype : m'.messageType = m.messageType) (hslot : m'.transaction = m.transaction)
    (hdia : m'.diaServerConnection = m.diaServerConnection) : MessageRefs d m' := by
  have hreq : m'.IsRequest ↔ m.IsRequest := by rw [Message.IsRequest, Message.IsRequest, htype]
  exact ⟨hdia ▸ h.connection, fun hm => hslot ▸ h.slot (hreq.mp hm),
    fun hm => hslot.trans (h.answer (mt hreq.mpr hm))⟩

/-- What an answer refers to. -/
lemma MessageRefs.of_answer {d : CerData} {m : Message} (hm : ¬ m.IsRequest)
    (hslot : m.transaction = -1) (hdia : Below d.numberOfConnections m.diaServerConnection) :
    MessageRefs d m :=
  ⟨hdia, fun h => absurd h hm, fun _ => hslot⟩

namespace References

variable {s s' : Proxy}

/-- An index of the table of server connections is one below their number. -/
lemma connected (h : References s) {i : ℤ} (hi : (s.connection i).status = .connected) :
    Below s.cerData.numberOfConnections i := by
  rw [← h.connections]
  by_contra hrange
  unfold Proxy.connection at hi
  rw [Table.read_of_not_inRange hrange] at hi
  cases hi

/-- The index that a server connection has. -/
lemma below_pos (h : References s) (hends : s.EndpointsOk) {c : ℕ} (hc : c < s.vConnections.length) :
    Below s.cerData.numberOfConnections (s.connection c).pos := by
  have hpos : (s.connection c).pos = c := hends.server_pos c hc
  rw [hpos, ← h.connections]
  exact ⟨Int.natCast_nonneg c, Int.ofNat_lt.mpr hc⟩

/-- A message that is waiting. -/
lemma of_queueOf (h : References s) {sock : ℤ} {m : Message} (hm : m ∈ s.queueOf sock) :
    MessageRefs s.cerData m := by
  unfold Proxy.queueOf at hm
  cases hlookup : s.mPendingToSend.lookup sock with
  | none =>
    rw [hlookup] at hm
    exact absurd hm List.not_mem_nil
  | some l =>
    rw [hlookup] at hm
    exact h.message (sock, m) (QueueMap.mem_items.mpr ⟨l, hlookup, hm⟩)

/-! ## Changes of one table -/

/-- Counting and logging keeps the references. -/
lemma logged (h : References s) (hlog : s.Logged s') : References s' := by
  obtain ⟨_, _, _, _, rfl⟩ := hlog
  exact { h with }

/-- The number of requests and the cursor of the search for a slot are no references. -/
lemma counted (h : References s) (next requests : ℕ) :
    References { s with nextTransaction := next, requests := requests } := { h with }

/-- A client record is changed. -/
lemma setClients (h : References s) (i : ℤ) {f : ClientConnection → ClientConnection}
    (hf : ∀ c, ClientRefs s.cerData c → ClientRefs s.cerData (f c)) :
    References { s with vClient := Table.modify s.vClient i f } :=
  { h with
    clients := (Table.length_modify _ _ _).trans h.clients
    client := fun j => Table.read_modify_of h.client hf j }

/-- A transaction record is changed. -/
lemma setTransactions (h : References s) (i : ℤ) {f : Transaction → Transaction}
    (hf : ∀ t, TransactionRefs s.cerData t → TransactionRefs s.cerData (f t)) :
    References { s with vTransaction := Table.modify s.vTransaction i f } :=
  { h with
    transactions := (Table.length_modify _ _ _).trans h.transactions
    transaction := fun j => Table.read_modify_of h.transaction hf j }

/-- A record of a server connection is changed. -/
lemma setConnections (h : References s) (i : ℤ) (f : DiaServerConnection → DiaServerConnection) :
    References { s with vConnections := Table.modify s.vConnections i f } :=
  { h with connections := (Table.length_modify _ _ _).trans h.connections }

/-- A record of a thread is changed: its clients were in its list before, or are in the table. -/
lemma setThreads (h : References s) (i : ℤ) {f : ClientThread → ClientThread}
    (hf : ∀ t, ∀ nr ∈ (f t).conectionClients,
      nr ∈ t.conectionClients ∨ Below s.cerData.numberOfClients nr) :
    References { s with vClientThread := Table.modify s.vClientThread i f } :=
  { h with
    thread := Table.read_modify_of (p := fun t : ClientThread =>
        ∀ nr ∈ t.conectionClients, Below s.cerData.numberOfClients nr) h.thread
      fun t ht nr hnr => (hf t nr hnr).elim (ht nr) id }

/-- Messages are taken off, or are put into a queue. -/
lemma setQueues (h : References s) {q : QueueMap ℤ Message}
    (hqueues : ∀ x ∈ q.items, MessageRefs s.cerData x.2) :
    References { s with mPendingToSend := q } :=
  { h with message := hqueues }

/-- A message is queued. -/
lemma enqueue (h : References s) (sock : ℤ) {m : Message} (hm : MessageRefs s.cerData m) :
    References (s.enqueue sock m) :=
  { h with
    message := fun x hx => by
      rcases QueueMap.mem_items_push hx with rfl | hx
      · exact hm.of_route rfl rfl rfl
      · exact h.message x hx }

/-- A message may be queued. -/
lemma queueOutcome (h : References s) {up : Prop} {sock : ℤ} {m : Message}
    (hout : s.QueueOutcome up sock m s') (hm : up → MessageRefs s.cerData m) : References s' := by
  rcases hout with ⟨-, rfl⟩ | ⟨hacc, rfl⟩
  · exact h
  · exact h.enqueue sock (hm hacc.1)

/-- A connection ends. -/
lemma tearDownIf (h : References s) (sock : ℤ) : References (s.tearDownIf sock) := by
  by_cases hsock : sock = -1
  · rw [hsock, Proxy.tearDownIf_neg_one]
    exact h
  · rw [Proxy.tearDownIf_of_ne s hsock]
    exact { h with
      transactions := (length_clearSlots _ _).trans h.transactions
      transaction := fun i => by
        have hkeep : ∀ g : Transaction → ℤ, (∀ t, g t.clear = g t) →
            g (Table.read (clearSlots s.vTransaction (s.queueOf sock)) {} i) =
              g (s.transaction i) := by
          intro g hg
          rw [Proxy.transaction, Table.read, Table.read, get_clearSlots]
          split_ifs
          · cases Table.get s.vTransaction i with
            | none => rfl
            | some t => exact hg t
          · rfl
        constructor
        · exact (hkeep Transaction.client fun _ => rfl).symm ▸ (h.transaction i).client
        · exact (hkeep Transaction.answerToDiaServerConnection fun _ => rfl).symm ▸
            (h.transaction i).answerTo
      message := fun x hx => h.message x (QueueMap.mem_items_closeQueue hx) }

/-! ## Changes of a step -/

/-- A request is handled. -/
lemma request (h : References s) {up : Prop} {socket : ℤ} {message : ℕ → Message}
    {fill drop : Transaction → Transaction}
    (hout : s.RequestOutcome up socket message fill drop s')
    (hmessage : up → ∀ slot < s.cerData.numberOfTransactions, MessageRefs s.cerData (message slot))
    (hfill : ∀ t, TransactionRefs s.cerData t → TransactionRefs s.cerData (fill t))
    (hdrop : ∀ t, TransactionRefs s.cerData t → TransactionRefs s.cerData (drop t)) :
    References s' := by
  have hused : ∀ t, TransactionRefs s.cerData t →
      TransactionRefs s.cerData (fill { t with status := .used }) :=
    fun t ht => hfill _ ⟨ht.client, ht.answerTo⟩
  cases hout with
  | noSlot next hnone hnext hs' => exact (h.counted next (s.requests + 1)).logged hs'
  | refused next slot hacc hslot hfree hnext hs' =>
    have hrefused := h.setTransactions slot fun t ht => hdrop _ (hused t ht)
    exact (hrefused.counted next (s.requests + 1)).logged hs'
  | queued next slot hacc hslot hfree hnext hs' =>
    rw [h.transactions] at hslot
    have hqueued := (h.enqueue socket (hmessage hacc.1 slot hslot)).setTransactions slot hused
    exact (hqueued.counted next (s.requests + 1)).logged hs'

/-- The choice of the server connection. -/
lemma selectConnection (h : References s) {nr : ℕ} {buff : Mem} {toreceive : ℕ}
    (hs : s.selectConnection nr buff toreceive = some s') : References s' := by
  obtain ⟨choice, accesses, rfl, hchoice⟩ := Proxy.selectConnection_eq hs
  have hset := h.setClients nr (f := fun c => { c with diaServerConnection := choice c })
    fun c hc => by
      refine ⟨?_, hc.ism, hc.esm, hc.pos⟩
      rcases hchoice with hown | hism | hesm
      · exact (hown c).symm ▸ hc.dia
      · exact (hism c).symm ▸ hc.ism
      · exact (hesm c).symm ▸ hc.esm
  exact hset.logged ⟨_, _, _, _, rfl⟩

/-- A name is registered. -/
lemma registerSession (h : References s) (nr sender : ℕ) (name : List UInt8) :
    References (s.registerSession nr sender name) :=
  { h with
    session := fun n x hx => by
      unfold Proxy.registerSession at hx
      dsimp only at hx
      split_ifs at hx
      · obtain rfl := Option.some.inj hx
        exact (h.client nr).pos
      · exact h.session n x hx }

/-- A client is closed. -/
lemma closeClient (h : References s) (thread nr : ℕ) : References (s.closeClient thread nr) := by
  obtain ⟨threads, hlog, -, hthreads⟩ := s.closeClient_eq thread nr
  have hclosed := (h.tearDownIf (s.client nr).sock).setClients nr fun c hc =>
    (⟨Or.inl rfl, hc.ism, hc.esm, Or.inl rfl⟩ : ClientRefs s.cerData (Proxy.closedClient c))
  refine References.logged ?_ hlog
  exact { hclosed with
    thread := fun i x hx => by
      rw [Proxy.clientThread, (hthreads i).2] at hx
      split_ifs at hx
      · exact h.thread i x (List.mem_of_mem_erase hx)
      · exact h.thread i x hx }

/-- An answer frees its slot. -/
lemma answered (h : References s) (type : MessageType) {f : Transaction → Transaction}
    (hf : ∀ t, TransactionRefs s.cerData t → TransactionRefs s.cerData (f t)) (answers : ℕ)
    (slot : ℤ) : References (s.answered type f answers slot) :=
  { h.setTransactions slot hf with }

/-- The search for a client finds a slot, and moves its cursor inside the table. -/
lemma findClient (h : References s) (test : ClientConnection → Bool) :
    References (s.findClient test).1 ∧
      ∀ i, (s.findClient test).2 = some i → i < s.cerData.numberOfClients := by
  have hcur : s.nextClient < s.vClient.length := h.clients ▸ h.cursor
  constructor
  · exact { h with cursor := h.clients ▸ RoundRobin.search_cursor_lt hcur }
  · exact fun i hi => h.clients ▸ (RoundRobin.search_eq_some hcur hi).1

/-- So does the search for a client that waits for an answer, or else for any client. -/
lemma findUsedClient (h : References s) :
    References s.findUsedClient.1 ∧
      ∀ i, s.findUsedClient.2 = some i → i < s.cerData.numberOfClients := by
  obtain ⟨hwaiting, hfound⟩ := h.findClient fun c => c.status = .online ∧ c.waitingAnswer
  unfold Proxy.findUsedClient Proxy.findUsedClientWaitingAnswer
  cases hfind : s.findClient fun c => c.status = .online ∧ c.waitingAnswer with
  | mk t found =>
    have hcer : t.cerData = s.cerData := by
      rw [show t = (s.findClient fun c => c.status = .online ∧ c.waitingAnswer).1 by rw [hfind]]
      rfl
    rw [hfind] at hwaiting hfound
    cases found with
    | some i => exact ⟨hwaiting, hfound⟩
    | none => exact hcer ▸ hwaiting.findClient fun c => c.status = .online

/-- The client chosen for a request of the server is a reference. -/
lemma clientFor (h : References s) (userName destHost : List UInt8) :
    References (s.clientFor userName destHost).1 ∧
      ∀ client, (s.clientFor userName destHost).2 = some client →
        Reference s.cerData.numberOfClients client := by
  unfold Proxy.clientFor
  split
  · rename_i session hsession
    refine ⟨h, fun client hclient => ?_⟩
    obtain rfl := Option.some.inj hclient
    exact h.session _ _ hsession
  · split
    · rename_i session hsession
      refine ⟨h, fun client hclient => ?_⟩
      obtain rfl := Option.some.inj hclient
      exact h.session _ _ hsession
    · obtain ⟨hused, hfound⟩ := h.findUsedClient
      cases hfind : s.findUsedClient with
      | mk t found =>
        rw [hfind] at hused hfound
        cases found with
        | some i =>
          refine ⟨hused, fun client hclient => ?_⟩
          obtain rfl := Option.some.inj hclient
          exact Or.inr ⟨Int.natCast_nonneg i, Int.ofNat_lt.mpr (hfound i rfl)⟩
        | none => exact ⟨hused, fun client hclient => by cases hclient⟩

/-- A request of the server is handled. -/
lemma serverRequest (h : References s) (hcur : s.nextTransaction < s.vTransaction.length) {c : ℕ}
    (hpos : Below s.cerData.numberOfConnections (s.connection c).pos) (buff : Mem) (dpSize : ℕ) :
    References (s.serverRequest c buff dpSize) := by
  have hreceive : Proxy.Logged { s with requests := s.requests + 1 } (s.receiveServerRequest c) :=
    ⟨_, _, _, _, rfl⟩
  have hreceived : References (s.receiveServerRequest c) :=
    (h.counted s.nextTransaction (s.requests + 1)).logged hreceive
  have hdiscard : ∀ {t : Proxy}, References t → References (t.discardServerRequest c) :=
    fun ht => ht.logged (Proxy.logged_count _ _ _)
  unfold Proxy.serverRequest
  dsimp only
  split
  · rename_i userName _
    split
    · rename_i destHost _
      obtain ⟨hfor, hclient⟩ := hreceived.clientFor userName destHost
      obtain ⟨next, hlog⟩ := (s.receiveServerRequest c).clientFor_logged userName destHost
      cases hchosen : (s.receiveServerRequest c).clientFor userName destHost with
      | mk t found =>
        rw [hchosen] at hfor hclient hlog
        have hbase : Proxy.Logged { s with requests := s.requests + 1, nextClient := next } t := by
          obtain ⟨_, _, _, _, rfl⟩ := hlog
          exact ⟨_, _, _, _, rfl⟩
        cases found with
        | none => exact hdiscard hfor
        | some client =>
          have hnext : next < s.cerData.numberOfClients := by
            obtain ⟨_, _, _, _, rfl⟩ := hbase
            exact hfor.cursor
          have hs : References { s with nextClient := next } := { h with cursor := hnext }
          refine hs.request (Proxy.forwardServerRequest_outcome hbase c s.requests client buff dpSize
            hcur) ?_ ?_ ?_
          · exact fun _ slot hslot => ⟨hpos, fun _ => ⟨Int.natCast_nonneg _, Int.ofNat_lt.mpr hslot⟩,
              fun hm => absurd (Or.inr rfl) hm⟩
          · exact fun t _ => ⟨hclient client rfl, Or.inr hpos⟩
          · exact fun t ht => ⟨ht.client, ht.answerTo⟩
    · exact hdiscard hreceived
    · exact hreceived
  · exact hdiscard hreceived
  · exact hreceived

/-- An answer of the server frees its slot, and its client does not wait any more. -/
lemma answeredClient (h : References s) {answers : ℕ} {slot client : ℤ}
    {waiting : ClientConnection → Bool}
    (hlog : Proxy.Logged { s.answered .requestToServer Transaction.clear answers slot with
      vClient := Table.modify s.vClient client fun d => { d with waitingAnswer := waiting d } } s') :
    References s' := by
  have hanswered := (h.answered .requestToServer (f := Transaction.clear)
    (fun t ht => ⟨ht.client, ht.answerTo⟩) answers slot).setClients client
      (f := fun d => { d with waitingAnswer := waiting d }) fun c hc => ⟨hc.dia, hc.ism, hc.esm, hc.pos⟩
  exact hanswered.logged hlog

/-- An answer of the server is handled. -/
lemma serverAnswer (h : References s) {c : ℕ}
    (hpos : Below s.cerData.numberOfConnections (s.connection c).pos) (buff : Mem)
    (dpSize answers : ℕ) : References (s.serverAnswer c buff dpSize answers) := by
  rcases s.serverAnswer_outcome c buff dpSize answers with hlog | ⟨-, t, waiting, hout, hlog⟩
  · exact h.logged hlog
  · have ht : References t :=
      h.queueOutcome hout fun _ => .of_answer (by rintro (hm | hm) <;> cases hm) rfl hpos
    exact ht.answeredClient hlog

/-- The cleanup of a server connection. -/
lemma cleanDiaConnection (h : References s) (c : ℕ) : References (s.cleanDiaConnection c) :=
  ((h.tearDownIf _).setConnections c fun d => { d with sockId := -1 }).logged
    (s.cleanDiaConnection_logged c)

/-- An answer of a client frees its slot. -/
lemma answeredAs (h : References s) {answers : ℕ} {slot : ℤ}
    (hlog : Proxy.Logged (s.answered .requestToClient (fun t => { t with status := .notUsed })
      answers slot) s') : References s' :=
  (h.answered .requestToClient (f := fun t => { t with status := .notUsed })
    (fun _ ht => ⟨ht.client, ht.answerTo⟩) answers slot).logged hlog

/-- An index of the connections survives the conversions of an answer of a client. -/
lemma answerConIndex (h : References s) {slot : ℤ}
    (hslot : (s.transaction slot).answerToDiaServerConnection ≠ -1) :
    s.answerConIndex slot = (s.transaction slot).answerToDiaServerConnection ∧
      toInt (s.answerConIndex slot) = (s.transaction slot).answerToDiaServerConnection := by
  obtain ⟨h0, hlt⟩ := (h.transaction slot).answerTo.below_iff.mpr hslot
  have hn := s.cerData.connections_lt
  have hindex : s.answerConIndex slot = (s.transaction slot).answerToDiaServerConnection :=
    Int.emod_eq_of_lt h0 (by omega)
  refine ⟨hindex, ?_⟩
  rw [hindex, toInt, if_pos (by omega)]

/-- Where no server connection is noted, the conversion gives no index. -/
lemma not_below_answerConIndex {slot : ℤ}
    (hslot : (s.transaction slot).answerToDiaServerConnection = -1) :
    ¬ Below s.cerData.numberOfConnections (s.answerConIndex slot) := by
  have hn := s.cerData.connections_lt
  rw [Proxy.answerConIndex, hslot]
  rintro ⟨-, hlt⟩
  have hmod : toUint (-1) = 4294967295 := by decide
  omega

/-- An answer of a client is handled. -/
lemma clientAnswer (h : References s) (thread nr : ℕ) (buff : Mem) (toreceive answers : ℕ) :
    References (s.clientAnswer thread nr buff toreceive answers).1 := by
  by_cases hslot : namedSlot buff > s.vTransaction.length - 1
  · unfold Proxy.clientAnswer
    rw [if_pos hslot]
    exact h.closeClient thread nr
  · obtain ⟨t, hout, hlog⟩ :=
      s.clientAnswer_outcome thread nr toreceive answers (Nat.not_lt.mp hslot)
    have ht : References t := by
      refine h.queueOutcome hout fun hup => .of_answer (by rintro (hm | hm) <;> cases hm) rfl ?_
      have hbelow := h.connected hup
      have hne : (s.transaction (namedSlot buff)).answerToDiaServerConnection ≠ -1 :=
        fun hnone => not_below_answerConIndex hnone hbelow
      change Below _ (toInt (s.answerConIndex (namedSlot buff)))
      rw [(h.answerConIndex hne).2, ← (h.answerConIndex hne).1]
      exact hbelow
    exact ht.answeredAs hlog

/-- A request of a client is handled. -/
lemma clientRequest (h : References s) (hcur : s.nextTransaction < s.vTransaction.length)
    (nr sender counterE2e : ℕ) (buff : Mem) (toreceive : ℕ) :
    References (s.clientRequest nr sender counterE2e buff toreceive).1 := by
  refine h.request (s.clientRequest_outcome nr sender counterE2e buff toreceive hcur) ?_ ?_ ?_
  · exact fun hup slot hslot => ⟨h.connected hup,
      fun _ => ⟨Int.natCast_nonneg _, Int.ofNat_lt.mpr hslot⟩, fun hm => absurd (Or.inl rfl) hm⟩
  · exact fun t ht => ht.fill (h.client nr).pos
  · exact fun t ht => ⟨ht.client, ht.answerTo⟩

/-- A message of a client is handled. -/
lemma clientMessage (h : References s) (hcur : s.nextTransaction < s.vTransaction.length)
    (thread nr sender counterE2e : ℕ) (buff : Mem) (toreceive answers : ℕ) :
    References (s.clientMessage thread nr sender counterE2e buff toreceive answers).1 := by
  unfold Proxy.clientMessage
  cases hselect : s.selectConnection nr buff toreceive with
  | none => exact h
  | some t =>
    have ht : References t := h.selectConnection hselect
    have hcur' : t.nextTransaction < t.vTransaction.length := by
      obtain ⟨choice, accesses, rfl, -⟩ := Proxy.selectConnection_eq hselect
      exact hcur
    dsimp only
    split_ifs
    · rcases t.clientCer_eq nr sender buff toreceive with heq | ⟨name, heq⟩
      · rw [heq]
        exact ht
      · rw [heq]
        exact ht.registerSession nr sender name
    · exact ht.clientAnswer thread nr buff toreceive answers
    · exact ht.clientRequest hcur' nr sender counterE2e buff toreceive

/-- A message of the server is handled. -/
lemma serverMessage (h : References s) (hcur : s.nextTransaction < s.vTransaction.length) {c : ℕ}
    (hpos : Below s.cerData.numberOfConnections (s.connection c).pos) (buff : Mem)
    (dpSize answers : ℕ) :
    References (s.serverMessage c buff dpSize answers) := by
  unfold Proxy.serverMessage
  split_ifs
  · exact h
  · exact References.cleanDiaConnection ((h.setConnections c fun d =>
      { d with status := .disconnected }).logged ⟨_, _, _, _, rfl⟩) c
  · exact h
  · exact h.serverRequest hcur hpos buff dpSize
  · exact h.serverAnswer hpos buff dpSize answers

/-- The front message is taken off. -/
lemma popFront (h : References s) {sock : ℤ} {m : Message} (hfront : s.IsFront sock m) :
    References { s with mPendingToSend := s.mPendingToSend.popFront sock } := by
  obtain ⟨rest, hlookup⟩ := hfront
  exact h.setQueues fun x hx => h.message x (QueueMap.mem_items_popFront hlookup hx)

/-- Noting when a request was sent changes no reference. -/
lemma noteRequestTime (h : References s) (m : Message) (now : ℕ) :
    References (s.noteRequestTime m now) := by
  unfold Proxy.noteRequestTime
  split_ifs
  · exact (h.setTransactions m.transaction (f := fun t => { t with requestTime := now })
      fun t ht => ⟨ht.client, ht.answerTo⟩).logged ⟨_, _, _, _, rfl⟩
  · exact h

/-- The front message is counted as sent and taken off. -/
lemma countSent (h : References s) {sock : ℤ} {m : Message} (hfront : s.IsFront sock m)
    (now : ℕ) : References { (s.countSent m).noteRequestTime m now with
      mPendingToSend := s.mPendingToSend.popFront sock } := by
  have hcounted : s.Logged (s.countSent m) := ⟨_, _, _, _, rfl⟩
  have hnoted := (h.logged hcounted).noteRequestTime m now
  exact hnoted.setQueues (h.popFront hfront).message

/-- A pass of `sendPendingMessage`. -/
lemma sendPass (h : References s) (sock : ℤ) (result : SendResult) (now : ℕ) :
    References (s.sendPass sock result now).1 := by
  rcases s.sendPass_cases sock result now with hsame | ⟨m, hfront, hpass⟩
  · rw [hsame]
    exact h
  · rcases hpass with ⟨n, e, -, -, hp⟩ | ⟨-, -, hp⟩ | ⟨n, e, -, -, hp⟩ | ⟨-, hp⟩ | ⟨e, -, -, -, hp⟩
    · rw [hp]
      exact { h.countSent hfront now with }
    · rw [hp]
      exact { h.countSent hfront now with }
    · rw [hp]
      obtain ⟨rest, hlookup⟩ := hfront
      have hqueues : References { s with
          mPendingToSend := s.mPendingToSend.modifyFront sock fun m =>
            { m with bytesSent := m.bytesSent + n } } := by
        refine h.setQueues fun x hx => ?_
        rcases QueueMap.mem_items_modifyFront hlookup hx with rfl | hx
        · exact (h.message _ (QueueMap.mem_items_front hlookup)).of_route rfl rfl rfl
        · exact h.message x hx
      exact { hqueues with }
    · rw [hp]
      exact h.logged ⟨_, _, _, _, rfl⟩
    · rw [hp]
      have hpop := h.popFront hfront
      unfold Proxy.dropFront
      split_ifs
      · exact (hpop.setConnections m.diaServerConnection fun c => { c with status := .broken }).logged ⟨_, _, _, _, rfl⟩
      · exact hpop.logged ⟨_, _, _, _, rfl⟩

/-- A client is accepted. -/
lemma acceptClient (h : References s) {sock : ℤ} (haccept : s.acceptClient sock = some s') :
    References s' := by
  rcases Proxy.acceptClient_cases h.clients haccept with
    ⟨-, rfl⟩ | ⟨nr, conFound, next, thread, hslot, hconnected, -, -, hlog⟩
  · exact h
  · have hnr : Below s.cerData.numberOfClients nr :=
      ⟨Int.natCast_nonneg nr, Int.ofNat_lt.mpr (Proxy.findSlot_eq_some hslot).1⟩
    have hcon : Reference s.cerData.numberOfConnections conFound := Or.inr (h.connected hconnected)
    have hclient := h.setClients nr (f := s.acceptedClient nr sock conFound) fun c _ => by
      refine ⟨hcon, ?_, hcon, Or.inr hnr⟩
      unfold Proxy.acceptedClient
      dsimp only
      split_ifs
      · exact Or.inr ⟨le_rfl, Int.ofNat_lt.mpr s.cerData.connections_pos⟩
      · exact hcon
    have hopened := hclient.setQueues (q := s.mPendingToSend.openQueue sock) fun x hx => by
      rw [QueueMap.items_openQueue] at hx
      exact h.message x hx
    have hjoined := hopened.setThreads thread (f := s.joinedThread nr sock) fun t x hx => by
      rcases List.mem_append.mp hx with hx | hx
      · exact Or.inl hx
      · exact Or.inr (List.mem_singleton.mp hx ▸ hnr)
    refine References.logged ?_ hlog
    exact { hjoined with }

/-- A server connection is established. -/
lemma connectDia (h : References s) (c : ℕ) (sock : ℤ) : References (s.connectDia c sock) := by
  have hset := h.setConnections c fun d => { d with sockId := sock, status := .connected }
  have hconnected : References (Proxy.setConnection { s with
      descriptors := fun k => if k = sock then some (.server c) else s.descriptors k } c
        fun d => { d with sockId := sock, status := .connected }) := { hset with }
  unfold Proxy.connectDia
  dsimp only
  split_ifs
  · exact hconnected.cleanDiaConnection c
  · refine hconnected.setQueues fun x hx => ?_
    rw [QueueMap.items_openQueue] at hx
    exact hconnected.message x hx

/-- The clients of the connections are counted. -/
lemma watchClients (h : References s) : References s.watchClients := by
  unfold Proxy.watchClients
  split <;> exact { h with }

/-- A piece of the clean-up is done. -/
lemma cleanPiece (h : References s) (stage : CleanStage) : References (s.cleanPiece stage) := by
  cases stage with
  | sessions => exact { h with session := fun _ _ hx => by cases hx }
  | transactions index =>
    dsimp only [Proxy.cleanPiece]
    split
    · have hfreed := h.setTransactions index (f := Transaction.freed) fun t ht => by
        unfold Transaction.freed
        split
        · exact ⟨ht.client, ht.answerTo⟩
        · exact ht
      exact { hfreed with }
    · exact { h with }
  | queues last =>
    rcases s.cleanPiece_queues last with ⟨sock, m, -, hfront, heq⟩ | ⟨stage, heq⟩
    · rw [heq]
      exact h.popFront hfront
    · rw [heq]
      exact { h with }
  | connections i =>
    dsimp only [Proxy.cleanPiece]
    split <;> exact { h with }

end References

/-! ## The invariant is kept -/

/-- Every step keeps the references. -/
theorem References.step {s s' : Proxy} {e : Event} (h : References s) (hs : Sized s)
    (hends : s.EndpointsOk) (hstep : step s e = some s') : References s' := by
  cases e with
  | accept sock => exact h.acceptClient (Option.ite_none_right_eq_some.mp hstep).2
  | closeClient thread nr =>
    obtain rfl := Option.some.inj (Option.ite_none_right_eq_some.mp hstep).2
    exact h.closeClient thread nr
  | clientMessage thread nr sender counterE2e buff toreceive answers =>
    obtain rfl := Option.some.inj (Option.ite_none_right_eq_some.mp hstep).2
    exact h.clientMessage hs.cursor thread nr sender counterE2e buff toreceive answers
  | exitClientThread thread =>
    obtain ⟨⟨-, hempty⟩, heq⟩ := Option.ite_none_right_eq_some.mp hstep
    obtain rfl := Option.some.inj heq
    unfold Proxy.resetAndExit
    rw [hempty]
    have hcleared := h.setThreads thread (f := fun t =>
      { t with fds := ∅, maxFd := -1, conectionClients := [], running := t.running - 1 })
      fun t nr hnr => absurd hnr List.not_mem_nil
    exact { hcleared with }
  | send sock result now =>
    obtain rfl := Option.some.inj (Option.ite_none_right_eq_some.mp hstep).2
    exact h.sendPass sock result now
  | startDiaThread c =>
    obtain rfl := Option.some.inj (Option.ite_none_right_eq_some.mp hstep).2
    exact (h.setConnections c fun d => { d with status := .connecting, sockId := -1 }).logged ⟨_, _, _, _, rfl⟩
  | connect c sock =>
    obtain rfl := Option.some.inj (Option.ite_none_right_eq_some.mp hstep).2
    exact h.connectDia c sock
  | lose c =>
    obtain rfl := Option.some.inj (Option.ite_none_right_eq_some.mp hstep).2
    exact (h.setConnections c fun d => { d with status := .toBeConnected }).logged ⟨_, _, _, _, rfl⟩
  | reconnect c =>
    obtain rfl := Option.some.inj (Option.ite_none_right_eq_some.mp hstep).2
    exact ((h.cleanDiaConnection c).setConnections c fun d => { d with status := .connecting }).logged ⟨_, _, _, _, rfl⟩
  | serverMessage c buff dpSize answers =>
    obtain ⟨⟨hc, -⟩, heq⟩ := Option.ite_none_right_eq_some.mp hstep
    obtain rfl := Option.some.inj heq
    exact h.serverMessage hs.cursor (h.below_pos hends hc) buff dpSize answers
  | watchClients =>
    obtain rfl := Option.some.inj hstep
    exact h.watchClients
  | startCleaning =>
    obtain rfl := Option.some.inj (Option.ite_none_right_eq_some.mp hstep).2
    exact { h with }
  | clean =>
    obtain ⟨stage, -, rfl⟩ := Option.map_eq_some_iff.mp hstep
    exact h.cleanPiece stage

/-- The references of the first state. -/
lemma references_init (cerData : CerData) : References (Proxy.init cerData) where
  transactions := List.length_replicate
  clients := List.length_replicate
  connections := by simp [Proxy.init]
  client i := by
    rw [Proxy.client, Proxy.init, Table.read_replicate]
    exact ⟨Or.inl rfl, Or.inl rfl, Or.inl rfl, Or.inl rfl⟩
  transaction i := by
    rw [Proxy.transaction, Proxy.init, Table.read_replicate]
    exact ⟨Or.inl rfl, Or.inl rfl⟩
  session _ _ h := by cases h
  message x hx := absurd hx (Multiset.notMem_zero x)
  thread i nr hnr := by
    rw [Proxy.clientThread, Proxy.init, Table.read_replicate] at hnr
    exact absurd hnr List.not_mem_nil
  cursor := cerData.clients_pos

end DiaProxy
