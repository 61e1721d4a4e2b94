import StTools.DiaProxy.Endpoints
import StTools.DiaProxy.RequestNotes
import StTools.DiaProxy.SlotLeak

/-!
# Answers of the server

An answer of the server is queued for the client slot that is noted in the transaction slot it
names.  Both slots are recycled: a client slot is given to a new connection while requests of the
old one are not answered yet, and a transaction slot is given to a new request while the old one is
not answered yet, after the clean-up or an answer of a client has freed it.  The main theorem says
that nothing else goes wrong: in a run in which neither happens, every answer that is queued goes to
the connection that asked, with the identifiers of its request.
-/

namespace DiaProxy

/-! ## Requests in flight -/

/-- The request waits in a queue, or was written and is not answered. -/
def RequestState.InFlight (v : RequestState) (m : Message) : Prop :=
  (m.IsRequest ∧ ∃ sock, (sock, m) ∈ v.queues.items) ∨ ∃ e ∈ v.sent, e.message = m

/-- The request is in flight in the state. -/
abbrev Proxy.InFlight (s : Proxy) (m : Message) : Prop := s.requestState.InFlight m

/-- A request of this type and number was written with this slot and is not answered. -/
def RequestState.Unanswered (v : RequestState) (type : MessageType) (id : ℕ) (slot : ℤ) : Prop :=
  ∃ e ∈ v.sent, e.message.messageType = type ∧ e.message.tag.id = id ∧
    e.message.transaction = slot

/-! ## What goes wrong, and what should hold -/

/-- The server answers a request that it got and did not answer yet, under the identifier that it was
given. -/
def ServerAnswersRequest (s : Proxy) : Event → Prop
  | .serverMessage _ buff _ answers =>
    IsServerAnswer buff → s.requestState.Unanswered .requestToServer answers (namedSlot buff)
  | _ => True

/-- No request of a client that is in flight was given this transaction slot. -/
def RequestState.Unrouted (v : RequestState) (slot : ℤ) : Prop :=
  ∀ m, v.InFlight m → m.messageType = .requestToServer → m.transaction ≠ slot

/-- The slot that a new request would be given is not that of a client's request in flight. -/
def TakesUnrouted (s : Proxy) : Prop :=
  ∀ slot : ℕ, s.findTransaction.2 = some slot → s.requestState.Unrouted slot

/-- The event leaves the routes of answers alone: neither a client slot nor a transaction slot is
given away while a request of a client that it belongs to is in flight, and a message is handled for
the slot of the connection that sent it. -/
def KeepsRoutes (s : Proxy) : Event → Prop
  | .accept _ => ∀ nr, s.findSlot = some nr →
    ∀ m, s.InFlight m → m.messageType = .requestToServer → m.tag.client ≠ nr
  | .clientMessage _ nr sender _ buff _ _ =>
    (s.client nr).conn = some sender ∧
      (buff.cmdCode ≠ cmdCodeCer → buff.cmdCode ∉ serverRequestCodes → TakesUnrouted s)
  | .serverMessage _ buff _ _ => buff.cmdCode ∈ serverRequestCodes → TakesUnrouted s
  | _ => True

/-- An answer that is queued goes to the descriptor of the connection that sent the request, and
carries the identifiers of that request. -/
def AnswerReachesSender (s : Proxy) : Event → Prop
  | .serverMessage c buff dpSize answers =>
    IsServerAnswer buff → ∀ s' sock m, step s (.serverMessage c buff dpSize answers) = some s' →
      s'.queued = (sock, m) :: s.queued →
        ∃ e ∈ s.sent, e.message.messageType = .requestToServer ∧ e.message.tag.id = answers ∧
          s.descriptors sock = some (.client e.message.tag.origin) ∧
          m.buffer = ((buff.setEnd2end e.message.tag.end2end).setHop2hop
            e.message.tag.hopByHop).bytes dpSize
  | _ => True

/-- The limits under which the routes of answers are kept. -/
def routeLimits : Limits where
  take v slot := v.Unrouted slot
  give s nr := ∀ m, s.InFlight m → m.messageType = .requestToServer → m.tag.client ≠ nr
  handle conn sender := conn = some sender

/-- The conditions are the limits. -/
lemma routeLimits_allows {s : Proxy} {e : Event} (hroutes : KeepsRoutes s e) :
    routeLimits.Allows s e := by
  cases e with
  | accept sock => exact hroutes
  | closeClient thread nr => trivial
  | clientMessage thread nr sender counterE2e buff toreceive answers =>
    refine ⟨hroutes.1, fun _ _ => ?_, hroutes.2⟩
    split_ifs <;> trivial
  | exitClientThread thread => trivial
  | send sock result now => exact fun _ _ _ => trivial
  | startDiaThread c => trivial
  | connect c sock => exact fun _ => trivial
  | lose c => trivial
  | reconnect c => trivial
  | serverMessage c buff dpSize answers =>
    exact ⟨fun _ => trivial, fun _ _ => trivial, hroutes⟩
  | watchClients => trivial
  | startCleaning => trivial
  | clean => exact fun _ _ => ⟨trivial, fun _ _ _ _ => trivial⟩

/-! ## A request in flight knows its client -/

/-- Every request in flight in the one state was in flight in the other, but for what was written of
it. -/
def NoNewFlight (s s' : Proxy) : Prop :=
  ∀ m, s'.InFlight m → ∃ m', s.InFlight m' ∧ m'.route = m.route

/-- Messages with the same route are both requests or both none. -/
lemma isRequest_of_route {m m' : Message} (hroute : m'.route = m.route) :
    m'.IsRequest ↔ m.IsRequest := by
  have htype : m'.messageType = m.messageType := congrArg Prod.fst hroute
  rw [Message.IsRequest, Message.IsRequest, htype]

/-- What waits and what was written was in flight before. -/
lemma noNewFlight_of_items {s s' : Proxy}
    (hwaiting : ∀ x ∈ s'.mPendingToSend.items, ∃ y ∈ s.mPendingToSend.items,
      y.2.route = x.2.route)
    (hsent : ∀ e ∈ s'.sent, (∃ e' ∈ s.sent, e'.message = e.message) ∨
      e.message.IsRequest ∧ ∃ sock, (sock, e.message) ∈ s.mPendingToSend.items) :
    NoNewFlight s s' := by
  rintro m (⟨hm, sock, hitem⟩ | ⟨e, he, rfl⟩)
  · obtain ⟨y, hy, hroute⟩ := hwaiting _ hitem
    exact ⟨y.2, Or.inl ⟨(isRequest_of_route hroute).mpr hm, y.1, hy⟩, hroute⟩
  · rcases hsent e he with ⟨e', he', hmessage⟩ | hitem
    · exact ⟨e.message, Or.inr ⟨e', he', hmessage⟩, rfl⟩
    · exact ⟨e.message, Or.inl hitem, rfl⟩

/-- The end of a connection takes nothing off the ground. -/
lemma noNewFlight_tearDownIf (s : Proxy) (sock : ℤ) : NoNewFlight s (s.tearDownIf sock) := by
  by_cases hsock : sock = -1
  · rw [hsock, Proxy.tearDownIf_neg_one]
    exact fun m hm => ⟨m, hm, rfl⟩
  · rw [Proxy.tearDownIf_of_ne s hsock]
    refine noNewFlight_of_items ?_ fun e he => ?_
    · exact fun x hx => ⟨x, QueueMap.mem_items_closeQueue hx, rfl⟩
    · obtain ⟨e', he', rfl⟩ := List.mem_map.mp he
      refine Or.inl ⟨e', he', ?_⟩
      split_ifs <;> rfl

/-- The end of a connection changes no notes. -/
lemma notes_tearDownIf (s : Proxy) (sock i : ℤ) :
    ((s.tearDownIf sock).transaction i).notes = (s.transaction i).notes := by
  by_cases hsock : sock = -1
  · rw [hsock, Proxy.tearDownIf_neg_one]
  · rw [Proxy.tearDownIf_of_ne s hsock]
    exact notes_clearSlots _ _ i

/-- Taking the front message off takes nothing off the ground. -/
lemma noNewFlight_popFront {s s' : Proxy} {sock : ℤ} {m : Message} (hfront : s.IsFront sock m)
    (hqueues : s'.mPendingToSend = s.mPendingToSend.popFront sock)
    (hsent : ∀ e ∈ s'.sent, e ∈ s.sent ∨ m.IsRequest ∧ e.message = m) : NoNewFlight s s' := by
  obtain ⟨rest, hlookup⟩ := hfront
  refine noNewFlight_of_items (fun x hx => ?_) fun e he => ?_
  · rw [hqueues] at hx
    exact ⟨x, QueueMap.mem_items_popFront hlookup hx, rfl⟩
  · rcases hsent e he with he | ⟨hm, rfl⟩
    · exact Or.inl ⟨e, he, rfl⟩
    · exact Or.inr ⟨hm, sock, QueueMap.mem_items_front hlookup⟩

/-- A request in flight that has a client slot is of the connection that the slot was given to, and
was the last to be given its transaction slot. -/
structure ClientHeld (s : Proxy) : Prop where
  /-- A slot knows its index, or none. -/
  pos : ∀ i, (s.client i).pos = -1 ∨ (s.client i).pos = i
  /-- The client slot was not given to another connection. -/
  held : ∀ m, s.InFlight m → m.messageType = .requestToServer →
    m.tag.client = -1 ∨ (s.client m.tag.client).conn = some m.tag.origin
  /-- The transaction slot was not given to another request. -/
  kept : ∀ m, s.InFlight m → m.messageType = .requestToServer →
    (s.transaction m.transaction).taker = some m.tag.id

namespace ClientHeld

variable {s s' : Proxy}

/-- The tables are the same in what matters here, and nothing took off. -/
lemma fewer (h : ClientHeld s)
    (hpos : ∀ i, (s'.client i).pos = -1 ∨ (s'.client i).pos = (s.client i).pos)
    (hconn : ∀ i, (s'.client i).conn = (s.client i).conn)
    (hnotes : ∀ i, (s'.transaction i).notes = (s.transaction i).notes)
    (hflight : NoNewFlight s s') : ClientHeld s' where
  pos i := by
    rcases hpos i with hnone | hsame
    · exact Or.inl hnone
    · rw [hsame]
      exact h.pos i
  held m hm htype := by
    obtain ⟨m', hm', hroute⟩ := hflight m hm
    simp only [Message.route, Prod.mk.injEq] at hroute
    obtain ⟨htype', -, -, htag⟩ := hroute
    rw [hconn, ← htag]
    exact h.held m' hm' (htype'.trans htype)
  kept m hm htype := by
    obtain ⟨m', hm', hroute⟩ := hflight m hm
    simp only [Message.route, Prod.mk.injEq] at hroute
    obtain ⟨htype', -, hslot, htag⟩ := hroute
    rw [← hslot, ← htag]
    exact (congrArg Prod.fst (hnotes _)).trans (h.kept m' hm' (htype'.trans htype))

/-- The transaction slot of a new request is changed. -/
lemma modify (h : ClientHeld s) {slot : ℕ} (hunrouted : s.requestState.Unrouted slot)
    (f : Transaction → Transaction) :
    ClientHeld { s with vTransaction := Table.modify s.vTransaction slot f } where
  pos := h.pos
  held := h.held
  kept m hm htype := by
    have hread : Table.read (Table.modify s.vTransaction slot f) {} m.transaction =
        Table.read s.vTransaction {} m.transaction :=
      Table.read_modify_of_ne _ (hunrouted m hm htype).symm
    change (Table.read (Table.modify s.vTransaction slot f) {} m.transaction).taker = _
    rw [hread]
    exact h.kept m hm htype

/-- A request is noted with the client that it comes from. -/
lemma request {up : Prop} {socket : ℤ} {message : ℕ → Message}
    {fill drop : Transaction → Transaction} (h : ClientHeld s) (htake : TakesUnrouted s)
    (hout : s.RequestOutcome up socket message fill drop s')
    (hmessage : ∀ slot : ℕ, (message slot).messageType = .requestToServer →
      ((message slot).tag.client = -1 ∨
        (s.client (message slot).tag.client).conn = some (message slot).tag.origin) ∧
      (message slot).transaction = slot ∧ ∀ t, (fill t).taker = some (message slot).tag.id) :
    ClientHeld s' := by
  cases hout with
  | noSlot next hnone hnext hs' =>
    obtain ⟨_, _, _, _, rfl⟩ := hs'
    exact ⟨h.pos, h.held, h.kept⟩
  | refused next slot hacc hslot hfree hnext hs' =>
    obtain ⟨_, _, _, _, rfl⟩ := hs'
    have hmodified := h.modify (htake slot hfree.2) fun t => drop (fill { t with status := .used })
    exact ⟨hmodified.pos, hmodified.held, hmodified.kept⟩
  | queued next slot hacc hslot hfree hnext hs' =>
    obtain ⟨_, _, _, _, rfl⟩ := hs'
    have hmodified := h.modify (htake slot hfree.2) fun t => fill { t with status := .used }
    have hrange : Table.InRange s.vTransaction slot :=
      ⟨Int.natCast_nonneg slot, Int.ofNat_lt.mpr hslot⟩
    refine ⟨h.pos, ?_, ?_⟩
    · rintro m (⟨hm, sock, hitem⟩ | hsent) htype
      · rcases QueueMap.mem_items_push hitem with heq | hitem
        · obtain ⟨-, rfl⟩ := Prod.mk.inj heq
          exact (hmessage slot htype).1
        · exact h.held m (Or.inl ⟨hm, sock, hitem⟩) htype
      · exact h.held m (Or.inr hsent) htype
    · rintro m (⟨hm, sock, hitem⟩ | hsent) htype
      · rcases QueueMap.mem_items_push hitem with heq | hitem
        · -- The new request is the last that was given the slot.
          obtain ⟨-, rfl⟩ := Prod.mk.inj heq
          obtain ⟨-, hplace, hfill⟩ := hmessage slot htype
          change (Table.read (Table.modify s.vTransaction slot _) {}
            (message slot).transaction).taker = some (message slot).tag.id
          rw [hplace, Table.read_modify_self _ hrange, hfill]
        · exact hmodified.kept m (Or.inl ⟨hm, sock, hitem⟩) htype
      · exact hmodified.kept m (Or.inr hsent) htype

end ClientHeld

/-- Requests in flight know their clients as long as routes are kept. -/
theorem clientHeld_isInvariant : IsInvariant ClientHeld routeLimits where
  logged := by
    rintro s s' h ⟨_, _, _, _, rfl⟩
    exact ⟨h.pos, h.held, h.kept⟩
  client := by
    intro s nr choice waiting h
    refine h.fewer (fun i => Or.inr ?_) (fun i => ?_) (fun _ => rfl) fun m hm => ⟨m, hm, rfl⟩
    · refine Table.read_modify_field ClientConnection.pos ?_
      exact fun _ => rfl
    · refine Table.read_modify_field ClientConnection.conn ?_
      exact fun _ => rfl
  register _ _ _ _ _ h := ⟨h.pos, h.held, h.kept⟩
  cursor _ h := ⟨h.pos, h.held, h.kept⟩
  closeClient := by
    intro s thread nr threads _ _ h
    refine h.fewer (fun i => ?_) (fun i => EndpointsInv.conn_closeClient nr i)
      (notes_tearDownIf s _) (noNewFlight_tearDownIf s _)
    change (Table.read (Table.modify s.vClient nr _) {} i).pos = -1 ∨
      (Table.read (Table.modify s.vClient nr _) {} i).pos = _
    rw [Table.read_modify]
    split_ifs
    · exact Or.inl rfl
    · exact Or.inr rfl
  exitThread _ _ _ h := ⟨h.pos, h.held, h.kept⟩
  enqueue := by
    intro s sock m hm hslot h
    have hold : ∀ m', (s.enqueue sock m).InFlight m' → s.InFlight m' := by
      rintro m' (⟨hm', sock', hitem⟩ | hsent)
      · rcases QueueMap.mem_items_push hitem with heq | hitem
        · obtain ⟨-, rfl⟩ := Prod.mk.inj heq
          exact absurd hm' hm
        · exact Or.inl ⟨hm', sock', hitem⟩
      · exact Or.inr hsent
    exact ⟨h.pos, fun m' hm' => h.held m' (hold m' hm'), fun m' hm' => h.kept m' (hold m' hm')⟩
  answered := by
    intro s type requestTime answers slot _ h
    refine h.fewer (fun _ => Or.inr rfl) (fun _ => rfl) (fun i => ?_) (noNewFlight_of_items ?_ ?_)
    · refine Table.read_modify_field Transaction.notes ?_
      exact fun _ => rfl
    · exact fun x hx => ⟨x, hx, rfl⟩
    · exact fun e he => Or.inl ⟨e, List.mem_of_mem_filter he, rfl⟩
  clientRequest := by
    intro s s' nr sender counterE2e buff toreceive _ hconn htake hout h
    refine h.request htake hout fun slot _ => ⟨?_, rfl, fun _ => rfl⟩
    change (s.client nr).pos = -1 ∨ (s.client (s.client nr).pos).conn = some sender
    rcases h.pos nr with hnone | hpos
    · exact Or.inl hnone
    · rw [hpos]
      exact Or.inr hconn
  discard h := ⟨h.pos, h.held, h.kept⟩
  serverRequest c client buff dpSize _ htake hout h :=
    h.request htake hout fun slot htype => by cases htype
  finish sock m now hfront _ h := by
    refine h.fewer (fun _ => Or.inr rfl) (fun _ => rfl) (Proxy.notes_noteRequestTime _ m now)
      (noNewFlight_popFront hfront rfl ?_)
    intro e he
    change e ∈ (if m.IsRequest then _ else _) at he
    split_ifs at he with hm
    · rcases List.mem_cons.mp he with rfl | he
      · exact Or.inr ⟨hm, rfl⟩
      · exact Or.inl he
    · exact Or.inl he
  advance sock m n hfront h := by
    obtain ⟨rest, hlookup⟩ := hfront
    refine h.fewer (fun _ => Or.inr rfl) (fun _ => rfl) (fun _ => rfl) (noNewFlight_of_items ?_ ?_)
    · intro x hx
      have hitem := QueueMap.mem_items_front hlookup
      rcases QueueMap.mem_items_modifyFront hlookup hx with rfl | hx
      · exact ⟨_, hitem, rfl⟩
      · exact ⟨x, hx, rfl⟩
    · exact fun e he => Or.inl ⟨e, he, rfl⟩
  skip sock m now hfront _ h :=
    h.fewer (fun _ => Or.inr rfl) (fun _ => rfl) (Proxy.notes_noteRequestTime _ m now)
      (noNewFlight_popFront hfront rfl fun e he => Or.inl he)
  drop sock m hfront _ h :=
    h.fewer (fun _ => Or.inr rfl) (fun _ => rfl) (fun _ => rfl)
      (noNewFlight_popFront hfront rfl fun e he => Or.inl he)
  connection _ _ h := ⟨h.pos, h.held, h.kept⟩
  startDia _ _ h := ⟨h.pos, h.held, h.kept⟩
  cleanDia _ _ h :=
    h.fewer (fun _ => Or.inr rfl) (fun _ => rfl) (notes_tearDownIf _ _) (noNewFlight_tearDownIf _ _)
  connect _ _ _ _ _ h := ⟨h.pos, h.held, h.kept⟩
  openQueue sock h := by
    refine h.fewer (fun _ => Or.inr rfl) (fun _ => rfl) (fun _ => rfl) (noNewFlight_of_items ?_ ?_)
    · intro x hx
      change x ∈ (QueueMap.openQueue _ sock).items at hx
      rw [QueueMap.items_openQueue] at hx
      exact ⟨x, hx, rfl⟩
    · exact fun e he => Or.inl ⟨e, he, rfl⟩
  accept := by
    intro s nr conFound next thread sock _ _ _ _ hgive h
    refine ⟨fun i => ?_, fun m hm htype => ?_, h.kept⟩
    · change (Table.read (Table.modify s.vClient nr _) {} i).pos = -1 ∨
        (Table.read (Table.modify s.vClient nr _) {} i).pos = i
      rw [Table.read_modify]
      split_ifs with hi
      · exact Or.inr hi.1
      · exact h.pos i
    · have hne : (nr : ℤ) ≠ m.tag.client := fun heq => hgive m hm htype heq.symm
      change m.tag.client = -1 ∨
        (Table.read (Table.modify s.vClient nr _) {} m.tag.client).conn = some m.tag.origin
      rw [Table.read_modify_of_ne _ hne]
      exact h.held m hm htype
  processing h := ⟨h.pos, h.held, h.kept⟩
  supervise _ _ h := ⟨h.pos, h.held, h.kept⟩
  forget h := ⟨h.pos, h.held, h.kept⟩
  freed index h :=
    h.fewer (fun _ => Or.inr rfl) (fun _ => rfl) (notes_freed _ index) fun m hm => ⟨m, hm, rfl⟩
  purge sock m hfront _ h :=
    h.fewer (fun _ => Or.inr rfl) (fun _ => rfl) (fun _ => rfl)
      (noNewFlight_popFront hfront rfl fun e he => Or.inl he)

/-! ## Answers reach their senders -/

/-- What the routes of answers need. -/
structure RoutesOk (s : Proxy) : Prop where
  /-- The tables have their sizes. -/
  sized : Sized s
  /-- Clients own their descriptors. -/
  endpoints : s.EndpointsOk
  /-- Requests are noted. -/
  noted : s.Noted
  /-- Requests in flight know their clients, and their slots know them. -/
  held : ClientHeld s

/-- Steps that keep routes keep what they need. -/
lemma RoutesOk.of_step {s s' : Proxy} {e : Event} (h : RoutesOk s) (hL : routeLimits.Allows s e)
    (hstep : step s e = some s') : RoutesOk s' where
  sized := (sized_isInvariant _).of_step h.sized hL hstep h.sized
  endpoints := (endpointsOk_isInvariant _).of_step h.sized hL hstep h.endpoints
  noted := (noted_isInvariant _).of_step h.sized hL hstep h.noted
  held := clientHeld_isInvariant.of_step h.sized hL hstep h.held

/-- In the first state nothing is in flight. -/
lemma routesOk_init (cerData : CerData) : RoutesOk (Proxy.init cerData) where
  sized := sized_init cerData
  endpoints := endpointsOk_init cerData
  noted := noted_init cerData
  held := by
    have hclient : ∀ i, (Proxy.init cerData).client i = {} :=
      Table.read_replicate cerData.numberOfClients ({} : ClientConnection)
    have hnone : ∀ m, ¬ (Proxy.init cerData).InFlight m := by
      rintro m (⟨-, sock, hitem⟩ | ⟨e, he, -⟩)
      · exact absurd hitem (Multiset.notMem_zero _)
      · cases he
    exact ⟨fun i => Or.inl (by rw [hclient]), fun m hm => absurd hm (hnone m),
      fun m hm => absurd hm (hnone m)⟩

/-- An unanswered request is the last that took its slot. -/
lemma RoutesOk.notes {s : Proxy} (h : RoutesOk s) {e : Sent} (he : e ∈ s.sent)
    (htype : e.message.messageType = .requestToServer) :
    (s.transaction e.message.transaction).Notes e.message :=
  h.noted.notes_of_known (h.noted.sent e he) (Or.inl htype)
    (h.held.kept e.message (Or.inr ⟨e, he, rfl⟩) htype)

/-- A message that was queued by an attempt is the message that it was about. -/
lemma Proxy.QueueOutcome.queued_eq {s t : Proxy} {up : Prop} {socket sock : ℤ}
    {message m : Message} (hout : s.QueueOutcome up socket message t)
    (hqueued : t.queued = (sock, m) :: s.queued) :
    up ∧ sock = socket ∧ m = { message with serial := s.queued.length } := by
  rcases hout with ⟨-, rfl⟩ | ⟨hacc, rfl⟩
  · exact absurd hqueued.symm (List.cons_ne_self _ _)
  · obtain ⟨heq, -⟩ := List.cons.inj hqueued
    obtain ⟨rfl, rfl⟩ := Prod.mk.inj heq
    exact ⟨hacc.1, rfl, rfl⟩

/-- What is queued is not changed by counting and logging. -/
lemma Proxy.Logged.queued_eq {s s' : Proxy} (h : s.Logged s') : s'.queued = s.queued := by
  obtain ⟨_, _, _, _, rfl⟩ := h
  rfl

/-- An answer that is queued after the outcome of an attempt to queue it for a client. -/
lemma queued_of_outcome {s t s' : Proxy} {c : ℕ} {buff : Mem} {dpSize answers : ℕ} {slot : ℤ}
    {waiting : ClientConnection → Bool}
    (hout : s.QueueOutcome ((s.client (s.transaction slot).client).status = .online)
      (s.client (s.transaction slot).client).sock (s.answerToClientMessage c slot buff dpSize) t)
    (hlog : Proxy.Logged { t.answered .requestToServer Transaction.clear answers slot with
      vClient := Table.modify t.vClient (s.transaction slot).client fun d =>
        { d with waitingAnswer := waiting d } } s')
    {sock : ℤ} {m : Message} (hqueued : s'.queued = (sock, m) :: s.queued) :
    (s.client (s.transaction slot).client).status = .online ∧
      sock = (s.client (s.transaction slot).client).sock ∧
      m.buffer = (s.answerToClient slot buff).bytes dpSize := by
  rw [hlog.queued_eq] at hqueued
  obtain ⟨hup, hsock, rfl⟩ := hout.queued_eq hqueued
  exact ⟨hup, hsock, rfl⟩

/-- A message that is taken as an answer is handled as one. -/
lemma serverMessage_of_answer (s : Proxy) (c : ℕ) {buff : Mem} (dpSize answers : ℕ)
    (hanswer : IsServerAnswer buff) :
    s.serverMessage c buff dpSize answers = s.serverAnswer c buff dpSize answers := by
  obtain ⟨hcodes, hcode⟩ := hanswer
  simp only [List.mem_cons, List.not_mem_nil, or_false, not_or] at hcodes
  unfold Proxy.serverMessage
  rw [if_neg hcodes.1, if_neg hcodes.2.1, if_neg hcodes.2.2, if_neg hcode]

/-- An answer that is queued is queued for the client noted in its slot, which is online. -/
lemma queued_serverAnswer {s s' : Proxy} {c : ℕ} {buff : Mem} {dpSize answers : ℕ}
    (hanswer : IsServerAnswer buff) (hstep : step s (.serverMessage c buff dpSize answers) = some s')
    {sock : ℤ} {m : Message} (hqueued : s'.queued = (sock, m) :: s.queued) :
    (s.client (s.transaction (namedSlot buff)).client).status = .online ∧
      sock = (s.client (s.transaction (namedSlot buff)).client).sock ∧
      m.buffer = (s.answerToClient (namedSlot buff) buff).bytes dpSize := by
  obtain ⟨-, heq⟩ := Option.ite_none_right_eq_some.mp hstep
  obtain rfl := Option.some.inj heq
  rw [serverMessage_of_answer s c dpSize answers hanswer] at hqueued
  rcases s.serverAnswer_outcome c buff dpSize answers with hlog | ⟨-, t, waiting, hout, hlog⟩
  · -- The answer was discarded at once.
    rw [hlog.queued_eq] at hqueued
    exact absurd hqueued.symm (List.cons_ne_self _ _)
  · exact queued_of_outcome hout hlog hqueued

/-- An answer reaches the sender of its request when the routes are kept. -/
lemma RoutesOk.answerReachesSender {s : Proxy} {e : Event} (h : RoutesOk s)
    (hserver : ServerAnswersRequest s e) : AnswerReachesSender s e := by
  cases e with
  | serverMessage c buff dpSize answers =>
    intro hanswer s' sock m hstep hqueued
    obtain ⟨honline, rfl, hbuffer⟩ := queued_serverAnswer hanswer hstep hqueued
    obtain ⟨e, he, htype, hid, hslot⟩ := hserver hanswer
    have hnotes := h.notes he htype
    rw [hslot] at hnotes
    refine ⟨e, he, htype, hid, ?_, ?_⟩
    · -- The slot that is noted was not given to another connection.
      rw [hnotes.client] at honline ⊢
      obtain ⟨-, conn, hconn, hopen⟩ := (h.endpoints.client e.message.tag.client).online honline
      have hheld : (s.client e.message.tag.client).conn = some e.message.tag.origin := by
        rcases h.held.held e.message (Or.inr ⟨e, he, rfl⟩) htype with hnone | hheld
        · rw [hnone] at honline
          cases honline
        · exact hheld
      obtain rfl : conn = e.message.tag.origin := Option.some.inj (hconn.symm.trans hheld)
      exact hopen
    · rw [hbuffer, Proxy.answerToClient, hnotes.end2end, hnotes.hopByHop]
  | _ => trivial

/-- **Answers reach the connection that asked**, in a run that keeps the routes, when the server
answers requests that it got. -/
theorem answerReachesSender_along (cerData : CerData) {es : List Event}
    (hserver : LabelledSystem.Along step ServerAnswersRequest (Proxy.init cerData) es)
    (hroutes : LabelledSystem.Along step KeepsRoutes (Proxy.init cerData) es) :
    LabelledSystem.Along step AnswerReachesSender (Proxy.init cerData) es :=
  LabelledSystem.along_of_along (I := RoutesOk)
    (fun _ _ _ h hC hstep => h.of_step (routeLimits_allows hC.2) hstep)
    (fun _ _ h hC => h.answerReachesSender hC.1) (routesOk_init cerData) (hserver.and hroutes)

/-! ## A run that keeps the routes, and one that does not -/

/-- In a state without messages and without written requests nothing is in flight. -/
lemma not_inFlight {s : Proxy} (hitems : s.mPendingToSend.items = 0) (hsent : s.sent = [])
    (m : Message) : ¬ s.InFlight m := by
  rintro (⟨-, sock, hitem⟩ | ⟨e, he, -⟩)
  · change (sock, m) ∈ s.mPendingToSend.items at hitem
    rw [hitems] at hitem
    exact absurd hitem (Multiset.notMem_zero _)
  · change e ∈ s.sent at he
    rw [hsent] at he
    cases he

/-- The answer of the server reaches the client. -/
theorem answeredRequest_reachesSender :
    LabelledSystem.Along step AnswerReachesSender (Proxy.init fourSlots) answeredRequest := by
  refine answerReachesSender_along fourSlots ?_ ?_
  · rintro _ ⟨⟩
    refine ⟨trivial, ?_⟩
    rintro _ ⟨⟩
    refine ⟨trivial, ?_⟩
    rintro _ ⟨⟩
    refine ⟨trivial, ?_⟩
    rintro _ ⟨⟩
    refine ⟨trivial, ?_⟩
    rintro _ ⟨⟩
    refine ⟨trivial, ?_⟩
    exact fun _ _ => ⟨fun _ => ⟨_, List.mem_cons_self, rfl, rfl, rfl⟩, trivial⟩
  · rintro _ ⟨⟩
    refine ⟨trivial, ?_⟩
    rintro _ ⟨⟩
    refine ⟨trivial, ?_⟩
    rintro _ ⟨⟩
    refine ⟨fun nr _ m hm => absurd hm (not_inFlight rfl rfl m), ?_⟩
    rintro _ ⟨⟩
    refine ⟨⟨rfl, fun _ _ slot _ m hm => absurd hm (not_inFlight rfl rfl m)⟩, ?_⟩
    rintro _ ⟨⟩
    refine ⟨trivial, ?_⟩
    exact fun _ _ => ⟨fun hcode => absurd hcode (by decide), trivial⟩

/-- A client makes a request and leaves; another client is given its slot before the answer comes. -/
def lateAnswer : List Event :=
  oneRequest ++ [.send 5 (.wrote 20 0) 0, .closeClient 0 0, .accept 7,
    .serverMessage 0 (headerOnly 1 0) 20 0]

/-- The server answers the request that it got, and the answer is queued for the other client. -/
theorem lateAnswer_misrouted :
    LabelledSystem.Along step ServerAnswersRequest (Proxy.init fourSlots) lateAnswer ∧
      ¬ LabelledSystem.Along step AnswerReachesSender (Proxy.init fourSlots) lateAnswer := by
  constructor
  · rintro _ ⟨⟩
    refine ⟨trivial, ?_⟩
    rintro _ ⟨⟩
    refine ⟨trivial, ?_⟩
    rintro _ ⟨⟩
    refine ⟨trivial, ?_⟩
    rintro _ ⟨⟩
    refine ⟨trivial, ?_⟩
    rintro _ ⟨⟩
    refine ⟨trivial, ?_⟩
    rintro _ ⟨⟩
    refine ⟨trivial, ?_⟩
    rintro _ ⟨⟩
    refine ⟨trivial, ?_⟩
    exact fun _ _ => ⟨fun _ => ⟨_, List.mem_cons_self, rfl, rfl, rfl⟩, trivial⟩
  · intro h
    obtain ⟨-, h⟩ := h _ rfl
    obtain ⟨-, h⟩ := h _ rfl
    obtain ⟨-, h⟩ := h _ rfl
    obtain ⟨-, h⟩ := h _ rfl
    obtain ⟨-, h⟩ := h _ rfl
    obtain ⟨-, h⟩ := h _ rfl
    obtain ⟨-, h⟩ := h _ rfl
    obtain ⟨h, -⟩ := h _ rfl
    obtain ⟨e, he, -, -, hopen, -⟩ := h ⟨by decide, by decide⟩ _ _ _ rfl rfl
    obtain rfl := List.mem_singleton.mp he
    exact absurd hopen (by decide)

end DiaProxy
