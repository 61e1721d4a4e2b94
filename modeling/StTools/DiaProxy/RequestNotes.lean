import StTools.DiaProxy.RunRule

/-!
# What is noted about requests

The transaction record of a request keeps its identifiers and where its answer has to go.  As long
as the record was not filled for another request, these are the notes about the request, however
often the slot was freed in the meantime.  Every request that waits, or was written, was queued once
with the same slot and the same notes.
-/

namespace DiaProxy

/-! ## The invariant -/

/-- What identifies a queued message: all but what was written of it and its serial number. -/
def Message.route (m : Message) : MessageType × ℤ × ℤ × RequestTag :=
  (m.messageType, m.diaServerConnection, m.transaction, m.tag)

/-- What a transaction record keeps about the request that it was filled for. -/
def Transaction.notes (t : Transaction) : Option ℕ × ℤ × UInt32 × UInt32 × ℤ :=
  (t.taker, t.client, t.hopByHop, t.end2end, t.answerToDiaServerConnection)

/-- A slot that the clean-up frees keeps its notes. -/
lemma Transaction.freed_notes (t : Transaction) : t.freed.notes = t.notes := by
  unfold Transaction.freed
  split <;> rfl

/-- The record has the notes about the request. -/
structure Transaction.Notes (t : Transaction) (m : Message) : Prop where
  /-- The client slot that it came from or goes to. -/
  client : t.client = m.tag.client
  /-- Its hop-by-hop identifier. -/
  hopByHop : t.hopByHop = m.tag.hopByHop
  /-- Its end-to-end identifier. -/
  end2end : t.end2end = m.tag.end2end
  /-- The server connection that the answer goes to. -/
  answerTo : m.messageType = .requestToClient →
    t.answerToDiaServerConnection = m.diaServerConnection

/-- The requests ever queued are noted. -/
structure NotedInv (v : RequestState) (queued : List (ℤ × Message)) (requests : ℕ) : Prop where
  /-- Requests are numbered as they come. -/
  id_lt : ∀ x ∈ queued, x.2.IsRequest → x.2.tag.id < requests
  /-- A record that was last filled for a request has the notes about it. -/
  noted : ∀ x ∈ queued, x.2.IsRequest →
    (Table.read v.table {} x.2.transaction).taker = some x.2.tag.id →
      (Table.read v.table {} x.2.transaction).Notes x.2
  /-- What waits was queued. -/
  waiting : ∀ x ∈ v.queues.items, ∃ y ∈ queued, y.2.route = x.2.route
  /-- What was written was queued. -/
  sent : ∀ e ∈ v.sent, ∃ y ∈ queued, y.2.route = e.message.route

/-- The invariant of a state. -/
def Proxy.Noted (s : Proxy) : Prop := NotedInv s.requestState s.queued s.requests

/-- Messages with the same route have the same notes. -/
lemma Transaction.Notes.of_route {t : Transaction} {m m' : Message} (h : t.Notes m)
    (hroute : m.route = m'.route) : t.Notes m' := by
  simp only [Message.route, Prod.mk.injEq] at hroute
  obtain ⟨htype, hconnection, -, htag⟩ := hroute
  refine ⟨htag ▸ h.client, htag ▸ h.hopByHop, htag ▸ h.end2end, fun hm => ?_⟩
  rw [← hconnection]
  exact h.answerTo (htype.trans hm)

/-- Two records with the same notes. -/
lemma Transaction.Notes.of_notes {t t' : Transaction} {m : Message} (h : t.Notes m)
    (hnotes : t'.notes = t.notes) : t'.Notes m := by
  simp only [Transaction.notes, Prod.mk.injEq] at hnotes
  obtain ⟨-, hclient, hhop, hend, hanswer⟩ := hnotes
  exact ⟨hclient.trans h.client, hhop.trans h.hopByHop, hend.trans h.end2end,
    fun hm => hanswer.trans (h.answerTo hm)⟩

namespace NotedInv

variable {v v' : RequestState} {queued : List (ℤ × Message)} {requests : ℕ}

/-- A request that was queued, with the slot of another message of the same route. -/
lemma notes_of_known (h : NotedInv v queued requests) {m : Message}
    (hknown : ∃ y ∈ queued, y.2.route = m.route) (hm : m.IsRequest)
    (htaker : (Table.read v.table {} m.transaction).taker = some m.tag.id) :
    (Table.read v.table {} m.transaction).Notes m := by
  obtain ⟨y, hy, hroute⟩ := hknown
  have hroute' := hroute
  simp only [Message.route, Prod.mk.injEq] at hroute'
  obtain ⟨htype, -, hslot, htag⟩ := hroute'
  have hy' : y.2.IsRequest := by
    unfold Message.IsRequest
    rw [htype]
    exact hm
  rw [← hslot] at htaker ⊢
  exact (h.noted y hy hy' (htag ▸ htaker)).of_route hroute

/-- Less waits, less was written, and the records have the same notes. -/
lemma fewer (h : NotedInv v queued requests)
    (hnotes : ∀ i, (Table.read v'.table {} i).notes = (Table.read v.table {} i).notes)
    (hwaiting : ∀ x ∈ v'.queues.items, ∃ y ∈ v.queues.items, y.2.route = x.2.route)
    (hsent : ∀ e ∈ v'.sent, (∃ e' ∈ v.sent, e'.message.route = e.message.route) ∨
      ∃ y ∈ v.queues.items, y.2.route = e.message.route) :
    NotedInv v' queued requests where
  id_lt := h.id_lt
  noted x hx hm htaker := by
    have hsame := hnotes x.2.transaction
    refine (h.noted x hx hm ?_).of_notes hsame
    exact (congrArg Prod.fst hsame).symm.trans htaker
  waiting x hx := by
    obtain ⟨y, hy, hroute⟩ := hwaiting x hx
    obtain ⟨z, hz, hroute'⟩ := h.waiting y hy
    exact ⟨z, hz, hroute'.trans hroute⟩
  sent e he := by
    rcases hsent e he with ⟨e', he', hroute⟩ | ⟨y, hy, hroute⟩
    · obtain ⟨z, hz, hroute'⟩ := h.sent e' he'
      exact ⟨z, hz, hroute'.trans hroute⟩
    · obtain ⟨z, hz, hroute'⟩ := h.waiting y hy
      exact ⟨z, hz, hroute'.trans hroute⟩

/-- One more message is queued. -/
lemma enqueue (h : NotedInv v queued requests) {sock : ℤ} {m n : Message}
    (hroute : n.route = m.route) (hid : m.IsRequest → m.tag.id < requests)
    (hnoted : m.IsRequest → (Table.read v.table {} m.transaction).taker = some m.tag.id →
      (Table.read v.table {} m.transaction).Notes m)
    (hwaiting : ∀ x ∈ v'.queues.items, x = (sock, n) ∨ x ∈ v.queues.items)
    (htable : v'.table = v.table) (hsent : v'.sent = v.sent) :
    NotedInv v' ((sock, m) :: queued) requests where
  id_lt x hx hm := by
    rcases List.mem_cons.mp hx with rfl | hx
    · exact hid hm
    · exact h.id_lt x hx hm
  noted x hx hm := by
    rw [htable]
    rcases List.mem_cons.mp hx with rfl | hx
    · exact hnoted hm
    · exact h.noted x hx hm
  waiting x hx := by
    rcases hwaiting x hx with rfl | hx
    · exact ⟨(sock, m), List.mem_cons_self, hroute.symm⟩
    · obtain ⟨y, hy, hroute⟩ := h.waiting x hx
      exact ⟨y, List.mem_cons_of_mem _ hy, hroute⟩
  sent e he := by
    rw [hsent] at he
    obtain ⟨y, hy, hroute⟩ := h.sent e he
    exact ⟨y, List.mem_cons_of_mem _ hy, hroute⟩

/-- A record is filled for a new request. -/
lemma fill (h : NotedInv v queued requests) (slot : ℤ) {f : Transaction → Transaction}
    (hf : ∀ t, (f t).taker = some requests) :
    NotedInv { v with table := Table.modify v.table slot f } queued (requests + 1) where
  id_lt x hx hm := Nat.lt_succ_of_lt (h.id_lt x hx hm)
  noted x hx hm htaker := by
    dsimp only at htaker ⊢
    rw [Table.read_modify] at htaker ⊢
    split_ifs at htaker ⊢
    · -- The record is now about another request.
      rw [hf, Option.some.injEq] at htaker
      exact absurd (htaker ▸ h.id_lt x hx hm) (Nat.lt_irrefl _)
    · exact h.noted x hx hm htaker
  waiting := h.waiting
  sent := h.sent

/-- A number is given to a request that is discarded. -/
lemma skip (h : NotedInv v queued requests) : NotedInv v queued (requests + 1) :=
  ⟨fun x hx hm => Nat.lt_succ_of_lt (h.id_lt x hx hm), h.noted, h.waiting, h.sent⟩

end NotedInv

/-! ## The invariant is kept -/

/-- Freeing slots changes no notes. -/
lemma notes_clearSlots (ts : List Transaction) (queue : List Message) (i : ℤ) :
    (Table.read (clearSlots ts queue) {} i).notes = (Table.read ts {} i).notes := by
  rw [Table.read, Table.read, get_clearSlots]
  split_ifs
  · cases Table.get ts i <;> rfl
  · rfl

/-- The clean-up of a slot changes no notes. -/
lemma notes_freed (ts : List Transaction) (index : ℕ) (i : ℤ) :
    (Table.read (Table.modify ts index Transaction.freed) {} i).notes =
      (Table.read ts {} i).notes :=
  Table.read_modify_field Transaction.notes Transaction.freed_notes

namespace Proxy

variable {s s' : Proxy}

/-- The end of a connection keeps the notes. -/
lemma Noted.tearDownIf (h : s.Noted) (sock : ℤ) : (s.tearDownIf sock).Noted := by
  by_cases hsock : sock = -1
  · rw [hsock, tearDownIf_neg_one]
    exact h
  · rw [tearDownIf_of_ne s hsock]
    refine NotedInv.fewer h (notes_clearSlots _ _) ?_ ?_
    · exact fun x hx => ⟨x, QueueMap.mem_items_closeQueue hx, rfl⟩
    · intro e he
      obtain ⟨e', he', heq⟩ := List.mem_map.mp he
      refine Or.inl ⟨e', he', ?_⟩
      rw [← heq]
      split_ifs <;> rfl

/-- Taking the front message off keeps the notes. -/
lemma Noted.popFront (h : s.Noted) {sock : ℤ} {m : Message} (hfront : s.IsFront sock m)
    (hnotes : ∀ i, (Table.read s'.vTransaction {} i).notes =
      (Table.read s.vTransaction {} i).notes)
    (hqueues : s'.mPendingToSend = s.mPendingToSend.popFront sock)
    (hsent : ∀ e ∈ s'.sent, e ∈ s.sent ∨ e.message = m)
    (hqueued : s'.queued = s.queued) (hrequests : s'.requests = s.requests) : s'.Noted := by
  obtain ⟨rest, hlookup⟩ := hfront
  unfold Noted
  rw [hqueued, hrequests]
  refine NotedInv.fewer h hnotes ?_ ?_
  · intro x hx
    change x ∈ s'.mPendingToSend.items at hx
    rw [hqueues] at hx
    exact ⟨x, QueueMap.mem_items_popFront hlookup hx, rfl⟩
  · intro e he
    rcases hsent e he with he' | rfl
    · exact Or.inl ⟨e, he', rfl⟩
    · exact Or.inr ⟨_, QueueMap.mem_items_front hlookup, rfl⟩

/-- Noting when a request was sent changes no notes. -/
lemma notes_noteRequestTime (s : Proxy) (m : Message) (now : ℕ) (i : ℤ) :
    (Table.read (s.noteRequestTime m now).vTransaction {} i).notes =
      (Table.read s.vTransaction {} i).notes := by
  unfold noteRequestTime
  dsimp only
  split_ifs
  · refine Table.read_modify_field Transaction.notes ?_
    exact fun _ => rfl
  · rfl

/-- A request is noted. -/
lemma Noted.request {up : Prop} {socket : ℤ} {message : ℕ → Message}
    {fill drop : Transaction → Transaction} (h : s.Noted)
    (hout : s.RequestOutcome up socket message fill drop s')
    (hmessage : ∀ slot : ℕ, (message slot).transaction = slot ∧
      (message slot).tag.id = s.requests)
    (hfill : ∀ t, (fill t).taker = some s.requests) (hdrop : ∀ t, (drop t).taker = t.taker)
    (hnotes : ∀ t (slot : ℕ), (fill t).Notes (message slot)) : s'.Noted := by
  cases hout with
  | noSlot next hnone hnext hs' =>
    obtain ⟨_, _, _, _, rfl⟩ := hs'
    exact NotedInv.skip h
  | refused next slot hacc hslot hfree hnext hs' =>
    obtain ⟨_, _, _, _, rfl⟩ := hs'
    have htaker : ∀ t : Transaction, (drop (fill { t with status := .used })).taker =
        some s.requests := fun t => (hdrop _).trans (hfill _)
    exact NotedInv.fill h slot htaker
  | queued next slot hacc hslot hfree hnext hs' =>
    obtain ⟨_, _, _, _, rfl⟩ := hs'
    have hrange : Table.InRange s.vTransaction slot :=
      ⟨Int.natCast_nonneg slot, Int.ofNat_lt.mpr hslot⟩
    obtain ⟨hplace, hid⟩ := hmessage slot
    have htaker : ∀ t : Transaction, (fill { t with status := .used }).taker = some s.requests :=
      fun t => hfill _
    have hfilled := NotedInv.fill h slot htaker
    refine hfilled.enqueue (n := { message slot with serial := s.queued.length }) rfl ?_ ?_ ?_
      rfl rfl
    · exact fun _ => hid ▸ Nat.lt_succ_self _
    · intro _ _
      change (Table.read (Table.modify s.vTransaction slot _) {} (message slot).transaction).Notes _
      rw [hplace, Table.read_modify_self _ hrange]
      exact ⟨(hnotes _ slot).client, (hnotes _ slot).hopByHop, (hnotes _ slot).end2end,
        (hnotes _ slot).answerTo⟩
    · exact fun x hx => QueueMap.mem_items_push hx

end Proxy

/-- Requests are noted in every run. -/
theorem noted_isInvariant (L : Limits) : IsInvariant Proxy.Noted L where
  logged := by
    rintro s s' h ⟨_, _, _, _, rfl⟩
    exact h
  client _ _ _ h := h
  register _ _ _ _ _ h := h
  cursor _ h := h
  closeClient _ _ _ _ _ h := h.tearDownIf _
  exitThread _ _ _ h := h
  enqueue sock m hm _ h :=
    NotedInv.enqueue h (n := { m with serial := _ }) rfl (fun hrequest => absurd hrequest hm)
      (fun hrequest => absurd hrequest hm) (fun x hx => QueueMap.mem_items_push hx) rfl rfl
  answered type requestTime answers slot _ h := by
    refine NotedInv.fewer h (fun i => ?_) (fun x hx => ⟨x, hx, rfl⟩) ?_
    · refine Table.read_modify_field Transaction.notes ?_
      exact fun _ => rfl
    · exact fun e he => Or.inl ⟨e, List.mem_of_mem_filter he, rfl⟩
  clientRequest nr sender counterE2e buff toreceive _ _ _ hout h :=
    h.request hout (fun slot => ⟨rfl, rfl⟩) (fun t => rfl) (fun t => rfl)
      fun t slot => ⟨rfl, rfl, rfl, fun hm => by cases hm⟩
  discard h := NotedInv.skip h
  serverRequest c client buff dpSize _ _ hout h :=
    h.request hout (fun slot => ⟨rfl, rfl⟩) (fun t => rfl) (fun t => rfl)
      fun t slot => ⟨rfl, rfl, rfl, fun _ => rfl⟩
  finish sock m now hfront _ h := by
    refine h.popFront hfront (Proxy.notes_noteRequestTime _ m now) rfl ?_ rfl rfl
    intro e he
    change e ∈ (if m.IsRequest then _ else _) at he
    split_ifs at he
    · rcases List.mem_cons.mp he with rfl | he
      · exact Or.inr rfl
      · exact Or.inl he
    · exact Or.inl he
  advance sock m n hfront h := by
    obtain ⟨rest, hlookup⟩ := hfront
    refine NotedInv.fewer h (fun _ => rfl) ?_ fun e he => Or.inl ⟨e, he, rfl⟩
    intro x hx
    rcases QueueMap.mem_items_modifyFront hlookup hx with rfl | hx
    · exact ⟨_, QueueMap.mem_items_front hlookup, rfl⟩
    · exact ⟨x, hx, rfl⟩
  skip sock m now hfront _ h :=
    h.popFront hfront (Proxy.notes_noteRequestTime _ m now) rfl (fun e he => Or.inl he) rfl rfl
  drop sock m hfront _ h :=
    h.popFront hfront (fun _ => rfl) rfl (fun e he => Or.inl he) rfl rfl
  connection _ _ h := h
  startDia _ _ h := h
  cleanDia _ _ h := h.tearDownIf _
  connect _ _ _ _ _ h := h
  openQueue sock h := by
    refine NotedInv.fewer h (fun _ => rfl) ?_ fun e he => Or.inl ⟨e, he, rfl⟩
    intro x hx
    change x ∈ (QueueMap.openQueue _ sock).items at hx
    rw [QueueMap.items_openQueue] at hx
    exact ⟨x, hx, rfl⟩
  accept _ _ _ _ _ _ _ _ _ _ h := h
  processing h := h
  supervise _ _ h := h
  forget h := h
  freed := by
    intro s index h
    exact NotedInv.fewer h (notes_freed s.vTransaction index) (fun x hx => ⟨x, hx, rfl⟩)
      fun e he => Or.inl ⟨e, he, rfl⟩
  purge sock m hfront _ h :=
    h.popFront hfront (fun _ => rfl) rfl (fun e he => Or.inl he) rfl rfl

/-- In the first state there is no request. -/
lemma noted_init (cerData : CerData) : (Proxy.init cerData).Noted where
  id_lt _ hx := absurd hx List.not_mem_nil
  noted _ hx := absurd hx List.not_mem_nil
  waiting x hx := absurd hx (Multiset.notMem_zero x)
  sent _ he := absurd he List.not_mem_nil

end DiaProxy
