import StTools.Lib.SlotLedger
import StTools.DiaProxy.RunRule

/-!
# The ledger of requests

Every forwarded request is given a transaction slot.  While its message waits in a queue, or was
written and is not answered, the request is in flight.  This module reads the state of the proxy
as a ledger of slots and requests in flight, and says for each change of the state what happens in
the ledger: a request takes a slot, or slots are freed and flights end.

Which of the written requests count as in flight is a parameter: those on connections still open, or
those that went to a server.
-/

namespace DiaProxy

/-! ## The ledger of a state -/

/-- The holder of a slot: the request that took it, if it is used. -/
def Transaction.holder (t : Transaction) : Option (Option ℕ) :=
  if t.status = .used then some t.taker else none

/-- The slot a request was given, and its number. -/
def Message.place (m : Message) : ℤ × Option ℕ := (m.transaction, some m.tag.id)

/-- The requests among queued messages. -/
def requestsIn (items : Multiset (ℤ × Message)) : Multiset (ℤ × Option ℕ) :=
  (items.filter fun x => x.2.IsRequest).map fun x => x.2.place

/-- The requests that wait in queues. -/
def waiting (q : QueueMap ℤ Message) : Multiset (ℤ × Option ℕ) := requestsIn q.items

/-- The requests that were written and count as in flight. -/
def pending (counts : Sent → Bool) (sent : List Sent) : Multiset (ℤ × Option ℕ) :=
  ((sent.filter counts).map fun e => e.message.place : List _)

/-- The ledger of a state. -/
def RequestState.ledger (counts : Sent → Bool) (v : RequestState) :
    SlotLedger ℤ (Option ℕ) where
  holder i := (Table.read v.table {} i).holder
  flight := waiting v.queues + pending counts v.sent

/-- The request holds the slot it was given. -/
def RequestState.Holds (v : RequestState) (m : Message) : Prop :=
  (Table.read v.table {} m.transaction).holder = some (some m.tag.id)

/-! ## Slots -/

/-- A free slot has no holder. -/
lemma Transaction.holder_of_notUsed {t : Transaction} (h : t.status = .notUsed) :
    t.holder = none := by
  rw [holder, h]
  rfl

/-- A freed slot has no holder. -/
@[simp] lemma Transaction.holder_clear (t : Transaction) : t.clear.holder = none :=
  holder_of_notUsed rfl

/-- The slots of the messages of a queue that was given up have no holder, the others are as
before. -/
lemma holder_clearSlots (ts : List Transaction) (queue : List Message) (i : ℤ) :
    (Table.read (clearSlots ts queue) {} i).holder =
      if i ∈ queue.map Message.transaction then none else (Table.read ts {} i).holder := by
  rw [Table.read, Table.read, get_clearSlots]
  split
  · cases Table.get ts i with
    | none => rfl
    | some t => exact t.holder_clear
  · rfl

/-! ## Waiting requests -/

variable {q : QueueMap ℤ Message} {k : ℤ} {m : Message} {l : List Message}

/-- One more message that is a request. -/
lemma requestsIn_cons {items : Multiset (ℤ × Message)} (hm : m.IsRequest) :
    requestsIn ((k, m) ::ₘ items) = m.place ::ₘ requestsIn items := by
  rw [requestsIn, Multiset.filter_cons_of_pos (p := fun x : ℤ × Message => x.2.IsRequest) items hm,
    Multiset.map_cons]
  rfl

/-- One more message that is no request. -/
lemma requestsIn_cons_answer {items : Multiset (ℤ × Message)} (hm : ¬ m.IsRequest) :
    requestsIn ((k, m) ::ₘ items) = requestsIn items := by
  rw [requestsIn, Multiset.filter_cons_of_neg (p := fun x : ℤ × Message => x.2.IsRequest) items hm]
  rfl

/-- What waits is a request in some queue. -/
lemma mem_waiting {i : ℤ} {id : Option ℕ} :
    (i, id) ∈ waiting q ↔ ∃ sock m, (sock, m) ∈ q.items ∧ m.IsRequest ∧ m.place = (i, id) := by
  unfold waiting requestsIn
  simp only [Multiset.mem_map, Multiset.mem_filter, Prod.exists]
  constructor
  · rintro ⟨sock, m, ⟨hmem, hm⟩, hplace⟩
    exact ⟨sock, m, hmem, hm, hplace⟩
  · rintro ⟨sock, m, hmem, hm, hplace⟩
    exact ⟨sock, m, ⟨hmem, hm⟩, hplace⟩

/-- A request that is queued waits. -/
lemma waiting_push (h : q.lookup k = some l) (hm : m.IsRequest) :
    waiting (q.push k m) = m.place ::ₘ waiting q := by
  rw [waiting, QueueMap.items_push h, requestsIn_cons hm]
  rfl

/-- An answer that is queued is no request. -/
lemma waiting_push_answer (h : q.lookup k = some l) (hm : ¬ m.IsRequest) :
    waiting (q.push k m) = waiting q := by
  rw [waiting, QueueMap.items_push h, requestsIn_cons_answer hm]
  rfl

/-- A request at the front of a queue waits until it is taken off. -/
lemma waiting_popFront (h : q.lookup k = some (m :: l)) (hm : m.IsRequest) :
    waiting q = m.place ::ₘ waiting (q.popFront k) := by
  rw [waiting, QueueMap.items_popFront h, requestsIn_cons hm]
  rfl

/-- Taking an answer off changes no request. -/
lemma waiting_popFront_answer (h : q.lookup k = some (m :: l)) (hm : ¬ m.IsRequest) :
    waiting q = waiting (q.popFront k) := by
  rw [waiting, QueueMap.items_popFront h, requestsIn_cons_answer hm]
  rfl

/-- A request of which a part was written waits. -/
lemma waiting_modifyFront {f : Message → Message} (h : q.lookup k = some (m :: l))
    (hplace : (f m).place = m.place) (htype : (f m).messageType = m.messageType) :
    waiting (q.modifyFront k f) = waiting q := by
  have hrequest : (f m).IsRequest ↔ m.IsRequest := by
    unfold Message.IsRequest
    rw [htype]
  by_cases hm : m.IsRequest
  · rw [waiting_popFront h hm, waiting, QueueMap.items_modifyFront f h,
      requestsIn_cons (hrequest.mpr hm), hplace]
    rfl
  · rw [waiting_popFront_answer h hm, waiting, QueueMap.items_modifyFront f h,
      requestsIn_cons_answer (mt hrequest.mp hm)]
    rfl

/-- No request waits in a new queue. -/
lemma waiting_openQueue : waiting (q.openQueue k) = waiting q := by
  rw [waiting, QueueMap.items_openQueue]
  rfl

/-- The requests that wait when a queue was given up waited before. -/
lemma waiting_closeQueue_le : waiting (q.closeQueue k) ≤ waiting q := by
  cases h : q.lookup k with
  | none => rw [QueueMap.closeQueue_of_lookup_none h]
  | some l =>
    unfold waiting requestsIn
    apply Multiset.map_le_map
    apply Multiset.filter_le_filter
    rw [QueueMap.items_eq_add h]
    exact Multiset.le_add_left _ _

/-- A waiting request is in the queue that is given up, or goes on waiting. -/
lemma mem_waiting_closeQueue {i : ℤ} {id : Option ℕ} (h : (i, id) ∈ waiting q) :
    i ∈ ((q.lookup k).getD []).map Message.transaction ∨ (i, id) ∈ waiting (q.closeQueue k) := by
  cases hlookup : q.lookup k with
  | none =>
    rw [QueueMap.closeQueue_of_lookup_none hlookup]
    exact Or.inr h
  | some l =>
    rw [waiting, QueueMap.items_eq_add hlookup, requestsIn, Multiset.filter_add, Multiset.map_add,
      Multiset.mem_add] at h
    rcases h with hgone | hstays
    · obtain ⟨x, hx, hplace⟩ := Multiset.mem_map.mp hgone
      obtain ⟨hmem, -⟩ := Multiset.mem_filter.mp hx
      refine Or.inl (List.mem_map.mpr ⟨x.2, (QueueMap.mem_keyed.mp hmem).2, ?_⟩)
      exact congrArg Prod.fst hplace
    · exact Or.inr hstays

/-! ## Messages of requests -/

/-- The message of a request of a client names its slot. -/
lemma requestToServerMessage_place (s : Proxy) (nr counterE2e : ℕ) (tag : RequestTag) (buff : Mem)
    (toreceive slot : ℕ) :
    (s.requestToServerMessage nr counterE2e tag buff toreceive slot).IsRequest ∧
      (s.requestToServerMessage nr counterE2e tag buff toreceive slot).place =
        ((slot : ℤ), some tag.id) :=
  ⟨Or.inl rfl, rfl⟩

/-- The message of a request of a server names its slot. -/
lemma requestToClientMessage_place (s : Proxy) (c : ℕ) (tag : RequestTag) (buff : Mem)
    (dpSize slot : ℕ) :
    (s.requestToClientMessage c tag buff dpSize slot).IsRequest ∧
      (s.requestToClientMessage c tag buff dpSize slot).place = ((slot : ℤ), some tag.id) :=
  ⟨Or.inr rfl, rfl⟩

/-- A slot that is filled notes its request. -/
lemma Transaction.fill_taker (tag : RequestTag) (t : Transaction) :
    (t.fill tag).status = t.status ∧ (t.fill tag).taker = some tag.id :=
  ⟨rfl, rfl⟩

/-- A slot that is filled for a request of a server notes its request. -/
lemma Transaction.fillServer_taker (tag : RequestTag) (pos : ℤ) (t : Transaction) :
    (t.fillServer tag pos).status = t.status ∧ (t.fillServer tag pos).taker = some tag.id :=
  ⟨rfl, rfl⟩

/-! ## Written requests -/

variable {counts : Sent → Bool} {sent : List Sent} {e : Sent}

/-- A written request that counts is pending. -/
lemma pending_cons (h : counts e = true) :
    pending counts (e :: sent) = e.message.place ::ₘ pending counts sent := by
  rw [pending, List.filter_cons_of_pos h]
  rfl

/-- A written request that does not count is not pending. -/
lemma pending_cons_of_not (h : ¬ counts e = true) :
    pending counts (e :: sent) = pending counts sent := by
  rw [pending, List.filter_cons_of_neg h]
  rfl

/-- Leaving out written requests leaves fewer pending. -/
lemma pending_filter_le (keep : Sent → Bool) :
    pending counts (sent.filter keep) ≤ pending counts sent := by
  apply Multiset.map_le_map (t := ((sent.filter counts : List Sent) : Multiset Sent))
    (s := (((sent.filter keep).filter counts : List Sent) : Multiset Sent))
  rw [Multiset.coe_le]
  exact (List.filter_sublist.filter counts).subperm

/-- The pending requests are written requests that count. -/
lemma mem_pending {i : ℤ} {id : Option ℕ} :
    (i, id) ∈ pending counts sent ↔
      ∃ e ∈ sent, counts e = true ∧ e.message.place = (i, id) := by
  simp only [pending, Multiset.mem_coe, List.mem_map, List.mem_filter]
  constructor
  · rintro ⟨e, ⟨he, hc⟩, hplace⟩
    exact ⟨e, he, hc, hplace⟩
  · rintro ⟨e, he, hc, hplace⟩
    exact ⟨e, ⟨he, hc⟩, hplace⟩

/-- When a connection ends, the requests written to it may not count any more. -/
lemma pending_map_le {f : Sent → Sent} (hf : ∀ e, (f e).message = e.message)
    (hcounts : ∀ e, counts (f e) = true → counts e = true) :
    pending counts (sent.map f) ≤ pending counts sent := by
  induction sent with
  | nil => exact le_rfl
  | cons e rest ih =>
    rw [List.map_cons]
    by_cases h : counts (f e) = true
    · rw [pending_cons h, pending_cons (hcounts e h), hf]
      exact Multiset.cons_le_cons _ ih
    · rw [pending_cons_of_not h]
      by_cases he : counts e = true
      · rw [pending_cons he]
        exact ih.trans (Multiset.le_cons_self _ _)
      · rw [pending_cons_of_not he]
        exact ih

/-! ## What changes do in the ledger -/

namespace Proxy

variable (counts : Sent → Bool) (s : Proxy)

/-- The ledger of the requests of a state. -/
abbrev ledger : SlotLedger ℤ (Option ℕ) := s.requestState.ledger counts

/-- Noting when a request was sent changes no holder. -/
lemma holder_noteRequestTime (m : Message) (now : ℕ) (i : ℤ) :
    (Table.read (s.noteRequestTime m now).vTransaction {} i).holder =
      (Table.read s.vTransaction {} i).holder := by
  unfold noteRequestTime
  dsimp only
  split
  · exact Table.read_modify_field Transaction.holder fun _ => rfl
  · rfl

/-- A request is discarded, or refused by the queue: nothing changes in the ledger.  It is queued:
it takes a free slot. -/
lemma RequestOutcome.ledger {s s' : Proxy} {up : Prop} {socket : ℤ} {message : ℕ → Message}
    {fill drop : Transaction → Transaction} {id : ℕ}
    (hout : s.RequestOutcome up socket message fill drop s')
    (hmessage : ∀ slot : ℕ, (message slot).IsRequest ∧
      (message slot).place = ((slot : ℤ), some id))
    (hfill : ∀ t, (fill t).status = t.status ∧ (fill t).taker = some id)
    (hdrop : ∀ t, (drop t).status = .notUsed) :
    s'.ledger counts = s.ledger counts ∨
      ∃ slot : ℕ, (s.ledger counts).Takes slot (some id) (s'.ledger counts) := by
  cases hout with
  | noSlot next hnone hnext hs' =>
    obtain ⟨_, _, _, _, rfl⟩ := hs'
    exact Or.inl rfl
  | refused next slot hacc hslot hfree hnext hs' =>
    obtain ⟨_, _, _, _, rfl⟩ := hs'
    have hold : (Table.read s.vTransaction {} slot).holder = none :=
      Transaction.holder_of_notUsed (of_decide_eq_true hfree.1)
    refine Or.inl ?_
    unfold Proxy.ledger RequestState.ledger
    congr 1
    funext i
    change (Table.read (Table.modify s.vTransaction slot _) {} i).holder =
      (Table.read s.vTransaction {} i).holder
    rw [Table.read_modify]
    split
    · rename_i hi
      rw [← hi.1, hold]
      exact Transaction.holder_of_notUsed (hdrop _)
    · rfl
  | queued next slot hacc hslot hfree hnext hs' =>
    obtain ⟨_, _, _, _, rfl⟩ := hs'
    obtain ⟨-, -, queue, hqueue⟩ := hacc
    obtain ⟨hrequest, hplace⟩ := hmessage slot
    have hrange : Table.InRange s.vTransaction slot :=
      ⟨Int.natCast_nonneg slot, Int.ofNat_lt.mpr hslot⟩
    refine Or.inr ⟨slot, ?_, ?_, ?_, ?_⟩
    · exact Transaction.holder_of_notUsed (of_decide_eq_true hfree.1)
    · change (Table.read (Table.modify s.vTransaction slot _) {} slot).holder = some (some id)
      rw [Table.read_modify_self _ hrange, Transaction.holder, (hfill _).1, (hfill _).2, if_pos rfl]
    · intro j hj
      change (Table.read (Table.modify s.vTransaction slot _) {} j).holder = _
      rw [Table.read_modify_of_ne _ fun h => hj h.symm]
      rfl
    · have hwait := waiting_push (m := { message slot with serial := s.queued.length }) hqueue
        hrequest
      change waiting (s.mPendingToSend.push socket _) + pending counts s.sent =
        ((slot : ℤ), some id) ::ₘ (waiting s.mPendingToSend + pending counts s.sent)
      rw [hwait, Multiset.cons_add, ← hplace]
      rfl

/-- The number of requests changes in no ledger entry that is a slot's: an answer is queued. -/
lemma ledger_enqueue {s : Proxy} {sock : ℤ} {m : Message} (hm : ¬ m.IsRequest) :
    (s.enqueue sock m).ledger counts = s.ledger counts := by
  have hwaiting : waiting (s.mPendingToSend.push sock { m with serial := s.queued.length }) =
      waiting s.mPendingToSend := by
    cases hlookup : s.mPendingToSend.lookup sock with
    | none =>
      unfold QueueMap.push QueueMap.mapQueue
      rw [hlookup]
    | some queue => exact waiting_push_answer hlookup hm
  unfold Proxy.ledger RequestState.ledger
  congr 1
  exact congrArg (· + pending counts s.sent) hwaiting

/-- A descriptor is given a queue: nothing changes in the ledger. -/
lemma ledger_openQueue {s : Proxy} {sock : ℤ} :
    Proxy.ledger counts { s with mPendingToSend := s.mPendingToSend.openQueue sock } =
      s.ledger counts := by
  unfold Proxy.ledger RequestState.ledger
  congr 1
  exact congrArg (· + pending counts s.sent) waiting_openQueue

/-- A part of a message is written: nothing changes in the ledger. -/
lemma ledger_advanceFront {s : Proxy} {sock : ℤ} {m : Message} (n : ℕ) (h : s.IsFront sock m) :
    (s.advanceFront sock m n).ledger counts = s.ledger counts := by
  obtain ⟨rest, hfront⟩ := h
  have hwaiting : waiting (s.mPendingToSend.modifyFront sock fun m =>
      { m with bytesSent := m.bytesSent + n }) = waiting s.mPendingToSend :=
    waiting_modifyFront hfront rfl rfl
  unfold Proxy.ledger RequestState.ledger
  congr 1
  exact congrArg (· + pending counts s.sent) hwaiting

/-- A message is taken off a queue: a request among them is in flight no more. -/
lemma frees_popFront {s s' : Proxy} {sock : ℤ} {m : Message} (h : s.IsFront sock m)
    (hholder : ∀ i, (Table.read s'.vTransaction {} i).holder =
      (Table.read s.vTransaction {} i).holder)
    (hqueues : s'.mPendingToSend = s.mPendingToSend.popFront sock) (hsent : s'.sent = s.sent) :
    (s.ledger counts).Frees (fun _ => False) (fun x => m.IsRequest ∧ x = m.place)
      (s'.ledger counts) := by
  obtain ⟨rest, hfront⟩ := h
  have hflight : (s'.ledger counts).flight =
      waiting (s.mPendingToSend.popFront sock) + pending counts s.sent := by
    rw [← hqueues, ← hsent]
    rfl
  have hflight' : (s.ledger counts).flight = waiting s.mPendingToSend + pending counts s.sent := rfl
  refine ⟨fun i hi => hi.elim, fun i _ => hholder i, ?_, ?_⟩
  · rw [hflight, hflight']
    by_cases hm : m.IsRequest
    · rw [waiting_popFront hfront hm, Multiset.cons_add]
      exact Multiset.le_cons_self _ _
    · rw [waiting_popFront_answer hfront hm]
  · intro x hx
    rw [hflight'] at hx
    rw [hflight]
    by_cases hm : m.IsRequest
    · rw [waiting_popFront hfront hm, Multiset.cons_add, Multiset.mem_cons] at hx
      rcases hx with rfl | hx
      · exact Or.inr ⟨hm, rfl⟩
      · exact Or.inl hx
    · rw [waiting_popFront_answer hfront hm] at hx
      exact Or.inl hx

/-- A message is written to its end: a request among them is in flight as long as it counts. -/
lemma frees_finishFront {s : Proxy} {sock : ℤ} {m : Message} (now : ℕ) (h : s.IsFront sock m) :
    (s.ledger counts).Frees (fun _ => False)
      (fun x => m.IsRequest ∧ ¬ counts ⟨sock, true, m⟩ = true ∧ x = m.place)
      ((s.finishFront sock m now).ledger counts) := by
  obtain ⟨rest, hfront⟩ := h
  have hholder : ∀ i, ((s.finishFront sock m now).ledger counts).holder i =
      (s.ledger counts).holder i := fun i => (s.countSent m).holder_noteRequestTime m now i
  have hflight : ((s.finishFront sock m now).ledger counts).flight =
      waiting (s.mPendingToSend.popFront sock) +
        pending counts (if m.IsRequest then ⟨sock, true, m⟩ :: s.sent else s.sent) := rfl
  have hflight' : (s.ledger counts).flight = waiting s.mPendingToSend + pending counts s.sent := rfl
  by_cases hm : m.IsRequest
  · rw [if_pos hm] at hflight
    rw [waiting_popFront hfront hm] at hflight'
    by_cases hcounts : counts ⟨sock, true, m⟩ = true
    · rw [pending_cons hcounts, Multiset.add_cons, ← Multiset.cons_add, ← hflight'] at hflight
      refine ⟨fun i hi => hi.elim, fun i _ => hholder i, hflight.le, fun x hx => Or.inl ?_⟩
      rw [hflight]
      exact hx
    · rw [pending_cons_of_not hcounts] at hflight
      rw [Multiset.cons_add, ← hflight] at hflight'
      refine ⟨fun i hi => hi.elim, fun i _ => hholder i, ?_, fun x hx => ?_⟩
      · rw [hflight']
        exact Multiset.le_cons_self _ _
      · rw [hflight', Multiset.mem_cons] at hx
        rcases hx with rfl | hx
        · exact Or.inr ⟨hm, hcounts, rfl⟩
        · exact Or.inl hx
  · rw [if_neg hm, ← waiting_popFront_answer hfront hm] at hflight
    exact ⟨fun i hi => hi.elim, fun i _ => hholder i, hflight.le, fun x hx => Or.inl (hflight ▸ hx)⟩

/-- An answer frees the slot that it names, and the request that it answers lands. -/
lemma frees_answered (type : MessageType) {free : Transaction → Transaction}
    (hfree : ∀ t, (free t).status = .notUsed) (answers : ℕ) (slot : ℤ) :
    (s.ledger counts).Frees (· = slot) (· = (slot, some answers))
      ((s.answered type free answers slot).ledger counts) := by
  refine ⟨fun i hi => ?_, fun i hi => ?_, ?_, fun x hx => ?_⟩
  · change (Table.read (Table.modify s.vTransaction slot free) {} i).holder = none
    rw [Table.read_modify]
    split
    · exact Transaction.holder_of_notUsed (hfree _)
    · rename_i hnot
      rw [Table.read_of_not_inRange fun hrange => hnot ⟨hi.symm, hrange⟩]
      rfl
  · change (Table.read (Table.modify s.vTransaction slot free) {} i).holder = _
    rw [Table.read_modify_of_ne _ fun h => hi h.symm]
    rfl
  · exact (add_le_add_iff_left _).mpr (pending_filter_le _)
  · rcases Multiset.mem_add.mp hx with hwait | hpend
    · exact Or.inl (Multiset.mem_add.mpr (Or.inl hwait))
    · obtain ⟨e, he, hcounts, hplace⟩ := mem_pending.mp hpend
      by_cases hgone : e.message.messageType = type ∧ e.message.tag.id = answers ∧
          e.message.transaction = slot
      · refine Or.inr (hplace.symm.trans ?_)
        rw [Message.place, hgone.2.1, hgone.2.2]
      · refine Or.inl (Multiset.mem_add.mpr (Or.inr (mem_pending.mpr ⟨e, ?_, hcounts, hplace⟩)))
        exact List.mem_filter.mpr ⟨he, decide_eq_true hgone⟩

/-- The clean-up frees a slot. -/
lemma frees_freed (index : ℕ) :
    (s.ledger counts).Frees (· = (index : ℤ)) (fun _ => False)
      (Proxy.ledger counts
        { s with vTransaction := Table.modify s.vTransaction index Transaction.freed }) := by
  refine ⟨fun i hi => ?_, fun i hi => ?_, le_rfl, fun x hx => Or.inl hx⟩
  · change (Table.read (Table.modify s.vTransaction index Transaction.freed) {} i).holder = none
    rw [Table.read_modify]
    split
    · exact Transaction.holder_of_notUsed (Transaction.freed_status _)
    · rename_i hnot
      rw [Table.read_of_not_inRange fun hrange => hnot ⟨hi.symm, hrange⟩]
      rfl
  · change (Table.read (Table.modify s.vTransaction index Transaction.freed) {} i).holder = _
    rw [Table.read_modify_of_ne _ fun h => hi h.symm]
    rfl

/-- The messages of a queue free the slots they name when it is given up. -/
def FreedBy (sock i : ℤ) : Prop := i ∈ (s.queueOf sock).map Message.transaction

/-- The end of a connection frees the slots that the messages in its queue name; the requests in
the queue are in flight no more, nor those that were written and do not count any more. -/
lemma frees_tearDown (sock : ℤ)
    (hcounts : ∀ e : Sent, counts { e with live := false } = true → counts e = true) :
    (s.ledger counts).Frees (s.FreedBy sock)
      (fun x => s.FreedBy sock x.1 ∨ ∃ e ∈ s.sent, e.sock = sock ∧ counts e = true ∧
        ¬ counts { e with live := false } = true ∧ e.message.place = x)
      ((s.tearDown sock).ledger counts) := by
  have hholder : ∀ i, ((s.tearDown sock).ledger counts).holder i =
      if i ∈ (s.queueOf sock).map Message.transaction then none else (s.ledger counts).holder i :=
    holder_clearSlots s.vTransaction (s.queueOf sock)
  refine ⟨fun i hi => (hholder i).trans (if_pos hi), fun i hi => (hholder i).trans (if_neg hi),
    ?_, fun x hx => ?_⟩
  · refine add_le_add waiting_closeQueue_le (pending_map_le (fun e => ?_) fun e he => ?_)
    · split <;> rfl
    · split at he
      · exact hcounts e he
      · exact he
  · obtain ⟨i, id⟩ := x
    rcases Multiset.mem_add.mp hx with hwait | hpend
    · rcases mem_waiting_closeQueue (k := sock) hwait with hfreed | hstays
      · exact Or.inr (Or.inl hfreed)
      · exact Or.inl (Multiset.mem_add.mpr (Or.inl hstays))
    · obtain ⟨e, he, hcount, hplace⟩ := mem_pending.mp hpend
      by_cases hlost : e.sock = sock ∧ ¬ counts { e with live := false } = true
      · exact Or.inr (Or.inr ⟨e, he, hlost.1, hcount, hlost.2, hplace⟩)
      · refine Or.inl (Multiset.mem_add.mpr (Or.inr (mem_pending.mpr
          ⟨_, List.mem_map.mpr ⟨e, he, rfl⟩, ?_, ?_⟩)))
        · split
          · rename_i hsock
            by_contra hnot
            exact hlost ⟨hsock, hnot⟩
          · exact hcount
        · split
          · exact hplace
          · exact hplace

end Proxy

end DiaProxy
