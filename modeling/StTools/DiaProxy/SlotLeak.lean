import StTools.DiaProxy.RequestLedger

/-!
# Transaction slots are given back

A transaction slot is freed by the answer to its request, when the request is refused by the queue,
and when a queue is given up with the request in it.  It is not freed when a request is taken off
its queue after an error of `send`, nor when a connection ends on which the request was written; and
the clean-up after inactivity empties the queues, but it does not free the last slot, nor those that
were taken behind it.  The main theorem says that these are the only leaks: in a run without them
every used slot belongs to a request that is queued, or written and not answered on an open connection.
-/

namespace DiaProxy

/-! ## Slots and open requests -/

/-- The slots that are used. -/
def usedSlots (s : Proxy) : Finset ℕ :=
  (Finset.range s.vTransaction.length).filter fun i => (s.transaction i).status = .used

/-- How many requests are queued, or written and not answered on an open connection. -/
def openRequests (s : Proxy) : ℕ :=
  (s.mPendingToSend.items.filter fun x => x.2.IsRequest).card + (s.sent.filter Sent.live).length

/-- The request with this number, which was given this slot, is queued, or written and not answered
on an open connection. -/
def RequestOpen (s : Proxy) (id : ℕ) (slot : ℤ) : Prop :=
  (∃ sock m, (sock, m) ∈ s.mPendingToSend.items ∧ m.IsRequest ∧ m.transaction = slot ∧
    m.tag.id = id) ∨
  ∃ e ∈ s.sent, e.live = true ∧ e.message.transaction = slot ∧ e.message.tag.id = id

/-- No slot leaks: every used slot was last handed to a request that is open, and no more slots are
used than requests are open. -/
structure NoSlotLeak (s : Proxy) : Prop where
  /-- A used slot belongs to an open request. -/
  open_of_used : ∀ slot : ℤ, (s.transaction slot).status = .used →
    ∃ id, (s.transaction slot).taker = some id ∧ RequestOpen s id slot
  /-- There are as many open requests as used slots. -/
  card_le : (usedSlots s).card ≤ openRequests s

/-- The limits of the main theorem: a connection ends only when no request that was written to it and
is not answered holds its slot, and no request that holds its slot is taken off its queue after an
error of `send` or by the clean-up. -/
def slotLimits : Limits where
  close v sock := ∀ e ∈ v.sent, e.live = true → e.sock = sock → ¬ v.Holds e.message
  drop v m := m.IsRequest → ¬ v.Holds m

/-- The requests that are open, as a ledger. -/
abbrev Proxy.openLedger (s : Proxy) : SlotLedger ℤ (Option ℕ) := s.ledger Sent.live

/-- The open requests are what is in flight. -/
lemma card_flight_eq (s : Proxy) : s.openLedger.flight.card = openRequests s := by
  unfold Proxy.openLedger Proxy.ledger RequestState.ledger waiting requestsIn pending openRequests
  rw [Multiset.card_add, Multiset.card_map, Multiset.coe_card, List.length_map]
  rfl

/-- A place in flight is that of an open request. -/
lemma requestOpen_of_mem_flight {s : Proxy} {slot : ℤ} {k : Option ℕ}
    (h : (slot, k) ∈ s.openLedger.flight) : ∃ id, k = some id ∧ RequestOpen s id slot := by
  rcases Multiset.mem_add.mp h with hwait | hpend
  · obtain ⟨sock, m, hmem, hm, hplace⟩ := mem_waiting.mp hwait
    obtain ⟨hslot, hid⟩ := Prod.mk.inj hplace
    exact ⟨m.tag.id, hid.symm, Or.inl ⟨sock, m, hmem, hm, hslot, rfl⟩⟩
  · obtain ⟨e, he, hlive, hplace⟩ := mem_pending.mp hpend
    obtain ⟨hslot, hid⟩ := Prod.mk.inj hplace
    exact ⟨e.message.tag.id, hid.symm, Or.inr ⟨e, he, hlive, hslot, rfl⟩⟩

/-- When the slots are covered, none leaks. -/
lemma noSlotLeak_of_covered {s : Proxy} (h : s.openLedger.Covered) : NoSlotLeak s where
  open_of_used slot hused := by
    have hholder : s.openLedger.holder slot = some (s.transaction slot).taker := if_pos hused
    exact requestOpen_of_mem_flight (h slot _ hholder)
  card_le := by
    have hcast : ((usedSlots s).image fun n : ℕ => (n : ℤ)).card = (usedSlots s).card :=
      Finset.card_image_of_injective _ fun _ _ h => Int.ofNat_inj.mp h
    rw [← hcast, ← card_flight_eq]
    apply h.card_le
    intro i hi
    obtain ⟨n, hn, rfl⟩ := Finset.mem_image.mp hi
    have hused : (s.transaction n).status = .used := (Finset.mem_filter.mp hn).2
    have hholder : s.openLedger.holder n = some (s.transaction n).taker := if_pos hused
    exact Option.isSome_iff_exists.mpr ⟨_, hholder⟩

/-! ## The slots stay covered -/

/-- The end of a connection keeps the slots covered, within the limits. -/
lemma covered_tearDownIf {s : Proxy} (h : s.openLedger.Covered) {sock : ℤ}
    (hclose : slotLimits.close s.requestState sock) : (s.tearDownIf sock).openLedger.Covered := by
  by_cases hsock : sock = -1
  · rw [hsock, Proxy.tearDownIf_neg_one]
    exact h
  · rw [Proxy.tearDownIf_of_ne s hsock]
    refine h.free (s.frees_tearDown Sent.live sock fun e he => absurd he (by simp)) ?_
    rintro i k (hfreed | ⟨e, he, hesock, hlive, -, hplace⟩) hholder
    · exact hfreed
    · refine absurd ?_ (hclose e he hlive hesock)
      obtain ⟨rfl, rfl⟩ := Prod.mk.inj hplace
      exact hholder

/-- A request keeps the slots covered. -/
lemma covered_request {s s' : Proxy} {up : Prop} {socket : ℤ} {message : ℕ → Message}
    {fill drop : Transaction → Transaction} {id : ℕ} (h : s.openLedger.Covered)
    (hout : s.RequestOutcome up socket message fill drop s')
    (hmessage : ∀ slot : ℕ, (message slot).IsRequest ∧
      (message slot).place = ((slot : ℤ), some id))
    (hfill : ∀ t, (fill t).status = t.status ∧ (fill t).taker = some id)
    (hdrop : ∀ t, (drop t).status = .notUsed) : s'.openLedger.Covered := by
  rcases hout.ledger Sent.live hmessage hfill hdrop with hsame | ⟨slot, htakes⟩
  · unfold Proxy.openLedger
    rw [hsame]
    exact h
  · exact h.take htakes

/-- Taking a message off keeps the slots covered, within the limits. -/
lemma covered_popFront {s s' : Proxy} {sock : ℤ} {m : Message} (h : s.openLedger.Covered)
    (hfront : s.IsFront sock m) (hdrop : slotLimits.drop s.requestState m)
    (hholder : ∀ i, (Table.read s'.vTransaction {} i).holder =
      (Table.read s.vTransaction {} i).holder)
    (hqueues : s'.mPendingToSend = s.mPendingToSend.popFront sock) (hsent : s'.sent = s.sent) :
    s'.openLedger.Covered := by
  refine h.free (Proxy.frees_popFront Sent.live hfront hholder hqueues hsent) ?_
  rintro i k ⟨hm, hplace⟩ hheld
  obtain ⟨rfl, rfl⟩ := Prod.mk.inj hplace
  exact hdrop hm hheld

/-- The slots stay covered within the limits. -/
theorem covered_isInvariant : IsInvariant (fun s => s.openLedger.Covered) slotLimits where
  logged := by
    rintro s s' h ⟨_, _, _, _, rfl⟩
    exact h
  client _ _ _ h := h
  register _ _ _ _ _ h := h
  cursor _ h := h
  closeClient _ _ _ _ hclose h := covered_tearDownIf h hclose
  exitThread _ _ _ h := h
  enqueue sock m hm _ h := by
    unfold Proxy.openLedger
    rw [Proxy.ledger_enqueue Sent.live hm]
    exact h
  answered type requestTime answers slot _ h :=
    h.free (Proxy.frees_answered Sent.live _ type (fun _ => rfl) answers slot)
      fun i k hgone _ => congrArg Prod.fst hgone
  clientRequest nr sender counterE2e buff toreceive _ _ _ hout h :=
    covered_request h hout
      (requestToServerMessage_place _ nr counterE2e (Proxy.requestTag _ nr sender _ buff) buff toreceive)
      (Transaction.fill_taker _) fun _ => rfl
  discard h := h
  serverRequest c client buff dpSize _ _ hout h :=
    covered_request h hout
      (requestToClientMessage_place _ c (Proxy.serverRequestTag c _ client buff) buff dpSize)
      (Transaction.fillServer_taker _ _) fun _ => rfl
  finish sock m now hfront _ h :=
    h.free (Proxy.frees_finishFront Sent.live now hfront)
      fun i k hgone _ => absurd rfl hgone.2.1
  advance sock m n hfront h := by
    unfold Proxy.openLedger
    rw [Proxy.ledger_advanceFront Sent.live n hfront]
    exact h
  skip sock m now hfront hdrop h :=
    covered_popFront h hfront hdrop
      (fun i => (Proxy.countSent _ m).holder_noteRequestTime m now i) rfl rfl
  drop sock m hfront hdrop h := covered_popFront h hfront hdrop (fun _ => rfl) rfl rfl
  connection _ _ h := h
  startDia _ _ h := h
  cleanDia _ hclose h := covered_tearDownIf h hclose
  connect _ _ _ _ _ h := h
  openQueue sock h := by
    unfold Proxy.openLedger
    rw [Proxy.ledger_openQueue]
    exact h
  accept _ _ _ _ _ _ _ _ _ _ h := h
  processing h := h
  supervise _ _ h := h
  forget h := h
  freed index h := h.free (Proxy.frees_freed Sent.live _ index) fun i k hgone _ => hgone.elim
  purge sock m hfront hdrop h := covered_popFront h hfront hdrop (fun _ => rfl) rfl rfl

/-- In the first state no slot is used. -/
lemma covered_init (cerData : CerData) : (Proxy.init cerData).openLedger.Covered := by
  intro i k hi
  have hread : Table.read (Proxy.init cerData).vTransaction {} i = {} :=
    Table.read_replicate cerData.numberOfTransactions ({} : Transaction) i
  have hholder : (Proxy.init cerData).openLedger.holder i = none :=
    (congrArg Transaction.holder hread).trans (Transaction.holder_of_notUsed rfl)
  rw [hholder] at hi
  cases hi

/-- **No slot leaks in a run within the limits.** -/
theorem noSlotLeak_throughout (cerData : CerData) {es : List Event}
    (hL : LabelledSystem.Along step slotLimits.Allows (Proxy.init cerData) es) :
    LabelledSystem.Throughout step NoSlotLeak (Proxy.init cerData) es :=
  LabelledSystem.throughout_of_along
    (I := fun s => Sized s ∧ s.openLedger.Covered)
    (fun _ _ _ h hC hstep =>
      ⟨(sized_isInvariant _).of_step h.1 hC hstep h.1, covered_isInvariant.of_step h.1 hC hstep h.2⟩)
    (fun _ h => noSlotLeak_of_covered h.2) ⟨sized_init cerData, covered_init cerData⟩ hL

/-! ## A run without leak, and one with -/

/-- A small proxy. -/
def fourSlots : CerData := .fourSlots

/-- A message that is only a header, with these identifiers; its command code is 316. -/
def headerOnly (hopByHop end2end : UInt8) : Mem :=
  Mem.load [1, 0, 0, 20, 0xc0, 0, 1, 60, 0, 0, 0, 4, hopByHop, 0, 0, 0, end2end, 0, 0, 0] fun _ => 0

/-- A client connects and makes a request. -/
def oneRequest : List Event :=
  [.startDiaThread 0, .connect 0 5, .accept 6, .clientMessage 0 0 0 0 (headerOnly 7 9) 20 0]

/-- Its request is written and answered. -/
def answeredRequest : List Event :=
  oneRequest ++ [.send 5 (.wrote 20 0) 0, .serverMessage 0 (headerOnly 1 0) 20 0]

/-- The request is taken off its queue when `send` is interrupted. -/
def interruptedRequest : List Event := oneRequest ++ [.send 5 (.failed 4) 0]

/-- In the run with an answer no slot leaks. -/
theorem answeredRequest_noSlotLeak :
    LabelledSystem.Throughout step NoSlotLeak (Proxy.init fourSlots) answeredRequest := by
  refine noSlotLeak_throughout fourSlots ?_
  rintro _ ⟨⟩
  refine ⟨trivial, ?_⟩
  rintro _ ⟨⟩
  refine ⟨fun hqueue => absurd hqueue (by decide), ?_⟩
  rintro _ ⟨⟩
  refine ⟨fun _ _ => trivial, ?_⟩
  rintro _ ⟨⟩
  refine ⟨⟨trivial, fun hanswer => absurd hanswer.2 (by decide), fun _ _ _ _ => trivial⟩, ?_⟩
  rintro _ ⟨⟩
  refine ⟨fun m _ hloses => absurd hloses.1 (by decide), ?_⟩
  exact fun _ _ => ⟨⟨fun hdpr => absurd hdpr (by decide), fun _ _ => trivial, fun _ _ _ => trivial⟩,
    trivial⟩

/-- In the other run a slot stays used, though no request is open. -/
theorem interruptedRequest_leaks :
    ∃ s, LabelledSystem.exec step (Proxy.init fourSlots) interruptedRequest = some s ∧
      (s.transaction 0).status = .used ∧ openRequests s = 0 ∧ ¬ NoSlotLeak s := by
  refine ⟨_, rfl, by decide, by decide, fun h => ?_⟩
  exact absurd h.card_le (by decide)

end DiaProxy
