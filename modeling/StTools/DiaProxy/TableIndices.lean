import StTools.DiaProxy.References
import StTools.DiaProxy.SlotLeak

/-!
# Indices that the handlers of messages use

The handlers of messages use the references of records as indices without a test, or with a test
that never holds.  A reference that is still or again `-1` makes them read and write before the
beginning of a table.  `indicesInRange_throughout_iff` says exactly which messages do so.
-/

namespace DiaProxy

/-! ## Indices used between two states -/

/-- The index is inside the table it is used on. -/
def CerData.Has (d : CerData) : Access → Prop
  | .transaction i => Below d.numberOfTransactions i
  | .client i => Below d.numberOfClients i
  | .connection i => Below d.numberOfConnections i

/-- The indices used between the two states are all inside their tables exactly if `P` holds. -/
def Uses (d : CerData) (s s' : Proxy) (P : Prop) : Prop :=
  ∃ l, s'.accesses = l ++ s.accesses ∧ ((∀ a ∈ l, d.Has a) ↔ P)

namespace Uses

variable {d : CerData} {s t s' : Proxy} {P Q : Prop}

/-- No index is used. -/
lemma none (h : s'.accesses = s.accesses) : Uses d s s' True :=
  ⟨[], h, by simp⟩

/-- One index is used. -/
lemma one {a : Access} (h : s'.accesses = a :: s.accesses) : Uses d s s' (d.Has a) :=
  ⟨[a], h, by simp⟩

/-- Indices are used one after the other. -/
lemma trans (h : Uses d s t P) (h' : Uses d t s' Q) : Uses d s s' (P ∧ Q) := by
  obtain ⟨l, hl, hP⟩ := h
  obtain ⟨l', hl', hQ⟩ := h'
  refine ⟨l' ++ l, by rw [hl', hl, List.append_assoc], ?_⟩
  rw [← hP, ← hQ, List.forall_mem_append, and_comm]

/-- The condition is put in other words. -/
lemma congr (h : Uses d s s' P) (hPQ : P ↔ Q) : Uses d s s' Q := by
  obtain ⟨l, hl, hP⟩ := h
  exact ⟨l, hl, hP.trans hPQ⟩

/-- Indices that are inside the tables are used before others. -/
lemma after (h : Uses d s t P) (h' : Uses d t s' Q) (hP : P) : Uses d s s' Q :=
  (h.trans h').congr (and_iff_right hP)

end Uses

/-- The indices used between the two states are all inside their tables if `P` holds. -/
def SafeIf (d : CerData) (s s' : Proxy) (P : Prop) : Prop :=
  ∃ Q, Uses d s s' Q ∧ (P → Q)

namespace SafeIf

variable {d : CerData} {s t s' : Proxy} {P : Prop}

/-- No index is used. -/
lemma none (h : s'.accesses = s.accesses) : SafeIf d s s' P := ⟨True, .none h, fun _ => trivial⟩

/-- One index is used. -/
lemma one {a : Access} (h : s'.accesses = a :: s.accesses) (ha : P → d.Has a) : SafeIf d s s' P :=
  ⟨d.Has a, .one h, ha⟩

/-- Indices are used one after the other. -/
lemma trans (h : SafeIf d s t P) (h' : SafeIf d t s' P) : SafeIf d s s' P := by
  obtain ⟨Q, hQ, hP⟩ := h
  obtain ⟨Q', hQ', hP'⟩ := h'
  exact ⟨Q ∧ Q', hQ.trans hQ', fun hp => ⟨hP hp, hP' hp⟩⟩

/-- They are all inside the tables. -/
lemma uses (h : SafeIf d s s' True) : Uses d s s' True := by
  obtain ⟨Q, hQ, hP⟩ := h
  exact hQ.congr (iff_of_true (hP trivial) trivial)

end SafeIf

/-- Indices that are inside the tables are used before others. -/
lemma SafeIf.andThen {d : CerData} {s t s' : Proxy} {P : Prop} (h : SafeIf d s t P)
    (h' : Uses d t s' P) : Uses d s s' P := by
  obtain ⟨Q, hQ, hP⟩ := h
  exact (hQ.trans h').congr (and_iff_right_of_imp hP)

/-- Indices that are inside the tables are used after others. -/
lemma Uses.andThen {d : CerData} {s t s' : Proxy} {P : Prop} (h : Uses d s t P)
    (h' : SafeIf d t s' P) : Uses d s s' P := by
  obtain ⟨Q, hQ, hP⟩ := h'
  exact (h.trans hQ).congr (and_iff_left_of_imp hP)

/-! ## Queues -/

namespace Proxy

variable {d : CerData} {s s' : Proxy}

/-- An attempt to queue a message uses the index of its server connection when the queue is
full. -/
lemma uses_queueIf (d : CerData) (s : Proxy) (up : Prop) [Decidable up] (sock : ℤ) (m : Message) :
    Uses d s (s.queueIf up sock m).1
      (up ∧ s.QueueFull sock → d.Has (.connection m.diaServerConnection)) := by
  rcases s.queueIf_cases up sock m with ⟨-, hnot, hq⟩ | ⟨-, hup, hfull, hq⟩ | ⟨hacc, hq⟩
  · rw [hq]
    exact (Uses.none rfl).congr (iff_of_true trivial fun h => absurd h hnot)
  · rw [hq]
    exact (Uses.one rfl).congr ⟨fun h _ => h, fun h => h ⟨hup, hfull⟩⟩
  · rw [hq]
    exact (Uses.none rfl).congr (iff_of_true trivial fun h => absurd h.2 hacc.2.1)

/-- Giving a queue up uses the indices in its messages. -/
lemma uses_cleanPendingMessages (d : CerData) (s : Proxy) (sock : ℤ) :
    Uses d s (s.cleanPendingMessages sock) (∀ m ∈ s.queueOf sock,
      d.Has (.transaction m.transaction) ∧ d.Has (.connection m.diaServerConnection)) := by
  have hfold : ∀ (queue : List Message) (s : Proxy), Uses d s (queue.foldl cleanMessage s)
      (∀ m ∈ queue, d.Has (.transaction m.transaction) ∧
        d.Has (.connection m.diaServerConnection)) := by
    intro queue
    induction queue with
    | nil => exact fun s => (Uses.none rfl).congr (by simp)
    | cons m rest ih =>
      intro s
      have hm : Uses d s (s.cleanMessage m) (d.Has (.transaction m.transaction) ∧
          d.Has (.connection m.diaServerConnection)) := by
        have hclear : Uses d s (s.setTransaction m.transaction Transaction.clear)
            (d.Has (.transaction m.transaction)) := Uses.one rfl
        exact hclear.trans (Uses.one rfl)
      exact (hm.trans (ih _)).congr (by rw [List.forall_mem_cons])
  unfold cleanPendingMessages queueOf
  cases hlookup : s.mPendingToSend.lookup sock with
  | none => exact (Uses.none rfl).congr (by simp)
  | some queue => exact hfold queue _

/-- No answer is waiting in the queue of a descriptor. -/
def OnlyRequestsWait (s : Proxy) (sock : ℤ) : Prop := ∀ m ∈ s.queueOf sock, m.IsRequest

instance (s : Proxy) (sock : ℤ) : Decidable (s.OnlyRequestsWait sock) :=
  inferInstanceAs (Decidable (∀ m ∈ s.queueOf sock, m.IsRequest))

end Proxy

/-- A queue can be given up when no answer is waiting in it. -/
lemma References.uses_cleanPendingMessages {s : Proxy} (h : References s) (sock : ℤ) :
    Uses s.cerData s (s.cleanPendingMessages sock) (s.OnlyRequestsWait sock) := by
  refine (s.uses_cleanPendingMessages s.cerData sock).congr (forall₂_congr fun m hm => ?_)
  have hrefs := h.of_queueOf hm
  constructor
  · rintro ⟨⟨h0, -⟩, -⟩
    by_contra hnot
    rw [hrefs.answer hnot] at h0
    exact absurd h0 (by decide)
  · exact fun hreq => ⟨hrefs.slot hreq, hrefs.connection⟩

namespace Proxy

variable {d : CerData} {s s' : Proxy}

/-- Rebuilding the descriptor set of a thread uses the indices of its clients. -/
lemma uses_rebuildFds (d : CerData) (s : Proxy) (thread : ℕ) : Uses d s (s.rebuildFds thread)
    (∀ i ∈ (s.clientThread thread).conectionClients, d.Has (.client i)) := by
  unfold rebuildFds
  generalize (s.clientThread thread).conectionClients = clients
  induction clients generalizing s with
  | nil => exact (Uses.none rfl).congr (by simp)
  | cons i rest ih =>
    rw [List.foldl_cons]
    exact ((Uses.one (a := .client i) rfl).trans (ih _)).congr (by rw [List.forall_mem_cons])

/-- Taking a free transaction slot uses the index of the slot, or of the next one. -/
lemma safeIf_findTransaction {P : Prop} (hlen : s.vTransaction.length = d.numberOfTransactions)
    (hcur : s.nextTransaction < s.vTransaction.length) :
    SafeIf d s s.findTransaction.1 P ∧
      ∀ slot, s.findTransaction.2 = some slot → d.Has (.transaction slot) := by
  have hbelow : ∀ {i : ℕ}, i < s.vTransaction.length → Below d.numberOfTransactions i :=
    fun hi => ⟨Int.natCast_nonneg _, Int.ofNat_lt.mpr (hlen ▸ hi)⟩
  rcases s.findTransaction_cases hcur with ⟨i, next, hi, -, -, hfind⟩ | ⟨-, next, hnext, hfind⟩
  · rw [hfind]
    refine ⟨.one (a := .transaction i) rfl fun _ => hbelow hi, ?_⟩
    rintro slot ⟨⟩
    exact hbelow hi
  · rw [hfind]
    exact ⟨.one (a := .transaction s.nextTransaction) rfl fun _ => hbelow hcur,
      fun slot hslot => by cases hslot⟩

/-- An attempt to queue a message is safe when its server connection is inside the table. -/
lemma safeIf_queueIf {P : Prop} (s : Proxy) (up : Prop) [Decidable up] (sock : ℤ) {m : Message}
    (hm : P → d.Has (.connection m.diaServerConnection)) :
    SafeIf d s (s.queueIf up sock m).1 P :=
  ⟨_, s.uses_queueIf d up sock m, fun h _ => hm h⟩

end Proxy

/-! ## Messages of clients -/

namespace References

variable {s : Proxy}

/-- The first sections of `closeClient` use the indices of the waiting messages. -/
lemma uses_closeSocket_cleanQueue (h : References s) (nr : ℕ) :
    Uses s.cerData s ((s.closeSocket nr).cleanQueue nr) (s.OnlyRequestsWait (s.client nr).sock) := by
  have hclosed : References (s.closeSocket nr) := { h with }
  exact Uses.after (Uses.none rfl) (hclosed.uses_cleanPendingMessages (s.client nr).sock) trivial

/-- The last sections of `closeClient` use indices of clients only. -/
lemma safeIf_leaveThread {d : CerData} {s : Proxy} {thread nr : ℕ} {P : Prop}
    (hnr : d.Has (.client nr))
    (hthread : ∀ i ∈ ((((s.resetClient nr).leaveThread thread nr).rebuildFds thread).clientThread
      thread).conectionClients, d.Has (.client i)) :
    SafeIf d s (((s.resetClient nr).leaveThread thread nr).rebuildFds thread) P := by
  have hreset : SafeIf d s (s.resetClient nr) P := .one rfl fun _ => hnr
  have hleave : SafeIf d (s.resetClient nr) ((s.resetClient nr).leaveThread thread nr) P :=
    .one rfl fun _ => hnr
  refine (hreset.trans hleave).trans ⟨_, Proxy.uses_rebuildFds d _ thread, fun _ => ?_⟩
  obtain ⟨accesses, threads, -, -, hsame⟩ :=
    ((s.resetClient nr).leaveThread thread nr).rebuildFds_eq thread
  rw [(hsame thread).2] at hthread
  exact hthread

/-- Closing a client uses the indices of the waiting messages and of its server connection. -/
lemma uses_closeClient (h : References s) {thread nr : ℕ} (hnr : nr < s.vClient.length) :
    Uses s.cerData s (s.closeClient thread nr)
      (((s.client nr).sock ≠ -1 → s.OnlyRequestsWait (s.client nr).sock) ∧
        (s.client nr).diaServerConnection ≠ -1) := by
  have hclient : s.cerData.Has (.client nr) :=
    ⟨Int.natCast_nonneg nr, Int.ofNat_lt.mpr (h.clients ▸ hnr)⟩
  have hfinal : ∀ i ∈ ((s.closeClient thread nr).clientThread thread).conectionClients,
      s.cerData.Has (.client i) := by
    have hcer : (s.closeClient thread nr).cerData = s.cerData := by
      obtain ⟨threads, ⟨_, _, _, _, heq⟩, -⟩ := s.closeClient_eq thread nr
      rw [heq]
      rfl
    exact fun i hi => hcer ▸ (h.closeClient thread nr).thread thread i hi
  have hoff : References (s.markOffline nr) :=
    (h.setClients nr (f := fun c => { c with status := .offline })
      fun c hc => ⟨hc.dia, hc.ism, hc.esm, hc.pos⟩).logged ⟨_, _, _, _, rfl⟩
  have hkept : ∀ g : ClientConnection → ℤ, (∀ c : ClientConnection,
      g { c with status := .offline } = g c) → g ((s.markOffline nr).client nr) = g (s.client nr) :=
    fun g hg => Proxy.client_setClient_field g hg
  have hsock := hkept ClientConnection.sock fun _ => rfl
  have hdia := hkept ClientConnection.diaServerConnection fun _ => rfl
  have hmark : Uses s.cerData s (s.markOffline nr) True :=
    (Uses.one rfl).congr (iff_of_true hclient trivial)
  unfold Proxy.closeClient at hfinal ⊢
  dsimp only at hfinal ⊢
  -- what is left of the record after the descriptor was closed
  have hclean : ∃ t : Proxy, (if ((s.markOffline nr).client nr).sock ≠ -1 then
        ((s.markOffline nr).closeSocket nr).cleanQueue nr else s.markOffline nr) = t ∧
      (t.client nr).diaServerConnection = (s.client nr).diaServerConnection ∧
      Uses s.cerData (s.markOffline nr) t
        ((s.client nr).sock ≠ -1 → s.OnlyRequestsWait (s.client nr).sock) := by
    rw [hsock]
    by_cases hne : (s.client nr).sock ≠ -1
    · refine ⟨_, if_pos hne, ?_, ?_⟩
      · rw [((s.markOffline nr).closeSocket_cleanQueue_eq nr).client_eq]
        exact hdia
      · have huses := hoff.uses_closeSocket_cleanQueue nr
        rw [hsock] at huses
        exact huses.congr ⟨fun honly _ => honly, fun honly => honly hne⟩
    · exact ⟨_, if_neg hne, hdia, (Uses.none rfl).congr (iff_of_true trivial fun hs => absurd hs hne)⟩
  obtain ⟨t, ht, htdia, hclean⟩ := hclean
  rw [ht] at hfinal ⊢
  have hleave : Uses s.cerData t (t.leaveConnection nr) ((s.client nr).diaServerConnection ≠ -1) := by
    have hone : Uses s.cerData t (t.leaveConnection nr)
      (s.cerData.Has (.connection (t.client nr).diaServerConnection)) := Uses.one rfl
    rw [htdia] at hone
    exact hone.congr (h.client nr).dia.below_iff
  exact (hmark.after (hclean.trans hleave) trivial).andThen (safeIf_leaveThread hclient hfinal)

/-- A slot that passes the test of the handlers is inside the table. -/
lemma has_namedSlot (h : References s) {buff : Mem}
    (hslot : ¬ namedSlot buff > s.vTransaction.length - 1) :
    s.cerData.Has (.transaction (namedSlot buff)) := by
  have hpos := s.cerData.transactions_pos
  rw [h.transactions] at hslot
  exact ⟨Int.natCast_nonneg _, Int.ofNat_lt.mpr (by omega)⟩

/-- An answer of a client uses the server connection noted in the slot that it names. -/
lemma uses_clientAnswer (h : References s) (thread nr : ℕ) {buff : Mem} (toreceive answers : ℕ)
    (hslot : ¬ namedSlot buff > s.vTransaction.length - 1) :
    Uses s.cerData s (s.clientAnswer thread nr buff toreceive answers).1
      ((s.transaction (namedSlot buff)).answerToDiaServerConnection ≠ -1) := by
  have hhas := h.has_namedSlot hslot
  rw [Proxy.clientAnswer_of_le s thread nr toreceive answers hslot]
  generalize (namedSlot buff : ℤ) = slot at hhas ⊢
  have hread : Uses s.cerData s (s.uses (.transaction slot)) True :=
    (Uses.one rfl).congr (iff_of_true hhas trivial)
  have hreceive : Uses s.cerData s (s.receiveAnswer slot)
      ((s.transaction slot).answerToDiaServerConnection ≠ -1) :=
    (hread.after (Uses.one (a := .connection (s.transaction slot).answerToDiaServerConnection) rfl)
      trivial).congr (h.transaction slot).answerTo.below_iff
  have hcon : (s.transaction slot).answerToDiaServerConnection ≠ -1 →
      s.cerData.Has (.connection ((s.receiveAnswer slot).answerConIndex slot)) ∧
        s.cerData.Has (.connection (toInt ((s.receiveAnswer slot).answerConIndex slot))) := by
    intro hne
    obtain ⟨hindex, hint⟩ := h.answerConIndex hne
    have hsame : (s.receiveAnswer slot).answerConIndex slot = s.answerConIndex slot := rfl
    have hbelow := (h.transaction slot).answerTo.below_iff.mpr hne
    rw [hsame, hint, hindex]
    exact ⟨hbelow, hbelow⟩
  generalize s.receiveAnswer slot = t at hreceive hcon ⊢
  have hqueue : SafeIf s.cerData t (t.queueAnswerToServer slot buff toreceive).1
      ((s.transaction slot).answerToDiaServerConnection ≠ -1) :=
    SafeIf.trans (.one (a := .connection (t.answerConIndex slot)) rfl fun hne => (hcon hne).1)
      (Proxy.safeIf_queueIf _ _ _ fun hne => (hcon hne).2)
  generalize (t.queueAnswerToServer slot buff toreceive).2 = inserted
  generalize (t.queueAnswerToServer slot buff toreceive).1 = u at hqueue ⊢
  have hdiscard : SafeIf s.cerData u (u.discardAnswerIf inserted (t.answerConIndex slot))
      ((s.transaction slot).answerToDiaServerConnection ≠ -1) := by
    unfold Proxy.discardAnswerIf
    split_ifs
    · exact .none rfl
    · exact .one rfl fun hne => (hcon hne).1
  exact hreceive.andThen ((hqueue.trans hdiscard).trans (.one rfl fun _ => hhas))

/-- A request of a client uses its server connection. -/
lemma uses_clientRequest (h : References s) (hcur : s.nextTransaction < s.vTransaction.length)
    (nr sender counterE2e : ℕ) (buff : Mem) (toreceive : ℕ) :
    Uses s.cerData s (s.clientRequest nr sender counterE2e buff toreceive).1
      ((s.client nr).diaServerConnection ≠ -1) := by
  have hcon : (s.client nr).diaServerConnection ≠ -1 →
      s.cerData.Has (.connection (s.client nr).diaServerConnection) :=
    (h.client nr).dia.below_iff.mpr
  have hreceive : Uses s.cerData s (s.receiveRequest nr) ((s.client nr).diaServerConnection ≠ -1) :=
    (Uses.one (a := .connection (s.client nr).diaServerConnection) rfl).congr
      (h.client nr).dia.below_iff
  have hlog : Proxy.Logged { s with requests := s.requests + 1 } (s.receiveRequest nr) :=
    ⟨_, _, _, _, rfl⟩
  obtain ⟨hfind, htaken⟩ := Proxy.safeIf_findTransaction (d := s.cerData)
    (P := (s.client nr).diaServerConnection ≠ -1) (s := s.receiveRequest nr) h.transactions hcur
  unfold Proxy.clientRequest
  dsimp only
  rcases hlog.findTransaction_cases hcur with ⟨slot, next, t, -, -, -, heq, ht⟩ | ⟨-, next, t, -, heq, -⟩
  · rw [heq] at hfind htaken ⊢
    dsimp only
    have hhas := htaken slot rfl
    generalize s.requestTag nr sender s.requests buff = tag
    have hfill : SafeIf s.cerData t (t.fillTransaction slot tag)
        ((s.client nr).diaServerConnection ≠ -1) := .one rfl fun _ => hhas
    have hdia : ((t.fillTransaction slot tag).client nr).diaServerConnection =
        (s.client nr).diaServerConnection := by
      obtain ⟨_, _, _, _, rfl⟩ := ht
      rfl
    generalize t.fillTransaction slot tag = u at hfill hdia ⊢
    rw [← hdia] at hcon
    have hqueue : SafeIf s.cerData u (u.queueRequestToServer nr
        (u.requestToServerMessage nr counterE2e tag buff toreceive slot)).1
        ((u.client nr).diaServerConnection ≠ -1) :=
      SafeIf.trans (.one (a := .connection (u.client nr).diaServerConnection) rfl hcon)
        (Proxy.safeIf_queueIf _ _ _ hcon)
    generalize u.queueRequestToServer nr _ = queued at hqueue ⊢
    have hrefuse : SafeIf s.cerData queued.1
        (queued.1.refuseRequestIf queued.2 slot (s.client nr).diaServerConnection tag.id)
        ((u.client nr).diaServerConnection ≠ -1) := by
      unfold Proxy.refuseRequestIf
      split_ifs
      · exact .none rfl
      · rw [← hdia]
        exact SafeIf.trans (.one (a := .transaction slot) rfl fun _ => hhas) (.one rfl hcon)
    rw [hdia] at hqueue hrefuse
    exact hreceive.andThen (((hfind.trans hfill).trans hqueue).trans hrefuse)
  · rw [heq] at hfind ⊢
    exact hreceive.andThen (hfind.trans (.one rfl hcon))

/-- The choice of the server connection uses the index of the client. -/
lemma safeIf_selectConnection {d : CerData} {s t : Proxy} {P : Prop} {nr : ℕ} {buff : Mem}
    {toreceive : ℕ} (hnr : d.Has (.client nr))
    (hselect : s.selectConnection nr buff toreceive = some t) : SafeIf d s t P := by
  have hset : ∀ f : ClientConnection → ClientConnection, SafeIf d s (s.setClient nr f) P :=
    fun f => .one rfl fun _ => hnr
  unfold Proxy.selectConnection at hselect
  dsimp only at hselect
  split_ifs at hselect with hport hism hslh hesm
  · exact Option.some.inj hselect ▸ .none rfl
  · exact Option.some.inj hselect ▸ hset _
  · split at hselect
    · split_ifs at hselect
      · exact Option.some.inj hselect ▸ hset _
      · exact Option.some.inj hselect ▸ hset _
    · exact Option.some.inj hselect ▸ .none rfl
    · cases hselect
    · cases hselect
  · exact Option.some.inj hselect ▸ hset _
  · exact Option.some.inj hselect ▸ .none rfl

end References

/-- The records that a message of a client is handled with refer to something: the slot that an
answer names to the server connection of its request, and the client to its own. -/
def Proxy.ClientRefersTo (s : Proxy) (nr : ℕ) (buff : Mem) : Prop :=
  if buff.cmdCode = cmdCodeCer then True
  else if buff.cmdCode ∈ serverRequestCodes then
    if namedSlot buff > s.vTransaction.length - 1 then
      -- the client is closed
      ((s.client nr).sock ≠ -1 → s.OnlyRequestsWait (s.client nr).sock) ∧
        (s.client nr).diaServerConnection ≠ -1
    else (s.transaction (namedSlot buff)).answerToDiaServerConnection ≠ -1
  else (s.client nr).diaServerConnection ≠ -1

instance (s : Proxy) (nr : ℕ) (buff : Mem) : Decidable (s.ClientRefersTo nr buff) := by
  unfold Proxy.ClientRefersTo
  infer_instance

/-- The indices used for a message of a client are inside the tables exactly if the records refer to
something. -/
theorem References.uses_clientMessage {s : Proxy} (h : References s)
    (hcur : s.nextTransaction < s.vTransaction.length) {nr : ℕ} (hnr : nr < s.vClient.length)
    (thread sender counterE2e : ℕ) (buff : Mem) (toreceive answers : ℕ) :
    Uses s.cerData s (s.clientMessage thread nr sender counterE2e buff toreceive answers).1
      (∀ t, s.selectConnection nr buff toreceive = some t → t.ClientRefersTo nr buff) := by
  unfold Proxy.clientMessage
  cases hselect : s.selectConnection nr buff toreceive with
  | none => exact (Uses.none rfl).congr (iff_of_true trivial fun t ht => by cases ht)
  | some t =>
    have ht : References t := h.selectConnection hselect
    obtain ⟨hcer, hcur', hlen⟩ : t.cerData = s.cerData ∧
        t.nextTransaction < t.vTransaction.length ∧ t.vClient.length = s.vClient.length := by
      obtain ⟨choice, accesses, rfl, -⟩ := Proxy.selectConnection_eq hselect
      exact ⟨rfl, hcur, by rw [Table.length_modify]⟩
    have hchoose : Uses t.cerData s t True :=
      (safeIf_selectConnection ⟨Int.natCast_nonneg nr, Int.ofNat_lt.mpr (ht.clients ▸ hlen ▸ hnr)⟩
        hselect).uses
    rw [← hcer]
    refine (hchoose.after ?_ trivial).congr ⟨fun hrefers u hu => Option.some.inj hu ▸ hrefers,
      fun hrefers => hrefers t rfl⟩
    unfold Proxy.ClientRefersTo
    dsimp only
    split_ifs with hcode hanswer hslot
    · rcases t.clientCer_eq nr sender buff toreceive with heq | ⟨name, heq⟩
      · rw [heq]
        exact .none rfl
      · rw [heq]
        exact .none rfl
    · unfold Proxy.clientAnswer
      rw [if_pos hslot]
      exact ht.uses_closeClient (hlen ▸ hnr)
    · exact ht.uses_clientAnswer thread nr toreceive answers hslot
    · exact ht.uses_clientRequest hcur' nr sender counterE2e buff toreceive

/-! ## Answers of the server -/

/-- The scan for a pair ends and nothing is thrown. -/
def Scan.Completes {α : Type*} : Scan α → Prop
  | .found _ => True
  | .notFound => True
  | .throws => False
  | .loops => False

instance {α : Type*} (r : Scan α) : Decidable r.Completes := by
  cases r <;> unfold Scan.Completes <;> infer_instance

/-- The scans that the reports make of an answer of the server complete. -/
def Proxy.ReportsComplete (s : Proxy) (slot : ℤ) (buff : Mem) (dpSize : ℕ) : Prop :=
  (s.cerData.diaErrCountersReportRunning → (extractResultCodeAVP buff dpSize).Completes) ∧
    (s.cerData.latencyReportRunning ∧ (s.transaction slot).requestTime ≠ 0 →
      (extractAVP buff dpSize sessionIdCode).Completes)

instance (s : Proxy) (slot : ℤ) (buff : Mem) (dpSize : ℕ) :
    Decidable (s.ReportsComplete slot buff dpSize) := inferInstanceAs (Decidable (_ ∧ _))

/-- Counting the result of an answer. -/
lemma Proxy.counted_cases {d : CerData} {P : Prop} (s : Proxy) {c : ℕ} (buff : Mem) (dpSize : ℕ)
    (hc : d.Has (.connection c)) (counted : Option Proxy)
    (hcounted : counted = (if s.cerData.diaErrCountersReportRunning then
        match extractResultCodeAVP buff dpSize with
        | .found value => some (s.count c fun d => d.result (some value))
        | .notFound => some (s.count c fun d => d.result none)
        | _ => none
      else some s)) :
    ((s.cerData.diaErrCountersReportRunning → (extractResultCodeAVP buff dpSize).Completes) ∧
      ∃ t, counted = some t ∧ SafeIf d s t P) ∨
    (¬ (s.cerData.diaErrCountersReportRunning → (extractResultCodeAVP buff dpSize).Completes) ∧
      counted = none) := by
  have hcount : ∀ f, SafeIf d s (s.count c f) P := fun f => .one rfl fun _ => hc
  subst hcounted
  by_cases hrun : s.cerData.diaErrCountersReportRunning = true
  · rw [if_pos hrun]
    cases extractResultCodeAVP buff dpSize with
    | found value => exact Or.inl ⟨fun _ => trivial, _, rfl, hcount _⟩
    | notFound => exact Or.inl ⟨fun _ => trivial, _, rfl, hcount _⟩
    | throws => exact Or.inr ⟨fun h => h hrun, rfl⟩
    | loops => exact Or.inr ⟨fun h => h hrun, rfl⟩
  · rw [if_neg hrun]
    exact Or.inl ⟨fun h => absurd h hrun, _, rfl, .none rfl⟩

/-- The reports use the index of the server connection. -/
lemma Proxy.reportAnswer_cases {d : CerData} {P : Prop} (s : Proxy) {c : ℕ} (slot : ℤ) (buff : Mem)
    (dpSize : ℕ) (hc : d.Has (.connection c)) :
    (s.ReportsComplete slot buff dpSize ∧
      ∃ t, s.reportAnswer c slot buff dpSize = some t ∧ SafeIf d s t P) ∨
    (¬ s.ReportsComplete slot buff dpSize ∧ s.reportAnswer c slot buff dpSize = none) := by
  unfold Proxy.reportAnswer Proxy.ReportsComplete
  dsimp only
  have hcounted := s.counted_cases (P := P) buff dpSize hc
  generalize (if s.cerData.diaErrCountersReportRunning then _ else some s) = counted at hcounted ⊢
  specialize hcounted counted rfl
  by_cases hlatency : s.cerData.latencyReportRunning ∧ (s.transaction slot).requestTime ≠ 0
  · rw [if_pos hlatency]
    cases extractAVP buff dpSize sessionIdCode with
    | found value =>
      exact hcounted.imp (fun h => ⟨⟨h.1, fun _ => trivial⟩, h.2⟩)
        fun h => ⟨fun hboth => h.1 hboth.1, h.2⟩
    | notFound =>
      exact hcounted.imp (fun h => ⟨⟨h.1, fun _ => trivial⟩, h.2⟩)
        fun h => ⟨fun hboth => h.1 hboth.1, h.2⟩
    | throws => exact Or.inr ⟨fun hboth => hboth.2 hlatency, rfl⟩
    | loops => exact Or.inr ⟨fun hboth => hboth.2 hlatency, rfl⟩
  · rw [if_neg hlatency]
    exact hcounted.imp (fun h => ⟨⟨h.1, fun hl => absurd hl hlatency⟩, h.2⟩)
      fun h => ⟨fun hboth => h.1 hboth.1, h.2⟩

/-- An answer of the server uses the client noted in the slot that it names. -/
lemma References.uses_serverAnswer {s : Proxy} (h : References s) {c : ℕ}
    (hc : c < s.vConnections.length)
    (hpos : Below s.cerData.numberOfConnections (s.connection c).pos) (buff : Mem)
    (dpSize answers : ℕ) :
    Uses s.cerData s (s.serverAnswer c buff dpSize answers)
      (¬ namedSlot buff > s.vTransaction.length - 1 → s.ReportsComplete (namedSlot buff) buff dpSize →
        (s.transaction (namedSlot buff)).client ≠ -1) := by
  have hcon : s.cerData.Has (.connection c) :=
    ⟨Int.natCast_nonneg c, Int.ofNat_lt.mpr (h.connections ▸ hc)⟩
  have hreceive : Uses s.cerData s (s.receiveServerAnswer c) True :=
    (Uses.one rfl).congr (iff_of_true hcon trivial)
  unfold Proxy.serverAnswer
  dsimp only
  by_cases hslot : namedSlot buff > s.vTransaction.length - 1
  · rw [if_pos (show namedSlot buff > (s.receiveServerAnswer c).vTransaction.length - 1 from hslot)]
    exact (hreceive.andThen (.one rfl fun _ => hcon)).congr
      (iff_of_true trivial fun hnot => absurd hslot hnot)
  · rw [if_neg (show ¬ namedSlot buff > (s.receiveServerAnswer c).vTransaction.length - 1 from hslot)]
    have hhas := h.has_namedSlot hslot
    generalize (namedSlot buff : ℤ) = slot at hhas ⊢
    have hread : Uses s.cerData s ((s.receiveServerAnswer c).uses (.transaction slot)) True :=
      hreceive.andThen (.one rfl fun _ => hhas)
    rcases ((s.receiveServerAnswer c).uses (.transaction slot)).reportAnswer_cases
      (P := (s.transaction slot).client ≠ -1) slot buff dpSize hcon with
      ⟨hcomplete, t, ht, hreport⟩ | ⟨hnot, hnone⟩
    · have hlog := (Proxy.logged_count _ _ _).trans
        ((Proxy.logged_uses (s.receiveServerAnswer c) (.transaction slot)).trans
          (Proxy.reportAnswer_logged ht))
      rw [ht]
      dsimp only
      rw [hlog.transaction_eq]
      have hmessage : (t.answerToClientMessage c slot buff dpSize).diaServerConnection =
          (s.connection c).pos := congrArg DiaServerConnection.pos (hlog.connection_eq c)
      generalize t.answerToClientMessage c slot buff dpSize = m at hmessage ⊢
      have href := (h.transaction slot).client
      generalize (s.transaction slot).client = client at href hreport ⊢
      have hused : Uses s.cerData t (t.uses (.client client)) (client ≠ -1) :=
        (Uses.one (a := .client client) rfl).congr href.below_iff
      have hqueue : Uses s.cerData t (t.queueForClient client m).1 (client ≠ -1) :=
        hused.andThen (Proxy.safeIf_queueIf _ _ _ fun _ => hmessage ▸ hpos)
      generalize t.queueForClient client m = queued at hqueue ⊢
      have hnote : SafeIf s.cerData queued.1 (queued.1.noteAnswer queued.2 c client) (client ≠ -1) := by
        unfold Proxy.noteAnswer
        split_ifs
        · exact .one rfl href.below_iff.mpr
        · exact .one rfl fun _ => hcon
      have hsettle : SafeIf s.cerData (queued.1.noteAnswer queued.2 c client)
          ((queued.1.noteAnswer queued.2 c client).settleServerAnswer slot answers) (client ≠ -1) :=
        .one (a := .transaction slot) rfl fun _ => hhas
      refine (hread.after (hreport.andThen ((hqueue.andThen hnote).andThen hsettle)) trivial).congr ?_
      exact ⟨fun hne _ _ => hne, fun hall => hall hslot hcomplete⟩
    · rw [hnone]
      exact hreceive.congr (iff_of_true trivial fun _ hcomplete => absurd hcomplete hnot)

/-! ## Requests of the server -/

/-- The session whose client gets a request of the server: that of the destination host, else that
of the user name. -/
def Proxy.sessionFor (s : Proxy) (userName destHost : List UInt8) : Option Session :=
  (s.mSession destHost).or (s.mSession userName)

namespace References

variable {s : Proxy} {P : Prop}

/-- The search for a client uses an index inside the table. -/
lemma safeIf_findClient (h : References s) (test : ClientConnection → Bool) :
    SafeIf s.cerData s (s.findClient test).1 P :=
  .one (a := .client s.nextClient) rfl fun _ =>
    ⟨Int.natCast_nonneg _, Int.ofNat_lt.mpr h.cursor⟩

/-- So does the search for a client that waits, or else for any client. -/
lemma safeIf_findUsedClient (h : References s) : SafeIf s.cerData s s.findUsedClient.1 P := by
  have hwaiting := h.findClient fun c => c.status = .online ∧ c.waitingAnswer
  have huses := h.safeIf_findClient (P := P) fun c => c.status = .online ∧ c.waitingAnswer
  have hcer : (s.findClient fun c => c.status = .online ∧ c.waitingAnswer).1.cerData = s.cerData :=
    rfl
  unfold Proxy.findUsedClient Proxy.findUsedClientWaitingAnswer
  generalize (s.findClient fun c => c.status = .online ∧ c.waitingAnswer) = found at *
  obtain ⟨t, found⟩ := found
  cases found with
  | some i => exact huses
  | none => exact huses.trans (hcer ▸ hwaiting.1.safeIf_findClient fun c => c.status = .online)

/-- The client for a request is that of the session, or one that was searched for. -/
lemma clientFor_cases (h : References s) (userName destHost : List UInt8) :
    SafeIf s.cerData s (s.clientFor userName destHost).1 P ∧
      ((∃ session, s.sessionFor userName destHost = some session ∧
          (s.clientFor userName destHost).2 = some session.client) ∨
        (s.sessionFor userName destHost = none ∧
          ∀ client, (s.clientFor userName destHost).2 = some client → client ≠ -1)) := by
  unfold Proxy.clientFor Proxy.sessionFor
  cases hdest : s.mSession destHost with
  | some session => exact ⟨.none rfl, Or.inl ⟨session, rfl, rfl⟩⟩
  | none =>
    dsimp only
    rw [Option.none_or]
    cases huser : s.mSession userName with
    | some session => exact ⟨.none rfl, Or.inl ⟨session, rfl, rfl⟩⟩
    | none =>
      dsimp only
      have huses := h.safeIf_findUsedClient (P := P)
      cases hfind : s.findUsedClient with
      | mk t found =>
        rw [hfind] at huses
        cases found with
        | some i =>
          refine ⟨huses, Or.inr ⟨rfl, ?_⟩⟩
          rintro client ⟨⟩
          exact fun hne => absurd (hne ▸ Int.natCast_nonneg i) (by decide)
        | none => exact ⟨huses, Or.inr ⟨rfl, fun client hclient => by cases hclient⟩⟩

/-- A request of the server that gets a slot uses the index of its client. -/
lemma uses_forwardServerRequest (h : References s)
    (hcur : s.nextTransaction < s.vTransaction.length) {c : ℕ} {client : ℤ}
    (hcon : s.cerData.Has (.connection c))
    (hpos : Below s.cerData.numberOfConnections (s.connection c).pos)
    (href : Reference s.cerData.numberOfClients client) (id : ℕ) (buff : Mem) (dpSize : ℕ) :
    Uses s.cerData s (s.forwardServerRequest c id client buff dpSize)
      (s.HasFreeTransaction → client ≠ -1) := by
  have hfind := fun P : Prop =>
    (Proxy.safeIf_findTransaction (d := s.cerData) (P := P) h.transactions hcur).1
  have htaken := (Proxy.safeIf_findTransaction (d := s.cerData) (P := True) h.transactions hcur).2
  unfold Proxy.forwardServerRequest
  dsimp only
  generalize Proxy.serverRequestTag c id client buff = tag
  rcases s.findTransaction_cases hcur with ⟨slot, next, hslot, hfree, -, heq⟩ | ⟨hnone, next, -, heq⟩
  · rw [heq] at hfind htaken ⊢
    dsimp only at hfind htaken ⊢
    have hhas := htaken slot rfl
    generalize ht : ({ s.setTransaction slot _ with nextTransaction := next } : Proxy) = t at hfind ⊢
    have htpos : ((t.fillServerTransaction slot tag (t.connection c).pos).connection c).pos =
        (s.connection c).pos := by rw [← ht]; rfl
    have hfill : SafeIf s.cerData t (t.fillServerTransaction slot tag (t.connection c).pos)
        (client ≠ -1) := .one (a := .transaction slot) rfl fun _ => hhas
    generalize t.fillServerTransaction slot tag _ = u at htpos hfill ⊢
    have hused : Uses s.cerData u (u.uses (.client client)) (client ≠ -1) :=
      (Uses.one (a := .client client) rfl).congr href.below_iff
    have hqueue : Uses s.cerData u
        (u.queueForClient client (u.requestToClientMessage c tag buff dpSize slot)).1
        (client ≠ -1) :=
      hused.andThen (Proxy.safeIf_queueIf _ _ _ fun _ => by
        change Below _ (u.connection c).pos
        rw [htpos]
        exact hpos)
    generalize u.queueForClient client _ = queued at hqueue ⊢
    have hrefuse : SafeIf s.cerData queued.1 (queued.1.refuseServerRequestIf queued.2 c slot)
        (client ≠ -1) := by
      unfold Proxy.refuseServerRequestIf
      split_ifs
      · exact .none rfl
      · exact SafeIf.trans (.one (a := .connection c) rfl fun _ => hcon)
          (.one (a := .transaction slot) rfl fun _ => hhas)
    refine (((hfind _).trans hfill).andThen (hqueue.andThen hrefuse)).congr ?_
    exact ⟨fun hne _ => hne, fun hall => hall ⟨slot, hslot, hfree⟩⟩
  · rw [heq] at hfind ⊢
    dsimp only at hfind ⊢
    generalize ({ s.uses _ with nextTransaction := next } : Proxy) = t at hfind ⊢
    have hdiscard : SafeIf s.cerData t (t.discardServerRequest c) True :=
      .one (a := .connection c) rfl fun _ => hcon
    exact ((hfind True).trans hdiscard).uses.congr
      (iff_of_true trivial fun hsome => absurd hsome hnone)

/-- A request of the server uses the client of the session that it is for. -/
lemma uses_serverRequest (h : References s) (hcur : s.nextTransaction < s.vTransaction.length)
    {c : ℕ} (hc : c < s.vConnections.length)
    (hpos : Below s.cerData.numberOfConnections (s.connection c).pos) (buff : Mem) (dpSize : ℕ) :
    Uses s.cerData s (s.serverRequest c buff dpSize)
      (s.HasFreeTransaction →
        match extractAVP buff dpSize userNameCode, extractAVP buff dpSize destinationHostCode with
        | .found userName, .found destHost =>
          ∀ session ∈ s.sessionFor userName destHost, session.client ≠ -1
        | _, _ => True) := by
  have hcon : s.cerData.Has (.connection c) :=
    ⟨Int.natCast_nonneg c, Int.ofNat_lt.mpr (h.connections ▸ hc)⟩
  have hreceive : Uses s.cerData s (s.receiveServerRequest c) True :=
    (Uses.one (a := .connection c) rfl).congr (iff_of_true hcon trivial)
  have hreceived : References (s.receiveServerRequest c) :=
    (h.counted s.nextTransaction (s.requests + 1)).logged ⟨_, _, _, _, rfl⟩
  have hdiscard : ∀ t : Proxy, SafeIf s.cerData t (t.discardServerRequest c) True :=
    fun t => .one (a := .connection c) rfl fun _ => hcon
  unfold Proxy.serverRequest
  dsimp only
  cases extractAVP buff dpSize userNameCode with
  | notFound => exact (hreceive.andThen (hdiscard _)).congr (iff_of_true trivial fun _ => trivial)
  | throws => exact hreceive.congr (iff_of_true trivial fun _ => trivial)
  | loops => exact hreceive.congr (iff_of_true trivial fun _ => trivial)
  | found userName =>
    cases extractAVP buff dpSize destinationHostCode with
    | notFound => exact (hreceive.andThen (hdiscard _)).congr (iff_of_true trivial fun _ => trivial)
    | throws => exact hreceive.congr (iff_of_true trivial fun _ => trivial)
    | loops => exact hreceive.congr (iff_of_true trivial fun _ => trivial)
    | found destHost =>
      dsimp only
      obtain ⟨next, hlog⟩ := (s.receiveServerRequest c).clientFor_logged userName destHost
      have hfor := fun P : Prop => (hreceived.clientFor_cases (P := P) userName destHost).1
      have hchosen := (hreceived.clientFor_cases (P := True) userName destHost).2
      obtain ⟨ht, href⟩ := hreceived.clientFor userName destHost
      generalize (s.receiveServerRequest c).clientFor userName destHost = chosen at *
      obtain ⟨t, found⟩ := chosen
      have hsession : (s.receiveServerRequest c).sessionFor userName destHost =
          s.sessionFor userName destHost := rfl
      rw [hsession] at hchosen
      cases found with
      | none =>
        refine (hreceive.andThen ((hfor True).trans (hdiscard t))).congr
          (iff_of_true trivial fun _ session hs => ?_)
        rcases hchosen with ⟨x, -, hx⟩ | ⟨hnone, -⟩
        · cases hx
        · rw [hnone] at hs
          cases hs
      | some client =>
        have hforward : Uses s.cerData t (t.forwardServerRequest c s.requests client buff dpSize)
            (s.HasFreeTransaction → client ≠ -1) := by
          have href' := href client rfl
          obtain ⟨_, _, _, _, rfl⟩ := hlog
          exact ht.uses_forwardServerRequest hcur hcon hpos href' s.requests buff dpSize
        refine (hreceive.after ((hfor _).andThen hforward) trivial).congr (imp_congr_right fun _ => ?_)
        rcases hchosen with ⟨x, hx, hclient⟩ | ⟨hnone, hclient⟩
        · obtain rfl := Option.some.inj hclient
          rw [hx]
          constructor
          · rintro hne session ⟨⟩
            exact hne
          · exact fun hall => hall x rfl
        · refine iff_of_true (hclient client rfl) fun session hs => ?_
          rw [hnone] at hs
          cases hs

end References

/-- The records that a message of the server is handled with refer to something: the session that a
request is for, and the slot that an answer names, to a client; and when the connection is given up,
no answer is waiting for it. -/
def Proxy.ServerRefersTo (s : Proxy) (c : ℕ) (buff : Mem) (dpSize : ℕ) : Prop :=
  if buff.cmdCode = cmdWatchdog then True
  else if buff.cmdCode = cmdDpr then
    (s.connection c).sockId ≠ -1 → s.OnlyRequestsWait (s.connection c).sockId
  else if buff.cmdCode = cmdRsr then True
  else if buff.cmdCode ∈ serverRequestCodes then
    s.HasFreeTransaction →
      match extractAVP buff dpSize userNameCode, extractAVP buff dpSize destinationHostCode with
      | .found userName, .found destHost =>
        ∀ session ∈ s.sessionFor userName destHost, session.client ≠ -1
      | _, _ => True
  else
    ¬ namedSlot buff > s.vTransaction.length - 1 → s.ReportsComplete (namedSlot buff) buff dpSize →
      (s.transaction (namedSlot buff)).client ≠ -1

/-- Giving a server connection up uses the indices of the waiting messages. -/
lemma References.uses_cleanDiaConnection {s : Proxy} (h : References s) {c : ℕ}
    (hc : s.cerData.Has (.connection c)) : Uses s.cerData s (s.cleanDiaConnection c)
      ((s.connection c).sockId ≠ -1 → s.OnlyRequestsWait (s.connection c).sockId) := by
  unfold Proxy.cleanDiaConnection
  dsimp only
  by_cases hsock : (s.connection c).sockId ≠ -1
  · rw [if_pos hsock]
    have hclean := h.uses_cleanPendingMessages (s.connection c).sockId
    generalize s.cleanPendingMessages (s.connection c).sockId = t at hclean ⊢
    have hlast : SafeIf s.cerData t ((t.closeDescriptor (s.connection c).sockId).setConnection c
        fun d => { d with sockId := -1 }) (s.OnlyRequestsWait (s.connection c).sockId) :=
      .one (a := .connection c) rfl fun _ => hc
    exact (hclean.andThen hlast).congr ⟨fun honly _ => honly, fun honly => honly hsock⟩
  · rw [if_neg hsock]
    exact (Uses.one (a := .connection c) rfl).congr (iff_of_true hc fun hs => absurd hs hsock)

/-- The indices used for a message of the server are inside the tables exactly if the records refer
to something. -/
theorem References.uses_serverMessage {s : Proxy} (h : References s)
    (hcur : s.nextTransaction < s.vTransaction.length) (hends : s.EndpointsOk) {c : ℕ}
    (hc : c < s.vConnections.length) (buff : Mem) (dpSize answers : ℕ) :
    Uses s.cerData s (s.serverMessage c buff dpSize answers) (s.ServerRefersTo c buff dpSize) := by
  have hcon : s.cerData.Has (.connection c) :=
    ⟨Int.natCast_nonneg c, Int.ofNat_lt.mpr (h.connections ▸ hc)⟩
  have hpos := h.below_pos hends hc
  unfold Proxy.serverMessage Proxy.ServerRefersTo
  split_ifs with hwatchdog hdpr hrsr hcode
  · exact .none rfl
  · have hset : Uses s.cerData s (s.setConnection c fun d => { d with status := .disconnected })
        True := (Uses.one (a := .connection c) rfl).congr (iff_of_true hcon trivial)
    have hoff : References (s.setConnection c fun d => { d with status := .disconnected }) :=
      (h.setConnections c fun d => { d with status := .disconnected }).logged ⟨_, _, _, _, rfl⟩
    have hsock : ((s.setConnection c fun d => { d with status := .disconnected }).connection
        c).sockId = (s.connection c).sockId :=
      Table.read_modify_field (t := s.vConnections) (d := {}) (i := c) (j := c)
        DiaServerConnection.sockId fun _ => rfl
    have hclean := hoff.uses_cleanDiaConnection (c := c) hcon
    rw [hsock] at hclean
    exact hset.after hclean trivial
  · exact .none rfl
  · exact h.uses_serverRequest hcur hc hpos buff dpSize
  · exact h.uses_serverAnswer hc hpos buff dpSize answers

/-! ## Runs -/

/-- The event is the handling of a message of a client or of the server. -/
def Event.IsMessage : Event → Prop
  | .clientMessage .. => True
  | .serverMessage .. => True
  | _ => False

/-- Every index that the handler of a message uses is inside its table. -/
def IndicesInRange (s : Proxy) (e : Event) : Prop :=
  e.IsMessage → ∀ s' l, step s e = some s' → s'.accesses = l ++ s.accesses → ∀ a ∈ l, s.InRange a

/-- The records that the handler of a message takes its indices from refer to something. -/
def RefersTo (s : Proxy) : Event → Prop
  | .clientMessage _ nr _ _ buff toreceive _ =>
    ∀ t, s.selectConnection nr buff toreceive = some t → t.ClientRefersTo nr buff
  | .serverMessage c buff dpSize _ => s.ServerRefersTo c buff dpSize
  | _ => True

/-- What the indices are taken from, and what they are used on. -/
structure IndexInv (s : Proxy) : Prop where
  sized : Sized s
  endpoints : s.EndpointsOk
  references : References s

/-- Every step keeps the invariant. -/
lemma IndexInv.step {s s' : Proxy} {e : Event} (h : IndexInv s) (hstep : step s e = some s') :
    IndexInv s' where
  sized := (sized_isInvariant .none).of_step h.sized (Limits.none_allows s e) hstep h.sized
  endpoints :=
    (endpointsOk_isInvariant .none).of_step h.sized (Limits.none_allows s e) hstep h.endpoints
  references := h.references.step h.sized h.endpoints hstep

/-- The tables have the configured sizes. -/
lemma References.inRange_iff {s : Proxy} (h : References s) (a : Access) :
    s.InRange a ↔ s.cerData.Has a := by
  cases a with
  | transaction i => rw [Proxy.InRange, CerData.Has, Below, ← h.transactions, Table.InRange]
  | client i => rw [Proxy.InRange, CerData.Has, Below, ← h.clients, Table.InRange]
  | connection i => rw [Proxy.InRange, CerData.Has, Below, ← h.connections, Table.InRange]

/-- What was noted about a step that handles a message. -/
lemma References.indicesInRange_iff {s s' : Proxy} {e : Event} {P : Prop} (h : References s)
    (he : e.IsMessage) (hstep : DiaProxy.step s e = some s') (huses : Uses s.cerData s s' P) :
    IndicesInRange s e ↔ P := by
  obtain ⟨l, hl, hP⟩ := huses
  rw [← hP]
  constructor
  · exact fun hrange a ha => (h.inRange_iff a).mp (hrange he s' l hstep hl a ha)
  · intro hall _ t k ht hk a ha
    obtain rfl := Option.some.inj (hstep.symm.trans ht)
    rw [hl] at hk
    exact (h.inRange_iff a).mpr (hall a (List.append_cancel_right hk ▸ ha))

/-- **One message.**  The indices that its handler uses are inside the tables exactly if the
records they are taken from refer to something. -/
theorem IndexInv.indicesInRange_iff {s s' : Proxy} {e : Event} (h : IndexInv s)
    (hstep : DiaProxy.step s e = some s') : IndicesInRange s e ↔ RefersTo s e := by
  cases e with
  | clientMessage thread nr sender counterE2e buff toreceive answers =>
    obtain ⟨⟨hmay, -⟩, heq⟩ := Option.ite_none_right_eq_some.mp hstep
    obtain rfl := Option.some.inj heq
    exact h.references.indicesInRange_iff trivial hstep (h.references.uses_clientMessage
      h.sized.cursor hmay.1 thread sender counterE2e buff toreceive answers)
  | serverMessage c buff dpSize answers =>
    obtain ⟨⟨hc, -⟩, heq⟩ := Option.ite_none_right_eq_some.mp hstep
    obtain rfl := Option.some.inj heq
    exact h.references.indicesInRange_iff trivial hstep
      (h.references.uses_serverMessage h.sized.cursor h.endpoints hc buff dpSize answers)
  | accept sock => exact iff_of_true (fun he => he.elim) trivial
  | closeClient thread nr => exact iff_of_true (fun he => he.elim) trivial
  | exitClientThread thread => exact iff_of_true (fun he => he.elim) trivial
  | send sock result now => exact iff_of_true (fun he => he.elim) trivial
  | startDiaThread c => exact iff_of_true (fun he => he.elim) trivial
  | connect c sock => exact iff_of_true (fun he => he.elim) trivial
  | lose c => exact iff_of_true (fun he => he.elim) trivial
  | reconnect c => exact iff_of_true (fun he => he.elim) trivial
  | watchClients => exact iff_of_true (fun he => he.elim) trivial
  | startCleaning => exact iff_of_true (fun he => he.elim) trivial
  | clean => exact iff_of_true (fun he => he.elim) trivial

/-- **Indices into the tables.**  In every run the handlers of messages use indices inside the tables
only, exactly if in every one of them the records that the indices are taken from refer to
something. -/
theorem indicesInRange_throughout_iff (cerData : CerData) (es : List Event) :
    LabelledSystem.Along step IndicesInRange (Proxy.init cerData) es ↔
      LabelledSystem.Along step RefersTo (Proxy.init cerData) es :=
  LabelledSystem.along_congr (I := IndexInv) (fun _ _ _ h hstep => h.step hstep)
    (fun _ _ _ h hstep => h.indicesInRange_iff hstep)
    ⟨sized_init cerData, endpointsOk_init cerData, references_init cerData⟩

/-! ## Answers for slots that were never used -/

/-- The server answers a request that it never got. -/
def strayServerAnswer : List Event :=
  [.startDiaThread 0, .connect 0 3, .serverMessage 0 (headerOnly 1 0) 20 0]

/-- A client answers a request that it never got: the command code is that of a cancel location
request. -/
def strayClientAnswer : List Event :=
  [.startDiaThread 0, .connect 0 3, .accept 4,
    .clientMessage 0 0 0 0 ((headerOnly 1 0).setByte 7 61) 20 0]

/-- The answer of the server is looked up in `v_client[-1]`, and that of the client is counted in
`v_connections[-1]` and looked up in `v_connections[4294967295]`. -/
theorem strayAnswer_outOfRange :
    ¬ LabelledSystem.Along step IndicesInRange (Proxy.init fourSlots) strayServerAnswer ∧
      ¬ LabelledSystem.Along step IndicesInRange (Proxy.init fourSlots) strayClientAnswer := by
  constructor
  · intro h
    obtain ⟨-, h⟩ := h _ rfl
    obtain ⟨-, h⟩ := h _ rfl
    obtain ⟨h, -⟩ := h _ rfl
    have hbad := h trivial _ [.transaction 0, .connection 0, .client (-1), .transaction 0,
      .connection 0] rfl rfl (.client (-1)) (by decide)
    exact absurd hbad.1 (by decide)
  · intro h
    obtain ⟨-, h⟩ := h _ rfl
    obtain ⟨-, h⟩ := h _ rfl
    obtain ⟨-, h⟩ := h _ rfl
    obtain ⟨h, -⟩ := h _ rfl
    have hbad := h trivial _ [.transaction 0, .connection 4294967295, .connection 4294967295,
      .connection (-1), .transaction 0] rfl rfl (.connection (-1)) (by decide)
    exact absurd hbad.1 (by decide)

end DiaProxy
