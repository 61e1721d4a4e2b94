import StTools.Lib.LabelledSystem
import StTools.DiaProxy.PendingMessages
import Mathlib.Data.List.Sublists

/-!
# The bytes written to a connection

Messages are queued for a connection and written to it piece by piece.  The bytes that `send` has
accepted, each with the serial number of its message, should be a prefix of some of the queued
messages in their order: then no message is interrupted by another.

Every transition of `sendPendingMessage` keeps this, but for the two that take a message off
without finishing it; `stream_intact_throughout` shows that these do no harm as long as nothing
of the message was written.
-/

namespace DiaProxy

open LabelledSystem

/-! ## What was queued and what was written -/

/-- The bytes of a message with its serial number. -/
def Message.tagged (m : Message) : List (ℕ × UInt8) := m.buffer.map fun b => (m.serial, b)

/-- A message before any of its bytes is sent. -/
def Message.unsent (m : Message) : Message := { m with bytesSent := 0 }

/-- The messages of a log that were queued for a connection, oldest first. -/
def queuedFor (socket : ℤ) (log : List (ℤ × Message)) : List Message :=
  (log.filterMap fun e => if e.1 = socket then some e.2 else none).reverse

/-- Since the state `s₀`, the bytes written to the connection are a prefix of some of the messages
queued for it, one behind the other in the order in which they were queued. -/
def StreamIntact (socket : ℤ) (s₀ s : Proxy) : Prop :=
  ∃ log, s.queued = log ++ s₀.queued ∧ ∃ (kept : List Message) (written : List (ℕ × UInt8)),
    kept.Sublist (queuedFor socket log) ∧ s.wire socket = s₀.wire socket ++ written ∧
      written <+: kept.flatMap Message.tagged

/-! ## Calls -/

/-- A call of one of the two functions. -/
inductive OutputCall
  /-- `addMessageAsPending`; every caller starts a message with no bytes sent. -/
  | add (socket : ℤ) (message : Message)
  /-- `sendPendingMessage`, with the results of `send` that it gets. -/
  | send (socket : ℤ) (results : List (SendResult × ℕ))

/-- The state after a call. -/
def outputCall (s : Proxy) : OutputCall → Proxy
  | .add socket m => (s.addMessageAsPending socket m.unsent).1
  | .send socket results => s.sendPendingMessage socket results

/-- A result of `send` after which a message that is not finished is taken off. -/
def SendResult.Drops : SendResult → Prop
  | .wrote n errno => n = 0 ∧ errno = 0
  | .failed errno => errno ≠ eagain

/-- If part of the front message was written, it is not taken off unfinished. -/
def KeepsPartial (s : Proxy) (socket : ℤ) (result : SendResult) : Prop :=
  ∀ m, s.IsFront socket m → 0 < m.bytesSent → ¬ result.Drops

/-- In none of the passes of a call a message is taken off that is partly written. -/
def SendKeepsPartial (s : Proxy) (socket : ℤ) : List (SendResult × ℕ) → Prop
  | [] => True
  | (result, now) :: results =>
    KeepsPartial s socket result ∧
      ((s.sendPass socket result now).2 →
        SendKeepsPartial (s.sendPass socket result now).1 socket results)

/-- No call of `sendPendingMessage` on the connection takes off a message that is partly
written. -/
def CallKeepsPartial (socket : ℤ) (s : Proxy) : OutputCall → Prop
  | .add _ _ => True
  | .send socket' results => socket' = socket → SendKeepsPartial s socket results

/-! ## The invariant -/

/-- What of the first message of a queue was written. -/
def writtenPart : List Message → List (ℕ × UInt8)
  | [] => []
  | m :: _ => m.tagged.take m.bytesSent

/-- The queue of a connection against the log: the messages queued are those gone and those in the
queue; of the ones gone some were written, and of the queue only a part of the first. -/
structure StreamInv (socket : ℤ) (s₀ s : Proxy) (log : List (ℤ × Message))
    (gone kept queue : List Message) : Prop where
  /-- The log since the start. -/
  log_eq : s.queued = log ++ s₀.queued
  /-- The queue. -/
  lookup_eq : s.mPendingToSend.lookup socket = some queue
  /-- Messages leave the queue at the front. -/
  queued_eq : queuedFor socket log = gone ++ queue.map Message.unsent
  /-- The messages written are among those gone. -/
  kept_sub : kept.Sublist gone
  /-- The bytes written. -/
  wire_eq : s.wire socket = s₀.wire socket ++ (kept.flatMap Message.tagged ++ writtenPart queue)
  /-- Nothing of the messages behind the first was written. -/
  behind_first : ∀ m ∈ queue.tail, m.bytesSent = 0

variable {socket : ℤ} {s₀ s : Proxy} {log : List (ℤ × Message)} {gone kept queue : List Message}

/-- A message queued for the connection comes last. -/
lemma queuedFor_cons_self (m : Message) :
    queuedFor socket ((socket, m) :: log) = queuedFor socket log ++ [m] := by
  simp [queuedFor]

/-- A message queued for another connection is not in the list. -/
lemma queuedFor_cons_of_ne {socket' : ℤ} (h : socket' ≠ socket) (m : Message) :
    queuedFor socket ((socket', m) :: log) = queuedFor socket log := by
  simp [queuedFor, h]

/-- A queue behind whose front nothing was written starts afresh when the front leaves. -/
lemma writtenPart_eq_nil {rest : List Message} (h : ∀ m ∈ rest, m.bytesSent = 0) :
    writtenPart rest = [] := by
  cases rest with
  | nil => rfl
  | cons m rest => rw [writtenPart, h m List.mem_cons_self, List.take_zero]

/-- The invariant gives the property. -/
lemma StreamInv.intact (h : StreamInv socket s₀ s log gone kept queue) :
    StreamIntact socket s₀ s := by
  cases queue with
  | nil =>
    refine ⟨log, h.log_eq, kept, _, ?_, h.wire_eq, ?_⟩
    · rw [h.queued_eq, List.map_nil, List.append_nil]
      exact h.kept_sub
    · rw [writtenPart, List.append_nil]
  | cons m rest =>
    -- the message at the front is the last that bytes were written of
    refine ⟨log, h.log_eq, kept ++ [m.unsent], _, ?_, h.wire_eq, ?_⟩
    · rw [h.queued_eq, List.map_cons]
      exact h.kept_sub.append (List.Sublist.cons_cons _ (List.nil_sublist _))
    · rw [List.flatMap_append, List.flatMap_singleton, writtenPart]
      exact (List.prefix_append_right_inj _).mpr (List.take_prefix _ m.tagged)

/-! ## The transitions keep the invariant -/

/-- A message that is queued comes last. -/
lemma StreamInv.enqueue (h : StreamInv socket s₀ s log gone kept queue) (m : Message) :
    ∃ log' queue', StreamInv socket s₀ (s.enqueue socket m.unsent) log' gone kept queue' := by
  refine ⟨(socket, { m.unsent with serial := s.queued.length }) :: log,
    queue ++ [{ m.unsent with serial := s.queued.length }], ?_, ?_, ?_, h.kept_sub, ?_, ?_⟩
  · simp only [Proxy.enqueue, h.log_eq, List.cons_append]
  · simp only [Proxy.enqueue, QueueMap.push, QueueMap.lookup_mapQueue_self, h.lookup_eq,
      Option.map_some]
  · rw [queuedFor_cons_self, h.queued_eq, List.map_append, List.append_assoc]
    rfl
  · simp only [Proxy.enqueue, h.wire_eq]
    cases queue with
    | nil => simp [writtenPart, Message.unsent]
    | cons m' rest => rfl
  · intro m' hm'
    cases queue with
    | nil => simp at hm'
    | cons m'' rest =>
      rw [List.cons_append, List.tail_cons, List.mem_append, List.mem_singleton] at hm'
      rcases hm' with hrest | rfl
      · exact h.behind_first m' hrest
      · rfl

/-- A change that does not concern the connection. -/
lemma StreamInv.frame (h : StreamInv socket s₀ s log gone kept queue) {s' : Proxy}
    (hqueued : s'.queued = s.queued)
    (hlookup : s'.mPendingToSend.lookup socket = s.mPendingToSend.lookup socket)
    (hwire : s'.wire socket = s.wire socket) :
    StreamInv socket s₀ s' log gone kept queue where
  log_eq := hqueued.trans h.log_eq
  lookup_eq := hlookup.trans h.lookup_eq
  queued_eq := h.queued_eq
  kept_sub := h.kept_sub
  wire_eq := hwire.trans h.wire_eq
  behind_first := h.behind_first

variable {m : Message} {rest : List Message}

/-- Finishing the front message completes its bytes. -/
lemma StreamInv.finishFront (h : StreamInv socket s₀ s log gone kept (m :: rest)) (now : ℕ) :
    StreamInv socket s₀ (s.finishFront socket m now) log (gone ++ [m.unsent])
      (kept ++ [m.unsent]) rest where
  log_eq := h.log_eq
  lookup_eq := by
    simp only [Proxy.finishFront, QueueMap.popFront, QueueMap.lookup_mapQueue_self, h.lookup_eq,
      Option.map_some, List.tail_cons]
  queued_eq := by
    rw [h.queued_eq, List.map_cons, List.append_assoc, List.singleton_append]
  kept_sub := h.kept_sub.append (List.Sublist.refl _)
  wire_eq := by
    have hall : m.tagged.take m.bytesSent ++
        ((m.buffer.drop m.bytesSent).take (m.messageLen - m.bytesSent)).map
          (fun b => (m.serial, b)) = m.unsent.tagged := by
      have hrest : (m.buffer.drop m.bytesSent).take (m.messageLen - m.bytesSent) =
          m.buffer.drop m.bytesSent :=
        List.take_of_length_le (by rw [List.length_drop]; exact Nat.le_refl _)
      rw [hrest, List.map_drop]
      exact List.take_append_drop m.bytesSent m.tagged
    have hrest : writtenPart rest = [] := writtenPart_eq_nil h.behind_first
    simp only [Proxy.finishFront, Proxy.wireWith, if_true]
    rw [hrest, List.append_nil, List.flatMap_append, List.flatMap_singleton, ← hall]
    have hwire := h.wire_eq
    rw [writtenPart] at hwire
    change s.wire socket ++ _ = _
    rw [hwire]
    simp only [List.append_assoc]
  behind_first := fun m' hm' => h.behind_first m' (List.mem_of_mem_tail hm')

/-- Taking the front message off does no harm if nothing of it was written. -/
lemma StreamInv.popFront (h : StreamInv socket s₀ s log gone kept (m :: rest))
    (hzero : m.bytesSent = 0) {s' : Proxy} (hqueued : s'.queued = s.queued)
    (hpop : s'.mPendingToSend = s.mPendingToSend.popFront socket) (hwire : s'.wire = s.wire) :
    StreamInv socket s₀ s' log (gone ++ [m.unsent]) kept rest where
  log_eq := hqueued.trans h.log_eq
  lookup_eq := by
    rw [hpop, QueueMap.popFront, QueueMap.lookup_mapQueue_self, h.lookup_eq, Option.map_some,
      List.tail_cons]
  queued_eq := by
    rw [h.queued_eq, List.map_cons, List.append_assoc, List.singleton_append]
  kept_sub := h.kept_sub.trans (List.sublist_append_left _ _)
  wire_eq := by
    have hrest : writtenPart rest = [] := writtenPart_eq_nil h.behind_first
    rw [hwire, h.wire_eq, writtenPart, hzero, List.take_zero, hrest]
  behind_first := fun m' hm' => h.behind_first m' (List.mem_of_mem_tail hm')

/-- A further part of the front message is written. -/
lemma StreamInv.advanceFront (h : StreamInv socket s₀ s log gone kept (m :: rest)) (n : ℕ) :
    StreamInv socket s₀ (s.advanceFront socket m n) log gone kept
      ({ m with bytesSent := m.bytesSent + n } :: rest) where
  log_eq := h.log_eq
  lookup_eq := by
    simp only [Proxy.advanceFront, QueueMap.modifyFront, QueueMap.lookup_mapQueue_self,
      h.lookup_eq, Option.map_some, List.modifyHead_cons]
  queued_eq := by
    rw [h.queued_eq]
    rfl
  kept_sub := h.kept_sub
  wire_eq := by
    have hpart : m.tagged.take m.bytesSent ++
        ((m.buffer.drop m.bytesSent).take n).map (fun b => (m.serial, b)) =
          m.tagged.take (m.bytesSent + n) := by
      rw [List.take_add, List.map_take, List.map_drop]
      rfl
    have hwire := h.wire_eq
    rw [writtenPart] at hwire
    simp only [Proxy.advanceFront, Proxy.wireWith, if_true]
    rw [hwire, writtenPart]
    change _ = _ ++ (_ ++ m.tagged.take (m.bytesSent + n))
    rw [← hpart]
    simp only [List.append_assoc]
  behind_first := h.behind_first

/-! ## Passes, calls and runs -/

/-- There are messages gone and a queue for which the invariant holds. -/
def HasStreamInv (socket : ℤ) (s₀ s : Proxy) : Prop :=
  ∃ log gone kept queue, StreamInv socket s₀ s log gone kept queue

/-- A pass on another connection does not concern this one. -/
lemma sendPass_frame {socket' : ℤ} (hne : socket' ≠ socket) (result : SendResult) (now : ℕ) :
    (s.sendPass socket' result now).1.queued = s.queued ∧
      (s.sendPass socket' result now).1.mPendingToSend.lookup socket =
        s.mPendingToSend.lookup socket ∧
      (s.sendPass socket' result now).1.wire socket = s.wire socket := by
  have hlook : ∀ f, (s.mPendingToSend.mapQueue socket' f).lookup socket =
      s.mPendingToSend.lookup socket := fun f => QueueMap.lookup_mapQueue_of_ne f hne.symm
  have hwire : ∀ m n, s.wireWith socket' m n socket = s.wire socket := by
    intro m n
    unfold Proxy.wireWith
    rw [if_neg hne.symm]
  rcases s.sendPass_cases socket' result now with hsame | ⟨m, -, hpass⟩
  · rw [hsame]
    exact ⟨rfl, rfl, rfl⟩
  · rcases hpass with ⟨n, e, -, -, hp⟩ | ⟨-, -, hp⟩ | ⟨n, e, -, -, hp⟩ | ⟨-, hp⟩ |
      ⟨e, -, -, -, hp⟩ <;>
      rw [hp]
    · exact ⟨rfl, hlook _, hwire _ _⟩
    · exact ⟨rfl, hlook _, rfl⟩
    · exact ⟨rfl, hlook _, hwire _ _⟩
    · exact ⟨rfl, rfl, rfl⟩
    · exact ⟨rfl, hlook _, rfl⟩

/-- **Step lemma.**  A pass that does not take off a message that is partly written keeps the
invariant. -/
lemma HasStreamInv.sendPass (h : HasStreamInv socket s₀ s) {socket' : ℤ} {result : SendResult}
    (hkeep : socket' = socket → KeepsPartial s socket result) (now : ℕ) :
    HasStreamInv socket s₀ (s.sendPass socket' result now).1 := by
  obtain ⟨log, gone, kept, queue, hinv⟩ := h
  by_cases hne : socket' = socket
  · subst hne
    have hkeep' := hkeep rfl
    rcases s.sendPass_cases socket' result now with hsame | ⟨m, ⟨rest, hfront⟩, hpass⟩
    · rw [hsame]
      exact ⟨log, gone, kept, queue, hinv⟩
    · obtain rfl : queue = m :: rest := Option.some.inj (hinv.lookup_eq.symm.trans hfront)
      have hzero : result.Drops → m.bytesSent = 0 := by
        intro hdrops
        by_contra hne
        exact hkeep' m ⟨rest, hfront⟩ (Nat.pos_of_ne_zero hne) hdrops
      rcases hpass with ⟨n, e, -, -, hp⟩ | ⟨hr, -, hp⟩ | ⟨n, e, -, -, hp⟩ | ⟨-, hp⟩ |
        ⟨e, hr, he, -, hp⟩
      · rw [hp]
        exact ⟨log, _, _, rest, hinv.finishFront now⟩
      · rw [hp]
        have h0 : m.bytesSent = 0 := hzero (by rw [hr]; exact ⟨rfl, rfl⟩)
        exact ⟨log, _, kept, rest, hinv.popFront h0 rfl rfl rfl⟩
      · rw [hp]
        exact ⟨log, gone, kept, _, hinv.advanceFront n⟩
      · rw [hp]
        exact ⟨log, gone, kept, _, hinv.frame rfl rfl rfl⟩
      · rw [hp]
        have h0 : m.bytesSent = 0 := hzero (by rw [hr]; exact he)
        exact ⟨log, _, kept, rest, hinv.popFront h0 rfl rfl rfl⟩
  · obtain ⟨hq, hl, hw⟩ := sendPass_frame hne result now (s := s)
    exact ⟨log, gone, kept, queue, hinv.frame hq hl hw⟩

/-- A call of `sendPendingMessage` keeps the invariant. -/
lemma HasStreamInv.sendPendingMessage {socket' : ℤ} {results : List (SendResult × ℕ)}
    (h : HasStreamInv socket s₀ s) (hkeep : socket' = socket → SendKeepsPartial s socket results) :
    HasStreamInv socket s₀ (s.sendPendingMessage socket' results) := by
  induction results generalizing s with
  | nil => exact h
  | cons r results ih =>
    have hpass : HasStreamInv socket s₀ (s.sendPass socket' r.1 r.2).1 :=
      h.sendPass (fun heq => (hkeep heq).1) r.2
    rw [Proxy.sendPendingMessage]
    split
    · rename_i hgo
      refine ih hpass fun heq => ?_
      subst heq
      exact (hkeep rfl).2 hgo
    · exact hpass

/-- A call of `addMessageAsPending` keeps the invariant. -/
lemma HasStreamInv.addMessageAsPending (h : HasStreamInv socket s₀ s) (socket' : ℤ)
    (m : Message) : HasStreamInv socket s₀ (s.addMessageAsPending socket' m.unsent).1 := by
  obtain ⟨log, gone, kept, queue, hinv⟩ := h
  rcases s.addMessageAsPending_cases socket' m.unsent with ⟨-, ha⟩ | ⟨-, ha⟩ | ⟨-, -, ha⟩
  · rw [ha]
    exact ⟨log, gone, kept, queue, hinv⟩
  · rw [ha]
    exact ⟨log, gone, kept, queue, hinv.frame rfl rfl rfl⟩
  · rw [ha]
    by_cases hne : socket' = socket
    · subst hne
      obtain ⟨log', queue', hinv'⟩ := hinv.enqueue m
      exact ⟨log', gone, kept, queue', hinv'⟩
    · have hlog : queuedFor socket
          ((socket', { m.unsent with serial := s.queued.length }) :: log) =
            queuedFor socket log := queuedFor_cons_of_ne hne _
      exact ⟨_, gone, kept, queue, {
        log_eq := congrArg _ hinv.log_eq
        lookup_eq := (QueueMap.lookup_mapQueue_of_ne _ fun heq => hne heq.symm).trans hinv.lookup_eq
        queued_eq := hlog.trans hinv.queued_eq
        kept_sub := hinv.kept_sub
        wire_eq := hinv.wire_eq
        behind_first := hinv.behind_first }⟩

/-- **Integrity of the byte stream.**  In every run of calls of the two functions that starts with
an empty queue of a connection, and in which no call takes off a message of that connection that
is partly written, the bytes written to the connection are intact in every state. -/
theorem stream_intact_throughout {calls : List OutputCall}
    (hempty : s₀.mPendingToSend.lookup socket = some [])
    (hkeep : Along (fun s c => some (outputCall s c)) (CallKeepsPartial socket) s₀ calls) :
    Throughout (fun s c => some (outputCall s c)) (StreamIntact socket s₀) s₀ calls := by
  refine throughout_of_along (I := HasStreamInv socket s₀) ?_ ?_ ?_ hkeep
  · rintro s c s' hI hC hstep
    obtain rfl := Option.some.inj hstep
    cases c with
    | add socket' m => exact hI.addMessageAsPending socket' m
    | send socket' results => exact hI.sendPendingMessage hC
  · rintro s ⟨log, gone, kept, queue, hinv⟩
    exact hinv.intact
  · refine ⟨[], [], [], [], ⟨rfl, hempty, rfl, List.Sublist.refl _, ?_, ?_⟩⟩
    · simp [writtenPart]
    · simp

/-! ## An error after a partial write -/

/-- The proxy with an empty queue for descriptor 5. -/
def openedQueue : Proxy :=
  { Proxy.init .initial with mPendingToSend := (Proxy.init .initial).mPendingToSend.openQueue 5 }

/-- An answer of two bytes for a client. -/
def shortAnswer (b : UInt8) : Message where
  messageType := .answerToClient
  diaServerConnection := 0
  transaction := -1
  buffer := [b, b]

/-- Two answers are queued, of the first of which only a byte is written; then `send` is called
again with this result. -/
def interruptedCalls (result : SendResult) : List OutputCall :=
  [.add 5 (shortAnswer 1), .add 5 (shortAnswer 2), .send 5 [(.wrote 1 0, 0)], .send 5 [(result, 0)],
    .send 5 [(.wrote 2 0, 0)]]

/-- If the socket is only busy, the answers stay intact. -/
theorem busy_stream_intact :
    Throughout (fun s c => some (outputCall s c)) (StreamIntact 5 openedQueue) openedQueue
      (interruptedCalls (.failed eagain)) := by
  have hwrote : ∀ s n, 0 < n → SendKeepsPartial s 5 [(.wrote n 0, 0)] := fun s n hn =>
    ⟨fun m _ _ hdrops => absurd hdrops.1 (Nat.pos_iff_ne_zero.mp hn), fun _ => trivial⟩
  have hbusy : ∀ s, SendKeepsPartial s 5 [(.failed eagain, 0)] := fun s =>
    ⟨fun m _ _ hdrops => hdrops rfl, fun _ => trivial⟩
  refine stream_intact_throughout (by decide) ?_
  rintro _ ⟨⟩
  refine ⟨trivial, ?_⟩
  rintro _ ⟨⟩
  refine ⟨trivial, ?_⟩
  rintro _ ⟨⟩
  refine ⟨fun _ => hwrote _ 1 (by decide), ?_⟩
  rintro _ ⟨⟩
  refine ⟨fun _ => hbusy _, ?_⟩
  rintro _ ⟨⟩
  exact ⟨fun _ => hwrote _ 2 (by decide), trivial⟩

/-- If the call is interrupted instead (`EINTR`), the second byte of the first answer is never
written, and the second answer follows its first byte on the open socket. -/
theorem interrupted_stream_not_intact :
    ∃ s, exec (fun s c => some (outputCall s c)) openedQueue
        (interruptedCalls (.failed 4)) = some s ∧
      openedQueue.mPendingToSend.lookup 5 = some [] ∧
      s.wire 5 = [(0, 1), (1, 2), (1, 2)] ∧ ¬ StreamIntact 5 openedQueue s := by
  refine ⟨_, rfl, by decide, by decide, ?_⟩
  rintro ⟨log, hlog, kept, written, hsub, hwire, hpre⟩
  have hlog' : log = [(5, { shortAnswer 2 with serial := 1 }), (5, shortAnswer 1)] := by
    have hnil : openedQueue.queued = [] := rfl
    rw [hnil, List.append_nil] at hlog
    exact hlog.symm
  subst hlog'
  have hwritten : written = [(0, 1), (1, 2), (1, 2)] := hwire.symm
  subst hwritten
  have hkept : ∀ l ∈ (queuedFor 5 [(5, { shortAnswer 2 with serial := 1 }),
      (5, shortAnswer 1)]).sublists, ¬ [(0, 1), (1, 2), (1, 2)] <+: l.flatMap Message.tagged := by
    decide
  exact hkept kept (List.mem_sublists.mpr hsub) hpre

end DiaProxy
