import StTools.DiaProxy.DataModel

/-!
# Messages waiting to be sent

Every open connection has a queue of messages in `m_pendingToSend`.  Both kinds of threads put
messages into the queues of the other kind with `addMessageAsPending`, write their own queues
with `sendPendingMessage`, and give a queue up with `cleanPendingMessages` when its connection
goes away.

The functions are built from transitions that each change a fixed set of fields, and a lemma
`..._cases` says which of the transitions a call makes and when; later proofs use these lemmas
and the simp set of the transitions, never the code of the functions.
-/

namespace DiaProxy

/-- `EAGAIN`. -/
def eagain : ℤ := 11

/-- What a call of `send` returns, with the `errno` that is read after it. -/
inductive SendResult
  /-- So many bytes were accepted. -/
  | wrote (n : ℕ) (errno : ℤ)
  /-- The call returned `-1`. -/
  | failed (errno : ℤ)
  deriving DecidableEq, Repr

/-! ## Counting -/

/-- The `switch` that counts a message of this type as discarded. -/
def Statistic.discard (c : Statistic) : MessageType → Statistic
  | .requestToServer => { c with requestDiscardFromClient := c.requestDiscardFromClient + 1 }
  | .requestToClient => { c with requestDiscardFromServer := c.requestDiscardFromServer + 1 }
  | .answerToServer => { c with answerDiscardFromClient := c.answerDiscardFromClient + 1 }
  | .answerToClient => { c with answerDiscardFromServer := c.answerDiscardFromServer + 1 }

/-- The `switch` that counts a message of this type as sent; a second counter of requests runs
with the error report. -/
def Statistic.send (c : Statistic) (errorReport : Bool) : MessageType → Statistic
  | .requestToServer =>
    { c with
      requestSentToServer := c.requestSentToServer + 1
      requestSent := if errorReport then c.requestSent + 1 else c.requestSent }
  | .requestToClient => { c with requestSentToClient := c.requestSentToClient + 1 }
  | .answerToServer => { c with answerSentToServer := c.answerSentToServer + 1 }
  | .answerToClient => { c with answerSentToClient := c.answerSentToClient + 1 }

/-- A transaction record is freed, and the time of its request forgotten. -/
def Transaction.clear (t : Transaction) : Transaction :=
  { t with status := .notUsed, requestTime := 0 }

/-- The transaction table when the slots of some messages were freed. -/
def clearSlots (ts : List Transaction) (queue : List Message) : List Transaction :=
  queue.foldl (fun ts m => Table.modify ts m.transaction Transaction.clear) ts

/-- Freeing slots keeps the size of the table. -/
@[simp] lemma length_clearSlots (ts : List Transaction) (queue : List Message) :
    (clearSlots ts queue).length = ts.length := by
  unfold clearSlots
  induction queue generalizing ts with
  | nil => rfl
  | cons m rest ih => rw [List.foldl_cons, ih, Table.length_modify]

/-- Exactly the slots of the messages are freed. -/
lemma get_clearSlots (ts : List Transaction) (queue : List Message) (i : ℤ) :
    Table.get (clearSlots ts queue) i =
      if i ∈ queue.map Message.transaction then (Table.get ts i).map Transaction.clear
      else Table.get ts i := by
  unfold clearSlots
  induction queue generalizing ts with
  | nil => rfl
  | cons m rest ih =>
    rw [List.foldl_cons, ih, Table.get_modify, List.map_cons]
    by_cases hrest : i ∈ rest.map Message.transaction
    · rw [if_pos hrest, if_pos (List.mem_cons_of_mem _ hrest)]
      split
      · cases Table.get ts i <;> rfl
      · rfl
    · by_cases hm : m.transaction = i
      · subst hm
        rw [if_neg hrest, if_pos rfl, if_pos List.mem_cons_self]
      · have hnot : i ∉ m.transaction :: rest.map Message.transaction := by
          rw [List.mem_cons]
          rintro (heq | hmem)
          · exact hm heq.symm
          · exact hrest hmem
        rw [if_neg hrest, if_neg hm, if_neg hnot]

namespace Proxy

/-- Ghost: the log of counted client requests, with this message if it is one. -/
def countedWith (s : Proxy) (m : Message) : List (ℤ × ℕ) :=
  if m.messageType = .requestToServer then (m.diaServerConnection, m.tag.id) :: s.counted
  else s.counted

/-- Count a message as discarded on its server connection. -/
def countDiscard (s : Proxy) (m : Message) : Proxy :=
  { s.count m.diaServerConnection fun c => c.discard m.messageType with
    counted := s.countedWith m }

/-- Count a message as sent on its server connection. -/
def countSent (s : Proxy) (m : Message) : Proxy :=
  { s.count m.diaServerConnection
      fun c => c.send s.cerData.diaErrCountersReportRunning m.messageType with
    counted := s.countedWith m }

/-- Note when a request was sent, if latencies are reported. -/
def noteRequestTime (s : Proxy) (m : Message) (now : ℕ) : Proxy :=
  { s with
    vTransaction :=
      if m.messageType = .requestToServer ∧ s.cerData.latencyReportRunning then
        Table.modify s.vTransaction m.transaction fun t => { t with requestTime := now }
      else s.vTransaction
    accesses :=
      if m.messageType = .requestToServer ∧ s.cerData.latencyReportRunning then
        .transaction m.transaction :: s.accesses
      else s.accesses }

/-! ## Queueing -/

/-- The message is put at the back of the queue. -/
def enqueue (s : Proxy) (socket : ℤ) (message : Message) : Proxy :=
  { s with
    mPendingToSend := s.mPendingToSend.push socket { message with serial := s.queued.length }
    queued := (socket, { message with serial := s.queued.length }) :: s.queued }

/-- `addMessageAsPending`: the message is queued, unless the connection has no queue or its queue
has more messages than are allowed; it says whether it was. -/
def addMessageAsPending (s : Proxy) (socket : ℤ) (message : Message) : Proxy × Bool :=
  match s.mPendingToSend.lookup socket with
  | none => (s, false)
  | some queue =>
    if queue.length > s.cerData.maxSizeMessageQueue then (s.countDiscard message, false)
    else (s.enqueue socket message, true)

/-- The queue of a connection has more messages than are allowed. -/
def QueueFull (s : Proxy) (socket : ℤ) : Prop :=
  ∃ queue, s.mPendingToSend.lookup socket = some queue ∧
    queue.length > s.cerData.maxSizeMessageQueue

/-- What a call of `addMessageAsPending` does. -/
theorem addMessageAsPending_cases (s : Proxy) (socket : ℤ) (m : Message) :
    (s.mPendingToSend.lookup socket = none ∧ s.addMessageAsPending socket m = (s, false)) ∨
    (s.QueueFull socket ∧ s.addMessageAsPending socket m = (s.countDiscard m, false)) ∨
    (¬ s.QueueFull socket ∧ (∃ queue, s.mPendingToSend.lookup socket = some queue) ∧
      s.addMessageAsPending socket m = (s.enqueue socket m, true)) := by
  unfold addMessageAsPending QueueFull
  cases hlookup : s.mPendingToSend.lookup socket with
  | none => exact Or.inl ⟨rfl, rfl⟩
  | some queue =>
    simp only [Option.some.injEq, exists_eq_left']
    by_cases hfull : queue.length > s.cerData.maxSizeMessageQueue
    · exact Or.inr (Or.inl ⟨hfull, if_pos hfull⟩)
    · exact Or.inr (Or.inr ⟨hfull, ⟨queue, rfl⟩, if_neg hfull⟩)

/-- The handlers of messages queue a message only if its connection is up. -/
def queueIf (s : Proxy) (up : Prop) [Decidable up] (socket : ℤ) (m : Message) : Proxy × Bool :=
  if up then s.addMessageAsPending socket m else (s, false)

/-- A message for this connection is queued: the connection is up, and has a queue that is not
full. -/
def Accepts (s : Proxy) (up : Prop) (socket : ℤ) : Prop :=
  up ∧ ¬ s.QueueFull socket ∧ ∃ queue, s.mPendingToSend.lookup socket = some queue

/-- What an attempt to queue a message does. -/
theorem queueIf_cases (s : Proxy) (up : Prop) [Decidable up] (socket : ℤ) (m : Message) :
    (¬ s.Accepts up socket ∧ ¬ (up ∧ s.QueueFull socket) ∧ s.queueIf up socket m = (s, false)) ∨
    (¬ s.Accepts up socket ∧ up ∧ s.QueueFull socket ∧
      s.queueIf up socket m = (s.countDiscard m, false)) ∨
    (s.Accepts up socket ∧ s.queueIf up socket m = (s.enqueue socket m, true)) := by
  unfold queueIf
  by_cases h : up
  · rw [if_pos h]
    rcases s.addMessageAsPending_cases socket m with ⟨hnone, ha⟩ | ⟨hfull, ha⟩ | ⟨hfull, hsome, ha⟩
    · refine Or.inl ⟨?_, ?_, ha⟩
      · rintro ⟨-, -, queue, hqueue⟩
        rw [hnone] at hqueue
        cases hqueue
      · rintro ⟨-, queue, hqueue, -⟩
        rw [hnone] at hqueue
        cases hqueue
    · exact Or.inr (Or.inl ⟨fun hacc => hacc.2.1 hfull, h, hfull, ha⟩)
    · exact Or.inr (Or.inr ⟨⟨h, hfull, hsome⟩, ha⟩)
  · rw [if_neg h]
    exact Or.inl ⟨fun hacc => h hacc.1, fun hup => h hup.1, rfl⟩

/-- The two states differ in counters and logs only. -/
def Logged (s s' : Proxy) : Prop :=
  ∃ statistic received counted accesses, s' = { s with
    statistic := statistic
    received := received
    counted := counted
    accesses := accesses }

/-- A state differs from itself in nothing. -/
lemma Logged.refl (s : Proxy) : s.Logged s := ⟨_, _, _, _, rfl⟩

/-- Counting and logging more is counting and logging. -/
lemma Logged.trans {s s' s'' : Proxy} (h : s.Logged s') (h' : s'.Logged s'') : s.Logged s'' := by
  obtain ⟨_, _, _, _, rfl⟩ := h
  obtain ⟨statistic, received, counted, accesses, rfl⟩ := h'
  exact ⟨statistic, received, counted, accesses, rfl⟩

/-- Counting and logging does not change what is read from the transaction table. -/
lemma Logged.transaction_eq {s s' : Proxy} (h : s.Logged s') (i : ℤ) :
    s'.transaction i = s.transaction i := by
  obtain ⟨_, _, _, _, rfl⟩ := h
  rfl

/-- Counting and logging does not change what is read from the connection table. -/
lemma Logged.connection_eq {s s' : Proxy} (h : s.Logged s') (i : ℤ) :
    s'.connection i = s.connection i := by
  obtain ⟨_, _, _, _, rfl⟩ := h
  rfl

/-- Counting and logging does not change what is read from the client table. -/
lemma Logged.client_eq {s s' : Proxy} (h : s.Logged s') (i : ℤ) : s'.client i = s.client i := by
  obtain ⟨_, _, _, _, rfl⟩ := h
  rfl

/-- Counting is counting and logging. -/
lemma logged_count (s : Proxy) (i : ℤ) (f : Statistic → Statistic) : s.Logged (s.count i f) :=
  ⟨_, _, _, _, rfl⟩

/-- Noting an index is counting and logging. -/
lemma logged_uses (s : Proxy) (a : Access) : s.Logged (s.uses a) := ⟨_, _, _, _, rfl⟩

/-- What an attempt to queue a message changes, also when something was counted before. -/
theorem Logged.queueIf {s s' : Proxy} (h : s.Logged s') (up : Prop) [Decidable up] (socket : ℤ)
    (m : Message) :
    (¬ s.Accepts up socket ∧ s.Logged (s'.queueIf up socket m).1 ∧
      (s'.queueIf up socket m).2 = false) ∨
    (s.Accepts up socket ∧ (s.enqueue socket m).Logged (s'.queueIf up socket m).1 ∧
      (s'.queueIf up socket m).2 = true) := by
  have hcases := s'.queueIf_cases up socket m
  obtain ⟨_, _, _, _, rfl⟩ := h
  rcases hcases with ⟨hacc, -, hq⟩ | ⟨hacc, -, -, hq⟩ | ⟨hacc, hq⟩
  · exact Or.inl ⟨hacc, by rw [hq]; exact ⟨_, _, _, _, rfl⟩, by rw [hq]⟩
  · exact Or.inl ⟨hacc, by rw [hq]; exact ⟨_, _, _, _, rfl⟩, by rw [hq]⟩
  · exact Or.inr ⟨hacc, by rw [hq]; exact ⟨_, _, _, _, rfl⟩, by rw [hq]⟩

/-- The state after an attempt to queue a message, but for counters and logs. -/
def QueueOutcome (s : Proxy) (up : Prop) (socket : ℤ) (m : Message) (s' : Proxy) : Prop :=
  (¬ s.Accepts up socket ∧ s' = s) ∨ (s.Accepts up socket ∧ s' = s.enqueue socket m)

/-- An attempt to queue a message has one of two outcomes. -/
lemma Logged.queueOutcome {s s' : Proxy} (h : s.Logged s') (up : Prop) [Decidable up]
    (socket : ℤ) (m : Message) :
    ∃ t, s.QueueOutcome up socket m t ∧ t.Logged (s'.queueIf up socket m).1 := by
  rcases h.queueIf up socket m with ⟨hacc, hlog, -⟩ | ⟨hacc, hlog, -⟩
  · exact ⟨s, Or.inl ⟨hacc, rfl⟩, hlog⟩
  · exact ⟨s.enqueue socket m, Or.inr ⟨hacc, rfl⟩, hlog⟩

/-! ## Sending -/

/-- The kernel takes the next `n` bytes of a message. -/
def wireWith (s : Proxy) (socket : ℤ) (m : Message) (n : ℕ) : ℤ → List (ℕ × UInt8) := fun k =>
  if k = socket then s.wire k ++ ((m.buffer.drop m.bytesSent).take n).map fun b => (m.serial, b)
  else s.wire k

/-- The front message was written to its end: it is counted as sent and taken off. -/
def finishFront (s : Proxy) (socket : ℤ) (m : Message) (now : ℕ) : Proxy :=
  { (s.countSent m).noteRequestTime m now with
    wire := s.wireWith socket m (m.messageLen - m.bytesSent)
    sent := if m.IsRequest then ⟨socket, true, m⟩ :: s.sent else s.sent
    mPendingToSend := s.mPendingToSend.popFront socket }

/-- Nothing was written and there was no error: the front message is counted as sent and taken
off all the same. -/
def skipFront (s : Proxy) (socket : ℤ) (m : Message) (now : ℕ) : Proxy :=
  { (s.countSent m).noteRequestTime m now with
    mPendingToSend := s.mPendingToSend.popFront socket }

/-- Some bytes of the front message were written: the next call goes on behind them. -/
def advanceFront (s : Proxy) (socket : ℤ) (m : Message) (n : ℕ) : Proxy :=
  { s with
    wire := s.wireWith socket m n
    mPendingToSend := s.mPendingToSend.modifyFront socket fun m =>
      { m with bytesSent := m.bytesSent + n } }

/-- An error: the front message is counted as discarded and taken off, and the server connection
of a message to the server is marked as broken. -/
def dropFront (s : Proxy) (socket : ℤ) (m : Message) : Proxy :=
  { s.countDiscard m with
    vConnections :=
      if m.messageType = .requestToServer ∨ m.messageType = .answerToServer then
        Table.modify s.vConnections m.diaServerConnection fun c => { c with status := .broken }
      else s.vConnections
    mPendingToSend := s.mPendingToSend.popFront socket }

/-- One pass of the loop of `sendPendingMessage`, with what `send` returns in it: the new state,
and whether the loop goes on.  `send` accepts at most the bytes it is given. -/
def sendPass (s : Proxy) (socket : ℤ) (result : SendResult) (now : ℕ) : Proxy × Bool :=
  match s.mPendingToSend.lookup socket with
  | none => (s, false)
  | some [] => (s, false)
  | some (m :: _) =>
    -- a message without bytes is neither sent nor taken off
    if m.messageLen = 0 then (s, true)
    else
      match result with
      | .wrote n errno =>
        if m.messageLen - m.bytesSent ≤ n then (s.finishFront socket m now, true)
        else if n = 0 ∧ errno = 0 then (s.skipFront socket m now, true)
        else (s.advanceFront socket m n, false)
      | .failed errno =>
        if errno = eagain then (s.countDiscard m, false)
        else (s.dropFront socket m, false)

/-- `sendPendingMessage`, with what `send` returns in its passes, as far as it gets with these. -/
def sendPendingMessage (s : Proxy) (socket : ℤ) : List (SendResult × ℕ) → Proxy
  | [] => s
  | (result, now) :: results =>
    let pass := s.sendPass socket result now
    if pass.2 then pass.1.sendPendingMessage socket results else pass.1

/-- The message at the front of a queue. -/
def IsFront (s : Proxy) (socket : ℤ) (m : Message) : Prop :=
  ∃ rest, s.mPendingToSend.lookup socket = some (m :: rest)

/-- What a pass of `sendPendingMessage` does. -/
theorem sendPass_cases (s : Proxy) (socket : ℤ) (result : SendResult) (now : ℕ) :
    (s.sendPass socket result now).1 = s ∨
    ∃ m, s.IsFront socket m ∧
      ((∃ n errno, result = .wrote n errno ∧ m.messageLen - m.bytesSent ≤ n ∧
          s.sendPass socket result now = (s.finishFront socket m now, true)) ∨
        (result = .wrote 0 0 ∧ 0 < m.messageLen - m.bytesSent ∧
          s.sendPass socket result now = (s.skipFront socket m now, true)) ∨
        (∃ n errno, result = .wrote n errno ∧ n < m.messageLen - m.bytesSent ∧
          s.sendPass socket result now = (s.advanceFront socket m n, false)) ∨
        (result = .failed eagain ∧ s.sendPass socket result now = (s.countDiscard m, false)) ∨
        (∃ errno, result = .failed errno ∧ errno ≠ eagain ∧ m.messageLen ≠ 0 ∧
          s.sendPass socket result now = (s.dropFront socket m, false))) := by
  unfold sendPass
  cases hlookup : s.mPendingToSend.lookup socket with
  | none => exact Or.inl rfl
  | some queue =>
    cases queue with
    | nil => exact Or.inl rfl
    | cons m rest =>
      dsimp only
      by_cases hlen : m.messageLen = 0
      · exact Or.inl (by rw [if_pos hlen])
      · simp only [if_neg hlen]
        refine Or.inr ⟨m, ⟨rest, hlookup⟩, ?_⟩
        cases result with
        | wrote n errno =>
          dsimp only
          by_cases hall : m.messageLen - m.bytesSent ≤ n
          · exact Or.inl ⟨n, errno, rfl, hall, if_pos hall⟩
          · rw [if_neg hall]
            by_cases hzero : n = 0 ∧ errno = 0
            · obtain ⟨rfl, rfl⟩ := hzero
              exact Or.inr (Or.inl ⟨rfl, by omega, if_pos ⟨rfl, rfl⟩⟩)
            · exact Or.inr (Or.inr (Or.inl ⟨n, errno, rfl, by omega, if_neg hzero⟩))
        | failed errno =>
          dsimp only
          by_cases hagain : errno = eagain
          · subst hagain
            exact Or.inr (Or.inr (Or.inr (Or.inl ⟨rfl, if_pos rfl⟩)))
          · exact Or.inr (Or.inr (Or.inr (Or.inr ⟨errno, rfl, hagain, hlen, if_neg hagain⟩)))

/-! ## Cleaning -/

/-- One message of a queue that is given up: its transaction slot is freed and it is counted as
discarded.  The test of the slot number guards the lock only, not the two assignments. -/
def cleanMessage (s : Proxy) (m : Message) : Proxy :=
  (s.setTransaction m.transaction Transaction.clear).countDiscard m

/-- `cleanPendingMessages`: the queue of a connection is given up. -/
def cleanPendingMessages (s : Proxy) (socket : ℤ) : Proxy :=
  match s.mPendingToSend.lookup socket with
  | none => s
  | some queue =>
    queue.foldl cleanMessage { s with mPendingToSend := s.mPendingToSend.closeQueue socket }

/-- The queue of a connection; empty if it has none. -/
def queueOf (s : Proxy) (socket : ℤ) : List Message := (s.mPendingToSend.lookup socket).getD []

/-- What giving a queue up changes: it is gone, the slots of its messages are free, and something
was counted. -/
theorem cleanPendingMessages_eq (s : Proxy) (socket : ℤ) :
    Logged { s with
        vTransaction := clearSlots s.vTransaction (s.queueOf socket)
        mPendingToSend := s.mPendingToSend.closeQueue socket }
      (s.cleanPendingMessages socket) := by
  unfold cleanPendingMessages queueOf
  cases hlookup : s.mPendingToSend.lookup socket with
  | none =>
    rw [QueueMap.closeQueue_of_lookup_none hlookup]
    exact Logged.refl s
  | some queue =>
    simp only [Option.getD_some]
    have hfold : ∀ (queue : List Message) (s : Proxy),
        Logged { s with vTransaction := clearSlots s.vTransaction queue }
          (queue.foldl cleanMessage s) := by
      intro queue
      induction queue with
      | nil => exact Logged.refl
      | cons m rest ih =>
        intro s
        obtain ⟨statistic, received, counted, accesses, h⟩ := ih (s.cleanMessage m)
        exact ⟨statistic, received, counted, accesses, h⟩
    obtain ⟨statistic, received, counted, accesses, h⟩ :=
      hfold queue { s with mPendingToSend := s.mPendingToSend.closeQueue socket }
    exact ⟨statistic, received, counted, accesses, h⟩

end Proxy

end DiaProxy
