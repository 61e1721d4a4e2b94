import StTools.DiaProxy.PendingMessages

/-!
# Giving up the queue of a connection

`cleanPendingMessages` frees the transaction slots of the messages in a queue.  An answer has no
slot: its slot number is `-1`.  The test of the slot number has no braces, so it guards the lock of
`TRANSACTION_VECTOR` only; the record is written and the mutex unlocked for every message.
-/

namespace DiaProxy

/-- A call on the mutex `TRANSACTION_VECTOR`. -/
inductive MutexCall
  | lock
  | unlock
  deriving DecidableEq, Repr

/-- Every lock is followed by its unlock. -/
def matchedPairs : List MutexCall → Bool
  | [] => true
  | .lock :: .unlock :: calls => matchedPairs calls
  | _ => false

namespace Proxy

/-- The test of the slot number. -/
def namesSlot (s : Proxy) (m : Message) : Prop :=
  m.transaction > -1 ∧ m.transaction < s.vTransaction.length

instance (s : Proxy) (m : Message) : Decidable (s.namesSlot m) :=
  inferInstanceAs (Decidable (_ ∧ _))

/-- The calls on the mutex for one message of a queue that is given up. -/
def cleanMessageCalls (s : Proxy) (m : Message) : List MutexCall :=
  (if s.namesSlot m then [.lock] else []) ++ [.unlock]

/-- The calls on the mutex that `cleanPendingMessages` makes. -/
def cleanCalls (s : Proxy) (socket : ℤ) : List MutexCall :=
  (s.queueOf socket).flatMap s.cleanMessageCalls

variable {s : Proxy} {socket : ℤ}

/-- The test is that the slot number is inside the table. -/
lemma namesSlot_iff {m : Message} : s.namesSlot m ↔ Table.InRange s.vTransaction m.transaction := by
  unfold namesSlot Table.InRange
  omega

/-- The mutex is used in matched pairs exactly when all messages name slots. -/
lemma matchedPairs_flatMap_iff {queue : List Message} :
    matchedPairs (queue.flatMap s.cleanMessageCalls) = true ↔ ∀ m ∈ queue, s.namesSlot m := by
  induction queue with
  | nil => simp [matchedPairs]
  | cons m rest ih =>
    rw [List.flatMap_cons, List.forall_mem_cons, ← ih]
    by_cases hm : s.namesSlot m
    · rw [cleanMessageCalls, if_pos hm]
      exact ⟨fun h => ⟨hm, h⟩, fun h => h.2⟩
    · rw [cleanMessageCalls, if_neg hm]
      constructor
      · intro h
        cases h
      · exact fun h => absurd h.1 hm

/-- The indices that are used when a queue is given up, newest first. -/
def cleanAccesses (queue : List Message) : List Access :=
  queue.reverse.flatMap fun m => [.connection m.diaServerConnection, .transaction m.transaction]

/-- The uses of the tables are logged. -/
lemma accesses_foldl_cleanMessage (queue : List Message) (s : Proxy) :
    (queue.foldl cleanMessage s).accesses = cleanAccesses queue ++ s.accesses := by
  induction queue generalizing s with
  | nil => rfl
  | cons m rest ih =>
    have hm : (s.cleanMessage m).accesses =
        [.connection m.diaServerConnection, .transaction m.transaction] ++ s.accesses := rfl
    rw [List.foldl_cons, ih, hm, cleanAccesses, cleanAccesses, List.reverse_cons, List.flatMap_append,
      List.flatMap_singleton, List.append_assoc]

/-- The uses of the tables by `cleanPendingMessages`. -/
lemma accesses_cleanPendingMessages (s : Proxy) (socket : ℤ) :
    (s.cleanPendingMessages socket).accesses =
      cleanAccesses (s.queueOf socket) ++ s.accesses := by
  unfold cleanPendingMessages queueOf
  cases s.mPendingToSend.lookup socket with
  | none => rfl
  | some queue => exact accesses_foldl_cleanMessage queue _

/-- The records that are written are those of the messages. -/
lemma transaction_mem_cleanAccesses {queue : List Message} {i : ℤ} :
    .transaction i ∈ cleanAccesses queue ↔ ∃ m ∈ queue, m.transaction = i := by
  simp [cleanAccesses, eq_comm]

/-- `cleanPendingMessages` touches only what it should. -/
structure CleansUp (s : Proxy) (socket : ℤ) : Prop where
  /-- The entry of the socket is gone. -/
  entry : (s.cleanPendingMessages socket).mPendingToSend.lookup socket = none
  /-- The queues of the other sockets are as before. -/
  queues : ∀ k, k ≠ socket →
    (s.cleanPendingMessages socket).mPendingToSend.lookup k = s.mPendingToSend.lookup k
  /-- The slots that the messages name are free. -/
  freed : ∀ m ∈ s.queueOf socket, ∃ t,
    Table.get (s.cleanPendingMessages socket).vTransaction m.transaction = some t ∧
      t.status = .notUsed
  /-- The other slots are as before. -/
  slots : ∀ i, (∀ m ∈ s.queueOf socket, m.transaction ≠ i) →
    Table.get (s.cleanPendingMessages socket).vTransaction i = Table.get s.vTransaction i
  /-- No index outside the table is written. -/
  inside : ∀ i, .transaction i ∈ cleanAccesses (s.queueOf socket) → Table.InRange s.vTransaction i
  /-- The mutex is locked and unlocked in matched pairs. -/
  locks : matchedPairs (s.cleanCalls socket) = true

/-- **What giving up a queue touches.**  Only what it should, exactly when every message of the queue
names a slot of the table, so when no answer is in the queue. -/
theorem cleansUp_iff (s : Proxy) (socket : ℤ) :
    s.CleansUp socket ↔ ∀ m ∈ s.queueOf socket, Table.InRange s.vTransaction m.transaction := by
  constructor
  · intro h m hm
    exact namesSlot_iff.mp (matchedPairs_flatMap_iff.mp h.locks m hm)
  · intro h
    obtain ⟨_, _, _, _, heq⟩ := s.cleanPendingMessages_eq socket
    have hget : ∀ i, Table.get (s.cleanPendingMessages socket).vTransaction i =
        if i ∈ (s.queueOf socket).map Message.transaction then
          (Table.get s.vTransaction i).map Transaction.clear
        else Table.get s.vTransaction i := by
      intro i
      rw [heq]
      exact get_clearSlots _ _ _
    refine ⟨?_, ?_, ?_, ?_, ?_, ?_⟩
    · rw [heq]
      exact QueueMap.lookup_closeQueue_self
    · intro k hk
      rw [heq]
      exact QueueMap.lookup_closeQueue_of_ne hk
    · intro m hm
      obtain ⟨t, ht⟩ := Option.isSome_iff_exists.mp (Table.get_isSome_iff.mpr (h m hm))
      refine ⟨t.clear, ?_, rfl⟩
      rw [hget, if_pos (List.mem_map_of_mem hm), ht, Option.map_some]
    · intro i hi
      rw [hget, if_neg]
      intro hmem
      obtain ⟨m, hm, hmi⟩ := List.mem_map.mp hmem
      exact hi m hm hmi
    · intro i hi
      obtain ⟨m, hm, rfl⟩ := transaction_mem_cleanAccesses.mp hi
      exact h m hm
    · exact matchedPairs_flatMap_iff.mpr fun m hm => namesSlot_iff.mpr (h m hm)

/-! ## An answer in the queue -/

/-- An answer for a client. -/
def queuedAnswer : Message where
  messageType := .answerToClient
  diaServerConnection := 0
  transaction := -1
  buffer := List.replicate 20 0

/-- A proxy with two transaction records, and the answer in the queue of a descriptor. -/
def answerQueued : Proxy :=
  ({ Proxy.init .twoTransactions with
    mPendingToSend := QueueMap.openQueue ∅ 5 }.addMessageAsPending 5 queuedAnswer).1

/-- Giving up a queue with an answer unlocks the mutex without a lock, and writes the record before
the first one. -/
theorem answerQueued_not_cleansUp : ¬ answerQueued.CleansUp 5 ∧
    answerQueued.cleanCalls 5 = [.unlock] ∧
    .transaction (-1) ∈ (answerQueued.cleanPendingMessages 5).accesses := by
  have hcalls : answerQueued.cleanCalls 5 = [.unlock] := by decide
  refine ⟨fun h => ?_, hcalls, by decide⟩
  have hlocks := h.locks
  rw [hcalls] at hlocks
  cases hlocks

end Proxy

end DiaProxy
