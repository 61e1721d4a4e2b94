import Mathlib.Data.Int.Notation
import Mathlib.Data.Nat.Notation
import Mathlib.Logic.Function.Basic
import Mathlib.Tactic.Common

/-!
# The connection thread of the network layer translator

A connection relays bytes between a front end and a back end.  What is read from one side is queued
in chunks for the other side, and `send_message` writes the chunks of a queue, one `client_write`
after the other, until the queue is empty or a write does not take the whole chunk.

The thread is modelled step by step: `Point` is the place in the loop of `_ConnectionThread`, and
each event is one test, one `client_write` or one `client_read`.
-/

namespace Nlt

variable {β : Type*}

/-- The value of `EAGAIN`. -/
def eagain : ℤ := 11

/-- The size of the buffer that `client_read` fills. -/
def bufSize : ℕ := 4096

/-! ## Messages -/

/-- A chunk of bytes that waits to be written. -/
structure Message (β : Type*) where
  /-- The bytes that were read. -/
  buffer : List β
  /-- How many of them were written. -/
  bytesSent : ℕ
  /-- A message with no bytes left is not in a queue. -/
  sent_lt : bytesSent < buffer.length

namespace Message

/-- The length of the buffer. -/
def messageLen (m : Message β) : ℕ := m.buffer.length

/-- The bytes that are still to be written. -/
def unsent (m : Message β) : List β := m.buffer.drop m.bytesSent

/-- How many bytes are still to be written. -/
lemma length_unsent (m : Message β) : m.unsent.length = m.messageLen - m.bytesSent :=
  List.length_drop

/-- The message of the bytes that one `client_read` gives. -/
def ofRead (buf : List β) (h : buf ≠ []) : Message β where
  buffer := buf
  bytesSent := 0
  sent_lt := List.length_pos_iff.mpr h

/-- Nothing of a new message was written. -/
@[simp] lemma unsent_ofRead (buf : List β) (h : buf ≠ []) : (ofRead buf h).unsent = buf :=
  List.drop_zero

/-- Count bytes that were written; some are left. -/
def advance (m : Message β) (n : ℕ) (h : n < m.unsent.length) : Message β where
  buffer := m.buffer
  bytesSent := m.bytesSent + n
  sent_lt := by
    rw [length_unsent, messageLen] at h
    omega

/-- What is left after some bytes were written. -/
@[simp] lemma unsent_advance (m : Message β) (n : ℕ) (h : n < m.unsent.length) :
    (m.advance n h).unsent = m.unsent.drop n :=
  List.drop_drop.symm

end Message

/-! ## One pass of the loop of `send_message` -/

/-- What `client_write` returns, with `errsv` after it. -/
inductive WriteResult
  /-- The number of bytes that were taken. -/
  | wrote (bytes : ℕ) (errsv : ℤ)
  /-- The result -1. -/
  | failed (errsv : ℤ)
  deriving DecidableEq

/-- How many bytes were taken. -/
def WriteResult.bytes : WriteResult → ℕ
  | .wrote n _ => n
  | .failed _ => 0

/-- The result -1 with an error other than `EAGAIN`. -/
def WriteResult.FailsForGood : WriteResult → Prop
  | .wrote _ _ => False
  | .failed errsv => errsv ≠ eagain

/-- After this result `send_message` takes a message off that is not finished. -/
def WriteResult.GivesUp : WriteResult → Prop
  | .wrote n errsv => n = 0 ∧ errsv = 0
  | .failed errsv => errsv ≠ eagain

instance : DecidablePred WriteResult.FailsForGood := fun w => by
  cases w <;> unfold WriteResult.FailsForGood <;> infer_instance

instance : DecidablePred WriteResult.GivesUp := fun w => by
  cases w <;> unfold WriteResult.GivesUp <;> infer_instance

/-- What one pass of the loop leaves. -/
structure SendPass (β : Type*) where
  /-- The queue. -/
  messages : List (Message β)
  /-- The bytes that were written. -/
  accepted : List β
  /-- The value that `send_message` returns, unless it goes on with the next message. -/
  returned : Option Bool

/-- The message is taken off.  The loop goes on while there is another one; in the end the result
of the last write decides what is returned. -/
def SendPass.pop (rest : List (Message β)) (accepted : List β) (positive : Bool) : SendPass β where
  messages := rest
  accepted := accepted
  returned := if rest.isEmpty then some positive else none

/-- One pass of the loop of `send_message`, with the message at the front of the queue. -/
def sendPass (m : Message β) (rest : List (Message β)) : WriteResult → SendPass β
  | .failed errsv =>
    if errsv = eagain then { messages := m :: rest, accepted := [], returned := some true }
    else .pop rest [] false
  | .wrote n errsv =>
    if h : n < m.unsent.length then
      if n = 0 ∧ errsv = 0 then .pop rest [] false
      else
        { messages := m.advance n h :: rest
          accepted := m.unsent.take n
          returned := some (0 < n) }
    else .pop rest m.unsent true

/-! ## The thread -/

/-- The two sides of a connection. -/
inductive Side
  /-- The server. -/
  | backEnd
  /-- The client that was accepted. -/
  | frontEnd
  deriving DecidableEq

/-- The side to which the bytes of a side go. -/
def Side.other : Side → Side
  | .backEnd => .frontEnd
  | .frontEnd => .backEnd

/-- The bytes on their way to one side. -/
structure Stream (β : Type*) where
  /-- The messages that wait (`toBeSendToBackEnd`, `toBeSendToFrontEnd`). -/
  messages : List (Message β)
  /-- All bytes that were read from the other side. -/
  received : List β
  /-- All bytes that were written to this side. -/
  written : List β
  /-- The results of all writes to this side. -/
  results : List WriteResult

/-- A place in the loop of `_ConnectionThread`. -/
inductive Point
  /-- At the top, before the call of `poll`. -/
  | top
  /-- Before the test whether to send to a side. -/
  | testSend (side : Side)
  /-- Before a `client_write` in `send_message`. -/
  | send (side : Side)
  /-- Before the test whether to read from a side. -/
  | testRead (side : Side)
  /-- `connectionResetAndExit` was called. -/
  | exited
  deriving DecidableEq

/-- The blocks of the loop in their order: where the thread goes on after it has sent. -/
def Point.afterSend : Side → Point
  | .backEnd => .testSend .frontEnd
  | .frontEnd => .testRead .backEnd

/-- Where the thread goes on after it has read. -/
def Point.afterRead : Side → Point
  | .backEnd => .testRead .frontEnd
  | .frontEnd => .top

/-- A connection. -/
structure Connection (β : Type*) where
  /-- What is on its way to each side. -/
  stream : Side → Stream β
  /-- The place of the thread. -/
  point : Point

/-- What `client_read` returns. -/
inductive ReadResult (β : Type*)
  /-- Bytes. -/
  | data (buf : List β)
  /-- The result 0. -/
  | closed
  /-- The result -1. -/
  | broken

/-- What happens next in the thread. -/
inductive Event (β : Type*)
  /-- The tool has to exit. -/
  | haveToExit
  /-- `poll` returns no event. -/
  | idle
  /-- `poll` returns events. -/
  | ready
  /-- The test of the next block fails. -/
  | skip
  /-- The test before `send_message` succeeds. -/
  | sendMessage
  /-- A `client_write` in `send_message`. -/
  | write (result : WriteResult)
  /-- The test before `client_read` succeeds, and it is called. -/
  | read (result : ReadResult β)

/-- The connection when the thread enters the loop. -/
def Connection.start : Connection β where
  stream _ := { messages := [], received := [], written := [], results := [] }
  point := .top

/-- The stream of a side after a write. -/
def Stream.write (st : Stream β) (pass : SendPass β) (result : WriteResult) : Stream β where
  messages := pass.messages
  received := st.received
  written := st.written ++ pass.accepted
  results := st.results ++ [result]

/-- The stream of a side after bytes for it were read. -/
def Stream.push (st : Stream β) (m : Message β) : Stream β where
  messages := st.messages ++ [m]
  received := st.received ++ m.buffer
  written := st.written
  results := st.results

namespace Connection

/-- A write to a side, with the message at the front of its queue. -/
def write (c : Connection β) (side : Side) (m : Message β) (rest : List (Message β))
    (result : WriteResult) : Connection β where
  stream := Function.update c.stream side
    ((c.stream side).write (sendPass m rest result) result)
  point :=
    match (sendPass m rest result).returned with
    | none => .send side
    | some true => .afterSend side
    | some false => .exited

/-- Bytes are read from a side and queued for the other one. -/
def read (c : Connection β) (side : Side) (m : Message β) : Connection β where
  stream := Function.update c.stream side.other ((c.stream side.other).push m)
  point := .afterRead side

/-- One step of the thread. -/
def step (c : Connection β) (e : Event β) : Option (Connection β) :=
  match c.point, e with
  | .top, .haveToExit => some { c with point := .exited }
  | .top, .idle => some c
  | .top, .ready => some { c with point := .testSend .backEnd }
  | .testSend side, .skip => some { c with point := .afterSend side }
  | .testSend side, .sendMessage =>
    if (c.stream side).messages = [] then none else some { c with point := .send side }
  | .send side, .write result =>
    match (c.stream side).messages with
    | [] => none
    -- no more bytes are taken than were passed
    | m :: rest =>
      if result.bytes ≤ m.unsent.length then some (c.write side m rest result) else none
  | .testRead side, .skip => some { c with point := .afterRead side }
  | .testRead side, .read (.data buf) =>
    if h : buf ≠ [] ∧ buf.length ≤ bufSize then some (c.read side (.ofRead buf h.1)) else none
  | .testRead _, .read .closed => some { c with point := .exited }
  | .testRead _, .read .broken => some { c with point := .exited }
  | _, _ => none

end Connection

end Nlt
