import StTools.Lib.LabelledSystem
import StTools.Nlt.ConnectionThread

/-!
# The bytes that are relayed

The bytes written to one side should be the first ones that were read from the other side, and a
connection on which a write fails for good should be closed.

`send_message` takes a message off when a write fails, and also when a write takes no byte and
`errsv` is 0; then it goes on with the next message, and its result says only how the last write
ended.  As long as nothing is written behind a message that was given up, and a message whose write
fails for good is the last one, the connection is faithful in every state (`faithful_throughout`).
-/

namespace Nlt

open LabelledSystem

variable {β : Type*}

/-- The bytes that wait in a queue. -/
def pendingBytes (messages : List (Message β)) : List β := messages.flatMap Message.unsent

/-! ## What one pass does -/

/-- A pass that does not give the message up moves bytes from the queue to the side. -/
lemma sendPass_of_keeps (m : Message β) (rest : List (Message β)) {result : WriteResult}
    (hgive : ¬ result.GivesUp) (hbytes : result.bytes ≤ m.unsent.length) :
    (sendPass m rest result).accepted ++ pendingBytes (sendPass m rest result).messages =
      m.unsent ++ pendingBytes rest := by
  cases result with
  | failed errsv =>
    have hagain : errsv = eagain := not_not.mp hgive
    rw [sendPass, if_pos hagain, List.nil_append, pendingBytes, List.flatMap_cons, pendingBytes]
  | wrote n errsv =>
    have hzero : ¬ (n = 0 ∧ errsv = 0) := hgive
    by_cases hn : n < m.unsent.length
    · rw [sendPass, dif_pos hn, if_neg hzero, pendingBytes, List.flatMap_cons,
        Message.unsent_advance, ← List.append_assoc, List.take_append_drop, pendingBytes]
    · rw [sendPass, dif_neg hn, SendPass.pop]

/-- A pass that gives the message up writes nothing. -/
lemma sendPass_of_givesUp (m : Message β) (rest : List (Message β)) {result : WriteResult}
    (hgive : result.GivesUp) : sendPass m rest result = .pop rest [] false := by
  cases result with
  | failed errsv => rw [sendPass, if_neg hgive]
  | wrote n errsv =>
    have hn : n < m.unsent.length := by
      rw [hgive.1, Message.length_unsent]
      exact Nat.sub_pos_of_lt m.sent_lt
    have hzero : n = 0 ∧ errsv = 0 := hgive
    rw [sendPass, dif_pos hn, if_pos hzero]

/-- Where bytes were written, the result says so. -/
lemma bytes_pos_of_accepted (m : Message β) (rest : List (Message β)) {result : WriteResult}
    (h : (sendPass m rest result).accepted ≠ []) : 0 < result.bytes := by
  cases result with
  | failed errsv =>
    rw [sendPass] at h
    split_ifs at h <;> exact (h rfl).elim
  | wrote n errsv =>
    rcases Nat.eq_zero_or_pos n with rfl | hn
    · have hpos : 0 < m.unsent.length := by
        rw [Message.length_unsent]
        exact Nat.sub_pos_of_lt m.sent_lt
      rw [sendPass, dif_pos hpos] at h
      split_ifs at h <;> exact (h rfl).elim
    · exact hn

/-- A write that fails for good gives the message up. -/
lemma WriteResult.FailsForGood.givesUp {result : WriteResult} (h : result.FailsForGood) :
    result.GivesUp := by
  cases result with
  | wrote n errsv => exact h.elim
  | failed errsv => exact h

/-! ## What should hold -/

/-- What is relayed to one side. -/
structure Stream.Faithful (st : Stream β) (point : Point) : Prop where
  /-- The bytes written are the first ones read from the other side. -/
  inOrder : st.written <+: st.received
  /-- After a write that failed for good the connection is closed. -/
  closes : ∀ result ∈ st.results, result.FailsForGood → point = .exited

/-- The connection relays faithfully in both directions. -/
def Connection.Faithful (c : Connection β) : Prop := ∀ side, (c.stream side).Faithful c.point

/-- The condition on a write to a stream with the given messages behind the first one: when it
takes bytes, no message was given up before; when it fails for good, no other message waits. -/
structure Stream.Writable (st : Stream β) (rest : List (Message β)) (result : WriteResult) :
    Prop where
  /-- There is no gap before the bytes. -/
  noGap : 0 < result.bytes → ∀ earlier ∈ st.results, ¬ earlier.GivesUp
  /-- A write that fails for good is the last one. -/
  isLast : result.FailsForGood → rest = []

/-- Every write meets the condition. -/
def Connection.WritesInOrder (c : Connection β) : Event β → Prop
  | .write result => ∀ side m rest, c.point = .send side →
      (c.stream side).messages = m :: rest → (c.stream side).Writable rest result
  | _ => True

/-! ## The invariant -/

/-- The bytes read are those written, those given up and those in the queue. -/
structure Stream.Inv (st : Stream β) (point : Point) : Prop extends st.Faithful point where
  /-- While no message was given up, nothing is lost. -/
  complete : (∀ result ∈ st.results, ¬ result.GivesUp) →
    st.received = st.written ++ pendingBytes st.messages

/-- The invariant holds for both directions. -/
def Connection.Inv (c : Connection β) : Prop := ∀ side, (c.stream side).Inv c.point

/-- The invariant holds when the thread enters the loop. -/
lemma inv_start : (Connection.start : Connection β).Inv := fun _ =>
  { inOrder := List.nil_prefix
    closes := fun _ h => (List.not_mem_nil h).elim
    complete := fun _ => rfl }

namespace Stream

variable {st : Stream β} {point point' : Point}

/-- The thread goes on; that is harmless unless it was closed. -/
lemma Inv.move (h : st.Inv point) (hpoint : point ≠ .exited) : st.Inv point' :=
  { h with closes := fun result hr hfail => (hpoint (h.closes result hr hfail)).elim }

/-- Bytes that are read come last. -/
lemma Inv.push (h : st.Inv point) (hpoint : point ≠ .exited) (buf : List β) (hbuf : buf ≠ []) :
    (st.push (.ofRead buf hbuf)).Inv point' where
  inOrder := h.inOrder.trans (List.prefix_append _ _)
  closes result hr hfail := (hpoint (h.closes result hr hfail)).elim
  complete hkept := by
    have hcomplete := h.complete hkept
    simp only [Stream.push, pendingBytes, List.flatMap_append, List.flatMap_singleton,
      Message.unsent_ofRead] at hcomplete ⊢
    rw [hcomplete, List.append_assoc]
    rfl

/-- A write that meets the condition keeps the invariant. -/
lemma Inv.write {m : Message β} {rest : List (Message β)} {result : WriteResult}
    (h : st.Inv point) (hpoint : point ≠ .exited) (hmessages : st.messages = m :: rest)
    (hbytes : result.bytes ≤ m.unsent.length) (hwritable : st.Writable rest result)
    (hclosed : (sendPass m rest result).returned = some false → point' = .exited) :
    (st.write (sendPass m rest result) result).Inv point' := by
  have hclosesOld : ∀ earlier ∈ st.results, ¬ earlier.FailsForGood := fun earlier hr hfail =>
    hpoint (h.closes earlier hr hfail)
  by_cases hgive : result.GivesUp
  · -- nothing is written, and there is a gap from now on
    rw [sendPass_of_givesUp m rest hgive] at hclosed ⊢
    refine ⟨⟨?_, fun earlier hr hfail => ?_⟩, fun hkept => ?_⟩
    · simpa [Stream.write, SendPass.pop] using h.inOrder
    · rcases List.mem_append.mp hr with hr | hr
      · exact (hclosesOld earlier hr hfail).elim
      · rw [List.mem_singleton.mp hr] at hfail
        apply hclosed
        rw [SendPass.pop, hwritable.isLast hfail]
        rfl
    · exact (hkept result (List.mem_append_right _ (List.mem_singleton_self _)) hgive).elim
  · have hmove := sendPass_of_keeps m rest hgive hbytes
    refine ⟨⟨?_, fun earlier hr hfail => ?_⟩, fun hkept => ?_⟩
    · by_cases hnone : (sendPass m rest result).accepted = []
      · simpa [Stream.write, hnone] using h.inOrder
      · have hbefore := hwritable.noGap (bytes_pos_of_accepted m rest hnone)
        have hcomplete := h.complete hbefore
        rw [hmessages, pendingBytes, List.flatMap_cons, ← pendingBytes, ← hmove] at hcomplete
        exact ⟨_, (List.append_assoc ..).trans hcomplete.symm⟩
    · rcases List.mem_append.mp hr with hr | hr
      · exact (hclosesOld earlier hr hfail).elim
      · rw [List.mem_singleton.mp hr] at hfail
        exact (hgive hfail.givesUp).elim
    · have hcomplete := h.complete fun earlier hr => hkept earlier (List.mem_append_left _ hr)
      simp only [Stream.write, List.append_assoc]
      rw [hmove, hcomplete, hmessages, pendingBytes, List.flatMap_cons, pendingBytes]

end Stream

namespace Connection

variable {c c' : Connection β}

/-- The thread goes on without a read or a write. -/
lemma Inv.move (h : c.Inv) (hpoint : c.point ≠ .exited) (point : Point) :
    Connection.Inv { c with point := point } := fun side => (h side).move hpoint

/-- A write that meets the condition keeps the invariant. -/
lemma Inv.write {side : Side} {m : Message β} {rest : List (Message β)} {result : WriteResult}
    (h : c.Inv) (hpoint : c.point = .send side) (hmessages : (c.stream side).messages = m :: rest)
    (hbytes : result.bytes ≤ m.unsent.length)
    (hwritable : (c.stream side).Writable rest result) : (c.write side m rest result).Inv := by
  have hopen : c.point ≠ .exited := by
    rw [hpoint]
    exact Point.noConfusion
  intro side'
  rcases eq_or_ne side' side with rfl | hside
  · simp only [Connection.write, Function.update_self]
    refine (h side').write hopen hmessages hbytes hwritable fun hreturned => ?_
    rw [hreturned]
  · simp only [Connection.write, Function.update_of_ne hside]
    exact (h side').move hopen

/-- Bytes that are read keep the invariant. -/
lemma Inv.read {side : Side} (h : c.Inv) (hpoint : c.point ≠ .exited) (buf : List β)
    (hbuf : buf ≠ []) : (c.read side (.ofRead buf hbuf)).Inv := by
  intro side'
  rcases eq_or_ne side' side.other with rfl | hside
  · simp only [Connection.read, Function.update_self]
    exact (h side.other).push hpoint buf hbuf
  · simp only [Connection.read, Function.update_of_ne hside]
    exact (h side').move hpoint

/-- Every step whose write meets the condition keeps the invariant. -/
lemma Inv.step {e : Event β} (h : c.Inv) (hwrites : c.WritesInOrder e)
    (hstep : c.step e = some c') : c'.Inv := by
  have hopen : c.point ≠ .exited := fun hexited => by
    unfold Connection.step at hstep
    simp [hexited] at hstep
  unfold Connection.step at hstep
  split at hstep
  case h_1 => exact Option.some.inj hstep ▸ h.move hopen _
  case h_2 => exact Option.some.inj hstep ▸ h
  case h_3 => exact Option.some.inj hstep ▸ h.move hopen _
  case h_4 => exact Option.some.inj hstep ▸ h.move hopen _
  case h_5 =>
    split_ifs at hstep
    exact Option.some.inj hstep ▸ h.move hopen _
  case h_6 side result hpoint =>
    cases hmessages : (c.stream side).messages with
    | nil => simp [hmessages] at hstep
    | cons m rest =>
      simp only [hmessages] at hstep
      split_ifs at hstep with hbytes
      have hwritable := hwrites side m rest hpoint hmessages
      exact Option.some.inj hstep ▸ h.write hpoint hmessages hbytes hwritable
  case h_7 => exact Option.some.inj hstep ▸ h.move hopen _
  case h_8 side buf _ =>
    split_ifs at hstep with hbuf
    exact Option.some.inj hstep ▸ h.read hopen buf hbuf.1
  case h_9 => exact Option.some.inj hstep ▸ h.move hopen _
  case h_10 => exact Option.some.inj hstep ▸ h.move hopen _
  case h_11 => cases hstep

end Connection

/-! ## Runs -/

/-- **What is relayed.**  In every run in which nothing is written behind a message that was given
up, and a message whose write fails for good is the last of its queue, the bytes written to a side
are in every state the first ones read from the other side, and a write that failed for good has
closed the connection. -/
theorem faithful_throughout (es : List (Event β))
    (h : Along Connection.step Connection.WritesInOrder Connection.start es) :
    Throughout Connection.step Connection.Faithful Connection.start es :=
  throughout_of_along (fun _ _ _ hI hC hstep => hI.step hC hstep)
    (fun _ hI side => (hI side).toFaithful) inv_start h

/-- No message is given up by an event. -/
def Event.Keeps : Event β → Prop
  | .write result => ¬ result.GivesUp
  | _ => True

instance : DecidablePred (Event.Keeps : Event β → Prop) := fun e => by
  cases e <;> unfold Event.Keeps <;> infer_instance

/-- No message was given up. -/
def Connection.NoneGivenUp (c : Connection β) : Prop :=
  ∀ side, ∀ result ∈ (c.stream side).results, ¬ result.GivesUp

/-- An event that keeps the messages adds no result that gives one up. -/
lemma Connection.NoneGivenUp.step {c c' : Connection β} {e : Event β} (h : c.NoneGivenUp)
    (hkeeps : e.Keeps) (hstep : c.step e = some c') : c'.NoneGivenUp := by
  unfold Connection.step at hstep
  split at hstep
  case h_5 =>
    split_ifs at hstep
    exact Option.some.inj hstep ▸ h
  case h_6 side result _ =>
    cases hmessages : (c.stream side).messages with
    | nil => simp [hmessages] at hstep
    | cons m rest =>
      simp only [hmessages] at hstep
      split_ifs at hstep
      rw [← Option.some.inj hstep]
      intro side' earlier hr
      rcases eq_or_ne side' side with rfl | hside
      · simp only [Connection.write, Function.update_self, Stream.write] at hr
        rcases List.mem_append.mp hr with hr | hr
        · exact h side' earlier hr
        · exact List.mem_singleton.mp hr ▸ hkeeps
      · simp only [Connection.write, Function.update_of_ne hside] at hr
        exact h side' earlier hr
  case h_8 side buf _ =>
    split_ifs at hstep
    rw [← Option.some.inj hstep]
    intro side' earlier hr
    rcases eq_or_ne side' side.other with rfl | hside
    · simp only [Connection.read, Function.update_self, Stream.push] at hr
      exact h side.other earlier hr
    · simp only [Connection.read, Function.update_of_ne hside] at hr
      exact h side' earlier hr
  all_goals first | exact Option.some.inj hstep ▸ h | cases hstep

/-- Where no message is given up, every write meets the condition. -/
lemma writesInOrder_of_keeps {es : List (Event β)} (h : ∀ e ∈ es, e.Keeps) :
    Along Connection.step Connection.WritesInOrder Connection.start es := by
  refine along_of_along (I := Connection.NoneGivenUp) (C := fun _ e => e.Keeps)
    (fun _ _ _ hI hC hstep => hI.step hC hstep) (fun c e hI hC => ?_)
    (fun _ _ h => (List.not_mem_nil h).elim) (along_of_forall fun e he _ => h e he)
  cases e with
  | write result =>
    intro side m rest _ _
    exact ⟨fun _ earlier hr => hI side earlier hr, fun hfail => (hC hfail.givesUp).elim⟩
  | _ => trivial

/-! ## A message is lost -/

/-- Two chunks are read from the front end; the write of the first one fails because the
connection was reset (104), the write of the second one does not. -/
def writeFailsOnce : List (Event UInt8) :=
  [.ready, .skip, .skip, .skip, .read (.data [1]),
    .ready, .skip, .skip, .skip, .read (.data [2]),
    .ready, .sendMessage, .write (.failed 104), .write (.wrote 1 104)]

/-- The second chunk is written without the first one, and the connection stays open. -/
theorem writeFailsOnce_loses :
    ¬ Throughout Connection.step Connection.Faithful Connection.start writeFailsOnce := by
  intro h
  obtain ⟨c, hc, hread, hwritten⟩ : ∃ c,
      exec Connection.step Connection.start writeFailsOnce = some c ∧
        (c.stream .backEnd).received = [1, 2] ∧ (c.stream .backEnd).written = [2] :=
    ⟨_, rfl, rfl, rfl⟩
  have horder := (h.last hc .backEnd).inOrder
  rw [hread, hwritten] at horder
  revert horder
  decide

/-- Two chunks are read from the front end and written in two pieces. -/
def writesInPieces : List (Event UInt8) :=
  [.ready, .skip, .skip, .skip, .read (.data [1, 2]),
    .ready, .sendMessage, .write (.wrote 1 0), .skip, .skip, .read (.data [3]),
    .ready, .sendMessage, .write (.wrote 1 0), .write (.failed 11)]

/-- Nothing is lost. -/
theorem writesInPieces_faithful :
    Throughout Connection.step Connection.Faithful Connection.start writesInPieces :=
  faithful_throughout writesInPieces (writesInOrder_of_keeps (by decide))

end Nlt
