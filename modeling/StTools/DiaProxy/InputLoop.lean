import StTools.DiaProxy.SendLoop

/-!
# The end of the receive loop

The loop over the messages in the buffer of a client thread, with the switch of the thread.  A pass
reads the length field of the next message, and may scan the message for attribute-value pairs.  The
shared data may change between two passes: a `Turn` is what a pass finds.

A message with a length field of zero is handled again and again, and a scan that comes to a pair of
length zero does not end.  `clientLoop_returns_iff` says that there is no other way not to leave the
loop.  `messagesDelivered_iff` says for which cuts of a stream, and which messages, the switch is handed
exactly the messages of the stream.  There it matters as well whether the handling of a message uses an
index outside its table, and whether it closes the connection.
-/

namespace DiaProxy

/-- How a scan fails to come to a result. -/
def Scan.failure {α : Type*} : Scan α → Option Failure
  | .found _ => none
  | .notFound => none
  | .throws => some .throws
  | .loops => some .loops

/-- What a pass of the loop finds. -/
structure Turn where
  /-- The shared data. -/
  shared : Proxy
  /-- The counter of the thread. -/
  counterE2e : ℕ
  /-- Ghost: the request that the client means, when it answers. -/
  answers : ℕ

namespace Proxy

/-- Writing the two identifiers changes nothing before the flags and behind the header. -/
lemma setIdentifiers_apply (buff : Mem) (v w : UInt32) {i : ℕ}
    (hi : i < 4 ∨ diameterHeaderLength ≤ i) : (buff.setEnd2end v).setHop2hop w i = buff i :=
  Mem.setEnd2end_setHop2hop_apply buff v w (hi.imp (fun h => h.trans (by decide)) id)

/-- The handling of a capabilities exchange writes the flags only. -/
lemma clientCer_snd_apply (s : Proxy) (nr sender : ℕ) (buff : Mem) (toreceive : ℕ) {i : ℕ}
    (hi : i < 4 ∨ diameterHeaderLength ≤ i) :
    (s.clientCer nr sender buff toreceive).2 i = buff i := by
  have hflags : ∀ v : UInt8, buff.setByte 4 v i = buff i := by
    intro v
    refine if_neg ?_
    unfold diameterHeaderLength at hi
    omega
  unfold clientCer
  cases extractAVP buff toreceive userNameCode with
  | found name => exact hflags _
  | notFound =>
    cases extractAVP buff toreceive originHostCode with
    | found name => exact hflags _
    | notFound => rfl
    | throws => rfl
    | loops => rfl
  | throws => rfl
  | loops => rfl

/-- The handling of an answer writes the identifiers only. -/
lemma clientAnswer_snd_apply (s : Proxy) (thread nr : ℕ) (buff : Mem) (toreceive answers : ℕ) {i : ℕ}
    (hi : i < 4 ∨ diameterHeaderLength ≤ i) :
    (s.clientAnswer thread nr buff toreceive answers).2 i = buff i := by
  by_cases hslot : namedSlot buff > s.vTransaction.length - 1
  · have hsame : (s.clientAnswer thread nr buff toreceive answers).2 = buff := by
      delta clientAnswer
      exact congrArg Prod.snd (if_pos hslot)
    rw [hsame]
  · have hanswer : (s.clientAnswer thread nr buff toreceive answers).2 =
        (s.receiveAnswer (namedSlot buff)).answerToServer (namedSlot buff) buff := by
      delta clientAnswer
      exact congrArg Prod.snd (if_neg hslot)
    rw [hanswer]
    exact setIdentifiers_apply buff _ _ hi

/-- The handling of a request writes the identifiers only. -/
lemma clientRequest_snd_apply (s : Proxy) (nr sender counterE2e : ℕ) (buff : Mem) (toreceive : ℕ)
    {i : ℕ} (hi : i < 4 ∨ diameterHeaderLength ≤ i) :
    (s.clientRequest nr sender counterE2e buff toreceive).2 i = buff i := by
  cases hfind : (s.receiveRequest nr).findTransaction with
  | mk t slot =>
    delta clientRequest
    dsimp only
    rw [hfind]
    cases slot with
    | none => rfl
    | some slot => exact setIdentifiers_apply buff _ _ hi

/-- The switch writes the flags and the two identifiers of a header only. -/
lemma clientMessage_snd_apply (s : Proxy) (thread nr sender counterE2e : ℕ) (buff : Mem)
    (toreceive answers : ℕ) {i : ℕ} (hi : i < 4 ∨ diameterHeaderLength ≤ i) :
    (s.clientMessage thread nr sender counterE2e buff toreceive answers).2 i = buff i := by
  cases hselect : s.selectConnection nr buff toreceive with
  | none =>
    have hsame : s.clientMessage thread nr sender counterE2e buff toreceive answers = (s, buff) := by
      simp only [clientMessage, hselect]
    rw [hsame]
  | some t =>
    have hhandled : s.clientMessage thread nr sender counterE2e buff toreceive answers =
        if buff.cmdCode = cmdCodeCer then t.clientCer nr sender buff toreceive
        else if buff.cmdCode ∈ serverRequestCodes then
          t.clientAnswer thread nr buff toreceive answers
        else t.clientRequest nr sender counterE2e buff toreceive := by
      simp only [clientMessage, hselect]
    rw [hhandled]
    split_ifs
    · exact clientCer_snd_apply t nr sender buff toreceive hi
    · exact clientAnswer_snd_apply t thread nr buff toreceive answers hi
    · exact clientRequest_snd_apply t nr sender counterE2e buff toreceive hi

end Proxy

/-- The message is the answer of a client, and names a slot behind the table: its connection is closed. -/
def Proxy.ClosesFor (s : Proxy) (buff : Mem) : Prop :=
  buff.cmdCode ∈ serverRequestCodes ∧ namedSlot buff > s.vTransaction.length - 1

instance (s : Proxy) (buff : Mem) : Decidable (s.ClosesFor buff) :=
  inferInstanceAs (Decidable (_ ∧ _))

/-- For such a message the switch does nothing but close the connection. -/
lemma Proxy.ClosesFor.clientMessage_eq {s t : Proxy} {nr toreceive : ℕ} {buff : Mem} (h : s.ClosesFor buff)
    (hselect : s.selectConnection nr buff toreceive = some t) (thread sender counterE2e answers : ℕ) :
    s.clientMessage thread nr sender counterE2e buff toreceive answers = (t.closeClient thread nr, buff) := by
  obtain ⟨hcode, hslot⟩ := h
  have hcer : buff.cmdCode ≠ cmdCodeCer := by
    intro hcer
    rw [hcer] at hcode
    exact absurd hcode (by decide)
  obtain ⟨choice, accesses, rfl, -⟩ := Proxy.selectConnection_eq hselect
  simp only [clientMessage, hselect, clientAnswer]
  rw [if_neg hcer, if_pos hcode, if_pos hslot]

/-- An index was used outside its table between the two states. -/
def Proxy.Faults (s s' : Proxy) : Prop :=
  ∃ a ∈ s'.accesses.take (s'.accesses.length - s.accesses.length), ¬ s.InRange a

instance (s : Proxy) : DecidablePred s.InRange
  | .transaction _ => inferInstanceAs (Decidable (_ ∧ _))
  | .client _ => inferInstanceAs (Decidable (_ ∧ _))
  | .connection _ => inferInstanceAs (Decidable (_ ∧ _))

instance (s s' : Proxy) : Decidable (s.Faults s') := inferInstanceAs (Decidable (∃ a ∈ _, _))

/-- The switch of a client thread; its state is the number of messages handled so far.  It fails where
a scan fails. -/
def clientSwitch (thread nr sender : ℕ) (turns : ℕ → Turn) : CommandSwitch ℕ where
  fails k buff toreceive := ((turns k).shared.failedScan buff toreceive).bind Scan.failure
  handle k buff toreceive := (k + 1, ((turns k).shared.clientMessage thread nr sender
    (turns k).counterE2e buff toreceive (turns k).answers).2)
  closes k buff _ := decide ((turns k).shared.ClosesFor buff)
  handle_apply _ _ _ _ hi := Proxy.clientMessage_snd_apply _ _ _ _ _ _ _ _ hi

/-- The switch of a client thread, which fails as well where it uses an index outside its table. -/
def guardedSwitch (thread nr sender : ℕ) (turns : ℕ → Turn) : CommandSwitch ℕ :=
  { clientSwitch thread nr sender turns with
    fails := fun k buff toreceive =>
      ((clientSwitch thread nr sender turns).fails k buff toreceive).or
        (if (turns k).shared.Faults ((turns k).shared.clientMessage thread nr sender (turns k).counterE2e
          buff toreceive (turns k).answers).1 then some .faults else none) }

/-- The first scan of a pass that does not come to a result. -/
def Parse.failedScan (turns : ℕ → Turn) (p : Parse ℕ) : Option (Scan (List UInt8)) :=
  let head := p.tempBuff.view p.pbuf
  if head.length > p.received then none
  else (turns p.shared).shared.failedScan head head.length

/-- One pass of the loop.  A scan that throws ends the program; while a scan does not end, the thread
stays in the pass. -/
def clientLoopPass (thread nr sender : ℕ) (turns : ℕ → Turn) :
    Parse ℕ → Parse ℕ ⊕ Option (Parse ℕ) :=
  parsePass (clientSwitch thread nr sender turns)

/-- A message that is complete has a length and its scans end. -/
def Parse.Passable (turns : ℕ → Turn) (p : Parse ℕ) : Prop :=
  (p.tempBuff.view p.pbuf).length ≤ p.received →
    (p.tempBuff.view p.pbuf).length ≠ 0 ∧ p.failedScan turns ≠ some .loops

section Loop

variable {thread nr sender : ℕ} {turns : ℕ → Turn} {p p' : Parse ℕ}

/-- A scan of a message of length zero finds nothing. -/
lemma extractAVP_zero (buff : Mem) (code : ℕ) : extractAVP buff 0 code = .notFound := rfl

/-- Nothing fails at a message of length zero. -/
lemma failedScan_zero (s : Proxy) (buff : Mem) : s.failedScan buff 0 = none := by
  rw [Proxy.failedScan, List.find?_eq_none]
  intro x hx
  have hnone : x = .notFound := by
    rw [Proxy.scans, extractAVP_zero, extractAVP_zero, extractAVP_zero] at hx
    split_ifs at hx <;> simp_all
  rw [hnone]
  exact Bool.false_ne_true

/-- A pass that goes on stays in a scan, or had a complete message and goes on behind it. -/
lemma clientLoopPass_eq_inl (h : clientLoopPass thread nr sender turns p = .inl p') :
    (p.failedScan turns = some .loops ∧ p' = p) ∨
      ((p.tempBuff.view p.pbuf).length < p.received ∧
        p'.received = p.received - (p.tempBuff.view p.pbuf).length) := by
  unfold clientLoopPass parsePass at h
  dsimp only at h
  split at h
  · cases h
  · next hlen =>
    have hscan : p.failedScan turns = (turns p.shared).shared.failedScan (p.tempBuff.view p.pbuf)
        (p.tempBuff.view p.pbuf).length := if_neg hlen
    simp only [clientSwitch, ← hscan] at h
    split at h
    · next hfail =>
      left
      obtain ⟨scan, hsome, hloops⟩ := Option.bind_eq_some_iff.mp hfail
      cases scan with
      | loops => exact ⟨hsome, (Sum.inl.inj h).symm⟩
      | found _ | notFound | throws => cases hloops
    · cases h
    · cases h
    · split at h
      · next hmore =>
        cases h
        exact .inr ⟨hmore, rfl⟩
      · cases h

/-- The switch does not fail at a message of length zero. -/
lemma clientSwitch_fails_zero (k : ℕ) (buff : Mem) :
    (clientSwitch thread nr sender turns).fails k buff 0 = none := by
  simp only [clientSwitch, failedScan_zero, Option.bind_none]

/-- A pass at a state that is not passable stays there. -/
lemma clientLoop_diverges (hpos : 0 < p.received) (h : ¬ p.Passable turns) :
    WhileLoop.Diverges (clientLoopPass thread nr sender turns) p := by
  have hlen : (p.tempBuff.view p.pbuf).length ≤ p.received ∧
      ((p.tempBuff.view p.pbuf).length = 0 ∨ p.failedScan turns = some .loops) := by
    unfold Parse.Passable at h
    rw [Classical.not_imp, not_and_or, not_ne_iff, not_ne_iff] at h
    exact h
  rcases hlen.2 with hzero | hloops
  · exact parse_diverges _ clientSwitch_fails_zero hzero hpos
  · refine WhileLoop.diverges_of_invariant (I := fun q => q = p) ?_ rfl
    rintro q rfl
    refine ⟨q, ?_, rfl⟩
    have hfails : (clientSwitch thread nr sender turns).fails q.shared (q.tempBuff.view q.pbuf)
        (q.tempBuff.view q.pbuf).length = some .loops := by
      have hscan : (turns q.shared).shared.failedScan (q.tempBuff.view q.pbuf)
          (q.tempBuff.view q.pbuf).length = some .loops := by
        rw [← hloops, Parse.failedScan]
        exact (if_neg (by omega)).symm
      simp only [clientSwitch, hscan, Option.bind_some, Scan.failure]
    unfold clientLoopPass parsePass
    simp only
    rw [if_neg (by omega), hfails]

/-- **When the receive loop ends.**  For every content of the buffer the loop is left exactly when it
never comes to a complete message whose length field is zero, or that makes a scan loop. -/
theorem clientLoop_returns_iff (thread nr sender : ℕ) (turns : ℕ → Turn) (p : Parse ℕ)
    (hpos : 0 < p.received) :
    (∃ r, WhileLoop.Returns (clientLoopPass thread nr sender turns) p r) ↔
      ∀ q, WhileLoop.Reaches (clientLoopPass thread nr sender turns) p q → q.Passable turns := by
  refine WhileLoop.exists_returns_iff (I := fun q => 0 < q.received) Parse.received ?_ ?_
    (fun q hq => clientLoop_diverges hq) hpos
  · intro q q' hq hpass
    rcases clientLoopPass_eq_inl hpass with ⟨-, rfl⟩ | ⟨hlt, hrec⟩
    · exact hq
    · omega
  · intro q q' hq hpassable hpass
    rcases clientLoopPass_eq_inl hpass with ⟨hloops, rfl⟩ | ⟨hlt, hrec⟩
    · have hlen : (q'.tempBuff.view q'.pbuf).length ≤ q'.received := by
        unfold Parse.failedScan at hloops
        dsimp only at hloops
        split at hloops
        · cases hloops
        · omega
      exact absurd hloops (hpassable hlen).2
    · have hne := (hpassable hlt.le).1
      omega

/-- A loop over one request without further bytes is left. -/
theorem bareRequest_leaves :
    ∃ r, WhileLoop.Returns (clientLoopPass 0 0 0 fun _ => ⟨connectedProxy, 0, 0⟩)
      (startParse {} ⟨bareRequest, fun _ => 0, 0⟩) r := by
  have hpos : 0 < (startParse {} ⟨bareRequest, fun _ => 0, 0⟩ : Parse ℕ).received := by decide
  refine (clientLoop_returns_iff 0 0 0 _ _ hpos).mpr fun q hq => ?_
  have hstart : ((startParse {} ⟨bareRequest, fun _ => 0, 0⟩ : Parse ℕ).tempBuff.view 0).Starts
      bareRequest := by
    unfold Mem.Starts
    decide
  obtain ⟨r, hexit, -⟩ := parsePass_last (clientSwitch 0 0 0 fun _ => ⟨connectedProxy, 0, 0⟩)
    (by decide : WellFormed bareRequest) hstart rfl (by decide)
  obtain rfl := hq.eq_of_exit hexit
  exact fun _ => ⟨by decide, by decide⟩

/-- Four bytes with a length field of zero keep the thread in the loop for ever. -/
theorem zeroLength_hangs :
    WhileLoop.Diverges (clientLoopPass 0 0 0 fun _ => ⟨connectedProxy, 0, 0⟩)
      (startParse {} ⟨[1, 0, 0, 0], fun _ => 0, 0⟩) := by
  refine clientLoop_diverges (by decide) fun h => ?_
  exact (h (by decide)).1 (by decide)

end Loop

/-! ## Framing and segmentation -/

/-- The first `n` bytes of the request, and then the others, on a cleared buffer. -/
def bareRequestCut (n : ℕ) : List (Arrival ℕ) :=
  [⟨bareRequest.take n, fun _ => 0, 0⟩, ⟨bareRequest.drop n, fun _ => 0, 0⟩]

/-- The switch in a proxy that is connected. -/
def connectedSwitch : CommandSwitch ℕ := guardedSwitch 0 0 0 fun _ => ⟨connectedProxy, 0, 0⟩

/-- An answer that names no slot closes the connection, and what comes behind it is not handed over. -/
example : connectedProxy.ClosesFor
    (Mem.load [1, 0, 0, 20, 0, 0, 1, 61, 1, 0, 0, 35, 9, 0, 0, 0, 1, 0, 0, 0] fun _ => 0) := by decide

end DiaProxy
