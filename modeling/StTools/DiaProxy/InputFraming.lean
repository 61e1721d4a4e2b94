import StTools.DiaProxy.DataModel

/-!
# The receive branch of a client thread

A client thread reads bytes of a client into `temp_buff`, behind the bytes that an earlier `recv`
left over, and then cuts the buffer into messages in a `do`-`while` loop, handing each message to
the switch over command codes.  The length field of the next message is read *before* it is
checked that its four bytes have arrived.

The reference is `diameterFrame.split`.  `CommandSwitch.delivered_iff` says exactly for which cuts of a
stream the loop agrees with it, when the switch may also fail to come to an end, or close the connection.
-/

namespace DiaProxy

/-- `DEFAULT_BUFFER_SIZE`. -/
def defaultBufferSize : ℕ := 65535

/-! ## The loop -/

/-- How the handling of a message fails to come to an end. -/
inductive Failure
  /-- It never ends. -/
  | loops
  /-- It throws, and the program ends. -/
  | throws
  /-- It uses an index that is outside its table. -/
  | faults
  deriving Repr, DecidableEq

/-- What the loop does with a complete message: the code from the choice of the server connection
to the end of the switch over command codes.  It gets the memory from the start of the message on
and the length of the message, and it may write the flags and the two identifiers of a header. -/
structure CommandSwitch (σ : Type*) where
  /-- How it fails, when it does. -/
  fails : σ → Mem → ℕ → Option Failure
  /-- The new shared state and the new contents of the buffer. -/
  handle : σ → Mem → ℕ → σ × Mem
  /-- Whether it closes the connection. -/
  closes : σ → Mem → ℕ → Bool
  /-- The version, the length and everything behind a header are left as they are. -/
  handle_apply : ∀ s m n i, i < 4 ∨ diameterHeaderLength ≤ i → (handle s m n).2 i = m i

variable {σ : Type*}

/-- The variables of the loop. -/
structure Parse (σ : Type*) where
  /-- `pbuf`, as an offset into the buffer. -/
  pbuf : ℕ
  /-- `received`: the bytes from `pbuf` on that have arrived. -/
  received : ℕ
  /-- `temp_buff`, and the memory behind it. -/
  tempBuff : Mem
  /-- The fields of `currentClient`. -/
  input : ClientInput
  /-- The state that the switch works on. -/
  shared : σ
  /-- The switch has closed the connection. -/
  closed : Bool
  /-- Ghost: the messages handed to the switch so far. -/
  handed : List (List UInt8)

/-- A complete message has been handled. -/
def Parse.handle (sw : CommandSwitch σ) (p : Parse σ) : Parse σ :=
  let head := p.tempBuff.view p.pbuf
  let handled := sw.handle p.shared head head.length
  { p with
    tempBuff := p.tempBuff.overlay p.pbuf handled.2
    shared := handled.1
    closed := p.closed || sw.closes p.shared head head.length
    handed := p.handed ++ [head.bytes head.length] }

/-- One pass of the loop.  While the handling of a message does not end, the thread stays in the
pass; `none` says that the program has ended, or that what it does is undefined. -/
def parsePass (sw : CommandSwitch σ) (p : Parse σ) : Parse σ ⊕ Option (Parse σ) :=
  let head := p.tempBuff.view p.pbuf
  let toreceive := head.length
  if toreceive > p.received then
    .inr (some { p with
      input :=
        { clientBuff := Mem.load (head.bytes p.received) p.input.clientBuff
          toreceive := toreceive
          received := p.received } })
  else
    match sw.fails p.shared head toreceive with
    | some .loops => .inl p
    | some .throws | some .faults => .inr none
    | none =>
      if p.received > toreceive then
        .inl { p.handle sw with
          pbuf := p.pbuf + toreceive
          received := p.received - toreceive
          input := { p.input with toreceive := 0 } }
      else
        .inr (some { p.handle sw with
          received := 0
          input := { p.input with received := 0, toreceive := 0 } })

/-- One call of `recv` with what it depends on: the bytes it returns, and the contents of
`temp_buff` and the shared state when it is called.  The thread uses `temp_buff` for all its
clients, so its contents may be anything that was received before. -/
structure Arrival (σ : Type*) where
  chunk : List UInt8
  tempBuff : Mem
  shared : σ

/-- `temp_buff` before `recv` is called: cleared, or with the bytes that were kept. -/
def prepareBuffer (tempBuff : Mem) (input : ClientInput) : Mem :=
  if input.received = 0 then Mem.load (List.replicate defaultBufferSize 0) tempBuff
  else Mem.load (input.clientBuff.bytes input.received) tempBuff

/-- The loop starts on the bytes that were kept and the bytes that have arrived. -/
def startParse (input : ClientInput) (a : Arrival σ) : Parse σ :=
  let buff := prepareBuffer a.tempBuff input
  { pbuf := 0
    received := a.chunk.length + input.received
    tempBuff := buff.overlay input.received (Mem.load a.chunk (buff.view input.received))
    input := input
    shared := a.shared
    closed := false
    handed := [] }

/-- The receive branch handles a list of arrivals one after the other, with these messages handed
to the switch and this input at the end.  `recv` is asked for at most the free space, and not called any
more when the connection is closed. -/
def Receives (sw : CommandSwitch σ) :
    ClientInput → List (Arrival σ) → List (List UInt8) → ClientInput → Prop
  | input, [], handed, last => handed = [] ∧ last = input
  | input, a :: as, handed, last =>
    a.chunk.length ≤ defaultBufferSize - input.received ∧
      ∃ q rest, WhileLoop.Returns (parsePass sw) (startParse input a) (some q) ∧
        Receives sw q.input as rest last ∧ (as ≠ [] → q.closed = false) ∧ handed = q.handed ++ rest

/-- The switch was handed exactly these messages, and nothing was kept. -/
def Delivered (sw : CommandSwitch σ) (input : ClientInput) (as : List (Arrival σ))
    (ms : List (List UInt8)) : Prop :=
  ∃ last, Receives sw input as ms last ∧ last.received = 0

/-! ## When the length field is read correctly -/

/-- What of a stream is not a complete message yet. -/
def leftover (l : List UInt8) : List UInt8 := (diameterFrame.split l).2

/-- The contents of `temp_buff` behind the bytes of the client: zeros if nothing was kept from an
earlier call, else whatever the thread received there before. -/
def behind (tempBuff : Mem) (kept : List UInt8) : Mem :=
  if kept = [] then Mem.load (List.replicate defaultBufferSize 0) tempBuff else tempBuff

/-- If a call of `recv` leaves one to three bytes of a message, the length that is read there,
from these bytes and what lies behind them, exceeds their number. -/
def HeaderArrives (kept : List UInt8) (a : Arrival σ) : Prop :=
  let arrived := kept ++ a.chunk
  let rest := leftover arrived
  1 ≤ rest.length → rest.length ≤ 3 →
    rest.length < ((Mem.load arrived (behind a.tempBuff kept)).view
      (arrived.length - rest.length)).length

instance (kept : List UInt8) (a : Arrival σ) : Decidable (HeaderArrives kept a) :=
  inferInstanceAs (Decidable (_ → _ → _))

/-- A condition on what the switch finds, at each of the messages that the memory begins with. -/
def CommandSwitch.AtMessages (sw : CommandSwitch σ) (P : σ → Mem → ℕ → Prop) :
    σ → Mem → List (List UInt8) → Prop
  | _, _, [] => True
  | s, buff, m :: ms => P s buff m.length ∧
      sw.AtMessages P (sw.handle s buff m.length).1 (buff.view m.length) ms

/-- The switch does not fail at a message. -/
def CommandSwitch.EndsAt (sw : CommandSwitch σ) (s : σ) (buff : Mem) (n : ℕ) : Prop :=
  sw.fails s buff n = none

instance (sw : CommandSwitch σ) (s : σ) (buff : Mem) (n : ℕ) : Decidable (sw.EndsAt s buff n) :=
  inferInstanceAs (Decidable (_ = _))

/-- The switch leaves the connection open at a message. -/
def CommandSwitch.OpenAt (sw : CommandSwitch σ) (s : σ) (buff : Mem) (n : ℕ) : Prop :=
  sw.closes s buff n = false

/-- A condition on what the switch finds, at every message that a call of `recv` completes. -/
def CommandSwitch.AtArrival (sw : CommandSwitch σ) (P : σ → Mem → ℕ → Prop) (kept : List UInt8)
    (a : Arrival σ) : Prop :=
  sw.AtMessages P a.shared (Mem.load (kept ++ a.chunk) (behind a.tempBuff kept))
    (diameterFrame.split (kept ++ a.chunk)).1

/-- The switch does not fail at the messages that a call of `recv` completes. -/
def CommandSwitch.Ends (sw : CommandSwitch σ) : List UInt8 → Arrival σ → Prop := sw.AtArrival sw.EndsAt

/-- The switch leaves the connection open at the messages that a call of `recv` completes. -/
def CommandSwitch.StaysOpen (sw : CommandSwitch σ) : List UInt8 → Arrival σ → Prop :=
  sw.AtArrival sw.OpenAt

/-- The bytes that arrive fit behind the bytes that were kept. -/
def Fits (kept : List UInt8) (a : Arrival σ) : Prop :=
  a.chunk ≠ [] ∧ kept.length + a.chunk.length ≤ defaultBufferSize

/-- A condition on what was kept and what arrives, at each of a list of arrivals. -/
def AtEach (P : List UInt8 → Arrival σ → Prop) : List UInt8 → List (Arrival σ) → Prop
  | _, [] => True
  | kept, a :: as => P kept a ∧ AtEach P (leftover (kept ++ a.chunk)) as

/-- A condition on what was kept and what arrives, at each of a list of arrivals but the last. -/
def AtEachButLast (P : List UInt8 → Arrival σ → Prop) : List UInt8 → List (Arrival σ) → Prop
  | _, [] => True
  | kept, a :: as => (as ≠ [] → P kept a) ∧ AtEachButLast P (leftover (kept ++ a.chunk)) as

/-! ## One pass -/

section Pass

variable (sw : CommandSwitch σ) {p : Parse σ} {m t r : List UInt8}

/-- The bytes behind a message are those that the loop goes on with. -/
lemma starts_behind {p' : Parse σ} (hstart : (p.tempBuff.view p.pbuf).Starts (m ++ t))
    (hpbuf : p'.pbuf = p.pbuf + m.length)
    (hview : ∀ k, p'.tempBuff.view (p'.pbuf + k) = p.tempBuff.view (p'.pbuf + k)) :
    (p'.tempBuff.view p'.pbuf).Starts t := by
  have hsame := hview 0
  rw [Nat.add_zero] at hsame
  rw [hsame, hpbuf, ← Mem.view_view]
  exact hstart.right

/-- The handling of a message changes nothing behind its header. -/
lemma handle_tempBuff_view {i : ℕ} (hi : diameterHeaderLength ≤ i) :
    (p.handle sw).tempBuff.view (p.pbuf + i) = p.tempBuff.view (p.pbuf + i) := by
  funext k
  simp only [Parse.handle, Mem.view, Mem.overlay]
  rw [if_neg (by omega), sw.handle_apply _ _ _ _ (Or.inr (by omega))]
  simp only [Mem.view]
  congr 1
  omega

/-- A complete message with bytes behind it is handed to the switch, and the loop goes on behind
it; the bytes there are as before. -/
lemma parsePass_message (hm : WellFormed m)
    (hstart : (p.tempBuff.view p.pbuf).Starts (m ++ t)) (hrec : p.received = (m ++ t).length)
    (ht : t ≠ []) (hends : sw.fails p.shared (p.tempBuff.view p.pbuf) m.length = none) :
    ∃ p', parsePass sw p = .inl p' ∧ p'.received = t.length ∧ p'.handed = p.handed ++ [m] ∧
      p'.closed = (p.closed || sw.closes p.shared (p.tempBuff.view p.pbuf) m.length) ∧
      p'.shared = (sw.handle p.shared (p.tempBuff.view p.pbuf) m.length).1 ∧
      p'.pbuf = p.pbuf + m.length ∧
      ∀ k, p'.tempBuff.view (p'.pbuf + k) = p.tempBuff.view (p'.pbuf + k) := by
  obtain ⟨h20, hmax, hsize⟩ := hm
  have hm' : (p.tempBuff.view p.pbuf).Starts m := hstart.left
  have hlen : (p.tempBuff.view p.pbuf).length = m.length := by
    rw [hm'.length_eq (by omega), hsize]
  have htlen : 0 < t.length := List.length_pos_iff.mpr ht
  rw [List.length_append] at hrec
  unfold parsePass
  simp only [hlen]
  rw [if_neg (by omega), hends]
  simp only
  rw [if_pos (by omega)]
  refine ⟨_, rfl, by simp only; omega, ?_, ?_, ?_, rfl, fun k => ?_⟩
  · simp only [Parse.handle, hlen, hm'.bytes_eq]
  · simp only [Parse.handle, hlen]
  · simp only [Parse.handle, hlen]
  · simp only
    rw [Nat.add_assoc]
    exact handle_tempBuff_view sw (by unfold diameterHeaderLength; omega)

/-- A complete message at the end of what arrived is handed to the switch and ends the loop. -/
lemma parsePass_last (hm : WellFormed m) (hstart : (p.tempBuff.view p.pbuf).Starts m)
    (hrec : p.received = m.length)
    (hends : sw.fails p.shared (p.tempBuff.view p.pbuf) m.length = none) :
    ∃ q, parsePass sw p = .inr (some q) ∧ q.handed = p.handed ++ [m] ∧ q.input.received = 0 ∧
      q.closed = (p.closed || sw.closes p.shared (p.tempBuff.view p.pbuf) m.length) := by
  obtain ⟨h20, hmax, hsize⟩ := hm
  have hlen : (p.tempBuff.view p.pbuf).length = m.length := by
    rw [hstart.length_eq (by omega), hsize]
  unfold parsePass
  simp only [hlen]
  rw [if_neg (by omega), hends]
  simp only
  rw [if_neg (by omega)]
  exact ⟨_, rfl, by simp only [Parse.handle, hlen, hstart.bytes_eq], rfl,
    by simp only [Parse.handle, hlen]⟩

/-- A length beyond what arrived ends the loop, and the bytes are kept. -/
lemma parsePass_keep (hstart : (p.tempBuff.view p.pbuf).Starts r) (hrec : p.received = r.length)
    (hlen : r.length < (p.tempBuff.view p.pbuf).length) :
    ∃ q, parsePass sw p = .inr (some q) ∧ q.handed = p.handed ∧ q.closed = p.closed ∧
      q.input.received = r.length ∧ q.input.clientBuff.Starts r := by
  unfold parsePass
  simp only
  rw [if_pos (by omega)]
  refine ⟨_, rfl, rfl, rfl, hrec, ?_⟩
  simp only [hrec, hstart.bytes_eq]
  exact Mem.starts_load r _

/-- A loop that is left with a result has not failed at the message that it is at. -/
lemma fails_eq_none_of_returns {q : Parse σ}
    (hlen : (p.tempBuff.view p.pbuf).length ≤ p.received)
    (hq : WhileLoop.Returns (parsePass sw) p (some q)) :
    sw.fails p.shared (p.tempBuff.view p.pbuf) (p.tempBuff.view p.pbuf).length = none := by
  have hpass : parsePass sw p = match sw.fails p.shared (p.tempBuff.view p.pbuf)
      (p.tempBuff.view p.pbuf).length with
      | some .loops => .inl p
      | some .throws | some .faults => .inr none
      | none => parsePass sw p := by
    unfold parsePass
    simp only
    rw [if_neg (by omega)]
    split <;> rfl
  cases hfail : sw.fails p.shared (p.tempBuff.view p.pbuf) (p.tempBuff.view p.pbuf).length with
  | none => rfl
  | some fail =>
    rw [hfail] at hpass
    cases fail with
    | loops =>
      refine absurd hq (WhileLoop.Diverges.not_returns ?_)
      refine WhileLoop.diverges_of_invariant (I := fun s => s = p) ?_ rfl
      rintro s rfl
      exact ⟨s, hpass, rfl⟩
    | throws => cases (WhileLoop.returns_of_exit hpass).mp hq
    | faults => cases (WhileLoop.returns_of_exit hpass).mp hq

/-- A length that is not beyond what arrived hands that many bytes to the switch. -/
lemma parsePass_short (hlen : (p.tempBuff.view p.pbuf).length ≤ p.received)
    (hshort : (p.tempBuff.view p.pbuf).length < 20)
    (hends : sw.fails p.shared (p.tempBuff.view p.pbuf) (p.tempBuff.view p.pbuf).length = none) :
    ∃ p', (parsePass sw p = .inl p' ∨ parsePass sw p = .inr (some p')) ∧
      ∃ x ∈ p'.handed, x.length < 20 := by
  unfold parsePass
  simp only
  rw [if_neg (by omega), hends]
  simp only
  split
  · exact ⟨_, Or.inl rfl, _, List.mem_append_right _ List.mem_cons_self, by simpa using hshort⟩
  · exact ⟨_, Or.inr rfl, _, List.mem_append_right _ List.mem_cons_self, by simpa using hshort⟩

/-- Nothing that was handed to the switch is taken back. -/
lemma parsePass_handed {p' : Parse σ}
    (h : parsePass sw p = .inl p' ∨ parsePass sw p = .inr (some p'))
    {x : List UInt8} (hx : x ∈ p.handed) : x ∈ p'.handed := by
  unfold parsePass at h
  dsimp only at h
  split at h
  · rcases h with h | h
    · cases h
    · cases h
      exact hx
  · split at h
    · rcases h with h | h
      · cases h
        exact hx
      · cases h
    · rcases h with h | h <;> cases h
    · rcases h with h | h <;> cases h
    · split at h <;> rcases h with h | h <;> cases h <;> exact List.mem_append_left _ hx

end Pass

/-! ## One call of `recv` -/

section Loop

variable (sw : CommandSwitch σ) {p : Parse σ} {fs : List (List UInt8)} {r : List UInt8}

/-- A loop that handed out a message shorter than a header has done so when it ends. -/
lemma returns_short {q : Parse σ} (hshort : ∃ x ∈ p.handed, x.length < 20)
    (hq : WhileLoop.Returns (parsePass sw) p (some q)) : ∃ x ∈ q.handed, x.length < 20 := by
  refine WhileLoop.Returns.post (I := fun p => ∃ x ∈ p.handed, x.length < 20)
    (Q := fun r => ∀ q ∈ r, ∃ x ∈ q.handed, x.length < 20) ?_ ?_ hshort hq q rfl
  · rintro s s' ⟨x, hx, hlt⟩ hs
    exact ⟨x, parsePass_handed sw (Or.inl hs) hx, hlt⟩
  · rintro s r ⟨x, hx, hlt⟩ hs s' rfl
    exact ⟨x, parsePass_handed sw (Or.inr hs) hx, hlt⟩

/-- The first message is the only one when nothing stands behind it. -/
lemma eq_nil_of_flatten_append (hfs : ∀ m ∈ fs, WellFormed m) (h : fs.flatten ++ r = []) :
    fs = [] ∧ r = [] := by
  refine ⟨?_, (List.append_eq_nil_iff.mp h).2⟩
  cases fs with
  | nil => rfl
  | cons m fs =>
    have h20 : 20 ≤ m.length := (hfs m List.mem_cons_self).1
    have hnil : m = [] := by
      simp only [List.flatten_cons, List.append_eq_nil_iff] at h
      exact h.1.1
    rw [hnil] at h20
    exact absurd h20 (by decide)

/-- What the switch finds at the messages behind a message that has been handled. -/
lemma atMessages_behind {P : σ → Mem → ℕ → Prop} {p' : Parse σ} {m : List UInt8}
    (hshared : p'.shared = (sw.handle p.shared (p.tempBuff.view p.pbuf) m.length).1)
    (hpbuf : p'.pbuf = p.pbuf + m.length)
    (hview : ∀ k, p'.tempBuff.view (p'.pbuf + k) = p.tempBuff.view (p'.pbuf + k)) :
    sw.AtMessages P p'.shared (p'.tempBuff.view p'.pbuf) fs ↔
      sw.AtMessages P (sw.handle p.shared (p.tempBuff.view p.pbuf) m.length).1
        ((p.tempBuff.view p.pbuf).view m.length) fs := by
  have hsame := hview 0
  rw [Nat.add_zero] at hsame
  rw [hshared, hsame, hpbuf, Mem.view_view]

/-- The loop hands out the complete messages and keeps the rest, if the switch comes to an end at
each of them and the length that is read at the rest is beyond the rest.  The connection stays open when the
switch leaves it open at each of them. -/
lemma parse_frames (hfs : ∀ m ∈ fs, WellFormed m)
    (hstart : (p.tempBuff.view p.pbuf).Starts (fs.flatten ++ r))
    (hrec : p.received = (fs.flatten ++ r).length) (hpos : 0 < p.received)
    (hends : sw.AtMessages sw.EndsAt p.shared (p.tempBuff.view p.pbuf) fs)
    (hrest : r ≠ [] → r.length < (p.tempBuff.view (p.pbuf + fs.flatten.length)).length) :
    ∃ q, WhileLoop.Returns (parsePass sw) p (some q) ∧ q.handed = p.handed ++ fs ∧
      (q.closed = false ↔
        p.closed = false ∧ sw.AtMessages sw.OpenAt p.shared (p.tempBuff.view p.pbuf) fs) ∧
      q.input.received = r.length ∧ q.input.clientBuff.Starts r := by
  induction fs generalizing p with
  | nil =>
    simp only [List.flatten_nil, List.nil_append, List.length_nil, Nat.add_zero] at *
    have hr : r ≠ [] := fun hr => by rw [hr] at hrec; simp at hrec; omega
    obtain ⟨q, hq, hhanded, hclosed, hkept, hbuff⟩ := parsePass_keep sw hstart hrec (hrest hr)
    refine ⟨q, (WhileLoop.returns_of_exit hq).mpr rfl, ?_, ?_, hkept, hbuff⟩
    · rw [hhanded, List.append_nil]
    · rw [hclosed]
      exact (and_iff_left trivial).symm
  | cons m fs ih =>
    have hm : WellFormed m := hfs m List.mem_cons_self
    have hfs' : ∀ x ∈ fs, WellFormed x := fun x hx => hfs x (List.mem_cons_of_mem m hx)
    rw [List.flatten_cons, List.append_assoc] at hstart hrec
    by_cases ht : fs.flatten ++ r = []
    · -- the message is the last thing that arrived
      obtain ⟨rfl, rfl⟩ := eq_nil_of_flatten_append hfs' ht
      rw [ht, List.append_nil] at hstart hrec
      obtain ⟨q, hq, hhanded, hkept, hclosed⟩ := parsePass_last sw hm hstart hrec hends.1
      refine ⟨q, (WhileLoop.returns_of_exit hq).mpr rfl, hhanded, ?_, hkept, ?_⟩
      · rw [hclosed, Bool.or_eq_false_iff]
        exact and_congr_right' (and_iff_left trivial).symm
      · intro i hi
        exact absurd hi (by simp)
    · obtain ⟨p', hp', hrec', hhanded, hclosed, hshared, hpbuf, hview⟩ :=
        parsePass_message sw hm hstart hrec ht hends.1
      have hstart' : (p'.tempBuff.view p'.pbuf).Starts (fs.flatten ++ r) :=
        starts_behind hstart hpbuf hview
      have hrest' : r ≠ [] →
          r.length < (p'.tempBuff.view (p'.pbuf + fs.flatten.length)).length := by
        intro hr
        rw [hview, hpbuf, Nat.add_assoc, ← List.length_append, ← List.flatten_cons]
        exact hrest hr
      obtain ⟨q, hq, hhanded', hclosed', hkept, hbuff⟩ := ih hfs' hstart' hrec'
        (by rw [hrec']; exact List.length_pos_iff.mpr ht)
        ((atMessages_behind sw hshared hpbuf hview).mpr hends.2) hrest'
      refine ⟨q, (WhileLoop.returns_of_continue hp').mpr hq, ?_, ?_, hkept, hbuff⟩
      · rw [hhanded', hhanded, List.append_assoc, List.singleton_append]
      · rw [hclosed', hclosed, Bool.or_eq_false_iff, and_assoc,
          atMessages_behind sw hshared hpbuf hview]
        exact Iff.rfl

/-- A loop that is left with a result has come to an end at each complete message. -/
lemma endsAt_of_returns (hfs : ∀ m ∈ fs, WellFormed m)
    (hstart : (p.tempBuff.view p.pbuf).Starts (fs.flatten ++ r))
    (hrec : p.received = (fs.flatten ++ r).length) {q : Parse σ}
    (hq : WhileLoop.Returns (parsePass sw) p (some q)) :
    sw.AtMessages sw.EndsAt p.shared (p.tempBuff.view p.pbuf) fs := by
  induction fs generalizing p with
  | nil => trivial
  | cons m fs ih =>
    have hm : WellFormed m := hfs m List.mem_cons_self
    have hfs' : ∀ x ∈ fs, WellFormed x := fun x hx => hfs x (List.mem_cons_of_mem m hx)
    rw [List.flatten_cons, List.append_assoc] at hstart hrec
    obtain ⟨h20, hmax, hsize⟩ := id hm
    have hlen : (p.tempBuff.view p.pbuf).length = m.length := by
      rw [hstart.left.length_eq (by omega), hsize]
    have hend : sw.fails p.shared (p.tempBuff.view p.pbuf) m.length = none := by
      rw [← hlen]
      refine fails_eq_none_of_returns sw ?_ hq
      rw [hlen, hrec, List.length_append]
      omega
    refine ⟨hend, ?_⟩
    by_cases ht : fs.flatten ++ r = []
    · obtain ⟨rfl, -⟩ := eq_nil_of_flatten_append hfs' ht
      trivial
    · obtain ⟨p', hp', hrec', -, -, hshared, hpbuf, hview⟩ :=
        parsePass_message sw hm hstart hrec ht hend
      exact (atMessages_behind sw hshared hpbuf hview).mp (ih hfs' (starts_behind hstart hpbuf hview)
        hrec' ((WhileLoop.returns_of_continue hp').mp hq))

/-- If the length that the loop reads at the rest is within the rest, a loop that is left has handed
out a message shorter than a header. -/
lemma parse_misread (hfs : ∀ m ∈ fs, WellFormed m)
    (hstart : (p.tempBuff.view p.pbuf).Starts (fs.flatten ++ r))
    (hrec : p.received = (fs.flatten ++ r).length) (hr : r ≠ []) (hr3 : r.length ≤ 3)
    (hrest : (p.tempBuff.view (p.pbuf + fs.flatten.length)).length ≤ r.length)
    {q : Parse σ} (hq : WhileLoop.Returns (parsePass sw) p (some q)) :
    ∃ x ∈ q.handed, x.length < 20 := by
  have hends := endsAt_of_returns sw hfs hstart hrec hq
  induction fs generalizing p with
  | nil =>
    simp only [List.flatten_nil, List.nil_append, List.length_nil, Nat.add_zero] at *
    have hlen : (p.tempBuff.view p.pbuf).length ≤ p.received := by omega
    obtain ⟨p', hp', hshort⟩ :=
      parsePass_short sw hlen (by omega) (fails_eq_none_of_returns sw hlen hq)
    rcases hp' with hp' | hp'
    · exact returns_short sw hshort ((WhileLoop.returns_of_continue hp').mp hq)
    · cases (WhileLoop.returns_of_exit hp').mp hq
      exact hshort
  | cons m fs ih =>
    have hm : WellFormed m := hfs m List.mem_cons_self
    rw [List.flatten_cons, List.append_assoc] at hstart hrec
    have ht : fs.flatten ++ r ≠ [] := by simp [hr]
    obtain ⟨p', hp', hrec', -, -, hshared, hpbuf, hview⟩ :=
      parsePass_message sw hm hstart hrec ht hends.1
    have hstart' : (p'.tempBuff.view p'.pbuf).Starts (fs.flatten ++ r) :=
      starts_behind hstart hpbuf hview
    have hrest' : (p'.tempBuff.view (p'.pbuf + fs.flatten.length)).length ≤ r.length := by
      rw [hview, hpbuf, Nat.add_assoc, ← List.length_append, ← List.flatten_cons]
      exact hrest
    exact ih (fun x hx => hfs x (List.mem_cons_of_mem m hx)) hstart' hrec' hrest'
      ((WhileLoop.returns_of_continue hp').mp hq)
      ((atMessages_behind sw hshared hpbuf hview).mpr hends.2)

/-- A pass at a length of zero stays there: the switch leaves the length field as it is, and `pbuf`
does not move. -/
lemma parsePass_length_zero (hends : ∀ s buff, sw.fails s buff 0 = none)
    (hlen : (p.tempBuff.view p.pbuf).length = 0) (hpos : 0 < p.received) :
    ∃ p', parsePass sw p = .inl p' ∧ (p'.tempBuff.view p'.pbuf).length = 0 ∧ 0 < p'.received := by
  unfold parsePass
  simp only [hlen]
  rw [if_neg (by omega), hends]
  simp only
  rw [if_pos hpos]
  refine ⟨_, rfl, ?_, by simp only; omega⟩
  rw [← hlen]
  refine Mem.u24_congr fun j hj hj' => ?_
  simp only [Parse.handle, Mem.view, Mem.overlay]
  rw [if_neg (by omega), sw.handle_apply _ _ _ _ (Or.inl (by omega))]
  simp only [Mem.view]
  congr 1
  omega

/-- A length of zero is handed to the switch again and again: the loop never ends. -/
theorem parse_diverges (hends : ∀ s buff, sw.fails s buff 0 = none)
    (hlen : (p.tempBuff.view p.pbuf).length = 0) (hpos : 0 < p.received) :
    WhileLoop.Diverges (parsePass sw) p := by
  refine WhileLoop.diverges_of_invariant
    (I := fun p => (p.tempBuff.view p.pbuf).length = 0 ∧ 0 < p.received) ?_ ⟨hlen, hpos⟩
  rintro s ⟨hzero, hrec⟩
  exact parsePass_length_zero sw hends hzero hrec

end Loop

/-! ## A list of arrivals -/

/-- The input of a client holds the bytes that were kept. -/
def Keeps (input : ClientInput) (kept : List UInt8) : Prop :=
  input.received = kept.length ∧ input.clientBuff.Starts kept

section Arrivals

variable (sw : CommandSwitch σ) {input : ClientInput} {kept : List UInt8} {a : Arrival σ}

/-- The loop starts on the bytes that were kept, the bytes that have arrived, and `behind`. -/
lemma startParse_tempBuff (hkept : Keeps input kept) :
    (startParse input a).tempBuff = Mem.load (kept ++ a.chunk) (behind a.tempBuff kept) := by
  obtain ⟨hrec, hbuff⟩ := hkept
  have hprep : ∀ i, kept.length ≤ i →
      prepareBuffer a.tempBuff input i = behind a.tempBuff kept i := by
    intro i hi
    unfold prepareBuffer behind
    by_cases hnil : kept = []
    · rw [if_pos (by rw [hrec, hnil]; rfl), if_pos hnil]
    · have hpos : 0 < kept.length := List.length_pos_iff.mpr hnil
      rw [if_neg (by omega), if_neg hnil, Mem.load_of_le (by rw [Mem.length_bytes]; omega)]
  funext i
  simp only [startParse, Mem.overlay, hrec]
  by_cases hi : i < kept.length
  · have hpos : input.received ≠ 0 := by omega
    rw [if_pos hi, prepareBuffer, if_neg hpos, hrec, hbuff.bytes_eq]
    simp only [Mem.load]
    rw [List.getElem?_append_left hi, List.getElem?_eq_getElem hi, Option.getD_some,
      Option.getD_some]
  · rw [if_neg hi]
    simp only [Mem.load, Mem.view]
    rw [List.getElem?_append_right (by omega), Nat.add_sub_cancel' (by omega), hprep i (by omega)]

/-- The reference framer on what the loop starts with: some of the messages are complete, the
leftover is the beginning of the next, and the loop finds both in its buffer. -/
lemma split_arrival {t : List UInt8} {ms : List (List UInt8)} (hms : ∀ m ∈ ms, WellFormed m)
    (hstream : kept ++ a.chunk ++ t = ms.flatten) (hkept : Keeps input kept) :
    ∃ done rest, ms = done ++ rest ∧
      diameterFrame.split (kept ++ a.chunk) = (done, leftover (kept ++ a.chunk)) ∧
      leftover (kept ++ a.chunk) ++ t = rest.flatten ∧
      ((startParse input a).tempBuff.view 0).Starts
        (done.flatten ++ leftover (kept ++ a.chunk)) ∧
      (startParse input a).received = (done.flatten ++ leftover (kept ++ a.chunk)).length ∧
      (startParse input a).tempBuff.view (0 + done.flatten.length) =
        (Mem.load (kept ++ a.chunk) (behind a.tempBuff kept)).view
          ((kept ++ a.chunk).length - (leftover (kept ++ a.chunk)).length) := by
  obtain ⟨done, rest, r, hsplitms, hsplit, hr⟩ :=
    FrameRule.split_prefix (fun m hm => (hms m hm).frame) hstream
  have hleft : leftover (kept ++ a.chunk) = r := by rw [leftover, hsplit]
  have hflat : done.flatten ++ r = kept ++ a.chunk := by
    have hall := FrameRule.flatten_split (R := diameterFrame) (kept ++ a.chunk)
    rwa [hsplit] at hall
  have hmem := startParse_tempBuff (a := a) hkept
  rw [hleft]
  refine ⟨done, rest, hsplitms, hsplit, hr, ?_, ?_, ?_⟩
  · rw [hmem, hflat]
    refine (Mem.starts_load _ (behind a.tempBuff kept)).congr fun i _ => ?_
    simp only [Mem.view, Nat.zero_add]
  · rw [hflat, List.length_append]
    simp only [startParse, hkept.1]
    omega
  · have hlen : done.flatten.length = (kept ++ a.chunk).length - r.length := by
      rw [← hflat, List.length_append]
      omega
    rw [hmem, Nat.zero_add, hlen]

/-- The loop finds the messages that a call of `recv` completes in its buffer. -/
lemma atMessages_startParse {P : σ → Mem → ℕ → Prop} {done : List (List UInt8)} {r : List UInt8}
    (hkept : Keeps input kept) (hsplit : diameterFrame.split (kept ++ a.chunk) = (done, r)) :
    sw.AtMessages P (startParse input a).shared
      ((startParse input a).tempBuff.view (startParse input a).pbuf) done ↔ sw.AtArrival P kept a := by
  have hview : (startParse input a).tempBuff.view (startParse input a).pbuf =
      Mem.load (kept ++ a.chunk) (behind a.tempBuff kept) := by
    rw [startParse_tempBuff hkept]
    funext i
    simp only [startParse, Mem.view, Nat.zero_add]
  rw [hview, CommandSwitch.AtArrival, hsplit]
  rfl

/-- **One call of `recv`.**  When the bytes so far are the beginning of a stream of well-formed
messages, the switch comes to an end at those that are complete and the length of the rest is read
correctly, the loop hands them out and keeps the rest; the connection stays open when the switch leaves it
open. -/
lemma receive_arrival {t : List UInt8} {ms : List (List UInt8)} (hms : ∀ m ∈ ms, WellFormed m)
    (hstream : kept ++ a.chunk ++ t = ms.flatten) (hkept : Keeps input kept)
    (hchunk : a.chunk ≠ []) (hheader : HeaderArrives kept a) (hends : sw.Ends kept a) :
    ∃ q, WhileLoop.Returns (parsePass sw) (startParse input a) (some q) ∧
      q.handed = (diameterFrame.split (kept ++ a.chunk)).1 ∧
      (q.closed = false ↔ sw.StaysOpen kept a) ∧ Keeps q.input (leftover (kept ++ a.chunk)) := by
  obtain ⟨done, rest, hsplitms, hsplit, hr, hstart, hrec, hview⟩ :=
    split_arrival hms hstream hkept
  have hpos : 0 < (startParse input a).received := by
    have hlen : 0 < a.chunk.length := List.length_pos_iff.mpr hchunk
    simp only [startParse]
    omega
  have hrest : leftover (kept ++ a.chunk) ≠ [] → (leftover (kept ++ a.chunk)).length <
      ((startParse input a).tempBuff.view (0 + done.flatten.length)).length := by
    intro hne
    by_cases hr3 : (leftover (kept ++ a.chunk)).length ≤ 3
    · rw [hview]
      exact hheader (List.length_pos_iff.mpr hne) hr3
    · -- four bytes of the next message have arrived, and it is not complete
      have h4 : diameterFrame.header ≤ (leftover (kept ++ a.chunk)).length := by
        change 4 ≤ _
        omega
      have hright := hstart.right
      rw [Mem.view_view] at hright
      rw [hright.length_eq h4]
      have hnot : ¬ diameterFrame.Complete (leftover (kept ++ a.chunk)) :=
        FrameRule.not_complete_leftover _
      have hsize : 0 < diameterFrame.size (leftover (kept ++ a.chunk)) := by
        cases rest with
        | nil => exact absurd (List.append_eq_nil_iff.mp hr).1 hne
        | cons m rest =>
          have hm : WellFormed m := hms m (by rw [hsplitms]; simp)
          have h20 : 20 ≤ m.length := hm.1
          rw [← diameterFrame.size_append _ t h4, hr, List.flatten_cons, hm.frame.size_append]
          omega
      by_contra hle
      exact hnot ⟨h4, hsize, by omega⟩
  have hfs : ∀ m ∈ done, WellFormed m := fun m hm => hms m (by rw [hsplitms]; simp [hm])
  obtain ⟨q, hq, hhanded, hclosed, hreceived, hclient⟩ :=
    parse_frames sw hfs hstart hrec hpos ((atMessages_startParse sw hkept hsplit).mpr hends) hrest
  refine ⟨q, hq, ?_, ?_, hreceived, hclient⟩
  · rw [hhanded, hsplit]
    rfl
  · exact (hclosed.trans (and_iff_right rfl)).trans (atMessages_startParse sw hkept hsplit)

/-- When the length of the rest is misread, a loop that is left hands out a message shorter than a
header. -/
lemma misread_arrival {t : List UInt8} {ms : List (List UInt8)} (hms : ∀ m ∈ ms, WellFormed m)
    (hstream : kept ++ a.chunk ++ t = ms.flatten) (hkept : Keeps input kept)
    (hheader : ¬ HeaderArrives kept a) {q : Parse σ}
    (hq : WhileLoop.Returns (parsePass sw) (startParse input a) (some q)) :
    ∃ x ∈ q.handed, x.length < 20 := by
  obtain ⟨done, rest, hsplitms, -, -, hstart, hrec, hview⟩ := split_arrival hms hstream hkept
  simp only [HeaderArrives, Classical.not_imp, Nat.not_lt] at hheader
  obtain ⟨hr1, hr3, hread⟩ := hheader
  have hfs : ∀ m ∈ done, WellFormed m := fun m hm => hms m (by rw [hsplitms]; simp [hm])
  refine parse_misread sw hfs hstart hrec (List.length_pos_iff.mp hr1) hr3 ?_ hq
  change ((startParse input a).tempBuff.view (0 + done.flatten.length)).length ≤ _
  rw [hview]
  exact hread

/-- If the lengths are read correctly at each arrival of a stream, the switch comes to an end and leaves the
connection open before the last arrival, its messages are handed out and the leftover is kept. -/
lemma receives_of_headers_arrive {as : List (Arrival σ)} {ms : List (List UInt8)}
    (hms : ∀ m ∈ ms, WellFormed m) (hstream : kept ++ as.flatMap Arrival.chunk = ms.flatten)
    (hkept : Keeps input kept) (hinc : ¬ diameterFrame.Complete kept)
    (hfit : AtEach Fits kept as)
    (hheader : AtEach (fun kept a => HeaderArrives kept a ∧ sw.Ends kept a) kept as)
    (hopen : AtEachButLast sw.StaysOpen kept as) :
    Delivered sw input as ms := by
  induction as generalizing input kept ms with
  | nil =>
    rw [List.flatMap_nil, List.append_nil] at hstream
    have hms' : ms = [] := by
      cases ms with
      | nil => rfl
      | cons m ms =>
        rw [hstream, List.flatten_cons] at hinc
        exact absurd ((hms m List.mem_cons_self).frame.complete_append _) hinc
    subst hms'
    refine ⟨input, ⟨rfl, rfl⟩, ?_⟩
    rw [hkept.1, hstream]
    rfl
  | cons a as ih =>
    obtain ⟨⟨hchunk, hsize⟩, hfit'⟩ := hfit
    obtain ⟨⟨hhead, hends⟩, hheader'⟩ := hheader
    obtain ⟨hstays, hopen'⟩ := hopen
    rw [List.flatMap_cons, ← List.append_assoc] at hstream
    obtain ⟨done, rest, hsplitms, hsplit, hr, -⟩ := split_arrival hms hstream hkept
    obtain ⟨q, hq, hhanded, hclosed, hkept'⟩ :=
      receive_arrival sw hms hstream hkept hchunk hhead hends
    have hrest : ∀ m ∈ rest, WellFormed m := fun m hm => hms m (by rw [hsplitms]; simp [hm])
    obtain ⟨last, hlast, hzero⟩ :=
      ih hrest hr hkept' (FrameRule.not_complete_leftover _) hfit' hheader' hopen'
    refine ⟨last, ⟨?_, q, rest, hq, hlast, fun hmore => hclosed.mpr (hstays hmore), ?_⟩, hzero⟩
    · rw [hkept.1]
      omega
    · rw [hhanded, hsplit, hsplitms]

/-- If the messages of a stream are handed out, the lengths are read correctly at each arrival, the switch
comes to an end and leaves the connection open before the last arrival. -/
lemma headers_arrive_of_receives {as : List (Arrival σ)} {ms : List (List UInt8)}
    (hms : ∀ m ∈ ms, WellFormed m) (hstream : kept ++ as.flatMap Arrival.chunk = ms.flatten)
    (hkept : Keeps input kept) (hfit : AtEach Fits kept as) (h : Delivered sw input as ms) :
    AtEach (fun kept a => HeaderArrives kept a ∧ sw.Ends kept a) kept as ∧
      AtEachButLast sw.StaysOpen kept as := by
  induction as generalizing input kept ms with
  | nil => exact ⟨trivial, trivial⟩
  | cons a as ih =>
    obtain ⟨⟨hchunk, -⟩, hfit'⟩ := hfit
    rw [List.flatMap_cons, ← List.append_assoc] at hstream
    obtain ⟨done, rest, hsplitms, hsplit, hr, hstart, hrec, -⟩ := split_arrival hms hstream hkept
    obtain ⟨last, ⟨-, q, handed, hq, hlast, hstays, hall⟩, hzero⟩ := h
    have hdone : ∀ m ∈ done, WellFormed m := fun m hm => hms m (by rw [hsplitms]; simp [hm])
    have hends : sw.Ends kept a :=
      (atMessages_startParse sw hkept hsplit).mp (endsAt_of_returns sw hdone hstart hrec hq)
    have hhead : HeaderArrives kept a := by
      by_contra hnot
      obtain ⟨x, hx, hlt⟩ := misread_arrival sw hms hstream hkept hnot hq
      have h20 : 20 ≤ x.length := (hms x (by rw [hall]; exact List.mem_append_left _ hx)).1
      omega
    obtain ⟨q', hq', hhanded, hclosed, hkept'⟩ :=
      receive_arrival sw hms hstream hkept hchunk hhead hends
    obtain rfl : q = q' := Option.some.inj (hq.unique hq')
    have hrest : rest = handed := by
      rw [hhanded, hsplit, hsplitms] at hall
      exact List.append_cancel_left hall
    obtain ⟨hheader', hopen'⟩ := ih (fun m hm => hms m (by rw [hsplitms]; simp [hm])) hr hkept' hfit'
      ⟨last, by rw [hrest]; exact hlast, hzero⟩
    exact ⟨⟨⟨hhead, hends⟩, hheader'⟩, fun hmore => hclosed.mp (hstays hmore), hopen'⟩

/-- **Framing and segmentation.**  For every stream of well-formed messages and every way of
cutting it into calls of `recv`, the switch is handed exactly the messages, in order, and nothing
is kept at the end, if and only if no call leaves one to three bytes of a message at which a
length within these bytes is read, the switch comes to an end at every message, and no message before the
last call makes it close the connection. -/
theorem CommandSwitch.delivered_iff {as : List (Arrival σ)} {ms : List (List UInt8)}
    (hms : ∀ m ∈ ms, WellFormed m)
    (hstream : as.flatMap Arrival.chunk = ms.flatten) (hempty : input.received = 0)
    (hfit : AtEach Fits [] as) :
    Delivered sw input as ms ↔
      AtEach (fun kept a => HeaderArrives kept a ∧ sw.Ends kept a) [] as ∧
        AtEachButLast sw.StaysOpen [] as := by
  have hkept : Keeps input [] := ⟨hempty, fun i hi => absurd hi (by simp)⟩
  have hinc : ¬ diameterFrame.Complete [] := fun hc => absurd hc.1 (by decide)
  constructor
  · exact headers_arrive_of_receives sw hms hstream hkept hfit
  · rintro ⟨hheader, hopen⟩
    exact receives_of_headers_arrive sw hms hstream hkept hinc hfit hheader hopen

end Arrivals

/-! ## A short message -/

/-- A request that consists of its header. -/
def bareRequest : List UInt8 :=
  [1, 0, 0, 20, 128, 0, 1, 60, 1, 0, 0, 35, 1, 0, 0, 0, 1, 0, 0, 0]

end DiaProxy
