import StTools.DiaProxy.AvpBounds
import StTools.DiaProxy.MessageBody

/-!
# The answer to a replayed capabilities exchange

When a client has replayed the stored request, `receive_CEA` reads the answer: the header in two loops
with `select` and `recv`, then the body in `read_message_body`, and then the pairs up to the first
Result-Code.  A `CeaEvent` is what one pass of the loops finds.

The lengths in the answer are not compared with anything, the result of the first `recv` for the body is
taken for a number of bytes without a test, and `read_message_body` does not fill its set again when
`select` has cleared it.  `right_of_along` says that nothing else can go wrong.
-/

namespace ConKeeper

open DiaProxy (Mem RecvResult Scan resultCodeCode resultDiameterSuccess cmdCodeCer defaultBufferSize
  diameterHeaderLength ceaScanner avpPass scanCEA)

/-- What a pass finds. -/
inductive CeaEvent
  /-- The client is `TO_BE_CLOSED`, or the application has to exit or to be reset. -/
  | closing
  /-- The socket is not ready. -/
  | quiet
  /-- The socket is ready. -/
  | recv (r : RecvResult)
  deriving Repr, DecidableEq

/-- The number of bytes that are stored. -/
def CeaEvent.count : CeaEvent → ℕ
  | closing => 0
  | quiet => 0
  | recv r => r.count

/-- Where the function is. -/
inductive CeaPhase
  /-- Nothing has come; `read_retries`. -/
  | waiting (retries : ℕ)
  /-- Some bytes of the header have come; they end at `pbuf`. -/
  | header (received retries : ℕ)
  /-- In the first loop of `read_message_body`, with `l_dp_size` and whether the socket is in `tmpset`. -/
  | ready (dpSize : ℕ) (watched : Bool)
  /-- In its second loop; `pbuf` is as far behind the header as bytes were `received`. -/
  | body (dpSize : ℕ) (received : ℤ) (watched : Bool)
  /-- The function has returned. -/
  | returned (receivedOk : Bool)
  /-- The thread has ended. -/
  | exited
  /-- The loop over the pairs is never left. -/
  | loops
  deriving Repr, DecidableEq

/-- The state of `receive_CEA`. -/
structure CeaState where
  /-- Where the function is. -/
  phase : CeaPhase
  /-- `buff`; offsets may be negative. -/
  buff : ℤ → UInt8
  /-- Ghost: the bytes that were taken from the stream. -/
  consumed : ℕ
  /-- Ghost: the offsets and the lengths of what was stored. -/
  stores : List (ℤ × ℕ)
  /-- Ghost: `dp_size` when the loop over the pairs began. -/
  scanned : Option ℕ

namespace CeaState

/-- The function when it is called. -/
def start : CeaState := ⟨.waiting 0, fun _ => 0, 0, [], none⟩

/-- The bytes from the start of the buffer on. -/
def mem (s : CeaState) : Mem := fun i => s.buff i

/-- Store what `recv` takes from the stream. -/
def store (s : CeaState) (stream : Mem) (pbuf : ℤ) (r : RecvResult) : CeaState :=
  { s with
    buff := fun i =>
      if pbuf ≤ i ∧ i < pbuf + r.count then stream (s.consumed + (i - pbuf).toNat) else s.buff i
    consumed := s.consumed + r.count
    stores := (pbuf, r.count) :: s.stores }

/-- What follows the message. -/
def verdict (s : CeaState) (dpSize : ℕ) : CeaState :=
  if s.mem.cmdCode = cmdCodeCer then
    { s with
      scanned := some dpSize
      phase :=
        match scanCEA s.mem dpSize with
        | .found value => .returned (value = resultDiameterSuccess)
        | .notFound => .returned false
        | .throws => .returned false
        | .loops => .loops }
  else { s with phase := .returned false }

/-- `read_message_body` with its number of bytes, or what follows it. -/
def continued (s : CeaState) (dpSize : ℕ) (received : ℤ) : CeaState :=
  if received < dpSize - diameterHeaderLength then { s with phase := .body dpSize received true }
  else s.verdict dpSize

/-- The rest of the header, or the call of `read_message_body`. -/
def headed (s : CeaState) (received retries : ℕ) : CeaState :=
  { s with
    phase :=
      if received < diameterHeaderLength then .header received retries else .ready s.mem.length true }

/-- The function has not returned, and the thread has not ended. -/
def Running (s : CeaState) : Prop :=
  match s.phase with
  | .returned _ => False
  | .exited => False
  | _ => True

instance : DecidablePred Running := fun s => by
  unfold Running
  cases s.phase <;> infer_instance

/-- One pass of `receive_CEA` or `read_message_body`, or `none` if there is no such pass. -/
def step (stream : Mem) (s : CeaState) : CeaEvent → Option CeaState
  | .closing =>
    match s.phase with
    | .returned _ | .exited | .loops => none
    | _ => some { s with phase := .exited }
  | .quiet =>
    match s.phase with
    | .waiting retries =>
      some { s with phase := if retries + 1 = 2 then .returned false else .waiting (retries + 1) }
    | .header received retries =>
      some { s with
        phase := if retries + 1 = 20 then .returned false else .header received (retries + 1) }
    | .ready dpSize _ => some { s with phase := .ready dpSize false }
    | .body dpSize received _ => some { s with phase := .body dpSize received false }
    | _ => none
  | .recv r =>
    match s.phase with
    | .waiting retries =>
      if r.Possible diameterHeaderLength then
        match r with
        | .bytes n => some ((s.store stream 0 r).headed n retries)
        | _ => some { s with phase := .returned false }
      else none
    | .header received retries =>
      if r.Possible (diameterHeaderLength - received) then
        match r with
        | .bytes n => some ((s.store stream received r).headed (received + n) retries)
        | _ => some { s with phase := .returned false }
      else none
    | .ready dpSize watched =>
      -- whatever `recv` returns is the number of bytes from now on
      if watched ∧ r.Possible (dpSize - diameterHeaderLength) then
        some ((s.store stream diameterHeaderLength r).continued dpSize r.value)
      else none
    | .body dpSize received watched =>
      if watched ∧ r.Possible (dpSize - diameterHeaderLength - received) then
        match r with
        | .bytes _ =>
          some ((s.store stream (diameterHeaderLength + received) r).continued dpSize
            (received + r.value))
        | _ => some { s with phase := .returned false }
      else none
    | _ => none

/-! ## What is asked of the function -/

/-- The first message that the server sends has come. -/
def Complete (stream : Mem) (s : CeaState) : Prop :=
  diameterHeaderLength ≤ s.consumed ∧ stream.length ≤ s.consumed

end CeaState

/-- In the message that a memory holds, going over pairs that are well-formed, the first Result-Code from
an offset on has the value. -/
inductive FirstResultCode (m : Mem) (value : ℕ) : ℕ → Prop
  /-- The Result-Code, with room for its value. -/
  | here {ptr : ℕ} : m.u32 ptr = resultCodeCode → 12 ≤ m.u24 (ptr + 5) →
      ptr + m.u24 (ptr + 5) ≤ m.length → m.u32 (ptr + 8) = value → FirstResultCode m value ptr
  /-- Another pair. -/
  | later {ptr : ℕ} : m.u32 ptr ≠ resultCodeCode → 8 ≤ m.u24 (ptr + 5) →
      ptr + m.u24 (ptr + 5) ≤ m.length →
      FirstResultCode m value (ptr + DiaProxy.AvpScanner.padded m ptr) → FirstResultCode m value ptr

namespace CeaState

/-- The message has come, and it is a good answer. -/
def Accepted (stream : Mem) (s : CeaState) : Prop :=
  s.Complete stream ∧ stream.cmdCode = cmdCodeCer ∧
    FirstResultCode stream resultDiameterSuccess diameterHeaderLength

/-- What the function has done up to a state is right. -/
structure Right (stream : Mem) (s : CeaState) : Prop where
  /-- Nothing was stored outside the buffer. -/
  inside : ∀ st ∈ s.stores, 0 ≤ st.1 ∧ st.1 + st.2 ≤ defaultBufferSize
  /-- The loop over the pairs ends, and reads inside the message that was received. -/
  reads : ∀ dpSize, s.scanned = some dpSize →
    dpSize ≤ s.consumed ∧ (ceaScanner s.mem).Safe s.mem dpSize
  /-- The function returns when the message has come. -/
  ends : s.Running → ¬ s.Complete stream
  /-- The function returns when the server closes the connection. -/
  closes : s.Running → ∃ n ≤ 2, ∃ s',
    LabelledSystem.exec (step stream) s (List.replicate n (.recv .closed)) = some s' ∧
      s'.phase = .returned false
  /-- It returns `true` for a good answer, and for nothing else. -/
  verdict : ∀ receivedOk, s.phase = .returned receivedOk → (receivedOk = true ↔ s.Accepted stream)

end CeaState

/-- The loop over the pairs can go by the lengths in the message: headers are inside it and pairs at least
as long as their header, up to the end or to a Result-Code.  The value of this one is in the pair, and the
pair in the message, or else what is read in its place is inside the message and not 2001. -/
inductive PairsReadable (m : Mem) : ℕ → Prop
  /-- The end of the message. -/
  | behind {ptr : ℕ} : m.length ≤ ptr → PairsReadable m ptr
  /-- A Result-Code. -/
  | found {ptr : ℕ} : ptr + 12 ≤ m.length → m.u32 ptr = resultCodeCode →
      (12 ≤ m.u24 (ptr + 5) ∧ ptr + m.u24 (ptr + 5) ≤ m.length ∨
        m.u32 (ptr + 8) ≠ resultDiameterSuccess) → PairsReadable m ptr
  /-- Another pair. -/
  | next {ptr : ℕ} : ptr + 8 ≤ m.length → m.u32 ptr ≠ resultCodeCode → 8 ≤ m.u24 (ptr + 5) →
      PairsReadable m (ptr + DiaProxy.AvpScanner.padded m ptr) → PairsReadable m ptr

namespace CeaState

/-- `read_message_body` has been called. -/
def InBody (s : CeaState) : Prop := diameterHeaderLength ≤ s.consumed

/-- The next pass is in order. -/
structure InOrder (stream : Mem) (s : CeaState) (e : CeaEvent) : Prop where
  /-- The body comes without a time-out. -/
  watched : s.InBody → e ≠ .quiet
  /-- The first `recv` for the body does not fail. -/
  first : ∀ dpSize watched, s.phase = .ready dpSize watched → e ≠ .recv .error
  /-- The bytes have room in the buffer. -/
  fits : s.consumed + e.count ≤ defaultBufferSize
  /-- The length in the header is more than that of the header. -/
  length : s.consumed < diameterHeaderLength → diameterHeaderLength ≤ s.consumed + e.count →
    diameterHeaderLength < stream.length
  /-- The loop over the pairs can go by the lengths of the message. -/
  pairs : s.InBody → stream.length ≤ s.consumed + e.count → stream.cmdCode = cmdCodeCer →
    PairsReadable stream diameterHeaderLength

end CeaState

/-! ## The loop over the pairs -/

section Pairs

variable {m m' : Mem} {ptr value : ℕ} {r : Scan ℕ}

lemma u32_congr (h : ∀ i < m.length, m i = m' i) (hlen : ptr + 4 ≤ m.length) :
    m.u32 ptr = m'.u32 ptr := by
  unfold DiaProxy.Mem.u32
  rw [h ptr (by omega), DiaProxy.Mem.u24_congr fun j _ hj => h j (by omega)]

lemma u24_congr (h : ∀ i < m.length, m i = m' i) (hlen : ptr + 3 ≤ m.length) :
    m.u24 ptr = m'.u24 ptr :=
  DiaProxy.Mem.u24_congr fun j _ hj => h j (by omega)

lemma padded_congr (h : ∀ i < m.length, m i = m' i) (hlen : ptr + 8 ≤ m.length) :
    DiaProxy.AvpScanner.padded m ptr = DiaProxy.AvpScanner.padded m' ptr := by
  unfold DiaProxy.AvpScanner.padded
  rw [u24_congr h (by omega)]

/-- The first Result-Code is that of the bytes of the message. -/
lemma FirstResultCode.congr (h : ∀ i < m.length, m i = m' i) (hlen : m.length = m'.length)
    (hm : FirstResultCode m value ptr) : FirstResultCode m' value ptr := by
  induction hm with
  | @here ptr hcode hfull hend hvalue =>
    rw [u32_congr h (by omega)] at hcode hvalue
    have hlength : m.u24 (ptr + 5) = m'.u24 (ptr + 5) := u24_congr h (by omega)
    rw [hlength] at hfull hend
    exact .here hcode hfull (hlen ▸ hend) hvalue
  | @later ptr hcode hheader hend _ ih =>
    rw [padded_congr h (by omega)] at ih
    rw [u32_congr h (by omega)] at hcode
    have hlength : m.u24 (ptr + 5) = m'.u24 (ptr + 5) := u24_congr h (by omega)
    rw [hlength] at hheader hend
    exact .later hcode hheader (hlen ▸ hend) ih

/-- And so is whether the pairs are readable. -/
lemma PairsReadable.congr (h : ∀ i < m.length, m i = m' i) (hlen : m.length = m'.length)
    (hm : PairsReadable m ptr) : PairsReadable m' ptr := by
  induction hm with
  | behind hend => exact .behind (hlen ▸ hend)
  | found hend hcode hvalue =>
    rw [u32_congr h (by omega)] at hcode
    rw [u24_congr h (by omega), u32_congr h (by omega), hlen] at hvalue
    exact .found (hlen ▸ hend) hcode hvalue
  | next hend hcode hheader _ ih =>
    rw [padded_congr h (by omega)] at ih
    rw [u32_congr h (by omega)] at hcode
    rw [u24_congr h (by omega)] at hheader
    exact .next (hlen ▸ hend) hcode hheader ih

/-- A loop that can go by the lengths reads inside the message. -/
lemma PairsReadable.safe (h : PairsReadable m ptr) : (ceaScanner m).SafeFrom m m.length ptr := by
  refine (DiaProxy.takes_ceaScanner m m.length).safeFrom_iff.mpr ?_
  induction h with
  | behind hend => exact .behind hend
  | @found ptr hend hcode _ =>
    refine .found (by omega) hcode ?_
    unfold DiaProxy.ResultFits
    rw [if_pos hcode]
    omega
  | next hend hcode hheader _ ih => exact .next hend hcode (by omega) ih

lemma FirstResultCode.lt_length (h : FirstResultCode m value ptr) : ptr < m.length := by
  cases h <;> omega

/-- What it finds is the first Result-Code of the message. -/
lemma PairsReadable.returns (h : PairsReadable m ptr) :
    ∃ r, WhileLoop.Returns (avpPass m.length (ceaScanner m).value m) ptr r ∧ r ≠ .loops ∧
      (r = .found resultDiameterSuccess ↔ FirstResultCode m resultDiameterSuccess ptr) := by
  induction h with
  | @behind ptr hend =>
    refine ⟨.notFound, (WhileLoop.returns_of_exit (DiaProxy.AvpScanner.avpPass_behind hend)).mpr rfl,
      by simp, ?_⟩
    exact iff_of_false (by simp) fun h => absurd h.lt_length (by omega)
  | @found ptr hend hcode hvalue =>
    have hpass : avpPass m.length (ceaScanner m).value m ptr = .inr (.found (m.u32 (ptr + 8))) :=
      DiaProxy.AvpScanner.avpPass_of_value (by omega) (if_pos hcode)
    refine ⟨_, (WhileLoop.returns_of_exit hpass).mpr rfl, by simp, ?_⟩
    rw [Scan.found.injEq]
    constructor
    · intro hread
      obtain ⟨hfull, hinside⟩ := hvalue.resolve_right fun hne => hne hread
      exact .here hcode hfull hinside hread
    · intro hfirst
      cases hfirst with
      | here _ _ _ hread => exact hread
      | later hother => exact absurd hcode hother
  | @next ptr hend hcode hheader hrest ih =>
    obtain ⟨r, hreturns, hloops, hfound⟩ := ih
    have hpass : avpPass m.length (ceaScanner m).value m ptr =
        .inl (ptr + DiaProxy.AvpScanner.padded m ptr) :=
      DiaProxy.AvpScanner.avpPass_of_none (by omega) (if_neg hcode)
    refine ⟨r, (WhileLoop.returns_of_continue hpass).mpr hreturns, hloops, hfound.trans ?_⟩
    constructor
    · intro hfirst
      refine .later hcode hheader ?_ hfirst
      have hlt := hfirst.lt_length
      have hle : m.u24 (ptr + 5) ≤ DiaProxy.AvpScanner.padded m ptr := by
        dsimp only [DiaProxy.AvpScanner.padded]
        split <;> omega
      omega
    · intro hfirst
      cases hfirst with
      | here hresult => exact absurd hresult hcode
      | later _ _ _ hlater => exact hlater

/-- A scan whose loop returns. -/
lemma scanAvps_of_returns {messageLength : ℕ} {f : (code length ptr : ℕ) → Option (Scan ℕ)}
    (h : WhileLoop.Returns (avpPass messageLength f m) diameterHeaderLength r) :
    DiaProxy.scanAvps m messageLength f = r := by
  unfold DiaProxy.scanAvps
  cases hrun : WhileLoop.run (avpPass messageLength f m) (messageLength + 1) diameterHeaderLength with
  | none => exact absurd h (DiaProxy.scanAvps_none_diverges hrun).not_returns
  | some q => exact WhileLoop.Returns.unique ⟨_, hrun⟩ h

/-- The scan of a readable message finds its first Result-Code. -/
lemma PairsReadable.scanCEA (h : PairsReadable m diameterHeaderLength) :
    scanCEA m m.length ≠ .loops ∧ (scanCEA m m.length = .found resultDiameterSuccess ↔
      FirstResultCode m resultDiameterSuccess diameterHeaderLength) := by
  obtain ⟨r, hreturns, hr⟩ := h.returns
  rw [DiaProxy.scanCEA_eq, scanAvps_of_returns hreturns]
  exact hr

end Pairs

/-! ## The passes -/

namespace CeaState

variable {stream : Mem} {s s' : CeaState} {e : CeaEvent}

/-- The bytes that were taken from the stream stand in the buffer, and nothing was stored outside it. -/
structure Filled (stream : Mem) (s : CeaState) : Prop where
  /-- The bytes fit. -/
  fits : s.consumed ≤ defaultBufferSize
  /-- Nothing was stored outside the buffer. -/
  inside : ∀ st ∈ s.stores, 0 ≤ st.1 ∧ st.1 + st.2 ≤ defaultBufferSize
  /-- The bytes. -/
  same : ∀ i < s.consumed, s.mem i = stream i

/-- The next bytes are stored behind the others. -/
lemma Filled.store (h : s.Filled stream) {r : RecvResult} {pbuf : ℤ} (hpbuf : pbuf = s.consumed)
    (hfits : s.consumed + r.count ≤ defaultBufferSize) : (s.store stream pbuf r).Filled stream := by
  subst hpbuf
  refine ⟨hfits, List.forall_mem_cons.mpr ⟨?_, h.inside⟩, ?_⟩
  · dsimp only
    omega
  · intro i hi
    have hi' : i < s.consumed + r.count := hi
    dsimp only [mem, CeaState.store]
    split
    · congr 1
      omega
    · exact h.same i (by omega)

/-- The length field is that of the message. -/
lemma Filled.length (h : s.Filled stream) (hhead : diameterHeaderLength ≤ s.consumed) :
    s.mem.length = stream.length := by
  unfold diameterHeaderLength at hhead
  exact DiaProxy.Mem.u24_congr fun j _ hj => h.same j (by omega)

lemma Filled.cmdCode (h : s.Filled stream) (hhead : diameterHeaderLength ≤ s.consumed) :
    s.mem.cmdCode = stream.cmdCode := by
  unfold diameterHeaderLength at hhead
  exact DiaProxy.Mem.u24_congr fun j _ hj => h.same j (by omega)

/-- What the function knows where it is. -/
def At (stream : Mem) (s : CeaState) : CeaPhase → Prop
  | .waiting _ => s.consumed = 0
  | .header received _ => s.consumed = received ∧ 0 < received ∧ received < diameterHeaderLength
  | .ready dpSize watched =>
    s.consumed = diameterHeaderLength ∧ dpSize = stream.length ∧ diameterHeaderLength < dpSize ∧
      watched = true
  | .body dpSize received watched =>
    (s.consumed : ℤ) = diameterHeaderLength + received ∧ 0 ≤ received ∧ dpSize = stream.length ∧
      received < dpSize - diameterHeaderLength ∧ watched = true
  | .returned receivedOk => receivedOk = true ↔ s.Accepted stream
  | .exited => True
  | .loops => False

/-- The invariant. -/
structure Inv (stream : Mem) (s : CeaState) : Prop extends s.Filled stream where
  /-- Where the function is. -/
  phase : s.At stream s.phase
  /-- The loop over the pairs begins last. -/
  unscanned : s.Running → s.scanned = none
  /-- It ends, and reads inside the message. -/
  reads : ∀ dpSize, s.scanned = some dpSize →
    dpSize ≤ s.consumed ∧ (ceaScanner s.mem).Safe s.mem dpSize

lemma inv_start : start.Inv stream where
  fits := Nat.zero_le _
  inside _ h := nomatch h
  same _ h := absurd h (Nat.not_lt_zero _)
  phase := rfl
  unscanned _ := rfl
  reads _ h := nomatch h

/-- What follows the message is right when the pairs are readable. -/
lemma Filled.verdict (h : s.Filled stream) (hscanned : s.scanned = none) (hcomplete : s.Complete stream)
    (hpairs : stream.cmdCode = cmdCodeCer → PairsReadable stream diameterHeaderLength) :
    (s.verdict stream.length).Inv stream := by
  have hlen := h.length hcomplete.1
  have hsame : ∀ i < stream.length, stream i = s.mem i :=
    fun i hi => (h.same i (hi.trans_le hcomplete.2)).symm
  unfold CeaState.verdict
  rw [h.cmdCode hcomplete.1]
  split
  · rename_i hcmd
    have hreadable := (hpairs hcmd).congr hsame hlen.symm
    obtain ⟨hloops, hfound⟩ := hreadable.scanCEA
    rw [hlen] at hloops hfound
    have hfirst : FirstResultCode s.mem resultDiameterSuccess diameterHeaderLength ↔
        s.Accepted stream := by
      constructor
      · intro hf
        exact ⟨hcomplete, hcmd, hf.congr (fun i hi => (hsame i (hlen ▸ hi)).symm) hlen⟩
      · rintro ⟨-, -, hf⟩
        exact hf.congr hsame hlen.symm
    have hsafe : (ceaScanner s.mem).Safe s.mem stream.length := by
      rw [← hlen]
      exact hreadable.safe
    cases hscan : DiaProxy.scanCEA s.mem stream.length with
    | found value =>
      rw [hscan, Scan.found.injEq] at hfound
      refine ⟨⟨h.fits, h.inside, h.same⟩, ?_, fun hrunning => hrunning.elim, ?_⟩
      · exact decide_eq_true_iff.trans (hfound.trans hfirst)
      · rintro _ ⟨⟩
        exact ⟨hcomplete.2, hsafe⟩
    | notFound | throws =>
      rw [hscan] at hfound
      refine ⟨⟨h.fits, h.inside, h.same⟩, ?_, fun hrunning => hrunning.elim, ?_⟩
      · exact iff_of_false (by simp) fun haccepted => nomatch hfound.mpr (hfirst.mpr haccepted)
      · rintro _ ⟨⟩
        exact ⟨hcomplete.2, hsafe⟩
    | loops => exact absurd hscan hloops
  · rename_i hcmd
    refine ⟨⟨h.fits, h.inside, h.same⟩, ?_, fun hrunning => hrunning.elim, ?_⟩
    · exact iff_of_false (by simp) fun haccepted => hcmd haccepted.2.1
    · intro dpSize hdp
      exact nomatch hscanned.symm.trans hdp

/-- Going on in `read_message_body`. -/
lemma Filled.continued (h : s.Filled stream) (hscanned : s.scanned = none) {received : ℤ}
    (hconsumed : (s.consumed : ℤ) = diameterHeaderLength + received) (hreceived : 0 ≤ received)
    (hpairs : stream.length ≤ s.consumed → stream.cmdCode = cmdCodeCer →
      PairsReadable stream diameterHeaderLength) :
    (s.continued stream.length received).Inv stream := by
  unfold CeaState.continued
  split
  · rename_i hlt
    exact ⟨⟨h.fits, h.inside, h.same⟩, ⟨hconsumed, hreceived, rfl, hlt, rfl⟩, fun _ => hscanned,
      fun dpSize hdp => nomatch hscanned.symm.trans hdp⟩
  · have hcomplete : s.Complete stream := ⟨by omega, by omega⟩
    exact h.verdict hscanned hcomplete (hpairs hcomplete.2)

/-- Going on with the header, or behind it. -/
lemma Filled.headed (h : s.Filled stream) (hscanned : s.scanned = none) {received : ℕ} (retries : ℕ)
    (hconsumed : s.consumed = received) (hpos : 0 < received) (hle : received ≤ diameterHeaderLength)
    (hlength : diameterHeaderLength ≤ s.consumed → diameterHeaderLength < stream.length) :
    (s.headed received retries).Inv stream := by
  unfold CeaState.headed
  split
  · rename_i hlt
    exact ⟨⟨h.fits, h.inside, h.same⟩, ⟨hconsumed, hpos, hlt⟩, fun _ => hscanned,
      fun dpSize hdp => nomatch hscanned.symm.trans hdp⟩
  · have hhead : diameterHeaderLength ≤ s.consumed := by omega
    refine ⟨⟨h.fits, h.inside, h.same⟩, ⟨by dsimp only; omega, h.length hhead, ?_, rfl⟩,
      fun _ => hscanned, fun dpSize hdp => nomatch hscanned.symm.trans hdp⟩
    rw [h.length hhead]
    exact hlength hhead

/-- The function goes to another place without reading. -/
lemma Inv.setPhase (h : s.Inv stream) (hscanned : s.scanned = none) {phase : CeaPhase}
    (hat : s.At stream phase) : ({ s with phase := phase } : CeaState).Inv stream where
  fits := h.fits
  inside := h.inside
  same := h.same
  phase := hat
  unscanned _ := hscanned
  reads _ hdp := nomatch hscanned.symm.trans hdp

/-- A function that gives up has not got the message. -/
lemma Inv.giveUp (h : s.Inv stream) (hscanned : s.scanned = none) (hmissing : ¬ s.Complete stream) :
    ({ s with phase := .returned false } : CeaState).Inv stream :=
  h.setPhase hscanned (iff_of_false Bool.false_ne_true fun haccepted => hmissing haccepted.1)

/-- A function that has not returned has not got the message. -/
lemma Inv.missing (h : s.Inv stream) (hrunning : s.Running) : ¬ s.Complete stream := by
  rintro ⟨hhead, hlen⟩
  have hat := h.phase
  unfold Running at hrunning
  cases hphase : s.phase <;> rw [hphase] at hat hrunning <;> simp only [At] at hat
  · unfold diameterHeaderLength at hhead
    omega
  · omega
  · omega
  · omega
  · exact hrunning
  · exact hrunning

/-- Bytes that fit the buffer are counted as an `int`. -/
lemma value_eq {r : RecvResult} (hne : r ≠ .error) (h : r.count ≤ defaultBufferSize) :
    r.value = r.count := by
  cases r with
  | bytes n => exact DiaProxy.BodyState.value_of_fits (h.trans (Nat.le_succ _))
  | closed => rfl
  | error => exact absurd rfl hne

/-- The first bytes of the header. -/
lemma Inv.recv_waiting (h : s.Inv stream) {r : RecvResult} (horder : s.InOrder stream (.recv r))
    {retries : ℕ} (hphase : s.phase = .waiting retries) (hscanned : s.scanned = none)
    (hmissing : ¬ s.Complete stream) (hstep : s.step stream (.recv r) = some s') : s'.Inv stream := by
  have hzero : s.consumed = 0 := by
    have hat := h.phase
    rwa [hphase] at hat
  simp only [CeaState.step, hphase] at hstep
  split at hstep
  swap
  · cases hstep
  rename_i hpossible
  split at hstep
  · rename_i n
    obtain rfl := Option.some.inj hstep
    obtain ⟨hpos, hle⟩ := hpossible
    have hle' : n ≤ diameterHeaderLength := by
      unfold diameterHeaderLength at hle ⊢
      omega
    have hfilled : (s.store stream 0 (.bytes n)).Filled stream :=
      h.toFilled.store (by rw [hzero]; rfl) horder.fits
    refine hfilled.headed hscanned retries ?_ hpos hle' fun hhead => ?_
    · change s.consumed + n = n
      omega
    · exact horder.length (by unfold diameterHeaderLength; omega) hhead
  · obtain rfl := Option.some.inj hstep
    exact h.giveUp hscanned hmissing

/-- More bytes of the header. -/
lemma Inv.recv_header (h : s.Inv stream) {r : RecvResult} (horder : s.InOrder stream (.recv r))
    {received retries : ℕ} (hphase : s.phase = .header received retries) (hscanned : s.scanned = none)
    (hmissing : ¬ s.Complete stream) (hstep : s.step stream (.recv r) = some s') : s'.Inv stream := by
  obtain ⟨hconsumed, -, hlt⟩ : s.At stream (.header received retries) := hphase ▸ h.phase
  simp only [CeaState.step, hphase] at hstep
  split at hstep
  swap
  · cases hstep
  rename_i hpossible
  split at hstep
  · rename_i n
    obtain rfl := Option.some.inj hstep
    obtain ⟨hpos, hle⟩ := hpossible
    have hle' : received + n ≤ diameterHeaderLength := by
      unfold diameterHeaderLength at hle hlt ⊢
      omega
    have hfilled : (s.store stream received (.bytes n)).Filled stream :=
      h.toFilled.store (by rw [hconsumed]) horder.fits
    refine hfilled.headed hscanned retries ?_ (by omega) hle' fun hhead => ?_
    · change s.consumed + n = received + n
      omega
    · exact horder.length (by omega) hhead
  · obtain rfl := Option.some.inj hstep
    exact h.giveUp hscanned hmissing

/-- The first `recv` for the body. -/
lemma Inv.recv_ready (h : s.Inv stream) {r : RecvResult} (horder : s.InOrder stream (.recv r))
    {dpSize : ℕ} {watched : Bool} (hphase : s.phase = .ready dpSize watched)
    (hscanned : s.scanned = none) (hstep : s.step stream (.recv r) = some s') : s'.Inv stream := by
  obtain ⟨hconsumed, rfl, -, -⟩ : s.At stream (.ready dpSize watched) := hphase ▸ h.phase
  simp only [CeaState.step, hphase] at hstep
  split at hstep
  swap
  · cases hstep
  obtain rfl := Option.some.inj hstep
  have hfits : s.consumed + r.count ≤ defaultBufferSize := horder.fits
  have hne : r ≠ .error := by
    rintro rfl
    exact horder.first _ _ hphase rfl
  have hvalue := value_eq hne (by omega)
  have hfilled : (s.store stream diameterHeaderLength r).Filled stream :=
    h.toFilled.store (by rw [hconsumed]) hfits
  refine hfilled.continued hscanned ?_ (by omega) fun hlen => ?_
  · change ((s.consumed + r.count : ℕ) : ℤ) = _
    omega
  · exact horder.pairs hconsumed.ge hlen

/-- The others. -/
lemma Inv.recv_body (h : s.Inv stream) {r : RecvResult} (horder : s.InOrder stream (.recv r))
    {dpSize : ℕ} {received : ℤ} {watched : Bool} (hphase : s.phase = .body dpSize received watched)
    (hscanned : s.scanned = none) (hmissing : ¬ s.Complete stream)
    (hstep : s.step stream (.recv r) = some s') : s'.Inv stream := by
  obtain ⟨hconsumed, hreceived, rfl, -, -⟩ : s.At stream (.body dpSize received watched) :=
    hphase ▸ h.phase
  simp only [CeaState.step, hphase] at hstep
  split at hstep
  swap
  · cases hstep
  split at hstep
  · rename_i n _
    obtain rfl := Option.some.inj hstep
    have hfits : s.consumed + n ≤ defaultBufferSize := horder.fits
    have hvalue : (RecvResult.bytes n).value = n := value_eq (by simp) (Nat.le_of_add_left_le hfits)
    have hfilled : (s.store stream (diameterHeaderLength + received) (.bytes n)).Filled stream :=
      h.toFilled.store hconsumed.symm hfits
    refine hfilled.continued hscanned ?_ (by omega) fun hlen => ?_
    · change ((s.consumed + n : ℕ) : ℤ) = _
      omega
    · exact horder.pairs (by unfold InBody; omega) hlen
  · obtain rfl := Option.some.inj hstep
    exact h.giveUp hscanned hmissing

/-- A pass that finds the socket not ready. -/
lemma Inv.quiet (h : s.Inv stream) (horder : s.InOrder stream .quiet) (hscanned : s.scanned = none)
    (hmissing : ¬ s.Complete stream) (hstep : s.step stream .quiet = some s') : s'.Inv stream := by
  have hat := h.phase
  cases hphase : s.phase with
  | waiting retries =>
    rw [hphase] at hat
    simp only [CeaState.step, hphase] at hstep
    obtain rfl := Option.some.inj hstep
    split
    · exact h.giveUp hscanned hmissing
    · exact h.setPhase hscanned hat
  | header received retries =>
    rw [hphase] at hat
    simp only [CeaState.step, hphase] at hstep
    obtain rfl := Option.some.inj hstep
    split
    · exact h.giveUp hscanned hmissing
    · exact h.setPhase hscanned hat
  | ready dpSize watched =>
    rw [hphase] at hat
    exact absurd rfl (horder.watched hat.1.ge)
  | body dpSize received watched =>
    rw [hphase] at hat
    obtain ⟨hconsumed, hreceived, -⟩ := hat
    exact absurd rfl (horder.watched (by unfold InBody; omega))
  | returned ok | exited | loops =>
    simp only [CeaState.step, hphase] at hstep
    cases hstep

/-- A function that makes a pass has not returned. -/
lemma running_of_step (hstep : s.step stream e = some s') : s.Running := by
  unfold Running
  cases hphase : s.phase with
  | returned ok | exited => cases e <;> simp only [CeaState.step, hphase] at hstep <;> cases hstep
  | waiting _ | header _ _ | ready _ _ | body _ _ _ | loops => trivial

/-- A pass that is in order keeps the invariant. -/
lemma Inv.step (h : s.Inv stream) (horder : s.InOrder stream e) (hstep : s.step stream e = some s') :
    s'.Inv stream := by
  have hrunning := running_of_step hstep
  have hscanned := h.unscanned hrunning
  have hmissing := h.missing hrunning
  cases e with
  | closing =>
    cases hphase : s.phase <;> simp only [CeaState.step, hphase] at hstep <;> cases hstep
    all_goals exact h.setPhase hscanned trivial
  | quiet => exact h.quiet horder hscanned hmissing hstep
  | recv r =>
    cases hphase : s.phase with
    | waiting retries => exact h.recv_waiting horder hphase hscanned hmissing hstep
    | header received retries => exact h.recv_header horder hphase hscanned hmissing hstep
    | ready dpSize watched => exact h.recv_ready horder hphase hscanned hstep
    | body dpSize received watched => exact h.recv_body horder hphase hscanned hmissing hstep
    | returned ok | exited | loops =>
      simp only [CeaState.step, hphase] at hstep
      cases hstep

/-- A function that reads the closing in this pass. -/
lemma closes_of_step (h : s.step stream (.recv .closed) = some { s with phase := .returned false }) :
    ∃ n ≤ 2, ∃ s',
      LabelledSystem.exec (CeaState.step stream) s (List.replicate n (.recv .closed)) = some s' ∧
        s'.phase = .returned false :=
  ⟨1, by decide, _, LabelledSystem.exec_cons_eq_some.mpr ⟨_, h, rfl⟩, rfl⟩

/-- When the server closes the connection, at most two passes follow. -/
lemma Inv.closes (h : s.Inv stream) (hrunning : s.Running) :
    ∃ n ≤ 2, ∃ s',
      LabelledSystem.exec (CeaState.step stream) s (List.replicate n (.recv .closed)) = some s' ∧
        s'.phase = .returned false := by
  have hat := h.phase
  unfold Running at hrunning
  cases hphase : s.phase with
  | waiting retries | header received retries =>
    exact closes_of_step (by simp [CeaState.step, hphase, RecvResult.Possible])
  | ready dpSize watched =>
    rw [hphase] at hat
    obtain ⟨-, -, hlt, rfl⟩ := hat
    have hbody : (0 : ℤ) < dpSize - diameterHeaderLength := by omega
    -- the first closing counts as no bytes
    let t := s.store stream diameterHeaderLength .closed
    have hfirst : s.step stream (.recv .closed) = some { t with phase := .body dpSize 0 true } := by
      simp only [CeaState.step, hphase, RecvResult.Possible, and_self, if_true]
      exact congrArg some (if_pos hbody)
    have hsecond : CeaState.step stream { t with phase := .body dpSize 0 true } (.recv .closed) =
        some { t with phase := .returned false } := by
      simp [CeaState.step, RecvResult.Possible]
    refine ⟨2, le_rfl, { t with phase := .returned false }, ?_, rfl⟩
    exact LabelledSystem.exec_cons_eq_some.mpr
      ⟨_, hfirst, LabelledSystem.exec_cons_eq_some.mpr ⟨_, hsecond, rfl⟩⟩
  | body dpSize received watched =>
    rw [hphase] at hat
    obtain ⟨-, -, -, -, rfl⟩ := hat
    exact closes_of_step (by simp [CeaState.step, hphase, RecvResult.Possible])
  | returned ok | exited =>
    rw [hphase] at hrunning
    exact hrunning.elim
  | loops =>
    rw [hphase] at hat
    exact hat.elim

lemma Inv.right (h : s.Inv stream) : s.Right stream where
  inside := h.inside
  reads := h.reads
  ends := h.missing
  closes := h.closes
  verdict receivedOk hphase := by
    have hat := h.phase
    rwa [hphase] at hat

/-- **When the answer is read as it should be.**  In a run of `receive_CEA` whose passes are all in order,
nothing is stored outside the buffer and nothing read outside the message, the function returns when the
message has come or the server has closed the connection, and it returns `true` exactly for a good
answer. -/
theorem right_of_along {es : List CeaEvent}
    (horder : LabelledSystem.Along (CeaState.step stream) (InOrder stream) start es) :
    LabelledSystem.Throughout (CeaState.step stream) (Right stream) start es :=
  LabelledSystem.throughout_of_along (I := Inv stream) (fun _ _ _ h horder hstep => h.step horder hstep)
    (fun _ h => h.right) inv_start horder

/-- Bytes of a readable answer are in order when they have room. -/
lemma inOrder_bytes {n : ℕ} (hfits : s.consumed + n ≤ defaultBufferSize)
    (hlength : diameterHeaderLength < stream.length)
    (hpairs : PairsReadable stream diameterHeaderLength) : s.InOrder stream (.recv (.bytes n)) where
  watched _ h := nomatch h
  first _ _ _ h := nomatch h
  fits := hfits
  length _ _ := hlength
  pairs _ _ _ := hpairs

/-- An answer with a header and one pair. -/
def answer (avp : List UInt8) : Mem :=
  DiaProxy.Mem.load ([1, 0, 0, 32, 0, 0, 1, 1] ++ List.replicate 12 0 ++ avp) fun _ => 0

/-- An answer with the Result-Code 2001. -/
def success : Mem := answer [0, 0, 1, 12, 64, 0, 0, 12, 0, 0, 7, 209]

/-- The header comes in one piece, the Result-Code in another. -/
theorem success_right :
    (∃ s, LabelledSystem.exec (CeaState.step success) start
        [.recv (.bytes 20), .recv (.bytes 12)] = some s ∧ s.phase = .returned true) ∧
    LabelledSystem.Throughout (CeaState.step success) (Right success) start
      [.recv (.bytes 20), .recv (.bytes 12)] := by
  refine ⟨⟨_, rfl, by decide⟩, right_of_along ?_⟩
  have hpairs : PairsReadable success diameterHeaderLength :=
    .found (by decide) (by decide) (.inl ⟨by decide, by decide⟩)
  intro s hs
  obtain rfl := Option.some.inj hs
  refine ⟨inOrder_bytes (by decide) (by decide) hpairs, fun t ht => ?_⟩
  have hfits : 20 + 12 ≤ defaultBufferSize := by decide
  exact ⟨inOrder_bytes hfits (by decide) hpairs, trivial⟩

/-- An answer with a pair of the length 0. -/
def zeroLength : Mem := answer [0, 0, 0, 1, 0, 0, 0, 0, 0, 0, 0, 0]

/-- It has come as a whole, and the function never returns. -/
theorem zeroLength_not_right :
    ∃ s, LabelledSystem.exec (CeaState.step zeroLength) start
        [.recv (.bytes 20), .recv (.bytes 12)] = some s ∧
      s.phase = .loops ∧ ¬ s.Right zeroLength := by
  refine ⟨_, rfl, rfl, fun h => ?_⟩
  exact h.ends trivial ⟨by decide, by decide⟩

end CeaState

end ConKeeper
