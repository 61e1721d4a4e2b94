import StTools.Lib.LabelledSystem
import StTools.DiaProxy.InputFraming
import Mathlib.Algebra.Ring.Nat

/-!
# The body of a message from the server

`read_message_body` fetches what the length field of the header says, minus the twenty bytes of the
header, with a `select` and a `recv` in each pass.  The first `recv` is made when a first loop has seen
the socket ready; a second loop fetches the rest.  A `Pass` is what one pass of either loop finds.

The result of the first `recv` is taken for a number of bytes without a test: a failure moves the
pointer one byte back, onto the last byte of the header, and everything that follows is stored one byte
too low.  The number of bytes asked for is not compared with the size of the buffer, and a length field
below twenty asks for a negative number, which `recv` takes for a huge one.  `readMessageBody_safe_iff`
says that there is no other way to go wrong.
-/

namespace DiaProxy

/-- What `recv` returns. -/
inductive RecvResult
  /-- A positive number of bytes. -/
  | bytes (n : ℕ)
  /-- The peer has closed the connection, or no bytes were asked for. -/
  | closed
  /-- A failure. -/
  | error
  deriving Repr, DecidableEq

namespace RecvResult

/-- The number of bytes that are stored. -/
def count : RecvResult → ℕ
  | bytes n => n
  | closed => 0
  | error => 0

/-- The result as an `int`. -/
def value : RecvResult → ℤ
  | bytes n => Int.bmod n 4294967296
  | closed => 0
  | error => -1

/-- Results of a `recv` that asks for a number of bytes, which it takes for a `size_t`. -/
def Possible (toread : ℤ) : RecvResult → Prop
  | bytes n => 0 < n ∧ n ≤ toread % 18446744073709551616
  | closed => True
  | error => True

instance (toread : ℤ) : DecidablePred (Possible toread)
  | bytes _ => inferInstanceAs (Decidable (_ ∧ _))
  | closed => inferInstanceAs (Decidable True)
  | error => inferInstanceAs (Decidable True)

end RecvResult

/-- What a pass finds. -/
inductive Pass
  /-- The program has to exit. -/
  | exits
  /-- The connection is `BROKEN`. -/
  | broken
  /-- The socket is not ready. -/
  | idle
  /-- The socket is ready. -/
  | recv (r : RecvResult)
  deriving Repr, DecidableEq

/-- Where the function is. -/
inductive BodyPhase
  /-- In the first loop.  `select` clears the set when it times out, and the loop does not fill it
  again: then the socket is no longer `watched`. -/
  | waiting (watched : Bool)
  /-- In the second loop. -/
  | reading (received toread1 pbuf : ℤ)
  /-- It has returned a value and left the connection in a status. -/
  | returned (value : ℤ) (status : ConnectionStatus)
  /-- The thread has ended. -/
  | exited
  deriving Repr, DecidableEq

/-- The state of `read_message_body`. -/
structure BodyState where
  /-- Where the function is. -/
  phase : BodyPhase
  /-- The buffer; offsets may be negative. -/
  buff : ℤ → UInt8
  /-- Ghost: the bytes that were taken from the stream. -/
  consumed : ℕ
  /-- Ghost: the offsets and the lengths of what was stored. -/
  stores : List (ℤ × ℕ)

namespace BodyState

/-- The state with the header in the buffer. -/
def start (head : Mem) : BodyState where
  phase := .waiting true
  buff i := head i.toNat
  consumed := 0
  stores := []

/-- Store what `recv` takes from the stream. -/
def store (s : BodyState) (stream : ℕ → UInt8) (pbuf : ℤ) (r : RecvResult) : BodyState where
  phase := s.phase
  buff i := if pbuf ≤ i ∧ i < pbuf + r.count then stream (s.consumed + (i - pbuf).toNat) else s.buff i
  consumed := s.consumed + r.count
  stores := (pbuf, r.count) :: s.stores

/-- The second loop with its new variables, or what follows it. -/
def continued (s : BodyState) (toread received toread1 pbuf : ℤ) : BodyState :=
  { s with
    phase := if received < toread then .reading received toread1 pbuf
      else .returned received .connected }

/-- One pass of `read_message_body`, or `none` if it has ended or `recv` has no such result. -/
def pass (toread : ℤ) (stream : ℕ → UInt8) (s : BodyState) : Pass → Option BodyState
  | .exits =>
    match s.phase with
    | .waiting _ => some { s with phase := .exited }
    | .reading _ _ _ => some { s with phase := .exited }
    | .returned _ _ => none
    | .exited => none
  | .broken =>
    match s.phase with
    | .waiting _ => some { s with phase := .returned (-1) .broken }
    | .reading _ _ _ => some { s with phase := .returned (-1) .broken }
    | .returned _ _ => none
    | .exited => none
  | .idle =>
    match s.phase with
    | .waiting _ => some { s with phase := .waiting false }
    | .reading _ _ _ => some s
    | .returned _ _ => none
    | .exited => none
  | .recv r =>
    match s.phase with
    | .waiting watched =>
      if watched ∧ r.Possible toread then
        some ((s.store stream diameterHeaderLength r).continued toread r.value (toread - r.value)
          (diameterHeaderLength + r.value))
      else none
    | .reading received toread1 pbuf =>
      if r.Possible toread1 then
        match r with
        | .bytes _ =>
          some ((s.store stream pbuf r).continued toread (received + r.value) (toread1 - r.value)
            (pbuf + r.value))
        | .closed => some { s with phase := .returned (-1) .toBeConnected }
        | .error => some { s with phase := .returned (-1) .toBeConnected }
      else none
    | .returned _ _ => none
    | .exited => none

end BodyState

/-- `read_message_body` on a header and a stream, after some passes. -/
def readMessageBody (head : Mem) (stream : ℕ → UInt8) (ps : List Pass) : Option BodyState :=
  LabelledSystem.exec (BodyState.pass (head.length - diameterHeaderLength) stream) (.start head) ps

/-! ## What is asked of the function -/

namespace BodyState

/-- Nothing was stored outside the buffer. -/
def Inside (s : BodyState) : Prop := ∀ st ∈ s.stores, 0 ≤ st.1 ∧ st.1 + st.2 ≤ defaultBufferSize

/-- Nothing was stored outside the buffer, and if the function has returned with a connection that can
still be used, the body stands behind the header. -/
def Safe (head : Mem) (stream : ℕ → UInt8) (s : BodyState) : Prop :=
  s.Inside ∧ ∀ value status, s.phase = .returned value status →
    status = .toBeConnected ∨ status = .broken ∨
      ∀ i : ℕ, diameterHeaderLength ≤ i → i < head.length →
        s.buff i = stream (i - diameterHeaderLength)

end BodyState

/-- The bytes that `recv` delivers. -/
def delivered (ps : List Pass) : ℕ :=
  (ps.map fun p => match p with
    | .exits => 0
    | .broken => 0
    | .idle => 0
    | .recv r => r.count).sum

/-- The first `recv` fails. -/
def FirstFails (ps : List Pass) : Prop := ps.head? = some (.recv .error)

instance (ps : List Pass) : Decidable (FirstFails ps) := inferInstanceAs (Decidable (_ = _))

/-- What the server sends can be assembled: it fits the buffer, and if the first `recv` fails, either
the rest does not become complete or all bytes that are looked at are the same. -/
structure Assembles (head : Mem) (stream : ℕ → UInt8) (ps : List Pass) : Prop where
  /-- The bytes fit behind the header, or behind all but its last byte. -/
  fits : diameterHeaderLength + delivered ps ≤ defaultBufferSize + if FirstFails ps then 1 else 0
  /-- Moving the stream by one byte makes no difference. -/
  same : FirstFails ps → head.length < diameterHeaderLength + delivered ps →
    ∀ j, diameterHeaderLength + j < head.length → stream (j + 1) = stream j

/-! ## The passes -/

namespace BodyState

variable {head : Mem} {toread : ℤ} {stream : ℕ → UInt8} {s s' : BodyState} {p : Pass}
  {ps : List Pass}

@[simp] lemma continued_buff (s : BodyState) (toread received toread1 pbuf : ℤ) :
    (s.continued toread received toread1 pbuf).buff = s.buff := rfl

@[simp] lemma continued_consumed (s : BodyState) (toread received toread1 pbuf : ℤ) :
    (s.continued toread received toread1 pbuf).consumed = s.consumed := rfl

@[simp] lemma continued_stores (s : BodyState) (toread received toread1 pbuf : ℤ) :
    (s.continued toread received toread1 pbuf).stores = s.stores := rfl

/-- What a pass can do: it leaves the memory alone, or it stores at a place. -/
lemma pass_cases (h : s.pass toread stream p = some s') :
    (∃ phase, s' = { s with phase := phase } ∧ delivered [p] = 0) ∨
      ∃ r pbuf phase, p = .recv r ∧ s' = { s.store stream pbuf r with phase := phase } := by
  cases p with
  | exits | broken | idle =>
    left
    cases hphase : s.phase <;> simp only [pass, hphase] at h <;> cases h
    all_goals exact ⟨_, rfl, rfl⟩
  | recv r =>
    cases hphase : s.phase with
    | waiting watched =>
      simp only [pass, hphase] at h
      split at h
      · cases h
        exact .inr ⟨r, _, _, rfl, rfl⟩
      · cases h
    | reading received toread1 pbuf =>
      simp only [pass, hphase] at h
      split at h
      · cases r with
        | bytes n =>
          cases h
          exact .inr ⟨_, _, _, rfl, rfl⟩
        | closed | error =>
          cases h
          exact .inl ⟨_, rfl, rfl⟩
      · cases h
    | returned value status | exited =>
      simp only [pass, hphase] at h
      cases h

/-- The bytes of the first pass, and those of the others. -/
lemma delivered_cons (p : Pass) (ps : List Pass) :
    delivered (p :: ps) = delivered [p] + delivered ps := by
  simp [delivered]

/-- The passes take from the stream what `recv` delivers, and what is stored stays stored. -/
lemma run_grows (h : LabelledSystem.exec (pass toread stream) s ps = some s') :
    s'.consumed = s.consumed + delivered ps ∧ (s'.Inside → s.Inside) := by
  induction ps generalizing s with
  | nil =>
    cases h
    exact ⟨rfl, id⟩
  | cons p ps ih =>
    obtain ⟨t, ht, hrest⟩ := LabelledSystem.exec_cons_eq_some.mp h
    obtain ⟨hconsumed, hinside⟩ := ih hrest
    rw [hconsumed, delivered_cons]
    rcases pass_cases ht with ⟨phase, rfl, hp⟩ | ⟨r, pbuf, phase, rfl, rfl⟩
    · rw [hp, Nat.zero_add]
      exact ⟨rfl, hinside⟩
    · refine ⟨?_, fun hi st hst => hinside hi st (List.mem_cons_of_mem _ hst)⟩
      rw [← Nat.add_assoc]
      rfl

/-! ## The bytes in the buffer -/

/-- What was taken from the stream stands in the buffer, `shift` bytes too low, and nothing was stored
outside it. -/
structure Filled (stream : ℕ → UInt8) (shift : ℕ) (s : BodyState) : Prop where
  /-- The bytes fit. -/
  fits : diameterHeaderLength + s.consumed ≤ defaultBufferSize + shift
  /-- Nothing was stored outside the buffer. -/
  inside : s.Inside
  /-- The bytes. -/
  filled : ∀ i < s.consumed, s.buff (diameterHeaderLength - shift + i) = stream i

/-- More was taken from the stream than fits, and so something was stored outside the buffer. -/
def Overflows (shift : ℕ) (s : BodyState) : Prop :=
  defaultBufferSize + shift < diameterHeaderLength + s.consumed ∧ ¬ s.Inside

variable {shift : ℕ} {r : RecvResult}

/-- Storing the next bytes behind the others fills the buffer further, or is too much for it. -/
lemma Filled.store (h : s.Filled stream shift) (hshift : shift ≤ 1) (r : RecvResult) :
    (s.store stream (diameterHeaderLength + (s.consumed - shift)) r).Filled stream shift ∨
      (s.store stream (diameterHeaderLength + (s.consumed - shift)) r).Overflows shift := by
  have hheader : diameterHeaderLength = 20 := rfl
  by_cases hfits : diameterHeaderLength + (s.consumed + r.count) ≤ defaultBufferSize + shift
  · refine .inl ⟨hfits, ?_, ?_⟩
    · refine List.forall_mem_cons.mpr ⟨?_, h.inside⟩
      dsimp only
      omega
    · intro i hi
      have hi' : i < s.consumed + r.count := hi
      dsimp only [BodyState.store]
      split
      · congr 1
        omega
      · exact h.filled i (by omega)
  · refine .inr ⟨Nat.not_le.mp hfits, fun hinside => ?_⟩
    have hlast := (List.forall_mem_cons.mp hinside).1
    dsimp only at hlast
    omega

/-- What the second loop knows: how many bytes were fetched, and that these are not enough yet. -/
def Fetches (toread fetched : ℤ) : BodyPhase → Prop
  | .waiting _ => False
  | .reading received _ pbuf =>
    received = fetched ∧ pbuf = diameterHeaderLength + fetched ∧ fetched < toread
  | .returned _ status =>
    (status = .toBeConnected ∨ status = .broken) ∧ fetched < toread ∨
      status = .connected ∧ toread ≤ fetched
  | .exited => fetched < toread

lemma fetches_continued (s : BodyState) (toread fetched toread1 : ℤ) :
    Fetches toread fetched
      (s.continued toread fetched toread1 (diameterHeaderLength + fetched)).phase := by
  dsimp only [continued]
  split
  · rename_i hlt
    exact ⟨rfl, rfl, hlt⟩
  · rename_i hlt
    exact .inr ⟨rfl, Int.not_lt.mp hlt⟩

/-- The invariant of the second loop. -/
def Contiguous (toread : ℤ) (stream : ℕ → UInt8) (shift : ℕ) (s : BodyState) : Prop :=
  s.Filled stream shift ∧ Fetches toread (s.consumed - shift) s.phase

/-- An overflow stays one. -/
lemma Overflows.pass (h : s.Overflows shift) (hp : s.pass toread stream p = some s') :
    s'.Overflows shift := by
  have hrun : LabelledSystem.exec (BodyState.pass toread stream) s [p] = some s' :=
    LabelledSystem.exec_cons_eq_some.mpr ⟨s', hp, rfl⟩
  obtain ⟨hconsumed, hinside⟩ := run_grows hrun
  refine ⟨?_, fun hi => h.2 (hinside hi)⟩
  rw [hconsumed]
  exact h.1.trans_le (by omega)

/-- Bytes that fit the buffer are counted as an `int`. -/
lemma value_of_fits {n : ℕ} (h : n ≤ defaultBufferSize + 1) : (RecvResult.bytes n).value = n := by
  have hsize : defaultBufferSize = 65535 := rfl
  have hint : (n : ℤ).bmod 4294967296 = n := Int.bmod_eq_of_le_mul_two (by omega) (by omega)
  exact hint

/-- Going on after the next bytes were stored keeps the invariant, or there is an overflow. -/
lemma Filled.continued (h : s.Filled stream shift) (hshift : shift ≤ 1) (n : ℕ)
    (toread toread1 : ℤ) :
    ((s.store stream (diameterHeaderLength + (s.consumed - shift)) (.bytes n)).continued toread
        (s.consumed - shift + (RecvResult.bytes n).value) toread1
        (diameterHeaderLength + (s.consumed - shift) + (RecvResult.bytes n).value)).Contiguous
          toread stream shift ∨
      ((s.store stream (diameterHeaderLength + (s.consumed - shift)) (.bytes n)).continued toread
        (s.consumed - shift + (RecvResult.bytes n).value) toread1
        (diameterHeaderLength + (s.consumed - shift) + (RecvResult.bytes n).value)).Overflows
          shift := by
  rcases h.store hshift (.bytes n) with hfilled | hover
  swap
  · exact .inr hover
  refine .inl ⟨⟨hfilled.fits, hfilled.inside, hfilled.filled⟩, ?_⟩
  have hfits : diameterHeaderLength + (s.consumed + n) ≤ defaultBufferSize + shift := hfilled.fits
  have hfetched : (s.consumed : ℤ) - shift + (RecvResult.bytes n).value =
      ((s.consumed + n : ℕ) : ℤ) - shift := by
    rw [value_of_fits (by omega)]
    omega
  rw [Int.add_assoc, hfetched]
  exact fetches_continued _ _ _ _

/-- A pass of the second loop keeps the invariant, or there is an overflow. -/
lemma Contiguous.pass (h : s.Contiguous toread stream shift) (hshift : shift ≤ 1)
    (hp : s.pass toread stream p = some s') :
    s'.Contiguous toread stream shift ∨ s'.Overflows shift := by
  obtain ⟨hfilled, hphase⟩ := h
  cases hs : s.phase with
  | waiting watched =>
    rw [hs] at hphase
    exact hphase.elim
  | returned value status | exited =>
    cases p <;> simp only [BodyState.pass, hs] at hp <;> cases hp
  | reading received toread1 pbuf =>
    rw [hs] at hphase
    obtain ⟨rfl, rfl, hlt⟩ := hphase
    have hmemory : ∀ phase, Fetches toread (s.consumed - shift) phase →
        BodyState.Contiguous toread stream shift { s with phase := phase } :=
      fun phase hf => ⟨⟨hfilled.fits, hfilled.inside, hfilled.filled⟩, hf⟩
    cases p with
    | exits =>
      simp only [BodyState.pass, hs] at hp
      cases hp
      exact .inl (hmemory _ hlt)
    | broken =>
      simp only [BodyState.pass, hs] at hp
      cases hp
      exact .inl (hmemory _ (.inl ⟨.inr rfl, hlt⟩))
    | idle =>
      simp only [BodyState.pass, hs] at hp
      cases hp
      refine .inl ⟨hfilled, ?_⟩
      rw [hs]
      exact ⟨rfl, rfl, hlt⟩
    | recv r =>
      simp only [BodyState.pass, hs] at hp
      split at hp
      swap
      · cases hp
      cases r with
      | bytes n =>
        cases hp
        exact hfilled.continued hshift _ _ _
      | closed | error =>
        cases hp
        exact .inl (hmemory _ (.inl ⟨.inl rfl, hlt⟩))

/-- The second loop, from its invariant on, keeps it or overflows. -/
lemma Contiguous.run (h : s.Contiguous toread stream shift) (hshift : shift ≤ 1)
    (hrun : LabelledSystem.exec (BodyState.pass toread stream) s ps = some s') :
    s'.Contiguous toread stream shift ∨ s'.Overflows shift := by
  refine LabelledSystem.exec_of_step
    (I := fun t => t.Contiguous toread stream shift ∨ t.Overflows shift) ?_ (.inl h) hrun
  rintro t p t' (ht | ht) hp
  · exact ht.pass hshift hp
  · exact .inr (ht.pass hp)

/-! ## The first loop -/

lemma filled_start (head : Mem) (stream : ℕ → UInt8) (shift : ℕ) :
    (start head).Filled stream shift where
  fits := (show diameterHeaderLength ≤ defaultBufferSize by decide).trans (Nat.le_add_right _ _)
  inside st hst := nomatch hst
  filled i hi := absurd hi (Nat.not_lt_zero i)

/-- After the first `recv` the invariant holds, with all bytes one too low if it has failed, or there is
an overflow. -/
lemma contiguous_of_first {r : RecvResult}
    (h : (start head).pass toread stream (.recv r) = some s) :
    s.Contiguous toread stream (if r = .error then 1 else 0) ∨
      s.Overflows (if r = .error then 1 else 0) := by
  simp only [pass, start, true_and] at h
  split at h
  swap
  · cases h
  have hs := (Option.some.inj h).symm
  cases r with
  | bytes n =>
    have hfirst := (filled_start head stream 0).continued (Nat.zero_le 1) n toread
      (toread - (RecvResult.bytes n).value)
    have hzero : (((start head).consumed : ℤ) - (0 : ℕ)) = 0 := rfl
    rw [hzero, Int.add_zero, Int.zero_add] at hfirst
    rw [hs, if_neg (by simp)]
    exact hfirst
  | closed =>
    have hfilled := filled_start head stream 0
    rw [hs, if_neg (by simp)]
    refine .inl ⟨⟨hfilled.fits, ?_, fun i hi => absurd hi (Nat.not_lt_zero i)⟩, ?_⟩
    · exact List.forall_mem_cons.mpr ⟨by decide, fun st hst => nomatch hst⟩
    · exact fetches_continued _ toread 0 _
  | error =>
    have hfilled := filled_start head stream 1
    rw [hs, if_pos rfl]
    refine .inl ⟨⟨hfilled.fits, ?_, fun i hi => absurd hi (Nat.not_lt_zero i)⟩, ?_⟩
    · exact List.forall_mem_cons.mpr ⟨by decide, fun st hst => nomatch hst⟩
    · exact fetches_continued _ toread (-1) _

/-- A run without a `recv` stores nothing, and does not return with a usable connection. -/
def Quiet (s : BodyState) : Prop :=
  s.stores = [] ∧ s.consumed = 0 ∧
    s.phase ∈ [.waiting false, .exited, .returned (-1) .broken]

/-- Once the socket is not watched any more, there is no `recv`. -/
lemma Quiet.run (h : s.Quiet) (hrun : LabelledSystem.exec (BodyState.pass toread stream) s ps = some s') :
    s'.Quiet := by
  refine LabelledSystem.exec_of_step (I := Quiet) ?_ h hrun
  rintro t p t' ⟨hstores, hconsumed, hphase⟩ hp
  simp only [List.mem_cons, List.not_mem_nil, or_false] at hphase
  rcases hphase with hphase | hphase | hphase
  · cases p <;> simp [BodyState.pass, hphase] at hp <;> subst hp
    all_goals exact ⟨hstores, hconsumed, by simp⟩
  · cases p <;> simp [BodyState.pass, hphase] at hp
  · cases p <;> simp [BodyState.pass, hphase] at hp

/-- Nothing is wrong after a run without a `recv`. -/
lemma Quiet.safe (h : s.Quiet) : s.Safe head stream := by
  obtain ⟨hstores, -, hphase⟩ := h
  refine ⟨fun st hst => ?_, fun value status hreturned => ?_⟩
  · rw [hstores] at hst
    cases hst
  · rw [hreturned] at hphase
    simp only [List.mem_cons, List.not_mem_nil, or_false, reduceCtorEq, false_or,
      BodyPhase.returned.injEq] at hphase
    exact .inr (.inl hphase.2)

/-- What was assembled is the body, if moving the stream by `shift` bytes makes no difference. -/
lemma Contiguous.safe_iff (h : s.Contiguous (head.length - diameterHeaderLength) stream shift) :
    s.Safe head stream ↔ (head.length + shift ≤ diameterHeaderLength + s.consumed →
      ∀ j, diameterHeaderLength + j < head.length → stream (j + shift) = stream j) := by
  obtain ⟨hfilled, hphase⟩ := h
  have hread : ∀ j, diameterHeaderLength + j < head.length →
      head.length + shift ≤ diameterHeaderLength + s.consumed →
      s.buff (diameterHeaderLength + j : ℕ) = stream (j + shift) := by
    intro j hj hall
    rw [← hfilled.filled (j + shift) (by omega)]
    congr 1
    push_cast
    omega
  constructor
  · rintro ⟨-, hbody⟩ hall j hj
    have hreturned : ∃ value, s.phase = .returned value .connected := by
      cases hs : s.phase with
      | waiting watched =>
        rw [hs] at hphase
        exact hphase.elim
      | reading received toread1 pbuf =>
        rw [hs] at hphase
        have := hphase.2.2
        omega
      | returned value status =>
        rw [hs] at hphase
        rcases hphase with ⟨-, hlt⟩ | ⟨rfl, -⟩
        · omega
        · exact ⟨value, rfl⟩
      | exited =>
        rw [hs] at hphase
        have : (s.consumed : ℤ) - shift < head.length - diameterHeaderLength := hphase
        omega
    obtain ⟨value, hvalue⟩ := hreturned
    rcases hbody value _ hvalue with h | h | h
    · cases h
    · cases h
    · rw [← hread j hj hall, h _ (Nat.le_add_right _ _) hj, Nat.add_sub_cancel_left]
  · intro hsame
    refine ⟨hfilled.inside, fun value status hvalue => ?_⟩
    rw [hvalue] at hphase
    rcases hphase with ⟨hstatus, -⟩ | ⟨-, hall⟩
    · exact hstatus.elim .inl fun h => .inr (.inl h)
    · refine .inr (.inr fun i hi hlt => ?_)
      obtain ⟨j, rfl⟩ := Nat.exists_eq_add_of_le hi
      rw [hread j hlt (by omega), hsame (by omega) j hlt, Nat.add_sub_cancel_left]

end BodyState

/-- **When the body is assembled, or the connection is dropped.**  After any passes of
`read_message_body` nothing was stored outside the buffer, and a connection that can still be used goes
with a complete body, exactly when the bytes that are delivered fit the buffer and the first `recv` does
not fail; if it fails, when the body does not become complete or consists of equal bytes. -/
theorem readMessageBody_safe_iff {head : Mem} {stream : ℕ → UInt8} {ps : List Pass} {s : BodyState}
    (h : readMessageBody head stream ps = some s) : s.Safe head stream ↔ Assembles head stream ps := by
  have hheader : diameterHeaderLength = 20 := rfl
  have hsize : defaultBufferSize = 65535 := rfl
  have hquiet : ∀ {t : BodyState}, t.Quiet → ¬ FirstFails ps → t.consumed = delivered ps →
      (t.Safe head stream ↔ Assembles head stream ps) := by
    intro t ht hfirst hdelivered
    refine iff_of_true ht.safe ⟨?_, fun hfails => absurd hfails hfirst⟩
    rw [← hdelivered, ht.2.1, if_neg hfirst]
    omega
  have hdelivered : s.consumed = delivered ps := by
    rw [(BodyState.run_grows h).1]
    exact Nat.zero_add _
  cases ps with
  | nil =>
    cases h
    refine iff_of_true ⟨fun st hst => (nomatch hst), fun value status hreturned => ?_⟩ ⟨?_, ?_⟩
    · cases hreturned
    · exact (show diameterHeaderLength ≤ defaultBufferSize by decide).trans (Nat.le_add_right _ _)
    · exact fun hfails => nomatch hfails
  | cons p ps =>
    obtain ⟨t, ht, hrun⟩ := LabelledSystem.exec_cons_eq_some.mp h
    cases p with
    | exits | broken | idle =>
      have hq : t.Quiet := by
        cases ht
        exact ⟨rfl, rfl, by simp⟩
      exact hquiet (hq.run hrun) (by simp [FirstFails]) hdelivered
    | recv r =>
      have hfails : FirstFails (.recv r :: ps) ↔ r = .error := by simp [FirstFails]
      set shift := if r = .error then 1 else 0 with hshift
      have hle : shift ≤ 1 := by
        rw [hshift]
        split <;> omega
      have hone : FirstFails (.recv r :: ps) → shift = 1 := fun hf => if_pos (hfails.mp hf)
      have hzero : ¬ FirstFails (.recv r :: ps) → shift = 0 :=
        fun hf => if_neg fun hr => hf (hfails.mpr hr)
      have hlast : s.Contiguous (head.length - diameterHeaderLength) stream shift ∨
          s.Overflows shift := by
        rcases BodyState.contiguous_of_first ht with hfirst | hover
        · exact hfirst.run hle hrun
        · exact .inr (LabelledSystem.exec_of_step (fun _ _ _ hI hp => hI.pass hp) hover hrun)
      rcases hlast with hcontiguous | ⟨hover, houtside⟩
      · rw [hcontiguous.safe_iff, hdelivered]
        have hfits := hcontiguous.1.fits
        rw [hdelivered] at hfits
        by_cases hf : FirstFails (.recv r :: ps)
        · rw [hone hf] at hfits ⊢
          constructor
          · intro hsame
            refine ⟨?_, fun _ hlt => hsame hlt⟩
            rwa [if_pos hf]
          · intro hassembles hall
            exact hassembles.same hf hall
        · rw [hzero hf] at hfits ⊢
          refine iff_of_true (fun _ j _ => rfl) ⟨?_, fun hf' => absurd hf' hf⟩
          rwa [if_neg hf]
      · refine iff_of_false (fun hsafe => houtside hsafe.1) fun hassembles => ?_
        have hfits := hassembles.fits
        rw [hdelivered] at hover
        by_cases hf : FirstFails (.recv r :: ps)
        · rw [hone hf] at hover
          rw [if_pos hf] at hfits
          omega
        · rw [hzero hf] at hover
          rw [if_neg hf] at hfits
          omega

/-- The header of a message of 24 bytes. -/
def header24 : Mem := Mem.load [1, 0, 0, 24] fun _ => 0

/-- A body that arrives in two pieces. -/
def twoPieces : List Pass := [.recv (.bytes 1), .idle, .recv (.bytes 3)]

/-- It is assembled. -/
theorem twoPieces_safe :
    ∃ s, readMessageBody header24 UInt8.ofNat twoPieces = some s ∧ s.Safe header24 UInt8.ofNat := by
  refine ⟨_, rfl, ?_⟩
  have hrun : readMessageBody header24 UInt8.ofNat twoPieces = some _ := rfl
  exact (readMessageBody_safe_iff hrun).mpr ⟨by decide, fun h => absurd h (by decide)⟩

/-- The first `recv` fails and the second delivers five bytes: the function returns as if the body were
complete, with the second byte of the stream behind the header. -/
theorem failedRecv_shifts :
    ∃ s, readMessageBody header24 UInt8.ofNat [.recv .error, .recv (.bytes 5)] = some s ∧
      s.phase = .returned 4 .connected ∧ s.buff 20 = 1 ∧ ¬ s.Safe header24 UInt8.ofNat := by
  refine ⟨_, rfl, ?_⟩
  refine ⟨by decide, by decide, fun hsafe => ?_⟩
  rcases hsafe.2 4 .connected (by decide) with h | h | h
  · cases h
  · cases h
  · exact absurd (h 20 (by decide) (by decide)) (by decide)

end DiaProxy
