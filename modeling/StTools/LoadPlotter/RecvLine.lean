import StTools.Lib.WhileLoop
import Mathlib.Data.Int.Notation
import Mathlib.Data.List.Basic
import Mathlib.Algebra.Order.Group.Nat

/-!
# Reading a line

`recvLine` reads a line byte by byte into a buffer.  It gives up when nothing has come for a while or when
the buffer is full, and puts the final 0 in the place of the last byte that it has read, whether this was
the end of a line or not.  When the peer has closed the connection, `read` says so again and again, and
neither the byte nor the two counters change.

`readsLine_iff` says for which results of `read` the function does what it is there for.
-/

namespace LoadPlotter

/-- What `read` returns for one byte. -/
inductive ReadResult
  | byte (b : UInt8)
  /-- The peer has closed the connection. -/
  | closed
  /-- There is nothing to read. -/
  | again
  | error
  deriving Repr, DecidableEq

/-- `BUFFLEN`. -/
def bufflen : ℕ := 65535

/-- The end of a line. -/
def newline : UInt8 := 10

/-- A call of `recvLine`. -/
structure RecvLine where
  /-- `timeout`. -/
  timeout : ℕ
  timeout_pos : 0 < timeout
  /-- What the calls of `read` return, one after the other. -/
  reads : ℕ → ReadResult
  /-- A connection that is closed stays so. -/
  closed_succ : ∀ k, reads k = .closed → reads (k + 1) = .closed
  /-- What is in `buff` before. -/
  buff : ℤ → UInt8

/-- The variables of `recvLine`. -/
structure LineState where
  /-- The calls of `read` so far. -/
  calls : ℕ
  count : ℕ
  acumnread : ℕ
  recv : UInt8
  buff : ℤ → UInt8
  /-- Ghost: the places in `buff` that were written. -/
  writes : List ℤ

/-- What a call leaves behind. -/
structure LineResult where
  /-- The value that is returned. -/
  value : ℤ
  /-- The calls of `read`. -/
  calls : ℕ
  buff : ℤ → UInt8
  /-- Ghost: the places in `buff` that were written. -/
  writes : List ℤ

/-- Write a byte. -/
def LineState.write (s : LineState) (i : ℤ) (b : UInt8) : LineState :=
  { s with buff := fun j => if j = i then b else s.buff j, writes := i :: s.writes }

/-- Store a byte that was read. -/
def LineState.store (s : LineState) (b : UInt8) : LineState :=
  { s.write s.acumnread b with
    calls := s.calls + 1
    count := 0
    recv := b
    acumnread := s.acumnread + 1 }

/-- What the call leaves behind. -/
def LineState.result (s : LineState) (value : ℤ) : LineResult := ⟨value, s.calls, s.buff, s.writes⟩

namespace RecvLine

variable (c : RecvLine)

/-- The call when the loop begins; the caller has seen that the descriptor is not -1. -/
def start : LineState := LineState.write ⟨0, 0, 0, 0, c.buff, []⟩ 0 0

/-- One pass of the loop, or what follows it. -/
def pass (s : LineState) : LineState ⊕ LineResult :=
  if s.count < c.timeout ∧ s.acumnread < bufflen - 1 ∧ s.recv ≠ newline then
    match c.reads s.calls with
    | .again => .inl { s with calls := s.calls + 1, count := s.count + 1 }
    | .error => .inr (LineState.result { s with calls := s.calls + 1 } (-2))
    | .byte b => .inl (s.store b)
    | .closed =>
      -- what was read before is written again, and the place stays the same
      .inl { s.write s.acumnread s.recv with calls := s.calls + 1, count := 0 }
  else
    .inr ((s.write (s.acumnread - 1) 0).result (if c.timeout ≤ s.count then -1 else s.acumnread))

/-! ## What is asked of the function -/

/-- The bytes that so many calls of `read` have brought. -/
def received (k : ℕ) : List UInt8 :=
  (List.range k).filterMap fun i =>
    match c.reads i with
    | .byte b => some b
    | _ => none

/-- A line without its end. -/
def line (bytes : List UInt8) : List UInt8 :=
  if bytes.getLast? = some newline then bytes.dropLast else bytes

/-- In the last calls of `read` there was nothing to read. -/
def TimedOut (k : ℕ) : Prop := c.timeout ≤ k ∧ ∀ i, k - c.timeout ≤ i → i < k → c.reads i = .again

/-- The last call of `read` has returned this. -/
def Last (r : LineResult) (q : ReadResult) : Prop := ∃ k, r.calls = k + 1 ∧ c.reads k = q

/-- The call has done what it is there for. -/
structure Right (r : LineResult) : Prop where
  /-- It has written inside the buffer. -/
  inside : ∀ i ∈ r.writes, 0 ≤ i ∧ i < bufflen
  /-- It returns -1 on a time-out. -/
  timeout : r.value = -1 → c.TimedOut r.calls
  /-- It returns -2 on an error. -/
  error : r.value = -2 → c.Last r .error
  /-- It returns 0 when the connection is closed. -/
  closed : c.Last r .closed → r.value = 0
  /-- Otherwise the buffer holds the line that was read, with a 0 behind it. -/
  holds : r.value ≠ -1 → r.value ≠ -2 → ¬ c.Last r .closed →
    ∀ (i : ℕ) (b : UInt8), (line (c.received r.calls) ++ [0])[i]? = some b → r.buff i = b

/-- The call ends, and has done what it is there for. -/
def ReadsLine : Prop := ∃ r, WhileLoop.Returns c.pass c.start r ∧ c.Right r

/-- What comes from a call of `read` on, when so many bytes have come and nothing since so many calls:
before the connection is closed there is the end of a line, an error, or a time-out behind some byte.  When
the buffer is full before that, the last byte is 0 and another stands behind it. -/
inductive Ends : (calls acumnread count : ℕ) → Prop
  | timeout {k n count : ℕ} : c.reads k = .again → count + 1 = c.timeout → 0 < n → Ends k n count
  | again {k n count : ℕ} : c.reads k = .again → count + 1 < c.timeout → Ends (k + 1) n (count + 1) →
    Ends k n count
  | error {k n count : ℕ} : c.reads k = .error → Ends k n count
  | lineEnd {k n count : ℕ} : c.reads k = .byte newline → Ends k n count
  | full {k n count : ℕ} : c.reads k = .byte 0 → n + 1 = bufflen - 1 → c.buff n.succ = 0 → Ends k n count
  | byte {k n count : ℕ} {b : UInt8} : c.reads k = .byte b → b ≠ newline → n + 1 < bufflen - 1 →
    Ends (k + 1) (n + 1) 0 → Ends k n count

/-! ## The passes -/

variable {c} {s : LineState} {r : LineResult} {b : UInt8}

/-- What the loop knows in front of a call of `read`. -/
structure Inv (c : RecvLine) (s : LineState) : Prop where
  count_lt : s.count < c.timeout
  lt : s.acumnread < bufflen - 1
  recv_ne : s.recv ≠ newline
  inside : ∀ i ∈ s.writes, 0 ≤ i ∧ i < bufflen
  /-- The bytes that have come are counted, -/
  length : (c.received s.calls).length = s.acumnread
  /-- and they are in the buffer. -/
  bytes : ∀ (i : ℕ) (b : UInt8), (c.received s.calls)[i]? = some b → s.buff i = b
  /-- Behind the first place nothing has changed from the next place on. -/
  behind : ∀ i : ℕ, 0 < i → s.acumnread ≤ i → s.buff i = c.buff i
  /-- There was nothing to read in the last calls. -/
  quiet : s.count ≤ s.calls ∧ ∀ i, s.calls - s.count ≤ i → i < s.calls → c.reads i = .again

lemma received_succ (c : RecvLine) (k : ℕ) : c.received (k + 1) = c.received k ++
    match c.reads k with
    | .byte b => [b]
    | _ => [] := by
  unfold received
  rw [List.range_succ, List.filterMap_append]
  congr 1
  cases hread : c.reads k <;> simp [hread]

lemma inv_start (c : RecvLine) : c.Inv c.start where
  count_lt := c.timeout_pos
  lt := show 0 < bufflen - 1 by decide
  recv_ne := show (0 : UInt8) ≠ newline by decide
  inside := by simp [start, LineState.write, bufflen]
  length := rfl
  bytes _ _ h := nomatch h
  behind i hi _ := if_neg (by omega)
  quiet := ⟨Nat.le_refl 0, fun _ _ h => absurd h (Nat.not_lt_zero _)⟩

/-- A pass in front of a call of `read`. -/
lemma Inv.pass_eq (h : c.Inv s) : c.pass s =
    match c.reads s.calls with
    | .again => .inl { s with calls := s.calls + 1, count := s.count + 1 }
    | .error => .inr (LineState.result { s with calls := s.calls + 1 } (-2))
    | .byte b => .inl (s.store b)
    | .closed => .inl { s.write s.acumnread s.recv with calls := s.calls + 1, count := 0 } :=
  if_pos ⟨h.count_lt, h.lt, h.recv_ne⟩

/-- Nothing to read. -/
lemma Inv.again (h : c.Inv s) (hread : c.reads s.calls = .again) (hcount : s.count + 1 < c.timeout) :
    c.Inv { s with calls := s.calls + 1, count := s.count + 1 } := by
  have hreceived : c.received (s.calls + 1) = c.received s.calls := by
    rw [received_succ, hread, List.append_nil]
  refine ⟨hcount, h.lt, h.recv_ne, h.inside, ?_, ?_, h.behind, ?_⟩
  · exact (congrArg List.length hreceived).trans h.length
  · intro i b hi
    exact h.bytes i b (by rwa [← hreceived])
  · refine ⟨Nat.succ_le_succ h.quiet.1, fun i hle hlt => ?_⟩
    dsimp only at hle hlt
    rcases Nat.lt_succ_iff_lt_or_eq.mp hlt with hlt | rfl
    · exact h.quiet.2 i (by omega) hlt
    · exact hread

/-- The bytes behind another one. -/
lemma Inv.received_byte (h : c.Inv s) (hread : c.reads s.calls = .byte b) :
    c.received (s.calls + 1) = c.received s.calls ++ [b] ∧
      (c.received s.calls ++ [b]).length = s.acumnread + 1 ∧
      ∀ (i : ℕ) (d : UInt8), (c.received s.calls ++ [b])[i]? = some d →
        (s.write s.acumnread b).buff i = d := by
  refine ⟨by rw [received_succ, hread], by simp [h.length], fun i d hi => ?_⟩
  unfold LineState.write
  dsimp only
  rcases Nat.lt_trichotomy i s.acumnread with hlt | rfl | hgt
  · rw [if_neg (by omega)]
    rw [List.getElem?_append_left (by rwa [h.length])] at hi
    exact h.bytes i d hi
  · rw [if_pos rfl]
    rw [List.getElem?_append_right h.length.le, h.length, Nat.sub_self] at hi
    exact Option.some.inj hi
  · rw [List.getElem?_eq_none (by simp [h.length]; omega)] at hi
    cases hi

lemma Inv.inside_write (h : c.Inv s) (b : UInt8) :
    ∀ i ∈ (s.write s.acumnread b).writes, 0 ≤ i ∧ i < bufflen := by
  have hlt := h.lt
  refine List.forall_mem_cons.mpr ⟨?_, h.inside⟩
  omega

/-- A byte that ends neither the line nor the buffer. -/
lemma Inv.byte (h : c.Inv s) (hread : c.reads s.calls = .byte b) (hb : b ≠ newline)
    (hlt : s.acumnread + 1 < bufflen - 1) :
    c.Inv (s.store b) := by
  obtain ⟨hreceived, hlength, hbytes⟩ := h.received_byte hread
  rw [← hreceived] at hlength hbytes
  refine ⟨c.timeout_pos, hlt, hb, h.inside_write b, hlength, hbytes, fun i hi hle => ?_,
    ⟨Nat.zero_le _, fun i hle hlt => absurd hlt (Nat.not_lt.mpr hle)⟩⟩
  change s.acumnread + 1 ≤ i at hle
  exact (if_neg (by omega)).trans (h.behind i hi (by omega))

/-! ## How a call ends -/

/-- A call that times out writes in front of the buffer when nothing has come. -/
lemma Inv.right_iff_of_timeout (h : c.Inv s) (hread : c.reads s.calls = .again)
    (hcount : s.count + 1 = c.timeout) :
    (∃ r, WhileLoop.Returns c.pass s r ∧ c.Right r) ↔ 0 < s.acumnread := by
  have hpass := h.pass_eq
  rw [hread] at hpass
  let t : LineState := { s with calls := s.calls + 1, count := s.count + 1 }
  have hexit : c.pass t = .inr ((t.write (s.acumnread - 1) 0).result (-1)) := by
    unfold RecvLine.pass
    rw [if_neg fun hnot => by have := hnot.1; dsimp only [t] at this; omega, if_pos hcount.ge]
  have hreturns : ∀ r, WhileLoop.Returns c.pass s r ↔ r = (t.write (s.acumnread - 1) 0).result (-1) :=
    fun r => (WhileLoop.returns_of_continue hpass).trans (WhileLoop.returns_of_exit hexit)
  simp only [hreturns, exists_eq_left]
  constructor
  · intro hright
    have hplace := (hright.inside (s.acumnread - 1) List.mem_cons_self).1
    omega
  · intro hpos
    have hlt := h.lt
    refine ⟨List.forall_mem_cons.mpr ⟨by omega, h.inside⟩, fun _ => ?_, fun hvalue => ?_, ?_, fun hne => ?_⟩
    · refine ⟨?_, fun i hle hlt => ?_⟩
      · have := h.quiet.1
        change c.timeout ≤ s.calls + 1
        omega
      · change s.calls + 1 - c.timeout ≤ i at hle
        change i < s.calls + 1 at hlt
        rcases Nat.lt_succ_iff_lt_or_eq.mp hlt with hlt | rfl
        · exact h.quiet.2 i (by omega) hlt
        · exact hread
    · exact absurd hvalue (show (-1 : ℤ) ≠ -2 by decide)
    · rintro ⟨k, hk, hclosed⟩
      obtain rfl : s.calls = k := Nat.succ.inj hk
      exact nomatch hread.symm.trans hclosed
    · exact absurd rfl hne

/-- An error. -/
lemma Inv.right_of_error (h : c.Inv s) (hread : c.reads s.calls = .error) :
    ∃ r, WhileLoop.Returns c.pass s r ∧ c.Right r := by
  have hpass := h.pass_eq
  rw [hread] at hpass
  refine ⟨_, (WhileLoop.returns_of_exit hpass).mpr rfl, h.inside, fun hvalue => ?_, fun _ => ?_, ?_,
    fun _ hne => ?_⟩
  · exact absurd hvalue (show (-2 : ℤ) ≠ -1 by decide)
  · exact ⟨s.calls, rfl, hread⟩
  · rintro ⟨k, hk, hclosed⟩
    obtain rfl : s.calls = k := Nat.succ.inj hk
    exact nomatch hread.symm.trans hclosed
  · exact absurd rfl hne

/-- A call in front of a closed connection never ends. -/
lemma Inv.not_returns_of_closed (h : c.Inv s) (hread : c.reads s.calls = .closed) :
    ¬ WhileLoop.Returns c.pass s r := by
  refine WhileLoop.Diverges.not_returns (WhileLoop.diverges_of_invariant
    (I := fun t => t.count < c.timeout ∧ t.acumnread < bufflen - 1 ∧ t.recv ≠ newline ∧
      c.reads t.calls = .closed) ?_ ⟨h.count_lt, h.lt, h.recv_ne, hread⟩)
  rintro t ⟨hcount, hlt, hrecv, hclosed⟩
  refine ⟨{ t.write t.acumnread t.recv with calls := t.calls + 1, count := 0 }, ?_, c.timeout_pos, hlt,
    hrecv, c.closed_succ _ hclosed⟩
  unfold RecvLine.pass
  rw [if_pos ⟨hcount, hlt, hrecv⟩, hclosed]

/-- The call returns behind the byte that it reads next. -/
lemma Inv.returns_of_last (h : c.Inv s) (hread : c.reads s.calls = .byte b)
    (hlast : b = newline ∨ ¬ s.acumnread + 1 < bufflen - 1) :
    WhileLoop.Returns c.pass s r ↔ r = ((s.store b).write s.acumnread 0).result (s.acumnread + 1) := by
  have hpass := h.pass_eq
  rw [hread] at hpass
  refine (WhileLoop.returns_of_continue hpass).trans (WhileLoop.returns_of_exit ?_)
  unfold RecvLine.pass
  rw [if_neg, if_neg (show ¬ c.timeout ≤ (s.store b).count from Nat.not_le.mpr c.timeout_pos)]
  · have hplace : (((s.store b).acumnread : ℕ) : ℤ) - 1 = s.acumnread := by
      simp only [LineState.store]
      omega
    rw [hplace]
    rfl
  · rintro ⟨-, hlt, hne⟩
    exact hlast.elim hne fun hfull => hfull hlt

/-- It has done what it is there for when the buffer holds the line. -/
lemma Inv.right_iff_of_last (h : c.Inv s) (hread : c.reads s.calls = .byte b)
    (hlast : b = newline ∨ ¬ s.acumnread + 1 < bufflen - 1) :
    (∃ r, WhileLoop.Returns c.pass s r ∧ c.Right r) ↔
      ∀ (i : ℕ) (d : UInt8), (line (c.received s.calls ++ [b]) ++ [0])[i]? = some d →
        (if (i : ℤ) = s.acumnread then 0 else (s.write s.acumnread b).buff i) = d := by
  simp only [h.returns_of_last hread hlast, exists_eq_left]
  have hreceived := (h.received_byte hread).1
  have hopen : ¬ c.Last (((s.store b).write s.acumnread 0).result (s.acumnread + 1)) .closed := by
    rintro ⟨k, hk, hclosed⟩
    obtain rfl : s.calls = k := Nat.succ.inj hk
    exact nomatch hread.symm.trans hclosed
  constructor
  · intro hright
    rw [← hreceived]
    exact hright.holds (by simp only [LineState.result]; omega) (by simp only [LineState.result]; omega) hopen
  · intro hholds
    refine ⟨List.forall_mem_cons.mpr ⟨?_, h.inside_write b⟩, fun hvalue => ?_, fun hvalue => ?_,
      fun hclosed => absurd hclosed hopen, fun _ _ _ => ?_⟩
    · exact (h.inside_write b) _ List.mem_cons_self
    · simp only [LineState.result] at hvalue
      omega
    · simp only [LineState.result] at hvalue
      omega
    · change ∀ (i : ℕ) (d : UInt8), (line (c.received (s.calls + 1)) ++ [0])[i]? = some d → _
      rw [hreceived]
      exact hholds

/-- The end of a line. -/
lemma Inv.right_of_lineEnd (h : c.Inv s) (hread : c.reads s.calls = .byte newline) :
    ∃ r, WhileLoop.Returns c.pass s r ∧ c.Right r := by
  refine (h.right_iff_of_last hread (.inl rfl)).mpr fun i d hi => ?_
  have hline : line (c.received s.calls ++ [newline]) = c.received s.calls := by
    unfold line
    rw [if_pos List.getLast?_concat, List.dropLast_concat]
  rw [hline] at hi
  rcases Nat.lt_trichotomy i s.acumnread with hlt | rfl | hgt
  · rw [List.getElem?_append_left (by rwa [h.length])] at hi
    rw [if_neg (by omega)]
    exact (if_neg (by omega)).trans (h.bytes i d hi)
  · rw [List.getElem?_append_right h.length.le, h.length, Nat.sub_self] at hi
    rw [if_pos rfl]
    exact Option.some.inj hi
  · rw [List.getElem?_eq_none (by simp [h.length]; omega)] at hi
    cases hi

/-- A buffer that is full. -/
lemma Inv.right_iff_of_full (h : c.Inv s) (hread : c.reads s.calls = .byte b) (hb : b ≠ newline)
    (hfull : s.acumnread + 1 = bufflen - 1) :
    (∃ r, WhileLoop.Returns c.pass s r ∧ c.Right r) ↔ b = 0 ∧ c.buff s.acumnread.succ = 0 := by
  rw [h.right_iff_of_last hread (.inr hfull.not_lt)]
  obtain ⟨-, hlength, hbytes⟩ := h.received_byte hread
  have hline : line (c.received s.calls ++ [b]) = c.received s.calls ++ [b] := by
    unfold line
    rw [if_neg]
    rw [List.getLast?_concat]
    exact fun heq => hb (Option.some.inj heq)
  rw [hline]
  constructor
  · intro hholds
    constructor
    · have hlast := hholds s.acumnread b (by
        rw [List.getElem?_append_left (by omega), List.getElem?_append_right h.length.le, h.length,
          Nat.sub_self]
        rfl)
      rw [if_pos rfl] at hlast
      exact hlast.symm
    · have hbehind := hholds s.acumnread.succ 0 (by
        rw [List.getElem?_append_right hlength.le, hlength, Nat.sub_self]
        rfl)
      rw [if_neg (by omega)] at hbehind
      rw [← h.behind s.acumnread.succ (by omega) (by omega), ← hbehind]
      exact (if_neg (by omega)).symm
  · rintro ⟨rfl, hzero⟩ i d hi
    rcases Nat.lt_or_ge i (s.acumnread + 1) with hlt | hge
    · rw [List.getElem?_append_left (by omega)] at hi
      have hd := hbytes i d hi
      split
      · rename_i heq
        rw [← hd, heq]
        exact (if_pos rfl).symm
      · exact hd
    · rw [List.getElem?_append_right (by omega), hlength] at hi
      obtain ⟨hlt, hd⟩ := List.getElem?_eq_some_iff.mp hi
      rw [List.length_singleton] at hlt
      obtain rfl : i = s.acumnread + 1 := by omega
      have hval : d = 0 := by
        rw [← hd]
        simp
      rw [if_neg (by omega), hval]
      refine (if_neg (by omega)).trans ?_
      rw [h.behind (s.acumnread + 1) (by omega) (by omega)]
      exact hzero

/-! ## The whole call -/

/-- A call that has done what it is there for got results that end well. -/
lemma Inv.ends {m : ℕ} (h : c.Inv s) (hrun : WhileLoop.run c.pass m s = some r) (hright : c.Right r) :
    c.Ends s.calls s.acumnread s.count := by
  induction m generalizing s with
  | zero => cases hrun
  | succ m ih =>
    have hpass := h.pass_eq
    cases hread : c.reads s.calls with
    | again =>
      rw [hread] at hpass
      rcases Nat.lt_or_eq_of_le h.count_lt with hcount | hcount
      · rw [WhileLoop.run_succ_of_continue hpass] at hrun
        exact .again hread hcount (ih (h.again hread hcount) hrun)
      · exact .timeout hread hcount ((h.right_iff_of_timeout hread hcount).mp ⟨r, ⟨_, hrun⟩, hright⟩)
    | error => exact .error hread
    | closed => exact absurd ⟨_, hrun⟩ (h.not_returns_of_closed hread)
    | byte b =>
      rw [hread] at hpass
      by_cases hb : b = newline
      · exact .lineEnd (hb ▸ hread)
      have hlt := h.lt
      rcases Nat.lt_or_eq_of_le (Nat.le_sub_one_of_lt hlt) with hroom | hfull
      · have hroom' : s.acumnread + 1 < bufflen - 1 := by omega
        rw [WhileLoop.run_succ_of_continue hpass] at hrun
        exact .byte hread hb hroom' (ih (h.byte hread hb hroom') hrun)
      · have hfull' : s.acumnread + 1 = bufflen - 1 := by omega
        obtain ⟨rfl, hzero⟩ := (h.right_iff_of_full hread hb hfull').mp ⟨r, ⟨_, hrun⟩, hright⟩
        exact .full hread hfull' hzero

/-- And a call that gets such results does what it is there for. -/
lemma Ends.right {k n count : ℕ} (hends : c.Ends k n count) (h : c.Inv s) (hcalls : s.calls = k)
    (hacumnread : s.acumnread = n) (hcount : s.count = count) :
    ∃ r, WhileLoop.Returns c.pass s r ∧ c.Right r := by
  induction hends generalizing s with
  | timeout hread hlast hpos =>
    subst hcalls hacumnread hcount
    exact (h.right_iff_of_timeout hread hlast).mpr hpos
  | again hread hlt _ ih =>
    subst hcalls hacumnread hcount
    obtain ⟨r, hreturns, hright⟩ := ih (h.again hread hlt) rfl rfl rfl
    have hpass := h.pass_eq
    rw [hread] at hpass
    exact ⟨r, (WhileLoop.returns_of_continue hpass).mpr hreturns, hright⟩
  | error hread =>
    subst hcalls
    exact h.right_of_error hread
  | lineEnd hread =>
    subst hcalls
    exact h.right_of_lineEnd hread
  | full hread hfull hzero =>
    subst hcalls hacumnread hcount
    exact (h.right_iff_of_full hread (by decide) hfull).mpr ⟨rfl, hzero⟩
  | byte hread hb hlt _ ih =>
    subst hcalls hacumnread hcount
    obtain ⟨r, hreturns, hright⟩ := ih (h.byte hread hb hlt) rfl rfl rfl
    have hpass := h.pass_eq
    rw [hread] at hpass
    exact ⟨r, (WhileLoop.returns_of_continue hpass).mpr hreturns, hright⟩

/-- **When a line is read.**  The call ends, has written inside the buffer and says what has happened, and
leaves the line in the buffer, exactly when before the connection is closed there comes the end of a line,
an error, or a time-out behind some byte, and the buffer has room. -/
theorem readsLine_iff (c : RecvLine) : c.ReadsLine ↔ c.Ends 0 0 0 := by
  constructor
  · rintro ⟨r, ⟨m, hrun⟩, hright⟩
    exact (inv_start c).ends hrun hright
  · intro hends
    exact hends.right (inv_start c) rfl rfl rfl

/-- A peer that has closed the connection. -/
def closedPeer : RecvLine where
  timeout := 250
  timeout_pos := by decide
  reads _ := .closed
  closed_succ _ _ := rfl
  buff _ := 0

/-- The call does not end. -/
theorem closedPeer_not_readsLine :
    WhileLoop.Diverges closedPeer.pass closedPeer.start ∧ ¬ closedPeer.ReadsLine := by
  have hnot : ∀ r, ¬ WhileLoop.Returns closedPeer.pass closedPeer.start r :=
    fun r => (inv_start closedPeer).not_returns_of_closed rfl
  refine ⟨fun m => ?_, fun ⟨r, hreturns, _⟩ => hnot r hreturns⟩
  cases hrun : WhileLoop.run closedPeer.pass m closedPeer.start with
  | none => rfl
  | some r => exact absurd ⟨m, hrun⟩ (hnot r)

end RecvLine

end LoadPlotter
