import StTools.Lib.WhileLoop
import Mathlib.Data.List.Basic
import Mathlib.Data.Int.Notation
import Mathlib.Algebra.BigOperators.Group.List.Basic
import Mathlib.Algebra.Ring.Nat

/-!
# Telnet negotiation

`CTelnet::negotiate` answers the commands that a telnet host sends in front of its text.  Its loop looks at
the command at the input pointer, writes an answer behind the output pointer, and moves both pointers and
the two counters by hand.

It takes every option for three bytes and every sub-negotiation for six or ten, whatever has been received.
`consumes_iff` says for which input the pointers and the counters agree in the end.
-/

namespace Telnet

/-- A byte. -/
abbrev Byte := UInt8

/-! ## Commands and options -/

def tEcho : Byte := 0x01
def tSuppressGoAhead : Byte := 0x03
def tTerminalType : Byte := 0x18
def tWindowSize : Byte := 0x1f
def tSe : Byte := 240
def tGoAhead : Byte := 249
def tSb : Byte := 250
def tWill : Byte := 251
def tWont : Byte := 252
def tDo : Byte := 253
def tDont : Byte := 254
def tIac : Byte := 255

/-- The options that `negotiate` sets. -/
structure Options where
  hostWillEcho : Bool
  doEcho : Bool
  hostWillSgh : Bool
  deriving DecidableEq

/-- The size of the window. -/
structure WindowSize where
  width : UInt16
  height : UInt16
  deriving DecidableEq

/-- `getWindowSize`. -/
def WindowSize.get (w : WindowSize) : List Byte :=
  [(w.width >>> 8).toUInt8, w.width.toUInt8, (w.height >>> 8).toUInt8, w.height.toUInt8]

/-- `setWindowSize`, with the received bytes from `size` on. -/
def WindowSize.set : List Byte → Option WindowSize
  | a :: b :: c :: d :: _ => some ⟨(a.toUInt16 <<< 8) + b.toUInt16, (c.toUInt16 <<< 8) + d.toUInt16⟩
  | _ => none

/-! ## The loop -/

/-- The variables of `negotiate`. -/
structure Negotiation where
  /-- The received bytes from `ibuff` on. -/
  ibuff : List Byte
  /-- How far `ibuff` has moved. -/
  advanced : ℕ
  len : ℤ
  /-- What was written to `outbuff`; `obuff` points behind it. -/
  out : List Byte
  toret : ℤ
  done : Bool
  options : Options
  window : WindowSize
  deriving DecidableEq

/-- The pointers and the counters move, and an answer is written. -/
def Negotiation.next (advance : ℕ) (used : ℤ) (answer : List Byte) (told : ℤ) (s : Negotiation) :
    Negotiation :=
  { s with
    ibuff := s.ibuff.drop advance
    advanced := s.advanced + advance
    len := s.len - used
    out := s.out ++ answer
    toret := s.toret + told }

namespace Negotiation

variable (s : Negotiation)

/-- A sub-negotiation; `none` when a byte is read that was not received. -/
def subnegotiation : List Byte → Option Negotiation
  | opt :: x :: rest =>
    if opt = tTerminalType then
      if x = 0 then some (s.next 10 10 [] 0)
      else some (s.next 6 6 [tIac, tSb, tTerminalType, 0, 65, 78, 83, 73, tIac, tSe] 10)
    else if opt = tWindowSize then
      if x = 0 then (WindowSize.set rest).map fun w => { s with window := w }.next 10 10 [] 0
      -- `len` is not counted down
      else some (s.next 6 0 ([tIac, tSb, tWindowSize, 0] ++ s.window.get ++ [tIac, tSe]) 10)
    else if x = 0 then some (s.next 10 10 [] 0)
    else some (s.next 6 6 [tIac, tWont, opt] 3)
  | _ => none

/-- The host will use an option. -/
def hostWill (opt : Byte) : Negotiation :=
  if opt = tEcho then
    { s with options := { s.options with hostWillEcho := true } }.next 3 3 [tIac, tDo, tEcho] 3
  else if opt = tSuppressGoAhead then
    { s with options := { s.options with hostWillSgh := true } }.next 3 3 [tIac, tDo, tSuppressGoAhead] 3
  else if opt = tWindowSize then s.next 3 3 [tIac, tDont, tWindowSize] 3
  else s.next 3 3 [tIac, tDont, opt] 3

/-- The host does not use an option. -/
def hostWont (opt : Byte) : Negotiation :=
  if opt = tEcho then { s with options := { s.options with hostWillEcho := false } }.next 3 3 [] 0
  else s.next 3 3 [] 0

/-- The host asks for an option. -/
def hostDo (opt : Byte) : Negotiation :=
  if opt = tEcho then
    { s with options := { s.options with doEcho := true } }.next 3 3 [tIac, tWill, tEcho] 3
  else if opt = tTerminalType then s.next 3 3 [tIac, tWill, tTerminalType] 3
  else if opt = tWindowSize then
    s.next 3 3 ([tIac, tWill, tWindowSize] ++ [tIac, tSb, tWindowSize] ++ s.window.get ++ [tIac, tSe]) 12
  else s.next 3 3 [tIac, tWont, opt] 3

/-- The host asks not to use an option. -/
def hostDont (opt : Byte) : Negotiation :=
  if opt = tEcho then
    { s with options := { s.options with doEcho := false } }.next 3 3 [tIac, tWont, tEcho] 3
  else if opt = tWindowSize then s.next 3 3 [tIac, tWont, tWindowSize] 3
  else s.next 3 3 [tIac, tWont, opt] 3

/-- The loop goes on behind a command, unless a byte was read that was not received. -/
def goOn : Option Negotiation → Negotiation ⊕ Option Negotiation
  | none => .inr none
  | some s => .inl s

/-- One pass of the loop. -/
def pass : Negotiation ⊕ Option Negotiation :=
  if s.len ≤ 0 then .inr (some { s with done := false })
  else
    match s.ibuff with
    | [] => .inr none
    | first :: rest =>
      if first ≠ tIac then .inr (some { s with done := true })
      else
        match rest with
        | [] => .inr none
        | cmd :: rest =>
          if cmd = tSb then goOn (s.subnegotiation rest)
          else if cmd = tWill then goOn (rest.head?.map s.hostWill)
          else if cmd = tWont then goOn (rest.head?.map s.hostWont)
          else if cmd = tDo then goOn (rest.head?.map s.hostDo)
          else if cmd = tDont then goOn (rest.head?.map s.hostDont)
          else .inr (some { s with done := true })

end Negotiation

/-- The variables when `negotiate` is called. -/
def start (options : Options) (window : WindowSize) (done : Bool) (input : List Byte) : Negotiation where
  ibuff := input
  advanced := 0
  len := input.length
  out := []
  toret := 0
  done := done
  options := options
  window := window

/-- What `negotiate` returns; `none` when it reads a byte that was not received. -/
def Negotiates (s : Negotiation) (r : Option Negotiation) : Prop :=
  if s.len < 1 then r = some s else WhileLoop.Returns Negotiation.pass s r

/-! ## What should be consumed -/

/-- The bytes of a sub-negotiation behind its option, up to `IAC SE` or the end of the input.  A doubled
`IAC` is a byte of the parameters, and the sub-negotiation is broken off in front of another command. -/
def parameterLength : List Byte → ℕ
  | [] => 0
  | [_] => 1
  | a :: b :: rest =>
    if a ≠ tIac then 1 + parameterLength (b :: rest)
    else if b = tSe then 2
    else if b = tIac then 2 + parameterLength rest
    else 0

/-- The bytes of the command that the input begins with, complete or cut at the end of the input; 0 when
it begins with no command. -/
def commandLength : List Byte → ℕ
  | [] => 0
  | [a] => if a = tIac then 1 else 0
  | a :: b :: rest =>
    if a ≠ tIac then 0
    else if tSe ≤ b ∧ b ≤ tGoAhead then 2
    else if b ∈ [tWill, tWont, tDo, tDont] then 2 + (rest.take 1).length
    else if b = tSb then 2 + (rest.take 1).length + parameterLength (rest.drop 1)
    else 0

/-- The bytes of the first `n` commands. -/
def commandBytesOf : (n : ℕ) → List Byte → ℕ
  | 0, _ => 0
  | n + 1, input =>
    if commandLength input = 0 then 0
    else commandLength input + commandBytesOf n (input.drop (commandLength input))

/-- How many bytes stand in front of the first one that is not part of a command. -/
def commandBytes (input : List Byte) : ℕ := commandBytesOf input.length input

/-- The size of the buffer for the answers. -/
def answerSize : ℕ := 0xffff

/-- **Consuming what is reported**: `negotiate` returns without reading more than was received, the pointers
and the counters agree, the answers fit, and it stops where the commands end. -/
def Consumes (options : Options) (window : WindowSize) (done : Bool) (input : List Byte) : Prop :=
  ∃ r, Negotiates (start options window done input) (some r) ∧ r.len = input.length - r.advanced ∧
    0 ≤ r.len ∧ r.toret = r.out.length ∧ r.out.length < answerSize ∧ r.advanced = commandBytes input

/-! ## What is consumed -/

/-- The blocks of bytes for which the pointers and the counters move together. -/
inductive Handled : List Byte → Prop
  /-- An option. -/
  | option {cmd opt : Byte} : cmd ∈ [tWill, tWont, tDo, tDont] → Handled [tIac, cmd, opt]
  /-- A sub-negotiation of six bytes, but not for the size of the window. -/
  | send {opt x a b : Byte} : x ≠ 0 → opt ≠ tWindowSize → Handled [tIac, tSb, opt, x, a, b]
  /-- A sub-negotiation of ten bytes. -/
  | value {opt a b c d e f : Byte} : Handled [tIac, tSb, opt, 0, a, b, c, d, e, f]

/-- The length of the answer to a block. -/
def answerLength : List Byte → ℕ
  | [_, cmd, opt] => if cmd = tWont then 0 else if cmd = tDo ∧ opt = tWindowSize then 12 else 3
  | [_, _, opt, _, _, _] => if opt = tTerminalType then 10 else 3
  | _ => 0

/-! ## One pass -/

variable {s s' r : Negotiation} {b input rest : List Byte}

/-- What a pass does that goes on: the pointers and counters move, `len` as far as `ibuff` unless nothing
is taken off it. -/
structure Moves (s s' : Negotiation) (advance : ℕ) (used : ℤ) (n : ℕ) : Prop where
  ibuff : s'.ibuff = s.ibuff.drop advance
  advanced : s'.advanced = s.advanced + advance
  len : s'.len = s.len - used
  out : s'.out.length = s.out.length + n
  toret : s'.toret = s.toret + n

/-- The pointers and the counters move by what is said, if the answer has the length that is told. -/
lemma moves_next {o : Options} {w : WindowSize} {advance n : ℕ} {used : ℤ} {answer : List Byte}
    (h : answer.length = n) :
    Moves s ({ s with options := o, window := w }.next advance used answer n) advance used n := by
  subst h
  exact ⟨rfl, rfl, rfl, List.length_append, rfl⟩

/-- The answers to options. -/
lemma moves_option (opt : Byte) :
    Moves s (s.hostWill opt) 3 3 (answerLength [tIac, tWill, opt]) ∧
    Moves s (s.hostWont opt) 3 3 (answerLength [tIac, tWont, opt]) ∧
    Moves s (s.hostDo opt) 3 3 (answerLength [tIac, tDo, opt]) ∧
    Moves s (s.hostDont opt) 3 3 (answerLength [tIac, tDont, opt]) := by
  refine ⟨?_, ?_, ?_, ?_⟩
  · rw [Negotiation.hostWill]
    split_ifs
    all_goals exact moves_next (n := 3) rfl
  · rw [Negotiation.hostWont]
    split_ifs
    all_goals exact moves_next (n := 0) rfl
  · rw [Negotiation.hostDo]
    split_ifs with hecho hterminal hwindow
    · rw [hecho]
      exact moves_next (n := 3) rfl
    · rw [hterminal]
      exact moves_next (n := 3) rfl
    · rw [hwindow]
      exact moves_next (n := 12) rfl
    · have hanswer : answerLength [tIac, tDo, opt] = 3 := by
        rw [answerLength, if_neg (by decide), if_neg fun h => hwindow h.2]
      rw [hanswer]
      exact moves_next (n := 3) rfl
  · rw [Negotiation.hostDont]
    split_ifs
    all_goals exact moves_next (n := 3) rfl

/-- A pass over an option. -/
lemma pass_option {cmd opt : Byte} (hcmd : cmd ∈ [tWill, tWont, tDo, tDont]) (hlen : 0 < s.len)
    (h : s.ibuff = tIac :: cmd :: opt :: rest) :
    ∃ s', s.pass = .inl s' ∧ Moves s s' 3 3 (answerLength [tIac, cmd, opt]) := by
  have hpos : ¬ s.len ≤ 0 := by omega
  obtain ⟨hwill, hwont, hdo, hdont⟩ := moves_option (s := s) opt
  simp only [List.mem_cons, List.not_mem_nil, or_false] at hcmd
  rw [Negotiation.pass, if_neg hpos, h]
  rcases hcmd with rfl | rfl | rfl | rfl
  · exact ⟨_, rfl, hwill⟩
  · exact ⟨_, rfl, hwont⟩
  · exact ⟨_, rfl, hdo⟩
  · exact ⟨_, rfl, hdont⟩

/-- A pass over a sub-negotiation. -/
lemma pass_subnegotiation (hlen : 0 < s.len) (h : s.ibuff = tIac :: tSb :: rest) :
    s.pass = Negotiation.goOn (s.subnegotiation rest) := by
  have hpos : ¬ s.len ≤ 0 := by omega
  rw [Negotiation.pass, if_neg hpos, h]
  rfl

/-- What a sub-negotiation does. -/
lemma moves_subnegotiation {opt x : Byte} (h : s.subnegotiation (opt :: x :: rest) = some s') :
    (x = 0 ∧ Moves s s' 10 10 0) ∨
    (x ≠ 0 ∧ opt ≠ tWindowSize ∧ Moves s s' 6 6 (if opt = tTerminalType then 10 else 3)) ∨
    (x ≠ 0 ∧ opt = tWindowSize ∧ Moves s s' 6 0 10) := by
  by_cases hterminal : opt = tTerminalType
  · have hwindow : opt ≠ tWindowSize := hterminal ▸ by decide
    rw [Negotiation.subnegotiation, if_pos hterminal] at h
    split_ifs at h with hx
    · obtain rfl := Option.some.inj h
      exact Or.inl ⟨hx, moves_next (n := 0) rfl⟩
    · obtain rfl := Option.some.inj h
      rw [if_pos hterminal]
      exact Or.inr (Or.inl ⟨hx, hwindow, moves_next (n := 10) rfl⟩)
  rw [if_neg hterminal]
  by_cases hwindow : opt = tWindowSize
  · rw [Negotiation.subnegotiation, if_neg hterminal, if_pos hwindow] at h
    by_cases hx : x = 0
    · rw [if_pos hx] at h
      obtain ⟨w, -, rfl⟩ := Option.map_eq_some_iff.mp h
      exact Or.inl ⟨hx, moves_next (n := 0) rfl⟩
    · rw [if_neg hx] at h
      obtain rfl := Option.some.inj h
      exact Or.inr (Or.inr ⟨hx, hwindow, moves_next (n := 10) rfl⟩)
  · rw [Negotiation.subnegotiation, if_neg hterminal, if_neg hwindow] at h
    split_ifs at h with hx
    · obtain rfl := Option.some.inj h
      exact Or.inl ⟨hx, moves_next (n := 0) rfl⟩
    · obtain rfl := Option.some.inj h
      exact Or.inr (Or.inl ⟨hx, hwindow, moves_next (n := 3) rfl⟩)

/-- A sub-negotiation reads four bytes, and eight when it gives the size of the window. -/
lemma isSome_subnegotiation {opt x : Byte} (h : x = 0 → 4 ≤ rest.length) :
    ∃ s', s.subnegotiation (opt :: x :: rest) = some s' := by
  have hset : x = 0 → ∃ w, WindowSize.set rest = some w := fun hx =>
    match rest, h hx with
    | _ :: _ :: _ :: _ :: _, _ => ⟨_, rfl⟩
  rw [Negotiation.subnegotiation]
  split_ifs with hterminal hx hwindow hx hx
  · exact ⟨_, rfl⟩
  · exact ⟨_, rfl⟩
  · obtain ⟨w, hw⟩ := hset hx
    rw [hw]
    exact ⟨_, rfl⟩
  · exact ⟨_, rfl⟩
  · exact ⟨_, rfl⟩
  · exact ⟨_, rfl⟩

/-- A pass over a block. -/
lemma pass_of_handled (hb : Handled b) (h : s.ibuff = b ++ rest) (hlen : 0 < s.len) :
    ∃ s', s.pass = .inl s' ∧ Moves s s' b.length b.length (answerLength b) := by
  cases hb with
  | option hcmd => exact pass_option hcmd hlen h
  | @send opt x a b hx hopt =>
    obtain ⟨s', hs'⟩ : ∃ s', s.subnegotiation (opt :: x :: a :: b :: rest) = some s' :=
      isSome_subnegotiation fun h0 => absurd h0 hx
    have hpass : s.pass = Negotiation.goOn (s.subnegotiation (opt :: x :: a :: b :: rest)) :=
      pass_subnegotiation hlen h
    rw [hpass, hs']
    rcases moves_subnegotiation hs' with ⟨h0, -⟩ | ⟨-, -, hmoves⟩ | ⟨-, hwindow, -⟩
    · exact absurd h0 hx
    · exact ⟨s', rfl, hmoves⟩
    · exact absurd hwindow hopt
  | @value opt a b c d e f =>
    obtain ⟨s', hs'⟩ :
        ∃ s', s.subnegotiation (opt :: 0 :: a :: b :: c :: d :: e :: f :: rest) = some s' :=
      isSome_subnegotiation fun _ => by simp
    have hpass : s.pass =
        Negotiation.goOn (s.subnegotiation (opt :: 0 :: a :: b :: c :: d :: e :: f :: rest)) :=
      pass_subnegotiation hlen h
    rw [hpass, hs']
    rcases moves_subnegotiation hs' with ⟨-, hmoves⟩ | ⟨h0, -⟩ | ⟨h0, -⟩
    · exact ⟨s', rfl, hmoves⟩
    · exact absurd rfl h0
    · exact absurd rfl h0

lemma eq_some_of_goOn {o : Option Negotiation} (h : Negotiation.goOn o = .inl s') : o = some s' := by
  cases o with
  | none => cases h
  | some s => exact congrArg some (Sum.inl.inj h)

/-- What the loop goes on behind. -/
lemma ibuff_of_pass (h : s.pass = .inl s') :
    0 < s.len ∧ ∃ cmd opt rest, s.ibuff = tIac :: cmd :: opt :: rest ∧
    (cmd ∈ [tWill, tWont, tDo, tDont] ∨ cmd = tSb ∧ s.subnegotiation (opt :: rest) = some s') := by
  rw [Negotiation.pass] at h
  split_ifs at h with hlen
  refine ⟨by omega, ?_⟩
  cases hbuff : s.ibuff with
  | nil => simp [hbuff] at h
  | cons first l =>
    simp only [hbuff] at h
    split_ifs at h with hfirst
    obtain rfl := not_not.mp hfirst
    cases l with
    | nil => cases h
    | cons cmd l =>
      have hoption : ∀ f : Byte → Negotiation, Negotiation.goOn (l.head?.map f) = .inl s' →
          cmd ∈ [tWill, tWont, tDo, tDont] →
          ∃ cmd' opt rest, tIac :: cmd :: l = tIac :: cmd' :: opt :: rest ∧
            (cmd' ∈ [tWill, tWont, tDo, tDont] ∨
              cmd' = tSb ∧ s.subnegotiation (opt :: rest) = some s') := by
        intro f hf hcmd
        cases l with
        | nil => cases hf
        | cons opt rest => exact ⟨cmd, opt, rest, rfl, Or.inl hcmd⟩
      simp only at h
      split_ifs at h with hsb hwill hwont hdo hdont
      · have hsub := eq_some_of_goOn h
        cases l with
        | nil => cases hsub
        | cons opt rest => exact ⟨cmd, opt, rest, rfl, Or.inr ⟨hsb, hsub⟩⟩
      · exact hoption _ h (by simp [hwill])
      · exact hoption _ h (by simp [hwont])
      · exact hoption _ h (by simp [hdo])
      · exact hoption _ h (by simp [hdont])

/-- A pass that goes on: over a block, if all its bytes were received, or without counting down `len`. -/
lemma moves_of_pass (h : s.pass = .inl s') : ∃ advance n, 0 < advance ∧
    (Moves s s' advance 0 n ∨
    (Moves s s' advance advance n ∧ (advance ≤ s.ibuff.length →
      Handled (s.ibuff.take advance) ∧ answerLength (s.ibuff.take advance) = n))) := by
  obtain ⟨hlen, cmd, opt, rest, hbuff, hcmd | ⟨rfl, hsub⟩⟩ := ibuff_of_pass h
  · obtain ⟨s₁, hpass, hmoves⟩ := pass_option hcmd hlen hbuff
    obtain rfl := Sum.inl.inj (h.symm.trans hpass)
    refine ⟨3, _, by decide, Or.inr ⟨hmoves, fun _ => ?_⟩⟩
    rw [hbuff]
    exact ⟨.option hcmd, rfl⟩
  · cases rest with
    | nil => cases hsub
    | cons x rest =>
      rcases moves_subnegotiation hsub with ⟨rfl, hmoves⟩ | ⟨hx, hopt, hmoves⟩ | ⟨-, -, hmoves⟩
      · refine ⟨10, _, by decide, Or.inr ⟨hmoves, fun hle => ?_⟩⟩
        rw [hbuff] at hle ⊢
        match rest, hle with
        | a :: b :: c :: d :: e :: f :: _, _ => exact ⟨.value, rfl⟩
      · refine ⟨6, _, by decide, Or.inr ⟨hmoves, fun hle => ?_⟩⟩
        rw [hbuff] at hle ⊢
        match rest, hle with
        | a :: b :: _, _ => exact ⟨.send hx hopt, rfl⟩
      · exact ⟨6, _, by decide, Or.inl hmoves⟩

/-- The loop is left as it stands. -/
lemma eq_of_exit (h : s.pass = .inr (some r)) : ∃ d, r = { s with done := d } := by
  have hgoOn : ∀ o, Negotiation.goOn o ≠ .inr (some r) := by
    rintro (_ | s')
    · exact fun h => nomatch h
    · exact fun h => nomatch h
  rw [Negotiation.pass] at h
  split_ifs at h
  · exact ⟨false, (Option.some.inj (Sum.inr.inj h)).symm⟩
  · split at h
    · cases h
    · split_ifs at h
      · exact ⟨true, (Option.some.inj (Sum.inr.inj h)).symm⟩
      · split at h
        · cases h
        · split_ifs at h
          all_goals first
            | exact absurd h (hgoOn _)
            | exact ⟨true, (Option.some.inj (Sum.inr.inj h)).symm⟩

/-! ## Runs of the loop -/

/-- What the loop has done when it returns, by induction on the passes: `len` and the pointer never come
closer to each other again, and when they have kept their distance the loop has passed over blocks. -/
lemma blocks_of_run {n : ℕ} (h : WhileLoop.run Negotiation.pass n s = some (some r)) :
    s.len + s.advanced ≤ r.len + r.advanced ∧ r.len ≤ s.len ∧
    r.toret - r.out.length = s.toret - s.out.length ∧
    (r.len + r.advanced = s.len + s.advanced → 0 ≤ r.len → s.len = s.ibuff.length →
      ∃ blocks : List (List Byte), (∀ b ∈ blocks, Handled b) ∧
        r.advanced = s.advanced + blocks.flatten.length ∧
        blocks.flatten <+: s.ibuff ∧ r.out.length = s.out.length + (blocks.map answerLength).sum) := by
  induction n generalizing s with
  | zero => cases h
  | succ n ih =>
    cases hpass : s.pass with
    | inr q =>
      rw [WhileLoop.run_succ_of_exit hpass] at h
      obtain rfl := Option.some.inj h
      obtain ⟨d, rfl⟩ := eq_of_exit hpass
      refine ⟨Int.le_refl _, Int.le_refl _, rfl, fun _ _ _ =>
        ⟨[], fun _ h => absurd h List.not_mem_nil, rfl, ?_, rfl⟩⟩
      exact List.nil_prefix
    | inl s' =>
      rw [WhileLoop.run_succ_of_continue hpass] at h
      obtain ⟨hmono, hlen, htold, hblocks⟩ := ih h
      obtain ⟨advance, k, hpos, hmoves | ⟨hmoves, hhandled⟩⟩ := moves_of_pass hpass
      · have hadvanced := hmoves.advanced
        have hused := hmoves.len
        have hout := hmoves.out
        have htoret := hmoves.toret
        refine ⟨by omega, by omega, by omega, fun hkept => ?_⟩
        omega
      · have hadvanced := hmoves.advanced
        have hused := hmoves.len
        have hout := hmoves.out
        have htoret := hmoves.toret
        refine ⟨by omega, by omega, by omega, fun hkept hnonneg hall => ?_⟩
        have hle : advance ≤ s.ibuff.length := by omega
        obtain ⟨hblock, hanswer⟩ := hhandled hle
        obtain ⟨blocks, hbs, hend, hprefix, hsum⟩ := hblocks (by omega) hnonneg (by
          rw [hmoves.ibuff, List.length_drop]
          omega)
        refine ⟨s.ibuff.take advance :: blocks, List.forall_mem_cons.mpr ⟨hblock, hbs⟩, ?_, ?_, ?_⟩
        · rw [List.flatten_cons, List.length_append, List.length_take, Nat.min_eq_left hle]
          omega
        · rw [List.flatten_cons]
          conv_rhs => rw [← List.take_append_drop advance s.ibuff]
          exact (List.prefix_append_right_inj _).mpr (hmoves.ibuff ▸ hprefix)
        · rw [List.map_cons, List.sum_cons, hanswer]
          omega

/-- The loop ends where no command begins. -/
lemma exit_of_commandLength (h : commandLength s.ibuff = 0) (hlen : s.len = s.ibuff.length) :
    ∃ d, s.pass = .inr (some { s with done := d }) := by
  rw [Negotiation.pass]
  split_ifs with hpos
  · exact ⟨false, rfl⟩
  match hbuff : s.ibuff with
  | [] =>
    rw [hbuff, List.length_nil] at hlen
    omega
  | first :: l =>
    simp only
    split_ifs with hfirst
    · exact ⟨true, rfl⟩
    obtain rfl := not_not.mp hfirst
    match l with
    | [] =>
      rw [hbuff] at h
      cases h
    | cmd :: rest =>
      rw [hbuff, commandLength, if_neg (not_not.mpr rfl)] at h
      split_ifs at h with htwo hoption hsb
      · omega
      · omega
      · have hcmd : cmd ≠ tWill ∧ cmd ≠ tWont ∧ cmd ≠ tDo ∧ cmd ≠ tDont := by
          simpa using hoption
        simp only [hsb, hcmd.1, hcmd.2.1, hcmd.2.2.1, hcmd.2.2.2, if_false]
        exact ⟨true, rfl⟩

/-- The loop passes over blocks, by induction on them. -/
lemma returns_of_blocks {blocks : List (List Byte)} (hblocks : ∀ b ∈ blocks, Handled b)
    (h : s.ibuff = blocks.flatten ++ rest) (hlen : s.len = s.ibuff.length) (hrest : commandLength rest = 0) :
    ∃ r, WhileLoop.Returns Negotiation.pass s (some r) ∧ r.len = rest.length ∧
      r.advanced = s.advanced + blocks.flatten.length ∧
      r.out.length = s.out.length + (blocks.map answerLength).sum ∧
      r.toret = s.toret + (blocks.map answerLength).sum := by
  induction blocks generalizing s with
  | nil =>
    obtain ⟨d, hexit⟩ := exit_of_commandLength (s := s) (by rw [h]; exact hrest) hlen
    refine ⟨_, (WhileLoop.returns_of_exit hexit).mpr rfl, ?_, rfl, rfl, ?_⟩
    · rw [hlen, h]
      rfl
    · simp
  | cons b blocks ih =>
    obtain ⟨hb, hbs⟩ := List.forall_mem_cons.mp hblocks
    rw [List.flatten_cons, List.append_assoc] at h
    have hpos : 0 < b.length := by
      cases hb
      all_goals exact Nat.succ_pos _
    have hlength : s.ibuff.length = b.length + (blocks.flatten ++ rest).length := by
      rw [h, List.length_append]
    obtain ⟨s', hpass, hmoves⟩ := pass_of_handled hb h (by omega)
    have hbuff : s'.ibuff = blocks.flatten ++ rest := by
      rw [hmoves.ibuff, h, List.drop_left]
    have hadvanced := hmoves.advanced
    have hused := hmoves.len
    have hout := hmoves.out
    have htoret := hmoves.toret
    obtain ⟨r, hreturns, hrlen, hradvanced, hrout, hrtoret⟩ := ih hbs hbuff (by rw [hbuff]; omega)
    refine ⟨r, (WhileLoop.returns_of_continue hpass).mpr hreturns, hrlen, ?_, ?_, ?_⟩
    · rw [List.flatten_cons, List.length_append]
      omega
    · rw [List.map_cons, List.sum_cons]
      omega
    · rw [List.map_cons, List.sum_cons, Int.natCast_add]
      omega

/-! ## The commands of the input -/

lemma parameterLength_le (input : List Byte) : parameterLength input ≤ input.length := by
  induction input using parameterLength.induct with
  | case1 => exact Nat.le_refl 0
  | case2 a => exact Nat.le_refl 1
  | case3 a b rest ha ih =>
    rw [parameterLength, if_pos ha]
    simp only [List.length_cons] at ih ⊢
    omega
  | case4 a rest ha =>
    rw [parameterLength, if_neg ha, if_pos rfl]
    simp only [List.length_cons]
    omega
  | case5 a rest ha hse ih =>
    rw [parameterLength, if_neg ha, if_neg hse, if_pos rfl]
    simp only [List.length_cons]
    omega
  | case6 a b rest ha hse hiac =>
    rw [parameterLength, if_neg ha, if_neg hse, if_neg hiac]
    exact Nat.zero_le _

/-- A command is in the input. -/
lemma commandLength_le (input : List Byte) : commandLength input ≤ input.length := by
  match input with
  | [] => exact Nat.le_refl 0
  | [a] =>
    rw [commandLength]
    split_ifs
    · exact Nat.le_refl 1
    · exact Nat.zero_le _
  | a :: b :: rest =>
    have hbytes : (rest.take 1).length + (rest.drop 1).length = rest.length := by
      rw [← List.length_append, List.take_append_drop]
    have hparameters := parameterLength_le (rest.drop 1)
    rw [commandLength, List.length_cons, List.length_cons]
    split_ifs
    all_goals omega

/-- The commands are in the input, and no command begins behind them. -/
lemma commandBytesOf_spec {n : ℕ} (h : input.length ≤ n) :
    commandBytesOf n input ≤ input.length ∧ commandLength (input.drop (commandBytesOf n input)) = 0 := by
  induction n generalizing input with
  | zero =>
    obtain rfl : input = [] := List.eq_nil_of_length_eq_zero (Nat.le_zero.mp h)
    exact ⟨Nat.le_refl 0, rfl⟩
  | succ n ih =>
    rw [commandBytesOf]
    split_ifs with hzero
    · exact ⟨Nat.zero_le _, hzero⟩
    · have hle := commandLength_le input
      have hshorter : (input.drop (commandLength input)).length ≤ n := by
        rw [List.length_drop]
        omega
      obtain ⟨hrest, hend⟩ := ih hshorter
      rw [List.length_drop] at hrest
      rw [List.drop_drop] at hend
      exact ⟨by omega, hend⟩

/-! ## The whole call -/

/-- The loop always ends: a pass that goes on takes bytes off what is still to be read. -/
lemma exists_returns (s : Negotiation) : ∃ q, WhileLoop.Returns Negotiation.pass s q := by
  have hsome : (WhileLoop.run Negotiation.pass (s.ibuff.length + 1) s).isSome := by
    refine WhileLoop.run_isSome_of_measure (I := fun _ => True) (fun s => s.ibuff.length) ?_ trivial
      (Nat.lt_succ_self _)
    intro s s' _ hpass
    obtain ⟨-, cmd, opt, rest, hbuff, -⟩ := ibuff_of_pass hpass
    obtain ⟨advance, n, hpos, hmoves⟩ := moves_of_pass hpass
    have hdrop : s'.ibuff = s.ibuff.drop advance := by
      rcases hmoves with hmoves | ⟨hmoves, -⟩
      · exact hmoves.ibuff
      · exact hmoves.ibuff
    have hlength : s.ibuff.length = rest.length + 3 := by
      rw [hbuff]
      rfl
    refine ⟨trivial, ?_⟩
    simp only [hdrop, List.length_drop]
    omega
  obtain ⟨q, hq⟩ := Option.isSome_iff_exists.mp hsome
  exact ⟨q, _, hq⟩

variable {options : Options} {window : WindowSize} {done : Bool} {blocks : List (List Byte)}

lemma start_len_lt_one_iff : (start options window done input).len < 1 ↔ input = [] := by
  rw [← List.length_eq_zero_iff]
  simp only [start]
  omega

/-- When the pointers and the counters agree in the end, the loop has passed over blocks. -/
lemma blocks_of_consumes (h : Consumes options window done input) : ∃ blocks : List (List Byte),
    blocks.flatten = input.take (commandBytes input) ∧ (∀ b ∈ blocks, Handled b) ∧
    (blocks.map answerLength).sum < answerSize := by
  obtain ⟨r, hr, hlen, hnonneg, -, hfits, hstop⟩ := h
  rw [Negotiates] at hr
  split_ifs at hr with hempty
  · rw [start_len_lt_one_iff] at hempty
    subst hempty
    exact ⟨[], rfl, fun _ h => absurd h List.not_mem_nil, by decide⟩
  · obtain ⟨n, hn⟩ := hr
    obtain ⟨-, -, -, hblocks⟩ := blocks_of_run hn
    have hkept : r.len + r.advanced =
        (start options window done input).len + (start options window done input).advanced := by
      simp only [start]
      omega
    obtain ⟨blocks, hbs, hadvanced, hprefix, hout⟩ := hblocks hkept hnonneg rfl
    have hadvanced' : r.advanced = blocks.flatten.length := by
      rw [hadvanced]
      exact Nat.zero_add _
    have hout' : r.out.length = (blocks.map answerLength).sum := by
      rw [hout]
      exact Nat.zero_add _
    refine ⟨blocks, ?_, hbs, ?_⟩
    · rw [← hstop, hadvanced']
      exact List.prefix_iff_eq_take.mp hprefix
    · rw [← hout']
      exact hfits

/-- When the commands are blocks, the loop passes over them and stops. -/
lemma consumes_of_blocks (hflatten : blocks.flatten = input.take (commandBytes input))
    (hblocks : ∀ b ∈ blocks, Handled b) (hfits : (blocks.map answerLength).sum < answerSize) :
    Consumes options window done input := by
  by_cases hempty : (start options window done input).len < 1
  · have hnil := start_len_lt_one_iff.mp hempty
    subst hnil
    refine ⟨start options window done [], ?_, rfl, Int.le_refl 0, rfl, ?_, rfl⟩
    · rw [Negotiates, if_pos hempty]
    · exact Nat.succ_pos _
  obtain ⟨hle, hend⟩ := commandBytesOf_spec (Nat.le_refl input.length)
  change commandBytes input ≤ input.length at hle
  have hinput : input = blocks.flatten ++ input.drop (commandBytes input) := by
    rw [hflatten, List.take_append_drop]
  have hlength : blocks.flatten.length = commandBytes input := by
    rw [hflatten, List.length_take]
    exact Nat.min_eq_left hle
  obtain ⟨r, hreturns, hrlen, hadvanced, hout, htoret⟩ :=
    returns_of_blocks (s := start options window done input) hblocks hinput rfl hend
  have hadvanced' : r.advanced = commandBytes input := by
    rw [hadvanced, hlength]
    exact Nat.zero_add _
  have hout' : r.out.length = (blocks.map answerLength).sum := by
    rw [hout]
    exact Nat.zero_add _
  have htoret' : r.toret = (blocks.map answerLength).sum := by
    rw [htoret]
    exact Int.zero_add _
  rw [List.length_drop] at hrlen
  refine ⟨r, ?_, by omega, by omega, by omega, by omega, hadvanced'⟩
  rw [Negotiates, if_neg hempty]
  exact hreturns

/-- **What `negotiate` consumes.**  The pointers and the counters agree in the end if and only if the leading
commands are a sequence of the blocks whose lengths it knows and the answers fit. -/
theorem consumes_iff (options : Options) (window : WindowSize) (done : Bool) (input : List Byte) :
    Consumes options window done input ↔ ∃ blocks : List (List Byte),
      blocks.flatten = input.take (commandBytes input) ∧ (∀ b ∈ blocks, Handled b) ∧
      (blocks.map answerLength).sum < answerSize := by
  constructor
  · exact blocks_of_consumes
  · rintro ⟨blocks, hflatten, hblocks, hfits⟩
    exact consumes_of_blocks hflatten hblocks hfits

/-- What the loop returns within some passes decides. -/
lemma result_of_consumes {q : Option Negotiation} (n : ℕ) (h : Consumes options window done input) (hinput : input ≠ [])
    (hrun : WhileLoop.run Negotiation.pass n (start options window done input) = some q) :
    ∃ r, q = some r ∧ r.len = input.length - r.advanced ∧ 0 ≤ r.len := by
  obtain ⟨r, hr, hlen, hnonneg, -⟩ := h
  rw [Negotiates, if_neg (mt start_len_lt_one_iff.mp hinput)] at hr
  exact ⟨r, WhileLoop.Returns.unique ⟨n, hrun⟩ hr, hlen, hnonneg⟩

/-- The options of a new `CTelnet`. -/
def Options.initial : Options := ⟨false, false, true⟩

/-- The window of a new `CTelnet`. -/
def WindowSize.initial : WindowSize := ⟨500, 20⟩

/-- The pointer and `len` come apart behind a request for the size of the window, `len` falls below 0 behind
a request that is cut, and an option is read that was not received. -/
theorem not_consumes :
    ¬ Consumes .initial .initial false [tIac, tSb, tWindowSize, 1, tIac, tSe, 97] ∧
    ¬ Consumes .initial .initial false [tIac, tSb, tTerminalType, 1] ∧
    ¬ Consumes .initial .initial false [tIac, tDo] := by
  refine ⟨fun h => ?_, fun h => ?_, fun h => ?_⟩
  · obtain ⟨r, hr, hlen, -⟩ := result_of_consumes 2 h (by decide) rfl
    obtain rfl := Option.some.inj hr
    exact absurd hlen (by decide)
  · obtain ⟨r, hr, -, hnonneg⟩ := result_of_consumes 2 h (by decide) rfl
    obtain rfl := Option.some.inj hr
    exact absurd hnonneg (by decide)
  · obtain ⟨r, hr, -⟩ := result_of_consumes 1 h (by decide) rfl
    cases hr

end Telnet
