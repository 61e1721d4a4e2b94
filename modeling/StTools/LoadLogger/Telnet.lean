import StTools.Lib.WhileLoop
import Mathlib.Data.List.Basic
import Mathlib.Data.Int.Notation

/-!
# The answers of a telnet host

`CTelnet` of the load logger sends a command and receives what the host answers, up to the prompt.
`recv_answer` stores what each `recv` delivers behind the rest, until the newest piece ends with the
prompt, and then splits everything into lines.

The buffer is the list of the characters that were stored in it.  Pointers into it become the lists that
start there, up to and with the character that ends the string.
-/

namespace LoadLogger

/-- A piece of text. -/
abbrev Text := List Char

/-- The character that ends a string. -/
def nul : Char := Char.ofNat 0

/-- A `char*` taken for a string. -/
def cString (ptr : Text) : Text := ptr.takeWhile (· ≠ nul)

/-! ## Lines -/

/-- `get_line`: whether a line end was found, the line before it, and what is left of the text. -/
def getLine (theLines : Text) : Bool × Text × Text :=
  let rpos := theLines.findIdx? (· = '\r')
  let npos := theLines.findIdx? (· = '\n')
  match rpos, npos with
  | none, none => (false, theLines, theLines)
  | none, some n => (true, theLines.take n, theLines.drop (n + 1))
  | some r, none => (true, theLines.take r, theLines.drop (r + 1))
  | some r, some n =>
    if n = r + 1 then (true, theLines.take r, theLines.drop (n + 1))
    else if n < r then (true, theLines.take n, theLines.drop (n + 1))
    else (true, theLines.take r, theLines.drop (r + 1))

/-- The characters that are skipped behind a line. -/
def skipped (c : Char) : Bool := c = '\n' ∨ c = '\r' ∨ c = '\t' ∨ c = nul ∨ c = ' '

/-- The variables of `split_into_lines`; `pbuff` is what is left up to `theLine[theLength]`. -/
structure Split where
  /-- From `pbuff` on. -/
  pbuff : Text
  /-- The number of lines that were stored. -/
  lcount : ℕ
  /-- The lines of the caller. -/
  theLines : List Text
  deriving Repr, DecidableEq

/-- Store a line of more than one character: the vector gets the size `lcount`, and the line is its last
element. -/
def Split.store (s : Split) (tmpLine : Text) : Split :=
  if 1 < tmpLine.length then
    { s with lcount := s.lcount + 1, theLines := s.theLines.take s.lcount ++ [tmpLine] }
  else s

/-- One pass of `split_into_lines`. -/
def splitPass (s : Split) : Split ⊕ List Text :=
  if 1 < s.pbuff.length then
    match getLine (cString s.pbuff) with
    | (true, tmpLine, _) =>
      .inl { s.store tmpLine with pbuff := (s.pbuff.drop tmpLine.length).dropWhile skipped }
    | (false, tmpLine, _) => .inr (s.store tmpLine).theLines
  else .inr s.theLines

/-- `split_into_lines`.  Every pass that goes on skips a line end at least. -/
def splitIntoLines (theLine : Text) (theLines : List Text) : List Text :=
  (WhileLoop.run splitPass (theLine.length + 1) ⟨theLine, 0, theLines⟩).getD theLines

/-! ## Answers -/

/-- `m_prompt`, as it is set when the logger starts. -/
def prompt : Text := ['>', ' ']

/-- `MaxBufSizeC`. -/
def maxBufSizeC : ℕ := 0x300000

/-- `MaxRecvRetriesC`. -/
def maxRecvRetriesC : ℕ := 5

/-- The first place from `pos` on where the prompt stands at the end of the `theLength` characters. -/
def findPrompt (theLength : ℕ) : ℕ → Text → Option ℕ
  | _, [] => none
  | pos, c :: cs =>
    if prompt <+: c :: cs ∧ theLength = pos + prompt.length then some pos
    else findPrompt theLength (pos + 1) cs

/-- `remove_prompt`: where the prompt stands that is removed. -/
def removePrompt (theLine : Text) (theLength : ℕ) : Option ℕ :=
  if theLength < prompt.length then none else findPrompt theLength 0 (cString theLine)

/-- What `select` and `recv` find. -/
inductive Received
  /-- Characters. -/
  | chunk (cs : Text)
  /-- The host has closed the connection, or it is broken. -/
  | failed
  /-- Nothing for as long as `select` waits. -/
  | timeout
  deriving Repr, DecidableEq

/-- The variables of `recv_answer`. -/
structure RecvAnswer where
  /-- What was stored in `m_buf`; `pbuf` points behind it, and `toret` is its length. -/
  buf : Text
  /-- The passes without characters since the last ones. -/
  retries : ℕ
  /-- The lines of the caller. -/
  theAnswer : List Text
  /-- What was returned. -/
  result : Option ℤ
  /-- Ghost: the greatest offset in `m_buf` that was written. -/
  written : ℕ
  deriving Repr, DecidableEq

/-- The call, with what the vector of the caller holds. -/
def RecvAnswer.start (theAnswer : List Text) : RecvAnswer where
  buf := []
  retries := 0
  theAnswer := theAnswer
  result := none
  written := 0

/-- One pass of `recv_answer`, or `none` if it has returned. -/
def RecvAnswer.pass (s : RecvAnswer) (e : Received) : Option RecvAnswer :=
  match s.result with
  | some _ => none
  | none =>
    match e with
    | .chunk [] => some { s with result := some (-1) }
    | .chunk (c :: cs) =>
      let buf := s.buf ++ (c :: cs)
      let stored := { s with buf := buf, retries := 0, written := buf.length }
      match removePrompt (c :: cs ++ [nul]) (c :: cs).length with
      | some pos =>
        let theLine := (buf ++ [nul]).set (s.buf.length + pos) nul
        some { stored with
          theAnswer := splitIntoLines theLine s.theAnswer, result := some buf.length }
      | none => some stored
    | .failed => some { s with result := some (-1) }
    | .timeout =>
      if s.retries + 1 < maxRecvRetriesC then some { s with retries := s.retries + 1 }
      else some { s with retries := s.retries + 1, result := some (-1) }

end LoadLogger
