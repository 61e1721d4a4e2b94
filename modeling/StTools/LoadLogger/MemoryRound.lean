import StTools.LoadLogger.Telnet
import Mathlib.Data.UInt

/-!
# A round of memory readings

`HandlePeriodicTimeout` asks one processor after the other for its usage of memory.  It takes whatever
the vector of answers holds after `recv_answer`, without looking at what this has returned: after a
time-out these are the lines of the processor before, and behind a late answer every processor is given
the values of another.  A line that is missing leaves -1 in its place.

Every line carries, as a ghost, the processor whose answer it is from; `attributed_iff` says in which
rounds all values that are logged are those of their processor.
-/

namespace LoadLogger

/-! ## Reading an answer -/

/-- A line of the vector of answers. -/
structure Line where
  /-- The characters. -/
  text : Text
  /-- Ghost: the processor whose answer in this round has the line, if it is from such an answer. -/
  source : Option ℕ
  deriving Repr, DecidableEq

/-- A value with, as a ghost, the source of the line it was read from. -/
structure Usage where
  /-- The value. -/
  value : ℤ
  /-- Ghost: where it was read. -/
  source : Option ℕ
  deriving Repr, DecidableEq

/-- The value that stands for no value. -/
def Usage.missing : Usage := ⟨-1, none⟩

/-- The characters that `atoi` skips. -/
def isSpace (c : Char) : Bool := c = ' ' ∨ (9 ≤ c.toNat ∧ c.toNat ≤ 13)

/-- The digits at the start of a text as a number. -/
def digitsValue (t : Text) : ℕ :=
  (t.takeWhile Char.isDigit).foldl (fun n c => n * 10 + (c.toNat - '0'.toNat)) 0

/-- `atoi`. -/
def atoi (t : Text) : ℤ :=
  match t.dropWhile isSpace with
  | '-' :: cs => -digitsValue cs
  | '+' :: cs => digitsValue cs
  | cs => digitsValue cs

/-- What `find` looks for in a line of the database. -/
def dbnKey : Text := "DBN Memory Usage:".toList

/-- What `find` looks for in the other line. -/
def memKey : Text := "Memory Usage:".toList

/-- The loop over the lines, which is left at the first one of the database: `mem` and `dbn`. -/
def readUsage (mem : Usage) : List Line → Usage × Usage
  | [] => (mem, .missing)
  | l :: ls =>
    if dbnKey <:+: l.text then (mem, ⟨atoi (l.text.drop 17), l.source⟩)
    else if memKey <:+: l.text then readUsage ⟨atoi (l.text.drop 13), l.source⟩ ls
    else readUsage mem ls

/-! ## The round -/

/-- What happens when it is a processor's turn. -/
structure Turn where
  /-- The operator has asked for the end. -/
  shutdown : Bool
  /-- `send_cmd` succeeds. -/
  sent : Bool
  /-- The lines that `recv_answer` stores; there are none when it times out or the answer is empty. -/
  received : List Line
  deriving Repr, DecidableEq

/-- A call of `logMemory`. -/
structure LogMemory where
  /-- The processor. -/
  proc : ℕ
  /-- The number of the reading, an `unsigned int`. -/
  reading : UInt32
  /-- The memory, as an `unsigned int`. -/
  mem : UInt32
  /-- The memory of the database, as an `unsigned int`. -/
  dbn : UInt32
  /-- Ghost: where the memory was read. -/
  memSource : Option ℕ
  /-- Ghost: where the memory of the database was read. -/
  dbnSource : Option ℕ
  deriving Repr, DecidableEq

/-- The state of a round. -/
structure Round where
  /-- The vector of answers. -/
  myAnswer : List Line
  /-- `m_readings`, an `unsigned int`. -/
  readings : UInt32
  /-- What was logged. -/
  logged : List LogMemory
  /-- The last element of an empty vector was removed; what the program does then is undefined. -/
  undefined : Bool
  deriving Repr, DecidableEq

/-- The call of `logMemory` for a processor. -/
def Round.logMemory (s : Round) (i : ℕ) (usage : Usage × Usage) : LogMemory where
  proc := i
  reading := s.readings + 1
  mem := .ofInt usage.1.value
  dbn := .ofInt usage.2.value
  memSource := usage.1.source
  dbnSource := usage.2.source

/-- `HandlePeriodicTimeout` from the turn of the processor `i` on. -/
def handlePeriodicTimeout (i : ℕ) (s : Round) : List Turn → Round
  | [] => s
  | t :: ts =>
    if t.shutdown then s
    else if ¬ t.sent then s
    else
      let myAnswer := if t.received = [] then s.myAnswer else t.received
      if myAnswer = [] then { s with undefined := true }
      else
        let lines := myAnswer.dropLast
        let usage := readUsage .missing lines
        handlePeriodicTimeout (i + 1)
          { s with
            myAnswer := lines
            readings := s.readings + 1
            logged := s.logged ++ [s.logMemory i usage] } ts

/-- The start of a round. -/
def Round.start (readings : UInt32) : Round where
  myAnswer := []
  readings := readings
  logged := []
  undefined := false

/-- Everything that was logged was read from the answer of its processor. -/
def Round.Attributed (s : Round) : Prop :=
  s.undefined = false ∧
    ∀ l ∈ s.logged, l.memSource = some l.proc ∧ l.dbnSource = some l.proc

/-- The turns of a round; answers are received when they were asked for, or later. -/
structure Turns where
  /-- One turn for each processor. -/
  turns : List Turn
  /-- No line is from the answer of a processor that was not asked yet. -/
  causal : ∀ (i : ℕ) (t : Turn), turns[i]? = some t → ∀ l ∈ t.received, ∀ j, l.source = some j → j ≤ i

/-- The turns that are taken: the round ends when the operator asks for it or a command is not sent. -/
def Turns.taken (r : Turns) : List Turn := r.turns.takeWhile fun t => !t.shutdown && t.sent

/-- Lines from which both values of a processor are read: the first line of the database is from its
answer, and so is the last other line with a usage before it. -/
def Complete (i : ℕ) (lines : List Line) : Prop :=
  ∃ before d after m, lines = before ++ d :: after ∧ dbnKey <:+: d.text ∧ d.source = some i ∧
    (∀ l ∈ before, ¬ dbnKey <:+: l.text) ∧
    (before.filter fun l => memKey <:+: l.text).getLast? = some m ∧ m.source = some i

/-! ## What a turn logs -/

section

variable {i : ℕ} {ls : List Line} {mem : Usage}

/-- Where the memory was read: the last line with a usage, or before. -/
lemma readUsage_fst_source (mem : Usage) {before : List Line} (after : List Line) {d : Line}
    (hd : dbnKey <:+: d.text) (hbefore : ∀ l ∈ before, ¬ dbnKey <:+: l.text) :
    (readUsage mem (before ++ d :: after)).1.source =
        ((before.filter fun l => memKey <:+: l.text).getLast?.map Line.source).getD mem.source ∧
      (readUsage mem (before ++ d :: after)).2.source = d.source := by
  induction before generalizing mem with
  | nil =>
    rw [List.nil_append, readUsage, if_pos hd]
    exact ⟨rfl, rfl⟩
  | cons l ls ih =>
    obtain ⟨hl, hls⟩ := List.forall_mem_cons.mp hbefore
    rw [List.cons_append, readUsage, if_neg hl]
    by_cases hm : memKey <:+: l.text
    · rw [if_pos hm, List.filter_cons_of_pos (by simpa using hm), List.getLast?_cons]
      refine (ih _ hls).imp_left fun h => h.trans ?_
      cases (ls.filter fun l => memKey <:+: l.text).getLast? <;> rfl
    · rw [if_neg hm, List.filter_cons_of_neg (by simpa using hm)]
      exact ih _ hls

/-- Without a line of the database, no value of it is read. -/
lemma readUsage_snd_of_none (mem : Usage) (h : ∀ l ∈ ls, ¬ dbnKey <:+: l.text) :
    (readUsage mem ls).2 = .missing := by
  induction ls generalizing mem with
  | nil => rfl
  | cons l ls ih =>
    obtain ⟨hl, hls⟩ := List.forall_mem_cons.mp h
    rw [readUsage, if_neg hl]
    split_ifs
    · exact ih _ hls
    · exact ih _ hls

/-- Both values are those of the processor exactly when the lines are complete. -/
lemma readUsage_sources_iff : (readUsage .missing ls).1.source = some i ∧
    (readUsage .missing ls).2.source = some i ↔ Complete i ls := by
  constructor
  · rintro ⟨hmem, hdbn⟩
    -- the first line of the database splits the lines
    cases hfind : ls.find? fun l : Line => dbnKey <:+: l.text with
    | none =>
      have hnone : ∀ l ∈ ls, ¬ dbnKey <:+: l.text := by simpa using hfind
      rw [readUsage_snd_of_none _ hnone] at hdbn
      cases hdbn
    | some d =>
      obtain ⟨hd, before, after, rfl, hbefore⟩ := List.find?_eq_some_iff_append.mp hfind
      simp only [decide_eq_true_eq, Bool.not_eq_true', decide_eq_false_iff_not] at hd hbefore
      obtain ⟨hfst, hsnd⟩ := readUsage_fst_source .missing after hd hbefore
      rw [hfst] at hmem
      cases hlast : (before.filter fun l => memKey <:+: l.text).getLast? with
      | none =>
        rw [hlast] at hmem
        cases hmem
      | some m =>
        rw [hlast] at hmem
        exact ⟨before, d, after, m, rfl, hd, hsnd.symm.trans hdbn, hbefore, hlast, hmem⟩
  · rintro ⟨before, d, after, m, rfl, hd, hsource, hbefore, hlast, hm⟩
    obtain ⟨hfst, hsnd⟩ := readUsage_fst_source .missing after hd hbefore
    rw [hfst, hsnd, hlast]
    exact ⟨hm, hsource⟩

end

/-! ## The round -/

/-- The lines of the vector are from processors before `i`. -/
def Round.Older (i : ℕ) (s : Round) : Prop := ∀ l ∈ s.myAnswer, ∀ j, l.source = some j → j < i

lemma not_complete_nil (i : ℕ) : ¬ Complete i [] := by
  rintro ⟨before, d, after, m, hnil, -⟩
  exact absurd hnil (by simp)

/-- Lines of other answers are not complete. -/
lemma Complete.exists_source {i : ℕ} {ls : List Line} (h : Complete i ls) :
    ∃ l ∈ ls, l.source = some i := by
  obtain ⟨before, d, after, m, rfl, -, hsource, -⟩ := h
  exact ⟨d, by simp, hsource⟩

/-- The vector after `recv_answer`: the lines that were received, or else what it held. -/
def Round.answer (s : Round) (t : Turn) : List Line :=
  if t.received = [] then s.myAnswer else t.received

/-- The lines that a turn reads. -/
def Round.lines (s : Round) (t : Turn) : List Line := (s.answer t).dropLast

/-- The lines that a turn reads are complete exactly when the received ones are. -/
lemma Round.Older.complete_iff {i : ℕ} {s : Round} (holder : s.Older i) (t : Turn) :
    Complete i (s.lines t) ↔ Complete i t.received.dropLast := by
  unfold Round.lines Round.answer
  split_ifs with hempty
  · rw [hempty]
    refine iff_of_false (fun hcomplete => ?_) (not_complete_nil i)
    obtain ⟨l, hl, hsource⟩ := hcomplete.exists_source
    exact absurd (holder l (List.mem_of_mem_dropLast hl) i hsource) (lt_irrefl i)
  · exact Iff.rfl

/-- The state after a turn that is taken. -/
def Round.next (s : Round) (i : ℕ) (t : Turn) : Round :=
  { s with
    myAnswer := s.lines t
    readings := s.readings + 1
    logged := s.logged ++ [s.logMemory i (readUsage .missing (s.lines t))] }

/-- A turn that is taken leaves undefined what happens, or logs and goes on. -/
lemma handlePeriodicTimeout_cons {i : ℕ} {s : Round} {t : Turn} (hshutdown : t.shutdown = false)
    (hsent : t.sent = true) (ts : List Turn) :
    handlePeriodicTimeout i s (t :: ts) =
      if s.answer t = [] then { s with undefined := true }
      else handlePeriodicTimeout (i + 1) (s.next i t) ts := by
  rw [handlePeriodicTimeout, if_neg (by simp [hshutdown]), if_neg (by simp [hsent])]
  rfl

/-- A turn that is not taken ends the round. -/
lemma handlePeriodicTimeout_of_not_taken {i : ℕ} {s : Round} {t : Turn}
    (h : ¬ (t.shutdown = false ∧ t.sent = true)) (ts : List Turn) :
    handlePeriodicTimeout i s (t :: ts) = s := by
  rw [handlePeriodicTimeout]
  by_cases hshutdown : t.shutdown = true
  · rw [if_pos hshutdown]
  · have hsent : ¬ t.sent = true := fun hsent => h ⟨by simpa using hshutdown, hsent⟩
    rw [if_neg hshutdown, if_pos hsent]

/-- What is logged stays logged. -/
lemma mem_logged {l : LogMemory} {i : ℕ} {s : Round} {ts : List Turn} (h : l ∈ s.logged) :
    l ∈ (handlePeriodicTimeout i s ts).logged := by
  induction ts generalizing i s with
  | nil => exact h
  | cons t ts ih =>
    by_cases htaken : t.shutdown = false ∧ t.sent = true
    · rw [handlePeriodicTimeout_cons htaken.1 htaken.2]
      split
      · exact h
      · exact ih (List.mem_append_left _ h)
    · rwa [handlePeriodicTimeout_of_not_taken htaken]

/-- The turns from the processor `i` on are attributed exactly when all that are taken deliver complete
lines. -/
lemma attributed_from_iff {i : ℕ} {s : Round} {ts : List Turn} (holder : s.Older i)
    (hs : s.Attributed)
    (hcausal : ∀ (k : ℕ) (t : Turn), ts[k]? = some t →
      ∀ l ∈ t.received, ∀ j, l.source = some j → j ≤ i + k) :
    (handlePeriodicTimeout i s ts).Attributed ↔
      ∀ (k : ℕ) (t : Turn), (ts.takeWhile fun t => !t.shutdown && t.sent)[k]? = some t →
        Complete (i + k) t.received.dropLast := by
  induction ts generalizing i s with
  | nil =>
    refine iff_of_true hs fun k t ht => ?_
    cases ht
  | cons t ts ih =>
    by_cases htaken : t.shutdown = false ∧ t.sent = true
    swap
    · rw [handlePeriodicTimeout_of_not_taken htaken,
        List.takeWhile_cons_of_neg (by simpa using htaken)]
      refine iff_of_true hs fun k u hu => ?_
      cases hu
    obtain ⟨hshutdown, hsent⟩ := htaken
    rw [List.takeWhile_cons_of_pos (by simp [hshutdown, hsent]),
      handlePeriodicTimeout_cons hshutdown hsent]
    by_cases hcomplete : Complete i (s.lines t)
    · have hne : s.answer t ≠ [] := by
        intro hempty
        rw [Round.lines, hempty] at hcomplete
        exact not_complete_nil i hcomplete
      have holder' : (s.next i t).Older (i + 1) := by
        intro l hl j hj
        have hl' : l ∈ s.answer t := List.mem_of_mem_dropLast hl
        unfold Round.answer at hl'
        split_ifs at hl'
        · exact (holder l hl' j hj).trans (Nat.lt_succ_self i)
        · exact Nat.lt_succ_of_le (hcausal 0 t rfl l hl' j hj)
      have hs' : (s.next i t).Attributed := by
        refine ⟨hs.1, fun l hl => ?_⟩
        rcases List.mem_append.mp hl with hl | hl
        · exact hs.2 l hl
        · rw [List.mem_singleton] at hl
          rw [hl]
          exact readUsage_sources_iff.mpr hcomplete
      have hcausal' : ∀ (k : ℕ) (u : Turn), ts[k]? = some u →
          ∀ l ∈ u.received, ∀ j, l.source = some j → j ≤ i + 1 + k := by
        intro k u hu l hl j hj
        have hle := hcausal (k + 1) u hu l hl j hj
        omega
      rw [if_neg hne, ih holder' hs' hcausal']
      constructor
      · intro h k u hu
        cases k with
        | zero =>
          cases hu
          exact (holder.complete_iff t).mp hcomplete
        | succ k =>
          rw [← Nat.add_assoc, Nat.add_right_comm]
          exact h k u hu
      · intro h k u hu
        rw [Nat.add_right_comm]
        exact h (k + 1) u hu
    · refine iff_of_false ?_ fun h => hcomplete ((holder.complete_iff t).mpr (h 0 t rfl))
      split_ifs with hempty
      · exact fun h => nomatch h.1
      · -- the wrong values are logged
        intro h
        have hlast : s.logMemory i (readUsage .missing (s.lines t)) ∈ (s.next i t).logged :=
          List.mem_append_right _ List.mem_cons_self
        exact hcomplete (readUsage_sources_iff.mp (h.2 _ (mem_logged hlast)))

/-- **When the memory readings are attributed.**  All values that a round logs are read from the answer
of their processor exactly when every processor whose command is sent delivers its own complete answer
in its turn. -/
theorem Turns.attributed_iff (r : Turns) (readings : UInt32) :
    (handlePeriodicTimeout 0 (.start readings) r.turns).Attributed ↔
      ∀ (i : ℕ) (t : Turn), r.taken[i]? = some t → Complete i t.received.dropLast := by
  have hstart : (Round.start readings).Attributed := ⟨rfl, fun l hl => nomatch hl⟩
  have holder : (Round.start readings).Older 0 := fun l hl => nomatch hl
  have hcausal : ∀ (k : ℕ) (t : Turn), r.turns[k]? = some t →
      ∀ l ∈ t.received, ∀ j, l.source = some j → j ≤ 0 + k := by
    intro k t ht l hl j hj
    rw [Nat.zero_add]
    exact r.causal k t ht l hl j hj
  have hfrom := attributed_from_iff holder hstart hcausal
  simpa [Turns.taken] using hfrom

/-- The complete answer of a processor, up to the prompt. -/
def fullAnswer (i : ℕ) : List Line :=
  [⟨"Memory Usage: 59".toList, some i⟩, ⟨"DBN Memory Usage: 7".toList, some i⟩,
    ⟨"/CLI/Processors".toList, some i⟩]

/-- The first of two processors answers and the second does not. -/
def timeOut : Turns where
  turns := [⟨false, true, fullAnswer 0⟩, ⟨false, true, []⟩]
  causal := by
    intro i t ht l hl j hj
    match i, ht with
    | 0, ht =>
      cases ht
      simp [fullAnswer] at hl
      rcases hl with rfl | rfl | rfl <;> simp at hj <;> omega
    | 1, ht =>
      cases ht
      cases hl

/-- The values of the first processor are logged for the second, without the last line. -/
theorem timeOut_not_attributed :
    ((handlePeriodicTimeout 0 (.start 0) timeOut.turns).logged.map fun l => (l.proc, l.mem, l.dbn)) =
        [(0, 59, 7), (1, 59, 4294967295)] ∧
      ¬ (handlePeriodicTimeout 0 (.start 0) timeOut.turns).Attributed := by
  refine ⟨by decide +kernel, fun h => ?_⟩
  have hsecond := h.2 ⟨1, 2, 59, 4294967295, some 0, none⟩ (by decide +kernel)
  cases hsecond.2

end LoadLogger
