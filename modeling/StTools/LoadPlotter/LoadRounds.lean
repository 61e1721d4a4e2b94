import StTools.Lib.LabelledSystem
import StTools.Lib.NamedInstances
import Mathlib.Data.Rat.Defs
import Mathlib.Algebra.Order.Field.Rat
import Mathlib.Algebra.BigOperators.Group.List.Basic
import Mathlib.Data.List.Perm.Subperm

/-!
# Loads of several processors

A connection gets lines from all its processors in one stream.  `parseLoadRead_CBA` adds up the loads until
there are as many as there are processors, and then adds their mean to a second sum; when there are as many
of these as `scanSize`, the thread writes their mean to the data file.  Readings are counted, whoever sent
them, and a connection that is lost in between goes on with the sums that it has.

The data file begins with a line that says 0.  A line that says 0 is also written for every attempt to
connect again that fails.

`right_iff_along` says that a value is the mean of one reading per processor as long as no processor is
heard a second time before all have been heard.
-/

namespace LoadPlotter

open LabelledSystem

attribute [local instance] NamedInstances.lawfulBEq_list

/-! ## The sums of a connection -/

/-- What is measured. -/
structure LoadConfig where
  /-- `procFilter`. -/
  procFilter : List (List Char)
  /-- A thread without processors ends. -/
  procFilter_ne : procFilter ≠ []
  /-- `scanSize`. -/
  scanSize : ℕ

/-- A load line, as far as the sums depend on it. -/
structure Reading where
  /-- The processor. -/
  proc : List Char
  /-- The number in the column `%idle`. -/
  idle : ℚ
  deriving DecidableEq

/-- The load. -/
def Reading.load (r : Reading) : ℚ := 100 - r.idle

/-- A value, and the readings since the one before. -/
structure LoadValue where
  value : ℚ
  readings : List Reading

/-- A line of the data file, and the values since the line before. -/
structure DataLine where
  value : ℚ
  values : List LoadValue

/-- The part of a connection and its thread that the loads depend on. -/
structure Rounds where
  /-- The status is `ONLINE`. -/
  online : Bool
  /-- `cba_acc_Load`. -/
  accLoad : ℚ
  /-- `cba_load_cnt`. -/
  loadCnt : ℕ
  /-- `cba_total_Load`. -/
  totalLoad : ℚ
  /-- `cba_round_cnt`. -/
  roundCnt : ℕ
  /-- `totalloadValue`. -/
  totalloadValue : ℚ
  /-- `regulatedloadValue`. -/
  regulatedloadValue : ℚ
  /-- The lines of the data file behind the first. -/
  lines : List DataLine
  /-- Ghost: the readings since the last value. -/
  round : List Reading
  /-- Ghost: the values since the last line. -/
  recent : List LoadValue
  /-- Ghost: all values. -/
  values : List LoadValue

namespace Rounds

/-- A connection when its data file has been opened. -/
def start : Rounds := ⟨true, 0, 0, 0, 0, 0, 0, [], [], [], []⟩

/-- A load is added up. -/
def add (s : Rounds) (r : Reading) : Rounds :=
  { s with
    accLoad := s.accLoad + r.load
    loadCnt := s.loadCnt + 1
    round := s.round ++ [r] }

/-- The mean of the loads is added to `cba_total_Load`. -/
def finish (s : Rounds) : Rounds :=
  let value := s.accLoad / s.loadCnt
  { s with
    totalloadValue := value
    regulatedloadValue := value
    totalLoad := s.totalLoad + value
    roundCnt := s.roundCnt + 1
    loadCnt := 0
    accLoad := 0
    round := []
    recent := s.recent ++ [⟨value, s.round⟩]
    values := s.values ++ [⟨value, s.round⟩] }

/-- `parseLoadRead_CBA` for a load line. -/
def parseLoadRead (c : LoadConfig) (s : Rounds) (r : Reading) : Rounds :=
  if (s.add r).loadCnt = c.procFilter.length then (s.add r).finish else s.add r

/-- Write a line. -/
def writeLine (s : Rounds) (value : ℚ) : Rounds :=
  { s with lines := s.lines ++ [⟨value, s.recent⟩], recent := [] }

/-- What the thread does after `parseLoadRead_CBA`. -/
def plot (c : LoadConfig) (s : Rounds) : Rounds :=
  if s.roundCnt = c.scanSize ∧ c.scanSize ≠ 0 then
    { s.writeLine (s.totalLoad / s.roundCnt) with roundCnt := 0, totalLoad := 0 }
  else s

/-- What happens to a connection. -/
inductive Event
  /-- A line comes; the load, if it is a load line of a processor. -/
  | line (r : Option Reading)
  /-- The connection is lost. -/
  | lost
  /-- It cannot be made again. -/
  | refused
  /-- It is made again. -/
  | connected
  deriving DecidableEq

/-- A step of the thread. -/
def step (c : LoadConfig) (s : Rounds) : Event → Option Rounds
  | .line none => if s.online then some (s.plot c) else none
  | .line (some r) =>
    if s.online ∧ r.proc ∈ c.procFilter then some ((s.parseLoadRead c r).plot c) else none
  | .lost => if s.online then some { s with online := false } else none
  | .refused =>
    -- the data file is not open when no lines are to be written
    if s.online then none else some (if c.scanSize = 0 then s else s.writeLine 0)
  | .connected => if s.online then none else some { s with online := true }

end Rounds

/-! ## What the values and the lines should be -/

/-- The mean load of one reading for each processor. -/
def LoadValue.Fair (c : LoadConfig) (v : LoadValue) : Prop :=
  (v.readings.map Reading.proc).Perm c.procFilter ∧
    v.value = (v.readings.map Reading.load).sum / v.readings.length

/-- The mean of so many values. -/
def DataLine.Fair (c : LoadConfig) (l : DataLine) : Prop :=
  l.values.length = c.scanSize ∧ l.value = (l.values.map LoadValue.value).sum / c.scanSize

namespace Rounds

/-- The values and the lines are what they should be. -/
def Right (c : LoadConfig) (s : Rounds) : Prop :=
  (∀ v ∈ s.values, v.Fair c) ∧ ∀ l ∈ s.lines, l.Fair c

/-- How often a processor was heard since the last value. -/
def heard (s : Rounds) (proc : List Char) : ℕ := (s.round.map Reading.proc).count proc

/-- What happens next is in order: a load line is of a processor that is still missing, and an attempt to
connect again does not fail when lines are to be written. -/
def InOrder (c : LoadConfig) (s : Rounds) : Event → Prop
  | .line none => True
  | .line (some r) => s.heard r.proc < c.procFilter.count r.proc
  | .lost => True
  | .refused => c.scanSize = 0
  | .connected => True

instance (c : LoadConfig) (s : Rounds) : DecidablePred (InOrder c s)
  | .line none => inferInstanceAs (Decidable True)
  | .line (some _) => inferInstanceAs (Decidable (_ < _))
  | .lost => inferInstanceAs (Decidable True)
  | .refused => inferInstanceAs (Decidable (_ = _))
  | .connected => inferInstanceAs (Decidable True)

/-! ## The sums -/

/-- The sums are those of the readings and the values that they stand for. -/
structure Sums (c : LoadConfig) (s : Rounds) : Prop where
  acc : s.accLoad = (s.round.map Reading.load).sum
  cnt : s.loadCnt = s.round.length
  lt : s.loadCnt < c.procFilter.length
  total : s.totalLoad = (s.recent.map LoadValue.value).sum
  rounds : s.roundCnt = s.recent.length

/-- The invariant. -/
structure Inv (c : LoadConfig) (s : Rounds) : Prop extends Sums c s where
  /-- There are not enough values for a line. -/
  ltScan : c.scanSize ≠ 0 → s.roundCnt < c.scanSize
  /-- No processor was heard too often. -/
  missing : ∀ proc, s.heard proc ≤ c.procFilter.count proc
  /-- The values and the lines are what they should be. -/
  right : s.Right c

variable {c : LoadConfig} {s s' : Rounds} {e : Event} {r : Reading}

lemma inv_start (c : LoadConfig) : start.Inv c where
  acc := rfl
  cnt := rfl
  lt := List.length_pos_iff.mpr c.procFilter_ne
  total := rfl
  rounds := rfl
  ltScan h := Nat.pos_of_ne_zero h
  missing _ := Nat.zero_le _
  right := ⟨fun _ h => (nomatch h), fun _ h => (nomatch h)⟩

lemma heard_add (s : Rounds) (r : Reading) (proc : List Char) :
    (s.add r).heard proc = s.heard proc + if r.proc = proc then 1 else 0 := by
  unfold heard add
  rw [List.map_append, List.count_append]
  simp [List.count_singleton]

/-- The sums of the readings, when another is added. -/
lemma Sums.add (h : s.Sums c) (r : Reading) :
    (s.add r).accLoad = ((s.add r).round.map Reading.load).sum ∧
      (s.add r).loadCnt = (s.add r).round.length := by
  unfold Rounds.add
  dsimp only
  rw [h.acc, h.cnt, List.map_append, List.sum_append, List.length_append]
  simp

/-- A value of readings from all processors. -/
lemma fair_of_heard (hacc : s.accLoad = (s.round.map Reading.load).sum) (hcnt : s.loadCnt = s.round.length)
    (hfull : s.loadCnt = c.procFilter.length) (hheard : ∀ proc, s.heard proc ≤ c.procFilter.count proc) :
    LoadValue.Fair c ⟨s.accLoad / s.loadCnt, s.round⟩ := by
  refine ⟨?_, by rw [hacc, hcnt]⟩
  refine List.Subperm.perm_of_length_le (List.subperm_ext_iff.mpr fun proc _ => hheard proc) ?_
  rw [List.length_map, ← hcnt, hfull]

/-- A line with enough values. -/
lemma Sums.fair (h : s.Sums c) (hscan : s.roundCnt = c.scanSize) :
    DataLine.Fair c ⟨s.totalLoad / s.roundCnt, s.recent⟩ := by
  refine ⟨by rw [← h.rounds, hscan], ?_⟩
  dsimp only
  rw [h.total, hscan]

lemma Sums.parseLoadRead (h : s.Sums c) (r : Reading) : (s.parseLoadRead c r).Sums c := by
  obtain ⟨hacc, hcnt⟩ := h.add r
  unfold Rounds.parseLoadRead
  split
  · refine ⟨rfl, rfl, List.length_pos_iff.mpr c.procFilter_ne, ?_, ?_⟩
    · change s.totalLoad + _ = _
      simp only [finish, Rounds.add, List.map_append, List.sum_append, h.total]
      simp
    · change s.roundCnt + 1 = _
      simp only [finish, Rounds.add, List.length_append, h.rounds]
      simp
  · rename_i hnot
    refine ⟨hacc, hcnt, ?_, h.total, h.rounds⟩
    have hlt := h.lt
    change s.loadCnt + 1 ≠ _ at hnot
    change s.loadCnt + 1 < _
    omega

lemma Sums.plot (h : s.Sums c) : (s.plot c).Sums c := by
  unfold Rounds.plot
  split
  · exact ⟨h.acc, h.cnt, h.lt, rfl, rfl⟩
  · exact h

/-- A line is written when there are enough values for it. -/
lemma Right.plot (h : s.Right c) (hsums : s.Sums c) : (s.plot c).Right c := by
  unfold Rounds.plot
  split
  · rename_i hscan
    refine ⟨h.1, fun l hl => ?_⟩
    rcases List.mem_append.mp hl with hl | hl
    · exact h.2 l hl
    · rw [List.mem_singleton.mp hl]
      exact hsums.fair hscan.1
  · exact h

lemma plot_ltScan (h : c.scanSize ≠ 0 → s.roundCnt ≤ c.scanSize) (hne : c.scanSize ≠ 0) :
    (s.plot c).roundCnt < c.scanSize := by
  unfold plot
  split
  · exact Nat.pos_of_ne_zero hne
  · rename_i hnot
    exact lt_of_le_of_ne (h hne) fun heq => hnot ⟨heq, hne⟩

/-- A load line in order. -/
lemma Inv.parseLoadRead (h : s.Inv c) (horder : s.heard r.proc < c.procFilter.count r.proc) :
    (s.parseLoadRead c r).Right c ∧ (∀ proc, (s.parseLoadRead c r).heard proc ≤ c.procFilter.count proc) ∧
      (s.parseLoadRead c r).roundCnt ≤ s.roundCnt + 1 := by
  obtain ⟨hacc, hcnt⟩ := h.toSums.add r
  have hheard : ∀ proc, (s.add r).heard proc ≤ c.procFilter.count proc := by
    intro proc
    rw [heard_add]
    split
    · rename_i heq
      subst heq
      exact horder
    · exact h.missing proc
  unfold Rounds.parseLoadRead
  split
  · rename_i hfull
    refine ⟨⟨fun v hv => ?_, h.right.2⟩, fun _ => Nat.zero_le _, le_rfl⟩
    rcases List.mem_append.mp hv with hv | hv
    · exact h.right.1 v hv
    · rw [List.mem_singleton.mp hv]
      exact fair_of_heard hacc hcnt hfull hheard
  · exact ⟨h.right, hheard, Nat.le_succ _⟩

/-- What happens in order keeps the invariant. -/
lemma Inv.step (h : s.Inv c) (horder : s.InOrder c e) (hstep : s.step c e = some s') : s'.Inv c := by
  cases e with
  | line r =>
    cases r with
    | none =>
      obtain ⟨-, heq⟩ := Option.ite_none_right_eq_some.mp hstep
      obtain rfl := Option.some.inj heq
      refine ⟨h.toSums.plot, plot_ltScan fun hne => (h.ltScan hne).le, ?_, h.right.plot h.toSums⟩
      intro proc
      unfold plot
      split <;> exact h.missing proc
    | some r =>
      obtain ⟨-, heq⟩ := Option.ite_none_right_eq_some.mp hstep
      obtain rfl := Option.some.inj heq
      obtain ⟨hright, hheard, hrounds⟩ := h.parseLoadRead horder
      have hsums := h.toSums.parseLoadRead r
      refine ⟨hsums.plot, plot_ltScan fun hne => ?_, ?_, hright.plot hsums⟩
      · exact hrounds.trans (h.ltScan hne)
      · intro proc
        unfold plot
        split <;> exact hheard proc
  | lost | connected =>
    simp only [Rounds.step] at hstep
    split at hstep
    all_goals cases hstep
    exact ⟨⟨h.acc, h.cnt, h.lt, h.total, h.rounds⟩, h.ltScan, h.missing, h.right⟩
  | refused =>
    simp only [Rounds.step] at hstep
    split at hstep
    · cases hstep
    · have hscan : c.scanSize = 0 := horder
      rw [if_pos hscan] at hstep
      cases hstep
      exact h

/-! ## Processors that are heard too often -/

/-- A processor was heard too often since the last value. -/
def Overheard (c : LoadConfig) (s : Rounds) : Prop := ∃ proc, c.procFilter.count proc < s.heard proc

@[simp] lemma plot_round (c : LoadConfig) (s : Rounds) : (s.plot c).round = s.round := by
  unfold plot
  split <;> rfl

@[simp] lemma plot_loadCnt (c : LoadConfig) (s : Rounds) : (s.plot c).loadCnt = s.loadCnt := by
  unfold plot
  split <;> rfl

@[simp] lemma plot_values (c : LoadConfig) (s : Rounds) : (s.plot c).values = s.values := by
  unfold plot
  split <;> rfl

/-- The next load shows up in the value, or goes with the others. -/
lemma Overheard.parseLoadRead (h : (s.add r).Overheard c) :
    ((s.parseLoadRead c r).plot c).Overheard c ∨ ¬ ((s.parseLoadRead c r).plot c).Right c := by
  obtain ⟨proc, hproc⟩ := h
  unfold Rounds.parseLoadRead
  split
  · right
    intro hright
    have hfair := hright.1 ⟨(s.add r).accLoad / (s.add r).loadCnt, (s.add r).round⟩
      (by simp [finish])
    exact hproc.ne (hfair.1.count_eq proc).symm
  · left
    refine ⟨proc, ?_⟩
    rwa [heard, plot_round]

/-- And so it goes on until there is a value. -/
lemma Overheard.step (h : s.Overheard c) (hstep : s.step c e = some s') :
    s'.Overheard c ∨ ¬ s'.Right c := by
  cases e with
  | line r =>
    cases r with
    | none =>
      obtain ⟨-, heq⟩ := Option.ite_none_right_eq_some.mp hstep
      obtain rfl := Option.some.inj heq
      obtain ⟨proc, hproc⟩ := h
      exact .inl ⟨proc, by rwa [heard, plot_round]⟩
    | some r =>
      obtain ⟨-, heq⟩ := Option.ite_none_right_eq_some.mp hstep
      obtain rfl := Option.some.inj heq
      obtain ⟨proc, hproc⟩ := h
      refine Overheard.parseLoadRead ⟨proc, ?_⟩
      rw [heard_add]
      exact hproc.trans_le (Nat.le_add_right _ _)
  | lost | connected =>
    simp only [Rounds.step] at hstep
    split at hstep
    all_goals cases hstep
    exact .inl h
  | refused =>
    simp only [Rounds.step] at hstep
    split at hstep
    · cases hstep
    · obtain rfl := Option.some.inj hstep
      left
      split <;> exact h

lemma loadCnt_step (h : s.loadCnt = s.round.length) (hstep : s.step c e = some s') :
    s'.loadCnt = s'.round.length := by
  cases e with
  | line r =>
    cases r with
    | none =>
      obtain ⟨-, heq⟩ := Option.ite_none_right_eq_some.mp hstep
      obtain rfl := Option.some.inj heq
      rwa [plot_loadCnt, plot_round]
    | some r =>
      obtain ⟨-, heq⟩ := Option.ite_none_right_eq_some.mp hstep
      obtain rfl := Option.some.inj heq
      rw [plot_loadCnt, plot_round]
      unfold Rounds.parseLoadRead
      split
      · rfl
      · simp [Rounds.add, h]
  | lost | connected =>
    simp only [Rounds.step] at hstep
    split at hstep
    all_goals cases hstep
    exact h
  | refused =>
    simp only [Rounds.step] at hstep
    split at hstep
    · cases hstep
    · obtain rfl := Option.some.inj hstep
      split <;> exact h

/-- A run that ends with a value shows that a processor was heard too often. -/
lemma Overheard.not_throughout {es : List Event} (h : s.Overheard c) (hcnt : s.loadCnt = s.round.length)
    (hexec : exec (Rounds.step c) s es = some s') (hend : s'.loadCnt = 0) :
    ¬ Throughout (Rounds.step c) (Right c) s es := by
  induction es generalizing s with
  | nil =>
    obtain rfl := Option.some.inj hexec
    obtain ⟨proc, hproc⟩ := h
    rw [heard, List.length_eq_zero_iff.mp (hcnt.symm.trans hend)] at hproc
    exact absurd hproc (Nat.not_lt_zero _)
  | cons e es ih =>
    obtain ⟨t, ht, hrest⟩ := exec_cons_eq_some.mp hexec
    rintro ⟨-, hthroughout⟩
    rcases h.step ht with hover | hwrong
    · exact ih hover (loadCnt_step hcnt ht) hrest (hthroughout t ht)
    · exact hwrong (hthroughout t ht).head

/-- An attempt to connect again that fails leaves a line without its values. -/
lemma Inv.not_right_of_refused (h : s.Inv c) (hscan : c.scanSize ≠ 0)
    (hstep : s.step c .refused = some s') : ¬ s'.Right c := by
  simp only [Rounds.step, if_neg hscan] at hstep
  split at hstep
  · cases hstep
  obtain rfl := Option.some.inj hstep
  intro hright
  have hfair := hright.2 ⟨0, s.recent⟩ (by simp [writeLine])
  exact (h.ltScan hscan).ne (h.rounds.trans hfair.1)

/-- A run in which all is right, and which ends with a value, is in order. -/
lemma Inv.along {es : List Event} (h : s.Inv c) (hexec : exec (Rounds.step c) s es = some s')
    (hend : s'.loadCnt = 0) (hright : Throughout (Rounds.step c) (Right c) s es) :
    Along (Rounds.step c) (InOrder c) s es := by
  induction es generalizing s with
  | nil => trivial
  | cons e es ih =>
    obtain ⟨t, ht, hrest⟩ := exec_cons_eq_some.mp hexec
    have hthroughout := hright.2 t ht
    intro t' ht'
    obtain rfl := Option.some.inj (ht.symm.trans ht')
    have horder : s.InOrder c e := by
      by_contra hnot
      cases e with
      | line r =>
        cases r with
        | none => exact hnot trivial
        | some r =>
          have hover : (s.add r).Overheard c := by
            refine ⟨r.proc, ?_⟩
            rw [heard_add, if_pos rfl]
            exact Nat.lt_succ_of_le (Nat.not_lt.mp hnot)
          have hcnt := loadCnt_step h.cnt ht
          obtain ⟨-, heq⟩ := Option.ite_none_right_eq_some.mp ht
          obtain rfl := Option.some.inj heq
          rcases hover.parseLoadRead with hstill | hwrong
          · exact hstill.not_throughout hcnt hrest hend hthroughout
          · exact hwrong hthroughout.head
      | lost | connected => exact hnot trivial
      | refused => exact h.not_right_of_refused hnot ht hthroughout.head
    exact ⟨horder, ih (h.step horder ht) hrest hthroughout⟩

/-- **When the loads are means over the processors.**  In a run in which no processor is heard a second time
before all have been heard, and no attempt to connect again fails, every value is the mean load of one
reading for each processor, and every line the mean of the values since the line before.  In a run that
ends with a value this is so for no other reason. -/
theorem right_iff_along (c : LoadConfig) (es : List Event) :
    (Along (Rounds.step c) (InOrder c) start es → Throughout (Rounds.step c) (Right c) start es) ∧
      ∀ s', exec (Rounds.step c) start es = some s' → s'.loadCnt = 0 →
        Throughout (Rounds.step c) (Right c) start es → Along (Rounds.step c) (InOrder c) start es :=
  ⟨throughout_of_along (I := Inv c) (fun _ _ _ h horder hstep => h.step horder hstep)
    (fun _ h => h.right) (inv_start c), fun _ hexec hend hright => (inv_start c).along hexec hend hright⟩

/-- Two processors, and a line for every value. -/
def twoProcessors : LoadConfig := ⟨["PL-3".toList, "PL-4".toList], by decide, 1⟩

/-- A load of the first processor. -/
def first (idle : ℚ) : Event := .line (some ⟨"PL-3".toList, idle⟩)

/-- One of the second. -/
def second (idle : ℚ) : Event := .line (some ⟨"PL-4".toList, idle⟩)

/-- The two processors are heard by turns, and the connection is lost in between. -/
theorem byTurns_right :
    Throughout (Rounds.step twoProcessors) (Right twoProcessors) start
      [second 90, .lost, .connected, first 80] :=
  (right_iff_along twoProcessors _).1 (by decide)

/-- After the connection was lost, the first processor is heard again before the second. -/
theorem repeated_not_right :
    ¬ Throughout (Rounds.step twoProcessors) (Right twoProcessors) start
      [first 90, .lost, .connected, first 80] := by
  intro h
  obtain ⟨s, hexec, hs⟩ : ∃ s, exec (Rounds.step twoProcessors) start
      [first 90, .lost, .connected, first 80] = some s ∧
        s.values.map (fun v => v.readings.map Reading.proc) = [["PL-3".toList, "PL-3".toList]] :=
    ⟨_, rfl, by decide⟩
  obtain ⟨v, hv, hprocs⟩ := List.mem_map.mp (hs ▸ List.mem_singleton_self ["PL-3".toList, "PL-3".toList])
  have hfair := (h.last hexec).1 v hv
  rw [LoadValue.Fair, hprocs] at hfair
  exact absurd hfair.1 (by decide)

end Rounds

end LoadPlotter
