import Mathlib.Data.List.Forall2
import Mathlib.Algebra.BigOperators.Group.List.Basic
import Mathlib.Tactic.Common
import Mathlib.Algebra.Ring.Nat

/-!
# Test suites

A test suite is a list of test cases with a cursor.  The main loop takes the test cases one after
the other; when a failed one shall be repeated, a clone with one retry less is inserted at the
cursor, and so it is the next.

The second half says what a run of a suite should look like: for every test case of the file the
*attempts* to execute it, each but the last a failure that is repeated.  How many attempts there are
is bounded by the number of retries.
-/

namespace HssRtc

/-! ## Test cases -/

/-- The states of a test case. -/
inductive Status
  | notExecuted
  | running
  | skipped
  | finished
  | notFinished
  deriving DecidableEq

/-- What a test case is created from. -/
structure Definition where
  jsonFile : String
  macroFiles : List String
  mandatory : Bool
  /-- `nof_retries` of the file, or what the setter has put in its place. -/
  nofRetries : ℤ
  reexecution : Bool
  deriving DecidableEq

/-- A test case. -/
structure TestCase extends Definition where
  status : Status
  failureMessages : List String
  skippedMessage : String
  /-- `repeat`: a failure of it asks for a repetition. -/
  repeatFlag : Bool
  reportNotValid : Bool

/-- A mandatory test case without macro files and without retries. -/
def Definition.plain (jsonFile : String) : Definition where
  jsonFile := jsonFile
  macroFiles := []
  mandatory := true
  nofRetries := 0
  reexecution := false

/-- A new test case. -/
def Definition.create (d : Definition) : TestCase where
  toDefinition := d
  status := .notExecuted
  failureMessages := []
  skippedMessage := ""
  repeatFlag := false
  reportNotValid := false

/-- What a clone is created from: the files are read again, and a retry is used up. -/
def Definition.retry (d : Definition) : Definition :=
  { d with nofRetries := d.nofRetries - 1, reexecution := true }

namespace TestCase

/-- `clone`. -/
def clone (t : TestCase) : TestCase := t.toDefinition.retry.create

/-- `shall_repeat`. -/
def shallRepeat (t : TestCase) : Bool := t.nofRetries ≠ 0 && t.repeatFlag

/-- A failure is noted; `repeat` is never taken back. -/
def addFailure (t : TestCase) (message : String) (repeats : Bool) : TestCase :=
  { t with
    failureMessages := t.failureMessages ++ [message]
    repeatFlag := t.repeatFlag || repeats }

/-- `update_status`: a state that is not valid in the current one is ignored. -/
def updateStatus (t : TestCase) (status : Status) (message : String) (repeats : Bool) : TestCase :=
  match status, t.status with
  | .running, .notExecuted => { t with status := .running }
  | .skipped, .notExecuted => { t with skippedMessage := message, status := .skipped }
  | .finished, .running | .notFinished, .running =>
    let t := if message ≠ "" then t.addFailure message repeats else t
    { t with status := status }
  | _, _ => t

/-- A new state of a test case changes nothing that it was created from. -/
@[simp] lemma updateStatus_toDefinition (t : TestCase) (status : Status) (message : String)
    (repeats : Bool) : (t.updateStatus status message repeats).toDefinition = t.toDefinition := by
  unfold updateStatus
  split <;> try rfl
  all_goals
    dsimp only
    split_ifs <;> rfl

end TestCase

/-! ## The suite -/

/-- A test suite. -/
structure TestSuite where
  testCases : List TestCase
  /-- How many were handed out, one more than the index `__current_text_case`. -/
  handedOut : ℕ

namespace TestSuite

/-- The suite of a file, before its first test case. -/
def ofFile (file : List Definition) : TestSuite where
  testCases := file.map Definition.create
  handedOut := 0

/-- `current_text_case`. -/
def currentTextCase (s : TestSuite) : Option TestCase := s.testCases[s.handedOut - 1]?

/-- `next_text_case`. -/
def nextTextCase (s : TestSuite) : Option TestSuite :=
  if s.handedOut < s.testCases.length then some { s with handedOut := s.handedOut + 1 } else none

/-- The current test case changes. -/
def updateCurrent (s : TestSuite) (f : TestCase → TestCase) : TestSuite :=
  { s with testCases := s.testCases.modify (s.handedOut - 1) f }

/-- `repeat_test_case`: a clone of the current test case is the next; the report of the current one
counts as valid again. -/
def repeatTestCase (s : TestSuite) : TestSuite :=
  match s.currentTextCase with
  | none => s
  | some t =>
    let s := s.updateCurrent fun t => { t with reportNotValid := false }
    { s with
      testCases := s.testCases.take s.handedOut ++ t.clone :: s.testCases.drop s.handedOut }

/-- `next_test_case_is_optional`. -/
def nextTestCaseIsOptional (s : TestSuite) : Bool := s.testCases[s.handedOut]?.any fun t => !t.mandatory

/-- `status`: is it `FAILED`? -/
def failed (s : TestSuite) : Bool := s.testCases.any TestCase.reportNotValid

/-- `set_test_suite_execution_status`, forced: for all test cases that have ended. -/
def forceExecutionStatus (s : TestSuite) (failed : Bool) : TestSuite :=
  { s with testCases := s.testCases.map fun t =>
      if t.status = .finished ∨ t.status = .notFinished then { t with reportNotValid := failed }
      else t }

/-- `set_test_suite_execution_status`, for the current test case. -/
def setExecutionStatus (s : TestSuite) (failed : Bool) : TestSuite :=
  s.updateCurrent fun t => { t with reportNotValid := failed }

/-! ### What the test cases were created from -/

variable {s s' : TestSuite}

/-- What the test cases were created from. -/
def definitions (s : TestSuite) : List Definition := s.testCases.map TestCase.toDefinition

/-- A change of the current test case that keeps what it was created from. -/
lemma updateCurrent_definitions {f : TestCase → TestCase}
    (hf : ∀ t, (f t).toDefinition = t.toDefinition) :
    (s.updateCurrent f).definitions = s.definitions := by
  unfold definitions updateCurrent
  apply List.ext_getElem?
  intro i
  simp only [List.getElem?_map, List.getElem?_modify]
  rcases s.testCases[i]? with _ | t
  · rfl
  · split_ifs
    · exact congrArg some (hf t)
    · rfl

/-- A forced status keeps what the test cases were created from. -/
lemma forceExecutionStatus_definitions (failed : Bool) :
    (s.forceExecutionStatus failed).definitions = s.definitions := by
  unfold definitions forceExecutionStatus
  rw [List.map_map]
  apply List.map_congr_left
  intro t _
  simp only [Function.comp_apply]
  split_ifs <;> rfl

/-- The current test case has the definition at the cursor. -/
lemma exists_currentTextCase {d : Definition} (h : s.definitions[s.handedOut - 1]? = some d) :
    ∃ t, s.currentTextCase = some t ∧ t.toDefinition = d := by
  rw [definitions, List.getElem?_map] at h
  exact Option.map_eq_some_iff.mp h

/-- What is pending after a repetition: the clone, and then the same as before. -/
lemma repeatTestCase_definitions {t : TestCase} (h : s.currentTextCase = some t) :
    s.repeatTestCase.definitions = s.definitions.take s.handedOut ++
        t.retry :: s.definitions.drop s.handedOut := by
  have hdefinitions := s.updateCurrent_definitions
    (f := fun t => { t with reportNotValid := false }) fun _ => rfl
  unfold repeatTestCase
  rw [h]
  unfold definitions at hdefinitions ⊢
  dsimp only
  rw [List.map_append, List.map_cons, List.map_take, List.map_drop, hdefinitions]
  rfl

/-- A repetition does not move the cursor. -/
lemma repeatTestCase_handedOut : s.repeatTestCase.handedOut = s.handedOut := by
  unfold repeatTestCase
  split <;> rfl

end TestSuite

/-! ## What a run should look like -/

/-- An attempt to execute a test case. -/
structure Attempt where
  definition : Definition
  /-- It was executed, not skipped. -/
  executed : Bool
  /-- It failed and shall be repeated. -/
  repeated : Bool
  deriving DecidableEq

/-- Failed attempts, each of them repeated, that lead from one definition to another. -/
inductive Failures : Definition → List Attempt → Definition → Prop
  /-- There was no attempt yet. -/
  | nil (d : Definition) : Failures d [] d
  /-- One more attempt has failed and is repeated. -/
  | snoc {d d' : Definition} {as : List Attempt} (h : Failures d as d') (hretry : d'.nofRetries ≠ 0) :
      Failures d (as ++ [⟨d', true, true⟩]) d'.retry

/-- The attempts of a test case: failed ones, and then one that is not repeated. -/
def Attempts (d : Definition) (as : List Attempt) : Prop :=
  ∃ failures d' executed, Failures d failures d' ∧ as = failures ++ [⟨d', executed, false⟩]

/-- Each failed attempt uses up a retry. -/
lemma Failures.nofRetries_eq {d d' : Definition} {as : List Attempt} (h : Failures d as d') :
    d'.nofRetries = d.nofRetries - as.length := by
  induction h with
  | nil => simp
  | snoc h hretry ih =>
    rw [Definition.retry, ih, List.length_append, List.length_singleton]
    push_cast
    omega

/-- There are no more failed attempts than retries. -/
lemma Failures.nofRetries_nonneg {d d' : Definition} {as : List Attempt} (h : Failures d as d')
    (hd : 0 ≤ d.nofRetries) : 0 ≤ d'.nofRetries := by
  induction h with
  | nil => exact hd
  | @snoc d' as h hretry ih =>
    have hpos : 0 ≤ d'.nofRetries := ih
    show 0 ≤ d'.nofRetries - 1
    omega

/-- The number of attempts that a definition allows. -/
def Definition.allowance (d : Definition) : ℕ := d.nofRetries.toNat + 1

/-- There are at most as many failed attempts as retries. -/
lemma Failures.length_lt {d d' : Definition} {as : List Attempt} (h : Failures d as d')
    (hd : 0 ≤ d.nofRetries) : as.length < d.allowance := by
  have hcount := h.nofRetries_eq
  have hnonneg := h.nofRetries_nonneg hd
  unfold Definition.allowance
  omega

/-- There is at most one attempt more than there are retries. -/
lemma Attempts.length_le {d : Definition} {as : List Attempt} (h : Attempts d as)
    (hd : 0 ≤ d.nofRetries) : as.length ≤ d.allowance := by
  obtain ⟨failures, d', executed, hfailures, rfl⟩ := h
  have hlt := hfailures.length_lt hd
  rw [List.length_append, List.length_singleton]
  exact hlt

/-- How far a suite got: all the attempts of the first test cases of the file, in its order, then the
failed attempts of the next one, and what is pending. -/
structure Progress (file : List Definition) (history : List Attempt) (pending : List Definition) :
    Prop where
  /-- The history is made of blocks, one for each test case that is done. -/
  split : ∃ (done rest : List Definition) (blocks : List (List Attempt)) (failures : List Attempt),
    file = done ++ rest ∧ List.Forall₂ Attempts done blocks ∧ history = blocks.flatten ++ failures ∧
      ((rest = [] ∧ failures = [] ∧ pending = []) ∨
        ∃ d rest' d', rest = d :: rest' ∧ Failures d failures d' ∧ pending = d' :: rest')

/-- Before the first test case. -/
lemma Progress.start (file : List Definition) : Progress file [] file where
  split := by
    refine ⟨[], file, [], [], rfl, .nil, rfl, ?_⟩
    rcases file with _ | ⟨d, rest⟩
    · exact Or.inl ⟨rfl, rfl, rfl⟩
    · exact Or.inr ⟨d, rest, d, rfl, .nil d, rfl⟩

/-- A test case is done with an attempt that is not repeated. -/
lemma Progress.finish {file pending : List Definition} {history : List Attempt} {d' : Definition}
    (h : Progress file history (d' :: pending)) (executed : Bool) :
    Progress file (history ++ [⟨d', executed, false⟩]) pending := by
  obtain ⟨done, rest, blocks, failures, hfile, hblocks, hhistory, hlast⟩ := h.split
  obtain ⟨-, -, hnone⟩ | ⟨d, rest', d'', hrest, hfailures, hpending⟩ := hlast
  · cases hnone
  · obtain ⟨rfl, rfl⟩ := List.cons.inj hpending
    have hblock : Attempts d (failures ++ [⟨d', executed, false⟩]) :=
      ⟨failures, d', executed, hfailures, rfl⟩
    refine ⟨done ++ [d], pending, blocks ++ [failures ++ [⟨d', executed, false⟩]], [], ?_, ?_, ?_, ?_⟩
    · rw [hfile, hrest, List.append_assoc, List.singleton_append]
    · exact List.rel_append hblocks (.cons hblock .nil)
    · rw [hhistory, List.flatten_append]
      simp
    · rcases pending with _ | ⟨e, rest''⟩
      · exact Or.inl ⟨rfl, rfl, rfl⟩
      · exact Or.inr ⟨e, rest'', e, rfl, .nil e, rfl⟩

/-- A failed attempt is repeated next. -/
lemma Progress.again {file pending : List Definition} {history : List Attempt} {d' : Definition}
    (h : Progress file history (d' :: pending)) (hretry : d'.nofRetries ≠ 0) :
    Progress file (history ++ [⟨d', true, true⟩]) (d'.retry :: pending) := by
  obtain ⟨done, rest, blocks, failures, hfile, hblocks, hhistory, hlast⟩ := h.split
  obtain ⟨-, -, hnone⟩ | ⟨d, rest', d'', hrest, hfailures, hpending⟩ := hlast
  · cases hnone
  · obtain ⟨rfl, rfl⟩ := List.cons.inj hpending
    refine ⟨done, rest, blocks, failures ++ [⟨d', true, true⟩], hfile, hblocks, ?_, ?_⟩
    · rw [hhistory, List.append_assoc]
    · exact Or.inr ⟨d, pending, d'.retry, hrest, hfailures.snoc hretry, rfl⟩

/-- When nothing is pending, every test case of the file is done. -/
lemma Progress.complete {file : List Definition} {history : List Attempt}
    (h : Progress file history []) :
    ∃ blocks, List.Forall₂ Attempts file blocks ∧ history = blocks.flatten := by
  obtain ⟨done, rest, blocks, failures, hfile, hblocks, hhistory, hlast⟩ := h.split
  obtain ⟨rfl, rfl, -⟩ | ⟨d, rest', d', -, -, hpending⟩ := hlast
  · rw [List.append_nil] at hfile hhistory
    exact ⟨blocks, hfile ▸ hblocks, hhistory⟩
  · cases hpending

/-- The attempts of some test cases are no more than their definitions allow. -/
lemma length_flatten_le {done : List Definition} {blocks : List (List Attempt)}
    (h : List.Forall₂ Attempts done blocks) (hdone : ∀ d ∈ done, 0 ≤ d.nofRetries) :
    blocks.flatten.length ≤ (done.map Definition.allowance).sum := by
  induction h with
  | nil => exact Nat.le_refl 0
  | cons hblock _ ih =>
    have hhead := hblock.length_le (hdone _ List.mem_cons_self)
    have htail := ih fun d hd => hdone d (List.mem_cons_of_mem _ hd)
    rw [List.flatten_cons, List.length_append, List.map_cons, List.sum_cons]
    omega

/-- The number of attempts is bounded by the file. -/
lemma Progress.length_le {file pending : List Definition} {history : List Attempt}
    (h : Progress file history pending) (hfile : ∀ d ∈ file, 0 ≤ d.nofRetries) :
    history.length ≤ (file.map Definition.allowance).sum := by
  obtain ⟨done, rest, blocks, failures, rfl, hblocks, rfl, hlast⟩ := h.split
  have hdone := length_flatten_le hblocks fun d hd => hfile d (List.mem_append_left _ hd)
  rw [List.length_append, List.map_append, List.sum_append]
  obtain ⟨-, rfl, -⟩ | ⟨d, rest', d', rfl, hfailures, -⟩ := hlast
  · simp only [List.length_nil]
    omega
  · have hd : 0 ≤ d.nofRetries := hfile d (List.mem_append_right _ List.mem_cons_self)
    have hlt := hfailures.length_lt hd
    rw [List.map_cons, List.sum_cons]
    omega

end HssRtc
