import StTools.HssRtc.DecimalTimes
import StTools.Lib.RoundTrip

/-!
# Result files

A `JunitFile` has test suites, a suite has test cases, and a test case may have a failure, a skipped
and an error message.  `dump` makes elements of these and writes them to a file, and `load` makes test
cases of the elements of a file.  ElementTree keeps what it is given, except that an empty text comes
back as no text.

The reader asks for a skipped mark only when there is no failure, and the methods that set a message
cannot take the text that an empty message has become.  `survives_iff` says which files can be dumped,
loaded and dumped again; a suite without cases cannot be dumped at all.
-/

namespace HssRtc.Junit

open ScenarioDeployGenerator (Text intToString)
open RoundTrip

/-! ## Elements -/

/-- An element of ElementTree. -/
inductive Element
  | mk (tag : Text) (attrib : List (Text × Option Text)) (text : Option Text) (children : List Element)

namespace Element

def tag : Element → Text
  | mk t _ _ _ => t

def text : Element → Option Text
  | mk _ _ t _ => t

def children : Element → List Element
  | mk _ _ _ cs => cs

/-- The method `get`: an attribute, or `None`. -/
def get (e : Element) (key : Text) : Option Text :=
  match e with
  | mk _ attrib _ _ => (attrib.lookup key).join

/-- The method `find`: the first child with a tag. -/
def find (e : Element) (tag : Text) : Option Element := e.children.find? fun c => c.tag = tag

mutual

/-- An element that was written to a file and read from it.  An attribute that is no text cannot be
written. -/
def stored : Element → Option Element
  | mk tag attrib text children =>
    if attrib.all fun a => a.2.isSome then
      (storedAll children).map fun cs => mk tag attrib (text.filter fun t => !t.isEmpty) cs
    else none

/-- The children of an element. -/
def storedAll : List Element → Option (List Element)
  | [] => some []
  | e :: es => do
    let e' ← stored e
    let es' ← storedAll es
    some (e' :: es')

end

end Element

/-! ## Test cases -/

/-- The ranges of illegal characters.  The surrogates are no characters here. -/
def illegalUnichrs : List (ℕ × ℕ) :=
  [(0x00, 0x08), (0x0B, 0x1F), (0x7F, 0x84), (0x86, 0x9F),
    (0xD800, 0xDFFF), (0xFDD0, 0xFDDF), (0xFFFE, 0xFFFF),
    (0x1FFFE, 0x1FFFF), (0x2FFFE, 0x2FFFF), (0x3FFFE, 0x3FFFF),
    (0x4FFFE, 0x4FFFF), (0x5FFFE, 0x5FFFF), (0x6FFFE, 0x6FFFF),
    (0x7FFFE, 0x7FFFF), (0x8FFFE, 0x8FFFF), (0x9FFFE, 0x9FFFF),
    (0xAFFFE, 0xAFFFF), (0xBFFFE, 0xBFFFF), (0xCFFFE, 0xCFFFF),
    (0xDFFFE, 0xDFFFF), (0xEFFFE, 0xEFFFF), (0xFFFFE, 0xFFFFF),
    (0x10FFFE, 0x10FFFF)]

/-- `_clean_illegal_xml_chars`. -/
def cleanIllegalXmlChars (t : Text) : Text :=
  t.filter fun c => !illegalUnichrs.any fun r => r.1 ≤ c.toNat && c.toNat ≤ r.2

/-- A test case.  `none` is `None`. -/
structure TestCase where
  name : Option Text
  time : Option PyNumber
  className : Option Text
  log : Option Text
  skippedMessage : Option Text
  errorMessage : Option Text
  failureMessage : Option Text

namespace TestCase

/-- A new test case. -/
def init (name : Option Text) (time : Option PyNumber) (className log : Option Text) : TestCase where
  name := name
  time := time
  className := className
  log := log
  skippedMessage := none
  errorMessage := none
  failureMessage := none

def setFailure (c : TestCase) (message : Text) : TestCase :=
  { c with failureMessage := some (cleanIllegalXmlChars message) }

def setSkipped (c : TestCase) (message : Text) : TestCase :=
  { c with skippedMessage := some (cleanIllegalXmlChars message) }

def setError (c : TestCase) (message : Text) : TestCase :=
  { c with errorMessage := some (cleanIllegalXmlChars message) }

/-- The element of a message. -/
def markElement (tag : String) (message : Text) : Element :=
  .mk tag.toList [("type".toList, some tag.toList)] (some message) []

/-- `to_xml_element`; `"%f" % None` raises. -/
def toXmlElement (c : TestCase) : Option Element :=
  c.time.map fun time =>
    let classname := c.className.toList.map fun t => ("classname".toList, some t)
    let log := c.log.toList.map fun t => ("log".toList, some t)
    .mk "testcase".toList
      ([("name".toList, c.name), ("time".toList, some (fixed6 time))] ++ classname ++ log) none
      (c.failureMessage.toList.map (markElement "failure") ++
        c.skippedMessage.toList.map (markElement "skipped") ++
        c.errorMessage.toList.map (markElement "error"))

end TestCase

/-! ## Suites and files -/

/-- A test suite; `none` as test cases is `None`. -/
structure TestSuite where
  name : Option Text
  testCases : Option (List TestCase)

/-- `TestSuite.add_testcase`. -/
def TestSuite.addTestcase (s : TestSuite) (c : TestCase) : TestSuite :=
  { s with testCases := some (s.testCases.getD [] ++ [c]) }

/-- A number of test cases as a text. -/
def count (cases : List TestCase) (p : TestCase → Bool) : Text := intToString (cases.countP p)

/-- The sum over the times that are not zero and not `None`. -/
def totalTime (cases : List TestCase) : PyNumber :=
  PyNumber.sum ((cases.filterMap TestCase.time).filter fun t => t.value ≠ 0)

/-- The element of a suite around those of its test cases. -/
def suiteElement (F : FloatText) (name : Option Text) (cases : List TestCase) (elements : List Element) : Element :=
  .mk "testsuite".toList
    [("name".toList, name),
      ("failures".toList, some (count cases fun c => c.failureMessage.isSome)),
      ("errors".toList, some (count cases fun c => c.errorMessage.isSome)),
      ("skipped".toList, some (count cases fun c => c.skippedMessage.isSome)),
      ("time".toList, some (F.str (totalTime cases))),
      ("tests".toList, some (intToString cases.length))] none elements

/-- `TestSuite.to_xml_element`; the loops over `None` raise. -/
def TestSuite.toXmlElement (F : FloatText) (s : TestSuite) : Option Element :=
  s.testCases.bind fun cases => (cases.mapM TestCase.toXmlElement).map (suiteElement F s.name cases)

/-- A result file: its test suites. -/
structure JunitFile where
  testsuites : List TestSuite

namespace JunitFile

/-- A new file. -/
def init : JunitFile := ⟨[]⟩

/-- `JunitFile.add_testcase`. -/
def addTestcase (f : JunitFile) (testcase : TestCase) (suitename : Text) : JunitFile :=
  if f.testsuites.any fun s => s.name = some suitename then
    ⟨f.testsuites.map fun s => if s.name = some suitename then s.addTestcase testcase else s⟩
  else ⟨f.testsuites ++ [⟨some suitename, some [testcase]⟩]⟩

/-- `dump`: the tree in the file, or `none` when an exception is raised. -/
def dump (F : FloatText) (f : JunitFile) : Option Element := do
  let elements ← f.testsuites.mapM (TestSuite.toXmlElement F)
  Element.stored (.mk "testsuites".toList [] none elements)

/-- Set a message that was read; the regular expression cannot be used on `None`. -/
def setMark (node : Element) (tag : String) (set : TestCase → Text → TestCase) (c : TestCase) :
    Option TestCase :=
  match node.find tag.toList with
  | none => some c
  | some mark => mark.text.map (set c)

/-- `get_testcase_obj`. -/
def getTestcaseObj (node : Element) : Option TestCase := do
  let time ← (node.get "time".toList).bind float
  let case := TestCase.init (node.get "name".toList) (some (.float time)) (node.get "classname".toList)
    (node.get "log".toList)
  let marked :=
    if (node.find "failure".toList).isSome then setMark node "failure" TestCase.setFailure case
    else setMark node "skipped" TestCase.setSkipped case
  marked.bind (setMark node "error" TestCase.setError)

/-- `get_suite_class`, and the loop that adds the test cases. -/
def loadSuite (node : Element) : Option TestSuite := do
  let cases ← node.children.mapM getTestcaseObj
  some (cases.foldl TestSuite.addTestcase ⟨node.get "name".toList, none⟩)

/-- `load`: the tree of a file that may be missing. -/
def load (f : JunitFile) (file : Option Element) : Option JunitFile :=
  match file with
  | none => some ⟨[]⟩
  | some root => (root.children.mapM loadSuite).map fun suites => ⟨f.testsuites ++ suites⟩

end JunitFile

/-! ## Writing and reading one test case -/

/-- An element made and written to the file. -/
def TestCase.write (c : TestCase) : Option Element := c.toXmlElement.bind Element.stored

/-- A suite made and written to the file. -/
def TestSuite.write (F : FloatText) (s : TestSuite) : Option Element := (s.toXmlElement F).bind Element.stored

/-- A test case that was made with a name, a time and cleaned messages. -/
structure TestCase.Proper (c : TestCase) : Prop where
  name : c.name.isSome
  time : ∃ t, c.time = some t ∧ InMillionths t.value
  failure : ∀ m ∈ c.failureMessage, cleanIllegalXmlChars m = m
  skipped : ∀ m ∈ c.skippedMessage, cleanIllegalXmlChars m = m
  error : ∀ m ∈ c.errorMessage, cleanIllegalXmlChars m = m

/-- The test case comes back from a file with all its marks. -/
structure TestCase.Restored (c : TestCase) : Prop where
  failure : c.failureMessage ≠ some []
  skipped : c.skippedMessage ≠ some []
  error : c.errorMessage ≠ some []
  oneMark : c.failureMessage = none ∨ c.skippedMessage = none

/-- What a file gives back of a test case. -/
def TestCase.reread (c : TestCase) : Option TestCase :=
  if c.failureMessage = some [] ∨ c.failureMessage = none ∧ c.skippedMessage = some [] ∨
      c.errorMessage = some [] then none
  else some { c with
    time := c.time.map fun t => .float t.value
    skippedMessage := if c.failureMessage.isSome then none else c.skippedMessage }

variable {c c' : TestCase} {F : FloatText}

/-- Cleaning a cleaned text. -/
lemma cleanIllegalXmlChars_idem (t : Text) :
    cleanIllegalXmlChars (cleanIllegalXmlChars t) = cleanIllegalXmlChars t := by
  rw [cleanIllegalXmlChars, cleanIllegalXmlChars, List.filter_filter]
  simp only [Bool.and_self]

/-- The element of a mark in the file. -/
def storedMark (tag : String) (message : Text) : Element :=
  .mk tag.toList [("type".toList, some tag.toList)] ((some message).filter fun t => !t.isEmpty) []

/-- The element of a test case in the file. -/
def storedCase (c : TestCase) (time : PyNumber) : Element :=
  .mk "testcase".toList
    ([("name".toList, c.name), ("time".toList, some (fixed6 time))] ++
      c.className.toList.map (fun t => ("classname".toList, some t)) ++
      c.log.toList.map (fun t => ("log".toList, some t))) none
    (c.failureMessage.toList.map (storedMark "failure") ++ c.skippedMessage.toList.map (storedMark "skipped") ++
      c.errorMessage.toList.map (storedMark "error"))

/-- Test cases with a name and a time are written. -/
lemma TestCase.write_eq {t : PyNumber} (hname : c.name.isSome) (ht : c.time = some t) :
    c.write = some (storedCase c t) := by
  obtain ⟨name, time, className, log, skipped, error, failure⟩ := c
  obtain ⟨n, rfl⟩ := Option.isSome_iff_exists.mp hname
  obtain rfl : time = some t := ht
  cases className <;> cases log <;> cases failure <;> cases skipped <;> cases error <;> rfl

/-- The marks that are found. -/
lemma find_storedCase (t : PyNumber) :
    (storedCase c t).find "failure".toList = c.failureMessage.map (storedMark "failure") ∧
      (storedCase c t).find "skipped".toList = c.skippedMessage.map (storedMark "skipped") ∧
      (storedCase c t).find "error".toList = c.errorMessage.map (storedMark "error") := by
  obtain ⟨name, time, className, log, skipped, error, failure⟩ := c
  cases failure <;> cases skipped <;> cases error <;> exact ⟨rfl, rfl, rfl⟩

/-- The attributes that are found. -/
lemma get_storedCase (t : PyNumber) :
    (storedCase c t).get "name".toList = c.name ∧ (storedCase c t).get "time".toList = some (fixed6 t) ∧
      (storedCase c t).get "classname".toList = c.className ∧ (storedCase c t).get "log".toList = c.log := by
  obtain ⟨name, time, className, log, skipped, error, failure⟩ := c
  cases className <;> cases log <;> exact ⟨rfl, rfl, rfl, rfl⟩

/-- A mark that was written is set, unless its message is empty. -/
def setMessage (message : Option Text) (set : TestCase → Text → TestCase) (c : TestCase) : Option TestCase :=
  match message with
  | none => some c
  | some [] => none
  | some m => some (set c m)

lemma setMark_eq {node : Element} {tag : String} {set : TestCase → Text → TestCase} {message : Option Text}
    (h : node.find tag.toList = message.map (storedMark tag)) :
    JunitFile.setMark node tag set = setMessage message set := by
  funext c
  rw [JunitFile.setMark, h]
  rcases message with _ | _ | ⟨a, m⟩ <;> rfl

/-- What the file gives back of a test case. -/
lemma getTestcaseObj_storedCase {t : PyNumber} (hc : c.Proper) (ht : c.time = some t) :
    JunitFile.getTestcaseObj (storedCase c t) = c.reread := by
  obtain ⟨hfailure, hskipped, herror⟩ := find_storedCase (c := c) t
  obtain ⟨hname, htime, hclassname, hlog⟩ := get_storedCase (c := c) t
  have hmillionths : InMillionths t.value := by
    obtain ⟨t', ht', h⟩ := hc.time
    rw [ht] at ht'
    cases ht'
    exact h
  rw [JunitFile.getTestcaseObj, hname, htime, hclassname, hlog, hfailure, setMark_eq hfailure,
    setMark_eq hskipped, setMark_eq herror, Option.bind_some, float_fixed6 hmillionths, TestCase.reread, ht]
  have hclean := And.intro hc.failure (And.intro hc.skipped hc.error)
  obtain ⟨name, time, className, log, skipped, error, failure⟩ := c
  rcases failure with _ | _ | ⟨a, failure⟩ <;> rcases skipped with _ | _ | ⟨b, skipped⟩ <;>
    rcases error with _ | _ | ⟨d, error⟩ <;>
    simp_all [setMessage, TestCase.init, TestCase.setFailure, TestCase.setSkipped, TestCase.setError]

/-- Two test cases are the same; the times are compared as numbers. -/
structure TestCase.Same (c c' : TestCase) : Prop where
  name : c.name = c'.name
  time : c.time.map PyNumber.value = c'.time.map PyNumber.value
  className : c.className = c'.className
  log : c.log = c'.log
  failure : c.failureMessage = c'.failureMessage
  skipped : c.skippedMessage = c'.skippedMessage
  error : c.errorMessage = c'.errorMessage

/-- The test case with its time as a float. -/
def TestCase.withFloat (c : TestCase) : TestCase := { c with time := c.time.map fun t => .float t.value }

lemma TestCase.same_withFloat : c.Same c.withFloat := by
  refine ⟨rfl, ?_, rfl, rfl, rfl, rfl, rfl⟩
  rw [TestCase.withFloat, Option.map_map]
  rfl

/-- Same test cases are written in the same way. -/
lemma TestCase.Same.write_eq (h : c.Same c') : c'.write = c.write := by
  obtain ⟨name, time, className, log, skipped, error, failure⟩ := c
  obtain ⟨name', time', className', log', skipped', error', failure'⟩ := c'
  obtain ⟨rfl, htime, rfl, rfl, rfl, rfl, rfl⟩ := h
  rcases time with _ | t <;> rcases time' with _ | t'
  · rfl
  · cases htime
  · cases htime
  · have hvalue : t.value = t'.value := Option.some.inj htime
    have hfixed : fixed6 t = fixed6 t' := by
      rw [fixed6, fixed6, hvalue]
    simp only [TestCase.write, TestCase.toXmlElement, Option.map_some, hfixed]

/-- A test case that is read back with all its marks. -/
lemma TestCase.Restored.reread_eq (h : c.Restored) :
    c.reread = some c.withFloat := by
  have hno : ¬ (c.failureMessage = some [] ∨ c.failureMessage = none ∧ c.skippedMessage = some [] ∨
      c.errorMessage = some []) := by
    rintro (h' | ⟨-, h'⟩ | h')
    · exact h.failure h'
    · exact h.skipped h'
    · exact h.error h'
  have hskipped : (if c.failureMessage.isSome then none else c.skippedMessage) = c.skippedMessage := by
    rcases h.oneMark with hnone | hnone
    · rw [hnone]
      rfl
    · rw [hnone, ite_self]
  rw [TestCase.reread, if_neg hno, hskipped]
  rfl

/-- Only such a test case is read back as it was. -/
lemma TestCase.Restored.of_reread (h : c.reread = some c') (hsame : c.Same c') : c.Restored := by
  obtain ⟨hno, hc'⟩ := Option.ite_none_left_eq_some.mp h
  have hskipped : c.skippedMessage = if c.failureMessage.isSome then none else c.skippedMessage :=
    hsame.skipped.trans (congrArg TestCase.skippedMessage (Option.some.inj hc')).symm
  have hone : c.failureMessage = none ∨ c.skippedMessage = none := by
    cases hf : c.failureMessage with
    | none => exact Or.inl rfl
    | some m =>
      rw [hf] at hskipped
      exact Or.inr hskipped
  refine ⟨fun hf => hno (Or.inl hf), fun hs => ?_, fun he => hno (Or.inr (Or.inr he)), hone⟩
  rcases hone with hf | hs'
  · exact hno (Or.inr (Or.inl ⟨hf, hs⟩))
  · rw [hs'] at hs
    cases hs

/-- **When a test case survives.** -/
lemma TestCase.Proper.survives_iff (hc : c.Proper) :
    Survives TestCase.write JunitFile.getTestcaseObj TestCase.Same c ↔ c.Restored := by
  obtain ⟨t, ht, -⟩ := hc.time
  have hwrite : c.write = some (storedCase c t) := TestCase.write_eq hc.name ht
  have hread : JunitFile.getTestcaseObj (storedCase c t) = c.reread := getTestcaseObj_storedCase hc ht
  constructor
  · rintro ⟨e, c', he, hc', hsame, -⟩
    rw [hwrite] at he
    cases he
    exact TestCase.Restored.of_reread (hread ▸ hc') hsame
  · intro h
    have hsame : c.Same c.withFloat := TestCase.same_withFloat
    exact ⟨_, _, hwrite, hread.trans h.reread_eq, hsame, hsame.write_eq.trans hwrite⟩

/-! ## Suites -/

/-- Two suites are the same. -/
structure TestSuite.Same (s s' : TestSuite) : Prop where
  name : s.name = s'.name
  cases : List.Forall₂ TestCase.Same (s.testCases.getD []) (s'.testCases.getD [])

/-- The sum of the times has a text that does not change when they become floats: some time that is
not zero is a float, or all are zero. -/
def FloatTimes (cases : List TestCase) : Prop :=
  (∃ c ∈ cases, ∃ q ≠ 0, c.time = some (.float q)) ∨ ∀ c ∈ cases, ∀ t ∈ c.time, t.value = 0

variable {s s' : TestSuite} {cases cases' : List TestCase}

/-- The children are written one by one. -/
lemma storedAll_eq (es : List Element) : Element.storedAll es = es.mapM Element.stored := by
  induction es with
  | nil => rfl
  | cons e es ih =>
    rw [Element.storedAll, ih, List.mapM_cons]
    rfl

/-- How a suite is written. -/
lemma TestSuite.write_eq (hname : s.name.isSome) (hcases : s.testCases = some cases) :
    s.write F = (cases.mapM TestCase.write).map (suiteElement F s.name cases) := by
  obtain ⟨name, _⟩ := s
  obtain ⟨n, rfl⟩ := Option.isSome_iff_exists.mp hname
  obtain rfl := hcases
  have hmap : cases.mapM TestCase.write = (cases.mapM TestCase.toXmlElement).bind Element.storedAll := by
    rw [funext storedAll_eq, mapM_bind_mapM]
    rfl
  rw [TestSuite.write, TestSuite.toXmlElement, hmap, Option.bind_some]
  cases cases.mapM TestCase.toXmlElement <;> rfl

/-- The loop that adds the test cases. -/
lemma foldl_addTestcase (cases : List TestCase) (s : TestSuite) :
    cases.foldl TestSuite.addTestcase s =
      ⟨s.name, if cases = [] then s.testCases else some (s.testCases.getD [] ++ cases)⟩ := by
  induction cases generalizing s with
  | nil => rfl
  | cons c cases ih =>
    rw [List.foldl_cons, ih, TestSuite.addTestcase, if_neg (List.cons_ne_nil c cases)]
    split_ifs with h
    · rw [h]
    · simp

/-- How a suite is read. -/
lemma loadSuite_suiteElement {name : Option Text} {es : List Element} (hes : es ≠ []) :
    JunitFile.loadSuite (suiteElement F name cases es) =
      (es.mapM JunitFile.getTestcaseObj).map fun cs => ⟨name, some cs⟩ := by
  have hget : (suiteElement F name cases es).get "name".toList = name := rfl
  rw [JunitFile.loadSuite, hget]
  change (es.mapM JunitFile.getTestcaseObj).bind _ = _
  cases h : es.mapM JunitFile.getTestcaseObj with
  | none => rfl
  | some cs =>
    have hne : cs ≠ [] := by
      rintro rfl
      obtain ⟨e, es', rfl⟩ := List.exists_cons_of_ne_nil hes
      obtain ⟨b, bs, -, -, hnil⟩ := mapM_cons_eq_some_iff.mp h
      cases hnil
    simp [foldl_addTestcase, hne]

/-! ## The text of a sum -/

/-- A sum of floats has the text of the sum of the given numbers only if one of these is a float, or
there are none. -/
lemma str_sum_iff (F : FloatText) (ts : List PyNumber) :
    F.str (PyNumber.sum (ts.map fun t => .float t.value)) = F.str (PyNumber.sum ts) ↔
      (∃ t ∈ ts, t.isInt = false) ∨ ts = [] := by
  have hvalue : (PyNumber.sum (ts.map fun t => .float t.value)).value = (PyNumber.sum ts).value := by
    rw [PyNumber.value_sum, PyNumber.value_sum, List.map_map]
    rfl
  have hint : (PyNumber.sum (ts.map fun t => .float t.value)).isInt = ts.isEmpty := by
    rw [PyNumber.isInt_sum]
    cases ts <;> rfl
  constructor
  · intro h
    by_contra hno
    rw [not_or, not_exists] at hno
    have hall : (PyNumber.sum ts).isInt = true := by
      rw [PyNumber.isInt_sum, List.all_eq_true]
      exact fun t ht => Bool.not_eq_false _ ▸ fun hf => hno.1 t ⟨ht, hf⟩
    rw [List.isEmpty_eq_false_iff.mpr hno.2] at hint
    -- the text of a float against that of an integer
    cases hs : PyNumber.sum ts with
    | float q =>
      rw [hs] at hall
      cases hall
    | int n =>
      cases hs' : PyNumber.sum (ts.map fun t => .float t.value) with
      | int m =>
        rw [hs'] at hint
        cases hint
      | float q =>
        rw [hs, hs'] at h
        exact F.ne_intToString q n h
  · intro h
    refine congrArg F.str (PyNumber.ext_value ?_ hvalue)
    rw [hint, PyNumber.isInt_sum]
    rcases h with ⟨t, ht, hf⟩ | rfl
    · rw [List.isEmpty_eq_false_iff.mpr (List.ne_nil_of_mem ht), eq_comm, List.all_eq_false]
      exact ⟨t, ht, by rw [hf]; exact Bool.false_ne_true⟩
    · rfl

/-- When the text of the total time stays. -/
lemma str_totalTime_iff :
    F.str (totalTime (cases.map TestCase.withFloat)) = F.str (totalTime cases) ↔ FloatTimes cases := by
  have hmap : ((cases.map TestCase.withFloat).filterMap TestCase.time).filter (fun t => t.value ≠ 0) =
      ((cases.filterMap TestCase.time).filter fun t => t.value ≠ 0).map fun t => .float t.value := by
    have htimes : (cases.map TestCase.withFloat).filterMap TestCase.time =
        (cases.filterMap TestCase.time).map fun t => .float t.value := by
      rw [List.filterMap_map, List.map_filterMap]
      rfl
    rw [htimes, List.filter_map]
    rfl
  rw [totalTime, totalTime, hmap, str_sum_iff, FloatTimes]
  refine or_congr ?_ ?_
  · constructor
    · rintro ⟨t, ht, hf⟩
      obtain ⟨hmem, hne⟩ := List.mem_filter.mp ht
      obtain ⟨c, hc, htime⟩ := List.mem_filterMap.mp hmem
      cases t with
      | int n => cases hf
      | float q => exact ⟨c, hc, q, of_decide_eq_true hne, htime⟩
    · rintro ⟨c, hc, q, hq, htime⟩
      have hmem : PyNumber.float q ∈ cases.filterMap TestCase.time := List.mem_filterMap.mpr ⟨c, hc, htime⟩
      exact ⟨.float q, List.mem_filter.mpr ⟨hmem, decide_eq_true hq⟩, rfl⟩
  · rw [List.filter_eq_nil_iff]
    constructor
    · intro h c hc t ht
      simpa using h t (List.mem_filterMap.mpr ⟨c, hc, ht⟩)
    · intro h t ht
      obtain ⟨c, hc, htime⟩ := List.mem_filterMap.mp ht
      simpa using h c hc t htime

/-! ## Suites and files that survive -/

/-- A suite with test cases has elements in it. -/
lemma ne_nil_of_mapM_write {es : List Element} (hne : cases ≠ []) (hes : cases.mapM TestCase.write = some es) :
    es ≠ [] := by
  rintro rfl
  obtain ⟨c, cs, rfl⟩ := List.exists_cons_of_ne_nil hne
  obtain ⟨b, bs, -, -, h⟩ := mapM_cons_eq_some_iff.mp hes
  cases h

/-- What is read of test cases that come back with all their marks. -/
lemma mapM_getTestcaseObj {es : List Element} (hproper : ∀ c ∈ cases, c.Proper)
    (hrestored : ∀ c ∈ cases, c.Restored) (hes : cases.mapM TestCase.write = some es) :
    es.mapM JunitFile.getTestcaseObj = some (cases.map TestCase.withFloat) := by
  have hboth : (cases.mapM TestCase.write).bind (List.mapM JunitFile.getTestcaseObj) =
      some (cases.map TestCase.withFloat) := by
    rw [mapM_bind_mapM]
    refine mapM_eq_some_map fun c hc => ?_
    obtain ⟨t, ht, -⟩ := (hproper c hc).time
    rw [TestCase.write_eq (hproper c hc).name ht, Option.bind_some, getTestcaseObj_storedCase (hproper c hc) ht,
      (hrestored c hc).reread_eq]
  rwa [hes] at hboth

/-- The element of a suite says what its total time and the elements in it are. -/
lemma of_suiteElement_eq {name : Option Text} {es es' : List Element}
    (h : suiteElement F name cases' es' = suiteElement F name cases es) :
    es' = es ∧ F.str (totalTime cases') = F.str (totalTime cases) := by
  simp only [suiteElement, Element.mk.injEq, List.cons.injEq, Prod.mk.injEq, Option.some.injEq] at h
  exact ⟨h.2.2.2, h.2.1.2.2.2.2.1.2⟩

/-- The element of a suite whose times have become floats. -/
lemma suiteElement_withFloat (name : Option Text) (es : List Element) (h : FloatTimes cases) :
    suiteElement F name (cases.map TestCase.withFloat) es = suiteElement F name cases es := by
  have hcount : ∀ p : TestCase → Bool, (∀ c : TestCase, p c.withFloat = p c) →
      count (cases.map TestCase.withFloat) p = count cases p := by
    intro p hp
    rw [count, count, List.countP_map]
    exact congrArg (fun q => intToString ((cases.countP q : ℕ) : ℤ)) (funext hp)
  rw [suiteElement, suiteElement, str_totalTime_iff.mpr h, List.length_map, hcount _ fun _ => rfl,
    hcount _ fun _ => rfl, hcount _ fun _ => rfl]

/-- **When a suite survives.** -/
lemma TestSuite.survives_iff (hname : s.name.isSome) (hcases : s.testCases = some cases) (hne : cases ≠ [])
    (hproper : ∀ c ∈ cases, c.Proper) :
    Survives (TestSuite.write F) JunitFile.loadSuite TestSuite.Same s ↔
      (∀ c ∈ cases, c.Restored) ∧ FloatTimes cases := by
  have hlist : Survives (List.mapM TestCase.write) (List.mapM JunitFile.getTestcaseObj)
      (List.Forall₂ TestCase.Same) cases ↔ ∀ c ∈ cases, c.Restored := by
    rw [survives_list_iff]
    exact forall₂_congr fun c hc => (hproper c hc).survives_iff
  have hread : ∀ es, cases.mapM TestCase.write = some es → JunitFile.loadSuite (suiteElement F s.name cases es) =
      (es.mapM JunitFile.getTestcaseObj).map fun cs => ⟨s.name, some cs⟩ :=
    fun es hes => loadSuite_suiteElement (ne_nil_of_mapM_write hne hes)
  have hwrite : ∀ cs, TestSuite.write F ⟨s.name, some cs⟩ =
      (cs.mapM TestCase.write).map (suiteElement F s.name cs) := fun cs =>
    TestSuite.write_eq (s := ⟨s.name, some cs⟩) hname rfl
  have hsuite : s = ⟨s.name, some cases⟩ := by rw [← hcases]
  constructor
  · rintro ⟨e, s', he, hs', hsame, he'⟩
    rw [hsuite, hwrite] at he
    obtain ⟨es, hes, rfl⟩ := Option.map_eq_some_iff.mp he
    rw [hread es hes] at hs'
    obtain ⟨cs, hcs, rfl⟩ := Option.map_eq_some_iff.mp hs'
    rw [hwrite] at he'
    obtain ⟨es', hes', helement⟩ := Option.map_eq_some_iff.mp he'
    obtain ⟨rfl, htime⟩ := of_suiteElement_eq helement
    have hcases' : List.Forall₂ TestCase.Same cases cs := by
      have h := hsame.cases
      rwa [hcases] at h
    have hrestored := hlist.mp ⟨es', cs, hes, hcs, hcases', hes'⟩
    rw [mapM_getTestcaseObj hproper hrestored hes] at hcs
    cases hcs
    exact ⟨hrestored, str_totalTime_iff.mp htime⟩
  · rintro ⟨hrestored, hfloat⟩
    obtain ⟨es, cs, hes, hcs, hsame, hes'⟩ := hlist.mpr hrestored
    rw [mapM_getTestcaseObj hproper hrestored hes] at hcs
    cases hcs
    refine ⟨suiteElement F s.name cases es, ⟨s.name, some (cases.map TestCase.withFloat)⟩, ?_, ?_, ⟨rfl, ?_⟩, ?_⟩
    · rw [hsuite, hwrite, hes, Option.map_some]
    · rw [hread es hes, mapM_getTestcaseObj hproper hrestored hes, Option.map_some]
    · rw [hcases]
      exact hsame
    · rw [hwrite, hes', Option.map_some, suiteElement_withFloat s.name es hfloat]

/-- Two files are the same. -/
def JunitFile.Same (f f' : JunitFile) : Prop := List.Forall₂ TestSuite.Same f.testsuites f'.testsuites

/-- **A load and dump cycle**: the file is dumped, a new `JunitFile` loads it, has the same content
and is dumped to the same tree. -/
def JunitFile.SurvivesCycle (F : FloatText) (f : JunitFile) : Prop :=
  Survives (JunitFile.dump F) (fun tree => JunitFile.init.load (some tree)) JunitFile.Same f

/-- How a file is dumped. -/
lemma JunitFile.dump_eq (f : JunitFile) :
    f.dump F = (f.testsuites.mapM (TestSuite.write F)).map (.mk "testsuites".toList [] none) := by
  have hmap : f.testsuites.mapM (TestSuite.write F) =
      (f.testsuites.mapM (TestSuite.toXmlElement F)).bind Element.storedAll := by
    rw [funext storedAll_eq, mapM_bind_mapM]
    rfl
  rw [JunitFile.dump, hmap]
  cases f.testsuites.mapM (TestSuite.toXmlElement F) <;> rfl

/-- A file survives when its suites do. -/
lemma JunitFile.survivesCycle_iff (f : JunitFile) :
    f.SurvivesCycle F ↔ ∀ s ∈ f.testsuites, Survives (TestSuite.write F) JunitFile.loadSuite TestSuite.Same s := by
  rw [← survives_list_iff]
  constructor
  · rintro ⟨tree, f', hd, hl, hsame, hd'⟩
    rw [JunitFile.dump_eq] at hd hd'
    obtain ⟨es, hes, rfl⟩ := Option.map_eq_some_iff.mp hd
    obtain ⟨es', hes', htree⟩ := Option.map_eq_some_iff.mp hd'
    obtain ⟨suites, hsuites, rfl⟩ := Option.map_eq_some_iff.mp hl
    cases htree
    exact ⟨es, suites, hes, hsuites, hsame, hes'⟩
  · rintro ⟨es, suites, hes, hsuites, hsame, hes'⟩
    refine ⟨.mk "testsuites".toList [] none es, ⟨suites⟩, ?_, ?_, hsame, ?_⟩
    · rw [JunitFile.dump_eq, hes, Option.map_some]
    · change (es.mapM JunitFile.loadSuite).map _ = _
      rw [hsuites]
      rfl
    · rw [JunitFile.dump_eq, hes', Option.map_some]

/-! ## Files that are built -/

/-- A method that sets a message. -/
inductive Mark
  | failure (message : Text)
  | skipped (message : Text)
  | error (message : Text)

/-- The call of the method. -/
def Mark.set (c : TestCase) : Mark → TestCase
  | failure message => c.setFailure message
  | skipped message => c.setSkipped message
  | error message => c.setError message

/-- A test case that is made, gets its marks and is added to the suite of a name. -/
structure Addition where
  suitename : Text
  name : Text
  time : PyNumber
  className : Option Text
  log : Option Text
  marks : List Mark

/-- The test case of an addition. -/
def Addition.testcase (a : Addition) : TestCase :=
  a.marks.foldl Mark.set (TestCase.init (some a.name) (some a.time) a.className a.log)

/-- The file that is built by some additions. -/
def JunitFile.built (adds : List Addition) : JunitFile :=
  adds.foldl (fun f a => f.addTestcase a.testcase a.suitename) JunitFile.init

/-- A mark keeps a test case proper. -/
lemma TestCase.Proper.set (hc : c.Proper) (m : Mark) : (m.set c).Proper := by
  have hclean : ∀ t : Text, ∀ m ∈ some (cleanIllegalXmlChars t), cleanIllegalXmlChars m = m := by
    rintro t _ ⟨⟩
    exact cleanIllegalXmlChars_idem t
  cases m with
  | failure message => exact ⟨hc.name, hc.time, hclean message, hc.skipped, hc.error⟩
  | skipped message => exact ⟨hc.name, hc.time, hc.failure, hclean message, hc.error⟩
  | error message => exact ⟨hc.name, hc.time, hc.failure, hc.skipped, hclean message⟩

lemma Addition.proper_testcase {a : Addition} (ha : InMillionths a.time.value) : a.testcase.Proper := by
  have hmarks : ∀ (marks : List Mark) (c : TestCase), c.Proper → (marks.foldl Mark.set c).Proper := by
    intro marks
    induction marks with
    | nil => exact fun c hc => hc
    | cons m marks ih => exact fun c hc => ih _ (hc.set m)
  refine hmarks _ _ ⟨rfl, ⟨a.time, rfl, ha⟩, ?_, ?_, ?_⟩ <;> rintro _ ⟨⟩

/-- The suite has a name and at least one test case, and its test cases are proper. -/
def TestSuite.Proper (s : TestSuite) : Prop :=
  s.name.isSome ∧ ∃ cases, s.testCases = some cases ∧ cases ≠ [] ∧ ∀ c ∈ cases, c.Proper

/-- An addition keeps the suites proper. -/
lemma proper_addTestcase {f : JunitFile} {name : Text} (hf : ∀ s ∈ f.testsuites, s.Proper) (hc : c.Proper) :
    ∀ s ∈ (f.addTestcase c name).testsuites, s.Proper := by
  intro s hs
  rw [JunitFile.addTestcase] at hs
  split_ifs at hs with hany
  · obtain ⟨s₀, hs₀, rfl⟩ := List.mem_map.mp hs
    obtain ⟨hname, cases, hcases, hne, hproper⟩ := hf s₀ hs₀
    split_ifs with heq
    · refine ⟨hname, cases ++ [c], ?_, by simp, ?_⟩
      · rw [TestSuite.addTestcase, hcases]
        rfl
      · intro c' hc'
        rcases List.mem_append.mp hc' with hc' | hc'
        · exact hproper c' hc'
        · exact List.mem_singleton.mp hc' ▸ hc
    · exact ⟨hname, cases, hcases, hne, hproper⟩
  · rcases List.mem_append.mp hs with hs | hs
    · exact hf s hs
    · rw [List.mem_singleton.mp hs]
      exact ⟨rfl, [c], rfl, List.cons_ne_nil c [], fun c' hc' => List.mem_singleton.mp hc' ▸ hc⟩

/-- The suites of a file that was built are proper, by induction on the additions. -/
lemma proper_built {adds : List Addition} (h : ∀ a ∈ adds, InMillionths a.time.value) :
    ∀ s ∈ (JunitFile.built adds).testsuites, s.Proper := by
  have hall : ∀ (adds : List Addition) (f : JunitFile), (∀ a ∈ adds, InMillionths a.time.value) →
      (∀ s ∈ f.testsuites, s.Proper) →
      ∀ s ∈ (adds.foldl (fun f a => f.addTestcase a.testcase a.suitename) f).testsuites, s.Proper := by
    intro adds
    induction adds with
    | nil => exact fun f _ hf => hf
    | cons a adds ih =>
      intro f h hf
      obtain ⟨ha, hadds⟩ := List.forall_mem_cons.mp h
      exact ih _ hadds (proper_addTestcase hf (Addition.proper_testcase ha))
  exact hall adds _ h fun s hs => absurd hs List.not_mem_nil

/-- A loaded suite without cases has no list of cases, and cannot be dumped. -/
lemma toXmlElement_of_loadSuite {node : Element} (h : JunitFile.loadSuite node = some s)
    (hempty : s.testCases.getD [] = []) : s.toXmlElement F = none := by
  obtain ⟨cs, -, hs⟩ := Option.bind_eq_some_iff.mp h
  obtain rfl := Option.some.inj hs
  rw [foldl_addTestcase] at hempty ⊢
  by_cases hcs : cs = []
  · rw [if_pos hcs]
    rfl
  · rw [if_neg hcs] at hempty
    exact absurd hempty hcs

/-- **Load and dump cycles.**  A file that was built survives exactly when no message that is set is
empty, no test case has both a failure and a skipped mark, and a suite whose times are not all zero has
one that is a float.  A loaded file with a suite without cases is never dumped. -/
theorem survivesCycle_built_iff (F : FloatText) :
    (∀ adds : List Addition, (∀ a ∈ adds, InMillionths a.time.value) →
      ((JunitFile.built adds).SurvivesCycle F ↔ ∀ s ∈ (JunitFile.built adds).testsuites,
        (∀ c ∈ s.testCases.getD [], c.Restored) ∧ FloatTimes (s.testCases.getD []))) ∧
      ∀ (tree : Element) (f : JunitFile), JunitFile.init.load (some tree) = some f →
        (∃ s ∈ f.testsuites, s.testCases.getD [] = []) → f.dump F = none := by
  refine ⟨fun adds h => ?_, ?_⟩
  · rw [JunitFile.survivesCycle_iff]
    refine forall₂_congr fun s hs => ?_
    obtain ⟨hname, cases, hcases, hne, hproper⟩ := proper_built h s hs
    rw [TestSuite.survives_iff hname hcases hne hproper, hcases]
    rfl
  · rintro tree f hload ⟨s, hs, hempty⟩
    obtain ⟨suites, hsuites, rfl⟩ := Option.map_eq_some_iff.mp hload
    obtain ⟨node, -, hnode⟩ := mem_of_mapM hsuites hs
    have hnone : (JunitFile.init.testsuites ++ suites).mapM (TestSuite.toXmlElement F) = none :=
      mapM_eq_none hs (toXmlElement_of_loadSuite hnode hempty)
    rw [JunitFile.dump, hnone]
    rfl

/-- A failed test case of one and a half seconds, with an error. -/
def failedCase : Addition where
  suitename := "suite".toList
  name := "case".toList
  time := .float (3 / 2)
  className := none
  log := some "case.log".toList
  marks := [.failure "no answer".toList, .error "timeout".toList]

/-- A file with this test case survives, and the file with an empty suite is not dumped. -/
theorem survivesCycle_failedCase :
    (JunitFile.built [failedCase]).SurvivesCycle FloatText.short ∧
      (JunitFile.mk [⟨some "suite".toList, none⟩]).dump FloatText.short = none := by
  constructor
  · have htime : ∀ a ∈ [failedCase], InMillionths a.time.value := by
      intro a ha
      rw [List.mem_singleton.mp ha]
      exact ⟨1500000, by norm_num [failedCase, PyNumber.value]⟩
    refine ((survivesCycle_built_iff FloatText.short).1 [failedCase] htime).mpr fun s hs => ?_
    obtain rfl : s = ⟨some "suite".toList, some [failedCase.testcase]⟩ := List.mem_singleton.mp hs
    refine ⟨fun c hc => ?_, Or.inl ⟨_, List.mem_singleton_self _, 3 / 2, by norm_num, rfl⟩⟩
    rw [List.mem_singleton.mp hc]
    exact ⟨by decide, by decide, by decide, Or.inr rfl⟩
  · exact (survivesCycle_built_iff FloatText.short).2
      (.mk "testsuites".toList [] none [.mk "testsuite".toList [("name".toList, some "suite".toList)] none []])
      _ rfl ⟨_, List.mem_singleton_self _, rfl⟩

/-- A test case whose failure has no message. -/
def silentFailure : Addition := { failedCase with marks := [.failure []] }

/-- A file with this test case does not survive. -/
theorem not_survivesCycle :
    ¬ ((∀ adds : List Addition, (∀ a ∈ adds, InMillionths a.time.value) →
        (JunitFile.built adds).SurvivesCycle FloatText.short) ∧
      ∀ (tree : Element) (f : JunitFile), JunitFile.init.load (some tree) = some f →
        (∃ s ∈ f.testsuites, s.testCases.getD [] = []) → (f.dump FloatText.short).isSome) := by
  rintro ⟨h, -⟩
  have htime : ∀ a ∈ [silentFailure], InMillionths a.time.value := by
    intro a ha
    rw [List.mem_singleton.mp ha]
    exact ⟨1500000, by norm_num [silentFailure, failedCase, PyNumber.value]⟩
  have hsurvives := h [silentFailure] htime
  have hmem : (⟨some "suite".toList, some [silentFailure.testcase]⟩ : TestSuite) ∈
      (JunitFile.built [silentFailure]).testsuites := List.mem_singleton_self _
  have hproper : ∀ c ∈ [silentFailure.testcase], c.Proper := by
    intro c hc
    rw [List.mem_singleton.mp hc]
    exact Addition.proper_testcase (htime _ (List.mem_singleton_self _))
  have hsuite := (JunitFile.survivesCycle_iff _).mp hsurvives _ hmem
  rw [TestSuite.survives_iff rfl rfl (List.cons_ne_nil _ _) hproper] at hsuite
  exact (hsuite.1 _ (List.mem_singleton_self _)).failure rfl

end HssRtc.Junit
