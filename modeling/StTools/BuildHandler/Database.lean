import Mathlib.Data.List.Sort
import Mathlib.Data.Rat.Defs
import StTools.Lib.Dict

/-!
# The build database

The tables of the RTC build handler: for every project the queue of builds that wait for a test,
for every build what is known of it, and for every baseline the build it stands for.

Builds are named by dotted versions such as `HSS-1.28.2.20`.  The first three parts are the
project, the first two the release, and projects are ordered the way `LooseVersion` orders
version strings.
-/

namespace BuildHandler

/-- A Python string. -/
abbrev Text := List Char

/-! ## Values -/

/-- What a JSON text decodes to. -/
inductive Json where
  | null
  | bool (b : Bool)
  | num (x : ℚ)
  | str (s : Text)
  | arr (l : List Json)
  | obj (m : List (Text × Json))

/-- The exceptions the handler raises or lets pass. -/
inductive PyError where
  | faultyAction (cause : Text)
  | keyError (key : Text)
  | typeError
  | attributeError
deriving DecidableEq

namespace Json

/-- The truth value of a Python object. -/
def truthy : Json → Bool
  | null => false
  | bool b => b
  | num x => x ≠ 0
  | str s => s ≠ []
  | arr l => !l.isEmpty
  | obj m => !m.isEmpty

/-- `value[key]` for a text key. -/
def getItem (key : Text) : Json → Except PyError Json
  | obj m =>
    match m.lookup key with
    | some v => .ok v
    | none => .error (.keyError key)
  | _ => .error .typeError

/-- Give a key of an object a value, in place if it is there. -/
def setKey (key : Text) (v : Json) : List (Text × Json) → List (Text × Json)
  | [] => [(key, v)]
  | (k, w) :: m => if k = key then (k, v) :: m else (k, w) :: setKey key v m

/-- `value.update({key: v})`. -/
def update (value : Json) (key : Text) (v : Json) : Except PyError Json :=
  match value with
  | obj m => .ok (obj (setKey key v m))
  | _ => .error .attributeError

end Json

/-! ## Tables -/

/-- The states a build goes through. -/
inductive Status where
  | testOngoing
  | cancelled
  | skipped
  | tested
  | notTested
  | testFaulty
deriving DecidableEq

namespace Status

/-- The text that stands for a status in the database. -/
def name : Status → Text
  | testOngoing => "TEST_ONGOING".toList
  | cancelled => "CANCELLED".toList
  | skipped => "SKIPPED".toList
  | tested => "TESTED".toList
  | notTested => "NOT_TESTED".toList
  | testFaulty => "TEST_FAULTY".toList

/-- The status texts that `update_build_status` accepts. -/
def all : List Status := [testOngoing, cancelled, skipped, tested, notTested, testFaulty]

/-- The status texts that `force_build_status` accepts. -/
def forcible : List Status := [cancelled, skipped, tested, testFaulty]

/-- The status of a list that a text stands for. -/
def ofName? (allowed : List Status) (status : Text) : Option Status :=
  allowed.find? fun s => s.name = status

end Status

/-- The queue of a project: the builds that wait, oldest first, and the build that goes first. -/
structure Priority where
  pending : List Text
  highPriority : Option Text
deriving DecidableEq

/-- What is known of a build. -/
structure BuildInfo where
  testInfo : Json
  testResult : List Json
  status : Status

/-- The database.  Files of older versions have no table of baselines. -/
structure Db where
  priority : Dict Text Priority
  buildInfo : Dict Text BuildInfo
  baselines : Option (Dict Text Text)

/-- The database of a new installation. -/
def Db.empty : Db := ⟨∅, ∅, some ∅⟩

/-! ## Names of builds -/

/-- The first parts of a dotted name. -/
def dottedPrefix (n : ℕ) (build : Text) : Text :=
  List.intercalate ['.'] ((build.splitOn '.').take n)

/-- The project of a build. -/
def getProject (build : Text) : Text := dottedPrefix 3 build

/-- The release of a build. -/
def getRelease (build : Text) : Text := dottedPrefix 2 build

/-- The baseline name of a release: what follows its last dash. -/
def baselineName (release : Text) : Text := (release.splitOn '-').getLast?.getD []

/-! ## LooseVersion -/

/-- A component of a loose version. -/
inductive Component where
  | int (n : ℕ)
  | str (s : Text)
deriving DecidableEq

/-- The classes of characters that the version pattern tells apart. -/
inductive CharKind where
  | digit
  | lower
  | dot
  | other
deriving DecidableEq

/-- The class of a character. -/
def charKind (c : Char) : CharKind :=
  if c.isDigit then .digit else if c.isLower then .lower else if c = '.' then .dot else .other

/-- A run of characters of one class as a component; dots separate and are dropped. -/
def component? (run : Text) : Option Component :=
  match run.head?.map charKind with
  | some .digit => some (.int (Nat.ofDigitChars 10 run 0))
  | some .dot => none
  | some _ => some (.str run)
  | none => none

/-- The components of a version: its runs of digits, of lower case letters and of other
characters. -/
def components (vstring : Text) : List Component :=
  (vstring.splitBy fun a b => charKind a = charKind b).filterMap component?

/-- Numbers come before texts; numbers and texts are compared among themselves. -/
def Component.lt : Component → Component → Bool
  | .int m, .int n => m < n
  | .int _, .str _ => true
  | .str _, .int _ => false
  | .str s, .str t => s < t

/-- Lists of components are compared from the left. -/
def componentsLt : List Component → List Component → Bool
  | _, [] => false
  | [], _ :: _ => true
  | a :: as, b :: bs => if a = b then componentsLt as bs else a.lt b

/-- `LooseVersion(a) <= LooseVersion(b)`. -/
def looseVersionLe (a b : Text) : Prop := componentsLt (components b) (components a) = false

instance : DecidableRel looseVersionLe := fun _ _ => inferInstanceAs (Decidable (_ = _))

/-- `sorted(keys, key=LooseVersion)`.  The version of the empty text has no components to
compare, so a comparison with it raises. -/
def sortedByVersion (keys : List Text) : Except PyError (List Text) :=
  if [] ∈ keys ∧ 2 ≤ keys.length then .error .attributeError
  else .ok (keys.insertionSort looseVersionLe)

example : sortedByVersion ["HSS-1.10.2".toList, "HSS-1.9.10".toList, "HSS-1.9.2".toList] =
    .ok ["HSS-1.9.2".toList, "HSS-1.9.10".toList, "HSS-1.10.2".toList] := by
  decide

/-- Sorting keeps the keys. -/
lemma perm_of_sortedByVersion {keys projects : List Text}
    (h : sortedByVersion keys = .ok projects) : projects.Perm keys := by
  unfold sortedByVersion at h
  split_ifs at h
  cases h
  exact List.perm_insertionSort _ _

end BuildHandler
