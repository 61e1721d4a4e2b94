import StTools.Lib.TextSearch
import StTools.LoadLogger.Averages
import StTools.LoadLogger.Telnet
import StTools.ScenarioDeployGenerator.Text
import Mathlib.Data.List.Chain

/-!
# Reading a load report

A report has a header with the number of its lines, and lines `name:field:sys traffic oam`.  `logLoad` goes
through it with one cursor, from one colon or blank to the next, and goes to the end of the line only when
it knows the processor.  Behind an unknown name the cursor stays at the last number of the line, so what it
takes for the next name begins with this number and the end of the line.  When there is no end of the line
behind a known processor, it returns at once.  Names are copied into a buffer of 100 bytes.

`updatesNamed_iff` says for which reports the processors that are named are updated.
-/

namespace LoadLogger

open TextSearch

/-- The names in `m_proc_list`. -/
structure ProcessorList (n : ℕ) where
  name : Fin n → Text
  /-- They were read from lines. -/
  name_newline : ∀ i, '\n' ∉ name i

namespace ProcessorList

variable {n : ℕ} (ps : ProcessorList n)

/-- `findProcessor`. -/
def findProcessor (name : Text) : Option (Fin n) := (List.finRange n).find? fun i => ps.name i = name

/-- `MAX_PROCESSOR_NAME_LEN`. -/
def maxProcessorNameLen : ℕ := 100

/-- A number that is read into an `unsigned int`. -/
def readUint (t : Text) : UInt32 := .ofNat (ScenarioDeployGenerator.atoi t % 2 ^ 32).toNat

/-- What `logLoad` has read of a report. -/
structure Reading (n : ℕ) where
  /-- The processors that are updated, with the numbers. -/
  entries : List (Fin n × Load)
  /-- `logLoad` comes to what is behind the loop. -/
  complete : Bool
  deriving DecidableEq

/-- One update more. -/
def Reading.cons (entry : Fin n × Load) (r : Reading n) : Reading n :=
  { r with entries := entry :: r.entries }

/-- The loop over the lines.  There is no result when a name is copied outside the buffer. -/
def readLines : ℕ → Text → Option (Reading n)
  | 0, _ => some ⟨[], true⟩
  | k + 1, koll =>
    match splitOnce [':'] koll with
    | none => some ⟨[], false⟩
    | some (tmp, koll) =>
      -- The copy ends with a zero.
      if maxProcessorNameLen ≤ tmp.length then none
      else
        match splitOnce [':'] koll with
        | none => some ⟨[], false⟩
        | some (_, koll) =>
          let sv := readUint koll
          match splitOnce [' '] koll with
          | none => some ⟨[], false⟩
          | some (_, koll) =>
            let tv := readUint koll
            match splitOnce [' '] koll with
            | none => some ⟨[], false⟩
            | some (_, koll) =>
              let oam := readUint koll
              match ps.findProcessor tmp with
              | some pos =>
                match splitOnce ['\n'] koll with
                | none => some ⟨[(pos, ⟨sv, tv, oam⟩)], false⟩
                | some (_, koll) => (readLines k koll).map (Reading.cons (pos, ⟨sv, tv, oam⟩))
              | none => readLines k koll

/-- `logLoad` up to the end of the loop. -/
def logLoad (ldata : Text) : Option (Reading n) :=
  match splitOnce "LoadData:".toList ldata with
  | none => some ⟨[], false⟩
  | some (_, koll) =>
    let nrofp := ScenarioDeployGenerator.atoi koll
    if nrofp = 0 then some ⟨[], false⟩ else ps.readLines nrofp.toNat (koll.drop 23)

end ProcessorList

/-! ## Reports -/

/-- A line of a report. -/
structure ReportLine where
  name : Text
  field : Text
  load : Load
  name_colon : ':' ∉ name
  name_newline : '\n' ∉ name
  field_colon : ':' ∉ field

namespace ReportLine

/-- The line. -/
def text (l : ReportLine) : Text :=
  l.name ++ ':' :: (l.field ++ ':' :: (Nat.toDigits 10 l.load.sv.toNat ++
    ' ' :: (Nat.toDigits 10 l.load.tv.toNat ++ ' ' :: Nat.toDigits 10 l.load.oam.toNat)))

/-- The last number of the line, and its end. -/
def ending (l : ReportLine) : Text := Nat.toDigits 10 l.load.oam.toNat ++ ['\n']

end ReportLine

/-- Each of the lines behind the end of the one before. -/
def linesBehind (ls : List ReportLine) : Text := ls.flatMap fun l => '\n' :: l.text

/-- Lines with their ends between them. -/
def linesText : List ReportLine → Text
  | [] => []
  | l :: ls => l.text ++ linesBehind ls

/-- A report with a correct header. -/
structure LoadText where
  /-- What stands in front of it. -/
  before : Text
  /-- The header behind `LoadData:`. -/
  header : Text
  lines : List ReportLine
  /-- What stands behind the last number: the end of the line, or nothing, and more. -/
  after : Text
  after_digit : ∀ c ∈ after.head?, c.isDigit = false
  /-- No header begins before. -/
  before_header : ¬ "LoadData:".toList <:+: before ++ "LoadData:".toList.dropLast
  header_length : header.length = 23
  /-- The header begins with the number of lines. -/
  header_number : ∀ t, ScenarioDeployGenerator.atoi (header ++ t) = lines.length

/-- The text of a report. -/
def LoadText.text (r : LoadText) : Text :=
  r.before ++ "LoadData:".toList ++ (r.header ++ (linesText r.lines ++ r.after))

namespace ProcessorList

variable {n : ℕ} (ps : ProcessorList n)

/-- The updates that the lines stand for. -/
def updates (ls : List ReportLine) : List (Fin n × Load) :=
  ls.filterMap fun l => (ps.findProcessor l.name).map fun i => (i, l.load)

/-- The processors that are named in the report are updated, each with the numbers of its line, and no name
is copied outside the buffer. -/
def UpdatesNamed (r : LoadText) : Prop :=
  (ps.logLoad r.text).map Reading.entries = some (ps.updates r.lines)

/-- The variables of the loggers after the text of a report. -/
def logText (c : Site n) (s : Logger n) (ldata : Text) : Option (Logger n) :=
  (ps.logLoad ldata).map fun r => c.log s (.load r.entries)

/-- When the named processors are updated, the loggers are as after the entries of the lines. -/
lemma UpdatesNamed.logText {ps : ProcessorList n} {r : LoadText} (h : ps.UpdatesNamed r) (c : Site n)
    (s : Logger n) : ps.logText c s r.text = some (c.log s (.load (ps.updates r.lines))) := by
  have hread : ((ps.logLoad r.text).map Reading.entries).map (fun entries => c.log s (.load entries)) =
      some (c.log s (.load (ps.updates r.lines))) := by
    rw [show (ps.logLoad r.text).map Reading.entries = _ from h]
    rfl
  rw [Option.map_map] at hread
  exact hread

/-- The processor of a line is in the list. -/
def Known (l : ReportLine) : Prop := ps.findProcessor l.name ≠ none

instance : DecidablePred ps.Known := fun _ => inferInstanceAs (Decidable (_ ≠ _))

/-- The name of a line fits into the buffer behind the ending of the line before. -/
def FitsBehind (l l' : ReportLine) : Prop := l.ending.length + l'.name.length < maxProcessorNameLen

instance (l l' : ReportLine) : Decidable (FitsBehind l l') := inferInstanceAs (Decidable (_ < _))

/-- The names that are copied fit into the buffer: those that are known, the first that is not, and
each name behind it together with what is in front of it then. -/
def NamesFit (ls : List ReportLine) : Prop :=
  (∀ l ∈ ls.takeWhile (ps.Known ·) ++ (ls.dropWhile (ps.Known ·)).take 1,
    l.name.length < maxProcessorNameLen) ∧ (ls.dropWhile (ps.Known ·)).IsChain FitsBehind

instance : DecidablePred ps.NamesFit := fun _ => inferInstanceAs (Decidable (_ ∧ _))

/-- The reports for which the names are read right. -/
structure InOrder (ls : List ReportLine) : Prop where
  /-- No unknown name stands before a known one. -/
  order : ls.Pairwise fun l l' => ps.Known l' → ps.Known l
  /-- The names fit into the buffer. -/
  fits : ∀ l ∈ ls, l.name.length < maxProcessorNameLen
  /-- They do so behind what an unknown name leaves. -/
  fitsBehind : ls.IsChain fun l l' => ¬ ps.Known l → FitsBehind l l'

end ProcessorList

/-! ## The cursor -/

section Cursor

variable {n : ℕ} {ps : ProcessorList n} {l : ReportLine} {ls : List ReportLine}

open ProcessorList

/-- A written number ends in front of what is no digit. -/
lemma readUint_toDigits (m : UInt32) {r : Text} (hr : ∀ c ∈ r.head?, c.isDigit = false) :
    readUint (Nat.toDigits 10 m.toNat ++ r) = m := by
  have hlt : m.toNat < 2 ^ 32 := m.toNat_lt
  rw [readUint, ScenarioDeployGenerator.atoi_append hr]
  have hwrap : (ScenarioDeployGenerator.toInt32 (min m.toNat (2 ^ 63 - 1)) % 2 ^ 32).toNat = m.toNat := by
    unfold ScenarioDeployGenerator.toInt32
    omega
  rw [hwrap, UInt32.ofNat_toNat]

/-- Only digits are written for a number. -/
lemma notMem_toDigits {c : Char} (hc : c.isDigit = false) (m : ℕ) : c ∉ Nat.toDigits 10 m := by
  intro hmem
  rw [Nat.isDigit_of_mem_toDigits (by decide) (by decide) hmem] at hc
  cases hc

/-- **A line.**  When something without a colon is in front of a line, it is taken for a part of the name.
The cursor goes behind the end of the line if this name is known, and else it stays at the last number. -/
lemma readLines_line {p : Text} (hp : ':' ∉ p) (k : ℕ) {t : Text}
    (ht : ∀ c ∈ t.head?, c.isDigit = false) :
    ps.readLines (k + 1) (p ++ (l.text ++ t)) =
      if maxProcessorNameLen ≤ (p ++ l.name).length then none
      else match ps.findProcessor (p ++ l.name) with
        | some i =>
          match splitOnce ['\n'] (Nat.toDigits 10 l.load.oam.toNat ++ t) with
          | none => some ⟨[(i, l.load)], false⟩
          | some (_, koll) => (ps.readLines k koll).map (Reading.cons (i, l.load))
        | none => ps.readLines k (Nat.toDigits 10 l.load.oam.toNat ++ t) := by
  have hname : ':' ∉ p ++ l.name := by simp [hp, l.name_colon]
  have hblank : ∀ m, ' ' ∉ Nat.toDigits 10 m := notMem_toDigits (by decide)
  have htext : p ++ (l.text ++ t) = (p ++ l.name) ++ ':' :: (l.field ++ ':' ::
      (Nat.toDigits 10 l.load.sv.toNat ++ ' ' :: (Nat.toDigits 10 l.load.tv.toNat ++
        ' ' :: (Nat.toDigits 10 l.load.oam.toNat ++ t)))) := by
    simp [ReportLine.text]
  rw [htext, readLines, splitOnce_singleton hname]
  dsimp only
  rw [splitOnce_singleton l.field_colon]
  dsimp only
  rw [splitOnce_singleton (hblank _)]
  dsimp only
  rw [splitOnce_singleton (hblank _)]
  dsimp only
  rw [readUint_toDigits _ (by simp), readUint_toDigits _ (by simp), readUint_toDigits _ ht]

/-- The end of a line does not go on with its last number. -/
lemma newline_digit (t : Text) : ∀ c ∈ ('\n' :: t).head?, c.isDigit = false := by
  intro c hc
  obtain rfl : '\n' = c := Option.some.inj hc
  rfl

lemma only_newline_digit : ∀ c ∈ (['\n'] : Text).head?, c.isDigit = false := newline_digit []

/-- Nor does nothing. -/
lemma nothing_digit : ∀ c ∈ ([] : Text).head?, c.isDigit = false :=
  fun _ hc => absurd hc (Option.not_mem_none _)

/-- What stands behind a line does not go on with its last number. -/
lemma linesBehind_digit (ls : List ReportLine) {t : Text} (ht : ∀ c ∈ t.head?, c.isDigit = false) :
    ∀ c ∈ (linesBehind ls ++ t).head?, c.isDigit = false := by
  cases ls with
  | nil => exact ht
  | cons l ls => exact newline_digit _

/-- The end of a line is looked for behind its last number. -/
lemma splitOnce_ending (l : ReportLine) (t : Text) :
    splitOnce ['\n'] (Nat.toDigits 10 l.load.oam.toNat ++ '\n' :: t) =
      some (Nat.toDigits 10 l.load.oam.toNat, t) :=
  splitOnce_singleton (notMem_toDigits (by decide) _) t

/-- There is an end of the line somewhere behind it. -/
lemma exists_splitOnce_ending (l : ReportLine) {t : Text} (ht : '\n' ∈ t) :
    ∃ a b, splitOnce ['\n'] (Nat.toDigits 10 l.load.oam.toNat ++ t) = some (a, b) := by
  obtain ⟨a, b, rfl⟩ := List.append_of_mem ht
  cases hend : splitOnce ['\n'] (Nat.toDigits 10 l.load.oam.toNat ++ (a ++ '\n' :: b)) with
  | some ab => exact ⟨ab.1, ab.2, rfl⟩
  | none =>
    refine absurd ⟨Nat.toDigits 10 l.load.oam.toNat ++ a, b, ?_⟩ (splitOnce_eq_none_iff.mp hend)
    simp

/-- There is none. -/
lemma splitOnce_ending_of_notMem (l : ReportLine) {t : Text} (ht : '\n' ∉ t) :
    splitOnce ['\n'] (Nat.toDigits 10 l.load.oam.toNat ++ t) = none := by
  refine splitOnce_eq_none_iff.mpr fun hinfix => ?_
  have hmem : '\n' ∈ Nat.toDigits 10 l.load.oam.toNat ++ t := hinfix.subset List.mem_cons_self
  exact (List.mem_append.mp hmem).elim (notMem_toDigits (by decide) _) ht

/-- No processor has the end of a line in its name. -/
lemma findProcessor_newline {name : Text} (h : '\n' ∈ name) : ps.findProcessor name = none := by
  refine List.find?_eq_none.mpr fun i _ hi => ?_
  have heq : ps.name i = name := of_decide_eq_true hi
  exact ps.name_newline i (heq ▸ h)

/-- **Behind an unknown name.**  Nothing more is updated, and the names are copied with what is in front of
them. -/
lemma readLines_ending (l : ReportLine) (ls : List ReportLine) {t : Text}
    (ht : ∀ c ∈ t.head?, c.isDigit = false) :
    ps.readLines ls.length (Nat.toDigits 10 l.load.oam.toNat ++ (linesBehind ls ++ t)) =
      if (l :: ls).IsChain FitsBehind then some ⟨[], true⟩ else none := by
  induction ls generalizing l with
  | nil => simp [readLines]
  | cons l' ls ih =>
    have hcolon : ':' ∉ l.ending := by simp [ReportLine.ending, notMem_toDigits]
    have hnewline : '\n' ∈ l.ending ++ l'.name := by simp [ReportLine.ending]
    have htext : Nat.toDigits 10 l.load.oam.toNat ++ (linesBehind (l' :: ls) ++ t) =
        l.ending ++ (l'.text ++ (linesBehind ls ++ t)) := by
      simp [linesBehind, ReportLine.ending]
    rw [htext, List.length_cons, readLines_line hcolon _ (linesBehind_digit ls ht),
      findProcessor_newline hnewline]
    dsimp only
    rw [ih l']
    by_cases hfit : FitsBehind l l'
    · rw [if_neg (by rw [List.length_append]; exact Nat.not_le.mpr hfit)]
      simp [hfit]
    · rw [if_pos (by rw [List.length_append]; exact Nat.not_lt.mp hfit)]
      simp [hfit]

/-- Behind a known name the names are those of the other lines. -/
lemma namesFit_cons_of_known (h : ps.Known l) :
    ps.NamesFit (l :: ls) ↔ l.name.length < maxProcessorNameLen ∧ ps.NamesFit ls := by
  unfold NamesFit
  rw [List.takeWhile_cons_of_pos (by simpa using h), List.dropWhile_cons_of_pos (by simpa using h),
    List.cons_append, List.forall_mem_cons, and_assoc]

/-- Behind an unknown name they have something in front of them. -/
lemma namesFit_cons_of_unknown (h : ¬ ps.Known l) :
    ps.NamesFit (l :: ls) ↔
      l.name.length < maxProcessorNameLen ∧ (l :: ls).IsChain FitsBehind := by
  unfold NamesFit
  rw [List.takeWhile_cons_of_neg (by simpa using h), List.dropWhile_cons_of_neg (by simpa using h)]
  simp

/-- The first name fits. -/
lemma NamesFit.head_lt (h : ps.NamesFit (l :: ls)) : l.name.length < maxProcessorNameLen := by
  by_cases hknown : ps.Known l
  · exact ((namesFit_cons_of_known hknown).mp h).1
  · exact ((namesFit_cons_of_unknown hknown).mp h).1

/-- **What is read of a report.**  The processors in front of the first unknown name are updated, and
`logLoad` comes to its end unless all names are known and the last line has no end. -/
theorem readLines_linesText (ls : List ReportLine) {t : Text}
    (ht : ∀ c ∈ t.head?, c.isDigit = false) :
    ps.readLines ls.length (linesText ls ++ t) =
      if ps.NamesFit ls then
        some ⟨ps.updates (ls.takeWhile (ps.Known ·)),
          ls = [] ∨ '\n' ∈ t ∨ ∃ l ∈ ls, ¬ ps.Known l⟩
      else none := by
  induction ls with
  | nil =>
    rw [if_pos ⟨fun l hl => absurd hl List.not_mem_nil, .nil⟩]
    simp [readLines, updates]
  | cons l ls ih =>
    have htext : linesText (l :: ls) ++ t = [] ++ (l.text ++ (linesBehind ls ++ t)) := by
      simp [linesText]
    rw [htext, List.length_cons, readLines_line List.not_mem_nil _ (linesBehind_digit ls ht),
      List.nil_append]
    by_cases hfit : l.name.length < maxProcessorNameLen
    · rw [if_neg (Nat.not_le.mpr hfit)]
      cases hfind : ps.findProcessor l.name with
      | none =>
        have hunknown : ¬ ps.Known l := by simp [Known, hfind]
        dsimp only
        rw [readLines_ending l ls ht]
        simp [namesFit_cons_of_unknown hunknown, hfit, hunknown, updates]
      | some i =>
        have hknown : ps.Known l := by simp [Known, hfind]
        dsimp only
        rw [if_congr ((namesFit_cons_of_known hknown).trans (and_iff_right hfit)) rfl rfl,
          List.takeWhile_cons_of_pos (by simpa using hknown)]
        have hupdates : ∀ ls : List ReportLine,
            ps.updates (l :: ls) = (i, l.load) :: ps.updates ls := fun ls => by simp [updates, hfind]
        rw [hupdates]
        cases ls with
        | cons l' ls =>
          have hrest : Nat.toDigits 10 l.load.oam.toNat ++ (linesBehind (l' :: ls) ++ t) =
              Nat.toDigits 10 l.load.oam.toNat ++ '\n' :: (linesText (l' :: ls) ++ t) := by
            simp [linesBehind, linesText]
          rw [hrest, splitOnce_ending]
          dsimp only
          rw [ih]
          split_ifs with hnames
          · simp [Reading.cons, hknown]
          · rfl
        | nil =>
          have hline : linesBehind [] ++ t = t := rfl
          have hnone : ps.NamesFit [] := ⟨fun l hl => absurd hl List.not_mem_nil, .nil⟩
          rw [hline, if_pos hnone]
          by_cases hin : '\n' ∈ t
          · obtain ⟨a, b, hend⟩ := exists_splitOnce_ending l hin
            rw [hend]
            simp [readLines, Reading.cons, hin, updates]
          · rw [splitOnce_ending_of_notMem l hin]
            simp [hin, hknown, updates]
    · have hnames : ¬ ps.NamesFit (l :: ls) := fun h => hfit (NamesFit.head_lt h)
      rw [if_pos (Nat.not_lt.mp hfit), if_neg hnames]

/-- The names behind an unknown one fit when they fit with what is in front of them. -/
lemma fits_of_isChain (h : (l :: ls).IsChain FitsBehind) :
    ∀ l' ∈ ls, l'.name.length < maxProcessorNameLen := by
  induction ls generalizing l with
  | nil => exact fun _ hl' => nomatch hl'
  | cons k ls ih =>
    rw [List.isChain_cons_cons] at h
    rintro l' (_ | ⟨_, hl'⟩)
    · exact (Nat.le_add_left _ _).trans_lt h.1
    · exact ih h.2 l' hl'

/-- There are no updates exactly when no name is known. -/
lemma updates_eq_nil_iff : ps.updates ls = [] ↔ ∀ l ∈ ls, ¬ ps.Known l := by
  simp [updates, Known]

/-- The first line of a report that is in order. -/
lemma inOrder_cons_iff : ps.InOrder (l :: ls) ↔
    l.name.length < maxProcessorNameLen ∧
      if ps.Known l then ps.InOrder ls
      else (∀ l' ∈ ls, ¬ ps.Known l') ∧ (l :: ls).IsChain FitsBehind := by
  constructor
  · rintro ⟨horder, hfits, hbehind⟩
    obtain ⟨hhead, hrest⟩ := List.pairwise_cons.mp horder
    refine ⟨hfits l List.mem_cons_self, ?_⟩
    split_ifs with hknown
    · exact ⟨hrest, fun l' hl' => hfits l' (List.mem_cons_of_mem l hl'), hbehind.tail⟩
    · have hunknown : ∀ l' ∈ l :: ls, ¬ ps.Known l' :=
        List.forall_mem_cons.mpr ⟨hknown, fun l' hl' h => hknown (hhead l' hl' h)⟩
      refine ⟨(List.forall_mem_cons.mp hunknown).2, ?_⟩
      exact hbehind.imp_of_mem_imp fun a b ha _ h => h (hunknown a ha)
  · rintro ⟨hfit, hrest⟩
    split_ifs at hrest with hknown
    · obtain ⟨horder, hfits, hbehind⟩ := hrest
      refine ⟨.cons (fun _ _ _ => hknown) horder, List.forall_mem_cons.mpr ⟨hfit, hfits⟩, ?_⟩
      cases ls with
      | nil => exact .singleton l
      | cons => exact .cons_cons (fun h => absurd hknown h) hbehind
    · obtain ⟨hunknown, hchain⟩ := hrest
      have hrest : ls.Pairwise fun l l' => ps.Known l' → ps.Known l :=
        List.pairwise_of_forall_mem_list fun a _ b hb h => absurd h (hunknown b hb)
      exact ⟨.cons (fun b hb h => absurd h (hunknown b hb)) hrest,
        List.forall_mem_cons.mpr ⟨hfit, fits_of_isChain hchain⟩, hchain.imp fun _ _ h _ => h⟩

/-- All names that are known are in front of the first unknown one. -/
lemma updates_takeWhile_iff : ps.updates (ls.takeWhile (ps.Known ·)) = ps.updates ls ↔
    ∀ l ∈ ls.dropWhile (ps.Known ·), ¬ ps.Known l := by
  have hsplit : ps.updates ls = ps.updates (ls.takeWhile (ps.Known ·)) ++
      ps.updates (ls.dropWhile (ps.Known ·)) := by
    conv_lhs => rw [← List.takeWhile_append_dropWhile (p := (ps.Known ·)) (l := ls)]
    exact List.filterMap_append
  rw [hsplit, List.self_eq_append_right, updates_eq_nil_iff]

/-- The names fit and the known ones come first exactly when the lines are in order. -/
lemma inOrder_iff_namesFit : ps.InOrder ls ↔
    ps.NamesFit ls ∧ ∀ l ∈ ls.dropWhile (ps.Known ·), ¬ ps.Known l := by
  induction ls with
  | nil =>
    exact iff_of_true ⟨.nil, fun _ h => absurd h List.not_mem_nil, .nil⟩
      ⟨⟨fun _ h => absurd h List.not_mem_nil, .nil⟩, fun _ h => absurd h List.not_mem_nil⟩
  | cons l ls ih =>
    rw [inOrder_cons_iff]
    by_cases hknown : ps.Known l
    · rw [if_pos hknown, namesFit_cons_of_known hknown,
        List.dropWhile_cons_of_pos (by simpa using hknown), ih, and_assoc]
    · rw [if_neg hknown, namesFit_cons_of_unknown hknown,
        List.dropWhile_cons_of_neg (by simpa using hknown), List.forall_mem_cons,
        and_iff_right hknown, and_assoc, and_comm (b := List.IsChain _ _)]

end Cursor

namespace ProcessorList

variable {n : ℕ}

/-- What is read of the text of a report. -/
lemma logLoad_text (ps : ProcessorList n) (r : LoadText) : ps.logLoad r.text =
    if ps.NamesFit r.lines then
      some ⟨ps.updates (r.lines.takeWhile (ps.Known ·)),
        r.lines ≠ [] ∧ ('\n' ∈ r.after ∨ ∃ l ∈ r.lines, ¬ ps.Known l)⟩
    else none := by
  have hnumber : ScenarioDeployGenerator.atoi (r.header ++ (linesText r.lines ++ r.after)) =
      r.lines.length := r.header_number _
  rw [logLoad, LoadText.text, splitOnce_append_pattern r.before_header]
  dsimp only
  rw [hnumber]
  by_cases hnone : r.lines = []
  · rw [hnone, List.length_nil, Nat.cast_zero, if_pos rfl]
    simp [NamesFit, updates]
  · have hlength : (r.lines.length : ℤ) ≠ 0 := by simpa using hnone
    rw [if_neg hlength, List.drop_append_of_le_length (by rw [r.header_length]), ← r.header_length,
      List.drop_length, List.nil_append, Int.toNat_natCast, readLines_linesText _ r.after_digit]
    simp [hnone]

/-- **When the processors that are named are updated.**  They are, each with the numbers of its line, and
names stay in the buffer, exactly when no unknown name stands before a known one, all names have fewer than
100 characters, and the name behind an unknown one has so even with the last number of the line before it
and the end of the line. -/
theorem updatesNamed_iff (ps : ProcessorList n) (r : LoadText) :
    ps.UpdatesNamed r ↔ ps.InOrder r.lines := by
  rw [UpdatesNamed, ps.logLoad_text, inOrder_iff_namesFit, ← updates_takeWhile_iff]
  split_ifs with hfit
  · rw [Option.map_some, Option.some.injEq, and_iff_right hfit]
  · exact iff_of_false (fun h => by cases h) fun h => hfit h.1

/-- A list of one processor. -/
def oneProcessor : ProcessorList 1 := ⟨fun _ => "Proc_m0_s1".toList, by decide⟩

/-- A field without colons. -/
lemma zero_colon : ':' ∉ "0".toList := by decide

/-- No header begins in front of the first line. -/
lemma nothing_before_header : ¬ "LoadData:".toList <:+: [] ++ "LoadData:".toList.dropLast := by decide

/-- The header of a report with two lines. -/
def twoProcessors : Text := "2 processors, all of 23".toList

lemma twoProcessors_length : twoProcessors.length = 23 := by decide

lemma twoProcessors_number (t : Text) : ScenarioDeployGenerator.atoi (twoProcessors ++ t) = 2 :=
  ScenarioDeployGenerator.atoi_append (m := 2) (r := " processors, all of 23".toList ++ t) (by simp)

/-- A report with a line for an unknown processor, and one for that of the list. -/
def unknownFirst : LoadText where
  before := []
  header := twoProcessors
  lines :=
    [⟨"Proc_m0_s7".toList, "0".toList, ⟨1, 2, 3⟩, by decide, by decide, zero_colon⟩,
      ⟨"Proc_m0_s1".toList, "0".toList, ⟨4, 5, 6⟩, by decide, by decide, zero_colon⟩]
  after := ['\n']
  after_digit := only_newline_digit
  before_header := nothing_before_header
  header_length := twoProcessors_length
  header_number := twoProcessors_number

/-- The processor of the list is not updated. -/
theorem unknownFirst_not_updatesNamed :
    oneProcessor.logLoad unknownFirst.text = some ⟨[], true⟩ ∧
      oneProcessor.updates unknownFirst.lines = [(0, ⟨4, 5, 6⟩)] ∧
      ¬ oneProcessor.UpdatesNamed unknownFirst := by
  have hread : oneProcessor.logLoad unknownFirst.text = some ⟨[], true⟩ := by decide +kernel
  have hupdates : oneProcessor.updates unknownFirst.lines = [(0, ⟨4, 5, 6⟩)] := by decide +kernel
  refine ⟨hread, hupdates, fun h => ?_⟩
  rw [UpdatesNamed, hread, hupdates] at h
  cases h

end ProcessorList

end LoadLogger
