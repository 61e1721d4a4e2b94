import StTools.ScenarioDeployGenerator.Text
import StTools.Lib.LabelledSystem

/-!
# The control of the reports

The proxy writes two reports, about latencies and about result codes, and four remote commands control
them.  Each command reads the name of a report, looks at the flags of this report and changes them; only
`change_file_report` looks at the flag of the second report for both.

`safe_iff_orderly` says in which runs of commands no report has its file name changed while it runs.
-/

namespace DiaProxy

open ScenarioDeployGenerator (Text isSpace)

/-- What of `CER_DATA` belongs to a report. -/
structure ReportState where
  /-- The report is enabled. -/
  enabled : Bool
  /-- It is running. -/
  running : Bool
  /-- The name of its file, an array of 100 characters.  What a longer name writes behind it is not
  modelled. -/
  file : Text
  deriving Repr, DecidableEq

/-- The two reports. -/
inductive ReportName
  | latency
  | resultCodes
  deriving Repr, DecidableEq

/-- The names that the commands know. -/
def ReportName.ofText (t : Text) : Option ReportName :=
  if t = "latency".toList then some .latency
  else if t = "result_codes".toList then some .resultCodes
  else none

/-- The reports of the proxy. -/
structure Reports where
  latency : ReportState
  resultCodes : ReportState
  deriving Repr, DecidableEq

namespace Reports

/-- One of the reports. -/
def get (s : Reports) : ReportName → ReportState
  | .latency => s.latency
  | .resultCodes => s.resultCodes

/-- One of the reports is changed. -/
def set (s : Reports) (name : ReportName) (r : ReportState) : Reports :=
  match name with
  | .latency => { s with latency := r }
  | .resultCodes => { s with resultCodes := r }

@[simp] lemma get_set_self (s : Reports) (name : ReportName) (r : ReportState) :
    (s.set name r).get name = r := by
  cases name <;> rfl

lemma get_set_of_ne (s : Reports) {name other : ReportName} (h : other ≠ name) (r : ReportState) :
    (s.set name r).get other = s.get other := by
  cases name <;> cases other <;> first | rfl | exact absurd rfl h

/-! ## The commands -/

/-- The next word of a command, and what is left of it. -/
def word (cmd : Text) : Text × Text :=
  ((cmd.dropWhile isSpace).takeWhile (!isSpace ·), (cmd.dropWhile isSpace).dropWhile (!isSpace ·))

/-- The answer of a command that has done something. -/
def success : Text := "SUCCESS \n".toList

/-- What the answer of a command that has failed begins with. -/
def errorPrefix : Text := "\nERROR: ".toList

/-- There is no file name. -/
def emptyFileName : Text := errorPrefix ++ "file name is empty \n".toList

/-- The report is not known. -/
def wrongReport (report allowed : Text) : Text :=
  errorPrefix ++ "Wrong report value: ".toList ++ report ++ "\n\t ".toList ++ allowed ++
    " values :  latency result_codes\n".toList

/-- The report is not in the right state. -/
def wrongState (report state : Text) : Text :=
  errorPrefix ++ report ++ " report is ".toList ++ state ++ "\n".toList

/-- A report is changed, or the command is answered with an error. -/
def update (s : Reports) (report allowed : Text) (f : ReportState → Except Text ReportState) :
    Reports × Text :=
  match ReportName.ofText report with
  | none => (s, wrongReport report allowed)
  | some name =>
    match f (s.get name) with
    | .ok r => (s.set name r, success)
    | .error answer => (s, answer)

/-- The report is enabled, with this file. -/
def enable (file : Text) (r : ReportState) : Except Text ReportState :=
  .ok { r with enabled := true, file := file }

/-- The report gets this file; whether the second report is running decides for both. -/
def changeFile (report file : Text) (resultCodesRunning : Bool) (r : ReportState) :
    Except Text ReportState :=
  if r.enabled = false then .error (wrongState report "not enabled.".toList)
  else if resultCodesRunning then
    .error (wrongState report "already running".toList ++
      "\t Stop report before changing file name\n".toList)
  else .ok { r with file := file }

/-- The report is started. -/
def start (report : Text) (r : ReportState) : Except Text ReportState :=
  if r.enabled = false then .error (wrongState report "not enabled.".toList)
  else if r.running then .error (wrongState report "already running".toList)
  else .ok { r with running := true }

/-- The report is stopped. -/
def stop (report : Text) (r : ReportState) : Except Text ReportState :=
  if r.enabled = false then .error (wrongState report "not enabled.".toList)
  else if r.running = false then .error (wrongState report "not running".toList)
  else .ok { r with running := false }

/-- `enable_report`. -/
def enableReport (s : Reports) (cmd : Text) : Reports × Text :=
  let report := (word cmd).1
  let file := (word (word cmd).2).1
  if file = [] then (s, emptyFileName)
  else s.update report "Allowed".toList (enable file)

/-- `change_file_report`. -/
def changeFileReport (s : Reports) (cmd : Text) : Reports × Text :=
  let report := (word cmd).1
  let file := (word (word cmd).2).1
  if file = [] then (s, emptyFileName)
  else s.update report "Allowe".toList (changeFile report file s.resultCodes.running)

/-- `start_report`. -/
def startReport (s : Reports) (cmd : Text) : Reports × Text :=
  let report := (word cmd).1
  s.update report "Allowe".toList (start report)

/-- `stop_report`. -/
def stopReport (s : Reports) (cmd : Text) : Reports × Text :=
  let report := (word cmd).1
  s.update report "Allowe".toList (stop report)

/-- A command, with what follows its name. -/
inductive Command
  | enableReport (cmd : Text)
  | changeFileReport (cmd : Text)
  | startReport (cmd : Text)
  | stopReport (cmd : Text)
  deriving Repr, DecidableEq

/-- The reports after a command, and its answer. -/
def run (s : Reports) : Command → Reports × Text
  | .enableReport cmd => s.enableReport cmd
  | .changeFileReport cmd => s.changeFileReport cmd
  | .startReport cmd => s.startReport cmd
  | .stopReport cmd => s.stopReport cmd

/-- One step. -/
def step (s : Reports) (c : Command) : Option Reports := some (s.run c).1

/-- The reports at the start of the proxy. -/
def init : Reports :=
  ⟨⟨false, false, "Not configured".toList⟩, ⟨false, false, "Not configured".toList⟩⟩

/-! ## What should hold -/

/-- Only a report that is enabled runs. -/
def Enabled (s : Reports) : Prop := ∀ name, (s.get name).running = true → (s.get name).enabled = true

/-- The command is safe: afterwards only reports that are enabled run; no file name of a running report
has changed; a new file name has its place; and a command that is answered with an error has done
nothing. -/
structure Safe (s : Reports) (c : Command) : Prop where
  /-- Only reports that are enabled run. -/
  enabled : (s.run c).1.Enabled
  /-- The file of a running report stays. -/
  file : ∀ name, (s.get name).running = true → ((s.run c).1.get name).file = (s.get name).file
  /-- A new file name has its place. -/
  fits : ∀ name, ((s.run c).1.get name).file ≠ (s.get name).file →
    ((s.run c).1.get name).file.length < 100
  /-- An error leaves everything. -/
  error : errorPrefix <+: (s.run c).2 → (s.run c).1 = s

/-- A report may be given this file name: it has it already, or it is not running and the name is
short. -/
def MayGive (s : Reports) (cmd : Text) (name : ReportName) : Prop :=
  (word (word cmd).2).1 = (s.get name).file ∨
    ((s.get name).running = false ∧ (word (word cmd).2).1.length < 100)

/-- The command is in order: a file name is only given to a report that may be given it. -/
def Orderly (s : Reports) : Command → Prop
  | .enableReport cmd => (word (word cmd).2).1 ≠ [] →
      ∀ name, ReportName.ofText (word cmd).1 = some name → s.MayGive cmd name
  | .changeFileReport cmd => (word (word cmd).2).1 ≠ [] →
      ∀ name, ReportName.ofText (word cmd).1 = some name → (s.get name).enabled = true →
        s.resultCodes.running = false → s.MayGive cmd name
  | _ => True

/-! ## What a command does -/

variable {s : Reports} {c : Command}

/-- A command changes nothing, or one report. -/
lemma update_cases (s : Reports) (report allowed : Text) (f : ReportState → Except Text ReportState) :
    (∃ answer, s.update report allowed f = (s, answer) ∧
        ∀ name, ReportName.ofText report = some name → ∃ e, f (s.get name) = .error e) ∨
      ∃ name r, ReportName.ofText report = some name ∧ f (s.get name) = .ok r ∧
        s.update report allowed f = (s.set name r, success) := by
  unfold update
  cases hname : ReportName.ofText report with
  | none => exact .inl ⟨_, rfl, nofun⟩
  | some name =>
    cases hf : f (s.get name) with
    | error answer =>
      refine .inl ⟨answer, by simp only [hf], fun other hother => ?_⟩
      obtain rfl := Option.some.inj hother
      exact ⟨answer, hf⟩
    | ok r => exact .inr ⟨name, r, rfl, hf, by simp only [hf]⟩

/-- A command that changes nothing is safe. -/
lemma safe_of_same (h : s.Enabled) (hsame : (s.run c).1 = s) : s.Safe c where
  enabled := by rwa [hsame]
  file _ _ := by rw [hsame]
  fits name hne := absurd (by rw [hsame]) hne
  error _ := hsame

/-- When a command that changes a report is safe. -/
lemma safe_iff_of_set (h : s.Enabled) {name : ReportName} {r : ReportState}
    (hrun : s.run c = (s.set name r, success)) (henabled : r.running = true → r.enabled = true) :
    s.Safe c ↔ r.file = (s.get name).file ∨
      ((s.get name).running = false ∧ r.file.length < 100) := by
  constructor
  · intro hsafe
    by_cases hfile : r.file = (s.get name).file
    · exact .inl hfile
    · have hfits := hsafe.fits name
      have hrunning := hsafe.file name
      simp only [hrun, get_set_self] at hfits hrunning
      refine .inr ⟨?_, hfits hfile⟩
      by_contra hon
      exact hfile (hrunning (Bool.not_eq_false _ ▸ hon))
  · intro hmay
    refine ⟨fun other => ?_, fun other => ?_, fun other => ?_, fun herror => ?_⟩
    · rw [hrun]
      by_cases hother : other = name
      · subst hother
        rwa [get_set_self]
      · rw [get_set_of_ne s hother]
        exact h other
    · intro hon
      rw [hrun]
      by_cases hother : other = name
      · subst hother
        rw [get_set_self]
        exact hmay.resolve_right fun hoff => by simp [hoff.1] at hon
      · rw [get_set_of_ne s hother]
    · rw [hrun]
      by_cases hother : other = name
      · subst hother
        rw [get_set_self]
        exact fun hne => (hmay.resolve_left hne).2
      · rw [get_set_of_ne s hother]
        exact fun hne => absurd rfl hne
    · have hsuccess : ¬ errorPrefix <+: success := by decide
      rw [hrun] at herror
      exact absurd herror hsuccess

/-- `start_report` and `stop_report` change the flag of a report that is enabled only. -/
lemma safe_of_flag (h : s.Enabled) {report allowed : Text} {f : ReportState → Except Text ReportState}
    (hrun : s.run c = s.update report allowed f)
    (hf : ∀ r r', f r = .ok r' → r'.file = r.file ∧ r'.enabled = true) : s.Safe c := by
  obtain ⟨answer, hupdate, -⟩ | ⟨name, r, -, hr, hupdate⟩ := s.update_cases report allowed f
  · exact safe_of_same h (by rw [hrun, hupdate])
  · obtain ⟨hfile, henabled⟩ := hf _ r hr
    exact (safe_iff_of_set h (hrun.trans hupdate) fun _ => henabled).mpr (.inl hfile)

/-- A command that gives a file name to a report is safe when the report may be given it. -/
lemma safe_iff_of_file (h : s.Enabled) {cmd allowed : Text} {f : ReportState → Except Text ReportState}
    {P : ReportState → Prop} (hrun : s.run c = s.update (word cmd).1 allowed f)
    (hf : ∀ r r', f r = .ok r' →
      P r ∧ r'.file = (word (word cmd).2).1 ∧ r'.enabled = true)
    (herror : ∀ r e, f r = .error e → ¬ P r) :
    s.Safe c ↔ ∀ name, ReportName.ofText (word cmd).1 = some name → P (s.get name) →
      s.MayGive cmd name := by
  obtain ⟨answer, hupdate, hnot⟩ | ⟨name, r, hname, hr, hupdate⟩ :=
    s.update_cases (word cmd).1 allowed f
  · refine iff_of_true (safe_of_same h (by rw [hrun, hupdate])) fun name hname hok => ?_
    obtain ⟨e, he⟩ := hnot name hname
    exact absurd hok (herror _ e he)
  · obtain ⟨hok, hfile, henabled⟩ := hf _ r hr
    rw [safe_iff_of_set h (hrun.trans hupdate) fun _ => henabled, hfile]
    constructor
    · intro hmay other hother _
      obtain rfl := Option.some.inj (hname.symm.trans hother)
      exact hmay
    · exact fun hall => hall name hname hok

/-- A report that is enabled stays so, with another file. -/
lemma enable_eq_ok {file : Text} {r r' : ReportState} (h : enable file r = .ok r') :
    r'.file = file ∧ r'.enabled = true := by
  cases h
  exact ⟨rfl, rfl⟩

/-- When the file of a report is changed. -/
lemma changeFile_eq_ok {report file : Text} {on : Bool} {r r' : ReportState}
    (h : changeFile report file on r = .ok r') :
    (r.enabled = true ∧ on = false) ∧ r'.file = file ∧ r'.enabled = true := by
  unfold changeFile at h
  split_ifs at h with henabled hon
  cases h
  rw [Bool.not_eq_false] at henabled
  rw [Bool.not_eq_true] at hon
  exact ⟨⟨henabled, hon⟩, rfl, henabled⟩

/-- When it is not. -/
lemma changeFile_eq_error {report file : Text} {on : Bool} {r : ReportState} {e : Text}
    (h : changeFile report file on r = .error e) : ¬ (r.enabled = true ∧ on = false) := by
  rintro ⟨henabled, rfl⟩
  simp [changeFile, henabled] at h

/-- Starting a report changes one flag. -/
lemma start_eq_ok {report : Text} {r r' : ReportState} (h : start report r = .ok r') :
    r'.file = r.file ∧ r'.enabled = true := by
  unfold start at h
  split_ifs at h with henabled
  cases h
  exact ⟨rfl, Bool.not_eq_false _ ▸ henabled⟩

/-- And so does stopping one. -/
lemma stop_eq_ok {report : Text} {r r' : ReportState} (h : stop report r = .ok r') :
    r'.file = r.file ∧ r'.enabled = true := by
  unfold stop at h
  split_ifs at h with henabled
  cases h
  exact ⟨rfl, Bool.not_eq_false _ ▸ henabled⟩

/-- **When a command is safe.** -/
theorem safe_iff (h : s.Enabled) : s.Safe c ↔ s.Orderly c := by
  cases c with
  | enableReport cmd =>
    by_cases hfile : (word (word cmd).2).1 = []
    · refine iff_of_true (safe_of_same h ?_) fun hne => absurd hfile hne
      simp [run, enableReport, hfile]
    · have hrun : s.run (.enableReport cmd) =
          s.update (word cmd).1 "Allowed".toList (enable (word (word cmd).2).1) := if_neg hfile
      rw [safe_iff_of_file (P := fun _ => True) h hrun
        (fun _ _ hr => ⟨trivial, enable_eq_ok hr⟩) nofun]
      simp [Orderly, hfile]
  | changeFileReport cmd =>
    by_cases hfile : (word (word cmd).2).1 = []
    · refine iff_of_true (safe_of_same h ?_) fun hne => absurd hfile hne
      simp [run, changeFileReport, hfile]
    · have hrun : s.run (.changeFileReport cmd) = s.update (word cmd).1 "Allowe".toList
          (changeFile (word cmd).1 (word (word cmd).2).1 s.resultCodes.running) := if_neg hfile
      rw [safe_iff_of_file (P := fun r => r.enabled = true ∧ s.resultCodes.running = false) h hrun
        (fun _ _ => changeFile_eq_ok) fun _ _ => changeFile_eq_error]
      simp [Orderly, hfile]
  | startReport cmd =>
    exact iff_of_true (safe_of_flag h (rfl : s.run (.startReport cmd) = s.update (word cmd).1
      "Allowe".toList (start (word cmd).1)) fun _ _ => start_eq_ok) trivial
  | stopReport cmd =>
    exact iff_of_true (safe_of_flag h (rfl : s.run (.stopReport cmd) = s.update (word cmd).1
      "Allowe".toList (stop (word cmd).1)) fun _ _ => stop_eq_ok) trivial

/-- A change that leaves a report enabled. -/
lemma Enabled.update (h : s.Enabled) {report allowed : Text} {f : ReportState → Except Text ReportState}
    (hf : ∀ r r', f r = .ok r' → r'.enabled = true) : (s.update report allowed f).1.Enabled := by
  obtain ⟨answer, hupdate, -⟩ | ⟨name, r, -, hr, hupdate⟩ := s.update_cases report allowed f
  · rwa [hupdate]
  · rw [hupdate]
    intro other
    by_cases hother : other = name
    · subst hother
      rw [get_set_self]
      exact fun _ => hf _ r hr
    · rw [get_set_of_ne s hother]
      exact h other

/-- A command keeps that only reports that are enabled run. -/
lemma Enabled.run (h : s.Enabled) (c : Command) : (s.run c).1.Enabled := by
  cases c with
  | enableReport cmd =>
    simp only [Reports.run, enableReport]
    split_ifs
    · exact h
    · exact h.update fun _ _ hr => (enable_eq_ok hr).2
  | changeFileReport cmd =>
    simp only [Reports.run, changeFileReport]
    split_ifs
    · exact h
    · exact h.update fun _ _ hr => (changeFile_eq_ok hr).2.2
  | startReport cmd => exact h.update fun _ _ hr => (start_eq_ok hr).2
  | stopReport cmd => exact h.update fun _ _ hr => (stop_eq_ok hr).2

/-- **When the control of the reports is safe**: in a run of commands each of them is safe exactly when each
is in order. -/
theorem safe_iff_orderly (cs : List Command) :
    LabelledSystem.Along step Safe init cs ↔ LabelledSystem.Along step Orderly init cs := by
  refine LabelledSystem.along_congr (I := Enabled) ?_ (fun _ _ _ h _ => safe_iff h) ?_
  · intro s c s' h hstep
    obtain rfl := Option.some.inj hstep
    exact h.run c
  · intro name hon
    cases name <;> cases hon

/-- The latency report gets another file while it runs. -/
def renamed : List Command :=
  [.enableReport " latency a".toList, .startReport " latency".toList,
    .changeFileReport " latency b".toList]

/-- And also when it is enabled a second time. -/
def enabledTwice : List Command :=
  [.enableReport " latency a".toList, .startReport " latency".toList,
    .enableReport " latency b".toList]

/-- The commands answer with success, and the report runs with another file. -/
theorem renamed_not_safe :
    (LabelledSystem.exec step init renamed).map Reports.latency =
        some ⟨true, true, "b".toList⟩ ∧
      (LabelledSystem.exec step init enabledTwice).map Reports.latency =
        some ⟨true, true, "b".toList⟩ ∧
      ¬ LabelledSystem.Along step Safe init renamed ∧
      ¬ LabelledSystem.Along step Safe init enabledTwice := by
  refine ⟨by decide +kernel, by decide +kernel, fun h => ?_, fun h => ?_⟩
  · obtain ⟨hsafe, -⟩ := ((h _ rfl).2 _ rfl).2 _ rfl
    have hfile := hsafe.file .latency (by decide +kernel)
    exact absurd hfile (by decide +kernel)
  · obtain ⟨hsafe, -⟩ := ((h _ rfl).2 _ rfl).2 _ rfl
    have hfile := hsafe.file .latency (by decide +kernel)
    exact absurd hfile (by decide +kernel)

end Reports

end DiaProxy
