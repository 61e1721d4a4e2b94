import StTools.LoadLogger.ConfigReader

/-!
# Configuration files

A configuration file consists of valid lines: blank lines, comments, and lines `key = value`.  Every line
should set exactly the parameter whose name stands before `=` to the given value.  `sets_iff` says for which
files `ReadCfg` does so.

Four things go wrong.  A name of another parameter in a value starts the block of this parameter, too.  A
last line without a newline is dropped.  A line of blanks makes `rtrim` leave the line.  And a line that
does not fit into the buffer is read in pieces.
-/

namespace ConfigReader

open ScenarioDeployGenerator (Text atoi)
open LinePieces TextSearch

/-! ## Lines -/

/-- Blanks inside a line. -/
abbrev Blanks := {t : Text // ∀ a ∈ t, a = ' ' ∨ a = '\t'}

/-- The text of a comment. -/
abbrev Comment := {t : Text // '\n' ∉ t ∧ Char.ofNat 0 ∉ t}

/-- A value, bare or in quotation marks. -/
structure Value where
  text : Text
  quoted : Bool
  /-- The value is not empty. -/
  ne_nil : text ≠ []
  /-- It is in one line, and neither a comment nor a quotation mark ends it. -/
  plain : ∀ a ∈ text, a ≠ '\n' ∧ a ≠ Char.ofNat 0 ∧ a ≠ '#' ∧ a ≠ '"'
  /-- Without quotation marks it neither begins nor ends with a blank. -/
  bare : quoted = false → ¬ isTrimmed (text.head ne_nil) ∧ ¬ isTrimmed (text.getLast ne_nil)

/-- The value as it stands in the line. -/
def Value.written (v : Value) : Text := if v.quoted then '"' :: (v.text ++ ['"']) else v.text

/-- The valid lines. -/
inductive Line
  | blank (blanks : Blanks)
  | comment (indent : Blanks) (text : Comment)
  | setting (key : Key) (indent beforeEq afterEq : Blanks) (value : Value) (trailing : Blanks)
      (note : Option Comment)

namespace Line

/-- The line without newline. -/
def text : Line → Text
  | blank blanks => blanks
  | comment indent text => indent ++ '#' :: text.1
  | setting key indent beforeEq afterEq value trailing note =>
    indent ++ key.name ++ beforeEq ++ '=' :: (afterEq ++ value.written ++ trailing ++
      match note with
      | none => []
      | some text => '#' :: text.1)

/-- The parameter of `ReadCfg` that the line sets, and the given value. -/
def setting? : Line → Option (Key × Text)
  | setting key _ _ _ value _ _ => if key ∈ blocks then some (key, value.text) else none
  | _ => none

end Line

/-- A configuration file: what is behind the version in the first line, the other lines, and whether the
last line has a newline. -/
structure ConfigFile where
  version : Comment
  lines : List Line
  closed : Bool

/-- The lines with their newlines. -/
def withEnds (closed : Bool) : List Line → List (Line × Text)
  | [] => []
  | [l] => [(l, if closed then l.text ++ ['\n'] else l.text)]
  | l :: l' :: ls => (l, l.text ++ ['\n']) :: withEnds closed (l' :: ls)

namespace ConfigFile

variable (file : ConfigFile)

/-- The first line. -/
def versionLine : Line :=
  .comment ⟨[], by simp⟩ ⟨"File version 1.02".toList ++ file.version.1, by
    have h := file.version.2
    rw [List.mem_append, List.mem_append, not_or, not_or]
    exact ⟨⟨by decide, h.1⟩, by decide, h.2⟩⟩

/-- All lines with their newlines. -/
def allLines : List (Line × Text) := withEnds file.closed (file.versionLine :: file.lines)

/-- The text of the file. -/
def text : Text := (file.allLines.map Prod.snd).flatten

/-- Every line with the pieces in which the loop of `ReadCfg` reads it.  The first piece of the file is
read in front of the loop. -/
def reads : List (Line × List Text) :=
  match file.allLines with
  | [] => []
  | (l, t) :: ls =>
    (l, (pieces '\n' lineMax [] t).tail) :: ls.map fun x => (x.1, pieces '\n' lineMax [] x.2)

end ConfigFile

/-! ## What a line should do -/

/-- The parameters after a line `key = value`. -/
def Key.given (env : Env) (key : Key) (value : Text) (p : Params) : Params :=
  match key with
  | excludeDicos => { p with excludedDicos := p.excludedDicos ++ [value] }
  | vip => { p with host := value, vipAddr := (env.getHostip value).getD p.vipAddr }
  | telorbShellPort => { p with port := atoi value }
  | loadLoggerPort => { p with vipPort := (atoi value % 2 ^ 16).toNat }
  | loadLogInterval => { p with loadLogInterval := atoi value, loadIval := atoi value }
  | buildOTAL => { p with buildOTALNr := (atoi value % 2 ^ 32).toNat }
  | memLogInterval => { p with memLogInterval := atoi value, memIval := atoi value }
  | logLoadReadings =>
    { p with logLoadReadings := value = yes, noLoadLog := value ≠ yes }
  | graphScanSize => { p with graphScanSize := (atoi value).toNat }
  | logLoadBinary => { p with logBinary := value = yes }
  | logMemReadings =>
    { p with logMemReadings := value = yes, noMemLog := value ≠ yes }
  | logTime =>
    let t := strToTime value ⟨0, 0, 0⟩
    { p with
      clock := t.2
      s2log := if 0 < t.1 then t.1 else p.s2log
      tlimited := 0 < t.1 }
  | summaryDirectory => { p with summaryDir := withSlash value }
  | memoryDirectory => { p with memDir := withSlash value }
  | loadDirectory => { p with loadDir := withSlash value }
  | cfgEditor => p

/-- The values that a parameter can have: the host has an address, the directory can be made, ports and
sizes are numbers.  An interval may be 0, which stands for logging as fast as possible. -/
def Key.Valid (env : Env) (key : Key) (value : Text) : Prop :=
  match key with
  | vip => (env.getHostip value).isSome
  | telorbShellPort | loadLoggerPort => atoi value ≠ 0
  | buildOTAL => 0 < atoi value
  | graphScanSize => 0 ≤ atoi value
  | summaryDirectory | memoryDirectory | loadDirectory => env.createDir (withSlash value)
  | _ => True

/-- The parameters after a line. -/
def afterLine (env : Env) (s : Option (Key × Text)) (p : Params) : Params :=
  match s with
  | none => p
  | some (key, value) => key.given env value p

/-- Reading the pieces of a line sets its own parameter, and no other block runs. -/
def Affects (env : Env) (s : Option (Key × Text)) (qs : List Text) (p : Params) : Prop :=
  ∃ ran, readLines env qs p = .ok (afterLine env s p, ran) ∧ ran.flatten = s.toList

/-- Every line sets its own parameter, in the state that the lines before it should leave. -/
def AllAffect (env : Env) : List (Line × List Text) → Params → Prop
  | [], _ => True
  | (l, qs) :: ls, p => Affects env l.setting? qs p ∧ AllAffect env ls (afterLine env l.setting? p)

/-- **What the format promises**: the file is accepted, and the parameters are those that its lines give,
each set by its own line. -/
def Sets (env : Env) (file : ConfigFile) (p : Params) : Prop :=
  (∃ ran, readCfg env file.text p =
    .ok (file.lines.foldl (fun p l => afterLine env l.setting? p) p, ran)) ∧
  AllAffect env file.reads p

/-! ## The condition -/

/-- What the block of a parameter does with a value is what should be done: an interval is not 0, and a
switch is not to be set back that an earlier line has set. -/
def Key.Settles (key : Key) (value : Text) (p : Params) : Prop :=
  match key with
  | loadLogInterval | memLogInterval => atoi value ≠ 0
  | logLoadReadings => value = yes → p.logLoadReadings = true ∧ p.noLoadLog = false
  | logLoadBinary => value ≠ yes → p.logBinary = false
  | logMemReadings => value = yes → p.logMemReadings = true ∧ p.noMemLog = false
  | _ => True

/-- The pieces of a line: one of them gives the value, if the line sets a parameter, and the others are
silent. -/
def Kept (s : Option (Key × Text)) (qs : List Text) : Prop :=
  match s with
  | none => ∀ q ∈ qs, Silent q
  | some (key, value) => ∃ a q b, qs = a ++ q :: b ∧ Gives q key value ∧ ∀ q' ∈ a ++ b, Silent q'

/-- A line is read as it should be.  For a line that fits into the buffer: a blank line has no blanks, a
line that sets a parameter has its newline, and no name of another parameter is in its value. -/
def Line.Clear (l : Line) (qs : List Text) : Prop :=
  if l.text.length < lineMax then
    match l with
    | blank _ => ∀ q ∈ qs, q.length = 1
    | comment _ _ => True
    | setting key _ _ _ value _ _ => (key ∈ blocks → qs ≠ []) ∧
        (qs ≠ [] → ∀ key' ∈ blocks, key' ≠ key → ¬ key'.name <:+: value.text)
  else Kept l.setting? qs

/-- All lines are read as they should be, in the state that the lines before them should leave. -/
def AllClear (env : Env) : List (Line × List Text) → Params → Prop
  | [], _ => True
  | (l, qs) :: ls, p =>
    (l.Clear qs ∧ ∀ s ∈ l.setting?, s.1.Settles s.2 p) ∧ AllClear env ls (afterLine env l.setting? p)

/-! ## The pieces of a line -/

variable {env : Env} {key : Key} {value : Text} {p p' : Params} {q : Text} {qs qs' : List Text}
  {ran : List (List (Key × Text))} {s : Option (Key × Text)}

lemma readLines_cons_iff : readLines env (q :: qs) p = .ok (p', ran) ↔
    ∃ p₁ r ran', readLine env q p = .ok (p₁, r) ∧ readLines env qs p₁ = .ok (p', ran') ∧ ran = r :: ran' := by
  rw [readLines]
  cases hq : readLine env q p with
  | error e =>
    refine ⟨fun h => (by cases h), ?_⟩
    rintro ⟨p₁, r, ran', hstep, -, -⟩
    cases hstep
  | ok x =>
    constructor
    · intro h
      dsimp only at h
      cases hqs : readLines env qs x.1 with
      | error e =>
        rw [hqs] at h
        cases h
      | ok y =>
        rw [hqs] at h
        cases h
        exact ⟨x.1, x.2, y.2, rfl, hqs, rfl⟩
    · rintro ⟨p₁, r, ran', hstep, hrest, rfl⟩
      cases hstep
      dsimp only
      rw [hrest]
      rfl

lemma readLines_append (h : readLines env qs p = .ok (p', ran)) {p'' : Params}
    {ran' : List (List (Key × Text))} (h' : readLines env qs' p' = .ok (p'', ran')) :
    readLines env (qs ++ qs') p = .ok (p'', ran ++ ran') := by
  induction qs generalizing p ran with
  | nil =>
    obtain ⟨rfl, rfl⟩ : p = p' ∧ [] = ran := by simpa [readLines] using h
    exact h'
  | cons q qs ih =>
    obtain ⟨p₁, r, ran₁, hq, hqs, rfl⟩ := readLines_cons_iff.mp h
    exact readLines_cons_iff.mpr ⟨p₁, r, _, hq, ih hqs, rfl⟩

/-- The pieces are neither empty nor larger than the buffer. -/
def Fit (qs : List Text) : Prop := ∀ q ∈ qs, q ≠ [] ∧ q.length < 2 ^ 32

/-- No block runs on any of the pieces. -/
lemma readLines_silent_iff (hqs : Fit qs) :
    (∃ ran, readLines env qs p = .ok (p', ran) ∧ ran.flatten = []) ↔ p' = p ∧ ∀ q ∈ qs, Silent q := by
  induction qs generalizing p with
  | nil => simp [readLines, eq_comm]
  | cons q qs ih =>
    obtain ⟨⟨hne, hlength⟩, hqs⟩ := List.forall_mem_cons.mp hqs
    rw [List.forall_mem_cons]
    constructor
    · rintro ⟨ran, hread, hflat⟩
      obtain ⟨p₁, r, ran', hq, hrest, rfl⟩ := readLines_cons_iff.mp hread
      obtain ⟨rfl, hflat⟩ := List.append_eq_nil_iff.mp hflat
      obtain ⟨rfl, hsilent⟩ := (readLine_silent_iff hne hlength).mp hq
      obtain ⟨rfl, hsilents⟩ := (ih hqs).mp ⟨ran', hrest, hflat⟩
      exact ⟨rfl, hsilent, hsilents⟩
    · rintro ⟨rfl, hsilent, hsilents⟩
      obtain ⟨ran, hrest, hflat⟩ := (ih hqs).mpr ⟨rfl, hsilents⟩
      exact ⟨[] :: ran, readLines_cons_iff.mpr
        ⟨_, [], ran, (readLine_silent_iff hne hlength).mpr ⟨rfl, hsilent⟩, hrest, rfl⟩, hflat⟩

/-- One block runs on one of the pieces. -/
lemma readLines_gives_iff (hqs : Fit qs) :
    (∃ ran, readLines env qs p = .ok (p', ran) ∧ ran.flatten = [(key, value)]) ↔
      Kept (some (key, value)) qs ∧ key.set env value p = some p' := by
  induction qs generalizing p with
  | nil =>
    refine iff_of_false ?_ ?_
    · rintro ⟨ran, hread, hflat⟩
      obtain ⟨-, rfl⟩ : p = p' ∧ [] = ran := by simpa [readLines] using hread
      cases hflat
    · rintro ⟨⟨a, q, b, hsplit, -⟩, -⟩
      simp at hsplit
  | cons q qs ih =>
    obtain ⟨⟨hne, hlength⟩, hqs⟩ := List.forall_mem_cons.mp hqs
    constructor
    · rintro ⟨ran, hread, hflat⟩
      obtain ⟨p₁, r, ran', hq, hrest, rfl⟩ := readLines_cons_iff.mp hread
      rcases List.append_eq_singleton_iff.mp hflat with ⟨rfl, hflat'⟩ | ⟨rfl, hflat'⟩
      · obtain ⟨rfl, hsilent⟩ := (readLine_silent_iff hne hlength).mp hq
        obtain ⟨⟨a, q', b, rfl, hgives, hsilents⟩, hset⟩ := (ih hqs).mp ⟨ran', hrest, hflat'⟩
        exact ⟨⟨q :: a, q', b, rfl, hgives, List.forall_mem_cons.mpr ⟨hsilent, hsilents⟩⟩, hset⟩
      · obtain ⟨hgives, hset⟩ := (readLine_gives_iff hne hlength).mp hq
        obtain ⟨rfl, hsilents⟩ := (readLines_silent_iff hqs).mp ⟨ran', hrest, hflat'⟩
        exact ⟨⟨[], q, qs, rfl, hgives, hsilents⟩, hset⟩
    · rintro ⟨⟨a, q', b, hsplit, hgives, hsilents⟩, hset⟩
      cases a with
      | nil =>
        obtain ⟨rfl, rfl⟩ := List.cons.inj hsplit
        obtain ⟨ran, hrest, hflat⟩ : ∃ ran, readLines env qs p' = .ok (p', ran) ∧ ran.flatten = [] :=
          (readLines_silent_iff hqs).mpr ⟨rfl, hsilents⟩
        exact ⟨_, readLines_cons_iff.mpr
          ⟨_, _, ran, (readLine_gives_iff hne hlength).mpr ⟨hgives, hset⟩, hrest, rfl⟩, by simp [hflat]⟩
      | cons q₁ a =>
        obtain ⟨rfl, rfl⟩ := List.cons.inj hsplit
        obtain ⟨hsilent, hsilents⟩ := List.forall_mem_cons.mp hsilents
        obtain ⟨ran, hrest, hflat⟩ := (ih hqs).mpr ⟨⟨a, q', b, rfl, hgives, hsilents⟩, hset⟩
        exact ⟨[] :: ran, readLines_cons_iff.mpr
          ⟨_, [], ran, (readLine_silent_iff hne hlength).mpr ⟨rfl, hsilent⟩, hrest, rfl⟩, hflat⟩

/-- What the block of a parameter does with a valid value. -/
lemma set_eq_given_iff (hvalid : key.Valid env value) :
    key.set env value p = some (key.given env value p) ↔ key.Settles value p := by
  cases key with
  | vip =>
    obtain ⟨a, ha⟩ := Option.isSome_iff_exists.mp hvalid
    simp [Key.set, Key.given, Key.Settles, ha]
  | telorbShellPort | loadLoggerPort => simp_all [Key.Valid, Key.set, Key.given, Key.Settles]
  | loadLogInterval => simp [Key.set, Key.given, Key.Settles]
  | buildOTAL =>
    have hpos : 0 < atoi value := hvalid
    have hne : atoi value ≠ 0 := by omega
    simp [Key.set, Key.given, Key.Settles, hne]
  | memLogInterval => simp [Key.set, Key.given, Key.Settles]
  | graphScanSize =>
    have hle : 0 ≤ atoi value := hvalid
    have hnot : ¬ atoi value < 0 := by omega
    simp [Key.set, Key.given, Key.Settles, hnot]
  | logLoadReadings | logLoadBinary | logMemReadings =>
    obtain ⟨⟩ := p
    by_cases h : value = yes
    · simp [Key.set, Key.given, Key.Settles, h]
    · simp [Key.set, Key.given, Key.Settles, h]
  | summaryDirectory | memoryDirectory | loadDirectory =>
    simp_all [Key.Valid, Key.set, Key.given, Key.Settles]
  | excludeDicos | logTime | cfgEditor => exact iff_of_true rfl trivial

/-- **When a line sets its own parameter.** -/
lemma affects_iff (hqs : Fit qs) (hvalid : ∀ x ∈ s, x.1.Valid env x.2) :
    Affects env s qs p ↔ Kept s qs ∧ ∀ x ∈ s, x.1.Settles x.2 p := by
  cases s with
  | none =>
    rw [Affects, afterLine, Option.toList_none, readLines_silent_iff hqs, Kept]
    simp
  | some x =>
    obtain ⟨key, value⟩ := x
    rw [Affects, afterLine, Option.toList_some, readLines_gives_iff hqs, set_eq_given_iff (hvalid _ rfl)]
    simp

/-! ## The pieces of a file -/

variable {l : Line} {ls : List Line} {closed : Bool} {file : ConfigFile}

/-- Every name has a block, but for `CfgEditor`. -/
lemma mem_names (key : Key) : key ∈ blocks ++ [.cfgEditor] := by
  cases key
  all_goals decide

/-- The characters of a name. -/
lemma notMem_name {a : Char} (ha : a ∈ ['\n', ' ', '\t', '=', '#', '"']) (key : Key) : a ∉ key.name := by
  have hall : (blocks ++ [Key.cfgEditor]).all (fun k =>
      ['\n', ' ', '\t', '=', '#', '"'].all fun x => !k.name.elem x) = true := by
    decide +kernel
  have hname := List.all_eq_true.mp (List.all_eq_true.mp hall key (mem_names key)) a ha
  rw [Bool.not_eq_true', List.elem_eq_mem, decide_eq_false_iff_not] at hname
  exact hname

lemma notMem_blanks {a : Char} (ha : a ≠ ' ' ∧ a ≠ '\t') (b : Blanks) : a ∉ b.1 :=
  fun h => (b.2 a h).elim ha.1 ha.2

lemma notMem_written {a : Char} (ha : a = '\n' ∨ a = '#') (v : Value) : a ∉ v.written := by
  have htext : a ∉ v.text := fun h => by
    obtain ⟨hnl, -, hcomment, -⟩ := v.plain a h
    exact ha.elim hnl hcomment
  have hquote : a ≠ '"' := by
    rcases ha with rfl | rfl
    · decide
    · decide
  rw [Value.written]
  split_ifs
  · simp [htext, hquote]
  · exact htext

/-- There is no newline in a line. -/
lemma newline_notMem_text (l : Line) : '\n' ∉ l.text := by
  have hblanks : ∀ b : Blanks, '\n' ∉ b.1 := notMem_blanks ⟨by decide, by decide⟩
  cases l with
  | blank b => exact hblanks b
  | comment indent text => simp [Line.text, hblanks indent, text.2.1]
  | setting key indent beforeEq afterEq value trailing note =>
    have hname := notMem_name (a := '\n') List.mem_cons_self key
    have hvalue := notMem_written (a := '\n') (Or.inl rfl) value
    cases note with
    | none => simp [Line.text, hblanks, hname, hvalue]
    | some text => simp [Line.text, hblanks, hname, hvalue, text.2.1]

/-- The loop reads the file line by line. -/
lemma pieces_withEnds (ls : List Line) :
    pieces '\n' lineMax [] ((withEnds closed ls).map Prod.snd).flatten =
      (withEnds closed ls).flatMap fun x => pieces '\n' lineMax [] x.2 := by
  induction ls with
  | nil => rfl
  | cons l ls ih =>
    cases ls with
    | nil => simp [withEnds]
    | cons l' ls =>
      rw [withEnds, List.map_cons, List.flatten_cons, List.append_assoc, List.flatMap_cons, ← ih]
      exact pieces_append_separator [] _ _

namespace ConfigFile

lemma allLines_ne_nil : file.allLines ≠ [] := by
  rw [allLines]
  cases file.lines with
  | nil => exact List.cons_ne_nil _ _
  | cons l ls => exact List.cons_ne_nil _ _

/-- What `ReadCfg` reads behind the first piece. -/
lemma flatMap_reads : file.reads.flatMap Prod.snd = (pieces '\n' lineMax [] file.text).tail := by
  rw [reads, text, allLines, pieces_withEnds]
  cases file.lines with
  | nil => simp [withEnds]
  | cons l ls =>
    rw [withEnds]
    simp only [List.flatMap_cons, List.flatMap_map]
    rw [List.tail_append_of_ne_nil (pieces_separator_ne_nil [] _)]

/-- The version is found, and the loop reads the pieces of the lines. -/
lemma readCfg_text : readCfg env file.text p = readLines env (file.reads.flatMap Prod.snd) p := by
  obtain ⟨rest, hrest⟩ : ∃ rest, file.text = cfgVersionString ++ rest := by
    have hline : file.versionLine.text = cfgVersionString ++ file.version.1 := rfl
    rw [text, allLines]
    cases file.lines with
    | nil =>
      rw [withEnds]
      split_ifs
      · exact ⟨file.version.1 ++ ['\n'], by simp [hline]⟩
      · exact ⟨file.version.1, by simp [hline]⟩
    | cons l ls =>
      rw [withEnds, List.map_cons, List.flatten_cons, hline, List.append_assoc, List.append_assoc]
      exact ⟨_, rfl⟩
  have hversion : cfgVersionString <:+: (firstPiece '\n' lineMax [] file.text).1 := by
    rw [hrest, firstPiece_append (by decide) (by decide)]
    exact (prefix_firstPiece _ _).isInfix
  have hne : file.text ≠ [] := by
    rw [hrest]
    exact List.append_ne_nil_of_left_ne_nil (by decide) rest
  simp only [readCfg, hne, if_false, hversion, if_true, pieces_firstPiece, flatMap_reads]

/-- A line with its newline, or without it at the end of the file. -/
lemma eq_of_mem_withEnds {x : Line × Text} (h : x ∈ withEnds closed ls) :
    x.2 = x.1.text ++ ['\n'] ∨ x.2 = x.1.text := by
  induction ls with
  | nil => cases h
  | cons l ls ih =>
    cases ls with
    | nil =>
      obtain rfl := List.mem_singleton.mp h
      simp only
      split_ifs
      · exact Or.inl rfl
      · exact Or.inr rfl
    | cons l' ls =>
      rcases List.mem_cons.mp h with rfl | h
      · exact Or.inl rfl
      · exact ih h

/-- A line that fits into the buffer is one piece, or is not read in the loop. -/
lemma pieces_of_fits {x : Line × Text} (h : x ∈ withEnds closed ls) (hlength : x.1.text.length < lineMax) :
    pieces '\n' lineMax [] x.2 = [] ∨ pieces '\n' lineMax [] x.2 = [x.1.text ++ ['\n']] := by
  have hlength' : ([] : Text).length + x.1.text.length < lineMax := by
    rwa [List.length_nil, Nat.zero_add]
  rcases eq_of_mem_withEnds h with hx | hx
  · rw [hx, pieces_line (newline_notMem_text x.1) hlength']
    exact Or.inr rfl
  · rw [hx, pieces_of_notMem (newline_notMem_text x.1) hlength']
    exact Or.inl rfl

lemma fit_pieces (t : Text) : Fit (pieces '\n' lineMax [] t) := by
  intro q hq
  refine ⟨ne_nil_of_mem_pieces hq, lt_of_le_of_lt (length_le_of_mem_pieces ?_ hq) ?_⟩
  · decide
  · decide

/-- What the pieces of the lines are. -/
lemma of_mem_reads {x : Line × List Text} (h : x ∈ file.reads) :
    Fit x.2 ∧ (x.1.text.length < lineMax → x.2 = [] ∨ x.2 = [x.1.text ++ ['\n']]) := by
  rw [reads] at h
  cases hall : file.allLines with
  | nil => exact absurd hall allLines_ne_nil
  | cons y ys =>
    rw [hall] at h
    rcases List.mem_cons.mp h with rfl | h
    · refine ⟨fun q hq => fit_pieces y.2 q (List.mem_of_mem_tail hq), fun hlength => Or.inl ?_⟩
      have hy : y ∈ withEnds file.closed (file.versionLine :: file.lines) := by
        rw [← allLines, hall]
        exact List.mem_cons_self
      rcases pieces_of_fits hy hlength with heq | heq
      · exact congrArg List.tail heq
      · exact congrArg List.tail heq
    · obtain ⟨z, hz, rfl⟩ := List.mem_map.mp h
      have hz' : z ∈ withEnds file.closed (file.versionLine :: file.lines) := by
        rw [← allLines, hall]
        exact List.mem_cons_of_mem y hz
      exact ⟨fit_pieces z.2, pieces_of_fits hz'⟩

end ConfigFile

/-! ## A line that sets a parameter -/

section Setting

variable {indent beforeEq afterEq trailing : Blanks} {value : Value} {note : Option Comment}

/-- No name is a part of another one. -/
lemma eq_of_infix_name {key key' : Key} (h : key'.name <:+: key.name) : key' = key := by
  have hall : ∀ k ∈ blocks ++ [.cfgEditor], ∀ k' ∈ blocks ++ [.cfgEditor],
      k'.name <:+: k.name → k' = k := by
    decide +kernel
  exact hall key (mem_names key) key' (mem_names key') h

/-- A line up to its comment. -/
lemma bare_append {w tr u : Text} {x : Char} (hw : '#' ∉ w ++ [x]) (hx : ¬ isTrimmed x)
    (htr : ∀ a ∈ tr, isTrimmed a) (hu : ∀ a ∈ u.head?, a = '#') : bare (w ++ x :: (tr ++ u)) = w ++ [x] := by
  have htake : (w ++ x :: (tr ++ u)).takeWhile (· ≠ '#') = w ++ x :: tr := by
    have hno : ∀ a ∈ w ++ x :: tr, decide (a ≠ '#') = true := by
      intro a ha
      refine decide_eq_true fun heq => ?_
      rw [List.append_cons, List.mem_append] at ha
      rcases ha with ha | ha
      · exact hw (heq ▸ ha)
      · exact (ne_of_isTrimmed (htr a ha)).1 heq
    rw [← List.cons_append, ← List.append_assoc, List.takeWhile_append_of_pos hno]
    cases u with
    | nil => simp
    | cons a u => simp [hu a rfl]
  rw [bare, htake, rdropWhile_append_cons hx, List.rdropWhile_eq_nil_iff.mpr htr]

/-- A value ends with a character that stays. -/
lemma written_eq_concat (v : Value) : ∃ w x, v.written = w ++ [x] ∧ ¬ isTrimmed x := by
  rw [Value.written]
  split_ifs with h
  · exact ⟨'"' :: v.text, '"', rfl, by decide⟩
  · exact ⟨v.text.dropLast, _, (List.dropLast_append_getLast v.ne_nil).symm, (v.bare (by simpa using h)).2⟩

/-- A value begins with a character that stays. -/
lemma written_eq_cons (v : Value) : ∃ x w, v.written = x :: w ∧ ¬ isTrimmed x := by
  rw [Value.written]
  split_ifs with h
  · exact ⟨'"', _, rfl, by decide⟩
  · exact ⟨_, v.text.tail, (List.cons_head_tail v.ne_nil).symm, (v.bare (by simpa using h)).1⟩

lemma isTrimmed_of_mem_blanks {b : Blanks} : ∀ a ∈ b.1, isTrimmed a := by
  intro a ha
  rcases b.2 a ha with rfl | rfl
  · decide
  · decide

/-- What is left of a line that sets a parameter when its comment is taken out. -/
lemma bare_setting : bare ((Line.setting key indent beforeEq afterEq value trailing note).text ++ ['\n']) =
    indent ++ key.name ++ beforeEq ++ '=' :: (afterEq ++ value.written) := by
  have hblanks : ∀ b : Blanks, '#' ∉ b.1 := notMem_blanks ⟨by decide, by decide⟩
  have hno : '#' ∉ indent.1 ++ key.name ++ beforeEq.1 ++ '=' :: (afterEq.1 ++ value.written) := by
    have hname := notMem_name (a := '#') (by decide) key
    have hvalue := notMem_written (a := '#') (Or.inr rfl) value
    simp [hblanks, hname, hvalue]
  obtain ⟨w, x, hw, hx⟩ := written_eq_concat value
  have hassoc : indent.1 ++ key.name ++ beforeEq.1 ++ '=' :: (afterEq.1 ++ value.written) =
      (indent.1 ++ key.name ++ beforeEq.1 ++ '=' :: (afterEq.1 ++ w)) ++ [x] := by
    rw [hw]
    simp
  rw [hassoc] at hno ⊢
  have htr : ∀ a ∈ trailing.1 ++ ['\n'], isTrimmed a := by
    rw [List.forall_mem_append, List.forall_mem_singleton]
    exact ⟨isTrimmed_of_mem_blanks, by decide⟩
  cases note with
  | none =>
    have h := bare_append hno hx htr (u := []) (by simp)
    simpa [Line.text, hw] using h
  | some text =>
    have hnote : ∀ a ∈ ('#' :: (text.1 ++ ['\n'])).head?, a = '#' := by simp
    have h := bare_append hno hx (isTrimmed_of_mem_blanks (b := trailing)) hnote
    simpa [Line.text, hw] using h

/-- `ltrim` stops at the value. -/
lemma ltrim_written {u : Text} (hlength : (afterEq ++ value.written).length < 2 ^ 32) :
    ltrim ⟨u, afterEq.1 ++ value.written⟩ = ⟨u ++ afterEq.1, value.written⟩ := by
  obtain ⟨x, w, hw, hx⟩ := written_eq_cons value
  rw [hw] at hlength ⊢
  rw [ltrim_eq hlength]
  split_ifs with hone
  · have hnil : afterEq.1 = [] := by
      simp only [List.length_append, List.length_cons] at hone
      exact List.eq_nil_of_length_eq_zero (by omega)
    rw [hnil, List.append_nil, List.nil_append]
  · simp only [List.takeWhile_append_of_pos isTrimmed_of_mem_blanks, List.takeWhile_cons_of_neg hx,
      List.dropWhile_append_of_pos isTrimmed_of_mem_blanks, List.dropWhile_cons_of_neg hx, List.append_nil]

/-- `removeQuots` takes the quotation marks away. -/
lemma removeQuots_written {u : Text} : removeQuots ⟨u, value.written⟩ =
    ⟨u ++ (if value.quoted then ['"'] else []), value.text⟩ := by
  have hquote : '"' ∉ value.text := fun h => (value.plain _ h).2.2.2 rfl
  rw [Value.written]
  split_ifs
  · have hall : ∀ a ∈ value.text, decide (a ≠ '"') = true := fun a ha =>
      decide_eq_true fun heq => hquote (heq ▸ ha)
    have hcut : (value.text ++ ['"']).takeWhile (· ≠ '"') = value.text := by
      rw [List.takeWhile_append_of_pos hall]
      simp
    have hmem : '"' ∈ '"' :: (value.text ++ ['"']) := List.mem_cons_self
    have hfirst : ('"' :: (value.text ++ ['"'])).takeWhile (· ≠ '"') = [] := by
      simp
    rw [removeQuots, if_neg (not_not.mpr hmem), hfirst]
    exact congrArg (Cursor.mk _) hcut
  · simp [removeQuots, hquote]

/-- The value of the line. -/
lemma valueOf_setting {k : Text} (hk : '=' ∉ k) (hlength : (afterEq ++ value.written).length < 2 ^ 32) :
    ∃ c, valueOf ⟨[], k ++ '=' :: (afterEq ++ value.written)⟩ = some c ∧ c.here = value.text ∧
      c.line = k ++ '=' :: (afterEq ++ if value.quoted then '"' :: value.text else value.text) := by
  have htake : (k ++ '=' :: (afterEq.1 ++ value.written)).takeWhile (· ≠ '=') = k := by
    have hall : ∀ a ∈ k, decide (a ≠ '=') = true := fun a ha =>
      decide_eq_true fun heq => hk (heq ▸ ha)
    rw [List.takeWhile_append_of_pos hall]
    simp
  have hforth : Cursor.forth (k.length + 1) ⟨[], k ++ '=' :: (afterEq.1 ++ value.written)⟩ =
      ⟨k ++ ['='], afterEq.1 ++ value.written⟩ := by
    simp [Cursor.forth, List.take_append, List.drop_append]
  refine ⟨⟨k ++ ['='] ++ afterEq.1 ++ (if value.quoted then ['"'] else []), value.text⟩, ?_, rfl, ?_⟩
  · rw [valueOf, if_neg (by simp), htake, hforth, ltrim_written hlength, removeQuots_written]
    simp only [value.ne_nil, if_false]
  · rw [Cursor.line]
    split_ifs <;> simp

/-- The names in a line that sets a parameter. -/
lemma name_infix_setting_iff {key' : Key} {w : Text} (hw : key'.name <:+: w ↔ key'.name <:+: value.text) :
    key'.name <:+: indent ++ key.name ++ beforeEq ++ '=' :: (afterEq ++ w) ↔
      key' = key ∨ key'.name <:+: value.text := by
  have hne : key'.name ≠ [] := by
    obtain ⟨a, b, t, heq, -⟩ := name_eq_cons key'
    rw [heq]
    exact List.cons_ne_nil _ _
  have hblanks : ∀ b : Blanks, ∀ x ∈ b.1, x ∉ key'.name := by
    intro b x hx
    rcases b.2 x hx with rfl | rfl
    · exact notMem_name (by decide) key'
    · exact notMem_name (by decide) key'
  rw [infix_append_cons_iff (notMem_name (by decide) key'), infix_append_left_iff hne (hblanks beforeEq),
    infix_append_right_iff hne (hblanks indent), infix_append_right_iff hne (hblanks afterEq), hw]
  refine or_congr_left ⟨eq_of_infix_name, ?_⟩
  rintro rfl
  exact List.infix_rfl

/-- Names in a value and in the value as it is written. -/
lemma name_infix_written_iff {key' : Key} : (key'.name <:+: value.written ↔ key'.name <:+: value.text) ∧
    (key'.name <:+: (if value.quoted then '"' :: value.text else value.text) ↔
      key'.name <:+: value.text) := by
  have hquote := notMem_name (a := '"') (by decide) key'
  have hnil : ¬ key'.name <:+: [] := not_name_infix_of_length (Nat.zero_le 1)
  have hopen : ∀ t : Text, key'.name <:+: '"' :: t ↔ key'.name <:+: t := fun t => by
    rw [← List.nil_append ('"' :: t), infix_append_cons_iff hquote, or_iff_right hnil]
  rw [Value.written]
  split_ifs
  · rw [hopen, hopen, infix_append_cons_iff hquote, or_iff_left hnil]
    exact ⟨Iff.rfl, Iff.rfl⟩
  · exact ⟨Iff.rfl, Iff.rfl⟩

/-- The blocks in front of and behind the block of a parameter. -/
lemma blocks_split (hkey : key ∈ blocks) : ∃ earlier later, blocks = earlier ++ key :: later ∧
    ∀ key' ∈ earlier ++ later, key' ∈ blocks ∧ key' ≠ key := by
  obtain ⟨earlier, later, hsplit⟩ := List.append_of_mem hkey
  have hnodup : (key :: (earlier ++ later)).Nodup := by
    refine List.perm_middle.nodup_iff.mp ?_
    rw [← hsplit]
    decide
  refine ⟨earlier, later, hsplit, fun key' hkey' => ⟨?_, ?_⟩⟩
  · rw [hsplit, List.mem_append, List.mem_cons]
    exact (List.mem_append.mp hkey').imp_right Or.inr
  · exact fun heq => (List.nodup_cons.mp hnodup).1 (heq ▸ hkey')

variable (hlength : (Line.setting key indent beforeEq afterEq value trailing note).text.length < lineMax)

include hlength in
/-- A line gives its value when no name of another block is in it. -/
lemma gives_setting_iff (hkey : key ∈ blocks) :
    Gives ((Line.setting key indent beforeEq afterEq value trailing note).text ++ ['\n']) key value.text ↔
      ∀ key' ∈ blocks, key' ≠ key → ¬ key'.name <:+: value.text := by
  have hk : '=' ∉ indent.1 ++ key.name ++ beforeEq.1 := by
    have hblanks : ∀ b : Blanks, '=' ∉ b.1 := notMem_blanks ⟨by decide, by decide⟩
    simp [hblanks, notMem_name (a := '=') (by decide) key]
  have hsize : (afterEq.1 ++ value.written).length < 2 ^ 32 := by
    refine lt_trans ?_ (show lineMax < 2 ^ 32 by decide)
    simp only [Line.text, List.length_append, List.length_cons] at hlength ⊢
    omega
  obtain ⟨c, hvalue, hhere, hline⟩ := valueOf_setting hk hsize
  have hbare : ∀ key' : Key,
      key'.name <:+: indent ++ key.name ++ beforeEq ++ '=' :: (afterEq ++ value.written) ↔
        key' = key ∨ key'.name <:+: value.text :=
    fun key' => name_infix_setting_iff name_infix_written_iff.1
  have hrest : ∀ key' : Key, key'.name <:+: c.line ↔ key' = key ∨ key'.name <:+: value.text := fun key' => by
    rw [hline]
    exact name_infix_setting_iff name_infix_written_iff.2
  rw [Gives, bare_setting]
  simp only [hbare, hvalue, Option.some.injEq, exists_eq_left', hhere, true_and, hrest, not_or]
  constructor
  · rintro ⟨earlier, later, hsplit, hearlier, -, hlater⟩ key' hkey' hne
    rw [hsplit] at hkey'
    rcases List.mem_append.mp hkey' with h | h
    · exact (hearlier key' h).2
    · rcases List.mem_cons.mp h with h | h
      · exact absurd h hne
      · exact (hlater key' h).2
  · intro h
    obtain ⟨earlier, later, hsplit, hother⟩ := blocks_split hkey
    have hnames : ∀ key' ∈ earlier ++ later, ¬ key' = key ∧ ¬ key'.name <:+: value.text := fun key' hkey' =>
      ⟨(hother key' hkey').2, h key' (hother key' hkey').1 (hother key' hkey').2⟩
    rw [List.forall_mem_append] at hnames
    exact ⟨earlier, later, hsplit, hnames.1, Or.inl trivial, hnames.2⟩

/-- A line that sets no parameter of `ReadCfg` is silent when no name of a block is in its value. -/
lemma silent_setting_iff (hkey : key ∉ blocks) :
    Silent ((Line.setting key indent beforeEq afterEq value trailing note).text ++ ['\n']) ↔
      ∀ key' ∈ blocks, key' ≠ key → ¬ key'.name <:+: value.text := by
  have hstays : ∃ a ∈ (Line.setting key indent beforeEq afterEq value trailing note).text ++ ['\n'],
      ¬ isTrimmed a := ⟨'=', by simp [Line.text], by decide⟩
  rw [Silent, bare_setting, and_iff_right (Or.inr hstays)]
  refine forall₂_congr fun key' hkey' => ?_
  have hne : key' ≠ key := fun heq => hkey (heq ▸ hkey')
  rw [name_infix_setting_iff name_infix_written_iff.1]
  simp [hne]

end Setting

/-! ## The lines of a file -/

/-- A line that is one piece. -/
lemma kept_singleton : Kept (some (key, value)) [q] ↔ Gives q key value := by
  constructor
  · rintro ⟨a, q', b, hsplit, hgives, -⟩
    cases a with
    | nil =>
      obtain ⟨rfl, -⟩ := List.cons.inj hsplit
      exact hgives
    | cons q₁ a => simp at hsplit
  · exact fun hgives => ⟨[], q, [], rfl, hgives, fun _ h => absurd h List.not_mem_nil⟩

/-- A blank line is silent when it is only a newline. -/
lemma silent_blank_iff (b : Blanks) : Silent (b.1 ++ ['\n']) ↔ (b.1 ++ ['\n']).length = 1 := by
  have hall : ∀ a ∈ b.1 ++ ['\n'], isTrimmed a := by
    rw [List.forall_mem_append, List.forall_mem_singleton]
    exact ⟨isTrimmed_of_mem_blanks, by decide⟩
  constructor
  · rintro ⟨hone | ⟨a, ha, hstays⟩, -⟩
    · exact hone
    · exact absurd (hall a ha) hstays
  · refine fun hone => ⟨Or.inl hone, fun key _ => not_name_infix_of_trimmed fun a ha => hall a ?_⟩
    exact (List.takeWhile_prefix _).subset ((List.rdropWhile_prefix _ _).subset ha)

/-- A comment is silent. -/
lemma silent_comment (indent : Blanks) (t : Text) : Silent (indent.1 ++ '#' :: t) := by
  refine ⟨Or.inr ⟨'#', by simp, by decide⟩, fun key _ => ?_⟩
  rw [bare_of_comment isTrimmed_of_mem_blanks]
  exact not_name_infix_of_length (Nat.zero_le 1)

/-- **When a line is read as it should be.** -/
lemma clear_iff {qs : List Text} (hqs : l.text.length < lineMax → qs = [] ∨ qs = [l.text ++ ['\n']]) :
    l.Clear qs ↔ Kept l.setting? qs := by
  unfold Line.Clear
  split_ifs with hlength
  · rcases hqs hlength with rfl | rfl
    · cases l with
      | blank b => simp [Line.setting?, Kept]
      | comment indent text => simp [Line.setting?, Kept]
      | setting key indent beforeEq afterEq value trailing note =>
        by_cases hkey : key ∈ blocks
        · simp [Line.setting?, Kept, hkey]
        · simp [Line.setting?, Kept, hkey]
    · cases l with
      | blank b =>
        simp only [Line.setting?, Kept, List.forall_mem_singleton, Line.text, silent_blank_iff]
      | comment indent text =>
        simp only [Line.setting?, Kept, List.forall_mem_singleton, Line.text, List.append_assoc,
          List.cons_append, silent_comment]
      | setting key indent beforeEq afterEq value trailing note =>
        by_cases hkey : key ∈ blocks
        · simp only [Line.setting?, hkey, if_true, kept_singleton, gives_setting_iff hlength hkey]
          simp
        · simp only [Line.setting?, hkey, if_false, Kept, List.forall_mem_singleton, silent_setting_iff hkey]
          simp
  · exact Iff.rfl

/-- Lines that set their own parameters, one after the other. -/
lemma readLines_of_allAffect {ls : List (Line × List Text)} (h : AllAffect env ls p) :
    ∃ ran, readLines env (ls.flatMap Prod.snd) p =
      .ok (ls.foldl (fun p x => afterLine env x.1.setting? p) p, ran) := by
  induction ls generalizing p with
  | nil => exact ⟨[], rfl⟩
  | cons x ls ih =>
    obtain ⟨⟨ran, hread, -⟩, hrest⟩ := h
    obtain ⟨ran', hread'⟩ := ih hrest
    exact ⟨ran ++ ran', readLines_append hread hread'⟩

/-- Every line sets its own parameter exactly when every line is read as it should be. -/
lemma allAffect_iff {ls : List (Line × List Text)} (hfit : ∀ x ∈ ls, Fit x.2 ∧
      (x.1.text.length < lineMax → x.2 = [] ∨ x.2 = [x.1.text ++ ['\n']]))
    (hvalid : ∀ x ∈ ls, ∀ y ∈ x.1.setting?, y.1.Valid env y.2) :
    AllAffect env ls p ↔ AllClear env ls p := by
  induction ls generalizing p with
  | nil => exact Iff.rfl
  | cons x ls ih =>
    obtain ⟨hx, hls⟩ := List.forall_mem_cons.mp hfit
    obtain ⟨hvalidx, hvalids⟩ := List.forall_mem_cons.mp hvalid
    rw [AllAffect, AllClear, affects_iff hx.1 hvalidx, clear_iff hx.2, ih hls hvalids]

lemma map_fst_withEnds (ls : List Line) : (withEnds closed ls).map Prod.fst = ls := by
  induction ls with
  | nil => rfl
  | cons l ls ih =>
    cases ls with
    | nil => rfl
    | cons l' ls => rw [withEnds, List.map_cons, ih]

/-- The lines that are read are those of the file. -/
lemma map_fst_reads : file.reads.map Prod.fst = file.versionLine :: file.lines := by
  have h : file.allLines.map Prod.fst = file.versionLine :: file.lines := map_fst_withEnds _
  rw [← h, ConfigFile.reads]
  cases file.allLines with
  | nil => rfl
  | cons x ls => simp

/-- **Which files are read as the format promises.** -/
theorem sets_iff (hvalid : ∀ l ∈ file.lines, ∀ x ∈ l.setting?, x.1.Valid env x.2) :
    Sets env file p ↔ AllClear env file.reads p := by
  have hvalids : ∀ x ∈ file.reads, ∀ y ∈ x.1.setting?, y.1.Valid env y.2 := by
    intro x hx
    have hmem : x.1 ∈ file.versionLine :: file.lines := map_fst_reads ▸ List.mem_map_of_mem hx
    rcases List.mem_cons.mp hmem with h | h
    · rw [h]
      exact fun y hy => nomatch hy
    · exact hvalid x.1 h
  rw [Sets, ← allAffect_iff (fun _ => ConfigFile.of_mem_reads) hvalids, and_iff_right_iff_imp]
  intro h
  obtain ⟨ran, hread⟩ := readLines_of_allAffect h
  have hfold : file.reads.foldl (fun p x => afterLine env x.1.setting? p) p =
      file.lines.foldl (fun p l => afterLine env l.setting? p) p := by
    rw [← List.foldl_map (f := Prod.fst) (g := fun p l => afterLine env (Line.setting? l) p), map_fst_reads]
    rfl
  exact ⟨ran, by rw [ConfigFile.readCfg_text, hread, hfold]⟩

/-- A system with one host. -/
def oneHost : Env := ⟨fun host => if host = "10.1.32.254".toList then some 1 else none, fun _ => true⟩

/-- The parameters before `ReadCfg`. -/
def initial : Params where
  excludedDicos := []
  host := []
  port := 0
  vipAddr := 0
  vipPort := 0
  loadLogInterval := 1
  loadIval := 1
  buildOTALNr := 5
  memLogInterval := 1
  memIval := 1
  logLoadReadings := true
  noLoadLog := false
  graphScanSize := 0
  logBinary := false
  logMemReadings := true
  noMemLog := false
  clock := ⟨0, 0, 0⟩
  s2log := 0
  tlimited := false
  summaryDir := []
  memDir := []
  loadDir := []

/-- The line `key = value`. -/
def plainLine (key : Key) (value : Value) : Line :=
  .setting key ⟨[], by simp⟩ ⟨[' '], by simp⟩ ⟨[' '], by simp⟩ value ⟨[], by simp⟩ none

/-- The value of the host. -/
def hostValue : Value := ⟨"10.1.32.254".toList, false, by decide, forall_mem_of_all (by decide), by decide⟩

/-- A file with a comment and a host. -/
theorem sets_host : Sets oneHost
    ⟨⟨[], by decide⟩, [.comment ⟨[], by simp⟩ ⟨" VIP".toList, by decide⟩, plainLine .vip hostValue], true⟩
    initial := by
  have hvip : (plainLine .vip hostValue).setting? = some (.vip, hostValue.text) := rfl
  refine (sets_iff ?_).mpr ?_
  · rw [List.forall_mem_cons, List.forall_mem_singleton, hvip]
    refine ⟨fun x hx => (by cases hx), ?_⟩
    rintro _ ⟨⟩
    rfl
  · change (_ ∧ _) ∧ (_ ∧ _) ∧ (_ ∧ _) ∧ True
    refine ⟨⟨?_, fun x hx => (by cases hx)⟩, ⟨?_, fun x hx => (by cases hx)⟩, ⟨?_, ?_⟩, trivial⟩
    · exact (if_pos (by decide)).mpr trivial
    · exact (if_pos (by decide)).mpr trivial
    · exact (if_pos (by decide)).mpr ⟨fun _ => by decide, fun _ => by decide⟩
    · rw [hvip]
      rintro _ ⟨⟩
      trivial

/-- A name in a value, a last line without newline, and a line of blanks. -/
theorem not_sets :
    ¬ Sets oneHost ⟨⟨[], by decide⟩, [plainLine .vip hostValue,
      plainLine .summaryDirectory ⟨"VIP".toList, true, by decide, forall_mem_of_all (by decide), by decide⟩],
      true⟩ initial ∧
    ¬ Sets oneHost ⟨⟨[], by decide⟩, [plainLine .vip hostValue], false⟩ initial ∧
    ¬ Sets oneHost ⟨⟨[], by decide⟩, [.blank ⟨[' '], by simp⟩], true⟩ initial := by
  refine ⟨?_, ?_, ?_⟩
  · rintro ⟨⟨ran, h⟩, -⟩
    have hread : readCfg oneHost "#File version 1.02\nVIP = 10.1.32.254\nSummaryDirectory = \"VIP\"\n".toList
        initial = .error .rejected := by decide
    cases hread.symm.trans h
  · rintro ⟨⟨ran, h⟩, -⟩
    have hread : readCfg oneHost "#File version 1.02\nVIP = 10.1.32.254".toList initial =
        .ok (initial, []) := by decide
    have hhost : ([] : Text) = "10.1.32.254".toList :=
      congrArg (fun x => x.1.host) (Except.ok.inj (hread.symm.trans h))
    exact absurd hhost (by decide)
  · rintro ⟨⟨ran, h⟩, -⟩
    have hread : readCfg oneHost "#File version 1.02\n \n".toList initial = .error .outside := by decide
    cases hread.symm.trans h

end ConfigReader
