import StTools.Lib.LinePieces
import StTools.LoadLogger.Functions

/-!
# The configuration reader

`ReadCfg` reads the configuration file of loadlogger line by line.  For every parameter there is a block
that looks for the name of the parameter anywhere in the line, and then for the value behind the next `=`.
All blocks share one pointer into the line: a second block goes on where the first one stopped.

`readLine_silent_iff` and `readLine_gives_iff` say for which lines no block runs, and for which lines one
block runs, with which value.
-/

namespace ConfigReader

open ScenarioDeployGenerator (Text atoi)
open LinePieces

/-! ## Parameters -/

/-- The names in the configuration file. -/
inductive Key
  | excludeDicos
  | vip
  | telorbShellPort
  | loadLoggerPort
  | loadLogInterval
  | buildOTAL
  | memLogInterval
  | logLoadReadings
  | graphScanSize
  | logLoadBinary
  | logMemReadings
  | logTime
  | summaryDirectory
  | memoryDirectory
  | loadDirectory
  /-- The name of the editor, which `ReadCfg` does not read. -/
  | cfgEditor
  deriving DecidableEq

/-- The name as it stands in the file. -/
def Key.name : Key → Text
  | excludeDicos => "ExcludeDicos".toList
  | vip => "VIP".toList
  | telorbShellPort => "TelorbShellPort".toList
  | loadLoggerPort => "LoadLoggerport".toList
  | loadLogInterval => "LoadLogInterval".toList
  | buildOTAL => "BuildOTALNr".toList
  | memLogInterval => "MemLogInterval".toList
  | logLoadReadings => "LogLoadReadings".toList
  | graphScanSize => "GraphScanSize".toList
  | logLoadBinary => "LogLoadBinary".toList
  | logMemReadings => "LogMemReadings".toList
  | logTime => "LogTime".toList
  | summaryDirectory => "SummaryDirectory".toList
  | memoryDirectory => "MemoryDirectory".toList
  | loadDirectory => "LoadDirectory".toList
  | cfgEditor => "CfgEditor".toList

/-- The blocks of `ReadCfg`, in their order. -/
def blocks : List Key :=
  [.excludeDicos, .vip, .telorbShellPort, .loadLoggerPort, .loadLogInterval, .buildOTAL, .memLogInterval,
    .logLoadReadings, .graphScanSize, .logLoadBinary, .logMemReadings, .logTime, .summaryDirectory,
    .memoryDirectory, .loadDirectory]

/-- What `ReadCfg` sets. -/
structure Params where
  excludedDicos : List Text
  /-- The host and the port of the memory logger. -/
  host : Text
  port : ℤ
  /-- The address and the port of the load logger. -/
  vipAddr : ℕ
  vipPort : ℕ
  loadLogInterval : ℤ
  loadIval : ℤ
  buildOTALNr : ℕ
  memLogInterval : ℤ
  memIval : ℤ
  logLoadReadings : Bool
  noLoadLog : Bool
  graphScanSize : ℕ
  logBinary : Bool
  logMemReadings : Bool
  noMemLog : Bool
  clock : ClockTime
  s2log : ℤ
  tlimited : Bool
  summaryDir : Text
  memDir : Text
  loadDir : Text
  deriving DecidableEq

/-- What the reader needs of the system: the address of a host, and the making of a directory, which also
succeeds when the directory is there. -/
structure Env where
  getHostip : Text → Option ℕ
  mkdir : Text → Bool

/-- `CreateDir`. -/
def Env.createDir (env : Env) (path : Text) : Bool :=
  env.mkdir (path.rdropWhile fun a => a = '\\' || a = '/')

/-- A path with a slash at its end. -/
def withSlash (path : Text) : Text := if path.getLast? = some '/' then path else path ++ ['/']

/-- What the value of a switch is compared with. -/
def yes : Text := "true".toList

/-- What the block of a parameter does with the value; `none` when it rejects the value. -/
def Key.set (env : Env) (key : Key) (value : Text) (p : Params) : Option Params :=
  match key with
  | excludeDicos => some { p with excludedDicos := p.excludedDicos ++ [value] }
  | vip => (env.getHostip value).map fun a => { p with host := value, vipAddr := a }
  | telorbShellPort => if atoi value = 0 then none else some { p with port := atoi value }
  | loadLoggerPort =>
    if atoi value = 0 then none else some { p with vipPort := (atoi value % 2 ^ 16).toNat }
  | loadLogInterval =>
    if atoi value = 0 then none else some { p with loadLogInterval := atoi value, loadIval := atoi value }
  | buildOTAL =>
    if atoi value = 0 then none else some { p with buildOTALNr := (atoi value % 2 ^ 32).toNat }
  | memLogInterval =>
    if atoi value = 0 then none else some { p with memLogInterval := atoi value, memIval := atoi value }
  | logLoadReadings =>
    if value ≠ yes then some { p with logLoadReadings := false, noLoadLog := true } else some p
  | graphScanSize => if atoi value < 0 then none else some { p with graphScanSize := (atoi value).toNat }
  | logLoadBinary => if value = yes then some { p with logBinary := true } else some p
  | logMemReadings =>
    if value ≠ yes then some { p with logMemReadings := false, noMemLog := true } else some p
  | logTime =>
    let t := strToTime value ⟨0, 0, 0⟩
    some { p with
      clock := t.2
      s2log := if 0 < t.1 then t.1 else p.s2log
      tlimited := 0 < t.1 }
  | summaryDirectory =>
    if env.createDir (withSlash value) then some { p with summaryDir := withSlash value } else none
  | memoryDirectory =>
    if env.createDir (withSlash value) then some { p with memDir := withSlash value } else none
  | loadDirectory =>
    if env.createDir (withSlash value) then some { p with loadDir := withSlash value } else none
  | cfgEditor => some p

/-! ## Reading -/

/-- How reading fails: behaviour outside the line is not defined, and a file may be rejected. -/
inductive Fault
  | outside
  | rejected
  deriving DecidableEq

/-- The value behind the next `=`, without quotation marks; `none` is `Missing =` or a missing value. -/
def valueOf (c : Cursor) : Option Cursor :=
  if '=' ∉ c.here then none
  else
    let c := removeQuots (ltrim (c.forth ((c.here.takeWhile (· ≠ '=')).length + 1)))
    if c.here = [] then none else some c

/-- The blocks one after the other.  Beside the parameters there are the blocks that ran, each with its
value. -/
def readBlocks (env : Env) : List Key → Cursor → Params → Except Fault (Params × List (Key × Text))
  | [], _, p => .ok (p, [])
  | key :: keys, c, p =>
    if key.name <:+: c.line then
      match valueOf c with
      | none => .error .rejected
      | some c =>
        match key.set env c.here p with
        | none => .error .rejected
        | some p => (readBlocks env keys c p).map fun r => (r.1, (key, c.here) :: r.2)
    else readBlocks env keys c p

/-- The body of the loop. -/
def readLine (env : Env) (line : Text) (p : Params) : Except Fault (Params × List (Key × Text)) :=
  match trim ⟨[], line⟩ with
  | none => .error .outside
  | some c =>
    if isCommented c then .ok (p, [])
    else
      match removeComment c with
      | none => .error .outside
      | some c => readBlocks env blocks c p

/-- The loop over the lines that `fgets` gives.  Beside the parameters there are, for every line, the
blocks that ran. -/
def readLines (env : Env) : List Text → Params → Except Fault (Params × List (List (Key × Text)))
  | [], p => .ok (p, [])
  | line :: lines, p =>
    match readLine env line p with
    | .error e => .error e
    | .ok (p, ran) => (readLines env lines p).map fun r => (r.1, ran :: r.2)

/-- The characters that `fgets` reads at most. -/
def lineMax : ℕ := 1022

/-- `CFG_VERSION_STRING`. -/
def cfgVersionString : Text := "#File version 1.02".toList

/-- `ReadCfg`.  The loop does not see a line at whose end the file has ended. -/
def readCfg (env : Env) (file : Text) (p : Params) : Except Fault (Params × List (List (Key × Text))) :=
  if file = [] then .error .rejected
  else
    let first := firstPiece '\n' lineMax [] file
    if cfgVersionString <:+: first.1 then readLines env (pieces '\n' lineMax [] first.2) p
    else .error .rejected

/-! ## Blocks -/

variable {env : Env} {keys : List Key} {key : Key} {value : Text} {c : Cursor} {p p' : Params}
  {ran : List (Key × Text)}

/-- A block that finds its name runs, and the others go on where it stops. -/
lemma readBlocks_cons_iff (h : key.name <:+: c.line) : readBlocks env (key :: keys) c p = .ok (p', ran) ↔
    ∃ c' p₁ ran', valueOf c = some c' ∧ key.set env c'.here p = some p₁ ∧
      readBlocks env keys c' p₁ = .ok (p', ran') ∧ ran = (key, c'.here) :: ran' := by
  rw [readBlocks, if_pos h]
  cases hvalue : valueOf c with
  | none => simp
  | some c' =>
    cases hset : key.set env c'.here p with
    | none => simp [hset]
    | some p₁ =>
      cases hrest : readBlocks env keys c' p₁ with
      | error e => simp [hset, hrest, Except.map]
      | ok r => simp [hset, hrest, Except.map, Prod.ext_iff, eq_comm]

/-- No block runs. -/
lemma readBlocks_nil_iff :
    readBlocks env keys c p = .ok (p', []) ↔ p' = p ∧ ∀ key ∈ keys, ¬ key.name <:+: c.line := by
  induction keys with
  | nil => simp [readBlocks, eq_comm]
  | cons key keys ih =>
    rw [List.forall_mem_cons]
    by_cases h : key.name <:+: c.line
    · rw [readBlocks_cons_iff h]
      simp [h]
    · rw [readBlocks, if_neg h, ih]
      simp [h]

/-- One block runs. -/
lemma readBlocks_singleton_iff : readBlocks env keys c p = .ok (p', [(key, value)]) ↔
    ∃ earlier later, keys = earlier ++ key :: later ∧ (∀ key' ∈ earlier, ¬ key'.name <:+: c.line) ∧
      key.name <:+: c.line ∧ ∃ c', valueOf c = some c' ∧ c'.here = value ∧ key.set env value p = some p' ∧
        ∀ key' ∈ later, ¬ key'.name <:+: c'.line := by
  induction keys with
  | nil => simp [readBlocks]
  | cons key₀ keys ih =>
    by_cases h : key₀.name <:+: c.line
    · rw [readBlocks_cons_iff h]
      constructor
      · rintro ⟨c', p₁, ran', hvalue, hset, hrest, hran⟩
        obtain ⟨⟨rfl, rfl⟩, rfl⟩ : (key = key₀ ∧ value = c'.here) ∧ [] = ran' := by simpa using hran
        obtain ⟨rfl, hlater⟩ := readBlocks_nil_iff.mp hrest
        exact ⟨[], keys, rfl, fun _ h => absurd h List.not_mem_nil, h, c', hvalue, rfl, hset, hlater⟩
      · rintro ⟨earlier, later, hsplit, hearlier, -, c', hvalue, rfl, hset, hlater⟩
        cases earlier with
        | nil =>
          obtain ⟨rfl, rfl⟩ := List.cons.inj hsplit
          exact ⟨c', p', [], hvalue, hset, readBlocks_nil_iff.mpr ⟨rfl, hlater⟩, rfl⟩
        | cons key₁ earlier =>
          obtain ⟨rfl, -⟩ := List.cons.inj hsplit
          exact absurd h (hearlier key₀ List.mem_cons_self)
    · rw [readBlocks, if_neg h, ih]
      constructor
      · rintro ⟨earlier, later, rfl, hearlier, hkey⟩
        exact ⟨key₀ :: earlier, later, rfl, List.forall_mem_cons.mpr ⟨h, hearlier⟩, hkey⟩
      · rintro ⟨earlier, later, hsplit, hearlier, hkey, hrest⟩
        cases earlier with
        | nil =>
          obtain ⟨rfl, -⟩ := List.cons.inj hsplit
          exact absurd hkey h
        | cons key₁ earlier =>
          obtain ⟨rfl, rfl⟩ := List.cons.inj hsplit
          exact ⟨earlier, later, rfl, (List.forall_mem_cons.mp hearlier).2, hkey, hrest⟩

/-! ## Lines -/

/-- A line without its comment and what is trimmed behind it. -/
def bare (line : Text) : Text := (line.takeWhile (· ≠ '#')).rdropWhile isTrimmed

/-- A line that no block reads, and that trimming does not leave. -/
def Silent (line : Text) : Prop :=
  (line.length = 1 ∨ ∃ a ∈ line, ¬ isTrimmed a) ∧ ∀ key ∈ blocks, ¬ key.name <:+: bare line

/-- A line from which one block reads a value: no other name stands in it, where names of later blocks
are not searched behind the quotation mark that ends the value. -/
def Gives (line : Text) (key : Key) (value : Text) : Prop :=
  ∃ earlier later, blocks = earlier ++ key :: later ∧ (∀ key' ∈ earlier, ¬ key'.name <:+: bare line) ∧
    key.name <:+: bare line ∧ ∃ c, valueOf ⟨[], bare line⟩ = some c ∧ c.here = value ∧
      ∀ key' ∈ later, ¬ key'.name <:+: c.line

variable {line t : Text}

/-- A name has more than one character, and begins with one that is not trimmed. -/
lemma name_eq_cons (key : Key) : ∃ a b t, key.name = a :: b :: t ∧ ¬ isTrimmed a := by
  cases key
  all_goals exact ⟨_, _, _, rfl, by decide⟩

lemma not_name_infix_of_trimmed (h : ∀ a ∈ line, isTrimmed a) : ¬ key.name <:+: line := by
  obtain ⟨a, b, t, heq, ha⟩ := name_eq_cons key
  intro hname
  exact ha (h a (hname.subset (heq ▸ List.mem_cons_self)))

lemma not_name_infix_of_length (h : line.length ≤ 1) : ¬ key.name <:+: line := by
  obtain ⟨a, b, t, heq, -⟩ := name_eq_cons key
  intro hname
  have hle := hname.length_le
  rw [heq, List.length_cons, List.length_cons] at hle
  omega

/-- `rtrim` on a line that begins with a character that stays. -/
lemma rtrim_of_cons {a : Char} (hc : c.here = a :: t) (ha : ¬ isTrimmed a)
    (hlength : c.here.length < 2 ^ 32) : rtrim c = some ⟨c.before, c.here.rdropWhile isTrimmed⟩ := by
  rw [rtrim_eq hlength]
  split_ifs with hone hall
  · obtain ⟨before, here⟩ := c
    obtain rfl : here = a :: t := hc
    obtain rfl : t = [] := List.eq_nil_of_length_eq_zero (Nat.succ.inj hone)
    simp [List.rdropWhile_singleton, ha]
  · exact absurd (hall a (hc ▸ List.mem_cons_self)) ha
  · rfl

/-- Trimming at the end stops at a character that stays. -/
lemma rdropWhile_append_cons {a : Char} (ha : ¬ isTrimmed a) (b t : Text) :
    (b ++ a :: t).rdropWhile isTrimmed = b ++ a :: t.rdropWhile isTrimmed := by
  induction t using List.reverseRecOn with
  | nil => rw [List.rdropWhile_concat_neg _ _ _ ha, List.rdropWhile_nil]
  | append_singleton t x ih =>
    rw [← List.cons_append, ← List.append_assoc, List.rdropWhile_concat, List.rdropWhile_concat, ih]
    split_ifs
    · rfl
    · rw [List.append_assoc, List.cons_append]

/-- Trimming before the comment is taken out makes no difference. -/
lemma rdropWhile_takeWhile (t : Text) :
    ((t.rdropWhile isTrimmed).takeWhile (· ≠ '#')).rdropWhile isTrimmed =
      (t.takeWhile (· ≠ '#')).rdropWhile isTrimmed := by
  induction t using List.reverseRecOn with
  | nil => rfl
  | append_singleton t b ih =>
    rw [List.rdropWhile_concat]
    split_ifs with hb
    · rw [ih, List.takeWhile_append]
      split_ifs with hall
      · have ht : t.takeWhile (· ≠ '#') = t := (List.takeWhile_prefix _).eq_of_length hall
        have hb' : [b].takeWhile (· ≠ '#') = [b] := by
          rw [List.takeWhile_cons_of_pos, List.takeWhile_nil]
          refine decide_eq_true fun hcomment => ?_
          rw [hcomment] at hb
          exact absurd hb (by decide)
        rw [hb', List.rdropWhile_concat_pos _ _ _ hb, ht]
      · rfl
    · rfl

/-- What stands in front of the first character that stays. -/
lemma exists_untrimmed (h : ∃ a ∈ line, ¬ isTrimmed a) :
    ∃ b a t, line = b ++ a :: t ∧ (∀ x ∈ b, isTrimmed x) ∧ ¬ isTrimmed a := by
  obtain ⟨a, t, hdrop⟩ : ∃ a t, line.dropWhile isTrimmed = a :: t := by
    cases hdrop : line.dropWhile isTrimmed with
    | nil =>
      obtain ⟨x, hx, hx'⟩ := h
      exact absurd (List.dropWhile_eq_nil_iff.mp hdrop x hx) hx'
    | cons a t => exact ⟨a, t, rfl⟩
  refine ⟨line.takeWhile isTrimmed, a, t, ?_, fun x hx => List.mem_takeWhile_imp hx, ?_⟩
  · rw [← hdrop, List.takeWhile_append_dropWhile]
  · have h' := List.head_dropWhile_not isTrimmed (by rw [hdrop]; exact List.cons_ne_nil a t)
    simp only [hdrop, List.head_cons] at h'
    simp [h']

/-- A character that is trimmed is neither `#` nor `=`. -/
lemma ne_of_isTrimmed {x : Char} (h : isTrimmed x) : x ≠ '#' ∧ x ≠ '=' := by
  constructor
  · rintro rfl
    exact absurd h (by decide)
  · rintro rfl
    exact absurd h (by decide)

section Untrimmed

variable {b : Text} {a : Char}

/-- A comment. -/
lemma bare_of_comment (hb : ∀ x ∈ b, isTrimmed x) : bare (b ++ '#' :: t) = [] := by
  have htake : (b ++ '#' :: t).takeWhile (· ≠ '#') = b := by
    rw [List.takeWhile_append_of_pos fun x hx => decide_eq_true (ne_of_isTrimmed (hb x hx)).1]
    simp
  rw [bare, htake, List.rdropWhile_eq_nil_iff]
  exact hb

/-- Another line. -/
lemma bare_of_ne (hb : ∀ x ∈ b, isTrimmed x) (ha : ¬ isTrimmed a) (hcomment : a ≠ '#') :
    bare (b ++ a :: t) = b ++ ((a :: t).takeWhile (· ≠ '#')).rdropWhile isTrimmed := by
  have htake : (a :: t).takeWhile (· ≠ '#') = a :: t.takeWhile (· ≠ '#') :=
    List.takeWhile_cons_of_pos (decide_eq_true hcomment)
  rw [bare, List.takeWhile_append_of_pos fun x hx => decide_eq_true (ne_of_isTrimmed (hb x hx)).1, htake,
    rdropWhile_append_cons ha]
  exact congrArg (b ++ ·) (rdropWhile_append_cons ha [] _).symm

/-- **What a line does that has more than blanks in it.** -/
lemma readLine_eq (hb : ∀ x ∈ b, isTrimmed x) (ha : ¬ isTrimmed a) (hlength : (b ++ a :: t).length < 2 ^ 32)
    (hone : (b ++ a :: t).length ≠ 1) : readLine env (b ++ a :: t) p =
      if a = '#' then .ok (p, [])
      else readBlocks env blocks ⟨b, ((a :: t).takeWhile (· ≠ '#')).rdropWhile isTrimmed⟩ p := by
  have hsize : (a :: t).length < 2 ^ 32 := by
    rw [List.length_append] at hlength
    exact lt_of_le_of_lt (Nat.le_add_left _ _) hlength
  have hltrim : ltrim ⟨[], b ++ a :: t⟩ = ⟨b, a :: t⟩ := by
    rw [ltrim_eq hlength, if_neg hone]
    simp only [List.takeWhile_append_of_pos hb, List.dropWhile_append_of_pos hb,
      List.takeWhile_cons_of_neg ha, List.dropWhile_cons_of_neg ha, List.append_nil, List.nil_append]
  have hrtrim : (a :: t).rdropWhile isTrimmed = a :: t.rdropWhile isTrimmed := rdropWhile_append_cons ha [] t
  have htrim : trim ⟨[], b ++ a :: t⟩ = some ⟨b, a :: t.rdropWhile isTrimmed⟩ := by
    rw [trim, hltrim, rtrim_of_cons rfl ha hsize, hrtrim]
  simp only [readLine, htrim]
  by_cases hcomment : a = '#'
  · rw [if_pos hcomment]
    simp [isCommented, hcomment]
  have hcut : removeComment ⟨b, a :: t.rdropWhile isTrimmed⟩ =
      some ⟨b, ((a :: t).takeWhile (· ≠ '#')).rdropWhile isTrimmed⟩ := by
    have hcons : (a :: t.rdropWhile isTrimmed).takeWhile (· ≠ '#') =
        a :: (t.rdropWhile isTrimmed).takeWhile (· ≠ '#') :=
      List.takeWhile_cons_of_pos (decide_eq_true hcomment)
    have hle : ((a :: t.rdropWhile isTrimmed).takeWhile (· ≠ '#')).length ≤ (a :: t).length := by
      rw [← hrtrim]
      exact (List.takeWhile_prefix _).length_le.trans (List.rdropWhile_prefix _ _).length_le
    have hrest := rtrim_of_cons (c := ⟨b, (a :: t.rdropWhile isTrimmed).takeWhile (· ≠ '#')⟩) hcons ha
      (lt_of_le_of_lt hle hsize)
    rw [removeComment, Cursor.cut, hrest, ← hrtrim, rdropWhile_takeWhile]
  have hno : isCommented ⟨b, a :: t.rdropWhile isTrimmed⟩ = false := by
    simp [isCommented, hcomment]
  rw [if_neg hcomment]
  simp only [hno, hcut, Bool.false_eq_true, if_false]

end Untrimmed

/-- A line of one character. -/
lemma readLine_singleton (a : Char) : readLine env [a] p = .ok (p, []) := by
  have htrim : trim ⟨[], [a]⟩ = some ⟨[], [a]⟩ := by
    rw [trim, ltrim_singleton rfl, rtrim_singleton rfl]
  rw [readLine, htrim]
  by_cases hcomment : a = '#'
  · simp [isCommented, hcomment]
  · have hcut : removeComment ⟨[], [a]⟩ = some ⟨[], [a]⟩ := by
      have htake : [a].takeWhile (· ≠ '#') = [a] := by
        simp [hcomment]
      rw [removeComment, Cursor.cut, htake, rtrim_singleton rfl]
    have hno : isCommented ⟨[], [a]⟩ = false := by
      simp [isCommented, hcomment]
    simp only [hno, hcut, Bool.false_eq_true, if_false]
    exact readBlocks_nil_iff.mpr ⟨rfl, fun key _ => not_name_infix_of_length le_rfl⟩

/-- A line of blanks: `rtrim` gets an empty line. -/
lemma readLine_of_trimmed (h : ∀ a ∈ line, isTrimmed a) (hlength : line.length < 2 ^ 32)
    (hone : line.length ≠ 1) : readLine env line p = .error .outside := by
  have htrim : trim ⟨[], line⟩ = none := by
    have hdrop : line.dropWhile isTrimmed = [] := List.dropWhile_eq_nil_iff.mpr h
    rw [trim, ltrim_eq hlength, if_neg hone, hdrop, rtrim_of_nil rfl]
  rw [readLine, htrim]

/-- The value is behind the first `=` of the line. -/
lemma valueOf_append (hb : '=' ∉ line) : valueOf ⟨line, t⟩ = valueOf ⟨[], line ++ t⟩ := by
  have htake : (line ++ t).takeWhile (· ≠ '=') = line ++ t.takeWhile (· ≠ '=') :=
    List.takeWhile_append_of_pos fun x hx => decide_eq_true fun heq => hb (heq ▸ hx)
  have hforth : Cursor.forth (((line ++ t).takeWhile (· ≠ '=')).length + 1) ⟨[], line ++ t⟩ =
      Cursor.forth ((t.takeWhile (· ≠ '=')).length + 1) ⟨line, t⟩ := by
    rw [htake, List.length_append, Nat.add_assoc, Cursor.forth, Cursor.forth]
    simp only [List.nil_append, List.take_length_add_append, List.drop_length_add_append]
  rw [valueOf, valueOf, hforth]
  simp only [List.mem_append, hb, false_or]

section Spec

variable (hne : line ≠ []) (hlength : line.length < 2 ^ 32)
include hne hlength

/-- What a line can be. -/
lemma readLine_cases :
    (line.length = 1 ∧ readLine env line p = .ok (p, []) ∧ ∀ key : Key, ¬ key.name <:+: bare line) ∨
    (line.length ≠ 1 ∧ (∀ a ∈ line, isTrimmed a) ∧ readLine env line p = .error .outside ∧
      ∀ key : Key, ¬ key.name <:+: bare line) ∨
    ((∃ a ∈ line, ¬ isTrimmed a) ∧
      ((readLine env line p = .ok (p, []) ∧ ∀ key : Key, ¬ key.name <:+: bare line) ∨
      ∃ c, c.line = bare line ∧ valueOf c = valueOf ⟨[], bare line⟩ ∧
        readLine env line p = readBlocks env blocks c p)) := by
  by_cases hone : line.length = 1
  · obtain ⟨a, rfl⟩ := List.length_eq_one_iff.mp hone
    refine Or.inl ⟨hone, readLine_singleton a, fun key => not_name_infix_of_length ?_⟩
    exact (List.rdropWhile_prefix _ _).length_le.trans (List.takeWhile_prefix _).length_le
  by_cases hall : ∀ a ∈ line, isTrimmed a
  · refine Or.inr (Or.inl ⟨hone, hall, readLine_of_trimmed hall hlength hone, fun key => ?_⟩)
    refine not_name_infix_of_trimmed fun a ha => hall a ?_
    exact (List.takeWhile_prefix _).subset ((List.rdropWhile_prefix _ _).subset ha)
  · have hex : ∃ a ∈ line, ¬ isTrimmed a := by simpa using hall
    obtain ⟨b, a, t, rfl, hb, ha⟩ := exists_untrimmed hex
    refine Or.inr (Or.inr ⟨hex, ?_⟩)
    rw [readLine_eq hb ha hlength hone]
    by_cases hcomment : a = '#'
    · rw [if_pos hcomment, hcomment, bare_of_comment hb]
      exact Or.inl ⟨rfl, fun key => not_name_infix_of_length (Nat.zero_le 1)⟩
    · rw [if_neg hcomment, bare_of_ne hb ha hcomment]
      exact Or.inr ⟨_, rfl, valueOf_append fun hmem => (ne_of_isTrimmed (hb _ hmem)).2 rfl, rfl⟩

/-- **No block runs** on a line exactly when it is silent. -/
theorem readLine_silent_iff : readLine env line p = .ok (p', []) ↔ p' = p ∧ Silent line := by
  have hsilent : (line.length = 1 ∨ ∃ a ∈ line, ¬ isTrimmed a) → (∀ key : Key, ¬ key.name <:+: bare line) →
      readLine env line p = .ok (p, []) → (readLine env line p = .ok (p', []) ↔ p' = p ∧ Silent line) := by
    intro hstays hno hread
    rw [hread, Except.ok.injEq, Prod.mk.injEq]
    exact ⟨fun h => ⟨h.1.symm, hstays, fun key _ => hno key⟩, fun h => ⟨h.1.symm, rfl⟩⟩
  rcases readLine_cases hne hlength with
    ⟨hone, hread, hno⟩ | ⟨hone, hall, hread, hno⟩ | ⟨hex, ⟨hread, hno⟩ | ⟨c, hc, hvalue, hread⟩⟩
  · exact hsilent (Or.inl hone) hno hread
  · rw [hread]
    refine iff_of_false (fun h => nomatch h) ?_
    rintro ⟨-, hone' | ⟨a, ha, hstays⟩, -⟩
    · exact hone hone'
    · exact hstays (hall a ha)
  · exact hsilent (Or.inr hex) hno hread
  · rw [hread, readBlocks_nil_iff, hc]
    exact ⟨fun h => ⟨h.1, Or.inr hex, h.2⟩, fun h => ⟨h.1, h.2.2⟩⟩

/-- **One block runs** on a line exactly when the line gives its value. -/
theorem readLine_gives_iff : readLine env line p = .ok (p', [(key, value)]) ↔
    Gives line key value ∧ key.set env value p = some p' := by
  have hnot : (∀ key : Key, ¬ key.name <:+: bare line) → ¬ Gives line key value := by
    rintro hno ⟨_, _, _, _, hkey, _⟩
    exact hno key hkey
  rcases readLine_cases hne hlength with
    ⟨-, hread, hno⟩ | ⟨-, -, hread, hno⟩ | ⟨-, ⟨hread, hno⟩ | ⟨c, hc, hvalue, hread⟩⟩
  · rw [hread]
    simp [hnot hno]
  · rw [hread]
    simp [hnot hno]
  · rw [hread]
    simp [hnot hno]
  · rw [hread, readBlocks_singleton_iff, hc, hvalue, Gives]
    constructor
    · rintro ⟨earlier, later, hsplit, hearlier, hkey, c', hc', hhere, hset, hlater⟩
      exact ⟨⟨earlier, later, hsplit, hearlier, hkey, c', hc', hhere, hlater⟩, hset⟩
    · rintro ⟨⟨earlier, later, hsplit, hearlier, hkey, c', hc', hhere, hlater⟩, hset⟩
      exact ⟨earlier, later, hsplit, hearlier, hkey, c', hc', hhere, hset, hlater⟩

end Spec

end ConfigReader
