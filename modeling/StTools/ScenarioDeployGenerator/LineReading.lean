import StTools.Lib.WhileLoop
import StTools.ScenarioDeployGenerator.Configuration
import StTools.ScenarioDeployGenerator.TemplateBlocks

/-!
# Reading the lines of a file

The three functions that read a file are loops `while(inFile)` over `getline` with a buffer of 1024
bytes.  A line that does not fit sets the state of the stream to failure, as the end of the file does,
and the loop ends.  `linesProcessed_iff` says of each function that exactly the files without such a line
are processed line by line, but that the configuration may end the program before it comes to that line.
The buffers that lines are copied to are large enough in any case.

A text has no null characters.
-/

namespace ScenarioDeployGenerator

open TextSearch WhileLoop

/-! ## Streams -/

/-- An input stream. -/
structure Stream where
  /-- What has not been read. -/
  rest : Text
  /-- The end of the file has been seen. -/
  eof : Bool := false
  /-- The last operation has failed. -/
  fail : Bool := false
  deriving Repr, DecidableEq

/-- `getline` with a buffer of `lineSize` bytes: what is in the buffer then, and the stream.  It fails
when there is nothing to read, and when the buffer is full before the line ends. -/
def Stream.getline (s : Stream) : Text × Stream :=
  if s.eof ∨ s.fail then ([], { s with fail := true })
  else
    let line := s.rest.takeWhile (· ≠ '\n')
    if line.length < lineSize then
      match s.rest.drop line.length with
      | [] => (line, { rest := [], eof := true, fail := line = [] })
      | _ :: rest => (line, { rest := rest })
    else (buffer line, { rest := s.rest.drop (lineSize - 1), fail := true })

/-- A loop over the lines of a file. -/
structure Reader (σ : Type*) where
  /-- The file. -/
  inFile : Stream
  /-- The variables of the loop. -/
  state : σ
  /-- Ghost: the lines that were processed. -/
  done : List Text := []

variable {σ ε : Type*} {f : σ → Text → Except ε σ} {s : σ} {done : List Text} {text line raw : Text}
  {c : Char}

/-- A pass of `while(inFile)`, whose body may end the program. -/
def Reader.pass (f : σ → Text → Except ε σ) (x : Reader σ) : Reader σ ⊕ Except ε (σ × List Text) :=
  if x.inFile.fail then .inr (.ok (x.state, x.done))
  else
    match f x.state x.inFile.getline.1 with
    | .ok state =>
      .inl { inFile := x.inFile.getline.2, state := state, done := x.done ++ [x.inFile.getline.1] }
    | .error e => .inr (.error e)

/-- The lines of a text; a newline at the end does not begin another one. -/
def fileLines : Text → List Text
  | [] => []
  | c :: cs =>
    if c = '\n' then [] :: fileLines cs
    else
      match fileLines cs with
      | [] => [[c]]
      | line :: lines => (c :: line) :: lines

/-! ## The lines of a text -/

/-- A text without a newline is one line. -/
lemma fileLines_of_notMem (h : '\n' ∉ text) (hne : text ≠ []) : fileLines text = [text] := by
  induction text with
  | nil => exact absurd rfl hne
  | cons c cs ih =>
    rw [List.mem_cons, not_or] at h
    rw [fileLines, if_neg (Ne.symm h.1)]
    cases cs with
    | nil => rfl
    | cons d ds => rw [ih h.2 (List.cons_ne_nil _ _)]

/-- A line, and the others behind its newline. -/
lemma fileLines_append (h : '\n' ∉ line) :
    fileLines (line ++ '\n' :: text) = line :: fileLines text := by
  induction line with
  | nil => rw [List.nil_append, fileLines, if_pos rfl]
  | cons c cs ih =>
    rw [List.mem_cons, not_or] at h
    rw [List.cons_append, fileLines, if_neg (Ne.symm h.1), ih h.2]

/-- A text is empty, or a line, or a line with a newline and more. -/
lemma text_cases (text : Text) :
    '\n' ∉ text ∨ ∃ line rest, text = line ++ '\n' :: rest ∧ '\n' ∉ line := by
  by_cases h : '\n' ∈ text
  · obtain ⟨line, rest, heq, hline⟩ := List.eq_append_cons_of_mem h
    exact .inr ⟨line, rest, heq, hline⟩
  · exact .inl h

/-- The only line. -/
lemma takeWhile_of_notMem (h : '\n' ∉ line) : line.takeWhile (· ≠ '\n') = line := by
  refine List.takeWhile_eq_self_iff.mpr fun c hc => ?_
  exact decide_eq_true fun heq => h (heq ▸ hc)

/-- The first line. -/
lemma takeWhile_append (h : '\n' ∉ line) :
    (line ++ '\n' :: text).takeWhile (· ≠ '\n') = line := by
  induction line with
  | nil => simp
  | cons c cs ih =>
    rw [List.mem_cons, not_or] at h
    rw [List.cons_append, List.takeWhile_cons_of_pos (by simpa using Ne.symm h.1), ih h.2]

/-! ## What the loop does -/

/-- The lines that the loop gets: those of the text and an empty one at its end, unless there is one
that does not fit. -/
def handed (text : Text) : List Text :=
  if ∀ line ∈ fileLines text, FitsBuffer line then fileLines text ++ [[]] else getlines (fileLines text)

/-- A line that fits is got, and the others behind it. -/
lemma handed_append (hline : '\n' ∉ line) (hfits : FitsBuffer line) :
    handed (line ++ '\n' :: text) = line :: handed text := by
  rw [handed, handed, fileLines_append hline]
  by_cases h : ∀ l ∈ fileLines text, FitsBuffer l
  · rw [if_pos h, if_pos (List.forall_mem_cons.mpr ⟨hfits, h⟩), List.cons_append]
  · rw [if_neg h, if_neg fun hall => h (List.forall_mem_cons.mp hall).2, getlines,
      if_pos (show line.length < lineSize from hfits)]

/-- The only line, if it fits. -/
lemma handed_of_notMem (h : '\n' ∉ text) (hfits : FitsBuffer text) (hne : text ≠ []) :
    handed text = [text, []] := by
  rw [handed, fileLines_of_notMem h hne, if_pos]
  · rfl
  · exact List.forall_mem_singleton.mpr hfits

/-- A line that does not fit is the last one. -/
lemma handed_of_not_fits {lines : List Text} (hlines : fileLines text = line :: lines)
    (hfits : ¬ FitsBuffer line) : handed text = [buffer line] := by
  rw [handed, hlines, if_neg fun hall => hfits (List.forall_mem_cons.mp hall).1, getlines,
    if_neg (show ¬ line.length < lineSize from hfits)]
  rfl

/-- `getline` on a line that fits and ends. -/
lemma getline_append (h : '\n' ∉ line) (hfits : FitsBuffer line) :
    Stream.getline { rest := line ++ '\n' :: text } = (line, { rest := text }) := by
  have hlength : line.length < lineSize := hfits
  simp only [Stream.getline, takeWhile_append h, Bool.false_eq_true, or_self, if_false, hlength, if_true,
    List.drop_left]

/-- `getline` on the last line, which fits and does not end. -/
lemma getline_of_notMem (h : '\n' ∉ text) (hfits : FitsBuffer text) :
    Stream.getline { rest := text } = (text, { rest := [], eof := true, fail := text = [] }) := by
  have hlength : text.length < lineSize := hfits
  simp only [Stream.getline, takeWhile_of_notMem h, Bool.false_eq_true, or_self, if_false, hlength,
    if_true, List.drop_length]

/-- `getline` on a line that does not fit. -/
lemma getline_of_not_fits (hline : text.takeWhile (· ≠ '\n') = line) (hfits : ¬ FitsBuffer line) :
    Stream.getline { rest := text } =
      (buffer line, { rest := text.drop (lineSize - 1), fail := true }) := by
  have hlength : ¬ line.length < lineSize := hfits
  simp only [Stream.getline, hline, Bool.false_eq_true, or_self, if_false, hlength]

/-- The loop ends when the stream has failed. -/
lemma returns_of_fail {x : Reader σ} {r : Except ε (σ × List Text)} (h : x.inFile.fail = true) :
    Returns (Reader.pass f) x r ↔ r = .ok (x.state, x.done) := by
  refine returns_of_exit ?_
  rw [Reader.pass, if_pos h]

/-- A pass with a line. -/
lemma returns_of_line {stream stream' : Stream} {r : Except ε (σ × List Text)}
    (hfail : stream.fail = false) (h : stream.getline = (line, stream')) :
    Returns (Reader.pass f) { inFile := stream, state := s, done := done } r ↔
      match f s line with
      | .ok s' =>
        Returns (Reader.pass f) { inFile := stream', state := s', done := done ++ [line] } r
      | .error e => r = .error e := by
  have hpass : Reader.pass f { inFile := stream, state := s, done := done } =
      match f s line with
      | .ok s' => .inl { inFile := stream', state := s', done := done ++ [line] }
      | .error e => .inr (.error e) := by
    rw [Reader.pass, h, if_neg (by rw [hfail]; exact Bool.false_ne_true)]
  cases hf : f s line with
  | ok s' =>
    rw [hf] at hpass
    exact returns_of_continue hpass
  | error e =>
    rw [hf] at hpass
    exact returns_of_exit hpass

/-- The result of the loop over some lines, with these lines behind those that were processed. -/
def loopResult (f : σ → Text → Except ε σ) (s : σ) (done lines : List Text) :
    Except ε (σ × List Text) :=
  (lines.foldlM f s).map fun s' => (s', done ++ lines)

/-- One line more. -/
lemma loopResult_cons (lines : List Text) :
    loopResult f s done (line :: lines) =
      match f s line with
      | .ok s' => loopResult f s' (done ++ [line]) lines
      | .error e => .error e := by
  rw [loopResult, List.foldlM_cons]
  cases f s line with
  | ok s' =>
    simp only [loopResult, List.append_assoc]
    rfl
  | error e => rfl

/-- No line. -/
lemma loopResult_nil : loopResult f s done [] = .ok (s, done) := by
  rw [loopResult, List.append_nil]
  rfl

/-- A line with which the stream fails is the last one. -/
lemma returns_of_last_line {stream stream' : Stream} {r : Except ε (σ × List Text)}
    (hfail : stream.fail = false) (h : stream.getline = (line, stream')) (hlast : stream'.fail = true) :
    Returns (Reader.pass f) { inFile := stream, state := s, done := done } r ↔
      r = loopResult f s done [line] := by
  rw [returns_of_line hfail h, loopResult_cons]
  cases f s line with
  | ok s' =>
    dsimp only
    rw [returns_of_fail hlast, loopResult_nil]
  | error e => rfl

/-- **Loop.**  The loop ends, and its body has had the lines one after the other, unless it has ended
the program. -/
lemma returns_iff {r : Except ε (σ × List Text)} :
    Returns (Reader.pass f) { inFile := { rest := text }, state := s, done := done } r ↔
      r = loopResult f s done (handed text) := by
  induction hlength : text.length using Nat.strong_induction_on generalizing text s done with
  | _ n ih =>
    rcases text_cases text with hnewline | ⟨line, rest, rfl, hline⟩
    · by_cases hfits : FitsBuffer text
      · have hget := getline_of_notMem hnewline hfits
        by_cases hne : text = []
        · subst hne
          exact returns_of_last_line rfl hget rfl
        · have hfail : decide (text = []) = false := decide_eq_false hne
          rw [returns_of_line rfl hget, handed_of_notMem hnewline hfits hne, loopResult_cons]
          cases f s text with
          | error e => rfl
          | ok s' => exact returns_of_last_line hfail rfl rfl
      · have hne : text ≠ [] := by
          rintro rfl
          exact hfits (by decide)
        have hget := getline_of_not_fits (takeWhile_of_notMem hnewline) hfits
        rw [handed_of_not_fits (fileLines_of_notMem hnewline hne) hfits]
        exact returns_of_last_line rfl hget rfl
    · by_cases hfits : FitsBuffer line
      · rw [returns_of_line rfl (getline_append hline hfits), handed_append hline hfits, loopResult_cons]
        cases f s line with
        | error e => rfl
        | ok s' =>
          refine ih rest.length ?_ rfl
          rw [← hlength, List.length_append, List.length_cons]
          omega
      · have hget : Stream.getline { rest := line ++ '\n' :: rest } = _ :=
          getline_of_not_fits (takeWhile_append hline) hfits
        rw [handed_of_not_fits (fileLines_append hline) hfits]
        exact returns_of_last_line rfl hget rfl

/-- An empty line at the end makes no difference when the body does nothing with it. -/
lemma foldlM_handed (hempty : ∀ s, f s [] = .ok s) :
    (handed text).foldlM f s = (getlines (fileLines text)).foldlM f s := by
  rw [handed]
  split_ifs with hfits
  · rw [getlines_of_fits hfits, List.foldlM_append]
    cases (fileLines text).foldlM f s with
    | ok s' => exact congrArg (· >>= pure) (hempty s')
    | error e => rfl
  · rfl

/-! ## The three functions -/

/-- The body of the loop of `readTemplateFile`. -/
def templateBody (r : Reading) (line : Text) : Except Failure Reading := .ok (templateLine r line)

/-- The body of the loop of `readTrafficDescUserFile`. -/
def userBody (g : Globals) (line : Text) : Except Failure Globals := .ok (userLine g line)

/-- A body that never ends the program. -/
lemma foldlM_ok {g : σ → Text → σ} (l : List Text) :
    l.foldlM (fun s line => (.ok (g s line) : Except ε σ)) s = .ok (l.foldl g s) := by
  induction l generalizing s with
  | nil => rfl
  | cons line l ih => exact ih

/-- An empty line of the template. -/
lemma templateLine_nil (r : Reading) : templateLine r [] = r := rfl

/-- An empty line of the user's file. -/
lemma userLine_nil (g : Globals) : userLine g [] = g := rfl

/-- An empty line of the configuration. -/
lemma configLine_nil (g : Globals) : configLine g [] = .ok g := rfl

/-- The loop over the template gives what `readTemplateFile` makes of the lines. -/
lemma readTemplateFile_of_returns {g : Globals} {r : Reading}
    (h : Returns (Reader.pass templateBody) { inFile := { rest := text }, state := .first g }
      (.ok (r, done))) : r.insertScript = readTemplateFile (fileLines text) g := by
  have hempty : ∀ r, templateBody r [] = .ok r := fun r => congrArg Except.ok (templateLine_nil r)
  have hloop := returns_iff.mp h
  rw [loopResult, foldlM_handed hempty] at hloop
  have hfold : (getlines (fileLines text)).foldlM templateBody (Reading.first g) =
      .ok ((getlines (fileLines text)).foldl templateLine (Reading.first g)) := foldlM_ok _
  rw [hfold] at hloop
  cases hloop
  rfl

/-- The loop over the user's file. -/
lemma readTrafficDescUserFile_of_returns {g g' : Globals}
    (h : Returns (Reader.pass userBody) { inFile := { rest := text }, state := g } (.ok (g', done))) :
    g' = readTrafficDescUserFile (fileLines text) g := by
  have hempty : ∀ g, userBody g [] = .ok g := fun g => congrArg Except.ok (userLine_nil g)
  have hloop := returns_iff.mp h
  rw [loopResult, foldlM_handed hempty] at hloop
  have hfold : (getlines (fileLines text)).foldlM userBody g =
      .ok ((getlines (fileLines text)).foldl userLine g) := foldlM_ok _
  rw [hfold] at hloop
  cases hloop
  rfl

/-- The loop over the configuration. -/
lemma readConfigurationFile_of_returns {g : Globals} {r : Except Failure (Globals × List Text)}
    (h : Returns (Reader.pass configLine) { inFile := { rest := text }, state := g } r) :
    r.map Prod.fst = readConfigurationFile (fileLines text) g := by
  rw [returns_iff.mp h, loopResult, foldlM_handed configLine_nil, readConfigurationFile]
  cases (getlines (fileLines text)).foldlM configLine g <;> rfl

/-! ## Buffers -/

/-- What is copied into a buffer when fields are taken off a text, at most so many times. -/
def fieldCopies : ℕ → Text → List Text
  | 0, _ => []
  | n + 1, t =>
    t :: match splitOnce [':'] t with
      | none => []
      | some x => fieldCopies n x.2

/-- What is copied into buffers for a line of the template: the line in `purgeLine`, and what stands
behind the keywords of defines. -/
def templateCopies (r : Reading) (raw : Text) : List Text :=
  let params := defineLine "DEFINE".toList (purgeLine raw) true r.globals.defineParam
  let layer := defineLine "DEF_LAYER".toList params.line params.after r.globals.defineParamLayer
  let mo := defineLine "DEF_MO".toList layer.line layer.after r.globals.defineParamMO
  [raw, params.line, layer.line, mo.line]

/-- What is copied into buffers for a line of the user's file. -/
def userCopies (g : Globals) (raw : Text) : List Text :=
  let add := groupLine "addToGroup".toList (purgeLine raw) (fun groups value => groups ++ [value]) g
  let rem := groupLine "remFromGroup".toList add.1 (fun groups value => groups.erase value) add.2
  let params := userDefineLine "DEFINE".toList rem.1 true rem.2.defineParam
  let layer := userDefineLine "DEF_LAYER".toList params.line params.after rem.2.defineParamLayer
  let mo := userDefineLine "DEF_MO".toList layer.line layer.after rem.2.defineParamMO
  [raw, add.1, rem.1, params.line, layer.line, mo.line]

/-- How often `storeloadSched`, `modTrafficCase` and `changeRange` copy into their buffer. -/
def copyingKeys : List (Text × ℕ) :=
  [("loadSched".toList, 1), ("modTc".toList, 3), ("sub_range".toList, 2)]

/-- What is copied into buffers for a line of the configuration. -/
def configCopies (raw : Text) : List Text :=
  raw :: match filterLine (purgeLine raw) ":=".toList false with
    | none => []
    | some element =>
      match readKey (purgeLine raw) element with
      | none => []
      | some value => fieldCopies ((copyingKeys.lookup element).getD 0) value

/-- No buffer is overrun: neither by `getline` nor by a copy. -/
def NoOverrun : Prop :=
  (∀ stream : Stream, FitsBuffer stream.getline.1) ∧ ∀ raw, FitsBuffer raw →
    (∀ r, ∀ t ∈ templateCopies r raw, FitsBuffer t) ∧ (∀ g, ∀ t ∈ userCopies g raw, FitsBuffer t) ∧
      ∀ t ∈ configCopies raw, FitsBuffer t

/-- What the buffer holds fits. -/
lemma fits_buffer (raw : Text) : FitsBuffer (buffer raw) := by
  rw [FitsBuffer, buffer, List.length_take]
  exact (Nat.min_le_left _ _).trans_lt (by decide)

/-- A shorter text. -/
lemma FitsBuffer.of_length_le {t : Text} (h : FitsBuffer raw) (hle : t.length ≤ raw.length) :
    FitsBuffer t := hle.trans_lt h

/-- Purging makes a line shorter. -/
lemma length_purgeLine (raw : Text) : (purgeLine raw).length ≤ raw.length := by
  fun_induction purgeLine raw with
  | case1 => exact Nat.le_refl _
  | case2 => exact Nat.zero_le _
  | case3 => exact Nat.zero_le _
  | case4 => exact Nat.zero_le _
  | case5 cs ih => exact ih.trans (Nat.le_succ _)
  | case6 cs ih => exact ih.trans (Nat.le_succ _)
  | case7 c cs _ _ _ _ _ ih => exact Nat.succ_le_succ ih

/-- The parts of a text are shorter. -/
lemma length_splitOnce {pat t : Text} {x : Text × Text} (h : splitOnce pat t = some x) :
    x.1.length ≤ t.length ∧ x.2.length ≤ t.length := by
  have heq := congrArg List.length (eq_append_of_splitOnce (a := x.1) (b := x.2) h)
  rw [List.length_append, List.length_append] at heq
  omega

/-- So is what `filterLine` takes out of a line. -/
lemma length_filterLine {filter t : Text} {after : Bool} (h : filterLine line filter after = some t) :
    t.length ≤ line.length := by
  obtain ⟨x, hx, rfl⟩ := Option.map_eq_some_iff.mp h
  obtain ⟨hfst, hsnd⟩ := length_splitOnce hx
  split_ifs
  · exact hsnd
  · exact hfst

/-- Copies of fields fit. -/
lemma fits_fieldCopies (n : ℕ) {t : Text} (h : FitsBuffer t) : ∀ x ∈ fieldCopies n t, FitsBuffer x := by
  induction n generalizing t with
  | zero => exact fun _ hx => nomatch hx
  | succ n ih =>
    intro x hx
    rw [fieldCopies] at hx
    rcases List.mem_cons.mp hx with rfl | hx
    · exact h
    · cases hsplit : splitOnce [':'] t with
      | none =>
        rw [hsplit] at hx
        nomatch hx
      | some y =>
        rw [hsplit] at hx
        exact ih (h.of_length_le (length_splitOnce hsplit).2) x hx

/-- The line after a define of the template. -/
lemma length_defineLine (keyword : Text) (after : Bool) (table : OrderedMap Text Text) :
    (defineLine keyword line after table).line.length ≤ line.length := by
  rw [defineLine]
  cases hfilter : filterLine line keyword after with
  | none => exact Nat.le_refl _
  | some element =>
    have hlength : element.length ≤ line.length := length_filterLine hfilter
    dsimp only
    cases splitOnce ":=".toList element <;> exact hlength

/-- The line after a define of the user's file. -/
lemma length_userDefineLine (keyword : Text) (after : Bool) (table : OrderedMap Text Text) :
    (userDefineLine keyword line after table).line.length ≤ line.length := by
  rw [userDefineLine]
  cases hfilter : filterLine line keyword after with
  | none => exact Nat.le_refl _
  | some element =>
    have hlength : element.length ≤ line.length := length_filterLine hfilter
    dsimp only
    cases splitOnce ":=".toList element <;> exact hlength

/-- The line after a line about groups. -/
lemma length_groupLine (keyword : Text) (change : List Text → Text → List Text) (g : Globals) :
    (groupLine keyword line change g).1.length ≤ line.length := by
  rw [groupLine]
  cases hfilter : filterLine line keyword true with
  | none => exact Nat.le_refl _
  | some element =>
    have hlength : element.length ≤ line.length := length_filterLine hfilter
    dsimp only
    cases splitOnce ":=".toList element <;> exact hlength

/-- `getline` does not write behind the buffer. -/
lemma fits_getline (stream : Stream) : FitsBuffer stream.getline.1 := by
  rw [Stream.getline]
  split_ifs with hended
  · exact Nat.zero_lt_of_lt (Nat.lt_succ_self 1023)
  · dsimp only
    split_ifs with hfits
    · split <;> exact hfits
    · exact fits_buffer _

/-- The copies for a line of the template fit. -/
lemma fits_templateCopies (r : Reading) (h : FitsBuffer raw) : ∀ t ∈ templateCopies r raw, FitsBuffer t := by
  intro t ht
  have hline : FitsBuffer (purgeLine raw) := h.of_length_le (length_purgeLine raw)
  have hparams := hline.of_length_le (length_defineLine "DEFINE".toList true r.globals.defineParam)
  have hlayer := hparams.of_length_le (length_defineLine "DEF_LAYER".toList
    (defineLine "DEFINE".toList (purgeLine raw) true r.globals.defineParam).after
    r.globals.defineParamLayer)
  simp only [templateCopies, List.mem_cons, List.not_mem_nil, or_false] at ht
  rcases ht with rfl | rfl | rfl | rfl
  · exact h
  · exact hparams
  · exact hlayer
  · exact hlayer.of_length_le (length_defineLine _ _ _)

/-- The copies for a line of the user's file fit. -/
lemma fits_userCopies (g : Globals) (h : FitsBuffer raw) : ∀ t ∈ userCopies g raw, FitsBuffer t := by
  intro t ht
  have hline : FitsBuffer (purgeLine raw) := h.of_length_le (length_purgeLine raw)
  have hadd := hline.of_length_le
    (length_groupLine "addToGroup".toList (fun groups value => groups ++ [value]) g)
  have hrem := hadd.of_length_le (length_groupLine "remFromGroup".toList
    (fun groups value => groups.erase value)
    (groupLine "addToGroup".toList (purgeLine raw) (fun groups value => groups ++ [value]) g).2)
  have hparams : ∀ table, FitsBuffer (userDefineLine "DEFINE".toList _ true table).line :=
    fun table => hrem.of_length_le (length_userDefineLine _ _ table)
  have hlayer : ∀ after table table', FitsBuffer (userDefineLine "DEF_LAYER".toList
      (userDefineLine "DEFINE".toList _ true table).line after table').line :=
    fun after table table' => (hparams table).of_length_le (length_userDefineLine _ after table')
  simp only [userCopies, List.mem_cons, List.not_mem_nil, or_false] at ht
  rcases ht with rfl | rfl | rfl | rfl | rfl | rfl
  · exact h
  · exact hadd
  · exact hrem
  · exact hparams _
  · exact hlayer _ _ _
  · exact (hlayer _ _ _).of_length_le (length_userDefineLine _ _ _)

/-- The copies for a line of the configuration fit. -/
lemma fits_configCopies (h : FitsBuffer raw) : ∀ t ∈ configCopies raw, FitsBuffer t := by
  intro t ht
  have hline : FitsBuffer (purgeLine raw) := h.of_length_le (length_purgeLine raw)
  rw [configCopies] at ht
  rcases List.mem_cons.mp ht with rfl | ht
  · exact h
  · cases hkey : filterLine (purgeLine raw) ":=".toList false with
    | none =>
      rw [hkey] at ht
      nomatch ht
    | some element =>
      rw [hkey] at ht
      dsimp only at ht
      cases hvalue : readKey (purgeLine raw) element with
      | none =>
        rw [hvalue] at ht
        nomatch ht
      | some value =>
        rw [hvalue] at ht
        exact fits_fieldCopies _ (hline.of_length_le (length_filterLine hvalue)) t ht

/-- No buffer is overrun. -/
lemma noOverrun : NoOverrun :=
  ⟨fits_getline, fun _ h =>
    ⟨fun r => fits_templateCopies r h, fun g => fits_userCopies g h, fits_configCopies h⟩⟩

/-! ## The result -/

/-- The loop ends, and unless the program exits with an error every line of the file was processed, in
order; the last pass, at the end of the file, has an empty line. -/
def ProcessesAll (f : σ → Text → Except ε σ) (s : σ) (text : Text) : Prop :=
  (∃ r, Returns (Reader.pass f) { inFile := { rest := text }, state := s } r) ∧
    ∀ s' done, Returns (Reader.pass f) { inFile := { rest := text }, state := s } (.ok (s', done)) →
      done = fileLines text ++ [[]]

/-- When all lines fit, all are processed. -/
lemma processesAll_of_fits (hfits : ∀ line ∈ fileLines text, FitsBuffer line) :
    ProcessesAll f s text := by
  refine ⟨⟨_, returns_iff.mpr rfl⟩, fun s' done h => ?_⟩
  have hloop := returns_iff.mp h
  rw [loopResult, List.nil_append, handed, if_pos hfits] at hloop
  cases hfold : (fileLines text ++ [[]]).foldlM f s with
  | ok s'' =>
    rw [hfold] at hloop
    cases hloop
    rfl
  | error e =>
    rw [hfold] at hloop
    nomatch hloop

/-- There are no more lines than the file has. -/
lemma length_getlines (l : List Text) : (getlines l).length ≤ l.length := by
  induction l with
  | nil => exact Nat.le_refl _
  | cons line l ih =>
    rw [getlines]
    split_ifs
    · exact Nat.succ_le_succ ih
    · exact Nat.succ_le_succ (Nat.zero_le _)

/-- When no line ends the program, all are processed only if all fit. -/
lemma processesAll_iff {s' : σ} (hfold : (handed text).foldlM f s = .ok s') :
    ProcessesAll f s text ↔ ∀ line ∈ fileLines text, FitsBuffer line := by
  refine ⟨fun h => ?_, processesAll_of_fits⟩
  have hreturns : Returns (Reader.pass f) { inFile := { rest := text }, state := s }
      (.ok (s', handed text)) := by
    rw [returns_iff, loopResult, hfold]
    rfl
  have hall : handed text = fileLines text ++ [[]] := h.2 s' _ hreturns
  by_contra hfits
  rw [handed, if_neg hfits] at hall
  have hlength := length_getlines (fileLines text)
  rw [hall, List.length_append, List.length_singleton] at hlength
  exact Nat.not_succ_le_self _ hlength

/-- A body that can end the program processes every line, or ends it, exactly when every line of the file
fits, or it comes to its end with the lines that are handed to it. -/
lemma processesAll_or_exits_iff : ProcessesAll f s text ↔
    (∀ line ∈ fileLines text, FitsBuffer line) ∨ ∃ e, (handed text).foldlM f s = .error e := by
  cases hfold : (handed text).foldlM f s with
  | ok s' =>
    rw [processesAll_iff hfold, or_iff_left]
    rintro ⟨e, he⟩
    cases he
  | error e =>
    refine iff_of_true ⟨⟨_, returns_iff.mpr rfl⟩, fun s' done h => ?_⟩ (.inr ⟨e, rfl⟩)
    have hloop := returns_iff.mp h
    rw [loopResult, hfold] at hloop
    cases hloop

/-- `readTemplateFile` and `readTrafficDescUserFile` process every line of a file in order exactly when
every line fits into the buffer; `readConfigurationFile` does so, or the program exits with an error,
exactly when every line fits or the program exits at one of the lines up to the first that does not.  No
buffer is overrun. -/
theorem linesProcessed_iff (text : Text) (r : Reading) (g g' : Globals) :
    (ProcessesAll templateBody r text ↔ ∀ line ∈ fileLines text, FitsBuffer line) ∧
      (ProcessesAll userBody g text ↔ ∀ line ∈ fileLines text, FitsBuffer line) ∧
      (ProcessesAll configLine g' text ↔ (∀ line ∈ fileLines text, FitsBuffer line) ∨
        ∃ e, (handed text).foldlM configLine g' = .error e) ∧
      NoOverrun :=
  ⟨processesAll_iff (foldlM_ok _), processesAll_iff (foldlM_ok _), processesAll_or_exits_iff, noOverrun⟩

/-- A line of 1024 characters, and another one. -/
def longLine : Text := List.replicate 1024 'a' ++ ['\n', 'b']

/-- The first line has no newline. -/
lemma longLine_no_newline : '\n' ∉ List.replicate 1024 'a' :=
  fun h => absurd (List.eq_of_mem_replicate h) (by decide)

/-- It does not fit. -/
lemma longLine_first : ¬ FitsBuffer (List.replicate 1024 'a') := by
  rw [FitsBuffer, List.length_replicate]
  decide

/-- Nor does the file. -/
lemma longLine_not_fits : ¬ ∀ line ∈ fileLines longLine, FitsBuffer line := by
  rw [longLine, fileLines_append longLine_no_newline]
  exact fun h => longLine_first (h _ List.mem_cons_self)

/-- A line of the configuration without a colon. -/
lemma configLine_of_notMem (g : Globals) (h : ':' ∉ raw) : configLine g raw = .ok g := by
  have hline : ':' ∉ purgeLine raw := fun hmem => h (mem_purgeLine hmem).1
  have hsplit : splitOnce ":=".toList (purgeLine raw) = none := by
    rw [splitOnce_eq_none_iff]
    exact fun hpart => hline (hpart.subset List.mem_cons_self)
  rw [configLine, filterLine, hsplit]
  rfl

/-- The line behind it is not read by any of the three functions, and the program does not exit. -/
theorem longLine_not_processed :
    let g := Globals.initial .esm false []
    ¬ ProcessesAll templateBody (.first g) longLine ∧ ¬ ProcessesAll userBody g longLine ∧
      ¬ ProcessesAll configLine g longLine := by
  have hcut : ':' ∉ buffer (List.replicate 1024 'a') :=
    fun h => absurd (List.eq_of_mem_replicate (List.mem_of_mem_take h)) (by decide)
  have hconfig : ∀ g, (handed longLine).foldlM configLine g = .ok g := by
    intro g
    rw [longLine, handed_of_not_fits (fileLines_append longLine_no_newline) longLine_first]
    exact congrArg (· >>= pure) (configLine_of_notMem g hcut)
  exact ⟨fun h => longLine_not_fits ((processesAll_iff (foldlM_ok _)).mp h),
    fun h => longLine_not_fits ((processesAll_iff (foldlM_ok _)).mp h),
    fun h => longLine_not_fits ((processesAll_iff (hconfig _)).mp h)⟩

end ScenarioDeployGenerator
