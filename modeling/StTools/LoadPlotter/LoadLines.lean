import StTools.Lib.TextSearch
import StTools.Lib.Words
import StTools.ScenarioDeployGenerator.Text
import Mathlib.Algebra.Ring.Rat

/-!
# Load lines

`sar` sends a header now and then, and lines with a number under every label.  `parseLoadRead_CBA` keeps
the place of the label `%idle` in a global variable, and takes the number of a load line from this place.
The label is looked for without regard to capitals, the place is 0 until there was a header, and a line that
is too short has nothing at the place.  Lines are copied into buffers of 200 bytes, and what begins with the
name of the processor into one of 128.

`parsesLine_iff` says for which lines this is right.
-/

namespace LoadPlotter

open ScenarioDeployGenerator (Text)
open TextSearch (splitOnce)

/-! ## The helpers -/

/-- `CP_MAX_BUFFER_SIZE`. -/
def cpMaxBufferSize : ℕ := 200

/-- `IDLE_PARAM_LABEL`. -/
def idleParamLabel : Text := "%idle".toList

/-- `MEMUSED_PARAM_LABEL`. -/
def memusedParamLabel : Text := "%memused".toList

/-- `CPU_PARAM_LABEL`. -/
def cpuParamLabel : Text := "%CPU".toList

/-- `MEM_PARAM_LABEL`. -/
def memParamLabel : Text := "%MEM".toList

/-- The parts of a line that `strtok` gives for the separator of one blank. -/
def tokens (line : Text) : List Text := Words.words (· == ' ') line

/-- `strcasestr` finds the pattern. -/
def ContainsNoCase (text pattern : Text) : Prop := pattern.map Char.toLower <:+: text.map Char.toLower

instance (text pattern : Text) : Decidable (ContainsNoCase text pattern) :=
  inferInstanceAs (Decidable (pattern.map Char.toLower <:+: text.map Char.toLower))

/-- `labelOrder`: the place of the first token that contains the label, as an `unsigned short`. -/
def labelOrder (fullstring label : Text) : ℕ :=
  if ContainsNoCase fullstring label then
    ((tokens fullstring).findIdx (fun t => ContainsNoCase t label) + 1) % 65536
  else 0

/-- The places of the labels. -/
structure LabelPlaces where
  /-- `m_idle_pos`. -/
  idlePos : ℕ
  /-- `m_memused_pos`. -/
  memusedPos : ℕ
  /-- `m_cpucmd_pos`. -/
  cpucmdPos : ℕ
  /-- `m_memcmd_pos`. -/
  memcmdPos : ℕ
  deriving Repr, DecidableEq

/-- The line is a header. -/
def IsHeader (line : Text) : Prop :=
  idleParamLabel <:+: line ∨ memusedParamLabel <:+: line ∨ cpuParamLabel <:+: line ∨
    memParamLabel <:+: line

instance : DecidablePred IsHeader := fun _ => inferInstanceAs (Decidable (_ ∨ _ ∨ _ ∨ _))

/-- `confGetHeaderParams`. -/
def confGetHeaderParams (m : LabelPlaces) (line : Text) : LabelPlaces where
  idlePos := if idleParamLabel <:+: line then labelOrder line idleParamLabel else m.idlePos
  memusedPos := if memusedParamLabel <:+: line then labelOrder line memusedParamLabel else m.memusedPos
  cpucmdPos := if cpuParamLabel <:+: line then labelOrder line cpuParamLabel else m.cpucmdPos
  memcmdPos := if memParamLabel <:+: line then labelOrder line memParamLabel else m.memcmdPos

/-- `parCount` for the separator of one blank. -/
def parCount (line : Text) : ℕ := line.count ' ' + 1

/-- The token that `getParamNumber` converts, or `none` if there are not enough. -/
def paramToken (line : Text) (index : ℕ) : Option Text := (tokens line)[index - 1]?

/-- What `parseLoadRead_CBA` copies from the name of the processor on. -/
def fromProcessor (line : Text) : Text :=
  match splitOnce "PL-".toList line with
  | none => []
  | some (_, behind) => ("PL-".toList ++ behind).takeWhile (· != '\n')

/-- The line says the load of a processor. -/
def IsLoadLine (line : Text) : Prop :=
  ¬ IsHeader line ∧ 5 < parCount line ∧ "PL-".toList <:+: line ∧ ¬ "/".toList <:+: line ∧
    "_LOAD".toList <:+: line

instance : DecidablePred IsLoadLine := fun _ =>
  inferInstanceAs (Decidable (¬ _ ∧ _ ∧ _ ∧ ¬ _ ∧ _))

/-- What becomes of a line. -/
structure ParsedLine where
  /-- The global variables. -/
  places : LabelPlaces
  /-- What is added up. -/
  load : Option ℚ
  /-- Ghost: the sizes of the buffers into which something is copied, and the numbers of bytes. -/
  copies : List (ℕ × ℕ)
  /-- Ghost: the token that is converted, or `none` if it is missing. -/
  converted : Option (Option Text)

/-- `parseLoadRead_CBA`, up to the sums; `atof` is that of the C library. -/
def parseLoadRead (atof : Text → ℚ) (m : LabelPlaces) (buf : Text) : ParsedLine :=
  if IsHeader buf then
    ⟨confGetHeaderParams m buf, none, [(cpMaxBufferSize, buf.length + 1)], none⟩
  else if IsLoadLine buf then
    let token := paramToken buf m.idlePos
    ⟨m, some (100 - atof (token.getD [])),
      [(128, (fromProcessor buf).length), (cpMaxBufferSize, buf.length + 1)], some token⟩
  else ⟨m, none, [], none⟩

/-- The global variables behind some lines. -/
def placesAfter (lines : List Text) : LabelPlaces := lines.foldl confGetHeaderParams ⟨0, 0, 0, 0⟩

/-! ## What is asked of it -/

/-- The last header with the label `%idle`. -/
def lastHeader (lines : List Text) : Option Text :=
  (lines.filter fun line => idleParamLabel <:+: line).getLast?

/-- The column of this label. -/
def idleColumn (header : Text) : ℕ := (tokens header).findIdx fun t => idleParamLabel <:+: t

/-- The load that a line says, behind some others. -/
def announcedLoad (atof : Text → ℚ) (lines : List Text) (buf : Text) : Option ℚ :=
  if IsLoadLine buf then
    (lastHeader lines).bind fun header =>
      ((tokens buf)[idleColumn header]?).map fun token => 100 - atof token
  else none

/-- The line is parsed as it should be. -/
structure ParsesLine (atof : Text → ℚ) (lines : List Text) (buf : Text) : Prop where
  /-- The copies have room. -/
  inside : ∀ copy ∈ (parseLoadRead atof (placesAfter lines) buf).copies, copy.2 ≤ copy.1
  /-- No token is missing. -/
  present : (parseLoadRead atof (placesAfter lines) buf).converted ≠ some none
  /-- The load is that under the label. -/
  load : (parseLoadRead atof (placesAfter lines) buf).load = announcedLoad atof lines buf

/-- Under the label of the last header, and at the place where the label was looked for without regard to
capitals, the line has the same number. -/
def HasIdle (atof : Text → ℚ) (lines : List Text) (buf : Text) : Prop :=
  ∃ header ∈ lastHeader lines, ∃ token ∈ (tokens buf)[idleColumn header]?,
    ∃ found ∈ paramToken buf (labelOrder header idleParamLabel), atof found = atof token

/-- The line is in order. -/
structure LineInOrder (atof : Text → ℚ) (lines : List Text) (buf : Text) : Prop where
  /-- A header has room in the buffer. -/
  header : IsHeader buf → buf.length < cpMaxBufferSize
  /-- So has a load line, with what begins with the name of the processor, and it has a number. -/
  load : IsLoadLine buf →
    buf.length < cpMaxBufferSize ∧ (fromProcessor buf).length ≤ 128 ∧ HasIdle atof lines buf

/-! ## The place of the label -/

lemma findIdx_congr {α : Type*} {p q : α → Bool} {l : List α} (h : ∀ x ∈ l, p x = q x) :
    l.findIdx p = l.findIdx q := by
  induction l with
  | nil => rfl
  | cons x l ih =>
    obtain ⟨hx, hl⟩ := List.forall_mem_cons.mp h
    rw [List.findIdx_cons, List.findIdx_cons, hx, ih hl]

/-- Headers in which the label has no other capitals announce the column. -/
lemma labelOrder_eq_idleColumn {header : Text} (hidle : idleParamLabel <:+: header)
    (hcase : ∀ t ∈ tokens header, ContainsNoCase t idleParamLabel → idleParamLabel <:+: t)
    (hlt : idleColumn header + 1 < 65536) :
    labelOrder header idleParamLabel = idleColumn header + 1 := by
  have hmap : ∀ {text : Text}, idleParamLabel <:+: text → ContainsNoCase text idleParamLabel :=
    fun h => h.map Char.toLower
  have hcolumn : (tokens header).findIdx (fun t => ContainsNoCase t idleParamLabel) = idleColumn header := by
    refine findIdx_congr fun t ht => ?_
    exact decide_eq_decide.mpr ⟨hcase t ht, hmap⟩
  rw [labelOrder, if_pos (hmap hidle), hcolumn, Nat.mod_eq_of_lt hlt]

/-- The place is that in the last header. -/
lemma idlePos_placesAfter (lines : List Text) : (placesAfter lines).idlePos =
    match lastHeader lines with
    | none => 0
    | some header => labelOrder header idleParamLabel := by
  induction lines using List.reverseRecOn with
  | nil => rfl
  | append_singleton lines line ih =>
    unfold placesAfter lastHeader at ih ⊢
    rw [List.foldl_append, List.filter_append]
    simp only [List.foldl_cons, List.foldl_nil, confGetHeaderParams, List.filter_cons, List.filter_nil,
      decide_eq_true_eq]
    split
    · rw [List.getLast?_concat]
    · rw [List.append_nil]
      exact ih

/-- The load of a load line is that under the label when the line has it. -/
lemma load_eq_iff (atof : Text → ℚ) (lines : List Text) {buf : Text} (hload : IsLoadLine buf) :
    (paramToken buf (placesAfter lines).idlePos ≠ none ∧
      some (100 - atof ((paramToken buf (placesAfter lines).idlePos).getD [])) =
        announcedLoad atof lines buf) ↔ HasIdle atof lines buf := by
  unfold announcedLoad HasIdle
  rw [if_pos hload, idlePos_placesAfter]
  cases lastHeader lines with
  | none => simp
  | some header =>
    simp only [Option.bind_some, Option.mem_def, Option.some.injEq, exists_eq_left']
    cases (tokens buf)[idleColumn header]? with
    | none => simp
    | some token =>
      cases paramToken buf (labelOrder header idleParamLabel) with
      | none => simp
      | some found => simp

/-- **When a line is parsed as it should be.**  The copies have room, no token is missing, and the load is
that under the label of the last header, exactly for a line in order. -/
theorem parsesLine_iff (atof : Text → ℚ) (lines : List Text) (buf : Text) :
    ParsesLine atof lines buf ↔ LineInOrder atof lines buf := by
  by_cases hheader : IsHeader buf
  · have hload : ¬ IsLoadLine buf := fun h => h.1 hheader
    have hparse : parseLoadRead atof (placesAfter lines) buf =
        ⟨confGetHeaderParams (placesAfter lines) buf, none, [(cpMaxBufferSize, buf.length + 1)], none⟩ :=
      if_pos hheader
    constructor
    · intro h
      have hinside := h.inside (cpMaxBufferSize, buf.length + 1) (by simp [hparse])
      exact ⟨fun _ => hinside, fun hline => absurd hline hload⟩
    · intro h
      refine ⟨?_, by simp [hparse], by simp [hparse, announcedLoad, hload]⟩
      rw [hparse]
      exact List.forall_mem_singleton.mpr (h.header hheader)
  by_cases hload : IsLoadLine buf
  · have hparse : parseLoadRead atof (placesAfter lines) buf =
        ⟨placesAfter lines,
          some (100 - atof ((paramToken buf (placesAfter lines).idlePos).getD [])),
          [(128, (fromProcessor buf).length), (cpMaxBufferSize, buf.length + 1)],
          some (paramToken buf (placesAfter lines).idlePos)⟩ := by
      rw [parseLoadRead, if_neg hheader, if_pos hload]
    constructor
    · rintro ⟨hinside, hpresent, hvalue⟩
      rw [hparse] at hinside hpresent hvalue
      obtain ⟨hname, hline, -⟩ := List.forall_mem_cons.mp hinside |>.imp id List.forall_mem_cons.mp
      refine ⟨fun h => absurd h hheader, fun _ => ⟨hline, hname, (load_eq_iff atof lines hload).mp ?_⟩⟩
      exact ⟨fun hnone => hpresent (congrArg some hnone), hvalue⟩
    · rintro ⟨-, horder⟩
      obtain ⟨hline, hname, hidle⟩ := horder hload
      obtain ⟨hpresent, hvalue⟩ := (load_eq_iff atof lines hload).mpr hidle
      refine ⟨?_, ?_, ?_⟩
      · rw [hparse]
        exact List.forall_mem_cons.mpr ⟨hname, List.forall_mem_singleton.mpr hline⟩
      · rw [hparse]
        exact fun hnone => hpresent (Option.some.inj hnone)
      · rw [hparse]
        exact hvalue
  · have hparse : parseLoadRead atof (placesAfter lines) buf = ⟨placesAfter lines, none, [], none⟩ := by
      rw [parseLoadRead, if_neg hheader, if_neg hload]
    exact iff_of_true ⟨by simp [hparse], by simp [hparse], by simp [hparse, announcedLoad, hload]⟩
      ⟨fun h => absurd h hheader, fun h => absurd h hload⟩

/-- A load line. -/
def loadLine : Text := "PL-3_LOAD09:51:02 all 1.42 0.00 0.75 0.00 0.00 97.83".toList

/-- There was no header before it, and yet it is parsed: what is converted begins with the name of the
processor. -/
theorem loadLine_not_parsesLine :
    (parseLoadRead (fun _ => 0) (placesAfter []) loadLine).load.isSome ∧
      (parseLoadRead (fun _ => 0) (placesAfter []) loadLine).converted =
        some (some "PL-3_LOAD09:51:02".toList) ∧
      ¬ ParsesLine (fun _ => 0) [] loadLine := by
  have hload : (parseLoadRead (fun _ => 0) (placesAfter []) loadLine).load.isSome := by decide
  refine ⟨hload, by decide, fun h => ?_⟩
  have hnone : announcedLoad (fun _ => 0) [] loadLine = none := by decide
  rw [h.load, hnone] at hload
  exact nomatch hload

end LoadPlotter
