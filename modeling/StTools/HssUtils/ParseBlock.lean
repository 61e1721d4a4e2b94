import StTools.RunTitansim.PythonText

/-!
# Parsing of indented output

The output of a command has lines `key=value`, and the lines that belong to a line stand behind it with
more indentation.  `__parse_block__` takes the lines from a stack that it shares with the calls for the
blocks inside, and makes a dictionary of them: a repeated key gets the list of its values, and a key with
a block inside gets a dictionary from its values to the blocks.

A `Forest` says what the lines mean: every line has the lines that are nested in it.  `parse_eq` is the
connection: on the lines of a forest the loop over the stack does what `contents` does on the forest.
-/

namespace HssUtils

open ScenarioDeployGenerator (Text)
open RunTitansim (isWhite lstrip strip splitlines)

/-! ## Dictionaries -/

/-- A value that can be a key of a dictionary. -/
inductive Scalar (V : Type*)
  | none
  | text (t : Text)
  | other (v : V)
  deriving DecidableEq

/-- What a dictionary has for a key. -/
inductive Entry (V : Type*)
  | value (v : Scalar V)
  | list (vs : List (Scalar V))
  | dict (d : List (Scalar V × List (Scalar V × Entry V)))

/-- The dictionary of a block. -/
abbrev Block (V : Type*) := List (Scalar V × Entry V)

section SetKey

variable {κ α : Type*} [DecidableEq κ] {k k' : κ} {a : α} {d : List (κ × α)}

/-- Set the value of a key. -/
def setKey (k : κ) (a : α) : List (κ × α) → List (κ × α)
  | [] => [(k, a)]
  | e :: es => if e.1 = k then (k, a) :: es else e :: setKey k a es

@[simp] lemma lookup_setKey_self : (setKey k a d).lookup k = some a := by
  induction d with
  | nil => simp [setKey]
  | cons e es ih =>
    rw [setKey]
    split_ifs with h
    · simp
    · rw [List.lookup_cons, ih, beq_false_of_ne fun heq => h heq.symm]

lemma lookup_setKey_of_ne (h : k' ≠ k) : (setKey k a d).lookup k' = d.lookup k' := by
  induction d with
  | nil => simp [setKey, h]
  | cons e es ih =>
    obtain ⟨k₀, a₀⟩ := e
    rw [setKey]
    split_ifs with heq
    · obtain rfl : k₀ = k := heq
      rw [List.lookup_cons, List.lookup_cons, beq_false_of_ne h]
    · rw [List.lookup_cons, List.lookup_cons, ih]

end SetKey

variable {V : Type*} [DecidableEq V]

/-! ## The loop -/

/-- What may end the loop without a result. -/
inductive ParseError
  | outOfFuel
  /-- A list as a key. -/
  | typeError
  deriving DecidableEq

/-- The dictionary so far, with `last_key` and `last_value` if `last_key` is not `None`. -/
structure LoopState (V : Type*) where
  data : Block V
  last : Option (Scalar V × Scalar V)

/-- The state at the start of a block. -/
def LoopState.init : LoopState V := ⟨[], none⟩

/-- The entry of a key with one more value. -/
def addEntry (value : Scalar V) : Option (Entry V) → Entry V
  | some (.list vs) => .list (vs ++ [value])
  | some (.dict d) => .dict (setKey value [] d)
  | some (.value v) => .list [v, value]
  | none => .value value

/-- The entry of a key whose last value gets a block inside; `none` is the exception of a list as a key. -/
def attachEntry (value : Scalar V) (sub : Block V) : Option (Entry V) → Option (Entry V)
  | none => some (.dict [(value, sub)])
  | some (.dict d) => some (.dict (setKey value sub d))
  | some (.value v) => some (.dict [(v, sub)])
  | some (.list _) => none

/-- A line of the block. -/
def LoopState.addLine (s : LoopState V) (key value : Scalar V) : LoopState V where
  data := setKey key (addEntry value (s.data.lookup key)) s.data
  last := if key = .none then none else some (key, value)

/-- The block inside is attached to the last key. -/
def LoopState.attach (s : LoopState V) (sub : Block V) : Option (LoopState V) :=
  match s.last with
  | none => some s
  | some (key, value) =>
    (attachEntry value sub (s.data.lookup key)).map fun e => { s with data := setKey key e s.data }

/-- `identation`. -/
def identation (line : Text) : ℕ := line.length - (lstrip line).length

variable (autocast : Text → Scalar V)

/-- The key of a line. -/
def lineKey (line : Text) : Scalar V := autocast (strip (line.takeWhile (· ≠ '=')))

/-- The value of a line; `None` becomes the empty text. -/
def lineValue (line : Text) : Scalar V :=
  match autocast (strip ((line.dropWhile (· ≠ '=')).drop 1)) with
  | .none => .text []
  | v => v

/-- The loop of `__parse_block__` over the stack of lines: the dictionary and the lines that are left. -/
def parseBlock : (fuel blockIdentation : ℕ) → LoopState V → List Text →
    Except ParseError (Block V × List Text)
  | 0, _, _, _ => .error .outOfFuel
  | _ + 1, _, s, [] => .ok (s.data, [])
  | fuel + 1, block, s, line :: lines =>
    if strip line = [] then parseBlock fuel block s lines
    else if '=' ∉ line then parseBlock fuel block s lines
    else if identation line < block then .ok (s.data, line :: lines)
    else if block < identation line then
      match parseBlock fuel (identation line) .init lines with
      | .error e => .error e
      | .ok (sub, lines) =>
        match s.attach (setKey (lineKey autocast line) (.value (lineValue autocast line)) sub) with
        | none => .error .typeError
        | some s => parseBlock fuel block s lines
    else parseBlock fuel block (s.addLine (lineKey autocast line) (lineValue autocast line)) lines

/-- `parse`. -/
def parse (rawData : Text) : Except ParseError (Block V) :=
  (parseBlock autocast ((splitlines rawData).length + 1) 0 .init (splitlines rawData)).map Prod.fst

/-! ## Forests of lines -/

/-- Lines, each with the lines that are nested in it. -/
inductive Forest
  | nil
  | cons (line : Text) (children rest : Forest)
  deriving DecidableEq

namespace Forest

/-- The lines from top to bottom. -/
def lines : Forest → List Text
  | nil => []
  | cons line children rest => line :: (children.lines ++ rest.lines)

/-- The lines of a block have the indentation `i`, those of a block inside a larger one. -/
def Laid : ℕ → Forest → Prop
  | _, nil => True
  | i, cons line children rest =>
    identation line = i ∧ '=' ∈ line ∧ (∃ j, i < j ∧ Laid j children) ∧ Laid i rest

mutual

/-- What the lines of a block do to the state. -/
def contents : Forest → LoopState V → Option (LoopState V)
  | nil, s => some s
  | cons line children rest, s =>
    let s := s.addLine (lineKey autocast line) (lineValue autocast line)
    if children = nil then contents rest s
    else (subBlock children).bind fun sub => (s.attach sub).bind (contents rest)

/-- The dictionary of a block inside.  Its first line is merged at the end, and what is nested in this
line is not attached to any key. -/
def subBlock : Forest → Option (Block V)
  | nil => some []
  | cons line children rest =>
    (subBlock children).bind fun _ =>
      (contents rest .init).map fun s =>
        setKey (lineKey autocast line) (.value (lineValue autocast line)) s.data

end

/-! ## The loop on the lines of a forest -/

variable {autocast} {F : Forest} {i j fuel : ℕ} {s : LoopState V} {line : Text} {stack tail : List Text}

/-- The lines behind a block begin with one of a smaller indentation. -/
def Closes (i : ℕ) (tail : List Text) : Prop := ∀ line ∈ tail.head?, identation line < i ∧ '=' ∈ line

/-- A line with a key is not empty. -/
lemma strip_ne_nil (h : '=' ∈ line) : strip line ≠ [] := by
  intro hnil
  have hwhite : ∀ c ∈ line, isWhite c = true := by
    have hleft : lstrip (lstrip line).reverse = [] := List.reverse_eq_nil_iff.mp hnil
    have hall : ∀ c ∈ (lstrip line).reverse, isWhite c = true := List.dropWhile_eq_nil_iff.mp hleft
    intro c hc
    rw [← List.takeWhile_append_dropWhile (p := isWhite) (l := line)] at hc
    rcases List.mem_append.mp hc with hc | hc
    · exact List.mem_takeWhile_imp hc
    · exact hall c (List.mem_reverse.mpr hc)
  exact absurd (hwhite '=' h) (by decide)

/-- A line of the block. -/
lemma parseBlock_line (heq : '=' ∈ line) (hi : identation line = i) :
    parseBlock autocast (fuel + 1) i s (line :: stack) =
      parseBlock autocast fuel i (s.addLine (lineKey autocast line) (lineValue autocast line)) stack := by
  rw [parseBlock, if_neg (strip_ne_nil heq), if_neg (not_not.mpr heq), if_neg (by omega), if_neg (by omega)]

/-- A line that opens a block. -/
lemma parseBlock_opens (heq : '=' ∈ line) (hi : i < identation line) :
    parseBlock autocast (fuel + 1) i s (line :: stack) =
      match parseBlock autocast fuel (identation line) .init stack with
      | .error e => .error e
      | .ok (sub, lines) =>
        match s.attach (setKey (lineKey autocast line) (.value (lineValue autocast line)) sub) with
        | none => .error .typeError
        | some s => parseBlock autocast fuel i s lines := by
  rw [parseBlock, if_neg (strip_ne_nil heq), if_neg (not_not.mpr heq), if_neg (by omega), if_pos hi]

/-- The lines behind the block. -/
lemma parseBlock_closes (h : Closes i tail) :
    parseBlock autocast (fuel + 1) i s tail = .ok (s.data, tail) := by
  cases tail with
  | nil => rfl
  | cons line tail =>
    obtain ⟨hi, heq⟩ := h line rfl
    rw [parseBlock, if_neg (strip_ne_nil heq), if_neg (not_not.mpr heq), if_pos hi]

/-- What the loop returns for the state at the end of a block. -/
def closed (tail : List Text) : Option (LoopState V) → Except ParseError (Block V × List Text)
  | none => .error .typeError
  | some s => .ok (s.data, tail)

/-- How the loop goes on with the state behind a block inside. -/
def resumed (autocast : Text → Scalar V) (fuel i : ℕ) (tail : List Text) :
    Option (LoopState V) → Except ParseError (Block V × List Text)
  | none => .error .typeError
  | some s => parseBlock autocast fuel i s tail

/-- The lines behind a block inside close it, whether they are lines of the block around it or not. -/
lemma closes_lines (hF : Laid i F) (hij : i < j) (htail : Closes i tail) : Closes j (F.lines ++ tail) := by
  cases F with
  | nil => exact fun line hline => ⟨(htail line hline).1.trans hij, (htail line hline).2⟩
  | cons line children rest =>
    rintro _ ⟨⟩
    exact ⟨hF.1 ▸ hij, hF.2.1⟩

/-- The dictionary of a block inside, with the state that its first line leaves behind. -/
lemma subBlock_cons (children rest : Forest) :
    subBlock autocast (cons line children rest) =
      (if children = nil then contents autocast rest .init
        else (subBlock autocast children).bind fun sub =>
          (LoopState.init.attach sub).bind (contents autocast rest)).map fun s =>
        setKey (lineKey autocast line) (.value (lineValue autocast line)) s.data := by
  rw [subBlock]
  split_ifs with hnil
  · rw [hnil]
    rfl
  · cases subBlock autocast children <;> rfl

/-- **The loop and the forest.**  By induction on the forest: its lines as the lines of a block, and
its lines as a block inside. -/
lemma parseBlock_lines (autocast : Text → Scalar V) (F : Forest) :
    (∀ i s tail fuel, Laid i F → Closes i tail → (F.lines ++ tail).length < fuel →
      parseBlock autocast fuel i s (F.lines ++ tail) = closed tail (contents autocast F s)) ∧
    ∀ i j s tail fuel, F ≠ nil → Laid j F → i < j → Closes j tail → (F.lines ++ tail).length < fuel →
      ∃ fuel', tail.length < fuel' ∧ parseBlock autocast fuel i s (F.lines ++ tail) =
        resumed autocast fuel' i tail ((subBlock autocast F).bind s.attach) := by
  induction F with
  | nil =>
    refine ⟨fun i s tail fuel _ htail hfuel => ?_, fun i j s tail fuel hne => absurd rfl hne⟩
    obtain ⟨fuel, rfl⟩ := Nat.exists_eq_succ_of_ne_zero (Nat.ne_zero_of_lt hfuel)
    exact parseBlock_closes htail
  | cons line children rest ihc ihr =>
    -- the lines of the block behind the first line, with the block that is nested in it
    have hbody : ∀ i s tail fuel, (∃ j, i < j ∧ Laid j children) → Laid i rest → Closes i tail →
        (children.lines ++ (rest.lines ++ tail)).length < fuel →
        parseBlock autocast fuel i s (children.lines ++ (rest.lines ++ tail)) =
          closed tail (if children = nil then contents autocast rest s
            else (subBlock autocast children).bind fun sub =>
              (s.attach sub).bind (contents autocast rest)) := by
      rintro i s tail fuel ⟨j, hij, hchildren⟩ hrest htail hfuel
      by_cases hnil : children = nil
      · rw [if_pos hnil]
        subst hnil
        exact ihr.1 i s tail fuel hrest htail hfuel
      · obtain ⟨fuel', hfuel', hparse⟩ :=
          ihc.2 i j s _ fuel hnil hchildren hij (closes_lines hrest hij htail) hfuel
        rw [if_neg hnil, hparse, ← Option.bind_assoc]
        cases (subBlock autocast children).bind s.attach with
        | none => rfl
        | some s' => exact ihr.1 i s' tail fuel' hrest htail hfuel'
    have hlines : ∀ tail, (cons line children rest).lines ++ tail =
        line :: (children.lines ++ (rest.lines ++ tail)) := fun tail => by
      rw [lines, List.cons_append, List.append_assoc]
    constructor
    · rintro i s tail fuel ⟨hi, heq, hchildren, hrest⟩ htail hfuel
      obtain ⟨fuel, rfl⟩ := Nat.exists_eq_succ_of_ne_zero (Nat.ne_zero_of_lt hfuel)
      rw [hlines] at hfuel ⊢
      rw [parseBlock_line heq hi, hbody i _ tail fuel hchildren hrest htail (Nat.lt_of_succ_lt_succ hfuel)]
      rfl
    · rintro i j s tail fuel - ⟨hj, heq, hchildren, hrest⟩ hij htail hfuel
      obtain ⟨fuel, rfl⟩ := Nat.exists_eq_succ_of_ne_zero (Nat.ne_zero_of_lt hfuel)
      rw [hlines] at hfuel ⊢
      refine ⟨fuel, ?_, ?_⟩
      · simp only [List.length_cons, List.length_append] at hfuel
        omega
      · rw [parseBlock_opens heq (hj ▸ hij), hj,
          hbody j _ tail fuel hchildren hrest htail (Nat.lt_of_succ_lt_succ hfuel), subBlock_cons]
        generalize (if children = nil then contents autocast rest LoopState.init
          else (subBlock autocast children).bind fun sub =>
            (LoopState.init.attach sub).bind (contents autocast rest)) = o
        cases o with
        | none => rfl
        | some s' =>
          simp only [closed, Option.map_some, Option.bind_some]
          cases s.attach (setKey (lineKey autocast line) (.value (lineValue autocast line)) s'.data) <;> rfl

/-- **What `parse` returns**: the dictionary of the forest, or the exception that attaching raises. -/
theorem parse_eq {rawData : Text} (hlines : splitlines rawData = F.lines) (hF : Laid 0 F) :
    parse autocast rawData =
      match contents autocast F .init with
      | none => .error .typeError
      | some s => .ok s.data := by
  have h := (parseBlock_lines autocast F).1 0 .init [] (F.lines.length + 1) hF
    (fun _ hline => nomatch hline) (by simp)
  rw [List.append_nil] at h
  rw [parse, hlines, h]
  cases contents autocast F .init <;> rfl

end Forest

end HssUtils
