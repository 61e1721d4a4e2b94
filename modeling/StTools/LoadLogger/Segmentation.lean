import StTools.LoadLogger.Telnet
import StTools.Lib.LabelledSystem
import Mathlib.Data.List.TakeWhile

/-!
# An answer in pieces

TCP delivers an answer in pieces of any length.  `recv_answer` looks for the prompt in the newest piece
only, so it does not see a prompt that is cut, and waits for one until it gives up.  The lines are
split by going from line to line and skipping what stands between them, blanks included; nothing is
skipped before the first line.  And the vector of the caller keeps what it holds when there is no line.

`answers_iff` says that nothing else goes wrong.
-/

namespace LoadLogger

/-! ## The lines of a text -/

/-- The end of a line. -/
def isLineEnd (c : Char) : Bool := c = '\r' ∨ c = '\n'

/-- A blank at the start of a line. -/
def isBlank (c : Char) : Bool := c = ' ' ∨ c = '\t'

/-- A line, if it has more than one character. -/
def long (line : Text) : List Text := if 1 < line.length then [line] else []

/-- The lines of a text without the blanks before them, as far as they have more than one character. -/
def textLines (t : Text) : List Text := (t.splitOnP isLineEnd).flatMap fun l => long (l.dropWhile isBlank)

/-- The first line. -/
def firstLine (t : Text) : Text := t.takeWhile fun c => !isLineEnd c

/-- What follows the first line, from its end on. -/
def afterFirst (t : Text) : Text := t.dropWhile fun c => !isLineEnd c

variable {t : Text}

lemma firstLine_append_afterFirst (t : Text) : firstLine t ++ afterFirst t = t :=
  List.takeWhile_append_dropWhile

/-- The first line, and the lines of what is behind its end. -/
lemma splitOnP_isLineEnd (t : Text) : t.splitOnP isLineEnd =
    firstLine t :: ((afterFirst t).tail?.elim [] fun r => r.splitOnP isLineEnd) := by
  induction t with
  | nil => rfl
  | cons c cs ih =>
    rw [List.splitOnP_cons_eq_if_modifyHead]
    by_cases hc : isLineEnd c = true
    · have hfirst : firstLine (c :: cs) = [] := by simp [firstLine, hc]
      have hafter : afterFirst (c :: cs) = c :: cs := by simp [afterFirst, hc]
      rw [if_pos hc, hfirst, hafter]
      rfl
    · have hfirst : firstLine (c :: cs) = c :: firstLine cs := by simp [firstLine, hc]
      have hafter : afterFirst (c :: cs) = afterFirst cs := by simp [afterFirst, hc]
      rw [if_neg hc, ih, hfirst, hafter]
      rfl

lemma textLines_eq (t : Text) : textLines t =
    long ((firstLine t).dropWhile isBlank) ++ (afterFirst t).tail?.elim [] textLines := by
  rw [textLines, splitOnP_isLineEnd, List.flatMap_cons]
  congr 1
  cases (afterFirst t).tail? <;> rfl

/-- Line ends and blanks at the start of a text make no difference. -/
lemma textLines_cons {c : Char} (hc : skipped c = true) (hnul : c ≠ nul) (cs : Text) :
    textLines (c :: cs) = textLines cs := by
  by_cases hend : isLineEnd c = true
  · have hfirst : firstLine (c :: cs) = [] := by simp [firstLine, hend]
    have hafter : afterFirst (c :: cs) = c :: cs := by simp [afterFirst, hend]
    rw [textLines_eq, hfirst, hafter]
    rfl
  · have hblank : isBlank c = true := by
      simp only [skipped, isLineEnd, isBlank, decide_eq_true_eq, not_or] at hc hend ⊢
      tauto
    have hfirst : firstLine (c :: cs) = c :: firstLine cs := by simp [firstLine, hend]
    have hafter : afterFirst (c :: cs) = afterFirst cs := by simp [afterFirst, hend]
    rw [textLines_eq, textLines_eq cs, hfirst, hafter, List.dropWhile_cons_of_pos hblank]

lemma textLines_dropWhile (h : nul ∉ t) : textLines (t.dropWhile skipped) = textLines t := by
  induction t with
  | nil => rfl
  | cons c cs ih =>
    have hcs : nul ∉ cs := fun hmem => h (List.mem_cons_of_mem c hmem)
    by_cases hc : skipped c = true
    · have hne : c ≠ nul := fun heq => h (heq ▸ List.mem_cons_self)
      rw [List.dropWhile_cons_of_pos hc, ih hcs, textLines_cons hc hne]
    · rw [List.dropWhile_cons_of_neg hc]

/-- The lines behind the first, whose end is skipped with what follows it. -/
lemma textLines_afterFirst (t : Text) :
    textLines (afterFirst t) = (afterFirst t).tail?.elim [] textLines := by
  cases hafter : afterFirst t with
  | nil => rfl
  | cons c cs =>
    have hc : isLineEnd c = true := by
      have hhead := List.head?_dropWhile_not (fun c => !isLineEnd c) t
      rw [← afterFirst, hafter] at hhead
      simpa using hhead
    have hfirst : firstLine (c :: cs) = [] := by simp [firstLine, hc]
    have hafter' : afterFirst (c :: cs) = c :: cs := by simp [afterFirst, hc]
    rw [textLines_eq, hfirst, hafter']
    rfl

/-! ## `get_line` -/

/-- The first line end is the first carriage return or the first newline. -/
lemma findIdx_isLineEnd (t : Text) :
    t.findIdx isLineEnd = min (t.findIdx (· = '\r')) (t.findIdx (· = '\n')) := by
  induction t with
  | nil => rfl
  | cons c cs ih =>
    rw [List.findIdx_cons, List.findIdx_cons, List.findIdx_cons, ih]
    by_cases hr : c = '\r'
    · simp [isLineEnd, hr]
    · by_cases hn : c = '\n'
      · simp [isLineEnd, hn]
      · simp [isLineEnd, hr, hn]

/-- `get_line` finds the first line, by whichever of its rules. -/
lemma getLine_eq (t : Text) :
    (getLine t).1 = decide (t.findIdx isLineEnd < t.length) ∧ (getLine t).2.1 = firstLine t := by
  have hfirst : firstLine t = t.take (min (t.findIdx (· = '\r')) (t.findIdx (· = '\n'))) := by
    rw [← findIdx_isLineEnd, firstLine, List.takeWhile_eq_take_findIdx_not]
    simp
  rw [hfirst, findIdx_isLineEnd]
  unfold getLine
  cases hr : t.findIdx? (· = '\r') with
  | none =>
    have hr' := List.findIdx_eq_length_of_false (List.findIdx?_eq_none_iff.mp hr)
    cases hn : t.findIdx? (· = '\n') with
    | none =>
      have hn' := List.findIdx_eq_length_of_false (List.findIdx?_eq_none_iff.mp hn)
      simp [hr', hn']
    | some n =>
      obtain ⟨hlt, hn'⟩ := List.findIdx?_eq_some_iff_findIdx_eq.mp hn
      rw [hr', hn', Nat.min_eq_right (Nat.le_of_lt hlt)]
      exact ⟨by simpa using hlt, rfl⟩
  | some r =>
    obtain ⟨hltr, hr'⟩ := List.findIdx?_eq_some_iff_findIdx_eq.mp hr
    cases hn : t.findIdx? (· = '\n') with
    | none =>
      have hn' := List.findIdx_eq_length_of_false (List.findIdx?_eq_none_iff.mp hn)
      rw [hr', hn', Nat.min_eq_left (Nat.le_of_lt hltr)]
      exact ⟨by simpa using hltr, rfl⟩
    | some n =>
      obtain ⟨hltn, hn'⟩ := List.findIdx?_eq_some_iff_findIdx_eq.mp hn
      dsimp only
      rw [hr', hn']
      split_ifs with hnext hbefore
      · rw [Nat.min_eq_left (by omega)]
        exact ⟨by simpa using hltr, rfl⟩
      · rw [Nat.min_eq_right (by omega)]
        exact ⟨by simpa using hltn, rfl⟩
      · rw [Nat.min_eq_left (by omega)]
        exact ⟨by simpa using hltr, rfl⟩

/-! ## `split_into_lines` -/

/-- What is behind the text when the first character of the prompt was overwritten. -/
def promptRest : Text := [nul, ' ', nul]

lemma cString_append (h : nul ∉ t) (rest : Text) : cString (t ++ nul :: rest) = t := by
  have hall : ∀ c ∈ t, decide (c ≠ nul) = true := fun c hc => by
    simpa using fun heq : c = nul => h (heq ▸ hc)
  rw [cString, List.takeWhile_append_of_pos hall]
  simp

/-- The lines of the caller after some were stored. -/
def kept (old acc : List Text) : List Text := if acc = [] then old else acc

lemma kept_append_singleton (old acc : List Text) (line : Text) :
    kept old (acc ++ [line]) = acc ++ [line] := if_neg (by simp)

lemma take_kept (old acc : List Text) : (kept old acc).take acc.length = acc := by
  cases acc with
  | nil => rfl
  | cons line acc => exact List.take_length

lemma store_eq (pbuff : Text) (old acc : List Text) (line : Text) :
    Split.store ⟨pbuff, acc.length, kept old acc⟩ line =
      ⟨pbuff, (acc ++ long line).length, kept old (acc ++ long line)⟩ := by
  unfold Split.store long
  split_ifs
  · rw [take_kept, kept_append_singleton, List.length_append]
    rfl
  · rw [List.append_nil]

/-- The text behind its first line starts with a line end. -/
lemma afterFirst_eq_cons (h : afterFirst t ≠ []) :
    ∃ c cs, afterFirst t = c :: cs ∧ skipped c = true := by
  obtain ⟨c, cs, hcons⟩ := List.exists_cons_of_ne_nil h
  refine ⟨c, cs, hcons, ?_⟩
  have hhead := List.head?_dropWhile_not (fun c => !isLineEnd c) t
  rw [← afterFirst, hcons] at hhead
  simp only [List.head?_cons, Bool.not_eq_false', isLineEnd, decide_eq_true_eq] at hhead
  simp only [skipped, decide_eq_true_eq]
  tauto

/-- There is a line end exactly when something is behind the first line. -/
lemma findIdx_lt_iff (t : Text) : t.findIdx isLineEnd < t.length ↔ afterFirst t ≠ [] := by
  rw [List.findIdx_lt_length, afterFirst, ne_eq, List.dropWhile_eq_nil_iff]
  simp

/-- A pass. -/
lemma splitPass_eq (hnul : nul ∉ t) (old acc : List Text) :
    splitPass ⟨t ++ promptRest, acc.length, kept old acc⟩ =
      if afterFirst t = [] then .inr (kept old (acc ++ long (firstLine t)))
      else .inl ⟨(afterFirst t ++ promptRest).dropWhile skipped, (acc ++ long (firstLine t)).length,
        kept old (acc ++ long (firstLine t))⟩ := by
  obtain ⟨hfound, hline⟩ := getLine_eq t
  have hlong : 1 < (t ++ promptRest).length := by
    rw [List.length_append]
    exact Nat.lt_add_left _ (by decide)
  have hdrop : (t ++ promptRest).drop (firstLine t).length = afterFirst t ++ promptRest := by
    have hsplit : t ++ promptRest = firstLine t ++ (afterFirst t ++ promptRest) := by
      rw [← List.append_assoc, firstLine_append_afterFirst]
    rw [hsplit, List.drop_left]
  rw [splitPass, if_pos hlong]
  rw [show cString (t ++ promptRest) = t from cString_append hnul _]
  dsimp only
  generalize getLine t = g at hfound hline
  obtain ⟨found, tmpLine, rest⟩ := g
  dsimp only at hfound hline ⊢
  subst hline
  by_cases hafter : afterFirst t = []
  · have hnone : ¬ t.findIdx isLineEnd < t.length := fun h => (findIdx_lt_iff t).mp h hafter
    rw [decide_eq_false hnone] at hfound
    subst hfound
    dsimp only
    rw [if_pos hafter, store_eq]
  · rw [decide_eq_true ((findIdx_lt_iff t).mpr hafter)] at hfound
    subst hfound
    dsimp only
    rw [if_neg hafter, store_eq, hdrop]

/-- A pass that finds no line end. -/
lemma splitPass_last (hnul : nul ∉ t) (hafter : afterFirst t = []) (old acc : List Text) :
    splitPass ⟨t ++ promptRest, acc.length, kept old acc⟩ =
      .inr (kept old (acc ++ long (firstLine t))) := by
  rw [splitPass_eq hnul, if_pos hafter]

/-- A pass that finds a line end. -/
lemma splitPass_next (hnul : nul ∉ t) (hafter : afterFirst t ≠ []) (old acc : List Text) :
    splitPass ⟨t ++ promptRest, acc.length, kept old acc⟩ =
      .inl ⟨(afterFirst t ++ promptRest).dropWhile skipped, (acc ++ long (firstLine t)).length,
        kept old (acc ++ long (firstLine t))⟩ := by
  rw [splitPass_eq hnul, if_neg hafter]

/-- Where nothing more is skipped, a line starts without blanks. -/
lemma dropWhile_firstLine :
    (firstLine (t.dropWhile skipped)).dropWhile isBlank = firstLine (t.dropWhile skipped) := by
  cases hu : t.dropWhile skipped with
  | nil => rfl
  | cons d ds =>
    have hd := List.head?_dropWhile_not skipped t
    rw [hu] at hd
    have hd' : skipped d = false := hd
    simp only [skipped, decide_eq_false_iff_not, not_or] at hd'
    have hend : isLineEnd d = false := by simp [isLineEnd, hd']
    have hblank : ¬ isBlank d = true := by simp [isBlank, hd']
    have hfirst : firstLine (d :: ds) = d :: firstLine ds := by simp [firstLine, hend]
    rw [hfirst, List.dropWhile_cons_of_neg hblank]

/-- The lines from any place on that is not skipped, or from the start on. -/
lemma run_splitPass (old : List Text) {n : ℕ} {t : Text} (hnul : nul ∉ t) (hn : t.length ≤ n)
    (acc : List Text) :
    WhileLoop.run splitPass (n + 1) ⟨t ++ promptRest, acc.length, kept old acc⟩ =
      some (kept old (acc ++ (long (firstLine t) ++ textLines (afterFirst t)))) := by
  induction n generalizing t acc with
  | zero =>
    have hnil : t = [] := List.eq_nil_of_length_eq_zero (Nat.le_zero.mp hn)
    subst hnil
    rw [WhileLoop.run_succ_of_exit (splitPass_last hnul rfl old acc)]
    rfl
  | succ n ih =>
    by_cases hafter : afterFirst t = []
    · rw [WhileLoop.run_succ_of_exit (splitPass_last hnul hafter old acc), hafter,
        show textLines [] = [] from rfl, List.append_nil]
    · rw [WhileLoop.run_succ_of_continue (splitPass_next hnul hafter old acc)]
      obtain ⟨c, cs, hcons, hc⟩ := afterFirst_eq_cons hafter
      have hmem : ∀ {x : Char}, x ∈ afterFirst t → x ∈ t := fun hx => by
        rw [← firstLine_append_afterFirst t]
        exact List.mem_append_right _ hx
      have hnul' : nul ∉ afterFirst t := fun h => hnul (hmem h)
      rw [← textLines_dropWhile hnul']
      set u := (afterFirst t).dropWhile skipped with hu
      by_cases hempty : u = []
      · -- only line ends and blanks are left
        have hall : (afterFirst t ++ promptRest).dropWhile skipped = [] := by
          rw [List.dropWhile_append, ← hu, hempty]
          rfl
        rw [hall, hempty]
        have hexit : ∀ k lines, splitPass ⟨[], k, lines⟩ = .inr lines := fun _ _ => rfl
        rw [WhileLoop.run_succ_of_exit (hexit _ _), show textLines [] = [] from rfl, List.append_nil]
      · have hrest : (afterFirst t ++ promptRest).dropWhile skipped = u ++ promptRest := by
          rw [List.dropWhile_append, ← hu, if_neg (by simpa using hempty)]
        have hlen : u.length ≤ n := by
          have hle : u.length ≤ cs.length := by
            rw [hu, hcons, List.dropWhile_cons_of_pos hc]
            exact (List.dropWhile_suffix _).length_le
          have ht := congrArg List.length (firstLine_append_afterFirst t)
          rw [List.length_append, hcons, List.length_cons] at ht
          omega
        have hunul : nul ∉ u := fun h => hnul' ((List.dropWhile_suffix _).subset h)
        have hhead := dropWhile_firstLine (t := afterFirst t)
        rw [← hu] at hhead
        rw [hrest, ih hunul hlen, List.append_assoc, textLines_eq u, hhead, textLines_afterFirst]

/-- **What `split_into_lines` makes of a text and the prompt.** -/
lemma splitIntoLines_eq (hnul : nul ∉ t) (old : List Text) :
    splitIntoLines (t ++ promptRest) old =
      kept old (long (firstLine t) ++ textLines (afterFirst t)) := by
  have hrun := run_splitPass old hnul (n := (t ++ promptRest).length) (by simp) []
  rw [splitIntoLines]
  exact congrArg (Option.getD · old) hrun

/-! ## `remove_prompt` -/

/-- The prompt is found when the characters end with it. -/
lemma findPrompt_eq (pos : ℕ) (l : Text) : findPrompt (pos + l.length) pos l =
    if prompt <:+ l then some (pos + l.length - prompt.length) else none := by
  induction l generalizing pos with
  | nil => rfl
  | cons c cs ih =>
    have hlength : pos + (c :: cs).length = pos + 1 + cs.length := by
      rw [List.length_cons]
      omega
    rw [findPrompt]
    by_cases hhere : prompt <+: c :: cs ∧ pos + (c :: cs).length = pos + prompt.length
    · have heq : prompt = c :: cs := hhere.1.eq_of_length (Nat.add_left_cancel hhere.2).symm
      rw [if_pos hhere, heq, if_pos List.suffix_rfl, Nat.add_sub_cancel]
    · have hne : prompt ≠ c :: cs := by
        rintro heq
        exact hhere ⟨heq ▸ List.prefix_rfl, by rw [← heq]⟩
      have hsuffix : prompt <:+ c :: cs ↔ prompt <:+ cs := by
        rw [List.suffix_cons_iff]
        exact or_iff_right hne
      rw [if_neg hhere, hlength, ih]
      simp only [hsuffix]

lemma removePrompt_eq {c : Text} (hnul : nul ∉ c) : removePrompt (c ++ [nul]) c.length =
    if prompt <:+ c then some (c.length - prompt.length) else none := by
  have hfind := findPrompt_eq 0 c
  rw [Nat.zero_add] at hfind
  rw [removePrompt, cString_append hnul, hfind]
  split_ifs with hshort hsuffix
  · exact absurd hsuffix.length_le (Nat.not_le.mpr hshort)
  · rfl
  · rfl
  · rfl

/-! ## `recv_answer` -/

namespace RecvAnswer

variable {s : RecvAnswer} {c : Text}

/-- A piece that does not end with the prompt is stored. -/
lemma pass_of_not_suffix (hs : s.result = none) (hne : c ≠ []) (hnul : nul ∉ c)
    (hprompt : ¬ prompt <:+ c) : s.pass (.chunk c) =
      some { s with buf := s.buf ++ c, retries := 0, written := (s.buf ++ c).length } := by
  obtain ⟨x, xs, rfl⟩ := List.exists_cons_of_ne_nil hne
  have hremove := removePrompt_eq hnul
  rw [if_neg hprompt] at hremove
  simp only [pass, hs, hremove]

/-- A piece that ends with the prompt is the last one. -/
lemma pass_of_suffix (hs : s.result = none) {pre : Text} (hnul : nul ∉ pre ++ prompt) :
    s.pass (.chunk (pre ++ prompt)) = some
      { s with
        buf := s.buf ++ (pre ++ prompt)
        retries := 0
        theAnswer := splitIntoLines (s.buf ++ pre ++ promptRest) s.theAnswer
        result := some (s.buf ++ (pre ++ prompt)).length
        written := (s.buf ++ (pre ++ prompt)).length } := by
  have hremove := removePrompt_eq hnul
  rw [if_pos (List.suffix_append pre prompt), List.length_append, Nat.add_sub_cancel] at hremove
  have hset : (s.buf ++ (pre ++ prompt) ++ [nul]).set (s.buf.length + pre.length) nul =
      s.buf ++ pre ++ promptRest := by
    rw [← List.append_assoc s.buf, List.append_assoc, ← List.length_append,
      List.set_append_right _ _ le_rfl, Nat.sub_self]
    rfl
  obtain ⟨x, xs, hcons⟩ := List.exists_cons_of_ne_nil (show pre ++ prompt ≠ [] by simp [prompt])
  rw [← List.length_append] at hremove
  rw [hcons] at hremove hset ⊢
  simp only [pass, hs, hremove, hset]

/-- Pieces that do not end with the prompt are collected. -/
lemma exec_chunks {cs : List Text} (h : ∀ c ∈ cs, c ≠ [] ∧ nul ∉ c ∧ ¬ prompt <:+ c)
    (old : List Text) (buf : Text) :
    LabelledSystem.exec pass ⟨buf, 0, old, none, buf.length⟩ (cs.map .chunk) =
      some ⟨buf ++ cs.flatten, 0, old, none, (buf ++ cs.flatten).length⟩ := by
  induction cs generalizing buf with
  | nil => simp
  | cons c cs ih =>
    obtain ⟨hne, hnul, hprompt⟩ := h c List.mem_cons_self
    refine LabelledSystem.exec_cons_eq_some.mpr ⟨_, pass_of_not_suffix rfl hne hnul hprompt, ?_⟩
    rw [List.flatten_cons, ← List.append_assoc]
    exact ih (fun c' hc' => h c' (List.mem_cons_of_mem c hc')) _

end RecvAnswer

/-! ## An answer and its pieces -/

/-- An answer that ends with the prompt and has it nowhere else. -/
structure PromptedText where
  /-- What stands before the prompt. -/
  body : Text
  /-- There is no NUL. -/
  nul_notMem : nul ∉ body
  /-- The prompt stands at the end only. -/
  prompt_last : ∀ pre post, body ++ prompt = pre ++ (prompt ++ post) → post = []

/-- The pieces in which an answer arrives. -/
structure Pieces (t : PromptedText) where
  /-- What each `recv` delivers. -/
  chunks : List Text
  /-- Every `recv` delivers something. -/
  ne_nil : ∀ c ∈ chunks, c ≠ []
  /-- Together they are the answer. -/
  flatten_eq : chunks.flatten = t.body ++ prompt
  /-- The answer fits the buffer. -/
  length_lt : (t.body ++ prompt).length < maxBufSizeC

namespace Pieces

variable {t : PromptedText} (p : Pieces t)

/-- `recv_answer` returns after the last piece, with the lines of the text, and writes inside the
buffer. -/
def Answers (old : List Text) : Prop :=
  ∃ s, LabelledSystem.exec RecvAnswer.pass (.start old) (p.chunks.map .chunk) = some s ∧
    s.result = some ((t.body ++ prompt).length : ℤ) ∧ s.theAnswer = textLines t.body ∧
      s.written < maxBufSizeC

/-- The prompt is not cut, the first line has no blanks before it or is not stored at all, and there is
a line that replaces what the vector held. -/
def WholePrompt (old : List Text) : Prop :=
  (∃ c, p.chunks.getLast? = some c ∧ prompt <:+ c) ∧
    ((firstLine t.body).length ≤ 1 ∨ (firstLine t.body).dropWhile isBlank = firstLine t.body) ∧
      (old = [] ∨ textLines t.body ≠ [])

end Pieces

/-- A line is stored as it should be when nothing has to be removed before it. -/
lemma long_eq_iff (f : Text) :
    long f = long (f.dropWhile isBlank) ↔ f.length ≤ 1 ∨ f.dropWhile isBlank = f := by
  have hle : (f.dropWhile isBlank).length ≤ f.length := (List.dropWhile_suffix _).length_le
  unfold long
  split_ifs with h₁ h₂ h₂
  · rw [List.cons.injEq, or_iff_right (by omega)]
    exact ⟨fun h => h.1.symm, fun h => ⟨h.symm, rfl⟩⟩
  · refine iff_of_false (by simp) (not_or.mpr ⟨by omega, fun h => h₂ ?_⟩)
    rwa [h]
  · omega
  · exact iff_of_true rfl (.inl (by omega))

/-- The lines are right when the first one is, and something replaces what the vector held. -/
lemma kept_eq_iff (old : List Text) (f : Text) (rest : List Text) :
    kept old (long f ++ rest) = long (f.dropWhile isBlank) ++ rest ↔
      long f = long (f.dropWhile isBlank) ∧
        (old = [] ∨ long (f.dropWhile isBlank) ++ rest ≠ []) := by
  have hempty : long f = [] → long (f.dropWhile isBlank) = [] := by
    intro h
    have hf : f.length ≤ 1 := by
      by_contra hlong
      rw [long, if_pos (Nat.not_le.mp hlong)] at h
      cases h
    rw [← (long_eq_iff f).mpr (.inl hf), h]
  by_cases hacc : long f ++ rest = []
  · obtain ⟨hf, hrest⟩ := List.append_eq_nil_iff.mp hacc
    rw [kept, if_pos hacc, hempty hf, hf, hrest]
    simp
  · rw [kept, if_neg hacc]
    constructor
    · intro h
      exact ⟨List.append_cancel_right h, .inr (h ▸ hacc)⟩
    · rintro ⟨h, -⟩
      rw [h]

namespace Pieces

variable {t : PromptedText} {p : Pieces t} {init : List Text} {last : Text}

lemma nul_notMem (hc : last ∈ p.chunks) : nul ∉ last := by
  intro hmem
  have htext : nul ∈ t.body ++ prompt := by
    rw [← p.flatten_eq]
    exact List.mem_flatten.mpr ⟨last, hc, hmem⟩
  rcases List.mem_append.mp htext with hbody | hprompt
  · exact t.nul_notMem hbody
  · exact absurd hprompt (by decide)

/-- Only the last piece can end with the prompt. -/
lemma not_suffix (h : p.chunks = init ++ [last]) {c : Text} (hc : c ∈ init) : ¬ prompt <:+ c := by
  rintro ⟨pre, rfl⟩
  obtain ⟨before, after, rfl⟩ := List.append_of_mem hc
  have htext : t.body ++ prompt =
      before.flatten ++ pre ++ (prompt ++ (after.flatten ++ last)) := by
    rw [← p.flatten_eq, h]
    simp
  have hnil := t.prompt_last _ _ htext
  have hlast : last ≠ [] := p.ne_nil last (by rw [h]; simp)
  exact hlast (List.append_eq_nil_iff.mp hnil).2

/-- The pieces before the last are collected. -/
lemma exec_init (h : p.chunks = init ++ [last]) (old : List Text) :
    LabelledSystem.exec RecvAnswer.pass (.start old) (init.map .chunk) =
      some ⟨init.flatten, 0, old, none, init.flatten.length⟩ := by
  refine RecvAnswer.exec_chunks (fun c hc => ⟨?_, ?_, not_suffix h hc⟩) old []
  · exact p.ne_nil c (by rw [h]; exact List.mem_append_left _ hc)
  · exact nul_notMem (by rw [h]; exact List.mem_append_left _ hc)

/-- **When an answer does not depend on its segmentation.**  `recv_answer` returns after the last piece
with the lines of the text exactly when the last piece has the whole prompt, the first line of the text
has no blanks before it (or at most one character), and the vector was empty or there is a line. -/
theorem answers_iff {t : PromptedText} (p : Pieces t) (old : List Text) :
    p.Answers old ↔ p.WholePrompt old := by
  have hchunks : p.chunks ≠ [] := by
    intro hnil
    have hflat := p.flatten_eq
    rw [hnil] at hflat
    exact absurd (List.append_eq_nil_iff.mp hflat.symm).2 (by decide)
  obtain ⟨init, last, h⟩ : ∃ init last, p.chunks = init ++ [last] :=
    ⟨_, _, (List.dropLast_append_getLast hchunks).symm⟩
  have hrun : ∀ s, LabelledSystem.exec RecvAnswer.pass (.start old) (p.chunks.map .chunk) = some s ↔
      RecvAnswer.pass ⟨init.flatten, 0, old, none, init.flatten.length⟩ (.chunk last) = some s := by
    intro s
    rw [h, List.map_append, LabelledSystem.exec_append_eq_some]
    simp [exec_init h old, LabelledSystem.exec]
  have hmem : last ∈ p.chunks := by
    rw [h]
    exact List.mem_append_right _ List.mem_cons_self
  have hlast : p.chunks.getLast? = some last := by
    rw [h, List.getLast?_concat]
  rw [Answers, WholePrompt]
  simp only [hrun, hlast, Option.some.injEq, exists_eq_left']
  by_cases hprompt : prompt <:+ last
  · obtain ⟨pre, rfl⟩ := hprompt
    have htext : init.flatten ++ pre ++ prompt = t.body ++ prompt := by
      rw [← p.flatten_eq, h]
      simp
    have hbody : init.flatten ++ pre = t.body := List.append_cancel_right htext
    rw [RecvAnswer.pass_of_suffix rfl (nul_notMem hmem)]
    simp only [Option.some.injEq, exists_eq_left', ← List.append_assoc, hbody]
    rw [splitIntoLines_eq t.nul_notMem, textLines_eq t.body, ← textLines_afterFirst, kept_eq_iff,
      long_eq_iff]
    have hlength : t.body.length + 2 < maxBufSizeC := by simpa [prompt] using p.length_lt
    simp [hlength, prompt]
  · refine iff_of_false ?_ fun hwhole => hprompt hwhole.1
    rintro ⟨s, hs, hresult, -⟩
    rw [RecvAnswer.pass_of_not_suffix rfl (p.ne_nil last hmem) (nul_notMem hmem) hprompt] at hs
    cases hs
    cases hresult

end Pieces

/-- A text without the first character of the prompt has the prompt nowhere. -/
lemma prompt_last_of_notMem {body : Text} (h : '>' ∉ body) (pre post : Text)
    (heq : body ++ prompt = pre ++ (prompt ++ post)) : post = [] := by
  induction body generalizing pre with
  | nil =>
    match pre, heq with
    | [], heq => simpa [prompt] using heq
    | [_], heq => simp [prompt] at heq
    | [_, _], heq => simp [prompt] at heq
    | _ :: _ :: _ :: _, heq => simp [prompt] at heq
  | cons c cs ih =>
    cases pre with
    | nil =>
      have hhead : c = '>' := (List.cons.inj heq).1
      exact absurd (hhead ▸ List.mem_cons_self) h
    | cons x pre =>
      exact ih (fun hmem => h (List.mem_cons_of_mem c hmem)) pre (List.cons.inj heq).2

/-- A line and the prompt. -/
def oneLine : PromptedText where
  body := ['a', 'b', '\r', '\n']
  nul_notMem := by decide
  prompt_last := prompt_last_of_notMem (by decide)

/-- The prompt arrives in two pieces. -/
def cutPrompt : Pieces oneLine where
  chunks := [['a', 'b', '\r', '\n', '>'], [' ']]
  ne_nil := by decide
  flatten_eq := rfl
  length_lt := by decide

/-- The answer is not returned. -/
theorem cutPrompt_not_answers : ¬ cutPrompt.Answers [] := by
  rintro ⟨s, hs, hresult, -⟩
  cases hs
  cases hresult

end LoadLogger
