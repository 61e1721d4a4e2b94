import StTools.DiaProxy.Cea

/-!
# Scans of untrusted bytes

`extractAVP`, `extractResultCodeAVP` and the loop of `receive_CEA` go through the attribute-value pairs
of a message by their length fields.  The loops test where a pair starts, but not whether its header
and its value lie inside the message, and neither whether its length is at least that of a header.

`AvpScanner` is such a scan with the offsets that it reads for a value, and `scanners_safe_iff` says for
which bytes each of the three ends, reads inside the message only and builds no value of negative
length.
-/

namespace DiaProxy

/-- What a scan takes from a pair with a code and a length, and the offsets it reads for that; `ptr` is
the offset behind the header of the pair. -/
structure AvpScanner (α : Type*) where
  /-- What is taken, as for `scanAvps`. -/
  value : (code length ptr : ℕ) → Option (Scan α)
  /-- The offsets that are read. -/
  reads : (code length ptr : ℕ) → List ℕ

/-- The scan of `extractAVP`. -/
def avpScanner (buff : Mem) (code : ℕ) : AvpScanner (List UInt8) where
  value avpCode avpLength ptr :=
    if avpCode = code then
      some (if avpLength < 8 then .throws else .found ((buff.view ptr).bytes (avpLength - 8)))
    else none
  reads avpCode avpLength ptr :=
    if avpCode = code then (List.range (avpLength - 8)).map (ptr + ·) else []

/-- The offsets of a number of four bytes. -/
def offsets4 (ptr : ℕ) : List ℕ := [ptr, ptr + 1, ptr + 2, ptr + 3]

/-- The scan of `extractResultCodeAVP`. -/
def resultCodeScanner (buff : Mem) : AvpScanner ℕ where
  value avpCode _ ptr :=
    if avpCode = resultCodeCode then some (.found (buff.u32 ptr))
    else if avpCode = experimentalResultCodeCode then some (.found (buff.u32 (ptr + 20)))
    else none
  reads avpCode _ ptr :=
    if avpCode = resultCodeCode then offsets4 ptr
    else if avpCode = experimentalResultCodeCode then offsets4 (ptr + 20)
    else []

/-- The scan of `receive_CEA`. -/
def ceaScanner (buff : Mem) : AvpScanner ℕ where
  value avpCode _ ptr := if avpCode = resultCodeCode then some (.found (buff.u32 ptr)) else none
  reads avpCode _ ptr := if avpCode = resultCodeCode then offsets4 ptr else []

lemma extractAVP_eq (buff : Mem) (messageLength code : ℕ) :
    extractAVP buff messageLength code = scanAvps buff messageLength (avpScanner buff code).value := rfl

lemma extractResultCodeAVP_eq (buff : Mem) (messageLength : ℕ) :
    extractResultCodeAVP buff messageLength =
      scanAvps buff messageLength (resultCodeScanner buff).value := rfl

lemma scanCEA_eq (buff : Mem) (bound : ℕ) :
    scanCEA buff bound = scanAvps buff bound (ceaScanner buff).value := rfl

namespace AvpScanner

variable {α : Type*} (S : AvpScanner α) (buff : Mem) (messageLength : ℕ)

/-- The offsets that a pass reads: the code, the length, and what is read for the value. -/
def passReads (ptr : ℕ) : List ℕ :=
  offsets4 ptr ++ [ptr + 5, ptr + 6, ptr + 7] ++
    S.reads (buff.u32 ptr) (buff.u24 (ptr + 5)) (ptr + 8)

/-- From an offset on the scan ends without a value of negative length, and reads inside the message
only. -/
structure SafeFrom (ptr : ℕ) : Prop where
  /-- The loop is left, and nothing is thrown. -/
  ends : ∃ r, WhileLoop.Returns (avpPass messageLength S.value buff) ptr r ∧ r ≠ .throws
  /-- Every pass reads inside the message. -/
  inside : ∀ q, WhileLoop.Reaches (avpPass messageLength S.value buff) ptr q → q < messageLength →
    ∀ o ∈ S.passReads buff q, o < messageLength

/-- The scan of a message is safe. -/
def Safe : Prop := S.SafeFrom buff messageLength diameterHeaderLength

/-- The step from the pair at an offset to the next. -/
def padded (ptr : ℕ) : ℕ :=
  let avpLength := buff.u24 (ptr + 5)
  if avpLength % 4 ≠ 0 then avpLength + 4 - avpLength % 4 else avpLength

end AvpScanner

/-- Going from pair to pair by their lengths, the headers lie inside the message and the lengths are
not zero, up to the end of the message or to a wanted pair that fits. -/
inductive PairsFit (buff : Mem) (messageLength : ℕ) (wanted : ℕ → Prop)
    (fits : (code length ptr : ℕ) → Prop) : ℕ → Prop
  /-- The end of the message. -/
  | behind {ptr : ℕ} : messageLength ≤ ptr → PairsFit buff messageLength wanted fits ptr
  /-- A wanted pair. -/
  | found {ptr : ℕ} : ptr + 8 ≤ messageLength → wanted (buff.u32 ptr) →
      fits (buff.u32 ptr) (buff.u24 (ptr + 5)) (ptr + 8) → PairsFit buff messageLength wanted fits ptr
  /-- A pair that is skipped. -/
  | next {ptr : ℕ} : ptr + 8 ≤ messageLength → ¬ wanted (buff.u32 ptr) → buff.u24 (ptr + 5) ≠ 0 →
      PairsFit buff messageLength wanted fits (ptr + AvpScanner.padded buff ptr) →
      PairsFit buff messageLength wanted fits ptr

/-! ## The passes of a scan -/

namespace AvpScanner

variable {α : Type*} {S : AvpScanner α} {buff : Mem} {messageLength : ℕ} {wanted : ℕ → Prop}
  {fits : (code length ptr : ℕ) → Prop} {ptr : ℕ}

/-- A scan that takes a result from the wanted pairs, and whose value is safe when it fits. -/
structure Takes (S : AvpScanner α) (messageLength : ℕ) (wanted : ℕ → Prop)
    (fits : (code length ptr : ℕ) → Prop) : Prop where
  /-- Other pairs are skipped, and nothing is read for them. -/
  other : ∀ {code : ℕ} (length ptr : ℕ), ¬ wanted code →
    S.value code length ptr = none ∧ S.reads code length ptr = []
  /-- The value of a wanted pair. -/
  value : ∀ {code ptr : ℕ} (length : ℕ), wanted code → ptr ≤ messageLength →
    ∃ r, S.value code length ptr = some r ∧
      (fits code length ptr ↔ r ≠ .throws ∧ ∀ o ∈ S.reads code length ptr, o < messageLength)

lemma avpPass_behind (h : messageLength ≤ ptr) :
    avpPass messageLength S.value buff ptr = .inr .notFound := if_neg (Nat.not_lt.mpr h)

lemma avpPass_of_value {r : Scan α} (h : ptr < messageLength)
    (hr : S.value (buff.u32 ptr) (buff.u24 (ptr + 5)) (ptr + 8) = some r) :
    avpPass messageLength S.value buff ptr = .inr r := by
  rw [avpPass, if_pos h]
  dsimp only
  rw [hr]

lemma avpPass_of_none (h : ptr < messageLength)
    (hr : S.value (buff.u32 ptr) (buff.u24 (ptr + 5)) (ptr + 8) = none) :
    avpPass messageLength S.value buff ptr = .inl (ptr + padded buff ptr) := by
  rw [avpPass, if_pos h]
  dsimp only
  rw [hr]
  rfl

/-- The header of a pair is read. -/
lemma forall_passReads_iff :
    (∀ o ∈ S.passReads buff ptr, o < messageLength) ↔ ptr + 8 ≤ messageLength ∧
      ∀ o ∈ S.reads (buff.u32 ptr) (buff.u24 (ptr + 5)) (ptr + 8), o < messageLength := by
  rw [passReads, List.forall_mem_append]
  refine and_congr_left' ?_
  simp only [offsets4, List.cons_append, List.nil_append, List.forall_mem_cons]
  constructor
  · rintro ⟨-, -, -, -, -, -, h, -⟩
    omega
  · intro h
    refine ⟨by omega, by omega, by omega, by omega, by omega, by omega, by omega, ?_⟩
    exact fun o ho => nomatch ho

/-- A scan that is left in its first pass is safe when this pass is. -/
lemma safeFrom_of_exit {r : Scan α} (hexit : avpPass messageLength S.value buff ptr = .inr r) :
    S.SafeFrom buff messageLength ptr ↔ r ≠ .throws ∧
      (ptr < messageLength → ∀ o ∈ S.passReads buff ptr, o < messageLength) := by
  constructor
  · rintro ⟨⟨r', hr', hne⟩, hinside⟩
    rw [(WhileLoop.returns_of_exit hexit).mp hr'] at hne
    exact ⟨hne, hinside ptr .start⟩
  · rintro ⟨hne, hinside⟩
    refine ⟨⟨r, (WhileLoop.returns_of_exit hexit).mpr rfl, hne⟩, fun q hq => ?_⟩
    rw [hq.eq_of_exit hexit]
    exact hinside

/-- A scan that goes on is safe when its pass and the rest of the scan are. -/
lemma safeFrom_of_continue {ptr' : ℕ} (hpass : avpPass messageLength S.value buff ptr = .inl ptr')
    (h : ptr < messageLength) : S.SafeFrom buff messageLength ptr ↔
      (∀ o ∈ S.passReads buff ptr, o < messageLength) ∧ S.SafeFrom buff messageLength ptr' := by
  constructor
  · rintro ⟨⟨r, hr, hne⟩, hinside⟩
    refine ⟨hinside ptr .start h, ⟨r, (WhileLoop.returns_of_continue hpass).mp hr, hne⟩, ?_⟩
    exact fun q hq => hinside q (hq.of_continue hpass)
  · rintro ⟨hreads, ⟨r, hr, hne⟩, hinside⟩
    refine ⟨⟨r, (WhileLoop.returns_of_continue hpass).mpr hr, hne⟩, fun q hq hlt => ?_⟩
    rcases hq.eq_or with rfl | ⟨p, hp, hq⟩
    · exact hreads
    · rw [hpass] at hp
      cases hp
      exact hinside q hq hlt

/-- **When a scan is safe**, from any offset on. -/
lemma Takes.safeFrom_iff (hS : S.Takes messageLength wanted fits) :
    S.SafeFrom buff messageLength ptr ↔ PairsFit buff messageLength wanted fits ptr := by
  constructor
  · intro hsafe
    obtain ⟨r, ⟨n, hn⟩, -⟩ := hsafe.ends
    -- the induction is on the number of passes
    induction n generalizing ptr with
    | zero => simp [WhileLoop.run] at hn
    | succ n ih =>
      by_cases hlt : ptr < messageLength
      swap
      · exact .behind (Nat.not_lt.mp hlt)
      have hreads := forall_passReads_iff.mp (hsafe.inside ptr .start hlt)
      by_cases hw : wanted (buff.u32 ptr)
      · obtain ⟨r', hr', hfits⟩ := hS.value (buff.u24 (ptr + 5)) hw hreads.1
        have hexit := avpPass_of_value (S := S) hlt hr'
        exact .found hreads.1 hw (hfits.mpr ⟨((safeFrom_of_exit hexit).mp hsafe).1, hreads.2⟩)
      · have hpass := avpPass_of_none (S := S) hlt (hS.other _ _ hw).1
        rw [WhileLoop.run_succ_of_continue hpass] at hn
        have hrest := ih ((safeFrom_of_continue hpass hlt).mp hsafe).2 hn
        by_cases hzero : buff.u24 (ptr + 5) = 0
        · have hstay : ptr + padded buff ptr = ptr := by
            simp [padded, hzero]
          rwa [hstay] at hrest
        · exact .next hreads.1 hw hzero hrest
  · intro hfit
    induction hfit with
    | behind h =>
      refine (safeFrom_of_exit (avpPass_behind h)).mpr ⟨by simp, fun hlt => ?_⟩
      exact absurd hlt (Nat.not_lt.mpr h)
    | @found ptr hheader hw hfits =>
      obtain ⟨r, hr, hiff⟩ := hS.value (buff.u24 (ptr + 5)) hw hheader
      obtain ⟨hne, hreads⟩ := hiff.mp hfits
      refine (safeFrom_of_exit (avpPass_of_value (by omega) hr)).mpr ⟨hne, fun _ => ?_⟩
      exact forall_passReads_iff.mpr ⟨hheader, hreads⟩
    | @next ptr hheader hw _ _ ih =>
      obtain ⟨hnone, hreads⟩ := hS.other (buff.u24 (ptr + 5)) (ptr + 8) hw
      refine (safeFrom_of_continue (avpPass_of_none (by omega) hnone) (by omega)).mpr ⟨?_, ih⟩
      refine forall_passReads_iff.mpr ⟨hheader, ?_⟩
      rw [hreads]
      exact fun o ho => absurd ho List.not_mem_nil

end AvpScanner

/-! ## The three scans -/

/-- The value of `extractAVP` fits: its length is that of a header at least, and it ends inside the
message. -/
def ValueFits (messageLength _code length ptr : ℕ) : Prop :=
  8 ≤ length ∧ ptr + (length - 8) ≤ messageLength

/-- The result fits: its four bytes are inside the message, behind twenty others in an experimental
result. -/
def ResultFits (messageLength code _length ptr : ℕ) : Prop :=
  ptr + (if code = resultCodeCode then 4 else 24) ≤ messageLength

lemma takes_avpScanner (buff : Mem) (messageLength code : ℕ) :
    (avpScanner buff code).Takes messageLength (· = code) (ValueFits messageLength) where
  other _ _ h := ⟨if_neg h, if_neg h⟩
  value {c ptr} length h hptr := by
    refine ⟨_, if_pos h, ?_⟩
    change ValueFits _ _ _ _ ↔ _ ∧ ∀ o ∈ if c = code then _ else [], _
    rw [if_pos h, ValueFits]
    by_cases hlen : length < 8
    · rw [if_pos hlen]
      simp [Nat.not_le.mpr hlen]
    · rw [if_neg hlen]
      simp only [List.mem_map, List.mem_range, forall_exists_index, and_imp,
        forall_apply_eq_imp_iff₂, ne_eq, reduceCtorEq, not_false_eq_true, true_and]
      constructor
      · rintro ⟨-, hend⟩ k hk
        omega
      · intro hend
        refine ⟨by omega, ?_⟩
        by_contra hlong
        have := hend (length - 8 - 1) (by omega)
        omega

/-- A number of four bytes is read inside the message. -/
lemma forall_offsets4_iff {messageLength ptr : ℕ} :
    (∀ o ∈ offsets4 ptr, o < messageLength) ↔ ptr + 4 ≤ messageLength := by
  simp only [offsets4, List.forall_mem_cons]
  constructor
  · rintro ⟨-, -, -, h, -⟩
    omega
  · intro h
    exact ⟨by omega, by omega, by omega, by omega, fun o ho => nomatch ho⟩

lemma takes_ceaScanner (buff : Mem) (messageLength : ℕ) :
    (ceaScanner buff).Takes messageLength (· = resultCodeCode) (ResultFits messageLength) where
  other _ _ h := ⟨if_neg h, if_neg h⟩
  value {c ptr} length h _ := by
    refine ⟨_, if_pos h, ?_⟩
    change ResultFits _ _ _ _ ↔ _ ∧ ∀ o ∈ if c = resultCodeCode then _ else [], _
    rw [ResultFits, if_pos h, if_pos h, forall_offsets4_iff]
    simp

lemma takes_resultCodeScanner (buff : Mem) (messageLength : ℕ) :
    (resultCodeScanner buff).Takes messageLength
      (fun code => code = resultCodeCode ∨ code = experimentalResultCodeCode)
      (ResultFits messageLength) where
  other _ _ h := by
    obtain ⟨h₁, h₂⟩ := not_or.mp h
    exact ⟨(if_neg h₁).trans (if_neg h₂), (if_neg h₁).trans (if_neg h₂)⟩
  value {c ptr} length h _ := by
    by_cases h₁ : c = resultCodeCode
    · refine ⟨_, if_pos h₁, ?_⟩
      change ResultFits _ _ _ _ ↔ _ ∧ ∀ o ∈ if c = resultCodeCode then _ else _, _
      rw [ResultFits, if_pos h₁, if_pos h₁, forall_offsets4_iff]
      simp
    · have h₂ := h.resolve_left h₁
      refine ⟨_, (if_neg h₁).trans (if_pos h₂), ?_⟩
      change ResultFits _ _ _ _ ↔ _ ∧ ∀ o ∈ if c = resultCodeCode then _ else
        if c = experimentalResultCodeCode then _ else [], _
      rw [ResultFits, if_neg h₁, if_neg h₁, if_pos h₂, forall_offsets4_iff]
      simp only [Nat.add_assoc, Nat.reduceAdd, ne_eq, reduceCtorEq, not_false_eq_true, true_and]

/-- **When the scanners are safe.**  Each scan ends, reads inside the message only and builds no value
of negative length, exactly when it comes, by headers inside the message and lengths that are not zero,
to the end of the message or to a wanted pair whose value fits. -/
theorem scanners_safe_iff (buff : Mem) (messageLength code : ℕ) :
    ((avpScanner buff code).Safe buff messageLength ↔
      PairsFit buff messageLength (· = code) (ValueFits messageLength) diameterHeaderLength) ∧
    ((resultCodeScanner buff).Safe buff messageLength ↔
      PairsFit buff messageLength
        (fun code => code = resultCodeCode ∨ code = experimentalResultCodeCode)
        (ResultFits messageLength) diameterHeaderLength) ∧
    ((ceaScanner buff).Safe buff messageLength ↔
      PairsFit buff messageLength (· = resultCodeCode) (ResultFits messageLength)
        diameterHeaderLength) :=
  ⟨(takes_avpScanner buff messageLength code).safeFrom_iff,
    (takes_resultCodeScanner buff messageLength).safeFrom_iff,
    (takes_ceaScanner buff messageLength).safeFrom_iff⟩

/-! ## A pair of length zero -/

/-- A header, and a pair with the code 1 and the length 0. -/
def zeroLengthPair : Mem := Mem.load (List.replicate 20 0 ++ [0, 0, 0, 1, 0, 0, 0, 0]) fun _ => 0

/-- All three scans stay at the pair for ever, unless its code is wanted. -/
theorem zeroLengthPair_loops :
    WhileLoop.Diverges (avpPass 28 (avpScanner zeroLengthPair 264).value zeroLengthPair) 20 ∧
      WhileLoop.Diverges (avpPass 28 (resultCodeScanner zeroLengthPair).value zeroLengthPair) 20 ∧
      WhileLoop.Diverges (avpPass 28 (ceaScanner zeroLengthPair).value zeroLengthPair) 20 ∧
      ¬ (avpScanner zeroLengthPair 264).Safe zeroLengthPair 28 := by
  have hstay : ∀ {α : Type} (S : AvpScanner α),
      avpPass 28 S.value zeroLengthPair 20 = .inl 20 →
      WhileLoop.Diverges (avpPass 28 S.value zeroLengthPair) 20 := by
    intro α S hS
    refine WhileLoop.diverges_of_invariant (I := fun q => q = 20) ?_ rfl
    rintro q rfl
    exact ⟨_, hS, rfl⟩
  have hloops := hstay (avpScanner zeroLengthPair 264) rfl
  refine ⟨hloops, hstay _ rfl, hstay _ rfl, fun h => ?_⟩
  obtain ⟨⟨r, hr, -⟩, -⟩ := h
  exact hloops.not_returns hr

end DiaProxy
