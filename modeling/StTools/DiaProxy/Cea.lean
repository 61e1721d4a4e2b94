import StTools.DiaProxy.Avp
import StTools.DiaProxy.ClientThread
import StTools.DiaProxy.InputFraming

/-!
# The two acceptors of a capabilities-exchange answer

A server connection is opened with a capabilities-exchange request, and the answer decides
whether it can be used.  `DiaThread` opens the connections that carry traffic; `HearbeatThread`
opens connections to find out which server is alive.  Each has a `receive_CEA` of its own, with
the same scan for the Result-Code but with different verdicts before the scan: `DiaThread` rejects
an answer without a Result-Code, `HearbeatThread` accepts it.

`acceptorsAgree_iff` says for which answers the two come to the same verdict and the verdict is
what the Result-Code says.
-/

namespace DiaProxy

/-- `result__diameter__success`. -/
def resultDiameterSuccess : ℕ := 2001

/-- The loop over the pairs, the same in both functions: it is left at the first Result-Code,
with the four bytes behind the header of that pair. -/
def scanCEA (buff : Mem) (bound : ℕ) : Scan ℕ :=
  scanAvps buff bound fun avpCode _ ptr =>
    if avpCode = resultCodeCode then some (.found (buff.u32 ptr)) else none

/-- `receive_CEA` of `DiaThread`: the verdict on the bytes of an answer, or `none` if there is no
verdict.  The header is read first, then as many bytes as its length field says. -/
def DiaThread.receiveCEA (m : List UInt8) : Option Bool :=
  let dpSize := (Mem.load m fun _ => 0).length
  -- the thread goes on waiting for the header, or for the first byte behind it
  if m.length ≤ diameterHeaderLength then none
  -- a negative number of bytes is asked for, or the buffer overflows
  else if dpSize < diameterHeaderLength ∨ defaultBufferSize < dpSize then none
  -- the thread goes on waiting for the rest of the body
  else if m.length < dpSize then none
  else
    let buff := Mem.load (m.take dpSize) fun _ => 0
    if buff.cmdCode = cmdCodeCer then
      match scanCEA buff dpSize with
      | .found value => some (value = resultDiameterSuccess)
      | .notFound => some false
      | .throws => none
      | .loops => none
    else some false

/-- `receive_CEA` of `HearbeatThread`: one call of `recv` fetches what fits the buffer. -/
def HearbeatThread.receiveCEA (m : List UInt8) : Option Bool :=
  let received := min m.length defaultBufferSize
  let buff := Mem.load (m.take defaultBufferSize) fun _ => 0
  if 0 < received then
    if diameterHeaderLength < received ∧ buff.flags = 0 ∧ buff.cmdCode = cmdCodeCer then
      match scanCEA buff received with
      | .found value => some (value = resultDiameterSuccess)
      | .notFound => some true
      | .throws => none
      | .loops => none
    else some false
  else some false

/-! ## Well-formed answers -/

/-- A complete capabilities-exchange answer whose pairs tile it. -/
structure CapabilitiesExchangeAnswer where
  /-- The first twenty bytes. -/
  header : List UInt8
  /-- The pairs behind them. -/
  avps : List WireAvp
  /-- The header has twenty bytes. -/
  length_header : header.length = diameterHeaderLength
  /-- The length field is the number of bytes. -/
  length_eq : (Mem.load header fun _ => 0).length =
    diameterHeaderLength + (avps.flatMap WireAvp.bytes).length
  /-- No flag is set. -/
  flags_eq : (Mem.load header fun _ => 0).flags = 0
  /-- The command code of the capabilities exchange. -/
  cmdCode_eq : (Mem.load header fun _ => 0).cmdCode = cmdCodeCer

namespace CapabilitiesExchangeAnswer

variable (c : CapabilitiesExchangeAnswer)

/-- The answer as it arrives. -/
def bytes : List UInt8 := c.header ++ c.avps.flatMap WireAvp.bytes

/-- The first Result-Code, with all bytes of the message behind the header of that pair. -/
def firstResultCode : List WireAvp → Option (WireAvp × List UInt8)
  | [] => none
  | a :: as =>
    if a.code = resultCodeCode then some (a, a.data ++ (a.padding ++ as.flatMap WireAvp.bytes))
    else firstResultCode as

/-- The first Result-Code of the answer is 2001. -/
def Succeeds : Prop :=
  ∃ a behind, firstResultCode c.avps = some (a, behind) ∧
    bigEndian4 resultDiameterSuccess <+: a.data

/-- Both acceptors come to a verdict, it is the same, and it is what the Result-Code says. -/
def AcceptorsAgree : Prop :=
  ∃ verdict, DiaThread.receiveCEA c.bytes = some verdict ∧
    HearbeatThread.receiveCEA c.bytes = some verdict ∧ (verdict = true ↔ c.Succeeds)

/-- The answer fits the buffers, has a Result-Code, and the value of the first one lies inside
its pair, or what is read in its place is not 2001. -/
def HasResultCode : Prop :=
  c.bytes.length ≤ defaultBufferSize ∧
    ∃ a behind, firstResultCode c.avps = some (a, behind) ∧
      (4 ≤ a.data.length ∨ (Mem.load behind fun _ => 0).u32 0 ≠ resultDiameterSuccess)

/-! ## The scan -/

/-- What the scan finds in a memory that holds the pairs from an offset on and zeros behind. -/
lemma scanList_eq (buff : Mem) (as : List WireAvp) (o : ℕ)
    (h : buff.view o = Mem.load (as.flatMap WireAvp.bytes) fun _ => 0) :
    scanList (fun avpCode _ ptr =>
        if avpCode = resultCodeCode then some (.found (buff.u32 ptr)) else none) o as =
      match firstResultCode as with
      | none => .notFound
      | some (_, behind) => .found ((Mem.load behind fun _ => 0).u32 0) := by
  induction as generalizing o with
  | nil => rfl
  | cons a as ih =>
    rw [List.flatMap_cons] at h
    unfold scanList firstResultCode
    by_cases ha : a.code = resultCodeCode
    · rw [if_pos ha, if_pos ha, Option.getD_some]
      have hview : buff.view (o + 8) =
          Mem.load (a.data ++ (a.padding ++ as.flatMap WireAvp.bytes)) fun _ => 0 := by
        rw [← Mem.view_view, h, ← a.view_header, List.append_assoc]
      dsimp only
      rw [← hview]
      rfl
    · rw [if_neg ha, if_neg ha, Option.getD_none]
      refine ih _ ?_
      rw [← Mem.view_view, h, Mem.view_load_append]

/-- The bytes behind the header of the first Result-Code start with its value. -/
lemma data_prefix_of_firstResultCode {as : List WireAvp} {a : WireAvp} {behind : List UInt8}
    (h : firstResultCode as = some (a, behind)) : ∃ rest, a.data ++ rest = behind := by
  induction as with
  | nil => cases h
  | cons a' as ih =>
    unfold firstResultCode at h
    split at h
    · cases h
      exact ⟨_, rfl⟩
    · exact ih h

/-- The number of bytes of an answer. -/
lemma length_bytes : c.bytes.length =
    diameterHeaderLength + (c.avps.flatMap WireAvp.bytes).length := by
  rw [bytes, List.length_append, c.length_header]

/-- The header fields of an answer are those of its first twenty bytes. -/
lemma load_bytes_apply {i : ℕ} (hi : i < diameterHeaderLength) :
    Mem.load c.bytes (fun _ => 0) i = Mem.load c.header (fun _ => 0) i := by
  unfold Mem.load bytes
  rw [List.getElem?_append_left (by rwa [c.length_header])]

/-- The length field, read from the whole answer. -/
lemma length_load_bytes : (Mem.load c.bytes fun _ => 0).length = c.bytes.length := by
  rw [c.length_bytes, ← c.length_eq]
  exact Mem.u24_congr fun j _ hj => c.load_bytes_apply (hj.trans (by decide))

/-- The flags, read from the whole answer. -/
lemma flags_load_bytes : (Mem.load c.bytes fun _ => 0).flags = 0 :=
  (c.load_bytes_apply (by decide)).trans c.flags_eq

/-- The command code, read from the whole answer. -/
lemma cmdCode_load_bytes : (Mem.load c.bytes fun _ => 0).cmdCode = cmdCodeCer := by
  rw [← c.cmdCode_eq]
  exact Mem.u24_congr fun j _ hj => c.load_bytes_apply (hj.trans (by decide))

/-- The scan of an answer finds its first Result-Code. -/
lemma scanCEA_bytes : scanCEA (Mem.load c.bytes fun _ => 0) c.bytes.length =
    match firstResultCode c.avps with
    | none => .notFound
    | some (_, behind) => .found ((Mem.load behind fun _ => 0).u32 0) := by
  have hview : (Mem.load c.bytes fun _ => 0).view diameterHeaderLength =
      Mem.load (c.avps.flatMap WireAvp.bytes) fun _ => 0 := by
    rw [bytes, ← c.length_header, Mem.view_load_append]
  rw [← scanList_eq _ _ _ hview, c.length_bytes]
  refine scanAvps_eq_scanList _ ?_
  rw [hview]
  exact Mem.starts_load _ _

/-! ## The verdicts -/

/-- An answer with pairs is longer than its header. -/
lemma header_lt_length (hne : c.avps ≠ []) : diameterHeaderLength < c.bytes.length := by
  obtain ⟨a, as, hcons⟩ := List.exists_cons_of_ne_nil hne
  have ha := a.eight_le_length_bytes
  rw [c.length_bytes, hcons, List.flatMap_cons, List.length_append]
  omega

/-- The verdict of `DiaThread` on an answer with pairs that fits its buffer. -/
lemma diaThread_receiveCEA (hne : c.avps ≠ []) (hfits : c.bytes.length ≤ defaultBufferSize) :
    DiaThread.receiveCEA c.bytes = some (match firstResultCode c.avps with
      | none => false
      | some (_, behind) => (Mem.load behind fun _ => 0).u32 0 = resultDiameterSuccess) := by
  have hlong := c.header_lt_length hne
  unfold DiaThread.receiveCEA
  simp only [c.length_load_bytes, List.take_length, c.cmdCode_load_bytes, c.scanCEA_bytes]
  rw [if_neg hlong.not_ge, if_neg (by omega), if_neg (lt_irrefl _), if_pos trivial]
  cases firstResultCode c.avps <;> rfl

/-- The verdict of `HearbeatThread` on an answer with pairs that fits its buffer. -/
lemma hearbeatThread_receiveCEA (hne : c.avps ≠ [])
    (hfits : c.bytes.length ≤ defaultBufferSize) :
    HearbeatThread.receiveCEA c.bytes = some (match firstResultCode c.avps with
      | none => true
      | some (_, behind) => (Mem.load behind fun _ => 0).u32 0 = resultDiameterSuccess) := by
  have hlong := c.header_lt_length hne
  unfold HearbeatThread.receiveCEA
  simp only [min_eq_left hfits, List.take_of_length_le hfits, c.flags_load_bytes,
    c.cmdCode_load_bytes, c.scanCEA_bytes]
  rw [if_pos (Nat.zero_lt_of_lt hlong), if_pos ⟨hlong, trivial, trivial⟩]
  cases firstResultCode c.avps <;> rfl

/-- An answer without pairs gets no verdict from `DiaThread`, which waits for the first of them. -/
lemma diaThread_receiveCEA_nil (h : c.avps = []) : DiaThread.receiveCEA c.bytes = none := by
  have hlen : c.bytes.length = diameterHeaderLength := by
    rw [c.length_bytes, h]
    rfl
  unfold DiaThread.receiveCEA
  exact if_pos hlen.le

/-- An answer that does not fit the buffer overflows it. -/
lemma diaThread_receiveCEA_long (h : defaultBufferSize < c.bytes.length) :
    DiaThread.receiveCEA c.bytes = none := by
  have hlong : ¬ c.bytes.length ≤ diameterHeaderLength := by
    unfold defaultBufferSize at h
    unfold diameterHeaderLength
    omega
  unfold DiaThread.receiveCEA
  simp only [c.length_load_bytes]
  rw [if_neg hlong, if_pos (Or.inr h)]

/-- The first Result-Code is 2001 when its value is inside the pair and 2001 is read. -/
lemma succeeds_iff {a : WireAvp} {behind : List UInt8}
    (h : firstResultCode c.avps = some (a, behind)) :
    c.Succeeds ↔
      4 ≤ a.data.length ∧ (Mem.load behind fun _ => 0).u32 0 = resultDiameterSuccess := by
  obtain ⟨rest, rfl⟩ := data_prefix_of_firstResultCode h
  unfold Succeeds
  simp only [h, Option.some.injEq, Prod.mk.injEq]
  constructor
  · rintro ⟨_, _, ⟨rfl, rfl⟩, hdata⟩
    have hlen := hdata.length_le
    exact ⟨hlen, (bigEndian4_prefix_iff hlen (by decide)).mp hdata⟩
  · rintro ⟨hlen, hvalue⟩
    exact ⟨a, _, ⟨rfl, rfl⟩, (bigEndian4_prefix_iff hlen (by decide)).mpr hvalue⟩

/-- **When the acceptors agree.**  The two acceptors come to the same verdict, and to the one
that the Result-Code says, exactly for the answers that fit the buffer and have a Result-Code
whose value lies inside its pair or is read as something else than 2001. -/
theorem acceptorsAgree_iff : c.AcceptorsAgree ↔ c.HasResultCode := by
  unfold AcceptorsAgree HasResultCode
  by_cases hfits : c.bytes.length ≤ defaultBufferSize
  swap
  · rw [c.diaThread_receiveCEA_long (Nat.lt_of_not_le hfits)]
    simp [hfits]
  by_cases hne : c.avps = []
  · rw [c.diaThread_receiveCEA_nil hne, hne]
    simp [firstResultCode]
  rw [c.diaThread_receiveCEA hne hfits, c.hearbeatThread_receiveCEA hne hfits]
  cases hfirst : firstResultCode c.avps with
  | none => simp
  | some p =>
    obtain ⟨a, behind⟩ := p
    rw [c.succeeds_iff hfirst]
    constructor
    · rintro ⟨verdict, hverdict, -, hiff⟩
      have hread : verdict = true ↔
          (Mem.load behind fun _ => 0).u32 0 = resultDiameterSuccess := by
        rw [← Option.some.inj hverdict, decide_eq_true_iff]
      refine ⟨hfits, a, behind, rfl, ?_⟩
      by_contra! hshort
      exact hshort.1.not_ge (hiff.mp (hread.mpr hshort.2)).1
    · rintro ⟨-, _, _, ⟨⟩, hvalue⟩
      refine ⟨_, rfl, rfl, ?_⟩
      rw [decide_eq_true_iff]
      constructor
      · intro hread
        exact ⟨hvalue.resolve_right fun hne => hne hread, hread⟩
      · intro hread
        exact hread.2

/-- An answer with an Origin-Host and nothing else. -/
def originHostOnly : CapabilitiesExchangeAnswer where
  header := [1, 0, 0, 32, 0, 0, 1, 1, 0, 0, 0, 0, 0, 0, 0, 0, 0, 0, 0, 0]
  avps := [{
    code := 264
    flags := 64
    data := [104, 111, 115, 116]
    padding := []
    code_lt := by decide
    length_lt := by decide
    length_padding := rfl }]
  length_header := rfl
  length_eq := by decide
  flags_eq := by decide
  cmdCode_eq := by decide

/-- The acceptors disagree on an answer without a Result-Code. -/
theorem originHostOnly_disagree :
    DiaThread.receiveCEA originHostOnly.bytes = some false ∧
      HearbeatThread.receiveCEA originHostOnly.bytes = some true ∧
      ¬ originHostOnly.AcceptorsAgree := by
  have hdata : DiaThread.receiveCEA originHostOnly.bytes = some false := by decide
  have hheartbeat : HearbeatThread.receiveCEA originHostOnly.bytes = some true := by decide
  refine ⟨hdata, hheartbeat, ?_⟩
  rintro ⟨verdict, h, h', -⟩
  exact absurd ((hdata.symm.trans h).trans (h'.symm.trans hheartbeat)) (by decide)

end CapabilitiesExchangeAnswer

end DiaProxy
