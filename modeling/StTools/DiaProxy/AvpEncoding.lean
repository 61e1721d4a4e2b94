import StTools.DiaProxy.Avp

/-!
# The encoding of pairs and the two extractions

A pair is encoded with a header of eight bytes, or of twelve when its V flag is set: then the vendor
id stands before the data.  `extractAVP` and `extractResultCodeAVP` compare the code only and take what
follows the first eight bytes, where `parseBuffer` tests the flag.  So a pair of a vendor with the same
code is taken for the wanted one, and its vendor id for data.  A result inside an Experimental-Result is
read at a fixed offset, which is right when the Vendor-Id is the first of its two members.

`extractAVP_eq_iff` and `extractResultCodeAVP_eq_iff` say for which messages the extractions find
what was encoded.
-/

namespace DiaProxy

/-- The result of a scan for an optional value. -/
def Scan.ofOption {α : Type*} : Option α → Scan α
  | some value => .found value
  | none => .notFound

lemma Scan.ofOption_injective {α : Type*} : Function.Injective (ofOption (α := α)) := by
  intro x y h
  cases x <;> cases y <;> simp_all [ofOption]

/-! ## Encoded pairs -/

/-- The V flag. -/
def vendorFlag : UInt8 := 0x80

/-- What follows the first eight bytes of a pair: the vendor id, if there is one, and the data. -/
def avpBody (vendorId : Option UInt32) (data : List UInt8) : List UInt8 :=
  (vendorId.elim [] fun v => bigEndian4 v.toNat) ++ data

/-- An attribute-value pair. -/
structure Avp where
  /-- The attribute. -/
  code : UInt32
  /-- The flags. -/
  flags : UInt8
  /-- The vendor, for an attribute that is not one of the IETF. -/
  vendorId : Option UInt32
  /-- The value. -/
  data : List UInt8
  /-- The V flag says whether there is a vendor id. -/
  vFlag_iff : flags &&& vendorFlag ≠ 0 ↔ vendorId.isSome
  /-- The length field has three bytes. -/
  length_lt : 8 + (avpBody vendorId data).length < 16777216

namespace Avp

/-- What follows the first eight bytes. -/
def body (a : Avp) : List UInt8 := avpBody a.vendorId a.data

/-- The encoding of a pair, with zeros up to a multiple of four. -/
def bytes (a : Avp) : List UInt8 :=
  bigEndian4 a.code.toNat ++ (a.flags :: (bigEndian3 (8 + a.body.length) ++
    (a.body ++ List.replicate (paddingLength a.body.length) 0)))

/-- The pair as the scans see it: they do not know of vendor ids. -/
def toWire (a : Avp) : WireAvp :=
  .ofData a.code.toNat a.flags a.body a.code.toNat_lt a.length_lt

lemma bytes_toWire (a : Avp) : a.toWire.bytes = a.bytes := WireAvp.bytes_ofData _ _

/-- The length field counts eight bytes and the body. -/
lemma avpLength_toWire (a : Avp) : a.toWire.avpLength = 8 + a.body.length := rfl

lemma code_toWire (a : Avp) : a.toWire.code = a.code.toNat := rfl

lemma flatMap_bytes_toWire (as : List Avp) :
    (as.map toWire).flatMap WireAvp.bytes = as.flatMap bytes := by
  rw [List.flatMap_map]
  exact congrArg (fun f => as.flatMap f) (funext bytes_toWire)

/-- The body of a pair that has no vendor id is its data. -/
lemma body_of_plain {a : Avp} (h : a.vendorId = none) : a.body = a.data := by
  rw [body, h]
  rfl

/-- The body of the pair that starts at an offset. -/
lemma starts_body {m : Mem} {o : ℕ} {a : Avp} {t : List UInt8}
    (h : (m.view o).Starts (a.bytes ++ t)) : (m.view (o + 8)).Starts a.body := by
  rw [← bytes_toWire] at h
  exact (WireAvp.starts_data h).left

end Avp

/-- A header and encoded pairs. -/
structure EncodedMessage where
  /-- The first twenty bytes. -/
  header : List UInt8
  /-- The pairs. -/
  avps : List Avp
  /-- The header has twenty bytes. -/
  length_header : header.length = diameterHeaderLength

namespace EncodedMessage

variable (msg : EncodedMessage) (behind : Mem)

/-- The message as it is sent. -/
def bytes : List UInt8 := msg.header ++ msg.avps.flatMap Avp.bytes

/-- The receive buffer: the message, and other bytes behind it. -/
def buffer : Mem := Mem.load msg.bytes behind

/-- The number of bytes. -/
lemma length_bytes :
    msg.bytes.length = diameterHeaderLength + (msg.avps.flatMap Avp.bytes).length := by
  rw [bytes, List.length_append, msg.length_header]

/-- The pairs follow the header. -/
lemma starts_avps :
    ((msg.buffer behind).view diameterHeaderLength).Starts (msg.avps.flatMap Avp.bytes) := by
  have hstarts : (msg.buffer behind).Starts (msg.header ++ msg.avps.flatMap Avp.bytes) :=
    Mem.starts_load _ _
  rw [← msg.length_header]
  exact hstarts.right

/-- A scan of the message visits its pairs in their order. -/
lemma scanAvps_eq {α : Type*} (value : (code length ptr : ℕ) → Option (Scan α)) :
    scanAvps (msg.buffer behind) msg.bytes.length value =
      scanList value diameterHeaderLength (msg.avps.map Avp.toWire) := by
  rw [msg.length_bytes, ← Avp.flatMap_bytes_toWire]
  refine scanAvps_eq_scanList value ?_
  rw [Avp.flatMap_bytes_toWire]
  exact msg.starts_avps behind

end EncodedMessage

/-! ## One attribute -/

/-- The data of the first pair with a code and without a vendor id. -/
def plainData (code : UInt32) (as : List Avp) : Option (List UInt8) :=
  (as.find? fun a => a.code = code ∧ a.vendorId = none).map Avp.data

/-- The scan takes the body of the first pair with the code. -/
lemma scanList_body {m : Mem} {as : List Avp} {o : ℕ} (code : UInt32)
    (h : (m.view o).Starts (as.flatMap Avp.bytes)) :
    scanList (fun avpCode avpLength ptr =>
        if avpCode = code.toNat then
          some (if avpLength < 8 then .throws else .found ((m.view ptr).bytes (avpLength - 8)))
        else none) o (as.map Avp.toWire) =
      .ofOption ((as.find? fun a => a.code = code).map Avp.body) := by
  induction as generalizing o with
  | nil => rfl
  | cons a as ih =>
    rw [List.flatMap_cons] at h
    rw [List.map_cons, scanList, Avp.code_toWire, Avp.avpLength_toWire]
    by_cases ha : a.code = code
    · have hbody : (m.view (o + 8)).bytes (8 + a.body.length - 8) = a.body := by
        rw [Nat.add_sub_cancel_left]
        exact (Avp.starts_body h).bytes_eq
      rw [if_pos (congrArg UInt32.toNat ha), if_neg (by omega), Option.getD_some, hbody,
        List.find?_cons_of_pos (by simpa using ha)]
      rfl
    · have hcode : a.code.toNat ≠ code.toNat := fun heq => ha (UInt32.toNat_inj.mp heq)
      have hnext : (m.view (o + a.toWire.bytes.length)).Starts (as.flatMap Avp.bytes) := by
        rw [Avp.bytes_toWire, ← Mem.view_view]
        exact h.right
      rw [if_neg hcode, Option.getD_none, ih hnext, List.find?_cons_of_neg (by simpa using ha)]

namespace EncodedMessage

/-- The first pair with the code has no vendor id, or its vendor id and data are the data of the first
one that has none. -/
def PlainFirst (msg : EncodedMessage) (code : UInt32) : Prop :=
  ∀ a, (msg.avps.find? fun a => a.code = code) = some a →
    a.vendorId = none ∨ plainData code msg.avps = some a.body

/-- **What `extractAVP` undoes.**  It finds the data of the first pair with a code of the IETF, or that
there is none, exactly when no vendor's pair with the same code stands before it. -/
theorem extractAVP_eq_iff (msg : EncodedMessage) (behind : Mem) (code : UInt32) :
    extractAVP (msg.buffer behind) msg.bytes.length code.toNat =
        .ofOption (plainData code msg.avps) ↔ msg.PlainFirst code := by
  rw [extractAVP, scanAvps_eq, scanList_body code (msg.starts_avps behind),
    Scan.ofOption_injective.eq_iff, PlainFirst]
  cases hfirst : msg.avps.find? fun a => a.code = code with
  | none =>
    have hplain : plainData code msg.avps = none := by
      rw [List.find?_eq_none] at hfirst
      rw [plainData, Option.map_eq_none_iff, List.find?_eq_none]
      intro a ha hcode
      simp only [decide_eq_true_eq] at hcode
      exact hfirst a ha (by simpa using hcode.1)
    rw [hplain]
    simp
  | some a =>
    simp only [Option.map_some, Option.some.injEq, forall_eq']
    constructor
    · intro h
      exact .inr h.symm
    · rintro (hvendor | h)
      swap
      · exact h.symm
      -- the first pair with the code is the first without a vendor id too
      obtain ⟨hcode, before, after, havps, hbefore⟩ := List.find?_eq_some_iff_append.mp hfirst
      have hfind : (msg.avps.find? fun a => a.code = code ∧ a.vendorId = none) = some a := by
        refine List.find?_eq_some_iff_append.mpr ⟨?_, before, after, havps, ?_⟩
        · simpa [hvendor] using hcode
        · intro b hb
          have hb' := hbefore b hb
          simp only [Bool.not_eq_true', decide_eq_false_iff_not] at hb' ⊢
          exact fun hand => hb' hand.1
      rw [plainData, hfind, Option.map_some, Avp.body_of_plain hvendor]

/-- A pair of a vendor before one of the IETF with the same code. -/
def vendorBefore : EncodedMessage where
  header := List.replicate 20 0
  avps :=
    [{ code := 1, flags := 0xC0, vendorId := some 10415, data := [7]
       vFlag_iff := by decide
       length_lt := by decide },
     { code := 1, flags := 0x40, vendorId := none, data := [9]
       vFlag_iff := by decide
       length_lt := by decide }]
  length_header := rfl

/-- The vendor id and the data of the vendor's pair are taken. -/
theorem vendorBefore_extractAVP :
    extractAVP (vendorBefore.buffer fun _ => 0) vendorBefore.bytes.length 1 =
        .found [0, 0, 40, 175, 7] ∧
      extractAVP (vendorBefore.buffer fun _ => 0) vendorBefore.bytes.length 1 ≠
        .ofOption (plainData 1 vendorBefore.avps) := by
  decide

end EncodedMessage

/-! ## The result of an answer -/

/-- Flags without the V flag. -/
abbrev PlainFlags := { f : UInt8 // f &&& vendorFlag = 0 }

/-- A pair of the IETF. -/
def plainAvp (code : UInt32) (flags : PlainFlags) (data : List UInt8)
    (length_lt : 8 + data.length < 16777216) : Avp where
  code := code
  flags := flags
  vendorId := none
  data := data
  vFlag_iff := by simp [flags.2]
  length_lt := length_lt

/-- A pair of the IETF with a value of 32 bits. -/
def unsigned32 (code : UInt32) (flags : PlainFlags) (value : UInt32) : Avp :=
  plainAvp code flags (bigEndian4 value.toNat) (by rw [length_bigEndian4]; decide)

lemma length_bytes_unsigned32 (code : UInt32) (flags : PlainFlags) (value : UInt32) :
    (unsigned32 code flags value).bytes.length = 12 := by
  have hdata : (unsigned32 code flags value).toWire.data.length = 4 := rfl
  rw [← Avp.bytes_toWire, WireAvp.length_bytes, WireAvp.avpLength, hdata]
  rfl

/-- The value of the pair that starts at an offset. -/
lemma u32_unsigned32 {m : Mem} {o : ℕ} {code : UInt32} {flags : PlainFlags} {value : UInt32}
    {t : List UInt8} (h : (m.view o).Starts ((unsigned32 code flags value).bytes ++ t)) :
    m.u32 (o + 8) = value.toNat := by
  have hbody : (m.view (o + 8)).Starts (bigEndian4 value.toNat ++ []) := by
    rw [List.append_nil]
    exact Avp.starts_body h
  have hread : (m.view (o + 8)).u32 0 = value.toNat := hbody.u32_eq value.toNat_lt
  rw [← hread]
  rfl

/-- `VENDOR_ID_CODE`. -/
def vendorIdCode : ℕ := 266

/-- The code of the result inside an Experimental-Result. -/
def experimentalResultMemberCode : ℕ := 298

/-- The result of an answer. -/
inductive Result
  /-- A Result-Code. -/
  | resultCode (flags : PlainFlags) (value : UInt32)
  /-- An Experimental-Result with its two members; `vendorFirst` says which of them comes first. -/
  | experimental (flags vendorFlags codeFlags : PlainFlags) (vendorFirst : Bool)
      (vendorId value : UInt32)

namespace Result

/-- The value of 32 bits. -/
def value : Result → UInt32
  | resultCode _ value => value
  | experimental _ _ _ _ _ value => value

/-- The members of an Experimental-Result. -/
def members (vendorFlags codeFlags : PlainFlags) (vendorFirst : Bool) (vendorId value : UInt32) :
    List Avp :=
  let vendor := unsigned32 (.ofNat vendorIdCode) vendorFlags vendorId
  let code := unsigned32 (.ofNat experimentalResultMemberCode) codeFlags value
  if vendorFirst then [vendor, code] else [code, vendor]

lemma length_members (vendorFlags codeFlags : PlainFlags) (vendorFirst : Bool)
    (vendorId value : UInt32) :
    ((members vendorFlags codeFlags vendorFirst vendorId value).flatMap Avp.bytes).length = 24 := by
  cases vendorFirst <;> simp [members, length_bytes_unsigned32]

/-- The pair that has the result. -/
def avp : Result → Avp
  | resultCode flags value => unsigned32 (.ofNat resultCodeCode) flags value
  | experimental flags vendorFlags codeFlags vendorFirst vendorId value =>
    plainAvp (.ofNat experimentalResultCodeCode) flags
      ((members vendorFlags codeFlags vendorFirst vendorId value).flatMap Avp.bytes)
      (by rw [length_members]; decide)

/-- The value stands where the code reads it: an Experimental-Result has its Vendor-Id first, or both
its members have the same value. -/
def InPlace : Result → Prop
  | resultCode _ _ => True
  | experimental _ _ _ vendorFirst vendorId value => vendorFirst ∨ vendorId = value

end Result

/-- The offset of the four bytes that are taken for the result: the value of the first pair with the
code of a Result-Code, or what stands at the offset 20 in one with the code of an Experimental-Result. -/
def resultOffset : ℕ → List Avp → Option ℕ
  | _, [] => none
  | o, a :: as =>
    if a.code.toNat = resultCodeCode then some (o + 8)
    else if a.code.toNat = experimentalResultCodeCode then some (o + 28)
    else resultOffset (o + a.bytes.length) as

/-- An answer with at most one result. -/
structure Answer where
  /-- The first twenty bytes. -/
  header : List UInt8
  /-- The pairs before the result; all pairs, if there is none. -/
  before : List Avp
  /-- The result and the pairs behind it. -/
  result : Option (Result × List Avp)
  /-- The header has twenty bytes. -/
  length_header : header.length = diameterHeaderLength
  /-- No pair before the result is a Result-Code or an Experimental-Result. -/
  before_plain : ∀ a ∈ before, a.vendorId = none →
    a.code.toNat ≠ resultCodeCode ∧ a.code.toNat ≠ experimentalResultCodeCode
  /-- Nor is one behind it. -/
  after_plain : ∀ r after, result = some (r, after) → ∀ a ∈ after, a.vendorId = none →
    a.code.toNat ≠ resultCodeCode ∧ a.code.toNat ≠ experimentalResultCodeCode

namespace Answer

variable (ans : Answer) (behind : Mem)

/-- The pair of the result and the pairs behind it. -/
def rest : List Avp := ans.result.elim [] fun r => r.1.avp :: r.2

/-- The answer as a message. -/
def message : EncodedMessage where
  header := ans.header
  avps := ans.before ++ ans.rest
  length_header := ans.length_header

/-- The value of the result. -/
def value : Option ℕ := ans.result.map fun r => r.1.value.toNat

/-- Where the scan stops it reads the result: the result is in its place and no vendor's pair with the
code of a result is before it, or the four bytes that are read there instead are the same. -/
def Found : Prop :=
  match resultOffset diameterHeaderLength ans.before with
  | some o => ans.value = some ((ans.message.buffer behind).u32 o)
  | none => ∀ r after, ans.result = some (r, after) → r.InPlace

end Answer

/-- The scan takes the four bytes at that offset. -/
lemma scanList_result {m : Mem} (o : ℕ) (as : List Avp) :
    scanList (fun avpCode _ ptr =>
        if avpCode = resultCodeCode then some (.found (m.u32 ptr))
        else if avpCode = experimentalResultCodeCode then some (.found (m.u32 (ptr + 20)))
        else none) o (as.map Avp.toWire) =
      .ofOption ((resultOffset o as).map m.u32) := by
  induction as generalizing o with
  | nil => rfl
  | cons a as ih =>
    rw [List.map_cons, scanList, resultOffset, Avp.code_toWire]
    by_cases hresult : a.code.toNat = resultCodeCode
    · rw [if_pos hresult, if_pos hresult]
      rfl
    · rw [if_neg hresult, if_neg hresult]
      by_cases hexperimental : a.code.toNat = experimentalResultCodeCode
      · rw [if_pos hexperimental, if_pos hexperimental]
        rfl
      · rw [if_neg hexperimental, if_neg hexperimental, Option.getD_none, Avp.bytes_toWire, ih]

/-- The first pair with one of the codes is in the first part or in the second. -/
lemma resultOffset_append (o : ℕ) (as bs : List Avp) :
    resultOffset o (as ++ bs) =
      (resultOffset o as).or (resultOffset (o + (as.flatMap Avp.bytes).length) bs) := by
  induction as generalizing o with
  | nil => rfl
  | cons a as ih =>
    rw [List.cons_append, resultOffset, resultOffset]
    split
    · rfl
    · split
      · rfl
      · rw [ih, List.flatMap_cons, List.length_append, Nat.add_assoc]

/-- The value of the second member of an Experimental-Result that starts at an offset. -/
lemma Result.u32_second {m : Mem} {o : ℕ} {flags vendorFlags codeFlags : PlainFlags}
    {vendorFirst : Bool} {vendorId value : UInt32} {t : List UInt8}
    (h : (m.view o).Starts
      ((experimental flags vendorFlags codeFlags vendorFirst vendorId value).avp.bytes ++ t)) :
    m.u32 (o + 28) = (if vendorFirst then value else vendorId).toNat := by
  have hbody : (m.view (o + 8)).Starts
      ((members vendorFlags codeFlags vendorFirst vendorId value).flatMap Avp.bytes) :=
    Avp.starts_body h
  -- the first member takes twelve bytes, and the header of the second eight
  cases vendorFirst with
  | true =>
    have hsecond := hbody.right
    rw [length_bytes_unsigned32, Mem.view_view] at hsecond
    exact u32_unsigned32 hsecond
  | false =>
    have hsecond := hbody.right
    rw [length_bytes_unsigned32, Mem.view_view] at hsecond
    exact u32_unsigned32 hsecond

/-- When the scan comes to the result, it finds its value if this is in its place. -/
lemma Result.found_iff_inPlace {m : Mem} {o : ℕ} {r : Result} {t : List UInt8} (after : List Avp)
    (h : (m.view o).Starts (r.avp.bytes ++ t)) :
    (resultOffset o (r.avp :: after)).map m.u32 = some r.value.toNat ↔ r.InPlace := by
  cases r with
  | resultCode flags value =>
    have hread : m.u32 (o + 8) = value.toNat := u32_unsigned32 h
    have hoffset : resultOffset o ((resultCode flags value).avp :: after) = some (o + 8) := rfl
    rw [hoffset, Option.map_some, hread]
    simp [InPlace, Result.value]
  | experimental flags vendorFlags codeFlags vendorFirst vendorId value =>
    have hread := Result.u32_second h
    have hoffset : resultOffset o
        ((experimental flags vendorFlags codeFlags vendorFirst vendorId value).avp :: after) =
          some (o + 28) := rfl
    rw [hoffset, Option.map_some, hread, Option.some.injEq, UInt32.toNat_inj]
    cases vendorFirst <;> simp [InPlace, Result.value]

namespace Answer

/-- **When the result is found.**  `extractResultCodeAVP` yields the value of the result, or that there
is none, exactly when the result is in its place and no vendor's pair is taken for it. -/
theorem extractResultCodeAVP_eq_iff (ans : Answer) (behind : Mem) :
    extractResultCodeAVP (ans.message.buffer behind) ans.message.bytes.length =
        .ofOption ans.value ↔ ans.Found behind := by
  have hscan : extractResultCodeAVP (ans.message.buffer behind) ans.message.bytes.length =
      .ofOption ((resultOffset diameterHeaderLength (ans.before ++ ans.rest)).map
        (ans.message.buffer behind).u32) := by
    rw [extractResultCodeAVP, EncodedMessage.scanAvps_eq]
    exact scanList_result _ _
  have hstarts : ((ans.message.buffer behind).view diameterHeaderLength).Starts
      (ans.before.flatMap Avp.bytes ++ ans.rest.flatMap Avp.bytes) := by
    rw [← List.flatMap_append]
    exact ans.message.starts_avps behind
  rw [hscan, Scan.ofOption_injective.eq_iff, resultOffset_append, Found]
  cases resultOffset diameterHeaderLength ans.before with
  | some o =>
    rw [Option.some_or, Option.map_some]
    exact eq_comm
  | none =>
    rw [Option.none_or]
    have hrest := hstarts.right
    rw [Mem.view_view] at hrest
    cases hresult : ans.result with
    | none => simp [value, rest, hresult, resultOffset]
    | some r =>
      obtain ⟨r, after⟩ := r
      have hcons : ans.rest = r.avp :: after := by
        rw [rest, hresult]
        rfl
      rw [hcons, List.flatMap_cons] at hrest
      rw [value, hresult, hcons, Option.map_some, Result.found_iff_inPlace after hrest]
      constructor
      · rintro h r' after' heq
        cases heq
        exact h
      · intro h
        exact h r after rfl

/-- An Experimental-Result with the Vendor-Id 10415 and the code 5001, the code first. -/
def codeFirst : Answer where
  header := List.replicate 20 0
  before := []
  result := some (.experimental ⟨0x40, by decide⟩ ⟨0x40, by decide⟩ ⟨0x40, by decide⟩ false 10415 5001,
    [])
  length_header := rfl
  before_plain := by simp
  after_plain := by
    intro r after h
    cases h
    simp

/-- The Vendor-Id is taken for the result. -/
theorem codeFirst_extractResultCodeAVP :
    extractResultCodeAVP (codeFirst.message.buffer fun _ => 0) codeFirst.message.bytes.length =
        .found 10415 ∧
      extractResultCodeAVP (codeFirst.message.buffer fun _ => 0) codeFirst.message.bytes.length ≠
        .ofOption codeFirst.value := by
  decide

end Answer

end DiaProxy
