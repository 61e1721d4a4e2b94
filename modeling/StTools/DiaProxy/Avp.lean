import StTools.DiaProxy.Wire
import Mathlib.Data.List.Basic

/-!
# Attribute-value pairs on the wire

A Diameter message is a header followed by attribute-value pairs: a code in four bytes, one byte
of flags, the length of header and data in three bytes, the data, and padding to a multiple of
four.  `WireAvp` is such a pair with its padding; a list of them is what "the pairs tile the
message" means.

Two facts connect the pairs with the code of the proxy.  `scanAvps_eq_scanList` says that a scan
over memory that holds a header and a list of pairs visits these pairs one after the other, and
`flatMap_bytes_injective` that the bytes of a list of pairs determine the list.
-/

namespace DiaProxy

/-! ## Big-endian numbers -/

/-- A number in three bytes, most significant first. -/
def bigEndian3 (n : ℕ) : List UInt8 := [.ofNat (n / 65536), .ofNat (n / 256), .ofNat n]

/-- A number in four bytes, most significant first. -/
def bigEndian4 (n : ℕ) : List UInt8 := .ofNat (n / 16777216) :: bigEndian3 n

/-- Three bytes. -/
@[simp] lemma length_bigEndian3 (n : ℕ) : (bigEndian3 n).length = 3 := rfl

/-- Four bytes. -/
@[simp] lemma length_bigEndian4 (n : ℕ) : (bigEndian4 n).length = 4 := rfl

/-- The byte a memory holds where the bytes it starts with have a given one. -/
lemma Mem.Starts.apply {m : Mem} {l : List UInt8} (h : m.Starts l) {i : ℕ} {b : UInt8}
    (hb : l[i]? = some b) : m i = b := by
  have hi : i < l.length := (List.getElem?_eq_some_iff.mp hb).1
  exact Option.some.inj ((h i hi).symm.trans hb)

/-- A number of three bytes is read back. -/
lemma Mem.Starts.u24_eq {m : Mem} {n : ℕ} {t : List UInt8} (h : m.Starts (bigEndian3 n ++ t))
    (hn : n < 16777216) : m.u24 0 = n := by
  unfold Mem.u24
  rw [h.apply (i := 0) rfl, h.apply (i := 0 + 1) rfl, h.apply (i := 0 + 2) rfl]
  simp only [UInt8.toNat_ofNat']
  omega

/-- A number of four bytes is read back. -/
lemma Mem.Starts.u32_eq {m : Mem} {n : ℕ} {t : List UInt8} (h : m.Starts (bigEndian4 n ++ t))
    (hn : n < 4294967296) : m.u32 0 = n := by
  unfold Mem.u32 Mem.u24
  rw [h.apply (i := 0) rfl, h.apply (i := 0 + 1) rfl, h.apply (i := 0 + 1 + 1) rfl,
    h.apply (i := 0 + 1 + 2) rfl]
  simp only [UInt8.toNat_ofNat']
  omega

/-- Four bytes at the start of some bytes are a number when this number is read there. -/
lemma bigEndian4_prefix_iff {l t : List UInt8} {n : ℕ} (hlen : 4 ≤ l.length)
    (hn : n < 4294967296) :
    bigEndian4 n <+: l ↔ (Mem.load (l ++ t) fun _ => 0).u32 0 = n := by
  constructor
  · rintro ⟨rest, rfl⟩
    refine Mem.Starts.u32_eq (t := rest ++ t) ?_ hn
    rw [← List.append_assoc]
    exact Mem.starts_load _ _
  · obtain ⟨b₀, b₁, b₂, b₃, rest, rfl⟩ : ∃ b₀ b₁ b₂ b₃ rest, l = b₀ :: b₁ :: b₂ :: b₃ :: rest := by
      match l, hlen with
      | b₀ :: b₁ :: b₂ :: b₃ :: rest, _ => exact ⟨b₀, b₁, b₂, b₃, rest, rfl⟩
    intro h
    have hread : b₀.toNat * 16777216 + (b₁.toNat * 65536 + b₂.toNat * 256 + b₃.toNat) = n := h
    have h₀ := b₀.toNat_lt
    have h₁ := b₁.toNat_lt
    have h₂ := b₂.toNat_lt
    have h₃ := b₃.toNat_lt
    refine ⟨rest, ?_⟩
    simp only [bigEndian4, bigEndian3, List.cons_append, List.nil_append, List.cons.injEq,
      and_true]
    refine ⟨?_, ?_, ?_, ?_⟩ <;> apply UInt8.toNat_inj.mp <;> rw [UInt8.toNat_ofNat'] <;> omega

/-- The memory from its start on. -/
@[simp] lemma Mem.view_zero (m : Mem) : m.view 0 = m := by
  funext i
  simp [Mem.view]

/-- What is seen behind the first of two parts, with zeros behind both. -/
lemma Mem.view_load_append (l t : List UInt8) :
    (Mem.load (l ++ t) fun _ => 0).view l.length = Mem.load t fun _ => 0 := by
  funext i
  simp only [Mem.view, Mem.load]
  rw [List.getElem?_append_right (Nat.le_add_right _ _), Nat.add_sub_cancel_left]

/-! ## Pairs -/

/-- The number of bytes that are missing to a multiple of four. -/
def paddingLength (n : ℕ) : ℕ := (4 - n % 4) % 4

/-- An attribute-value pair with its padding. -/
structure WireAvp where
  /-- The attribute. -/
  code : ℕ
  /-- The flags. -/
  flags : UInt8
  /-- The value. -/
  data : List UInt8
  /-- The bytes up to the next multiple of four. -/
  padding : List UInt8
  /-- The code has four bytes. -/
  code_lt : code < 4294967296
  /-- The length field has three bytes. -/
  length_lt : 8 + data.length < 16777216
  /-- The padding is as long as it has to be. -/
  length_padding : padding.length = paddingLength data.length

namespace WireAvp

/-- The length field of a pair: its header and its data. -/
def avpLength (a : WireAvp) : ℕ := 8 + a.data.length

/-- A pair as it is sent. -/
def bytes (a : WireAvp) : List UInt8 :=
  bigEndian4 a.code ++ (a.flags :: (bigEndian3 a.avpLength ++ (a.data ++ a.padding)))

/-- A pair with zeros as its padding. -/
def ofData (code : ℕ) (flags : UInt8) (data : List UInt8) (code_lt : code < 4294967296)
    (length_lt : 8 + data.length < 16777216) : WireAvp where
  code := code
  flags := flags
  data := data
  padding := List.replicate (paddingLength data.length) 0
  code_lt := code_lt
  length_lt := length_lt
  length_padding := List.length_replicate

/-- The bytes of a pair with zeros as its padding. -/
lemma bytes_ofData {code : ℕ} {flags : UInt8} {data : List UInt8} (code_lt : code < 4294967296)
    (length_lt : 8 + data.length < 16777216) :
    (ofData code flags data code_lt length_lt).bytes =
      bigEndian4 code ++ (flags :: (bigEndian3 (8 + data.length) ++
        (data ++ List.replicate (paddingLength data.length) 0))) := rfl

/-- Two pairs with the same fields are the same. -/
lemma ext_fields {a b : WireAvp} (hc : a.code = b.code) (hf : a.flags = b.flags)
    (hd : a.data = b.data) (hp : a.padding = b.padding) : a = b := by
  cases a
  cases b
  congr

/-- A pair takes its length and the padding. -/
lemma length_bytes (a : WireAvp) :
    a.bytes.length = a.avpLength + paddingLength a.data.length := by
  simp only [bytes, avpLength, List.length_append, List.length_cons, length_bigEndian3,
    length_bigEndian4, a.length_padding]
  omega

/-- Pairs take at least eight bytes. -/
lemma eight_le_length_bytes (a : WireAvp) : 8 ≤ a.bytes.length := by
  rw [length_bytes, avpLength]
  omega

variable {m : Mem} {a : WireAvp} {t : List UInt8} {o : ℕ}

/-- The code of the pair that starts at an offset. -/
lemma u32_eq (h : (m.view o).Starts (a.bytes ++ t)) : m.u32 o = a.code := by
  have hcode : (m.view o).u32 0 = a.code := by
    refine Mem.Starts.u32_eq (t := ?_) ?_ a.code_lt
    · exact a.flags :: (bigEndian3 a.avpLength ++ (a.data ++ a.padding)) ++ t
    · rwa [← List.append_assoc]
  rw [← hcode]
  rfl

/-- The length of the pair that starts at an offset. -/
lemma u24_eq (h : (m.view o).Starts (a.bytes ++ t)) : m.u24 (o + 5) = a.avpLength := by
  have hview : ((m.view o).view 5).Starts
      (bigEndian3 a.avpLength ++ (a.data ++ a.padding ++ t)) := by
    refine Mem.Starts.right (l := bigEndian4 a.code ++ [a.flags]) ?_
    simpa [bytes, List.append_assoc] using h
  have hlength := hview.u24_eq a.length_lt
  rw [Mem.view_view] at hlength
  rw [← hlength]
  rfl

/-- The value of the pair that starts at an offset. -/
lemma starts_data (h : (m.view o).Starts (a.bytes ++ t)) :
    (m.view (o + 8)).Starts (a.data ++ (a.padding ++ t)) := by
  rw [← Mem.view_view]
  refine Mem.Starts.right
    (l := bigEndian4 a.code ++ (a.flags :: bigEndian3 a.avpLength)) ?_
  simpa [bytes, List.append_assoc] using h

/-- The value of a pair, with what follows it and zeros behind. -/
lemma view_header (a : WireAvp) (t : List UInt8) :
    Mem.load (a.data ++ a.padding ++ t) (fun _ => 0) =
      (Mem.load (a.bytes ++ t) fun _ => 0).view 8 := by
  rw [← Mem.view_load_append (bigEndian4 a.code ++ (a.flags :: bigEndian3 a.avpLength))]
  simp [bytes, List.append_assoc]

/-- What follows the pair that starts at an offset. -/
lemma starts_next (h : (m.view o).Starts (a.bytes ++ t)) :
    (m.view (o + a.bytes.length)).Starts t := by
  rw [← Mem.view_view]
  exact h.right

/-- A pair at the start of some bytes is determined by them. -/
lemma bytes_append_inj {b : WireAvp} {t' : List UInt8} (h : a.bytes ++ t = b.bytes ++ t') :
    a = b ∧ t = t' := by
  let mem := Mem.load (a.bytes ++ t) fun _ => 0
  have ha : (mem.view 0).Starts (a.bytes ++ t) := by
    rw [Mem.view_zero]
    exact Mem.starts_load _ _
  have hb : (mem.view 0).Starts (b.bytes ++ t') := h ▸ ha
  have hcode : a.code = b.code := (u32_eq ha).symm.trans (u32_eq hb)
  have havp : a.avpLength = b.avpLength := (u24_eq ha).symm.trans (u24_eq hb)
  have hdata : a.data.length = b.data.length := Nat.add_left_cancel havp
  have hlen : a.bytes.length = b.bytes.length := by
    rw [length_bytes, length_bytes, havp, hdata]
  obtain ⟨hbytes, ht⟩ := List.append_inj h hlen
  unfold bytes at hbytes
  rw [hcode, havp] at hbytes
  obtain ⟨hflags, hrest⟩ := List.cons.inj (List.append_cancel_left hbytes)
  obtain ⟨hd, hp⟩ := List.append_inj (List.append_cancel_left hrest) hdata
  exact ⟨ext_fields hcode hflags hd hp, ht⟩

/-- A list of pairs that is not empty has bytes. -/
lemma flatMap_cons_ne_nil (a : WireAvp) (as : List WireAvp) : (a :: as).flatMap bytes ≠ [] := by
  intro h
  have hlen := congrArg List.length h
  rw [List.flatMap_cons, List.length_append, List.length_nil] at hlen
  have := a.eight_le_length_bytes
  omega

/-- **The bytes of a list of pairs determine the list.** -/
theorem flatMap_bytes_injective {as bs : List WireAvp}
    (h : as.flatMap bytes = bs.flatMap bytes) : as = bs := by
  induction as generalizing bs with
  | nil =>
    cases bs with
    | nil => rfl
    | cons b bs => exact absurd h.symm (flatMap_cons_ne_nil b bs)
  | cons a as ih =>
    cases bs with
    | nil => exact absurd h (flatMap_cons_ne_nil a as)
    | cons b bs =>
      obtain ⟨rfl, htail⟩ := bytes_append_inj h
      rw [ih htail]

end WireAvp

/-! ## Scanning -/

/-- The scan as it goes through a list of pairs, the first of which starts at `o`. -/
def scanList {α : Type*} (value : (code length ptr : ℕ) → Option (Scan α)) :
    ℕ → List WireAvp → Scan α
  | _, [] => .notFound
  | o, a :: as =>
    (value a.code a.avpLength (o + 8)).getD (scanList value (o + a.bytes.length) as)

/-- The step of the scan from one pair to the next. -/
lemma avpLength_padded (a : WireAvp) :
    (if a.avpLength % 4 ≠ 0 then a.avpLength + 4 - a.avpLength % 4 else a.avpLength) =
      a.bytes.length := by
  rw [a.length_bytes, paddingLength, WireAvp.avpLength]
  split <;> omega

/-- From a pair on the scan visits this pair and then the others. -/
lemma run_avpPass_eq {α : Type*} {value : (code length ptr : ℕ) → Option (Scan α)} {buff : Mem}
    {as : List WireAvp} {o : ℕ} (h : (buff.view o).Starts (as.flatMap WireAvp.bytes)) {n : ℕ}
    (hn : (as.flatMap WireAvp.bytes).length < n) :
    WhileLoop.run (avpPass (o + (as.flatMap WireAvp.bytes).length) value buff) n o =
      some (scanList value o as) := by
  induction as generalizing o n with
  | nil =>
    obtain ⟨n, rfl⟩ := Nat.exists_eq_succ_of_ne_zero (Nat.ne_zero_of_lt hn)
    have hpass : avpPass o value buff o = .inr .notFound := if_neg (lt_irrefl o)
    exact WhileLoop.run_succ_of_exit hpass n
  | cons a as ih =>
    rw [List.flatMap_cons] at h hn ⊢
    rw [List.length_append] at hn ⊢
    have ha := a.eight_le_length_bytes
    obtain ⟨n, rfl⟩ := Nat.exists_eq_succ_of_ne_zero (Nat.ne_zero_of_lt hn)
    have hin : o < o + (a.bytes.length + (as.flatMap WireAvp.bytes).length) := by omega
    cases hvalue : value a.code a.avpLength (o + 8) with
    | some r =>
      rw [scanList, hvalue, Option.getD_some]
      refine WhileLoop.run_succ_of_exit ?_ n
      simp only [avpPass, if_pos hin, WireAvp.u32_eq h, WireAvp.u24_eq h, hvalue]
    | none =>
      have hpass : avpPass (o + (a.bytes.length + (as.flatMap WireAvp.bytes).length)) value buff o =
          .inl (o + a.bytes.length) := by
        simp only [avpPass, if_pos hin, WireAvp.u32_eq h, WireAvp.u24_eq h, hvalue,
          avpLength_padded]
      rw [scanList, hvalue, Option.getD_none, WhileLoop.run_succ_of_continue hpass n,
        ← Nat.add_assoc]
      exact ih (WireAvp.starts_next h) (by omega)

/-- **A scan visits the pairs that tile the message, in their order.** -/
theorem scanAvps_eq_scanList {α : Type*} (value : (code length ptr : ℕ) → Option (Scan α))
    {buff : Mem} {as : List WireAvp}
    (h : (buff.view diameterHeaderLength).Starts (as.flatMap WireAvp.bytes)) :
    scanAvps buff (diameterHeaderLength + (as.flatMap WireAvp.bytes).length) value =
      scanList value diameterHeaderLength as := by
  rw [scanAvps, run_avpPass_eq h (by omega), Option.getD_some]

end DiaProxy
