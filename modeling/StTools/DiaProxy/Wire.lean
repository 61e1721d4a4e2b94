import StTools.Lib.WhileLoop
import StTools.Lib.Framing
import Mathlib.Algebra.Order.Group.Nat

/-!
# Diameter messages in memory

The proxy looks at a message through a pointer into a larger buffer, and some of its reads go
past the bytes that belong to the message.  `Mem` is the memory from such a pointer on.  This
module has the reads and writes the proxy makes through it: the header fields, the length field,
and the scan for an attribute-value pair.

The header of twenty bytes holds, from its start: the version, the length in three bytes, the
flags, the command code in three bytes, the application id in four, and then the hop-by-hop and
end-to-end identifiers, which the proxy reads and writes as integers of the host
(least significant byte first).
-/

namespace DiaProxy

/-- `DIAMETER_HEADER_LENGTH`. -/
def diameterHeaderLength : ℕ := 20

/-- Memory from an address on. -/
abbrev Mem := ℕ → UInt8

namespace Mem

/-! ## Views, copies and reads -/

/-- The memory from an offset on. -/
def view (m : Mem) (o : ℕ) : Mem := fun i => m (o + i)

/-- Replace the memory from an offset on. -/
def overlay (m : Mem) (o : ℕ) (v : Mem) : Mem := fun i => if i < o then m i else v (i - o)

/-- Put bytes at the start of a memory. -/
def load (l : List UInt8) (behind : Mem) : Mem := fun i => (l[i]?).getD (behind i)

/-- The first `n` bytes. -/
def bytes (m : Mem) (n : ℕ) : List UInt8 := (List.range n).map m

/-- A big-endian number of three bytes. -/
def u24 (m : Mem) (i : ℕ) : ℕ :=
  (m i).toNat * 65536 + (m (i + 1)).toNat * 256 + (m (i + 2)).toNat

/-- A big-endian number of four bytes. -/
def u32 (m : Mem) (i : ℕ) : ℕ := (m i).toNat * 16777216 + m.u24 (i + 1)

/-- An `unsigned int` of the host, least significant byte first. -/
def uint (m : Mem) (i : ℕ) : UInt32 :=
  .ofNat ((m i).toNat + (m (i + 1)).toNat * 256 + (m (i + 2)).toNat * 65536 +
    (m (i + 3)).toNat * 16777216)

/-- Write an `unsigned int` of the host. -/
def setUint (m : Mem) (i : ℕ) (v : UInt32) : Mem := fun j =>
  if j < i ∨ i + 4 ≤ j then m j else .ofNat (v.toNat / 256 ^ (j - i))

/-- Write one byte. -/
def setByte (m : Mem) (i : ℕ) (v : UInt8) : Mem := fun j => if j = i then v else m j

/-- `head->length`. -/
def length (m : Mem) : ℕ := m.u24 1

/-- `head->flags`. -/
def flags (m : Mem) : UInt8 := m 4

/-- `head->cmd_code`. -/
def cmdCode (m : Mem) : ℕ := m.u24 5

/-- The application id, read as `head->cmd_code[3]` to `head->cmd_code[6]`. -/
def appId (m : Mem) : ℕ := m.u32 8

/-- `head->hop2hop`. -/
def hop2hop (m : Mem) : UInt32 := m.uint 12

/-- `head->end2end`. -/
def end2end (m : Mem) : UInt32 := m.uint 16

/-- Assign `head->hop2hop`. -/
def setHop2hop (m : Mem) (v : UInt32) : Mem := m.setUint 12 v

/-- Assign `head->end2end`. -/
def setEnd2end (m : Mem) (v : UInt32) : Mem := m.setUint 16 v

/-- The memory starts with these bytes. -/
def Starts (m : Mem) (l : List UInt8) : Prop := ∀ i < l.length, l[i]? = some (m i)

variable {m b : Mem} {l t : List UInt8}

/-- What is put at the start of a memory is there. -/
lemma starts_load (l : List UInt8) (b : Mem) : (load l b).Starts l := by
  intro i hi
  simp [load, List.getElem?_eq_getElem hi]

/-- Behind the bytes put at the start, the memory is what it was. -/
lemma load_of_le {i : ℕ} (h : l.length ≤ i) : load l b i = b i := by
  simp [load, List.getElem?_eq_none h]

/-- The memory starts with the bytes that are read from it. -/
lemma starts_bytes (m : Mem) (n : ℕ) : m.Starts (m.bytes n) := by
  intro i hi
  have hn : i < n := by simpa [bytes] using hi
  simp [bytes, hn]

/-- The bytes a memory starts with are the ones that are read. -/
lemma Starts.bytes_eq (h : m.Starts l) : m.bytes l.length = l := by
  refine List.ext_getElem? fun i => ?_
  by_cases hi : i < l.length
  · rw [h i hi]
    simp [bytes, hi]
  · simp [bytes, hi]

/-- As many bytes are read as asked for. -/
@[simp] lemma length_bytes (m : Mem) (n : ℕ) : (m.bytes n).length = n := by simp [bytes]

/-- The first part of what a memory starts with. -/
lemma Starts.left (h : m.Starts (l ++ t)) : m.Starts l := by
  intro i hi
  have hlt := h i (by rw [List.length_append]; omega)
  rwa [List.getElem?_append_left hi] at hlt

/-- The second part of what a memory starts with, seen from its own start. -/
lemma Starts.right (h : m.Starts (l ++ t)) : (m.view l.length).Starts t := by
  intro i hi
  have hlt := h (l.length + i) (by rw [List.length_append]; omega)
  rwa [List.getElem?_append_right (by omega), Nat.add_sub_cancel_left] at hlt

/-- A memory that agrees with another on the bytes it starts with starts with them too. -/
lemma Starts.congr (h : m.Starts l) (hb : ∀ i < l.length, b i = m i) : b.Starts l := by
  intro i hi
  rw [h i hi, hb i hi]

/-- Two views make one. -/
lemma view_view (m : Mem) (o o' : ℕ) : (m.view o).view o' = m.view (o + o') := by
  funext i
  simp [view, Nat.add_assoc]

/-- A view of a memory that was replaced from an offset on. -/
lemma view_overlay (m v : Mem) (o o' : ℕ) : (m.overlay o v).view (o + o') = v.view o' := by
  funext i
  simp only [view, overlay]
  rw [if_neg (by omega)]
  congr 1
  omega

/-- Numbers of three bytes are read from three bytes. -/
lemma u24_congr {i : ℕ} (h : ∀ j, i ≤ j → j < i + 3 → m j = b j) : m.u24 i = b.u24 i := by
  unfold u24
  rw [h i (by omega) (by omega), h (i + 1) (by omega) (by omega), h (i + 2) (by omega) (by omega)]

/-- An integer that was written is read back. -/
@[simp] lemma uint_setUint_self (m : Mem) (i : ℕ) (v : UInt32) : (m.setUint i v).uint i = v := by
  have hv : v.toNat < 4294967296 := v.toNat_lt
  have hbyte : ∀ k < 4, (m.setUint i v (i + k)).toNat = v.toNat / 256 ^ k % 256 := by
    intro k hk
    unfold setUint
    rw [if_neg (by omega), Nat.add_sub_cancel_left, UInt8.toNat_ofNat']
  have h0 := hbyte 0 (by omega)
  have h1 := hbyte 1 (by omega)
  have h2 := hbyte 2 (by omega)
  have h3 := hbyte 3 (by omega)
  simp only [Nat.add_zero, Nat.pow_zero, Nat.div_one, Nat.pow_one, Nat.reducePow] at h0 h1 h2 h3
  unfold uint
  rw [h0, h1, h2, h3]
  apply UInt32.toNat_inj.mp
  rw [UInt32.toNat_ofNat']
  omega

/-- Writing an integer leaves one that lies apart. -/
lemma uint_setUint_of_disjoint {i j : ℕ} (h : j + 4 ≤ i ∨ i + 4 ≤ j) (m : Mem) (v : UInt32) :
    (m.setUint i v).uint j = m.uint j := by
  have hbyte : ∀ k < 4, m.setUint i v (j + k) = m (j + k) := by
    intro k hk
    unfold setUint
    rw [if_pos (by omega)]
  unfold uint
  rw [← Nat.add_zero j, hbyte 0 (by omega), Nat.add_zero, hbyte 1 (by omega), hbyte 2 (by omega),
    hbyte 3 (by omega)]

@[simp] lemma hop2hop_setHop2hop (m : Mem) (v : UInt32) : (m.setHop2hop v).hop2hop = v :=
  uint_setUint_self m 12 v

@[simp] lemma end2end_setEnd2end (m : Mem) (v : UInt32) : (m.setEnd2end v).end2end = v :=
  uint_setUint_self m 16 v

@[simp] lemma hop2hop_setEnd2end (m : Mem) (v : UInt32) :
    (m.setEnd2end v).hop2hop = m.hop2hop := uint_setUint_of_disjoint (by omega) m v

@[simp] lemma end2end_setHop2hop (m : Mem) (v : UInt32) :
    (m.setHop2hop v).end2end = m.end2end := uint_setUint_of_disjoint (by omega) m v

/-- Writing the identifiers changes the bytes 12 to 19 only. -/
lemma setEnd2end_setHop2hop_apply (m : Mem) (v w : UInt32) {i : ℕ} (h : i < 12 ∨ 20 ≤ i) :
    (m.setEnd2end v).setHop2hop w i = m i := by
  simp only [setHop2hop, setEnd2end, setUint]
  rw [if_pos (by omega), if_pos (by omega)]

end Mem

/-! ## Frames -/

/-- The bytes that the size of a message is read from. -/
lemma headerSize_pos : 0 < 4 := by decide

/-- Diameter messages as frames: the size of a message is in its bytes 1 to 3. -/
def diameterFrame : FrameRule UInt8 where
  header := 4
  size l := (Mem.load l fun _ => 0).length
  header_pos := headerSize_pos
  size_append := by
    intro l t hl
    refine Mem.u24_congr fun j hj hj' => ?_
    simp only [Mem.load]
    rw [List.getElem?_append_left (by omega)]

/-- The length field that is read from memory is that of the message the memory starts with. -/
lemma Mem.Starts.length_eq {m : Mem} {l : List UInt8} (h : m.Starts l) (hl : 4 ≤ l.length) :
    m.length = diameterFrame.size l := by
  refine Mem.u24_congr fun j hj hj' => ?_
  have hj'' : j < l.length := by omega
  simp [Mem.load, h j hj'']

/-- A well-formed Diameter message: the length field is the number of bytes, at least a header
and at most what the buffer holds. -/
def WellFormed (m : List UInt8) : Prop :=
  20 ≤ m.length ∧ m.length ≤ 65535 ∧ diameterFrame.size m = m.length

instance (m : List UInt8) : Decidable (WellFormed m) := inferInstanceAs (Decidable (_ ∧ _))

/-- A well-formed message is a well-formed frame. -/
lemma WellFormed.frame {m : List UInt8} (h : WellFormed m) : diameterFrame.WellFormed m :=
  ⟨le_trans (by decide) h.1, h.2.2⟩

/-! ## Attribute-value pairs -/

/-- How a scan for an attribute-value pair ends. -/
inductive Scan (α : Type*)
  /-- The pair was found and its value copied. -/
  | found (value : α)
  /-- There is no such pair. -/
  | notFound
  /-- The value is shorter than the header of its pair: copying it throws. -/
  | throws
  /-- The scan stays at a pair of length zero for ever. -/
  | loops
  deriving Repr, DecidableEq

/-- One pass of the loop that looks for an attribute-value pair: at `ptr` a pair starts, whose
code has four bytes and whose length three.  `value` says what is taken from a pair with a code
and a length; other pairs are skipped with the padding to a multiple of four. -/
def avpPass {α : Type*} (messageLength : ℕ) (value : (code length ptr : ℕ) → Option (Scan α))
    (buff : Mem) (ptr : ℕ) : ℕ ⊕ Scan α :=
  if ptr < messageLength then
    let code := buff.u32 ptr
    let avpLength := buff.u24 (ptr + 5)
    match value code avpLength (ptr + 8) with
    | some r => .inr r
    | none => .inl (ptr + if avpLength % 4 ≠ 0 then avpLength + 4 - avpLength % 4 else avpLength)
  else .inr .notFound

/-- The scan from the end of the header on.  Every pass that does not stay where it is moves
ahead, so a scan that takes more passes than there are bytes never ends. -/
def scanAvps {α : Type*} (buff : Mem) (messageLength : ℕ)
    (value : (code length ptr : ℕ) → Option (Scan α)) : Scan α :=
  (WhileLoop.run (avpPass messageLength value buff) (messageLength + 1)
    diameterHeaderLength).getD .loops

/-- `extractAVP`: the value of the first pair with this code. -/
def extractAVP (buff : Mem) (messageLength code : ℕ) : Scan (List UInt8) :=
  scanAvps buff messageLength fun avpCode avpLength ptr =>
    if avpCode = code then
      some (if avpLength < 8 then .throws else .found ((buff.view ptr).bytes (avpLength - 8)))
    else none

/-- The scan did not come to a result: it throws, or it never ends. -/
def Scan.fails {α : Type*} : Scan α → Bool
  | .found _ => false
  | .notFound => false
  | .throws => true
  | .loops => true

/-- `RESULTCODE_CODE`. -/
def resultCodeCode : ℕ := 268

/-- `EXPERIMENTAL_RESULTCODE_CODE`. -/
def experimentalResultCodeCode : ℕ := 297

/-- `extractResultCodeAVP`: the result code, or the one inside an experimental result. -/
def extractResultCodeAVP (buff : Mem) (messageLength : ℕ) : Scan ℕ :=
  scanAvps buff messageLength fun avpCode _ ptr =>
    if avpCode = resultCodeCode then some (.found (buff.u32 ptr))
    else if avpCode = experimentalResultCodeCode then some (.found (buff.u32 (ptr + 20)))
    else none

/-- The scan reports `loops` only when its loop is never left. -/
theorem scanAvps_none_diverges {α : Type*} {buff : Mem} {messageLength : ℕ}
    {value : (code length ptr : ℕ) → Option (Scan α)}
    (h : WhileLoop.run (avpPass messageLength value buff) (messageLength + 1)
      diameterHeaderLength = none) :
    WhileLoop.Diverges (avpPass messageLength value buff) diameterHeaderLength := by
  -- a pass that does not stay where it is leaves fewer bytes for the passes that remain
  suffices hgen : ∀ n ptr, messageLength - ptr < n →
      WhileLoop.run (avpPass messageLength value buff) n ptr = none →
      WhileLoop.Diverges (avpPass messageLength value buff) ptr from
    hgen _ _ (by omega) h
  intro n
  induction n with
  | zero => intro ptr hlt _; omega
  | succ n ih =>
    intro ptr hlt hnone
    cases hpass : avpPass messageLength value buff ptr with
    | inr r => rw [WhileLoop.run_succ_of_exit hpass] at hnone; cases hnone
    | inl ptr' =>
      rw [WhileLoop.run_succ_of_continue hpass] at hnone
      have hin : ptr < messageLength ∧ ptr ≤ ptr' := by
        unfold avpPass at hpass
        split at hpass
        · rename_i hptr
          refine ⟨hptr, ?_⟩
          dsimp only at hpass
          split at hpass
          · cases hpass
          · simp only [Sum.inl.injEq] at hpass
            omega
        · cases hpass
      rcases Nat.eq_or_lt_of_le hin.2 with hstay | hmove
      · subst hstay
        exact WhileLoop.diverges_of_invariant (I := fun q => q = ptr)
          (fun q hq => ⟨ptr, by rw [hq]; exact hpass, rfl⟩) rfl
      · have hdiv := ih ptr' (by omega) hnone
        intro k
        cases k with
        | zero => rfl
        | succ k => rw [WhileLoop.run_succ_of_continue hpass]; exact hdiv k

end DiaProxy
