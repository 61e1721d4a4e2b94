import StTools.DiaProxy.Capabilities

/-!
# Watchdog and disconnect messages

A server thread answers the watchdog and disconnect requests of the server in the buffer they came
in, and makes watchdog requests of its own.  Both builders keep a cursor and a length by hand; the
one for requests copies twelve bytes of an attribute header of which eight count, and writes over
the rest.

The messages are well formed: the pairs tile them, the length field is the number of bytes sent and
a multiple of four, and the pairs hold the configured names (`sendWdrOrDprAnswer_wellFormed`,
`sendWatchdogRequest_wellFormed`).
-/

namespace DiaProxy

/-! ## The builders -/

/-- `topad`: the first number of bytes for which the loop ends. -/
def topad (len : ℕ) : ℕ := ((List.range 4).find? fun i => (len + i) * 8 % 32 = 0).getD 0

/-- `WDA_SIZE`. -/
def wdaSize : ℕ := 12

/-- `WDA_AVPS_GENERIC_LENGTH`. -/
def wdaAvpsGenericLength : ℕ := 8

/-- `WDA`: the pair with the result code 2001. -/
def wda : List UInt8 := [0x00, 0x00, 0x01, 0x0c, 0x40, 0x00, 0x00, 0x0c, 0x00, 0x00, 0x07, 0xd1]

/-- The part of both builders that adds a name at a cursor, with the number of bytes by which the
cursor and the length are advanced.  `value` is what is copied of `avph` behind its first eight
bytes. -/
def putName (avpCode : ℕ) (value : List UInt8) (name : CharArray) (buff : Mem) (pb : ℕ) :
    Mem × ℕ :=
  let len := name.str.length
  let plen := len + topad len
  let avplen := len + wdaAvpsGenericLength
  let buff := buff.write pb (hostUint avpCode ++ 0x40 :: (bigEndian3 avplen ++ value))
  let pb := pb + wdaAvpsGenericLength
  let buff := buff.write pb (List.replicate plen 0)
  (buff.write pb name.str, wdaAvpsGenericLength + plen)

/-- `add_response`, with the cursor of its caller. -/
def addResponse (originHost originRealm : CharArray) (buff : Mem) (pb : ℕ) : Mem × ℕ :=
  let buff := buff.write pb wda
  let pb := pb + wdaSize
  let toret := wdaSize
  let (buff, added) := putName Avps.originHost.value [] originHost buff pb
  let pb := pb + added
  let toret := toret + added
  let (buff, added) := putName Avps.originRealm.value [] originRealm buff pb
  (buff, toret + added)

/-- `generate_wdr`: the whole of `avph` is copied, with the zeros in its last member. -/
def generateWdr (originHost originRealm : CharArray) (buff : Mem) (pb : ℕ) : Mem × ℕ :=
  let (buff, toret) := putName Avps.originHost.value [0, 0, 0, 0] originHost buff pb
  let pb := pb + toret
  let (buff, added) := putName Avps.originRealm.value [0, 0, 0, 0] originRealm buff pb
  (buff, toret + added)

/-- `send_WDR_or_DPR_Answer`: the bytes that are given to `send`.  `buff` is the buffer with the
request. -/
def sendWdrOrDprAnswer (originHost originRealm : CharArray) (buff : Mem) : List UInt8 :=
  let (buff, len) := addResponse originHost originRealm buff diameterHeaderLength
  let ts := len + diameterHeaderLength
  let buff := buff.setByte 4 0x00
  let buff := buff.write 1 (bigEndian3 ts)
  buff.bytes ts

/-- `send_Watchdog_Request`: the bytes that are given to `send`.  The identifiers are random, and
`buff` is what is on the stack. -/
def sendWatchdogRequest (originHost originRealm : CharArray) (hop2hop end2end : UInt32)
    (buff : Mem) : List UInt8 :=
  let buff := (buff.setHop2hop hop2hop).setEnd2end end2end
  let (buff, wdrs) := generateWdr originHost originRealm buff diameterHeaderLength
  let ts := wdrs + diameterHeaderLength
  let buff := buff.setByte 0 0x01
  let buff := buff.write 5 [0x00, 0x01, 0x18]
  let buff := buff.write 8 (hostUint 0)
  let buff := buff.setByte 4 0x80
  let buff := buff.write 1 (bigEndian3 ts)
  buff.bytes ts

/-! ## What the messages should hold -/

/-- The pairs with the names of the proxy. -/
def nameAvps (originHost originRealm : CharArray) : List WireAvp :=
  [ValueFormat.configured.stringAvp .originHost 0x40 originHost,
    ValueFormat.configured.stringAvp .originRealm 0x40 originRealm]

/-- The pair with a result code of success. -/
def successAvp : WireAvp := .ofData 268 0x40 (bigEndian4 2001) (by decide) (by decide)

/-- A message is well formed: it decodes to these pairs and takes a multiple of four bytes. -/
structure WellFormedMessage (msg : List UInt8) (as : List WireAvp) : Prop where
  decodes : DecodesTo msg as
  aligned : msg.length % 4 = 0

/-- The header of an answer is that of its request, with the request flag cleared. -/
structure AnswersTo (request : Mem) (msg : List UInt8) : Prop where
  cmdCode_eq : (Mem.load msg fun _ => 0).cmdCode = request.cmdCode
  hop2hop_eq : (Mem.load msg fun _ => 0).hop2hop = request.hop2hop
  end2end_eq : (Mem.load msg fun _ => 0).end2end = request.end2end
  flags_eq : (Mem.load msg fun _ => 0).flags &&& 0x80 = 0

/-! ## Writing -/

/-- The padding that is computed is the one that is missing. -/
lemma topad_eq (n : ℕ) : topad n = paddingLength n := bytesToPad_eq n

namespace Mem

/-- Only the first part of what was written is looked at. -/
lemma bytes_write_append (m : Mem) (o : ℕ) (l t : List UInt8) :
    (m.write o (l ++ t)).bytes (o + l.length) = m.bytes o ++ l := by
  have hall := m.bytes_write o (l ++ t)
  rw [List.length_append, ← Nat.add_assoc, bytes_add, ← List.append_assoc] at hall
  refine (List.append_inj hall ?_).1
  rw [length_bytes, List.length_append, length_bytes]

/-- What is written over a part of what was just written. -/
lemma write_write (m : Mem) (o : ℕ) (z l : List UInt8) :
    (m.write o z).write o l = m.write o (l ++ z.drop l.length) := by
  funext i
  simp only [write, overlay, load, view]
  by_cases hi : i < o
  · simp only [if_pos hi]
  · simp only [if_neg hi, if_neg (show ¬ o + (i - o) < o by omega), Nat.add_sub_cancel_left]
    by_cases hl : i - o < l.length
    · rw [List.getElem?_append_left hl, List.getElem?_eq_getElem hl, Option.getD_some,
        Option.getD_some]
    · rw [List.getElem?_eq_none (Nat.not_lt.mp hl), Option.getD_none,
        List.getElem?_append_right (Nat.not_lt.mp hl), List.getElem?_drop,
        Nat.add_sub_cancel' (Nat.not_lt.mp hl)]

/-- Behind what is written the memory is what it was. -/
lemma write_of_le {m : Mem} {o i : ℕ} {l : List UInt8} (h : o + l.length ≤ i) :
    m.write o l i = m i := by
  simp only [write, overlay, load, view]
  rw [if_neg (by omega), List.getElem?_eq_none (by omega), Option.getD_none,
    Nat.add_sub_cancel' (by omega)]

/-- What is written is there. -/
lemma view_write_starts (m : Mem) (o : ℕ) (l : List UInt8) : ((m.write o l).view o).Starts l := by
  have hview := view_overlay m (load l (m.view o)) o 0
  rw [Nat.add_zero, view_zero] at hview
  rw [write, hview]
  exact starts_load l _

/-- The bytes of a message are those of the memory it was taken from. -/
lemma load_bytes {m b : Mem} {n i : ℕ} (h : i < n) : load (m.bytes n) b i = m i := by
  rw [load, (m.starts_bytes n) i (by rwa [length_bytes]), Option.getD_some]

end Mem

/-! ## The pairs -/

/-- `as` is what stands behind the first `pb` bytes when a builder is through; `result` has the
memory and the number of bytes that were added. -/
structure Adds (as : List WireAvp) (before : Mem) (pb : ℕ) (result : Mem × ℕ) : Prop where
  length_eq : result.2 = (as.flatMap WireAvp.bytes).length
  bytes_eq : result.1.bytes (pb + result.2) = before.bytes pb ++ as.flatMap WireAvp.bytes

/-- One builder goes on where another one stopped. -/
lemma Adds.append {as bs : List WireAvp} {before : Mem} {pb : ℕ} {first second : Mem × ℕ}
    (h : Adds as before pb first) (h' : Adds bs first.1 (pb + first.2) second) :
    Adds (as ++ bs) before pb (second.1, first.2 + second.2) where
  length_eq := by rw [List.flatMap_append, List.length_append, ← h.length_eq, ← h'.length_eq]
  bytes_eq := by
    rw [← Nat.add_assoc, h'.bytes_eq, h.bytes_eq, List.flatMap_append, List.append_assoc]

/-- In front of what is added the memory is what it was. -/
lemma Adds.apply_eq {as : List WireAvp} {before : Mem} {pb i : ℕ} {result : Mem × ℕ}
    (h : Adds as before pb result) (hi : i < pb) : result.1 i = before i := by
  have hbytes := h.bytes_eq
  rw [Mem.bytes_add] at hbytes
  have hfront := (List.append_inj hbytes (by rw [Mem.length_bytes, Mem.length_bytes])).1
  calc result.1 i = Mem.load (result.1.bytes pb) (fun _ => 0) i := (Mem.load_bytes hi).symm
    _ = before i := by rw [hfront, Mem.load_bytes hi]

/-- What is added is seen from the cursor on. -/
lemma Adds.view_bytes {as : List WireAvp} {before : Mem} {pb : ℕ} {result : Mem × ℕ}
    (h : Adds as before pb result) :
    (result.1.view pb).bytes result.2 = as.flatMap WireAvp.bytes := by
  have hbytes := h.bytes_eq
  rw [Mem.bytes_add] at hbytes
  exact (List.append_inj hbytes (by rw [Mem.length_bytes, Mem.length_bytes])).2

/-- A name is added as a pair. -/
lemma putName_adds (avp : Avps) (value : List UInt8) (name : CharArray) (buff : Mem) (pb : ℕ) :
    Adds [ValueFormat.configured.stringAvp avp 0x40 name] buff pb
      (putName avp.value value name buff pb) := by
  -- the header, the name and the zeros behind it
  let head := hostUint avp.value ++ 0x40 :: bigEndian3 (name.str.length + 8)
  let padded := name.str ++ List.replicate (paddingLength name.str.length) 0
  have hpair : (ValueFormat.configured.stringAvp avp 0x40 name).bytes = head ++ padded := by
    rw [ValueFormat.stringAvp, WireAvp.bytes_ofData, ← hostUint_value, Nat.add_comm 8]
    simp [head, padded, ValueFormat.configured]
  have hbuff : (putName avp.value value name buff pb).1 =
      (buff.write pb (head ++ value)).write (pb + head.length) padded := by
    have hzeros : (List.replicate (name.str.length + topad name.str.length) (0 : UInt8)).drop
        name.str.length = List.replicate (paddingLength name.str.length) 0 := by
      rw [List.drop_replicate, Nat.add_sub_cancel_left, topad_eq]
    unfold putName
    dsimp only
    rw [Mem.write_write, hzeros]
    simp [head, padded, wdaAvpsGenericLength, hostUint, bigEndian3]
  have hadded : (putName avp.value value name buff pb).2 = head.length + padded.length := by
    unfold putName
    dsimp only
    rw [topad_eq]
    simp [head, padded, wdaAvpsGenericLength, hostUint, bigEndian3]
  have hbytes := (buff.write pb (head ++ value)).bytes_write (pb + head.length) padded
  rw [Mem.bytes_write_append] at hbytes
  constructor
  · rw [List.flatMap_singleton, hpair, List.length_append, hadded]
  · rw [List.flatMap_singleton, hpair, hbuff, hadded, ← Nat.add_assoc, hbytes, List.append_assoc]

/-- `add_response` puts a result code and the names. -/
lemma addResponse_adds (originHost originRealm : CharArray) (buff : Mem) (pb : ℕ) :
    Adds (successAvp :: nameAvps originHost originRealm) buff pb
      (addResponse originHost originRealm buff pb) := by
  have hcode : Adds [successAvp] buff pb (buff.write pb wda, wdaSize) := by
    constructor
    · rfl
    · exact buff.bytes_write pb wda
  have hhost := putName_adds .originHost [] originHost (buff.write pb wda) (pb + wdaSize)
  have hall := hcode.append (hhost.append (putName_adds .originRealm [] originRealm _ _))
  rw [← Nat.add_assoc] at hall
  exact hall

/-- `generate_wdr` puts the names. -/
lemma generateWdr_adds (originHost originRealm : CharArray) (buff : Mem) (pb : ℕ) :
    Adds (nameAvps originHost originRealm) buff pb (generateWdr originHost originRealm buff pb) :=
  (putName_adds .originHost [0, 0, 0, 0] originHost buff pb).append
    (putName_adds .originRealm [0, 0, 0, 0] originRealm _ _)

/-! ## The messages -/

/-- Pairs take a multiple of four bytes. -/
lemma length_flatMap_bytes_mod (as : List WireAvp) :
    (as.flatMap WireAvp.bytes).length % 4 = 0 := by
  induction as with
  | nil => rfl
  | cons a as ih =>
    rw [List.flatMap_cons, List.length_append, a.length_bytes, WireAvp.avpLength, paddingLength]
    omega

/-- The length that is put into the header is read back. -/
lemma length_write {ts : ℕ} (h : ts < 16777216) (m : Mem) :
    (m.write 1 (bigEndian3 ts)).length = ts := by
  have hstarts := m.view_write_starts 1 (bigEndian3 ts)
  rw [← List.append_nil (bigEndian3 ts)] at hstarts
  exact hstarts.u24_eq h

/-- A message whose header was finished behind the back of a builder is well formed. -/
lemma Adds.wellFormedMessage {as : List WireAvp} {before m : Mem} {built : Mem × ℕ}
    (h : Adds as before diameterHeaderLength built)
    (hbody : ∀ i, diameterHeaderLength ≤ i → m i = built.1 i)
    (hlength : m.length = built.2 + diameterHeaderLength) :
    WellFormedMessage (m.bytes (built.2 + diameterHeaderLength)) as := by
  have hview : m.view diameterHeaderLength = built.1.view diameterHeaderLength :=
    funext fun i => hbody _ (Nat.le_add_right _ i)
  have hbytes : m.bytes (built.2 + diameterHeaderLength) =
      m.bytes diameterHeaderLength ++ as.flatMap WireAvp.bytes := by
    rw [Nat.add_comm, Mem.bytes_add, hview, h.view_bytes]
  refine ⟨⟨?_, _, m.length_bytes _, hbytes⟩, ?_⟩
  · rw [Mem.length_bytes]
    refine (Mem.u24_congr fun j _ hj => Mem.load_bytes ?_).trans hlength
    exact hj.trans_le (show 1 + 3 ≤ built.2 + 20 by omega)
  · have hmod := length_flatMap_bytes_mod as
    rw [← h.length_eq] at hmod
    rw [Mem.length_bytes, diameterHeaderLength]
    omega

/-- The pairs are short enough for the length field. -/
lemma Adds.length_lt {as : List WireAvp} {before : Mem} {pb : ℕ} {built : Mem × ℕ}
    (h : Adds as before pb built) (has : ∀ a ∈ as, a.data.length ≤ 200) (hlen : as.length ≤ 3) :
    built.2 + diameterHeaderLength < 16777216 := by
  have hle := length_flatMap_bytes_le has
  rw [← h.length_eq] at hle
  rw [diameterHeaderLength]
  omega

/-- A name fits its array, and so does a result code. -/
lemma length_data_le (originHost originRealm : CharArray) :
    ∀ a ∈ successAvp :: nameAvps originHost originRealm, a.data.length ≤ 200 := by
  intro a ha
  simp only [nameAvps, List.mem_cons, List.not_mem_nil, or_false] at ha
  rcases ha with rfl | rfl | rfl
  · decide
  · exact originHost.length_str_le
  · exact originRealm.length_str_le

/-- The answer to a watchdog or disconnect request is well formed. -/
lemma sendWdrOrDprAnswer_wellFormed (originHost originRealm : CharArray) (buff : Mem) :
    WellFormedMessage (sendWdrOrDprAnswer originHost originRealm buff)
      (successAvp :: nameAvps originHost originRealm) := by
  have hadds := addResponse_adds originHost originRealm buff diameterHeaderLength
  have hlt := hadds.length_lt (length_data_le originHost originRealm) (Nat.le_refl 3)
  unfold sendWdrOrDprAnswer
  generalize addResponse originHost originRealm buff diameterHeaderLength = built at hadds hlt
  refine hadds.wellFormedMessage (fun i hi => ?_) (length_write hlt _)
  have hi' : 20 ≤ i := hi
  rw [Mem.write_of_le (show 1 + 3 ≤ i by omega), Mem.setByte, if_neg (by omega)]

/-- A watchdog request is well formed. -/
lemma sendWatchdogRequest_wellFormed (originHost originRealm : CharArray)
    (hop2hop end2end : UInt32) (buff : Mem) :
    WellFormedMessage (sendWatchdogRequest originHost originRealm hop2hop end2end buff)
      (nameAvps originHost originRealm) := by
  have hadds := generateWdr_adds originHost originRealm
    ((buff.setHop2hop hop2hop).setEnd2end end2end) diameterHeaderLength
  have hlt := hadds.length_lt (fun a ha => length_data_le originHost originRealm a
    (List.mem_cons_of_mem _ ha)) (show 2 ≤ 3 by decide)
  unfold sendWatchdogRequest
  dsimp only
  generalize generateWdr originHost originRealm ((buff.setHop2hop hop2hop).setEnd2end end2end)
    diameterHeaderLength = built at hadds hlt
  refine hadds.wellFormedMessage (fun i hi => ?_) (length_write hlt _)
  have hi' : 20 ≤ i := hi
  rw [Mem.write_of_le (show 1 + 3 ≤ i by omega), Mem.setByte, if_neg (by omega),
    Mem.write_of_le (show 8 + 4 ≤ i by omega), Mem.write_of_le (show 5 + 3 ≤ i by omega),
    Mem.setByte, if_neg (by omega)]

/-- The answer has the header of the request in the buffer. -/
lemma sendWdrOrDprAnswer_answersTo (originHost originRealm : CharArray) (buff : Mem) :
    AnswersTo buff (sendWdrOrDprAnswer originHost originRealm buff) := by
  have hadds := addResponse_adds originHost originRealm buff diameterHeaderLength
  unfold sendWdrOrDprAnswer
  dsimp only
  generalize addResponse originHost originRealm buff diameterHeaderLength = built at hadds
  -- the header is read from the memory that is sent
  set sent := (built.1.setByte 4 0).write 1 (bigEndian3 (built.2 + diameterHeaderLength))
    with hsent
  have hload : ∀ i < 20, Mem.load (sent.bytes (built.2 + diameterHeaderLength)) (fun _ => 0) i =
      sent i :=
    fun i hi => Mem.load_bytes (hi.trans_le (Nat.le_add_left 20 built.2))
  have hkept : ∀ i, 5 ≤ i → i < 20 →
      Mem.load (sent.bytes (built.2 + diameterHeaderLength)) (fun _ => 0) i = buff i := by
    intro i hle hlt
    rw [hload i hlt, hsent, Mem.write_of_le (show 1 + 3 ≤ i by omega), Mem.setByte,
      if_neg (by omega), hadds.apply_eq hlt]
  have huint : ∀ i, 5 ≤ i → i + 4 ≤ 20 →
      (Mem.load (sent.bytes (built.2 + diameterHeaderLength)) (fun _ => 0)).uint i =
        buff.uint i := by
    intro i hle hlt
    simp only [Mem.uint, hkept i hle (by omega), hkept (i + 1) (by omega) (by omega),
      hkept (i + 2) (by omega) (by omega), hkept (i + 3) (by omega) (by omega)]
  have hflags : (Mem.load (sent.bytes (built.2 + diameterHeaderLength)) fun _ => 0).flags = 0 := by
    rw [Mem.flags, hload 4 (by decide), hsent, Mem.write_of_le (show 1 + 3 ≤ 4 by decide),
      Mem.setByte, if_pos rfl]
  constructor
  · exact Mem.u24_congr fun j hle hlt => hkept j hle (by omega)
  · exact huint 12 (by decide) (by decide)
  · exact huint 16 (by decide) (by decide)
  · rw [hflags]
    rfl

/-- **The watchdog and disconnect messages of the proxy are well formed**, whatever its names and
the requests are. -/
theorem watchdogMessages_wellFormed (originHost originRealm : CharArray) :
    (∀ buff : Mem,
      WellFormedMessage (sendWdrOrDprAnswer originHost originRealm buff)
        (successAvp :: nameAvps originHost originRealm) ∧
      AnswersTo buff (sendWdrOrDprAnswer originHost originRealm buff)) ∧
    ∀ (hop2hop end2end : UInt32) (buff : Mem),
      WellFormedMessage (sendWatchdogRequest originHost originRealm hop2hop end2end buff)
        (nameAvps originHost originRealm) :=
  ⟨fun buff => ⟨sendWdrOrDprAnswer_wellFormed originHost originRealm buff,
      sendWdrOrDprAnswer_answersTo originHost originRealm buff⟩,
    sendWatchdogRequest_wellFormed originHost originRealm⟩

end DiaProxy
