import StTools.DiaProxy.Avp
import StTools.ScenarioDeployGenerator.Text

/-!
# The messages the proxy builds

For every server connection the proxy builds a capabilities-exchange request and a
disconnect-peer request.  The class `AVP` has one constructor for strings and addresses, one for
values of a fixed length and one for groups; `DiaMessage` appends the pairs to a buffer of zeros
and writes the length into the header at the end.

Whatever the configuration is, the pairs tile the message and the length field is right
(`createCER_decodes`, `createDPR_decodes`).  What the pairs hold is the configuration, except that
the constructor for strings takes eight bytes from a string with fewer than four, and that
`int2hex` writes the upper bytes of a negative number wrong; `cerAndDpr_decode_iff` says exactly
when both messages decode to the configuration.
-/

namespace DiaProxy

/-! ## Integers -/

/-- `int2hex`: the last byte is a remainder and the others are quotients, both of which C rounds
toward zero. -/
def int2hex (number : ℤ) (size : ℕ) : List UInt8 :=
  (List.range size).map fun i =>
    if i = size - 1 then .ofInt (number.tmod 256)
    else .ofInt (number.tdiv (256 ^ (size - 1 - i)))

/-- The number whose four bytes represent an `int`. -/
def twosComplement (id : Int32) : ℕ := (id.toInt % 4294967296).toNat

/-- `int2hex` is right for this `int`. -/
def HexExact (id : Int32) : Prop := 0 ≤ id.toInt ∨ 16777216 ∣ id.toInt

instance (id : Int32) : Decidable (HexExact id) := inferInstanceAs (Decidable (_ ∨ _))

/-- A byte made from an `int`. -/
lemma toNat_ofInt (n : ℤ) : (UInt8.ofInt n).toNat = (n % 256).toNat := by
  rw [UInt8.ofInt, UInt8.toNat_ofNat']
  omega

/-- **When an `int` is written right.** -/
theorem int2hex_eq_iff (id : Int32) :
    int2hex id.toInt 4 = bigEndian4 (twosComplement id) ↔ HexExact id := by
  have hlt : id.toInt < 2147483648 := id.toInt_lt
  have hle : -2147483648 ≤ id.toInt := id.le_toInt
  unfold twosComplement HexExact
  generalize id.toInt = n at hlt hle
  have hhex : int2hex n 4 = [.ofInt (n.tdiv 16777216), .ofInt (n.tdiv 65536),
      .ofInt (n.tdiv 256), .ofInt (n.tmod 256)] := rfl
  have hbyte : ∀ (a : ℤ) (k : ℕ), UInt8.ofInt a = UInt8.ofNat k ↔ a % 256 = k % 256 := by
    intro a k
    rw [← UInt8.toNat_inj, toNat_ofInt, UInt8.toNat_ofNat']
    omega
  rw [hhex]
  simp only [bigEndian4, bigEndian3, List.cons.injEq, and_true, hbyte, Int.tdiv_eq_ediv,
    Int.tmod_eq_emod]
  by_cases hn : 0 ≤ n
  · simp only [hn, true_or, if_true, iff_true]
    omega
  · -- a quotient of a negative number is right only when the division is exact
    simp only [hn, false_or]
    constructor
    · rintro ⟨hhigh, -, -, -⟩
      by_contra hdvd
      rw [if_neg hdvd, show Int.sign 16777216 = 1 from rfl] at hhigh
      omega
    · intro h
      have h₂ : (65536 : ℤ) ∣ n := Int.dvd_trans (by decide) h
      have h₁ : (256 : ℤ) ∣ n := Int.dvd_trans (by decide) h
      simp only [h, h₂, h₁, if_true]
      omega

/-- `str2int`. -/
def str2int (str : List Char) : ℤ := ScenarioDeployGenerator.atoi str

/-- The unsigned number in some bytes, most significant first. -/
def unsigned (b : List UInt8) : ℕ := b.foldl (fun n x => 256 * n + x.toNat) 0

/-- Four bytes are determined by their number. -/
lemma unsigned_eq_iff {b : List UInt8} {n : ℕ} (hb : b.length = 4) (hn : n < 4294967296) :
    unsigned b = n ↔ b = bigEndian4 n := by
  obtain ⟨b₀, b₁, b₂, b₃, rfl⟩ : ∃ b₀ b₁ b₂ b₃, b = [b₀, b₁, b₂, b₃] := by
    match b, hb with
    | [b₀, b₁, b₂, b₃], _ => exact ⟨b₀, b₁, b₂, b₃, rfl⟩
  have h₀ := b₀.toNat_lt
  have h₁ := b₁.toNat_lt
  have h₂ := b₂.toNat_lt
  have h₃ := b₃.toNat_lt
  simp only [unsigned, List.foldl, bigEndian4, bigEndian3, List.cons.injEq, and_true,
    ← UInt8.toNat_inj, UInt8.toNat_ofNat']
  omega

/-- The number that is written for an `int`. -/
lemma unsigned_int2hex_eq_iff (n : Int32) :
    unsigned (int2hex n.toInt 4) = twosComplement n ↔ HexExact n := by
  have hlt : twosComplement n < 4294967296 := by
    rw [twosComplement]
    omega
  rw [unsigned_eq_iff rfl hlt, int2hex_eq_iff]

/-- The `int` of a configured id, which `atoi` reads as a `long`. -/
lemma str2int_toDigits (id : ℕ) :
    str2int (Nat.toDigits 10 id) = (min (id : ℤ) (2 ^ 63 - 1) + 2 ^ 31) % 2 ^ 32 - 2 ^ 31 := by
  have h : str2int (Nat.toDigits 10 id ++ []) = _ := ScenarioDeployGenerator.atoi_append (by simp)
  rwa [List.append_nil, ScenarioDeployGenerator.toInt32] at h

/-- The number that is written for an id that `atoi` can read. -/
lemma unsigned_str2int_iff {id : ℕ} (hid : id < 2 ^ 63) :
    unsigned (int2hex (str2int (Nat.toDigits 10 id)) 4) = id % 4294967296 ↔
      id % 4294967296 < 2147483648 ∨ 16777216 ∣ id := by
  set n : Int32 := Int32.ofInt (str2int (Nat.toDigits 10 id)) with hn
  have hstr : str2int (Nat.toDigits 10 id) = (id + 2 ^ 31) % 2 ^ 32 - 2 ^ 31 := by
    rw [str2int_toDigits]
    omega
  have hto : n.toInt = str2int (Nat.toDigits 10 id) := by
    refine Int32.toInt_ofInt_of_le ?_ ?_ <;> omega
  have h := unsigned_int2hex_eq_iff n
  rw [twosComplement, HexExact, hto] at h
  rw [hstr] at h ⊢
  rw [show id % 4294967296 = (((id + 2 ^ 31 : ℤ) % 2 ^ 32 - 2 ^ 31) % 4294967296).toNat by omega, h]
  omega

/-- What is written for a larger id is the number 255. -/
lemma unsigned_str2int_of_le {id : ℕ} (hid : 2 ^ 63 ≤ id) :
    unsigned (int2hex (str2int (Nat.toDigits 10 id)) 4) = 255 := by
  have hstr : str2int (Nat.toDigits 10 id) = -1 := by
    rw [str2int_toDigits]
    omega
  rw [hstr]
  decide

/-- **When the four bytes decode to the number**: for every `int`, and for every configured id. -/
theorem unsigned_int2hex_iff (n : Int32) (id : ℕ) :
    ((unsigned (int2hex n.toInt 4) : ℤ) = n.toInt % 4294967296 ↔ HexExact n) ∧
      (unsigned (int2hex (str2int (Nat.toDigits 10 id)) 4) = id % 4294967296 ↔
        if id < 2 ^ 63 then id % 4294967296 < 2147483648 ∨ 16777216 ∣ id else id % 4294967296 = 255) := by
  constructor
  · rw [← unsigned_int2hex_eq_iff, twosComplement]
    omega
  · split_ifs with hid
    · exact unsigned_str2int_iff hid
    · rw [unsigned_str2int_of_le (Nat.not_lt.mp hid)]
      exact eq_comm

/-- The number -1 is written as 255. -/
theorem not_unsigned_int2hex :
    ¬ ∀ n : Int32, (unsigned (int2hex n.toInt 4) : ℤ) = n.toInt % 4294967296 := by
  intro h
  exact absurd (h (-1)) (by decide)

/-! ## Configuration -/

/-- A character array of the configuration, with a string in it. -/
structure CharArray where
  /-- All bytes of the array. -/
  bytes : List UInt8
  /-- Its size. -/
  length_bytes : bytes.length = 200
  /-- The string in it is terminated. -/
  terminated : 0 ∈ bytes

/-- The string in an array: the bytes before the first zero. -/
def CharArray.str (a : CharArray) : List UInt8 := a.bytes.takeWhile (· ≠ 0)

/-- An address of four bytes. -/
structure IpAddress where
  bytes : List UInt8
  length_bytes : bytes.length = 4

/-- What of `CER_DATA` goes into the messages. -/
structure CapabilitiesData where
  originRealm : CharArray
  productName : CharArray
  hostIpAddress : IpAddress
  ipv6 : Bool
  localaddrV6 : List UInt8
  vendorId : List UInt8
  listOfSupportedVendorIds : List Int32
  listOfAuthApplicationIds : List Int32
  /-- The vendor id and the authentication application id of each entry. -/
  listOfVendorSpecificApplicationIds : List (Int32 × Int32)
  /-- `sin6_addr` has sixteen bytes. -/
  length_localaddrV6 : localaddrV6.length = 16
  /-- `vendor_id` has four bytes. -/
  length_vendorId : vendorId.length = 4
  /-- The array of supported vendor ids has ten entries. -/
  supportedVendorIds_le : listOfSupportedVendorIds.length ≤ 10
  /-- The array of application ids has ten entries. -/
  authApplicationIds_le : listOfAuthApplicationIds.length ≤ 10
  /-- The array of vendor specific application ids has room for ten pairs. -/
  vendorSpecificApplicationIds_le : listOfVendorSpecificApplicationIds.length ≤ 10

/-! ## The class `AVP` -/

/-- The bytes of an `unsigned int` of the host. -/
def hostUint (n : ℕ) : List UInt8 :=
  [.ofNat n, .ofNat (n / 256), .ofNat (n / 65536), .ofNat (n / 16777216)]

/-- `bytes_to_pad`: the first number of bytes for which the loop ends. -/
def bytesToPad (len : ℕ) : ℕ :=
  ((List.range 4).find? fun i => (len + i) * 8 % 32 = 0).getD 0

/-- Put bytes into a memory from an offset on. -/
def Mem.write (m : Mem) (o : ℕ) (l : List UInt8) : Mem := m.overlay o (Mem.load l (m.view o))

/-- The members of `AVP`. -/
structure AVP where
  /-- `header.avp_code`, an integer of the host. -/
  avpCode : ℕ
  /-- `header.flags`. -/
  flags : UInt8
  /-- `header.avp_len`. -/
  avpLen : List UInt8
  dataLength : ℕ
  totalLength : ℕ
  offset : ℕ
  dataHead : Mem

namespace AVP

/-- The end of the constructors for strings, addresses and values of a fixed length. -/
def ofData (avpCode : ℕ) (flags : UInt8) (dataLength : ℕ) (dataHead : Mem) : AVP where
  avpCode := avpCode
  flags := flags
  avpLen := bigEndian3 (8 + dataLength)
  dataLength := dataLength
  totalLength := 8 + dataLength + bytesToPad dataLength
  offset := 0
  dataHead := dataHead

/-- The constructor for strings: a string with fewer than four bytes is copied with what stands
behind it, as many bytes as a pointer has. -/
def ofString (avpCode : ℕ) (flags : UInt8) (avpData : CharArray) : AVP :=
  let dataLength := avpData.str.length
  if dataLength < 4 then ofData avpCode flags 8 (Mem.load (avpData.bytes.take 8) fun _ => 0)
  else ofData avpCode flags dataLength (Mem.load avpData.str fun _ => 0)

/-- `is_void`: the sum of the bytes, which are signed. -/
def isVoid (ipAddress : IpAddress) : Bool :=
  (ipAddress.bytes.map fun b => b.toInt8.toInt).sum = 0

/-- The constructor for an address of four bytes; `hostAddress` is what
`initialize_ip_address` finds out about the machine. -/
def ofIpAddress (avpCode : ℕ) (flags : UInt8) (avpData hostAddress : IpAddress) : AVP :=
  let tmpIpAddress := if isVoid avpData then hostAddress else avpData
  ofData avpCode flags 6 (Mem.load (0 :: 1 :: tmpIpAddress.bytes) fun _ => 0)

/-- The constructor for an address of sixteen bytes. -/
def ofIpv6Address (avpCode : ℕ) (flags : UInt8) (avpData : List UInt8) : AVP :=
  ofData avpCode flags 18 (Mem.load (0 :: 2 :: avpData) fun _ => 0)

/-- The constructor for a value with a given length. -/
def ofLength (avpCode : ℕ) (flags : UInt8) (length : ℕ) (avpData : List UInt8) : AVP :=
  ofData avpCode flags length (Mem.load (avpData.take length) fun _ => 0)

/-- The constructor for groups; the data is in memory that was just allocated. -/
def composed (avpCode : ℕ) (flags : UInt8) (dataLength : ℕ) (allocated : Mem) : AVP where
  avpCode := avpCode
  flags := flags
  avpLen := bigEndian3 (dataLength + 8)
  dataLength := 0
  totalLength := 8
  offset := 0
  dataHead := allocated

/-- `get_value`: the bytes that are copied. -/
def getValue (a : AVP) : List UInt8 :=
  hostUint a.avpCode ++ (a.flags :: (a.avpLen ++ a.dataHead.bytes a.dataLength))

/-- `add_sub_attribute`. -/
def addSubAttribute (a sub : AVP) : AVP :=
  let subAvpLength := sub.totalLength
  let nPad := bytesToPad subAvpLength
  let dataLength := a.dataLength + subAvpLength + nPad
  { a with
    dataHead := a.dataHead.write a.offset sub.getValue
    offset := a.offset + (subAvpLength + nPad)
    dataLength := dataLength
    totalLength := 8 + dataLength }

end AVP

/-! ## The class `DiaMessage` -/

/-- The members of `DiaMessage`, with the fields of its header that vary. -/
structure DiaMessage where
  cmdCode₁ : UInt8
  cmdCode₂ : UInt8
  hop2hop : UInt32
  end2end : UInt32
  buffer : Mem
  /-- `data_pointer`, from the start of the buffer. -/
  dataPointer : ℕ

namespace DiaMessage

/-- `head` with a length. -/
def headBytes (m : DiaMessage) (length : ℕ) : List UInt8 :=
  1 :: (bigEndian3 length ++ [0x80, 0, m.cmdCode₁, m.cmdCode₂, 0, 0, 0, 0] ++
    hostUint m.hop2hop.toNat ++ hostUint m.end2end.toNat)

/-- `set_size`. -/
def setSize (m : DiaMessage) (length : ℕ) : DiaMessage :=
  { m with buffer := m.buffer.write 0 (m.headBytes length) }

/-- The constructor; the identifiers are random. -/
def new (hop2hop end2end : UInt32) : DiaMessage :=
  setSize { cmdCode₁ := 0, cmdCode₂ := 0, hop2hop := hop2hop, end2end := end2end,
            buffer := fun _ => 0, dataPointer := diameterHeaderLength } 0

/-- `set_cmd_code`. -/
def setCmdCode (m : DiaMessage) (cmdCode₁ cmdCode₂ : UInt8) : DiaMessage :=
  { m with cmdCode₁ := cmdCode₁, cmdCode₂ := cmdCode₂ }

/-- `addAVP`. -/
def addAVP (m : DiaMessage) (avp : AVP) : DiaMessage :=
  { m with
    buffer := m.buffer.write m.dataPointer avp.getValue
    dataPointer := m.dataPointer + avp.totalLength }

/-- `message`: the bytes that are copied to the caller, as many as `get_size` returns. -/
def message (m : DiaMessage) : List UInt8 :=
  (m.setSize m.dataPointer).buffer.bytes m.dataPointer

end DiaMessage

/-! ## The messages -/

/-- `enum avps`. -/
inductive Avps
  | authApplicationId
  | hostIpAddress
  | originHost
  | disconnectCause
  | originRealm
  | productName
  | supportedVendorId
  | vendorId
  | vendorSpecificApplicationId
  | firmwareRevision

/-- The values of `enum avps`: integers of the host. -/
def Avps.value : Avps → ℕ
  | .authApplicationId => 0x02010000
  | .hostIpAddress => 0x01010000
  | .originHost => 0x08010000
  | .disconnectCause => 0x11010000
  | .originRealm => 0x28010000
  | .productName => 0x0d010000
  | .supportedVendorId => 0x09010000
  | .vendorId => 0x0a010000
  | .vendorSpecificApplicationId => 0x04010000
  | .firmwareRevision => 0x0b010000

/-- A vendor id and an application id as a group: the body of the loop over
`list_of_vendor_specific_application_ids`. -/
def vendorSpecificAVP (allocated : Mem) (ids : Int32 × Int32) : AVP :=
  let subAvp₁ := AVP.ofLength Avps.vendorId.value 0x40 4 (int2hex ids.1.toInt 4)
  let subAvp₂ := AVP.ofLength Avps.authApplicationId.value 0x40 4 (int2hex ids.2.toInt 4)
  let subAttrLen := subAvp₁.totalLength + subAvp₂.totalLength
  ((AVP.composed Avps.vendorSpecificApplicationId.value 0x40 subAttrLen allocated).addSubAttribute
    subAvp₁).addSubAttribute subAvp₂

/-- `createCER`.  `hostAddress` is the address of the machine, `allocated` the memory that
`malloc` returns; the identifiers are random. -/
def createCER (cerdata : CapabilitiesData) (originHost : CharArray) (hostAddress : IpAddress)
    (allocated : Mem) (hop2hop end2end : UInt32) : List UInt8 :=
  let m := (DiaMessage.new hop2hop end2end).setCmdCode 0x01 0x01
  let m := m.addAVP (.ofString Avps.originHost.value 0x40 originHost)
  let m := m.addAVP (.ofString Avps.originRealm.value 0x40 cerdata.originRealm)
  let m := m.addAVP
    (if cerdata.ipv6 then .ofIpv6Address Avps.hostIpAddress.value 0x40 cerdata.localaddrV6
      else .ofIpAddress Avps.hostIpAddress.value 0x40 cerdata.hostIpAddress hostAddress)
  let m := m.addAVP (.ofLength Avps.vendorId.value 0x40 4 cerdata.vendorId)
  let m := m.addAVP (.ofString Avps.productName.value 0x00 cerdata.productName)
  let m := cerdata.listOfSupportedVendorIds.foldl (fun m id =>
    m.addAVP (.ofLength Avps.supportedVendorId.value 0x40 4 (int2hex id.toInt 4))) m
  let m := cerdata.listOfAuthApplicationIds.foldl (fun m id =>
    m.addAVP (.ofLength Avps.authApplicationId.value 0x40 4 (int2hex id.toInt 4))) m
  let m := cerdata.listOfVendorSpecificApplicationIds.foldl (fun m ids =>
    m.addAVP (vendorSpecificAVP allocated ids)) m
  let m := m.addAVP (.ofLength Avps.firmwareRevision.value 0x00 4 (int2hex 1 4))
  m.message

/-- `createDPR`. -/
def createDPR (cerdata : CapabilitiesData) (originHost : CharArray) (hop2hop end2end : UInt32) :
    List UInt8 :=
  let m := (DiaMessage.new hop2hop end2end).setCmdCode 0x01 0x1a
  let m := m.addAVP (.ofString Avps.originHost.value 0x40 originHost)
  let m := m.addAVP (.ofString Avps.originRealm.value 0x40 cerdata.originRealm)
  let m := m.addAVP (.ofLength Avps.disconnectCause.value 0x40 4 (int2hex 2 4))
  m.message

/-! ## What the messages should hold -/

/-- The codes of the pairs, as the protocol numbers them. -/
def Avps.code : Avps → ℕ
  | .authApplicationId => 258
  | .hostIpAddress => 257
  | .originHost => 264
  | .disconnectCause => 273
  | .originRealm => 296
  | .productName => 269
  | .supportedVendorId => 265
  | .vendorId => 266
  | .vendorSpecificApplicationId => 260
  | .firmwareRevision => 267

/-- How strings and integers become values of pairs. -/
structure ValueFormat where
  string : CharArray → List UInt8
  int : Int32 → List UInt8
  /-- Strings are not longer than their arrays. -/
  length_string_le : ∀ a, (string a).length ≤ 200
  /-- Integers have four bytes. -/
  length_int : ∀ id, (int id).length = 4

/-- A string before its end has fewer bytes than its array. -/
lemma CharArray.length_str_le (a : CharArray) : a.str.length ≤ 200 :=
  a.length_bytes ▸ (List.takeWhile_sublist _).length_le

/-- The values of a configuration: the bytes of a string, and an `int` with its most significant
byte first. -/
def ValueFormat.configured : ValueFormat where
  string a := a.str
  int id := bigEndian4 (twosComplement id)
  length_string_le := CharArray.length_str_le
  length_int _ := rfl

/-- The values that the constructors of `AVP` and `int2hex` make of a configuration. -/
def ValueFormat.sent : ValueFormat where
  string a := if a.str.length < 4 then a.bytes.take 8 else a.str
  int id := int2hex id.toInt 4
  length_string_le a := by
    split
    · rw [List.length_take]
      omega
    · exact a.length_str_le
  length_int _ := rfl

namespace ValueFormat

variable (F : ValueFormat)

/-- A pair with a string. -/
def stringAvp (avp : Avps) (flags : UInt8) (a : CharArray) : WireAvp :=
  .ofData avp.code flags (F.string a) (by cases avp <;> decide)
    (by have := F.length_string_le a; omega)

/-- A pair with an integer. -/
def intAvp (avp : Avps) (flags : UInt8) (id : Int32) : WireAvp :=
  .ofData avp.code flags (F.int id) (by cases avp <;> decide) (by rw [F.length_int]; decide)

/-- A pair with an integer takes twelve bytes. -/
lemma length_bytes_intAvp (avp : Avps) (flags : UInt8) (id : Int32) :
    (F.intAvp avp flags id).bytes.length = 12 := by
  rw [WireAvp.length_bytes, WireAvp.avpLength]
  have hdata : (F.intAvp avp flags id).data.length = 4 := F.length_int id
  rw [hdata]
  rfl

/-- A vendor id and an application id as a group. -/
def groupAvp (ids : Int32 × Int32) : WireAvp :=
  .ofData Avps.vendorSpecificApplicationId.code 0x40
    ((F.intAvp .vendorId 0x40 ids.1).bytes ++ (F.intAvp .authApplicationId 0x40 ids.2).bytes)
    (by decide)
    (by rw [List.length_append, length_bytes_intAvp, length_bytes_intAvp]; decide)

/-- The pair with the address of the host: the configured one, unless it counts as void. -/
def hostIpAvp (cerdata : CapabilitiesData) (hostAddress : IpAddress) : WireAvp :=
  let address := if AVP.isVoid cerdata.hostIpAddress then hostAddress else cerdata.hostIpAddress
  .ofData Avps.hostIpAddress.code 0x40
    (if cerdata.ipv6 then 0 :: 2 :: cerdata.localaddrV6 else 0 :: 1 :: address.bytes) (by decide)
    (by
      split
      · rw [List.length_cons, List.length_cons, cerdata.length_localaddrV6]
        decide
      · rw [List.length_cons, List.length_cons, address.length_bytes]
        decide)

/-- The pair with the vendor id of the proxy. -/
def vendorIdAvp (cerdata : CapabilitiesData) : WireAvp :=
  .ofData Avps.vendorId.code 0x40 cerdata.vendorId (by decide)
    (by rw [cerdata.length_vendorId]; decide)

/-- The pairs of a capabilities-exchange request. -/
def cerAvps (cerdata : CapabilitiesData) (originHost : CharArray) (hostAddress : IpAddress) :
    List WireAvp :=
  [F.stringAvp .originHost 0x40 originHost, F.stringAvp .originRealm 0x40 cerdata.originRealm,
    hostIpAvp cerdata hostAddress, vendorIdAvp cerdata,
    F.stringAvp .productName 0x00 cerdata.productName] ++
  cerdata.listOfSupportedVendorIds.map (F.intAvp .supportedVendorId 0x40) ++
  cerdata.listOfAuthApplicationIds.map (F.intAvp .authApplicationId 0x40) ++
  cerdata.listOfVendorSpecificApplicationIds.map F.groupAvp ++
  [F.intAvp .firmwareRevision 0x00 1]

/-- The pairs of a disconnect-peer request. -/
def dprAvps (cerdata : CapabilitiesData) (originHost : CharArray) : List WireAvp :=
  [F.stringAvp .originHost 0x40 originHost, F.stringAvp .originRealm 0x40 cerdata.originRealm,
    F.intAvp .disconnectCause 0x40 2]

end ValueFormat

/-- A message decodes to a list of pairs: its length field is the number of its bytes, and behind
the header the pairs tile it. -/
structure DecodesTo (msg : List UInt8) (as : List WireAvp) : Prop where
  length_eq : (Mem.load msg fun _ => 0).length = msg.length
  tiles : ∃ header, header.length = diameterHeaderLength ∧ msg = header ++ as.flatMap WireAvp.bytes

/-- A message decodes in one way only. -/
lemma DecodesTo.unique {msg : List UInt8} {as bs : List WireAvp} (h : DecodesTo msg as)
    (h' : DecodesTo msg bs) : as = bs := by
  obtain ⟨header, hlen, heq⟩ := h.tiles
  obtain ⟨header', hlen', heq'⟩ := h'.tiles
  have hparts := List.append_inj (heq.symm.trans heq') (hlen.trans hlen'.symm)
  exact WireAvp.flatMap_bytes_injective hparts.2

/-! ## Building a message -/

/-- The pairs that were added to a message so far. -/
structure DiaMessage.Holds (m : DiaMessage) (as : List WireAvp) : Prop where
  /-- The next pair goes behind them. -/
  dataPointer_eq : m.dataPointer = diameterHeaderLength + (as.flatMap WireAvp.bytes).length
  /-- They stand behind the header, and behind them the buffer holds zeros. -/
  view_buffer : m.buffer.view diameterHeaderLength =
    Mem.load (as.flatMap WireAvp.bytes) fun _ => 0

/-- An `AVP` is sent as this pair. -/
structure AVP.Sends (avp : AVP) (a : WireAvp) : Prop where
  /-- What is written, and the zeros behind it. -/
  bytes_eq : a.bytes = avp.getValue ++ List.replicate (paddingLength a.data.length) 0
  /-- What the pointer is advanced by. -/
  totalLength_eq : avp.totalLength = a.bytes.length

/-- The loop of `bytes_to_pad` ends at the next multiple of four. -/
lemma bytesToPad_eq (n : ℕ) : bytesToPad n = paddingLength n := by
  obtain ⟨q, r, hr, rfl⟩ : ∃ q r, r < 4 ∧ n = 4 * q + r :=
    ⟨n / 4, n % 4, Nat.mod_lt n (by decide), (Nat.div_add_mod n 4).symm⟩
  have hcond : ∀ i, ((4 * q + r + i) * 8 % 32 = 0) ↔ (r + i) % 4 = 0 := by
    intro i
    omega
  have hmod : (4 * q + r) % 4 = r := by omega
  have hfind : ∀ r < 4, ((List.range 4).find? fun i => (r + i) % 4 = 0).getD 0 = (4 - r) % 4 := by
    decide
  unfold bytesToPad paddingLength
  simp only [hcond, hmod]
  exact hfind r hr

/-- Writing pairs behind those that are there, in front of zeros. -/
lemma Mem.view_write {m : Mem} {o k : ℕ} {l t : List UInt8}
    (h : m.view o = Mem.load l fun _ => 0) :
    (m.write (o + l.length) t).view o =
      Mem.load (l ++ (t ++ List.replicate k 0)) fun _ => 0 := by
  funext i
  have hi : m (o + i) = (l[i]?).getD 0 := congrFun h i
  simp only [Mem.view, Mem.write, Mem.overlay, Mem.load, Nat.add_lt_add_iff_left]
  by_cases hlt : i < l.length
  · rw [if_pos hlt, hi, List.getElem?_append_left hlt]
  · have hle : l.length ≤ i := Nat.le_of_not_lt hlt
    have hsub : o + i - (o + l.length) = i - l.length := by omega
    have hback : o + l.length + (i - l.length) = o + i := by omega
    rw [if_neg hlt, hsub, hback, hi, List.getElem?_eq_none hle, Option.getD_none,
      List.getElem?_append_right hle]
    by_cases ht : i - l.length < t.length
    · rw [List.getElem?_append_left ht]
    · have hzero : (List.replicate k (0 : UInt8))[i - l.length - t.length]?.getD 0 = 0 := by
        rw [List.getElem?_replicate]
        split <;> rfl
      rw [List.getElem?_append_right (Nat.le_of_not_lt ht), hzero,
        List.getElem?_eq_none (Nat.le_of_not_lt ht), Option.getD_none]

/-- The bytes of a memory are those of its first part and those seen from its end on. -/
lemma Mem.bytes_add (m : Mem) (n k : ℕ) : m.bytes (n + k) = m.bytes n ++ (m.view n).bytes k := by
  simp only [Mem.bytes, List.range_add, List.map_append, List.map_map]
  rfl

/-- What was written is read back, behind what stood in front of it. -/
lemma Mem.bytes_write (m : Mem) (o : ℕ) (l : List UInt8) :
    (m.write o l).bytes (o + l.length) = m.bytes o ++ l := by
  have hfront : (m.write o l).bytes o = m.bytes o :=
    List.map_congr_left fun i hi => if_pos (List.mem_range.mp hi)
  have hview : (m.write o l).view o = Mem.load l (m.view o) := by
    have hover := Mem.view_overlay m (Mem.load l (m.view o)) o 0
    rwa [Nat.add_zero, Mem.view_zero] at hover
  rw [Mem.bytes_add, hfront, hview, (Mem.starts_load l _).bytes_eq]

/-- Behind what was written at the start, the memory is what it was. -/
lemma Mem.view_write_start (m : Mem) (l : List UInt8) :
    (m.write 0 l).view l.length = m.view l.length := by
  funext i
  simp only [Mem.view, Mem.write, Mem.overlay, Mem.load]
  rw [if_neg (Nat.not_lt_zero _), List.getElem?_eq_none (by omega), Option.getD_none, Nat.zero_add,
    Nat.sub_zero]

/-- A message that was just made holds no pairs. -/
lemma DiaMessage.holds_new (hop2hop end2end : UInt32) (c₁ c₂ : UInt8) :
    ((DiaMessage.new hop2hop end2end).setCmdCode c₁ c₂).Holds [] where
  dataPointer_eq := rfl
  view_buffer := by
    funext i
    simp only [DiaMessage.setCmdCode, DiaMessage.new, DiaMessage.setSize, Mem.view, Mem.write,
      Mem.overlay, Mem.load]
    rw [if_neg (Nat.not_lt_zero _), List.getElem?_eq_none]
    · rfl
    · simp [DiaMessage.headBytes, hostUint, diameterHeaderLength]

/-- A pair that is added goes behind those that are there. -/
lemma DiaMessage.Holds.addAVP {m : DiaMessage} {as : List WireAvp} {avp : AVP} {a : WireAvp}
    (h : m.Holds as) (ha : avp.Sends a) : (m.addAVP avp).Holds (as ++ [a]) where
  dataPointer_eq := by
    rw [List.flatMap_append, List.flatMap_singleton, List.length_append, ← Nat.add_assoc,
      ← h.dataPointer_eq, ← ha.totalLength_eq]
    rfl
  view_buffer := by
    rw [List.flatMap_append, List.flatMap_singleton, ha.bytes_eq]
    unfold DiaMessage.addAVP
    rw [h.dataPointer_eq]
    exact Mem.view_write h.view_buffer

/-- A loop adds a pair for every entry of a list. -/
lemma DiaMessage.Holds.foldl_addAVP {α : Type*} {avp : α → AVP} {a : α → WireAvp}
    (ha : ∀ x, (avp x).Sends (a x)) (l : List α) {m : DiaMessage} {as : List WireAvp}
    (h : m.Holds as) : (l.foldl (fun m x => m.addAVP (avp x)) m).Holds (as ++ l.map a) := by
  induction l generalizing m as with
  | nil => rwa [List.map_nil, List.append_nil]
  | cons x l ih =>
    have hnext := ih (h.addAVP (ha x))
    rwa [List.append_assoc, List.singleton_append] at hnext

/-- The header has twenty bytes. -/
lemma DiaMessage.length_headBytes (m : DiaMessage) (length : ℕ) :
    (m.headBytes length).length = diameterHeaderLength := rfl

/-- The finished message decodes to the pairs that were added. -/
lemma DiaMessage.Holds.decodesTo {m : DiaMessage} {as : List WireAvp} (h : m.Holds as)
    (hlt : m.dataPointer < 16777216) : DecodesTo m.message as := by
  have hmessage : m.message = m.headBytes m.dataPointer ++ as.flatMap WireAvp.bytes := by
    have hview := m.buffer.view_write_start (m.headBytes m.dataPointer)
    have hfront := m.buffer.bytes_write 0 (m.headBytes m.dataPointer)
    rw [m.length_headBytes, h.view_buffer] at hview
    rw [m.length_headBytes, Nat.zero_add] at hfront
    unfold DiaMessage.message DiaMessage.setSize
    dsimp only
    nth_rewrite 2 [h.dataPointer_eq]
    rw [Mem.bytes_add, hfront, hview, (Mem.starts_load _ _).bytes_eq]
    rfl
  constructor
  · have hlength : m.message.length = m.dataPointer := by
      rw [hmessage, List.length_append, m.length_headBytes, h.dataPointer_eq]
    have hstarts := Mem.starts_load m.message fun _ => 0
    rw [hlength]
    rw [hmessage] at hstarts ⊢
    have hview : ((Mem.load (m.headBytes m.dataPointer ++ as.flatMap WireAvp.bytes)
        fun _ => 0).view 1).Starts (bigEndian3 m.dataPointer ++ _) :=
      Mem.Starts.right (l := [1]) hstarts
    exact hview.u24_eq hlt
  · exact ⟨_, m.length_headBytes _, hmessage⟩

/-! ## The constructors -/

/-- The codes as integers of the host have the bytes of the codes that the protocol numbers. -/
lemma hostUint_value (avp : Avps) : hostUint avp.value = bigEndian4 avp.code := by
  cases avp <;> rfl

/-- The constructors for strings, addresses and values of a fixed length. -/
lemma AVP.sends_ofData {avp : Avps} {flags : UInt8} {data : List UInt8} {n : ℕ}
    (hn : data.length = n) {hlt : 8 + data.length < 16777216} {hcode : avp.code < 4294967296} :
    (AVP.ofData avp.value flags n (Mem.load data fun _ => 0)).Sends
      (.ofData avp.code flags data hcode hlt) := by
  subst hn
  constructor
  · rw [WireAvp.bytes_ofData]
    simp only [WireAvp.ofData, AVP.getValue, AVP.ofData, hostUint_value,
      (Mem.starts_load data _).bytes_eq, List.append_assoc, List.cons_append]
  · rw [WireAvp.length_bytes]
    exact congrArg (8 + data.length + ·) (bytesToPad_eq data.length)

/-- A value that has the given length is copied whole. -/
lemma AVP.ofLength_eq (avp : Avps) (flags : UInt8) {data : List UInt8} {n : ℕ}
    (hn : data.length = n) :
    AVP.ofLength avp.value flags n data =
      AVP.ofData avp.value flags n (Mem.load data fun _ => 0) := by
  rw [AVP.ofLength, List.take_of_length_le hn.le]

/-- A pair with an integer. -/
lemma AVP.sends_int (avp : Avps) (flags : UInt8) (id : Int32) :
    (AVP.ofLength avp.value flags 4 (int2hex id.toInt 4)).Sends
      (ValueFormat.sent.intAvp avp flags id) := by
  have hn : (int2hex id.toInt 4).length = 4 := rfl
  rw [AVP.ofLength_eq avp flags hn]
  exact AVP.sends_ofData hn

/-- A pair with an integer is written whole: it needs no padding. -/
lemma AVP.getValue_int (avp : Avps) (flags : UInt8) (id : Int32) :
    (AVP.ofLength avp.value flags 4 (int2hex id.toInt 4)).getValue =
      (ValueFormat.sent.intAvp avp flags id).bytes := by
  have hdata : (ValueFormat.sent.intAvp avp flags id).data.length = 4 :=
    ValueFormat.sent.length_int id
  rw [(AVP.sends_int avp flags id).bytes_eq, hdata]
  exact (List.append_nil _).symm

/-- A pair with an integer advances the pointer by its twelve bytes. -/
lemma AVP.totalLength_int (avp : Avps) (flags : UInt8) (id : Int32) :
    (AVP.ofLength avp.value flags 4 (int2hex id.toInt 4)).totalLength = 12 := by
  rw [(AVP.sends_int avp flags id).totalLength_eq, ValueFormat.length_bytes_intAvp]

/-- The loop body that builds a group, with its lengths. -/
lemma vendorSpecificAVP_eq (allocated : Mem) (ids : Int32 × Int32) :
    vendorSpecificAVP allocated ids =
      { avpCode := Avps.vendorSpecificApplicationId.value
        flags := 0x40
        avpLen := bigEndian3 32
        dataLength := 24
        totalLength := 32
        offset := 24
        dataHead := (allocated.write 0 (ValueFormat.sent.intAvp .vendorId 0x40 ids.1).bytes).write 12
          (ValueFormat.sent.intAvp .authApplicationId 0x40 ids.2).bytes } := by
  have hpad : bytesToPad 12 = 0 := bytesToPad_eq 12
  simp only [vendorSpecificAVP, AVP.addSubAttribute, AVP.composed, AVP.totalLength_int, hpad,
    AVP.getValue_int]

/-- The two pairs inside a group, as they are written. -/
lemma bytes_group (allocated : Mem) {l t : List UInt8} (hl : l.length = 12) (ht : t.length = 12) :
    ((allocated.write 0 l).write 12 t).bytes 24 = l ++ t := by
  have hfirst := allocated.bytes_write 0 l
  have hsecond := (allocated.write 0 l).bytes_write 12 t
  rw [hl, Nat.zero_add] at hfirst
  rw [ht, hfirst] at hsecond
  exact hsecond

/-- The loop body that builds a group. -/
lemma vendorSpecificAVP_sends (allocated : Mem) (ids : Int32 × Int32) :
    (vendorSpecificAVP allocated ids).Sends (ValueFormat.sent.groupAvp ids) := by
  have h₁ := ValueFormat.sent.length_bytes_intAvp .vendorId 0x40 ids.1
  have h₂ := ValueFormat.sent.length_bytes_intAvp .authApplicationId 0x40 ids.2
  have hlength : ((ValueFormat.sent.intAvp .vendorId 0x40 ids.1).bytes ++
      (ValueFormat.sent.intAvp .authApplicationId 0x40 ids.2).bytes).length = 24 := by
    rw [List.length_append, h₁, h₂]
  rw [vendorSpecificAVP_eq]
  constructor
  · have hpad : List.replicate (paddingLength 24) (0 : UInt8) = [] := rfl
    rw [ValueFormat.groupAvp, WireAvp.bytes_ofData]
    simp only [WireAvp.ofData, AVP.getValue, bytes_group allocated h₁ h₂, hostUint_value, hlength,
      hpad, List.append_nil]
  · rw [WireAvp.length_bytes]
    simp only [WireAvp.avpLength, WireAvp.ofData, ValueFormat.groupAvp, hlength]
    rfl

/-- The constructor for strings, in terms of the value it makes of a string. -/
lemma AVP.ofString_eq (avpCode : ℕ) (flags : UInt8) (a : CharArray) :
    AVP.ofString avpCode flags a =
      AVP.ofData avpCode flags (ValueFormat.sent.string a).length
        (Mem.load (ValueFormat.sent.string a) fun _ => 0) := by
  have height : (a.bytes.take 8).length = 8 := by
    rw [List.length_take, a.length_bytes]
    rfl
  unfold AVP.ofString ValueFormat.sent
  dsimp only
  split
  · rw [height]
  · rfl

/-- A pair with a string. -/
lemma AVP.sends_string (avp : Avps) (flags : UInt8) (a : CharArray) :
    (AVP.ofString avp.value flags a).Sends (ValueFormat.sent.stringAvp avp flags a) := by
  rw [AVP.ofString_eq]
  exact AVP.sends_ofData rfl

/-- The pair with the address of the host. -/
lemma AVP.sends_hostIp (cerdata : CapabilitiesData) (hostAddress : IpAddress) :
    (if cerdata.ipv6 then AVP.ofIpv6Address Avps.hostIpAddress.value 0x40 cerdata.localaddrV6
      else AVP.ofIpAddress Avps.hostIpAddress.value 0x40 cerdata.hostIpAddress hostAddress).Sends
      (ValueFormat.hostIpAvp cerdata hostAddress) := by
  have hlen₄ : ∀ a : IpAddress, (0 :: 1 :: a.bytes : List UInt8).length = 6 := by
    intro a
    rw [List.length_cons, List.length_cons, a.length_bytes]
  have hlen₁₆ : (0 :: 2 :: cerdata.localaddrV6).length = 18 := by
    rw [List.length_cons, List.length_cons, cerdata.length_localaddrV6]
  cases h : cerdata.ipv6 with
  | true =>
    simp only [ValueFormat.hostIpAvp, h, if_true]
    exact AVP.sends_ofData hlen₁₆
  | false =>
    simp only [ValueFormat.hostIpAvp, h, Bool.false_eq_true, if_false]
    exact AVP.sends_ofData (hlen₄ _)

/-- The pair with the vendor id of the proxy. -/
lemma AVP.sends_vendorId (cerdata : CapabilitiesData) :
    (AVP.ofLength Avps.vendorId.value 0x40 4 cerdata.vendorId).Sends
      (ValueFormat.vendorIdAvp cerdata) := by
  rw [AVP.ofLength_eq _ _ cerdata.length_vendorId]
  exact AVP.sends_ofData cerdata.length_vendorId

/-! ## What the messages hold -/

/-- Pairs with at most two hundred bytes of data, all together. -/
lemma length_flatMap_bytes_le {as : List WireAvp} (h : ∀ a ∈ as, a.data.length ≤ 200) :
    (as.flatMap WireAvp.bytes).length ≤ 211 * as.length := by
  induction as with
  | nil => exact Nat.le_refl 0
  | cons a as ih =>
    have ha := h a List.mem_cons_self
    have has := ih fun b hb => h b (List.mem_cons_of_mem a hb)
    rw [List.flatMap_cons, List.length_append, a.length_bytes, WireAvp.avpLength, paddingLength,
      List.length_cons]
    omega

/-- The pairs of a capabilities-exchange request are short. -/
lemma ValueFormat.length_data_cerAvps_le (F : ValueFormat) (cerdata : CapabilitiesData)
    (originHost : CharArray) (hostAddress : IpAddress) :
    ∀ a ∈ F.cerAvps cerdata originHost hostAddress, a.data.length ≤ 200 := by
  have hstring : ∀ avp flags a, (F.stringAvp avp flags a).data.length ≤ 200 :=
    fun _ _ a => F.length_string_le a
  have hint : ∀ avp flags id, (F.intAvp avp flags id).data.length ≤ 200 :=
    fun _ _ id => (F.length_int id).trans_le (by decide)
  have hgroup : ∀ ids, (F.groupAvp ids).data.length ≤ 200 := by
    intro ids
    simp only [groupAvp, WireAvp.ofData, List.length_append, length_bytes_intAvp]
    decide
  have hip : (hostIpAvp cerdata hostAddress).data.length ≤ 200 := by
    simp only [hostIpAvp, WireAvp.ofData]
    split
    · rw [List.length_cons, List.length_cons, cerdata.length_localaddrV6]
      decide
    · rw [List.length_cons, List.length_cons, IpAddress.length_bytes]
      decide
  have hvendor : (vendorIdAvp cerdata).data.length ≤ 200 :=
    cerdata.length_vendorId.trans_le (by decide)
  intro a ha
  simp only [cerAvps, List.mem_append, List.mem_cons, List.mem_map, List.not_mem_nil,
    or_false] at ha
  rcases ha with (((ha | ha) | ha) | ha) | rfl
  · rcases ha with rfl | rfl | rfl | rfl | rfl
    · exact hstring _ _ _
    · exact hstring _ _ _
    · exact hip
    · exact hvendor
    · exact hstring _ _ _
  · obtain ⟨id, -, rfl⟩ := ha
    exact hint _ _ _
  · obtain ⟨id, -, rfl⟩ := ha
    exact hint _ _ _
  · obtain ⟨ids, -, rfl⟩ := ha
    exact hgroup _
  · exact hint _ _ _

/-- There are not many of them. -/
lemma ValueFormat.length_cerAvps_le (F : ValueFormat) (cerdata : CapabilitiesData)
    (originHost : CharArray) (hostAddress : IpAddress) :
    (F.cerAvps cerdata originHost hostAddress).length ≤ 36 := by
  have h₁ := cerdata.supportedVendorIds_le
  have h₂ := cerdata.authApplicationIds_le
  have h₃ := cerdata.vendorSpecificApplicationIds_le
  simp only [cerAvps, List.length_append, List.length_map, List.length_cons, List.length_nil]
  omega

/-- **Every capabilities-exchange request is well formed**: it decodes to the values that the
constructors make of the configuration. -/
theorem createCER_decodes (cerdata : CapabilitiesData) (originHost : CharArray)
    (hostAddress : IpAddress) (allocated : Mem) (hop2hop end2end : UInt32) :
    DecodesTo (createCER cerdata originHost hostAddress allocated hop2hop end2end)
      (ValueFormat.sent.cerAvps cerdata originHost hostAddress) := by
  have h := DiaMessage.holds_new hop2hop end2end 0x01 0x01
  have h := h.addAVP (AVP.sends_string .originHost 0x40 originHost)
  have h := h.addAVP (AVP.sends_string .originRealm 0x40 cerdata.originRealm)
  have h := h.addAVP (AVP.sends_hostIp cerdata hostAddress)
  have h := h.addAVP (AVP.sends_vendorId cerdata)
  have h := h.addAVP (AVP.sends_string .productName 0x00 cerdata.productName)
  have h := h.foldl_addAVP (AVP.sends_int .supportedVendorId 0x40)
    cerdata.listOfSupportedVendorIds
  have h := h.foldl_addAVP (AVP.sends_int .authApplicationId 0x40)
    cerdata.listOfAuthApplicationIds
  have h := h.foldl_addAVP (vendorSpecificAVP_sends allocated)
    cerdata.listOfVendorSpecificApplicationIds
  have h := h.addAVP (AVP.sends_int .firmwareRevision 0x00 1)
  refine h.decodesTo ?_
  have hlen := length_flatMap_bytes_le
    (ValueFormat.sent.length_data_cerAvps_le cerdata originHost hostAddress)
  have hle := ValueFormat.sent.length_cerAvps_le cerdata originHost hostAddress
  rw [h.dataPointer_eq]
  change diameterHeaderLength +
    ((ValueFormat.sent.cerAvps cerdata originHost hostAddress).flatMap WireAvp.bytes).length <
      16777216
  unfold diameterHeaderLength
  omega

/-- **Every disconnect-peer request is well formed.** -/
theorem createDPR_decodes (cerdata : CapabilitiesData) (originHost : CharArray)
    (hop2hop end2end : UInt32) :
    DecodesTo (createDPR cerdata originHost hop2hop end2end)
      (ValueFormat.sent.dprAvps cerdata originHost) := by
  have h := DiaMessage.holds_new hop2hop end2end 0x01 0x1a
  have h := h.addAVP (AVP.sends_string .originHost 0x40 originHost)
  have h := h.addAVP (AVP.sends_string .originRealm 0x40 cerdata.originRealm)
  have h := h.addAVP (AVP.sends_int .disconnectCause 0x40 2)
  refine h.decodesTo ?_
  have hshort : ∀ a ∈ ValueFormat.sent.dprAvps cerdata originHost, a.data.length ≤ 200 := by
    intro a ha
    simp only [ValueFormat.dprAvps, List.mem_cons, List.not_mem_nil, or_false] at ha
    rcases ha with rfl | rfl | rfl
    · exact ValueFormat.sent.length_string_le _
    · exact ValueFormat.sent.length_string_le _
    · exact (ValueFormat.sent.length_int _).trans_le (by decide)
  have hlen := length_flatMap_bytes_le hshort
  rw [h.dataPointer_eq]
  change diameterHeaderLength +
    ((ValueFormat.sent.dprAvps cerdata originHost).flatMap WireAvp.bytes).length < 16777216
  have hle : (ValueFormat.sent.dprAvps cerdata originHost).length = 3 := rfl
  unfold diameterHeaderLength
  omega

/-! ## When they hold the configuration -/

/-- A string is copied exactly when it has at least four bytes. -/
lemma ValueFormat.string_eq_iff (a : CharArray) :
    sent.string a = configured.string a ↔ 4 ≤ a.str.length := by
  have height : (a.bytes.take 8).length = 8 := by
    rw [List.length_take, a.length_bytes]
    rfl
  simp only [sent, configured]
  by_cases h : a.str.length < 4
  · rw [if_pos h]
    constructor
    · intro heq
      have hlen := congrArg List.length heq
      omega
    · intro hle
      exact absurd h hle.not_gt
  · simp [h, Nat.le_of_not_lt h]

/-- A pair with a string holds the string. -/
lemma ValueFormat.stringAvp_eq_iff (avp : Avps) (flags : UInt8) (a : CharArray) :
    sent.stringAvp avp flags a = configured.stringAvp avp flags a ↔ 4 ≤ a.str.length := by
  rw [← string_eq_iff]
  constructor
  · intro h
    exact congrArg WireAvp.data h
  · intro h
    simp only [stringAvp, h]

/-- A pair with an integer holds the integer. -/
lemma ValueFormat.intAvp_eq_iff (avp : Avps) (flags : UInt8) (id : Int32) :
    sent.intAvp avp flags id = configured.intAvp avp flags id ↔ HexExact id := by
  rw [← int2hex_eq_iff]
  constructor
  · intro h
    exact congrArg WireAvp.data h
  · intro h
    simp only [intAvp, sent, configured, h]

/-- A group holds its pair of ids. -/
lemma ValueFormat.groupAvp_eq_iff (ids : Int32 × Int32) :
    sent.groupAvp ids = configured.groupAvp ids ↔ HexExact ids.1 ∧ HexExact ids.2 := by
  rw [← intAvp_eq_iff .vendorId 0x40, ← intAvp_eq_iff .authApplicationId 0x40]
  constructor
  · intro h
    have hdata : (sent.intAvp .vendorId 0x40 ids.1).bytes ++ _ = _ ++ _ :=
      congrArg WireAvp.data h
    obtain ⟨h₁, h₂⟩ := WireAvp.bytes_append_inj hdata
    have hnil : (sent.intAvp .authApplicationId 0x40 ids.2).bytes ++ [] =
        (configured.intAvp .authApplicationId 0x40 ids.2).bytes ++ [] := by rw [h₂]
    exact ⟨h₁, (WireAvp.bytes_append_inj hnil).1⟩
  · rintro ⟨h₁, h₂⟩
    simp only [groupAvp, h₁, h₂]

/-- The constructors make exactly the configured values of a configuration. -/
structure CapabilitiesData.Exact (cerdata : CapabilitiesData) (originHost : CharArray) : Prop where
  originHost : 4 ≤ originHost.str.length
  originRealm : 4 ≤ cerdata.originRealm.str.length
  productName : 4 ≤ cerdata.productName.str.length
  supportedVendorIds : ∀ id ∈ cerdata.listOfSupportedVendorIds, HexExact id
  authApplicationIds : ∀ id ∈ cerdata.listOfAuthApplicationIds, HexExact id
  vendorSpecificApplicationIds :
    ∀ ids ∈ cerdata.listOfVendorSpecificApplicationIds, HexExact ids.1 ∧ HexExact ids.2

/-- The request holds the configured values exactly then. -/
lemma ValueFormat.cerAvps_eq_iff (cerdata : CapabilitiesData) (originHost : CharArray)
    (hostAddress : IpAddress) :
    sent.cerAvps cerdata originHost hostAddress =
      configured.cerAvps cerdata originHost hostAddress ↔ cerdata.Exact originHost := by
  constructor
  · intro h
    unfold cerAvps at h
    obtain ⟨h, -⟩ := List.append_inj' h rfl
    obtain ⟨h, hgroups⟩ := List.append_inj' h (by rw [List.length_map, List.length_map])
    obtain ⟨h, happs⟩ := List.append_inj' h (by rw [List.length_map, List.length_map])
    obtain ⟨h, hvendors⟩ := List.append_inj' h (by rw [List.length_map, List.length_map])
    simp only [List.cons.injEq, stringAvp_eq_iff, and_true, true_and] at h
    rw [List.map_inj_left] at hgroups happs hvendors
    exact {
      originHost := h.1
      originRealm := h.2.1
      productName := h.2.2
      supportedVendorIds := fun id hid => (intAvp_eq_iff _ _ _).mp (hvendors id hid)
      authApplicationIds := fun id hid => (intAvp_eq_iff _ _ _).mp (happs id hid)
      vendorSpecificApplicationIds := fun ids hids =>
        (groupAvp_eq_iff _).mp (hgroups ids hids) }
  · intro h
    have hrevision : HexExact 1 := by decide
    have hvendors := List.map_congr_left fun id hid =>
      (intAvp_eq_iff .supportedVendorId 0x40 id).mpr (h.supportedVendorIds id hid)
    have happs := List.map_congr_left fun id hid =>
      (intAvp_eq_iff .authApplicationId 0x40 id).mpr (h.authApplicationIds id hid)
    have hgroups := List.map_congr_left fun ids hids =>
      (groupAvp_eq_iff ids).mpr (h.vendorSpecificApplicationIds ids hids)
    unfold cerAvps
    rw [(stringAvp_eq_iff _ _ _).mpr h.originHost, (stringAvp_eq_iff _ _ _).mpr h.originRealm,
      (stringAvp_eq_iff _ _ _).mpr h.productName, hvendors, happs, hgroups,
      (intAvp_eq_iff _ _ _).mpr hrevision]

/-- The disconnect-peer request holds the configured values then as well. -/
lemma ValueFormat.dprAvps_eq {cerdata : CapabilitiesData} {originHost : CharArray}
    (h : cerdata.Exact originHost) :
    sent.dprAvps cerdata originHost = configured.dprAvps cerdata originHost := by
  have hcause : HexExact 2 := by decide
  unfold dprAvps
  rw [(stringAvp_eq_iff _ _ _).mpr h.originHost, (stringAvp_eq_iff _ _ _).mpr h.originRealm,
    (intAvp_eq_iff _ _ _).mpr hcause]

/-- **When both messages decode to the configuration.** -/
theorem cerAndDpr_decode_iff (cerdata : CapabilitiesData) (originHost : CharArray)
    (hostAddress : IpAddress) (allocated : Mem) (hop2hop end2end hop2hop' end2end' : UInt32) :
    (DecodesTo (createCER cerdata originHost hostAddress allocated hop2hop end2end)
        (ValueFormat.configured.cerAvps cerdata originHost hostAddress) ∧
      DecodesTo (createDPR cerdata originHost hop2hop' end2end')
        (ValueFormat.configured.dprAvps cerdata originHost)) ↔
      cerdata.Exact originHost := by
  have hcer := createCER_decodes cerdata originHost hostAddress allocated hop2hop end2end
  have hdpr := createDPR_decodes cerdata originHost hop2hop' end2end'
  constructor
  · rintro ⟨hcer', -⟩
    exact (ValueFormat.cerAvps_eq_iff cerdata originHost hostAddress).mp (hcer.unique hcer')
  · intro h
    rw [← (ValueFormat.cerAvps_eq_iff cerdata originHost hostAddress).mpr h,
      ← ValueFormat.dprAvps_eq h]
    exact ⟨hcer, hdpr⟩

/-- An array that holds a string, with zeros behind. -/
def CharArray.of (l : List UInt8) (h : l.length < 200) : CharArray where
  bytes := l ++ List.replicate (200 - l.length) 0
  length_bytes := by
    rw [List.length_append, List.length_replicate]
    omega
  terminated := List.mem_append_right l (List.mem_replicate.mpr ⟨by omega, rfl⟩)

/-- A configuration without any ids. -/
def plainCapabilities : CapabilitiesData where
  originRealm := .of [114, 101, 97, 108, 109] (by decide)
  productName := .of [112, 114, 111, 120, 121] (by decide)
  hostIpAddress := ⟨[10, 1, 20, 89], rfl⟩
  ipv6 := false
  localaddrV6 := List.replicate 16 0
  vendorId := [0, 0, 0, 193]
  listOfSupportedVendorIds := []
  listOfAuthApplicationIds := []
  listOfVendorSpecificApplicationIds := []
  length_localaddrV6 := rfl
  length_vendorId := rfl
  supportedVendorIds_le := by decide
  authApplicationIds_le := by decide
  vendorSpecificApplicationIds_le := by decide

/-- With an origin host of three bytes the request does not decode to the configuration. -/
theorem shortOriginHost_not_decoded :
    ¬ DecodesTo (createCER plainCapabilities (.of [104, 115, 115] (by decide))
        plainCapabilities.hostIpAddress (fun _ => 0) 1 1)
      (ValueFormat.configured.cerAvps plainCapabilities (.of [104, 115, 115] (by decide))
        plainCapabilities.hostIpAddress) := by
  intro h
  have hexact := (ValueFormat.cerAvps_eq_iff _ _ _).mp ((createCER_decodes _ _ _ _ _ _).unique h)
  exact absurd hexact.originHost (by decide)

end DiaProxy
