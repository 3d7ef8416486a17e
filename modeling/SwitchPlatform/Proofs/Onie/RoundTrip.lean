import Mathlib.Tactic
import SwitchPlatform.Onie.Image

/-!
# Images read back

The image of a list of fields reads back as the record of what the fields say, whatever bytes
follow it. `Info.ofFields` is that record, said without the reader: every text and number is the
value of the last field of its code, and the vendor extensions are all values of theirs.

* `set_ofFields`: one more field turns the record of some fields into that of one field more.
* `decodeFields_encodeFields`: hence the reader, in front of the bytes of fields, takes them in
  and goes on behind them.
* `decode_encode`: the round trip.
-/

namespace SwitchPlatform.Onie

variable {fields : List Field}

/-! ## Numbers as bytes -/

theorem word16_ofNat {n : Nat} (h : n < 65536) :
    word16 (UInt8.ofNat (n / 256)) (UInt8.ofNat n) = n := by
  rw [word16, UInt8.toNat_ofNat', UInt8.toNat_ofNat']
  omega

/-- Two bytes are those of their number. -/
theorem ofNat_word16 (high low : UInt8) :
    UInt8.ofNat (word16 high low / 256) = high ∧ UInt8.ofNat (word16 high low) = low := by
  have hhigh := high.toNat_lt
  have hlow := low.toNat_lt
  constructor <;> apply UInt8.toNat_inj.1 <;> rw [UInt8.toNat_ofNat', word16] <;> omega

theorem toNat_word32 (a b c d : UInt8) :
    (word32 a b c d).toNat = a.toNat * 2 ^ 24 + b.toNat * 2 ^ 16 + c.toNat * 2 ^ 8 + d.toNat := by
  have ha := a.toNat_lt
  have hb := b.toNat_lt
  have hc := c.toNat_lt
  have hd := d.toNat_lt
  have hword : (word32 a b c d).toNat =
      a.toNat <<< 24 % 2 ^ 32 ||| b.toNat <<< 16 % 2 ^ 32 ||| c.toNat <<< 8 % 2 ^ 32 ||| d.toNat :=
    rfl
  have hshift : ∀ {n place : Nat}, n * 2 ^ place < 2 ^ 32 → n <<< place % 2 ^ 32 = n <<< place :=
    fun {n place} h => Nat.mod_eq_of_lt (Nat.shiftLeft_eq n place ▸ h)
  -- each byte is added above the bits of the lower ones
  have hlow : c.toNat <<< 8 + d.toNat < 2 ^ 16 := by
    rw [Nat.shiftLeft_eq]
    omega
  have hmid : b.toNat <<< 16 + (c.toNat <<< 8 + d.toNat) < 2 ^ 24 := by
    rw [Nat.shiftLeft_eq b.toNat]
    omega
  rw [hword, hshift (by omega), hshift (by omega), hshift (by omega), Nat.or_assoc, Nat.or_assoc,
    ← Nat.shiftLeft_add_eq_or_of_lt hd, ← Nat.shiftLeft_add_eq_or_of_lt hlow,
    ← Nat.shiftLeft_add_eq_or_of_lt hmid]
  simp only [Nat.shiftLeft_eq]
  omega

theorem word32_bytes32 (n : UInt32) :
    word32 (n >>> 24).toUInt8 (n >>> 16).toUInt8 (n >>> 8).toUInt8 n.toUInt8 = n := by
  have hn := n.toNat_lt
  apply UInt32.toNat_inj.1
  rw [toNat_word32]
  simp only [UInt32.toNat_toUInt8, UInt32.toNat_shiftRight, Nat.shiftRight_eq_div_pow,
    UInt32.reduceToNat, Nat.reduceMod]
  omega

theorem word32_inj {a b c d a' b' c' d' : UInt8} (h : word32 a b c d = word32 a' b' c' d') :
    a = a' ∧ b = b' ∧ c = c' ∧ d = d' := by
  have hnat := congrArg UInt32.toNat h
  rw [toNat_word32, toNat_word32] at hnat
  have ha := a.toNat_lt
  have hb := b.toNat_lt
  have hc := c.toNat_lt
  have hd := d.toNat_lt
  have ha' := a'.toNat_lt
  have hb' := b'.toNat_lt
  have hc' := c'.toNat_lt
  have hd' := d'.toNat_lt
  simp only [← UInt8.toNat_inj]
  omega

/-- Four bytes are those of their number. -/
theorem bytes32_word32 (a b c d : UInt8) : bytes32 (word32 a b c d) = [a, b, c, d] := by
  obtain ⟨ha, hb, hc, hd⟩ := word32_inj (word32_bytes32 (word32 a b c d))
  rw [bytes32, ha, hb, hc, hd]

/-! ## What fields say -/

/-- Can a field be written, and read as what its code says? The code of the checksum closes an
image, and addresses and numbers have sizes of their own. -/
structure Field.Fits (f : Field) : Prop where
  code : f.code ≠ Code.crc
  size : f.value.length ≤ 255
  macBase : f.code = Code.macBase → f.value.length = 6
  deviceVersion : f.code = Code.deviceVersion → f.value.length = 1
  macCount : f.code = Code.macCount → f.value.length = 2

/-- The codes that say something. -/
def Code.all : List UInt8 :=
  [Code.productName, Code.partNumber, Code.serialNumber, Code.macBase, Code.manufactureDate,
    Code.deviceVersion, Code.labelRevision, Code.platformName, Code.onieVersion, Code.macCount,
    Code.manufacturer, Code.countryCode, Code.vendor, Code.diagVersion, Code.serviceTag,
    Code.vendorExtension]

/-- The values of the fields of a code, in their order. -/
def valuesOf (code : UInt8) (fields : List Field) : List (List UInt8) :=
  (fields.filter fun f => f.code = code).map Field.value

/-- The value of the last field of a code. -/
def lastOf (code : UInt8) (fields : List Field) : Option (List UInt8) :=
  (valuesOf code fields).getLast?

/-- A number of one byte. -/
def number8? : List UInt8 → Option UInt8
  | [v] => some v
  | _ => none

/-- A number of two bytes, the high one first. -/
def number16? : List UInt8 → Option Nat
  | [high, low] => some (word16 high low)
  | _ => none

/-- What fields say, beside a checksum. -/
def Info.ofFields (fields : List Field) (crc : UInt32) : Info :=
  { productName := (lastOf Code.productName fields).map fieldText
    partNumber := (lastOf Code.partNumber fields).map fieldText
    serialNumber := (lastOf Code.serialNumber fields).map fieldText
    macBase := lastOf Code.macBase fields
    manufactureDate := (lastOf Code.manufactureDate fields).map fieldText
    deviceVersion := (lastOf Code.deviceVersion fields).bind number8?
    labelRevision := (lastOf Code.labelRevision fields).map fieldText
    platformName := (lastOf Code.platformName fields).map fieldText
    onieVersion := (lastOf Code.onieVersion fields).map fieldText
    macCount := (lastOf Code.macCount fields).bind number16?
    manufacturer := (lastOf Code.manufacturer fields).map fieldText
    countryCode := (lastOf Code.countryCode fields).map fieldText
    vendor := (lastOf Code.vendor fields).map fieldText
    diagVersion := (lastOf Code.diagVersion fields).map fieldText
    serviceTag := (lastOf Code.serviceTag fields).map fieldText
    vendorExtensions := valuesOf Code.vendorExtension fields
    crc := crc }

theorem valuesOf_concat (code : UInt8) (fields : List Field) (f : Field) :
    valuesOf code (fields ++ [f]) =
      if f.code = code then valuesOf code fields ++ [f.value] else valuesOf code fields := by
  by_cases h : f.code = code <;> simp [valuesOf, h]

theorem lastOf_concat (code : UInt8) (fields : List Field) (f : Field) :
    lastOf code (fields ++ [f]) = if f.code = code then some f.value else lastOf code fields := by
  rw [lastOf, valuesOf_concat]
  by_cases h : f.code = code <;> simp [lastOf, h]

/-- The values of a code that says something are those among the fields that say something. -/
theorem valuesOf_known {code : UInt8} (h : code ∈ Code.all) (fields : List Field) :
    valuesOf code (fields.filter fun f => f.code ∈ Code.all) = valuesOf code fields := by
  rw [valuesOf, valuesOf, List.filter_filter]
  congr 1
  apply List.filter_congr
  intro f _
  by_cases hf : f.code = code
  · simp [hf, h]
  · simp [hf]

/-- Fields with unknown codes say nothing. -/
theorem ofFields_known (fields : List Field) (crc : UInt32) :
    Info.ofFields (fields.filter fun f => f.code ∈ Code.all) crc = Info.ofFields fields crc := by
  simp (disch := decide) only [Info.ofFields, lastOf, valuesOf_known]

/-- **One more field turns the record of some fields into that of one field more.** -/
theorem set_ofFields {f : Field} (fits : f.Fits) (fields : List Field) (crc : UInt32) :
    (Info.ofFields fields crc).set f = .ok (Info.ofFields (fields ++ [f]) crc) := by
  obtain ⟨code, value⟩ := f
  simp only [Info.ofFields, lastOf_concat, valuesOf_concat]
  by_cases hmac : code = Code.macBase
  · subst hmac
    exact if_pos (fits.macBase rfl)
  by_cases hversion : code = Code.deviceVersion
  · subst hversion
    obtain ⟨v, rfl⟩ := List.length_eq_one_iff.1 (fits.deviceVersion rfl)
    rfl
  by_cases hcount : code = Code.macCount
  · subst hcount
    obtain ⟨high, low, rfl⟩ := List.length_eq_two.1 (fits.macCount rfl)
    rfl
  by_cases known : code ∈ Code.all
  · -- the other codes take values of any size
    fin_cases known <;> first | contradiction | rfl
  · simp only [Code.all, List.mem_cons, List.not_mem_nil, or_false, not_or] at known
    simp [Info.set, known]

/-! ## The reader in front of fields -/

theorem encodeFields_cons (f : Field) (fields : List Field) :
    encodeFields (f :: fields) = f.encode ++ encodeFields fields :=
  rfl

theorem length_le_encodeFields (fields : List Field) :
    fields.length ≤ (encodeFields fields).length := by
  induction fields with
  | nil => exact le_rfl
  | cons f fields ih =>
    rw [encodeFields_cons, List.length_append, List.length_cons, Field.encode, List.length_cons,
      List.length_cons]
    omega

/-- The reader in front of the bytes of one field takes it in and goes on behind it. -/
theorem decodeFields_encode {f : Field} (fits : f.Fits) {info info' : Info}
    (hset : info.set f = .ok info') (bound : Nat) (before rest : List UInt8) :
    decodeFields (bound + 1) before info (f.encode ++ rest) =
      decodeFields bound (before ++ f.encode) info' rest := by
  obtain ⟨code, value⟩ := f
  have hsize : (UInt8.ofNat value.length).toNat = value.length := by
    rw [UInt8.toNat_ofNat']
    exact Nat.mod_eq_of_lt (Nat.lt_succ_of_le fits.size)
  have hlong : ¬(value ++ rest).length < value.length := by
    rw [List.length_append]
    omega
  simp only [Field.encode, List.cons_append, decodeFields, hsize, hlong, if_false,
    List.take_left, List.drop_left, if_neg fits.code, hset, List.append_assoc, List.nil_append]

/-- **The reader takes in fields one after the other**: what it knows behind them is the record of
all fields so far. -/
theorem decodeFields_encodeFields (fit : ∀ f ∈ fields, f.Fits) (bound : Nat)
    (before : List UInt8) (done : List Field) (rest : List UInt8) :
    decodeFields (bound + fields.length) before (Info.ofFields done 0)
        (encodeFields fields ++ rest) =
      decodeFields bound (before ++ encodeFields fields) (Info.ofFields (done ++ fields) 0) rest := by
  induction fields generalizing before done with
  | nil => simp [encodeFields]
  | cons f fields ih =>
    have hf : f.Fits := fit f List.mem_cons_self
    rw [encodeFields_cons, List.append_assoc, List.length_cons, ← Nat.add_assoc,
      decodeFields_encode hf (set_ofFields hf done 0),
      ih (fun g hg => fit g (List.mem_cons_of_mem f hg)), List.append_assoc, List.append_assoc]
    rfl

/-- The reader in front of the checksum field of an image ends there, whatever is behind it. -/
theorem decodeFields_crc (bound : Nat) (before : List UInt8) (info : Info) (behind : List UInt8) :
    decodeFields (bound + 1) before info
        (Code.crc :: 4 :: (bytes32 (Crc32.checksum (before ++ [Code.crc, 4])) ++ behind)) =
      .ok { info with crc := Crc32.checksum (before ++ [Code.crc, 4]) } := by
  simp [decodeFields, bytes32, checkCrc, word32_bytes32, Except.map]

/-- The reader in front of fields and a checksum field knows all these fields in the end, whatever
is behind the checksum field. -/
theorem decodeFields_closed (fit : ∀ f ∈ fields, f.Fits) {bound : Nat}
    (hbound : fields.length < bound) {before : List UInt8} {crc : UInt32}
    (hcrc : crc = Crc32.checksum (before ++ encodeFields fields ++ [Code.crc, 4]))
    (behind : List UInt8) :
    decodeFields bound before {}
        (encodeFields fields ++ Code.crc :: 4 :: (bytes32 crc ++ behind)) =
      .ok (Info.ofFields fields crc) := by
  -- the bound leaves room for the checksum field behind all others
  obtain ⟨left, rfl⟩ : ∃ left, bound = left + 1 + fields.length :=
    ⟨bound - fields.length - 1, by omega⟩
  subst hcrc
  exact (decodeFields_encodeFields fit (left + 1) before [] _).trans
    (decodeFields_crc left (before ++ encodeFields fields) (Info.ofFields fields 0) behind)

/-! ## Images -/

/-- The bytes of an image that its checksum covers. -/
def covered (fields : List Field) : List UInt8 :=
  header ((encodeFields fields).length + crcFieldSize) ++ encodeFields fields ++ [Code.crc, 4]

/-- The area of an image: its fields and the checksum field. -/
def area (fields : List Field) : List UInt8 :=
  encodeFields fields ++ Code.crc :: 4 :: bytes32 (Crc32.checksum (covered fields))

theorem length_area (fields : List Field) :
    (area fields).length = (encodeFields fields).length + crcFieldSize := by
  rw [area, List.length_append]
  rfl

theorem encode_eq (fields : List Field) :
    encode fields = header (area fields).length ++ area fields := by
  rw [length_area]
  simp [encode, area, covered]

theorem length_header (size : Nat) : (header size).length = headerSize := rfl

theorem imageSize_header {size : Nat} (h : headerSize + size ≤ maxImage) (rest : List UInt8) :
    imageSize (header size ++ rest) = .ok (headerSize + size) := by
  have hword : word16 (UInt8.ofNat (size / 256)) (UInt8.ofNat size) = size := by
    apply word16_ofNat
    simp only [headerSize, maxImage] at h
    omega
  have hlong : ¬(header size ++ rest).length < headerSize := by
    rw [List.length_append, length_header]
    omega
  have hmagic : (header size ++ rest).take 8 = magic := rfl
  have hversion : (header size ++ rest).getD 8 0 = version := rfl
  have hhigh : (header size ++ rest).getD 9 0 = UInt8.ofNat (size / 256) := rfl
  have hlow : (header size ++ rest).getD 10 0 = UInt8.ofNat size := rfl
  rw [imageSize, if_neg (not_or.2 ⟨hlong, not_not.2 hmagic⟩), hversion, if_neg (not_not.2 rfl),
    hhigh, hlow, hword, if_neg (Nat.not_lt.2 h)]

/-- The reader in front of the area of an image knows all its fields in the end. -/
theorem decodeFields_area (fit : ∀ f ∈ fields, f.Fits) :
    decodeFields ((area fields).length + 1) (header (area fields).length) {} (area fields) =
      .ok (Info.ofFields fields (Crc32.checksum (covered fields))) := by
  have hbound : fields.length < (area fields).length + 1 := by
    have hfields := length_le_encodeFields fields
    rw [length_area]
    omega
  have hcovered : covered fields =
      header (area fields).length ++ encodeFields fields ++ [Code.crc, 4] := by
    rw [length_area, covered]
  have hclosed := decodeFields_closed fit hbound (congrArg Crc32.checksum hcovered) []
  rwa [List.append_nil] at hclosed

/-- **An image reads back as the record of its fields**, whatever follows it. Fields with unknown
codes have no part in it. -/
theorem decode_encode (fields : List Field) (trailing : List UInt8) (fit : ∀ f ∈ fields, f.Fits)
    (size : (encode fields).length ≤ maxImage) :
    decode (encode fields ++ trailing) =
        .ok (Info.ofFields fields (Crc32.checksum (covered fields))) ∧
      Info.ofFields (fields.filter fun f => f.code ∈ Code.all) (Crc32.checksum (covered fields)) =
        Info.ofFields fields (Crc32.checksum (covered fields)) := by
  refine ⟨?_, ofFields_known fields _⟩
  have hlen : (encode fields).length = headerSize + (area fields).length := by
    rw [encode_eq, List.length_append, length_header]
  have hsize : imageSize (encode fields ++ trailing) = .ok (encode fields).length := by
    rw [hlen, encode_eq, List.append_assoc]
    exact imageSize_header (hlen ▸ size) _
  have htake : (encode fields ++ trailing).take headerSize = header (area fields).length := by
    rw [encode_eq, List.append_assoc]
    exact List.take_left' (length_header _)
  have hdrop : (encode fields).drop headerSize = area fields := by
    rw [encode_eq]
    exact List.drop_left' (length_header _)
  have hlong : ¬(encode fields ++ trailing).length < (encode fields).length := by
    rw [List.length_append]
    omega
  simp only [decode, hsize, hlong, if_false, List.take_left, hdrop, htake]
  exact decodeFields_area fit

/-- A product name given twice, an unknown code, an empty vendor extension, and a byte behind the
image. -/
theorem decode_encode_twice :
    decode (encode [⟨Code.productName, [0x51]⟩, ⟨0x77, [1, 2]⟩, ⟨Code.macCount, [1, 0]⟩,
        ⟨Code.vendorExtension, []⟩, ⟨Code.productName, [0x53, 0]⟩] ++ [0xFF]) =
      .ok { productName := some "S", macCount := some 256, vendorExtensions := [[]]
            crc := 2155957298 } := by
  have fit : ∀ f ∈ [(⟨Code.productName, [0x51]⟩ : Field), ⟨0x77, [1, 2]⟩, ⟨Code.macCount, [1, 0]⟩,
      ⟨Code.vendorExtension, []⟩, ⟨Code.productName, [0x53, 0]⟩], f.Fits := by
    intro f hf
    fin_cases hf <;> exact ⟨by decide, by decide, by decide, by decide, by decide⟩
  refine (decode_encode _ [0xFF] fit (by decide)).1.trans ?_
  decide +kernel

end SwitchPlatform.Onie
