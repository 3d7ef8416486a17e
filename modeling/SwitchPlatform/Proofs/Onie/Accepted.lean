import Mathlib.Tactic
import SwitchPlatform.Proofs.Onie.Positions

/-!
# Accepted images

What is in a byte string that the reader accepts. The fields in front of the checksum field are
read off the string (`decodeFields_eq_ok`), so an accepted string is the header of an area, the
fields, the checksum field with the checksum of all that, and bytes that are never looked at
(`decode_eq_ok_iff`). No two lists of fields have such bytes at the front of one string
(`eq_of_sealed`). `decode_reads_fields` puts this together with the reading by position.
-/

namespace SwitchPlatform.Onie

variable {bs : List UInt8} {info : Info} {fields : List Field}

/-! ## The checksum field -/

/-- A checksum field is accepted exactly if its value is the checksum of the bytes before it. -/
theorem checkCrc_eq_ok_iff {before value : List UInt8} {crc : UInt32} :
    checkCrc before value = .ok crc ↔ crc = Crc32.checksum before ∧ value = bytes32 crc := by
  constructor
  · intro h
    unfold checkCrc at h
    split at h
    · dsimp only at h
      split at h
      · rename_i heq
        cases h
        exact ⟨heq, (bytes32_word32 _ _ _ _).symm⟩
      · cases h
    · cases h
  · rintro ⟨rfl, rfl⟩
    simp [checkCrc, bytes32, word32_bytes32]

/-! ## Fields -/

/-- Can a field be written as a code, a size of one byte and a value, in front of the checksum? -/
structure Field.Writable (f : Field) : Prop where
  code : f.code ≠ Code.crc
  size : f.value.length ≤ 255

theorem Field.Fits.writable {f : Field} (fits : f.Fits) : f.Writable :=
  ⟨fits.code, fits.size⟩

/-- A field that a record takes fits its code. -/
theorem Field.Writable.fits {f : Field} (writable : f.Writable) {info' : Info}
    (hset : info.set f = .ok info') : f.Fits := by
  obtain ⟨code, value⟩ := f
  refine ⟨writable.code, writable.size, ?_, ?_, ?_⟩
  · rintro rfl
    simp +decide only [Info.set, if_true, if_false] at hset
    split at hset
    · assumption
    · cases hset
  -- the two numbers have as many bytes as the record asks for
  all_goals
    rintro rfl
    simp +decide only [Info.set, if_true, if_false] at hset
    split at hset
    · rfl
    · cases hset

/-- Setting fields that fit one after the other gives the record of all of them. -/
theorem foldlM_set (fit : ∀ f ∈ fields, f.Fits) (done : List Field) (crc : UInt32) :
    fields.foldlM Info.set (Info.ofFields done crc) = .ok (Info.ofFields (done ++ fields) crc) := by
  induction fields generalizing done with
  | nil => simp [pure, Except.pure]
  | cons f fields ih =>
    rw [List.foldlM_cons, set_ofFields (fit f List.mem_cons_self) done crc]
    have hrest := ih (fun g hg => fit g (List.mem_cons_of_mem f hg)) (done ++ [f])
    rwa [List.append_assoc] at hrest

/-- A code, a size and as many bytes are a field. -/
theorem encode_take {rest : List UInt8} {size : UInt8} (h : ¬rest.length < size.toNat)
    (code : UInt8) :
    Field.encode ⟨code, rest.take size.toNat⟩ = code :: size :: rest.take size.toNat := by
  rw [Field.encode, List.length_take_of_le (Nat.not_lt.1 h), UInt8.ofNat_toNat]

/-- **What the reader takes in are fields that fit, and a checksum field behind them** with the
checksum of all bytes so far. -/
theorem decodeFields_eq_ok {bound : Nat} {before area : List UInt8} {done : List Field}
    (h : decodeFields bound before (Info.ofFields done 0) area = .ok info) :
    ∃ fields behind crc, (∀ f ∈ fields, f.Fits) ∧
      crc = Crc32.checksum (before ++ encodeFields fields ++ [Code.crc, 4]) ∧
      area = encodeFields fields ++ Code.crc :: 4 :: (bytes32 crc ++ behind) ∧
      info = Info.ofFields (done ++ fields) crc := by
  induction bound generalizing before area done with
  | zero => cases h
  | succ bound ih =>
    match area with
    | [] => cases h
    | [_] => cases h
    | code :: size :: rest =>
      rw [decodeFields] at h
      split at h
      · cases h
      rename_i hlong
      dsimp only at h
      split at h
      · rename_i hcode
        cases hcheck : checkCrc (before ++ [code, size]) (rest.take size.toNat) with
        | error e =>
          rw [hcheck] at h
          cases h
        | ok crc =>
          rw [hcheck] at h
          cases h
          obtain ⟨hcrc, hvalue⟩ := checkCrc_eq_ok_iff.1 hcheck
          have hsize : size = 4 := by
            have hlen := congrArg List.length hvalue
            rw [List.length_take_of_le (Nat.not_lt.1 hlong)] at hlen
            exact UInt8.toNat_inj.1 hlen
          subst hcode hsize
          refine ⟨[], rest.drop 4, crc, by simp, ?_, ?_, ?_⟩
          · simpa [encodeFields] using hcrc
          · rw [← hvalue]
            simp [encodeFields]
          · simp [Info.ofFields]
      · rename_i hcode
        split at h
        · cases h
        rename_i info' hset
        have hsize : (rest.take size.toNat).length ≤ 255 := by
          rw [List.length_take_of_le (Nat.not_lt.1 hlong)]
          exact Nat.le_of_lt_succ size.toNat_lt
        have fits := Field.Writable.fits ⟨hcode, hsize⟩ hset
        cases hset.symm.trans (set_ofFields fits done 0)
        obtain ⟨fields, behind, crc, fit, hcrc, harea, hinfo⟩ := ih h
        have hencode := encode_take hlong code
        refine ⟨⟨code, rest.take size.toNat⟩ :: fields, behind, crc, ?_, ?_, ?_, ?_⟩
        · exact List.forall_mem_cons.2 ⟨fits, fit⟩
        · rw [hcrc, encodeFields_cons, hencode]
          simp only [List.append_assoc, List.cons_append, List.nil_append]
        · rw [encodeFields_cons, hencode]
          simp only [List.cons_append, List.append_assoc, ← harea, List.take_append_drop]
        · rw [hinfo, List.append_assoc]
          rfl

/-! ## Sealed fields -/

/-- What a checksum covers: the header of an area of a given size, fields, and the head of the
checksum field. -/
def coveredIn (areaSize : Nat) (fields : List Field) : List UInt8 :=
  header areaSize ++ encodeFields fields ++ [Code.crc, 4]

/-- The header of an area of a given size, fields, and the checksum field over all that. -/
def sealed (areaSize : Nat) (fields : List Field) : List UInt8 :=
  coveredIn areaSize fields ++ bytes32 (Crc32.checksum (coveredIn areaSize fields))

theorem encode_eq_sealed (fields : List Field) :
    encode fields = sealed ((encodeFields fields).length + crcFieldSize) fields :=
  rfl

theorem sealed_append (areaSize : Nat) (fields : List Field) (rest : List UInt8) :
    sealed areaSize fields ++ rest = header areaSize ++ (encodeFields fields ++
      Code.crc :: 4 :: (bytes32 (Crc32.checksum (coveredIn areaSize fields)) ++ rest)) := by
  simp [sealed, coveredIn]

theorem length_sealed (areaSize : Nat) (fields : List Field) :
    (sealed areaSize fields).length =
      headerSize + ((encodeFields fields).length + crcFieldSize) := by
  simp [sealed, coveredIn, bytes32, length_header, crcFieldSize]

/-- The bytes of a field are those of no other field, and end where they end. -/
theorem encode_append_inj {f g : Field} (hf : f.Writable) (hg : g.Writable)
    {rest rest' : List UInt8} (h : f.encode ++ rest = g.encode ++ rest') : f = g ∧ rest = rest' := by
  obtain ⟨code, value⟩ := f
  obtain ⟨code', value'⟩ := g
  simp only [Field.encode, List.cons_append, List.cons.injEq] at h
  obtain ⟨rfl, hsize, h⟩ := h
  have hlen : value.length = value'.length := by
    have hnat := congrArg UInt8.toNat hsize
    have hle : value.length ≤ 255 := hf.size
    have hle' : value'.length ≤ 255 := hg.size
    rw [UInt8.toNat_ofNat', UInt8.toNat_ofNat'] at hnat
    omega
  obtain ⟨rfl, hrest⟩ := List.append_inj h hlen
  exact ⟨rfl, hrest⟩

/-- The bytes of fields, up to the checksum field, are those of no other fields. -/
theorem eq_of_encodeFields_append {fs gs : List Field} (hfs : ∀ f ∈ fs, f.Writable)
    (hgs : ∀ g ∈ gs, g.Writable) {rest rest' : List UInt8}
    (h : encodeFields fs ++ Code.crc :: rest = encodeFields gs ++ Code.crc :: rest') : fs = gs := by
  induction fs generalizing gs with
  | nil =>
    cases gs with
    | nil => rfl
    | cons g gs => exact absurd (List.cons.inj h).1.symm (hgs g List.mem_cons_self).code
  | cons f fs ih =>
    cases gs with
    | nil => exact absurd (List.cons.inj h).1 (hfs f List.mem_cons_self).code
    | cons g gs =>
      obtain ⟨hf, hfs'⟩ := List.forall_mem_cons.1 hfs
      obtain ⟨hg, hgs'⟩ := List.forall_mem_cons.1 hgs
      rw [encodeFields_cons, encodeFields_cons, List.append_assoc, List.append_assoc] at h
      obtain ⟨rfl, hrest⟩ := encode_append_inj hf hg h
      rw [ih hfs' hgs' hrest]

/-- **No two lists of fields lie sealed at the front of one string.** -/
theorem eq_of_sealed {fs gs : List Field} (hfs : ∀ f ∈ fs, f.Writable) (hgs : ∀ g ∈ gs, g.Writable)
    {m n : Nat} (hf : sealed m fs <+: bs) (hg : sealed n gs <+: bs) : fs = gs := by
  obtain ⟨rest, rfl⟩ := hf
  obtain ⟨rest', h⟩ := hg
  rw [sealed_append, sealed_append] at h
  have harea := (List.append_inj h (by rw [length_header, length_header])).2
  exact (eq_of_encodeFields_append hgs hfs harea).symm

/-! ## Accepted strings -/

/-- **A string is accepted exactly if fields that fit lie sealed at its front**, under the header of
an area that holds them; what is behind them in the area, and behind the area, is free. -/
theorem decode_eq_ok_iff :
    decode bs = .ok info ↔
      ∃ areaSize fields behind trailing, (∀ f ∈ fields, f.Fits) ∧
        bs = sealed areaSize fields ++ behind ++ trailing ∧
        (sealed areaSize fields ++ behind).length = headerSize + areaSize ∧
        headerSize + areaSize ≤ maxImage ∧
        info = Info.ofFields fields (Crc32.checksum (coveredIn areaSize fields)) := by
  constructor
  · intro h
    cases hsize : imageSize bs with
    | error e =>
      rw [decode, hsize] at h
      cases h
    | ok size =>
      by_cases hlen : bs.length < size
      · cases h.symm.trans (decode_cut hsize hlen)
      obtain ⟨area, trailing, rfl, rfl, hmax⟩ := exists_area hsize (Nat.not_lt.1 hlen)
      have hfields : decodeFields (area.length + 1) (header area.length) (Info.ofFields [] 0) area =
          .ok info := (decode_area hmax trailing).symm.trans h
      obtain ⟨fields, behind, crc, fit, hcrc, harea, hinfo⟩ := decodeFields_eq_ok hfields
      have hcovered : crc = Crc32.checksum (coveredIn area.length fields) := hcrc
      have himage : header area.length ++ area = sealed area.length fields ++ behind := by
        rw [sealed_append, ← hcovered, ← harea]
      refine ⟨area.length, fields, behind, trailing, fit, ?_, ?_, hmax, ?_⟩
      · rw [himage]
      · rw [← himage, List.length_append, length_header]
      · rw [← hcovered]
        exact hinfo
  · rintro ⟨areaSize, fields, behind, trailing, fit, rfl, hlen, hmax, rfl⟩
    rw [sealed_append] at hlen ⊢
    rw [List.length_append, length_header] at hlen
    have harea := Nat.add_left_cancel hlen
    have hbound : fields.length < areaSize + 1 := by
      have hfields := length_le_encodeFields fields
      rw [List.length_append] at harea
      omega
    have hdecode := decode_area (harea.symm ▸ hmax) trailing
    rw [harea] at hdecode
    rw [hdecode]
    exact decodeFields_closed fit hbound rfl behind

/-- **What the reader accepts, and how.** It answers every byte string without looking for a byte
that is not there. In a string that it accepts, one list of fields and no other lies sealed at the
front, inside the announced area, and the record is what setting these fields one after the other
gives, with their checksum. What is behind the announced area has no part in the answer. -/
theorem decode_reads_fields (bs : List UInt8) :
    decodeByPosition? bs = some (decode bs) ∧
    (∀ info, decode bs = .ok info → ∃ areaSize fields said,
      imageSize bs = .ok (headerSize + areaSize) ∧
      (∀ f ∈ fields, f.Writable) ∧
      sealed areaSize fields <+: bs.take (headerSize + areaSize) ∧
      fields.foldlM Info.set {} = .ok said ∧
      info = { said with crc := Crc32.checksum (coveredIn areaSize fields) } ∧
      ∀ other, (∀ f ∈ other, f.Writable) → sealed areaSize other <+: bs → other = fields) ∧
    (∀ size, imageSize bs = .ok size → size ≤ bs.length → decode (bs.take size) = decode bs) := by
  refine ⟨decodeByPosition?_eq bs, fun info h => ?_, fun size => decode_take⟩
  obtain ⟨areaSize, fields, behind, trailing, fit, rfl, hlen, hmax, rfl⟩ := decode_eq_ok_iff.1 h
  have writable : ∀ f ∈ fields, f.Writable := fun f hf => (fit f hf).writable
  refine ⟨areaSize, fields, Info.ofFields fields 0, ?_, writable, ?_, foldlM_set fit [] 0, rfl, ?_⟩
  · rw [List.append_assoc, sealed_append]
    exact imageSize_header hmax _
  · rw [List.take_left' hlen]
    exact List.prefix_append _ _
  · intro other hother hprefix
    have hsealed : sealed areaSize fields <+: sealed areaSize fields ++ behind ++ trailing := by
      rw [List.append_assoc]
      exact List.prefix_append _ _
    exact eq_of_sealed hother writable hprefix hsealed

/-- A product name, and two bytes behind the image. -/
theorem productName_reads_fields :
    let bs := encode [⟨Code.productName, [0x51]⟩] ++ [0xFF, 0xFF]
    decode bs = .ok { productName := some "Q", crc := 0xC9D780BB } ∧
      (∃ areaSize fields said, imageSize bs = .ok (headerSize + areaSize) ∧
        sealed areaSize fields <+: bs.take (headerSize + areaSize) ∧
        fields.foldlM Info.set {} = .ok said ∧ said.productName = some "Q") ∧
      decode (bs.take 20) = decode bs := by
  intro bs
  have hdecode : decode bs = .ok { productName := some "Q", crc := 0xC9D780BB } := by
    decide +kernel
  obtain ⟨-, haccepted, htake⟩ := decode_reads_fields bs
  obtain ⟨areaSize, fields, said, hsize, -, hprefix, hsaid, hinfo, -⟩ := haccepted _ hdecode
  refine ⟨hdecode, ⟨areaSize, fields, said, hsize, hprefix, hsaid, ?_⟩, htake 20 ?_ ?_⟩
  · exact (congrArg Info.productName hinfo).symm
  · decide +kernel
  · decide +kernel

end SwitchPlatform.Onie
