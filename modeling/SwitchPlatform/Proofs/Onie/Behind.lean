import Mathlib.Tactic
import SwitchPlatform.Proofs.Onie.Accepted

/-!
# Behind the checksum field

The reader ends at the first checksum field, and does not ask whether the announced area ends there
as well. `checksum_last_iff` says for which accepted strings it does: for those that open with an
image as `encode` writes it. In all others the rest of the area is ignored, and may be replaced by
any bytes; `nameBehind_not_last` is such a string.
-/

namespace SwitchPlatform.Onie

variable {bs : List UInt8} {info : Info}

/-- Fields lie sealed at the front of the announced area, with some bytes behind them. -/
structure SealedIn (bs : List UInt8) (areaSize : Nat) (fields : List Field)
    (behind : List UInt8) : Prop where
  announced : imageSize bs = .ok (headerSize + areaSize)
  writable : ∀ f ∈ fields, f.Writable
  image : bs.take (headerSize + areaSize) = sealed areaSize fields ++ behind

/-- An image as it is written, at the front of a string, is the one that the header announces. -/
theorem length_sealed_of_encode {areaSize : Nat} {fields written : List Field}
    (hsize : (sealed areaSize fields).length ≤ headerSize + areaSize)
    (hmax : headerSize + areaSize ≤ maxImage) (writable : ∀ f ∈ fields, f.Writable)
    (fit : ∀ f ∈ written, f.Fits) (hsealed : sealed areaSize fields <+: bs)
    (hwritten : encode written <+: bs) :
    (sealed areaSize fields).length = headerSize + areaSize := by
  rw [encode_eq_sealed] at hwritten
  obtain rfl := eq_of_sealed (fun f hf => (fit f hf).writable) writable hwritten hsealed
  have hheader : header ((encodeFields written).length + crcFieldSize) = header areaSize := by
    obtain ⟨rest, rfl⟩ := hsealed
    obtain ⟨rest', h⟩ := hwritten
    rw [sealed_append, sealed_append] at h
    exact (List.append_inj h (by rw [length_header, length_header])).1
  rw [length_sealed] at hsize ⊢
  simp only [headerSize, maxImage] at hmax hsize
  rw [header_inj (by omega) (by omega) hheader]

/-- **The checksum field of an accepted image is the last one of the announced area exactly if the
string opens with an image as it is written.** What is behind the checksum field is ignored: any
bytes in its place give the same record. -/
theorem checksum_last_iff (h : decode bs = .ok info) :
    ∃ areaSize fields behind, SealedIn bs areaSize fields behind ∧
      ((sealed areaSize fields).length = headerSize + areaSize ↔
        ∃ written, (∀ f ∈ written, f.Fits) ∧ encode written <+: bs) ∧
      ∀ other trailing, other.length = behind.length →
        decode (sealed areaSize fields ++ other ++ trailing) = .ok info := by
  obtain ⟨areaSize, fields, behind, trailing, fit, rfl, hlen, hmax, rfl⟩ := decode_eq_ok_iff.1 h
  have writable : ∀ f ∈ fields, f.Writable := fun f hf => (fit f hf).writable
  have hsealed : sealed areaSize fields <+: sealed areaSize fields ++ behind ++ trailing := by
    rw [List.append_assoc]
    exact List.prefix_append _ _
  have hle : (sealed areaSize fields).length ≤ headerSize + areaSize := by
    rw [← hlen, List.length_append]
    exact Nat.le_add_right _ _
  refine ⟨areaSize, fields, behind, ⟨?_, writable, List.take_left' hlen⟩, ⟨?_, ?_⟩, ?_⟩
  · rw [List.append_assoc, sealed_append]
    exact imageSize_header hmax _
  · intro hlast
    have harea : (encodeFields fields).length + crcFieldSize = areaSize := by
      rw [length_sealed] at hlast
      exact Nat.add_left_cancel hlast
    refine ⟨fields, fit, ?_⟩
    rwa [encode_eq_sealed, harea]
  · rintro ⟨written, hwritten, hprefix⟩
    exact length_sealed_of_encode hle hmax writable hwritten hsealed hprefix
  · intro other trailing' hother
    refine decode_eq_ok_iff.2 ⟨areaSize, fields, other, trailing', fit, rfl, ?_, hmax, rfl⟩
    rw [← hlen, List.length_append, List.length_append, hother]

/-- The header of an area of nine bytes, the checksum field, and a product name behind it. -/
def nameBehind : List UInt8 :=
  sealed 9 [] ++ Field.encode ⟨Code.productName, [0x51]⟩

theorem decode_nameBehind : decode nameBehind = .ok { crc := 0xDF1F5B25 } := by
  decide +kernel

/-- Any three bytes may stand in the place of that name. -/
theorem nameBehind_checksum_last_iff :
    decode nameBehind = .ok { crc := 0xDF1F5B25 } ∧
      ∃ areaSize fields behind, SealedIn nameBehind areaSize fields behind ∧
        ((sealed areaSize fields).length = headerSize + areaSize ↔
          ∃ written, (∀ f ∈ written, f.Fits) ∧ encode written <+: nameBehind) ∧
        ∀ other trailing, other.length = behind.length →
          decode (sealed areaSize fields ++ other ++ trailing) = .ok { crc := 0xDF1F5B25 } :=
  ⟨decode_nameBehind, checksum_last_iff decode_nameBehind⟩

/-- That string is accepted, and its checksum ends three bytes in front of the end of its image. -/
theorem nameBehind_not_last :
    decode nameBehind = .ok { crc := 0xDF1F5B25 } ∧ imageSize nameBehind = .ok 20 ∧
      SealedIn nameBehind 9 [] (Field.encode ⟨Code.productName, [0x51]⟩) ∧
      (sealed 9 []).length ≠ 20 := by
  refine ⟨decode_nameBehind, ?_, ⟨?_, by simp, ?_⟩, ?_⟩ <;> decide +kernel

end SwitchPlatform.Onie
