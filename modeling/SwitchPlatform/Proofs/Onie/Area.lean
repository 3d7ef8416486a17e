import Mathlib.Data.List.GetD
import Mathlib.Tactic
import SwitchPlatform.Proofs.Onie.RoundTrip

/-!
# The announced area

What the header of a byte string announces depends on the header alone (`imageSize_append`), and a
string announces an image of some size exactly if it opens with the header of an area of that size
(`imageSize_eq_ok_iff`). If the area is there, reading the image is reading the fields of the area
(`decode_area`), so the bytes behind the area have no part in it (`decode_take`). If the area or the
header is cut off (`IsCutOff`), there is no image to read.
-/

namespace SwitchPlatform.Onie

variable {bs : List UInt8} {size : Nat}

/-! ## Headers -/

theorem drop_eq_getD_cons {i : Nat} (h : i < bs.length) :
    bs.drop i = bs.getD i 0 :: bs.drop (i + 1) := by
  rw [List.drop_eq_getElem_cons h, List.getD_eq_getElem bs 0 h]

/-- Eleven bytes with the id and the version in front are the header of the area they announce. -/
theorem eq_header (hlen : headerSize ≤ bs.length) (hmagic : bs.take 8 = magic)
    (hversion : bs.getD 8 0 = version) :
    bs = header (word16 (bs.getD 9 0) (bs.getD 10 0)) ++ bs.drop headerSize := by
  have hlen' : 11 ≤ bs.length := hlen
  obtain ⟨hhigh, hlow⟩ := ofNat_word16 (bs.getD 9 0) (bs.getD 10 0)
  calc bs = bs.take 8 ++ bs.drop 8 := (List.take_append_drop 8 bs).symm
    _ = magic ++ version :: bs.getD 9 0 :: bs.getD 10 0 :: bs.drop headerSize := by
      rw [hmagic, drop_eq_getD_cons (by omega), hversion, drop_eq_getD_cons (by omega),
        drop_eq_getD_cons (by omega)]
      rfl
    _ = header (word16 (bs.getD 9 0) (bs.getD 10 0)) ++ bs.drop headerSize := by
      rw [header, hhigh, hlow]
      rfl

theorem header_inj {m n : Nat} (hm : m < 65536) (hn : n < 65536) (h : header m = header n) :
    m = n := by
  have hbytes := List.append_cancel_left h
  simp only [List.cons.injEq] at hbytes
  rw [← word16_ofNat hm, ← word16_ofNat hn, hbytes.2.1, hbytes.2.2.1]

/-- A string announces an image exactly if it opens with the header of its area. -/
theorem imageSize_eq_ok_iff :
    imageSize bs = .ok size ↔
      ∃ areaSize rest, bs = header areaSize ++ rest ∧ size = headerSize + areaSize ∧
        size ≤ maxImage := by
  constructor
  · intro h
    unfold imageSize at h
    split at h
    · cases h
    · rename_i hopening
      rw [not_or, not_not, Nat.not_lt] at hopening
      split at h
      · cases h
      · rename_i hversion
        dsimp only at h
        split at h
        · cases h
        · rename_i hsize
          cases h
          exact ⟨_, _, eq_header hopening.1 hopening.2 (not_not.1 hversion), rfl,
            Nat.not_lt.1 hsize⟩
  · rintro ⟨areaSize, rest, rfl, rfl, hsize⟩
    exact imageSize_header hsize rest

/-- What a header announces does not depend on what is behind it. -/
theorem imageSize_append (hlen : headerSize ≤ bs.length) (rest : List UInt8) :
    imageSize (bs ++ rest) = imageSize bs := by
  have hshort : ¬(bs ++ rest).length < headerSize := by
    rw [List.length_append]
    omega
  have hget : ∀ i, i < headerSize → (bs ++ rest).getD i 0 = bs.getD i 0 := fun i hi =>
    List.getD_append bs rest 0 i (by omega)
  have htake : (bs ++ rest).take 8 = bs.take 8 :=
    List.take_append_of_le_length (le_trans (by decide) hlen)
  rw [imageSize, imageSize, hget 8 (by decide), hget 9 (by decide), hget 10 (by decide), htake]
  simp only [hshort, Nat.not_lt.2 hlen, false_or]

/-! ## Images in a string -/

/-- The image that a string announces, if all of it is there. -/
theorem exists_area (h : imageSize bs = .ok size) (hlen : size ≤ bs.length) :
    ∃ area behind, bs = header area.length ++ area ++ behind ∧ size = headerSize + area.length ∧
      size ≤ maxImage := by
  obtain ⟨areaSize, rest, rfl, rfl, hmax⟩ := imageSize_eq_ok_iff.1 h
  have hrest : areaSize ≤ rest.length := by
    rw [List.length_append, length_header] at hlen
    omega
  refine ⟨rest.take areaSize, rest.drop areaSize, ?_⟩
  rw [List.length_take_of_le hrest, List.append_assoc, List.take_append_drop]
  exact ⟨rfl, rfl, hmax⟩

/-- Reading an image is reading the fields of its area. -/
theorem decode_area {area : List UInt8} (hmax : headerSize + area.length ≤ maxImage)
    (behind : List UInt8) :
    decode (header area.length ++ area ++ behind) =
      decodeFields (area.length + 1) (header area.length) {} area := by
  have hsize : imageSize (header area.length ++ area ++ behind) =
      .ok (headerSize + area.length) := by
    rw [List.append_assoc]
    exact imageSize_header hmax _
  have himage : (header area.length ++ area).length = headerSize + area.length := by
    rw [List.length_append, length_header]
  have hlong : ¬(header area.length ++ area ++ behind).length < headerSize + area.length := by
    rw [List.length_append, himage]
    omega
  have htake : (header area.length ++ area ++ behind).take headerSize = header area.length := by
    rw [List.append_assoc]
    exact List.take_left' (length_header _)
  have harea : ((header area.length ++ area ++ behind).take (headerSize + area.length)).drop
      headerSize = area := by
    rw [List.take_left' himage]
    exact List.drop_left' (length_header _)
  simp only [decode, hsize, hlong, if_false, htake, harea]

/-- An image of which a part is missing is rejected. -/
theorem decode_cut (h : imageSize bs = .ok size) (hlen : bs.length < size) :
    decode bs = .error .truncated := by
  simp only [decode, h, hlen, if_true]

/-- Is a part of the header missing, or a part of the image that it announces? -/
def IsCutOff (bs : List UInt8) : Prop :=
  bs.length < headerSize ∨ ∃ size, imageSize bs = .ok size ∧ bs.length < size

theorem IsCutOff.exists_error (h : IsCutOff bs) : ∃ e, decode bs = .error e := by
  obtain hshort | ⟨size, hsize, hlen⟩ := h
  · refine ⟨.badHeader, ?_⟩
    rw [decode, imageSize, if_pos (Or.inl hshort)]
  · exact ⟨.truncated, decode_cut hsize hlen⟩

/-- The bytes behind the announced area have no part in an image. -/
theorem decode_take (h : imageSize bs = .ok size) (hlen : size ≤ bs.length) :
    decode (bs.take size) = decode bs := by
  obtain ⟨area, behind, rfl, rfl, hmax⟩ := exists_area h hlen
  have himage : (header area.length ++ area).length = headerSize + area.length := by
    rw [List.length_append, length_header]
  rw [List.take_left' himage, decode_area hmax, ← decode_area hmax [], List.append_nil]

end SwitchPlatform.Onie
