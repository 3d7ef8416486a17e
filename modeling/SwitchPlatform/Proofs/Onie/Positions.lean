import Mathlib.Tactic
import SwitchPlatform.Proofs.Onie.Area

/-!
# Images read by position

The same reader over the whole byte string, with a position that moves through the announced area:
every byte is looked up by its index and every value is cut out between two of them. A look-up that
finds nothing there ends the reading without an answer (`none`), so an answer says that all indices
were in range; the recursion is on what is left of the area and needs no bound.

* `readFrom?_eq`: from any position inside the area, the reader by position answers as the one that
  takes fields from the front, whatever bound the latter has beyond the bytes left.
* `decodeByPosition?_eq`: hence it answers every byte string, as `decode` does.
-/

namespace SwitchPlatform.Onie

/-- The bytes from one index up to another, if all of them are there. -/
def slice? (bs : List UInt8) (start stop : Nat) : Option (List UInt8) :=
  if start ≤ stop ∧ stop ≤ bs.length then some ((bs.drop start).take (stop - start)) else none

/-- The value of `len` bytes from an index on, unless it ends behind the string or the area. -/
def value? (bs : List UInt8) (size start len : Nat) : Option (List UInt8) :=
  (slice? bs start (start + len)).filter fun _ => start + len ≤ size

/-- The size of the image that a header announces. -/
def sizeByPosition? (bs : List UInt8) : Option (Except Error Nat) :=
  if bs.length < headerSize then some (.error .badHeader)
  else do
    if (← slice? bs 0 8) ≠ magic then return .error .badHeader
    let found ← bs[8]?
    if found ≠ version then return .error (.unsupportedVersion found)
    let size := headerSize + word16 (← bs[9]?) (← bs[10]?)
    return if maxImage < size then .error (.tooLong size) else .ok size

/-- Reads the fields from a position on, up to the checksum field. A value that is not there
rejects the image; any other byte that is not there ends the reading. -/
def readFrom? (bs : List UInt8) (size pos : Nat) (info : Info) : Option (Except Error Info) :=
  if pos < size then
    if size < pos + 2 then some (.error .truncated)
    else
      match bs[pos]?, bs[pos + 1]? with
      | some code, some len =>
        match value? bs size (pos + 2) len.toNat with
        | none => some (.error .truncated)
        | some value =>
          if code = Code.crc then
            (slice? bs 0 (pos + 2)).map fun before =>
              (checkCrc before value).map fun crc => { info with crc := crc }
          else
            match info.set ⟨code, value⟩ with
            | .error e => some (.error e)
            | .ok info' => readFrom? bs size (pos + 2 + len.toNat) info'
      | _, _ => none
  else some (.error .missingCrc)
termination_by size - pos

/-- Reads and checks an image by position. -/
def decodeByPosition? (bs : List UInt8) : Option (Except Error Info) := do
  match ← sizeByPosition? bs with
  | .error e => return .error e
  | .ok size =>
    if bs.length < size then return .error .truncated else readFrom? bs size headerSize {}

/-! ## Cutting out -/

theorem slice?_append (before mid behind : List UInt8) :
    slice? (before ++ mid ++ behind) before.length (before.length + mid.length) = some mid := by
  have hin : before.length ≤ before.length + mid.length ∧
      before.length + mid.length ≤ (before ++ mid ++ behind).length := by
    simp only [List.length_append]
    omega
  rw [slice?, if_pos hin, List.append_assoc, List.drop_left, Nat.add_sub_cancel_left,
    List.take_left]

theorem slice?_front (before behind : List UInt8) :
    slice? (before ++ behind) 0 before.length = some before := by
  simpa using slice?_append [] before behind

/-- A value inside the area is cut out, and any other one is not there. -/
theorem value?_append (before rest behind : List UInt8) (len : Nat) :
    value? (before ++ rest ++ behind) (before.length + rest.length) before.length len =
      if rest.length < len then none else some (rest.take len) := by
  by_cases hlen : rest.length < len
  · simp [value?, hlen]
  · have htake : (rest.take len).length = len := List.length_take_of_le (Nat.not_lt.1 hlen)
    have hcut :
        before ++ rest ++ behind = before ++ rest.take len ++ (rest.drop len ++ behind) := by
      rw [List.append_assoc, List.append_assoc, ← List.append_assoc (rest.take len),
        List.take_append_drop]
    have hslice : slice? (before ++ rest ++ behind) before.length (before.length + len) =
        some (rest.take len) := by
      have h := slice?_append before (rest.take len) (rest.drop len ++ behind)
      rwa [htake, ← hcut] at h
    rw [value?, if_neg hlen, hslice]
    simp [Nat.not_lt.1 hlen]

/-! ## The header -/

theorem sizeByPosition?_eq (bs : List UInt8) : sizeByPosition? bs = some (imageSize bs) := by
  unfold sizeByPosition? imageSize
  by_cases hshort : bs.length < headerSize
  · rw [if_pos hshort, if_pos (Or.inl hshort)]
  · have hlen : 11 ≤ bs.length := Nat.not_lt.1 hshort
    have hget : ∀ i, i < 11 → bs[i]? = some (bs.getD i 0) := fun i hi => by
      rw [List.getD_eq_getElem bs 0 (by omega), List.getElem?_eq_getElem]
    have hmagic : slice? bs 0 8 = some (bs.take 8) := by
      have h := slice?_front (bs.take 8) (bs.drop 8)
      rwa [List.take_append_drop, List.length_take_of_le (by omega)] at h
    rw [if_neg hshort, hmagic, hget 8 (by decide), hget 9 (by decide), hget 10 (by decide)]
    simp only [hshort, false_or, Option.pure_def, Option.bind_eq_bind, Option.bind_some]
    split
    · rfl
    · split <;> rfl

/-! ## Fields -/

/-- **Inside the area, the reader by position answers as the one that takes fields from the
front.** -/
theorem readFrom?_eq (bound : Nat) (before area behind : List UInt8) (info : Info)
    (hbound : area.length < bound) :
    readFrom? (before ++ area ++ behind) (before.length + area.length) before.length info =
      some (decodeFields bound before info area) := by
  induction bound generalizing before area info with
  | zero => omega
  | succ bound ih =>
    match area with
    | [] =>
      rw [readFrom?, if_neg (by simp)]
      rfl
    | [x] =>
      rw [readFrom?, if_pos (by simp), if_pos (by simp)]
      rfl
    | code :: len :: rest =>
      -- the same string and the same area, seen from behind the head of the field
      have hstring : before ++ code :: len :: rest ++ behind =
          (before ++ [code, len]) ++ rest ++ behind := by simp
      have hhead : (before ++ [code, len]).length = before.length + 2 := by simp
      have hsize : before.length + (code :: len :: rest).length =
          (before ++ [code, len]).length + rest.length := by
        simp only [List.length_cons, hhead]
        omega
      have hcode : ((before ++ [code, len]) ++ rest ++ behind)[before.length]? = some code := by
        simp
      have hlen : ((before ++ [code, len]) ++ rest ++ behind)[before.length + 1]? = some len := by
        simp
      rw [hstring, hsize, readFrom?, if_pos (by omega), if_neg (by omega), hcode, hlen,
        decodeFields, ← hhead]
      dsimp only
      rw [value?_append]
      by_cases hshort : rest.length < len.toNat
      · rw [if_pos hshort, if_pos hshort]
      rw [if_neg hshort, if_neg hshort]
      dsimp only
      by_cases hcrc : code = Code.crc
      · rw [if_pos hcrc, if_pos hcrc, List.append_assoc _ rest, slice?_front]
        rfl
      rw [if_neg hcrc, if_neg hcrc]
      cases info.set ⟨code, rest.take len.toNat⟩ with
      | error e => rfl
      | ok info' =>
        have hvalue : (before ++ [code, len] ++ rest.take len.toNat).length =
            (before ++ [code, len]).length + len.toNat := by
          rw [List.length_append, List.length_take_of_le (Nat.not_lt.1 hshort)]
        have hleft : (before ++ [code, len] ++ rest.take len.toNat).length +
            (rest.drop len.toNat).length = (before ++ [code, len]).length + rest.length := by
          rw [hvalue, List.length_drop]
          omega
        have hrest : before ++ [code, len] ++ rest.take len.toNat ++ rest.drop len.toNat ++ behind =
            before ++ [code, len] ++ rest ++ behind := by
          rw [List.append_assoc _ (rest.take _), List.take_append_drop]
        have hnext := ih (before ++ [code, len] ++ rest.take len.toNat) (rest.drop len.toNat) info'
          (by
            simp only [List.length_cons] at hbound
            rw [List.length_drop]
            omega)
        rwa [hrest, hleft, hvalue] at hnext

/-- **The reader by position answers every byte string**, as `decode` does: no index is out of
range. -/
theorem decodeByPosition?_eq (bs : List UInt8) : decodeByPosition? bs = some (decode bs) := by
  rw [decodeByPosition?, sizeByPosition?_eq]
  cases hsize : imageSize bs with
  | error e => simp [decode, hsize]
  | ok size =>
    by_cases hshort : bs.length < size
    · simp [decode_cut hsize hshort, hshort]
    · obtain ⟨area, behind, rfl, rfl, hmax⟩ := exists_area hsize (Nat.not_lt.1 hshort)
      rw [decode_area hmax]
      simp only [Option.bind_eq_bind, Option.bind_some, hshort, if_false]
      exact readFrom?_eq _ (header area.length) area behind {} (Nat.lt_succ_self _)

end SwitchPlatform.Onie
