import SwitchPlatform.Onie.Basic

/-!
# Images of system EEPROMs

`decode` reads an image: the header announces the size of the area, fields are taken from its
front, and the checksum field ends the reading, whatever follows it. `encode` writes the image of
a list of fields.
-/

namespace SwitchPlatform.Onie

/-- The size of the image that a header announces, header included. -/
def imageSize (bs : List UInt8) : Except Error Nat :=
  if bs.length < headerSize ∨ bs.take 8 ≠ magic then .error .badHeader
  else if bs.getD 8 0 ≠ version then .error (.unsupportedVersion (bs.getD 8 0))
  else
    let size := headerSize + word16 (bs.getD 9 0) (bs.getD 10 0)
    if maxImage < size then .error (.tooLong size) else .ok size

/-- Checks the value of a checksum field against the bytes before it. -/
def checkCrc (before value : List UInt8) : Except Error UInt32 :=
  match value with
  | [a, b, c, d] =>
    let stored := word32 a b c d
    let computed := Crc32.checksum before
    if stored = computed then .ok stored else .error (.badCrc stored computed)
  | _ => .error (.badField Code.crc value.length)

/-- Reads the fields at the front of `area` up to the checksum field; `before` are the bytes in
front of them. The number bounds the fields still to be read. -/
def decodeFields : Nat → List UInt8 → Info → List UInt8 → Except Error Info
  | 0, _, _, _ => .error .missingCrc
  | _ + 1, _, _, [] => .error .missingCrc
  | _ + 1, _, _, [_] => .error .truncated
  | bound + 1, before, info, code :: size :: rest =>
    if rest.length < size.toNat then .error .truncated
    else
      let value := rest.take size.toNat
      if code = Code.crc then
        (checkCrc (before ++ [code, size]) value).map fun crc => { info with crc := crc }
      else
        match info.set ⟨code, value⟩ with
        | .error e => .error e
        | .ok info' =>
          decodeFields bound (before ++ [code, size] ++ value) info' (rest.drop size.toNat)

/-- Reads and checks an image; what follows the announced area does not matter. -/
def decode (bs : List UInt8) : Except Error Info :=
  match imageSize bs with
  | .error e => .error e
  | .ok size =>
    if bs.length < size then .error .truncated
    else
      let area := (bs.take size).drop headerSize
      decodeFields (area.length + 1) (bs.take headerSize) {} area

/-- The bytes of a field. -/
def Field.encode (f : Field) : List UInt8 :=
  f.code :: UInt8.ofNat f.value.length :: f.value

/-- A number as four bytes, the highest one first. -/
def bytes32 (n : UInt32) : List UInt8 :=
  [(n >>> 24).toUInt8, (n >>> 16).toUInt8, (n >>> 8).toUInt8, n.toUInt8]

/-- The header of an image with an area of a given size. -/
def header (areaSize : Nat) : List UInt8 :=
  magic ++ [version, UInt8.ofNat (areaSize / 256), UInt8.ofNat areaSize]

/-- The bytes of a list of fields. -/
def encodeFields (fields : List Field) : List UInt8 :=
  fields.flatMap Field.encode

/-- The size of the checksum field. -/
def crcFieldSize : Nat := 6

/-- The image of a list of fields, closed by the checksum field. -/
def encode (fields : List Field) : List UInt8 :=
  let before := header ((encodeFields fields).length + crcFieldSize) ++ encodeFields fields ++
    [Code.crc, 4]
  before ++ bytes32 (Crc32.checksum before)

end SwitchPlatform.Onie
