import SwitchPlatform.Onie.Crc32
import SwitchPlatform.Status
import SwitchPlatform.Text.Blank
import SwitchPlatform.Text.Numeral
import SwitchPlatform.Text.Utf8

/-!
# System EEPROMs

The contents of a system EEPROM: a header of an id, a version and the length of the area behind
it, and in the area fields of a code, a length and a value, closed by a field with the CRC-32 of
everything before its value. This module holds the fields, the record of what they say
(`Onie.Info`), the reasons to reject an image, and the text of a record.
-/

namespace SwitchPlatform.Onie

/-- A field of an image. -/
structure Field where
  code : UInt8
  value : List UInt8
  deriving DecidableEq

/-- What opens every image: the letters `TlvInfo` and a zero. -/
def magic : List UInt8 := [0x54, 0x6C, 0x76, 0x49, 0x6E, 0x66, 0x6F, 0x00]

/-- The only version. -/
def version : UInt8 := 1

/-- The size of the header. -/
def headerSize : Nat := 11

/-- The size of the largest image. -/
def maxImage : Nat := 2048

/-- Codes of fields. -/
def Code.productName : UInt8 := 0x21

def Code.partNumber : UInt8 := 0x22

def Code.serialNumber : UInt8 := 0x23

def Code.macBase : UInt8 := 0x24

def Code.manufactureDate : UInt8 := 0x25

def Code.deviceVersion : UInt8 := 0x26

def Code.labelRevision : UInt8 := 0x27

def Code.platformName : UInt8 := 0x28

def Code.onieVersion : UInt8 := 0x29

def Code.macCount : UInt8 := 0x2A

def Code.manufacturer : UInt8 := 0x2B

def Code.countryCode : UInt8 := 0x2C

def Code.vendor : UInt8 := 0x2D

def Code.diagVersion : UInt8 := 0x2E

def Code.serviceTag : UInt8 := 0x2F

def Code.vendorExtension : UInt8 := 0xFD

def Code.crc : UInt8 := 0xFE

/-- Why an image is rejected. -/
inductive Error
  | badHeader
  | unsupportedVersion (found : UInt8)
  | truncated
  | tooLong (size : Nat)
  | badCrc (stored computed : UInt32)
  | missingCrc
  | badField (code : UInt8) (size : Nat)
  deriving DecidableEq

namespace Error

/-- The text of a rejection. -/
def message : Error → String
  | badHeader => "missing TlvInfo id"
  | unsupportedVersion found => "unsupported TlvInfo version " ++ toString found.toNat
  | truncated => "image truncated"
  | tooLong size =>
    "announced length " ++ toString size ++ " exceeds " ++ toString maxImage ++ " bytes"
  | badCrc stored computed =>
    "bad CRC: stored " ++ Text.prefixedHex 8 stored.toNat ++
      ", computed " ++ Text.prefixedHex 8 computed.toNat
  | missingCrc => "no CRC-32 TLV"
  | badField code size =>
    "TLV " ++ Text.prefixedHex 2 code.toNat ++ " has invalid length " ++ toString size

/-- The status that a rejection amounts to. -/
def status (_ : Error) : StatusError := .invalid

end Error

/-- What the fields of an image say. -/
structure Info where
  productName : Option String := none
  partNumber : Option String := none
  serialNumber : Option String := none
  macBase : Option (List UInt8) := none
  manufactureDate : Option String := none
  deviceVersion : Option UInt8 := none
  labelRevision : Option String := none
  platformName : Option String := none
  onieVersion : Option String := none
  macCount : Option Nat := none
  manufacturer : Option String := none
  countryCode : Option String := none
  vendor : Option String := none
  diagVersion : Option String := none
  serviceTag : Option String := none
  /-- The values of the vendor extension fields, in their order. -/
  vendorExtensions : List (List UInt8) := []
  crc : UInt32 := 0
  deriving DecidableEq

/-- The text of a value, without the zeros at its end. -/
def fieldText (value : List UInt8) : String :=
  String.ofList (Text.dropTrailing (· == '\x00') (Text.Utf8.decodeLossy value).toList)

/-- A number of two bytes, the high one first. -/
def word16 (high low : UInt8) : Nat :=
  high.toNat * 256 + low.toNat

/-- A number of four bytes, the highest one first. -/
def word32 (a b c d : UInt8) : UInt32 :=
  a.toUInt32 <<< 24 ||| b.toUInt32 <<< 16 ||| c.toUInt32 <<< 8 ||| d.toUInt32

/-- A record with what one more field says. A later field replaces an earlier one of the same
code, vendor extensions add up, and a field with an unknown code says nothing. -/
def Info.set (info : Info) (f : Field) : Except Error Info :=
  let bad : Except Error Info := .error (.badField f.code f.value.length)
  if f.code = Code.productName then .ok { info with productName := some (fieldText f.value) }
  else if f.code = Code.partNumber then .ok { info with partNumber := some (fieldText f.value) }
  else if f.code = Code.serialNumber then
    .ok { info with serialNumber := some (fieldText f.value) }
  else if f.code = Code.macBase then
    if f.value.length = 6 then .ok { info with macBase := some f.value } else bad
  else if f.code = Code.manufactureDate then
    .ok { info with manufactureDate := some (fieldText f.value) }
  else if f.code = Code.deviceVersion then
    match f.value with
    | [v] => .ok { info with deviceVersion := some v }
    | _ => bad
  else if f.code = Code.labelRevision then
    .ok { info with labelRevision := some (fieldText f.value) }
  else if f.code = Code.platformName then
    .ok { info with platformName := some (fieldText f.value) }
  else if f.code = Code.onieVersion then
    .ok { info with onieVersion := some (fieldText f.value) }
  else if f.code = Code.macCount then
    match f.value with
    | [high, low] => .ok { info with macCount := some (word16 high low) }
    | _ => bad
  else if f.code = Code.manufacturer then
    .ok { info with manufacturer := some (fieldText f.value) }
  else if f.code = Code.countryCode then
    .ok { info with countryCode := some (fieldText f.value) }
  else if f.code = Code.vendor then .ok { info with vendor := some (fieldText f.value) }
  else if f.code = Code.diagVersion then
    .ok { info with diagVersion := some (fieldText f.value) }
  else if f.code = Code.serviceTag then
    .ok { info with serviceTag := some (fieldText f.value) }
  else if f.code = Code.vendorExtension then
    .ok { info with vendorExtensions := info.vendorExtensions ++ [f.value] }
  else .ok info

/-- A labelled line, or nothing without a value. -/
def labelledLine (label : String) (value : Option String) : String :=
  match value with
  | some v => label ++ ": " ++ v ++ "\n"
  | none => ""

/-- The line of one vendor extension. -/
def extensionLine (value : List UInt8) : String :=
  "Vendor Extension:" ++ String.join (value.map fun b => " " ++ Text.hexByte b) ++ "\n"

/-- A record as lines of text; the last line, with the checksum, is open. -/
def Info.text (info : Info) : String :=
  labelledLine "Product Name" info.productName ++
  labelledLine "Part Number" info.partNumber ++
  labelledLine "Serial Number" info.serialNumber ++
  labelledLine "Manufacture Date" info.manufactureDate ++
  labelledLine "Label Revision" info.labelRevision ++
  labelledLine "Platform Name" info.platformName ++
  labelledLine "ONIE Version" info.onieVersion ++
  labelledLine "Manufacturer" info.manufacturer ++
  labelledLine "Country Code" info.countryCode ++
  labelledLine "Vendor" info.vendor ++
  labelledLine "Diag Version" info.diagVersion ++
  labelledLine "Service Tag" info.serviceTag ++
  labelledLine "MAC" (info.macBase.map fun mac => ":".intercalate (mac.map Text.hexByte)) ++
  labelledLine "MAC Range" (info.macCount.map toString) ++
  labelledLine "Device Version" (info.deviceVersion.map fun v => toString v.toNat) ++
  String.join (info.vendorExtensions.map extensionLine) ++
  "CRC: " ++ Text.prefixedHex 8 info.crc.toNat

end SwitchPlatform.Onie
