/-!
# CRC-32

The checksum of the polynomial `0x04C11DB7` with bits in reflected order, a register that starts
with all bits set, and a complemented result.
-/

namespace SwitchPlatform.Onie.Crc32

/-- The polynomial, least significant coefficient in the highest bit. -/
def polynomial : UInt32 := 0xEDB88320

/-- Shifts one bit out of the register. -/
def shift (register : UInt32) : UInt32 :=
  if register &&& 1 = 1 then (register >>> 1) ^^^ polynomial else register >>> 1

/-- Shifts `n` bits out of the register. -/
def shifts : Nat → UInt32 → UInt32
  | 0, register => register
  | n + 1, register => shifts n (shift register)

/-- Takes one byte into the register. -/
def feed (register : UInt32) (b : UInt8) : UInt32 :=
  shifts 8 (register ^^^ b.toUInt32)

/-- The checksum of a byte string. -/
def checksum (bs : List UInt8) : UInt32 :=
  bs.foldl feed 0xFFFFFFFF ^^^ 0xFFFFFFFF

end SwitchPlatform.Onie.Crc32
