import SwitchPlatform.Text.Numeral

/-!
# Hex dumps

Bytes in lines of sixteen: the offset of the line, the bytes in hexadecimal padded to sixteen
columns, and the bytes as characters, where a dot stands for everything that is not printable
ASCII.
-/

namespace SwitchPlatform.Text.HexDump

/-- The bytes of a line. -/
def width : Nat := 16

/-- The first `width` bytes, then the next ones, and so on; the number bounds the lines. -/
def linesOf : Nat → List UInt8 → List (List UInt8)
  | 0, _ => []
  | _ + 1, [] => []
  | bound + 1, b :: bs => (b :: bs).take width :: linesOf bound ((b :: bs).drop width)

/-- The character shown for a byte. -/
def glyph (b : UInt8) : Char :=
  if 0x20 ≤ b ∧ b ≤ 0x7E then Char.ofNat b.toNat else '.'

/-- The line of some bytes at an offset. -/
def line (offset : Nat) (bs : List UInt8) : String :=
  hex 4 offset ++ ":" ++
    String.join (bs.map fun b => " " ++ hexByte b) ++
    String.join (List.replicate (width - bs.length) "   ") ++
    "  " ++ String.ofList (bs.map glyph) ++ "\n"

/-- The lines of a dump, from an offset on. -/
def linesText (offset : Nat) : List (List UInt8) → List String
  | [] => []
  | bs :: rest => line offset bs :: linesText (offset + width) rest

/-- The dump of a byte string. -/
def text (bs : List UInt8) : String :=
  String.join (linesText 0 (linesOf bs.length bs))

end SwitchPlatform.Text.HexDump
