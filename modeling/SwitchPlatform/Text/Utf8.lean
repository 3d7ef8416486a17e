/-!
# UTF-8

Bytes read as text. `chars` splits a byte string into characters and ill-formed pieces, where a
piece is the longest beginning of a character that the bytes still allow, at least one byte.
`decodeLossy` shows each piece as U+FFFD, `decode?` refuses to read past one, and `encode` is the
inverse on well-formed text.
-/

namespace SwitchPlatform.Text.Utf8

/-- A continuation byte. -/
def isContinuation (b : UInt8) : Bool :=
  0x80 ≤ b && b ≤ 0xBF

/-- The range of the second byte of a character that starts with `lead`, and the number of bytes
that follow the lead; `none` if `lead` starts no character of several bytes. -/
def tailShape? (lead : UInt8) : Option (UInt8 × UInt8 × Nat) :=
  if 0xC2 ≤ lead && lead ≤ 0xDF then some (0x80, 0xBF, 1)
  else if lead == 0xE0 then some (0xA0, 0xBF, 2)
  else if lead == 0xED then some (0x80, 0x9F, 2)
  else if 0xE1 ≤ lead && lead ≤ 0xEF then some (0x80, 0xBF, 2)
  else if lead == 0xF0 then some (0x90, 0xBF, 3)
  else if lead == 0xF4 then some (0x80, 0x8F, 3)
  else if 0xF1 ≤ lead && lead ≤ 0xF3 then some (0x80, 0xBF, 3)
  else none

/-- The payload of the lead byte of a character with `n` further bytes. -/
def leadBits (lead : UInt8) (n : Nat) : Nat :=
  match n with
  | 1 => lead.toNat % 32
  | 2 => lead.toNat % 16
  | _ => lead.toNat % 8

/-- The character or ill-formed piece that starts with `lead`, and how many of the bytes after
`lead` belong to it. -/
def piece (lead : UInt8) (rest : List UInt8) : Option Char × Nat :=
  if lead < 0x80 then (some (Char.ofNat lead.toNat), 0)
  else
    match tailShape? lead with
    | none => (none, 0)
    | some (low, high, n) =>
      match rest with
      | [] => (none, 0)
      | second :: more =>
        if low ≤ second && second ≤ high then
          let found := (more.take (n - 1)).takeWhile isContinuation
          if found.length = n - 1 then
            let bits := found.foldl (fun acc b => acc * 64 + b.toNat % 64)
              (leadBits lead n * 64 + second.toNat % 64)
            (some (Char.ofNat bits), n)
          else (none, found.length + 1)
        else (none, 0)

/-- The characters of a byte string after `skip` bytes; an ill-formed piece is `none`. -/
def charsAfter : Nat → List UInt8 → List (Option Char)
  | _, [] => []
  | skip + 1, _ :: bs => charsAfter skip bs
  | 0, b :: bs => (piece b bs).1 :: charsAfter (piece b bs).2 bs

/-- The characters and ill-formed pieces of a byte string, in order. -/
def chars (bs : List UInt8) : List (Option Char) :=
  charsAfter 0 bs

/-- Text with U+FFFD in place of each ill-formed piece. -/
def decodeLossy (bs : List UInt8) : String :=
  String.ofList ((chars bs).map (·.getD '\uFFFD'))

/-- Text of a well-formed byte string. -/
def decode? (bs : List UInt8) : Option String :=
  ((chars bs).mapM id).map String.ofList

/-- The bytes of a text. -/
def encode (s : String) : List UInt8 :=
  s.toList.flatMap String.utf8EncodeChar

end SwitchPlatform.Text.Utf8
