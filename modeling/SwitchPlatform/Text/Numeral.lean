import SwitchPlatform.Text.Blank

/-!
# Numerals

Reading numerals in a radix within given bounds. A numeral is an optional sign followed by at
least one digit; an unsigned numeral admits `+` only. Reading stops where the value leaves its
bounds, since further digits never make it smaller. `attributeInt?` reads the content of an
attribute file: blanks around it are ignored, one `-` in front negates, and `0x` or `0X` selects
hexadecimal; what follows is a signed numeral of its own.

Writing numerals: lower-case hexadecimal, padded with zeros to a least number of digits, bare or
behind `0x`, and thousandths in units, with exactly three decimals and a leading minus below zero,
so that `-750` reads `-0.750`.
-/

namespace SwitchPlatform.Text

/-! ## Reading -/

/-- The value of a digit below `radix`; letters of both cases continue after `9`. -/
def digit? (radix : Nat) (c : Char) : Option Nat :=
  let n := c.toNat
  let value :=
    if 0x30 ≤ n ∧ n ≤ 0x39 then some (n - 0x30)
    else if 0x61 ≤ n ∧ n ≤ 0x7A then some (n - 0x61 + 10)
    else if 0x41 ≤ n ∧ n ≤ 0x5A then some (n - 0x41 + 10)
    else none
  value.filter (· < radix)

/-- The value of `acc` continued by digits; `none` if some character is no digit, or if the value
exceeds `bound`. -/
def continueDigits (radix bound : Nat) : Nat → List Char → Option Nat
  | acc, [] => some acc
  | acc, c :: cs =>
    match digit? radix c with
    | some d =>
      if acc * radix + d ≤ bound then continueDigits radix bound (acc * radix + d) cs else none
    | none => none

/-- The value of a nonempty sequence of digits, if it is at most `bound`. -/
def digits? (radix bound : Nat) : List Char → Option Nat
  | [] => none
  | cs => continueDigits radix bound 0 cs

/-- An unsigned numeral of value at most `bound`. -/
def unsigned? (radix bound : Nat) : List Char → Option Nat
  | '+' :: ds => digits? radix bound ds
  | ds => digits? radix bound ds

/-- A signed numeral of value between `-below` and `above`. -/
def signed? (radix below above : Nat) : List Char → Option Int
  | '-' :: ds => (digits? radix below ds).map fun n : Nat => -(n : Int)
  | '+' :: ds => (digits? radix above ds).map Int.ofNat
  | ds => (digits? radix above ds).map Int.ofNat

/-- The largest unsigned value of 32 bits. -/
def maxWord : Nat := 4294967295

/-- An unsigned numeral of 32 bits. -/
def word? (radix : Nat) (cs : List Char) : Option Nat :=
  unsigned? radix maxWord cs

/-- The 32-bit integer equal to `v`, if `v` is in range. -/
def int32? (v : Int) : Option Int32 :=
  if -2147483648 ≤ v ∧ v ≤ 2147483647 then some (Int32.ofInt v) else none

/-- A signed numeral of 64 bits. -/
def int64? (radix : Nat) (cs : List Char) : Option Int64 :=
  (signed? radix 9223372036854775808 9223372036854775807 cs).map Int64.ofInt

/-- The part of an attribute's content after its leading minus: hexadecimal after `0x` or `0X`,
decimal otherwise. -/
def attributeMagnitude? : List Char → Option Int64
  | '0' :: 'x' :: ds => int64? 16 ds
  | '0' :: 'X' :: ds => int64? 16 ds
  | ds => int64? 10 ds

/-- The integer that the content of an attribute file stands for. A leading minus negates what is
behind it, in 64 bits. -/
def attributeInt? (content : String) : Option Int32 :=
  match trimChars content.toList with
  | '-' :: ds => (attributeMagnitude? ds).bind fun v => int32? (-v).toInt
  | ds => (attributeMagnitude? ds).bind fun v => int32? v.toInt

theorem toInt_of_int32? {v : Int} {x : Int32} (h : int32? v = some x) : x.toInt = v := by
  unfold int32? at h
  split at h
  · rename_i hv
    cases h
    exact Int32.toInt_ofInt_of_le (by omega) (by omega)
  · cases h

theorem int32?_toInt (x : Int32) : int32? x.toInt = some x := by
  have h1 := x.le_toInt
  have h2 := x.toInt_lt
  simp only [int32?]
  rw [if_pos ⟨by omega, by omega⟩, Int32.ofInt_toInt]

/-! ## Writing -/

/-- Text filled up on the left with `fill` to at least `width` characters. -/
def padLeft (width : Nat) (fill : Char) (s : String) : String :=
  String.ofList (List.replicate (width - s.length) fill ++ s.toList)

/-- Text filled up on the right with blanks to at least `width` characters. -/
def padRight (width : Nat) (s : String) : String :=
  String.ofList (s.toList ++ List.replicate (width - s.length) ' ')

/-- Lower-case hexadecimal digits, at least `width` of them. -/
def hex (width : Nat) (n : Nat) : String :=
  padLeft width '0' (String.ofList (Nat.toDigits 16 n))

/-- Hexadecimal behind `0x`, with at least `width` digits. -/
def prefixedHex (width : Nat) (n : Nat) : String :=
  "0x" ++ hex width n

/-- The two hexadecimal digits of a byte. -/
def hexByte (b : UInt8) : String :=
  hex 2 b.toNat

/-- A count of thousandths, written in units. -/
def milli (v : Int32) : String :=
  let n := v.toInt.natAbs
  let sign := if v.toInt < 0 then "-" else ""
  sign ++ toString (n / 1000) ++ "." ++ padLeft 3 '0' (toString (n % 1000))

end SwitchPlatform.Text
