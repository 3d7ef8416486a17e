import SwitchPlatform.Text.Numeral

/-!
# Object ids

An object of the switch is named by its kind and a number from `1` to `2 ^ 24 - 1` within that
kind. The pair packs into one word, the kind in the top byte. In text an id is either the name of
its kind, a dash and a decimal number, or the packed word in hexadecimal behind `0x`.

What every object has is its `Header`: its id, a description, the object it is attached to, and the
objects attached to it. The chassis is attached to itself.
-/

namespace SwitchPlatform

namespace Oid

/-- The kinds of objects. -/
inductive Kind
  | sys
  | thermal
  | fan
  | psu
  | led
  | module
  | rtc
  deriving DecidableEq, Repr

namespace Kind

/-- Every kind, by ascending code. -/
def all : List Kind :=
  [sys, thermal, fan, psu, led, module, rtc]

/-- The byte that stands for a kind. -/
def code : Kind → Nat
  | sys => 1
  | thermal => 2
  | fan => 3
  | psu => 4
  | led => 5
  | module => 6
  | rtc => 7

/-- The kind with a given byte. -/
def ofCode? (c : Nat) : Option Kind :=
  all.find? (·.code == c)

/-- The name of a kind. -/
def name : Kind → String
  | sys => "sys"
  | thermal => "thermal"
  | fan => "fan"
  | psu => "psu"
  | led => "led"
  | module => "module"
  | rtc => "rtc"

/-- The kind with a given name. -/
def ofName? (s : String) : Option Kind :=
  all.find? (·.name == s)

theorem ofCode?_code (k : Kind) : ofCode? k.code = some k := by
  cases k <;> decide

theorem code_le (k : Kind) : k.code ≤ 7 := by
  cases k <;> decide

end Kind

/-- The largest number of an object within its kind. -/
def maxIndex : Nat := 16777215

/-- The number of bits below the kind in a packed word. -/
def kindShift : Nat := 24

end Oid

/-- The id of an object. -/
structure Oid where
  kind : Oid.Kind
  index : Nat
  index_pos : 0 < index := by decide
  index_le : index ≤ Oid.maxIndex := by decide
  deriving DecidableEq

/-- Why a word or a text is no object id. -/
inductive OidError
  /-- The top byte names no kind. -/
  | unknownKind (byte : Nat)
  /-- The number is zero or too large. -/
  | indexOutOfRange (index : Nat)
  /-- The text has neither of the two forms. -/
  | malformed (text : String)
  deriving DecidableEq, Repr

/-- The text of an id error. -/
def OidError.message : OidError → String
  | unknownKind byte => "unknown object type " ++ Text.prefixedHex 2 byte
  | indexOutOfRange index =>
    "object index " ++ toString index ++ " out of range [1, " ++ toString Oid.maxIndex ++ "]"
  | malformed text => "invalid object id syntax: " ++ text

namespace Oid

/-- The packed word. -/
def raw (id : Oid) : Nat :=
  id.kind.code <<< kindShift ||| id.index

/-- The part of a word that stands for a kind. -/
def kindByte (word : Nat) : Nat :=
  word >>> kindShift

/-- The part of a word that stands for a number. -/
def indexBits (word : Nat) : Nat :=
  word &&& maxIndex

/-- The id of a kind and a number. -/
def make (kind : Kind) (index : Nat) : Except OidError Oid :=
  if h : 0 < index ∧ index ≤ maxIndex then .ok ⟨kind, index, h.1, h.2⟩
  else .error (.indexOutOfRange index)

/-- The id that a packed word stands for; the kind is checked before the number. -/
def ofRaw (word : Nat) : Except OidError Oid :=
  match Kind.ofCode? (kindByte word) with
  | none => .error (.unknownKind (kindByte word))
  | some kind => make kind (indexBits word)

/-- The name of the kind, a dash and the number. -/
def text (id : Oid) : String :=
  id.kind.name ++ "-" ++ toString id.index

/-- The packed word in hexadecimal, all its digits behind `0x`. -/
def hexText (id : Oid) : String :=
  Text.prefixedHex 8 id.raw

instance : ToString Oid := ⟨text⟩

/-- The parts of a text before and after its last dash. -/
def splitLastDash? (cs : List Char) : Option (List Char × List Char) :=
  let tail := cs.reverse.takeWhile (· != '-')
  match cs.reverse.dropWhile (· != '-') with
  | [] => none
  | _ :: front => some (front.reverse, tail.reverse)

/-- The hexadecimal digits of a text that starts with `0x` or `0X`. -/
def hexPart? : List Char → Option (List Char)
  | '0' :: 'x' :: ds => some ds
  | '0' :: 'X' :: ds => some ds
  | _ => none

/-- The id that a text without blanks around it stands for. -/
def ofTrimmed (cs : List Char) : Except OidError Oid :=
  let malformed : Except OidError Oid := .error (.malformed (String.ofList cs))
  match hexPart? cs with
  | some ds =>
    match Text.word? 16 ds with
    | some word => ofRaw word
    | none => malformed
  | none =>
    match splitLastDash? cs with
    | none => malformed
    | some (kindPart, indexPart) =>
      match Kind.ofName? (String.ofList kindPart), Text.word? 10 indexPart with
      | some kind, some index => make kind index
      | _, _ => malformed

/-- The id that a text stands for; blanks around it are ignored. -/
def parse (s : String) : Except OidError Oid :=
  ofTrimmed (Text.trimChars s.toList)

/-- The chassis, the object that all others hang off. -/
def chassis : Oid := { kind := .sys, index := 1 }

/-- Thermal sensor `index`. -/
def thermal (index : Nat) (pos : 0 < index := by decide) (le : index ≤ maxIndex := by decide) :
    Oid :=
  ⟨.thermal, index, pos, le⟩

/-- Fan `index`. -/
def fan (index : Nat) (pos : 0 < index := by decide) (le : index ≤ maxIndex := by decide) : Oid :=
  ⟨.fan, index, pos, le⟩

/-- Power supply `index`. -/
def psu (index : Nat) (pos : 0 < index := by decide) (le : index ≤ maxIndex := by decide) : Oid :=
  ⟨.psu, index, pos, le⟩

/-- Led `index`. -/
def led (index : Nat) (pos : 0 < index := by decide) (le : index ≤ maxIndex := by decide) : Oid :=
  ⟨.led, index, pos, le⟩

/-- Transceiver module `index`. -/
def module (index : Nat) (pos : 0 < index := by decide) (le : index ≤ maxIndex := by decide) :
    Oid :=
  ⟨.module, index, pos, le⟩

/-- What is said of a number out of range in a table of objects. -/
def tableMessage : String := "object index out of range"

/-- Ids in ascending order of their packed words. -/
def sort (ids : List Oid) : List Oid :=
  ids.mergeSort fun a b => a.raw ≤ b.raw

theorem make_eq_ok {kind : Kind} {index : Nat} {id : Oid} (h : make kind index = .ok id) :
    id.kind = kind ∧ id.index = index := by
  unfold make at h
  split at h
  · cases h
    exact ⟨rfl, rfl⟩
  · cases h

theorem make_self (id : Oid) : make id.kind id.index = .ok id := by
  simp [make, id.index_pos, id.index_le]

end Oid

/-- The identity of an object and its place among the others. -/
structure Header where
  id : Oid
  description : String
  parent : Oid
  children : List Oid := []
  deriving DecidableEq

/-- The id of an object, its packed word, and its description between quotes. -/
def Header.text (h : Header) : String :=
  h.id.text ++ " (" ++ h.id.hexText ++ ") \"" ++ h.description ++ "\""

end SwitchPlatform
