import SwitchPlatform.Text.Numeral
import SwitchPlatform.Text.Utf8
import SwitchPlatform.Yaml.Glyph

/-!
# Tags

A tag is a sequence of bytes. It is written whole between angle brackets, or as a handle, which
stands for a stem, and a suffix. Within it a percent sign and two digits stand for a byte. Such
bytes come in groups: the first one tells by its leading bits how many follow, as the first byte of
a character does, but a group need not be a character. A tag ends before its first zero byte.
-/

namespace SwitchPlatform.Yaml

/-- A tag. -/
abbrev Tag := List UInt8

/-- A tag as it is written: behind the stem of a handle, or whole. -/
structure WrittenTag where
  handle : Option String := none
  suffix : Tag
  deriving DecidableEq

/-- The stems of the tags that a document may write, by their handles. -/
abbrev TagHandles := List (String × Tag)

namespace Tag

/-- The tag that only tells that there is one. -/
def bare : Tag := Text.Utf8.encode "!"

/-- The tag of null. -/
def null : Tag := Text.Utf8.encode "tag:yaml.org,2002:null"

/-- The name in a tag of the document's own; none if the name is no text. -/
def ownName? (tag : Tag) : Option String :=
  if tag = bare then some "!"
  else if bare.isPrefixOf tag then Text.Utf8.decode? (tag.drop bare.length)
  else none

/-- The handles of every document. -/
def standardHandles : TagHandles :=
  [("!", bare), ("!!", Text.Utf8.encode "tag:yaml.org,2002:")]

/-- The characters of tags; some of them only between angle brackets. -/
def isChar (bracketed : Bool) (c : Char) : Bool :=
  isNameChar c || ";/?:@&=+$.!~*'()".toList.contains c ||
    (bracketed && ",[]".toList.contains c)

/-- The number of bytes that follow the first one of a group. -/
def followers? (first : UInt8) : Option Nat :=
  if first < 0x80 then some 0
  else if first < 0xC0 then none
  else if first < 0xE0 then some 1
  else if first < 0xF0 then some 2
  else if first < 0xF8 then some 3
  else none

/-- How many bytes of a group are still to come behind one more byte, if it may stand there. -/
def goOn? (pending : Nat) (b : UInt8) : Option Nat :=
  if pending = 0 then followers? b
  else if Text.Utf8.isContinuation b then some (pending - 1)
  else none

/-- The bytes of characters within a group of which `pending` bytes are still to come. -/
def bytesFrom? (bracketed : Bool) (pending : Nat) : List Char → Option (List UInt8)
  | [] => if pending = 0 then some [] else none
  | '%' :: a :: b :: cs => do
    let high ← Text.digit? 16 a
    let low ← Text.digit? 16 b
    let byte := UInt8.ofNat (high * 16 + low)
    let pending ← goOn? pending byte
    return byte :: (← bytesFrom? bracketed pending cs)
  | c :: cs => do
    if pending = 0 ∧ isChar bracketed c then
      return UInt8.ofNat c.toNat :: (← bytesFrom? bracketed 0 cs)
    else none

/-- The tag that characters stand for; there has to be one at least. -/
def ofChars? (bracketed : Bool) (cs : List Char) : Option Tag :=
  if cs.isEmpty then none else (bytesFrom? bracketed 0 cs).map fun bs => bs.takeWhile (· != 0)

/-- The glyphs of a tag, and what follows it. -/
def span (bracketed : Bool) : List Glyph → List Char × List Glyph
  | [] => ([], [])
  | g :: rest =>
    if isChar bracketed g.char || g.char == '%' then
      let (cs, after) := span bracketed rest
      (g.char :: cs, after)
    else ([], g :: rest)

end Tag

namespace WrittenTag

/-- A tag of which the characters behind the first `!` are given. Nothing behind it, or a zero
byte, makes the bare tag. -/
def split? (cs : List Char) : Option WrittenTag :=
  if cs.isEmpty then some { suffix := Tag.bare }
  else
    let name := cs.takeWhile isNameChar
    match cs.drop name.length with
    | '!' :: suffix => do
      return ⟨some ("!" ++ String.ofList name ++ "!"), ← Tag.ofChars? false suffix⟩
    | _ => do
      let suffix ← Tag.ofChars? false cs
      return if suffix = [] then { suffix := Tag.bare } else ⟨some "!", suffix⟩

/-- Reads a tag behind its first `!`, with what follows it. -/
def read? (gs : List Glyph) : Option (WrittenTag × List Glyph) :=
  if Glyph.startsWith '<' gs then
    let (cs, after) := Tag.span true (gs.drop 1)
    if Glyph.startsWith '>' after then
      (Tag.ofChars? true cs).map fun suffix => ({ suffix := suffix }, after.drop 1)
    else none
  else
    let (cs, after) := Tag.span false gs
    (split? cs).map fun t => (t, after)

/-- The tag that is meant; a handle has to be known. -/
def resolve? (handles : TagHandles) (t : WrittenTag) : Option Tag :=
  match t.handle with
  | none => some t.suffix
  | some handle => (handles.lookup handle).map fun stem => stem ++ t.suffix

end WrittenTag

end SwitchPlatform.Yaml
