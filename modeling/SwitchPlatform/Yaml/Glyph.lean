/-!
# Glyphs

The characters of a document with their places. A line break in any of its forms is one glyph;
`marksDocument` finds the lines `---` and `...` that separate documents.
-/

namespace SwitchPlatform.Yaml

/-- A character and where it stands; `index` counts the characters before it. -/
structure Glyph where
  char : Char
  line : Nat
  column : Nat
  index : Nat
  deriving DecidableEq

/-- Spaces and tabs. -/
def isBlank (c : Char) : Bool :=
  c == ' ' || c == '\t'

/-- What ends a line. -/
def isBreak (c : Char) : Bool :=
  c == '\n' || c == '\u2028' || c == '\u2029'

/-- The letters of names: ASCII letters and digits, `_` and `-`. -/
def isNameChar (c : Char) : Bool :=
  c.isAlphanum || c == '_' || c == '-'

/-- The characters that a document may hold. -/
def isPermitted (c : Char) : Bool :=
  let n := c.toNat
  n == 0x9 || n == 0xA || n == 0xD || (0x20 ≤ n && n ≤ 0x7E) || n == 0x85 ||
    (0xA0 ≤ n && n ≤ 0xD7FF) || (0xE000 ≤ n && n ≤ 0xFFFD) || 0x10000 ≤ n

namespace Glyph

/-- The glyphs of a text from a place on; a carriage return, a line feed, both in this order, or
U+0085 are a break. -/
def place (line column index : Nat) : List Char → List Glyph
  | [] => []
  | '\r' :: '\n' :: cs => ⟨'\n', line, column, index⟩ :: place (line + 1) 0 (index + 2) cs
  | c :: cs =>
    if c = '\r' ∨ c = '\n' ∨ c = '\u0085' then
      ⟨'\n', line, column, index⟩ :: place (line + 1) 0 (index + 1) cs
    else if isBreak c then ⟨c, line, column, index⟩ :: place (line + 1) 0 (index + 1) cs
    else ⟨c, line, column, index⟩ :: place line (column + 1) (index + 1) cs

/-- The glyphs of a text; none if it holds a character that no document may hold. -/
def ofText? (s : String) : Option (List Glyph) :=
  if s.toList.all isPermitted then some (place 0 0 0 s.toList) else none

/-- Is the next character a blank or a break, or the end? -/
def endsWord : List Glyph → Bool
  | [] => true
  | g :: _ => isBlank g.char || isBreak g.char

/-- Is the next character a given one? -/
def startsWith (c : Char) : List Glyph → Bool
  | [] => false
  | g :: _ => g.char == c

/-- Is the next character one of a text? -/
def startsWithAny (cs : String) : List Glyph → Bool
  | [] => false
  | g :: _ => cs.toList.contains g.char

/-- Do the next characters repeat `c` three times at the start of a line, as a word? -/
def repeats (c : Char) : List Glyph → Bool
  | a :: b :: d :: rest =>
    a.column == 0 && a.char == c && b.char == c && d.char == c && endsWord rest
  | _ => false

/-- Does a separator of documents start here? -/
def marksDocument (gs : List Glyph) : Bool :=
  repeats '-' gs || repeats '.' gs

/-- The rest after the glyphs of the current line; the break stays. -/
def dropLine : List Glyph → List Glyph
  | [] => []
  | g :: rest => if isBreak g.char then g :: rest else dropLine rest

/-- The characters of the current line. -/
def lineText : List Glyph → List Char
  | [] => []
  | g :: rest => if isBreak g.char then [] else g.char :: lineText rest

end Glyph

end SwitchPlatform.Yaml
