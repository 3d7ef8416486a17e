import SwitchPlatform.Text.Numeral
import SwitchPlatform.Yaml.Glyph

/-!
# Scalars

The text of scalars in all their styles: plain, between single or double quotes, and literal or
folded blocks. Each reader takes the glyphs behind the opening indicator and gives the text with
the glyphs that follow the scalar, or nothing where the text is malformed. A single line break
within a scalar folds into a space, and of several the first one goes; see `Gap.text`. What was
read of a scalar so far is held with the latest character first, so that adding one more costs the
same however long the scalar is.
-/

namespace SwitchPlatform.Yaml

/-- Blanks and breaks between two words of a scalar, the latest first. -/
inductive Gap
  | blanks (text : List Char)
  /-- A first break, empty if it was escaped, and the breaks after it. -/
  | breaks (first more : List Char)
  deriving DecidableEq

namespace Gap

/-- Nothing between two characters. -/
def nothing : Gap := blanks []

/-- Is there a break in the gap? -/
def isBroken : Gap → Bool
  | blanks _ => false
  | breaks _ _ => true

/-- Does the gap hold anything? -/
def isOpen : Gap → Bool
  | blanks text => !text.isEmpty
  | breaks _ _ => true

/-- The gap with one more blank; blanks around breaks are dropped. -/
def addBlank (c : Char) : Gap → Gap
  | blanks text => blanks (c :: text)
  | breaks first more => breaks first more

/-- The gap with one more break; blanks before the first one are dropped. -/
def addBreak (c : Char) : Gap → Gap
  | blanks _ => breaks [c] []
  | breaks first more => breaks first (c :: more)

/-- What a gap leaves in the text, the latest first: blanks stay, a line feed becomes a space
unless breaks follow it. -/
def text : Gap → List Char
  | blanks text => text
  | breaks first more =>
    if first = ['\n'] then (if more = [] then [' '] else more) else more ++ first

end Gap

/-- A scalar that was read: its text, whether the glyphs after it start on a line of their own,
and these glyphs. -/
structure Scanned where
  text : List Char
  freshLine : Bool
  rest : List Glyph

/-- Does a character end a plain scalar, with what follows it? -/
def endsPlain (inFlow : Bool) (c : Char) (rest : List Glyph) : Bool :=
  (c == ':' && Glyph.endsWord rest) || (inFlow && ",[]\x7b\x7d".toList.contains c)

/-- Reads on in a plain scalar of which `text` was read, the latest first, and then `gap`. Outside
of a flow collection, lines that start before column `indent` do not belong to it. -/
def plainFrom (inFlow : Bool) (indent : Nat) (text : List Char) (gap : Gap) :
    List Glyph → Option Scanned
  | [] => some ⟨text.reverse, gap.isBroken, []⟩
  | g :: rest =>
    if isBlank g.char then
      if gap.isBroken && g.char == '\t' && g.column < indent then none
      else plainFrom inFlow indent text (gap.addBlank g.char) rest
    else if isBreak g.char then plainFrom inFlow indent text (gap.addBreak g.char) rest
    else if gap.isOpen && ((!inFlow && g.column < indent) || g.char == '#' ||
        Glyph.marksDocument (g :: rest)) then
      some ⟨text.reverse, gap.isBroken, g :: rest⟩
    else if inFlow && g.char == ':' && Glyph.startsWithAny ",?[]\x7b\x7d" rest then none
    else if endsPlain inFlow g.char rest then
      some ⟨text.reverse, gap.isBroken, g :: rest⟩
    else plainFrom inFlow indent (g.char :: (gap.text ++ text)) .nothing rest

/-- Reads a plain scalar. -/
def readPlain (inFlow : Bool) (indent : Nat) (gs : List Glyph) : Option Scanned :=
  plainFrom inFlow indent [] .nothing gs

/-- Reads on behind a single quote and `text`, the latest first; `closing` if the last character
was a quote. -/
def singleFrom (text : List Char) (gap : Gap) (closing : Bool) : List Glyph → Option Scanned
  | [] => if closing then some ⟨text.reverse, false, []⟩ else none
  | g :: rest =>
    if closing then
      if g.char = '\'' then singleFrom ('\'' :: text) gap false rest
      else some ⟨text.reverse, false, g :: rest⟩
    else if isBlank g.char then singleFrom text (gap.addBlank g.char) false rest
    else if isBreak g.char then singleFrom text (gap.addBreak g.char) false rest
    else if Glyph.marksDocument (g :: rest) then none
    else if g.char = '\'' then singleFrom (gap.text ++ text) .nothing true rest
    else singleFrom (g.char :: (gap.text ++ text)) .nothing false rest

/-- Reads a scalar between single quotes, of which two stand for one. -/
def readSingle (gs : List Glyph) : Option Scanned :=
  singleFrom [] .nothing false gs

/-- Where a reader stands between double quotes. -/
inductive QuoteState
  | text
  /-- Behind a backslash. -/
  | escape
  /-- Within the digits of a code point, of which `left` are still to come. -/
  | codePoint (left value : Nat)

/-- The character that a letter behind a backslash stands for. -/
def escaped? (c : Char) : Option Char :=
  match c with
  | '0' => some '\x00'
  | 'a' => some '\x07'
  | 'b' => some '\x08'
  | 't' => some '\t'
  | '\t' => some '\t'
  | 'n' => some '\n'
  | 'v' => some '\x0b'
  | 'f' => some '\x0c'
  | 'r' => some '\r'
  | 'e' => some '\x1b'
  | ' ' => some ' '
  | '"' => some '"'
  | '/' => some '/'
  | '\\' => some '\\'
  | 'N' => some '\u0085'
  | '_' => some '\u00a0'
  | 'L' => some '\u2028'
  | 'P' => some '\u2029'
  | _ => none

/-- The number of digits of a code point behind a letter. -/
def codePointDigits? (c : Char) : Option Nat :=
  match c with
  | 'x' => some 2
  | 'u' => some 4
  | 'U' => some 8
  | _ => none

/-- The character with a code point. -/
def charOf? (value : Nat) : Option Char :=
  if value.isValidChar then some (Char.ofNat value) else none

/-- Reads on behind a double quote and `text`, the latest first. -/
def doubleFrom (text : List Char) (gap : Gap) (state : QuoteState) : List Glyph → Option Scanned
  | [] => none
  | g :: rest =>
    match state with
    | .codePoint left value =>
      match Text.digit? 16 g.char with
      | none => none
      | some d =>
        if left = 1 then
          match charOf? (value * 16 + d) with
          | some c => doubleFrom (c :: text) .nothing .text rest
          | none => none
        else doubleFrom text gap (.codePoint (left - 1) (value * 16 + d)) rest
    | .escape =>
      if isBreak g.char then doubleFrom text (.breaks [] []) .text rest
      else
        match codePointDigits? g.char, escaped? g.char with
        | some digits, _ => doubleFrom text gap (.codePoint digits 0) rest
        | none, some c => doubleFrom (c :: text) .nothing .text rest
        | none, none => none
    | .text =>
      if isBlank g.char then doubleFrom text (gap.addBlank g.char) .text rest
      else if isBreak g.char then doubleFrom text (gap.addBreak g.char) .text rest
      else if Glyph.marksDocument (g :: rest) then none
      else if g.char = '"' then some ⟨(gap.text ++ text).reverse, false, rest⟩
      else if g.char = '\\' then doubleFrom (gap.text ++ text) .nothing .escape rest
      else doubleFrom (g.char :: (gap.text ++ text)) .nothing .text rest

/-- Reads a scalar between double quotes. -/
def readDouble (gs : List Glyph) : Option Scanned :=
  doubleFrom [] .nothing .text gs

/-- What becomes of the breaks at the end of a block. -/
inductive Chomp
  /-- The first one stays. -/
  | clip
  /-- All of them go. -/
  | strip
  /-- All of them stay. -/
  | keep
  deriving DecidableEq

/-- The header of a block: what is done with its end, and how far it is indented. -/
structure BlockHeader where
  chomp : Chomp := .clip
  indent : Option Nat := none

namespace BlockHeader

/-- The header with what one more character says; none for a character with no meaning there. -/
def add? (h : BlockHeader) (c : Char) : Option BlockHeader :=
  if c = '+' ∧ h.chomp = .clip then some { h with chomp := .keep }
  else if c = '-' ∧ h.chomp = .clip then some { h with chomp := .strip }
  else
    match Text.digit? 10 c, h.indent with
    | some (n + 1), none => some { h with indent := some (n + 1) }
    | _, _ => none

/-- Reads a header up to the end of its line; a comment may follow it behind blanks. -/
def read (h : BlockHeader) (blanks : Bool) : List Glyph → Option (BlockHeader × List Glyph)
  | [] => some (h, [])
  | g :: rest =>
    if isBreak g.char then some (h, rest)
    else if isBlank g.char then read h true rest
    else if g.char = '#' then some (h, (Glyph.dropLine rest).drop 1)
    else if blanks then none
    else
      match h.add? g.char with
      | some h' => read h' false rest
      | none => none

end BlockHeader

/-- Passes over the empty lines before a block. Gives the column of the farthest character, the
breaks, the latest first, and the rest; a tab may not indent. -/
def leadingBreaks (farthest : Nat) (breaks : List Char) :
    List Glyph → Option (Nat × List Char × List Glyph)
  | [] => some (farthest, breaks, [])
  | g :: rest =>
    if g.char = ' ' then leadingBreaks farthest breaks rest
    else if g.char = '\t' then none
    else if isBreak g.char then leadingBreaks (max farthest g.column) (g.char :: breaks) rest
    else some (max farthest g.column, breaks, g :: rest)

/-- What was read of a block; its characters and breaks stand with the latest first. -/
structure Block where
  text : List Char := []
  /-- The break after the last line. -/
  lastBreak : List Char := []
  /-- The breaks after that one. -/
  breaks : List Char := []
  /-- Did the last line start with a blank? -/
  indented : Bool := false
  /-- Is the next glyph within a line? -/
  inLine : Bool := false

namespace Block

/-- A block with the first character of one more line. A folded block joins lines with a space
unless one of them starts with a blank. -/
def startLine (folded : Bool) (b : Block) (c : Char) : Block :=
  let joint :=
    if folded && b.lastBreak == ['\n'] && !b.indented && !isBlank c then
      (if b.breaks.isEmpty then [' '] else [])
    else b.lastBreak
  { text := c :: (b.breaks ++ joint ++ b.text), indented := isBlank c, inLine := true }

/-- Reads the lines that are indented to a column. -/
def read (folded : Bool) (indent : Nat) (b : Block) : List Glyph → Option (Block × List Glyph)
  | [] => some (b, [])
  | g :: rest =>
    if b.inLine then
      if isBreak g.char then
        read folded indent { b with lastBreak := [g.char], inLine := false } rest
      else read folded indent { b with text := g.char :: b.text } rest
    else if g.column < indent ∧ g.char = ' ' then read folded indent b rest
    else if g.column < indent ∧ g.char = '\t' then none
    else if isBreak g.char then read folded indent { b with breaks := g.char :: b.breaks } rest
    else if g.column = indent then read folded indent (b.startLine folded g.char) rest
    else some (b, g :: rest)

/-- The text of a block. -/
def chomped (b : Block) : Chomp → List Char
  | .clip => (b.lastBreak ++ b.text).reverse
  | .strip => b.text.reverse
  | .keep => (b.breaks ++ b.lastBreak ++ b.text).reverse

end Block

/-- Reads a block within a collection whose items start at column `parent`, if any. -/
def readBlock (folded : Bool) (parent : Option Nat) (gs : List Glyph) : Option Scanned := do
  let (header, body) ← BlockHeader.read {} false gs
  let least := max 1 ((parent.map (· + 1)).getD 0)
  let (block, rest) ←
    match header.indent with
    | some n => Block.read folded (parent.getD 0 + n) {} body
    | none => do
      let (farthest, breaks, rest) ← leadingBreaks 0 [] body
      Block.read folded (max farthest least) { breaks := breaks } rest
  return ⟨block.chomped header.chomp, true, rest⟩

end SwitchPlatform.Yaml
