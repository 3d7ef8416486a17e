import SwitchPlatform.Yaml.Directive
import SwitchPlatform.Yaml.Scalar

/-!
# Tokens

A document as a sequence of tokens. Keys are found in hindsight: what comes before a `:` on one
line is a key, and the token that says so goes before it. Only a flat mapping is read, so there is
at most one block of entries, known by the column of its keys, and at most one level of braces.
`tokens?` gives nothing for a text that is malformed or that has more than that, such as the dashes
or brackets of a sequence.
-/

namespace SwitchPlatform.Yaml

/-- A piece of a document. -/
inductive Token
  | directive (d : Directive)
  | documentStart
  | documentEnd
  | mappingStart
  | blockEnd
  | braceOpen
  | braceClose
  | comma
  | key
  | value
  | anchor (name : String)
  | reference (anchor : String)
  | tag (t : WrittenTag)
  | scalar (text : String) (isPlain : Bool)
  deriving DecidableEq

/-- A place where a key may have begun. -/
structure KeyStart where
  glyph : Glyph
  /-- It has to be a key, since it stands where keys stand. -/
  required : Bool
  /-- The tokens since then, the latest first. -/
  tokens : List Token

/-- The longest key, in characters. -/
def maxKey : Nat := 1024

namespace KeyStart

/-- Can the key end at a glyph? -/
def reaches (k : KeyStart) (g : Glyph) : Bool :=
  k.glyph.line == g.line && g.index ≤ k.glyph.index + maxKey

end KeyStart

/-- The state between two tokens. -/
structure Lexer where
  rest : List Glyph
  /-- The tokens so far, the latest first, up to the place where a key may have begun. -/
  tokens : List Token := []
  inFlow : Bool := false
  /-- The column of the keys of the block that is open. -/
  indent : Option Nat := none
  /-- May a key start here? -/
  keyAllowed : Bool := true
  keyStart : Option KeyStart := none

namespace Lexer

/-- Passes over blanks, comments and empty lines; a line may start with a byte order mark. Outside
of braces, a new line allows a key, and where a key is allowed no tab may stand. -/
def skip (inFlow : Bool) (keyAllowed inComment : Bool) : List Glyph → Bool × List Glyph
  | [] => (keyAllowed, [])
  | g :: rest =>
    if isBreak g.char then skip inFlow (keyAllowed || !inFlow) false rest
    else if inComment then skip inFlow keyAllowed true rest
    else if g.char = '#' then skip inFlow keyAllowed true rest
    else if g.char = ' ' ∨ (g.char = '\t' ∧ (inFlow ∨ keyAllowed = false)) ∨
        (g.char = '\uFEFF' ∧ g.column = 0) then
      skip inFlow keyAllowed false rest
    else (keyAllowed, g :: rest)

/-- The state with one more token. -/
def emit (l : Lexer) (t : Token) : Lexer :=
  match l.keyStart with
  | some k => { l with keyStart := some { k with tokens := t :: k.tokens } }
  | none => { l with tokens := t :: l.tokens }

/-- Gives up the place where a key may have begun, unless it has to be one. -/
def dropKey (l : Lexer) : Option Lexer :=
  match l.keyStart with
  | some k =>
    if k.required then none
    else some { l with tokens := k.tokens ++ l.tokens, keyStart := none }
  | none => some l

/-- Remembers a place where a key may begin. -/
def markKey (l : Lexer) (g : Glyph) : Option Lexer :=
  if l.keyAllowed then do
    let l ← l.dropKey
    return { l with keyStart := some ⟨g, !l.inFlow && l.indent == some g.column, []⟩ }
  else some l

/-- Gives up a place from which no key reaches a glyph. -/
def expireKey (l : Lexer) (g : Glyph) : Option Lexer :=
  match l.keyStart with
  | some k => if k.reaches g then some l else l.dropKey
  | none => some l

/-- Closes the block before a glyph that stands left of it. -/
def closeBefore (l : Lexer) (column : Nat) : Lexer :=
  if !l.inFlow && l.indent.any (column < ·) then
    { l.emit .blockEnd with indent := none }
  else l

/-- Closes the block. -/
def closeAll (l : Lexer) : Option Lexer :=
  let l := if !l.inFlow && l.indent.isSome then { l.emit .blockEnd with indent := none } else l
  l.dropKey

/-- Opens a block at a column, unless one is open there; within another one it may not open. -/
def openBlock (l : Lexer) (column : Nat) : Option Lexer :=
  if l.inFlow then some l
  else
    match l.indent with
    | none => some { l.emit .mappingStart with indent := some column }
    | some c => if c < column then none else some l

/-- Reads on behind a `:`. What may have been a key is one; without it, the `:` has to stand where
a key may. -/
def colon (l : Lexer) (g : Glyph) (rest : List Glyph) : Option Lexer := do
  let l ← l.expireKey g
  match l.keyStart with
  | some k =>
    let l ← openBlock { l with keyStart := none } k.glyph.column
    let tokens := .value :: (k.tokens ++ .key :: l.tokens)
    return { l with tokens := tokens, keyAllowed := false, rest := rest }
  | none =>
    if l.inFlow then return { l.emit .value with keyAllowed := false, rest := rest }
    else if l.keyAllowed then do
      let l ← l.openBlock g.column
      return { l.emit .value with keyAllowed := true, rest := rest }
    else none

/-- Reads on behind a `?`, which announces a key. -/
def question (l : Lexer) (g : Glyph) (rest : List Glyph) : Option Lexer := do
  if !l.inFlow && !l.keyAllowed then none
  else
    let l ← l.openBlock g.column
    let l ← l.dropKey
    return { l.emit .key with keyAllowed := !l.inFlow, rest := rest }

/-- Reads on behind an opening brace, which may only open the outermost mapping. -/
def openFlow (l : Lexer) (rest : List Glyph) : Option Lexer := do
  if l.inFlow || l.indent.isSome then none
  else
    let l ← l.dropKey
    return { l.emit .braceOpen with inFlow := true, keyAllowed := true, rest := rest }

/-- Reads on behind a closing brace. -/
def closeFlow (l : Lexer) (rest : List Glyph) : Option Lexer := do
  let l ← l.dropKey
  return { l.emit .braceClose with inFlow := false, keyAllowed := false, rest := rest }

/-- Reads on behind a scalar whose style may begin a key. -/
def scalar (l : Lexer) (g : Glyph) (isPlain : Bool) (s : Option Scanned) : Option Lexer := do
  let l ← l.markKey g
  let s ← s
  return { l.emit (.scalar (String.ofList s.text) isPlain) with
    keyAllowed := s.freshLine, rest := s.rest }

/-- Reads on behind a block scalar. -/
def block (l : Lexer) (folded : Bool) (rest : List Glyph) : Option Lexer := do
  let l ← l.dropKey
  let s ← readBlock folded l.indent rest
  return { l.emit (.scalar (String.ofList s.text) false) with keyAllowed := true, rest := s.rest }

/-- The characters of a name, and what follows it. -/
def name : List Glyph → List Char × List Glyph
  | [] => ([], [])
  | g :: rest =>
    if isNameChar g.char then
      let (cs, after) := name rest
      (g.char :: cs, after)
    else ([], g :: rest)

/-- Reads on behind `&` or `*`, at a name. -/
def named (l : Lexer) (g : Glyph) (token : String → Token) (rest : List Glyph) :
    Option Lexer := do
  let l ← l.markKey g
  let (cs, after) := name rest
  if !cs.isEmpty && (Glyph.endsWord after || Glyph.startsWithAny "?:,]\x7d%@\x60" after) then
    return { l.emit (token (String.ofList cs)) with keyAllowed := false, rest := after }
  else none

/-- Reads on behind the `!` of a tag. -/
def tagged (l : Lexer) (g : Glyph) (rest : List Glyph) : Option Lexer := do
  let l ← l.markKey g
  let (t, after) ← WrittenTag.read? rest
  if Glyph.endsWord after || (l.inFlow && Glyph.startsWith ',' after) then
    return { l.emit (.tag t) with keyAllowed := false, rest := after }
  else none

/-- Does no token of a flat mapping start with a character? -/
def startsNothing (c : Char) : Bool :=
  isBlank c || "[]|>%@\x60".toList.contains c

/-- Reads a token that starts at a glyph. A directive takes its whole line, with the break. -/
def token (l : Lexer) (g : Glyph) (rest : List Glyph) : Option Lexer := do
  let atStart := g.column = 0
  if atStart ∧ g.char = '%' then
    let l ← l.closeAll
    let d ← Directive.ofLine? (Glyph.lineText rest)
    return { l.emit (.directive d) with
      keyAllowed := false, rest := (Glyph.dropLine rest).drop 1 }
  else if Glyph.marksDocument (g :: rest) then
    let l ← l.closeAll
    return { l.emit (if g.char = '-' then .documentStart else .documentEnd) with
      keyAllowed := false, rest := rest.drop 2 }
  else if g.char = '\x7b' then l.openFlow rest
  else if g.char = '\x7d' then l.closeFlow rest
  else if g.char = ',' then
    let l ← l.dropKey
    return { l.emit .comma with keyAllowed := true, rest := rest }
  else if g.char = '?' ∧ (l.inFlow ∨ Glyph.endsWord rest) then l.question g rest
  else if g.char = ':' ∧ (l.inFlow ∨ Glyph.endsWord rest) then l.colon g rest
  else if g.char = '*' then l.named g .reference rest
  else if g.char = '&' then l.named g .anchor rest
  else if g.char = '!' then l.tagged g rest
  else if g.char = '|' ∧ l.inFlow = false then l.block false rest
  else if g.char = '>' ∧ l.inFlow = false then l.block true rest
  else if g.char = '\'' then l.scalar g false (readSingle rest)
  else if g.char = '"' then l.scalar g false (readDouble rest)
  else if startsNothing g.char ∨ (g.char = '-' ∧ Glyph.endsWord rest) then none
  else
    l.scalar g true (readPlain l.inFlow ((l.indent.map (· + 1)).getD 0) (g :: rest))

/-- Reads all tokens; every token takes a glyph at least, and `fuel` bounds their number. -/
def run : Nat → Lexer → Option (List Token)
  | 0, _ => none
  | fuel + 1, l => do
    let (keyAllowed, rest) := skip l.inFlow l.keyAllowed false l.rest
    let l := { l with keyAllowed := keyAllowed, rest := rest }
    match rest with
    | [] => do
      let l ← l.closeAll
      return l.tokens.reverse
    | g :: rest => do
      let l ← l.expireKey g
      let l ← (l.closeBefore g.column).token g rest
      run fuel l

end Lexer

/-- The tokens of a text. -/
def tokens? (s : String) : Option (List Token) := do
  let glyphs ← Glyph.ofText? s
  Lexer.run (glyphs.length + 1) { rest := glyphs }

end SwitchPlatform.Yaml
