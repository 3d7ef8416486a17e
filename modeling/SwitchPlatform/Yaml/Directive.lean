import SwitchPlatform.Yaml.Tag

/-!
# Directives

Lines before a document that start with a percent sign: the version of the language, and handles of
tags with their stems. A comment may end such a line. It may follow a version directly, but a stem
only behind a blank.
-/

namespace SwitchPlatform.Yaml

/-- A line that starts with a percent sign, before a document. -/
inductive Directive
  | version (major minor : Nat)
  | tag (handle : String) (stem : Tag)
  deriving DecidableEq

namespace Directive

/-- Characters that satisfy `p`, and what follows them. -/
def part (p : Char → Bool) (cs : List Char) : List Char × List Char :=
  (cs.takeWhile p, cs.dropWhile p)

/-- Is nothing left of a line but blanks and a comment? -/
def isOver (cs : List Char) : Bool :=
  match cs.dropWhile isBlank with
  | [] => true
  | c :: _ => c == '#'

/-- The value of a number in a version, which has nine digits at most. -/
def number? (ds : List Char) : Option Nat :=
  if ds.length ≤ 9 then Text.digits? 10 999999999 ds else none

/-- The version of a line. -/
def version? (cs : List Char) : Option Directive := do
  let (major, rest) := part Char.isDigit cs
  let major ← number? major
  match rest with
  | '.' :: rest =>
    let (minor, rest) := part Char.isDigit rest
    let minor ← number? minor
    if isOver rest then return .version major minor else none
  | _ => none

/-- Is a text a handle of tags: an exclamation mark, or a name between two of them? -/
def isHandle : List Char → Bool
  | ['!'] => true
  | '!' :: cs => cs.getLast? == some '!' && cs.dropLast.all isNameChar
  | _ => false

/-- The handle of a line and its stem. -/
def tag? (cs : List Char) : Option Directive := do
  let (handle, rest) := part (!isBlank ·) cs
  let (stem, rest) := part (!isBlank ·) (rest.dropWhile isBlank)
  if isHandle handle && isOver rest then
    return .tag (String.ofList handle) (← Tag.ofChars? true stem)
  else none

/-- The directive of a line without its percent sign, which its name follows directly. -/
def ofLine? (line : List Char) : Option Directive :=
  let (name, rest) := part (!isBlank ·) line
  let rest := rest.dropWhile isBlank
  if name = "YAML".toList then version? rest
  else if name = "TAG".toList then tag? rest
  else none

end Directive

end SwitchPlatform.Yaml
