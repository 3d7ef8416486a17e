import SwitchPlatform.Logging.Level
import SwitchPlatform.Text.Quoted

/-!
# Log entries

A text that was logged at a level, as a log shows it. Characters that make a terminal act are
written as their codes, so no name or file content that gets into a message can do so. Line breaks
are kept, and only the first line of an entry, its heading, tells the level.
-/

namespace SwitchPlatform

/-- A text that was logged. -/
structure LogEntry where
  level : LogLevel
  text : String
  deriving DecidableEq

namespace LogEntry

/-- Does a terminal act on an ASCII character: ring, step back, feed a page, begin a sequence of
controls, or delete? -/
def isTerminalControl (c : Char) : Bool :=
  c == '\x07' || c == '\x08' || c == '\x0c' || c == '\x1b' || c == '\x7f'

/-- How a character is shown; beyond ASCII all control characters are taken for a terminal's. -/
def shownChar (c : Char) : List Char :=
  if isTerminalControl c then ['\\', 'x'] ++ (Text.hex 2 c.toNat).toList
  else if 0x80 ≤ c.toNat ∧ c.toNat ≤ 0x9F then Text.bracedCode c
  else [c]

/-- The text as a log shows it. -/
def shown (e : LogEntry) : String :=
  String.ofList (e.text.toList.flatMap shownChar)

/-- The characters before the first line break, which is a line feed or a carriage return in front
of one. -/
def firstLine : List Char → List Char
  | [] => []
  | '\n' :: _ => []
  | '\r' :: '\n' :: _ => []
  | c :: cs => c :: firstLine cs

/-- The level and the first line of the text. -/
def heading (e : LogEntry) : String :=
  e.level.name.toUpper ++ " " ++ String.ofList (firstLine e.shown.toList)

end LogEntry

end SwitchPlatform
