import SwitchPlatform.Text.Numeral

/-!
# Log levels

How much of what is logged is shown. A level is written by its name in any case, or by its place
among the levels, where `0` shows nothing and `5` everything.
-/

namespace SwitchPlatform

/-- How much is shown, from nothing to everything. -/
inductive LogLevel
  | off
  | error
  | warn
  | info
  | debug
  | trace
  deriving DecidableEq, Repr

namespace LogLevel

/-- Every level, by ascending place. -/
def all : List LogLevel := [off, error, warn, info, debug, trace]

/-- The name of a level. -/
def name : LogLevel → String
  | off => "off"
  | error => "error"
  | warn => "warn"
  | info => "info"
  | debug => "debug"
  | trace => "trace"

/-- The place of a level. -/
def rank (l : LogLevel) : Nat := l.ctorIdx

/-- Does a name read as a level's, whatever the case of its letters? -/
def isNamed (cs : List Char) (l : LogLevel) : Bool :=
  cs.map Char.toLower == l.name.toList

/-- The level that a text stands for. -/
def parse? (s : String) : Option LogLevel :=
  match Text.unsigned? 10 5 s.toList with
  | some place => all[place]?
  | none => if s = "" then some .error else all.find? (isNamed s.toList)

end LogLevel

end SwitchPlatform
