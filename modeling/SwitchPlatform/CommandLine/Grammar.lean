/-!
# Command lines

Reading the words of a command line by a form: options that start with `--`, of which some take a
value, single letters behind one dash, operands by their order, and words that name a command and
leave the words after it to it. A word is checked once it is clear that it has all of its values,
that is, when the next option or operand begins or the line ends; so of two faults the one that
shows itself first is reported.
-/

namespace SwitchPlatform.CommandLine

/-- Why a command line is not accepted. Asking for help ends it, too. -/
inductive UsageError
  /-- A value is not of its kind. -/
  | badValue
  /-- A value is missing or empty. -/
  | emptyValue
  | unknownArgument
  | missingArgument
  | unknownCommand
  /-- An option was given before. -/
  | repeated
  /-- An option that takes no value was given one. -/
  | excessValue
  | helpAsked
  | versionAsked
  deriving DecidableEq, Repr

/-- What an argument does to the record `α` of all arguments. -/
inductive Effect (α : Type)
  | flag (set : α → α)
  | value (read : String → Except UsageError (α → α))
  | help
  | version

/-- An argument of a form; options are known by their names. -/
structure Parameter (α : Type) where
  name : String
  effect : Effect α

/-- The arguments of a command line. -/
structure Form (α : Type) where
  options : List (Parameter α) := []
  letters : List (Char × Parameter α) := []
  operands : List (Parameter α) := []
  /-- The number of operands that have to be given. -/
  required : Nat := 0
  /-- Words that leave the rest of the line to a command. -/
  commands : List String := []

/-- How far a line was read. -/
structure Progress (α : Type) where
  draft : α
  /-- The arguments that were given. -/
  given : List String := []
  /-- An argument that is not checked yet, and its value if it came. -/
  pending : Option (Parameter α × Option String) := none
  /-- The number of operands so far. -/
  operand : Nat := 0

variable {α : Type}

namespace Progress

/-- Does an option wait for its value? -/
def awaits (s : Progress α) : Bool :=
  match s.pending with
  | some (_, none) => true
  | _ => false

/-- The progress after an argument with its value. -/
def assign (s : Progress α) (p : Parameter α) (v : String) : Except UsageError (Progress α) :=
  if s.given.contains p.name then .error .repeated
  else
    match p.effect with
    | .value read => do
      let set ← read v
      return { s with draft := set s.draft, given := p.name :: s.given }
    | _ => .error .excessValue

/-- Checks the argument that is not checked yet. -/
def settle (s : Progress α) : Except UsageError (Progress α) :=
  match s.pending with
  | none => .ok s
  | some (_, none) => .error .emptyValue
  | some (p, some v) => { s with pending := none }.assign p v

/-- The progress after an argument without a value. -/
def raise (s : Progress α) (p : Parameter α) : Except UsageError (Progress α) := do
  let s ← s.settle
  match p.effect with
  | .flag set =>
    if s.given.contains p.name then .error .repeated
    else return { s with draft := set s.draft, given := p.name :: s.given }
  | .help => .error .helpAsked
  | .version => .error .versionAsked
  | .value _ => return { s with pending := some (p, none) }

end Progress

namespace Form

/-- Reads an option; a value may follow its name behind `=`. -/
def readOption (form : Form α) (s : Progress α) (word : List Char) :
    Except UsageError (Progress α) :=
  let name := String.ofList (word.takeWhile (· != '='))
  match form.options.find? (·.name == name), word.dropWhile (· != '=') with
  | none, _ => .error .unknownArgument
  | some p, [] => s.raise p
  | some p, _ :: v =>
    match p.effect with
    | .value _ => do (← s.settle).assign p (String.ofList v)
    | _ => .error .excessValue

/-- Reads the letters behind one dash. -/
def readLetters (form : Form α) : Progress α → List Char → Except UsageError (Progress α)
  | s, [] => .ok s
  | s, c :: cs =>
    match form.letters.lookup c with
    | none => .error .unknownArgument
    | some p => do form.readLetters (← s.raise p) cs

/-- Reads a word that is no option. Behind `--` the name of a command is no command. -/
def readOperand (form : Form α) (s : Progress α) (behindDashes : Bool) (word : String) :
    Except UsageError (Progress α) :=
  match form.operands[s.operand]? with
  | some p => do
    let s ← s.settle
    return { s with pending := some (p, some word), operand := s.operand + 1 }
  | none =>
    if form.commands.isEmpty || (behindDashes && form.commands.contains word) then
      .error .unknownArgument
    else .error .unknownCommand

/-- Reads a word before any `--`. -/
def readWord (form : Form α) (s : Progress α) (word : String) :
    Except UsageError (Progress α) :=
  match word.toList, s.pending with
  | '-' :: '-' :: cs, _ => form.readOption s cs
  | '-' :: c :: cs, _ => form.readLetters s (c :: cs)
  | _, some (p, none) => .ok { s with pending := some (p, some word) }
  | _, _ => form.readOperand s false word

/-- Reads words up to a command; gives the command with the words after it. -/
def readWords (form : Form α) (s : Progress α) (behindDashes : Bool) :
    List String → Except UsageError (Progress α × Option (String × List String))
  | [] => .ok (s, none)
  | w :: ws =>
    if behindDashes then do form.readWords (← form.readOperand s true w) true ws
    else if !s.awaits && form.commands.contains w then .ok (s, some (w, ws))
    else if w = "--" then form.readWords s true ws
    else do form.readWords (← form.readWord s w) false ws

/-- Ends a line: checks what is pending, and that no operand is missing. -/
def finish (form : Form α) (s : Progress α) : Except UsageError α := do
  let s ← s.settle
  if (form.operands.take form.required).all fun p => s.given.contains p.name then return s.draft
  else .error .missingArgument

/-- Reads the words of a form without commands. -/
def readAll (form : Form α) (start : α) (ws : List String) : Except UsageError α := do
  let (s, _) ← form.readWords { draft := start } false ws
  form.finish s

end Form

end SwitchPlatform.CommandLine
