import SwitchPlatform.Bmc
import SwitchPlatform.CommandLine.Grammar
import SwitchPlatform.Oid
import SwitchPlatform.Reading.Led
import SwitchPlatform.Text.Numeral
import SwitchPlatform.Transceiver

/-!
# Arguments

The arguments of the tool: where the hardware is, what to print instead of touching it, and the
command. `Arguments.read` is what a command line means.
-/

namespace SwitchPlatform

open CommandLine

/-- What the tool is told to do. -/
inductive ToolCommand
  /-- Prints all objects. -/
  | tree
  /-- Prints one object. -/
  | object (id : Oid)
  /-- Prints the sets of ports and the modules. -/
  | ports
  /-- Prints a page of a module. -/
  | page (port : Nat) (diagnostics : Bool)
  /-- Prints a control of a port, or sets it to a value. -/
  | control (port : Nat) (control : PortControl) (value : Option Int32)
  /-- Sets the duty of a fan. -/
  | fan (id : Oid) (percentage : UInt8)
  /-- Shows a mode on an led. -/
  | led (id : Oid) (mode : LedMode)
  /-- Runs management passes, endlessly for zero passes, with seconds between them. -/
  | manage (passes interval : Nat)
  /-- Prints the system EEPROM. -/
  | system
  deriving DecidableEq

/-- The arguments of the tool. -/
structure Arguments where
  config : Option String := none
  platform : Option String := none
  root : Option String := none
  bmc : Option Bmc.Mode := none
  tracing : Option String := none
  showTags : Bool := false
  showTargets : Bool := false
  listPlatforms : Bool := false
  command : ToolCommand := .tree
  deriving DecidableEq

namespace Arguments

/-- The arguments of all commands. -/
structure Draft where
  id : Option Oid := none
  port : Option Nat := none
  diagnostics : Bool := false
  control : Option PortControl := none
  value : Option Int32 := none
  percentage : Option UInt8 := none
  mode : Option LedMode := none
  passes : Nat := 1
  interval : Nat := 5

/-- Reads a value that a function may refuse. -/
def reading {α β : Type} (parse : String → Option β) (set : β → α → α) : Effect α :=
  .value fun s =>
    match parse s with
    | some v => .ok (set v)
    | none => .error .badValue

/-- Reads the path of a file, which is not empty. -/
def path {α : Type} (set : String → α → α) : Effect α :=
  .value fun s => if s = "" then .error .emptyValue else .ok (set s)

/-- Reads a number between zero and `bound`, with any sign. -/
def number? (bound : Nat) (s : String) : Option Nat :=
  (Text.signed? 10 0 bound s.toList).map Int.toNat

/-- Reads a number of 32 bits with its sign. -/
def int32? (s : String) : Option Int32 :=
  (Text.signed? 10 2147483648 2147483647 s.toList).map Int32.ofInt

/-- Asks for help. -/
def help {α : Type} : Parameter α := ⟨"help", .help⟩

/-- An object id. -/
def idParameter : Parameter Draft :=
  ⟨"OID", reading (fun s => (Oid.parse s).toOption) fun v d => { d with id := some v }⟩

/-- The number of a port. -/
def portParameter : Parameter Draft :=
  ⟨"PORT", reading (number? Text.maxWord) fun v d => { d with port := some v }⟩

/-- The form of a command with operands and options of its own. -/
def commandForm (operands : List (Parameter Draft)) (required : Nat)
    (options : List (Parameter Draft)) : Form Draft :=
  { options := help :: options, letters := [('h', help)], operands := operands
    required := required }

/-- The forms of the commands, and what each of them makes of its arguments. -/
def commands : List (String × Form Draft × (Draft → Option ToolCommand)) :=
  [("show", commandForm [] 0 [], fun _ => some .tree),
    ("oid", commandForm [idParameter] 1 [], fun d => d.id.map .object),
    ("sfp", commandForm [] 0 [], fun _ => some .ports),
    ("eeprom",
      commandForm [portParameter] 1 [⟨"dom", .flag fun d => { d with diagnostics := true }⟩],
      fun d => d.port.map fun port => .page port d.diagnostics),
    ("control",
      commandForm
        [portParameter,
          ⟨"CONTROL", reading PortControl.ofName? fun v d => { d with control := some v }⟩,
          ⟨"VALUE", reading int32? fun v d => { d with value := some v }⟩]
        2 [],
      fun d => do return .control (← d.port) (← d.control) d.value),
    ("fan",
      commandForm
        [idParameter,
          ⟨"PERCENTAGE", reading (number? 100) fun v d =>
            { d with percentage := some (UInt8.ofNat v) }⟩]
        2 [],
      fun d => do return .fan (← d.id) (← d.percentage)),
    ("led",
      commandForm
        [idParameter, ⟨"MODE", reading LedMode.ofName? fun v d => { d with mode := some v }⟩]
        2 [],
      fun d => do return .led (← d.id) (← d.mode)),
    ("manage",
      commandForm [] 0
        [⟨"passes", reading (number? Text.maxWord) fun v d => { d with passes := v }⟩,
          ⟨"interval", reading (fun s => Text.unsigned? 10 18446744073709551615 s.toList)
            fun v d => { d with interval := v }⟩],
      fun d => some (.manage d.passes d.interval)),
    ("onie", commandForm [] 0 [], fun _ => some .system)]

/-- The word that asks for the help of a command. -/
def helpWord : String := "help"

/-- The form of the arguments before the command. -/
def form : Form Arguments :=
  { options :=
      [⟨"config", path fun v a => { a with config := some v }⟩,
        ⟨"platform", reading some fun v a => { a with platform := some v }⟩,
        ⟨"root", path fun v a => { a with root := some v }⟩,
        ⟨"bmc", reading Bmc.Mode.ofName? fun v a => { a with bmc := some v }⟩,
        ⟨"tracing", reading some fun v a => { a with tracing := some v }⟩,
        ⟨"show-tracing-tags", .flag fun a => { a with showTags := true }⟩,
        ⟨"show-tracing-targets", .flag fun a => { a with showTargets := true }⟩,
        ⟨"list-platforms", .flag fun a => { a with listPlatforms := true }⟩,
        help, ⟨"version", .version⟩]
    letters := [('h', help), ('V', ⟨"version", .version⟩)]
    commands := commands.map Prod.fst ++ [helpWord] }

/-- What asking for help about commands ends in; a command has no commands of its own. -/
def helpError : List String → UsageError
  | [] => .helpAsked
  | [name] => if form.commands.contains name then .helpAsked else .unknownCommand
  | _ => .unknownCommand

/-- The command that a word names, with the words after it. -/
def readCommand (name : String) (ws : List String) : Except UsageError ToolCommand :=
  match commands.lookup name with
  | none => .error (helpError ws)
  | some (form, make) => do
    let draft ← form.readAll {} ws
    match make draft with
    | some command => return command
    | none => .error .missingArgument

/-- The arguments that a command line stands for. -/
def read (ws : List String) : Except UsageError Arguments := do
  match ← form.readWords { draft := {} } false ws with
  | (s, none) => form.finish s
  | (s, some (name, rest)) => do
    let command ← readCommand name rest
    return { (← form.finish s) with command := command }

end Arguments

end SwitchPlatform
