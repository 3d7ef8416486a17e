import SwitchPlatform.Board.Registry
import SwitchPlatform.CommandLine.Arguments
import SwitchPlatform.Config
import SwitchPlatform.Logging.Entry
import SwitchPlatform.Logging.Targets
import SwitchPlatform.Report

/-!
# The tool

A run of the tool as a function of its arguments and of the files of the host: what it prints, what
it logs, how it changes the files, and whether it succeeds. `Tool.run` is such a run. Commands are
carried out by `perform`, on the platform that `start` has found.
-/

namespace SwitchPlatform

/-- Why the tool fails. -/
inductive ToolError
  | config (cause : ConfigError)
  | lookup (cause : LookupError)
  | tracing (cause : LogSettingError)
  /-- An operation on the platform failed. -/
  | operation (what : String) (cause : Fault)
  | wrongKind (id : Oid) (kind : Oid.Kind)

/-- The text of a tool error. -/
def ToolError.message : ToolError → String
  | config cause => cause.message
  | lookup cause => cause.message
  | tracing cause => "invalid tracing configuration: " ++ cause.message
  | operation what cause => what ++ ": " ++ cause.message
  | wrongKind id kind => id.text ++ " is not a " ++ kind.name ++ " object"

namespace Tool

/-- The log target of the tool. -/
def target : String := "onlpdump"

/-- The log targets of the parts that the tool is made of. -/
def partTargets : List LogTarget :=
  [.declare "onlp_tracectl::control" "tracectl" .info ["logging"] .module,
    .declare "onlp_platform" "platform" .info ["platform"] .module,
    .declare "onlp_platforms" "platforms" .info ["platform"] .module,
    .declare "onlp_config" "config" .info ["config"] .module]

/-- The levels at the start: undeclared targets show warnings, and all others what informs. -/
def logLevels : LogLevels :=
  ⟨.warn, partTargets ++ [.declare target "onlpdump" .info [] .module]⟩

/-- What changes while the tool runs. -/
structure Session where
  machine : Machine
  logging : LogControl := .start logLevels
  /-- What was printed. -/
  output : String := ""
  /-- What was logged and shown. -/
  log : List LogEntry := []

/-- A step of a run. -/
abbrev Step (α : Type) := Action ToolError Session α

/-- Prints a text. -/
def print (text : String) : Step Unit :=
  .update fun s => { s with output := s.output ++ text }

/-- Logs a text, which shows if the level of the tool's target admits it. -/
def log {ε : Type} (level : LogLevel) (text : String) : Action ε Session Unit :=
  .update fun s =>
    if s.logging.filter.shows target level then { s with log := s.log ++ [⟨level, text⟩] } else s

/-- Looks at the files of the host. -/
def onHost {α : Type} (f : FileTree → Except ToolError α) : Step α :=
  .inspect fun s => f s.machine.tree

/-- Runs a command on the platform; `what` names it if it fails. -/
def drive {α : Type} (what : String) (x : Command Machine α) : Step α :=
  (x.mapError (.operation what)).zoom Session.machine fun m s => { s with machine := m }

/-- Runs a query on the platform; `what` names it if it fails. -/
def ask {α : Type} (what : String) (x : Query Machine α) : Step α :=
  drive what (x.mapError .status)

/-- Refuses an object of another kind. -/
def expectKind (id : Oid) (kind : Oid.Kind) : Step Unit :=
  if id.kind = kind then pure () else .fail (.wrongKind id kind)

/-- Runs one management pass; passes are counted from one. -/
def managePass (p : Platform Machine) (number : Nat) : Step Unit := do
  log .debug ("management pass " ++ toString number)
  print (← drive "management" (Report.manage p))

/-- Runs `count` management passes. -/
def managePasses (p : Platform Machine) : Nat → Nat → Step Unit
  | _, 0 => pure ()
  | number, count + 1 => do
    managePass p number
    managePasses p (number + 1) count

/-- The name of a port's control in messages. -/
def controlName (port : Nat) (control : PortControl) : String :=
  "port " ++ toString port ++ " " ++ control.name

/-- Carries out a command. Of an endless sequence of passes only the first one is run; who wants
the others repeats `managePass`. -/
def perform (p : Platform Machine) : ToolCommand → Step Unit
  | .tree => do print (← ask "object tree" (Report.tree p))
  | .object id => do print (← ask id.text (Report.object p id))
  | .ports => do print (← ask "ports" (Report.ports p))
  | .page port diagnostics => do
    print (← ask ("port " ++ toString port ++ " eeprom") (Report.page p port diagnostics))
  | .control port control (some value) => do
    ask (controlName port control) (p.ports.setControl port control value)
    log .info ("port " ++ toString port ++ ": " ++ control.name ++ " set to " ++
      toString value.toInt)
  | .control port control none => do
    let value ← ask (controlName port control) (p.ports.getControl port control)
    print (controlName port control ++ ": " ++ toString value.toInt ++ "\n")
  | .fan id percentage => do
    expectKind id .fan
    drive id.text (p.fan.setPercentage id (Int32.ofNat percentage.toNat))
    log .info (id.text ++ " set to " ++ toString percentage.toNat ++ "%")
  | .led id mode => do
    expectKind id .led
    drive id.text (p.led.setMode id mode)
    log .info (id.text ++ " set to " ++ mode.name)
  | .manage passes _ => managePasses p 1 (max passes 1)
  | .system => do print (← ask "system eeprom" (Report.system p))

/-- Reads the configuration and applies its log settings. -/
def configure (args : Arguments) (cwd : FileTree.Location) : Step Config := do
  let file ← onHost fun t => (Config.loadOrDefault args.config cwd t).mapError .config
  let config := file.override args.platform args.root args.bmc args.tracing
  match config.tracing with
  | none => return config
  | some text =>
    ((LogControl.setup text).mapError .tracing).zoom Session.logging
      fun c s => { s with logging := c }
    return config

/-- Prints what the arguments ask for in place of a command; tells whether they did. -/
def printLists (args : Arguments) : Step Bool := do
  let s ← .view id
  if args.showTags then
    print (s.logging.levels.tagTable ++ "\n")
    return true
  else if args.showTargets then
    print (s.logging.levels.table ++ "\n")
    return true
  else if args.listPlatforms then
    print (String.join (Registry.boards.map fun b => b.name ++ "\n"))
    return true
  else return false

/-- Finds the board, and initializes its platform as far as that goes. -/
def start (config : Config) (cwd : FileTree.Location) : Step (Platform Machine) := do
  onHost fun t => (config.validate cwd t).mapError .config
  let root : Root := ⟨config.root⟩
  let board ← onHost fun t => (Registry.detect config.platform root t).mapError .lookup
  let platform := board.platform (board.io root config.bmc)
  match ← (ask "" platform.init).attempt with
  | .error (.operation _ cause) =>
    log .warn ("platform initialization incomplete: " ++ cause.message)
  | _ => pure ()
  return platform

/-- Everything before the command: ends in the platform for it, or in none if the arguments ask
for something else in its place. -/
def prepare (args : Arguments) (cwd : FileTree.Location) : Step (Option (Platform Machine)) := do
  let config ← configure args cwd
  if ← printLists args then return none
  return some (← start config cwd)

/-- The whole run for given arguments. -/
def steps (args : Arguments) (cwd : FileTree.Location) : Step Unit := do
  match ← prepare args cwd with
  | some platform => perform platform args.command
  | none => pure ()

/-- What a run leaves behind. -/
structure Outcome where
  exitCode : Nat
  output : String := ""
  log : List LogEntry := []
  tree : FileTree

/-- Ends a run; a failure is logged. -/
def conclude (outcome : Except ToolError Unit × Session) : Outcome :=
  match outcome with
  | (.ok (), s) => ⟨0, s.output, s.log, s.machine.tree⟩
  | (.error e, s) =>
    match (log .error e.message : Step Unit) s with
    | (_, s) => ⟨1, s.output, s.log, s.machine.tree⟩

/-- The outcome of a command line on the files of a host. -/
def run (words : List String) (cwd : FileTree.Location) (t : FileTree) :
    Except CommandLine.UsageError Outcome := do
  let args ← Arguments.read words
  return conclude (steps args cwd { machine := { tree := t } })

/-- The version of the tool. -/
def versionText : String := target ++ " 0.1.0\n"

/-- The outcome of a command line that is not accepted. -/
def refuse (e : CommandLine.UsageError) (t : FileTree) : Outcome :=
  match e with
  | .helpAsked => { exitCode := 0, tree := t }
  | .versionAsked => { exitCode := 0, output := versionText, tree := t }
  | _ => { exitCode := 2, tree := t }

/-- The outcome of any command line on the files of a host. -/
def main (words : List String) (cwd : FileTree.Location) (t : FileTree) : Outcome :=
  match run words cwd t with
  | .ok outcome => outcome
  | .error e => refuse e t

end Tool

end SwitchPlatform
