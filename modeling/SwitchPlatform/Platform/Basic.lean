import SwitchPlatform.FanPolicy
import SwitchPlatform.Io
import SwitchPlatform.Onie.Image
import SwitchPlatform.PortSet
import SwitchPlatform.Reading.Object

/-!
# Platforms

A platform is what a board offers: one record of operations per class of objects, over the state
`σ` of the board. Headers are looked up in the state and change nothing. Operations that a board
need not have are fields with a default; what follows from the others is a function on the record.
-/

namespace SwitchPlatform

/-- An operation that ends in a value or a status. -/
abbrev Query (σ α : Type) := Action StatusError σ α

/-- An operation that drives hardware, and ends in a value or a fault. -/
abbrev Command (σ α : Type) := Action Fault σ α

/-- An operation that the board does not have. -/
def Query.unsupported {σ α : Type} : Query σ α := .fail .unsupported

/-- An operation on hardware that the board does not have. -/
def Command.unsupported {σ α : Type} : Command σ α := .fail (.status .unsupported)

/-- The versions of a board's components. -/
structure Versions where
  cplds : List (String × String) := []
  others : List (String × String) := []
  deriving DecidableEq

namespace Versions

/-- Names and versions in one line. -/
def join (versions : List (String × String)) : String :=
  ", ".intercalate (versions.map fun (name, version) => name ++ ":" ++ version)

/-- All versions in one line. -/
def text (v : Versions) : String :=
  "CPLD versions: " ++ join v.cplds ++
    if v.others.isEmpty then "" else "; other versions: " ++ join v.others

end Versions

/-- The system: its name, its versions and its EEPROM. -/
structure SystemOps (σ : Type) where
  name : String
  init : Query σ Unit := pure ()
  /-- The header of the chassis. -/
  header : σ → Except StatusError Header
  onie : Query σ Onie.Info
  versions : Query σ Versions
  /-- Every object of the board. -/
  oids : Query σ (List Oid) := .inspect fun s => (header s).map Header.children

/-- The thermal sensors. -/
structure ThermalOps (σ : Type) where
  init : Query σ Unit := pure ()
  header : Oid → σ → Except StatusError Header
  read : Oid → Query σ ThermalReading

/-- The fans. -/
structure FanOps (σ : Type) where
  init : Query σ Unit := pure ()
  header : Oid → σ → Except StatusError Header
  read : Oid → Query σ FanReading
  setRpm : Oid → Int32 → Command σ Unit := fun _ _ => Command.unsupported
  /-- Applies a duty of at most 100. -/
  setDuty : Oid → UInt8 → Command σ Unit := fun _ _ => Command.unsupported
  setDir : Oid → FanDir → Command σ Unit := fun _ _ => Command.unsupported

/-- The power supplies. -/
structure PsuOps (σ : Type) where
  init : Query σ Unit := pure ()
  header : Oid → σ → Except StatusError Header
  read : Oid → Query σ PsuReading

/-- The leds. -/
structure LedOps (σ : Type) where
  init : Query σ Unit := pure ()
  header : Oid → σ → Except StatusError Header
  read : Oid → Query σ LedReading
  setMode : Oid → LedMode → Command σ Unit := fun _ _ => Command.unsupported

/-- The ports for transceiver modules, numbered from zero. -/
structure PortOps (σ : Type) where
  init : Query σ Unit := pure ()
  /-- The ports of the board. -/
  ports : σ → PortSet
  /-- Refuses a port that the board does not have. -/
  check : Nat → σ → Except StatusError Unit := fun port s =>
    if (ports s).contains port then .ok () else .error .param
  isPresent : Nat → Query σ Bool
  /-- The identification page of a module. -/
  readPage : Nat → Query σ (List UInt8)
  /-- The diagnostics page of a module. -/
  readDiagnostics : Nat → Query σ (List UInt8) := fun _ => Query.unsupported
  /-- One byte at an address on the bus of a port. -/
  readByte : Nat → Nat → Nat → Query σ UInt8 := fun _ _ _ => Query.unsupported
  writeByte : Nat → Nat → Nat → UInt8 → Query σ Unit := fun _ _ _ _ => Query.unsupported
  setControl : Nat → PortControl → Int32 → Query σ Unit := fun _ _ _ => Query.unsupported
  getControl : Nat → PortControl → Query σ Int32 := fun _ _ => Query.unsupported
  /-- What is done once a module was plugged. -/
  afterInsert : Nat → Query σ Unit := fun _ => pure ()
  release : Query σ Unit := pure ()

/-- Everything that a board offers. -/
structure Platform (σ : Type) where
  system : SystemOps σ
  thermal : ThermalOps σ
  fan : FanOps σ
  psu : PsuOps σ
  led : LedOps σ
  ports : PortOps σ
  /-- One pass over the fans. -/
  manageFans : Command σ FanDecision := Command.unsupported
  /-- One pass over the leds that show health. -/
  manageLeds : Command σ Unit := Command.unsupported

variable {σ : Type}

/-- Sets the duty of a fan, which is a percentage. -/
def FanOps.setPercentage (fan : FanOps σ) (id : Oid) (percentage : Int32) : Command σ Unit :=
  if 0 ≤ percentage ∧ percentage ≤ 100 then fan.setDuty id (UInt8.ofNat percentage.toInt.toNat)
  else .fail (.status .param)

/-- Puts a fan into a band. -/
def FanOps.setMode (fan : FanOps σ) (id : Oid) (mode : FanMode) : Command σ Unit :=
  fan.setPercentage id (Int32.ofNat mode.percentage.toNat)

/-- Switches an led on or off. -/
def LedOps.set (led : LedOps σ) (id : Oid) (on : Bool) : Command σ Unit :=
  led.setMode id (if on then .on else .off)

namespace PortOps

/-- Collects the ports of a list that pass a test. -/
def collect (test : Nat → Query σ Bool) : List Nat → PortSet → Query σ PortSet
  | [], found => pure found
  | p :: ps, found => do
    if ← test p then collect test ps (found.insert p) else collect test ps found

/-- All ports with a module in them. -/
def present (ops : PortOps σ) : Query σ PortSet := do
  let all ← .view ops.ports
  collect ops.isPresent all.ports .empty

/-- Does a port report loss of signal? One that cannot report it does not. -/
def losesSignal (ops : PortOps σ) (port : Nat) : Query σ Bool := do
  match ← (ops.getControl port .rxLos).attempt with
  | .ok v => pure (v != 0)
  | .error .unsupported => pure false
  | .error .missing => pure false
  | .error e => .fail e

/-- All ports that report loss of signal. -/
def rxLos (ops : PortOps σ) : Query σ PortSet := do
  let all ← .view ops.ports
  collect ops.losesSignal all.ports .empty

end PortOps

/-- The port of a module object; modules are numbered from one. -/
def modulePort (id : Oid) : Except StatusError Nat :=
  if id.kind = .module then .ok (id.index - 1) else .error .param

namespace Platform

/-- The name of the board. -/
def name (p : Platform σ) : String :=
  p.system.name

/-- Runs every operation, and ends in the first status that one of them ended in. -/
def runAll : List (Query σ Unit) → Query σ Unit
  | [] => pure ()
  | x :: rest => do
    let first ← x.attempt
    let others ← (runAll rest).attempt
    match first with
    | .error e => .fail e
    | .ok () => .ofExcept others

/-- Initializes every class of objects, also after one of them failed. -/
def init (p : Platform σ) : Query σ Unit :=
  runAll [p.system.init, p.thermal.init, p.fan.init, p.psu.init, p.led.init, p.ports.init]

/-- The header of a module, for a port that the board has. -/
def moduleHeader (p : Platform σ) (id : Oid) (s : σ) : Except StatusError Header := do
  let port ← modulePort id
  p.ports.check port s
  return ⟨id, "Port " ++ toString port, .chassis, []⟩

/-- The header of any object. -/
def header (p : Platform σ) (id : Oid) (s : σ) : Except StatusError Header :=
  match id.kind with
  | .sys => if id = .chassis then p.system.header s else .error .param
  | .thermal => p.thermal.header id s
  | .fan => p.fan.header id s
  | .psu => p.psu.header id s
  | .led => p.led.header id s
  | .module => p.moduleHeader id s
  | .rtc => .error .param

/-- The kind of the module in a port, if its page is readable. -/
def moduleKind? (p : Platform σ) (port : Nat) : Query σ (Option ModuleKind) := do
  match ← (p.ports.readPage port).attempt with
  | .ok page => pure (some (.ofPage page))
  | .error _ => pure none

/-- The state of a port. -/
def readModule (p : Platform σ) (id : Oid) : Query σ ObjectReading := do
  let header ← .inspect (p.moduleHeader id)
  let port ← .ofExcept (modulePort id)
  if ← p.ports.isPresent port then
    return .module header true (← p.moduleKind? port)
  else
    return .module header false none

/-- The state of any object. -/
def read (p : Platform σ) (id : Oid) : Query σ ObjectReading :=
  match id.kind with
  | .thermal => do return .thermal (← p.thermal.read id)
  | .fan => do return .fan (← p.fan.read id)
  | .psu => do return .psu (← p.psu.read id)
  | .led => do return .led (← p.led.read id)
  | .module => p.readModule id
  | .sys => do return .chassis (← .inspect (p.header id))
  | .rtc => do return .chassis (← .inspect (p.header id))

end Platform

end SwitchPlatform
