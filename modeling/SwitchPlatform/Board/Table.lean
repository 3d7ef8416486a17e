import SwitchPlatform.Bmc
import SwitchPlatform.FanPolicy
import SwitchPlatform.Locator
import SwitchPlatform.Reading.Object

/-!
# Board tables

A board is described by tables: one entry per sensor, fan, power supply and led, the wiring of its
ports, and its policies. Entry `i` of a table, counted from zero, is object `i + 1` of its kind.
-/

namespace SwitchPlatform

/-- A flag at a locator. One that is active low is asserted when it reads zero, and a missing one
is not asserted. -/
structure Signal where
  locator : Locator
  activeLow : Bool := false
  deriving DecidableEq

/-- A thermal sensor of a board; its parent is the chassis or a power supply. -/
structure ThermalEntry where
  description : String
  parent : Oid
  input : Locator
  caps : ThermalCaps
  thresholds : Thresholds
  deriving DecidableEq

/-- Where the direction of a fan comes from. -/
inductive FanDirSource
  | unknown
  | fixed (dir : FanDir)
  /-- An attribute that reads `f2b` for front to back, and anything else for back to front. -/
  | attribute (locator : Locator) (f2b : Int32)
  deriving DecidableEq

/-- A fan of a board; its parent is the chassis or a power supply. -/
structure FanEntry where
  description : String
  parent : Oid
  caps : FanCaps
  /-- None for a fan that is always there. -/
  present : Option Signal := none
  fault : Option Signal := none
  rpm : Option Locator := none
  /-- The duty in percent. -/
  percentage : Option Locator := none
  /-- The speed at full duty, from which the duty is derived when it has no locator. -/
  maxRpm : Int32 := 0
  dir : FanDirSource := .unknown
  model : Option Locator := none
  serial : Option Locator := none
  deriving DecidableEq

/-- A power supply of a board. -/
structure PsuEntry where
  description : String
  /-- The type; the capabilities of values are added as they are read. -/
  caps : PsuCaps
  present : Signal
  powerGood : Option Signal := none
  inputGood : Option Signal := none
  /-- The device whose sensor directory has the electrical values. -/
  pmbus : Option String := none
  model : Option Locator := none
  serial : Option Locator := none
  fan : Option Oid := none
  thermal : Option Oid := none
  deriving DecidableEq

/-- The objects attached to a power supply. -/
def PsuEntry.children (psu : PsuEntry) : List Oid :=
  psu.fan.toList ++ psu.thermal.toList

/-- An led of a board, with the register value of each mode. -/
structure LedEntry where
  description : String
  locator : Locator
  modes : List (Int32 × LedMode)
  deriving DecidableEq

/-- A flag per port. -/
inductive PortSignal
  /-- Attributes of CPLDs: the place of a port's segment selects the directory, and its value
  fills the name of the attribute. -/
  | cpld (ranges : RangeMap) (dirs : List String) (attr : PathTemplate) (activeLow : Bool)
  /-- GPIO lines by number. -/
  | gpio (lines : RangeMap) (activeLow : Bool)
  deriving DecidableEq

/-- What carries the flag of one port. -/
inductive PortLine
  | attribute (path : String) (activeLow : Bool)
  | gpio (line : Gpio)
  deriving DecidableEq

namespace PortSignal

/-- The line of a port, none for a port without the flag. -/
def line? (signal : PortSignal) (port : Nat) : Option PortLine :=
  match signal with
  | cpld ranges dirs attr activeLow =>
    (ranges.locate? port).bind fun (place, value) =>
      (dirs[place]?).map fun dir => .attribute (Path.join dir (attr.render [value])) activeLow
  | gpio lines activeLow =>
    (lines.map? port).map fun number => .gpio ⟨number, activeLow⟩

/-- The GPIO line of a port. -/
def gpio? (signal : PortSignal) (port : Nat) : Option Gpio :=
  match signal.line? port with
  | some (.gpio line) => some line
  | _ => none

/-- The GPIO lines of all ports. -/
def gpios (signal : PortSignal) : List Gpio :=
  match signal with
  | cpld _ _ _ _ => []
  | gpio lines _ => lines.ids.filterMap signal.gpio?

/-- Does a port have the flag? -/
def covers (signal : PortSignal) (port : Nat) : Bool :=
  (signal.line? port).isSome

end PortSignal

/-- The ports of a board, numbered below `count`, and their wiring. -/
structure PortLayout where
  count : Nat
  /-- The ports for modules of the QSFP family. -/
  qsfp : RangeMap := []
  present : PortSignal
  rxLos : Option PortSignal := none
  txFault : Option PortSignal := none
  txDisable : Option PortSignal := none
  reset : Option PortSignal := none
  lpMode : Option PortSignal := none
  /-- The bus of each port. -/
  eepromBus : RangeMap
  /-- The identification page, for the number of a bus. -/
  eeprom : PathTemplate
  /-- The diagnostics page, for the number of a bus. -/
  diagnostics : Option PathTemplate := none
  deriving DecidableEq

/-- Every flag per port that the board has. -/
def PortLayout.signals (ports : PortLayout) : List PortSignal :=
  ports.present ::
    [ports.rxLos, ports.txFault, ports.txDisable, ports.reset, ports.lpMode].filterMap id

/-- The management controller of a board. -/
structure BmcEntry where
  dir : String
  probe : Bmc.Probe
  deriving DecidableEq

/-- A board. -/
structure Board where
  name : String
  /-- The attribute with the system EEPROM. -/
  onieEeprom : Option String := none
  cplds : List (String × Locator) := []
  otherVersions : List (String × Locator) := []
  thermals : List ThermalEntry := []
  fans : List FanEntry := []
  psus : List PsuEntry := []
  leds : List LedEntry := []
  ports : PortLayout
  bmc : Option BmcEntry := none
  fanPolicy : Option FanPolicy := none
  ledRoles : Option LedRoles := none
  deriving DecidableEq

namespace Board

/-- The object of an entry of a table, of whose place 32 bits count. An entry beyond all ids is
taken for the chassis. -/
def oid (kind : Oid.Kind) (place : Nat) : Oid :=
  match Oid.make kind (place % UInt32.size + 1) with
  | .ok id => id
  | .error _ => .chassis

/-- The ids of the entries of a table. -/
def oids (kind : Oid.Kind) (size : Nat) : List Oid :=
  (List.range size).map (oid kind)

/-- The ids of the entries of a table that are attached to the chassis. -/
def chassisOids {α : Type} (kind : Oid.Kind) (parent : α → Oid) (table : List α) : List Oid :=
  (table.zipIdx.filter fun entry => parent entry.1 = .chassis).map fun entry => oid kind entry.2

/-- The entry of a table with a given id. -/
def lookup? {α : Type} (kind : Oid.Kind) (table : List α) (id : Oid) : Option α :=
  if id.kind = kind then table[id.index - 1]? else none

/-- The header of the chassis. -/
def chassisHeader (b : Board) : Header :=
  { id := .chassis, description := "Chassis", parent := .chassis
    children :=
      chassisOids .thermal ThermalEntry.parent b.thermals ++
      chassisOids .fan FanEntry.parent b.fans ++
      oids .psu b.psus.length ++ oids .led b.leds.length ++ oids .module b.ports.count }

end Board

end SwitchPlatform
