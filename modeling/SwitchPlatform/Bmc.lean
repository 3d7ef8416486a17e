import SwitchPlatform.Attribute

/-!
# Management controllers

A board may carry a management controller that owns the sensors and shows each of them as a
numbered value. Whether it is fitted is assumed or probed, see `Bmc.Mode`.
-/

namespace SwitchPlatform.Bmc

/-- How it is decided whether a controller is fitted. -/
inductive Mode
  /-- By the probe of the board. -/
  | auto
  /-- It is. -/
  | present
  /-- It is not. -/
  | absent
  deriving DecidableEq, Repr

namespace Mode

/-- Every mode. -/
def all : List Mode := [auto, present, absent]

/-- The name of a mode. -/
def name : Mode → String
  | auto => "auto"
  | present => "present"
  | absent => "absent"

/-- The mode with a given name. -/
def ofName? (s : String) : Option Mode :=
  all.find? (·.name == s)

theorem ofName?_name (m : Mode) : ofName? m.name = some m := by
  cases m <;> decide

end Mode

/-- An attribute that tells whether the controller is fitted, and its value if so. -/
structure Probe where
  path : String
  presentValue : Int32
  deriving DecidableEq

/-- Is the controller fitted? An attribute that cannot be read says that it is not. -/
def isFitted (mode : Mode) (probe : Option Probe) (root : Root) (t : FileTree) : Bool :=
  match mode, probe with
  | .present, _ => true
  | .absent, _ => false
  | .auto, none => false
  | .auto, some p =>
    match root.readInt p.path t with
    | .ok v => v == p.presentValue
    | .error _ => false

/-- The way to the numbered values of a controller. -/
inductive Link
  /-- Attributes `sensor<number>` in a directory. -/
  | directory (dir : String)
  /-- Fixed values, which cannot be written. -/
  | values (entries : List (Nat × Int32))
  deriving DecidableEq

namespace Link

/-- The attribute of a numbered value. -/
def sensorPath (dir : String) (sensor : Nat) : String :=
  Path.join dir ("sensor" ++ toString sensor)

/-- Reads a numbered value. -/
def read (link : Link) (root : Root) (sensor : Nat) (t : FileTree) : Except StatusError Int32 :=
  match link with
  | directory dir => (root.readInt (sensorPath dir sensor) t).mapError AttributeError.status
  | values entries =>
    match entries.lookup sensor with
    | some v => .ok v
    | none => .error .missing

/-- Writes a numbered value. -/
def write (link : Link) (root : Root) (sensor : Nat) (value : Int32) :
    Action StatusError FileTree Unit :=
  match link with
  | directory dir =>
    (root.writeInt (sensorPath dir sensor) value).mapError AttributeError.status
  | values _ => .fail .unsupported

end Link

end SwitchPlatform.Bmc
