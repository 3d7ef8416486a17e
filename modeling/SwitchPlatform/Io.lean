import SwitchPlatform.Bmc
import SwitchPlatform.Hwmon
import SwitchPlatform.Locator

/-!
# Reading and writing locators

`Io` is the fixed side of a board's access to its hardware, `Machine` what changes while it runs:
the file tree, whether a management controller was found fitted, and the duty of the fans. The
question whether a controller is fitted is settled by the first operation that depends on it and
keeps its answer. Reading ends in a value or a status; writing a scaled value divides it, and the
one quotient without a 32-bit result ends the run with `Fault.quotientOverflow`.
-/

namespace SwitchPlatform

/-- What changes while a board runs. -/
structure Machine where
  tree : FileTree
  /-- The answer to whether a management controller is fitted, once it was asked for. -/
  bmcFitted : Option Bool := none
  /-- The duty that the last pass over the fans decided. -/
  duty : Option UInt8 := none

/-- Why a writing operation ends: with a status, or beyond any status. -/
inductive Fault
  | status (e : StatusError)
  | quotientOverflow
  deriving DecidableEq

/-- The text of a fault. -/
def Fault.message : Fault → String
  | status e => e.message
  | quotientOverflow => "attempt to divide with overflow"

instance {σ : Type} : MonadLift (Action StatusError σ) (Action Fault σ) :=
  ⟨Action.mapError Fault.status⟩

/-- The fixed side of the access to a board's hardware. -/
structure Io where
  root : Root
  link : Option Bmc.Link := none
  mode : Bmc.Mode := .absent
  probe : Option Bmc.Probe := none

/-- An operation on a machine that ends in a value or a status. -/
abbrev Access (α : Type) := Action StatusError Machine α

/-- An operation on a machine that writes, and ends in a value or a fault. -/
abbrev Drive (α : Type) := Action Fault Machine α

/-- An operation on the attributes of a machine. -/
def onTree {α : Type} (x : Action AttributeError FileTree α) : Access α :=
  (x.mapError AttributeError.status).zoom Machine.tree fun t m => { m with tree := t }

/-- A look at the attributes of a machine. -/
def fromTree {α : Type} (f : FileTree → Except AttributeError α) : Access α :=
  .inspect fun m => (f m.tree).mapError AttributeError.status

namespace Io

/-- Is the controller fitted? The first answer holds from then on. -/
def isFitted {ε : Type} (io : Io) : Action ε Machine Bool := fun m =>
  match m.bmcFitted with
  | some fitted => (.ok fitted, m)
  | none =>
    let fitted := Bmc.isFitted io.mode io.probe io.root m.tree
    (.ok fitted, { m with bmcFitted := some fitted })

/-- Is there a controller that is linked and fitted? -/
def hasBmc {ε : Type} (io : Io) : Action ε Machine Bool :=
  if io.link.isSome then io.isFitted else pure false

/-- The link to a controller that is fitted. -/
def bmc (io : Io) : Access Bmc.Link :=
  match io.link with
  | none => .fail .missing
  | some link => do
    if ← io.isFitted then pure link else .fail .missing

/-- Reads a sensor of the controller. -/
def readBmc (io : Io) (sensor : Nat) (scale : Int32) : Access Int32 := do
  let link ← io.bmc
  let raw ← .inspect fun m => link.read io.root sensor m.tree
  match Text.int32? (raw.toInt * scale.toInt) with
  | some v => pure v
  | none => .fail .invalid

/-- Reads an attribute in the sensor directory of a device. -/
def readHwmon (io : Io) (device attr : String) : Access Int32 := do
  let path ← fromTree (Hwmon.attributePath io.root device attr)
  fromTree (io.root.readInt path)

/-- Reads an integer. -/
def read (io : Io) : Locator → Access Int32
  | .file path => fromTree (io.root.readInt path)
  | .hwmon device attr => io.readHwmon device attr
  | .gpio line => do
    let asserted ← onTree (line.isAsserted io.root)
    pure (if asserted then 1 else 0)
  | .bmc sensor scale => io.readBmc sensor scale
  | .bmcOr sensor scale fallback => do
    if ← io.hasBmc then io.readBmc sensor scale else io.read fallback

/-- The value of an operation, and none if what it needs is missing. -/
def optional {α : Type} (x : Access α) : Access (Option α) := do
  match ← x.attempt with
  | .ok v => pure (some v)
  | .error .missing => pure none
  | .error e => .fail e

/-- Reads an integer that may be missing. -/
def read? (io : Io) (at_ : Locator) : Access (Option Int32) :=
  optional (io.read at_)

/-- Reads a flag: any value but zero sets it, and a missing one does not. -/
def readFlag (io : Io) (at_ : Locator) : Access Bool := do
  return (← io.read? at_).any (· != 0)

/-- Reads text. -/
def readText (io : Io) : Locator → Access String
  | .file path => fromTree (io.root.readText path)
  | .hwmon device attr => do
    let path ← fromTree (Hwmon.attributePath io.root device attr)
    fromTree (io.root.readText path)
  | .gpio _ => .fail .unsupported
  | .bmc _ _ => .fail .unsupported
  | .bmcOr _ _ fallback => do
    if ← io.hasBmc then .fail .unsupported else io.readText fallback

/-- The value to write for a value in scaled units: the quotient towards zero, or the value
itself for scale zero. -/
def unscaled? (value scale : Int32) : Option Int32 :=
  if scale = 0 then some value else Text.int32? (value.toInt.tdiv scale.toInt)

/-- Writes a sensor of the controller. -/
def writeBmc (io : Io) (sensor : Nat) (scale value : Int32) : Drive Unit :=
  match unscaled? value scale with
  | none => .fail .quotientOverflow
  | some raw => do
    let link ← io.bmc
    ((link.write io.root sensor raw).zoom Machine.tree fun t m => { m with tree := t } :
      Access Unit)

/-- Writes an integer. -/
def write (io : Io) : Locator → Int32 → Drive Unit
  | .file path, value => onTree (io.root.writeInt path value)
  | .hwmon device attr, value => do
    let path ← fromTree (Hwmon.attributePath io.root device attr)
    onTree (io.root.writeInt path value)
  | .gpio line, value => onTree (line.setAsserted io.root (value != 0))
  | .bmc sensor scale, value => io.writeBmc sensor scale value
  | .bmcOr sensor scale fallback, value => do
    if ← io.hasBmc then io.writeBmc sensor scale value else io.write fallback value

end Io

end SwitchPlatform
