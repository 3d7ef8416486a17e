import SwitchPlatform.Flags
import SwitchPlatform.Oid
import SwitchPlatform.Text.Numeral

/-!
# Readings of thermal sensors

Temperatures are in thousandths of a degree Celsius. A reading has a level only if the sensor is
present and has not failed; a threshold of zero is not set.
-/

namespace SwitchPlatform

/-- The state of a thermal sensor. -/
abbrev ThermalStatus := Flags .thermalStatus

namespace ThermalStatus

def present : ThermalStatus := ⟨1⟩

def failed : ThermalStatus := ⟨2⟩

end ThermalStatus

/-- What a thermal sensor can report. -/
abbrev ThermalCaps := Flags .thermalCaps

namespace ThermalCaps

def temperature : ThermalCaps := ⟨1⟩

def warningThreshold : ThermalCaps := ⟨2⟩

def errorThreshold : ThermalCaps := ⟨4⟩

def shutdownThreshold : ThermalCaps := ⟨8⟩

/-- The temperature and all thresholds. -/
def full : ThermalCaps := temperature ||| warningThreshold ||| errorThreshold ||| shutdownThreshold

end ThermalCaps

/-- How serious a temperature is. -/
inductive ThermalLevel
  | normal
  | warning
  | error
  | shutdown
  deriving DecidableEq, Repr

namespace ThermalLevel

/-- The name of a level. -/
def name : ThermalLevel → String
  | normal => "normal"
  | warning => "warning"
  | error => "error"
  | shutdown => "shutdown"

/-- The place of a level, from the least serious one on. -/
def rank : ThermalLevel → Nat
  | normal => 0
  | warning => 1
  | error => 2
  | shutdown => 3

end ThermalLevel

/-- The temperatures at which the levels begin. -/
structure Thresholds where
  warning : Int32
  error : Int32
  shutdown : Int32
  deriving DecidableEq

namespace Thresholds

/-- Is a threshold set and reached? -/
def reached (threshold mcelsius : Int32) : Bool :=
  threshold != 0 && threshold ≤ mcelsius

/-- The level of a temperature: the most serious one whose threshold is reached. -/
def level (t : Thresholds) (mcelsius : Int32) : ThermalLevel :=
  if reached t.shutdown mcelsius then .shutdown
  else if reached t.error mcelsius then .error
  else if reached t.warning mcelsius then .warning
  else .normal

end Thresholds

/-- A reading of a thermal sensor. -/
structure ThermalReading where
  header : Header
  status : ThermalStatus
  caps : ThermalCaps
  mcelsius : Int32
  thresholds : Thresholds
  deriving DecidableEq

namespace ThermalReading

/-- The level of the temperature read, none from a sensor that is absent or has failed. -/
def level? (r : ThermalReading) : Option ThermalLevel :=
  if r.status.has ThermalStatus.present && !r.status.has ThermalStatus.failed then
    some (r.thresholds.level r.mcelsius)
  else none

/-- The reading in one line. -/
def text (r : ThermalReading) : String :=
  r.header.text ++
    match r.level? with
    | none => if r.status.has ThermalStatus.failed then " failed" else " not present"
    | some level =>
      " " ++ Text.milli r.mcelsius ++ " C (" ++ level.name ++
        "; warn " ++ toString r.thresholds.warning.toInt ++
        " / err " ++ toString r.thresholds.error.toInt ++
        " / shutdown " ++ toString r.thresholds.shutdown.toInt ++ ")"

end ThermalReading

end SwitchPlatform
