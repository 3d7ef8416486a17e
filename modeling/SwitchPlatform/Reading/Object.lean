import SwitchPlatform.Reading.Led
import SwitchPlatform.Reading.Psu
import SwitchPlatform.Reading.Thermal
import SwitchPlatform.Transceiver

/-!
# Readings of any object

The state of an object of any kind, with its header and its text in one line.
-/

namespace SwitchPlatform

/-- The state of an object. -/
inductive ObjectReading
  | chassis (header : Header)
  | thermal (reading : ThermalReading)
  | fan (reading : FanReading)
  | psu (reading : PsuReading)
  | led (reading : LedReading)
  /-- A port for a module; the kind is that of a module whose page was readable. -/
  | module (header : Header) (present : Bool) (kind : Option ModuleKind)
  deriving DecidableEq

namespace ObjectReading

/-- The header of an object. -/
def header : ObjectReading → Header
  | chassis h => h
  | thermal r => r.header
  | fan r => r.header
  | psu r => r.header
  | led r => r.header
  | module h _ _ => h

/-- The state of a port in words. -/
def moduleState (present : Bool) (kind : Option ModuleKind) : String :=
  if present then
    match kind with
    | some k => " " ++ k.name
    | none => " present"
  else " not present"

/-- The reading in one line. -/
def text : ObjectReading → String
  | chassis h => h.text
  | thermal r => r.text
  | fan r => r.text
  | psu r => r.text
  | led r => r.text
  | module h present kind => h.text ++ moduleState present kind

end ObjectReading

end SwitchPlatform
