import SwitchPlatform.Reading.Fan
import SwitchPlatform.Text.Numeral

/-!
# Readings of power supplies

Voltages, currents and powers are in thousandths of their units. A value counts only if its
capability is set. A supply is healthy if its status says that it is present and nothing else.
-/

namespace SwitchPlatform

/-- The state of a power supply. -/
abbrev PsuStatus := Flags .psuStatus

namespace PsuStatus

def present : PsuStatus := ⟨1⟩

def failed : PsuStatus := ⟨2⟩

/-- Present without input power. -/
def unplugged : PsuStatus := ⟨4⟩

end PsuStatus

/-- The type of a power supply and the values it reports. -/
abbrev PsuCaps := Flags .psuCaps

namespace PsuCaps

def ac : PsuCaps := ⟨1⟩

def vin : PsuCaps := ⟨8⟩

def vout : PsuCaps := ⟨16⟩

def iin : PsuCaps := ⟨32⟩

def iout : PsuCaps := ⟨64⟩

def pin : PsuCaps := ⟨128⟩

def pout : PsuCaps := ⟨256⟩

end PsuCaps

/-- A reading of a power supply. -/
structure PsuReading where
  header : Header
  model : String := ""
  serial : String := ""
  status : PsuStatus := .empty
  caps : PsuCaps := .empty
  mvin : Int32 := 0
  mvout : Int32 := 0
  miin : Int32 := 0
  miout : Int32 := 0
  mpin : Int32 := 0
  mpout : Int32 := 0
  deriving DecidableEq

namespace PsuReading

/-- Is the supply present, powered and not failed? -/
def isHealthy (r : PsuReading) : Bool :=
  r.status == PsuStatus.present

/-- The values of a reading, each with its capability, its name and its unit. -/
def values (r : PsuReading) : List (PsuCaps × String × Int32 × String) :=
  [(PsuCaps.vin, "vin", r.mvin, "V"), (PsuCaps.vout, "vout", r.mvout, "V"),
    (PsuCaps.iin, "iin", r.miin, "A"), (PsuCaps.iout, "iout", r.miout, "A"),
    (PsuCaps.pin, "pin", r.mpin, "W"), (PsuCaps.pout, "pout", r.mpout, "W")]

/-- The values that the supply reports, in one line. -/
def valuesText (r : PsuReading) : String :=
  String.join (r.values.map fun (cap, name, value, unit) =>
    if r.caps.has cap then " " ++ name ++ " " ++ Text.milli value ++ unit else "")

/-- The reading in one line. -/
def text (r : PsuReading) : String :=
  r.header.text ++
    if r.status.has PsuStatus.present then
      (if r.status.has PsuStatus.unplugged then " unplugged"
        else if r.status.has PsuStatus.failed then " FAILED"
        else "") ++
        FanReading.labelled "model" r.model ++ FanReading.labelled "serial" r.serial ++
        r.valuesText
    else " not present"

end PsuReading

end SwitchPlatform
