import SwitchPlatform.Flags
import SwitchPlatform.Oid

/-!
# Readings of fans

A fan reports its speed, its duty in percent and the band that the duty falls in. It is healthy if
it is present and has not failed.
-/

namespace SwitchPlatform

/-- The state of a fan. -/
abbrev FanStatus := Flags .fanStatus

namespace FanStatus

def present : FanStatus := ⟨1⟩

def failed : FanStatus := ⟨2⟩

/-- Air flows from back to front. -/
def b2f : FanStatus := ⟨4⟩

/-- Air flows from front to back. -/
def f2b : FanStatus := ⟨8⟩

end FanStatus

/-- What a fan supports. -/
abbrev FanCaps := Flags .fanCaps

namespace FanCaps

def b2f : FanCaps := ⟨1⟩

def f2b : FanCaps := ⟨2⟩

def setPercentage : FanCaps := ⟨8⟩

def getRpm : FanCaps := ⟨16⟩

def getPercentage : FanCaps := ⟨32⟩

end FanCaps

/-- The direction of the air. -/
inductive FanDir
  | b2f
  | f2b
  deriving DecidableEq, Repr

namespace FanDir

/-- Every direction. -/
def all : List FanDir := [b2f, f2b]

/-- The name of a direction. -/
def name : FanDir → String
  | b2f => "b2f"
  | f2b => "f2b"

/-- The direction with a given name. -/
def ofName? (s : String) : Option FanDir :=
  all.find? (·.name == s)

/-- The flag of a direction. -/
def status : FanDir → FanStatus
  | b2f => FanStatus.b2f
  | f2b => FanStatus.f2b

end FanDir

/-- Bands of fan speed. -/
inductive FanMode
  | off
  | slow
  | normal
  | fast
  | max
  deriving DecidableEq, Repr

namespace FanMode

/-- Every band. -/
def all : List FanMode := [off, slow, normal, fast, max]

/-- The name of a band. -/
def name : FanMode → String
  | off => "off"
  | slow => "slow"
  | normal => "normal"
  | fast => "fast"
  | max => "max"

/-- The band with a given name. -/
def ofName? (s : String) : Option FanMode :=
  all.find? (·.name == s)

/-- The band that a duty falls in. -/
def ofPercentage (p : UInt8) : FanMode :=
  if p = 0 then off
  else if p ≤ 40 then slow
  else if p ≤ 70 then normal
  else if p ≤ 99 then fast
  else max

/-- The duty that puts a fan into a band. -/
def percentage : FanMode → UInt8
  | off => 0
  | slow => 40
  | normal => 60
  | fast => 80
  | max => 100

theorem ofPercentage_percentage (m : FanMode) : ofPercentage m.percentage = m := by
  cases m <;> decide

end FanMode

/-- A reading of a fan. -/
structure FanReading where
  header : Header
  status : FanStatus
  caps : FanCaps
  rpm : Int32
  percentage : UInt8
  mode : FanMode
  model : String
  serial : String
  deriving DecidableEq

namespace FanReading

/-- Is the fan present and not failed? -/
def isHealthy (r : FanReading) : Bool :=
  r.status.has FanStatus.present && !r.status.has FanStatus.failed

/-- The direction of the air, if reported. -/
def dir? (r : FanReading) : Option FanDir :=
  if r.status.has FanStatus.f2b then some .f2b
  else if r.status.has FanStatus.b2f then some .b2f
  else none

/-- A label and a text, or nothing for an empty text. -/
def labelled (label value : String) : String :=
  if value = "" then "" else " " ++ label ++ " " ++ value

/-- The reading in one line. -/
def text (r : FanReading) : String :=
  r.header.text ++
    if r.status.has FanStatus.present then
      (if r.status.has FanStatus.failed then " FAILED" else "") ++
        " " ++ toString r.rpm.toInt ++ " rpm " ++ toString r.percentage.toNat ++ "% (" ++
        r.mode.name ++ ")" ++
        (match r.dir? with
          | some dir => " " ++ dir.name
          | none => "") ++
        labelled "model" r.model ++ labelled "serial" r.serial
    else " not present"

end FanReading

end SwitchPlatform
