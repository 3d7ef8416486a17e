import SwitchPlatform.Flags
import SwitchPlatform.Oid

/-!
# Readings of leds

An led shows one of the modes that it supports; the capabilities have one bit per mode, at the
place of the mode.
-/

namespace SwitchPlatform

/-- What an led shows. -/
inductive LedMode
  | off
  | on
  | blinking
  | red
  | redBlinking
  | orange
  | orangeBlinking
  | yellow
  | yellowBlinking
  | green
  | greenBlinking
  | blue
  | blueBlinking
  | purple
  | purpleBlinking
  | auto
  | autoBlinking
  deriving DecidableEq, Repr

/-- The state of an led. -/
abbrev LedStatus := Flags .ledStatus

namespace LedStatus

def present : LedStatus := ⟨1⟩

def failed : LedStatus := ⟨2⟩

/-- The led shows something. -/
def on : LedStatus := ⟨4⟩

end LedStatus

/-- The modes that an led supports. -/
abbrev LedCaps := Flags .ledCaps

namespace LedMode

/-- Every mode, by ascending place. -/
def all : List LedMode :=
  [off, on, blinking, red, redBlinking, orange, orangeBlinking, yellow, yellowBlinking, green,
    greenBlinking, blue, blueBlinking, purple, purpleBlinking, auto, autoBlinking]

theorem mem_all (m : LedMode) : m ∈ all := by
  cases m <;> decide

/-- The name of a mode. -/
def name : LedMode → String
  | off => "off"
  | on => "on"
  | blinking => "blinking"
  | red => "red"
  | redBlinking => "red-blinking"
  | orange => "orange"
  | orangeBlinking => "orange-blinking"
  | yellow => "yellow"
  | yellowBlinking => "yellow-blinking"
  | green => "green"
  | greenBlinking => "green-blinking"
  | blue => "blue"
  | blueBlinking => "blue-blinking"
  | purple => "purple"
  | purpleBlinking => "purple-blinking"
  | auto => "auto"
  | autoBlinking => "auto-blinking"

/-- The mode with a given name. -/
def ofName? (s : String) : Option LedMode :=
  all.find? (·.name == s)

/-- The place of a mode. -/
def code (m : LedMode) : Nat := m.ctorIdx

/-- The mode at a place. -/
def ofCode? (c : Nat) : Option LedMode :=
  all.find? (·.code == c)

/-- The capability of a mode. -/
def cap (m : LedMode) : LedCaps :=
  ⟨(1 : UInt32) <<< UInt32.ofNat m.code⟩

theorem ofName?_name (m : LedMode) : ofName? m.name = some m := by
  cases m <;> decide

theorem ofCode?_code (m : LedMode) : ofCode? m.code = some m := by
  cases m <;> decide

end LedMode

namespace LedCaps

/-- The capabilities of an led that supports exactly the given modes. -/
def ofModes (modes : List LedMode) : LedCaps :=
  modes.foldl (fun caps mode => caps ||| mode.cap) .empty

/-- The supported modes, by ascending place. -/
def modes (caps : LedCaps) : List LedMode :=
  LedMode.all.filter fun mode => caps.has mode.cap

end LedCaps

/-- A reading of an led. -/
structure LedReading where
  header : Header
  status : LedStatus
  caps : LedCaps
  mode : LedMode
  deriving DecidableEq

/-- The reading in one line. -/
def LedReading.text (r : LedReading) : String :=
  r.header.text ++
    if r.status.has LedStatus.present then
      " " ++ r.mode.name ++ (if r.status.has LedStatus.failed then " FAILED" else "")
    else " not present"

end SwitchPlatform
