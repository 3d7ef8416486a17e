import SwitchPlatform.Board.Table

/-!
# Devices of boards

The objects of a board by their numbers, paths of devices on its I2C buses and of their
attributes, and the sensors that every board has: that of the processor and those of the power
supplies.
-/

namespace SwitchPlatform.Board

/-- The object with a number in its table; numbers start at one. -/
def numbered (kind : Oid.Kind) (number : Nat) : Oid :=
  oid kind (number - 1)

/-- The directory of a device, named by its bus and its address. -/
def device (name : String) : String :=
  "/sys/bus/i2c/devices/" ++ name

/-- An attribute of a device. -/
def deviceFile (name attr : String) : Locator :=
  .file (device name ++ "/" ++ attr)

/-- The temperature of a device, given by its directory. -/
def temperatureOf (dir : String) : Locator :=
  .hwmon dir "temp1_input"

/-- The sensor of the processor. -/
def processorSensor (thresholds : Thresholds) : ThermalEntry :=
  { description := "CPU Core", parent := .chassis
    input := temperatureOf "/sys/devices/platform/coretemp.0"
    caps := ThermalCaps.full, thresholds := thresholds }

/-- The sensor of a power supply, which has no thresholds. -/
def psuSensor (description : String) (psu : Oid) (name : String) : ThermalEntry :=
  { description := description, parent := psu, input := temperatureOf (device name)
    caps := ThermalCaps.temperature, thresholds := ⟨0, 0, 0⟩ }

/-- An led with its modes, given by its directory and its attribute. -/
def ledEntry (dir description attr : String) (modes : List (Int32 × LedMode)) : LedEntry :=
  { description := description, locator := .file (dir ++ "/" ++ attr), modes := modes }

end SwitchPlatform.Board
