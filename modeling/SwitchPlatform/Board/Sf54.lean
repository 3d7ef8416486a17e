import SwitchPlatform.Board.Device

/-!
# The board `x86-64-ref-sf54-r0`

48 SFP28 ports, 6 QSFP28 ports and room for a management controller. A controller that is fitted
owns the sensors of the board and the fan tray; without it they are reached through drivers of
their own. Presence, loss of signal and transmitter control of the SFP28 ports are GPIO lines,
sixteen per expander and counted downwards.
-/

namespace SwitchPlatform.Board.Sf54

/-- The directory of the management controller. -/
def bmcDir : String := "/sys/devices/platform/ipmi_bmc.0"

/-- A sensor that the management controller reports in whole degrees. -/
def boardSensor (description : String) (sensor : Nat) (name : String) : ThermalEntry :=
  { description := description, parent := .chassis
    input := .bmcOr sensor 1000 (temperatureOf (device name))
    caps := ThermalCaps.full, thresholds := ⟨65000, 75000, 85000⟩ }

/-- The thermal sensors. -/
def thermals : List ThermalEntry :=
  [processorSensor ⟨85000, 95000, 105000⟩,
    boardSensor "MAC Side" 0x11 "3-0048",
    boardSensor "Front Panel" 0x12 "3-0049",
    boardSensor "Fan Board" 0x13 "3-004a",
    psuSensor "PSU-1 Thermal Sensor 1" (numbered .psu 1) "31-0058",
    psuSensor "PSU-2 Thermal Sensor 1" (numbered .psu 2) "32-0059"]

/-- An attribute of the fan CPLD. -/
def fanFile (attr : String) : Locator :=
  deviceFile "0-0066" attr

/-- A fan of the tray; the management controller reports its presence and its speed. -/
def trayFan (number : Nat) : FanEntry :=
  let stem := "fan" ++ toString number
  { description := "Chassis Fan - " ++ toString number
    parent := .chassis
    caps := FanCaps.setPercentage ||| FanCaps.getRpm ||| FanCaps.getPercentage ||| FanCaps.f2b
    present := some ⟨.bmcOr (0x40 + number) 1 (fanFile (stem ++ "_present")), false⟩
    fault := some ⟨fanFile (stem ++ "_fault"), false⟩
    rpm := some (.bmcOr (0x50 + number) 1 (fanFile (stem ++ "_input")))
    percentage := some (fanFile "fan_duty_cycle_percentage")
    dir := .fixed .f2b }

/-- The fan of a power supply. -/
def psuFan (description : String) (psu : Oid) (name : String) : FanEntry :=
  { description := description, parent := psu
    caps := FanCaps.getRpm ||| FanCaps.getPercentage
    rpm := some (.hwmon (device name) "fan1_input")
    maxRpm := 25000, dir := .fixed .f2b }

/-- The fans. -/
def fans : List FanEntry :=
  [trayFan 1, trayFan 2, trayFan 3, trayFan 4,
    psuFan "PSU-1 Fan 1" (numbered .psu 1) "31-0058",
    psuFan "PSU-2 Fan 1" (numbered .psu 2) "32-0059"]

/-- A power supply with its PMBus device, its fan and its sensor. Its flags are attributes of the
CPLD at `0-0060`, where presence reads zero. -/
def powerSupply (number : Nat) (pmbus : String) (fan thermal : Oid) : PsuEntry :=
  let flag (what : String) : Locator :=
    deviceFile "0-0060" ("psu" ++ toString number ++ what)
  { description := "PSU-" ++ toString number, caps := PsuCaps.ac
    present := ⟨flag "_present", true⟩
    powerGood := some ⟨flag "_power_good", false⟩
    inputGood := some ⟨flag "_ac_ok", false⟩
    pmbus := some (device pmbus)
    model := some (deviceFile pmbus "psu_mfr_model")
    serial := some (deviceFile pmbus "psu_mfr_serial")
    fan := some fan, thermal := some thermal }

/-- The power supplies. -/
def psus : List PsuEntry :=
  [powerSupply 1 "31-0058" (numbered .fan 5) (numbered .thermal 5),
    powerSupply 2 "32-0059" (numbered .fan 6) (numbered .thermal 6)]

/-- The directory of the leds. -/
def ledDir : String := "/sys/devices/platform/sf54_led"

/-- The modes of an led that shows health. -/
def healthModes : List (Int32 × LedMode) :=
  [(0, .off), (1, .green), (2, .orange)]

/-- The leds. -/
def leds : List LedEntry :=
  [ledEntry ledDir "System LED" "led_sys"
      [(0, .off), (1, .green), (2, .greenBlinking), (3, .orange), (4, .orangeBlinking)],
    ledEntry ledDir "Locator LED" "led_loc" [(0, .off), (1, .blueBlinking)],
    ledEntry ledDir "Fan LED" "led_fan" healthModes,
    ledEntry ledDir "PSU-1 LED" "led_psu1" healthModes,
    ledEntry ledDir "PSU-2 LED" "led_psu2" healthModes]

/-- The lines of the SFP28 ports, sixteen per expander, from the line of port 0 down. -/
def cageLines (top : Nat) : RangeMap :=
  [.descending 0 15 top, .descending 16 31 (top - 16), .descending 32 47 (top - 32)]

/-- The QSFP28 ports with their numbers in attributes. -/
def qsfpNumbers : RangeMap := [⟨48, 53, 1, 1⟩]

/-- A flag of the QSFP28 ports. -/
def qsfpSignal (attr : String) (activeLow : Bool) : PortSignal :=
  .cpld qsfpNumbers [device "0-0062"] ⟨attr⟩ activeLow

/-- The ports. -/
def ports : PortLayout :=
  { count := 54
    qsfp := qsfpNumbers
    present := .gpio (cageLines 511 ++ [.descending 48 53 463]) true
    rxLos := some (.gpio (cageLines 399) false)
    txDisable := some (.gpio (cageLines 447) false)
    reset := some (qsfpSignal "module_reset_\x7b\x7d" true)
    lpMode := some (qsfpSignal "module_lp_mode_\x7b\x7d" false)
    eepromBus := [⟨0, 47, 20, 1⟩, ⟨48, 53, 70, 1⟩]
    eeprom := ⟨"/sys/bus/i2c/devices/\x7b\x7d-0050/eeprom"⟩
    diagnostics := some ⟨"/sys/bus/i2c/devices/\x7b\x7d-0051/eeprom"⟩ }

/-- The policy of the fans. -/
def fanPolicy : FanPolicy :=
  { steps := [⟨40000, 50⟩, ⟨50000, 70⟩, ⟨60000, 100⟩], hysteresis := 2000, failsafe := 100
    floor := 35 }

/-- The board. -/
def board : Board :=
  { name := "x86-64-ref-sf54-r0"
    onieEeprom := some (device "0-0056/eeprom")
    cplds := [("CPLD1", deviceFile "0-0060" "version"), ("CPLD2", deviceFile "0-0062" "version")]
    otherVersions := [("BMC", .file (bmcDir ++ "/firmware_revision"))]
    thermals := thermals, fans := fans, psus := psus, leds := leds, ports := ports
    bmc := some ⟨bmcDir, ⟨device "0-0060/bmc_present", 1⟩⟩
    fanPolicy := some fanPolicy
    ledRoles := some ⟨some (numbered .led 3),
      [(numbered .psu 1, numbered .led 4), (numbered .psu 2, numbered .led 5)]⟩ }

end SwitchPlatform.Board.Sf54
