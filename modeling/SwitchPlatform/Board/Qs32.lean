import SwitchPlatform.Board.Device

/-!
# The board `x86-64-ref-qs32-r0`

32 QSFP28 ports and no management controller. Ports 0 to 15 hang off the CPLD at `11-0060` and
ports 16 to 31 off the CPLD at `12-0062`; the buses of the modules sit behind multiplexers and are
not in the order of the ports. The fans belong to the fan CPLD at `2-0066` and share one duty.
-/

namespace SwitchPlatform.Board.Qs32

/-- A sensor on the main board. -/
def boardSensor (description name : String) : ThermalEntry :=
  { description := description, parent := .chassis, input := temperatureOf (device name)
    caps := ThermalCaps.full, thresholds := ⟨60000, 70000, 80000⟩ }

/-- The thermal sensors. -/
def thermals : List ThermalEntry :=
  [processorSensor ⟨82000, 92000, 102000⟩,
    boardSensor "Main Board MAC (LM75 3-0048)" "3-0048",
    boardSensor "Main Board Front (LM75 3-0049)" "3-0049",
    boardSensor "Main Board Rear (LM75 3-004a)" "3-004a",
    psuSensor "PSU-1 Thermal Sensor 1" (numbered .psu 1) "10-0058",
    psuSensor "PSU-2 Thermal Sensor 1" (numbered .psu 2) "9-0059"]

/-- An attribute of the fan CPLD. -/
def fanFile (attr : String) : Locator :=
  deviceFile "2-0066" attr

/-- A fan of the chassis. -/
def chassisFan (number : Nat) : FanEntry :=
  let stem := "fan" ++ toString number
  { description := "Chassis Fan - " ++ toString number
    parent := .chassis
    caps := FanCaps.setPercentage ||| FanCaps.getRpm ||| FanCaps.getPercentage ||| FanCaps.f2b |||
      FanCaps.b2f
    present := some ⟨fanFile (stem ++ "_present"), false⟩
    fault := some ⟨fanFile (stem ++ "_fault"), false⟩
    rpm := some (fanFile (stem ++ "_front_speed_rpm"))
    percentage := some (fanFile "fan_duty_cycle_percentage")
    dir := .attribute (fanFile (stem ++ "_direction")) 1 }

/-- The fan of a power supply. -/
def psuFan (description : String) (psu : Oid) (name : String) : FanEntry :=
  { description := description, parent := psu
    caps := FanCaps.getRpm ||| FanCaps.getPercentage
    rpm := some (deviceFile name "psu_fan1_speed_rpm")
    maxRpm := 21000, dir := .fixed .f2b }

/-- The fans. -/
def fans : List FanEntry :=
  [chassisFan 1, chassisFan 2, chassisFan 3, chassisFan 4, chassisFan 5,
    psuFan "PSU-1 Fan 1" (numbered .psu 1) "10-0058",
    psuFan "PSU-2 Fan 1" (numbered .psu 2) "9-0059"]

/-- A power supply, with its EEPROM, its PMBus device, its fan and its sensor. -/
def powerSupply (description eeprom pmbus : String) (fan thermal : Oid) : PsuEntry :=
  { description := description, caps := PsuCaps.ac
    present := ⟨deviceFile eeprom "psu_present", false⟩
    powerGood := some ⟨deviceFile eeprom "psu_power_good", false⟩
    pmbus := some (device pmbus)
    model := some (deviceFile eeprom "psu_model_name")
    serial := some (deviceFile pmbus "psu_serial_number")
    fan := some fan, thermal := some thermal }

/-- The power supplies. -/
def psus : List PsuEntry :=
  [powerSupply "PSU-1" "10-0050" "10-0058" (numbered .fan 6) (numbered .thermal 5),
    powerSupply "PSU-2" "9-0050" "9-0059" (numbered .fan 7) (numbered .thermal 6)]

/-- The directory of the leds. -/
def ledDir : String := "/sys/devices/platform/qs32_led"

/-- The modes of an led that shows health. -/
def healthModes : List (Int32 × LedMode) :=
  [(0, .off), (1, .green), (2, .orange), (3, .auto)]

/-- The leds. -/
def leds : List LedEntry :=
  [ledEntry ledDir "Diag LED" "led_diag"
      [(0, .off), (1, .green), (2, .orange), (3, .greenBlinking)],
    ledEntry ledDir "Locator LED" "led_loc" [(0, .off), (1, .blue), (2, .blueBlinking)],
    ledEntry ledDir "Fan LED" "led_fan" healthModes,
    ledEntry ledDir "PSU-1 LED" "led_psu1" healthModes,
    ledEntry ledDir "PSU-2 LED" "led_psu2" healthModes]

/-- A flag of the port CPLDs: ports 0 to 15 have the numbers 1 to 16 of the first one, and ports
16 to 31 the numbers 17 to 32 of the second one. -/
def cpldSignal (attr : String) (activeLow : Bool) : PortSignal :=
  .cpld [⟨0, 15, 1, 1⟩, ⟨16, 31, 17, 1⟩] [device "11-0060", device "12-0062"] ⟨attr⟩ activeLow

/-- The ports. A module is held in reset while its reset attribute reads zero. -/
def ports : PortLayout :=
  { count := 32
    qsfp := [⟨0, 31, 0, 1⟩]
    present := cpldSignal "module_present_\x7b\x7d" false
    reset := some (cpldSignal "module_reset_\x7b\x7d" true)
    lpMode := some (cpldSignal "module_lp_mode_\x7b\x7d" false)
    eepromBus := [⟨0, 7, 26, 1⟩, ⟨8, 15, 18, 1⟩, ⟨16, 23, 42, 1⟩, ⟨24, 31, 34, 1⟩]
    eeprom := ⟨"/sys/bus/i2c/devices/\x7b\x7d-0050/eeprom"⟩ }

/-- The policy of the fans. -/
def fanPolicy : FanPolicy :=
  { steps := [⟨50000, 60⟩, ⟨60000, 80⟩, ⟨68000, 100⟩], hysteresis := 3000, failsafe := 100
    floor := 40 }

/-- The board. -/
def board : Board :=
  { name := "x86-64-ref-qs32-r0"
    onieEeprom := some (device "1-0057/eeprom")
    cplds := [("CPLD1", deviceFile "11-0060" "version"), ("CPLD2", deviceFile "12-0062" "version"),
      ("FAN-CPLD", deviceFile "2-0066" "version")]
    thermals := thermals, fans := fans, psus := psus, leds := leds, ports := ports
    fanPolicy := some fanPolicy
    ledRoles := some ⟨some (numbered .led 3),
      [(numbered .psu 1, numbered .led 4), (numbered .psu 2, numbered .led 5)]⟩ }

end SwitchPlatform.Board.Qs32
