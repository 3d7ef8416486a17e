import SwitchPlatform.Board.Readings
import SwitchPlatform.Proofs.Io.Quiet

/-!
# Quiet readings of objects

Reading a sensor, a fan or a power supply of a board is quiet, since it only reads the locators of
its entry: `ThermalEntry.quiet_read`, `FanEntry.quiet_read`, `PsuEntry.quiet_read`.
-/

namespace SwitchPlatform

variable {io : Io} {t : FileTree}

theorem quiet_asserted (s : Signal) :
    Quiet io.root t (s.locator.Spares io t Gpio.exportPath) (io.asserted s) := by
  rw [Io.asserted]
  exact (quiet_read? s.locator).bind fun raw => .pure _

theorem quiet_deasserted (s : Option Signal) :
    Quiet io.root t (∀ s' ∈ s, s'.locator.Spares io t Gpio.exportPath) (io.deasserted s) := by
  cases s with
  | none => exact .pure false
  | some s =>
    rw [Io.deasserted]
    have hraw : Quiet io.root t (∀ s' ∈ some s, s'.locator.Spares io t Gpio.exportPath)
        (io.read? s.locator) := (quiet_read? s.locator).mono fun hspared => hspared s rfl
    exact hraw.bind fun raw => .pure _

theorem quiet_label (l : Option Locator) :
    Quiet io.root t (∀ l' ∈ l, l'.Spares io t Gpio.exportPath) (io.label l) := by
  cases l with
  | none => exact .pure ""
  | some l =>
    rw [Io.label]
    have htext : Quiet io.root t (∀ l' ∈ some l, l'.Spares io t Gpio.exportPath) (io.readText l) :=
      (quiet_readText l).mono fun hspared => hspared l rfl
    refine htext.attempt.bind fun outcome => ?_
    split
    · exact .pure _
    · exact .pure _

/-- Reading a sensor is quiet. -/
theorem ThermalEntry.quiet_read (entry : ThermalEntry) (id : Oid) :
    Quiet io.root t (entry.input.Spares io t Gpio.exportPath) (entry.read io id) := by
  rw [ThermalEntry.read]
  exact (SwitchPlatform.quiet_read entry.input).attempt.bind fun outcome => .pure _

namespace FanEntry

/-- The locators of a source of the direction. -/
def dirLocators : FanDirSource → List Locator
  | .unknown => []
  | .fixed _ => []
  | .attribute l _ => [l]

/-- The locators of a fan. -/
def locators (entry : FanEntry) : List Locator :=
  entry.present.toList.map Signal.locator ++ dirLocators entry.dir ++
    entry.fault.toList.map Signal.locator ++ entry.rpm.toList ++ entry.percentage.toList ++
    entry.model.toList ++ entry.serial.toList

/-- No locator of a fan names the export attribute. -/
def Spared (io : Io) (t : FileTree) (entry : FanEntry) : Prop :=
  ∀ l ∈ entry.locators, l.Spares io t Gpio.exportPath

theorem quiet_dirStatus (dir : FanDirSource) :
    Quiet io.root t (∀ l ∈ dirLocators dir, l.Spares io t Gpio.exportPath) (dirStatus io dir) := by
  rcases dir with _ | dir | ⟨l, f2b⟩
  · exact .pure _
  · exact .pure _
  · rw [dirStatus]
    have hraw : Quiet io.root t (∀ l' ∈ [l], l'.Spares io t Gpio.exportPath) (io.read? l) :=
      (quiet_read? l).mono fun hspared => hspared l List.mem_cons_self
    refine hraw.bind fun raw => ?_
    split
    · exact .pure _
    · exact .pure _

theorem quiet_readOptional (l : Option Locator) :
    Quiet io.root t (∀ l' ∈ l, l'.Spares io t Gpio.exportPath) (readOptional io l) := by
  cases l with
  | none => exact .pure none
  | some l => exact (quiet_read? l).mono fun hspared => hspared l rfl

theorem quiet_hasFault (s : Option Signal) :
    Quiet io.root t (∀ s' ∈ s, s'.locator.Spares io t Gpio.exportPath) (hasFault io s) := by
  cases s with
  | none => exact .pure false
  | some s => exact (quiet_asserted s).mono fun hspared => hspared s rfl

theorem quiet_percentageOf (entry : FanEntry) (rpm : Int32) :
    Quiet io.root t (∀ l ∈ entry.percentage, l.Spares io t Gpio.exportPath)
      (entry.percentageOf io rpm) := by
  rw [percentageOf]
  cases hl : entry.percentage with
  | none => exact .pure _
  | some l =>
    have hraw : Quiet io.root t (∀ l' ∈ some l, l'.Spares io t Gpio.exportPath) (io.read? l) :=
      (quiet_read? l).mono fun hspared => hspared l rfl
    refine hraw.bind fun raw => ?_
    split
    · exact .pure _
    · exact .pure _

theorem quiet_isPresent (entry : FanEntry) :
    Quiet io.root t (∀ s ∈ entry.present, s.locator.Spares io t Gpio.exportPath)
      (entry.isPresent io) := by
  rw [isPresent]
  cases hs : entry.present with
  | none => exact .pure true
  | some s => exact (quiet_asserted s).mono fun hspared => hspared s rfl

namespace Spared

variable {entry : FanEntry}

theorem presence (spared : entry.Spared io t) :
    ∀ s ∈ entry.present, s.locator.Spares io t Gpio.exportPath := by
  intro s hs
  exact spared s.locator (by simp [locators, Option.mem_def.1 hs])

theorem dir (spared : entry.Spared io t) :
    ∀ l ∈ dirLocators entry.dir, l.Spares io t Gpio.exportPath := by
  intro l hl
  exact spared l (by simp [locators, hl])

theorem fault (spared : entry.Spared io t) :
    ∀ s ∈ entry.fault, s.locator.Spares io t Gpio.exportPath := by
  intro s hs
  exact spared s.locator (by simp [locators, Option.mem_def.1 hs])

theorem rpm (spared : entry.Spared io t) : ∀ l ∈ entry.rpm, l.Spares io t Gpio.exportPath := by
  intro l hl
  exact spared l (by simp [locators, Option.mem_def.1 hl])

theorem duty (spared : entry.Spared io t) :
    ∀ l ∈ entry.percentage, l.Spares io t Gpio.exportPath := by
  intro l hl
  exact spared l (by simp [locators, Option.mem_def.1 hl])

theorem model (spared : entry.Spared io t) : ∀ l ∈ entry.model, l.Spares io t Gpio.exportPath := by
  intro l hl
  exact spared l (by simp [locators, Option.mem_def.1 hl])

theorem serial (spared : entry.Spared io t) :
    ∀ l ∈ entry.serial, l.Spares io t Gpio.exportPath := by
  intro l hl
  exact spared l (by simp [locators, Option.mem_def.1 hl])

end Spared

theorem quiet_readPresent (entry : FanEntry) (id : Oid) :
    Quiet io.root t (entry.Spared io t) (entry.readPresent io id) := by
  rw [readPresent]
  refine ((quiet_dirStatus entry.dir).mono Spared.dir).bind fun dir => ?_
  refine ((quiet_hasFault entry.fault).mono Spared.fault).bind fun fault => ?_
  refine ((quiet_readOptional entry.rpm).mono Spared.rpm).bind fun rpm => ?_
  refine ((entry.quiet_percentageOf _).mono Spared.duty).bind fun percentage => ?_
  refine ((quiet_label entry.model).mono Spared.model).bind fun model => ?_
  refine ((quiet_label entry.serial).mono Spared.serial).bind fun serial => ?_
  exact .pure _

/-- Reading a fan is quiet. -/
theorem quiet_read (entry : FanEntry) (id : Oid) :
    Quiet io.root t (entry.Spared io t) (entry.read io id) := by
  rw [read]
  refine (entry.quiet_isPresent.mono Spared.presence).bind fun present => ?_
  cases present with
  | true => exact entry.quiet_readPresent id
  | false => exact .pure _

end FanEntry

namespace PsuEntry

/-- One of the electrical values of a power supply. -/
structure Electrical where
  /-- The attribute in the sensor directory. -/
  attr : String
  cap : PsuCaps
  /-- How many units of the attribute make up one of the reading. -/
  divisor : Int
  value : PsuReading → Int32

/-- The electrical values; powers are counted in millionths, and reported in thousandths. -/
def electricals : List Electrical :=
  [⟨"in1_input", PsuCaps.vin, 1, PsuReading.mvin⟩, ⟨"in2_input", PsuCaps.vout, 1, PsuReading.mvout⟩,
    ⟨"curr1_input", PsuCaps.iin, 1, PsuReading.miin⟩,
    ⟨"curr2_input", PsuCaps.iout, 1, PsuReading.miout⟩,
    ⟨"power1_input", PsuCaps.pin, 1000, PsuReading.mpin⟩,
    ⟨"power2_input", PsuCaps.pout, 1000, PsuReading.mpout⟩]

/-- The locators of the electrical values of a device. -/
def electricalLocators (device : String) : List Locator :=
  electricals.map fun q => .hwmon device q.attr

/-- The locators of a power supply. -/
def locators (entry : PsuEntry) : List Locator :=
  entry.present.locator :: (entry.inputGood.toList ++ entry.powerGood.toList).map Signal.locator ++
    entry.model.toList ++ entry.serial.toList ++ entry.pmbus.toList.flatMap electricalLocators

/-- No locator of a power supply names the export attribute. -/
def Spared (io : Io) (t : FileTree) (entry : PsuEntry) : Prop :=
  ∀ l ∈ entry.locators, l.Spares io t Gpio.exportPath

namespace Spared

variable {entry : PsuEntry}

theorem presence (spared : entry.Spared io t) :
    entry.present.locator.Spares io t Gpio.exportPath :=
  spared _ List.mem_cons_self

theorem inputGood (spared : entry.Spared io t) :
    ∀ s ∈ entry.inputGood, s.locator.Spares io t Gpio.exportPath := by
  intro s hs
  exact spared s.locator (by simp [locators, Option.mem_def.1 hs])

theorem powerGood (spared : entry.Spared io t) :
    ∀ s ∈ entry.powerGood, s.locator.Spares io t Gpio.exportPath := by
  intro s hs
  exact spared s.locator (by simp [locators, Option.mem_def.1 hs])

theorem model (spared : entry.Spared io t) : ∀ l ∈ entry.model, l.Spares io t Gpio.exportPath := by
  intro l hl
  exact spared l (by simp [locators, Option.mem_def.1 hl])

theorem serial (spared : entry.Spared io t) :
    ∀ l ∈ entry.serial, l.Spares io t Gpio.exportPath := by
  intro l hl
  exact spared l (by simp [locators, Option.mem_def.1 hl])

theorem electrical (spared : entry.Spared io t) {device : String} (hdevice : device ∈ entry.pmbus) :
    ∀ l ∈ electricalLocators device, l.Spares io t Gpio.exportPath := by
  intro l hl
  exact spared l (by simp [locators, Option.mem_def.1 hdevice, hl])

end Spared

theorem quiet_readValue {device attr : String} (cap : PsuCaps) (divisor : Int)
    (h : .hwmon device attr ∈ electricalLocators device) :
    Quiet io.root t (∀ l ∈ electricalLocators device, l.Spares io t Gpio.exportPath)
      (readValue io device attr cap divisor) := by
  rw [readValue]
  have hraw : Quiet io.root t (∀ l ∈ electricalLocators device, l.Spares io t Gpio.exportPath)
      (io.readHwmon device attr) := (quiet_readHwmon device attr).mono fun hspared => hspared _ h
  refine hraw.attempt.bind fun outcome => ?_
  split
  · exact .pure _
  · exact .pure _

theorem quiet_readValues (device : String) (r : PsuReading) :
    Quiet io.root t (∀ l ∈ electricalLocators device, l.Spares io t Gpio.exportPath)
      (readValues io device r) := by
  rw [readValues]
  iterate 6
    refine (quiet_readValue _ _ (by simp [electricalLocators, electricals])).bind fun value => ?_
  exact .pure _

theorem quiet_readPresent (entry : PsuEntry) (id : Oid) :
    Quiet io.root t (entry.Spared io t) (entry.readPresent io id) := by
  rw [readPresent]
  refine ((quiet_deasserted entry.inputGood).mono Spared.inputGood).bind fun unplugged => ?_
  refine ((quiet_deasserted entry.powerGood).mono Spared.powerGood).bind fun failed => ?_
  refine ((quiet_label entry.model).mono Spared.model).bind fun model => ?_
  refine ((quiet_label entry.serial).mono Spared.serial).bind fun serial => ?_
  split
  · exact .pure _
  · rename_i device hdevice
    dsimp only
    split
    · exact (quiet_readValues device _).mono fun spared => spared.electrical hdevice
    · exact .pure _

/-- Reading a power supply is quiet. -/
theorem quiet_read (entry : PsuEntry) (id : Oid) :
    Quiet io.root t (entry.Spared io t) (entry.read io id) := by
  rw [read]
  refine ((quiet_asserted entry.present).mono Spared.presence).bind fun present => ?_
  cases present with
  | true => exact entry.quiet_readPresent id
  | false => exact .pure _

end PsuEntry

end SwitchPlatform
