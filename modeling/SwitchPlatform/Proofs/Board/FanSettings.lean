import SwitchPlatform.Proofs.Board.FanReadings
import SwitchPlatform.Proofs.Board.Frame

/-!
# Setting the duty of a fan

The duty of a fan may be an attribute: the fan is set by writing a percentage there, and its reading
takes the percentage from there. `Board.dutyAgrees` says that the two agree for every fan with such
a duty, on every machine: what is no percentage is refused, and the readings that follow report the
percentage or the band that was set, those of the fan itself and those of every other one with the
same file for its duty.

Nothing but readings may come in between. They change the export attribute at most
(`FanEntry.exportOnly_course`), so the duty may not be that one: a fan whose fault flag is a GPIO
line that is not exported yet would read the number of the line as its duty
(`exportBoard_reads_line`).
-/

namespace SwitchPlatform.Board

open FileTree (Location)

variable {b : Board} {io : Io} {id : Oid} {m : Machine} {l : Locator} {loc : Location}

/-- A file is the duty attribute of a fan. -/
def IsDutyFile (b : Board) (io : Io) (t : FileTree) (loc : Location) (id : Oid) : Prop :=
  ∃ e l, lookup? .fan b.fans id = some e ∧ e.percentage = some l ∧ l.IsAttribute ∧
    l.Targets io t loc

/-- A fan that is there is read at a duty, with nothing but readings since a machine. -/
def Reports (b : Board) (io : Io) (m : Machine) (duty : UInt8) (id : Oid) : Prop :=
  ∀ m' r, m.ExportOnly io.root m' → ((b.platform io).fan.read id m').1 = .ok r →
    r.status.has FanStatus.present = true → r.percentage = duty ∧ r.mode = .ofPercentage duty

/-- Setting the duty of a fan on a machine agrees with the readings that follow. -/
structure DutyAgrees (b : Board) (io : Io) (id : Oid) (l : Locator) (m : Machine) : Prop where
  refused : ∀ p : Int32, ¬(0 ≤ p ∧ p ≤ 100) →
    (b.platform io).fan.setPercentage id p m = (.error (.status .param), m)
  reported : ∀ p : Int32, ((b.platform io).fan.setPercentage id p m).1 = .ok () →
    ∃ duty : UInt8, (duty.toNat : Int) = p.toInt ∧
      b.Reports io ((b.platform io).fan.setPercentage id p m).2 duty id ∧
      ∀ loc, l.Targets io m.tree loc → ∀ id', b.IsDutyFile io m.tree loc id' →
        b.Reports io ((b.platform io).fan.setPercentage id p m).2 duty id'
  band : ∀ mode, ((b.platform io).fan.setMode id mode m).1 = .ok () →
    ∀ m' r, ((b.platform io).fan.setMode id mode m).2.ExportOnly io.root m' →
      ((b.platform io).fan.read id m').1 = .ok r → r.status.has FanStatus.present = true →
      r.mode = mode

/-- A duty that its file holds is reported, as long as the file is not the export attribute. -/
theorem reports_of_fileAt? {duty : UInt8} (hle : duty.toNat ≤ 100)
    (hfile : m.tree.fileAt? loc =
      some (Text.Utf8.encode (toString (Int32.ofNat duty.toNat).toInt)))
    (hexport : ¬io.root.Opens m.tree Gpio.exportPath loc) (hduty : b.IsDutyFile io m.tree loc id) :
    b.Reports io m duty id := by
  intro m' r after hread present
  obtain ⟨e, l, he, hl, hattr, targets⟩ := hduty
  have tells := (FanEntry.seen_of_read (read_of_fan_read he hread)).tells
  have same : io.root.ExportOnly m.tree (e.course io m').duty.tree :=
    after.trans (e.exportOnly_course io m').duty
  have hraw : (io.read l (e.course io m').duty).1 = .ok (Int32.ofNat duty.toNat) :=
    hattr.read_of_fileAt? ((Locator.targets_iff same).2 targets)
      ((same.fileAt? hexport).trans hfile)
  obtain ⟨raw, hraw', hpercentage⟩ := tells.duty present l hl
  cases (read?_eq_some_iff.2 hraw).symm.trans hraw'
  rw [Option.elim_some, toInt_ofNat_toNat] at hpercentage
  have hshown : r.percentage = duty := UInt8.toNat_inj.1 (by omega)
  exact ⟨hshown, hshown ▸ tells.mode⟩

/-- **A percentage that was set is reported.** -/
theorem reports_setPercentage {e : FanEntry} (he : lookup? .fan b.fans id = some e)
    (hl : e.percentage = some l) (hattr : l.IsAttribute)
    (spares : l.Spares io m.tree Gpio.exportPath) {p : Int32}
    (ok : ((b.operations io).fan.setPercentage id p m).1 = .ok ()) :
    ∃ duty : UInt8, (duty.toNat : Int) = p.toInt ∧
      ∃ loc, l.Targets io m.tree loc ∧ ∀ id', b.IsDutyFile io m.tree loc id' →
        b.Reports io ((b.operations io).fan.setPercentage id p m).2 duty id' := by
  obtain ⟨⟨hlow, hhigh⟩, l', hl', hrun⟩ := setPercentage_ok he ok
  cases hl.symm.trans hl'
  rw [hrun] at ok ⊢
  have hround := ofNat_toNat_of_percentage hlow hhigh
  have hduty : ((UInt8.ofNat p.toInt.toNat).toNat : Int) = p.toInt := by
    rw [← toInt_ofNat_toNat, hround]
  have hle : p.toInt ≤ 100 := Int32.le_iff_toInt_le.1 hhigh
  obtain ⟨loc, targets, hfile⟩ := fileAt?_write hattr ok
  have same := (driven_write io l p m).sameEntries
  refine ⟨UInt8.ofNat p.toInt.toNat, hduty, loc, targets, ?_⟩
  rintro id' ⟨e', l', he', hl', hattr', targets'⟩
  refine reports_of_fileAt? (by omega) ?_ ?_
    ⟨e', l', he', hl', hattr', (Locator.targets_iff same).2 targets'⟩
  · rw [hround]
    exact hfile
  · rw [Root.opens_iff same]
    exact spares.not_opens targets

/-- **Setting the duty of a fan agrees with reading it.** -/
theorem dutyAgrees {e : FanEntry} (he : lookup? .fan b.fans id = some e)
    (hl : e.percentage = some l) (hattr : l.IsAttribute)
    (spares : l.Spares io m.tree Gpio.exportPath) : b.DutyAgrees io id l m := by
  have hself : ∀ loc, l.Targets io m.tree loc → b.IsDutyFile io m.tree loc id :=
    fun loc targets => ⟨e, l, he, hl, hattr, targets⟩
  refine ⟨fun p hp => ?_, fun p ok => ?_, fun mode ok m' r after hread present => ?_⟩
  · rw [FanOps.setPercentage, if_neg hp]
    rfl
  · obtain ⟨duty, hduty, loc, targets, hreports⟩ := reports_setPercentage he hl hattr spares ok
    refine ⟨duty, hduty, hreports id (hself loc targets), fun loc' targets' id' hid' => ?_⟩
    cases hattr.targets_unique targets targets'
    exact hreports id' hid'
  · obtain ⟨duty, hduty, loc, targets, hreports⟩ := reports_setPercentage he hl hattr spares ok
    rw [toInt_ofNat_toNat] at hduty
    obtain rfl : duty = mode.percentage := UInt8.toNat_inj.1 (by omega)
    obtain ⟨-, hmode⟩ := hreports id (hself loc targets) m' r after hread present
    rw [hmode, FanMode.ofPercentage_percentage]

/-- Two fans with one duty attribute, which the first one finds through its sensor directory. -/
def sharedBoard : Board :=
  { name := "shared"
    fans :=
      [{ description := "Fan 1", parent := .chassis, caps := FanCaps.setPercentage
         percentage := some (.hwmon "/fans" "pwm1") },
       { description := "Fan 2", parent := .chassis, caps := FanCaps.getPercentage
         percentage := some (.file "/fans/hwmon/hwmon3/pwm1") }]
    ports := { count := 0, present := .gpio [] false, eepromBus := [], eeprom := ⟨""⟩ } }

/-- Both fans at 40 percent. -/
def sharedMachine : Machine :=
  { tree := .dir [("fans", .dir [("hwmon", .dir [("hwmon3", .dir
      [("pwm1", .file (Text.Utf8.encode "40"))])])])] }

/-- Set to 50 percent, the first fan puts the second one into the band of it. -/
theorem sharedBoard_dutyAgrees :
    let io := sharedBoard.io ⟨"/"⟩ .auto
    let p := sharedBoard.platform io
    let after := (p.fan.setPercentage (.fan 1) 50 sharedMachine).2
    sharedBoard.DutyAgrees io (.fan 1) (.hwmon "/fans" "pwm1") sharedMachine ∧
      (p.fan.setPercentage (.fan 1) 50 sharedMachine).1 = .ok () ∧
      sharedBoard.Reports io after 50 (.fan 1) ∧ sharedBoard.Reports io after 50 (.fan 2) ∧
      ∃ r, (p.fan.read (.fan 2) after).1 = .ok r ∧ r.status.has FanStatus.present = true ∧
        r.mode = .normal := by
  intro io p after
  have hfound : Hwmon.attributePath ⟨"/"⟩ "/fans" "pwm1" sharedMachine.tree =
      .ok "/fans/hwmon/hwmon3/pwm1" := by decide +kernel
  have hopen : (⟨"/"⟩ : Root).Opens sharedMachine.tree "/fans/hwmon/hwmon3/pwm1"
      ["fans", "hwmon", "hwmon3", "pwm1"] := ⟨Text.Utf8.encode "40", by decide +kernel⟩
  have spares : (Locator.hwmon "/fans" "pwm1").Spares io sharedMachine.tree Gpio.exportPath := by
    intro path names
    cases names with
    | hwmon found =>
      cases hfound.symm.trans found
      decide +kernel
  have agrees : sharedBoard.DutyAgrees io (.fan 1) (.hwmon "/fans" "pwm1") sharedMachine :=
    dutyAgrees rfl rfl (.hwmon _ _) spares
  have ok : (p.fan.setPercentage (.fan 1) 50 sharedMachine).1 = .ok () := by decide +kernel
  obtain ⟨duty, hduty, hself, hshared⟩ := agrees.reported 50 ok
  obtain rfl : duty = 50 := UInt8.toNat_inj.1 (Int.ofNat.inj hduty)
  have hsecond := hshared _ ⟨_, .hwmon hfound, hopen⟩ (.fan 2)
    ⟨_, _, rfl, rfl, .file _, _, .file _, hopen⟩
  refine ⟨agrees, ok, hself, hsecond, ?_⟩
  let r : FanReading :=
    { header := { id := .fan 2, description := "Fan 2", parent := .chassis }
      status := FanStatus.present, caps := FanCaps.getPercentage, rpm := 0, percentage := 50
      mode := .normal, model := "", serial := "" }
  exact ⟨r, by decide +kernel, by decide, rfl⟩

/-- A fan whose duty is the export attribute, and whose fault flag is a GPIO line. -/
def exportFan : FanEntry :=
  { description := "Fan 1", parent := .chassis, caps := FanCaps.setPercentage
    fault := some ⟨.gpio ⟨7, false⟩, false⟩, percentage := some (.file Gpio.exportPath) }

/-- A board with that fan. -/
def exportBoard : Board :=
  { name := "export-duty"
    fans := [exportFan]
    ports := { count := 0, present := .gpio [] false, eepromBus := [], eeprom := ⟨""⟩ } }

/-- **A duty that is the export attribute is lost** to the line that the next reading exports. -/
theorem exportBoard_reads_line :
    let io := exportBoard.io ⟨"/"⟩ .auto
    let p := exportBoard.platform io
    let m : Machine := { tree := .dir [("sys", .dir [("class", .dir [("gpio", .dir
      [("export", .file (Text.Utf8.encode "40"))])])])] }
    exportBoard.validate = .ok () ∧ lookup? .fan exportBoard.fans (.fan 1) = some exportFan ∧
      exportFan.percentage = some (.file Gpio.exportPath) ∧
      (p.fan.setPercentage (.fan 1) 50 m).1 = .ok () ∧
      ∃ r, (p.fan.read (.fan 1) (p.fan.setPercentage (.fan 1) 50 m).2).1 = .ok r ∧
        r.status.has FanStatus.present = true ∧ r.percentage = 7 ∧ r.mode = .slow := by
  intro io p m
  let r : FanReading :=
    { header := { id := .fan 1, description := "Fan 1", parent := .chassis }
      status := FanStatus.present, caps := FanCaps.setPercentage, rpm := 0, percentage := 7
      mode := .slow, model := "", serial := "" }
  exact ⟨by decide, rfl, rfl, by decide +kernel, r, by decide +kernel, by decide, rfl, rfl⟩

end SwitchPlatform.Board
