import SwitchPlatform.Proofs.Board.FanPass
import SwitchPlatform.Proofs.Io.Driving
import SwitchPlatform.Proofs.Platform.Operations

/-!
# What the operations of a board change

`operations_frame`: no operation of a board creates or removes a file or a directory. A look
changes at most the attribute that exports GPIO lines, and so does a setting that fails; a setting
that ends well has written its target, one file, and has changed no other file besides. The target
(`Board.target?`) is the attribute that the locator of the fan or the led resolves to, that of the
line of the port, or the page, with what is to be written there.

For the looks it is enough that every reading of a board leaves all files but the export attribute
alone (`reads_keep`), and for the settings that each of them drives its target (`driven_setting`).
-/

namespace SwitchPlatform

open FileTree (Location SameBut)

/-! ## Files and entries -/

/-- At most the content of the export attribute has changed. -/
def Machine.ExportOnly (root : Root) (m m' : Machine) : Prop :=
  root.ExportOnly m.tree m'.tree

instance (root : Root) : IsPreorder Machine (Machine.ExportOnly root) where
  refl m := .refl root m.tree
  trans _ _ _ h h' := h.trans h'

/-- No file or directory was created or removed. -/
def Machine.SameEntries (m m' : Machine) : Prop :=
  m.tree.SameEntries m'.tree

instance : IsPreorder Machine Machine.SameEntries where
  refl m := .refl _ m.tree
  trans _ _ _ h h' := FileTree.SameBut.trans h h'

theorem Machine.ExportOnly.sameEntries {root : Root} {m m' : Machine} (h : m.ExportOnly root m') :
    m.SameEntries m' :=
  Root.ExportOnly.sameEntries h

/-! ## Readings -/

section Readings

variable {ε α : Type} {io : Io} {root : Root}

/-- What is quiet changes the export attribute at most. -/
theorem Quiet.keeps {x : Action ε Machine α} {spared : FileTree → Prop}
    (h : ∀ t, Quiet root t (spared t) x) : x.Keeps (Machine.ExportOnly root) :=
  fun m => ((h m.tree).within m (.refl _ m.tree)).tree

theorem keeps_onTree {x : Action AttributeError FileTree α}
    (h : ∀ t, root.ExportOnly t (x t).2) : (onTree x).Keeps (Machine.ExportOnly root) := by
  intro m
  rw [onTree_apply]
  exact h m.tree

theorem keeps_optional {x : Access α} (hx : x.Keeps (Machine.ExportOnly root)) :
    (Io.optional x).Keeps (Machine.ExportOnly root) := by
  refine hx.attempt.bind fun outcome => ?_
  split
  · exact .pure _
  · exact .pure _
  · exact .fail _

namespace Io

theorem keeps_read? (l : Locator) : (io.read? l).Keeps (Machine.ExportOnly io.root) :=
  Quiet.keeps fun _ => quiet_read? l

theorem keeps_readLine (line : PortLine) :
    (io.readLine line).Keeps (Machine.ExportOnly io.root) := by
  rcases line with ⟨path, activeLow⟩ | line
  · exact keeps_optional ((Action.Keeps.inspect _).bind fun raw => .pure _)
  · exact keeps_optional (keeps_onTree (line.exportOnly_isAsserted io.root))

theorem keeps_versions (table : List (String × Locator)) :
    (io.versions table).Keeps (Machine.ExportOnly io.root) := by
  induction table with
  | nil => exact .pure []
  | cons entry table ih =>
    obtain ⟨name, l⟩ := entry
    have htext : (io.readText l).Keeps (Machine.ExportOnly io.root) :=
      Quiet.keeps fun _ => quiet_readText l
    rw [versions]
    refine (keeps_optional htext).bind fun text => ?_
    split
    · exact ih.bind fun rest => .pure _
    · exact ih

end Io

end Readings

/-! ## Lines of ports -/

/-- The attribute of a line. -/
def PortLine.attributePath : PortLine → String
  | .attribute path _ => path
  | .gpio line => line.valuePath

/-- The level that asserts a line or not. -/
def PortLine.levelFor (asserted : Bool) : PortLine → Int32
  | .attribute _ activeLow => if asserted != activeLow then 1 else 0
  | .gpio line => line.levelFor asserted

/-- What is written to assert a line or not. -/
def PortLine.write (line : PortLine) (asserted : Bool) : AttributeWrite :=
  .int line.attributePath (line.levelFor asserted)

/-- Driving a line. -/
theorem driven_writeLine (io : Io) (line : PortLine) (asserted : Bool) (m : Machine) :
    Driven io.root (some (line.write asserted)) m.tree (io.writeLine line asserted m).1
      (io.writeLine line asserted m).2.tree := by
  rcases line with ⟨path, activeLow⟩ | line
  · rw [Io.writeLine]
    exact driven_onTree (driven_writeInt io.root path _ m.tree)
  · rw [Io.writeLine]
    exact driven_onTree (line.driven_setAsserted io.root asserted m.tree)

/-- Whether a line can be driven depends neither on contents nor on the level. -/
theorem writeLine_outcome {io : Io} {free : Location → Prop} {m m' : Machine} (line : PortLine)
    (same : SameBut free m.tree m'.tree) (asserted asserted' : Bool) :
    (io.writeLine line asserted' m').1 = (io.writeLine line asserted m).1 := by
  rcases line with ⟨path, activeLow⟩ | line
  · rw [Io.writeLine, Io.writeLine, onTree_apply, onTree_apply, writeInt_outcome same path]
  · rw [Io.writeLine, Io.writeLine, onTree_apply, onTree_apply]
    dsimp only
    rw [line.setAsserted_outcome same asserted asserted']

/-- **A pulse leaves a line as its second write does**, which does not fail after the first one. -/
theorem driven_pulse (io : Io) (line : PortLine) (m : Machine) :
    Driven io.root (some (line.write false)) m.tree
      ((io.writeLine line true >>= fun _ => io.writeLine line false) m).1
      ((io.writeLine line true >>= fun _ => io.writeLine line false) m).2.tree := by
  have hfirst := driven_writeLine io line true m
  rw [Action.bind_eq]
  cases hr : (io.writeLine line true m).1 with
  | error e =>
    rw [hr] at hfirst
    exact .of_error e (hfirst.failed e rfl)
  | ok _ =>
    have hsecond : (io.writeLine line false (io.writeLine line true m).2).1 = _ :=
      writeLine_outcome line hfirst.sameEntries true false
    have hwrite := driven_writeLine io line false (io.writeLine line true m).2
    dsimp only
    rw [hsecond, hr] at hwrite ⊢
    rw [hr] at hfirst
    exact .of_ok () (hwrite.wrote.again hfirst.wrote)

/-! ## Readings of a board -/

namespace Board

variable (b : Board) (io : Io)

theorem keeps_readOnie : (b.readOnie io).Keeps (Machine.ExportOnly io.root) := by
  rw [readOnie]
  split
  · exact .fail _
  · exact (Action.Keeps.inspect _).bind fun header => (Action.Keeps.ofExcept _).bind fun size =>
      (Action.Keeps.inspect _).bind fun image => .ofExcept _

theorem keeps_initSystem : (b.initSystem io).Keeps (Machine.ExportOnly io.root) := by
  have hasks : (io.hasBmc : Access Bool).Keeps (Machine.ExportOnly io.root) :=
    Quiet.keeps fun t => (quiet_hasBmc : Quiet io.root t True io.hasBmc)
  rw [initSystem]
  split
  · exact .fail _
  · split
    · exact hasks.bind fun _ => .pure _
    · exact .pure _

theorem keeps_exportLines (lines : List Gpio) :
    (exportLines io lines).Keeps (Machine.ExportOnly io.root) := by
  induction lines with
  | nil => exact .pure ()
  | cons line lines ih =>
    have hline := keeps_onTree (line.exportOnly_ensureExported io.root)
    exact hline.attempt.bind fun _ => ih

theorem keeps_isPortPresent (port : Nat) :
    (b.isPortPresent io port).Keeps (Machine.ExportOnly io.root) :=
  (Action.Keeps.ofExcept _).bind fun line => (Io.keeps_readLine line).bind fun _ => .pure _

theorem keeps_readPage (port address : Nat) :
    (b.readPage io port address).Keeps (Machine.ExportOnly io.root) := by
  refine (Action.Keeps.ofExcept _).bind fun path => (b.keeps_isPortPresent io port).bind fun _ => ?_
  split
  · exact .inspect _
  · exact .fail _

theorem keeps_readByte (port address offset : Nat) :
    (b.readByte io port address offset).Keeps (Machine.ExportOnly io.root) := by
  refine (Action.Keeps.ofExcept _).bind fun path => (Action.Keeps.inspect _).bind fun bytes => ?_
  split
  · exact .pure _
  · exact .fail _

theorem keeps_getControl (port : Nat) (control : PortControl) :
    (b.getControl io port control).Keeps (Machine.ExportOnly io.root) := by
  refine (Action.Keeps.ofExcept _).bind fun line => (Io.keeps_readLine line).bind fun level => ?_
  split
  · exact .pure _
  · exact .fail _

/-- **The readings of a board change the export attribute at most.** -/
theorem reads_keep : (b.operations io).ReadsKeep (Machine.ExportOnly io.root) where
  init part := by
    cases part with
    | system => exact b.keeps_initSystem io
    | ports => exact keeps_exportLines io _
    | _ => exact .pure ()
  thermal id := (Action.Keeps.ofExcept _).bind fun entry => Quiet.keeps fun _ => entry.quiet_read id
  fan id := (Action.Keeps.ofExcept _).bind fun entry => Quiet.keeps fun _ => entry.quiet_read id
  psu id := (Action.Keeps.ofExcept _).bind fun entry => Quiet.keeps fun _ => entry.quiet_read id
  led id := (Action.Keeps.ofExcept _).bind fun entry => (Io.keeps_read? _).bind fun raw => .pure _
  oids := .inspect _
  onie := b.keeps_readOnie io
  versions := (Io.keeps_versions _).bind fun _ => (Io.keeps_versions _).bind fun _ => .pure _
  isPresent := b.keeps_isPortPresent io
  readPage port := b.keeps_readPage io port _
  readDiagnostics port := b.keeps_readPage io port _
  readByte := b.keeps_readByte io
  getControl := b.keeps_getControl io
  afterInsert port := (b.keeps_readPage io port _).bind fun _ => .pure _
  release := .pure ()

/-! ## Settings -/

/-- What is written to set the duty of a fan. -/
def dutyWrite? (m : Machine) (id : Oid) (percentage : UInt8) : Option AttributeWrite :=
  (lookup? .fan b.fans id).bind fun e => e.percentage.bind fun l =>
    l.write? io m (Int32.ofNat percentage.toNat)

/-- What is written to show a mode on an led. -/
def ledWrite? (m : Machine) (id : Oid) (mode : LedMode) : Option AttributeWrite :=
  (lookup? .led b.leds id).bind fun e => (e.rawOf? mode).bind fun raw =>
    e.locator.write? io m raw

/-- What is written to drive a control of a port; a reset ends with the line not asserted. -/
def controlWrite? (port : Nat) (control : PortControl) (value : Int32) : Option AttributeWrite :=
  (b.portLine port (b.driven control)).toOption.map fun line =>
    line.write (control != .reset && value != 0)

/-- What a setting writes on a machine: into the attribute that the locator of the fan or the led
resolves to, into that of the line of the port, or into the page. -/
def target? (m : Machine) : Platform.Setting → Option AttributeWrite
  | .fanDuty id percentage => b.dutyWrite? io m id percentage
  | .fanPercentage id percentage => b.dutyWrite? io m id (UInt8.ofNat percentage.toInt.toNat)
  | .fanMode id mode => b.dutyWrite? io m id mode.percentage
  | .fanRpm _ _ => none
  | .fanDir _ _ => none
  | .ledMode id mode => b.ledWrite? io m id mode
  | .ledSwitch id on => b.ledWrite? io m id (if on then .on else .off)
  | .setControl port control value => b.controlWrite? port control value
  | .writeByte port address offset value =>
    (b.pagePath port address).toOption.map fun path => .window path offset [value]

theorem driven_setDuty (id : Oid) (percentage : UInt8) (m : Machine) :
    Driven io.root (b.dutyWrite? io m id percentage) m.tree (b.setDuty io id percentage m).1
      (b.setDuty io id percentage m).2.tree := by
  rw [dutyWrite?]
  cases hentry : lookup? .fan b.fans id with
  | none =>
    rw [setDuty, find, hentry]
    exact .refused _
  | some e =>
    have hrun : b.setDuty io id percentage = _ := setDuty_eq hentry percentage
    rw [hrun, Option.bind_some]
    split
    · cases hl : e.percentage with
      | some l => exact driven_write io l _ m
      | none => exact .refused _
    · exact .refused _

/-- Setting a percentage, which is refused if it is none. -/
theorem driven_setPercentage (id : Oid) (percentage : Int32) (m : Machine) :
    Driven io.root (b.dutyWrite? io m id (UInt8.ofNat percentage.toInt.toNat)) m.tree
      ((b.operations io).fan.setPercentage id percentage m).1
      ((b.operations io).fan.setPercentage id percentage m).2.tree := by
  rw [FanOps.setPercentage]
  split
  · exact b.driven_setDuty io id _ m
  · exact .refused _

theorem driven_setMode (id : Oid) (mode : FanMode) (m : Machine) :
    Driven io.root (b.dutyWrite? io m id mode.percentage) m.tree
      ((b.operations io).fan.setMode id mode m).1
      ((b.operations io).fan.setMode id mode m).2.tree := by
  have hrun := b.driven_setPercentage io id (Int32.ofNat mode.percentage.toNat) m
  rw [toInt_ofNat_toNat, Int.toNat_natCast, UInt8.ofNat_toNat] at hrun
  exact hrun

theorem setLedMode_eq {id : Oid} {e : LedEntry} (h : lookup? .led b.leds id = some e)
    (mode : LedMode) :
    b.setLedMode io id mode =
      match e.rawOf? mode with
      | some raw => io.write e.locator raw
      | none => .fail (.status .unsupported) := by
  rw [setLedMode, find_of_lookup h]
  rfl

theorem driven_setLedMode (id : Oid) (mode : LedMode) (m : Machine) :
    Driven io.root (b.ledWrite? io m id mode) m.tree (b.setLedMode io id mode m).1
      (b.setLedMode io id mode m).2.tree := by
  rw [ledWrite?]
  cases hentry : lookup? .led b.leds id with
  | none =>
    rw [setLedMode, find, hentry]
    exact .refused _
  | some e =>
    rw [b.setLedMode_eq io hentry, Option.bind_some]
    cases e.rawOf? mode with
    | some raw => exact driven_write io e.locator raw m
    | none => exact .refused _

theorem driven_setControl (port : Nat) (control : PortControl) (value : Int32) (m : Machine) :
    Driven io.root (b.controlWrite? port control value) m.tree
      (b.setControl io port control value m).1 (b.setControl io port control value m).2.tree := by
  rw [controlWrite?, setControl]
  cases b.portLine port (b.driven control) with
  | error e => exact .refused _
  | ok line =>
    rw [Action.bind_ok (Action.ofExcept_apply _ m)]
    by_cases hreset : control = .reset
    · rw [if_pos hreset, hreset]
      exact driven_pulse io line m
    · have hlevel : (control != .reset && value != 0) = (value != 0) := by simp [hreset]
      rw [if_neg hreset, hlevel]
      exact driven_writeLine io line _ m

theorem driven_writeByte (port address offset : Nat) (value : UInt8) (m : Machine) :
    Driven io.root
      ((b.pagePath port address).toOption.map fun path => .window path offset [value]) m.tree
      (b.writeByte io port address offset value m).1
      (b.writeByte io port address offset value m).2.tree := by
  rw [writeByte]
  cases b.pagePath port address with
  | error e => exact .refused _
  | ok path =>
    rw [Action.bind_ok (Action.ofExcept_apply _ m)]
    exact driven_onTree (driven_writeBytes io.root path offset [value] m.tree)

/-- **A setting writes its target or fails.** -/
theorem driven_setting (setting : Platform.Setting) (m : Machine) :
    Driven io.root (b.target? io m setting) m.tree (setting.run (b.platform io) m).1
      (setting.run (b.platform io) m).2.tree := by
  cases setting with
  | fanDuty id percentage => exact b.driven_setDuty io id percentage m
  | fanPercentage id percentage => exact b.driven_setPercentage io id percentage m
  | fanMode id mode => exact b.driven_setMode io id mode m
  | fanRpm id rpm => exact .refused _
  | fanDir id dir => exact .refused _
  | ledMode id mode => exact b.driven_setLedMode io id mode m
  | ledSwitch id on => exact b.driven_setLedMode io id _ m
  | setControl port control value =>
    exact driven_mapError _ (b.driven_setControl io port control value m)
  | writeByte port address offset value =>
    exact driven_mapError _ (b.driven_writeByte io port address offset value m)

/-- The drives of a board neither create nor remove an entry. -/
theorem drives_keep : (b.operations io).DrivesKeep Machine.SameEntries where
  duty id percentage m := (b.driven_setDuty io id percentage m).sameEntries
  rpm _ _ := .fail _
  dir _ _ := .fail _
  led id mode m := (b.driven_setLedMode io id mode m).sameEntries
  control port control value m := (b.driven_setControl io port control value m).sameEntries
  writeByte port address offset value m :=
    (b.driven_writeByte io port address offset value m).sameEntries

/-! ## All operations -/

theorem manageFans_keeps : (b.platform io).manageFans.Keeps Machine.SameEntries := by
  have reads := (b.reads_keep io).mono fun _ _ => Machine.ExportOnly.sameEntries
  rw [platform]
  dsimp only
  split
  · exact reads.fanPass (b.drives_keep io) _ _ fun _ m => .refl _ m.tree
  · exact .fail _

theorem manageLeds_keeps : (b.platform io).manageLeds.Keeps Machine.SameEntries := by
  have reads := (b.reads_keep io).mono fun _ _ => Machine.ExportOnly.sameEntries
  rw [platform]
  dsimp only
  split
  · exact reads.ledPass (b.drives_keep io) _
  · exact .fail _

/-- **What the operations of a board change.** A run of any operations neither creates nor removes
a file or a directory. A look changes at most the content of the export attribute. A setting changes
no more than that if it fails, and otherwise writes its target and changes no other file besides. -/
theorem operations_frame :
    (∀ (ops : List Platform.Operation) (m : Machine),
      m.SameEntries ((b.platform io).afterAll ops m)) ∧
    (∀ (look : Platform.Look) (m : Machine),
      m.ExportOnly io.root (look.after (b.platform io) m)) ∧
    (∀ (setting : Platform.Setting) (m : Machine),
      Driven io.root (b.target? io m setting) m.tree (setting.run (b.platform io) m).1
        (setting.run (b.platform io) m).2.tree) := by
  have reads : (b.platform io).ReadsKeep (Machine.ExportOnly io.root) :=
    { b.reads_keep io with oids := .inspect _ }
  have drives : (b.platform io).DrivesKeep Machine.SameEntries := { b.drives_keep io with }
  refine ⟨fun ops m => ?_, reads.look, b.driven_setting io⟩
  exact Platform.afterAll_keeps (reads.mono fun _ _ => Machine.ExportOnly.sameEntries) drives
    (b.manageFans_keeps io) (b.manageLeds_keeps io) ops m

end Board

end SwitchPlatform
