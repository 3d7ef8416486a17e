import SwitchPlatform.Proofs.Board.ModuleViews
import SwitchPlatform.Proofs.Board.ReadContract
import SwitchPlatform.Proofs.Io.ReadBack

/-!
# Controls of the modules

The controls of a port are set and read through the lines of the board: a line is an attribute or
a GPIO line, and may be active low. `Board.controlsAgree` says that setting and reading agree, for
every board, port and tree: a control reads as what it was set to, a reset ends with the module out
of reset, the same controls can be set and read, and a control changes no other one whose line has
another file.

The reason is that both go to one line (`controlWrite?` for the setting, `Board.sensed` for the
reading), and that a line reads as what was written to it (`readLine_of_wrote`) and depends on its
own file only (`readLine_congr`).
-/

namespace SwitchPlatform

open SwitchPlatform.Action
open FileTree (Location SameBut)

variable {b : Board} {io : Io} {m m' : Machine} {port : Nat}

/-! ## Lines -/

/-- A line that was asserted or not reads so. -/
theorem readLine_of_wrote {line : PortLine} {asserted : Bool} {t : FileTree}
    (h : Wrote io.root (line.write asserted) t m.tree) :
    (io.readLine line m).1 = .ok (some asserted) := by
  rcases line with ⟨path, activeLow⟩ | line
  · have hread : io.root.readInt path m.tree = .ok (if asserted != activeLow then 1 else 0) :=
      h.readInt
    rw [readLine_attribute, hread]
    cases activeLow <;> cases asserted <;> rfl
  · rw [readLine_gpio, Gpio.isAsserted_of_wrote h]
    rfl

/-- **What a line reads as depends on its own file.** -/
theorem readLine_congr {line : PortLine} {free : Location → Prop}
    (same : SameBut free m.tree m'.tree)
    (hfile : ∀ loc, io.root.Opens m.tree line.attributePath loc → ¬free loc) :
    (io.readLine line m').1 = (io.readLine line m).1 := by
  rcases line with ⟨path, activeLow⟩ | line
  · have hread : io.root.readInt path m'.tree = io.root.readInt path m.tree :=
      Root.readInt_eq same hfile
    rw [readLine_attribute, readLine_attribute, hread]
  · rw [readLine_gpio, readLine_gpio, line.isAsserted_congr same hfile]

theorem failsWith_writeLine (line : PortLine) (asserted : Bool) :
    FailsWith StatusError.OfAccess (io.writeLine line asserted) := by
  rcases line with ⟨path, activeLow⟩ | line
  · exact failsWith_onTree _
  · exact failsWith_onTree _

/-- Two paths open one file of a tree. -/
def Root.SameFile (root : Root) (t : FileTree) (path path' : String) : Prop :=
  ∃ loc, root.Opens t path loc ∧ root.Opens t path' loc

/-! ## Controls -/

/-- The controls that read as what they were set to. -/
def PortControl.holds : PortControl → Bool
  | .resetState => true
  | .txDisable => true
  | .lpMode => true
  | _ => false

namespace Board

/-- The line of a port under a signal, none if the signal has no line there. -/
theorem portLine_of_lt (hport : port < b.ports.count) (signal : Option PortSignal) :
    b.portLine port signal = (signal.bind (·.line? port)).elim (.error .unsupported) .ok := by
  rw [portLine, checkPortNumber, if_pos hport]
  cases signal.bind (·.line? port) <;> rfl

/-- What a control reads as on its line. -/
theorem getControl_fst {line : PortLine} {control : PortControl}
    (hline : b.portLine port (b.sensed control) = .ok line) :
    (b.getControl io port control m).1 = (io.readLine line m).1.bind fun level =>
      (level.elim (.error .missing) fun asserted => .ok (if asserted then 1 else 0) :
        Except StatusError Int32) := by
  rw [getControl, hline, bind_ok (ofExcept_apply _ m), bind_eq]
  rcases (io.readLine line m).1 with e | _ | asserted <;> rfl

/-- **A control reads as what was written for a control of the same signal.** -/
theorem getControl_of_setControl {control control' : PortControl} {v : Int32}
    (hsignal : b.sensed control' = b.driven control)
    (ok : (b.setControl io port control v m).1 = .ok ()) :
    (b.getControl io port control' (b.setControl io port control v m).2).1 =
      .ok (if control != .reset && v != 0 then 1 else 0) := by
  obtain ⟨w, hw, hwrote⟩ := (b.driven_setControl io port control v m).done () ok
  rw [controlWrite?] at hw
  cases hline : b.portLine port (b.driven control) with
  | error e =>
    rw [hline] at hw
    cases hw
  | ok line =>
    rw [hline] at hw
    obtain rfl := Option.some.inj hw
    rw [getControl_fst (hsignal ▸ hline), readLine_of_wrote hwrote]
    rfl

/-- Setting a control of a port is unsupported exactly if its signal has no line there. -/
theorem setControl_unsupported_iff (hport : port < b.ports.count) (control : PortControl)
    (v : Int32) : (b.setControl io port control v m).1 = .error .unsupported ↔
      (b.driven control).bind (·.line? port) = none := by
  rw [setControl, portLine_of_lt hport]
  cases hline : (b.driven control).bind (·.line? port) with
  | none => exact iff_of_true rfl rfl
  | some line =>
    have hwrites : FailsWith StatusError.OfAccess (if control = .reset then
        (do io.writeLine line true; io.writeLine line false) else io.writeLine line (v != 0)) := by
      split
      · exact (failsWith_writeLine line true).bind fun _ => failsWith_writeLine line false
      · exact failsWith_writeLine line _
    rw [Option.elim_some, bind_ok (ofExcept_apply _ m)]
    refine iff_of_false (fun h => ?_) (Option.some_ne_none line)
    exact StatusError.OfAccess.ne_unsupported (hwrites m _ h) rfl

/-- Reading a control of a port is unsupported exactly if its signal has no line there. -/
theorem getControl_unsupported_iff (hport : port < b.ports.count) (control : PortControl) :
    (b.getControl io port control m).1 = .error .unsupported ↔
      (b.sensed control).bind (·.line? port) = none := by
  cases hline : (b.sensed control).bind (·.line? port) with
  | none =>
    rw [getControl, portLine_of_lt hport, hline]
    exact iff_of_true rfl rfl
  | some line =>
    have hok : b.portLine port (b.sensed control) = .ok line := by
      rw [portLine_of_lt hport, hline, Option.elim_some]
    rw [getControl_fst hok]
    refine iff_of_false (fun h => ?_) (Option.some_ne_none line)
    cases hread : (io.readLine line m).1 with
    | error e =>
      rw [hread] at h
      obtain rfl := Except.error.inj h
      exact StatusError.Unreadable.ne_unsupported (failsWith_readLine line m _ hread) rfl
    | ok level =>
      rw [hread] at h
      cases level <;> cases h

/-- **Setting a control leaves a line alone** that has another file, and not the one that exports
lines. -/
theorem readLine_setControl {line : PortLine} (control : PortControl) (v : Int32)
    (apart : ∀ set, (b.driven control).bind (·.line? port) = some set →
      ¬io.root.SameFile m.tree set.attributePath line.attributePath)
    (hexport : ¬io.root.SameFile m.tree Gpio.exportPath line.attributePath) :
    (io.readLine line (b.setControl io port control v m).2).1 = (io.readLine line m).1 := by
  have hdriven := b.driven_setControl io port control v m
  cases hrun : (b.setControl io port control v m).1 with
  | error e =>
    exact readLine_congr (hdriven.failed e hrun) fun loc hopen he => hexport ⟨loc, he, hopen⟩
  | ok _ =>
    obtain ⟨w, hw, file, bs, hfile, -, same⟩ := hdriven.done () hrun
    refine readLine_congr same fun loc hopen => ?_
    rintro (he | rfl)
    · exact hexport ⟨loc, he, hopen⟩
    · rw [controlWrite?] at hw
      cases hset : b.portLine port (b.driven control) with
      | error e =>
        rw [hset] at hw
        cases hw
      | ok set =>
        rw [hset] at hw
        obtain rfl := Option.some.inj hw
        exact apart set (portLine_eq_ok hset) ⟨loc, ⟨bs, hfile⟩, hopen⟩

/-! ## Agreement -/

/-- Setting and reading the controls of the ports agree, on every machine. -/
structure ControlsAgree (b : Board) (io : Io) : Prop where
  /-- A control that holds its level reads as the flag that it was set to. -/
  level : ∀ (control : PortControl) (port : Nat) (v : Int32) (m : Machine), control.holds = true →
    (b.setControl io port control v m).1 = .ok () →
    (b.getControl io port control (b.setControl io port control v m).2).1 =
      .ok (if v = 0 then 0 else 1)
  /-- A module is not in reset after a reset. -/
  pulse : ∀ (port : Nat) (v : Int32) (m : Machine),
    (b.setControl io port .reset v m).1 = .ok () →
    (b.getControl io port .resetState (b.setControl io port .reset v m).2).1 = .ok 0
  /-- Setting a control of a port is unsupported exactly if reading it is, namely if its signal has
  no line there. -/
  unsupported : ∀ (control : PortControl) (port : Nat) (v : Int32) (m : Machine),
    control.holds = true ∨ control = .reset → port < b.ports.count →
    ((b.setControl io port control v m).1 = .error .unsupported ↔
      (b.driven control).bind (·.line? port) = none) ∧
    ((b.getControl io port control m).1 = .error .unsupported ↔
      (b.driven control).bind (·.line? port) = none)
  /-- Setting a control of one port, well or not, leaves every control alone whose line is not in
  the file of the first one's line, and not in the export attribute. -/
  apart : ∀ (control control' : PortControl) (port port' : Nat) (v : Int32) (m : Machine),
    (∀ line', (b.sensed control').bind (·.line? port') = some line' →
      ¬io.root.SameFile m.tree Gpio.exportPath line'.attributePath ∧
      ∀ line, (b.driven control).bind (·.line? port) = some line →
        ¬io.root.SameFile m.tree line.attributePath line'.attributePath) →
    (b.getControl io port' control' (b.setControl io port control v m).2).1 =
      (b.getControl io port' control' m).1

/-- What can be set is read from the signal that it drives. -/
theorem sensed_eq_driven (b : Board) {control : PortControl}
    (h : control.holds = true ∨ control = .reset) : b.sensed control = b.driven control := by
  cases control with
  | reset | resetState | txDisable | lpMode => rfl
  | rxLos | txFault | powerOverride => exact absurd h (by decide)

/-- **Setting and reading the controls of a board agree.** -/
theorem controlsAgree (b : Board) (io : Io) : b.ControlsAgree io where
  level control port v m hholds ok := by
    rw [getControl_of_setControl (b.sensed_eq_driven (.inl hholds)) ok]
    have hreset : control ≠ .reset := by
      rintro rfl
      cases hholds
    by_cases hv : v = 0 <;> simp [hreset, hv]
  pulse port v m ok := getControl_of_setControl rfl ok
  unsupported control port v m hcontrol hport := by
    refine ⟨setControl_unsupported_iff hport control v, ?_⟩
    rw [← b.sensed_eq_driven hcontrol]
    exact getControl_unsupported_iff hport control
  apart control control' port port' v m h := by
    cases hline : b.portLine port' (b.sensed control') with
    | error e =>
      rw [getControl, hline]
      rfl
    | ok line' =>
      obtain ⟨hexport, hother⟩ := h line' (portLine_eq_ok hline)
      rw [getControl_fst hline, getControl_fst hline, readLine_setControl control v hother hexport]

/-- A board of two ports, with reset attributes that are active low and, for the first port, a GPIO
line to turn its transmitter off. -/
def resetPorts : Board :=
  { name := "reset-ports"
    ports :=
      { count := 2
        present := .gpio [⟨0, 1, 10, 1⟩] true
        reset := some (.cpld [⟨0, 1, 1, 1⟩] ["/cpld"] ⟨"reset_\x7b\x7d"⟩ true)
        txDisable := some (.gpio [⟨0, 0, 20, 1⟩] true)
        eepromBus := [⟨0, 1, 1, 1⟩]
        eeprom := ⟨"/bus\x7b\x7d/eeprom"⟩ } }

/-- After a reset of its first port that port's module is out of reset, with the attribute at one,
and the other port and the transmitter are as they were. -/
theorem resetPorts_controlsAgree :
    let io : Io := { root := ⟨"/"⟩ }
    let gpio : FileTree := .dir [("export", .file []), ("gpio20", .dir [("value", .file [48])])]
    let cpld : FileTree := .dir [("reset_1", .file [48]), ("reset_2", .file [48])]
    let m : Machine :=
      { tree := .dir [("cpld", cpld), ("sys", .dir [("class", .dir [("gpio", gpio)])])] }
    let after := (resetPorts.setControl io 0 .reset 0 m).2
    resetPorts.validate = .ok () ∧ (resetPorts.setControl io 0 .reset 0 m).1 = .ok () ∧
      after.tree.fileAt? ["cpld", "reset_1"] = some [49] ∧
      (resetPorts.getControl io 0 .resetState m).1 = .ok 1 ∧
      (resetPorts.getControl io 0 .resetState after).1 = .ok 0 ∧
      (resetPorts.getControl io 1 .resetState after).1 = .ok 1 ∧
      (resetPorts.getControl io 0 .txDisable after).1 = .ok 1 ∧
      (resetPorts.getControl io 1 .txDisable after).1 = .error .unsupported ∧
      resetPorts.ControlsAgree io := by
  intro io gpio cpld m after
  have agree := resetPorts.controlsAgree io
  have ok : (resetPorts.setControl io 0 .reset 0 m).1 = .ok () := by decide +kernel
  refine ⟨by decide, ok, by decide +kernel, by decide +kernel, agree.pulse 0 0 m ok,
    by decide +kernel, by decide +kernel, ?_, agree⟩
  exact (agree.unsupported .txDisable 1 0 after (.inl rfl) (by decide)).2.2 rfl

end Board

end SwitchPlatform
