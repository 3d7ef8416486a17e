import SwitchPlatform.Board.Platform
import SwitchPlatform.Proofs.FileTree.Export
import SwitchPlatform.Proofs.Io.Within
import SwitchPlatform.Proofs.RangeMap

/-!
# Exporting the lines of the ports

A flag lists its GPIO lines by the ids of its map, and finds the line of a port by the first
segment that covers the port. Segments may overlap, and a value may lie outside of 32 bits, but
both ways come to the same lines (`PortSignal.mem_gpios_iff`).

Starting the ports asks for one line after the other. A line is asked for if it is pending
(`Gpio.Pending`): its level is not there and its number can be written. This does not depend on
what the export attribute holds, so each of these requests replaces the one before it, and the last
one stays (`openFile_exportAll`). `portLines_exported` puts this together.
-/

namespace SwitchPlatform

open FileTree (Location SameBut)

/-! ## The lines of a flag -/

namespace PortSignal

variable {signal : PortSignal} {line : Gpio} {port : Nat}

theorem gpio?_eq_some_iff :
    signal.gpio? port = some line ↔ signal.line? port = some (.gpio line) := by
  rw [gpio?]
  split
  · rename_i h
    rw [h, Option.some.injEq, Option.some.injEq, PortLine.gpio.injEq]
  · rename_i h
    exact iff_of_false nofun (h line)

theorem line?_cpld_ne_gpio {ranges : RangeMap} {dirs : List String} {attr : PathTemplate}
    {activeLow : Bool} : (cpld ranges dirs attr activeLow).line? port ≠ some (.gpio line) := by
  intro h
  obtain ⟨_, -, h⟩ := Option.bind_eq_some_iff.1 h
  obtain ⟨_, -, h⟩ := Option.map_eq_some_iff.1 h
  cases h

/-- Only a port that the map covers has a line. -/
theorem covers_of_line? {lines : RangeMap} {activeLow : Bool}
    (h : (gpio lines activeLow).line? port = some (.gpio line)) : lines.covers port = true := by
  obtain ⟨number, hnumber, -⟩ := Option.map_eq_some_iff.1 h
  exact RangeMap.covers_of_map? hnumber

/-- **The lines of a flag are those of all ports.** -/
theorem mem_gpios_iff : line ∈ signal.gpios ↔ ∃ port, signal.line? port = some (.gpio line) := by
  cases signal with
  | cpld ranges dirs attr activeLow =>
    exact iff_of_false List.not_mem_nil fun ⟨_, h⟩ => line?_cpld_ne_gpio h
  | gpio lines activeLow =>
    simp only [gpios, List.mem_filterMap, gpio?_eq_some_iff, RangeMap.mem_ids]
    exact exists_congr fun port => and_iff_right_of_imp covers_of_line?

end PortSignal

/-! ## Exporting one line -/

namespace Gpio

variable {root : Root} {t t' : FileTree} {loc : Location} {old : List UInt8}

/-- A line that is asked for: its level is not there, and its number is a signed one of 32 bits. -/
def Pending (root : Root) (t : FileTree) (line : Gpio) : Prop :=
  root.hasEntry line.valuePath t = false ∧ line.number < 2 ^ 31

instance (root : Root) (t : FileTree) (line : Gpio) : Decidable (line.Pending root t) :=
  inferInstanceAs (Decidable (_ ∧ _))

/-- What the export attribute holds after a line was asked for: the decimal of its number. -/
def request (line : Gpio) : List UInt8 :=
  Text.Utf8.encode (toString line.number)

/-- Contents do not decide whether a line is asked for. -/
theorem pending_iff {free : Location → Prop} (same : SameBut free t t') (line : Gpio) :
    line.Pending root t' ↔ line.Pending root t := by
  rw [Pending, Pending, Root.hasEntry_eq same]

theorem requestExport_tree (hexport : t.openFile (root.resolve exportPath) = .ok (loc, old))
    (line : Gpio) : (line.requestExport root t).2 =
      if line.number < 2 ^ 31 then t.setContent loc line.request else t := by
  rw [requestExport]
  cases hnumber : Text.int32? line.number with
  | some v =>
    have hv := Text.toInt_of_int32? hnumber
    have hlt : line.number < 2 ^ 31 := by
      have hmax := v.toInt_lt
      omega
    rw [if_pos hlt]
    dsimp only
    rw [Root.writeInt, Root.writeText_apply, hexport, hv]
    rfl
  | none =>
    have hge : ¬line.number < 2 ^ 31 := by
      intro hlt
      rw [Text.int32?, if_pos ⟨by omega, by omega⟩] at hnumber
      cases hnumber
    rw [if_neg hge]
    rfl

/-- **A line that is asked for leaves its number in the export attribute.** -/
theorem ensureExported_tree (hexport : t.openFile (root.resolve exportPath) = .ok (loc, old))
    (line : Gpio) : (line.ensureExported root t).2 =
      if line.Pending root t then t.setContent loc line.request else t := by
  rw [ensureExported_apply]
  cases hentry : root.hasEntry line.valuePath t with
  | true => rw [if_pos rfl, if_neg fun h => Bool.noConfusion (hentry.symm.trans h.1)]
  | false =>
    rw [if_neg Bool.false_ne_true, requestExport_tree hexport]
    simp only [Pending, hentry, true_and]

/-! ## Exporting all lines -/

/-- The tree after lines were exported one after the other. -/
def exportAll (root : Root) (t : FileTree) (lines : List Gpio) : FileTree :=
  lines.foldl (fun t line => (line.ensureExported root t).2) t

theorem exportAll_cons (root : Root) (t : FileTree) (line : Gpio) (lines : List Gpio) :
    exportAll root t (line :: lines) = exportAll root (line.ensureExported root t).2 lines :=
  List.foldl_cons ..

/-- The last line that is asked for. -/
def lastPending? (root : Root) (t : FileTree) (lines : List Gpio) : Option Gpio :=
  (lines.filter fun line => line.Pending root t).getLast?

theorem lastPending?_congr {free : Location → Prop} (same : SameBut free t t')
    (lines : List Gpio) : lastPending? root t' lines = lastPending? root t lines := by
  simp only [lastPending?, pending_iff same]

/-- A pending line counts unless one behind it does. -/
theorem lastPending?_cons (line : Gpio) (lines : List Gpio) :
    lastPending? root t (line :: lines) =
      if line.Pending root t then some ((lastPending? root t lines).getD line)
      else lastPending? root t lines := by
  simp only [lastPending?, List.filter_cons, decide_eq_true_eq]
  split_ifs
  · exact List.getLast?_cons
  · rfl

theorem sameBut_ensureExported (hexport : t.openFile (root.resolve exportPath) = .ok (loc, old))
    (line : Gpio) : SameBut (· = loc) t (line.ensureExported root t).2 := by
  rw [ensureExported_tree hexport]
  split_ifs
  · exact FileTree.sameBut_setContent loc _ t
  · exact .refl _ t

theorem openFile_ensureExported (hexport : t.openFile (root.resolve exportPath) = .ok (loc, old))
    (line : Gpio) : (line.ensureExported root t).2.openFile (root.resolve exportPath) =
      .ok (loc, if line.Pending root t then line.request else old) := by
  rw [ensureExported_tree hexport]
  split_ifs
  · exact FileTree.openFile_setContent hexport _
  · exact hexport

theorem sameBut_exportAll (hexport : t.openFile (root.resolve exportPath) = .ok (loc, old))
    (lines : List Gpio) : SameBut (· = loc) t (exportAll root t lines) := by
  induction lines generalizing t old with
  | nil => exact .refl _ t
  | cons line lines ih =>
    rw [exportAll_cons]
    exact (sameBut_ensureExported hexport line).trans (ih (openFile_ensureExported hexport line))

/-- **The last pending line stays in the export attribute.** -/
theorem openFile_exportAll (hexport : t.openFile (root.resolve exportPath) = .ok (loc, old))
    (lines : List Gpio) : (exportAll root t lines).openFile (root.resolve exportPath) =
      .ok (loc, ((lastPending? root t lines).map request).getD old) := by
  induction lines generalizing t old with
  | nil => exact hexport
  | cons line lines ih =>
    -- The rest is asked for on another tree, but the same lines are pending there.
    have hrest := ih (openFile_ensureExported hexport line)
    rw [lastPending?_congr (sameBut_ensureExported hexport line)] at hrest
    rw [exportAll_cons, hrest, lastPending?_cons]
    split_ifs
    · rw [Option.getD_map, Option.map_some, Option.getD_some]
    · rfl

end Gpio

/-! ## Starting the ports -/

namespace Board

theorem exportLines_apply (io : Io) (lines : List Gpio) (m : Machine) :
    exportLines io lines m =
      (.ok (), { m with tree := Gpio.exportAll io.root m.tree lines }) := by
  induction lines generalizing m with
  | nil => rfl
  | cons line lines ih =>
    have hfirst : ((onTree (line.ensureExported io.root)).attempt : Access _) m = _ :=
      Action.attempt_apply _ m
    rw [exportLines, Action.bind_ok hfirst, ih, onTree_apply, Gpio.exportAll_cons]

/-- What starting the ports of a board makes of a machine whose export attribute is the file at
`loc`, with the bytes `old`. -/
structure PortsStarted (b : Board) (root : Root) (loc : Location) (old : List UInt8)
    (m m' : Machine) : Prop where
  /-- The file holds the number of the last line of the flags that is pending. -/
  content : m'.tree.fileAt? loc = some
    (match Gpio.lastPending? root m.tree (b.ports.signals.flatMap PortSignal.gpios) with
      | some line => line.request
      | none => old)
  others : ∀ other, other ≠ loc → m'.tree.fileAt? other = m.tree.fileAt? other
  /-- No file or directory was created or removed. -/
  entries : m.tree.SameEntries m'.tree
  fitted : m'.bmcFitted = m.bmcFitted
  duty : m'.duty = m.duty

/-- **Starting the ports exports the lines of their flags**, and these are the lines of all
ports. -/
theorem portLines_exported (b : Board) (io : Io) (m : Machine) :
    (∀ (signal : PortSignal) line,
      line ∈ signal.gpios ↔ ∃ port, signal.line? port = some (.gpio line)) ∧
    ((b.platform io).ports.init m).1 = .ok () ∧
    ∀ loc old, m.tree.openFile (io.root.resolve Gpio.exportPath) = .ok (loc, old) →
      b.PortsStarted io.root loc old m ((b.platform io).ports.init m).2 := by
  have hrun : (b.platform io).ports.init m = _ :=
    exportLines_apply io (b.ports.signals.flatMap PortSignal.gpios) m
  refine ⟨fun _ _ => PortSignal.mem_gpios_iff, by rw [hrun], fun loc old hexport => ?_⟩
  have hsame := Gpio.sameBut_exportAll hexport (b.ports.signals.flatMap PortSignal.gpios)
  have hopen := Gpio.openFile_exportAll hexport (b.ports.signals.flatMap PortSignal.gpios)
  rw [hrun]
  refine ⟨?_, fun other hother => hsame.fileAt? hother, hsame.sameEntries, rfl, rfl⟩
  rw [FileTree.fileAt?_of_openFile hopen]
  cases Gpio.lastPending? io.root m.tree (b.ports.signals.flatMap PortSignal.gpios) <;> rfl

/-- A board with overlapping segments of lines, and a line whose number cannot be written. -/
def overlappingPorts : Board :=
  { name := "overlapping-ports"
    ports :=
      { count := 3
        present := .gpio [⟨0, 1, 10, 1⟩, ⟨1, 2, 20, 1⟩] false
        txFault := some (.gpio [⟨0, 0, 3000000000, 1⟩] false)
        eepromBus := [⟨0, 2, 1, 1⟩]
        eeprom := ⟨"/bus\x7b\x7d/eeprom"⟩ } }

/-- A machine with an export attribute and the level of one line. -/
def oneLevel : Machine :=
  { tree := .dir [("sys", .dir [("class", .dir [("gpio",
      .dir [("export", .file [120]), ("gpio21", .dir [("value", .file [48])])])])])] }

/-- The level of line 21 is there, so line 11 is the last one that is pending. -/
theorem overlappingPorts_exported :
    let m' := ((overlappingPorts.platform { root := ⟨"/"⟩ }).ports.init oneLevel).2
    oneLevel.tree.openFile (Root.resolve ⟨"/"⟩ Gpio.exportPath) =
        .ok (["sys", "class", "gpio", "export"], [120]) ∧
      m'.tree.fileAt? ["sys", "class", "gpio", "export"] = some [49, 49] ∧
      overlappingPorts.PortsStarted ⟨"/"⟩ ["sys", "class", "gpio", "export"] [120] oneLevel m' := by
  have hexport : oneLevel.tree.openFile (Root.resolve ⟨"/"⟩ Gpio.exportPath) =
      .ok (["sys", "class", "gpio", "export"], [120]) := by decide +kernel
  have started := (portLines_exported overlappingPorts { root := ⟨"/"⟩ } oneLevel).2.2 _ _ hexport
  exact ⟨hexport, by decide +kernel, started⟩

end Board

end SwitchPlatform
