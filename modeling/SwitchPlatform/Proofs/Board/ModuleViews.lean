import SwitchPlatform.Proofs.Board.Frame
import SwitchPlatform.Proofs.Board.Objects
import SwitchPlatform.Proofs.Platform.Steady

/-!
# Views of the modules

Whether there is a module in a port is told by the port itself, by the set of all ports with a
module, by the reading of the module's object and by its identification page; loss of signal is
told by the control of a port and by a set as well. All of them go to the same lines of the board,
and `moduleViews` says that they agree on every machine.

Reading a line may export it, and what one port has written to the export attribute is there when
the next port is read. It does not matter, since no line has its level there: the lines of a signal
are steady (`steady_readLine`). A line that reads as a flag was exported before, so a port with a
module reads its page from the machine as it was (`isPortPresent_unchanged`).
-/

namespace SwitchPlatform

open SwitchPlatform.Action

/-! ## Lines -/

theorem FileTree.length_window {content part : List UInt8} {offset len : Nat}
    (h : window content offset len = .ok part) : part.length = len := by
  rw [window] at h
  split_ifs at h with hzero hfits
  · cases h
    exact hzero.symm
  · cases h
    rw [List.length_take, List.length_drop]
    omega

/-- As many bytes are read as were asked for. -/
theorem Root.length_readBytes {root : Root} {path : String} {offset len : Nat} {t : FileTree}
    {bs : List UInt8} (h : root.readBytes path offset len t = .ok bs) : bs.length = len := by
  unfold Root.readBytes FileTree.readWindow at h
  split at h
  · cases h
  · rename_i loc e hfind
    split at h
    · cases h
    · cases e with
      | file content =>
        dsimp only at h
        cases hpart : FileTree.window content offset len with
        | error e =>
          rw [hpart] at h
          cases h
        | ok part =>
          rw [hpart] at h
          cases h
          exact FileTree.length_window hpart
      | dir es =>
        dsimp only at h
        split_ifs at h with hzero
        · cases h
          exact hzero.symm
        · cases h

/-- A line that reads as a flag was exported before. -/
theorem Gpio.isAsserted_unchanged {line : Gpio} {root : Root} {t : FileTree} {asserted : Bool}
    (h : (line.isAsserted root t).1 = .ok asserted) : (line.isAsserted root t).2 = t := by
  rw [isAsserted_apply] at h ⊢
  have hsame := line.exportOnly_ensureExported root t
  cases hlevel : root.readInt line.valuePath (line.ensureExported root t).2 with
  | error e =>
    rw [hlevel] at h
    revert h
    cases (line.ensureExported root t).1 <;> exact nofun
  | ok level =>
    have hentry := Root.hasEntry_of_readInt hlevel
    rw [Root.hasEntry_eq hsame] at hentry
    rw [ensureExported_apply, if_pos hentry]

/-- What reading the lines of a signal may change: the export attribute, if they are GPIO lines. -/
def PortSignal.Leaves (root : Root) : Option PortSignal → Machine → Machine → Prop
  | some (.gpio _ _) => Machine.ExportOnly root
  | _ => Eq

instance (root : Root) (signal : Option PortSignal) :
    IsPreorder Machine (PortSignal.Leaves root signal) := by
  rcases signal with _ | _ | _
  · exact inferInstanceAs (IsPreorder Machine Eq)
  · exact inferInstanceAs (IsPreorder Machine Eq)
  · exact inferInstanceAs (IsPreorder Machine (Machine.ExportOnly root))

variable {b : Board} {io : Io} {m : Machine} {port : Nat}

/-- Reading the line of an attribute changes nothing. -/
theorem readLine_attribute (io : Io) (path : String) (activeLow : Bool) (m : Machine) :
    io.readLine (.attribute path activeLow) m =
      (Io.orNone (((io.root.readInt path m.tree).mapError AttributeError.status).map
        fun raw => (raw != 0) != activeLow), m) := by
  rw [Io.readLine, optional_eq, bind_eq, fromTree, inspect_apply]
  cases (io.root.readInt path m.tree).mapError AttributeError.status <;> rfl

theorem readLine_gpio (io : Io) (line : Gpio) (m : Machine) :
    io.readLine (.gpio line) m =
      (Io.orNone ((line.isAsserted io.root m.tree).1.mapError AttributeError.status),
        { m with tree := (line.isAsserted io.root m.tree).2 }) := by
  rw [Io.readLine, optional_eq, onTree_apply]

/-- **The lines of a signal do not disturb each other.** -/
theorem steady_readLine {signal : Option PortSignal} {line : PortLine}
    (h : signal.bind (·.line? port) = some line) :
    (io.readLine line).Steady (PortSignal.Leaves io.root signal) := by
  rcases signal with _ | ⟨ranges, dirs, attr, activeLow⟩ | ⟨lines, activeLow⟩
  · cases h
  · rw [Option.bind_some] at h
    obtain ⟨place, -, hline⟩ := Option.bind_eq_some_iff.1 h
    obtain ⟨dir, -, rfl⟩ := Option.map_eq_some_iff.1 hline
    exact .of_unchanged fun m => congrArg Prod.snd (readLine_attribute io _ _ m)
  · obtain ⟨number, -, rfl⟩ := Option.map_eq_some_iff.1 h
    refine ⟨Io.keeps_readLine _, fun m m' hm => ?_⟩
    rw [readLine_gpio, readLine_gpio, Gpio.isAsserted_outcome_eq _ hm]

/-- A line that reads as a flag leaves the machine as it was. -/
theorem readLine_unchanged {line : PortLine} {asserted : Bool}
    (h : (io.readLine line m).1 = .ok (some asserted)) : (io.readLine line m).2 = m := by
  rcases line with ⟨path, activeLow⟩ | line
  · rw [readLine_attribute]
  · rw [readLine_gpio] at h ⊢
    cases hlevel : (line.isAsserted io.root m.tree).1 with
    | ok level =>
      dsimp only
      rw [Gpio.isAsserted_unchanged hlevel]
    | error e =>
      rw [hlevel] at h
      cases e <;> cases h

namespace Board

theorem portLine_eq_ok {signal : Option PortSignal} {line : PortLine}
    (h : b.portLine port signal = .ok line) : signal.bind (·.line? port) = some line := by
  rw [portLine] at h
  split at h
  · cases h
  · split at h
    · rename_i hline
      cases h
      exact hline
    · cases h

/-- A port that the board does not have has no lines. -/
theorem portLine_beyond (h : ¬port < b.ports.count) (signal : Option PortSignal) :
    b.portLine port signal = .error .param := by
  rw [portLine, checkPortNumber, if_neg h]

/-! ## Ports -/

theorem steady_isPortPresent (b : Board) (io : Io) (port : Nat) :
    (b.isPortPresent io port).Steady (PortSignal.Leaves io.root (some b.ports.present)) :=
  (Steady.ofExcept _).bind_of fun _ _ hline =>
    (steady_readLine (portLine_eq_ok hline)).bind fun _ => .pure _

theorem steady_getControl (b : Board) (io : Io) (port : Nat) (control : PortControl) :
    (b.getControl io port control).Steady (PortSignal.Leaves io.root (b.sensed control)) := by
  refine (Steady.ofExcept _).bind_of fun line _ hline =>
    (steady_readLine (portLine_eq_ok hline)).bind fun level => ?_
  split
  · exact .pure _
  · exact .fail _

/-- A port with a module leaves the machine as it was. -/
theorem isPortPresent_unchanged (h : (b.isPortPresent io port m).1 = .ok true) :
    (b.isPortPresent io port m).2 = m := by
  rw [isPortPresent] at h ⊢
  obtain ⟨line, hline, h⟩ := ok_of_bind h
  rw [bind_eq, hline]
  dsimp only
  obtain ⟨level, hlevel, h⟩ := ok_of_bind h
  rw [bind_eq, hlevel]
  cases level with
  | none => cases h
  | some asserted => exact readLine_unchanged hlevel

theorem isPortPresent_beyond (b : Board) (io : Io) (m : Machine) (h : ¬port < b.ports.count) :
    b.isPortPresent io port m = (.error .param, m) := by
  rw [isPortPresent, portLine_beyond h, bind_eq, ofExcept_apply]

/-- A page is read from a port with a module, and it has bytes. -/
theorem readPage_eq_ok {address : Nat} {page : List UInt8}
    (h : (b.readPage io port address m).1 = .ok page) :
    (b.isPortPresent io port m).1 = .ok true ∧ page ≠ [] := by
  rw [readPage] at h
  obtain ⟨path, -, h⟩ := ok_of_bind h
  obtain ⟨present, hpresent, h⟩ := ok_of_bind h
  cases present with
  | false => cases h
  | true =>
    have hlength := Root.length_readBytes (ok_of_fromTree h)
    refine ⟨hpresent, ?_⟩
    rintro rfl
    cases hlength

/-- **The reading of a module's object**: whether the port has a module, and the kind of that if
its page can be read. -/
theorem read_module {id : Oid} (hkind : id.kind = .module) (hindex : id.index = port + 1) :
    ((b.platform io).read id m).1 = (b.isPortPresent io port m).1.map fun present =>
      .module (moduleHeaderOf id) present (if present
        then (b.readPage io port identificationAddress m).1.toOption.map ModuleKind.ofPage
        else none) := by
  have hport : modulePort id = .ok port := by
    rw [modulePort, if_pos hkind, hindex, Nat.add_sub_cancel]
  have hread : (b.platform io).read id = (b.platform io).readModule id := by
    rw [Platform.read, hkind]
  rw [hread, Platform.readModule, bind_eq, inspect_apply, moduleHeader_eq b io hkind]
  by_cases hlt : id.index ≤ b.ports.count
  · have hask : (b.platform io).ports.isPresent port = b.isPortPresent io port := rfl
    rw [if_pos hlt]
    dsimp only
    rw [bind_eq, ofExcept_apply, hport]
    dsimp only
    rw [hask, bind_eq]
    cases hpresent : (b.isPortPresent io port m).1 with
    | error e => rfl
    | ok present =>
      cases present with
      | false => rfl
      | true =>
        have hkind? := (b.platform io).moduleKind?_fst port m
        dsimp only
        rw [if_pos rfl, bind_eq, isPortPresent_unchanged hpresent, hkind?]
        rfl
  · rw [if_neg hlt, isPortPresent_beyond b io m (by omega)]
    rfl

/-! ## Agreement -/

end Board

/-- What a platform of `count` ports says about its modules is one and the same in a state. -/
structure Platform.ModuleViewsAgree {σ : Type} (p : Platform σ) (count : Nat) (s : σ) : Prop where
  /-- Every port has a module object, with the next number. -/
  object : ∀ port < count, ∃ id : Oid, id.kind = .module ∧ id.index = port + 1
  /-- The set of all ports with a module. -/
  present : ∀ set, (p.ports.present s).1 = .ok set → ∀ port, set.contains port = true ↔
    port < count ∧ (p.ports.isPresent port s).1 = .ok true
  /-- The reading of a module's object. -/
  reading : ∀ port (id : Oid), id.kind = .module → id.index = port + 1 →
    ((∃ header kind, (p.read id s).1 = .ok (.module header true kind)) ↔
      port < count ∧ (p.ports.isPresent port s).1 = .ok true)
  /-- There is no set exactly if a port fails, and then the lowest one decides the error. -/
  failure : ∀ e, (p.ports.present s).1 = .error e ↔
    ∃ port < count, (p.ports.isPresent port s).1 = .error e ∧
      ∀ lower < port, ∃ present, (p.ports.isPresent lower s).1 = .ok present
  /-- The kind of a module, by the first byte of its page. -/
  kind : ∀ port (id : Oid) k, id.kind = .module → id.index = port + 1 →
    ((∃ header present, (p.read id s).1 = .ok (.module header present (some k))) ↔
      (p.ports.isPresent port s).1 = .ok true ∧
        ∃ byte rest, (p.ports.readPage port s).1 = .ok (byte :: rest) ∧ k = .ofByte byte)
  /-- A page is read from a port with a module only. -/
  page : ∀ port page, (p.ports.readPage port s).1 = .ok page →
    (p.ports.isPresent port s).1 = .ok true
  /-- The set of all ports that report loss of signal. -/
  rxLos : ∀ set, (p.ports.rxLos s).1 = .ok set → ∀ port, set.contains port = true ↔
    ∃ v, (p.ports.getControl port .rxLos s).1 = .ok v ∧ v ≠ 0

namespace Board

theorem lt_of_isPortPresent {present : Bool} (h : (b.isPortPresent io port m).1 = .ok present) :
    port < b.ports.count := by
  by_contra hle
  rw [isPortPresent_beyond b io m hle] at h
  cases h

theorem lt_of_getControl {control : PortControl} {v : Int32}
    (h : (b.getControl io port control m).1 = .ok v) : port < b.ports.count := by
  by_contra hle
  obtain ⟨line, hline, -⟩ := ok_of_bind h
  rw [portLine_beyond hle] at hline
  cases hline

/-- A module's object says that there is a module exactly if the port says so. -/
theorem read_module_present_iff {id : Oid} (hkind : id.kind = .module)
    (hindex : id.index = port + 1) :
    (∃ header kind, ((b.platform io).read id m).1 = .ok (.module header true kind)) ↔
      (b.isPortPresent io port m).1 = .ok true := by
  rw [read_module hkind hindex]
  cases (b.isPortPresent io port m).1 with
  | error e => simp [Except.map]
  | ok present => cases present <;> simp [Except.map]

/-- The kind that a module's object reports is that of the first byte of its page. -/
theorem read_module_kind_iff {id : Oid} {k : ModuleKind} (hkind : id.kind = .module)
    (hindex : id.index = port + 1) :
    (∃ header present, ((b.platform io).read id m).1 = .ok (.module header present (some k))) ↔
      (b.isPortPresent io port m).1 = .ok true ∧ ∃ byte rest,
        (b.readPage io port identificationAddress m).1 = .ok (byte :: rest) ∧ k = .ofByte byte := by
  rw [read_module hkind hindex]
  cases (b.isPortPresent io port m).1 with
  | error e => simp [Except.map]
  | ok present =>
    cases present with
    | false => simp [Except.map]
    | true =>
      cases hpage : (b.readPage io port identificationAddress m).1 with
      | error e => simp [Except.map, Except.toOption]
      | ok page =>
        obtain ⟨byte, rest, rfl⟩ := List.exists_cons_of_ne_nil (readPage_eq_ok hpage).2
        simp [Except.map, Except.toOption, ModuleKind.ofPage, eq_comm]

/-- **What a board says about the modules in its ports agrees** on every machine, as long as every
port has an id. -/
theorem moduleViews (b : Board) (hcount : b.ports.count ≤ Oid.maxIndex) (io : Io) (m : Machine) :
    (b.platform io).ModuleViewsAgree b.ports.count m where
  object port hport :=
    ⟨⟨.module, port + 1, Nat.succ_pos port, Nat.le_trans hport hcount⟩, rfl, rfl⟩
  present _ hrun := PortOps.contains_present rfl (b.steady_isPortPresent io) hrun
  reading port id hkind hindex := by
    refine (read_module_present_iff hkind hindex).trans ?_
    exact ⟨fun h => ⟨lt_of_isPortPresent h, h⟩, And.right⟩
  failure _ := PortOps.present_error_iff rfl (b.steady_isPortPresent io)
  kind _ _ _ hkind hindex := read_module_kind_iff hkind hindex
  page _ _ h := (readPage_eq_ok h).1
  rxLos set hrun port := by
    have hsteady (port : Nat) := b.steady_getControl io port .rxLos
    refine (PortOps.contains_rxLos rfl hsteady hrun port).trans ?_
    exact ⟨And.right, fun ⟨v, hv, hne⟩ => ⟨lt_of_getControl hv, v, hv, hne⟩⟩

/-- A board of two ports with modules, told by GPIO lines that are active low. -/
def gpioPorts : Board :=
  { name := "gpio-ports"
    ports :=
      { count := 2
        present := .gpio [⟨0, 1, 10, 1⟩] true
        eepromBus := [⟨0, 1, 1, 1⟩]
        eeprom := ⟨"/bus\x7b\x7d/eeprom"⟩ } }

/-- The views agree although looking for modules exports the line of the second port. -/
theorem gpioPorts_moduleViews :
    let p := gpioPorts.platform { root := ⟨"/"⟩ }
    let gpio : FileTree := .dir [("export", .file []), ("gpio10", .dir [("value", .file [48])])]
    let m : Machine := { tree := .dir [("sys", .dir [("class", .dir [("gpio", gpio)])])] }
    gpioPorts.validate = .ok () ∧ gpioPorts.ports.count ≤ Oid.maxIndex ∧
      (p.ports.present m).1 = .ok (.ofList [0]) ∧
      (p.ports.present m).2.tree.fileAt? ["sys", "class", "gpio", "export"] = some [49, 49] ∧
      p.ModuleViewsAgree gpioPorts.ports.count m :=
  ⟨by decide, by decide, by decide +kernel, by decide +kernel,
    gpioPorts.moduleViews (by decide) _ _⟩

end Board

end SwitchPlatform
