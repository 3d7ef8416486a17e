import SwitchPlatform.Board.Readings
import SwitchPlatform.Platform.Management

/-!
# The platform of a board

`Board.platform` makes a platform from the tables of a board: every operation finds its entry by
the id, and reads or drives what the entry says.
-/

namespace SwitchPlatform.Board

/-- The access to the hardware of a board; a controller is linked if the board has one. -/
def io (b : Board) (root : Root) (mode : Bmc.Mode) : Io :=
  match b.bmc with
  | none => { root := root }
  | some entry =>
    { root := root, link := some (.directory entry.dir), mode := mode, probe := some entry.probe }

/-- The entry of a table with a given id, refused as a parameter. -/
def find {α : Type} (kind : Oid.Kind) (table : List α) (id : Oid) : Except StatusError α :=
  match lookup? kind table id with
  | some entry => .ok entry
  | none => .error .param

/-- The announced size and then the whole image of the system EEPROM. -/
def readOnie (b : Board) (io : Io) : Access Onie.Info :=
  match b.onieEeprom with
  | none => .fail .unsupported
  | some path => do
    let header ← fromTree (io.root.readBytes path 0 Onie.headerSize)
    let size ← .ofExcept ((Onie.imageSize header).mapError Onie.Error.status)
    let image ← fromTree (io.root.readBytes path 0 size)
    .ofExcept ((Onie.decode image).mapError Onie.Error.status)

/-- The versions of the components of a board. -/
def readVersions (b : Board) (io : Io) : Access Versions := do
  let cplds ← io.versions b.cplds
  let others ← io.versions b.otherVersions
  return ⟨cplds, others⟩

/-- Sets the duty of a fan that takes one. -/
def setDuty (b : Board) (io : Io) (id : Oid) (percentage : UInt8) : Drive Unit := do
  let entry ← (.ofExcept (find .fan b.fans id) : Access FanEntry)
  if entry.caps.has FanCaps.setPercentage then
    match entry.percentage with
    | some locator => io.write locator (Int32.ofNat percentage.toNat)
    | none => .fail (.status .unsupported)
  else .fail (.status .unsupported)

/-- Shows a mode on an led that has it. -/
def setLedMode (b : Board) (io : Io) (id : Oid) (mode : LedMode) : Drive Unit := do
  let entry ← (.ofExcept (find .led b.leds id) : Access LedEntry)
  match entry.rawOf? mode with
  | some raw => io.write entry.locator raw
  | none => .fail (.status .unsupported)

/-- Refuses a port that the board does not have. -/
def checkPortNumber (b : Board) (port : Nat) : Except StatusError Unit :=
  if port < b.ports.count then .ok () else .error .param

/-- The line that carries a flag of a port. -/
def portLine (b : Board) (port : Nat) (signal : Option PortSignal) :
    Except StatusError PortLine :=
  match b.checkPortNumber port with
  | .error e => .error e
  | .ok () =>
    match signal.bind (·.line? port) with
    | some line => .ok line
    | none => .error .unsupported

/-- The attribute behind an address on the bus of a port. -/
def pagePath (b : Board) (port address : Nat) : Except StatusError String :=
  match b.checkPortNumber port with
  | .error e => .error e
  | .ok () =>
    match b.ports.eepromBus.map? port with
    | none => .error .param
    | some bus =>
      if address = identificationAddress then .ok (b.ports.eeprom.render [bus])
      else if address = diagnosticsAddress ∧ b.ports.qsfp.covers port = false then
        match b.ports.diagnostics with
        | some template => .ok (template.render [bus])
        | none => .error .unsupported
      else .error .unsupported

/-- Is there a module in a port? -/
def isPortPresent (b : Board) (io : Io) (port : Nat) : Access Bool := do
  let line ← .ofExcept (b.portLine port (some b.ports.present))
  return (← io.readLine line).getD false

/-- A page of the module in a port. -/
def readPage (b : Board) (io : Io) (port address : Nat) : Access (List UInt8) := do
  let path ← .ofExcept (b.pagePath port address)
  if ← b.isPortPresent io port then fromTree (io.root.readBytes path 0 pageSize)
  else .fail .missing

/-- One byte at an address on the bus of a port. -/
def readByte (b : Board) (io : Io) (port address offset : Nat) : Access UInt8 := do
  let path ← .ofExcept (b.pagePath port address)
  match ← fromTree (io.root.readBytes path offset 1) with
  | byte :: _ => pure byte
  | [] => .fail .i2c

/-- Writes one byte at an address on the bus of a port. -/
def writeByte (b : Board) (io : Io) (port address offset : Nat) (value : UInt8) :
    Access Unit := do
  let path ← .ofExcept (b.pagePath port address)
  onTree (io.root.writeBytes path offset [value])

/-- The flag that a control drives. -/
def driven (b : Board) : PortControl → Option PortSignal
  | .reset => b.ports.reset
  | .resetState => b.ports.reset
  | .txDisable => b.ports.txDisable
  | .lpMode => b.ports.lpMode
  | .rxLos => none
  | .txFault => none
  | .powerOverride => none

/-- The flag that a control reads. -/
def sensed (b : Board) : PortControl → Option PortSignal
  | .reset => b.ports.reset
  | .resetState => b.ports.reset
  | .rxLos => b.ports.rxLos
  | .txFault => b.ports.txFault
  | .txDisable => b.ports.txDisable
  | .lpMode => b.ports.lpMode
  | .powerOverride => none

/-- Drives a control; the reset is a pulse. -/
def setControl (b : Board) (io : Io) (port : Nat) (control : PortControl) (value : Int32) :
    Access Unit := do
  let line ← .ofExcept (b.portLine port (b.driven control))
  if control = .reset then
    io.writeLine line true
    io.writeLine line false
  else io.writeLine line (value != 0)

/-- Reads a control. -/
def getControl (b : Board) (io : Io) (port : Nat) (control : PortControl) : Access Int32 := do
  let line ← .ofExcept (b.portLine port (b.sensed control))
  match ← io.readLine line with
  | some asserted => pure (if asserted then 1 else 0)
  | none => .fail .missing

/-- Exports lines; a line that cannot be exported is passed over. -/
def exportLines (io : Io) : List Gpio → Access Unit
  | [] => pure ()
  | line :: rest => do
    let _ ← (onTree (line.ensureExported io.root)).attempt
    exportLines io rest

/-- Checks the tables, and asks for a controller if the board may have one. -/
def initSystem (b : Board) (io : Io) : Access Unit :=
  match b.validate with
  | .error _ => .fail .internal
  | .ok () =>
    if b.bmc.isSome then do
      let _ ← (io.hasBmc : Access Bool)
      return ()
    else pure ()

/-- The operations of a board. -/
def operations (b : Board) (io : Io) : Platform Machine where
  system :=
    { name := b.name
      init := b.initSystem io
      header := fun _ => .ok b.chassisHeader
      onie := b.readOnie io
      versions := b.readVersions io }
  thermal :=
    { header := fun id _ => (find .thermal b.thermals id).map (·.header id)
      read := fun id => do (← .ofExcept (find .thermal b.thermals id)).read io id }
  fan :=
    { header := fun id _ => (find .fan b.fans id).map (·.header id)
      read := fun id => do (← .ofExcept (find .fan b.fans id)).read io id
      setDuty := b.setDuty io }
  psu :=
    { header := fun id _ => (find .psu b.psus id).map (·.header id)
      read := fun id => do (← .ofExcept (find .psu b.psus id)).read io id }
  led :=
    { header := fun id _ => (find .led b.leds id).map (·.header id)
      read := fun id => do (← .ofExcept (find .led b.leds id)).read io id
      setMode := b.setLedMode io }
  ports :=
    { init := exportLines io (b.ports.signals.flatMap PortSignal.gpios)
      ports := fun _ => .below b.ports.count
      check := fun port _ => b.checkPortNumber port
      isPresent := b.isPortPresent io
      readPage := fun port => b.readPage io port identificationAddress
      readDiagnostics := fun port => b.readPage io port diagnosticsAddress
      readByte := b.readByte io
      writeByte := b.writeByte io
      setControl := b.setControl io
      getControl := b.getControl io
      afterInsert := fun port => do
        let _ ← b.readPage io port identificationAddress
        return () }

/-- The platform of a board: its operations, the list of all its objects, and its management
passes. -/
def platform (b : Board) (io : Io) : Platform Machine :=
  let ops := b.operations io
  { ops with
    system := { ops.system with oids := ops.ids }
    manageFans :=
      match b.fanPolicy with
      | some policy =>
        ops.fanPass policy Machine.duty fun duty m => { m with duty := some duty }
      | none => Command.unsupported
    manageLeds :=
      match b.ledRoles with
      | some roles => ops.ledPass roles
      | none => Command.unsupported }

end SwitchPlatform.Board
