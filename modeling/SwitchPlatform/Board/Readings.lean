import SwitchPlatform.Board.Validation
import SwitchPlatform.Io
import SwitchPlatform.Onie.Image

/-!
# Reading a board

The state of the objects of a board, read through its tables. What is missing is never an error:
a flag that is missing is not asserted, text that is missing is empty, and an object that is
missing is reported as not present.
-/

namespace SwitchPlatform

namespace Io

/-- Is a flag asserted? -/
def asserted (io : Io) (signal : Signal) : Access Bool := do
  return (← io.read? signal.locator).any fun raw => (raw != 0) != signal.activeLow

/-- Does a flag read, and read inactive? A flag that the board does not have says nothing. -/
def deasserted (io : Io) (signal : Option Signal) : Access Bool :=
  match signal with
  | none => pure false
  | some s => do
    return (← io.read? s.locator).any fun raw => (raw != 0) == s.activeLow

/-- Text that may be absent or unreadable, and is empty then. -/
def label (io : Io) (locator : Option Locator) : Access String :=
  match locator with
  | none => pure ""
  | some l => do
    match ← (io.readText l).attempt with
    | .ok value => pure value
    | .error _ => pure ""

/-- Reads the flag of a line; none if the line is missing. -/
def readLine (io : Io) : PortLine → Access (Option Bool)
  | .attribute path activeLow =>
    optional do
      let raw ← fromTree (io.root.readInt path)
      return (raw != 0) != activeLow
  | .gpio line => optional (onTree (line.isAsserted io.root))

/-- Drives a line. -/
def writeLine (io : Io) (line : PortLine) (asserted : Bool) : Access Unit :=
  match line with
  | .attribute path activeLow =>
    onTree (io.root.writeInt path (if asserted != activeLow then 1 else 0))
  | .gpio line => onTree (line.setAsserted io.root asserted)

/-- The version texts that can be read; a missing one is left out. -/
def versions (io : Io) : List (String × Locator) → Access (List (String × String))
  | [] => pure []
  | (name, l) :: rest => do
    match ← optional (io.readText l) with
    | some version => return (name, version) :: (← io.versions rest)
    | none => io.versions rest

end Io

namespace ThermalEntry

/-- The header of a sensor. -/
def header (entry : ThermalEntry) (id : Oid) : Header :=
  { id := id, description := entry.description, parent := entry.parent }

/-- The reading of a sensor, from the outcome of reading its temperature. -/
def reading (entry : ThermalEntry) (id : Oid) (outcome : Except StatusError Int32) :
    ThermalReading :=
  let without (status : ThermalStatus) (mcelsius : Int32) : ThermalReading :=
    { header := entry.header id, status := status, caps := entry.caps, mcelsius := mcelsius
      thresholds := entry.thresholds }
  match outcome with
  | .ok mcelsius => without ThermalStatus.present mcelsius
  | .error .missing => without .empty 0
  | .error _ => without (ThermalStatus.present ||| ThermalStatus.failed) 0

/-- Reads a sensor. -/
def read (entry : ThermalEntry) (io : Io) (id : Oid) : Access ThermalReading := do
  return entry.reading id (← (io.read entry.input).attempt)

end ThermalEntry

namespace FanEntry

/-- The header of a fan. -/
def header (entry : FanEntry) (id : Oid) : Header :=
  { id := id, description := entry.description, parent := entry.parent }

/-- The reading of a fan that is not there. -/
def absent (entry : FanEntry) (id : Oid) : FanReading :=
  { header := entry.header id, status := .empty, caps := entry.caps, rpm := 0, percentage := 0
    mode := .off, model := "", serial := "" }

/-- The flags for the direction of the air. -/
def dirStatus (io : Io) : FanDirSource → Access FanStatus
  | .unknown => pure .empty
  | .fixed dir => pure dir.status
  | .attribute locator f2b => do
    match ← io.read? locator with
    | some raw => pure (if raw = f2b then FanStatus.f2b else FanStatus.b2f)
    | none => pure .empty

/-- An integer that the board may not have at all. -/
def readOptional (io : Io) (locator : Option Locator) : Access (Option Int32) :=
  match locator with
  | some l => io.read? l
  | none => pure none

/-- Is the fault flag asserted? -/
def hasFault (io : Io) (signal : Option Signal) : Access Bool :=
  match signal with
  | some s => io.asserted s
  | none => pure false

/-- A duty held within a percentage. -/
def clampPercentage (v : Int) : UInt8 :=
  if v < 0 then 0 else if 100 < v then 100 else UInt8.ofNat v.toNat

/-- The duty that a speed amounts to, of a fan with a known speed at full duty: the quotient
towards zero, held within a percentage. A quotient without a 32-bit value counts as full duty. -/
def derivedPercentage (rpm maxRpm : Int32) : UInt8 :=
  if 0 < maxRpm then
    match Text.int32? ((rpm.toInt * 100).tdiv maxRpm.toInt) with
    | some quotient => clampPercentage quotient.toInt
    | none => 100
  else 0

/-- The duty of a fan: read if it has a locator, else derived from its speed. -/
def percentageOf (entry : FanEntry) (io : Io) (rpm : Int32) : Access UInt8 :=
  match entry.percentage with
  | none => pure (derivedPercentage rpm entry.maxRpm)
  | some l => do
    match ← io.read? l with
    | some raw => pure (clampPercentage raw.toInt)
    | none => pure 0

/-- Reads a fan that is there. -/
def readPresent (entry : FanEntry) (io : Io) (id : Oid) : Access FanReading := do
  let dir ← dirStatus io entry.dir
  let fault ← hasFault io entry.fault
  let rpm ← readOptional io entry.rpm
  let percentage ← entry.percentageOf io (rpm.getD 0)
  let model ← io.label entry.model
  let serial ← io.label entry.serial
  let failed := if fault || rpm == some 0 then FanStatus.failed else .empty
  return { header := entry.header id, status := FanStatus.present ||| dir ||| failed
           caps := entry.caps, rpm := rpm.getD 0, percentage := percentage
           mode := .ofPercentage percentage, model := model, serial := serial }

/-- Is the fan there? One without a presence flag always is. -/
def isPresent (entry : FanEntry) (io : Io) : Access Bool :=
  match entry.present with
  | some s => io.asserted s
  | none => pure true

/-- Reads a fan. -/
def read (entry : FanEntry) (io : Io) (id : Oid) : Access FanReading := do
  if ← entry.isPresent io then entry.readPresent io id else return entry.absent id

end FanEntry

namespace PsuEntry

/-- The header of a power supply. -/
def header (entry : PsuEntry) (id : Oid) : Header :=
  { id := id, description := entry.description, parent := .chassis, children := entry.children }

/-- Reads one electrical value, in thousandths of its attribute's `divisor`; the capability comes
with a value that could be read. -/
def readValue (io : Io) (device attr : String) (cap : PsuCaps) (divisor : Int) :
    Access (Int32 × PsuCaps) := do
  match ← (io.readHwmon device attr).attempt with
  | .ok raw => pure (Int32.ofInt (raw.toInt.tdiv divisor), cap)
  | .error _ => pure (0, .empty)

/-- Adds the electrical values to a reading. -/
def readValues (io : Io) (device : String) (r : PsuReading) : Access PsuReading := do
  let (mvin, vin) ← readValue io device "in1_input" PsuCaps.vin 1
  let (mvout, vout) ← readValue io device "in2_input" PsuCaps.vout 1
  let (miin, iin) ← readValue io device "curr1_input" PsuCaps.iin 1
  let (miout, iout) ← readValue io device "curr2_input" PsuCaps.iout 1
  let (mpin, pin) ← readValue io device "power1_input" PsuCaps.pin 1000
  let (mpout, pout) ← readValue io device "power2_input" PsuCaps.pout 1000
  return { r with
    caps := r.caps ||| (vin ||| vout ||| iin ||| iout ||| pin ||| pout)
    mvin := mvin, mvout := mvout, miin := miin, miout := miout, mpin := mpin, mpout := mpout }

/-- The status of a power supply that is there. -/
def statusOf (unplugged failed : Bool) : PsuStatus :=
  if unplugged then PsuStatus.present ||| PsuStatus.unplugged
  else if failed then PsuStatus.present ||| PsuStatus.failed
  else PsuStatus.present

/-- Reads a power supply that is there; the electrical values only if nothing is wrong. -/
def readPresent (entry : PsuEntry) (io : Io) (id : Oid) : Access PsuReading := do
  let unplugged ← io.deasserted entry.inputGood
  let failed ← io.deasserted entry.powerGood
  let model ← io.label entry.model
  let serial ← io.label entry.serial
  let r : PsuReading :=
    { header := entry.header id, model := model, serial := serial
      status := statusOf unplugged failed, caps := entry.caps }
  match entry.pmbus with
  | none => return r
  | some device => if r.isHealthy then readValues io device r else return r

/-- Reads a power supply. -/
def read (entry : PsuEntry) (io : Io) (id : Oid) : Access PsuReading := do
  if ← io.asserted entry.present then entry.readPresent io id
  else return { header := entry.header id, caps := entry.caps }

end PsuEntry

namespace LedEntry

/-- The header of an led. -/
def header (entry : LedEntry) (id : Oid) : Header :=
  { id := id, description := entry.description, parent := .chassis }

/-- The modes of an led as capabilities. -/
def caps (entry : LedEntry) : LedCaps :=
  .ofModes (entry.modes.map Prod.snd)

/-- The mode that a register value stands for; a value outside of the table is off. -/
def modeOf (entry : LedEntry) (raw : Int32) : LedMode :=
  ((entry.modes.find? fun m => m.1 == raw).map Prod.snd).getD .off

/-- The register value of a mode, the first one in the table. -/
def rawOf? (entry : LedEntry) (mode : LedMode) : Option Int32 :=
  (entry.modes.find? fun m => m.2 == mode).map Prod.fst

/-- The reading of an led, from its register value. -/
def reading (entry : LedEntry) (id : Oid) (raw : Option Int32) : LedReading :=
  match raw with
  | none => { header := entry.header id, status := .empty, caps := entry.caps, mode := .off }
  | some v =>
    let mode := entry.modeOf v
    { header := entry.header id, caps := entry.caps, mode := mode
      status := if mode = .off then LedStatus.present else LedStatus.present ||| LedStatus.on }

/-- Reads an led. -/
def read (entry : LedEntry) (io : Io) (id : Oid) : Access LedReading := do
  return entry.reading id (← io.read? entry.locator)

end LedEntry

end SwitchPlatform
