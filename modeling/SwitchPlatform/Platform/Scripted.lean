import SwitchPlatform.Platform.Management

/-!
# Scripted platforms

Platforms without hardware: what every object reports is laid down in plain values, any operation
can be told to fail, and each command is noted before it takes effect. They show what the passes
and reports do with a platform whatever its board is. `Script.platform` follows a script, and
`barePlatform` has nothing but what every platform must have.
-/

namespace SwitchPlatform

/-- The values that an object reports, whatever its kind; each kind uses its own part of them. -/
structure ObjectState where
  description : String := ""
  parent : Oid := .chassis
  children : List Oid := []
  status : UInt32 := 0
  caps : UInt32 := 0
  mcelsius : Int32 := 0
  thresholds : Thresholds := ⟨0, 0, 0⟩
  rpm : Int32 := 0
  percentage : UInt8 := 0
  /-- The band of a fan, that of its duty if none is given. -/
  fanMode : Option FanMode := none
  ledMode : LedMode := .off
  model : String := ""
  serial : String := ""
  mvin : Int32 := 0
  mvout : Int32 := 0
  miin : Int32 := 0
  miout : Int32 := 0
  mpin : Int32 := 0
  mpout : Int32 := 0
  /-- What asking for the header ends in. -/
  headerError : Option StatusError := none
  /-- What reading ends in. -/
  readError : Option StatusError := none
  /-- What a command ends in. -/
  driveError : Option StatusError := none

namespace ObjectState

/-- The header of an object. -/
def header (o : ObjectState) (id : Oid) : Header :=
  ⟨id, o.description, o.parent, o.children⟩

/-- The object as a thermal sensor. -/
def thermal (o : ObjectState) (id : Oid) : ThermalReading :=
  { header := o.header id, status := ⟨o.status⟩, caps := ⟨o.caps⟩, mcelsius := o.mcelsius
    thresholds := o.thresholds }

/-- The object as a fan. -/
def fan (o : ObjectState) (id : Oid) : FanReading :=
  { header := o.header id, status := ⟨o.status⟩, caps := ⟨o.caps⟩, rpm := o.rpm
    percentage := o.percentage, mode := o.fanMode.getD (.ofPercentage o.percentage)
    model := o.model, serial := o.serial }

/-- The object as a power supply. -/
def psu (o : ObjectState) (id : Oid) : PsuReading :=
  { header := o.header id, model := o.model, serial := o.serial, status := ⟨o.status⟩
    caps := ⟨o.caps⟩, mvin := o.mvin, mvout := o.mvout, miin := o.miin, miout := o.miout
    mpin := o.mpin, mpout := o.mpout }

/-- The object as an led. -/
def led (o : ObjectState) (id : Oid) : LedReading :=
  { header := o.header id, status := ⟨o.status⟩, caps := ⟨o.caps⟩, mode := o.ledMode }

end ObjectState

/-- The parts of a platform that are initialized. -/
inductive PlatformPart
  | system
  | thermal
  | fan
  | psu
  | led
  | ports
  deriving DecidableEq, Repr

/-- A command to a scripted platform. -/
inductive ScriptedCall
  | init (part : PlatformPart)
  | duty (fan : Oid) (percentage : UInt8)
  | mode (led : Oid) (mode : LedMode)
  deriving DecidableEq

/-- What changes while a scripted platform runs. -/
structure Stage where
  objects : List (Oid × ObjectState) := []
  /-- The commands so far. -/
  calls : List ScriptedCall := []
  /-- The duty of the last pass over the fans. -/
  duty : Option UInt8 := none

namespace Stage

/-- The values of an object; one that is not listed is refused as a parameter. -/
def object (id : Oid) (s : Stage) : Except StatusError ObjectState :=
  match s.objects.lookup id with
  | some o => .ok o
  | none => .error .param

/-- Ends as `r` unless the object is to fail. -/
def unlessFailing {α : Type} (failure : Option StatusError) (r : α) : Except StatusError α :=
  match failure with
  | some e => .error e
  | none => .ok r

/-- The header of an object. -/
def header (id : Oid) (s : Stage) : Except StatusError Header := do
  let o ← s.object id
  unlessFailing o.headerError (o.header id)

/-- Reads an object in the form of one kind. -/
def read {α : Type} (form : ObjectState → Oid → α) (id : Oid) : Query Stage α :=
  .inspect fun s => do
    let o ← s.object id
    unlessFailing o.readError (form o id)

/-- Replaces the values of an object, or adds it. -/
def putObject (id : Oid) (o : ObjectState) (s : Stage) : Stage :=
  if s.objects.any (·.1 == id) then
    { s with objects := s.objects.map fun e => if e.1 = id then (id, o) else e }
  else { s with objects := s.objects ++ [(id, o)] }

/-- Notes a command. -/
def note {ε : Type} (call : ScriptedCall) : Action ε Stage Unit :=
  .update fun s => { s with calls := s.calls ++ [call] }

/-- Notes a command to an object, and changes its values unless it is to fail. -/
def drive (call : ScriptedCall) (id : Oid) (change : ObjectState → ObjectState) :
    Query Stage Unit := do
  note call
  let o ← .inspect (object id)
  .ofExcept (unlessFailing o.driveError ())
  .update (putObject id (change o))

end Stage

/-- What is laid down about a platform beside its objects. -/
structure Script where
  /-- The parts whose initialization fails. -/
  initErrors : List (PlatformPart × StatusError) := []
  ports : PortSet := .empty
  /-- The ports with an answer of their own to whether a module is plugged; all others are
  empty. -/
  present : List (Nat × Except StatusError Bool) := []
  pages : List (Nat × List UInt8) := []
  controls : List ((Nat × PortControl) × Except StatusError Int32) := []
  onie : Except StatusError Onie.Info := .ok {}
  versions : Except StatusError Versions := .ok {}

namespace Script

/-- Refuses a port that is not in a set. -/
def checkPort (ports : PortSet) (port : Nat) : Except StatusError Unit :=
  if ports.contains port then .ok () else .error .param

/-- Initializes a part. -/
def init (script : Script) (part : PlatformPart) : Query Stage Unit := do
  Stage.note (.init part)
  match script.initErrors.lookup part with
  | some e => .fail e
  | none => pure ()

/-- Is there a module in a port? -/
def isPresent (script : Script) (port : Nat) : Except StatusError Bool := do
  checkPort script.ports port
  (script.present.lookup port).getD (.ok false)

/-- The identification page of a module. -/
def page (script : Script) (port : Nat) : Except StatusError (List UInt8) := do
  if ← script.isPresent port then
    match script.pages.lookup port with
    | some page => .ok page
    | none => .error .i2c
  else .error .missing

/-- The value of a control. -/
def control (script : Script) (port : Nat) (control : PortControl) : Except StatusError Int32 := do
  checkPort script.ports port
  (script.controls.lookup (port, control)).getD (.error .unsupported)

/-- The platform that follows a script. -/
def platform (script : Script) : Platform Stage where
  system :=
    { name := "mock-board"
      init := script.init .system
      header := Stage.header .chassis
      onie := .ofExcept script.onie
      versions := .ofExcept script.versions }
  thermal :=
    { init := script.init .thermal, header := Stage.header, read := Stage.read ObjectState.thermal }
  fan :=
    { init := script.init .fan, header := Stage.header, read := Stage.read ObjectState.fan
      setDuty := fun id percentage =>
        (Stage.drive (.duty id percentage) id fun o => { o with percentage := percentage } :
          Query Stage Unit) }
  psu := { init := script.init .psu, header := Stage.header, read := Stage.read ObjectState.psu }
  led :=
    { init := script.init .led, header := Stage.header, read := Stage.read ObjectState.led
      setMode := fun id mode =>
        (Stage.drive (.mode id mode) id fun o => { o with ledMode := mode } :
          Query Stage Unit) }
  ports :=
    { init := script.init .ports
      ports := fun _ => script.ports
      isPresent := fun port => .ofExcept (script.isPresent port)
      readPage := fun port => .ofExcept (script.page port)
      getControl := fun port control => .ofExcept (script.control port control) }

end Script

/-- The header of every object of the bare platform. -/
def bareHeader (id : Oid) : Header :=
  ⟨id, "Bare", .chassis, []⟩

/-- The ports of the bare platform. -/
def barePorts : PortSet := .ofList [2, 3, 4]

/-- A platform that can do only what every platform must. Of its three ports the middle one is
empty, and nothing can be read. -/
def barePlatform : Platform Stage where
  system :=
    { name := "bare"
      header := fun _ =>
        .ok { bareHeader .chassis with children := (Oid.make .fan 1).toOption.toList }
      onie := Query.unsupported
      versions := pure {} }
  thermal := { header := fun id _ => .ok (bareHeader id), read := fun _ => .fail .i2c }
  fan := { header := fun id _ => .ok (bareHeader id), read := fun _ => .fail .i2c }
  psu := { header := fun id _ => .ok (bareHeader id), read := fun _ => .fail .i2c }
  led := { header := fun id _ => .ok (bareHeader id), read := fun _ => .fail .i2c }
  ports :=
    { ports := fun _ => barePorts
      isPresent := fun port => do
        .ofExcept (Script.checkPort barePorts port)
        return port != 3
      readPage := fun port => do
        .ofExcept (Script.checkPort barePorts port)
        .fail .i2c }

end SwitchPlatform
