import SwitchPlatform.Platform.Management
import SwitchPlatform.Text.HexDump

/-!
# Reports

What the tool prints about a platform: the tree of objects, one object, the ports, a page of a
module, the system EEPROM, and the outcome of a management pass.
-/

namespace SwitchPlatform.Report

variable {σ : Type}

/-- Two blanks per level. -/
def indent (depth : Nat) : String :=
  String.ofList (List.replicate (2 * depth) ' ')

/-- The line of an object whose state was asked for. -/
def treeLine (e : TreeEntry) (outcome : Except StatusError ObjectReading) : String :=
  indent e.depth ++
    (match outcome with
      | .ok r => r.text
      | .error err => e.header.text ++ ": " ++ err.message) ++ "\n"

/-- The lines of some entries of the tree. -/
def treeLines (p : Platform σ) : List TreeEntry → Query σ (List String)
  | [] => pure []
  | e :: es => do
    let outcome ← (p.read e.header.id).attempt
    return treeLine e outcome :: (← treeLines p es)

/-- All objects, one per line, each indented below its parent. -/
def tree (p : Platform σ) : Query σ String := do
  return String.join (← treeLines p (← p.walk))

/-- The controls shown with a module. -/
def shownControls : List PortControl := [.resetState, .lpMode, .txDisable, .rxLos]

/-- The lines of the controls that a port has. -/
def controlLines (p : Platform σ) (port : Nat) : List PortControl → Query σ (List String)
  | [] => pure []
  | c :: cs => do
    match ← (p.ports.getControl port c).attempt with
    | .ok v => return ("  " ++ c.name ++ ": " ++ toString v.toInt ++ "\n") ::
        (← controlLines p port cs)
    | .error _ => controlLines p port cs

/-- One object with its relations and, for a module, its controls. -/
def object (p : Platform σ) (id : Oid) : Query σ String := do
  let r ← p.read id
  let h := r.header
  let relations :=
    (if h.parent = id then "" else "  parent: " ++ h.parent.text ++ "\n") ++
    (if h.children.isEmpty then ""
      else "  children: " ++ ", ".intercalate (h.children.map Oid.text) ++ "\n")
  let controls ←
    if id.kind = .module then do
      let port ← .ofExcept (modulePort id)
      controlLines p port shownControls
    else pure []
  return r.text ++ "\n" ++ relations ++ String.join controls

/-- The lines of the plugged ports. -/
def portLines (p : Platform σ) : List Nat → Query σ (List String)
  | [] => pure []
  | port :: rest => do
    let id ← .ofExcept ((Oid.make .module (port + 1)).mapError fun _ => .param)
    let state := match ← p.read id with
      | .module _ _ (some kind) => kind.name
      | _ => "unreadable"
    return ("port " ++ toString port ++ ": " ++ state ++ "\n") :: (← portLines p rest)

/-- The sets of ports, and then the kind of each plugged module. -/
def ports (p : Platform σ) : Query σ String := do
  let present ← p.ports.present
  let all ← .view p.ports.ports
  let los ← p.ports.rxLos
  let lines ← portLines p present.ports
  return "ports:   " ++ all.text ++ "\n" ++ "present: " ++ present.text ++ "\n" ++
    "rx-los:  " ++ los.text ++ "\n" ++ String.join lines

/-- A page of a module. -/
def page (p : Platform σ) (port : Nat) (diagnostics : Bool) : Query σ String := do
  let bytes ← if diagnostics then p.ports.readDiagnostics port else p.ports.readPage port
  return Text.HexDump.text bytes

/-- The system EEPROM and the versions of the components. -/
def system (p : Platform σ) : Query σ String := do
  let eeprom := match ← p.system.onie.attempt with
    | .ok info => info.text
    | .error e => "ONIE EEPROM: " ++ e.message
  let versions ← p.system.versions
  return "platform: " ++ p.name ++ "\n" ++ eeprom ++ "\n" ++ versions.text ++ "\n"

/-- The line of a management pass, unless it failed. A board without such a pass says so. -/
def passLine {α : Type} (label : String) (text : α → String) (outcome : Except Fault α) :
    Except Fault String :=
  match outcome with
  | .ok a => .ok (label ++ ": " ++ text a ++ "\n")
  | .error (.status .unsupported) => .ok (label ++ ": not managed on this platform\n")
  | .error e => .error e

/-- One management pass over fans and leds. -/
def manage (p : Platform σ) : Command σ String := do
  let fans ← .ofExcept (passLine "fans" FanDecision.text (← p.manageFans.attempt))
  let leds ← .ofExcept (passLine "leds" (fun _ => "updated") (← p.manageLeds.attempt))
  return fans ++ leds

end SwitchPlatform.Report
