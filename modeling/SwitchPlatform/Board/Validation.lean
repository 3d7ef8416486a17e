import SwitchPlatform.Board.Table

/-!
# Validation of board tables

The tables of a board refer to each other: sensors and fans name a parent, power supplies name
their children, roles name leds and supplies. `Board.validate` checks the references, the values
of leds, the wiring of the ports and the fan policy, and ends in the first inconsistency.
-/

namespace SwitchPlatform

/-- An inconsistency of a board's tables. -/
inductive BoardError
  | unknownParent (id parent : Oid)
  | childMismatch (psu child : Oid)
  | orphan (id : Oid)
  | noLedModes (id : Oid)
  | duplicateLedValue (id : Oid) (raw : Int32)
  | portUncovered (port : Nat) (what : String)
  | missingRole (role : String) (id : Oid)
  | policyOrder
  | policyDuty
  deriving DecidableEq

/-- The text of an inconsistency. -/
def BoardError.message : BoardError → String
  | unknownParent id parent => id.text ++ " has unknown parent " ++ parent.text
  | childMismatch psu child =>
    psu.text ++ " lists " ++ child.text ++ " which is not parented by it"
  | orphan id => id.text ++ " is attached to no PSU although parented by one"
  | noLedModes id => id.text ++ " has no modes"
  | duplicateLedValue id raw => id.text ++ " maps raw value " ++ toString raw.toInt ++ " twice"
  | portUncovered port what => "port " ++ toString port ++ " has no " ++ what
  | missingRole role id => role ++ " refers to missing " ++ id.text
  | policyOrder => "fan policy steps are not ascending"
  | policyDuty => "fan policy duty above 100%"

/-- The first failure of a check along a list. -/
def checkAll {ε α : Type} (check : α → Except ε Unit) : List α → Except ε Unit
  | [] => .ok ()
  | a :: as =>
    match check a with
    | .ok () => checkAll check as
    | .error e => .error e

/-- The first failure of a check along the numbers from `start` on. -/
def checkCount {ε : Type} (check : Nat → Except ε Unit) : Nat → Nat → Except ε Unit
  | _, 0 => .ok ()
  | start, n + 1 =>
    match check start with
    | .ok () => checkCount check (start + 1) n
    | .error e => .error e

namespace Board

/-- Is an id that of the chassis or of an entry of the tables? -/
def holds (b : Board) (id : Oid) : Bool :=
  match id.kind with
  | .sys => id = .chassis
  | .thermal => id.index ≤ b.thermals.length
  | .fan => id.index ≤ b.fans.length
  | .psu => id.index ≤ b.psus.length
  | .led => id.index ≤ b.leds.length
  | .module => id.index ≤ b.ports.count
  | .rtc => false

/-- Checks the parent of a sensor or a fan: the chassis, or a power supply that lists it. -/
def checkParent (b : Board) (id parent : Oid) : Except BoardError Unit :=
  if parent = .chassis then .ok ()
  else
    match lookup? .psu b.psus parent with
    | none => .error (.unknownParent id parent)
    | some psu => if id ∈ psu.children then .ok () else .error (.orphan id)

/-- The parent of a sensor or a fan in the tables. -/
def parent? (b : Board) (id : Oid) : Option Oid :=
  match id.kind with
  | .thermal => (lookup? .thermal b.thermals id).map ThermalEntry.parent
  | .fan => (lookup? .fan b.fans id).map FanEntry.parent
  | _ => none

/-- Checks the parents of all sensors. -/
def checkThermals (b : Board) : Except BoardError Unit :=
  checkAll (fun entry => b.checkParent (oid .thermal entry.2) entry.1.parent) b.thermals.zipIdx

/-- Checks the parents of all fans. -/
def checkFans (b : Board) : Except BoardError Unit :=
  checkAll (fun entry => b.checkParent (oid .fan entry.2) entry.1.parent) b.fans.zipIdx

/-- Checks that the children of a power supply name it as their parent. -/
def checkChildren (b : Board) (entry : PsuEntry × Nat) : Except BoardError Unit :=
  let id := oid .psu entry.2
  checkAll
    (fun child =>
      if b.parent? child = some id then .ok () else .error (.childMismatch id child))
    entry.1.children

/-- The first value that occurs again, after those of `seen`. -/
def repeated? (seen : List Int32) : List Int32 → Option Int32
  | [] => none
  | v :: vs => if seen.contains v then some v else repeated? (v :: seen) vs

/-- Checks that an led has modes, each of a value of its own. -/
def checkLed (entry : LedEntry × Nat) : Except BoardError Unit :=
  let id := oid .led entry.2
  if entry.1.modes.isEmpty then .error (.noLedModes id)
  else
    match repeated? [] (entry.1.modes.map Prod.fst) with
    | some raw => .error (.duplicateLedValue id raw)
    | none => .ok ()

/-- Checks that a port has a presence flag and a bus. -/
def checkPort (b : Board) (port : Nat) : Except BoardError Unit :=
  if !b.ports.present.covers port then .error (.portUncovered port "presence signal")
  else if !b.ports.eepromBus.covers port then .error (.portUncovered port "EEPROM bus")
  else .ok ()

/-- Checks that roles name objects of the board. -/
def checkRoles (b : Board) (roles : LedRoles) : Except BoardError Unit := do
  checkAll (fun led => if b.holds led then .ok () else .error (.missingRole "LED" led))
    (roles.fan.toList ++ roles.psus.map Prod.snd)
  checkAll (fun psu => if b.holds psu then .ok () else .error (.missingRole "PSU" psu))
    (roles.psus.map Prod.fst)

/-- Do the temperatures of the steps ascend? -/
def ascending : List FanStep → Bool
  | a :: b :: rest => a.mcelsius < b.mcelsius && ascending (b :: rest)
  | _ => true

/-- Checks the order and the duties of a fan policy. -/
def checkPolicy (p : FanPolicy) : Except BoardError Unit :=
  if !ascending p.steps then .error .policyOrder
  else if (p.steps.map FanStep.percentage ++ [p.failsafe, p.floor]).any (100 < ·) then
    .error .policyDuty
  else .ok ()

/-- Checks the tables of a board and ends in the first inconsistency. -/
def validate (b : Board) : Except BoardError Unit := do
  b.checkThermals
  b.checkFans
  checkAll b.checkChildren b.psus.zipIdx
  checkAll checkLed b.leds.zipIdx
  checkCount b.checkPort 0 b.ports.count
  checkAll b.checkRoles b.ledRoles.toList
  checkAll checkPolicy b.fanPolicy.toList

end Board

end SwitchPlatform
