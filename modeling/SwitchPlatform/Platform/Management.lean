import SwitchPlatform.Platform.Walk

/-!
# Management passes

A pass over the fans reads all sensors and all fans of the chassis, decides a duty by a policy,
and sets it; the fans of power supplies are left to them. A pass over the leds shows the health of
the fans and of each power supply. Both attempt everything and end in the first status.
-/

namespace SwitchPlatform

variable {σ : Type}

/-- Runs every command and ends in the first status that one of them ended in; a fault beyond any
status ends the run at once. -/
def driveAll : List (Command σ Unit) → Command σ Unit
  | [] => pure ()
  | x :: rest => do
    match ← x.attempt with
    | .ok () => driveAll rest
    | .error .quotientOverflow => .fail .quotientOverflow
    | .error (.status e) =>
      match ← (driveAll rest).attempt with
      | .error .quotientOverflow => .fail .quotientOverflow
      | _ => .fail (.status e)

/-- What a look at all sensors and fans found. -/
structure FanScan where
  hottest : Option Int32 := none
  fault : Bool := false
  /-- The fans that could be read. -/
  fans : List FanReading := []

namespace FanScan

/-- A scan with one more reading of a sensor. -/
def addThermal (scan : FanScan) : Except StatusError ThermalReading → FanScan
  | .error _ => scan
  | .ok r =>
    match r.level? with
    | none => scan
    | some _ =>
      let hottest := match scan.hottest with
        | none => r.mcelsius
        | some t => if t ≤ r.mcelsius then r.mcelsius else t
      { scan with hottest := some hottest }

/-- A scan with one more reading of a fan. -/
def addFan (scan : FanScan) : Except StatusError FanReading → FanScan
  | .error _ => { scan with fault := true }
  | .ok r => { scan with fault := scan.fault || !r.isHealthy, fans := scan.fans ++ [r] }

/-- The fans to be set: they are present and take a duty. -/
def settable (scan : FanScan) : List FanReading :=
  scan.fans.filter fun r => r.caps.has FanCaps.setPercentage && r.status.has FanStatus.present

end FanScan

/-- Is an object a fan of the chassis? -/
def TreeEntry.isChassisFan (e : TreeEntry) : Bool :=
  e.header.id.kind == .fan && e.header.parent == .chassis

namespace Platform

/-- Looks at the sensors and the fans of the chassis among the objects of a walk. -/
def scanFans (p : Platform σ) : List TreeEntry → FanScan → Query σ FanScan
  | [], scan => pure scan
  | e :: es, scan => do
    if e.header.id.kind = .thermal then
      p.scanFans es (scan.addThermal (← (p.thermal.read e.header.id).attempt))
    else if e.isChassisFan then
      p.scanFans es (scan.addFan (← (p.fan.read e.header.id).attempt))
    else p.scanFans es scan

/-- One pass over the fans by a policy; `last` and `remember` keep the duty of the last pass in
the state. -/
def fanPass (p : Platform σ) (policy : FanPolicy) (last : σ → Option UInt8)
    (remember : UInt8 → σ → σ) : Command σ FanDecision := do
  let entries ← p.walk
  let scan ← p.scanFans entries {}
  let current ← .view last
  let decision := policy.decide current scan.hottest scan.fault
  .update (remember decision.percentage)
  driveAll (scan.settable.map fun r =>
    p.fan.setPercentage r.header.id (Int32.ofNat decision.percentage.toNat))
  return decision

/-- Are all fans healthy? The first one that is not settles it. -/
def allHealthy (p : Platform σ) : List Oid → Query σ Bool
  | [] => pure true
  | id :: ids => do
    match ← (p.fan.read id).attempt with
    | .ok r => if r.isHealthy then p.allHealthy ids else pure false
    | .error _ => pure false

/-- What the led of a power supply shows. -/
def psuLedMode : Except StatusError PsuReading → LedMode
  | .error _ => .orange
  | .ok r =>
    if r.status.has PsuStatus.present then
      if r.isHealthy then .green else .orange
    else .off

/-- Shows the health of the fans of the chassis on an led. -/
def fanLedCommand (p : Platform σ) (led : Oid) : Query σ (Command σ Unit) := do
  let entries ← p.walk
  let healthy ← p.allHealthy ((entries.filter (·.isChassisFan)).map (·.header.id))
  return p.led.setMode led (if healthy then .green else .orange)

/-- Shows the health of a power supply on an led. -/
def psuLedCommand (p : Platform σ) (psu led : Oid) : Command σ Unit := do
  let outcome ← (p.psu.read psu).attempt
  p.led.setMode led (psuLedMode outcome)

/-- One pass over the leds with roles. -/
def ledPass (p : Platform σ) (roles : LedRoles) : Command σ Unit := do
  let psuCommands := roles.psus.map fun (psu, led) => p.psuLedCommand psu led
  match roles.fan with
  | none => driveAll psuCommands
  | some led => do
    let fanCommand ← p.fanLedCommand led
    driveAll (fanCommand :: psuCommands)

end Platform

end SwitchPlatform
