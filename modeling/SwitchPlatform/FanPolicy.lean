import SwitchPlatform.Oid
import SwitchPlatform.Text.Numeral

/-!
# Fan policies

A table of temperatures and the duties that fans keep from there on. When the temperature falls,
the duty drops only once it is a hysteresis below the step, and never below what the table asks
for at the temperature itself.
-/

namespace SwitchPlatform

/-- From `mcelsius` on, fans run at `percentage` or more. -/
structure FanStep where
  mcelsius : Int32
  percentage : UInt8
  deriving DecidableEq

/-- A table of steps and what goes with it. -/
structure FanPolicy where
  steps : List FanStep
  /-- How far the temperature falls below a step before the duty drops. -/
  hysteresis : Int32
  /-- The duty when a fan is absent or failed, or no sensor is readable. -/
  failsafe : UInt8
  /-- The duty below all steps. -/
  floor : UInt8
  deriving DecidableEq

namespace FanPolicy

/-- The larger one of two duties. -/
def larger (a b : UInt8) : UInt8 :=
  if a ≤ b then b else a

/-- The smaller one of two duties. -/
def smaller (a b : UInt8) : UInt8 :=
  if a ≤ b then a else b

/-- The sum of two temperatures, held at the ends of the 32-bit range. -/
def saturatingAdd (a b : Int32) : Int32 :=
  Int32.ofIntClamp (a.toInt + b.toInt)

/-- The duty of a temperature by the table alone. -/
def duty (p : FanPolicy) (mcelsius : Int32) : UInt8 :=
  (p.steps.filter fun step => step.mcelsius ≤ mcelsius).foldl
    (fun d step => larger d step.percentage) p.floor

/-- The duty of a temperature when the fans run at `current`. -/
def nextDuty (p : FanPolicy) (current : Option UInt8) (mcelsius : Int32) : UInt8 :=
  match current with
  | none => p.duty mcelsius
  | some c =>
    if p.duty mcelsius < c then smaller c (p.duty (saturatingAdd mcelsius p.hysteresis))
    else p.duty mcelsius

end FanPolicy

/-- What a pass over the fans decided. -/
structure FanDecision where
  /-- The highest temperature of a readable sensor. -/
  hottest : Option Int32
  percentage : UInt8
  failsafe : Bool
  deriving DecidableEq

/-- A decision in one line. -/
def FanDecision.text (d : FanDecision) : String :=
  (match d.hottest with
    | some t => "hottest sensor " ++ Text.milli t ++ " C"
    | none => "no readable sensor") ++
  ", fans at " ++ toString d.percentage.toNat ++ "%" ++
  if d.failsafe then " (failsafe)" else ""

/-- Decides a pass: the failsafe duty unless all fans are healthy and a sensor is readable. -/
def FanPolicy.decide (p : FanPolicy) (current : Option UInt8) (hottest : Option Int32)
    (fault : Bool) : FanDecision :=
  match hottest with
  | some t =>
    if fault then ⟨hottest, p.failsafe, true⟩ else ⟨hottest, p.nextDuty current t, false⟩
  | none => ⟨none, p.failsafe, true⟩

/-- Which leds show whose health. -/
structure LedRoles where
  /-- The led for all fans of the chassis. -/
  fan : Option Oid
  /-- Power supplies, each with its led. -/
  psus : List (Oid × Oid)
  deriving DecidableEq

end SwitchPlatform
