import SwitchPlatform.Gpio
import SwitchPlatform.RangeMap

/-!
# Locators

Where a single value of the hardware lives, and templates for paths that depend on numbers.
-/

namespace SwitchPlatform

/-- A path with slots, each written as a pair of braces. -/
structure PathTemplate where
  text : String
  deriving DecidableEq

namespace PathTemplate

/-- Fills the slots from left to right; slots without a value stay. -/
def fill : List Char → List Nat → List Char
  | '\x7b' :: '\x7d' :: cs, v :: vs => (toString v).toList ++ fill cs vs
  | '\x7b' :: '\x7d' :: cs, [] => '\x7b' :: '\x7d' :: fill cs []
  | c :: cs, vs => c :: fill cs vs
  | [], _ => []

/-- The path for the given numbers. -/
def render (t : PathTemplate) (values : List Nat) : String :=
  String.ofList (fill t.text.toList values)

end PathTemplate

/-- Where a single value lives. -/
inductive Locator
  /-- The attribute at a fixed path. -/
  | file (path : String)
  /-- An attribute in the sensor directory of a device. -/
  | hwmon (device attr : String)
  /-- A GPIO line, read as `0` or `1` after its polarity. -/
  | gpio (line : Gpio)
  /-- A sensor of the management controller; what it reads is multiplied by `scale`. -/
  | bmc (sensor : Nat) (scale : Int32)
  /-- A sensor of the management controller if one is fitted, and `fallback` otherwise. -/
  | bmcOr (sensor : Nat) (scale : Int32) (fallback : Locator)
  deriving DecidableEq

end SwitchPlatform
