/-!
# Status of hardware operations

The causes for which an operation on the switch hardware fails, their numeric codes and their
texts. Code `0` is success, every other code that is not negative reads as success too, and a
negative code without a cause of its own reads as a generic failure.
-/

namespace SwitchPlatform

/-- Why an operation failed. -/
inductive StatusError
  /-- Nothing more is known. -/
  | generic
  /-- The hardware has no such operation. -/
  | unsupported
  /-- The object is not there. -/
  | missing
  /-- A value read from the hardware cannot be interpreted. -/
  | invalid
  /-- An access failed for a reason of the host. -/
  | internal
  /-- A parameter is out of range. -/
  | param
  /-- A bus transaction failed. -/
  | i2c
  deriving DecidableEq, Repr

namespace StatusError

/-- Every cause. -/
def all : List StatusError :=
  [generic, unsupported, missing, invalid, internal, param, i2c]

/-- The numeric code of a cause. -/
def code : StatusError → Int
  | generic => -1
  | unsupported => -10
  | missing => -11
  | invalid => -12
  | internal => -13
  | param => -14
  | i2c => -15

/-- The cause with code `c`. -/
def ofCode? (c : Int) : Option StatusError :=
  all.find? (·.code == c)

/-- The text of a cause. -/
def message : StatusError → String
  | generic => "generic failure"
  | unsupported => "unsupported"
  | missing => "missing"
  | invalid => "invalid"
  | internal => "internal error"
  | param => "invalid parameter"
  | i2c => "i2c error"

theorem ofCode?_code (e : StatusError) : ofCode? e.code = some e := by
  cases e <;> decide

end StatusError

/-- The numeric code of an outcome; success is `0`. -/
def statusCode {α : Type} : Except StatusError α → Int
  | .ok _ => 0
  | .error e => e.code

/-- The text of a numeric code. -/
def statusText (c : Int) : String :=
  if 0 ≤ c then "ok"
  else ((StatusError.ofCode? c).getD .generic).message

end SwitchPlatform
