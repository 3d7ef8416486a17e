import SwitchPlatform.Oid
import SwitchPlatform.Text.Quoted

/-!
# Stored ids

Object ids in stored data: a list of ids is a sequence of their texts, and everything else is
refused by naming what was found in its place.
-/

namespace SwitchPlatform

/-- A piece of stored data. -/
inductive Datum
  | null
  | boolean (b : Bool)
  | integer (i : Int)
  | text (s : String)
  | sequence (items : List Datum)
  | map

/-- Why stored data is no list of ids. -/
inductive DatumError
  | wrongKind (found : Datum) (expected : String)
  | badId (cause : OidError)

namespace Datum

/-- What a piece of data is. -/
def describe : Datum → String
  | null => "null"
  | boolean b => "boolean `" ++ toString b ++ "`"
  | integer i => "integer `" ++ toString i ++ "`"
  | text s => "string " ++ Text.quoted s
  | sequence _ => "sequence"
  | map => "map"

/-- The id that a piece of data stands for. -/
def id : Datum → Except DatumError Oid
  | text s => (Oid.parse s).mapError .badId
  | found => .error (.wrongKind found "a string")

/-- The ids that a piece of data stands for. -/
def ids : Datum → Except DatumError (List Oid)
  | sequence items => items.mapM id
  | found => .error (.wrongKind found "a sequence")

end Datum

/-- The text of a datum error. -/
def DatumError.message : DatumError → String
  | wrongKind found expected => "invalid type: " ++ found.describe ++ ", expected " ++ expected
  | badId cause => cause.message

end SwitchPlatform
