import SwitchPlatform.Attribute

/-!
# Sensor directories

The sensors of a device are attributes in a directory `hwmonN` below the device, whose number
depends on the order in which drivers started. The directory with the least number is used, and
among equal numbers the one whose name comes first.
-/

namespace SwitchPlatform.Hwmon

/-- What the name of a sensor directory starts with. -/
def stem : String := "hwmon"

/-- The rest of a character list after a given beginning. -/
def stripBeginning? : List Char → List Char → Option (List Char)
  | [], cs => some cs
  | _ :: _, [] => none
  | p :: ps, c :: cs => if p = c then stripBeginning? ps cs else none

/-- The number in the name of a sensor directory. -/
def index? (name : String) : Option Nat :=
  (stripBeginning? stem.toList name.toList).bind (Text.word? 10)

/-- Does the first numbered name win over the second one? -/
def precedes (a b : Nat × String) : Bool :=
  a.1 < b.1 || (a.1 == b.1 && decide (a.2 ≤ b.2))

/-- The winner among numbered names. -/
def least? : List (Nat × String) → Option (Nat × String)
  | [] => none
  | a :: rest =>
    match least? rest with
    | none => some a
    | some b => if precedes a b then some a else some b

/-- The name of the sensor directory among the entries of a directory. -/
def choose? (entries : List String) : Option String :=
  (least? (entries.filterMap fun n => (index? n).map fun i => (i, n))).map Prod.snd

/-- The sensor directory of a device. -/
def dir (root : Root) (device : String) (t : FileTree) : Except AttributeError String :=
  let parent := Path.join device stem
  match root.list parent t with
  | .error e => .error e
  | .ok entries =>
    match choose? entries with
    | some name => .ok (Path.join parent name)
    | none => .error (.notFound parent)

/-- The platform path of a sensor attribute of a device. -/
def attributePath (root : Root) (device attr : String) (t : FileTree) :
    Except AttributeError String :=
  (dir root device t).map fun d => Path.join d attr

end SwitchPlatform.Hwmon
