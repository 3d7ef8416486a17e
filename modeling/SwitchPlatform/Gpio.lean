import SwitchPlatform.Attribute

/-!
# GPIO lines

A line of an I/O expander is known by its number and reached through its `value` attribute, which
appears once the line is exported. A line is asserted when it reads `1`, or `0` for a line that is
active low; using a line that is not exported exports it first.
-/

namespace SwitchPlatform

/-- One GPIO line. -/
structure Gpio where
  number : Nat
  activeLow : Bool
  deriving DecidableEq

namespace Gpio

/-- The directory of the GPIO attributes. -/
def classDir : String := "/sys/class/gpio"

/-- The attribute that exports a line. -/
def exportPath : String := classDir ++ "/export"

/-- The attribute with the level of the line. -/
def valuePath (line : Gpio) : String :=
  classDir ++ "/gpio" ++ toString line.number ++ "/value"

/-- Writes the number of a line to the export attribute. -/
def requestExport (line : Gpio) (root : Root) : Action AttributeError FileTree Unit :=
  match Text.int32? line.number with
  | some n => root.writeInt exportPath n
  | none => .fail (.unreadable classDir (toString line.number))

/-- Exports a line unless it is exported. -/
def ensureExported (line : Gpio) (root : Root) : Action AttributeError FileTree Unit := do
  if ← .view (root.hasEntry line.valuePath) then return ()
  line.requestExport root

/-- What a level says about a line. -/
def levelMeans (line : Gpio) (level : Int32) : Except AttributeError Bool :=
  if level = 0 ∨ level = 1 then .ok ((level == 1) != line.activeLow)
  else .error (.unreadable line.valuePath (toString level.toInt))

/-- Is the line asserted? -/
def isAsserted (line : Gpio) (root : Root) : Action AttributeError FileTree Bool := do
  line.ensureExported root
  let level ← .inspect (root.readInt line.valuePath)
  .ofExcept (line.levelMeans level)

/-- The level that asserts a line or not. -/
def levelFor (line : Gpio) (asserted : Bool) : Int32 :=
  if asserted != line.activeLow then 1 else 0

/-- Asserts a line or not. -/
def setAsserted (line : Gpio) (root : Root) (asserted : Bool) :
    Action AttributeError FileTree Unit := do
  line.ensureExported root
  root.writeInt line.valuePath (line.levelFor asserted)

end Gpio

end SwitchPlatform
