import SwitchPlatform.Board.Platform
import SwitchPlatform.Board.Qs32
import SwitchPlatform.Board.Sf54

/-!
# Known boards

The boards by name, and which of them the program runs on: the configured one, or else the one
that the platform file of the host names on its first line.
-/

namespace SwitchPlatform

/-- Why no board is found. -/
inductive LookupError
  /-- Nothing is configured and the platform file cannot be read. -/
  | noPlatformFile (cause : AttributeError)
  /-- The platform file names nothing. -/
  | empty
  /-- There is no board of that name. -/
  | unknown (name : String)
  deriving DecidableEq

namespace Registry

/-- The file that names the platform of a host. -/
def platformFile : String := "/etc/onl/platform"

end Registry

/-- The text of a lookup error. -/
def LookupError.message : LookupError → String
  | noPlatformFile cause =>
    "no platform configured and " ++ Registry.platformFile ++ " is unreadable: " ++ cause.message
  | empty => Registry.platformFile ++ " is empty"
  | unknown name => "unsupported platform '" ++ name ++ "'"

namespace Registry

/-- Every board, by ascending name. -/
def boards : List Board := [Board.Qs32.board, Board.Sf54.board]

/-- The board of a given name. -/
def find? (name : String) : Option Board :=
  boards.find? (·.name == name)

/-- The name on the first line of a platform file. -/
def firstLine (content : String) : String :=
  Text.trim (String.ofList (content.toList.takeWhile (· != '\n')))

/-- The name of the platform: the configured one as it is, else that of the platform file. -/
def platformName (configured : Option String) (root : Root) (t : FileTree) :
    Except LookupError String :=
  match configured with
  | some name => .ok name
  | none =>
    match root.readText platformFile t with
    | .error e => .error (.noPlatformFile e)
    | .ok content => if firstLine content = "" then .error .empty else .ok (firstLine content)

/-- The board of the platform. -/
def detect (configured : Option String) (root : Root) (t : FileTree) : Except LookupError Board :=
  match platformName configured root t with
  | .error e => .error e
  | .ok name =>
    match find? name with
    | some board => .ok board
    | none => .error (.unknown name)

end Registry

end SwitchPlatform
