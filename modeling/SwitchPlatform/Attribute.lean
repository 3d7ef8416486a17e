import SwitchPlatform.FileTree.Access
import SwitchPlatform.Status
import SwitchPlatform.Text.Numeral
import SwitchPlatform.Text.Quoted

/-!
# Attribute files

Hardware is reached through small files, one per attribute. Their platform paths are looked up
below a root directory: `Root.resolve` keeps only the names of a platform path, so no path leaves
the root. An absent file is a cause of its own, since it means that the hardware is not there.
-/

namespace SwitchPlatform

/-- Why an attribute cannot be used; `path` is the platform path. -/
inductive AttributeError
  /-- There is no such attribute, or no device behind it. -/
  | notFound (path : String)
  /-- The host refused the access. -/
  | io (path : String) (cause : HostError)
  /-- The content cannot be interpreted. -/
  | unreadable (path : String) (content : String)
  deriving DecidableEq

namespace AttributeError

/-- The error for an access that the host refused. -/
def ofHost (path : String) : HostError → AttributeError
  | .noEntry => notFound path
  | e => io path e

/-- The text of an attribute error. -/
def message : AttributeError → String
  | notFound path => Text.quoted path ++ " not found"
  | io path cause => "i/o error on " ++ Text.quoted path ++ ": " ++ cause.message
  | unreadable path content =>
    "unable to parse " ++ Text.quoted content ++ " read from " ++ Text.quoted path

/-- The status that an attribute error amounts to. -/
def status : AttributeError → StatusError
  | notFound _ => .missing
  | io _ _ => .internal
  | unreadable _ _ => .invalid

/-- Does the error only say that nothing is there? -/
def isAbsence : AttributeError → Bool
  | notFound _ => true
  | _ => false

end AttributeError

/-- The directory that platform paths are looked up in. -/
structure Root where
  top : String
  deriving DecidableEq

namespace Root

/-- The host's path of a platform path: the root, and then the names of the path. -/
def resolve (root : Root) (path : String) : String :=
  match Path.names path with
  | [] => root.top
  | names => Path.join root.top ("/".intercalate names)

/-- Is there an entry at a platform path? -/
def hasEntry (root : Root) (path : String) (t : FileTree) : Bool :=
  t.hasEntry (root.resolve path)

/-- The content of an attribute without the blanks around it; bytes that are no text show as
U+FFFD. -/
def readText (root : Root) (path : String) (t : FileTree) : Except AttributeError String :=
  match t.readAll (root.resolve path) with
  | .ok bs => .ok (Text.trim (Text.Utf8.decodeLossy bs))
  | .error e => .error (.ofHost path e)

/-- The content of an attribute as an integer. -/
def readInt (root : Root) (path : String) (t : FileTree) : Except AttributeError Int32 :=
  match root.readText path t with
  | .error e => .error e
  | .ok content =>
    match Text.attributeInt? content with
    | some v => .ok v
    | none => .error (.unreadable path content)

/-- `len` bytes of an attribute from `offset` on. -/
def readBytes (root : Root) (path : String) (offset len : Nat) (t : FileTree) :
    Except AttributeError (List UInt8) :=
  (t.readWindow (root.resolve path) offset len).mapError (.ofHost path)

/-- Writes bytes into an attribute from `offset` on. -/
def writeBytes (root : Root) (path : String) (offset : Nat) (data : List UInt8) :
    Action AttributeError FileTree Unit :=
  (FileTree.writeBytes (root.resolve path) offset data).mapError (.ofHost path)

/-- Replaces the content of an attribute. -/
def writeText (root : Root) (path content : String) : Action AttributeError FileTree Unit :=
  (FileTree.writeText (root.resolve path) content).mapError (.ofHost path)

/-- Replaces the content of an attribute by a decimal integer. -/
def writeInt (root : Root) (path : String) (value : Int32) : Action AttributeError FileTree Unit :=
  root.writeText path (toString value.toInt)

/-- The names in a platform directory, in ascending order. -/
def list (root : Root) (path : String) (t : FileTree) : Except AttributeError (List String) :=
  (t.list (root.resolve path)).mapError (.ofHost path)

end Root

end SwitchPlatform
