import SwitchPlatform.Bmc
import SwitchPlatform.Yaml.Document

/-!
# Configuration

What the tool is configured with: the platform, the root below which hardware is looked up, how
the management controller is found, and the log settings. A configuration file is a flat YAML
mapping in which every key is optional; values of the command line replace those of the file.
-/

namespace SwitchPlatform

/-- A configuration. -/
structure Config where
  /-- The name of the board, detected if there is none. -/
  platform : Option String := none
  /-- The directory below which platform paths are looked up. -/
  root : String := "/"
  bmc : Bmc.Mode := .auto
  /-- Log settings. -/
  tracing : Option String := none
  deriving DecidableEq

/-- Why there is no valid configuration. -/
inductive ConfigError
  | unreadable (path : String) (cause : HostError)
  /-- The file is no flat mapping of the known keys to values of their kinds. -/
  | malformed
  | relativeRoot (root : String)
  | noSuchRoot (root : String)
  | emptyPlatform
  deriving DecidableEq

/-- The text of a configuration error. -/
def ConfigError.message : ConfigError → String
  | unreadable path cause =>
    "unable to read configuration file " ++ Text.quoted path ++ ": " ++ cause.message
  | malformed => "malformed configuration"
  | relativeRoot root => "sysfs root must be an absolute path: " ++ Text.quoted root
  | noSuchRoot root => "sysfs root " ++ Text.quoted root ++ " is not a directory"
  | emptyPlatform => "platform name must not be empty"

namespace Config

/-- The file that is used if none is given and this one exists. -/
def defaultFile : String := "/etc/onlp/onlp.yaml"

/-- The configuration with the value of one key. -/
def set? (c : Config) (key : String) (value : Yaml.Scalar) : Option Config :=
  if key = "platform" then value.optionalText?.map fun v => { c with platform := v }
  else if key = "root" then some { c with root := value.text }
  else if key = "bmc" then
    (value.choice?.bind Bmc.Mode.ofName?).map fun v => { c with bmc := v }
  else if key = "tracing" then value.optionalText?.map fun v => { c with tracing := v }
  else none

/-- The configuration with the values of all entries; no key may occur twice. -/
def setAll? (c : Config) (seen : List String) : List (Yaml.Scalar × Yaml.Scalar) → Option Config
  | [] => some c
  | (key, value) :: rest =>
    if seen.contains key.text then none
    else (c.set? key.text value).bind fun c => setAll? c (key.text :: seen) rest

/-- The configuration of a YAML text. -/
def ofYaml (text : String) : Except ConfigError Config :=
  match (Yaml.document? text).bind (setAll? {} []) with
  | some c => .ok c
  | none => .error .malformed

/-- The configuration of a file of the host. -/
def load (path : String) (start : FileTree.Location) (t : FileTree) : Except ConfigError Config :=
  match t.readAll path start with
  | .error e => .error (.unreadable path e)
  | .ok bytes =>
    match Text.Utf8.decode? bytes with
    | none => .error (.unreadable path .notText)
    | some text => ofYaml text

/-- The configuration of the given file, or of the default file if there is one. -/
def loadOrDefault (path : Option String) (start : FileTree.Location) (t : FileTree) :
    Except ConfigError Config :=
  match path with
  | some path => load path start t
  | none => if t.hasEntry defaultFile then load defaultFile start t else .ok {}

/-- The configuration with the given values in place of its own. -/
def override (c : Config) (platform root : Option String) (bmc : Option Bmc.Mode)
    (tracing : Option String) : Config :=
  { platform := platform <|> c.platform, root := root.getD c.root, bmc := bmc.getD c.bmc
    tracing := tracing <|> c.tracing }

/-- Checks what can be checked without any hardware. -/
def validate (c : Config) (start : FileTree.Location) (t : FileTree) : Except ConfigError Unit :=
  if !Path.isAbsolute c.root then .error (.relativeRoot c.root)
  else if !t.hasDir c.root start then .error (.noSuchRoot c.root)
  else if c.platform.any (Text.trim · == "") then .error .emptyPlatform
  else .ok ()

/-- Is the running system used, and not a captured tree? -/
def isLive (c : Config) : Bool :=
  Path.isTop c.root

end Config

end SwitchPlatform
