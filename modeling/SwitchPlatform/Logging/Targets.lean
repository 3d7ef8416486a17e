import SwitchPlatform.Action
import SwitchPlatform.Logging.Level
import SwitchPlatform.Text.Blank
import SwitchPlatform.Text.Numeral

/-!
# Log targets

What is logged goes to a target, and every target has a level of its own, which decides what of it
is shown; undeclared targets share a default. Targets carry tags, and a setting such as `fan=debug`
changes the level of every target with a tag. `LogControl` keeps the levels together with the
filter in force, which is renewed whenever a change is reported.
-/

namespace SwitchPlatform

/-- Where the name of a target comes from. -/
inductive LogOrigin
  /-- A part of this program. -/
  | module
  /-- Anything else. -/
  | custom
  deriving DecidableEq, Repr

/-- A target and its current level. -/
structure LogTarget where
  target : String
  /-- The short name, which is one of the tags. -/
  name : String
  level : LogLevel
  tags : List String
  origin : LogOrigin
  deriving DecidableEq

namespace LogTarget

/-- A target as declared: the name follows the declared tags unless it is one of them. -/
def declare (target name : String) (level : LogLevel) (tags : List String) (origin : LogOrigin) :
    LogTarget :=
  { target := target, name := name, level := level, origin := origin
    tags := if tags.contains name then tags else tags ++ [name] }

/-- Does a target carry a tag? -/
def hasTag (t : LogTarget) (tag : String) : Bool :=
  t.tags.contains tag

/-- A target in one line; its name is filled up to `width`. -/
def text (width : Nat) (t : LogTarget) : String :=
  Text.padRight width t.target ++ "  " ++ Text.padRight 5 t.level.name ++ "  " ++
    ",".intercalate t.tags ++
    match t.origin with
    | .module => ""
    | .custom => " (custom)"

end LogTarget

/-- A target as it is declared, with the level that it starts at. -/
structure LogDecl where
  target : String
  name : String
  level : LogLevel
  tags : List String
  origin : LogOrigin
  deriving DecidableEq

/-- The target that a declaration makes. -/
def LogDecl.made (d : LogDecl) : LogTarget :=
  .declare d.target d.name d.level d.tags d.origin

/-- What a setting applies to. -/
inductive LogKey
  /-- The undeclared targets. -/
  | fallback
  /-- Every declared target. -/
  | all
  /-- Every target with a tag. -/
  | tag (name : String)
  deriving DecidableEq

/-- Whether a target is meant by a key. -/
def LogKey.covers : LogKey → LogTarget → Bool
  | fallback, _ => false
  | all, _ => true
  | tag name, t => t.hasTag name

/-- A level for what a key covers. -/
structure LogSetting where
  key : LogKey
  level : LogLevel
  deriving DecidableEq

/-- Why a text is no list of settings. -/
inductive LogSettingError
  /-- An item without `=`. -/
  | malformed (item : String)
  | unknownLevel (key level : String)
  deriving DecidableEq

/-- The text of a setting error. -/
def LogSettingError.message : LogSettingError → String
  | malformed item => "invalid syntax '" ++ item ++ "': it should be tag=level"
  | unknownLevel key level => "invalid level '" ++ level ++ "' for '" ++ key ++ "'"

namespace LogSetting

/-- The key that a name stands for. -/
def keyOf (name : String) : LogKey :=
  if name = "default" then .fallback else if name = "all" then .all else .tag name

/-- The parts of a text between the commas. -/
def items : List Char → List (List Char)
  | [] => [[]]
  | c :: cs =>
    if c = ',' then [] :: items cs
    else
      match items cs with
      | [] => [[c]]
      | p :: ps => (c :: p) :: ps

/-- The setting of an item, a key and a level around the first `=`. -/
def ofItem (item : List Char) : Except LogSettingError LogSetting :=
  match item.dropWhile (· != '=') with
  | [] => .error (.malformed (String.ofList item))
  | _ :: rest =>
    let key := String.ofList (Text.trimChars (item.takeWhile (· != '=')))
    let level := String.ofList (Text.trimChars rest)
    match LogLevel.parse? level with
    | some l => .ok ⟨keyOf key, l⟩
    | none => .error (.unknownLevel key level)

/-- The settings of a text, or the error of the first item that has one. Items are separated by
commas, and blank items are skipped. -/
def parse (s : String) : Except LogSettingError (List LogSetting) :=
  (((items s.toList).map Text.trimChars).filter (!·.isEmpty)).mapM ofItem

end LogSetting

/-- The levels of all targets. -/
structure LogLevels where
  /-- The level of undeclared targets. -/
  fallback : LogLevel
  targets : List LogTarget
  deriving DecidableEq

/-- What is shown: a level for undeclared targets, and one for each declared target. -/
structure LogFilter where
  fallback : LogLevel
  targets : List (String × LogLevel)
  deriving DecidableEq

namespace LogFilter

/-- The level of the longest declared target that `target` starts with. -/
def levelOf (f : LogFilter) (target : String) : LogLevel :=
  let matching := f.targets.filter fun t => t.1.toList.isPrefixOf target.toList
  (matching.foldl
    (fun best t => if best.1 ≤ t.1.length then (t.1.length, t.2) else best) (0, f.fallback)).2

/-- Is an event of a level shown? -/
def shows (f : LogFilter) (target : String) (level : LogLevel) : Bool :=
  level.rank ≤ (f.levelOf target).rank

end LogFilter

namespace LogLevels

/-- Targets with one more, which takes the place of an earlier one of the same target. -/
def insert (ts : List LogTarget) (t : LogTarget) : List LogTarget :=
  if ts.any (·.target == t.target) then ts.map fun s => if s.target == t.target then t else s
  else ts ++ [t]

/-- The levels at the start, collected from declarations. -/
def collect (fallback : LogLevel) (decls : List LogDecl) : LogLevels :=
  ⟨fallback, (decls.map LogDecl.made).foldl insert []⟩

/-- The filter that shows what the levels say. -/
def filter (l : LogLevels) : LogFilter :=
  ⟨l.fallback, l.targets.map fun t => (t.target, t.level)⟩

/-- Every tag, by its first appearance. -/
def tags (l : LogLevels) : List String :=
  (l.targets.flatMap LogTarget.tags).foldl
    (fun seen tag => if seen.contains tag then seen else seen ++ [tag]) []

/-- The targets with a tag. -/
def tagged (l : LogLevels) (tag : String) : List LogTarget :=
  l.targets.filter (·.hasTag tag)

/-- A declared target by its name. -/
def target? (l : LogLevels) (target : String) : Option LogTarget :=
  l.targets.find? (·.target == target)

/-- Applies a setting. -/
def apply (l : LogLevels) (s : LogSetting) : LogLevels :=
  { fallback := if s.key = .fallback then s.level else l.fallback
    targets := l.targets.map fun t => if s.key.covers t then { t with level := s.level } else t }

/-- Does a setting change any level? -/
def isChangedBy (l : LogLevels) (s : LogSetting) : Bool :=
  (s.key == .fallback && l.fallback != s.level) ||
    l.targets.any fun t => s.key.covers t && t.level != s.level

/-- Applies settings in their order, and tells whether one of them changed anything. -/
def applyAll (l : LogLevels) : List LogSetting → LogLevels × Bool
  | [] => (l, false)
  | s :: rest =>
    let after := (l.apply s).applyAll rest
    (after.1, l.isChangedBy s || after.2)

/-- The settings that give the current levels. -/
def configText (l : LogLevels) : String :=
  ",".intercalate
    (("default=" ++ l.fallback.name) :: l.targets.map fun t => t.name ++ "=" ++ t.level.name)

/-- The width of the longest target. -/
def width (l : LogLevels) : Nat :=
  (l.targets.map fun t => t.target.length).foldl max "(default)".length

/-- A table of all targets and of the default. -/
def table (l : LogLevels) : String :=
  Text.padRight l.width "TARGET" ++ "  " ++ Text.padRight 5 "LEVEL" ++ "  TAGS\n" ++
    String.join (l.targets.map fun t => t.text l.width ++ "\n") ++
    Text.padRight l.width "(default)" ++ "  " ++ l.fallback.name

/-- The lines of a tag and its targets. -/
def tagBlock (l : LogLevels) (tag : String) : List String :=
  (tag ++ ":") ::
    (l.tagged tag).map fun t =>
      "    " ++ Text.padRight l.width t.target ++ "  " ++ t.level.name

/-- The targets under each tag. -/
def tagTable (l : LogLevels) : String :=
  String.join ((l.tags.flatMap l.tagBlock).map (· ++ "\n"))

end LogLevels

/-- The levels and the filter in force. -/
structure LogControl where
  levels : LogLevels
  filter : LogFilter
  deriving DecidableEq

namespace LogControl

/-- The control at the start. -/
def start (levels : LogLevels) : LogControl :=
  ⟨levels, levels.filter⟩

/-- Applies settings, and renews the filter if anything changed. -/
def update (c : LogControl) (settings : List LogSetting) : LogControl :=
  let (levels, changed) := c.levels.applyAll settings
  ⟨levels, if changed then levels.filter else c.filter⟩

/-- Applies the settings of a text, all of them or none. -/
def setup (text : String) : Action LogSettingError LogControl Unit := do
  let settings ← .ofExcept (LogSetting.parse text)
  .update (update · settings)

end LogControl

end SwitchPlatform
