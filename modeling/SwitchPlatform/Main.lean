import SwitchPlatform.Tool

/-!
# The command line

Runs the tool on the host. A step works on a copy of the files that boards can reach; what it
printed and logged is passed on, and the files that it changed are written back. Between two
management passes the copy is renewed, so each pass sees what the hardware reports by then.
-/

namespace SwitchPlatform.Host

/-- The directories that boards reach, below the root. -/
def places : List String :=
  ["/etc/onl", "/sys/bus/i2c/devices", "/sys/class/gpio", "/sys/devices/platform"]

/-- Links of a device that lead back to what is above it. -/
def backLinks : List String :=
  ["device", "driver", "firmware_node", "of_node", "power", "subsystem"]

/-- How far directories are copied below a place. -/
def depth : Nat := 5

/-- The host's path of a location. -/
def pathOf (loc : FileTree.Location) : String :=
  "/" ++ "/".intercalate loc

/-- Copies the entry at a location of the host, a directory without what is in it. A file that
cannot be read is copied as an empty one. -/
def copyEntry (loc : FileTree.Location) (t : FileTree) : IO FileTree := do
  let place := System.mkFilePath [pathOf loc]
  if ← place.isDir then return (t.makeDir? loc).getD t
  if ← place.pathExists then
    let bytes := match ← (IO.FS.readBinFile place).toBaseIO with
      | .ok bytes => bytes.toList
      | .error _ => []
    return (t.putFile? loc bytes).getD t
  return t

/-- Copies the entry at a location, and what is below it down to a depth. -/
def copyBelow : Nat → FileTree.Location → FileTree → IO FileTree
  | 0, loc, t => copyEntry loc t
  | n + 1, loc, t => do
    let mut t ← copyEntry loc t
    let place := System.mkFilePath [pathOf loc]
    if ← place.isDir then
      for entry in ← place.readDir do
        if !backLinks.contains entry.fileName then
          t ← copyBelow n (loc ++ [entry.fileName]) t
    return t

/-- Copies every entry on the way along a path. -/
def copyAlong (start : FileTree.Location) (path : String) (t : FileTree) : IO FileTree := do
  let mut loc := if Path.isAbsolute path then [] else start
  let mut t := t
  for step in Path.steps path do
    loc := if step = "." then loc else if step = ".." then loc.dropLast else loc ++ [step]
    t ← copyEntry loc t
  return t

/-- A copy of the files that a run with given arguments can reach. -/
def copy (args : Arguments) (cwd : FileTree.Location) : IO FileTree := do
  let file := args.config.getD Config.defaultFile
  let mut t ← copyAlong cwd file (.dir [])
  let stored := match Config.loadOrDefault args.config cwd t with
    | .ok config => config.root
    | .error _ => "/"
  let root : Root := ⟨args.root.getD stored⟩
  t ← copyAlong cwd root.top t
  for place in places do
    let path := root.resolve place
    t ← copyAlong [] path t
    t ← copyBelow depth (Path.names path) t
  return t

/-- Writes the files back that differ between two copies. -/
def writeBack (before after : FileTree) : IO Unit :=
  for (loc, bytes) in after.files do
    if before.fileAt? loc != some bytes then
      IO.FS.writeBinFile (pathOf loc) ⟨bytes.toArray⟩

/-- Passes on what was printed and logged. -/
def passOn (output : String) (log : List LogEntry) : IO Unit := do
  IO.print output
  (← IO.getStdout).flush
  for e in log do
    IO.eprintln (e.level.name.toUpper ++ " " ++ Tool.target ++ ": " ++ e.shown)

/-- Runs a step on the host. -/
def run {α : Type} (step : Tool.Step α) (s : Tool.Session) :
    IO (Except ToolError α × Tool.Session) := do
  match step s with
  | (r, s') =>
    writeBack s.machine.tree s'.machine.tree
    passOn s'.output s'.log
    return (r, { s' with output := "", log := [] })

/-- Runs management passes, `interval` seconds apart; of zero passes there is no end. -/
def manage (p : Platform Machine) (passes interval : Nat) (renew : IO FileTree)
    (start : Tool.Session) : IO (Except ToolError Unit × Tool.Session) := do
  let mut s := start
  let mut number := 1
  let mut outcome : Except ToolError Unit := .ok ()
  repeat
    let (r, s') ← run (Tool.managePass p number) s
    s := s'
    outcome := r
    if !r.isOk || passes = number then break
    IO.sleep (UInt32.ofNat (min (interval * 1000) 4294967295))
    let t ← renew
    s := { s with machine := { s.machine with tree := t } }
    number := number + 1
  return (outcome, s)

/-- Runs the tool with given arguments. -/
def runAll (args : Arguments) (cwd : FileTree.Location) :
    IO (Except ToolError Unit × Tool.Session) := do
  match ← run (Tool.prepare args cwd) { machine := { tree := ← copy args cwd } } with
  | (.error e, s) => return (.error e, s)
  | (.ok none, s) => return (.ok (), s)
  | (.ok (some p), s) =>
    match args.command with
    | .manage passes interval => manage p passes interval (copy args cwd) s
    | command => run (Tool.perform p command) s

/-- Runs the tool with the words of a command line; ends in the exit code. -/
def main (words : List String) : IO UInt32 := do
  let cwd := Path.names (← IO.currentDir).toString
  let outcome ← match Arguments.read words with
    | .error e => pure (Tool.refuse e (.dir []))
    | .ok args => Tool.conclude <$> runAll args cwd
  passOn outcome.output outcome.log
  return UInt32.ofNat outcome.exitCode

end SwitchPlatform.Host

/-- Runs the tool. -/
def main (words : List String) : IO UInt32 :=
  SwitchPlatform.Host.main words
