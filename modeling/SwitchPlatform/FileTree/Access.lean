import SwitchPlatform.Action
import SwitchPlatform.FileTree.Basic
import SwitchPlatform.FileTree.Path
import SwitchPlatform.Sorting

/-!
# Access to a file tree

Reading and writing files of a tree by path, with the failures that a host reports. A walk goes
down one step at a time and every step leaves a directory. Files are written in place and never
created: `writeText` replaces the whole content and `writeBytes` a window of it.
-/

namespace SwitchPlatform

/-- Why the host refuses an access. -/
inductive HostError
  | noEntry
  | notDirectory
  | isDirectory
  | nameTooLong
  | badOffset
  | nulInName
  | shortRead
  | notText
  deriving DecidableEq, Repr

/-- The text of a refused access. -/
def HostError.message : HostError → String
  | noEntry => "No such file or directory (os error 2)"
  | notDirectory => "Not a directory (os error 20)"
  | isDirectory => "Is a directory (os error 21)"
  | nameTooLong => "File name too long (os error 36)"
  | badOffset => "Invalid argument (os error 22)"
  | nulInName => "file name contained an unexpected NUL byte"
  | shortRead => "failed to fill whole buffer"
  | notText => "stream did not contain valid UTF-8"

namespace FileTree

/-- The longest name of an entry, in bytes. -/
def maxName : Nat := 255

/-- A path of this many bytes is too long. -/
def pathLimit : Nat := 4096

/-- What is read or written at once ends below this. -/
def offsetLimit : Nat := 9223372036854775808

/-- Follows steps from a location to an entry of a tree. -/
def follow (t : FileTree) : Location → List String → Except HostError (Location × FileTree)
  | loc, [] =>
    match t.get? loc with
    | some e => .ok (loc, e)
    | none => .error .noEntry
  | loc, s :: rest =>
    match t.get? loc with
    | none => .error .noEntry
    | some (.file _) => .error .notDirectory
    | some (.dir _) =>
      if s = "." then follow t loc rest
      else if s = ".." then follow t loc.dropLast rest
      else if maxName < s.utf8ByteSize then .error .nameTooLong
      else follow t (loc ++ [s]) rest

/-- The entry that a path leads to, with its location. A relative path starts at `start`. -/
def find (t : FileTree) (path : String) (start : Location := []) :
    Except HostError (Location × FileTree) :=
  if path.toList.contains '\x00' then .error .nulInName
  else if path = "" then .error .noEntry
  else if pathLimit ≤ path.utf8ByteSize then .error .nameTooLong
  else follow t (if Path.isAbsolute path then [] else start) (Path.steps path)

/-- Does a path lead to an entry? -/
def hasEntry (t : FileTree) (path : String) : Bool :=
  (t.find path).isOk

/-- Does a path lead to a directory? -/
def hasDir (t : FileTree) (path : String) (start : Location := []) : Bool :=
  match t.find path start with
  | .ok (_, .dir _) => true
  | _ => false

/-- The location and the bytes of the file that a path leads to. -/
def openFile (t : FileTree) (path : String) (start : Location := []) :
    Except HostError (Location × List UInt8) :=
  match t.find path start with
  | .ok (loc, .file bs) => .ok (loc, bs)
  | .ok (_, .dir _) => .error .isDirectory
  | .error e => .error e

/-- The bytes of a file. -/
def readAll (t : FileTree) (path : String) (start : Location := []) :
    Except HostError (List UInt8) :=
  (t.openFile path start).map Prod.snd

/-- `len` bytes of `bs` from `offset` on. -/
def window (bs : List UInt8) (offset len : Nat) : Except HostError (List UInt8) :=
  if len = 0 then .ok []
  else if offset + len ≤ bs.length then .ok ((bs.drop offset).take len)
  else .error .shortRead

/-- `len` bytes of a file from `offset` on. Nothing can be read from a directory. -/
def readWindow (t : FileTree) (path : String) (offset len : Nat) :
    Except HostError (List UInt8) :=
  match t.find path with
  | .error e => .error e
  | .ok (_, e) =>
    if offsetLimit ≤ offset + len then .error .badOffset
    else
      match e with
      | .file bs => window bs offset len
      | .dir _ => if len = 0 then .ok [] else .error .isDirectory

/-- `bs` with `data` written from `offset` on; zeros fill a gap. -/
def overwrite (bs : List UInt8) (offset : Nat) (data : List UInt8) : List UInt8 :=
  if data = [] then bs
  else
    bs.take offset ++ List.replicate (offset - bs.length) 0 ++ data ++
      bs.drop (offset + data.length)

/-- Replaces the content of a file. -/
def writeText (path content : String) : Action HostError FileTree Unit := fun t =>
  match t.openFile path with
  | .ok (loc, _) => (.ok (), t.setContent loc (Text.Utf8.encode content))
  | .error e => (.error e, t)

/-- Writes bytes into a file from `offset` on. -/
def writeBytes (path : String) (offset : Nat) (data : List UInt8) :
    Action HostError FileTree Unit := fun t =>
  match t.openFile path with
  | .ok (loc, bs) =>
    if offsetLimit ≤ offset + data.length then (.error .badOffset, t)
    else (.ok (), t.setContent loc (overwrite bs offset data))
  | .error e => (.error e, t)

/-- The names in a directory, in ascending order. -/
def list (t : FileTree) (path : String) : Except HostError (List String) :=
  match t.find path with
  | .ok (_, .dir es) => .ok (sortBy (fun a b => decide (a ≤ b)) (es.map Prod.fst))
  | .ok (_, .file _) => .error .notDirectory
  | .error e => .error e

end FileTree

end SwitchPlatform
