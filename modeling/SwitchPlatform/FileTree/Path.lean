/-!
# Paths

A path is text with `/` between its parts. `names` keeps the parts that name an entry and drops
empty parts, `.` and `..`, so nothing walks upwards; `steps` keeps what a walk through a tree has
to obey. `join` puts a relative path behind another one, and an absolute path replaces it.
-/

namespace SwitchPlatform.Path

/-- The parts of a text between the slashes. -/
def parts : List Char → List (List Char)
  | [] => [[]]
  | c :: cs =>
    if c = '/' then [] :: parts cs
    else
      match parts cs with
      | [] => [[c]]
      | p :: ps => (c :: p) :: ps

/-- Does a path start at the top? -/
def isAbsolute (path : String) : Bool :=
  path.toList.head? == some '/'

/-- Does a text end with a slash? -/
def endsWithSlash (path : String) : Bool :=
  path.toList.getLast? == some '/'

/-- The parts of a path that name an entry. -/
def names (path : String) : List String :=
  ((parts path.toList).map String.ofList).filter fun p => p != "" && p != "." && p != ".."

/-- The parts of a path that a walk obeys: names, `.` and `..`; a slash at the end asks for a
directory, as `.` does. -/
def steps (path : String) : List String :=
  let named := ((parts path.toList).map String.ofList).filter (· != "")
  if endsWithSlash path then named ++ ["."] else named

/-- `path` seen from `base`. -/
def join (base path : String) : String :=
  if isAbsolute path then path
  else if base = "" || endsWithSlash base then base ++ path
  else base ++ "/" ++ path

/-- Does a path stand for the top itself? -/
def isTop (path : String) : Bool :=
  isAbsolute path &&
    ((parts path.toList).map String.ofList).all fun p => p == "" || p == "."

end SwitchPlatform.Path
