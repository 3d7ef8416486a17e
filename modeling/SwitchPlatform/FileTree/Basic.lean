import SwitchPlatform.Text.Utf8

/-!
# File trees

A tree of directories and files, the state of a host's file system. A location is the list of
names that leads from the top of the tree to an entry. `get?` looks a location up, `modify`
changes the entry at a location in place, and `fileAt?` is the content of the file at a location;
`fileAt?_setContent` says that new content for one file leaves every other file alone.
-/

namespace SwitchPlatform

/-- A directory with named entries, or a file with its bytes. -/
inductive FileTree
  | file (content : List UInt8)
  | dir (entries : List (String × FileTree))

namespace FileTree

/-- The names from the top of a tree to an entry. -/
abbrev Location := List String

/-- The first entry of a directory with name `n`. -/
def child? (n : String) : List (String × FileTree) → Option FileTree
  | [] => none
  | (m, t) :: es => if m = n then some t else child? n es

/-- The entry at a location. -/
def get? : FileTree → Location → Option FileTree
  | t, [] => some t
  | .file _, _ :: _ => none
  | .dir es, n :: loc => (child? n es).bind fun t => get? t loc

/-- Changes the entries of a directory that are named `n`. -/
def onChild (n : String) (f : FileTree → FileTree) :
    List (String × FileTree) → List (String × FileTree)
  | [] => []
  | (m, t) :: es => (m, if m = n then f t else t) :: onChild n f es

/-- Changes the entry at a location. -/
def modify (f : FileTree → FileTree) : Location → FileTree → FileTree
  | [], t => f t
  | _ :: _, .file bs => .file bs
  | n :: loc, .dir es => .dir (onChild n (modify f loc) es)

/-- New bytes for a file; a directory stays as it is. -/
def withContent (bs : List UInt8) : FileTree → FileTree
  | .file _ => .file bs
  | .dir es => .dir es

/-- Gives the file at a location new bytes. -/
def setContent (loc : Location) (bs : List UInt8) (t : FileTree) : FileTree :=
  modify (withContent bs) loc t

/-- The bytes of the file at a location. -/
def fileAt? (t : FileTree) (loc : Location) : Option (List UInt8) :=
  match t.get? loc with
  | some (.file bs) => some bs
  | _ => none

/-- The entries below new directories with the given names. -/
def nest (leaf : FileTree) : Location → FileTree
  | [] => leaf
  | n :: loc => .dir [(n, nest leaf loc)]

/-- Gives the entries named `n` a new tree, or adds one. -/
def putChild (n : String) (t : FileTree) (es : List (String × FileTree)) :
    List (String × FileTree) :=
  if (child? n es).isSome then onChild n (fun _ => t) es else es ++ [(n, t)]

/-- Puts a leaf at a location and makes the directories above it; `onto` decides about an entry
that is there already. There is no way through a file. -/
def install? (leaf : FileTree) (onto : FileTree → Option FileTree) :
    Location → FileTree → Option FileTree
  | [], t => onto t
  | _ :: _, .file _ => none
  | n :: loc, .dir es =>
    match child? n es with
    | some t => (install? leaf onto loc t).map fun t' => .dir (putChild n t' es)
    | none => some (.dir (putChild n (nest leaf loc) es))

/-- Creates or replaces a file; fails over a directory. -/
def putFile? (loc : Location) (bs : List UInt8) (t : FileTree) : Option FileTree :=
  install? (.file bs)
    (fun old => match old with
      | .file _ => some (.file bs)
      | .dir _ => none)
    loc t

/-- Creates a directory unless it is there; fails over a file. -/
def makeDir? (loc : Location) (t : FileTree) : Option FileTree :=
  install? (.dir [])
    (fun old => match old with
      | .file _ => none
      | .dir es => some (.dir es))
    loc t

/-- The tree without the entry at a location and everything below it. -/
def remove : Location → FileTree → FileTree
  | [], t => t
  | _ :: _, .file bs => .file bs
  | [n], .dir es => .dir (es.filter fun e => e.1 != n)
  | n :: loc, .dir es => .dir (onChild n (remove loc) es)

mutual

/-- Every file of a tree with its location, below `above`. -/
def filesFrom (above : Location) : FileTree → List (Location × List UInt8)
  | .file bs => [(above, bs)]
  | .dir es => filesOfEntries above es

/-- Every file of the entries of a directory, with its location. -/
def filesOfEntries (above : Location) : List (String × FileTree) → List (Location × List UInt8)
  | [] => []
  | (n, t) :: es => filesFrom (above ++ [n]) t ++ filesOfEntries above es

end

/-- Every file of a tree with its location. -/
def files (t : FileTree) : List (Location × List UInt8) :=
  filesFrom [] t

theorem child?_onChild (n m : String) (f : FileTree → FileTree) (es : List (String × FileTree)) :
    child? m (onChild n f es) = if m = n then (child? n es).map f else child? m es := by
  induction es with
  | nil => simp [onChild, child?]
  | cons e es ih =>
    obtain ⟨k, t⟩ := e
    simp only [onChild, child?]
    by_cases hkm : k = m
    · by_cases hkn : k = n
      · subst hkm; subst hkn; simp
      · subst hkm; simp [hkn]
    · by_cases hmn : m = n
      · subst hmn; simp [hkm, ih]
      · simp [hkm, hmn, ih]

/-- New content for a file that is there leaves every other file alone. -/
theorem fileAt?_setContent {t : FileTree} {loc : Location} {old : List UInt8}
    (there : t.fileAt? loc = some old) (bs : List UInt8) (q : Location) :
    (t.setContent loc bs).fileAt? q = if q = loc then some bs else t.fileAt? q := by
  induction loc generalizing t q with
  | nil =>
    cases t with
    | dir es => simp [fileAt?, get?] at there
    | file content => cases q <;> simp [setContent, modify, withContent, fileAt?, get?]
  | cons n loc ih =>
    cases t with
    | file content => simp [fileAt?, get?] at there
    | dir es =>
      cases q with
      | nil => simp [setContent, modify, fileAt?, get?]
      | cons m q =>
        have split : (setContent (n :: loc) bs (.dir es)).fileAt? (m :: q) =
            if m = n then ((child? n es).map (setContent loc bs)).bind (fun t => t.fileAt? q)
            else (child? m es).bind (fun t => t.fileAt? q) := by
          simp only [setContent, modify, fileAt?, get?, child?_onChild]
          by_cases hmn : m = n
          · simp only [hmn, if_true]
            cases child? n es <;> rfl
          · simp only [hmn, if_false]
            cases child? m es <;> rfl
        have whole : fileAt? (.dir es) (m :: q) = (child? m es).bind (fun t => t.fileAt? q) := by
          simp only [fileAt?, get?]
          cases child? m es <;> rfl
        have below : fileAt? (.dir es) (n :: loc) =
            (child? n es).bind (fun t => t.fileAt? loc) := by
          simp only [fileAt?, get?]
          cases child? n es <;> rfl
        rw [below] at there
        rw [split, whole]
        by_cases hmn : m = n
        · subst hmn
          cases hc : child? m es with
          | none => simp [hc] at there
          | some c =>
            simp only [hc, Option.bind_some, Option.map_some] at there ⊢
            simp [ih there]
        · simp [hmn]

end FileTree

end SwitchPlatform
