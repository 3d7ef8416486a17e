import Mathlib.Tactic
import SwitchPlatform.FileTree.Access

/-!
# Trees that differ in contents

Two trees are the same but for the contents of some files (`SameBut`) if every location has an
entry of the same kind in both: a directory with the same names, or a file, with the same bytes
unless its location is among the free ones. This is all that writing into files can do to a tree
(`sameBut_setContent`), and what an access through a path makes of two such trees is the same:
the path leads to the same location (`SameBut.find`), directories have the same listing
(`SameBut.list`), and files that are not free have the same bytes (`SameBut.openFile_eq`).
-/

namespace SwitchPlatform.FileTree

variable {free free' : Location → Prop} {t t' t'' : FileTree}

/-! ## Entries -/

/-- Two directories with the same names, or two files, with the same bytes unless they are
free. -/
inductive Alike (free : Prop) : FileTree → FileTree → Prop
  | file {a b : List UInt8} (bytes : free ∨ a = b) : Alike free (.file a) (.file b)
  | dir {es es' : List (String × FileTree)} (names : es.map Prod.fst = es'.map Prod.fst) :
      Alike free (.dir es) (.dir es')

namespace Alike

variable {free free' : Prop} {a b c : Option FileTree}

theorem refl (free : Prop) (a : Option FileTree) : Option.Rel (Alike free) a a := by
  cases a with
  | none => exact .none
  | some t =>
    cases t with
    | file bs => exact .some (.file (.inr rfl))
    | dir es => exact .some (.dir rfl)

theorem symm (h : Option.Rel (Alike free) a b) : Option.Rel (Alike free) b a := by
  rcases h with ⟨bytes | names⟩ | _
  · exact .some (.file (bytes.imp_right Eq.symm))
  · exact .some (.dir names.symm)
  · exact .none

theorem trans (h : Option.Rel (Alike free) a b) (h' : Option.Rel (Alike free) b c) :
    Option.Rel (Alike free) a c := by
  rcases h with ⟨bytes | names⟩ | _
  · rcases h' with ⟨bytes' | _⟩
    refine .some (.file ?_)
    rcases bytes with hfree | rfl
    · exact .inl hfree
    · exact bytes'
  · rcases h' with ⟨_ | names'⟩
    exact .some (.dir (names.trans names'))
  · exact h'

theorem mono (h : Option.Rel (Alike free) a b) (hf : free → free') :
    Option.Rel (Alike free') a b := by
  rcases h with ⟨bytes | names⟩ | _
  · exact .some (.file (bytes.imp_left hf))
  · exact .some (.dir names)
  · exact .none

end Alike

/-! ## Trees -/

/-- The same entries at every location, but for the bytes of the files at free locations. -/
def SameBut (free : Location → Prop) (t t' : FileTree) : Prop :=
  ∀ loc, Option.Rel (Alike (free loc)) (t.get? loc) (t'.get? loc)

namespace SameBut

theorem refl (free : Location → Prop) (t : FileTree) : SameBut free t t := by
  intro loc
  exact Alike.refl _ _

theorem symm (h : SameBut free t t') : SameBut free t' t := by
  intro loc
  exact Alike.symm (h loc)

theorem trans (h : SameBut free t t') (h' : SameBut free t' t'') : SameBut free t t'' := by
  intro loc
  exact Alike.trans (h loc) (h' loc)

theorem mono (h : SameBut free t t') (hf : ∀ loc, free loc → free' loc) : SameBut free' t t' := by
  intro loc
  exact Alike.mono (h loc) (hf loc)

/-- A file that is not free has the same bytes in both trees. -/
theorem fileAt? (h : SameBut free t t') {loc : Location} (hloc : ¬free loc) :
    t'.fileAt? loc = t.fileAt? loc := by
  have hentry := h loc
  unfold FileTree.fileAt?
  revert hentry
  generalize t.get? loc = a, t'.get? loc = b
  rintro (⟨bytes | _⟩ | _)
  · rw [bytes.resolve_left hloc]
  · rfl
  · rfl

/-- Trees that differ at most in contents, and do not, are the same. -/
theorem of_files (h : SameBut free t t') (hfiles : ∀ loc, t'.fileAt? loc = t.fileAt? loc) :
    SameBut (fun _ => False) t t' := by
  intro loc
  have hentry := h loc
  have hfile := hfiles loc
  unfold FileTree.fileAt? at hfile
  revert hentry hfile
  generalize t.get? loc = a, t'.get? loc = b
  rintro (⟨_ | names⟩ | _) hfile
  · cases hfile
    exact .some (.file (.inr rfl))
  · exact .some (.dir names)
  · exact .none

end SameBut

/-- The same entries at every location, whatever the files hold. -/
def SameEntries (t t' : FileTree) : Prop :=
  SameBut (fun _ => True) t t'

theorem SameBut.sameEntries (h : SameBut free t t') : SameEntries t t' :=
  h.mono fun _ _ => trivial

/-! ## Writing -/

theorem map_fst_onChild (n : String) (f : FileTree → FileTree) (es : List (String × FileTree)) :
    (onChild n f es).map Prod.fst = es.map Prod.fst := by
  induction es with
  | nil => rfl
  | cons e es ih =>
    obtain ⟨m, t⟩ := e
    rw [onChild, List.map_cons, List.map_cons, ih]

/-- **New bytes for one file are all that writing to it changes.** -/
theorem sameBut_setContent (loc : Location) (bs : List UInt8) (t : FileTree) :
    SameBut (· = loc) t (t.setContent loc bs) := by
  induction loc generalizing t with
  | nil =>
    intro q
    cases t with
    | dir es => exact Alike.refl _ _
    | file content =>
      cases q with
      | nil => exact .some (.file (.inl rfl))
      | cons m q => exact .none
  | cons n loc ih =>
    intro q
    cases t with
    | file content => exact Alike.refl _ _
    | dir es =>
      cases q with
      | nil => exact .some (.dir (map_fst_onChild n _ es).symm)
      | cons m q =>
        simp only [setContent, modify, get?, child?_onChild]
        by_cases hmn : m = n
        · subst hmn
          rw [if_pos rfl]
          cases child? m es with
          | none => exact .none
          | some c => exact Alike.mono (ih c q) (fun hq => congrArg (m :: ·) hq)
        · rw [if_neg hmn]
          exact Alike.refl _ _

/-! ## Access through paths -/

theorem get?_of_follow {loc loc' : Location} {steps : List String} {e : FileTree}
    (h : t.follow loc steps = .ok (loc', e)) : t.get? loc' = some e := by
  induction steps generalizing loc with
  | nil =>
    rw [follow] at h
    cases hloc : t.get? loc with
    | none =>
      rw [hloc] at h
      cases h
    | some e' =>
      rw [hloc] at h
      cases h
      exact hloc
  | cons s rest ih =>
    rw [follow] at h
    split at h
    · cases h
    · cases h
    · split_ifs at h
      · exact ih h
      · exact ih h
      · exact ih h

theorem fileAt?_of_openFile {path : String} {start loc : Location} {bs : List UInt8}
    (h : t.openFile path start = .ok (loc, bs)) : t.fileAt? loc = some bs := by
  rw [openFile] at h
  split at h
  · rename_i hfind
    cases h
    have hget : t.get? loc = some (.file bs) := by
      rw [find] at hfind
      split_ifs at hfind <;> exact get?_of_follow hfind
    rw [fileAt?, hget]
  · cases h
  · cases h

/-- What a path leads to in two trees: the same failure, or entries at the same location. -/
inductive Found (free : Location → Prop) :
    Except HostError (Location × FileTree) → Except HostError (Location × FileTree) → Prop
  | error (e : HostError) : Found free (.error e) (.error e)
  | entry {loc : Location} {e e' : FileTree} (alike : Alike (free loc) e e') :
      Found free (.ok (loc, e)) (.ok (loc, e'))

namespace SameBut

theorem follow (h : SameBut free t t') (loc : Location) (steps : List String) :
    Found free (t.follow loc steps) (t'.follow loc steps) := by
  induction steps generalizing loc with
  | nil =>
    have hentry := h loc
    rw [FileTree.follow, FileTree.follow]
    revert hentry
    generalize t.get? loc = a, t'.get? loc = b
    rintro (alike | _)
    · exact .entry alike
    · exact .error _
  | cons s rest ih =>
    have hentry := h loc
    rw [FileTree.follow, FileTree.follow]
    revert hentry
    generalize t.get? loc = a, t'.get? loc = b
    rintro (⟨_ | _⟩ | _)
    · exact .error _
    · dsimp only
      split_ifs
      · exact ih _
      · exact ih _
      · exact .error _
      · exact ih _
    · exact .error _

/-- A path leads to the same location in both trees. -/
theorem find (h : SameBut free t t') (path : String) (start : Location := []) :
    Found free (t.find path start) (t'.find path start) := by
  rw [FileTree.find, FileTree.find]
  split_ifs
  · exact .error _
  · exact .error _
  · exact .error _
  · exact h.follow _ _
  · exact h.follow _ _

theorem hasEntry (h : SameBut free t t') (path : String) : t'.hasEntry path = t.hasEntry path := by
  have hfound := h.find path
  rw [FileTree.hasEntry, FileTree.hasEntry]
  revert hfound
  generalize t.find path = a, t'.find path = b
  rintro (_ | _) <;> rfl

/-- Directories have the same listing. -/
theorem list (h : SameBut free t t') (path : String) : t'.list path = t.list path := by
  have hfound := h.find path
  rw [FileTree.list, FileTree.list]
  revert hfound
  generalize t.find path = a, t'.find path = b
  rintro (_ | ⟨_ | names⟩)
  · rfl
  · rfl
  · simp only [names]

/-- A path opens the same file in both trees. -/
theorem openFile (h : SameBut free t t') {path : String} {loc : Location} {bs : List UInt8}
    (ho : t.openFile path = .ok (loc, bs)) :
    ∃ bs', t'.openFile path = .ok (loc, bs') ∧ (free loc ∨ bs = bs') := by
  have hfound := h.find path
  rw [FileTree.openFile] at ho
  rw [FileTree.openFile]
  revert hfound ho
  generalize t.find path = a, t'.find path = b
  rintro ho (_ | ⟨bytes | _⟩) <;> cases ho
  exact ⟨_, rfl, bytes⟩

/-- A path fails to open a file in the same way in both trees. -/
theorem openFile_error (h : SameBut free t t') {path : String} {e : HostError}
    (ho : t.openFile path = .error e) : t'.openFile path = .error e := by
  have hfound := h.find path
  rw [FileTree.openFile] at ho
  rw [FileTree.openFile]
  revert hfound ho
  generalize t.find path = a, t'.find path = b
  rintro ho (_ | ⟨_ | _⟩) <;> cases ho <;> rfl

/-- A file that is not free has the same bytes in both trees. -/
theorem openFile_eq (h : SameBut free t t') {path : String}
    (hpath : ∀ loc bs, t.openFile path = .ok (loc, bs) → ¬free loc) :
    t'.openFile path = t.openFile path := by
  have hfound := h.find path
  simp only [FileTree.openFile] at hpath ⊢
  revert hfound hpath
  generalize t.find path = a, t'.find path = b
  rintro hpath (_ | ⟨bytes | _⟩)
  · rfl
  · rw [bytes.resolve_left (hpath _ _ rfl)]
  · rfl

end SameBut

/-- A file that was given new bytes opens with them. -/
theorem openFile_setContent {path : String} {loc : Location} {old : List UInt8}
    (h : t.openFile path = .ok (loc, old)) (bs : List UInt8) :
    (t.setContent loc bs).openFile path = .ok (loc, bs) := by
  obtain ⟨bs', hopen, -⟩ := (sameBut_setContent loc bs t).openFile h
  have hfile := fileAt?_of_openFile hopen
  rw [fileAt?_setContent (fileAt?_of_openFile h), if_pos rfl] at hfile
  cases hfile
  exact hopen

end SwitchPlatform.FileTree
