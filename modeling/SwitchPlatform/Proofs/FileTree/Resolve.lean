import Mathlib.Tactic
import SwitchPlatform.Hwmon
import SwitchPlatform.Proofs.FileTree.Names
import SwitchPlatform.Proofs.FileTree.SameBut

/-!
# Where platform paths lead

A platform path is resolved to the steps to the root and then its names, so the file that it opens
lies at its names below the location of the root (`Opens.location`). Paths with different names
therefore open different files (`Opens.names_eq`), whatever the root.

The second half says what reading and writing an attribute have to do with the rest of a tree:
reading depends on the file that the path opens (`Root.readInt_eq`), and writing changes at most
its content (`Root.sameBut_writeText`).
-/

namespace SwitchPlatform

/-! ## Locations -/

namespace FileTree

variable {t : FileTree}

theorem follow_append (loc : Location) (xs ys : List String) :
    t.follow loc (xs ++ ys) =
      match t.follow loc xs with
      | .ok (loc', _) => t.follow loc' ys
      | .error e => .error e := by
  induction xs generalizing loc with
  | nil =>
    rw [List.nil_append]
    conv_rhs => rw [follow]
    cases hloc : t.get? loc with
    | some e => rfl
    | none => cases ys <;> simp [follow, hloc]
  | cons s xs ih =>
    rw [List.cons_append, follow, follow]
    split
    · rfl
    · rfl
    · split_ifs
      · exact ih loc
      · exact ih loc.dropLast
      · rfl
      · exact ih (loc ++ [s])

/-- A slash at the end asks for a directory and leads nowhere else. -/
theorem follow_of_slash {loc : Location} {steps : List String} {r : Location × FileTree}
    (h : t.follow loc (steps ++ ["."]) = .ok r) : t.follow loc steps = .ok r := by
  rw [follow_append] at h
  split at h
  · rename_i loc' e hsteps
    rw [hsteps]
    rw [follow, get?_of_follow hsteps] at h
    cases e with
    | file bs => cases h
    | dir es =>
      rw [if_pos rfl, follow, get?_of_follow hsteps] at h
      exact h
  · cases h

/-- Names lead downwards. -/
theorem location_of_follow {loc loc' : Location} {ns : List String} {e : FileTree}
    (names : ∀ n ∈ ns, Path.IsName n) (h : t.follow loc ns = .ok (loc', e)) : loc' = loc ++ ns := by
  induction ns generalizing loc with
  | nil =>
    rw [follow] at h
    split at h
    · cases h
      rw [List.append_nil]
    · cases h
  | cons n ns ih =>
    have hn := names n List.mem_cons_self
    rw [follow] at h
    split at h
    · cases h
    · cases h
    · rw [if_neg hn.ne_dot, if_neg hn.ne_dots] at h
      split_ifs at h
      rw [ih (fun m hm => names m (List.mem_cons_of_mem n hm)) h, List.append_assoc,
        List.singleton_append]

end FileTree

namespace Root

variable (root : Root) {path path' : String} {t t' : FileTree} {loc loc' : FileTree.Location}

/-- The location of the root. -/
def location? (t : FileTree) : Option FileTree.Location :=
  match t.follow [] root.steps with
  | .ok (loc, _) => some loc
  | .error _ => none

/-- A platform path opens the file at a location. -/
def Opens (t : FileTree) (path : String) (loc : FileTree.Location) : Prop :=
  ∃ bs, t.openFile (root.resolve path) = .ok (loc, bs)

variable {root}

/-- **The file that a platform path opens lies at its names below the root.** -/
theorem Opens.location (h : root.Opens t path loc) :
    ∃ base, root.location? t = some base ∧ loc = base ++ Path.names path := by
  obtain ⟨bs, h⟩ := h
  have hfind : t.find (root.resolve path) = .ok (loc, .file bs) := by
    rw [FileTree.openFile] at h
    split at h
    · rename_i hfind
      cases h
      exact hfind
    · cases h
    · cases h
  have hfollow : t.follow [] (Path.steps (root.resolve path)) = .ok (loc, .file bs) := by
    rw [FileTree.find, ite_self] at hfind
    split_ifs at hfind
    exact hfind
  have hnames : t.follow [] (root.steps ++ Path.names path) = .ok (loc, .file bs) := by
    rcases root.steps_resolve path with hsteps | hsteps
    · rwa [hsteps] at hfollow
    · rw [hsteps] at hfollow
      exact FileTree.follow_of_slash hfollow
  rw [FileTree.follow_append] at hnames
  rw [location?]
  split at hnames
  · exact ⟨_, rfl, FileTree.location_of_follow (fun n => Path.isName_of_mem_names) hnames⟩
  · cases hnames

/-- **Paths with different names open different files.** -/
theorem Opens.names_eq (h : root.Opens t path loc) (h' : root.Opens t path' loc) :
    Path.names path = Path.names path' := by
  obtain ⟨base, hbase, rfl⟩ := h.location
  obtain ⟨base', hbase', heq⟩ := h'.location
  rw [hbase, Option.some.injEq] at hbase'
  subst hbase'
  exact List.append_cancel_left heq

theorem Opens.unique (h : root.Opens t path loc) (h' : root.Opens t path loc') : loc = loc' := by
  obtain ⟨bs, h⟩ := h
  obtain ⟨bs', h'⟩ := h'
  rw [h] at h'
  cases h'
  rfl

/-! ## Reading and writing attributes -/

variable {free : FileTree.Location → Prop}

/-- Paths open the same files in trees that differ in contents. -/
theorem opens_iff (same : FileTree.SameBut free t t') :
    root.Opens t' path loc ↔ root.Opens t path loc := by
  constructor
  · rintro ⟨bs, h⟩
    obtain ⟨bs', h', -⟩ := same.symm.openFile h
    exact ⟨bs', h'⟩
  · rintro ⟨bs, h⟩
    obtain ⟨bs', h', -⟩ := same.openFile h
    exact ⟨bs', h'⟩

theorem readText_eq (same : FileTree.SameBut free t t')
    (hpath : ∀ loc, root.Opens t path loc → ¬free loc) :
    root.readText path t' = root.readText path t := by
  have hopen : t'.openFile (root.resolve path) = t.openFile (root.resolve path) :=
    same.openFile_eq fun loc bs h => hpath loc ⟨bs, h⟩
  unfold readText FileTree.readAll
  rw [hopen]

/-- **What an attribute reads as depends on the file that its path opens.** -/
theorem readInt_eq (same : FileTree.SameBut free t t')
    (hpath : ∀ loc, root.Opens t path loc → ¬free loc) :
    root.readInt path t' = root.readInt path t := by
  unfold readInt
  rw [readText_eq same hpath]

theorem hasEntry_eq (same : FileTree.SameBut free t t') (path : String) :
    root.hasEntry path t' = root.hasEntry path t :=
  same.hasEntry _

theorem list_eq (same : FileTree.SameBut free t t') (path : String) :
    root.list path t' = root.list path t := by
  unfold list
  rw [same.list]

/-- The sensor directory of a device is the same in trees that differ in contents. -/
theorem attributePath_eq (same : FileTree.SameBut free t t') (device attr : String) :
    Hwmon.attributePath root device attr t' = Hwmon.attributePath root device attr t := by
  unfold Hwmon.attributePath Hwmon.dir
  dsimp only
  rw [list_eq same]

theorem writeText_apply (root : Root) (path content : String) (t : FileTree) :
    root.writeText path content t =
      match t.openFile (root.resolve path) with
      | .ok file => (.ok (), t.setContent file.1 (Text.Utf8.encode content))
      | .error e => (.error (.ofHost path e), t) := by
  rw [writeText, Action.mapError, FileTree.writeText]
  cases t.openFile (root.resolve path) <;> rfl

/-- New bytes for the file that a path opens change nothing else. -/
theorem sameBut_setContent {file : FileTree.Location × List UInt8}
    (hopen : t.openFile (root.resolve path) = .ok file) (bs : List UInt8) :
    FileTree.SameBut (root.Opens t path) t (t.setContent file.1 bs) := by
  refine (FileTree.sameBut_setContent file.1 bs t).mono ?_
  rintro loc rfl
  exact ⟨file.2, hopen⟩

/-- **Writing an attribute changes at most the content of its file.** -/
theorem sameBut_writeText (root : Root) (path content : String) (t : FileTree) :
    FileTree.SameBut (root.Opens t path) t (root.writeText path content t).2 := by
  rw [writeText_apply]
  cases hopen : t.openFile (root.resolve path) with
  | error e => exact .refl _ t
  | ok file => exact sameBut_setContent hopen _

/-- Whether an attribute can be written does not depend on contents. -/
theorem writeText_outcome_eq (same : FileTree.SameBut free t t') (path content : String) :
    (root.writeText path content t').1 = (root.writeText path content t).1 := by
  rw [writeText_apply, writeText_apply]
  cases hopen : t.openFile (root.resolve path) with
  | error e => rw [same.openFile_error hopen]
  | ok file =>
    obtain ⟨bs, hopen', -⟩ := same.openFile hopen
    rw [hopen']

/-- An attribute that could be written holds what was written. -/
theorem fileAt?_writeText {content : String} (h : (root.writeText path content t).1 = .ok ()) :
    ∃ loc, root.Opens t path loc ∧
      (root.writeText path content t).2.fileAt? loc = some (Text.Utf8.encode content) := by
  rw [writeText_apply] at h ⊢
  cases hopen : t.openFile (root.resolve path) with
  | error e =>
    rw [hopen] at h
    cases h
  | ok file =>
    refine ⟨file.1, ⟨file.2, hopen⟩, ?_⟩
    have hthere := FileTree.fileAt?_of_openFile hopen
    rw [FileTree.fileAt?_setContent hthere, if_pos rfl]

/-- What reads as an integer is there. -/
theorem hasEntry_of_readInt {v : Int32} (h : root.readInt path t = .ok v) :
    root.hasEntry path t = true := by
  unfold readInt readText FileTree.readAll FileTree.openFile at h
  rw [hasEntry, FileTree.hasEntry]
  cases hfind : t.find (root.resolve path) with
  | ok found => rfl
  | error e =>
    rw [hfind] at h
    cases h

end Root

end SwitchPlatform
