import SwitchPlatform.Bmc
import SwitchPlatform.Proofs.FileTree.Resolve

/-!
# Trees that agree below the root

Two trees agree below a root if the way to it ends in the same failure, or at the same location
with the same entries below (`Root.Agree`); elsewhere they may differ at will. A resolved path
leads to the root and then only downwards, so it leads to the same entry in both trees
(`Agree.find`), and the file that it opens lies below the root (`Opens.below`). Writing to a file
below the root keeps the agreement (`Agree.setContent`).
-/

namespace SwitchPlatform

open FileTree (Location SameBut)

/-! ## Below a location -/

namespace FileTree

variable {t t' e : FileTree}

theorem get?_append (t : FileTree) (loc q : Location) :
    t.get? (loc ++ q) = (t.get? loc).bind fun e => e.get? q := by
  induction loc generalizing t with
  | nil =>
    rw [List.nil_append]
    rfl
  | cons n loc ih =>
    rw [List.cons_append]
    cases t with
    | file bs => rfl
    | dir es =>
      rw [get?, get?]
      cases child? n es with
      | none => rfl
      | some c => exact ih c

/-- What lies below a location decides where steps downwards lead to. -/
theorem follow_congr {loc : Location} (same : t'.get? loc = t.get? loc) {ns : List String}
    (down : ∀ n ∈ ns, n ≠ "..") : t'.follow loc ns = t.follow loc ns := by
  induction ns generalizing loc with
  | nil => rw [follow, follow, same]
  | cons n ns ih =>
    have hrest : ∀ m ∈ ns, m ≠ ".." := fun m hm => down m (List.mem_cons_of_mem n hm)
    have hn : n ≠ ".." := down n List.mem_cons_self
    have hnext : t'.get? (loc ++ [n]) = t.get? (loc ++ [n]) := by
      rw [get?_append, get?_append, same]
    rw [follow, follow, same, ih same hrest, ih hnext hrest, if_neg hn, if_neg hn]

theorem get?_setContent_append (t : FileTree) (loc q : Location) (bs : List UInt8) :
    (t.setContent (loc ++ q) bs).get? loc = (t.get? loc).map (setContent q bs) := by
  induction loc generalizing t with
  | nil => rfl
  | cons n loc ih =>
    cases t with
    | file content => rfl
    | dir es =>
      rw [List.cons_append, setContent, modify, get?, get?, child?_onChild, if_pos rfl]
      cases child? n es with
      | none => rfl
      | some c => exact ih c

/-- Steps lead to the same location after a write below it, and to what was written. -/
theorem follow_setContent {start loc : Location} {steps : List String}
    (h : t.follow start steps = .ok (loc, e)) (q : Location) (bs : List UInt8) :
    (t.setContent (loc ++ q) bs).follow start steps = .ok (loc, e.setContent q bs) := by
  have hfound := (sameBut_setContent (loc ++ q) bs t).follow start steps
  rw [h] at hfound
  generalize hrun : (t.setContent (loc ++ q) bs).follow start steps = run at hfound
  cases hfound with
  | entry alike =>
    have hget := get?_of_follow hrun
    rw [get?_setContent_append, get?_of_follow h] at hget
    rw [Option.some.inj hget]

end FileTree

/-! ## Agreement below the root -/

namespace Root

variable {root : Root} {t t' : FileTree} {base loc : Location} {path : String}

/-- Two trees agree below the root: the way to it ends in the same failure, or at the same location
with the same entries below. -/
def Agree (root : Root) (t t' : FileTree) : Prop :=
  t'.follow [] root.steps = t.follow [] root.steps

/-- A location at or below that of the root. -/
def Below (root : Root) (t : FileTree) (loc : Location) : Prop :=
  ∃ base, root.location? t = some base ∧ base <+: loc

theorem location?_eq_some_iff :
    root.location? t = some base ↔ ∃ e, t.follow [] root.steps = .ok (base, e) := by
  rw [location?]
  rcases t.follow [] root.steps with _ | ⟨loc, e⟩
  · simp
  · simp

/-- Steps to the root, and then downwards. -/
theorem Agree.follow (h : root.Agree t t') {ns : List String} (down : ∀ n ∈ ns, n ≠ "..") :
    t'.follow [] (root.steps ++ ns) = t.follow [] (root.steps ++ ns) := by
  rw [FileTree.follow_append, FileTree.follow_append, h]
  split
  · rename_i base e hroot
    have hroot' : t'.follow [] root.steps = .ok (base, e) := Eq.trans h hroot
    refine FileTree.follow_congr ?_ down
    rw [FileTree.get?_of_follow hroot, FileTree.get?_of_follow hroot']
  · rfl

/-- **A resolved path leads to the same entry in trees that agree below the root.** -/
theorem Agree.find (h : root.Agree t t') (path : String) :
    t'.find (root.resolve path) = t.find (root.resolve path) := by
  have down : ∀ n ∈ Path.names path, n ≠ ".." := fun n hn => (Path.isName_of_mem_names hn).ne_dots
  have hsame : t'.follow [] (Path.steps (root.resolve path)) =
      t.follow [] (Path.steps (root.resolve path)) := by
    rcases root.steps_resolve path with hsteps | hsteps
    · rw [hsteps, h.follow down]
    · rw [hsteps, List.append_assoc, h.follow]
      intro n hn
      rcases List.mem_append.1 hn with hn | hn
      · exact down n hn
      · rw [List.mem_singleton.1 hn]
        decide
  rw [FileTree.find, FileTree.find, ite_self, hsame]

theorem Agree.openFile (h : root.Agree t t') (path : String) :
    t'.openFile (root.resolve path) = t.openFile (root.resolve path) := by
  rw [FileTree.openFile, FileTree.openFile, h.find]

/-! ## Looks at trees that agree -/

namespace Agree

theorem hasEntry (h : root.Agree t t') (path : String) :
    root.hasEntry path t' = root.hasEntry path t := by
  rw [Root.hasEntry, Root.hasEntry, FileTree.hasEntry, FileTree.hasEntry, h.find]

theorem readText (h : root.Agree t t') (path : String) :
    root.readText path t' = root.readText path t := by
  unfold Root.readText FileTree.readAll
  rw [h.openFile]

theorem readInt (h : root.Agree t t') (path : String) :
    root.readInt path t' = root.readInt path t := by
  unfold Root.readInt
  rw [h.readText]

theorem readBytes (h : root.Agree t t') (path : String) (offset len : Nat) :
    root.readBytes path offset len t' = root.readBytes path offset len t := by
  unfold Root.readBytes FileTree.readWindow
  rw [h.find]

theorem list (h : root.Agree t t') (path : String) : root.list path t' = root.list path t := by
  rw [Root.list, Root.list, FileTree.list, FileTree.list, h.find]

theorem hwmonDir (h : root.Agree t t') (device : String) :
    Hwmon.dir root device t' = Hwmon.dir root device t := by
  unfold Hwmon.dir
  dsimp only
  rw [h.list]

theorem hwmonPath (h : root.Agree t t') (device attr : String) :
    Hwmon.attributePath root device attr t' = Hwmon.attributePath root device attr t := by
  rw [Hwmon.attributePath, Hwmon.attributePath, h.hwmonDir]

theorem readSensor (h : root.Agree t t') (link : Bmc.Link) (sensor : Nat) :
    link.read root sensor t' = link.read root sensor t := by
  cases link with
  | directory dir => rw [Bmc.Link.read, Bmc.Link.read, h.readInt]
  | values entries => rfl

theorem isFitted (h : root.Agree t t') (mode : Bmc.Mode) (probe : Option Bmc.Probe) :
    Bmc.isFitted mode probe root t' = Bmc.isFitted mode probe root t := by
  unfold Bmc.isFitted
  simp only [h.readInt]

end Agree

/-! ## Writes below the root -/

/-- The file that a resolved path opens lies below the root. -/
theorem Opens.below (h : root.Opens t path loc) : root.Below t loc := by
  obtain ⟨base, hbase, rfl⟩ := h.location
  exact ⟨base, hbase, List.prefix_append _ _⟩

/-- A write below the root keeps an agreement. -/
theorem Agree.setContent (h : root.Agree t t') (hloc : root.Below t loc) (bs : List UInt8) :
    root.Agree (t.setContent loc bs) (t'.setContent loc bs) := by
  obtain ⟨base, hbase, q, rfl⟩ := hloc
  obtain ⟨e, hroot⟩ := location?_eq_some_iff.1 hbase
  have hroot' : t'.follow [] root.steps = .ok (base, e) := Eq.trans h hroot
  rw [Agree, FileTree.follow_setContent hroot, FileTree.follow_setContent hroot']

/-- Contents do not move the root. -/
theorem below_iff {free : Location → Prop} (same : SameBut free t t') :
    root.Below t' loc ↔ root.Below t loc := by
  have hfound := same.follow [] root.steps
  have hlocation : root.location? t' = root.location? t := by
    rw [location?, location?]
    revert hfound
    generalize t.follow [] root.steps = a, t'.follow [] root.steps = b
    rintro (_ | _) <;> rfl
  rw [Below, Below, hlocation]

end Root

end SwitchPlatform
