import Mathlib.Tactic
import SwitchPlatform.Gpio
import SwitchPlatform.Proofs.FileTree.Resolve

/-!
# The export attribute

A GPIO line that is not exported is exported by writing its number to one attribute. That is all
that asking for a line changes (`Gpio.exportOnly_isAsserted`), and trees that differ in this
attribute only read the same everywhere else (`Root.ExportOnly.readInt_eq`).
-/

namespace SwitchPlatform

/-- Two trees that differ at most in the content of the export attribute. -/
def Root.ExportOnly (root : Root) (t t' : FileTree) : Prop :=
  FileTree.SameBut (root.Opens t Gpio.exportPath) t t'

namespace Root.ExportOnly

variable {root : Root} {t t' t'' : FileTree}

theorem refl (root : Root) (t : FileTree) : root.ExportOnly t t :=
  FileTree.SameBut.refl _ t

theorem trans (h : root.ExportOnly t t') (h' : root.ExportOnly t' t'') : root.ExportOnly t t'' := by
  have hopens : ∀ loc, root.Opens t' Gpio.exportPath loc → root.Opens t Gpio.exportPath loc :=
    fun loc => (opens_iff h).1
  exact FileTree.SameBut.trans h (FileTree.SameBut.mono h' hopens)

theorem sameEntries (h : root.ExportOnly t t') : t.SameEntries t' :=
  FileTree.SameBut.sameEntries h

/-- Another attribute than the export attribute reads the same. -/
theorem readInt_eq (h : root.ExportOnly t t') {path : String}
    (hpath : Path.names path ≠ Path.names Gpio.exportPath) :
    root.readInt path t' = root.readInt path t :=
  Root.readInt_eq h fun _ ho he => hpath (ho.names_eq he)

theorem readText_eq (h : root.ExportOnly t t') {path : String}
    (hpath : Path.names path ≠ Path.names Gpio.exportPath) :
    root.readText path t' = root.readText path t :=
  Root.readText_eq h fun _ ho he => hpath (ho.names_eq he)

end Root.ExportOnly

/-! ## GPIO lines -/

namespace Gpio

variable {root : Root} {t t' : FileTree}

theorem ensureExported_apply (line : Gpio) (root : Root) (t : FileTree) :
    line.ensureExported root t =
      if root.hasEntry line.valuePath t then (.ok (), t) else line.requestExport root t := by
  rw [ensureExported, Action.bind_apply, Action.view_apply]
  cases root.hasEntry line.valuePath t <;> rfl

theorem exportOnly_requestExport (line : Gpio) (root : Root) (t : FileTree) :
    root.ExportOnly t (line.requestExport root t).2 := by
  rw [requestExport]
  cases Text.int32? line.number with
  | some n => exact Root.sameBut_writeText root _ _ t
  | none => exact .refl root t

/-- Exporting a line changes the export attribute only. -/
theorem exportOnly_ensureExported (line : Gpio) (root : Root) (t : FileTree) :
    root.ExportOnly t (line.ensureExported root t).2 := by
  rw [ensureExported_apply]
  split
  · exact .refl root t
  · exact line.exportOnly_requestExport root t

/-- Whether a line can be exported does not depend on contents. -/
theorem ensureExported_outcome_eq {free : FileTree.Location → Prop} (line : Gpio)
    (h : FileTree.SameBut free t t') :
    (line.ensureExported root t').1 = (line.ensureExported root t).1 := by
  rw [ensureExported_apply, ensureExported_apply, Root.hasEntry_eq h]
  split
  · rfl
  · rw [requestExport]
    cases Text.int32? line.number with
    | some n => exact Root.writeText_outcome_eq h _ _
    | none => rfl

theorem isAsserted_apply (line : Gpio) (root : Root) (t : FileTree) :
    line.isAsserted root t =
      (match (line.ensureExported root t).1 with
        | .ok _ => (root.readInt line.valuePath (line.ensureExported root t).2).bind line.levelMeans
        | .error e => .error e,
        (line.ensureExported root t).2) := by
  rw [isAsserted, Action.bind_apply]
  rcases line.ensureExported root t with ⟨_ | _, t'⟩
  · rfl
  · dsimp only
    rw [Action.bind_apply, Action.inspect_apply]
    cases root.readInt line.valuePath t' <;> rfl

/-- Asking for a line changes the export attribute only. -/
theorem exportOnly_isAsserted (line : Gpio) (root : Root) (t : FileTree) :
    root.ExportOnly t (line.isAsserted root t).2 := by
  have htree : (line.isAsserted root t).2 = (line.ensureExported root t).2 := by
    rw [isAsserted_apply]
  rw [htree]
  exact line.exportOnly_ensureExported root t

/-- The level of a line is not in the export attribute. -/
theorem names_valuePath_ne (line : Gpio) : Path.names line.valuePath ≠ Path.names exportPath := by
  have hslash (dir : String) : dir ++ "/value" = dir ++ "/" ++ "value" := by
    rw [String.append_assoc]
    rfl
  have hvalue : Path.names line.valuePath =
      Path.names (classDir ++ "/gpio" ++ toString line.number) ++ Path.names "value" := by
    rw [valuePath, hslash, Path.names_slash]
  have hexport : Path.names exportPath = Path.names classDir ++ Path.names "export" :=
    Path.names_slash classDir "export"
  intro h
  rw [hvalue, hexport] at h
  have hlast := (List.append_inj' h (by decide)).2
  revert hlast
  decide

/-- **What a line reads as depends on the file of its level**, and on whether it can be
exported. -/
theorem isAsserted_congr {free : FileTree.Location → Prop} (line : Gpio)
    (same : FileTree.SameBut free t t')
    (hlevel : ∀ loc, root.Opens t line.valuePath loc → ¬free loc) :
    (line.isAsserted root t').1 = (line.isAsserted root t).1 := by
  have houtcome : ∀ t, (line.isAsserted root t).1 =
      match (line.ensureExported root t).1 with
      | .ok _ => (root.readInt line.valuePath t).bind line.levelMeans
      | .error e => .error e := by
    intro t
    have hexport := line.exportOnly_ensureExported root t
    rw [isAsserted_apply, hexport.readInt_eq line.names_valuePath_ne]
  rw [houtcome, houtcome, line.ensureExported_outcome_eq same, Root.readInt_eq same hlevel]

/-- What a line reads as does not depend on what was exported. -/
theorem isAsserted_outcome_eq (line : Gpio) (h : root.ExportOnly t t') :
    (line.isAsserted root t').1 = (line.isAsserted root t).1 :=
  line.isAsserted_congr h fun _ ho he => line.names_valuePath_ne (ho.names_eq he)

end Gpio

end SwitchPlatform
