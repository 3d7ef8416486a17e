import SwitchPlatform.Proofs.Io.Dispatch

/-!
# What driving hardware changes

Driving hardware writes one attribute. If it fails then nothing was written, and if it ends well
then the file of that attribute has its new bytes and no other file has changed; a GPIO line may
have been exported in both cases. `Driven root target t outcome t'` says so of a run from the tree
`t` to `t'`, where `target` is what is to be written, if there is anything.

Two writes into the same attribute amount to the second one (`Wrote.after`), and the second one
does not fail after the first: whether an attribute or a line can be written depends neither on
contents nor on the value (`writeInt_outcome`, `Gpio.setAsserted_outcome`).

Writing a value through a locator drives the attribute that the locator resolves to,
`Locator.write?` (`driven_write`).
-/

namespace SwitchPlatform

open FileTree (Location SameBut)

variable {ε ε' α : Type} {io : Io} {root : Root} {t t' t'' : FileTree} {m : Machine}

/-- What is written into an attribute: its new bytes, which may depend on the old ones. -/
structure AttributeWrite where
  path : String
  bytes : List UInt8 → List UInt8

namespace AttributeWrite

/-- The decimal of an integer. -/
def int (path : String) (v : Int32) : AttributeWrite :=
  ⟨path, fun _ => Text.Utf8.encode (toString v.toInt)⟩

/-- Bytes from an offset on. -/
def window (path : String) (offset : Nat) (data : List UInt8) : AttributeWrite :=
  ⟨path, fun bs => FileTree.overwrite bs offset data⟩

end AttributeWrite

/-- From one tree to another, a write took place: the file of the attribute has the new bytes, and
no other file has changed, but for the one that exports GPIO lines. -/
def Wrote (root : Root) (w : AttributeWrite) (t t' : FileTree) : Prop :=
  ∃ file bs, t.openFile (root.resolve w.path) = .ok (file, bs) ∧
    t'.fileAt? file = some (w.bytes bs) ∧
    SameBut (fun loc => root.Opens t Gpio.exportPath loc ∨ loc = file) t t'

/-- A run that drives the hardware by one write at most. -/
structure Driven (root : Root) (target : Option AttributeWrite) (t : FileTree)
    (outcome : Except ε α) (t' : FileTree) : Prop where
  /-- A run that fails has at most exported a line. -/
  failed : ∀ e, outcome = .error e → root.ExportOnly t t'
  /-- A run that ends well has written its target. -/
  done : ∀ a, outcome = .ok a → ∃ w ∈ target, Wrote root w t t'

theorem Wrote.sameEntries {w : AttributeWrite} (h : Wrote root w t t') : t.SameEntries t' := by
  obtain ⟨_, _, _, _, same⟩ := h
  exact same.sameEntries

/-- A write after a run that changed the export attribute or the same attribute at most. -/
theorem Wrote.after {free : Location → Prop} {path : String} {v : Int32} (same : SameBut free t t')
    (hfree : ∀ loc, free loc → root.Opens t Gpio.exportPath loc ∨ root.Opens t path loc)
    (h : Wrote root (.int path v) t' t'') : Wrote root (.int path v) t t'' := by
  obtain ⟨file, bs', hopen', hbytes, hsame⟩ := h
  obtain ⟨bs, hopen, -⟩ := same.symm.openFile hopen'
  have hfirst : SameBut (fun loc => root.Opens t Gpio.exportPath loc ∨ loc = file) t t' :=
    same.mono fun loc hloc => (hfree loc hloc).imp_right fun hpath => hpath.unique ⟨bs, hopen⟩
  refine ⟨file, bs, hopen, hbytes, hfirst.trans (hsame.mono fun loc hloc => ?_)⟩
  exact hloc.imp_left (Root.opens_iff same).1

/-- Of two writes into an attribute, the second one counts. -/
theorem Wrote.again {path : String} {v v' : Int32} (h' : Wrote root (.int path v') t' t'')
    (h : Wrote root (.int path v) t t') : Wrote root (.int path v') t t'' := by
  obtain ⟨file, bs, hopen, -, same⟩ := h
  refine Wrote.after same (fun loc hloc => hloc.imp_right ?_) h'
  rintro rfl
  exact ⟨bs, hopen⟩

namespace Driven

variable {target : Option AttributeWrite}

theorem of_error (e : ε) (h : root.ExportOnly t t') :
    Driven root target t (.error e : Except ε α) t' where
  failed _ _ := h
  done := nofun

theorem of_ok (a : α) {w : AttributeWrite} (h : Wrote root w t t') :
    Driven root (some w) t (.ok a : Except ε α) t' where
  failed := nofun
  done _ _ := ⟨w, rfl, h⟩

/-- A run that fails at once. -/
theorem refused (e : ε) : Driven root target t (.error e : Except ε α) t :=
  of_error e (.refl root t)

theorem mapError {outcome : Except ε α} (h : Driven root target t outcome t') (f : ε → ε') :
    Driven root target t (outcome.mapError f) t' := by
  cases outcome with
  | ok a => exact ⟨nofun, fun _ _ => h.done a rfl⟩
  | error e => exact of_error _ (h.failed e rfl)

theorem wrote {w : AttributeWrite} {a : α}
    (h : Driven root (some w) t (.ok a : Except ε α) t') : Wrote root w t t' := by
  obtain ⟨w', hw', hwrote⟩ := h.done a rfl
  rwa [Option.mem_some_iff.1 hw']

/-- A run that comes after a line was exported. -/
theorem after_export {path : String} {v : Int32} {outcome : Except ε α} (h : root.ExportOnly t t')
    (h' : Driven root (some (.int path v)) t' outcome t'') :
    Driven root (some (.int path v)) t outcome t'' := by
  cases outcome with
  | ok a => exact of_ok a (.after h (fun _ => .inl) h'.wrote)
  | error e => exact of_error e (h.trans (h'.failed e rfl))

/-- No entry was created or removed. -/
theorem sameEntries {outcome : Except ε α} (h : Driven root target t outcome t') :
    t.SameEntries t' := by
  cases outcome with
  | ok a =>
    obtain ⟨w, -, hw⟩ := h.done a rfl
    exact hw.sameEntries
  | error e => exact (h.failed e rfl).sameEntries

end Driven

/-! ## Attributes -/

/-- A file that was opened and given new bytes was written. -/
theorem wrote_setContent {w : AttributeWrite} {file : Location} {bs : List UInt8}
    (hopen : t.openFile (root.resolve w.path) = .ok (file, bs)) :
    Wrote root w t (t.setContent file (w.bytes bs)) := by
  refine ⟨file, bs, hopen, ?_, (FileTree.sameBut_setContent file _ t).mono fun _ => .inr⟩
  rw [FileTree.fileAt?_setContent (FileTree.fileAt?_of_openFile hopen), if_pos rfl]

/-- Writing an integer. -/
theorem driven_writeInt (root : Root) (path : String) (v : Int32) (t : FileTree) :
    Driven root (some (.int path v)) t (root.writeInt path v t).1 (root.writeInt path v t).2 := by
  rw [Root.writeInt, Root.writeText_apply]
  cases hopen : t.openFile (root.resolve path) with
  | error e => exact .refused _
  | ok file => exact .of_ok () (wrote_setContent (w := .int path v) hopen)

/-- Writing bytes into a page. -/
theorem driven_writeBytes (root : Root) (path : String) (offset : Nat) (data : List UInt8)
    (t : FileTree) :
    Driven root (some (.window path offset data)) t (root.writeBytes path offset data t).1
      (root.writeBytes path offset data t).2 := by
  rw [Root.writeBytes, Action.mapError_eq, FileTree.writeBytes]
  dsimp only
  refine Driven.mapError ?_ _
  cases hopen : t.openFile (root.resolve path) with
  | error e => exact .refused _
  | ok file =>
    dsimp only
    split_ifs
    · exact .refused _
    · exact .of_ok () (wrote_setContent (w := .window path offset data) hopen)

/-- Whether an attribute can be written depends neither on contents nor on what is written. -/
theorem writeText_outcome {free : Location → Prop} (same : SameBut free t t')
    (path content content' : String) :
    (root.writeText path content' t').1 = (root.writeText path content t).1 := by
  rw [Root.writeText_outcome_eq same, Root.writeText_apply, Root.writeText_apply]
  cases t.openFile (root.resolve path) <;> rfl

theorem writeInt_outcome {free : Location → Prop} (same : SameBut free t t') (path : String)
    (v v' : Int32) : (root.writeInt path v' t').1 = (root.writeInt path v t).1 := by
  rw [Root.writeInt, Root.writeInt]
  exact writeText_outcome same path _ _

namespace Gpio

theorem setAsserted_apply (line : Gpio) (root : Root) (asserted : Bool) (t : FileTree) :
    line.setAsserted root asserted t =
      match (line.ensureExported root t).1 with
      | .ok _ =>
        root.writeInt line.valuePath (line.levelFor asserted) (line.ensureExported root t).2
      | .error e => (.error e, (line.ensureExported root t).2) := by
  rw [setAsserted, Action.bind_eq]
  cases (line.ensureExported root t).1 <;> rfl

/-- Asserting a line or not. -/
theorem driven_setAsserted (line : Gpio) (root : Root) (asserted : Bool) (t : FileTree) :
    Driven root (some (.int line.valuePath (line.levelFor asserted))) t
      (line.setAsserted root asserted t).1 (line.setAsserted root asserted t).2 := by
  have hexport := line.exportOnly_ensureExported root t
  rw [setAsserted_apply]
  cases (line.ensureExported root t).1 with
  | ok _ =>
    dsimp only
    exact .after_export hexport (driven_writeInt root _ _ _)
  | error e =>
    dsimp only
    exact .of_error e hexport

/-- Whether a line can be driven depends neither on contents nor on the level. -/
theorem setAsserted_outcome {free : Location → Prop} (line : Gpio) (same : SameBut free t t')
    (asserted asserted' : Bool) :
    (line.setAsserted root asserted' t').1 = (line.setAsserted root asserted t).1 := by
  have hexport := (line.exportOnly_ensureExported root t).sameEntries
  have hexport' := (line.exportOnly_ensureExported root t').sameEntries
  have hsame : (line.ensureExported root t).2.SameEntries (line.ensureExported root t').2 :=
    (hexport.symm.trans same.sameEntries).trans hexport'
  rw [setAsserted_apply, setAsserted_apply, line.ensureExported_outcome_eq same]
  cases (line.ensureExported root t).1 with
  | ok _ => exact writeInt_outcome hsame line.valuePath _ _
  | error e => rfl

end Gpio

/-! ## On a machine -/

section Machine

variable {target : Option AttributeWrite}

/-- An operation on the attributes drives the hardware of the whole machine. -/
theorem driven_onTree {x : Action AttributeError FileTree α}
    (h : Driven root target m.tree (x m.tree).1 (x m.tree).2) :
    Driven root target m.tree (onTree x m).1 (onTree x m).2.tree := by
  rw [onTree_apply]
  exact h.mapError _

theorem driven_mapError {x : Action ε Machine α} (f : ε → ε')
    (h : Driven root target m.tree (x m).1 (x m).2.tree) :
    Driven root target m.tree (x.mapError f m).1 (x.mapError f m).2.tree := by
  rw [Action.mapError_eq]
  exact h.mapError f

end Machine

/-! ## Locators -/

/-- What is written for a value of a sensor of the controller; a controller whose values are fixed
takes none. -/
def Io.sensorWrite? (io : Io) (sensor : Nat) (scale v : Int32) : Option AttributeWrite :=
  match io.link with
  | some (.directory dir) => (unscaled? v scale).map (.int (Bmc.Link.sensorPath dir sensor))
  | _ => none

/-- Does a machine answer that there is a controller, linked and fitted? -/
def Io.serves (io : Io) (m : Machine) : Bool :=
  io.link.isSome && io.answer m

/-- What is written for a value of a locator, if it resolves to an attribute; `served` tells
whether there is a controller, linked and fitted. -/
def Locator.writeWhen? (io : Io) (served : Bool) (t : FileTree) (v : Int32) :
    Locator → Option AttributeWrite
  | .file path => some (.int path v)
  | .hwmon device attr =>
    (Hwmon.attributePath io.root device attr t).toOption.map fun path => .int path v
  | .gpio line => some (.int line.valuePath (line.levelFor (v != 0)))
  | .bmc sensor scale => io.sensorWrite? sensor scale v
  | .bmcOr sensor scale fallback =>
    if served then io.sensorWrite? sensor scale v else fallback.writeWhen? io served t v

/-- What is written for a value of a locator on a machine. -/
def Locator.write? (io : Io) (m : Machine) (l : Locator) (v : Int32) : Option AttributeWrite :=
  l.writeWhen? io (io.serves m) m.tree v

/-- Asking for a controller is answered as the machine says, and changes no file and no answer. -/
theorem hasBmc_run (io : Io) (m : Machine) :
    ∃ m' : Machine, (io.hasBmc : Action ε Machine Bool) m = (.ok (io.serves m), m') ∧
      m'.tree = m.tree ∧ io.serves m' = io.serves m := by
  cases hlink : io.link with
  | none =>
    refine ⟨m, ?_, rfl, rfl⟩
    rw [Io.hasBmc, Io.serves, hlink]
    rfl
  | some link =>
    refine ⟨m.settle (io.answer m), ?_, rfl, rfl⟩
    rw [Io.hasBmc, Io.serves, hlink]
    exact isFitted_eq io m

theorem bmc_run {link : Bmc.Link} (hlink : io.link = some link) (m : Machine) :
    io.bmc m = (if io.answer m then .ok link else .error .missing, m.settle (io.answer m)) := by
  rw [Asking.bmc hlink m, bmc_of_answers hlink (m.settle_bmcFitted _)]

/-- Writing through the link to the controller. -/
theorem driven_linkWrite {link : Bmc.Link} (hlink : io.link = some link) (sensor : Nat)
    {scale v raw : Int32} (hraw : Io.unscaled? v scale = some raw) (m : Machine) :
    Driven io.root (io.sensorWrite? sensor scale v) m.tree
      ((link.write io.root sensor raw).zoom Machine.tree (fun t m => { m with tree := t }) m).1
      ((link.write io.root sensor raw).zoom Machine.tree (fun t m => { m with tree := t })
        m).2.tree := by
  rw [Action.zoom_eq, Io.sensorWrite?, hlink]
  cases link with
  | values entries => exact .refused _
  | directory dir =>
    have hwrite := driven_writeInt io.root (Bmc.Link.sensorPath dir sensor) raw m.tree
    dsimp only
    rw [Bmc.Link.write, Action.mapError_eq, hraw, Option.map_some]
    dsimp only
    exact hwrite.mapError _

/-- Writing a sensor of the controller. -/
theorem driven_writeBmc (io : Io) (sensor : Nat) (scale v : Int32) (m : Machine) :
    Driven io.root (io.sensorWrite? sensor scale v) m.tree (io.writeBmc sensor scale v m).1
      (io.writeBmc sensor scale v m).2.tree := by
  cases hraw : Io.unscaled? v scale with
  | none =>
    rw [writeBmc_of_overflow hraw]
    exact .refused _
  | some raw =>
    rw [writeBmc_of_unscaled hraw, Action.bind_eq, Action.mapError_eq]
    cases hlink : io.link with
    | none =>
      rw [Io.bmc, hlink]
      exact .refused _
    | some link =>
      rw [bmc_run hlink]
      cases io.answer m with
      | false => exact .refused _
      | true =>
        simp only [if_true, Except.mapError]
        exact driven_mapError _ (driven_linkWrite hlink sensor hraw (m.settle true))

/-- **Writing a value through a locator writes the attribute that it resolves to.** -/
theorem driven_write (io : Io) (l : Locator) (v : Int32) (m : Machine) :
    Driven io.root (l.write? io m v) m.tree (io.write l v m).1 (io.write l v m).2.tree := by
  rw [Locator.write?]
  induction l generalizing m with
  | file path =>
    rw [Io.write, lift_eq]
    exact driven_mapError _ (driven_onTree (driven_writeInt io.root path v m.tree))
  | hwmon device attr =>
    rw [Locator.writeWhen?]
    cases hfound : Hwmon.attributePath io.root device attr m.tree with
    | ok path =>
      rw [write_hwmon_of_ok hfound]
      exact driven_mapError _ (driven_onTree (driven_writeInt io.root path v m.tree))
    | error e =>
      rw [Io.write, lift_eq, Action.bind_eq, Action.mapError_eq, fromTree, Action.inspect_apply,
        hfound]
      exact .refused _
  | gpio line =>
    rw [Io.write, lift_eq, Locator.writeWhen?]
    refine driven_mapError _ (driven_onTree ?_)
    exact line.driven_setAsserted io.root _ m.tree
  | bmc sensor scale =>
    rw [Io.write]
    exact driven_writeBmc io sensor scale v m
  | bmcOr sensor scale fallback ih =>
    obtain ⟨m', hrun, htree, hserves⟩ := hasBmc_run (ε := Fault) io m
    rw [Io.write, Action.bind_ok hrun, Locator.writeWhen?, ← htree, ← hserves]
    cases hs : io.serves m' with
    | true =>
      simp only [if_true]
      exact driven_writeBmc io sensor scale v m'
    | false =>
      have hrest := ih m'
      rw [hs] at hrest
      simp only [Bool.false_eq_true, if_false]
      exact hrest

end SwitchPlatform
