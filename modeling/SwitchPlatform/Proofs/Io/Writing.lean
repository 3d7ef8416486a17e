import Mathlib.Tactic
import SwitchPlatform.Proofs.FileTree.Export
import SwitchPlatform.Proofs.Io.Within

/-!
# Writing through locators

Writing through a locator changes at most the files that it names, and the attribute that exports
GPIO lines (`within_write`). What is written into an attribute is there afterwards
(`fileAt?_write`).
-/

namespace SwitchPlatform

open FileTree (Location SameBut)

variable {io : Io} {t : FileTree}

/-- A file that a locator names. -/
def Locator.Targets (io : Io) (t : FileTree) (l : Locator) (loc : Location) : Prop :=
  ∃ path, l.Names io t path ∧ io.root.Opens t path loc

/-- The files of a tree that writing through a locator may change. -/
def Locator.Reaches (io : Io) (t : FileTree) (l : Locator) (loc : Location) : Prop :=
  io.root.Opens t Gpio.exportPath loc ∨ l.Targets io t loc

theorem Locator.targets_iff {free : Location → Prop} {t' : FileTree} (same : SameBut free t t')
    {l : Locator} {loc : Location} : l.Targets io t' loc ↔ l.Targets io t loc := by
  unfold Targets
  simp only [Root.opens_iff same, names_iff same]

theorem Locator.reaches_iff {free : Location → Prop} {t' : FileTree} (same : SameBut free t t')
    {l : Locator} {loc : Location} : l.Reaches io t' loc ↔ l.Reaches io t loc := by
  unfold Reaches
  rw [Root.opens_iff same, targets_iff same]

/-- A locator that spares a path names no file that the path opens. -/
theorem Locator.Spares.not_opens {path : String} {l : Locator} {loc : Location}
    (spares : l.Spares io t path) (h : l.Targets io t loc) : ¬io.root.Opens t path loc := by
  obtain ⟨path', names, hopen⟩ := h
  exact fun hpath => spares path' names (hopen.names_eq hpath)

/-- Writing an attribute that a locator names. -/
theorem sameBut_writeInt {l : Locator} {path : String} (names : l.Names io t path) (v : Int32)
    {t' : FileTree} (same : SameBut (l.Reaches io t) t t') :
    SameBut (l.Reaches io t) t (io.root.writeInt path v t').2 := by
  refine same.trans ((Root.sameBut_writeText io.root path _ t').mono fun loc h => ?_)
  exact .inr ⟨path, names, (Root.opens_iff same).1 h⟩

theorem within_writeInt {l : Locator} {path : String} (names : l.Names io t path) (v : Int32) :
    Within (l.Reaches io t) t (onTree (io.root.writeInt path v)) :=
  .onTree fun _ same => sameBut_writeInt names v same

theorem within_setAsserted (line : Gpio) (asserted : Bool) :
    Within ((Locator.gpio line).Reaches io t) t (onTree (line.setAsserted io.root asserted)) := by
  refine .onTree fun t' same => ?_
  have hexport : SameBut ((Locator.gpio line).Reaches io t) t (line.ensureExported io.root t').2 :=
    same.trans (FileTree.SameBut.mono (line.exportOnly_ensureExported io.root t') fun loc h =>
      .inl ((Root.opens_iff same).1 h))
  rw [Gpio.setAsserted, Action.bind_eq]
  generalize line.ensureExported io.root t' = run at hexport
  obtain ⟨_ | _, t''⟩ := run
  · exact hexport
  · exact sameBut_writeInt (.gpio line) _ hexport

/-- A write to the controller goes to the attribute of the sensor. -/
theorem within_linkWrite {link : Bmc.Link} (hlink : io.link = some link) (sensor : Nat)
    (scale raw : Int32) :
    Within ((Locator.bmc sensor scale).Reaches io t) t
      ((link.write io.root sensor raw).zoom Machine.tree fun t m => { m with tree := t } :
        Access Unit) := by
  intro m same
  rw [Action.zoom]
  cases link with
  | values entries => exact .refl same
  | directory dir =>
    have htree := sameBut_writeInt (.bmc hlink : (Locator.bmc sensor scale).Names io t _) raw same
    rw [Bmc.Link.write, Action.mapError]
    generalize io.root.writeInt (Bmc.Link.sensorPath dir sensor) raw m.tree = run at htree ⊢
    obtain ⟨_ | _, t'⟩ := run
    · exact { tree := htree, fitted := fun _ hm => hm, duty := rfl }
    · exact { tree := htree, fitted := fun _ hm => hm, duty := rfl }

theorem within_writeBmc (sensor : Nat) (scale v : Int32) :
    Within ((Locator.bmc sensor scale).Reaches io t) t (io.writeBmc sensor scale v) := by
  rw [Io.writeBmc]
  split
  · exact .fail _
  · refine (Within.bmc.mapError _).bind_of fun link m _ hlink => ?_
    exact (within_linkWrite (link_of_bmc (Action.ok_of_mapError hlink)) sensor scale _).mapError _

theorem Locator.Reaches.controller {sensor : Nat} {scale : Int32} {fallback : Locator}
    {loc : Location} (h : (Locator.bmc sensor scale).Reaches io t loc) :
    (Locator.bmcOr sensor scale fallback).Reaches io t loc :=
  h.imp_right fun ⟨path, names, hopen⟩ => ⟨path, .controller names, hopen⟩

theorem Locator.Reaches.fallback {sensor : Nat} {scale : Int32} {fallback : Locator}
    {loc : Location} (h : fallback.Reaches io t loc) :
    (Locator.bmcOr sensor scale fallback).Reaches io t loc :=
  h.imp_right fun ⟨path, names, hopen⟩ => ⟨path, .fallback names, hopen⟩

/-- **Writing changes at most what a locator names, and the export attribute.** -/
theorem within_write (l : Locator) (v : Int32) : Within (l.Reaches io t) t (io.write l v) := by
  induction l generalizing t with
  | file path =>
    rw [Io.write]
    exact (within_writeInt (.file path) v).mapError _
  | hwmon device attr =>
    rw [Io.write]
    refine (Within.mapError (.inspect _) _).bind_of fun path m same hfound => ?_
    have hfound := ok_of_fromTree (Action.ok_of_mapError hfound)
    rw [Root.attributePath_eq same] at hfound
    exact (within_writeInt (.hwmon hfound) v).mapError _
  | gpio line =>
    rw [Io.write]
    exact (within_setAsserted line _).mapError _
  | bmc sensor scale =>
    rw [Io.write]
    exact within_writeBmc sensor scale v
  | bmcOr sensor scale fallback ih =>
    rw [Io.write]
    refine Within.hasBmc.bind fun fitted => ?_
    cases fitted with
    | true =>
      exact .widen (fun t => (Locator.bmc sensor scale).Reaches io t)
        (fun t => within_writeBmc sensor scale v)
        fun t' loc same h => ((Locator.reaches_iff same).1 h).controller
    | false =>
      exact .widen (fun t => fallback.Reaches io t) (fun t => ih)
        fun t' loc same h => ((Locator.reaches_iff same).1 h).fallback

/-! ## Attributes -/

/-- An attribute of a device, at a fixed path or in a sensor directory. -/
inductive Locator.IsAttribute : Locator → Prop
  | file (path : String) : IsAttribute (.file path)
  | hwmon (device attr : String) : IsAttribute (.hwmon device attr)

/-- An attribute names one file at most. -/
theorem Locator.IsAttribute.targets_unique {l : Locator} (hl : l.IsAttribute) {loc loc' : Location}
    (h : l.Targets io t loc) (h' : l.Targets io t loc') : loc = loc' := by
  obtain ⟨path, names, hopen⟩ := h
  obtain ⟨path', names', hopen'⟩ := h'
  cases hl with
  | file p =>
    cases names
    cases names'
    exact hopen.unique hopen'
  | hwmon device attr =>
    cases names with
    | hwmon found =>
      cases names' with
      | hwmon found' =>
        rw [found] at found'
        cases found'
        exact hopen.unique hopen'

/-- An attribute that was written holds the decimal of the value. -/
theorem fileAt?_writeInt {path : String} {v : Int32} {m : Machine}
    (h : ((onTree (io.root.writeInt path v)).mapError Fault.status m).1 = .ok ()) :
    ∃ loc, io.root.Opens m.tree path loc ∧
      ((onTree (io.root.writeInt path v)).mapError Fault.status m).2.tree.fileAt? loc =
        some (Text.Utf8.encode (toString v.toInt)) := by
  have hok := Action.ok_of_mapError h
  rw [onTree_apply] at hok
  rw [Action.mapError_eq, onTree_apply]
  cases hw : (io.root.writeInt path v m.tree).1 with
  | ok _ =>
    dsimp only
    exact Root.fileAt?_writeText hw
  | error e =>
    rw [hw] at hok
    cases hok

/-- Writing in a sensor directory is writing at the path that it leads to. -/
theorem write_hwmon_of_ok {device attr path : String} {m : Machine}
    (found : Hwmon.attributePath io.root device attr m.tree = .ok path) (v : Int32) :
    io.write (.hwmon device attr) v m =
      (onTree (io.root.writeInt path v)).mapError Fault.status m := by
  rw [Io.write, lift_eq, Action.bind_eq, Action.mapError_eq, fromTree, Action.inspect_apply, found]
  rfl

/-- **What was written into an attribute is there.** -/
theorem fileAt?_write {l : Locator} (hl : l.IsAttribute) {v : Int32} {m : Machine}
    (h : (io.write l v m).1 = .ok ()) :
    ∃ loc, l.Targets io m.tree loc ∧
      (io.write l v m).2.tree.fileAt? loc = some (Text.Utf8.encode (toString v.toInt)) := by
  cases hl with
  | file path =>
    rw [Io.write, lift_eq] at h ⊢
    obtain ⟨loc, hopen, hfile⟩ := fileAt?_writeInt h
    exact ⟨loc, ⟨path, .file path, hopen⟩, hfile⟩
  | hwmon device attr =>
    cases hfound : Hwmon.attributePath io.root device attr m.tree with
    | ok path =>
      have hrun := write_hwmon_of_ok hfound v
      rw [hrun] at h ⊢
      obtain ⟨loc, hopen, hfile⟩ := fileAt?_writeInt h
      exact ⟨loc, ⟨path, .hwmon hfound, hopen⟩, hfile⟩
    | error e =>
      rw [Io.write, lift_eq, Action.bind_eq, Action.mapError_eq, fromTree, Action.inspect_apply,
        hfound] at h
      cases h

end SwitchPlatform
