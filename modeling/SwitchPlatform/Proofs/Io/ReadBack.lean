import SwitchPlatform.Proofs.Io.LocatorsInStep
import SwitchPlatform.Proofs.Io.Scaling
import SwitchPlatform.Proofs.Text.AttributeInt

/-!
# Reading back what was written

What was written through a locator without an error is what the locator reads as afterwards, up to
what the hardware can hold: a GPIO line holds a flag, and a sensor of the controller a multiple of
its scale. `Locator.Echoes` says so for what a locator resolves to, and `read_write` proves it of
every locator: writing settles whether a controller is fitted (`Within.answers`), so reading
resolves to the same attribute, and that attribute holds what was written (`Wrote.readInt`).
-/

namespace SwitchPlatform

open FileTree (Location SameBut)

variable {io : Io} {root : Root} {t t' : FileTree} {m : Machine} {v : Int32}

/-! ## Attributes and lines -/

/-- A file with the decimal of an integer reads as that integer, whichever path opens it. -/
theorem Root.readInt_of_fileAt? {path : String} {loc : Location} (hopen : root.Opens t path loc)
    (hfile : t.fileAt? loc = some (Text.Utf8.encode (toString v.toInt))) :
    root.readInt path t = .ok v := by
  obtain ⟨bs, hopen⟩ := hopen
  obtain rfl := Option.some.inj ((FileTree.fileAt?_of_openFile hopen).symm.trans hfile)
  have hread : root.readText path t =
      .ok (Text.trim (Text.Utf8.decodeLossy (Text.Utf8.encode (toString v.toInt)))) := by
    unfold Root.readText FileTree.readAll
    rw [hopen]
    rfl
  unfold Root.readInt
  rw [hread]
  simp only [Text.attributeInt?_written]

/-- An attribute that an integer was written to reads as that integer. -/
theorem Wrote.readInt {path : String} (h : Wrote root (.int path v) t t') :
    root.readInt path t' = .ok v := by
  obtain ⟨file, bs, hopen, hbytes, same⟩ := h
  exact Root.readInt_of_fileAt? ((Root.opens_iff same).2 ⟨bs, hopen⟩) hbytes

/-- An attribute reads as the integer whose decimal is in its file. -/
theorem Locator.IsAttribute.read_of_fileAt? {l : Locator} (hl : l.IsAttribute) {loc : Location}
    (targets : l.Targets io m.tree loc)
    (hfile : m.tree.fileAt? loc = some (Text.Utf8.encode (toString v.toInt))) :
    (io.read l m).1 = .ok v := by
  obtain ⟨path, names, hopen⟩ := targets
  have hread := Root.readInt_of_fileAt? hopen hfile
  cases hl with
  | file path =>
    cases names
    rw [Io.read, fromTree, Action.inspect_apply, hread]
    rfl
  | hwmon device attr =>
    cases names with
    | hwmon found =>
      rw [read_hwmon_of_ok found, fromTree, Action.inspect_apply, hread]
      rfl

/-- What can be read is not missing. -/
theorem read?_eq_some_iff {l : Locator} :
    (io.read? l m).1 = .ok (some v) ↔ (io.read l m).1 = .ok v := by
  rw [Io.read?, optional_eq]
  rcases (io.read l m).1 with e | raw
  · cases e <;> simp [Io.orNone]
  · simp [Io.orNone]

/-- **An attribute that was written reads as what was written.** -/
theorem Locator.IsAttribute.read_of_write {l : Locator} (hl : l.IsAttribute)
    (ok : (io.write l v m).1 = .ok ()) : (io.read l (io.write l v m).2).1 = .ok v := by
  obtain ⟨loc, targets, hfile⟩ := fileAt?_write hl ok
  have same := (driven_write io l v m).sameEntries
  exact hl.read_of_fileAt? ((Locator.targets_iff same).2 targets) hfile

namespace Gpio

/-- The level that asserts a line or not says so. -/
theorem levelMeans_levelFor (line : Gpio) (asserted : Bool) :
    line.levelMeans (line.levelFor asserted) = .ok asserted := by
  obtain ⟨number, activeLow⟩ := line
  cases activeLow <;> cases asserted <;> rfl

/-- A line that was asserted or not, reads so. -/
theorem isAsserted_of_wrote {line : Gpio} {asserted : Bool}
    (h : Wrote root (.int line.valuePath (line.levelFor asserted)) t t') :
    line.isAsserted root t' = (.ok asserted, t') := by
  have hlevel := h.readInt
  rw [isAsserted_apply, ensureExported_apply, if_pos (Root.hasEntry_of_readInt hlevel)]
  dsimp only
  rw [hlevel, Except.bind, levelMeans_levelFor]

end Gpio

/-! ## Sensors -/

/-- A machine keeps its answer to whether a controller is fitted. -/
theorem Within.answers {ε α : Type} {free : Location → Prop} {x : Action ε Machine α}
    (hx : Within free m.tree x) {fitted : Bool} (h : io.Answers m fitted) :
    io.Answers (x m).2 fitted := by
  rw [Io.Answers] at h ⊢
  cases hlink : io.link with
  | none =>
    rw [hlink] at h
    exact h
  | some link =>
    rw [hlink] at h
    exact (hx m (.refl _ _)).fitted fitted h

/-- What was written to a sensor went through the link to a fitted controller. -/
theorem writeBmc_ok {sensor : Nat} {scale : Int32}
    (ok : (io.writeBmc sensor scale v m).1 = .ok ()) :
    ∃ dir raw, io.link = some (.directory dir) ∧ Io.unscaled? v scale = some raw ∧
      (io.writeBmc sensor scale v m).2.bmcFitted = some true ∧
      Wrote io.root (.int (Bmc.Link.sensorPath dir sensor) raw) m.tree
        (io.writeBmc sensor scale v m).2.tree := by
  obtain ⟨w, hw, hwrote⟩ := (driven_writeBmc io sensor scale v m).done () ok
  rw [Io.sensorWrite?] at hw
  split at hw
  · rename_i dir hlink
    obtain ⟨raw, hraw, rfl⟩ := Option.map_eq_some_iff.1 hw
    refine ⟨dir, raw, hlink, hraw, ?_, hwrote⟩
    have hasks : Asking io (io.write (.bmc sensor scale) v) :=
      .write hlink (Option.isSome_iff_exists.2 ⟨raw, hraw⟩)
    rw [Io.write] at hasks
    have hanswer : io.answer m = true := by
      rw [writeBmc_of_unscaled hraw] at ok
      obtain ⟨link, hbmc, -⟩ := Action.ok_of_bind ok
      have hfitted := Action.ok_of_mapError hbmc
      rw [bmc_run hlink] at hfitted
      by_contra hno
      rw [if_neg hno] at hfitted
      cases hfitted
    rw [hasks m, hanswer]
    exact (within_writeBmc sensor scale v (m.settle true) (.refl _ _)).fitted true rfl
  · cases hw

/-- **A sensor that was written reads as the nearest multiple of its scale**, towards zero. -/
theorem readBmc_of_writeBmc {sensor : Nat} {scale : Int32}
    (ok : (io.writeBmc sensor scale v m).1 = .ok ()) :
    ∃ w, (io.readBmc sensor scale (io.writeBmc sensor scale v m).2).1 = .ok w ∧
      w.toInt = v.toInt.tdiv scale.toInt * scale.toInt := by
  obtain ⟨dir, raw, hlink, hraw, hfitted, hwrote⟩ := writeBmc_ok ok
  obtain ⟨w, hproduct, hw⟩ := Io.product_of_unscaled hraw
  refine ⟨w, ?_, hw⟩
  rw [readBmc_of_fitted hlink hfitted, Bmc.Link.read, hwrote.readInt]
  simp only [Except.mapError, Except.bind, hproduct]

/-! ## Locators -/

/-- What a written value comes back as, through a locator that is no choice: itself from an
attribute, a flag from a GPIO line, and from a sensor the nearest multiple of its scale towards
zero, which is zero for scale zero. -/
inductive Locator.Echoes (v : Int32) : Locator → Int32 → Prop
  | file (path : String) : Echoes v (.file path) v
  | hwmon (device attr : String) : Echoes v (.hwmon device attr) v
  | gpio (line : Gpio) : Echoes v (.gpio line) (if v = 0 then 0 else 1)
  | bmc {sensor : Nat} {scale w : Int32}
      (multiple : w.toInt = v.toInt.tdiv scale.toInt * scale.toInt) :
      Echoes v (.bmc sensor scale) w

/-- Asking for a controller settles whether there is one. -/
theorem answers_hasBmc (io : Io) (m : Machine) :
    io.Answers ((io.hasBmc : Action Fault Machine Bool) m).2 (io.serves m) := by
  rw [Io.Answers, Io.serves, Io.hasBmc]
  cases hlink : io.link with
  | none => rfl
  | some link =>
    have hrun := isFitted_eq (ε := Fault) io m
    simp [hrun]

/-- **What was written reads back.** If writing a value through a locator ends well, then reading
the locator afterwards ends in the value that comes back through what the locator resolves to. -/
theorem read_write (io : Io) (l : Locator) (v : Int32) (m : Machine)
    (ok : (io.write l v m).1 = .ok ()) :
    ∃ w, (io.read l (io.write l v m).2).1 = .ok w ∧ (l.under (io.serves m)).Echoes v w := by
  induction l generalizing m with
  | file path =>
    refine ⟨v, ?_, .file path⟩
    obtain ⟨_, ⟨rfl⟩, hwrote⟩ := (driven_write io (.file path) v m).done () ok
    rw [Io.read, fromTree, Action.inspect_apply, hwrote.readInt]
    rfl
  | hwmon device attr =>
    refine ⟨v, ?_, .hwmon device attr⟩
    obtain ⟨w, hw, hwrote⟩ := (driven_write io (.hwmon device attr) v m).done () ok
    rw [Locator.write?, Locator.writeWhen?] at hw
    have hfound : Hwmon.attributePath io.root device attr
        (io.write (.hwmon device attr) v m).2.tree =
          Hwmon.attributePath io.root device attr m.tree :=
      Root.attributePath_eq hwrote.sameEntries device attr
    cases hpath : Hwmon.attributePath io.root device attr m.tree with
    | error e =>
      rw [hpath] at hw
      cases hw
    | ok path =>
      rw [hpath] at hw hfound
      obtain rfl := Option.some.inj hw
      rw [read_hwmon_of_ok hfound, fromTree, Action.inspect_apply, hwrote.readInt]
      rfl
  | gpio line =>
    refine ⟨_, ?_, .gpio line⟩
    obtain ⟨_, ⟨rfl⟩, hwrote⟩ := (driven_write io (.gpio line) v m).done () ok
    rw [Io.read, Action.bind_eq, onTree_apply, Gpio.isAsserted_of_wrote hwrote]
    by_cases hv : v = 0 <;> simp [hv, Except.mapError]
  | bmc sensor scale =>
    rw [Io.write] at ok ⊢
    obtain ⟨w, hread, hw⟩ := readBmc_of_writeBmc ok
    exact ⟨w, hread, .bmc hw⟩
  | bmcOr sensor scale fallback ih =>
    obtain ⟨m', hrun, -, hserves⟩ := hasBmc_run (ε := Fault) io m
    have hanswers : io.Answers m' (io.serves m) := by
      have h := answers_hasBmc io m
      rwa [hrun] at h
    rw [Io.write, Action.bind_ok hrun] at ok ⊢
    rw [Io.read, Locator.under]
    cases hs : io.serves m with
    | true =>
      rw [hs] at hanswers ok
      simp only [if_true] at ok ⊢
      rw [Action.bind_ok (hasBmc_of_answers (within_writeBmc sensor scale v |>.answers hanswers))]
      obtain ⟨w, hread, hw⟩ := readBmc_of_writeBmc ok
      exact ⟨w, hread, .bmc hw⟩
    | false =>
      rw [hs] at hserves hanswers ok
      simp only [Bool.false_eq_true, if_false] at ok ⊢
      rw [Action.bind_ok (hasBmc_of_answers (within_write fallback v |>.answers hanswers))]
      simpa only [Bool.false_eq_true, if_false, hserves] using ih m' ok

/-- A sensor of scale `-3` gives `-1998` for `-1999`, once the probe has said that its controller is
fitted. -/
theorem sensor_read_write :
    let io : Io :=
      { root := ⟨"/"⟩, link := some (.directory "/bmc"), mode := .auto,
        probe := some ⟨"/fitted", 1⟩ }
    let m : Machine :=
      { tree := .dir [("fitted", .file [49]), ("bmc", .dir [("sensor3", .file [])])] }
    let l : Locator := .bmcOr 3 (-3) (.bmcOr 4 1 (.file "/fan"))
    (io.write l (-1999) m).1 = .ok () ∧ ∃ w, (io.read l (io.write l (-1999) m).2).1 = .ok w ∧
      w = -1998 ∧ (l.under (io.serves m)).Echoes (-1999) w := by
  intro io m l
  have ok : (io.write l (-1999) m).1 = .ok () := by decide +kernel
  have hread : (io.read l (io.write l (-1999) m).2).1 = .ok (-1998) := by decide +kernel
  obtain ⟨w, hw, hechoes⟩ := read_write io l (-1999) m ok
  exact ⟨ok, w, hw, Except.ok.inj (hw.symm.trans hread), hechoes⟩

end SwitchPlatform
