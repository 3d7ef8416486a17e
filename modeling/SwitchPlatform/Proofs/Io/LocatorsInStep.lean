import SwitchPlatform.Proofs.Io.InStep
import SwitchPlatform.Proofs.Text.AttributeInt

/-!
# Reading and writing in step

Two machines over a ground, of which the second one knows the answer of the first one to whether a
controller is fitted, export the same lines, and read the same through a locator that spares the
files that may be written (`inStep_read`). A duty reads as an integer on both or on neither
(`inStep_readDuty?`), and text is readable on both or on neither (`inStep_readText`). Writing one
value into an attribute is in step if the attribute is a file of the ground (`inStep_write`).
-/

namespace SwitchPlatform

open FileTree (Location SameBut)

variable {g : Ground} {ε : Type}

/-! ## The controller -/

theorem inStep_isFitted :
    InStep g (· = ·) (g.io.isFitted : Action ε Machine Bool) g.io.isFitted := by
  constructor
  · intro m _ answer hanswer
    rw [isFitted_of_some hanswer]
    exact hanswer
  · intro m₁ m₂ h₁ h₂ hs
    rw [isFitted_eq] at hs ⊢
    rw [isFitted_of_some (hs.resolve_left (Option.some_ne_none _))]
    exact { outcome := .ok rfl, toSameChanges := .of_same (h₁.of_tree rfl) h₂ rfl rfl
            left_duty := rfl, right_duty := rfl, right_fitted := rfl }

theorem inStep_hasBmc :
    InStep g (· = ·) (g.io.hasBmc : Action ε Machine Bool) g.io.hasBmc := by
  rw [Io.hasBmc]
  split
  · exact inStep_isFitted
  · exact .pure rfl

theorem inStep_bmc : InStep g (fun a b => a = b ∧ g.io.link = some a) g.io.bmc g.io.bmc := by
  rw [Io.bmc]
  split
  · exact .fail _
  · rename_i link hlink
    refine inStep_isFitted.bind ?_
    rintro answer _ rfl
    cases answer with
    | true => exact .pure ⟨rfl, hlink⟩
    | false => exact .fail _

/-! ## Writing one text -/

/-- **Writing one text to a file of the ground is in step.** -/
theorem inStep_writeText {path content : String}
    (h : ∀ loc, g.io.root.Opens g.tree path loc → g.Free loc ∧
      (g.duty loc → g.tree.HoldsInt loc ∧ IsIntText (Text.Utf8.encode content))) :
    InStep g (· = ·) (onTree (g.io.root.writeText path content))
      (onTree (g.io.root.writeText path content)) := by
  refine ⟨fun m _ answer hanswer => by rwa [onTree_apply], fun m₁ m₂ h₁ h₂ _ => ?_⟩
  rw [onTree_apply, onTree_apply, Root.writeText_apply, Root.writeText_apply]
  cases hopen : g.tree.openFile (g.io.root.resolve path) with
  | error e =>
    rw [h₁.tree.openFile_error hopen, h₂.tree.openFile_error hopen]
    exact { outcome := .error _, toSameChanges := .of_same h₁ h₂ rfl rfl
            left_duty := rfl, right_duty := rfl, right_fitted := rfl }
  | ok file =>
    obtain ⟨loc, bs⟩ := file
    obtain ⟨b₁, hopen₁, -⟩ := h₁.tree.openFile hopen
    obtain ⟨b₂, hopen₂, -⟩ := h₂.tree.openFile hopen
    have hthere₁ := FileTree.fileAt?_of_openFile hopen₁
    have hthere₂ := FileTree.fileAt?_of_openFile hopen₂
    obtain ⟨hfree, hint⟩ := h loc ⟨bs, hopen⟩
    rw [hopen₁, hopen₂]
    refine { outcome := .ok rfl, left := h₁.setContent hthere₁ hfree hint
             right := h₂.setContent hthere₂ hfree hint, files := fun q => ?_
             left_duty := rfl, right_duty := rfl, right_fitted := rfl }
    rw [FileTree.fileAt?_setContent hthere₁, FileTree.fileAt?_setContent hthere₂]
    split_ifs
    · exact .inr rfl
    · exact .inl ⟨rfl, rfl⟩

/-! ## GPIO lines -/

theorem onTree_bind {α β : Type} (x : Action AttributeError FileTree α)
    (f : α → Action AttributeError FileTree β) :
    onTree (x >>= f) = onTree x >>= fun a => onTree (f a) := by
  funext m
  rw [onTree_apply, Action.bind_eq, Action.bind_eq, onTree_apply]
  dsimp only
  cases (x m.tree).1 with
  | ok a =>
    dsimp only [Except.mapError]
    rw [onTree_apply]
    rfl
  | error e => rfl

theorem onTree_inspect {α : Type} (f : FileTree → Except AttributeError α) :
    onTree (Action.inspect f) = fromTree f := by
  funext m
  rw [onTree_apply, fromTree, Action.inspect_apply, Action.inspect_apply]

theorem onTree_ofExcept {α : Type} (r : Except AttributeError α) :
    onTree (Action.ofExcept r) = Action.ofExcept (r.mapError AttributeError.status) := by
  funext m
  rw [onTree_apply, Action.ofExcept_apply, Action.ofExcept_apply]

theorem inStep_requestExport (line : Gpio) :
    InStep g (· = ·) (onTree (line.requestExport g.io.root))
      (onTree (line.requestExport g.io.root)) := by
  rw [Gpio.requestExport]
  split
  · refine inStep_writeText fun loc hopen => ⟨.inr (.inr hopen), fun hduty => ?_⟩
    exact absurd hopen (g.duty_apart loc hduty).2
  · exact .fail _

/-- A line is exported on both machines or on neither. -/
theorem inStep_ensureExported (line : Gpio) :
    InStep g (· = ·) (onTree (line.ensureExported g.io.root))
      (onTree (line.ensureExported g.io.root)) := by
  have hrun : ∀ m, g.Carries m → onTree (line.ensureExported g.io.root) m =
      (if g.io.root.hasEntry line.valuePath g.tree then pure ()
        else onTree (line.requestExport g.io.root)) m := by
    intro m h
    rw [onTree_apply, line.ensureExported_apply, Root.hasEntry_eq h.tree]
    split
    · rfl
    · exact (onTree_apply _ m).symm
  refine .congr hrun hrun ?_
  split
  · exact .pure rfl
  · exact inStep_requestExport line

theorem inStep_readInt {path : String}
    (h : ∀ loc, g.io.root.Opens g.tree path loc → ¬g.Free loc) :
    InStep g (· = ·) (fromTree (g.io.root.readInt path)) (fromTree (g.io.root.readInt path)) := by
  have hlook : InStep g _ (fromTree (g.io.root.readInt path)) (fromTree (g.io.root.readInt path)) :=
    .fromTree (f := g.io.root.readInt path) fun t same => Root.readInt_eq same h
  exact hlook.mono fun _ _ hab => hab.1

theorem inStep_isAsserted {line : Gpio} (h : g.Spares (.gpio line)) :
    InStep g (· = ·) (onTree (line.isAsserted g.io.root)) (onTree (line.isAsserted g.io.root)) := by
  rw [Gpio.isAsserted, onTree_bind]
  refine (inStep_ensureExported line).bind fun _ _ _ => ?_
  rw [onTree_bind, onTree_inspect]
  refine (inStep_readInt fun loc hopen => h loc ⟨line.valuePath, .gpio line, hopen⟩).bind ?_
  rintro level _ rfl
  rw [onTree_ofExcept]
  exact .ofExcept ((SameOutcome.self _).mono fun _ _ hab => hab.1)

/-! ## Reading -/

theorem inStep_readBmc {sensor : Nat} {scale : Int32} (h : g.Spares (.bmc sensor scale)) :
    InStep g (· = ·) (g.io.readBmc sensor scale) (g.io.readBmc sensor scale) := by
  rw [Io.readBmc]
  refine inStep_bmc.bind ?_
  rintro link _ ⟨rfl, hlink⟩
  have hread : ∀ t, SameBut g.Free g.tree t →
      link.read g.io.root sensor t = link.read g.io.root sensor g.tree := by
    intro t same
    cases link with
    | directory dir =>
      rw [Bmc.Link.read, Bmc.Link.read,
        Root.readInt_eq same fun loc hopen => h loc ⟨_, .bmc hlink, hopen⟩]
    | values entries => rfl
  refine (InStep.inspect hread).bind ?_
  rintro raw _ ⟨rfl, -⟩
  split
  · exact .pure rfl
  · exact .fail _

/-- The path that a locator of a sensor directory leads to is the same. -/
theorem inStep_attributePath (device attr : String) :
    InStep g (fun a b => a = b ∧ Hwmon.attributePath g.io.root device attr g.tree = .ok a)
      (fromTree (Hwmon.attributePath g.io.root device attr))
      (fromTree (Hwmon.attributePath g.io.root device attr)) :=
  .fromTree fun _ same => Root.attributePath_eq same device attr

/-- **What spares the files that may be written reads the same.** -/
theorem inStep_read {l : Locator} (h : g.Spares l) :
    InStep g (· = ·) (g.io.read l) (g.io.read l) := by
  induction l with
  | file path => exact inStep_readInt fun loc hopen => h loc ⟨path, .file path, hopen⟩
  | hwmon device attr =>
    refine (inStep_attributePath device attr).bind ?_
    rintro path _ ⟨rfl, hfound⟩
    exact inStep_readInt fun loc hopen => h loc ⟨path, .hwmon hfound, hopen⟩
  | gpio line =>
    refine (inStep_isAsserted h).bind ?_
    rintro asserted _ rfl
    exact .pure rfl
  | bmc sensor scale => exact inStep_readBmc h
  | bmcOr sensor scale fallback ih =>
    refine inStep_hasBmc.bind ?_
    rintro fitted _ rfl
    cases fitted with
    | true =>
      refine inStep_readBmc fun loc ⟨path, names, hopen⟩ => h loc ⟨path, ?_, hopen⟩
      exact .controller names
    | false =>
      refine ih fun loc ⟨path, names, hopen⟩ => h loc ⟨path, ?_, hopen⟩
      exact .fallback names

theorem inStep_read? {l : Locator} (h : g.Spares l) :
    InStep g (· = ·) (g.io.read? l) (g.io.read? l) := by
  refine (inStep_read h).optional.mono ?_
  rintro _ _ (rfl | _) <;> rfl

/-- Text can be read on both machines or on neither. -/
theorem inStep_readText (l : Locator) :
    InStep g (fun _ _ => True) (g.io.readText l) (g.io.readText l) := by
  have hpath : ∀ path, InStep g (fun _ _ => True) (fromTree (g.io.root.readText path))
      (fromTree (g.io.root.readText path)) := by
    refine fun path => .of_still (fun _ _ => rfl) (fun _ _ => rfl) fun m₁ m₂ h₁ h₂ => ?_
    rw [fromTree, Action.inspect_apply, Action.inspect_apply]
    unfold Root.readText FileTree.readAll
    cases hopen : g.tree.openFile (g.io.root.resolve path) with
    | error e =>
      rw [h₁.tree.openFile_error hopen, h₂.tree.openFile_error hopen]
      exact .error _
    | ok file =>
      obtain ⟨b₁, hopen₁, -⟩ := h₁.tree.openFile hopen
      obtain ⟨b₂, hopen₂, -⟩ := h₂.tree.openFile hopen
      rw [hopen₁, hopen₂]
      exact .ok trivial
  induction l with
  | file path => exact hpath path
  | hwmon device attr =>
    refine (inStep_attributePath device attr).bind ?_
    rintro path _ ⟨rfl, -⟩
    exact hpath path
  | gpio line => exact .fail _
  | bmc sensor scale => exact .fail _
  | bmcOr sensor scale fallback ih =>
    refine inStep_hasBmc.bind ?_
    rintro fitted _ rfl
    cases fitted with
    | true => exact .fail _
    | false => exact ih

/-! ## Duties -/

/-- An attribute that opens a file reads as an integer if the file does. -/
theorem readInt_of_open {root : Root} {path : String} {t : FileTree} {loc : Location}
    {bs : List UInt8} (hopen : t.openFile (root.resolve path) = .ok (loc, bs)) :
    (t.HoldsInt loc ∧ ∃ v, root.readInt path t = .ok v) ∨
      (¬t.HoldsInt loc ∧ ∃ content, root.readInt path t = .error (.unreadable path content)) := by
  have hthere := FileTree.fileAt?_of_openFile hopen
  have hholds : t.HoldsInt loc ↔ IsIntText bs := by
    rw [FileTree.HoldsInt, hthere]
    simp
  rw [hholds, IsIntText]
  unfold Root.readInt Root.readText FileTree.readAll
  rw [hopen]
  dsimp only [Except.map]
  cases Text.attributeInt? (Text.trim (Text.Utf8.decodeLossy bs)) with
  | some v => exact .inl ⟨rfl, v, rfl⟩
  | none => exact .inr ⟨by simp, _, rfl⟩

/-- A duty at a path, which may be missing. -/
theorem inStep_dutyAt {path : String} (h : ∀ loc, g.io.root.Opens g.tree path loc → g.duty loc) :
    InStep g (fun _ _ => ∀ loc, g.io.root.Opens g.tree path loc → g.tree.HoldsInt loc)
      (Io.optional (fromTree (g.io.root.readInt path)))
      (Io.optional (fromTree (g.io.root.readInt path))) := by
  have hrun : ∀ m, Io.optional (fromTree (g.io.root.readInt path)) m =
      (Io.orNone ((g.io.root.readInt path m.tree).mapError AttributeError.status), m) := by
    intro m
    rw [optional_eq, fromTree, Action.inspect_apply]
  refine .of_still (fun m _ => by rw [hrun]) (fun m _ => by rw [hrun]) fun m₁ m₂ h₁ h₂ => ?_
  rw [hrun, hrun]
  cases hopen : g.tree.openFile (g.io.root.resolve path) with
  | error e =>
    have hread : ∀ m, g.Carries m → g.io.root.readInt path m.tree = .error (.ofHost path e) := by
      intro m hm
      unfold Root.readInt Root.readText FileTree.readAll
      rw [hm.tree.openFile_error hopen]
      rfl
    rw [hread m₁ h₁, hread m₂ h₂]
    refine (SameOutcome.self _).mono fun _ _ _ loc hloc => ?_
    obtain ⟨bs, hbs⟩ := hloc
    rw [hopen] at hbs
    cases hbs
  | ok file =>
    obtain ⟨loc, bs⟩ := file
    have hduty : g.duty loc := h loc ⟨bs, hopen⟩
    have hread : ∀ m, g.Carries m →
        (g.tree.HoldsInt loc ∧ ∃ v, g.io.root.readInt path m.tree = .ok v) ∨
          (¬g.tree.HoldsInt loc ∧
            ∃ content, g.io.root.readInt path m.tree = .error (.unreadable path content)) := by
      intro m hm
      obtain ⟨b, hb, -⟩ := hm.tree.openFile hopen
      rw [← hm.readable loc hduty]
      exact readInt_of_open hb
    obtain ⟨hholds, v₁, hv₁⟩ | ⟨hno, c₁, hc₁⟩ := hread m₁ h₁
    · obtain ⟨-, v₂, hv₂⟩ | ⟨hno, -⟩ := hread m₂ h₂
      · rw [hv₁, hv₂]
        refine .ok fun loc' hopen' => ?_
        rwa [hopen'.unique ⟨bs, hopen⟩]
      · exact absurd hholds hno
    · obtain ⟨hholds, -⟩ | ⟨-, c₂, hc₂⟩ := hread m₂ h₂
      · exact absurd hholds hno
      · rw [hc₁, hc₂]
        exact .error _

/-- Reading in a sensor directory is reading at the path that it leads to. -/
theorem read_hwmon_of_ok {io : Io} {device attr path : String} {m : Machine}
    (found : Hwmon.attributePath io.root device attr m.tree = .ok path) :
    io.read (.hwmon device attr) m = fromTree (io.root.readInt path) m := by
  rw [Io.read, Io.readHwmon, Action.bind_eq, fromTree, Action.inspect_apply, found]
  rfl

/-- **A duty reads as an integer on both machines or on neither**; it may be missing. -/
theorem inStep_readDuty? {l : Locator} (hl : l.IsAttribute)
    (h : ∀ loc, l.Targets g.io g.tree loc → g.duty loc) :
    InStep g (fun _ _ => ∀ loc, l.Targets g.io g.tree loc → g.tree.HoldsInt loc) (g.io.read? l)
      (g.io.read? l) := by
  cases hl with
  | file path =>
    refine (inStep_dutyAt fun loc hopen => h loc ⟨path, .file path, hopen⟩).mono ?_
    rintro _ _ hholds loc ⟨_, ⟨⟩, hopen⟩
    exact hholds loc hopen
  | hwmon device attr =>
    cases hfound : Hwmon.attributePath g.io.root device attr g.tree with
    | ok path =>
      have hrun : ∀ m, g.Carries m → g.io.read? (.hwmon device attr) m =
          Io.optional (fromTree (g.io.root.readInt path)) m := by
        intro m hm
        rw [Io.read?, optional_eq, optional_eq, read_hwmon_of_ok]
        rw [Root.attributePath_eq hm.tree, hfound]
      refine .congr hrun hrun ((inStep_dutyAt fun loc hopen =>
        h loc ⟨path, .hwmon hfound, hopen⟩).mono ?_)
      rintro _ _ hholds loc ⟨path', names, hopen⟩
      cases names with
      | hwmon found =>
        rw [hfound] at found
        cases found
        exact hholds loc hopen
    | error e =>
      have hrun : ∀ m, g.Carries m → g.io.read? (.hwmon device attr) m =
          Io.optional (.fail e.status) m := by
        intro m hm
        rw [Io.read?, optional_eq, optional_eq, Io.read, Io.readHwmon, Action.bind_eq, fromTree,
          Action.inspect_apply, Root.attributePath_eq hm.tree, hfound]
        rfl
      refine .congr hrun hrun ((InStep.fail (Q := fun _ _ => True) _).optional.mono ?_)
      rintro _ _ - loc ⟨path, names, -⟩
      cases names with
      | hwmon found =>
        rw [hfound] at found
        cases found

/-! ## Writing -/

/-- What is written as an integer reads as one. -/
theorem isIntText_decimal (v : Int32) : IsIntText (Text.Utf8.encode (toString v.toInt)) := by
  rw [IsIntText, Text.attributeInt?_written]
  rfl

/-- **Writing one value into an attribute of the ground is in step**, if what is a duty reads as an
integer before. -/
theorem inStep_write {l : Locator} (hl : l.IsAttribute) (v : Int32)
    (h : ∀ loc, l.Targets g.io g.tree loc → g.Free loc ∧ (g.duty loc → g.tree.HoldsInt loc)) :
    InStep g (· = ·) (g.io.write l v) (g.io.write l v) := by
  have hpath : ∀ path, (∀ loc, g.io.root.Opens g.tree path loc → l.Targets g.io g.tree loc) →
      InStep g (· = ·) (onTree (g.io.root.writeInt path v))
        (onTree (g.io.root.writeInt path v)) := by
    refine fun path hopens => inStep_writeText fun loc hopen => ?_
    obtain ⟨hfree, hholds⟩ := h loc (hopens loc hopen)
    exact ⟨hfree, fun hduty => ⟨hholds hduty, isIntText_decimal v⟩⟩
  cases hl with
  | file path =>
    rw [Io.write]
    exact (hpath path fun loc hopen => ⟨path, .file path, hopen⟩).lift
  | hwmon device attr =>
    rw [Io.write]
    refine (inStep_attributePath device attr).lift.bind ?_
    rintro path _ ⟨rfl, hfound⟩
    exact (hpath path fun loc hopen => ⟨path, .hwmon hfound, hopen⟩).lift

end SwitchPlatform
