import SwitchPlatform.Proofs.Io.Writing

/-!
# Where an access goes

A choice between a sensor of the controller and a fallback is made by one question: is a controller
fitted? `Io.answer` is what the question is answered with on a machine, and `Locator.under` what a
locator amounts to under an answer: the sensor of the outermost choice, or the innermost fallback.

* On a machine that knows the answer, an access to a locator is the access to what it amounts to
  (`read_under`, `readText_under`, `write_under`).
* An access that asks runs as if the answer had been known (`Asking`), and an access that does not
  ask runs the same whatever the answer is (`Indifferent`).
* An access that the controller serves depends on the attribute of its own sensor and changes
  nothing else (`readBmc_congr`, `within_sensor`), and without a fitted controller nothing depends
  on the link to it (`read_detached`, `readText_detached`, `write_detached`).
-/

namespace SwitchPlatform

open FileTree (Location SameBut)

/-! ## The question and its answer -/

/-- A machine that knows whether a controller is fitted. -/
def Machine.settle (m : Machine) (answer : Bool) : Machine :=
  { m with bmcFitted := some answer }

@[simp] theorem Machine.settle_bmcFitted (m : Machine) (answer : Bool) :
    (m.settle answer).bmcFitted = some answer :=
  rfl

theorem Machine.settle_of_known {m : Machine} {answer : Bool} (h : m.bmcFitted = some answer) :
    m.settle answer = m := by
  rw [settle, ← h]

/-- The answer to whether a controller is fitted: the known one, or what the machine says now. -/
def Io.answer (io : Io) (m : Machine) : Bool :=
  m.bmcFitted.getD (Bmc.isFitted io.mode io.probe io.root m.tree)

/-- What a locator amounts to once it is known whether a controller is fitted. -/
def Locator.under (fitted : Bool) : Locator → Locator
  | .file path => .file path
  | .hwmon device attr => .hwmon device attr
  | .gpio line => .gpio line
  | .bmc sensor scale => .bmc sensor scale
  | .bmcOr sensor scale fallback => if fitted then .bmc sensor scale else fallback.under fitted

/-- Does a locator have to do with the controller? -/
def Locator.usesBmc : Locator → Bool
  | .bmc _ _ => true
  | .bmcOr _ _ _ => true
  | _ => false

/-- Is a locator a choice between the controller and something else? -/
def Locator.isChoice : Locator → Bool
  | .bmcOr _ _ _ => true
  | _ => false

variable {io : Io} {m m' : Machine} {fitted : Bool} {ε ε' α β : Type}

theorem isFitted_eq (io : Io) (m : Machine) :
    (io.isFitted : Action ε Machine Bool) m = (.ok (io.answer m), m.settle (io.answer m)) := by
  rw [Io.isFitted, Io.answer]
  cases h : m.bmcFitted with
  | none => rfl
  | some answer => exact congrArg (Prod.mk _) (Machine.settle_of_known h).symm

theorem isFitted_settle (io : Io) (m : Machine) :
    (io.isFitted : Action ε Machine Bool) m = io.isFitted (m.settle (io.answer m)) := by
  rw [isFitted_eq]
  rfl

/-- What a machine answers that there is a controller, linked and fitted. -/
def Io.Answers (io : Io) (m : Machine) (fitted : Bool) : Prop :=
  match io.link with
  | none => fitted = false
  | some _ => m.bmcFitted = some fitted

theorem answers_of_known {link : Bmc.Link} (hlink : io.link = some link)
    (h : m.bmcFitted = some fitted) : io.Answers m fitted := by
  rw [Io.Answers, hlink]
  exact h

theorem answers_false (io : Io) (h : m.bmcFitted = some false) : io.Answers m false := by
  rw [Io.Answers]
  split
  · rfl
  · exact h

theorem hasBmc_of_answers (h : io.Answers m fitted) :
    (io.hasBmc : Action ε Machine Bool) m = (.ok fitted, m) := by
  rw [Io.Answers] at h
  rw [Io.hasBmc]
  cases hlink : io.link with
  | none =>
    rw [hlink] at h
    cases h
    rfl
  | some link =>
    rw [hlink] at h
    exact isFitted_of_some h

theorem bmc_of_answers {link : Bmc.Link} (hlink : io.link = some link)
    (h : m.bmcFitted = some fitted) :
    io.bmc m = (if fitted then .ok link else .error .missing, m) := by
  rw [Io.bmc, hlink]
  dsimp only
  rw [Action.bind_ok (isFitted_of_some h)]
  cases fitted <;> rfl

/-- Without a fitted controller there is no link to use. -/
theorem bmc_of_not_fitted (io : Io) (h : m.bmcFitted = some false) :
    io.bmc m = (.error .missing, m) := by
  cases hlink : io.link with
  | none =>
    rw [Io.bmc, hlink]
    rfl
  | some link => exact bmc_of_answers hlink h

/-- Writing a value that has a quotient asks for the link and writes through it. -/
theorem writeBmc_of_unscaled {v scale raw : Int32} (hraw : Io.unscaled? v scale = some raw)
    (io : Io) (sensor : Nat) :
    io.writeBmc sensor scale v = io.bmc.mapError Fault.status >>= fun link =>
      ((link.write io.root sensor raw).zoom Machine.tree fun t m =>
        { m with tree := t }).mapError Fault.status := by
  rw [Io.writeBmc, hraw]
  rfl

theorem writeBmc_of_overflow {v scale : Int32} (hraw : Io.unscaled? v scale = none) (io : Io)
    (sensor : Nat) : io.writeBmc sensor scale v = .fail .quotientOverflow := by
  rw [Io.writeBmc, hraw]

/-- A value that is missing counts as none. -/
def Io.orNone : Except StatusError α → Except StatusError (Option α)
  | .ok v => .ok (some v)
  | .error .missing => .ok none
  | .error e => .error e

theorem optional_eq (x : Access α) (m : Machine) :
    Io.optional x m = (Io.orNone (x m).1, (x m).2) := by
  rw [Io.optional, Action.bind_eq, Action.attempt_apply]
  dsimp only
  rcases (x m).1 with e | v
  · cases e <;> rfl
  · rfl

/-! ## Locators under an answer -/

theorem read_under (h : io.Answers m fitted) (l : Locator) :
    io.read l m = io.read (l.under fitted) m := by
  induction l with
  | bmcOr sensor scale fallback ih =>
    rw [Io.read, Action.bind_ok (hasBmc_of_answers h), Locator.under]
    cases fitted with
    | true => rfl
    | false => exact ih
  | _ => rfl

theorem read?_under (h : io.Answers m fitted) (l : Locator) :
    io.read? l m = io.read? (l.under fitted) m := by
  rw [Io.read?, Io.read?, optional_eq, optional_eq, read_under h]

theorem readText_under (h : io.Answers m fitted) (l : Locator) :
    io.readText l m = io.readText (l.under fitted) m := by
  induction l with
  | bmcOr sensor scale fallback ih =>
    rw [Io.readText, Action.bind_ok (hasBmc_of_answers h), Locator.under]
    cases fitted with
    | true => rfl
    | false => exact ih
  | _ => rfl

theorem write_under (h : io.Answers m fitted) (l : Locator) (v : Int32) :
    io.write l v m = io.write (l.under fitted) v m := by
  induction l with
  | bmcOr sensor scale fallback ih =>
    rw [Io.write, Action.bind_ok (hasBmc_of_answers h), Locator.under]
    cases fitted with
    | true => rfl
    | false => exact ih
  | _ => rfl

/-! ## Asking, and not asking -/

/-- An access that asks first: it runs as if the answer had been known. -/
def Asking (io : Io) (x : Action ε Machine α) : Prop :=
  ∀ m, x m = x (m.settle (io.answer m))

namespace Asking

theorem bind {x : Action ε Machine α} (hx : Asking io x) (f : α → Action ε Machine β) :
    Asking io (x >>= f) := by
  intro m
  rw [Action.bind_apply, Action.bind_apply, ← hx m]

theorem attempt {x : Action ε Machine α} (hx : Asking io x) :
    Asking io (x.attempt : Action ε' Machine (Except ε α)) := by
  intro m
  rw [Action.attempt_apply, Action.attempt_apply, ← hx m]

theorem mapError {x : Action ε Machine α} (hx : Asking io x) (f : ε → ε') :
    Asking io (x.mapError f) := by
  intro m
  rw [Action.mapError_eq, Action.mapError_eq, ← hx m]

variable {link : Bmc.Link}

theorem hasBmc (hlink : io.link = some link) :
    Asking io (io.hasBmc : Action ε Machine Bool) := by
  intro m
  rw [Io.hasBmc, hlink]
  exact isFitted_settle io m

theorem bmc (hlink : io.link = some link) : Asking io io.bmc := by
  rw [Io.bmc, hlink]
  exact bind (isFitted_settle io) _

theorem read (hlink : io.link = some link) {l : Locator} (hl : l.usesBmc = true) :
    Asking io (io.read l) := by
  cases l with
  | bmc sensor scale => exact (bmc hlink).bind _
  | bmcOr sensor scale fallback => exact (hasBmc hlink).bind _
  | _ => cases hl

theorem read? (hlink : io.link = some link) {l : Locator} (hl : l.usesBmc = true) :
    Asking io (io.read? l) :=
  (read hlink hl).attempt.bind _

theorem readText (hlink : io.link = some link) {l : Locator} (hl : l.isChoice = true) :
    Asking io (io.readText l) := by
  cases l with
  | bmcOr sensor scale fallback => exact (hasBmc hlink).bind _
  | _ => cases hl

end Asking

/-- An access that runs the same whether a controller is fitted or not, and whether that is known
or not. -/
def Indifferent (x : Action ε Machine α) : Prop :=
  ∀ m answer, x { m with bmcFitted := answer } = ((x m).1, { (x m).2 with bmcFitted := answer })

namespace Indifferent

theorem ofExcept (r : Except ε α) : Indifferent (Action.ofExcept r : Action ε Machine α) :=
  fun _ _ => rfl

theorem pure (a : α) : Indifferent (Pure.pure a : Action ε Machine α) :=
  ofExcept (.ok a)

theorem fail (e : ε) : Indifferent (Action.fail e : Action ε Machine α) :=
  ofExcept (.error e)

theorem fromTree (f : FileTree → Except AttributeError α) :
    Indifferent (SwitchPlatform.fromTree f) :=
  fun _ _ => rfl

theorem onTree (x : Action AttributeError FileTree α) : Indifferent (SwitchPlatform.onTree x) := by
  intro m answer
  rw [onTree_apply, onTree_apply]

theorem mapError {x : Action ε Machine α} (hx : Indifferent x) (f : ε → ε') :
    Indifferent (x.mapError f) := by
  intro m answer
  rw [Action.mapError_eq, Action.mapError_eq, hx m answer]

theorem attempt {x : Action ε Machine α} (hx : Indifferent x) :
    Indifferent (x.attempt : Action ε' Machine (Except ε α)) := by
  intro m answer
  rw [Action.attempt_apply, Action.attempt_apply, hx m answer]

theorem bind {x : Action ε Machine α} {f : α → Action ε Machine β} (hx : Indifferent x)
    (hf : ∀ a, Indifferent (f a)) : Indifferent (x >>= f) := by
  intro m answer
  rw [Action.bind_eq, Action.bind_eq, hx m answer]
  cases (x m).1 with
  | ok a => exact hf a (x m).2 answer
  | error e => rfl

theorem readHwmon (device attr : String) : Indifferent (io.readHwmon device attr) :=
  (fromTree _).bind fun _ => fromTree _

theorem read {l : Locator} (hl : l.usesBmc = false) : Indifferent (io.read l) := by
  cases l with
  | file path => exact fromTree _
  | hwmon device attr => exact readHwmon device attr
  | gpio line => exact (onTree _).bind fun _ => pure _
  | bmc sensor scale => cases hl
  | bmcOr sensor scale fallback => cases hl

theorem read? {l : Locator} (hl : l.usesBmc = false) : Indifferent (io.read? l) := by
  refine (read hl).attempt.bind fun outcome => ?_
  split
  · exact pure _
  · exact pure _
  · exact fail _

theorem readText {l : Locator} (hl : l.isChoice = false) : Indifferent (io.readText l) := by
  cases l with
  | file path => exact fromTree _
  | hwmon device attr => exact (fromTree _).bind fun _ => fromTree _
  | gpio line => exact fail _
  | bmc sensor scale => exact fail _
  | bmcOr sensor scale fallback => cases hl

end Indifferent

/-- Does writing a value ask for the controller? A value that has no quotient is refused first. -/
def Locator.asksToWrite (v : Int32) : Locator → Bool
  | .bmc _ scale => (Io.unscaled? v scale).isSome
  | .bmcOr _ _ _ => true
  | _ => false

theorem Asking.write {link : Bmc.Link} (hlink : io.link = some link) {l : Locator} {v : Int32}
    (hl : l.asksToWrite v = true) : Asking io (io.write l v) := by
  cases l with
  | bmc sensor scale =>
    obtain ⟨raw, hraw⟩ := Option.isSome_iff_exists.1 hl
    rw [Io.write, writeBmc_of_unscaled hraw]
    exact ((Asking.bmc hlink).mapError _).bind _
  | bmcOr sensor scale fallback =>
    rw [Io.write]
    exact (Asking.hasBmc hlink).bind _
  | _ => cases hl

theorem Indifferent.write {l : Locator} {v : Int32} (hl : l.asksToWrite v = false) :
    Indifferent (io.write l v) := by
  cases l with
  | file path =>
    rw [Io.write]
    exact (Indifferent.onTree _).mapError _
  | hwmon device attr =>
    rw [Io.write]
    exact ((Indifferent.fromTree _).mapError _).bind fun _ => (Indifferent.onTree _).mapError _
  | gpio line =>
    rw [Io.write]
    exact (Indifferent.onTree _).mapError _
  | bmc sensor scale =>
    have hraw : Io.unscaled? v scale = none :=
      Option.isNone_iff_eq_none.1 (Option.isSome_eq_false_iff.1 hl)
    rw [Io.write, writeBmc_of_overflow hraw]
    exact Indifferent.fail _
  | bmcOr sensor scale fallback => cases hl

/-! ## Served by the controller -/

/-- The value of a sensor of a fitted controller. -/
theorem readBmc_of_fitted {link : Bmc.Link} (hlink : io.link = some link)
    (h : m.bmcFitted = some true) (sensor : Nat) (scale : Int32) :
    io.readBmc sensor scale m =
      ((link.read io.root sensor m.tree).bind fun raw =>
        match Text.int32? (raw.toInt * scale.toInt) with
        | some v => .ok v
        | none => .error .invalid, m) := by
  rw [Io.readBmc, Action.bind_ok (bmc_of_answers hlink h), Action.bind_apply, Action.inspect_apply]
  cases link.read io.root sensor m.tree with
  | error e => rfl
  | ok raw =>
    dsimp only [Except.bind]
    cases Text.int32? (raw.toInt * scale.toInt) <;> rfl

/-- Two machines that know that a controller is fitted and have the same file for a sensor. -/
structure SameSensor (io : Io) (path : String) (m m' : Machine) : Prop where
  fitted : m.bmcFitted = some true
  fitted' : m'.bmcFitted = some true
  file : m'.tree.openFile (io.root.resolve path) = m.tree.openFile (io.root.resolve path)

/-- **What a sensor reads as depends on its own attribute.** -/
theorem readBmc_congr {dir : String} (hlink : io.link = some (.directory dir)) {sensor : Nat}
    (scale : Int32) (same : SameSensor io (Bmc.Link.sensorPath dir sensor) m m') :
    (io.readBmc sensor scale m').1 = (io.readBmc sensor scale m).1 := by
  have hread : io.root.readInt (Bmc.Link.sensorPath dir sensor) m'.tree =
      io.root.readInt (Bmc.Link.sensorPath dir sensor) m.tree := by
    unfold Root.readInt Root.readText FileTree.readAll
    rw [same.file]
  rw [readBmc_of_fitted hlink same.fitted', readBmc_of_fitted hlink same.fitted, Bmc.Link.read,
    Bmc.Link.read, hread]

/-- **Whether a sensor can be written depends on its own attribute.** -/
theorem writeBmc_congr {dir : String} (hlink : io.link = some (.directory dir)) {sensor : Nat}
    (scale v : Int32) (same : SameSensor io (Bmc.Link.sensorPath dir sensor) m m') :
    (io.writeBmc sensor scale v m').1 = (io.writeBmc sensor scale v m).1 := by
  cases hraw : Io.unscaled? v scale with
  | none =>
    rw [writeBmc_of_overflow hraw]
    rfl
  | some raw =>
    rw [writeBmc_of_unscaled hraw, Action.bind_eq, Action.bind_eq, Action.mapError_eq,
      Action.mapError_eq, bmc_of_answers hlink same.fitted', bmc_of_answers hlink same.fitted]
    simp only [if_true, Except.mapError, Action.mapError_eq, Action.zoom_eq, Bmc.Link.write,
      Root.writeInt, Root.writeText_apply, same.file]
    cases m.tree.openFile (io.root.resolve (Bmc.Link.sensorPath dir sensor)) <;> rfl

/-- **Writing a sensor changes its own attribute at most.** -/
theorem within_sensor {dir : String} (hlink : io.link = some (.directory dir)) (sensor : Nat)
    (scale v : Int32) {t : FileTree} :
    Within (io.root.Opens t (Bmc.Link.sensorPath dir sensor)) t (io.writeBmc sensor scale v) := by
  cases hraw : Io.unscaled? v scale with
  | none =>
    rw [writeBmc_of_overflow hraw]
    exact .fail _
  | some raw =>
    rw [writeBmc_of_unscaled hraw]
    refine (Within.bmc.mapError _).bind_of fun link m _ hfound => Within.mapError ?_ _
    have hdir := link_of_bmc (Action.ok_of_mapError hfound)
    rw [hlink, Option.some.injEq] at hdir
    subst hdir
    intro m same
    have hwrite := Root.sameBut_writeText io.root (Bmc.Link.sensorPath dir sensor)
      (toString raw.toInt) m.tree
    rw [Action.zoom_eq, Bmc.Link.write, Action.mapError_eq, Root.writeInt]
    generalize io.root.writeText (Bmc.Link.sensorPath dir sensor) (toString raw.toInt) m.tree = run
      at hwrite
    have htree := same.trans (hwrite.mono fun loc h => (Root.opens_iff same).1 h)
    exact { tree := htree, fitted := fun _ hm => hm, duty := rfl }

/-! ## Without a controller -/

theorem readBmc_of_not_fitted (io : Io) (h : m.bmcFitted = some false) (sensor : Nat)
    (scale : Int32) : io.readBmc sensor scale m = (.error .missing, m) := by
  rw [Io.readBmc, Action.bind_error (bmc_of_not_fitted io h)]

theorem writeBmc_detached (io : Io) (h : m.bmcFitted = some false) (other : Option Bmc.Link)
    (sensor : Nat) (scale v : Int32) :
    { io with link := other }.writeBmc sensor scale v m = io.writeBmc sensor scale v m := by
  cases hraw : Io.unscaled? v scale with
  | none => rw [writeBmc_of_overflow hraw, writeBmc_of_overflow hraw]
  | some raw =>
    rw [writeBmc_of_unscaled hraw, writeBmc_of_unscaled hraw, Action.bind_eq, Action.bind_eq,
      Action.mapError_eq, Action.mapError_eq, bmc_of_not_fitted _ h, bmc_of_not_fitted _ h]

/-- **Without a fitted controller, nothing is read through the link to it.** -/
theorem read_detached (io : Io) (h : m.bmcFitted = some false) (other : Option Bmc.Link)
    (l : Locator) : { io with link := other }.read l m = io.read l m := by
  induction l with
  | bmc sensor scale =>
    rw [Io.read, Io.read, readBmc_of_not_fitted _ h, readBmc_of_not_fitted _ h]
  | bmcOr sensor scale fallback ih =>
    rw [Io.read, Io.read, Action.bind_ok (hasBmc_of_answers (answers_false _ h)),
      Action.bind_ok (hasBmc_of_answers (answers_false _ h))]
    exact ih
  | _ => rfl

theorem read?_detached (io : Io) (h : m.bmcFitted = some false) (other : Option Bmc.Link)
    (l : Locator) : { io with link := other }.read? l m = io.read? l m := by
  rw [Io.read?, Io.read?, optional_eq, optional_eq, read_detached io h]

theorem readText_detached (io : Io) (h : m.bmcFitted = some false) (other : Option Bmc.Link)
    (l : Locator) : { io with link := other }.readText l m = io.readText l m := by
  induction l with
  | bmcOr sensor scale fallback ih =>
    rw [Io.readText, Io.readText, Action.bind_ok (hasBmc_of_answers (answers_false _ h)),
      Action.bind_ok (hasBmc_of_answers (answers_false _ h))]
    exact ih
  | _ => rfl

theorem write_detached (io : Io) (h : m.bmcFitted = some false) (other : Option Bmc.Link)
    (l : Locator) (v : Int32) : { io with link := other }.write l v m = io.write l v m := by
  induction l with
  | bmc sensor scale => exact writeBmc_detached io h other sensor scale v
  | bmcOr sensor scale fallback ih =>
    rw [Io.write, Io.write, Action.bind_ok (hasBmc_of_answers (answers_false _ h)),
      Action.bind_ok (hasBmc_of_answers (answers_false _ h))]
    exact ih
  | _ => rfl

end SwitchPlatform
