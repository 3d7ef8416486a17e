import Mathlib.Tactic
import SwitchPlatform.Proofs.FileTree.Export
import SwitchPlatform.Proofs.Io.Within

/-!
# Quiet operations

Reading never changes a file, but for the attribute that exports GPIO lines, and it settles at
most whether a controller is fitted. `Quiet root t spared x` says so of an operation `x`, and that
its outcome is that on the tree `t`, as long as no file but the export attribute was changed since
then and the locators it reads are `spared`, that is, none of them names the export attribute.

Quiet operations are chained by `Quiet.bind`, so what holds of the readings of single locators
(`quiet_read`, `quiet_readText`) holds of whatever is read through them.
-/

namespace SwitchPlatform

/-- The answer to whether a controller is fitted is that of a run that ended in `m`, as far as it
asked. -/
def Machine.Settled (fitted : Option Bool) (m : Machine) : Prop :=
  m.bmcFitted = none ∨ fitted = m.bmcFitted

/-- An operation on machines whose trees differ from `t` at most in the export attribute. It keeps
them so, and has the outcome that it has on `t` if the locators are `spared`. -/
structure Quiet (root : Root) (t : FileTree) (spared : Prop) {ε α : Type}
    (x : Action ε Machine α) : Prop where
  within : Within (root.Opens t Gpio.exportPath) t x
  same : spared → ∀ m₁ m₂, root.ExportOnly t m₁.tree → root.ExportOnly t m₂.tree →
    (x m₂).2.Settled m₁.bmcFitted → (x m₁).1 = (x m₂).1

/-- What is settled after a run was settled by then before it. -/
theorem Machine.After.settled {free : FileTree.Location → Prop} {t : FileTree} {m m' : Machine}
    (h : m.After free t m') {answer : Option Bool} (hs : m'.Settled answer) : m.Settled answer := by
  cases hfitted : m.bmcFitted with
  | none => exact .inl hfitted
  | some a =>
    rw [Machine.Settled, h.fitted a hfitted] at hs
    rw [Machine.Settled, hfitted]
    exact hs

/-- An answer that was known before a run is known after it. -/
theorem Machine.After.settled_by {free : FileTree.Location → Prop} {t : FileTree}
    {m m' other : Machine} (h : m.After free t m') (hs : other.Settled m.bmcFitted) :
    other.Settled m'.bmcFitted := by
  cases hfitted : other.bmcFitted with
  | none => exact .inl hfitted
  | some a =>
    rw [Machine.Settled, hfitted] at hs
    have hknown := hs.resolve_left (Option.some_ne_none a)
    exact .inr ((h.fitted a hknown).trans hfitted.symm)

namespace Quiet

variable {root : Root} {t : FileTree} {spared spared' : Prop} {ε ε' α β : Type}

theorem mono {x : Action ε Machine α} (h : Quiet root t spared x) (hs : spared' → spared) :
    Quiet root t spared' x :=
  { h with same := fun s => h.same (hs s) }

/-- An outcome that does not depend on the machine. -/
theorem ofExcept (r : Except ε α) : Quiet root t spared (Action.ofExcept r) where
  within := .ofExcept r
  same _ _ _ _ _ _ := rfl

theorem pure (a : α) : Quiet root t spared (Pure.pure a : Action ε Machine α) :=
  ofExcept (.ok a)

theorem fail (e : ε) : Quiet root t spared (Action.fail e : Action ε Machine α) :=
  ofExcept (.error e)

/-- **Quiet operations after each other are quiet**, the second one for the values that the first
one may end in. -/
theorem bind_of {x : Action ε Machine α} {f : α → Action ε Machine β} (hx : Quiet root t spared x)
    (hf : ∀ a m, root.ExportOnly t m.tree → (x m).1 = .ok a → Quiet root t spared (f a)) :
    Quiet root t spared (x >>= f) := by
  refine ⟨hx.within.bind_of fun a m h hr => (hf a m h hr).within, ?_⟩
  intro s m₁ m₂ h₁ h₂ hs
  rw [Action.bind_eq, Action.bind_eq] at *
  cases hr : (x m₂).1 with
  | error e =>
    rw [hr] at hs
    rw [hx.same s m₁ m₂ h₁ h₂ hs, hr]
  | ok a =>
    rw [hr] at hs
    have hfa := hf a m₂ h₂ hr
    have hx₁ := hx.within m₁ h₁
    have hx₂ := hx.within m₂ h₂
    rw [hx.same s m₁ m₂ h₁ h₂ ((hfa.within _ hx₂.tree).settled hs), hr]
    exact hfa.same s _ _ hx₁.tree hx₂.tree (hx₁.settled_by hs)

theorem bind {x : Action ε Machine α} {f : α → Action ε Machine β} (hx : Quiet root t spared x)
    (hf : ∀ a, Quiet root t spared (f a)) : Quiet root t spared (x >>= f) :=
  hx.bind_of fun a _ _ _ => hf a

theorem attempt {x : Action ε Machine α} (hx : Quiet root t spared x) :
    Quiet root t spared (x.attempt : Action ε' Machine (Except ε α)) where
  within := hx.within.attempt
  same s m₁ m₂ h₁ h₂ hs := congrArg Except.ok (hx.same s m₁ m₂ h₁ h₂ hs)

/-- A look at the tree. -/
theorem inspect {f : FileTree → Except ε α}
    (hf : spared → ∀ t', root.ExportOnly t t' → f t' = f t) :
    Quiet root t spared (Action.inspect fun m => f m.tree) where
  within := .inspect _
  same s m₁ m₂ h₁ h₂ _ := by
    rw [Action.inspect_apply, Action.inspect_apply, hf s _ h₁, hf s _ h₂]

theorem fromTree {f : FileTree → Except AttributeError α}
    (hf : spared → ∀ t', root.ExportOnly t t' → f t' = f t) :
    Quiet root t spared (fromTree f) := by
  refine inspect (f := fun t => (f t).mapError AttributeError.status) fun s t' h => ?_
  rw [hf s t' h]

/-- An operation on the attributes that changes the export attribute only. -/
theorem onTree {x : Action AttributeError FileTree α}
    (htree : ∀ t', root.ExportOnly t t' → root.ExportOnly t (x t').2)
    (hsame : spared → ∀ t', root.ExportOnly t t' → (x t').1 = (x t).1) :
    Quiet root t spared (onTree x) where
  within := .onTree htree
  same s m₁ m₂ h₁ h₂ _ := by
    rw [onTree_apply, onTree_apply, hsame s _ h₁, hsame s _ h₂]

end Quiet

/-! ## Reading locators -/

section Locators

variable {io : Io} {t t' : FileTree} {spared : Prop} {ε : Type}

/-- The first question settles whether a controller is fitted, whatever the tree says later. -/
theorem quiet_isFitted : Quiet io.root t spared (io.isFitted : Action ε Machine Bool) := by
  refine ⟨.isFitted, fun _ m₁ m₂ _ _ hs => ?_⟩
  obtain ⟨answer, hrun⟩ := isFitted_apply (ε := ε) io m₂
  rw [hrun] at hs ⊢
  rw [isFitted_of_some (hs.resolve_left (Option.some_ne_none answer))]

theorem quiet_hasBmc : Quiet io.root t spared (io.hasBmc : Action ε Machine Bool) := by
  rw [Io.hasBmc]
  split
  · exact quiet_isFitted
  · exact .pure false

theorem quiet_bmc : Quiet io.root t spared io.bmc := by
  rw [Io.bmc]
  split
  · exact .fail _
  · refine quiet_isFitted.bind fun answer => ?_
    cases answer
    · exact .fail _
    · exact .pure _

theorem quiet_readBmc (sensor : Nat) (scale : Int32) :
    Quiet io.root t ((Locator.bmc sensor scale).Spares io t Gpio.exportPath)
      (io.readBmc sensor scale) := by
  rw [Io.readBmc]
  refine quiet_bmc.bind_of fun link m _ hlink => ?_
  have hlink := link_of_bmc hlink
  have hread : Quiet io.root t ((Locator.bmc sensor scale).Spares io t Gpio.exportPath)
      (Action.inspect fun m => link.read io.root sensor m.tree) := by
    refine Quiet.inspect (f := link.read io.root sensor) fun hspared t' h => ?_
    cases link with
    | directory dir => rw [Bmc.Link.read, Bmc.Link.read, h.readInt_eq (hspared _ (.bmc hlink))]
    | values entries => rfl
  refine hread.bind fun raw => ?_
  split
  · exact .pure _
  · exact .fail _

theorem quiet_isAsserted (line : Gpio) :
    Quiet io.root t ((Locator.gpio line).Spares io t Gpio.exportPath)
      (onTree (line.isAsserted io.root)) := by
  refine Quiet.onTree (fun t' h => ?_) (fun _ t' h => ?_)
  · exact h.trans (line.exportOnly_isAsserted io.root t')
  · exact line.isAsserted_outcome_eq h

/-- Looking into a sensor directory changes nothing. -/
theorem readHwmon_unchanged (io : Io) (device attr : String) (m : Machine) :
    (io.readHwmon device attr m).2 = m := by
  rw [Io.readHwmon, Action.bind_eq, fromTree, Action.inspect_apply]
  dsimp only
  split <;> rfl

/-- What is read at an attribute of a sensor directory: the search for the directory looks at no
content. -/
theorem quiet_sensorAttribute {α : Type} (device attr : String)
    {f : String → FileTree → Except AttributeError α}
    (hf : ∀ path, Path.names path ≠ Path.names Gpio.exportPath →
      ∀ t', io.root.ExportOnly t t' → f path t' = f path t) :
    Quiet io.root t ((Locator.hwmon device attr).Spares io t Gpio.exportPath)
      (fromTree (Hwmon.attributePath io.root device attr) >>= fun path => fromTree (f path)) := by
  have hpath : ∀ t', io.root.ExportOnly t t' →
      Hwmon.attributePath io.root device attr t' = Hwmon.attributePath io.root device attr t :=
    fun t' h => Root.attributePath_eq h device attr
  refine (Quiet.fromTree fun _ => hpath).bind_of fun path m hm hfound => ?_
  refine Quiet.fromTree fun hspared => hf path (hspared path (.hwmon ?_))
  rw [← hpath m.tree hm]
  exact ok_of_fromTree hfound

theorem quiet_readHwmon (device attr : String) :
    Quiet io.root t ((Locator.hwmon device attr).Spares io t Gpio.exportPath)
      (io.readHwmon device attr) :=
  quiet_sensorAttribute device attr fun _ hpath _ h => h.readInt_eq hpath

/-- **Reading an integer is quiet.** -/
theorem quiet_read (l : Locator) :
    Quiet io.root t (l.Spares io t Gpio.exportPath) (io.read l) := by
  induction l with
  | file path =>
    rw [Io.read]
    exact Quiet.fromTree fun hspared t' h => h.readInt_eq (hspared path (.file path))
  | hwmon device attr => exact quiet_readHwmon device attr
  | gpio line =>
    rw [Io.read]
    exact (quiet_isAsserted line).bind fun asserted => .pure _
  | bmc sensor scale => exact quiet_readBmc sensor scale
  | bmcOr sensor scale fallback ih =>
    rw [Io.read]
    refine quiet_hasBmc.bind fun fitted => ?_
    cases fitted with
    | true =>
      exact (quiet_readBmc sensor scale).mono fun hspared p hp => hspared p (.controller hp)
    | false => exact ih.mono fun hspared p hp => hspared p (.fallback hp)

/-- What is missing is missing on the tree. -/
theorem Quiet.optional {α : Type} {x : Access α} (hx : Quiet io.root t spared x) :
    Quiet io.root t spared (Io.optional x) := by
  rw [Io.optional]
  refine hx.attempt.bind fun outcome => ?_
  split
  · exact .pure _
  · exact .pure _
  · exact .fail _

theorem quiet_read? (l : Locator) :
    Quiet io.root t (l.Spares io t Gpio.exportPath) (io.read? l) :=
  (quiet_read l).optional

/-- **Reading a text is quiet.** -/
theorem quiet_readText (l : Locator) :
    Quiet io.root t (l.Spares io t Gpio.exportPath) (io.readText l) := by
  induction l with
  | file path =>
    rw [Io.readText]
    exact Quiet.fromTree fun hspared t' h => h.readText_eq (hspared path (.file path))
  | hwmon device attr =>
    exact quiet_sensorAttribute device attr fun _ hpath _ h => h.readText_eq hpath
  | gpio line =>
    rw [Io.readText]
    exact .fail _
  | bmc sensor scale =>
    rw [Io.readText]
    exact .fail _
  | bmcOr sensor scale fallback ih =>
    rw [Io.readText]
    refine quiet_hasBmc.bind fun fitted => ?_
    cases fitted with
    | true => exact .fail _
    | false => exact ih.mono fun hspared p hp => hspared p (.fallback hp)

end Locators

end SwitchPlatform
