import SwitchPlatform.Proofs.Io.Within

/-!
# How reading and writing can fail

`FailsWith errs x` says that `x` ends in no error outside of `errs`, whatever the state. Reading a
locator fails because the attribute is missing, because the host refuses the access, or because
the content cannot be interpreted (`failsWith_read`). What may be missing is read by `Io.read?`,
which takes the first of these for an answer (`failsWith_read?`). Writing fails like that, for a
controller that takes no values, or at a quotient without a 32-bit value (`failsWith_write`).
-/

namespace SwitchPlatform

/-- An attribute that is there cannot be used. -/
def StatusError.Unreadable (e : StatusError) : Prop :=
  e = .invalid ∨ e = .internal

/-- An attribute cannot be used, or is not there. -/
def StatusError.OfAccess (e : StatusError) : Prop :=
  e = .missing ∨ e.Unreadable

theorem StatusError.OfAccess.ne_param {e : StatusError} (h : e.OfAccess) : e ≠ .param := by
  rintro rfl
  obtain h | h | h := h <;> cases h

theorem StatusError.Unreadable.ne_param {e : StatusError} (h : e.Unreadable) : e ≠ .param :=
  StatusError.OfAccess.ne_param (.inr h)

theorem StatusError.OfAccess.ne_unsupported {e : StatusError} (h : e.OfAccess) :
    e ≠ .unsupported := by
  rintro rfl
  obtain h | h | h := h <;> cases h

theorem StatusError.Unreadable.ne_unsupported {e : StatusError} (h : e.Unreadable) :
    e ≠ .unsupported :=
  StatusError.OfAccess.ne_unsupported (.inr h)

theorem AttributeError.ofAccess_status (e : AttributeError) : e.status.OfAccess := by
  cases e with
  | notFound path => exact .inl rfl
  | io path cause => exact .inr (.inr rfl)
  | unreadable path content => exact .inr (.inl rfl)

/-- A value cannot be written. -/
def Fault.OfDrive (f : Fault) : Prop :=
  f = .quotientOverflow ∨ f = .status .unsupported ∨ ∃ e : StatusError, f = .status e ∧ e.OfAccess

namespace Action

variable {ε ε' σ α β : Type}

/-- No other errors than these end an action. -/
def FailsWith (errs : ε → Prop) (x : Action ε σ α) : Prop :=
  ∀ s e, (x s).1 = .error e → errs e

namespace FailsWith

variable {errs : ε → Prop}

theorem ofExcept {r : Except ε α} (h : ∀ e, r = .error e → errs e) :
    FailsWith errs (Action.ofExcept r : Action ε σ α) :=
  fun _ => h

theorem pure (a : α) : FailsWith errs (Pure.pure a : Action ε σ α) :=
  ofExcept fun _ h => nomatch h

theorem fail {e : ε} (h : errs e) : FailsWith errs (Action.fail e : Action ε σ α) :=
  ofExcept fun _ heq => Except.error.inj heq ▸ h

theorem inspect {f : σ → Except ε α} (h : ∀ s e, f s = .error e → errs e) :
    FailsWith errs (Action.inspect f) :=
  h

/-- An outcome that is handed on as a value is no failure. -/
theorem attempt (x : Action ε' σ α) :
    FailsWith errs (x.attempt : Action ε σ (Except ε' α)) := by
  intro s e h
  rw [attempt_apply] at h
  cases h

theorem mapError {errs' : ε' → Prop} {x : Action ε σ α} {f : ε → ε'} (hx : FailsWith errs x)
    (hf : ∀ e, errs e → errs' (f e)) : FailsWith errs' (x.mapError f) := by
  intro s e h
  rw [mapError_eq] at h
  cases hr : (x s).1 with
  | ok a =>
    rw [hr] at h
    cases h
  | error e' =>
    rw [hr] at h
    cases h
    exact hf e' (hx s e' hr)

theorem zoom {τ : Type} {x : Action ε τ α} (hx : FailsWith errs x) (get : σ → τ)
    (set : τ → σ → σ) : FailsWith errs (x.zoom get set) := by
  intro s e h
  rw [Action.zoom] at h
  exact hx (get s) e h

/-- Of a chain, the second part counts for the values that the first one may end in. -/
theorem bind_of {x : Action ε σ α} {f : α → Action ε σ β} (hx : FailsWith errs x)
    (hf : ∀ s a, (x s).1 = .ok a → FailsWith errs (f a)) : FailsWith errs (x >>= f) := by
  intro s e h
  rw [bind_eq] at h
  cases hr : (x s).1 with
  | ok a =>
    rw [hr] at h
    exact hf s a hr _ e h
  | error e' =>
    rw [hr] at h
    cases h
    exact hx s _ hr

theorem bind {x : Action ε σ α} {f : α → Action ε σ β} (hx : FailsWith errs x)
    (hf : ∀ a, FailsWith errs (f a)) : FailsWith errs (x >>= f) :=
  hx.bind_of fun _ a _ => hf a

end FailsWith

end Action

open SwitchPlatform.Action StatusError

/-! ## Reading locators -/

section Locators

variable {io : Io}

theorem ofAccess_of_mapError {α : Type} {r : Except AttributeError α} {e : StatusError}
    (h : r.mapError AttributeError.status = .error e) : e.OfAccess := by
  cases r with
  | ok a => cases h
  | error e' =>
    cases h
    exact e'.ofAccess_status

theorem failsWith_fromTree {α : Type} (f : FileTree → Except AttributeError α) :
    FailsWith OfAccess (fromTree f) :=
  .inspect fun _ _ h => ofAccess_of_mapError h

theorem failsWith_status {σ α : Type} (x : Action AttributeError σ α) :
    FailsWith OfAccess (x.mapError AttributeError.status) := by
  intro s e h
  rw [mapError_eq] at h
  dsimp only at h
  exact ofAccess_of_mapError h

theorem failsWith_onTree {α : Type} (x : Action AttributeError FileTree α) :
    FailsWith OfAccess (onTree x) :=
  (failsWith_status x).zoom _ _

/-- Whether a controller is fitted can always be told. -/
theorem failsWith_isFitted {ε : Type} {errs : ε → Prop} :
    FailsWith errs (io.isFitted : Action ε Machine Bool) := by
  intro m e h
  obtain ⟨answer, hrun⟩ := isFitted_apply (ε := ε) io m
  rw [hrun] at h
  cases h

theorem failsWith_hasBmc {ε : Type} {errs : ε → Prop} :
    FailsWith errs (io.hasBmc : Action ε Machine Bool) := by
  rw [Io.hasBmc]
  split
  · exact failsWith_isFitted
  · exact .pure false

theorem failsWith_bmc : FailsWith OfAccess io.bmc := by
  rw [Io.bmc]
  split
  · exact .fail (.inl rfl)
  · refine failsWith_isFitted.bind fun answer => ?_
    cases answer with
    | true => exact .pure _
    | false => exact .fail (.inl rfl)

theorem failsWith_readBmc (sensor : Nat) (scale : Int32) :
    FailsWith OfAccess (io.readBmc sensor scale) := by
  rw [Io.readBmc]
  refine failsWith_bmc.bind fun link => ?_
  refine FailsWith.bind (.inspect fun m e h => ?_) fun raw => ?_
  · cases link with
    | directory dir =>
      rw [Bmc.Link.read] at h
      exact ofAccess_of_mapError h
    | values entries =>
      rw [Bmc.Link.read] at h
      split at h <;> cases h
      exact .inl rfl
  · split
    · exact .pure _
    · exact .fail (.inr (.inl rfl))

theorem failsWith_readHwmon (device attr : String) :
    FailsWith OfAccess (io.readHwmon device attr) :=
  (failsWith_fromTree _).bind fun _ => failsWith_fromTree _

/-- **How reading an integer can fail.** -/
theorem failsWith_read (l : Locator) : FailsWith OfAccess (io.read l) := by
  induction l with
  | file path =>
    rw [Io.read]
    exact failsWith_fromTree _
  | hwmon device attr =>
    rw [Io.read]
    exact failsWith_readHwmon device attr
  | gpio line =>
    rw [Io.read]
    exact (failsWith_onTree _).bind fun asserted => .pure _
  | bmc sensor scale =>
    rw [Io.read]
    exact failsWith_readBmc sensor scale
  | bmcOr sensor scale fallback ih =>
    rw [Io.read]
    refine failsWith_hasBmc.bind fun fitted => ?_
    cases fitted with
    | true => exact failsWith_readBmc sensor scale
    | false => exact ih

/-- What is missing is no failure. -/
theorem Action.FailsWith.optional {α : Type} {x : Access α} (h : FailsWith OfAccess x) :
    FailsWith Unreadable (Io.optional x) := by
  intro m e he
  have hx := h m
  rw [Io.optional, bind_eq, attempt_apply] at he
  cases hr : (x m).1 with
  | ok v =>
    rw [hr] at he
    cases he
  | error e' =>
    rw [hr] at he hx
    obtain rfl | hunreadable := hx e' rfl
    · cases he
    · obtain rfl | rfl := hunreadable <;> cases he
      · exact .inl rfl
      · exact .inr rfl

theorem failsWith_read? (l : Locator) : FailsWith Unreadable (io.read? l) :=
  (failsWith_read l).optional

/-! ## Writing locators -/

/-- What writing may end in: a quotient without a 32-bit value, a status of access, and the statuses
that the controller has for what is written to it. -/
structure Io.WriteFails (io : Io) (errs : Fault → Prop) : Prop where
  overflow : errs .quotientOverflow
  access : ∀ e : StatusError, e.OfAccess → errs (.status e)
  link : ∀ link, io.link = some link → ∀ sensor raw,
    FailsWith (fun e => errs (.status e)) (link.write io.root sensor raw)

namespace Io.WriteFails

variable {errs : Fault → Prop} (h : io.WriteFails errs)
include h

theorem lift {α : Type} {x : Access α} (hx : FailsWith OfAccess x) :
    FailsWith errs (liftM x : Drive α) := by
  rw [lift_eq]
  exact hx.mapError h.access

/-- The controller that is written to is the one that is linked. -/
theorem writeBmc (sensor : Nat) (scale v : Int32) :
    FailsWith errs (io.writeBmc sensor scale v) := by
  rw [Io.writeBmc]
  split
  · exact .fail h.overflow
  · refine (h.lift failsWith_bmc).bind_of fun m link hlink => ?_
    have hlinked : io.link = some link := link_of_bmc (ok_of_mapError hlink)
    rw [lift_eq]
    exact ((h.link link hlinked sensor _).zoom _ _).mapError fun _ he => he

/-- **How writing an integer can fail.** -/
theorem write (l : Locator) (v : Int32) : FailsWith errs (io.write l v) := by
  induction l with
  | file path =>
    rw [Io.write]
    exact h.lift (failsWith_onTree _)
  | hwmon device attr =>
    rw [Io.write]
    exact (h.lift (failsWith_fromTree _)).bind fun path => h.lift (failsWith_onTree _)
  | gpio line =>
    rw [Io.write]
    exact h.lift (failsWith_onTree _)
  | bmc sensor scale =>
    rw [Io.write]
    exact h.writeBmc sensor scale v
  | bmcOr sensor scale fallback ih =>
    rw [Io.write]
    refine failsWith_hasBmc.bind fun fitted => ?_
    cases fitted with
    | true => exact h.writeBmc sensor scale v
    | false => exact ih

end Io.WriteFails

theorem failsWith_linkWrite (dir : String) (root : Root) (sensor : Nat) (raw : Int32) :
    FailsWith OfAccess (Bmc.Link.write (.directory dir) root sensor raw) := by
  rw [Bmc.Link.write]
  exact failsWith_status _

/-- **How writing can fail**, whatever the controller is. -/
theorem failsWith_write (l : Locator) (v : Int32) : FailsWith Fault.OfDrive (io.write l v) := by
  have access : ∀ e : StatusError, e.OfAccess → Fault.OfDrive (.status e) :=
    fun e he => .inr (.inr ⟨e, rfl, he⟩)
  refine Io.WriteFails.write ⟨.inl rfl, access, fun link _ sensor raw => ?_⟩ l v
  cases link with
  | directory dir => exact fun t e h => access e (failsWith_linkWrite dir _ sensor raw t e h)
  | values entries =>
    rw [Bmc.Link.write]
    exact .fail (.inr (.inl rfl))

/-- A controller with a directory, or none at all, takes every value. -/
theorem failsWith_write_of_directory
    (hlink : ∀ link, io.link = some link → ∃ dir, link = .directory dir) (l : Locator) (v : Int32) :
    FailsWith (fun f => f = .quotientOverflow ∨ ∃ e : StatusError, f = .status e ∧ e.OfAccess)
      (io.write l v) := by
  have access : ∀ e : StatusError, e.OfAccess →
      Fault.status e = .quotientOverflow ∨ ∃ e', Fault.status e = .status e' ∧ e'.OfAccess :=
    fun e he => .inr ⟨e, rfl, he⟩
  refine Io.WriteFails.write ⟨.inl rfl, access, fun link hio sensor raw => ?_⟩ l v
  obtain ⟨dir, rfl⟩ := hlink link hio
  exact fun t e h => access e (failsWith_linkWrite dir _ sensor raw t e h)

end Locators

end SwitchPlatform
