import Mathlib.Tactic
import SwitchPlatform.Io
import SwitchPlatform.Proofs.FileTree.Resolve

/-!
# What an operation on a machine may change

`Within free t x` says that the operation `x` keeps a machine whose tree is `t` but for the files
at `free` locations in that state, keeps the answer to whether a controller is fitted, once there
is one, and keeps the duty of the fans. Operations are chained by `Within.bind_of`: what is within
bounds step by step is within bounds in all.
-/

namespace SwitchPlatform

open FileTree (Location SameBut)

/-- A machine after a run from `m`: only free files have changed since `t`. -/
structure Machine.After (free : Location → Prop) (t : FileTree) (m m' : Machine) : Prop where
  tree : SameBut free t m'.tree
  /-- The first answer to whether a controller is fitted holds from then on. -/
  fitted : ∀ answer, m.bmcFitted = some answer → m'.bmcFitted = some answer
  duty : m'.duty = m.duty

namespace Machine.After

variable {free : Location → Prop} {t : FileTree} {m m' m'' : Machine}

theorem refl (h : SameBut free t m.tree) : After free t m m where
  tree := h
  fitted _ hm := hm
  duty := rfl

theorem trans (h : After free t m m') (h' : After free t m' m'') : After free t m m'' where
  tree := h'.tree
  fitted answer hm := h'.fitted answer (h.fitted answer hm)
  duty := h'.duty.trans h.duty

end Machine.After

/-- An operation that changes at most the free files of a tree. -/
def Within (free : Location → Prop) (t : FileTree) {ε α : Type} (x : Action ε Machine α) : Prop :=
  ∀ m : Machine, SameBut free t m.tree → m.After free t (x m).2

/-- A run of two operations after each other. -/
theorem Action.bind_eq {ε σ α β : Type} (x : Action ε σ α) (f : α → Action ε σ β) (s : σ) :
    (x >>= f) s = match (x s).1 with
      | .ok a => f a (x s).2
      | .error e => (.error e, (x s).2) := by
  rw [bind_apply]
  rcases x s with ⟨_ | _, _⟩ <;> rfl

/-- A chain whose first part ends well goes on with its value. -/
theorem Action.bind_of_ok {ε σ α β : Type} {x : Action ε σ α} {f : α → Action ε σ β} {s : σ} {a : α}
    (h : (x s).1 = .ok a) : (x >>= f) s = f a (x s).2 := by
  rw [bind_eq, h]

/-- A chain that begins with a value goes on with it. -/
theorem Action.ofExcept_bind {ε σ α β : Type} {r : Except ε α} {a : α} (h : r = .ok a)
    (f : α → Action ε σ β) (s : σ) : (ofExcept r >>= f) s = f a s := by
  rw [h]
  rfl

/-- A chain that ends well has come through its first part. -/
theorem Action.ok_of_bind {ε σ α β : Type} {x : Action ε σ α} {f : α → Action ε σ β} {s : σ} {b : β}
    (h : ((x >>= f) s).1 = .ok b) : ∃ a, (x s).1 = .ok a ∧ (f a (x s).2).1 = .ok b := by
  rw [bind_eq] at h
  cases hx : (x s).1 with
  | ok a =>
    rw [hx] at h
    exact ⟨a, rfl, h⟩
  | error e =>
    rw [hx] at h
    cases h

/-- The same run with other errors. -/
theorem Action.mapError_eq {ε ε' σ α : Type} (f : ε → ε') (x : Action ε σ α) (s : σ) :
    x.mapError f s = ((x s).1.mapError f, (x s).2) := by
  rw [mapError]
  rcases x s with ⟨_ | _, _⟩ <;> rfl

/-- A run on a part of the state. -/
theorem Action.zoom_eq {ε σ τ α : Type} (get : σ → τ) (set : τ → σ → σ) (x : Action ε τ α) (s : σ) :
    x.zoom get set s = ((x (get s)).1, set (x (get s)).2 s) :=
  rfl

theorem Action.ok_of_mapError {ε ε' σ α : Type} {f : ε → ε'} {x : Action ε σ α} {s : σ} {a : α}
    (h : (x.mapError f s).1 = .ok a) : (x s).1 = .ok a := by
  rw [mapError_eq] at h
  cases hr : (x s).1 with
  | ok b =>
    rw [hr] at h
    cases h
    rfl
  | error e =>
    rw [hr] at h
    cases h

/-- A reading operation among operations that drive hardware. -/
theorem lift_eq {σ α : Type} (x : Action StatusError σ α) :
    (liftM x : Action Fault σ α) = x.mapError Fault.status := rfl

/-- An operation on the attributes, on the whole machine. -/
theorem onTree_apply {α : Type} (x : Action AttributeError FileTree α) (m : Machine) :
    onTree x m =
      ((x m.tree).1.mapError AttributeError.status, { m with tree := (x m.tree).2 }) := by
  rw [onTree, Action.zoom, Action.mapError_eq]

theorem ok_of_fromTree {α : Type} {f : FileTree → Except AttributeError α} {m : Machine} {a : α}
    (h : (fromTree f m).1 = .ok a) : f m.tree = .ok a := by
  rw [fromTree, Action.inspect_apply] at h
  cases hr : f m.tree with
  | ok b =>
    rw [hr] at h
    cases h
    rfl
  | error e =>
    rw [hr] at h
    cases h

theorem fromTree_of_ok {α : Type} {f : FileTree → Except AttributeError α} {m : Machine} {a : α}
    (h : f m.tree = .ok a) : fromTree f m = (.ok a, m) := by
  rw [fromTree, Action.inspect_apply, h]
  rfl

theorem fromTree_of_error {α : Type} {f : FileTree → Except AttributeError α} {m : Machine}
    {e : AttributeError} (h : f m.tree = .error e) : fromTree f m = (.error e.status, m) := by
  rw [fromTree, Action.inspect_apply, h]
  rfl

/-- An answer is given and kept. -/
theorem isFitted_apply {ε : Type} (io : Io) (m : Machine) :
    ∃ answer, (io.isFitted : Action ε Machine Bool) m =
      (.ok answer, { m with bmcFitted := some answer }) := by
  rw [Io.isFitted]
  obtain ⟨tree, _ | answer, duty⟩ := m
  · exact ⟨_, rfl⟩
  · exact ⟨answer, rfl⟩

theorem isFitted_of_some {ε : Type} {io : Io} {m : Machine} {answer : Bool}
    (h : m.bmcFitted = some answer) :
    (io.isFitted : Action ε Machine Bool) m = (.ok answer, m) := by
  rw [Io.isFitted, h]

theorem link_of_bmc {io : Io} {m : Machine} {link : Bmc.Link} (h : (io.bmc m).1 = .ok link) :
    io.link = some link := by
  rw [Io.bmc] at h
  cases hlink : io.link with
  | none =>
    rw [hlink] at h
    cases h
  | some l =>
    obtain ⟨answer, hrun⟩ := isFitted_apply (ε := StatusError) io m
    rw [hlink] at h
    dsimp only at h
    rw [Action.bind_ok hrun] at h
    cases answer <;> cases h
    rfl

namespace Within

variable {free : Location → Prop} {t : FileTree} {ε ε' α β : Type}

/-- An operation that leaves the machine alone. -/
theorem inspect (f : Machine → Except ε α) : Within free t (Action.inspect f) :=
  fun _ h => .refl h

theorem ofExcept (r : Except ε α) : Within free t (Action.ofExcept r : Action ε Machine α) :=
  fun _ h => .refl h

theorem pure (a : α) : Within free t (Pure.pure a : Action ε Machine α) :=
  fun _ h => .refl h

theorem fail (e : ε) : Within free t (Action.fail e : Action ε Machine α) :=
  fun _ h => .refl h

/-- **What is within bounds step by step is within bounds in all**; the second step for the values
that the first one may end in. -/
theorem bind_of {x : Action ε Machine α} {f : α → Action ε Machine β} (hx : Within free t x)
    (hf : ∀ a m, SameBut free t m.tree → (x m).1 = .ok a → Within free t (f a)) :
    Within free t (x >>= f) := by
  intro m h
  rw [Action.bind_eq]
  cases hr : (x m).1 with
  | ok a => exact (hx m h).trans (hf a m h hr _ (hx m h).tree)
  | error e => exact hx m h

theorem bind {x : Action ε Machine α} {f : α → Action ε Machine β} (hx : Within free t x)
    (hf : ∀ a, Within free t (f a)) : Within free t (x >>= f) :=
  hx.bind_of fun a _ _ _ => hf a

/-- Narrower bounds on every tree that may be met. -/
theorem widen {x : Action ε Machine α} (free' : FileTree → Location → Prop)
    (hx : ∀ t', Within (free' t') t' x)
    (hf : ∀ t' loc, SameBut free t t' → free' t' loc → free loc) : Within free t x := by
  intro m h
  have hm := hx m.tree m (.refl _ _)
  exact { hm with tree := h.trans (hm.tree.mono fun loc => hf m.tree loc h) }

theorem attempt {x : Action ε Machine α} (hx : Within free t x) :
    Within free t (x.attempt : Action ε' Machine (Except ε α)) :=
  fun m h => hx m h

theorem mapError {x : Action ε Machine α} (hx : Within free t x) (f : ε → ε') :
    Within free t (x.mapError f) := by
  intro m h
  rw [Action.mapError_eq]
  exact hx m h

theorem onTree {x : Action AttributeError FileTree α}
    (htree : ∀ t', SameBut free t t' → SameBut free t (x t').2) : Within free t (onTree x) := by
  intro m h
  rw [onTree_apply]
  exact { tree := htree m.tree h, fitted := fun _ hm => hm, duty := rfl }

/-! ## The controller -/

variable {io : Io}

theorem isFitted : Within free t (io.isFitted : Action ε Machine Bool) := by
  intro m h
  cases hm : m.bmcFitted with
  | some answer =>
    rw [isFitted_of_some hm]
    exact .refl h
  | none =>
    obtain ⟨answer, hrun⟩ := isFitted_apply (ε := ε) io m
    rw [hrun]
    refine { tree := h, fitted := fun a ha => ?_, duty := rfl }
    rw [hm] at ha
    cases ha

theorem hasBmc : Within free t (io.hasBmc : Action ε Machine Bool) := by
  rw [Io.hasBmc]
  split
  · exact isFitted
  · exact .pure false

theorem bmc : Within free t io.bmc := by
  rw [Io.bmc]
  split
  · exact .fail _
  · refine isFitted.bind fun answer => ?_
    cases answer
    · exact .fail _
    · exact .pure _

end Within

/-! ## What a locator names -/

/-- The attributes that a locator names in a tree. -/
inductive Locator.Names (io : Io) (t : FileTree) : Locator → String → Prop
  | file (path : String) : Names io t (.file path) path
  | hwmon {device attr path : String}
      (found : Hwmon.attributePath io.root device attr t = .ok path) :
      Names io t (.hwmon device attr) path
  | gpio (line : Gpio) : Names io t (.gpio line) line.valuePath
  | bmc {sensor : Nat} {scale : Int32} {dir : String} (link : io.link = some (.directory dir)) :
      Names io t (.bmc sensor scale) (Bmc.Link.sensorPath dir sensor)
  | controller {sensor : Nat} {scale : Int32} {fallback : Locator} {path : String}
      (names : Names io t (.bmc sensor scale) path) : Names io t (.bmcOr sensor scale fallback) path
  | fallback {sensor : Nat} {scale : Int32} {fallback : Locator} {path : String}
      (names : Names io t fallback path) : Names io t (.bmcOr sensor scale fallback) path

/-- Does a locator name other attributes than the one at a path? -/
def Locator.Spares (io : Io) (t : FileTree) (path : String) (l : Locator) : Prop :=
  ∀ path', l.Names io t path' → Path.names path' ≠ Path.names path

/-- A locator names the same attributes in trees that differ in contents. -/
theorem Locator.names_iff {io : Io} {free : Location → Prop} {t t' : FileTree}
    (same : SameBut free t t') {l : Locator} {path : String} :
    l.Names io t' path ↔ l.Names io t path := by
  have hnames : ∀ {free : Location → Prop} {t t' : FileTree}, SameBut free t t' →
      ∀ {l : Locator} {path : String}, l.Names io t path → l.Names io t' path := by
    intro free t t' same l path h
    induction h with
    | file path => exact .file path
    | hwmon found => exact .hwmon ((Root.attributePath_eq same _ _).trans found)
    | gpio line => exact .gpio line
    | bmc link => exact .bmc link
    | controller names ih => exact .controller ih
    | fallback names ih => exact .fallback ih
  exact ⟨hnames same.symm, hnames same⟩

end SwitchPlatform
