import SwitchPlatform.Proofs.FileTree.Agree
import SwitchPlatform.Proofs.Io.Within

/-!
# Access below the root only

Attributes, GPIO lines, sensor directories and the values of a controller are all reached through
paths that are resolved below a root. `Root.Use` lists these accesses, and a `Root.Script` is any run of
them, each one chosen by the outcomes so far.

`Confined root x` is the property of two runs that says where an operation `x` reads, and the
property of one run that says where it writes: on two trees that agree below the root, however
different they are elsewhere, `x` has the same outcome and leaves trees behind that agree again,
and what it changes are contents of files below the root. Looks and writes through a resolved path
are confined, what is chained from confined operations is confined (`Confined.bind`), so every use
is (`Root.Use.confined`), and so is every script (`Root.Script.confined`).
-/

namespace SwitchPlatform

open FileTree (Location SameBut)

/-! ## Confined operations -/

/-- An operation that reads and writes below the root only. -/
structure Confined (root : Root) {ε α : Type} (x : Action ε FileTree α) : Prop where
  /-- The outcome is the same on trees that agree below the root. -/
  reads : ∀ t t', root.Agree t t' → (x t').1 = (x t).1
  /-- Trees that agree below the root do so afterwards. -/
  agree : ∀ t t', root.Agree t t' → root.Agree (x t).2 (x t').2
  /-- At most contents of files below the root have changed. -/
  writes : ∀ t, SameBut (root.Below t) t (x t).2

namespace Confined

variable {root : Root} {ε ε' α β : Type}

theorem ofExcept (r : Except ε α) : Confined root (Action.ofExcept r) where
  reads _ _ _ := rfl
  agree _ _ h := h
  writes t := .refl _ t

theorem pure (a : α) : Confined root (Pure.pure a : Action ε FileTree α) :=
  ofExcept (.ok a)

theorem fail (e : ε) : Confined root (Action.fail e : Action ε FileTree α) :=
  ofExcept (.error e)

/-- A look that makes the same of trees that agree. -/
theorem inspect {f : FileTree → Except ε α} (hf : ∀ t t', root.Agree t t' → f t' = f t) :
    Confined root (Action.inspect f) where
  reads := hf
  agree _ _ h := h
  writes t := .refl _ t

theorem view {f : FileTree → α} (hf : ∀ t t', root.Agree t t' → f t' = f t) :
    Confined root (Action.view f : Action ε FileTree α) where
  reads t t' h := congrArg Except.ok (hf t t' h)
  agree _ _ h := h
  writes t := .refl _ t

/-- **What is confined step by step is confined in all.** -/
theorem bind {x : Action ε FileTree α} {f : α → Action ε FileTree β} (hx : Confined root x)
    (hf : ∀ a, Confined root (f a)) : Confined root (x >>= f) := by
  refine ⟨fun t t' h => ?_, fun t t' h => ?_, fun t => ?_⟩
  · rw [Action.bind_eq, Action.bind_eq, hx.reads t t' h]
    cases (x t).1 with
    | error e => rfl
    | ok a => exact (hf a).reads _ _ (hx.agree t t' h)
  · rw [Action.bind_eq, Action.bind_eq, hx.reads t t' h]
    cases (x t).1 with
    | error e => exact hx.agree t t' h
    | ok a => exact (hf a).agree _ _ (hx.agree t t' h)
  · have hfirst := hx.writes t
    rw [Action.bind_eq]
    cases (x t).1 with
    | error e => exact hfirst
    | ok a =>
      exact hfirst.trans (((hf a).writes _).mono fun loc => (Root.below_iff hfirst).1)

theorem mapError {x : Action ε FileTree α} (hx : Confined root x) (f : ε → ε') :
    Confined root (x.mapError f) where
  reads t t' h := by rw [Action.mapError_eq, Action.mapError_eq, hx.reads t t' h]
  agree t t' h := by
    rw [Action.mapError_eq, Action.mapError_eq]
    exact hx.agree t t' h
  writes t := by
    rw [Action.mapError_eq]
    exact hx.writes t

theorem attempt {x : Action ε FileTree α} (hx : Confined root x) :
    Confined root (x.attempt : Action ε' FileTree (Except ε α)) where
  reads t t' h := congrArg Except.ok (hx.reads t t' h)
  agree := hx.agree
  writes := hx.writes

end Confined

/-! ## Attributes -/

namespace FileTree

/-- Gives the file that a path opens new bytes, unless they are refused. -/
def rewrite (path : String) (bytes : List UInt8 → Except HostError (List UInt8)) :
    Action HostError FileTree Unit := fun t =>
  match t.openFile path with
  | .error e => (.error e, t)
  | .ok (loc, old) =>
    match bytes old with
    | .ok bs => (.ok (), t.setContent loc bs)
    | .error e => (.error e, t)

theorem writeText_eq_rewrite (path content : String) :
    writeText path content = rewrite path fun _ => .ok (Text.Utf8.encode content) := by
  funext t
  rw [writeText, rewrite]
  cases t.openFile path <;> rfl

theorem writeBytes_eq_rewrite (path : String) (offset : Nat) (data : List UInt8) :
    writeBytes path offset data = rewrite path fun bs =>
      if offsetLimit ≤ offset + data.length then .error .badOffset
      else .ok (overwrite bs offset data) := by
  funext t
  rw [writeBytes, rewrite]
  cases t.openFile path with
  | error e => rfl
  | ok opened =>
    dsimp only
    split <;> rfl

end FileTree

namespace Confined

variable {root : Root} {ε : Type}

/-- **New bytes for the file that a platform path opens** are written below the root. -/
theorem rewrite (path : String) (bytes : List UInt8 → Except HostError (List UInt8)) :
    Confined root (FileTree.rewrite (root.resolve path) bytes) := by
  refine ⟨fun t t' h => ?_, fun t t' h => ?_, fun t => ?_⟩
  · rw [FileTree.rewrite, FileTree.rewrite, h.openFile]
    cases t.openFile (root.resolve path) with
    | error e => rfl
    | ok file =>
      dsimp only
      cases bytes file.2 <;> rfl
  · rw [FileTree.rewrite, FileTree.rewrite, h.openFile]
    cases hopen : t.openFile (root.resolve path) with
    | error e => exact h
    | ok file =>
      dsimp only
      cases bytes file.2 with
      | error e => exact h
      | ok bs => exact h.setContent (Root.Opens.below ⟨_, hopen⟩) bs
  · rw [FileTree.rewrite]
    cases hopen : t.openFile (root.resolve path) with
    | error e => exact .refl _ t
    | ok file =>
      dsimp only
      cases bytes file.2 with
      | error e => exact .refl _ t
      | ok bs => exact (Root.sameBut_setContent hopen bs).mono fun _ => Root.Opens.below

theorem writeText (path content : String) : Confined root (root.writeText path content) := by
  rw [Root.writeText, FileTree.writeText_eq_rewrite]
  exact (rewrite path _).mapError _

theorem writeInt (path : String) (value : Int32) : Confined root (root.writeInt path value) :=
  writeText path _

theorem writeBytes (path : String) (offset : Nat) (data : List UInt8) :
    Confined root (root.writeBytes path offset data) := by
  rw [Root.writeBytes, FileTree.writeBytes_eq_rewrite]
  exact (rewrite path _).mapError _

theorem writeSensor (link : Bmc.Link) (sensor : Nat) (value : Int32) :
    Confined root (link.write root sensor value) := by
  cases link with
  | directory dir =>
    rw [Bmc.Link.write]
    exact (writeInt _ value).mapError _
  | values entries =>
    rw [Bmc.Link.write]
    exact fail _

/-! ## GPIO lines -/

theorem ensureExported (line : Gpio) : Confined root (line.ensureExported root) := by
  refine (view fun _ _ h => h.hasEntry line.valuePath).bind fun exported => ?_
  split
  · exact pure ()
  · rw [Gpio.requestExport]
    split
    · exact writeInt _ _
    · exact fail _

theorem isAsserted (line : Gpio) : Confined root (line.isAsserted root) :=
  (ensureExported line).bind fun _ =>
    (inspect fun _ _ h => h.readInt line.valuePath).bind fun _ => ofExcept _

theorem setAsserted (line : Gpio) (asserted : Bool) :
    Confined root (line.setAsserted root asserted) :=
  (ensureExported line).bind fun _ => writeInt _ _

end Confined

/-! ## Runs of accesses -/

/-- An access below a root, which ends in a value `α` or an error `ε`. -/
inductive Root.Use : Type → Type → Type
  | hasEntry (path : String) : Use AttributeError Bool
  | readText (path : String) : Use AttributeError String
  | readInt (path : String) : Use AttributeError Int32
  | readBytes (path : String) (offset len : Nat) : Use AttributeError (List UInt8)
  | list (path : String) : Use AttributeError (List String)
  | writeText (path content : String) : Use AttributeError Unit
  | writeInt (path : String) (value : Int32) : Use AttributeError Unit
  | writeBytes (path : String) (offset : Nat) (data : List UInt8) : Use AttributeError Unit
  | ensureExported (line : Gpio) : Use AttributeError Unit
  | isAsserted (line : Gpio) : Use AttributeError Bool
  | setAsserted (line : Gpio) (asserted : Bool) : Use AttributeError Unit
  | hwmonDir (device : String) : Use AttributeError String
  | hwmonPath (device attr : String) : Use AttributeError String
  | readSensor (link : Bmc.Link) (sensor : Nat) : Use StatusError Int32
  | writeSensor (link : Bmc.Link) (sensor : Nat) (value : Int32) : Use StatusError Unit
  | isFitted (mode : Bmc.Mode) (probe : Option Bmc.Probe) : Use StatusError Bool

/-- Runs an access below a root. -/
def Root.Use.run {ε α : Type} (root : Root) : Root.Use ε α → Action ε FileTree α
  | hasEntry path => .view (root.hasEntry path)
  | readText path => .inspect (root.readText path)
  | readInt path => .inspect (root.readInt path)
  | readBytes path offset len => .inspect (root.readBytes path offset len)
  | list path => .inspect (root.list path)
  | writeText path content => root.writeText path content
  | writeInt path value => root.writeInt path value
  | writeBytes path offset data => root.writeBytes path offset data
  | ensureExported line => line.ensureExported root
  | isAsserted line => line.isAsserted root
  | setAsserted line asserted => line.setAsserted root asserted
  | hwmonDir device => .inspect (Hwmon.dir root device)
  | hwmonPath device attr => .inspect (Hwmon.attributePath root device attr)
  | readSensor link sensor => .inspect (link.read root sensor)
  | writeSensor link sensor value => link.write root sensor value
  | isFitted mode probe => .view (Bmc.isFitted mode probe root)

/-- **Every access is confined.** -/
theorem Root.Use.confined {ε α : Type} (root : Root) (u : Root.Use ε α) :
    Confined root (u.run root) := by
  cases u with
  | hasEntry path => exact .view fun _ _ h => h.hasEntry path
  | readText path => exact .inspect fun _ _ h => h.readText path
  | readInt path => exact .inspect fun _ _ h => h.readInt path
  | readBytes path offset len => exact .inspect fun _ _ h => h.readBytes path offset len
  | list path => exact .inspect fun _ _ h => h.list path
  | writeText path content => exact .writeText path content
  | writeInt path value => exact .writeInt path value
  | writeBytes path offset data => exact .writeBytes path offset data
  | ensureExported line => exact .ensureExported line
  | isAsserted line => exact .isAsserted line
  | setAsserted line asserted => exact .setAsserted line asserted
  | hwmonDir device => exact .inspect fun _ _ h => h.hwmonDir device
  | hwmonPath device attr => exact .inspect fun _ _ h => h.hwmonPath device attr
  | readSensor link sensor => exact .inspect fun _ _ h => h.readSensor link sensor
  | writeSensor link sensor value => exact .writeSensor link sensor value
  | isFitted mode probe => exact .view fun _ _ h => h.isFitted mode probe

/-- A run of accesses below a root, each one chosen by the outcomes so far. -/
inductive Root.Script (ε α : Type) : Type 1
  | done (r : Except ε α) : Root.Script ε α
  | use {ε' β : Type} (u : Root.Use ε' β) (next : Except ε' β → Root.Script ε α) : Root.Script ε α

/-- Runs a script. -/
def Root.Script.run {ε α : Type} (root : Root) : Root.Script ε α → Action ε FileTree α
  | done r => .ofExcept r
  | use u next => do (next (← (u.run root).attempt)).run root

/-- **Every run of accesses is confined.** -/
theorem Root.Script.confined {ε α : Type} (root : Root) (s : Root.Script ε α) :
    Confined root (s.run root) := by
  induction s with
  | done r => exact .ofExcept r
  | use u next ih => exact (u.confined root).attempt.bind ih

/-! ## Containment -/

/-- What keeps the use of platform paths below a root. -/
structure Root.Contains (root : Root) : Prop where
  /-- A path is resolved by pushing its normal components onto the root, in order. -/
  resolve : ∀ path, root.resolve path = (Path.names path).foldl Path.join root.top
  /-- The normal components are what stands between slashes, but for `.`, `..` and nothing. -/
  names : ∀ path, Path.names path =
    ((path.toList.splitOn '/').filter fun p => p ∉ Path.unnamed).map String.ofList
  /-- The components of the result are those of the root and then the normal ones. -/
  components : ∀ path, Path.named (root.resolve path).toList = root.steps ++ Path.names path ∧
    ".." ∉ Path.names path
  /-- The result begins with the text of the root. -/
  begins : ∀ path, root.top.toList <+: (root.resolve path).toList
  /-- Any mix of `.`, `..` and slashes can be put between two components. -/
  insert : ∀ front filler back, Path.IsFiller filler →
    root.resolve (front ++ "/" ++ filler ++ "/" ++ back) = root.resolve (front ++ "/" ++ back)
  /-- An access reads and writes below the root only. -/
  access : ∀ {ε α : Type} (u : Root.Use ε α), Confined root (u.run root)
  /-- So does any run of accesses. -/
  script : ∀ {ε α : Type} (s : Root.Script ε α), Confined root (s.run root)

/-- **No platform path leaves the root.** -/
theorem Root.contains (root : Root) : root.Contains where
  resolve := root.resolve_eq_foldl
  names := Path.names_eq_splitOn
  components path := ⟨root.named_resolve path, fun h => (Path.isName_of_mem_names h).ne_dots rfl⟩
  begins := root.top_isPrefix
  insert front filler back h := by rw [resolve_eq_iff, Path.names_insert front back h]
  access u := u.confined root
  script s := s.confined root

example : (Root.mk "/tmp/x").resolve "/sys/../../etc/passwd" = "/tmp/x/sys/etc/passwd" := by decide

end SwitchPlatform
