import SwitchPlatform.Proofs.Io.Dispatch
import SwitchPlatform.Proofs.Io.Quiet

/-!
# Runs in step

Two runs of management on the same board are in step if they read the same wherever it matters
and write the same. A `Ground` is what both runs stand on: the files that they may write are the
duties of fans, the files of leds and the export attribute, and all other files are those of one
tree. Of a duty file only matters whether it reads as an integer.

Whether a controller is fitted is settled by the first question, when the trees may differ already.
So the second run is one that knows the answer, if the first one has it in the end
(`Machine.Settled`).

`InStep g Q x y` says that `x` and `y`, run on two such machines over `g`, end in the same error or
in values related by `Q`, on machines over `g`, and that every file ends with the same content in
both or was left alone by both (`SameChanges.files`). Operations in step are chained by
`InStep.bind`.
-/

namespace SwitchPlatform

open FileTree (Location SameBut)

/-! ## What two runs stand on -/

/-- Bytes that read as an integer. -/
def IsIntText (bs : List UInt8) : Prop :=
  (Text.attributeInt? (Text.trim (Text.Utf8.decodeLossy bs))).isSome = true

/-- A file that reads as an integer. -/
def FileTree.HoldsInt (t : FileTree) (loc : Location) : Prop :=
  ∃ bs, t.fileAt? loc = some bs ∧ IsIntText bs

/-- A board on a tree, and the files that are written by management. -/
structure Ground where
  io : Io
  tree : FileTree
  /-- The files of duties. -/
  duty : Location → Prop
  /-- The files of leds. -/
  led : Location → Prop
  duty_apart : ∀ loc, duty loc → ¬led loc ∧ ¬io.root.Opens tree Gpio.exportPath loc

namespace Ground

/-- The files that may be written. -/
def Free (g : Ground) (loc : Location) : Prop :=
  g.duty loc ∨ g.led loc ∨ g.io.root.Opens g.tree Gpio.exportPath loc

/-- A locator that names no file that may be written. -/
def Spares (g : Ground) (l : Locator) : Prop :=
  ∀ loc, l.Targets g.io g.tree loc → ¬g.Free loc

/-- A machine over the ground. -/
structure Carries (g : Ground) (m : Machine) : Prop where
  tree : SameBut g.Free g.tree m.tree
  readable : ∀ loc, g.duty loc → (m.tree.HoldsInt loc ↔ g.tree.HoldsInt loc)

variable {g : Ground} {m : Machine}

/-- What a machine remembers does not matter. -/
theorem Carries.of_tree (h : g.Carries m) {m' : Machine} (heq : m'.tree = m.tree) :
    g.Carries m' where
  tree := heq ▸ h.tree
  readable := heq ▸ h.readable

/-- New bytes for a file that may be written; those of a duty read as an integer. -/
theorem Carries.setContent (h : g.Carries m) {loc : Location} {old bs : List UInt8}
    (there : m.tree.fileAt? loc = some old) (hfree : g.Free loc)
    (hint : g.duty loc → g.tree.HoldsInt loc ∧ IsIntText bs) :
    g.Carries { m with tree := m.tree.setContent loc bs } := by
  refine { tree := h.tree.trans ((FileTree.sameBut_setContent loc bs m.tree).mono ?_)
           readable := fun q hq => ?_ }
  · rintro _ rfl
    exact hfree
  · dsimp only
    rw [FileTree.HoldsInt, FileTree.fileAt?_setContent there]
    split_ifs with heq
    · subst heq
      obtain ⟨hholds, htext⟩ := hint hq
      exact iff_of_true ⟨bs, rfl, htext⟩ hholds
    · exact h.readable q hq

end Ground

/-! ## Runs in step -/

/-- The same error, or values that are related. -/
inductive SameOutcome {ε α β : Type} (Q : α → β → Prop) : Except ε α → Except ε β → Prop
  | ok {a : α} {b : β} (h : Q a b) : SameOutcome Q (.ok a) (.ok b)
  | error (e : ε) : SameOutcome Q (.error e) (.error e)

theorem SameOutcome.self {ε α : Type} (r : Except ε α) :
    SameOutcome (fun a b => a = b ∧ r = .ok a) r r := by
  cases r with
  | ok a => exact .ok ⟨rfl, rfl⟩
  | error e => exact .error e

theorem SameOutcome.mono {ε α β : Type} {Q Q' : α → β → Prop} {r : Except ε α} {r' : Except ε β}
    (h : SameOutcome Q r r') (hQ : ∀ a b, Q a b → Q' a b) : SameOutcome Q' r r' := by
  cases h with
  | ok hq => exact .ok (hQ _ _ hq)
  | error e => exact .error e

/-- The files of `m₁` and of `m₂` were changed alike, into those of `n₁` and of `n₂`. -/
structure SameChanges (g : Ground) (m₁ m₂ n₁ n₂ : Machine) : Prop where
  left : g.Carries n₁
  right : g.Carries n₂
  /-- A file was left alone in both, or has the same content in both. -/
  files : ∀ loc, (n₁.tree.fileAt? loc = m₁.tree.fileAt? loc ∧
      n₂.tree.fileAt? loc = m₂.tree.fileAt? loc) ∨
    n₁.tree.fileAt? loc = n₂.tree.fileAt? loc

namespace SameChanges

variable {g : Ground} {m₁ m₂ n₁ n₂ k₁ k₂ : Machine}

/-- Nothing was changed. -/
theorem of_same (h₁ : g.Carries n₁) (h₂ : g.Carries n₂) (left : n₁.tree = m₁.tree)
    (right : n₂.tree = m₂.tree) : SameChanges g m₁ m₂ n₁ n₂ :=
  ⟨h₁, h₂, fun loc => .inl (by rw [left, right]; exact ⟨rfl, rfl⟩)⟩

theorem trans (h : SameChanges g m₁ m₂ n₁ n₂) (h' : SameChanges g n₁ n₂ k₁ k₂) :
    SameChanges g m₁ m₂ k₁ k₂ := by
  refine ⟨h'.left, h'.right, fun loc => ?_⟩
  obtain ⟨hl, hr⟩ | heq := h'.files loc
  · rw [hl, hr]
    exact h.files loc
  · exact .inr heq

end SameChanges

/-- Two runs, from `m₁` and from `m₂`, that did the same. The duty of the fans is that of before,
and the second run has learnt nothing about the controller. -/
structure Aligned (g : Ground) {ε α β : Type} (Q : α → β → Prop) (m₁ m₂ : Machine)
    (r₁ : Except ε α × Machine) (r₂ : Except ε β × Machine) : Prop
    extends SameChanges g m₁ m₂ r₁.2 r₂.2 where
  outcome : SameOutcome Q r₁.1 r₂.1
  left_duty : r₁.2.duty = m₁.duty
  right_duty : r₂.2.duty = m₂.duty
  right_fitted : r₂.2.bmcFitted = m₂.bmcFitted

/-- Operations that do the same on all machines over a ground, if the second one knows what the
first one learns about the controller. -/
structure InStep (g : Ground) {ε α β : Type} (Q : α → β → Prop) (x : Action ε Machine α)
    (y : Action ε Machine β) : Prop where
  /-- What is known about the controller stays known. -/
  remembers : ∀ m, g.Carries m → ∀ answer, m.bmcFitted = some answer →
    (x m).2.bmcFitted = some answer
  aligned : ∀ m₁ m₂, g.Carries m₁ → g.Carries m₂ → (x m₁).2.Settled m₂.bmcFitted →
    Aligned g Q m₁ m₂ (x m₁) (y m₂)

namespace InStep

variable {g : Ground} {ε ε' α β γ δ : Type} {Q : α → β → Prop} {Q' : γ → δ → Prop}

section Runs

variable {x : Action ε Machine α} {y : Action ε Machine β} {m₁ m₂ n₁ : Machine}

/-- What a run ends with was known before, or learnt in it. -/
theorem settled (h : InStep g Q x y) (h₁ : g.Carries m₁) {answer : Option Bool}
    (hs : (x m₁).2.Settled answer) : m₁.Settled answer := by
  cases hfitted : m₁.bmcFitted with
  | none => exact .inl hfitted
  | some a =>
    rw [Machine.Settled, h.remembers m₁ h₁ a hfitted] at hs
    rw [Machine.Settled, hfitted]
    exact hs

/-- A run is in step with one that knows from the start what it learns about the controller. -/
theorem foreseen (h : InStep g Q x y) (h₁ : g.Carries m₁) :
    Aligned g Q m₁ { m₁ with bmcFitted := (x m₁).2.bmcFitted } (x m₁)
      (y { m₁ with bmcFitted := (x m₁).2.bmcFitted }) :=
  h.aligned m₁ _ h₁ (h₁.of_tree rfl) (.inr rfl)

/-- A run in step with one that ended well ended well, too. -/
theorem exists_ok (h : InStep g Q x y) (h₁ : g.Carries m₁) (h₂ : g.Carries m₂) {a : α}
    (hx : x m₁ = (.ok a, n₁)) (hs : n₁.Settled m₂.bmcFitted) :
    ∃ b n₂, y m₂ = (.ok b, n₂) ∧ Q a b ∧ Aligned g Q m₁ m₂ (x m₁) (y m₂) := by
  have hrun := h.aligned m₁ m₂ h₁ h₂ (hx ▸ hs)
  have houtcome := hrun.outcome
  rw [hx] at houtcome
  generalize y m₂ = run at hrun houtcome ⊢
  obtain ⟨_, n₂⟩ := run
  cases houtcome with
  | ok hq => exact ⟨_, n₂, rfl, hq, hrun⟩

end Runs

theorem mono {Q' : α → β → Prop} {x : Action ε Machine α} {y : Action ε Machine β}
    (h : InStep g Q x y) (hQ : ∀ a b, Q a b → Q' a b) : InStep g Q' x y where
  remembers := h.remembers
  aligned m₁ m₂ h₁ h₂ hs :=
    have hrun := h.aligned m₁ m₂ h₁ h₂ hs
    { hrun with outcome := hrun.outcome.mono hQ }

/-- Operations that leave the machine alone. -/
theorem of_still {x : Action ε Machine α} {y : Action ε Machine β}
    (hx : ∀ m, g.Carries m → (x m).2 = m) (hy : ∀ m, g.Carries m → (y m).2 = m)
    (h : ∀ m₁ m₂, g.Carries m₁ → g.Carries m₂ → SameOutcome Q (x m₁).1 (y m₂).1) :
    InStep g Q x y := by
  refine ⟨fun m hm answer hanswer => by rwa [hx m hm], fun m₁ m₂ h₁ h₂ _ => ?_⟩
  have hleft := hx m₁ h₁
  have hright := hy m₂ h₂
  refine { outcome := h m₁ m₂ h₁ h₂, left_duty := by rw [hleft], right_duty := by rw [hright]
           right_fitted := by rw [hright]
           toSameChanges := .of_same ?_ ?_ (by rw [hleft]) (by rw [hright]) }
  · rwa [hleft]
  · rwa [hright]

theorem ofExcept {r : Except ε α} {r' : Except ε β} (h : SameOutcome Q r r') :
    InStep g Q (Action.ofExcept r) (Action.ofExcept r') :=
  of_still (fun _ _ => rfl) (fun _ _ => rfl) fun _ _ _ _ => h

theorem pure {a : α} {b : β} (h : Q a b) :
    InStep g Q (Pure.pure a : Action ε Machine α) (Pure.pure b) :=
  ofExcept (.ok h)

theorem fail (e : ε) : InStep g Q (Action.fail e) (Action.fail e) :=
  ofExcept (.error e)

/-- **What is in step part by part is in step in all.** -/
theorem bind {x : Action ε Machine α} {y : Action ε Machine β} {f : α → Action ε Machine γ}
    {f' : β → Action ε Machine δ} (hx : InStep g Q x y)
    (hf : ∀ a b, Q a b → InStep g Q' (f a) (f' b)) : InStep g Q' (x >>= f) (y >>= f') := by
  -- what follows `x` is in step with something, since `x` is in step with a run that foresees it
  have hnext : ∀ m, g.Carries m → ∀ a, (x m).1 = .ok a →
      g.Carries (x m).2 ∧ ∃ b, InStep g Q' (f a) (f' b) := by
    intro m hm a ha
    have hrun := hx.foreseen hm
    have houtcome := hrun.outcome
    rw [ha] at houtcome
    generalize (y _).1 = b at houtcome
    cases houtcome with
    | ok hq => exact ⟨hrun.left, _, hf _ _ hq⟩
  constructor
  · intro m hm answer hanswer
    have hknown := hx.remembers m hm answer hanswer
    rw [Action.bind_eq]
    cases ha : (x m).1 with
    | error e => exact hknown
    | ok a =>
      obtain ⟨hcarries, b, hrest⟩ := hnext m hm a ha
      exact hrest.remembers _ hcarries answer hknown
  · intro m₁ m₂ h₁ h₂ hs
    rw [Action.bind_eq] at hs ⊢
    rw [Action.bind_eq]
    have hsettled : (x m₁).2.Settled m₂.bmcFitted := by
      cases ha : (x m₁).1 with
      | error e =>
        rw [ha] at hs
        exact hs
      | ok a =>
        rw [ha] at hs
        obtain ⟨hcarries, b, hrest⟩ := hnext m₁ h₁ a ha
        exact hrest.settled hcarries hs
    have hfirst := hx.aligned m₁ m₂ h₁ h₂ hsettled
    have houtcome := hfirst.outcome
    generalize (x m₁).1 = a, (y m₂).1 = b at houtcome hs ⊢
    cases houtcome with
    | error e => exact { hfirst with outcome := .error e }
    | ok hq =>
      have hrest := (hf _ _ hq).aligned _ _ hfirst.left hfirst.right (hfirst.right_fitted ▸ hs)
      exact { outcome := hrest.outcome
              toSameChanges := hfirst.toSameChanges.trans hrest.toSameChanges
              left_duty := hrest.left_duty.trans hfirst.left_duty
              right_duty := hrest.right_duty.trans hfirst.right_duty
              right_fitted := hrest.right_fitted.trans hfirst.right_fitted }

theorem attempt {x : Action ε Machine α} {y : Action ε Machine β} (h : InStep g Q x y) :
    InStep g (SameOutcome Q) (x.attempt : Action ε' Machine (Except ε α)) y.attempt where
  remembers := h.remembers
  aligned m₁ m₂ h₁ h₂ hs :=
    have hrun := h.aligned m₁ m₂ h₁ h₂ hs
    { hrun with outcome := .ok hrun.outcome }

/-- An attempt that leaves the machine alone, whatever it ends in. -/
theorem attempt_of_still {x : Action ε Machine α} (hx : ∀ m, (x m).2 = m) :
    InStep g (fun _ _ => True) (x.attempt : Action ε' Machine (Except ε α)) x.attempt :=
  of_still (fun m _ => hx m) (fun m _ => hx m) fun _ _ _ _ => .ok trivial

theorem mapError {x : Action ε Machine α} {y : Action ε Machine β} (h : InStep g Q x y)
    (f : ε → ε') : InStep g Q (x.mapError f) (y.mapError f) := by
  refine ⟨fun m hm => by simpa only [Action.mapError_eq] using h.remembers m hm,
    fun m₁ m₂ h₁ h₂ hs => ?_⟩
  rw [Action.mapError_eq] at hs ⊢
  rw [Action.mapError_eq]
  have hrun := h.aligned m₁ m₂ h₁ h₂ hs
  have houtcome := hrun.outcome
  refine { hrun with outcome := ?_ }
  generalize (x m₁).1 = a, (y m₂).1 = b at houtcome ⊢
  cases houtcome with
  | ok hq => exact .ok hq
  | error e => exact .error _

theorem lift {x : Access α} {y : Access β} (h : InStep g Q x y) :
    InStep g Q (liftM x : Drive α) (liftM y) := by
  rw [lift_eq, lift_eq]
  exact h.mapError _

/-- A value that may be missing. -/
theorem optional {x : Access α} {y : Access β} (h : InStep g Q x y) :
    InStep g (Option.Rel Q) (Io.optional x) (Io.optional y) := by
  refine ⟨fun m hm => by simpa only [optional_eq] using h.remembers m hm,
    fun m₁ m₂ h₁ h₂ hs => ?_⟩
  rw [optional_eq] at hs ⊢
  rw [optional_eq]
  have hrun := h.aligned m₁ m₂ h₁ h₂ hs
  have houtcome := hrun.outcome
  refine { hrun with outcome := ?_ }
  generalize (x m₁).1 = a, (y m₂).1 = b at houtcome ⊢
  cases houtcome with
  | ok hq => exact .ok (.some hq)
  | error e =>
    cases e with
    | missing => exact .ok .none
    | _ => exact .error _

/-- An operation is what it amounts to on the machines over a ground. -/
theorem congr {x x' : Action ε Machine α} {y y' : Action ε Machine β}
    (hx : ∀ m, g.Carries m → x m = x' m) (hy : ∀ m, g.Carries m → y m = y' m)
    (h : InStep g Q x' y') : InStep g Q x y := by
  refine ⟨fun m hm => by simpa only [hx m hm] using h.remembers m hm,
    fun m₁ m₂ h₁ h₂ hs => ?_⟩
  rw [hx m₁ h₁] at hs ⊢
  rw [hy m₂ h₂]
  exact h.aligned m₁ m₂ h₁ h₂ hs

/-- A look at the tree that does not depend on the files that may be written. -/
theorem inspect {f : FileTree → Except ε α} (h : ∀ t, SameBut g.Free g.tree t → f t = f g.tree) :
    InStep g (fun a b => a = b ∧ f g.tree = .ok a) (Action.inspect fun m => f m.tree)
      (Action.inspect fun m => f m.tree) := by
  refine of_still (fun _ _ => rfl) (fun _ _ => rfl) fun m₁ m₂ h₁ h₂ => ?_
  rw [Action.inspect_apply, Action.inspect_apply, h _ h₁.tree, h _ h₂.tree]
  exact .self _

theorem fromTree {f : FileTree → Except AttributeError α}
    (h : ∀ t, SameBut g.Free g.tree t → f t = f g.tree) :
    InStep g (fun a b => a = b ∧ f g.tree = .ok a) (fromTree f) (fromTree f) := by
  refine (inspect (f := fun t => (f t).mapError AttributeError.status) fun t same => ?_).mono
    fun a b hab => ⟨hab.1, ok_of_fromTree (m := { tree := g.tree }) hab.2⟩
  rw [h t same]

end InStep

end SwitchPlatform
