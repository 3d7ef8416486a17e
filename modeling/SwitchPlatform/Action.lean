/-!
# Actions on a state

An action runs on a state, and ends in a value or in an error; in both cases it leaves a state
behind, so what was changed before an error stays changed. Actions are chained with `do`; the rest
of a chain is left out after an error.
-/

namespace SwitchPlatform

/-- A run on a state `σ` that ends in a value `α` or an error `ε`. -/
def Action (ε σ α : Type) : Type :=
  σ → Except ε α × σ

namespace Action

variable {ε ε' σ τ α β : Type}

/-- Ends in a value at once. -/
protected def pure (a : α) : Action ε σ α := fun s => (.ok a, s)

/-- Runs one action, and then, unless it failed, the one chosen by its value. -/
protected def bind (x : Action ε σ α) (f : α → Action ε σ β) : Action ε σ β := fun s =>
  match x s with
  | (.ok a, s') => f a s'
  | (.error e, s') => (.error e, s')

instance : Monad (Action ε σ) where
  pure := Action.pure
  bind := Action.bind

/-- Ends in an error at once. -/
def fail (e : ε) : Action ε σ α := fun s => (.error e, s)

/-- Ends as `r` says. -/
def ofExcept (r : Except ε α) : Action ε σ α := fun s => (r, s)

/-- Looks at the state and leaves it alone. -/
def inspect (f : σ → Except ε α) : Action ε σ α := fun s => (f s, s)

/-- The value of a function of the state. -/
def view (f : σ → α) : Action ε σ α := fun s => (.ok (f s), s)

/-- Changes the state. -/
def update (f : σ → σ) : Action ε σ Unit := fun s => (.ok (), f s)

/-- Runs an action and hands its outcome on as a value; its changes of the state stay. -/
def attempt (x : Action ε σ α) : Action ε' σ (Except ε α) := fun s =>
  match x s with
  | (r, s') => (.ok r, s')

/-- The same run with other errors. -/
def mapError (f : ε → ε') (x : Action ε σ α) : Action ε' σ α := fun s =>
  match x s with
  | (.ok a, s') => (.ok a, s')
  | (.error e, s') => (.error (f e), s')

/-- Runs an action on a part of the state. -/
def zoom (get : σ → τ) (set : τ → σ → σ) (x : Action ε τ α) : Action ε σ α := fun s =>
  match x (get s) with
  | (r, t) => (r, set t s)

@[simp] theorem pure_apply (a : α) (s : σ) : (pure a : Action ε σ α) s = (.ok a, s) := rfl

theorem bind_apply (x : Action ε σ α) (f : α → Action ε σ β) (s : σ) :
    (x >>= f) s = match x s with
      | (.ok a, s') => f a s'
      | (.error e, s') => (.error e, s') := rfl

@[simp] theorem fail_apply (e : ε) (s : σ) : (fail e : Action ε σ α) s = (.error e, s) := rfl

@[simp] theorem ofExcept_apply (r : Except ε α) (s : σ) :
    (ofExcept r : Action ε σ α) s = (r, s) := rfl

@[simp] theorem inspect_apply (f : σ → Except ε α) (s : σ) : inspect f s = (f s, s) := rfl

@[simp] theorem view_apply (f : σ → α) (s : σ) : (view f : Action ε σ α) s = (.ok (f s), s) := rfl

@[simp] theorem update_apply (f : σ → σ) (s : σ) :
    (update f : Action ε σ Unit) s = (.ok (), f s) := rfl

theorem attempt_apply (x : Action ε σ α) (s : σ) :
    (attempt x : Action ε' σ (Except ε α)) s = (.ok (x s).1, (x s).2) := rfl

theorem bind_ok {x : Action ε σ α} {f : α → Action ε σ β} {s s' : σ} {a : α}
    (h : x s = (.ok a, s')) : (x >>= f) s = f a s' := by
  rw [bind_apply, h]

theorem bind_error {x : Action ε σ α} {f : α → Action ε σ β} {s s' : σ} {e : ε}
    (h : x s = (.error e, s')) : (x >>= f) s = (.error e, s') := by
  rw [bind_apply, h]

/-- Running on after an action's own value changes nothing. -/
theorem bind_pure_id (x : Action ε σ α) : Action.bind x (fun a => Action.pure (id a)) = x := by
  funext s
  simp only [Action.bind, Action.pure, id]
  split <;> simp_all

/-- Chaining is associative. -/
theorem bind_bind {γ : Type} (x : Action ε σ α) (f : α → Action ε σ β) (g : β → Action ε σ γ) :
    Action.bind (Action.bind x f) g = Action.bind x (fun a => Action.bind (f a) g) := by
  funext s
  simp only [Action.bind]
  cases x s with
  | mk r s' => cases r <;> rfl

instance : LawfulMonad (Action ε σ) :=
  LawfulMonad.mk' _ bind_pure_id (fun _ _ => rfl) bind_bind

end Action

end SwitchPlatform
