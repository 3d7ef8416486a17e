import SwitchPlatform.Proofs.Platform.Operations
import SwitchPlatform.Proofs.PortSet

/-!
# Looks that do not disturb each other

An action is steady for a relation if it leaves a related state behind and ends in the same way on
related states (`Action.Steady`): what other steady actions have changed before does not matter to
it, so a chain of them ends as if each one had run first (`Steady.bind_fst`).

A steady test of ports has one verdict for each port, and collecting the ports that pass it finds
exactly those with a positive verdict (`contains_collect`), unless it has none for some port, of
which the lowest one decides the error (`collect_error_iff`).
-/

namespace SwitchPlatform

variable {ε ε' σ α β : Type} {R : σ → σ → Prop}

/-- An action that keeps a relation and ends in the same way on related states. -/
structure Action.Steady (R : σ → σ → Prop) (x : Action ε σ α) : Prop where
  keeps : x.Keeps R
  same : ∀ s s', R s s' → (x s').1 = (x s).1

namespace Action.Steady

/-- What leaves the state alone is steady for equality. -/
theorem of_unchanged {x : Action ε σ α} (h : ∀ s, (x s).2 = s) : x.Steady Eq where
  keeps s := (h s).symm
  same s s' heq := by rw [heq]

theorem attempt {x : Action ε σ α} (hx : x.Steady R) :
    (x.attempt : Action ε' σ (Except ε α)).Steady R where
  keeps := hx.keeps.attempt
  same s s' h := congrArg Except.ok (hx.same s s' h)

variable [IsPreorder σ R]

theorem ofExcept (r : Except ε α) : (Action.ofExcept r : Action ε σ α).Steady R where
  keeps := .ofExcept r
  same _ _ _ := rfl

theorem pure (a : α) : (Pure.pure a : Action ε σ α).Steady R :=
  ofExcept (.ok a)

theorem fail (e : ε) : (Action.fail e : Action ε σ α).Steady R :=
  ofExcept (.error e)

/-- **A chain of steady actions is steady**, the second one for the values that the first one may
end in. -/
theorem bind_of {x : Action ε σ α} {f : α → Action ε σ β} (hx : x.Steady R)
    (hf : ∀ a s, (x s).1 = .ok a → (f a).Steady R) : (x >>= f).Steady R := by
  refine ⟨hx.keeps.bind_of fun a s hr => (hf a s hr).keeps, fun s s' h => ?_⟩
  rw [Action.bind_eq, Action.bind_eq, hx.same s s' h]
  cases hr : (x s).1 with
  | error e => rfl
  | ok a =>
    have hfa := hf a s hr
    dsimp only
    rw [hfa.same s _ (hx.keeps s), hfa.same s _ (trans_of R h (hx.keeps s'))]

theorem bind {x : Action ε σ α} {f : α → Action ε σ β} (hx : x.Steady R)
    (hf : ∀ a, (f a).Steady R) : (x >>= f).Steady R :=
  hx.bind_of fun a _ _ => hf a

omit [IsPreorder σ R] in
/-- **A chain of steady actions ends as if each one had run first.** -/
theorem bind_fst {x : Action ε σ α} {f : α → Action ε σ β} (hx : x.Steady R)
    (hf : ∀ a, (f a).Steady R) (s : σ) : ((x >>= f) s).1 = (x s).1.bind fun a => (f a s).1 := by
  rw [Action.bind_eq]
  cases (x s).1 with
  | error e => rfl
  | ok a => exact (hf a).same s _ (hx.keeps s)

end Action.Steady

/-! ## Collecting ports -/

namespace PortOps

variable [IsPreorder σ R] {test : Nat → Query σ Bool} {ports : List Nat} {found set : PortSet}
  {s : σ} {e : StatusError}

theorem steady_collect (h : ∀ port, (test port).Steady R) (ports : List Nat) (found : PortSet) :
    (collect test ports found).Steady R := by
  induction ports generalizing found with
  | nil => exact .pure found
  | cons port ports ih =>
    refine (h port).bind fun passed => ?_
    split
    · exact ih _
    · exact ih _

/-- The verdict on the first port, and then the other ports on the same state. -/
theorem collect_cons_fst (h : ∀ port, (test port).Steady R) (port : Nat) :
    (collect test (port :: ports) found s).1 = (test port s).1.bind fun passed =>
      (collect test ports (if passed then found.insert port else found) s).1 := by
  have hrest : ∀ passed : Bool,
      (if passed then collect test ports (found.insert port) else collect test ports found) =
        collect test ports (if passed then found.insert port else found) := by
    intro passed
    cases passed <;> rfl
  rw [collect, (h port).bind_fst fun passed => ?_]
  · simp only [hrest]
  · rw [hrest]
    exact steady_collect h _ _

/-- **The ports that are found are those that pass.** -/
theorem contains_collect (h : ∀ port, (test port).Steady R)
    (hrun : (collect test ports found s).1 = .ok set) (p : Nat) : set.contains p = true ↔
      found.contains p = true ∨ p ∈ ports ∧ (test p s).1 = .ok true := by
  induction ports generalizing found with
  | nil =>
    cases hrun
    simp
  | cons port ports ih =>
    rw [collect_cons_fst h] at hrun
    cases hport : (test port s).1 with
    | error e =>
      rw [hport] at hrun
      cases hrun
    | ok passed =>
      rw [hport] at hrun
      rw [ih hrun, List.mem_cons]
      cases passed with
      | true =>
        rw [if_pos rfl, PortSet.contains_insert]
        constructor
        · rintro ((rfl | hp) | hp)
          · exact .inr ⟨.inl rfl, hport⟩
          · exact .inl hp
          · exact .inr ⟨.inr hp.1, hp.2⟩
        · rintro (hp | ⟨rfl | hp, hpass⟩)
          · exact .inl (.inr hp)
          · exact .inl (.inl rfl)
          · exact .inr ⟨hp, hpass⟩
      | false =>
        have hne : (test p s).1 = .ok true → p ≠ port := by
          rintro hpass rfl
          rw [hport] at hpass
          cases hpass
        simp only [Bool.false_eq_true, if_false]
        constructor
        · exact Or.imp_right fun hp => ⟨.inr hp.1, hp.2⟩
        · exact Or.imp_right fun hp => ⟨hp.1.resolve_left (hne hp.2), hp.2⟩

/-- **The lowest port without a verdict decides the error.** -/
theorem collect_error_iff (h : ∀ port, (test port).Steady R)
    (ascending : ports.Pairwise (· < ·)) : (collect test ports found s).1 = .error e ↔
      ∃ p ∈ ports, (test p s).1 = .error e ∧
        ∀ q ∈ ports, q < p → ∃ passed, (test q s).1 = .ok passed := by
  induction ports generalizing found with
  | nil =>
    constructor
    · intro hrun
      cases hrun
    · rintro ⟨p, hp, -⟩
      exact absurd hp List.not_mem_nil
  | cons port ports ih =>
    obtain ⟨hlowest, hrest⟩ := List.pairwise_cons.1 ascending
    rw [collect_cons_fst h]
    cases hport : (test port s).1 with
    | error e' =>
      constructor
      · intro hrun
        cases hrun
        refine ⟨port, List.mem_cons_self, hport, fun q hq hlt => ?_⟩
        rcases List.mem_cons.1 hq with rfl | hq
        · exact absurd hlt (Nat.lt_irrefl q)
        · exact absurd hlt (Nat.lt_asymm (hlowest q hq))
      · rintro ⟨p, hp, herror, hbelow⟩
        rcases List.mem_cons.1 hp with rfl | hp
        · rw [hport] at herror
          cases herror
          rfl
        · obtain ⟨passed, hpassed⟩ := hbelow port List.mem_cons_self (hlowest p hp)
          rw [hport] at hpassed
          cases hpassed
    | ok passed =>
      refine (ih hrest).trans ?_
      constructor
      · rintro ⟨p, hp, herror, hbelow⟩
        refine ⟨p, List.mem_cons_of_mem port hp, herror, fun q hq hlt => ?_⟩
        rcases List.mem_cons.1 hq with rfl | hq
        · exact ⟨passed, hport⟩
        · exact hbelow q hq hlt
      · rintro ⟨p, hp, herror, hbelow⟩
        have hne : p ≠ port := by
          rintro rfl
          rw [hport] at herror
          cases herror
        exact ⟨p, (List.mem_cons.1 hp).resolve_left hne, herror,
          fun q hq hlt => hbelow q (List.mem_cons_of_mem port hq) hlt⟩

/-! ## Sets of ports -/

variable {ops : PortOps σ} {count : Nat} (hports : ops.ports s = .below count)

/-- A port reports loss of signal if its control reads so. -/
theorem losesSignal_eq_true_iff {port : Nat} : (ops.losesSignal port s).1 = .ok true ↔
    ∃ v, (ops.getControl port .rxLos s).1 = .ok v ∧ v ≠ 0 := by
  rw [losesSignal, Action.bind_eq, Action.attempt_apply]
  dsimp only
  cases (ops.getControl port .rxLos s).1 with
  | ok v => simp
  | error e => cases e <;> simp

include hports

/-- The set of all ports with a module. -/
theorem contains_present (h : ∀ port, (ops.isPresent port).Steady R)
    (hrun : (ops.present s).1 = .ok set) (p : Nat) :
    set.contains p = true ↔ p < count ∧ (ops.isPresent p s).1 = .ok true := by
  have hfind := contains_collect h hrun p
  rwa [or_iff_right (by simp [PortSet.contains_empty]), hports, PortSet.ports_below,
    List.mem_range] at hfind

theorem present_error_iff (h : ∀ port, (ops.isPresent port).Steady R) :
    (ops.present s).1 = .error e ↔
      ∃ p < count, (ops.isPresent p s).1 = .error e ∧
        ∀ q < p, ∃ present, (ops.isPresent q s).1 = .ok present := by
  have hfail : (ops.present s).1 = .error e ↔ _ :=
    collect_error_iff h (PortSet.pairwise_ports (ops.ports s))
  simp only [hports, PortSet.ports_below, List.mem_range] at hfail
  rw [hfail]
  constructor
  · rintro ⟨p, hp, herror, hbelow⟩
    exact ⟨p, hp, herror, fun q hq => hbelow q (Nat.lt_trans hq hp) hq⟩
  · rintro ⟨p, hp, herror, hbelow⟩
    exact ⟨p, hp, herror, fun q _ hq => hbelow q hq⟩

/-- The set of all ports that report loss of signal. -/
theorem contains_rxLos (h : ∀ port, (ops.getControl port .rxLos).Steady R)
    (hrun : (ops.rxLos s).1 = .ok set) (p : Nat) : set.contains p = true ↔
      p < count ∧ ∃ v, (ops.getControl p .rxLos s).1 = .ok v ∧ v ≠ 0 := by
  have hloses (port : Nat) : (ops.losesSignal port).Steady R := by
    refine (h port).attempt.bind fun outcome => ?_
    split
    · exact .pure _
    · exact .pure _
    · exact .pure _
    · exact .fail _
  have hfind := contains_collect hloses hrun p
  rwa [or_iff_right (by simp [PortSet.contains_empty]), hports, PortSet.ports_below,
    List.mem_range, losesSignal_eq_true_iff] at hfind

end PortOps

/-- The kind of the module in a port is that of its page, if there is one. -/
theorem Platform.moduleKind?_fst (p : Platform σ) (port : Nat) (s : σ) :
    (p.moduleKind? port s).1 =
      .ok ((p.ports.readPage port s).1.toOption.map ModuleKind.ofPage) := by
  rw [Platform.moduleKind?, Action.bind_eq, Action.attempt_apply]
  cases (p.ports.readPage port s).1 <;> rfl

end SwitchPlatform
