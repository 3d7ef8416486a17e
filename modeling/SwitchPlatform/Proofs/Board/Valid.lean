import Mathlib.Data.List.Nodup
import SwitchPlatform.Board.Validation

/-!
# Valid boards

`Board.Valid` says what the tables of a board owe to each other, one field per check, and
`validate_eq_ok_iff` says that `Board.validate` accepts the valid boards and no others. What
follows from validation is derived from the fields of `Valid`.
-/

namespace SwitchPlatform

/-! ## Checks along lists -/

section Checks

variable {ε α : Type}

theorem checkAll_eq_ok_iff {check : α → Except ε Unit} {l : List α} :
    checkAll check l = .ok () ↔ ∀ a ∈ l, check a = .ok () := by
  induction l with
  | nil => simp [checkAll]
  | cons a l ih =>
    simp only [checkAll, List.forall_mem_cons]
    cases ha : check a with
    | ok => simpa using ih
    | error e => simp

theorem checkCount_eq_ok_iff {check : Nat → Except ε Unit} {start n : Nat} :
    checkCount check start n = .ok () ↔ ∀ k, start ≤ k → k < start + n → check k = .ok () := by
  induction n generalizing start with
  | zero =>
    simp only [checkCount, true_iff]
    intro k h1 h2
    omega
  | succ n ih =>
    simp only [checkCount]
    cases hs : check start with
    | ok =>
      simp only [ih]
      constructor
      · intro h k h1 h2
        rcases Nat.eq_or_lt_of_le h1 with rfl | h1
        · exact hs
        · exact h k h1 (by omega)
      · exact fun h k h1 h2 => h k (by omega) (by omega)
    | error e =>
      simp only [reduceCtorEq, false_iff]
      intro h
      have := h start (Nat.le_refl _) (by omega)
      rw [hs] at this
      cases this

/-- Two checks in a row pass if both pass. -/
theorem andThen_eq_ok_iff {x y : Except ε Unit} :
    (do x; y) = .ok () ↔ x = .ok () ∧ y = .ok () := by
  cases x with
  | ok => exact ⟨fun h => ⟨rfl, h⟩, fun h => h.2⟩
  | error e =>
    constructor
    · exact fun h => nomatch (h : Except.error e = .ok ())
    · rintro ⟨h, -⟩
      cases h

theorem ite_eq_ok_iff {p : Prop} [Decidable p] {e : ε} :
    (if p then .ok () else .error e : Except ε Unit) = .ok () ↔ p := by
  by_cases h : p <;> simp [h]

end Checks

namespace Board

/-! ## Valid tables -/

/-- The parent of a sensor or a fan: the chassis, or a power supply of the board that lists it. -/
def IsParent (b : Board) (id parent : Oid) : Prop :=
  parent = .chassis ∨ ∃ psu, lookup? .psu b.psus parent = some psu ∧ id ∈ psu.children

/-- A fan policy with ascending steps and duties of at most 100. -/
structure PolicyValid (p : FanPolicy) : Prop where
  ascending : p.steps.Pairwise fun s t => s.mcelsius < t.mcelsius
  step_le : ∀ s ∈ p.steps, s.percentage ≤ 100
  failsafe_le : p.failsafe ≤ 100
  floor_le : p.floor ≤ 100

/-- Roles that name objects of the board. -/
structure RolesValid (b : Board) (r : LedRoles) : Prop where
  fan : ∀ led, r.fan = some led → b.holds led = true
  led : ∀ pair ∈ r.psus, b.holds pair.2 = true
  psu : ∀ pair ∈ r.psus, b.holds pair.1 = true

/-- What the tables of a board owe to each other. -/
structure Valid (b : Board) : Prop where
  thermal_parent : ∀ i e, b.thermals[i]? = some e → b.IsParent (oid .thermal i) e.parent
  fan_parent : ∀ i e, b.fans[i]? = some e → b.IsParent (oid .fan i) e.parent
  psu_child : ∀ i e, b.psus[i]? = some e → ∀ c ∈ e.children, b.parent? c = some (oid .psu i)
  led_modes : ∀ e ∈ b.leds, e.modes ≠ [] ∧ (e.modes.map Prod.fst).Nodup
  port : ∀ p < b.ports.count, b.ports.present.covers p = true ∧ b.ports.eepromBus.covers p = true
  roles : ∀ r, b.ledRoles = some r → b.RolesValid r
  policy : ∀ p, b.fanPolicy = some p → PolicyValid p

/-! ## Each check -/

theorem checkParent_eq_ok_iff {b : Board} {id parent : Oid} :
    b.checkParent id parent = .ok () ↔ b.IsParent id parent := by
  unfold checkParent IsParent
  by_cases hp : parent = .chassis
  · simp [hp]
  · simp only [hp, if_false, false_or]
    cases lookup? .psu b.psus parent with
    | none => simp
    | some psu => simp

/-- A check of every entry of a table with its place. -/
theorem forall_mem_zipIdx {α : Type} {l : List α} {P : α → Nat → Prop} :
    (∀ x ∈ l.zipIdx, P x.1 x.2) ↔ ∀ i a, l[i]? = some a → P a i := by
  constructor
  · exact fun h i a ha => h (a, i) (List.mk_mem_zipIdx_iff_getElem?.2 ha)
  · exact fun h x hx => h x.2 x.1 (List.mem_zipIdx_iff_getElem?.1 hx)

theorem checkChildren_eq_ok_iff {b : Board} {e : PsuEntry} {i : Nat} :
    b.checkChildren (e, i) = .ok () ↔ ∀ c ∈ e.children, b.parent? c = some (oid .psu i) := by
  simp only [checkChildren, checkAll_eq_ok_iff, ite_eq_ok_iff]

theorem repeated?_eq_none_iff {seen vs : List Int32} :
    repeated? seen vs = none ↔ vs.Nodup ∧ ∀ v ∈ vs, v ∉ seen := by
  induction vs generalizing seen with
  | nil => simp [repeated?]
  | cons v vs ih =>
    by_cases hv : v ∈ seen
    · simp [repeated?, hv]
    · simp only [repeated?, List.contains_eq_mem, hv, decide_false, Bool.false_eq_true, if_false,
        ih, List.nodup_cons, List.mem_cons, not_or]
      constructor
      · rintro ⟨hn, h⟩
        refine ⟨⟨fun hm => (h v hm).1 rfl, hn⟩, ?_⟩
        rintro w (rfl | hw)
        · exact hv
        · exact (h w hw).2
      · rintro ⟨⟨hm, hn⟩, h⟩
        exact ⟨hn, fun w hw => ⟨fun e => hm (e ▸ hw), h w (.inr hw)⟩⟩

theorem checkLed_eq_ok_iff {x : LedEntry × Nat} :
    checkLed x = .ok () ↔ x.1.modes ≠ [] ∧ (x.1.modes.map Prod.fst).Nodup := by
  unfold checkLed
  by_cases hm : x.1.modes = []
  · simp [hm]
  · have hr := @repeated?_eq_none_iff [] (x.1.modes.map Prod.fst)
    cases hrep : repeated? [] (x.1.modes.map Prod.fst) with
    | none => simp_all
    | some raw => simp_all

theorem checkPort_eq_ok_iff {b : Board} {p : Nat} :
    b.checkPort p = .ok () ↔
      b.ports.present.covers p = true ∧ b.ports.eepromBus.covers p = true := by
  unfold checkPort
  cases b.ports.present.covers p <;> cases b.ports.eepromBus.covers p <;> simp

theorem checkRoles_eq_ok_iff {b : Board} {r : LedRoles} :
    b.checkRoles r = .ok () ↔ b.RolesValid r := by
  simp only [checkRoles, andThen_eq_ok_iff, checkAll_eq_ok_iff, ite_eq_ok_iff, List.mem_append,
    Option.mem_toList, List.mem_map]
  constructor
  · rintro ⟨hl, hp⟩
    exact ⟨fun led h => hl led (.inl h), fun x hx => hl _ (.inr ⟨x, hx, rfl⟩),
      fun x hx => hp _ ⟨x, hx, rfl⟩⟩
  · rintro ⟨hf, hl, hp⟩
    refine ⟨?_, ?_⟩
    · rintro led (h | ⟨x, hx, rfl⟩)
      · exact hf led h
      · exact hl x hx
    · rintro psu ⟨x, hx, rfl⟩
      exact hp x hx

theorem ascending_iff {steps : List FanStep} :
    ascending steps = true ↔ steps.Pairwise fun s t => s.mcelsius < t.mcelsius := by
  induction steps with
  | nil => simp [ascending]
  | cons a steps ih =>
    cases steps with
    | nil => simp [ascending]
    | cons b steps =>
      simp only [ascending, Bool.and_eq_true, decide_eq_true_eq, ih]
      constructor
      · rintro ⟨hab, h⟩
        refine List.pairwise_cons.2 ⟨fun t ht => ?_, h⟩
        rcases List.mem_cons.1 ht with rfl | ht
        · exact hab
        · exact Int32.lt_trans hab ((List.pairwise_cons.1 h).1 t ht)
      · intro h
        exact ⟨(List.pairwise_cons.1 h).1 b List.mem_cons_self, (List.pairwise_cons.1 h).2⟩

/-- No duty of a policy is above 100. -/
theorem any_duty_eq_false_iff {p : FanPolicy} :
    (p.steps.map FanStep.percentage ++ [p.failsafe, p.floor]).any (100 < ·) = false ↔
      (∀ s ∈ p.steps, s.percentage ≤ 100) ∧ p.failsafe ≤ 100 ∧ p.floor ≤ 100 := by
  simp only [List.any_append, List.any_map, List.any_cons, List.any_nil, Bool.or_eq_false_iff,
    List.any_eq_false, Function.comp_apply, decide_eq_true_eq, decide_eq_false_iff_not,
    UInt8.not_lt, and_true]

theorem checkPolicy_eq_ok_iff {p : FanPolicy} : checkPolicy p = .ok () ↔ PolicyValid p := by
  unfold checkPolicy
  cases ha : ascending p.steps with
  | false =>
    simp only [Bool.not_false, if_true, reduceCtorEq, false_iff]
    intro h
    rw [ascending_iff.2 h.ascending] at ha
    cases ha
  | true =>
    cases hd : (p.steps.map FanStep.percentage ++ [p.failsafe, p.floor]).any (100 < ·) with
    | false =>
      obtain ⟨hs, hf, hl⟩ := any_duty_eq_false_iff.1 hd
      simpa using PolicyValid.mk (ascending_iff.1 ha) hs hf hl
    | true =>
      simp only [Bool.not_true, Bool.false_eq_true, if_false, if_true, reduceCtorEq, false_iff]
      intro h
      rw [any_duty_eq_false_iff.2 ⟨h.step_le, h.failsafe_le, h.floor_le⟩] at hd
      cases hd

/-! ## Validation -/

/-- **Validation accepts the valid boards** and no others. -/
theorem validate_eq_ok_iff {b : Board} : b.validate = .ok () ↔ b.Valid := by
  simp only [validate, andThen_eq_ok_iff, checkThermals, checkFans, checkAll_eq_ok_iff,
    checkCount_eq_ok_iff, checkParent_eq_ok_iff, checkLed_eq_ok_iff, checkPort_eq_ok_iff,
    checkRoles_eq_ok_iff, checkPolicy_eq_ok_iff, Option.mem_toList]
  constructor
  · rintro ⟨ht, hf, hp, hl, hports, hr, hpol⟩
    exact
      { thermal_parent := forall_mem_zipIdx.1 ht
        fan_parent := forall_mem_zipIdx.1 hf
        psu_child := fun i e he =>
          checkChildren_eq_ok_iff.1 (hp (e, i) (List.mk_mem_zipIdx_iff_getElem?.2 he))
        led_modes := fun e he => by
          obtain ⟨i, hi⟩ := List.mem_iff_getElem?.1 he
          exact hl (e, i) (List.mk_mem_zipIdx_iff_getElem?.2 hi)
        port := fun p h => hports p (Nat.zero_le _) (by omega)
        roles := hr
        policy := hpol }
  · intro v
    refine ⟨forall_mem_zipIdx.2 v.thermal_parent, forall_mem_zipIdx.2 v.fan_parent, ?_, ?_,
      fun p _ h => v.port p (by omega), v.roles, v.policy⟩
    · exact fun x hx =>
        checkChildren_eq_ok_iff.2 (v.psu_child x.2 x.1 (List.mem_zipIdx_iff_getElem?.1 hx))
    · exact fun x hx =>
        v.led_modes x.1 (List.mem_of_getElem? (List.mem_zipIdx_iff_getElem?.1 hx))

end Board

end SwitchPlatform
