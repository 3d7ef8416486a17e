import Mathlib.Tactic
import SwitchPlatform.Proofs.Board.Valid

/-!
# What a fan policy asks for

The table alone gives the least duty that honours it (`honours_iff_duty_le`). The duty that follows
a remembered one honours the table as well, unless it drops: then it is held at what the table says
a hysteresis higher, which is no help if the hysteresis is negative. Validation does not look at
the hysteresis, so `nextDuty_honours_iff` is said of valid boards: every next duty honours the
table exactly if the hysteresis is not negative, or the table is flat.
-/

namespace SwitchPlatform

namespace FanPolicy

variable {p : FanPolicy}

/-! ## Duties and temperatures -/

theorem larger_le_iff {a b d : UInt8} : larger a b ≤ d ↔ a ≤ d ∧ b ≤ d := by
  unfold larger
  simp only [UInt8.le_iff_toNat_le]
  split_ifs with h <;> omega

theorem le_smaller_iff {a b d : UInt8} : d ≤ smaller a b ↔ d ≤ a ∧ d ≤ b := by
  unfold smaller
  simp only [UInt8.le_iff_toNat_le]
  split_ifs with h <;> omega

theorem le_larger_left (a b : UInt8) : a ≤ larger a b :=
  (larger_le_iff.1 (UInt8.le_refl _)).1

theorem le_larger_right (a b : UInt8) : b ≤ larger a b :=
  (larger_le_iff.1 (UInt8.le_refl _)).2

theorem smaller_le_left (a b : UInt8) : smaller a b ≤ a :=
  (le_smaller_iff.1 (UInt8.le_refl _)).1

theorem smaller_le_right (a b : UInt8) : smaller a b ≤ b :=
  (le_smaller_iff.1 (UInt8.le_refl _)).2

/-- What a sum of temperatures reaches: the least temperature, and what the exact sum reaches. -/
theorem le_saturatingAdd_iff {a t h : Int32} :
    a ≤ saturatingAdd t h ↔ a = Int32.minValue ∨ a.toInt ≤ t.toInt + h.toInt := by
  have hmin := Int32.le_iff_toInt_le.1 (Int32.minValue_le a)
  have hmax := a.toInt_le
  rw [saturatingAdd, Int32.ofIntClamp, Int32.le_iff_toInt_le, ← Int32.toInt_inj]
  split_ifs with hl hr
  · rw [Int32.toInt_ofIntLE]
    omega
  · omega
  · omega

theorem le_saturatingAdd_of_nonneg {t h : Int32} (hh : 0 ≤ h) : t ≤ saturatingAdd t h := by
  have hint : 0 ≤ h.toInt := Int32.le_iff_toInt_le.1 hh
  exact le_saturatingAdd_iff.2 (.inr (by omega))

theorem saturatingAdd_mono {t t' h : Int32} (ht : t ≤ t') :
    saturatingAdd t h ≤ saturatingAdd t' h := by
  have hint : t.toInt ≤ t'.toInt := Int32.le_iff_toInt_le.1 ht
  rw [le_saturatingAdd_iff]
  exact (le_saturatingAdd_iff.1 (Int32.le_refl (saturatingAdd t h))).imp_right fun hle => by omega

/-! ## The table -/

/-- A duty is what the table asks for at a temperature: the floor or more, and at least the duty of
every step that the temperature has reached. -/
structure Honours (p : FanPolicy) (mcelsius : Int32) (duty : UInt8) : Prop where
  floor : p.floor ≤ duty
  step : ∀ s ∈ p.steps, s.mcelsius ≤ mcelsius → s.percentage ≤ duty

/-- No step asks for more than what the table asks for at the least temperature. -/
def Flat (p : FanPolicy) : Prop :=
  ∀ s ∈ p.steps, s.percentage ≤ p.duty Int32.minValue

theorem foldl_larger_le_iff {steps : List FanStep} {floor d : UInt8} :
    steps.foldl (fun d step => larger d step.percentage) floor ≤ d ↔
      floor ≤ d ∧ ∀ s ∈ steps, s.percentage ≤ d := by
  induction steps generalizing floor with
  | nil => simp
  | cons s steps ih =>
    rw [List.foldl_cons, ih, larger_le_iff, List.forall_mem_cons, and_assoc]

theorem foldl_larger_cases (steps : List FanStep) (floor : UInt8) :
    steps.foldl (fun d step => larger d step.percentage) floor = floor ∨
      ∃ s ∈ steps, steps.foldl (fun d step => larger d step.percentage) floor = s.percentage := by
  induction steps generalizing floor with
  | nil => exact .inl rfl
  | cons s steps ih =>
    rw [List.foldl_cons]
    rcases ih (larger floor s.percentage) with h | ⟨s', hs', h⟩
    · rw [h, larger]
      split_ifs
      · exact .inr ⟨s, List.mem_cons_self, rfl⟩
      · exact .inl rfl
    · exact .inr ⟨s', List.mem_cons_of_mem s hs', h⟩

/-- The duty of a temperature is the floor, or that of a step that the temperature has reached. -/
theorem duty_cases (p : FanPolicy) (t : Int32) :
    p.duty t = p.floor ∨ ∃ s ∈ p.steps, s.mcelsius ≤ t ∧ p.duty t = s.percentage := by
  refine (foldl_larger_cases _ p.floor).imp_right ?_
  rintro ⟨s, hs, h⟩
  obtain ⟨hmem, hreached⟩ := List.mem_filter.1 hs
  exact ⟨s, hmem, of_decide_eq_true hreached, h⟩

/-- **The duty of the table is the least one that honours it.** -/
theorem honours_iff_duty_le {t : Int32} {d : UInt8} : p.Honours t d ↔ p.duty t ≤ d := by
  unfold duty
  rw [foldl_larger_le_iff]
  simp only [List.mem_filter, decide_eq_true_eq, and_imp]
  exact ⟨fun h => ⟨h.floor, h.step⟩, fun h => ⟨h.1, h.2⟩⟩

theorem honours_duty (p : FanPolicy) (t : Int32) : p.Honours t (p.duty t) :=
  honours_iff_duty_le.2 (UInt8.le_refl _)

/-- A higher temperature asks for no less. -/
theorem duty_mono {t t' : Int32} (h : t ≤ t') : p.duty t ≤ p.duty t' := by
  refine honours_iff_duty_le.1 ⟨(p.honours_duty t').floor, fun s hs hst => ?_⟩
  exact (p.honours_duty t').step s hs (Int32.le_trans hst h)

/-- A flat table asks for the same at all temperatures. -/
theorem flat_iff_duty_le : p.Flat ↔ ∀ t, p.duty t ≤ p.duty Int32.minValue := by
  constructor
  · intro flat t
    exact honours_iff_duty_le.1 ⟨(p.honours_duty _).floor, fun s hs _ => flat s hs⟩
  · intro h s hs
    have hstep := (p.honours_duty s.mcelsius).step s hs (Int32.le_refl _)
    exact UInt8.le_trans hstep (h _)

/-! ## The next duty -/

/-- The next duty is below what the table asks for only if it drops to what the table asks for a
hysteresis higher. -/
theorem honours_nextDuty_iff {current : Option UInt8} {t : Int32} :
    p.Honours t (p.nextDuty current t) ↔
      ∀ c, current = some c → p.duty t < c →
        p.duty t ≤ p.duty (saturatingAdd t p.hysteresis) := by
  rw [honours_iff_duty_le]
  cases current with
  | none => simp [nextDuty]
  | some c =>
    simp only [nextDuty, Option.some.injEq, forall_eq']
    split_ifs with hdrop
    · rw [le_smaller_iff]
      exact ⟨fun h _ => h.2, fun h => ⟨UInt8.le_of_lt hdrop, h hdrop⟩⟩
    · simp [hdrop]

/-- A negative hysteresis lowers every temperature but the least one. -/
theorem saturatingAdd_lt {t h : Int32} (hh : h < 0) (ht : t ≠ Int32.minValue) :
    saturatingAdd t h < t := by
  have hint : h.toInt < 0 := Int32.lt_iff_toInt_lt.1 hh
  refine Int32.not_le.1 fun hle => ?_
  rcases le_saturatingAdd_iff.1 hle with hmin | hsum
  · exact ht hmin
  · omega

/-- A table that asks for no more than it does a negative hysteresis lower is flat. -/
theorem flat_of_duty_le (hh : p.hysteresis < 0)
    (h : ∀ t, p.duty t ≤ p.duty (saturatingAdd t p.hysteresis)) : p.Flat := by
  refine flat_iff_duty_le.2 fun t => ?_
  -- lowering by the hysteresis again and again ends at the least temperature
  induction hn : (t.toInt - Int32.minValue.toInt).toNat using Nat.strong_induction_on
    generalizing t with
  | _ n ih =>
    by_cases ht : t = Int32.minValue
    · rw [ht]
      exact UInt8.le_refl _
    · have hlower := Int32.lt_iff_toInt_lt.1 (saturatingAdd_lt hh ht)
      have hmin := Int32.le_iff_toInt_le.1
        (Int32.minValue_le (saturatingAdd t p.hysteresis))
      exact UInt8.le_trans (h t) (ih _ (by omega) _ rfl)

/-- The duties of a policy are far below the largest number that a duty is stored in. -/
theorem duty_lt_of_valid (valid : Board.PolicyValid p) (t : Int32) : p.duty t < 255 := by
  have hle : p.duty t ≤ 100 :=
    honours_iff_duty_le.1 ⟨valid.floor_le, fun s hs _ => valid.step_le s hs⟩
  exact UInt8.lt_of_le_of_lt hle (by decide)

/-- A policy with two steps and a given hysteresis. -/
def twoSteps (hysteresis : Int32) : FanPolicy :=
  { steps := [⟨45000, 60⟩, ⟨60000, 80⟩], hysteresis := hysteresis, failsafe := 100, floor := 40 }

end FanPolicy

namespace Board

open FanPolicy

/-- **When a policy of a valid board keeps the fans up to its table**: at one temperature, unless
the duty drops to a lower entry of the table; at all temperatures and for all remembered duties,
if the hysteresis is not negative, or else the table is flat. -/
theorem nextDuty_honours_iff (b : Board) (p : FanPolicy) (valid : b.validate = .ok ())
    (hpolicy : b.fanPolicy = some p) :
    (∀ current t, p.Honours t (p.nextDuty current t) ↔
      ∀ c, current = some c → p.duty t < c →
        p.duty t ≤ p.duty (saturatingAdd t p.hysteresis)) ∧
    ((∀ current t, p.Honours t (p.nextDuty current t)) ↔ 0 ≤ p.hysteresis ∨ p.Flat) := by
  refine ⟨fun current t => honours_nextDuty_iff, ?_⟩
  have hlt := duty_lt_of_valid ((validate_eq_ok_iff.1 valid).policy p hpolicy)
  constructor
  · intro honours
    by_cases hneg : p.hysteresis < 0
    · refine .inr (flat_of_duty_le hneg fun t => ?_)
      exact honours_nextDuty_iff.1 (honours (some 255) t) 255 rfl (hlt t)
    · exact .inl (Int32.not_lt.1 hneg)
  · rintro hcases current t
    refine honours_nextDuty_iff.2 fun c _ _ => ?_
    rcases hcases with hnonneg | hflat
    · exact duty_mono (le_saturatingAdd_of_nonneg hnonneg)
    · exact UInt8.le_trans (flat_iff_duty_le.1 hflat t) (duty_mono (Int32.minValue_le _))

/-- A board with nothing but that policy. -/
def twoStepsBoard (hysteresis : Int32) : Board :=
  { name := "two-steps"
    ports := { count := 0, present := .gpio [] false, eepromBus := [], eeprom := ⟨""⟩ }
    fanPolicy := some (twoSteps hysteresis) }

theorem twoSteps_nextDuty_honours :
    (twoStepsBoard 3000).validate = .ok () ∧
      (twoStepsBoard 3000).fanPolicy = some (twoSteps 3000) ∧
      ∀ current t, (twoSteps 3000).Honours t ((twoSteps 3000).nextDuty current t) :=
  ⟨by decide, rfl,
    (nextDuty_honours_iff (twoStepsBoard 3000) _ (by decide) rfl).2.2 (.inl (by decide))⟩

/-- **A negative hysteresis passes validation and drops the duty below the table**: the duty
remembered at 60 degrees falls to the floor at 46 degrees, where the table asks for 60 percent. -/
theorem twoSteps_not_honoured :
    (twoStepsBoard (-3000)).validate = .ok () ∧
      (twoStepsBoard (-3000)).fanPolicy = some (twoSteps (-3000)) ∧
      (twoSteps (-3000)).nextDuty none 60000 = 80 ∧
      ¬(twoSteps (-3000)).Honours 46000 ((twoSteps (-3000)).nextDuty (some 80) 46000) := by
  refine ⟨by decide, rfl, by decide, fun honours => ?_⟩
  have hstep := honours.step ⟨45000, 60⟩ List.mem_cons_self (by decide)
  exact absurd hstep (by decide)

end Board

end SwitchPlatform
