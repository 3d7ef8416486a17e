import SwitchPlatform.Proofs.FanPolicy.Run

/-!
# What the hysteresis holds

A duty that follows a remembered one lets go of a step only below its temperature minus the
hysteresis, and rises only to what the table asks for. If the hysteresis is not negative, then it is
the remembered duty, held between what the table asks for at the temperature and at a hysteresis
above it (`nextDuty_hysteresis`). All sums are those of the integers: that the sum of two
temperatures is held at the ends of the 32-bit range makes no difference
(`isPeak_duty_saturatingAdd`).
-/

namespace SwitchPlatform.FanPolicy

variable {p : FanPolicy}

/-- The largest duty among the floor and the steps that a temperature has reached, which may be
any integer. -/
structure IsPeak (p : FanPolicy) (mcelsius : Int) (duty : UInt8) : Prop where
  floor : p.floor ≤ duty
  step : ∀ s ∈ p.steps, s.mcelsius.toInt ≤ mcelsius → s.percentage ≤ duty
  listed : duty = p.floor ∨ ∃ s ∈ p.steps, s.mcelsius.toInt ≤ mcelsius ∧ duty = s.percentage

/-- There is one largest duty. -/
theorem IsPeak.unique {mcelsius : Int} {d d' : UInt8} (h : p.IsPeak mcelsius d)
    (h' : p.IsPeak mcelsius d') : d = d' := by
  -- each of the two is listed, so the other one is no less
  have hle : ∀ {a b : UInt8}, p.IsPeak mcelsius a → p.IsPeak mcelsius b → a ≤ b := by
    intro a b ha hb
    obtain rfl | ⟨s, hs, hreached, rfl⟩ := ha.listed
    · exact hb.floor
    · exact hb.step s hs hreached
  exact UInt8.le_antisymm (hle h h') (hle h' h)

/-- A step that the exact sum reaches is asked for at the sum that is held in range. -/
theorem percentage_le_duty_saturatingAdd {s : FanStep} (hs : s ∈ p.steps) {t h : Int32}
    (hreached : s.mcelsius.toInt ≤ t.toInt + h.toInt) :
    s.percentage ≤ p.duty (saturatingAdd t h) :=
  (p.honours_duty _).step s hs (le_saturatingAdd_iff.2 (.inr hreached))

/-- **Holding the sum in range makes no difference**: what the table asks for there is the largest
duty that the exact sum reaches. -/
theorem isPeak_duty_saturatingAdd (p : FanPolicy) (t : Int32) {h : Int32} (hh : 0 ≤ h) :
    p.IsPeak (t.toInt + h.toInt) (p.duty (saturatingAdd t h)) where
  floor := (p.honours_duty _).floor
  step _ hs hreached := percentage_le_duty_saturatingAdd hs hreached
  listed := by
    refine (p.duty_cases (saturatingAdd t h)).imp_right ?_
    rintro ⟨s, hs, hreached, hduty⟩
    have hint : 0 ≤ h.toInt := Int32.le_iff_toInt_le.1 hh
    refine ⟨s, hs, ?_, hduty⟩
    rcases le_saturatingAdd_iff.1 hreached with hmin | hsum
    · -- the least temperature is reached by every sum that does not go down
      have hle := Int32.le_iff_toInt_le.1 (Int32.minValue_le t)
      rw [hmin]
      omega
    · exact hsum

/-- **A running step is left only below its temperature minus the hysteresis.** -/
theorem percentage_le_nextDuty {s : FanStep} (hs : s ∈ p.steps) {c : UInt8} {t : Int32}
    (running : s.percentage ≤ c) (near : s.mcelsius.toInt - p.hysteresis.toInt ≤ t.toInt) :
    s.percentage ≤ p.nextDuty (some c) t := by
  rw [nextDuty]
  split_ifs with hdrop
  · exact le_smaller_iff.2 ⟨running, percentage_le_duty_saturatingAdd hs (by omega)⟩
  · exact UInt8.le_trans running (UInt8.not_lt.1 hdrop)

/-- A duty rises only to what the table asks for. -/
theorem nextDuty_le (p : FanPolicy) (c : UInt8) (t : Int32) :
    p.nextDuty (some c) t ≤ larger c (p.duty t) := by
  rw [nextDuty]
  split_ifs
  · exact UInt8.le_trans (smaller_le_left c _) (le_larger_left c _)
  · exact le_larger_right c _

/-- **The hysteresis of a policy.** A duty that runs at a step or above it stays so unless the
temperature is below that of the step minus the hysteresis, and it rises to what the table asks for
at most. If the hysteresis is not negative, then the duty is the remembered one, cut down to the
largest duty that is asked for a hysteresis above the temperature, and raised to what is asked for
at the temperature itself. -/
theorem nextDuty_hysteresis (p : FanPolicy) (c : UInt8) (t : Int32) :
    (∀ s ∈ p.steps, s.percentage ≤ c → s.mcelsius.toInt - p.hysteresis.toInt ≤ t.toInt →
      s.percentage ≤ p.nextDuty (some c) t) ∧
    p.nextDuty (some c) t ≤ max c (p.duty t) ∧
    (0 ≤ p.hysteresis → ∃ held, (∀ d, p.IsPeak (t.toInt + p.hysteresis.toInt) d ↔ d = held) ∧
      p.nextDuty (some c) t = max (p.duty t) (min c held)) := by
  refine ⟨fun s hs => percentage_le_nextDuty hs, p.nextDuty_le c t, fun h => ?_⟩
  have hpeak := p.isPeak_duty_saturatingAdd t h
  refine ⟨_, fun d => ⟨fun hd => hd.unique hpeak, fun hd => hd ▸ hpeak⟩, ?_⟩
  rw [nextDuty_eq_larger h]
  exact larger_comm _ _

/-- After the failsafe duty, the upper step is held three degrees below it and left below that, for
the lower step; at the end of the range the sum stays in range. -/
theorem twoSteps_hysteresis :
    0 ≤ (twoSteps 3000).hysteresis ∧
      (80 : UInt8) ≤ (twoSteps 3000).nextDuty (some 100) 57000 ∧
      (twoSteps 3000).nextDuty (some 100) 56999 = 60 ∧
      (twoSteps 3000).nextDuty (some 100) 57000 ≤ max 100 ((twoSteps 3000).duty 57000) ∧
      ∃ held, (∀ d, (twoSteps 3000).IsPeak (2147483647 + 3000) d ↔ d = held) ∧
        (twoSteps 3000).nextDuty (some 100) Int32.maxValue =
          max ((twoSteps 3000).duty Int32.maxValue) (min 100 held) := by
  have boundary := nextDuty_hysteresis (twoSteps 3000) 100 57000
  have limit := nextDuty_hysteresis (twoSteps 3000) 100 Int32.maxValue
  refine ⟨by decide, ?_, by decide, boundary.2.1, limit.2.2 (by decide)⟩
  exact boundary.1 ⟨60000, 80⟩ (by simp [twoSteps]) (by decide) (by decide)

end SwitchPlatform.FanPolicy
