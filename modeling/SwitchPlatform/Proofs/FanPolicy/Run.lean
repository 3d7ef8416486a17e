import SwitchPlatform.Proofs.FanPolicy.Duty

/-!
# Runs of a fan policy

`duties` feeds a policy one temperature after the other and remembers each duty for the next one.
If the hysteresis is not negative, then

* a run that starts without a duty and stays in a window no wider than the hysteresis never lowers
  the duty, which is the largest one that the table asks for at the temperatures seen so far, and
* a run from a higher duty over higher temperatures has the higher duty after each step

(`duties_steady_and_mono`). The step behind both is that a remembered duty is held between what the
table asks for at the temperature and a hysteresis higher (`nextDuty_eq_larger`).
-/

namespace SwitchPlatform.FanPolicy

variable {p : FanPolicy}

/-- The duties of a run over some temperatures, from a remembered duty on. -/
def duties (p : FanPolicy) : Option UInt8 → List Int32 → List UInt8
  | _, [] => []
  | current, t :: ts => p.nextDuty current t :: p.duties (some (p.nextDuty current t)) ts

/-- Temperatures that lie in a window of a given width. -/
def InWindow (width : Int32) (ts : List Int32) : Prop :=
  ∃ low : Int, ∀ t ∈ ts, low ≤ t.toInt ∧ t.toInt ≤ low + width.toInt

/-- Duties that never drop, each the largest one that the table asks for so far. -/
structure Steady (p : FanPolicy) (ts : List Int32) (ds : List UInt8) : Prop where
  ascending : ds.Pairwise (· ≤ ·)
  largest : ∀ i < ts.length, ds[i]? = ((ts.take (i + 1)).map p.duty).max?

/-! ## One step -/

theorem larger_mono {a a' b b' : UInt8} (ha : a ≤ a') (hb : b ≤ b') :
    larger a b ≤ larger a' b' := by
  have hleft := UInt8.le_trans ha (le_larger_left a' b')
  have hright := UInt8.le_trans hb (le_larger_right a' b')
  exact larger_le_iff.2 ⟨hleft, hright⟩

theorem smaller_mono {a a' b b' : UInt8} (ha : a ≤ a') (hb : b ≤ b') :
    smaller a b ≤ smaller a' b' := by
  have hleft := UInt8.le_trans (smaller_le_left a b) ha
  have hright := UInt8.le_trans (smaller_le_right a b) hb
  exact le_smaller_iff.2 ⟨hleft, hright⟩

theorem larger_eq_left {a b : UInt8} (h : b ≤ a) : larger a b = a := by
  unfold larger
  split_ifs with hab
  · exact UInt8.le_antisymm h hab
  · rfl

theorem larger_eq_right {a b : UInt8} (h : a ≤ b) : larger a b = b :=
  if_pos h

theorem larger_comm (a b : UInt8) : larger a b = larger b a := by
  have hle (a b : UInt8) : larger a b ≤ larger b a :=
    larger_le_iff.2 ⟨le_larger_right b a, le_larger_left b a⟩
  exact UInt8.le_antisymm (hle a b) (hle b a)

/-- **A remembered duty is held** between what the table asks for at the temperature and a
hysteresis higher. -/
theorem nextDuty_eq_larger (h : 0 ≤ p.hysteresis) (c : UInt8) (t : Int32) :
    p.nextDuty (some c) t =
      larger (smaller c (p.duty (saturatingAdd t p.hysteresis))) (p.duty t) := by
  have hup : p.duty t ≤ p.duty (saturatingAdd t p.hysteresis) :=
    duty_mono (le_saturatingAdd_of_nonneg h)
  rw [nextDuty]
  split_ifs with hdrop
  · exact (larger_eq_left (le_smaller_iff.2 ⟨UInt8.le_of_lt hdrop, hup⟩)).symm
  · have hsmall := smaller_le_left c (p.duty (saturatingAdd t p.hysteresis))
    exact (larger_eq_right (UInt8.le_trans hsmall (UInt8.not_lt.1 hdrop))).symm

/-- The next duty lies between what the table asks for at the temperature and a hysteresis
higher. -/
theorem nextDuty_bounds (h : 0 ≤ p.hysteresis) (c : Option UInt8) (t : Int32) :
    p.duty t ≤ p.nextDuty c t ∧ p.nextDuty c t ≤ p.duty (saturatingAdd t p.hysteresis) := by
  have hup : p.duty t ≤ p.duty (saturatingAdd t p.hysteresis) :=
    duty_mono (le_saturatingAdd_of_nonneg h)
  cases c with
  | none => exact ⟨UInt8.le_refl _, hup⟩
  | some c =>
    rw [nextDuty_eq_larger h]
    have hsmall := smaller_le_right c (p.duty (saturatingAdd t p.hysteresis))
    exact ⟨le_larger_right _ _, larger_le_iff.2 ⟨hsmall, hup⟩⟩

/-- **A duty that was just decided is decided again** at the same temperature. -/
theorem nextDuty_again (h : 0 ≤ p.hysteresis) (c : Option UInt8) (t : Int32) :
    p.nextDuty (some (p.nextDuty c t)) t = p.nextDuty c t := by
  obtain ⟨hlow, hhigh⟩ := nextDuty_bounds h c t
  rw [nextDuty_eq_larger h (p.nextDuty c t), smaller, if_pos hhigh, larger_eq_left hlow]

/-- A decision that was just made is made again on the same findings. -/
theorem decide_again (h : 0 ≤ p.hysteresis) (c : Option UInt8) (hottest : Option Int32)
    (fault : Bool) :
    p.decide (some (p.decide c hottest fault).percentage) hottest fault =
      p.decide c hottest fault := by
  unfold decide
  cases hottest with
  | none => rfl
  | some t =>
    cases fault with
    | true => rfl
    | false => exact congrArg (FanDecision.mk (some t) · false) (nextDuty_again h c t)

/-- **The next duty is monotone** in the remembered duty and in the temperature. -/
theorem nextDuty_mono (h : 0 ≤ p.hysteresis) {c c' : Option UInt8} (hc : c ≤ c') {t t' : Int32}
    (ht : t ≤ t') : p.nextDuty c t ≤ p.nextDuty c' t' := by
  have hduty : p.duty t ≤ p.duty t' := duty_mono ht
  cases c' with
  | none =>
    cases c with
    | none => exact hduty
    | some c => exact absurd hc (by simp)
  | some c' =>
    rw [nextDuty_eq_larger h]
    cases c with
    | none => exact UInt8.le_trans hduty (le_larger_right _ _)
    | some c =>
      rw [nextDuty_eq_larger h]
      have hc : c ≤ c' := Option.some_le_some.1 hc
      exact larger_mono (smaller_mono hc (duty_mono (saturatingAdd_mono ht))) hduty

/-- Within a hysteresis of a temperature, its duty is kept up. -/
theorem nextDuty_of_near (h : 0 ≤ p.hysteresis) {hot t : Int32}
    (near : hot.toInt ≤ t.toInt + p.hysteresis.toInt) :
    p.nextDuty (some (p.duty hot)) t = larger (p.duty hot) (p.duty t) := by
  have hheld : p.duty hot ≤ p.duty (saturatingAdd t p.hysteresis) :=
    duty_mono (le_saturatingAdd_iff.2 (.inr near))
  rw [nextDuty_eq_larger h, smaller, if_pos hheld]

/-! ## Runs -/

theorem take_duties (current : Option UInt8) (ts : List Int32) (n : Nat) :
    (p.duties current ts).take n = p.duties current (ts.take n) := by
  induction ts generalizing current n with
  | nil => simp [duties]
  | cons t ts ih =>
    cases n with
    | zero => rfl
    | succ n => rw [duties, List.take_succ_cons, List.take_succ_cons, duties, ih]

/-- **Over higher temperatures, from a higher duty, every duty is higher.** -/
theorem duties_mono (h : 0 ≤ p.hysteresis) {c c' : Option UInt8} (hc : c ≤ c')
    {ts ts' : List Int32} (hts : List.Forall₂ (· ≤ ·) ts ts') :
    List.Forall₂ (· ≤ ·) (p.duties c ts) (p.duties c' ts') := by
  induction hts generalizing c c' with
  | nil => exact .nil
  | cons ht _ ih =>
    have hstep := nextDuty_mono h hc ht
    exact .cons hstep (ih (Option.some_le_some.2 hstep))

/-- The larger one of the duties of two temperatures is the duty of one of them. -/
theorem larger_duty_cases (p : FanPolicy) (hot t : Int32) :
    larger (p.duty hot) (p.duty t) = p.duty hot ∨ larger (p.duty hot) (p.duty t) = p.duty t := by
  unfold larger
  split_ifs
  · exact .inr rfl
  · exact .inl rfl

/-- **In a window, every duty is the largest one so far**, of the run and of a temperature `hot`
that was seen before it. -/
theorem steady_of_hot (h : 0 ≤ p.hysteresis) {hot : Int32} {ts : List Int32}
    (window : InWindow p.hysteresis (hot :: ts)) :
    (p.duty hot :: p.duties (some (p.duty hot)) ts).Pairwise (· ≤ ·) ∧
      ∀ i < ts.length, (p.duties (some (p.duty hot)) ts)[i]? =
        ((hot :: ts.take (i + 1)).map p.duty).max? := by
  induction ts generalizing hot with
  | nil => simp [duties]
  | cons t ts ih =>
    obtain ⟨low, hlow⟩ := window
    have hhot := hlow hot List.mem_cons_self
    have ht := hlow t (List.mem_cons_of_mem _ List.mem_cons_self)
    have hstep : p.nextDuty (some (p.duty hot)) t = larger (p.duty hot) (p.duty t) :=
      nextDuty_of_near h (by omega)
    -- one of the two temperatures stands for both from here on
    obtain ⟨hot', hduty, hbounds⟩ : ∃ hot', larger (p.duty hot) (p.duty t) = p.duty hot' ∧
        low ≤ hot'.toInt ∧ hot'.toInt ≤ low + p.hysteresis.toInt := by
      rcases p.larger_duty_cases hot t with hd | hd
      · exact ⟨hot, hd, hhot⟩
      · exact ⟨t, hd, ht⟩
    have hwindow : InWindow p.hysteresis (hot' :: ts) := by
      refine ⟨low, fun s hs => ?_⟩
      rcases List.mem_cons.1 hs with rfl | hs
      · exact hbounds
      · exact hlow s (List.mem_cons_of_mem _ (List.mem_cons_of_mem _ hs))
    obtain ⟨hascending, hlargest⟩ := ih hwindow
    rw [duties, hstep, hduty]
    constructor
    · have hle : p.duty hot ≤ p.duty hot' := by
        rw [← hduty]
        exact le_larger_left _ _
      refine List.pairwise_cons.2 ⟨fun d hd => ?_, hascending⟩
      rcases List.mem_cons.1 hd with rfl | hd
      · exact hle
      · exact UInt8.le_trans hle ((List.pairwise_cons.1 hascending).1 d hd)
    · intro i hi
      -- the largest one of three duties is that of the first two and the third
      have hmax (ds : List UInt8) : (p.duty hot :: p.duty t :: ds).max? =
          (p.duty hot' :: ds).max? := by
        rw [List.max?_cons', List.max?_cons', List.foldl_cons, ← hduty]
        rfl
      rw [List.take_succ_cons, List.map_cons, List.map_cons, hmax]
      cases i with
      | zero => rfl
      | succ i =>
        rw [List.getElem?_cons_succ, hlargest i (Nat.lt_of_succ_lt_succ hi)]
        rfl

theorem steady_of_window (h : 0 ≤ p.hysteresis) {ts : List Int32}
    (window : InWindow p.hysteresis ts) : p.Steady ts (p.duties none ts) := by
  cases ts with
  | nil => exact ⟨.nil, by simp⟩
  | cons t ts =>
    obtain ⟨hascending, hlargest⟩ := steady_of_hot h window
    refine ⟨hascending, fun i hi => ?_⟩
    cases i with
    | zero => rfl
    | succ i =>
      exact hlargest i (Nat.lt_of_succ_lt_succ hi)

/-- **Runs of a policy whose hysteresis is not negative**: the duty does not oscillate as long as
the temperatures seen lie in a window no wider than the hysteresis, and a hotter run from a higher
duty keeps its lead. -/
theorem duties_steady_and_mono (p : FanPolicy) (h : 0 ≤ p.hysteresis) :
    (∀ ts n, InWindow p.hysteresis (ts.take n) →
      p.Steady (ts.take n) ((p.duties none ts).take n)) ∧
    ∀ c c' ts ts', c ≤ c' → List.Forall₂ (· ≤ ·) ts ts' →
      List.Forall₂ (· ≤ ·) (p.duties c ts) (p.duties c' ts') := by
  refine ⟨fun ts n window => ?_, fun c c' ts ts' hc hts => duties_mono h hc hts⟩
  rw [take_duties]
  exact steady_of_window h window

/-- The duty of a step is held down to three degrees below it, and given up below that. -/
theorem twoSteps_duties :
    InWindow (twoSteps 3000).hysteresis ([46000, 43500, 45500, 20000].take 3) ∧
      (twoSteps 3000).Steady ([46000, 43500, 45500, 20000].take 3)
        (((twoSteps 3000).duties none [46000, 43500, 45500, 20000]).take 3) ∧
      List.Forall₂ (· ≤ ·) ((twoSteps 3000).duties none [46000, 20000])
        ((twoSteps 3000).duties (some 60) [46000, 43500]) := by
  have run := duties_steady_and_mono (twoSteps 3000) (by decide)
  have window : InWindow (twoSteps 3000).hysteresis ([46000, 43500, 45500, 20000].take 3) := by
    refine ⟨43500, fun t ht => ?_⟩
    simp only [List.take, List.mem_cons, List.not_mem_nil, or_false] at ht
    rcases ht with rfl | rfl | rfl <;> decide
  exact ⟨window, run.1 _ 3 window, run.2 _ _ _ _ Option.none_le
    (.cons (by decide) (.cons (by decide) .nil))⟩

end SwitchPlatform.FanPolicy
