import SwitchPlatform.Proofs.Io.Driving
import SwitchPlatform.Proofs.Io.Failing

/-!
# Scaled sensors

A sensor of the controller is read as a product with its scale, and written as a quotient by it.
The product may leave 32 bits, which is a status. The quotient leaves them for one value and one
scale only (`Io.unscaled?_eq_none_iff`), and that ends the run beyond any status:
`write_overflow_iff` says for which locators on which machines it does.

What is written to a sensor can be read back: the product of the quotient is again a value of 32
bits (`Io.product_of_unscaled`), the nearest multiple of the scale towards zero.
-/

namespace SwitchPlatform

open SwitchPlatform.Action

/-! ## Quotients and products -/

/-- Dividing by more than one at least halves a number. -/
theorem natAbs_tdiv_le_half {a b : Int} (h : 2 ≤ b.natAbs) :
    2 * (a.tdiv b).natAbs ≤ a.natAbs := by
  rw [Int.natAbs_tdiv]
  calc 2 * (a.natAbs / b.natAbs) ≤ b.natAbs * (a.natAbs / b.natAbs) := Nat.mul_le_mul_right _ h
    _ ≤ a.natAbs := Nat.mul_div_le _ _

/-- The multiple towards zero of a number lies between zero and the number. -/
theorem tdiv_mul_le_of_nonneg {a : Int} (b : Int) (h : 0 ≤ a) :
    0 ≤ a.tdiv b * b ∧ a.tdiv b * b ≤ a := by
  have hsum := Int.tmod_add_mul_tdiv a b
  have hnonneg := Int.tmod_nonneg b h
  have hle : (a.tmod b).natAbs ≤ a.natAbs := by
    rw [Int.natAbs_tmod]
    exact Nat.mod_le _ _
  rw [Int.mul_comm b] at hsum
  omega

theorem le_tdiv_mul_of_nonpos {a : Int} (b : Int) (h : a ≤ 0) :
    a ≤ a.tdiv b * b ∧ a.tdiv b * b ≤ 0 := by
  have hneg := tdiv_mul_le_of_nonneg b (Int.neg_nonneg_of_nonpos h)
  rw [Int.neg_tdiv, Int.neg_mul] at hneg
  omega

namespace Io

variable {v scale raw : Int32}

/-- **The one quotient that is no value of 32 bits.** -/
theorem unscaled?_eq_none_iff :
    unscaled? v scale = none ↔ v = Int32.minValue ∧ scale = -1 := by
  constructor
  · intro h
    have hlow := v.le_toInt
    have hhigh := v.toInt_lt
    rw [unscaled?] at h
    split_ifs at h with hzero
    rw [Text.int32?] at h
    split_ifs at h with hrange
    -- the quotient is out of range, so the scale is neither large nor one
    have hsmall : ¬2 ≤ scale.toInt.natAbs := fun hlarge => by
      have := natAbs_tdiv_le_half (a := v.toInt) hlarge
      omega
    have hne : scale.toInt ≠ 0 := fun hs => hzero (Int32.toInt_inj.1 hs)
    obtain hone | hminus : scale.toInt = 1 ∨ scale.toInt = -1 := by omega
    · rw [hone, Int.tdiv_one] at hrange
      omega
    · rw [hminus, Int.tdiv_neg, Int.tdiv_one] at hrange
      refine ⟨Int32.toInt_inj.1 ?_, Int32.toInt_inj.1 hminus⟩
      rw [Int32.toInt_minValue]
      omega
  · rintro ⟨rfl, rfl⟩
    decide

/-- **What was divided can be multiplied again.** -/
theorem product_of_unscaled (h : unscaled? v scale = some raw) :
    ∃ w, Text.int32? (raw.toInt * scale.toInt) = some w ∧
      w.toInt = v.toInt.tdiv scale.toInt * scale.toInt := by
  have hlow := v.le_toInt
  have hhigh := v.toInt_lt
  have hproduct : raw.toInt * scale.toInt = v.toInt.tdiv scale.toInt * scale.toInt := by
    rw [unscaled?] at h
    split_ifs at h with hzero
    · rw [hzero, Int32.toInt_zero, Int.mul_zero, Int.mul_zero]
    · rw [Text.toInt_of_int32? h]
  have hrange : -2147483648 ≤ v.toInt.tdiv scale.toInt * scale.toInt ∧
      v.toInt.tdiv scale.toInt * scale.toInt ≤ 2147483647 := by
    rcases Int.le_total 0 v.toInt with hsign | hsign
    · have := tdiv_mul_le_of_nonneg scale.toInt hsign
      omega
    · have := le_tdiv_mul_of_nonpos scale.toInt hsign
      omega
  rw [hproduct, Text.int32?, if_pos hrange]
  exact ⟨_, rfl, Int32.toInt_ofInt_of_le (by omega) (by omega)⟩

end Io

/-! ## Writing beyond any status -/

section Overflow

variable {io : Io}

/-- A reading operation ends in a status, also when it is part of a writing one. -/
theorem failsWith_lift {α : Type} (x : Access α) :
    FailsWith (· ≠ Fault.quotientOverflow) (liftM x : Drive α) := by
  have hany : FailsWith (fun _ => True) x := fun _ _ _ => trivial
  rw [lift_eq]
  exact hany.mapError fun _ _ => nofun

/-- Writing to the controller overflows exactly if the quotient does. -/
theorem writeBmc_overflow_iff (sensor : Nat) (scale v : Int32) (m : Machine) :
    (io.writeBmc sensor scale v m).1 = .error .quotientOverflow ↔
      v = Int32.minValue ∧ scale = -1 := by
  rw [← Io.unscaled?_eq_none_iff]
  cases hraw : Io.unscaled? v scale with
  | none =>
    rw [writeBmc_of_overflow hraw]
    exact ⟨fun _ => rfl, fun _ => rfl⟩
  | some raw =>
    have hstatus : FailsWith (· ≠ Fault.quotientOverflow) (io.writeBmc sensor scale v) := by
      rw [Io.writeBmc, hraw]
      exact (failsWith_lift _).bind fun link => failsWith_lift _
    exact iff_of_false (fun h => hstatus m _ h rfl) (Option.some_ne_none raw)

theorem overflow_iff_of_never {x : Drive Unit} {l : Locator} {v : Int32} {m : Machine}
    (hl : l.usesBmc = false) (hx : FailsWith (· ≠ Fault.quotientOverflow) x) :
    (x m).1 = .error .quotientOverflow ↔
      v = Int32.minValue ∧ ∃ sensor, l = .bmc sensor (-1) := by
  refine iff_of_false (fun h => hx m _ h rfl) ?_
  rintro ⟨-, sensor, rfl⟩
  cases hl

/-- **Which writes overflow**: those of the least value to a sensor of scale `-1`, whatever the
machine is. -/
theorem write_overflow_iff (io : Io) (l : Locator) (v : Int32) (m : Machine) :
    (io.write l v m).1 = .error .quotientOverflow ↔
      v = Int32.minValue ∧ ∃ sensor, l.under (io.serves m) = .bmc sensor (-1) := by
  induction l generalizing m with
  | file path =>
    rw [Io.write]
    exact overflow_iff_of_never rfl (failsWith_lift _)
  | hwmon device attr =>
    rw [Io.write]
    exact overflow_iff_of_never rfl ((failsWith_lift _).bind fun path => failsWith_lift _)
  | gpio line =>
    rw [Io.write]
    exact overflow_iff_of_never rfl (failsWith_lift _)
  | bmc sensor scale =>
    rw [Io.write, writeBmc_overflow_iff]
    simp [Locator.under]
  | bmcOr sensor scale fallback ih =>
    obtain ⟨m', hrun, -, hserves⟩ := hasBmc_run (ε := Fault) io m
    rw [Io.write, Action.bind_ok hrun, Locator.under]
    cases hs : io.serves m with
    | true =>
      simp only [if_true]
      rw [writeBmc_overflow_iff]
      simp
    | false =>
      have hrest := ih m'
      rw [hserves, hs] at hrest
      simpa using hrest

/-- What a locator of a served sensor reads as: the product with the scale, if it is a value. -/
theorem read_of_served {link : Bmc.Link} (hlink : io.link = some link) {m : Machine}
    (hserves : io.serves m = true) {l : Locator} {sensor : Nat} {scale raw : Int32}
    (hl : l.under true = .bmc sensor scale)
    (hraw : link.read io.root sensor m.tree = .ok raw) :
    (io.read l m).1 = match Text.int32? (raw.toInt * scale.toInt) with
      | some w => .ok w
      | none => .error .invalid := by
  have huses : l.usesBmc = true := by
    cases l with
    | bmc _ _ => rfl
    | bmcOr _ _ _ => rfl
    | _ => cases hl
  have hanswer : io.answer m = true := by
    rw [Io.serves, hlink] at hserves
    simpa using hserves
  have hknown : (m.settle true).bmcFitted = some true := m.settle_bmcFitted true
  rw [Asking.read hlink huses m, hanswer, read_under (answers_of_known hlink hknown) l, hl, Io.read,
    readBmc_of_fitted hlink hknown]
  have htree : (m.settle true).tree = m.tree := rfl
  rw [htree, hraw]
  rfl

/-- **Writing to a sensor may overflow, reading it may not.** A write ends beyond any status exactly
if it is the least value, through a locator that resolves to a sensor of scale `-1`. What is read
from a sensor is the product with its scale, for every scale, and a product that is no value of 32
bits is a status. -/
theorem write_overflows_read_checks (io : Io) (l : Locator) (m : Machine) :
    (∀ v, (io.write l v m).1 = .error .quotientOverflow ↔
      v = Int32.minValue ∧ ∃ sensor, l.under (io.serves m) = .bmc sensor (-1)) ∧
    ∀ link sensor scale raw, io.link = some link → io.serves m = true →
      l.under true = .bmc sensor scale → link.read io.root sensor m.tree = .ok raw →
      (io.read l m).1 = match Text.int32? (raw.toInt * scale.toInt) with
        | some w => .ok w
        | none => .error .invalid :=
  ⟨fun v => write_overflow_iff io l v m,
    fun _ _ _ _ hlink hserves hl hraw => read_of_served hlink hserves hl hraw⟩

/-- The least value of a sensor of scale `-1`: reading it is invalid, writing it overflows. -/
theorem least_read_write :
    let io : Io := { root := ⟨"/"⟩, link := some (.directory "/bmc"), mode := .present }
    let m : Machine :=
      { tree := .dir [("bmc", .dir [("sensor1", .file (Text.Utf8.encode "-2147483648"))])] }
    let l : Locator := .bmcOr 1 (-1) (.file "/fan")
    io.serves m = true ∧ l.under true = .bmc 1 (-1) ∧
      Bmc.Link.read (.directory "/bmc") io.root 1 m.tree = .ok Int32.minValue ∧
      (io.write l Int32.minValue m).1 = .error .quotientOverflow ∧
      (io.read l m).1 = .error .invalid := by
  intro io m l
  have hraw : Bmc.Link.read (.directory "/bmc") io.root 1 m.tree = .ok Int32.minValue := by
    decide +kernel
  have h := write_overflows_read_checks io l m
  exact ⟨rfl, rfl, hraw, (h.1 _).2 ⟨rfl, 1, rfl⟩, h.2 _ 1 (-1) _ rfl rfl rfl hraw⟩

/-- Without a controller, this value overflows, and its neighbour finds nothing to write to. -/
theorem write_least_overflows :
    let io : Io := { root := ⟨"/"⟩ }
    (io.write (.bmc 1 (-1)) (-2147483648) { tree := .dir [] }).1 = .error .quotientOverflow ∧
      (io.write (.bmc 1 (-1)) (-2147483647) { tree := .dir [] }).1 = .error (.status .missing) := by
  decide

end Overflow

end SwitchPlatform
