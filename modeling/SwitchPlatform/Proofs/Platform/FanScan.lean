import Mathlib.Tactic
import SwitchPlatform.Platform.Management

/-!
# What a look at all sensors and fans finds

A scan looks at one object after the other. `FanScan.Finds` says what a scan knows of the objects
that it has looked at: the highest temperature that was reported, whether a fan is in fault, and
the fans that could be read. One more look keeps it so (`Finds.look`), and hence a whole scan does
(`finds_foldl`).
-/

namespace SwitchPlatform

/-- The highest of some temperatures, none if there are none. -/
def IsHottest (temps : Int32 → Prop) : Option Int32 → Prop
  | none => ∀ t, ¬temps t
  | some best => temps best ∧ ∀ t, temps t → t ≤ best

/-- The temperature that a sensor reports; one that is absent or has failed reports none. -/
def ThermalReading.Reports (outcome : Except StatusError ThermalReading) (t : Int32) : Prop :=
  ∃ r, outcome = .ok r ∧ r.level?.isSome ∧ r.mcelsius = t

/-- A fan that cannot be read, is not there, or has failed. -/
inductive FanReading.InFault : Except StatusError FanReading → Prop
  | unreadable (e : StatusError) : InFault (.error e)
  | absent {r : FanReading} (h : r.status.has FanStatus.present = false) : InFault (.ok r)
  | failed {r : FanReading} (h : r.status.has FanStatus.failed = true) : InFault (.ok r)

theorem FanReading.inFault_ok_iff {r : FanReading} : InFault (.ok r) ↔ r.isHealthy = false := by
  unfold isHealthy
  constructor
  · intro h
    cases h with
    | absent h => rw [h, Bool.false_and]
    | failed h => rw [h, Bool.not_true, Bool.and_false]
  · intro h
    rcases Bool.and_eq_false_iff.1 h with h | h
    · exact .absent h
    · exact .failed (by simpa using h)

/-- The higher one of a temperature and the highest so far. -/
def hotter (t : Int32) : Option Int32 → Int32
  | none => t
  | some best => if best ≤ t then t else best

/-- One more temperature. -/
theorem IsHottest.insert {temps : Int32 → Prop} {best : Option Int32} (h : IsHottest temps best)
    (t : Int32) : IsHottest (fun t' => temps t' ∨ t' = t) (some (hotter t best)) := by
  cases best with
  | none =>
    refine ⟨.inr rfl, fun t' ht' => ?_⟩
    rcases ht' with ht' | rfl
    · exact absurd ht' (h t')
    · exact Int32.le_refl _
  | some b =>
    obtain ⟨hb, hmax⟩ := h
    by_cases hbt : b ≤ t
    · rw [hotter, if_pos hbt]
      refine ⟨.inr rfl, fun t' ht' => ?_⟩
      rcases ht' with ht' | rfl
      · exact Int32.le_trans (hmax t' ht') hbt
      · exact Int32.le_refl _
    · rw [hotter, if_neg hbt]
      refine ⟨.inl hb, fun t' ht' => ?_⟩
      rcases ht' with ht' | rfl
      · exact hmax t' ht'
      · exact (Int32.le_total t' b).resolve_right hbt

namespace FanScan

open ThermalReading FanReading

variable {thermal : Oid → Except StatusError ThermalReading}
  {fan : Oid → Except StatusError FanReading}

/-- A scan with a look at one more object. -/
def look (thermal : Oid → Except StatusError ThermalReading)
    (fan : Oid → Except StatusError FanReading) (scan : FanScan) (e : TreeEntry) : FanScan :=
  if e.header.id.kind = .thermal then scan.addThermal (thermal e.header.id)
  else if e.isChassisFan then scan.addFan (fan e.header.id)
  else scan

/-- What a scan knows of the objects that it has looked at. -/
structure Finds (thermal : Oid → Except StatusError ThermalReading)
    (fan : Oid → Except StatusError FanReading) (entries : List TreeEntry) (scan : FanScan) :
    Prop where
  hottest : IsHottest
    (fun t => ∃ e ∈ entries, e.header.id.kind = .thermal ∧ Reports (thermal e.header.id) t)
    scan.hottest
  fault : scan.fault = true ↔ ∃ e ∈ entries, e.isChassisFan = true ∧ InFault (fan e.header.id)
  fans : ∀ r, r ∈ scan.fans ↔ ∃ e ∈ entries, e.isChassisFan = true ∧ fan e.header.id = .ok r

theorem finds_nil : Finds thermal fan [] {} where
  hottest t := by simp
  fault := by simp
  fans r := by simp

theorem addThermal_hottest (scan : FanScan) {r : ThermalReading} {level : ThermalLevel}
    (h : r.level? = some level) :
    (scan.addThermal (.ok r)).hottest = some (hotter r.mcelsius scan.hottest) := by
  simp only [addThermal, h]
  cases scan.hottest <;> rfl

theorem isHottest_addThermal {scan : FanScan} {temps : Int32 → Prop}
    (h : IsHottest temps scan.hottest) (outcome : Except StatusError ThermalReading) :
    IsHottest (fun t => temps t ∨ Reports outcome t) (scan.addThermal outcome).hottest := by
  have none_reported (hno : ∀ t, ¬Reports outcome t) :
      (fun t => temps t ∨ Reports outcome t) = temps := by
    funext t
    rw [eq_false (hno t), or_false]
  cases outcome with
  | error e =>
    rw [none_reported]
    · exact h
    · rintro t ⟨r, hr, -⟩
      cases hr
  | ok r =>
    cases hlevel : r.level? with
    | none =>
      rw [none_reported]
      · simpa only [addThermal, hlevel] using h
      · rintro t ⟨r', hr', hsome, -⟩
        cases hr'
        rw [hlevel] at hsome
        cases hsome
    | some level =>
      have hreports : Reports (.ok r) = fun t => t = r.mcelsius := by
        funext t
        refine propext ⟨?_, ?_⟩
        · rintro ⟨r', hr', -, rfl⟩
          cases hr'
          rfl
        · rintro rfl
          exact ⟨r, rfl, by rw [hlevel, Option.isSome_some], rfl⟩
      rw [hreports, addThermal_hottest scan hlevel]
      exact h.insert r.mcelsius

theorem addThermal_fault (scan : FanScan) (outcome : Except StatusError ThermalReading) :
    (scan.addThermal outcome).fault = scan.fault := by
  unfold addThermal
  split
  · rfl
  · split <;> rfl

theorem addThermal_fans (scan : FanScan) (outcome : Except StatusError ThermalReading) :
    (scan.addThermal outcome).fans = scan.fans := by
  unfold addThermal
  split
  · rfl
  · split <;> rfl

theorem addFan_hottest (scan : FanScan) (outcome : Except StatusError FanReading) :
    (scan.addFan outcome).hottest = scan.hottest := by
  unfold addFan
  split <;> rfl

theorem addFan_fault_iff (scan : FanScan) (outcome : Except StatusError FanReading) :
    (scan.addFan outcome).fault = true ↔ scan.fault = true ∨ InFault outcome := by
  cases outcome with
  | error e => simp [addFan, InFault.unreadable]
  | ok r => simp [addFan, inFault_ok_iff]

theorem mem_addFan_fans (scan : FanScan) (outcome : Except StatusError FanReading)
    (r : FanReading) : r ∈ (scan.addFan outcome).fans ↔ r ∈ scan.fans ∨ outcome = .ok r := by
  cases outcome with
  | error e => simp [addFan]
  | ok r' => simp [addFan, eq_comm]

/-- A fan is no sensor. -/
theorem kind_ne_of_isChassisFan {e : TreeEntry} (h : e.isChassisFan = true) :
    e.header.id.kind ≠ .thermal := by
  unfold TreeEntry.isChassisFan at h
  intro hk
  rw [hk] at h
  cases h

theorem exists_mem_concat {entries : List TreeEntry} {e : TreeEntry} {P : TreeEntry → Prop} :
    (∃ x ∈ entries ++ [e], P x) ↔ (∃ x ∈ entries, P x) ∨ P e := by
  simp only [List.mem_append, List.mem_singleton, or_and_right, exists_or, exists_eq_left]

/-- **One more look adds what it shows.** -/
theorem Finds.look {entries : List TreeEntry} {scan : FanScan}
    (h : Finds thermal fan entries scan) (e : TreeEntry) :
    Finds thermal fan (entries ++ [e]) (scan.look thermal fan e) := by
  unfold FanScan.look
  by_cases hk : e.header.id.kind = .thermal
  · have hfan : e.isChassisFan = false :=
      Bool.eq_false_iff.2 fun hf => kind_ne_of_isChassisFan hf hk
    rw [if_pos hk]
    refine { hottest := ?_, fault := ?_, fans := fun r => ?_ }
    · simp only [exists_mem_concat, hk, true_and]
      exact isHottest_addThermal h.hottest _
    · simp only [exists_mem_concat, hfan, Bool.false_eq_true, false_and, or_false, addThermal_fault, h.fault]
    · simp only [exists_mem_concat, hfan, Bool.false_eq_true, false_and, or_false, addThermal_fans, h.fans]
  · rw [if_neg hk]
    by_cases hfan : e.isChassisFan = true
    · rw [if_pos hfan]
      refine { hottest := ?_, fault := ?_, fans := fun r => ?_ }
      · simp only [exists_mem_concat, hk, false_and, or_false, addFan_hottest]
        exact h.hottest
      · simp only [exists_mem_concat, hfan, true_and, addFan_fault_iff, h.fault]
      · simp only [exists_mem_concat, hfan, true_and, mem_addFan_fans, h.fans]
    · rw [if_neg hfan]
      rw [Bool.not_eq_true] at hfan
      refine { hottest := ?_, fault := ?_, fans := fun r => ?_ }
      · simp only [exists_mem_concat, hk, false_and, or_false]
        exact h.hottest
      · simp only [exists_mem_concat, hfan, Bool.false_eq_true, false_and, or_false, h.fault]
      · simp only [exists_mem_concat, hfan, Bool.false_eq_true, false_and, or_false, h.fans]

/-- **A scan knows what the objects show, all together.** -/
theorem finds_foldl {before entries : List TreeEntry} {scan : FanScan}
    (h : Finds thermal fan before scan) :
    Finds thermal fan (before ++ entries) (entries.foldl (FanScan.look thermal fan) scan) := by
  induction entries generalizing before scan with
  | nil => rwa [List.append_nil]
  | cons e entries ih =>
    have hrest := ih (h.look e)
    rwa [List.append_assoc, List.singleton_append] at hrest

end FanScan

end SwitchPlatform
