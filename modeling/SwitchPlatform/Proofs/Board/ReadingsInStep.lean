import SwitchPlatform.Proofs.Board.ReadContract
import SwitchPlatform.Proofs.Io.LocatorsInStep

/-!
# Readings in step

What the health of an object depends on is read alike on two machines over a ground: the state of
a sensor (`ThermalEntry.inStep_read`), the status of a fan (`FanEntry.inStep_read`) and that of a
power supply (`PsuEntry.inStep_read`). The duty of a fan, its texts and the electrical values of a
power supply may differ; that a fan which is there was read says that its duty is an integer.
-/

namespace SwitchPlatform

open FileTree (Location)

variable {g : Ground}

theorem inStep_asserted {s : Signal} (h : g.Spares s.locator) :
    InStep g (· = ·) (g.io.asserted s) (g.io.asserted s) := by
  refine (inStep_read? h).bind ?_
  rintro raw _ rfl
  exact .pure rfl

theorem inStep_deasserted {s : Option Signal} (h : ∀ s' ∈ s, g.Spares s'.locator) :
    InStep g (· = ·) (g.io.deasserted s) (g.io.deasserted s) := by
  cases s with
  | none => exact .pure rfl
  | some s =>
    refine (inStep_read? (h s rfl)).bind ?_
    rintro raw _ rfl
    exact .pure rfl

/-- A text never fails. -/
theorem inStep_label (l : Option Locator) :
    InStep g (fun _ _ => True) (g.io.label l) (g.io.label l) := by
  cases l with
  | none => exact .pure trivial
  | some l =>
    refine (inStep_readText l).attempt.bind ?_
    rintro _ _ (_ | _)
    · exact .pure trivial
    · exact .pure trivial

/-- Reading a sensor is in step. -/
theorem ThermalEntry.inStep_read {entry : ThermalEntry} (h : g.Spares entry.input) (id : Oid) :
    InStep g (· = ·) (entry.read g.io id) (entry.read g.io id) := by
  refine (SwitchPlatform.inStep_read h).attempt.bind ?_
  rintro _ _ (rfl | _)
  · exact .pure rfl
  · exact .pure rfl

/-! ## Fans -/

namespace FanEntry

/-- The locators that tell whether a fan is there and works. -/
def healthLocators (entry : FanEntry) : List Locator :=
  entry.present.toList.map Signal.locator ++ dirLocators entry.dir ++
    entry.fault.toList.map Signal.locator ++ entry.rpm.toList

/-- The files of the duty of a fan. -/
def DutyFile (entry : FanEntry) (io : Io) (t : FileTree) (loc : Location) : Prop :=
  ∃ l, entry.percentage = some l ∧ l.Targets io t loc

/-- Readings of one fan that agree on its health. -/
structure SameHealth (g : Ground) (entry : FanEntry) (id : Oid) (r r' : FanReading) : Prop where
  header : r.header = entry.header id
  header' : r'.header = entry.header id
  caps : r.caps = r'.caps
  status : r.status = r'.status
  /-- The duty of a fan that is there is an integer. -/
  duty : r.status.has FanStatus.present = true →
    ∀ loc, entry.DutyFile g.io g.tree loc → g.tree.HoldsInt loc

theorem inStep_dirStatus {dir : FanDirSource} (h : ∀ l ∈ dirLocators dir, g.Spares l) :
    InStep g (· = ·) (dirStatus g.io dir) (dirStatus g.io dir) := by
  obtain _ | dir | ⟨l, f2b⟩ := dir
  · exact .pure rfl
  · exact .pure rfl
  · refine (inStep_read? (h l List.mem_cons_self)).bind ?_
    rintro raw _ rfl
    cases raw with
    | some raw => exact .pure rfl
    | none => exact .pure rfl

theorem inStep_readOptional {l : Option Locator} (h : ∀ l' ∈ l, g.Spares l') :
    InStep g (· = ·) (readOptional g.io l) (readOptional g.io l) := by
  cases l with
  | none => exact .pure rfl
  | some l => exact inStep_read? (h l rfl)

theorem inStep_hasFault {s : Option Signal} (h : ∀ s' ∈ s, g.Spares s'.locator) :
    InStep g (· = ·) (hasFault g.io s) (hasFault g.io s) := by
  cases s with
  | none => exact .pure rfl
  | some s => exact inStep_asserted (h s rfl)

theorem inStep_isPresent {entry : FanEntry} (h : ∀ s ∈ entry.present, g.Spares s.locator) :
    InStep g (· = ·) (entry.isPresent g.io) (entry.isPresent g.io) := by
  rw [isPresent]
  cases hs : entry.present with
  | none => exact .pure rfl
  | some s => exact inStep_asserted (h s hs)

/-- The duty of a fan. -/
theorem inStep_percentageOf {entry : FanEntry}
    (hattr : ∀ l ∈ entry.percentage, l.IsAttribute)
    (hduty : ∀ loc, entry.DutyFile g.io g.tree loc → g.duty loc) (rpm : Int32) :
    InStep g (fun _ _ => ∀ loc, entry.DutyFile g.io g.tree loc → g.tree.HoldsInt loc)
      (entry.percentageOf g.io rpm) (entry.percentageOf g.io rpm) := by
  unfold DutyFile at hduty ⊢
  rw [percentageOf]
  cases hl : entry.percentage with
  | none =>
    refine .pure ?_
    rintro loc ⟨_, ⟨⟩, -⟩
  | some l =>
    refine (inStep_readDuty? (hattr l hl) fun loc ht => hduty loc ⟨l, hl, ht⟩).bind ?_
    intro raw raw' hholds
    have hfiles : ∀ loc, (∃ l', some l = some l' ∧ l'.Targets g.io g.tree loc) →
        g.tree.HoldsInt loc := by
      rintro loc ⟨_, ⟨⟩, ht⟩
      exact hholds loc ht
    cases raw <;> cases raw' <;> exact .pure hfiles

variable {entry : FanEntry} (hspared : ∀ l ∈ entry.healthLocators, g.Spares l)
  (hattr : ∀ l ∈ entry.percentage, l.IsAttribute)
  (hduty : ∀ loc, entry.DutyFile g.io g.tree loc → g.duty loc)
include hspared hattr hduty

theorem inStep_readPresent (id : Oid) :
    InStep g (SameHealth g entry id) (entry.readPresent g.io id) (entry.readPresent g.io id) := by
  refine (inStep_dirStatus fun l hl => hspared l (by simp [healthLocators, hl])).bind ?_
  rintro dir _ rfl
  refine (inStep_hasFault fun s hs => hspared _ ?_).bind ?_
  · simp [healthLocators, Option.mem_def.1 hs]
  rintro fault _ rfl
  refine (inStep_readOptional fun l hl => hspared l ?_).bind ?_
  · simp [healthLocators, Option.mem_def.1 hl]
  rintro rpm _ rfl
  refine (inStep_percentageOf hattr hduty _).bind fun percentage percentage' hholds => ?_
  refine (inStep_label entry.model).bind fun model model' _ => ?_
  refine (inStep_label entry.serial).bind fun serial serial' _ => ?_
  exact .pure { header := rfl, header' := rfl, caps := rfl, status := rfl, duty := fun _ => hholds }

/-- **The health of a fan is read in step.** -/
theorem inStep_read (id : Oid) :
    InStep g (SameHealth g entry id) (entry.read g.io id) (entry.read g.io id) := by
  refine (inStep_isPresent fun s hs => hspared _ ?_).bind ?_
  · simp [healthLocators, Option.mem_def.1 hs]
  rintro present _ rfl
  cases present with
  | true => exact inStep_readPresent hspared hattr hduty id
  | false =>
    have hempty : (Flags.empty : FanStatus).has FanStatus.present = false := by decide
    refine .pure { header := rfl, header' := rfl, caps := rfl, status := rfl, duty := fun h => ?_ }
    exact absurd (hempty.symm.trans h) (by decide)

end FanEntry

/-! ## Power supplies -/

namespace PsuEntry

/-- The locators that tell whether a power supply is there and works. -/
def healthLocators (entry : PsuEntry) : List Locator :=
  entry.present.locator :: (entry.powerGood.toList ++ entry.inputGood.toList).map Signal.locator

/-- An electrical value, which may differ and never fails. -/
theorem inStep_readValue (device attr : String) (cap : PsuCaps) (divisor : Int) :
    InStep g (fun _ _ => True) (readValue g.io device attr cap divisor)
      (readValue g.io device attr cap divisor) := by
  refine (InStep.attempt_of_still (readHwmon_unchanged g.io device attr)).bind
    fun outcome outcome' _ => ?_
  cases outcome <;> cases outcome' <;> exact .pure trivial

theorem inStep_readValues (device : String) {r r' : PsuReading} (h : r.status = r'.status) :
    InStep g (fun r r' => r.status = r'.status) (readValues g.io device r)
      (readValues g.io device r') := by
  refine (inStep_readValue device _ _ _).bind fun _ _ _ => ?_
  refine (inStep_readValue device _ _ _).bind fun _ _ _ => ?_
  refine (inStep_readValue device _ _ _).bind fun _ _ _ => ?_
  refine (inStep_readValue device _ _ _).bind fun _ _ _ => ?_
  refine (inStep_readValue device _ _ _).bind fun _ _ _ => ?_
  refine (inStep_readValue device _ _ _).bind fun _ _ _ => ?_
  exact .pure h

variable {entry : PsuEntry} (hspared : ∀ l ∈ entry.healthLocators, g.Spares l)
include hspared

theorem inStep_readPresent (id : Oid) :
    InStep g (fun r r' => r.status = r'.status) (entry.readPresent g.io id)
      (entry.readPresent g.io id) := by
  refine (inStep_deasserted fun s hs => hspared _ ?_).bind ?_
  · simp [healthLocators, Option.mem_def.1 hs]
  rintro unplugged _ rfl
  refine (inStep_deasserted fun s hs => hspared _ ?_).bind ?_
  · simp [healthLocators, Option.mem_def.1 hs]
  rintro failed _ rfl
  refine (inStep_label entry.model).bind fun model model' _ => ?_
  refine (inStep_label entry.serial).bind fun serial serial' _ => ?_
  cases entry.pmbus with
  | none => exact .pure rfl
  | some device =>
    dsimp only
    -- both are healthy or neither is, since the status says so
    split_ifs with h h' h'
    · exact inStep_readValues device rfl
    · exact absurd h h'
    · exact absurd h' h
    · exact .pure rfl

/-- **The status of a power supply is read in step.** -/
theorem inStep_read (id : Oid) :
    InStep g (fun r r' => r.status = r'.status) (entry.read g.io id) (entry.read g.io id) := by
  refine (inStep_asserted (hspared _ List.mem_cons_self)).bind ?_
  rintro present _ rfl
  cases present with
  | true => exact inStep_readPresent hspared id
  | false => exact .pure rfl

end PsuEntry

end SwitchPlatform
