import Mathlib.Tactic
import SwitchPlatform.Board.Readings
import SwitchPlatform.Proofs.Io.Within
import SwitchPlatform.Proofs.Platform.FanScan
import SwitchPlatform.Proofs.Reading.Flags

/-!
# What readings say

A sensor reports a temperature exactly if its input can be read (`ThermalEntry.reports_read_iff`).
A fan that can be read is reported with the header and the capabilities of its entry, and as
present exactly if its presence flag says so (`FanEntry.read_ok`). What else it reports was asked
for on the course of the reading, one question after the other (`FanEntry.seen_of_read`).
-/

namespace SwitchPlatform

/-! ## Sensors -/

namespace ThermalEntry

variable {entry : ThermalEntry} {io : Io} {id : Oid} {m : Machine} {t : Int32}

theorem isSome_level?_reading_iff {outcome : Except StatusError Int32} :
    (entry.reading id outcome).level?.isSome = true ↔ ∃ t, outcome = .ok t := by
  have hempty : (Flags.empty : ThermalStatus).has ThermalStatus.present = false := by decide
  have hfailed : (ThermalStatus.present ||| ThermalStatus.failed).has ThermalStatus.failed = true :=
    by decide
  have hgood : (ThermalStatus.present.has ThermalStatus.present &&
      !ThermalStatus.present.has ThermalStatus.failed) = true := by decide
  unfold reading ThermalReading.level?
  split
  · simp [hgood]
  · simp [hempty]
  · simp [hfailed]

/-- **A sensor reports what its input reads.** -/
theorem reports_read_iff :
    ThermalReading.Reports (entry.read io id m).1 t ↔ (io.read entry.input m).1 = .ok t := by
  have hread : (entry.read io id m).1 = .ok (entry.reading id (io.read entry.input m).1) := by
    rw [read, Action.bind_eq, Action.attempt_apply]
    rfl
  rw [hread]
  generalize (io.read entry.input m).1 = outcome
  constructor
  · rintro ⟨r, hr, hlevel, rfl⟩
    cases hr
    obtain ⟨t, rfl⟩ := isSome_level?_reading_iff.1 hlevel
    rfl
  · rintro rfl
    exact ⟨_, rfl, isSome_level?_reading_iff.2 ⟨t, rfl⟩, rfl⟩

end ThermalEntry

/-! ## Fans -/

namespace FanEntry

variable {entry : FanEntry} {io : Io} {id : Oid} {m : Machine} {r : FanReading}

/-- The machines on which the reading of a fan asks, one after the other, for its presence, the
direction of its air, its fault flag, its speed and its duty. -/
structure Course where
  presence : Machine
  dir : Machine
  fault : Machine
  rpm : Machine
  duty : Machine

/-- The course of a reading that starts on a machine: each question leaves the machine for the next
one. -/
def course (entry : FanEntry) (io : Io) (m : Machine) : Course :=
  let dir := (entry.isPresent io m).2
  let fault := (dirStatus io entry.dir dir).2
  let rpm := (hasFault io entry.fault fault).2
  { presence := m, dir := dir, fault := fault, rpm := rpm
    duty := (readOptional io entry.rpm rpm).2 }

/-- How the reading of a fan ends well: the fan is not there, or everything on the course of the
reading was answered. -/
inductive Seen (entry : FanEntry) (io : Io) (id : Oid) (c : Course) : FanReading → Prop
  | absent (hpresent : (entry.isPresent io c.presence).1 = .ok false) :
      Seen entry io id c (entry.absent id)
  | present {dir : FanStatus} {fault : Bool} {rpm : Option Int32} {percentage : UInt8}
      {model serial : String} (hpresent : (entry.isPresent io c.presence).1 = .ok true)
      (hdir : (dirStatus io entry.dir c.dir).1 = .ok dir)
      (hfault : (hasFault io entry.fault c.fault).1 = .ok fault)
      (hrpm : (readOptional io entry.rpm c.rpm).1 = .ok rpm)
      (hpercentage : (entry.percentageOf io (rpm.getD 0) c.duty).1 = .ok percentage) :
      Seen entry io id c
        { header := entry.header id
          status := FanStatus.present ||| dir |||
            (if fault || rpm == some 0 then FanStatus.failed else .empty)
          caps := entry.caps, rpm := rpm.getD 0, percentage := percentage
          mode := .ofPercentage percentage, model := model, serial := serial }

theorem seen_of_read (h : (entry.read io id m).1 = .ok r) :
    entry.Seen io id (entry.course io m) r := by
  rw [read] at h
  obtain ⟨present, hpresent, h⟩ := Action.ok_of_bind h
  cases present with
  | false =>
    cases h
    exact .absent hpresent
  | true =>
    obtain ⟨dir, hdir, h⟩ := Action.ok_of_bind h
    obtain ⟨fault, hfault, h⟩ := Action.ok_of_bind h
    obtain ⟨rpm, hrpm, h⟩ := Action.ok_of_bind h
    obtain ⟨percentage, hpercentage, h⟩ := Action.ok_of_bind h
    obtain ⟨model, -, h⟩ := Action.ok_of_bind h
    obtain ⟨serial, -, h⟩ := Action.ok_of_bind h
    cases h
    exact .present hpresent hdir hfault hrpm hpercentage

/-- **What the reading of a fan says of it.** -/
theorem read_ok (h : (entry.read io id m).1 = .ok r) :
    r.header = entry.header id ∧ r.caps = entry.caps ∧
      (r.status.has FanStatus.present = true ↔ (entry.isPresent io m).1 = .ok true) := by
  cases seen_of_read h with
  | absent hpresent =>
    have hempty : ¬(Flags.empty : FanStatus).has FanStatus.present = true := by decide
    refine ⟨rfl, rfl, iff_of_false hempty fun h => ?_⟩
    cases hpresent.symm.trans h
  | present hpresent =>
    have hself : FanStatus.present.has FanStatus.present = true := by decide
    exact ⟨rfl, rfl, iff_of_true (Flags.has_union (Flags.has_union hself _) _) hpresent⟩

end FanEntry

end SwitchPlatform
