import Mathlib.Tactic
import SwitchPlatform.Reading.Led

/-!
# What is in a set of flags

A set of flags is known by the places that it holds (`Flags.ext_holds`), and it has what another
set holds everywhere (`Flags.has_iff`). The capabilities of an led hold the places of its modes, so
they have a mode exactly if it is among them (`LedCaps.has_ofModes`), and neither the order nor the
repetition of modes matters (`LedCaps.ofModes_congr`).
-/

namespace SwitchPlatform

namespace Flags

variable {kind : FlagKind} {s t f : Flags kind}

/-- Is the flag at a place in a set? -/
def holds (s : Flags kind) (place : Nat) : Bool :=
  s.bits.toBitVec.getLsbD place

theorem holds_empty (place : Nat) : (empty : Flags kind).holds place = false :=
  BitVec.getLsbD_zero

theorem holds_union (s t : Flags kind) (place : Nat) :
    (s ||| t).holds place = (s.holds place || t.holds place) := by
  rw [holds, bits_union, UInt32.toBitVec_or, BitVec.getLsbD_or]
  rfl

/-- Sets that hold the same places are the same. -/
theorem ext_holds (h : ∀ place, s.holds place = t.holds place) : s = t := by
  obtain ⟨s⟩ := s
  obtain ⟨t⟩ := t
  exact congrArg _ (UInt32.toBitVec_inj.1 (BitVec.eq_of_getLsbD_eq fun place _ => h place))

/-- **A set has the flags whose places it holds.** -/
theorem has_iff : s.has f = true ↔ ∀ place, f.holds place = true → s.holds place = true := by
  have hbits : s.has f = true ↔ s.bits.toBitVec &&& f.bits.toBitVec = f.bits.toBitVec := by
    rw [has, beq_iff_eq, ← UInt32.toBitVec_inj, UInt32.toBitVec_and]
  have hplace : ∀ place, (s.bits.toBitVec &&& f.bits.toBitVec).getLsbD place =
      f.bits.toBitVec.getLsbD place ↔ (f.holds place = true → s.holds place = true) := by
    intro place
    rw [BitVec.getLsbD_and, Bool.and_eq_right_iff_imp]
    rfl
  rw [hbits]
  constructor
  · intro h place
    exact (hplace place).1 (congrArg (·.getLsbD place) h)
  · intro h
    exact BitVec.eq_of_getLsbD_eq fun place _ => (hplace place).2 (h place)

/-- What is in a set stays in it with more flags. -/
theorem has_union (h : s.has f = true) (g : Flags kind) : (s ||| g).has f = true :=
  has_iff.2 fun place hf => by rw [holds_union, has_iff.1 h place hf, Bool.true_or]

end Flags

/-! ## Capabilities of leds -/

namespace LedMode

theorem code_lt (mode : LedMode) : mode.code < 32 := by
  cases mode <;> decide

theorem code_injective : Function.Injective code := by
  intro mode mode' h
  have hmode := ofCode?_code mode
  rw [h, ofCode?_code] at hmode
  exact (Option.some.inj hmode).symm

/-- The capability of a mode holds the place of the mode and no other. -/
theorem holds_cap_iff {mode : LedMode} {place : Nat} :
    mode.cap.holds place = true ↔ mode.code = place := by
  have hbits : mode.cap.bits.toBitVec = BitVec.twoPow 32 mode.code := by
    cases mode <;> rfl
  have hlt := mode.code_lt
  rw [Flags.holds, hbits, BitVec.getLsbD_twoPow, Bool.and_eq_true_iff, decide_eq_true_eq,
    decide_eq_true_eq]
  exact and_iff_right_of_imp fun _ => hlt

end LedMode

namespace LedCaps

/-- The capabilities of modes hold their places. -/
theorem holds_ofModes_iff {modes : List LedMode} {place : Nat} :
    (ofModes modes).holds place = true ↔ ∃ mode ∈ modes, mode.code = place := by
  have hfold : ∀ caps : LedCaps,
      (modes.foldl (fun caps mode => caps ||| mode.cap) caps).holds place = true ↔
        caps.holds place = true ∨ ∃ mode ∈ modes, mode.code = place := by
    induction modes with
    | nil => simp
    | cons mode modes ih =>
      intro caps
      rw [List.foldl_cons, ih, Flags.holds_union, Bool.or_eq_true_iff, LedMode.holds_cap_iff]
      simp only [List.mem_cons, exists_eq_or_imp, or_assoc]
  rw [ofModes, hfold, Flags.holds_empty]
  simp

/-- **The capabilities of modes have these modes and no other.** -/
theorem has_ofModes {modes : List LedMode} {mode : LedMode} :
    (ofModes modes).has mode.cap = true ↔ mode ∈ modes := by
  simp only [Flags.has_iff, LedMode.holds_cap_iff, holds_ofModes_iff, forall_eq']
  constructor
  · rintro ⟨mode', hmem, hcode⟩
    exact LedMode.code_injective hcode ▸ hmem
  · exact fun hmem => ⟨mode, hmem, rfl⟩

/-- Neither the order nor the repetition of modes matters. -/
theorem ofModes_congr {modes modes' : List LedMode} (h : ∀ mode, mode ∈ modes ↔ mode ∈ modes') :
    ofModes modes = ofModes modes' := by
  refine Flags.ext_holds fun place => Bool.eq_iff_iff.2 ?_
  simp only [holds_ofModes_iff, h]

/-- The supported modes are listed once each, by ascending place. -/
theorem modes_ofModes (modes : List LedMode) :
    (ofModes modes).modes = LedMode.all.filter (· ∈ modes) := by
  rw [LedCaps.modes]
  refine List.filter_congr fun mode _ => Bool.eq_iff_iff.2 ?_
  rw [has_ofModes, decide_eq_true_eq]

end LedCaps

end SwitchPlatform
