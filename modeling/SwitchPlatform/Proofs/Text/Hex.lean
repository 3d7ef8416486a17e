import SwitchPlatform.Proofs.Text.Numeral
import SwitchPlatform.Text.Numeral

/-!
# Hexadecimal numerals

Hexadecimal of a least width is a numeral for its number (`isNatural_hex`), with zeros in front only
up to that width (`length_hex`). A byte has two digits (`exists_hexByte`).
-/

namespace SwitchPlatform.Text

theorem toList_hex (width n : Nat) : (hex width n).toList =
    List.replicate (width - (Nat.toDigits 16 n).length) '0' ++ Nat.toDigits 16 n := by
  rw [hex, padLeft, String.toList_ofList, String.toList_ofList, String.length_ofList]

theorem isNatural_hex (width n : Nat) : IsNatural 16 (hex width n).toList n := by
  rw [toList_hex]
  exact (isNatural_toDigits (by decide) n).zeros (by decide) _

theorem length_hex (width n : Nat) :
    (hex width n).toList.length = max width (Nat.toDigits 16 n).length := by
  rw [toList_hex, List.length_append, List.length_replicate]
  omega

/-- A byte has two digits. -/
theorem exists_hexByte (b : UInt8) : ∃ hi lo, (hexByte b).toList = [hi, lo] := by
  have hdigits : (Nat.toDigits 16 b.toNat).length ≤ 2 :=
    (Nat.length_toDigits_le_iff (by decide) (by decide)).2 b.toNat_lt
  refine List.length_eq_two.1 ?_
  rw [hexByte, length_hex, max_eq_left hdigits]

/-- Two digits are those of a number. -/
theorem isNatural_pair_iff {radix n : Nat} {hi lo : Char} : IsNatural radix [hi, lo] n ↔
    ∃ h l, IsDigit radix hi h ∧ IsDigit radix lo l ∧ radix * h + l = n := by
  constructor
  · rintro ⟨-, ds, hds, rfl⟩
    obtain _ | ⟨hh, _ | ⟨hl, _ | _⟩⟩ := hds
    exact ⟨_, _, hh, hl, by simp [Nat.ofDigits_cons, Nat.add_comm]⟩
  · rintro ⟨h, l, hh, hl, rfl⟩
    exact (isNatural_singleton hh).snoc hl

end SwitchPlatform.Text
