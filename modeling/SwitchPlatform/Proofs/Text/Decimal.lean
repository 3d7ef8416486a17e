import SwitchPlatform.Proofs.Text.Numeral
import SwitchPlatform.Text.Utf8

/-!
# Decimals

The decimal of an integer is the digits of a natural number, behind a minus if it is negative
(`toList_decimal`). It has no blanks, so trimming leaves it as it is (`trim_decimal`), and being
ASCII it comes back from its bytes (`Utf8.decodeLossy_encode`). The digits of a natural number give
it back (`ofDigitChars_natDecimal`).
-/

namespace SwitchPlatform.Text

/-! ## ASCII text -/

/-- ASCII text comes back from its bytes. -/
theorem Utf8.decodeLossy_encode {s : String} (h : ∀ c ∈ s.toList, c.toNat < 0x80) :
    decodeLossy (encode s) = s := by
  have hchars : ∀ cs : List Char, (∀ c ∈ cs, c.toNat < 0x80) →
      charsAfter 0 (cs.flatMap String.utf8EncodeChar) = cs.map some := by
    intro cs
    induction cs with
    | nil => exact fun _ => rfl
    | cons c cs ih =>
      intro hcs
      have hc : c.val.toNat ≤ 127 := Nat.le_of_lt_succ (hcs c List.mem_cons_self)
      have hbyte : (UInt8.ofNat c.val.toNat).toNat = c.toNat :=
        UInt8.toNat_ofNat_of_lt' (by show c.val.toNat < 256; omega)
      have hlead : UInt8.ofNat c.val.toNat < 0x80 := by
        rw [UInt8.lt_iff_toNat_lt, hbyte]
        exact hcs c List.mem_cons_self
      rw [List.flatMap_cons, String.utf8EncodeChar, if_pos hc, List.singleton_append, charsAfter,
        piece, if_pos hlead, hbyte, Char.ofNat_toNat, List.map_cons,
        ih fun c' hc' => hcs c' (List.mem_cons_of_mem _ hc')]
  rw [decodeLossy, chars, encode, hchars s.toList h, List.map_map]
  simp

/-! ## Decimals -/

theorem toList_decimal (v : Int) : (toString v).toList =
    if 0 ≤ v then Nat.toDigits 10 v.toNat else '-' :: Nat.toDigits 10 (-v).toNat := by
  rw [Int.toString_eq_repr, Int.repr_eq_if]
  split_ifs <;> simp

theorem isDigit_of_mem_toDigits {n : Nat} {c : Char} (h : c ∈ Nat.toDigits 10 n) :
    c.isDigit = true :=
  Nat.isDigit_of_mem_toDigits (by decide) (by decide) h

/-- The characters of a decimal are digits and the minus sign. -/
theorem mem_decimal {v : Int} {c : Char} (h : c ∈ (toString v).toList) :
    c.isDigit = true ∨ c = '-' := by
  rw [toList_decimal] at h
  split_ifs at h
  · exact .inl (isDigit_of_mem_toDigits h)
  · obtain rfl | h := List.mem_cons.1 h
    · exact .inr rfl
    · exact .inl (isDigit_of_mem_toDigits h)

/-- Such characters are ASCII and not blank. -/
theorem plain_of_mem_decimal {v : Int} {c : Char} (h : c ∈ (toString v).toList) :
    c.toNat < 0x80 ∧ isBlank c = false := by
  have hrange : 0x2D ≤ c.toNat ∧ c.toNat ≤ 0x39 := by
    obtain hdigit | rfl := mem_decimal h
    · obtain ⟨hlow, hhigh⟩ := Char.isDigit_iff_toNat.1 hdigit
      exact ⟨le_trans (by decide) hlow, hhigh⟩
    · decide
  exact ⟨by omega, isBlank_eq_false (by omega) (by omega)⟩

/-! ## Natural numbers -/

theorem toList_natDecimal (n : Nat) : (toString n).toList = Nat.toDigits 10 n := by
  rw [Nat.toString_eq_repr, Nat.toList_repr]

theorem isDigit_of_mem_natDecimal {n : Nat} {c : Char} (h : c ∈ (toString n).toList) :
    c.isDigit = true := by
  rw [toList_natDecimal] at h
  exact isDigit_of_mem_toDigits h

/-- The digits of a decimal give its number. -/
theorem ofDigitChars_natDecimal (n : Nat) : Nat.ofDigitChars 10 (toString n).toList 0 = n := by
  rw [toList_natDecimal, Nat.ofDigitChars_ten_toDigits]

theorem natDecimal_injective {n m : Nat} (h : (toString n).toList = (toString m).toList) :
    n = m := by
  rw [← ofDigitChars_natDecimal n, h, ofDigitChars_natDecimal]

/-! ## Blanks -/

theorem trimChars_decimal (v : Int) : trimChars (toString v).toList = (toString v).toList :=
  trimChars_of_ends (fun _ hc => (plain_of_mem_decimal (List.mem_of_head? hc)).2)
    fun _ hc => (plain_of_mem_decimal (List.mem_of_getLast? hc)).2

theorem trim_decimal (v : Int) : trim (toString v) = toString v := by
  rw [trim, trimChars_decimal, String.ofList_toList]

end SwitchPlatform.Text
