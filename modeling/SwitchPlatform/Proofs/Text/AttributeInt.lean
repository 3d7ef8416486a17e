import SwitchPlatform.Proofs.Text.Decimal

/-!
# Integers in attribute files

The content of an attribute file reads as an integer if, without the blanks around it, it is a
signed numeral of a 32-bit integer, or a minus and then such a numeral
(`attributeInt?_eq_some_iff`); each of the two may be hexadecimal. The numerals that are meant, with
no sign but a minus in front (`IsNumeral`), are among these texts, and so is what is written for an
integer (`attributeInt?_written`). But so are texts with a second sign, as in `--5`, and these alone
can make the negation in 64 bits overflow: `attribute_reads_numeral` says what holds of every text.
-/

namespace SwitchPlatform.Text

variable {cs ds : List Char} {n : Nat} {v : Int}

/-! ## Signed numerals of 64 bits -/

theorem int64?_eq_some_iff {radix : Nat} (hpos : 0 < radix) (hradix : radix ≤ 16) {v : Int64} :
    int64? radix cs = some v ↔ IsSigned radix cs v.toInt := by
  simp only [int64?, Option.map_eq_some_iff, signed?_eq_some_iff hpos hradix]
  constructor
  · rintro ⟨i, ⟨hi, hlow, hhigh⟩, rfl⟩
    rwa [Int64.toInt_ofInt_of_le (by omega) (by omega)]
  · intro h
    have hlow := v.le_toInt
    have hhigh := v.toInt_lt
    exact ⟨v.toInt, ⟨h, by omega, by omega⟩, Int64.ofInt_toInt v⟩

/-- A signed numeral, hexadecimal behind `0x` or `0X`. -/
inductive IsMagnitude : List Char → Int → Prop
  | decimal {ds : List Char} {v : Int} (h : IsSigned 10 ds v) : IsMagnitude ds v
  | hexadecimal {x : Char} {ds : List Char} {v : Int} (hx : x = 'x' ∨ x = 'X')
      (h : IsSigned 16 ds v) : IsMagnitude ('0' :: x :: ds) v

/-- A decimal numeral has no mark of a radix behind its first digit. -/
theorem not_isSigned_mark {x : Char} (hx : x = 'x' ∨ x = 'X') :
    ¬IsSigned 10 ('0' :: x :: ds) v := by
  rintro (h | _)
  obtain ⟨n, h⟩ : ∃ n, IsNatural 10 ('0' :: x :: ds) n := by
    cases h with
    | plain h => exact ⟨_, h⟩
  obtain ⟨d, hd⟩ := h.isDigit (List.mem_cons_of_mem _ List.mem_cons_self)
  obtain ⟨hlower, hupper⟩ := hd.ne_mark (by decide)
  exact hx.elim hlower hupper

theorem isMagnitude_mark_iff {x : Char} (hx : x = 'x' ∨ x = 'X') :
    IsMagnitude ('0' :: x :: ds) v ↔ IsSigned 16 ds v := by
  refine ⟨fun h => ?_, .hexadecimal hx⟩
  cases h with
  | decimal h => exact absurd h (not_isSigned_mark hx)
  | hexadecimal _ h => exact h

theorem attributeMagnitude?_eq_some_iff {v : Int64} :
    attributeMagnitude? cs = some v ↔ IsMagnitude cs v.toInt := by
  unfold attributeMagnitude?
  split
  · rw [int64?_eq_some_iff (by decide) (by decide), isMagnitude_mark_iff (.inl rfl)]
  · rw [int64?_eq_some_iff (by decide) (by decide), isMagnitude_mark_iff (.inr rfl)]
  · rename_i hlower hupper
    rw [int64?_eq_some_iff (by decide) (by decide)]
    refine ⟨.decimal, fun h => ?_⟩
    cases h with
    | decimal h => exact h
    | hexadecimal hx h =>
      obtain rfl | rfl := hx
      · exact absurd rfl (hlower _)
      · exact absurd rfl (hupper _)

/-! ## Contents of attributes -/

/-- A text that reads as an integer: a signed numeral, or one behind a minus. -/
inductive IsAttribute : List Char → Int → Prop
  | plain {ds : List Char} {v : Int} (h : IsMagnitude ds v) : IsAttribute ds v
  | negated {ds : List Char} {v : Int} (h : IsMagnitude ds v) : IsAttribute ('-' :: ds) (-v)

theorem isAttribute_minus_iff : IsAttribute ('-' :: ds) v ↔ IsMagnitude ds (-v) := by
  constructor
  · intro h
    cases h with
    | plain h =>
      cases h with
      | decimal h =>
        obtain ⟨n, hn, rfl⟩ := (isSigned_minus_iff (by decide)).1 h
        rw [Int.neg_neg]
        exact .decimal (.unsigned (.plain hn))
    | negated h => rwa [Int.neg_neg]
  · intro h
    have hneg := IsAttribute.negated h
    rwa [Int.neg_neg] at hneg

theorem isAttribute_iff (h : ∀ ds, cs = '-' :: ds → False) :
    IsAttribute cs v ↔ IsMagnitude cs v := by
  refine ⟨fun hv => ?_, .plain⟩
  cases hv with
  | plain hv => exact hv
  | negated hv => exact absurd rfl (h _)

theorem int32?_eq_some_iff {i : Int} {x : Int32} : int32? i = some x ↔ x.toInt = i := by
  refine ⟨toInt_of_int32?, ?_⟩
  rintro rfl
  exact int32?_toInt x

/-- The negation is exact, except for the least integer. -/
theorem toInt_neg_iff {m : Int64} : (-m).toInt = -m.toInt ↔ m ≠ Int64.minValue := by
  have hlow := m.le_toInt
  have hhigh := m.toInt_lt
  rw [ne_eq, ← Int64.toInt_inj, Int64.toInt_minValue, Int64.toInt_neg]
  constructor
  · intro h hmin
    rw [hmin] at h
    exact absurd h (by decide)
  · intro h
    rw [Int.bmod_eq_of_le] <;> omega

/-- A negation that fits 32 bits is exact: the least integer of 64 bits is its own negation. -/
theorem int32?_neg_eq_some_iff {m : Int64} {x : Int32} :
    int32? (-m).toInt = some x ↔ m.toInt = -x.toInt := by
  have hlow := x.le_toInt
  have hhigh := x.toInt_lt
  rw [int32?_eq_some_iff]
  by_cases hmin : m = Int64.minValue
  · subst hmin
    have hneg : (-Int64.minValue).toInt = -2 ^ 63 := by decide
    rw [hneg, Int64.toInt_minValue]
    omega
  · rw [toInt_neg_iff.2 hmin]
    omega

/-- Integers of 32 bits, and their negations, fit 64 bits. -/
theorem exists_toInt_iff {P : Int → Prop} {i : Int} (hlow : -2 ^ 31 ≤ i) (hhigh : i ≤ 2 ^ 31) :
    (∃ m : Int64, P m.toInt ∧ m.toInt = i) ↔ P i := by
  constructor
  · rintro ⟨m, hm, rfl⟩
    exact hm
  · intro h
    have hm : (Int64.ofInt i).toInt = i := Int64.toInt_ofInt_of_le (by omega) (by omega)
    exact ⟨.ofInt i, hm.symm ▸ h, hm⟩

/-- **Which texts read as an integer.** The 64 bits in between lose nothing: what does not fit them
is no integer of 32 bits. -/
theorem attributeInt?_eq_some_iff {s : String} {x : Int32} :
    attributeInt? s = some x ↔ IsAttribute (trimChars s.toList) x.toInt := by
  have hlow := x.le_toInt
  have hhigh := x.toInt_lt
  unfold attributeInt?
  split
  · rename_i ds hcs
    simp only [Option.bind_eq_some_iff, attributeMagnitude?_eq_some_iff, int32?_neg_eq_some_iff]
    rw [hcs, isAttribute_minus_iff, exists_toInt_iff (by omega) (by omega)]
  · rename_i hminus
    simp only [Option.bind_eq_some_iff, attributeMagnitude?_eq_some_iff, int32?_eq_some_iff,
      eq_comm (a := x.toInt)]
    rw [isAttribute_iff hminus, exists_toInt_iff hlow (by omega)]

/-! ## Numerals -/

/-- A numeral: decimal, or hexadecimal behind `0x` or `0X`, with no sign but a minus in front. -/
inductive IsNumeral : List Char → Int → Prop
  | decimal {ds : List Char} {n : Nat} (h : IsNatural 10 ds n) : IsNumeral ds n
  | negative {ds : List Char} {n : Nat} (h : IsNatural 10 ds n) : IsNumeral ('-' :: ds) (-n)
  | hexadecimal {x : Char} {ds : List Char} {n : Nat} (hx : x = 'x' ∨ x = 'X')
      (h : IsNatural 16 ds n) : IsNumeral ('0' :: x :: ds) n
  | negativeHexadecimal {x : Char} {ds : List Char} {n : Nat} (hx : x = 'x' ∨ x = 'X')
      (h : IsNatural 16 ds n) : IsNumeral ('-' :: '0' :: x :: ds) (-n)

theorem IsNumeral.isAttribute (h : IsNumeral cs v) : IsAttribute cs v := by
  cases h with
  | decimal h => exact .plain (.decimal (.unsigned (.plain h)))
  | negative h => exact .negated (.decimal (.unsigned (.plain h)))
  | hexadecimal hx h => exact .plain (.hexadecimal hx (.unsigned (.plain h)))
  | negativeHexadecimal hx h => exact .negated (.hexadecimal hx (.unsigned (.plain h)))

/-- A decimal is a numeral. -/
theorem isNumeral_decimal (v : Int) : IsNumeral (toString v).toList v := by
  rw [toList_decimal]
  split_ifs with hneg
  · have h := IsNumeral.decimal (isNatural_toDigits (by decide) v.toNat)
    rwa [Int.toNat_of_nonneg hneg] at h
  · have h := IsNumeral.negative (isNatural_toDigits (by decide) (-v).toNat)
    rwa [Int.toNat_of_nonneg (by omega), Int.neg_neg] at h

/-- **A decimal stands for its value.** -/
theorem attributeInt?_decimal (v : Int32) : attributeInt? (toString v.toInt) = some v := by
  rw [attributeInt?_eq_some_iff, trimChars_decimal]
  exact (isNumeral_decimal v.toInt).isAttribute

/-- **What is written as an integer reads as that integer.** -/
theorem attributeInt?_written (v : Int32) :
    attributeInt? (trim (Utf8.decodeLossy (Utf8.encode (toString v.toInt)))) = some v := by
  rw [Utf8.decodeLossy_encode fun c hc => (plain_of_mem_decimal hc).1, trim_decimal,
    attributeInt?_decimal]

/-! ## Signs -/

/-- Is a character a sign? -/
def isSign (c : Char) : Bool :=
  c == '+' || c == '-'

/-- A minus, and a second sign behind it or behind the mark of the radix. -/
inductive HasSecondSign : List Char → Prop
  | decimal {sign : Char} {ds : List Char} (h : isSign sign = true) :
      HasSecondSign ('-' :: sign :: ds)
  | hexadecimal {x sign : Char} {ds : List Char} (hx : x = 'x' ∨ x = 'X') (h : isSign sign = true) :
      HasSecondSign ('-' :: '0' :: x :: sign :: ds)

/-- The mark of a radix has no sign. -/
theorem countP_isSign_mark {x : Char} (hx : x = 'x' ∨ x = 'X') :
    ('0' :: x :: ds).countP isSign = ds.countP isSign := by
  obtain rfl | rfl := hx
  · rfl
  · rfl

theorem countP_isSign_sign {sign : Char} (h : isSign sign = true) :
    (sign :: ds).countP isSign = ds.countP isSign + 1 :=
  List.countP_cons_of_pos h

theorem IsNatural.countP_isSign {radix : Nat} (hradix : radix ≤ 16) (h : IsNatural radix cs n) :
    cs.countP isSign = 0 := by
  rw [List.countP_eq_zero]
  intro c hc
  obtain ⟨d, hd⟩ := h.isDigit hc
  obtain ⟨hplus, hminus⟩ := hd.ne_sign hradix
  simp [isSign, hplus, hminus]

theorem IsUnsigned.countP_isSign {radix : Nat} (hradix : radix ≤ 16) (h : IsUnsigned radix cs n) :
    cs.countP isSign ≤ 1 := by
  cases h with
  | plain h => exact (h.countP_isSign hradix).trans_le (Nat.zero_le 1)
  | plus h => rw [countP_isSign_sign rfl, h.countP_isSign hradix]

theorem IsSigned.countP_isSign {radix : Nat} (hradix : radix ≤ 16) (h : IsSigned radix cs v) :
    cs.countP isSign ≤ 1 := by
  cases h with
  | unsigned h => exact h.countP_isSign hradix
  | minus h => rw [countP_isSign_sign rfl, h.countP_isSign hradix]

theorem IsMagnitude.countP_isSign (h : IsMagnitude cs v) : cs.countP isSign ≤ 1 := by
  cases h with
  | decimal h => exact h.countP_isSign (by decide)
  | hexadecimal hx h =>
    rw [countP_isSign_mark hx]
    exact h.countP_isSign (by decide)

theorem IsNumeral.countP_isSign (h : IsNumeral cs v) : cs.countP isSign ≤ 1 := by
  cases h with
  | decimal h => exact (h.countP_isSign (by decide)).trans_le (Nat.zero_le 1)
  | negative h => rw [countP_isSign_sign rfl, h.countP_isSign (by decide)]
  | hexadecimal hx h =>
    rw [countP_isSign_mark hx, h.countP_isSign (by decide)]
    exact Nat.zero_le 1
  | negativeHexadecimal hx h =>
    rw [countP_isSign_sign rfl, countP_isSign_mark hx, h.countP_isSign (by decide)]

/-- A signed numeral is a natural number, or it starts with a sign. -/
theorem IsSigned.natural_or_sign {radix : Nat} (h : IsSigned radix cs v) :
    (∃ n : Nat, IsNatural radix cs n ∧ v = n) ∨
      ∃ sign ds, isSign sign = true ∧ cs = sign :: ds := by
  cases h with
  | unsigned h =>
    cases h with
    | plain h => exact .inl ⟨_, h, rfl⟩
    | plus h => exact .inr ⟨'+', _, rfl, rfl⟩
  | minus h => exact .inr ⟨'-', _, rfl, rfl⟩

/-- Without a second sign, what follows a minus is a natural number. -/
theorem IsMagnitude.isNumeral (h : IsMagnitude ds v) (hsign : ¬HasSecondSign ('-' :: ds)) :
    IsNumeral ('-' :: ds) (-v) ∧ 0 ≤ v := by
  cases h with
  | decimal h =>
    obtain ⟨n, hn, rfl⟩ | ⟨sign, ds, hs, rfl⟩ := h.natural_or_sign
    · exact ⟨.negative hn, Int.natCast_nonneg n⟩
    · exact absurd (.decimal hs) hsign
  | hexadecimal hx h =>
    obtain ⟨n, hn, rfl⟩ | ⟨sign, ds, hs, rfl⟩ := h.natural_or_sign
    · exact ⟨.negativeHexadecimal hx hn, Int.natCast_nonneg n⟩
    · exact absurd (.hexadecimal hx hs) hsign

theorem HasSecondSign.two_le (h : HasSecondSign cs) : 2 ≤ cs.countP isSign := by
  cases h with
  | decimal h =>
    rw [countP_isSign_sign rfl, countP_isSign_sign h]
    omega
  | hexadecimal hx h =>
    rw [countP_isSign_sign rfl, countP_isSign_mark hx, countP_isSign_sign h]
    omega

/-- **A text that reads as an integer has two signs only if one is behind a minus.** -/
theorem IsAttribute.countP_isSign_le_iff (h : IsAttribute cs v) :
    cs.countP isSign ≤ 1 ↔ ¬HasSecondSign cs := by
  refine ⟨fun hle hsecond => absurd hsecond.two_le (by omega), fun hsecond => ?_⟩
  cases h with
  | plain h => exact h.countP_isSign
  | negated h => exact (h.isNumeral hsecond).1.countP_isSign

/-! ## Every text -/

/-- What the reader of attributes makes of a text. -/
structure ReadsNumeral (s : String) : Prop where
  /-- A numeral of a 32-bit integer is read. -/
  numeral : ∀ x : Int32, IsNumeral (trimChars s.toList) x.toInt → attributeInt? s = some x
  /-- What is read is the value of the text. -/
  value : ∀ x : Int32, attributeInt? s = some x ↔ IsAttribute (trimChars s.toList) x.toInt
  /-- A text that is read has two signs only if the second one is behind a minus. -/
  signs : ∀ x, attributeInt? s = some x →
    ((trimChars s.toList).countP isSign ≤ 1 ↔ ¬HasSecondSign (trimChars s.toList))
  /-- Without a second sign, the negation is exact. -/
  negation : ¬HasSecondSign (trimChars s.toList) → ∀ ds m, trimChars s.toList = '-' :: ds →
    attributeMagnitude? ds = some m → (-m).toInt = -m.toInt

/-- **Attributes read as integers**, and those that are written for an integer as that integer. -/
theorem attribute_reads_numeral (s : String) :
    ReadsNumeral s ∧ ∀ x : Int32, attributeInt? (toString x.toInt) = some x := by
  refine ⟨⟨fun x h => attributeInt?_eq_some_iff.2 h.isAttribute, fun x => attributeInt?_eq_some_iff,
    fun x h => (attributeInt?_eq_some_iff.1 h).countP_isSign_le_iff, ?_⟩, attributeInt?_decimal⟩
  intro hsecond ds m hcs hm
  rw [hcs] at hsecond
  refine toInt_neg_iff.2 ?_
  rintro rfl
  have hpos := ((attributeMagnitude?_eq_some_iff.1 hm).isNumeral hsecond).2
  exact absurd hpos (by decide)

/-- The least integer, in hexadecimal and with blanks around it. -/
theorem leastHex_reads_numeral :
    let s := " -0X080000000\n"
    IsNumeral (trimChars s.toList) Int32.minValue.toInt ∧ attributeInt? s = some Int32.minValue ∧
      ¬HasSecondSign (trimChars s.toList) ∧ (trimChars s.toList).countP isSign ≤ 1 := by
  intro s
  have hdigits : IsNatural 16 "080000000".toList 2147483648 := by
    have h : IsNatural 16 (Nat.toDigits 16 2147483648) 2147483648 :=
      isNatural_toDigits (by decide) 2147483648
    rw [show Nat.toDigits 16 2147483648 = "80000000".toList by decide] at h
    exact h.zeros (by decide) 1
  have htrim : trimChars s.toList = '-' :: '0' :: 'X' :: "080000000".toList := by decide
  have hmin : Int32.minValue.toInt = -(2147483648 : Nat) := by decide
  have hnumeral : IsNumeral (trimChars s.toList) Int32.minValue.toInt := by
    rw [htrim, hmin]
    exact .negativeHexadecimal (.inr rfl) hdigits
  have h := (attribute_reads_numeral s).1
  have hread := h.numeral _ hnumeral
  have hsecond : ¬HasSecondSign (trimChars s.toList) :=
    (h.signs _ hread).1 hnumeral.countP_isSign
  exact ⟨hnumeral, hread, hsecond, (h.signs _ hread).2 hsecond⟩

/-- Texts with two signs are read, and one of them makes the negation overflow. -/
theorem twoSigns_read :
    attributeInt? "--5" = some 5 ∧ ("--5".toList).countP isSign = 2 ∧
      (∀ v, ¬IsNumeral "--5".toList v) ∧
      ∃ m, attributeMagnitude? "-9223372036854775808".toList = some m ∧ (-m).toInt ≠ -m.toInt := by
  refine ⟨by decide, by decide, fun v h => ?_, Int64.minValue, by decide, by decide⟩
  exact absurd h.countP_isSign (by decide)

end SwitchPlatform.Text
