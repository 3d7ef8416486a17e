import Mathlib.Tactic
import SwitchPlatform.Text.Numeral

/-!
# What is read as a numeral

A natural number is written as digits, the highest one first, with any zeros in front
(`IsNatural`). Reading digits finds exactly the numbers that are within the bound
(`digits?_eq_some_iff`), although it stops at the first digit beyond it. The readers of unsigned and
of signed numerals differ in the signs that they take off (`unsigned?_eq_some_iff`,
`signed?_eq_some_iff`).
-/

namespace SwitchPlatform.Text

variable {radix bound n d : Nat} {c : Char} {cs : List Char}

/-! ## Digits -/

/-- A character is a digit of a value; from ten on, it is a letter of either case. -/
def IsDigit (radix : Nat) (c : Char) (d : Nat) : Prop :=
  d < radix ∧ (c = d.digitChar ∨ c = d.digitChar.toUpper)

theorem toNat_digitChar (h : d < 16) :
    d.digitChar.toNat = (if d < 10 then 0x30 + d else 0x57 + d) ∧
      d.digitChar.toUpper.toNat = if d < 10 then 0x30 + d else 0x37 + d := by
  revert d
  decide

theorem digit?_eq_some_iff (hradix : radix ≤ 16) : digit? radix c = some d ↔ IsDigit radix c d := by
  rw [digit?, IsDigit, Option.filter_eq_some_iff, decide_eq_true_eq, and_comm]
  refine and_congr_right fun hd => ?_
  obtain ⟨hlower, hupper⟩ := toNat_digitChar (hd.trans_le hradix)
  rw [← Char.toNat_inj, ← Char.toNat_inj, hlower, hupper]
  split_ifs <;> simp <;> omega

/-- A digit is a letter or a figure, no sign and no mark of a radix. -/
theorem IsDigit.range (hradix : radix ≤ 16) (h : IsDigit radix c d) :
    0x30 ≤ c.toNat ∧ c.toNat ≤ 0x66 ∧ c ≠ 'X' := by
  obtain ⟨hd, hc⟩ := h
  obtain ⟨hlower, hupper⟩ := toNat_digitChar (hd.trans_le hradix)
  rw [← Char.toNat_inj, ← Char.toNat_inj, hlower, hupper] at hc
  have hX : 'X'.toNat = 0x58 := rfl
  rw [ne_eq, ← Char.toNat_inj, hX]
  split_ifs at hc <;> omega

theorem IsDigit.ne_sign (hradix : radix ≤ 16) (h : IsDigit radix c d) : c ≠ '+' ∧ c ≠ '-' := by
  have hlow := (h.range hradix).1
  constructor
  all_goals
    rintro rfl
    exact absurd hlow (by decide)

theorem IsDigit.ne_mark (hradix : radix ≤ 16) (h : IsDigit radix c d) : c ≠ 'x' ∧ c ≠ 'X' := by
  obtain ⟨-, hhigh, hX⟩ := h.range hradix
  refine ⟨?_, hX⟩
  rintro rfl
  exact absurd hhigh (by decide)

/-! ## Numbers -/

/-- Digits of a natural number, the highest one first. -/
def IsNatural (radix : Nat) (cs : List Char) (n : Nat) : Prop :=
  cs ≠ [] ∧ ∃ ds, List.Forall₂ (IsDigit radix) cs ds ∧ Nat.ofDigits radix ds.reverse = n

theorem le_foldl_digits (hradix : 0 < radix) (acc : Nat) (ds : List Nat) :
    acc ≤ ds.foldl (fun m d => m * radix + d) acc := by
  induction ds generalizing acc with
  | nil => exact le_rfl
  | cons d ds ih =>
    calc acc ≤ acc * radix := Nat.le_mul_of_pos_right acc hradix
      _ ≤ acc * radix + d := Nat.le_add_right _ d
      _ ≤ _ := ih _

/-- **Digits continue a number to one within the bound.** The bound is checked after every digit,
but further digits never make a number smaller. -/
theorem continueDigits_eq_some_iff (hpos : 0 < radix) (hradix : radix ≤ 16) {acc : Nat}
    (hacc : acc ≤ bound) : continueDigits radix bound acc cs = some n ↔
      (∃ ds, List.Forall₂ (IsDigit radix) cs ds ∧ ds.foldl (fun m d => m * radix + d) acc = n) ∧
        n ≤ bound := by
  induction cs generalizing acc with
  | nil =>
    simp only [continueDigits, Option.some.injEq, List.forall₂_nil_left_iff, exists_eq_left,
      List.foldl_nil]
    exact (and_iff_left_of_imp fun h => h ▸ hacc).symm
  | cons c cs ih =>
    simp only [List.forall₂_cons_left_iff, ← digit?_eq_some_iff hradix, continueDigits]
    cases hd : digit? radix c with
    | none => simp
    | some d =>
      dsimp only
      split_ifs with hstep
      · rw [ih hstep]
        simp
      · simp only [false_iff, not_and]
        rintro ⟨_, ⟨_, ds, hd, -, rfl⟩, rfl⟩ hle
        cases hd
        exact hstep ((le_foldl_digits hpos _ ds).trans hle)

theorem foldl_digits_eq (ds : List Nat) :
    ds.foldl (fun m d => m * radix + d) 0 = Nat.ofDigits radix ds.reverse := by
  rw [Nat.ofDigits_eq_foldr, List.foldr_reverse]
  exact congrArg (fun f => ds.foldl f 0) (by funext m d; simp [Nat.mul_comm, Nat.add_comm])

/-- **Digits are read as their number, if it is within the bound.** -/
theorem digits?_eq_some_iff (hpos : 0 < radix) (hradix : radix ≤ 16) :
    digits? radix bound cs = some n ↔ IsNatural radix cs n ∧ n ≤ bound := by
  cases cs with
  | nil => simp [digits?, IsNatural]
  | cons c cs =>
    rw [digits?, continueDigits_eq_some_iff hpos hradix (Nat.zero_le bound)]
    · simp only [foldl_digits_eq, IsNatural, ne_eq, reduceCtorEq, not_false_eq_true, true_and]
    · exact nofun

theorem IsNatural.isDigit (h : IsNatural radix cs n) (hc : c ∈ cs) : ∃ d, IsDigit radix c d := by
  obtain ⟨-, ds, hds, -⟩ := h
  induction hds with
  | nil => cases hc
  | cons hd _ ih =>
    obtain rfl | hc := List.mem_cons.1 hc
    · exact ⟨_, hd⟩
    · exact ih hc

/-- What is no digit is not in a number. -/
theorem IsNatural.not_mem (hradix : radix ≤ 16) (h : IsNatural radix cs n)
    (hc : digit? radix c = none) : c ∉ cs := by
  intro hmem
  obtain ⟨d, hd⟩ := h.isDigit hmem
  rw [← digit?_eq_some_iff hradix, hc] at hd
  cases hd

theorem isNatural_singleton (h : IsDigit radix c d) : IsNatural radix [c] d :=
  ⟨nofun, [d], .cons h .nil, by simp⟩

/-- One more digit behind a number. -/
theorem IsNatural.snoc (h : IsNatural radix cs n) (hc : IsDigit radix c d) :
    IsNatural radix (cs ++ [c]) (radix * n + d) := by
  obtain ⟨-, ds, hds, rfl⟩ := h
  refine ⟨by simp, ds ++ [d], List.rel_append hds (.cons hc .nil), ?_⟩
  rw [List.reverse_append, List.reverse_singleton, List.singleton_append, Nat.ofDigits_cons,
    Nat.add_comm]

/-- Zeros in front do not count. -/
theorem IsNatural.zeros (hpos : 0 < radix) (h : IsNatural radix cs n) (k : Nat) :
    IsNatural radix (List.replicate k '0' ++ cs) n := by
  induction k with
  | zero => exact h
  | succ k ih =>
    obtain ⟨-, ds, hds, rfl⟩ := ih
    refine ⟨by simp [List.replicate_succ], 0 :: ds, .cons ⟨hpos, .inl rfl⟩ hds, ?_⟩
    rw [List.reverse_cons, Nat.ofDigits_append]
    simp

/-- **What a number is printed as is its digits.** -/
theorem isNatural_toDigits (hradix : 1 < radix) (n : Nat) :
    IsNatural radix (Nat.toDigits radix n) n := by
  induction n using Nat.strong_induction_on with
  | h n ih =>
    by_cases hn : n < radix
    · rw [Nat.toDigits_of_lt_base hn]
      exact isNatural_singleton ⟨hn, .inl rfl⟩
    · have hdiv : 0 < n / radix := Nat.div_pos (by omega) (by omega)
      have hmod : n % radix < radix := Nat.mod_lt n (by omega)
      have hrest := ih (n / radix) (Nat.div_lt_self (by omega) hradix)
      have hsnoc := hrest.snoc (c := (n % radix).digitChar) ⟨hmod, .inl rfl⟩
      rw [← Nat.toDigits_of_lt_base hmod, Nat.toDigits_append_toDigits hradix hdiv hmod,
        Nat.div_add_mod] at hsnoc
      exact hsnoc

/-- A number has no blank at its end, so text that ends in it has none if it starts with none. -/
theorem IsNatural.trimChars_append (hradix : radix ≤ 16) (h : IsNatural radix cs n)
    {front : List Char} (hne : front ≠ []) (hfront : ∀ c ∈ front.head?, isBlank c = false) :
    trimChars (front ++ cs) = front ++ cs := by
  refine trimChars_of_ends (fun c hc => hfront c ?_) fun c hc => ?_
  · rwa [List.head?_append_of_ne_nil _ hne] at hc
  · rw [List.getLast?_append_of_ne_nil _ h.1] at hc
    obtain ⟨d, hd⟩ := h.isDigit (List.mem_of_getLast? hc)
    obtain ⟨hlow, hhigh, -⟩ := hd.range hradix
    exact isBlank_eq_false (by omega) (by omega)

/-! ## Signs -/

/-- A natural number, with an optional plus in front. -/
inductive IsUnsigned (radix : Nat) : List Char → Nat → Prop
  | plain {ds : List Char} {n : Nat} (h : IsNatural radix ds n) : IsUnsigned radix ds n
  | plus {ds : List Char} {n : Nat} (h : IsNatural radix ds n) : IsUnsigned radix ('+' :: ds) n

/-- An integer: a natural number with an optional plus, or with a minus in front. -/
inductive IsSigned (radix : Nat) : List Char → Int → Prop
  | unsigned {ds : List Char} {n : Nat} (h : IsUnsigned radix ds n) : IsSigned radix ds n
  | minus {ds : List Char} {n : Nat} (h : IsNatural radix ds n) : IsSigned radix ('-' :: ds) (-n)

theorem IsNatural.ne_sign (hradix : radix ≤ 16) (h : IsNatural radix (c :: cs) n) :
    c ≠ '+' ∧ c ≠ '-' := by
  obtain ⟨d, hd⟩ := h.isDigit List.mem_cons_self
  exact hd.ne_sign hradix

theorem head?_ne_of_ne_cons (h : ∀ ds, cs = c :: ds → False) : cs.head? ≠ some c := by
  intro hc
  obtain ⟨ds, hds⟩ := List.head?_eq_some_iff.1 hc
  exact h ds hds

theorem isUnsigned_plus_iff (hradix : radix ≤ 16) :
    IsUnsigned radix ('+' :: cs) n ↔ IsNatural radix cs n := by
  refine ⟨fun h => ?_, .plus⟩
  cases h with
  | plain h => exact absurd rfl (h.ne_sign hradix).1
  | plus h => exact h

theorem isUnsigned_iff (h : cs.head? ≠ some '+') :
    IsUnsigned radix cs n ↔ IsNatural radix cs n := by
  refine ⟨fun hn => ?_, .plain⟩
  cases hn with
  | plain hn => exact hn
  | plus hn => exact absurd rfl h

theorem isSigned_minus_iff (hradix : radix ≤ 16) {v : Int} :
    IsSigned radix ('-' :: cs) v ↔ ∃ n : Nat, IsNatural radix cs n ∧ v = -n := by
  constructor
  · rintro (h | h)
    · cases h with
      | plain h => exact absurd rfl (h.ne_sign hradix).2
    · exact ⟨_, h, rfl⟩
  · rintro ⟨n, h, rfl⟩
    exact .minus h

theorem isSigned_iff (h : cs.head? ≠ some '-') {v : Int} :
    IsSigned radix cs v ↔ ∃ n : Nat, IsUnsigned radix cs n ∧ v = n := by
  constructor
  · rintro (hn | hn)
    · exact ⟨_, hn, rfl⟩
    · exact absurd rfl h
  · rintro ⟨n, hn, rfl⟩
    exact .unsigned hn

/-- **An unsigned numeral is read as its number, if it is within the bound.** -/
theorem unsigned?_eq_some_iff (hpos : 0 < radix) (hradix : radix ≤ 16) :
    unsigned? radix bound cs = some n ↔ IsUnsigned radix cs n ∧ n ≤ bound := by
  unfold unsigned?
  split
  · rw [digits?_eq_some_iff hpos hradix, isUnsigned_plus_iff hradix]
  · rename_i hplus
    rw [digits?_eq_some_iff hpos hradix, isUnsigned_iff (head?_ne_of_ne_cons hplus)]

/-- A numeral of 32 bits. -/
theorem word?_eq_some_iff (hpos : 0 < radix) (hradix : radix ≤ 16) :
    word? radix cs = some n ↔ IsUnsigned radix cs n ∧ n ≤ maxWord :=
  unsigned?_eq_some_iff hpos hradix

/-- **A signed numeral is read as its number, if it is within the bounds.** -/
theorem signed?_eq_some_iff (hpos : 0 < radix) (hradix : radix ≤ 16) {below above : Nat} {v : Int} :
    signed? radix below above cs = some v ↔ IsSigned radix cs v ∧ -below ≤ v ∧ v ≤ above := by
  have hunsigned : ∀ ds, (∃ n, digits? radix above ds = some n ∧ Int.ofNat n = v) ↔
      (∃ n : Nat, IsNatural radix ds n ∧ v = n) ∧ -below ≤ v ∧ v ≤ above := by
    intro ds
    simp only [digits?_eq_some_iff hpos hradix]
    constructor
    · rintro ⟨n, ⟨hn, hle⟩, rfl⟩
      exact ⟨⟨n, hn, rfl⟩, by simp; omega⟩
    · rintro ⟨⟨n, hn, rfl⟩, -, hle⟩
      exact ⟨n, ⟨hn, by omega⟩, rfl⟩
  unfold signed?
  split
  · rename_i ds
    simp only [Option.map_eq_some_iff, digits?_eq_some_iff hpos hradix, isSigned_minus_iff hradix]
    constructor
    · rintro ⟨n, ⟨hn, hle⟩, rfl⟩
      exact ⟨⟨n, hn, rfl⟩, by omega⟩
    · rintro ⟨⟨n, hn, rfl⟩, hle, -⟩
      exact ⟨n, ⟨hn, by omega⟩, rfl⟩
  · rename_i ds
    rw [Option.map_eq_some_iff, hunsigned, isSigned_iff (by simp)]
    simp only [isUnsigned_plus_iff hradix]
  · rename_i hminus hplus
    rw [Option.map_eq_some_iff, hunsigned, isSigned_iff (head?_ne_of_ne_cons hminus)]
    simp only [isUnsigned_iff (head?_ne_of_ne_cons hplus)]

end SwitchPlatform.Text
