import Mathlib.Tactic
import SwitchPlatform.Proofs.RangeMap

/-!
# Range maps are exact

The value of an id is exact: the product of its distance from the start of the segment and of the
stride comes close to the limits of 64 bits, but stays within them, and so does the sum with the
base (`Segment.toInt_value64`). A map answers for the least of the segments that cover an id
(`RangeMap.Decides`), with its value if that is a word, and else not at all, whatever the segments
behind it say (`locate?_eq_some_iff`). `RangeMap.isExact` puts this together.
-/

namespace SwitchPlatform

namespace Segment

variable {s : Segment} {id v : Nat}

/-! ## Values of a segment -/

/-- **A segment gives a covered id its value, if that is a word.** -/
theorem map?_eq_some_iff : s.map? id = some v ↔
    (s.first ≤ id ∧ id ≤ s.last) ∧ (v : Int) = s.base + (id - s.first) * s.stride ∧
      v ≤ Text.maxWord := by
  simp only [map?, covers_iff]
  rw [← value]
  constructor
  · intro h
    split_ifs at h with hfits
    obtain ⟨hcovers, hlow, hhigh⟩ := hfits
    obtain rfl := Option.some.inj h
    exact ⟨hcovers, Int.toNat_of_nonneg hlow, by omega⟩
  · rintro ⟨hcovers, hv, hle⟩
    rw [if_pos ⟨hcovers, by omega, by omega⟩, ← hv, Int.toNat_natCast]

/-- **Distinct ids have distinct values**, if there is a stride. -/
theorem value_injective (hstride : s.stride ≠ 0) : Function.Injective s.value := by
  intro id id' h
  have hoffset : (id - s.first : Int) * s.stride = (id' - s.first) * s.stride :=
    Int.add_left_cancel h
  have hid := Int.eq_of_mul_eq_mul_right hstride hoffset
  omega

/-! ## Values in 64 bits -/

/-- The fields of a segment fit 32 bits; the stride is signed. -/
structure IsWord (s : Segment) : Prop where
  last : s.last ≤ Text.maxWord
  base : s.base ≤ Text.maxWord
  stride : -2 ^ 31 ≤ s.stride ∧ s.stride < 2 ^ 31

/-- How far the value of an id is from the base, computed in 64 bits. -/
def offset64 (s : Segment) (id : Nat) : Int64 :=
  Int64.ofNat (id - s.first) * Int64.ofInt s.stride

/-- The value of an id, computed in 64 bits. -/
def value64 (s : Segment) (id : Nat) : Int64 :=
  Int64.ofNat s.base + s.offset64 id

/-- A word times a signed word leaves room for one more word. -/
theorem mul_bounds {a b : Int} (ha : 0 ≤ a) (ha' : a < 2 ^ 32) (hb : -2 ^ 31 ≤ b)
    (hb' : b < 2 ^ 31) : -2 ^ 63 ≤ a * b ∧ a * b < 2 ^ 63 - 2 ^ 32 := by
  constructor
  · nlinarith
  · nlinarith

theorem bounds_offset (hword : s.IsWord) (hcovers : s.covers id = true) :
    -2 ^ 63 ≤ (id - s.first : Int) * s.stride ∧
      (id - s.first : Int) * s.stride < 2 ^ 63 - 2 ^ 32 := by
  obtain ⟨hfirst, hlast⟩ := covers_iff.1 hcovers
  have hle : id ≤ 4294967295 := hlast.trans hword.last
  exact mul_bounds (by omega) (by omega) hword.stride.1 hword.stride.2

/-- **The product does not overflow.** -/
theorem toInt_offset64 (hword : s.IsWord) (hcovers : s.covers id = true) :
    (s.offset64 id).toInt = (id - s.first) * s.stride := by
  obtain ⟨hfirst, hlast⟩ := covers_iff.1 hcovers
  have hle : id ≤ 4294967295 := hlast.trans hword.last
  obtain ⟨hlow, hhigh⟩ := bounds_offset hword hcovers
  obtain ⟨hstride, hstride'⟩ := hword.stride
  rw [offset64, Int64.toInt_mul, Int64.toInt_ofNat_of_lt (by omega),
    Int64.toInt_ofInt_of_le (by omega) (by omega), Nat.cast_sub hfirst,
    Int.bmod_eq_of_le (by omega) (by omega)]

/-- **The sum does not overflow.** -/
theorem toInt_value64 (hword : s.IsWord) (hcovers : s.covers id = true) :
    (s.value64 id).toInt = s.value id := by
  have hbase : s.base ≤ 4294967295 := hword.base
  obtain ⟨hlow, hhigh⟩ := bounds_offset hword hcovers
  rw [value64, Int64.toInt_add, toInt_offset64 hword hcovers, Int64.toInt_ofNat_of_lt (by omega),
    Int.bmod_eq_of_le (by omega) (by omega), value]

/-- The longest and steepest segment stays within 64 bits. -/
example : (⟨0, 4294967295, 0, -2147483648⟩ : Segment).IsWord ∧
    ((⟨0, 4294967295, 0, -2147483648⟩ : Segment).value64 4294967295).toInt =
      -2 ^ 63 + 2 ^ 31 :=
  ⟨⟨by decide, by decide, by decide⟩, by decide⟩

end Segment

namespace RangeMap

variable {m : RangeMap} {s t : Segment} {id i v : Nat}

/-! ## The deciding segment -/

/-- The least segment that covers an id, by its place. -/
structure Decides (m : RangeMap) (id i : Nat) (s : Segment) : Prop where
  at_place : m[i]? = some s
  covers : s.first ≤ id ∧ id ≤ s.last
  least : ∀ j < i, ∀ t, m[j]? = some t → ¬(t.first ≤ id ∧ id ≤ t.last)

theorem decides_cons_of_covers (h : s.covers id = true) :
    Decides (s :: m) id i t ↔ i = 0 ∧ t = s := by
  rw [Segment.covers_iff] at h
  constructor
  · rintro ⟨hplace, -, hleast⟩
    cases i with
    | zero => exact ⟨rfl, (Option.some.inj hplace).symm⟩
    | succ i => exact absurd h (hleast 0 (Nat.succ_pos i) s rfl)
  · rintro ⟨rfl, rfl⟩
    exact ⟨rfl, h, nofun⟩

theorem decides_cons_of_not_covers (h : s.covers id = false) :
    Decides (s :: m) id i t ↔ ∃ k, i = k + 1 ∧ Decides m id k t := by
  rw [← Bool.not_eq_true, Segment.covers_iff] at h
  constructor
  · rintro ⟨hplace, hcovers, hleast⟩
    cases i with
    | zero => exact absurd (Option.some.inj hplace ▸ hcovers) h
    | succ i => exact ⟨i, rfl, hplace, hcovers, fun j hj => hleast (j + 1) (Nat.succ_lt_succ hj)⟩
  · rintro ⟨k, rfl, hplace, hcovers, hleast⟩
    refine ⟨hplace, hcovers, fun j hj t ht => ?_⟩
    cases j with
    | zero => exact Option.some.inj ht ▸ h
    | succ j => exact hleast j (Nat.lt_of_succ_lt_succ hj) t ht

theorem locateFrom?_eq_some_iff (start : Nat) : m.locateFrom? id start = some (i, v) ↔
    ∃ k s, start + k = i ∧ m.Decides id k s ∧ s.map? id = some v := by
  induction m generalizing start with
  | nil =>
    rw [locateFrom?]
    constructor
    · intro h
      cases h
    · rintro ⟨k, s, -, hdecides, -⟩
      cases hdecides.at_place
  | cons s m ih =>
    rw [locateFrom?]
    cases hs : s.covers id with
    | true =>
      simp only [if_true, Option.map_eq_some_iff, Prod.mk.injEq, decides_cons_of_covers hs]
      constructor
      · rintro ⟨v, hv, rfl, rfl⟩
        exact ⟨0, s, rfl, ⟨rfl, rfl⟩, hv⟩
      · rintro ⟨k, t, rfl, ⟨rfl, rfl⟩, hv⟩
        exact ⟨v, hv, rfl, rfl⟩
    | false =>
      simp only [Bool.false_eq_true, if_false, ih, decides_cons_of_not_covers hs]
      constructor
      · rintro ⟨k, t, rfl, hdecides, hv⟩
        exact ⟨k + 1, t, by omega, ⟨k, rfl, hdecides⟩, hv⟩
      · rintro ⟨_, t, rfl, ⟨k, rfl, hdecides⟩, hv⟩
        exact ⟨k, t, by omega, hdecides, hv⟩

/-- **The least segment that covers an id decides its value**, also if that is none. -/
theorem locate?_eq_some_iff : m.locate? id = some (i, v) ↔
    ∃ s, m.Decides id i s ∧ (v : Int) = s.base + (id - s.first) * s.stride ∧
      v ≤ Text.maxWord := by
  simp only [locate?, locateFrom?_eq_some_iff, Nat.zero_add, Segment.map?_eq_some_iff]
  constructor
  · rintro ⟨k, s, rfl, hdecides, -, hv⟩
    exact ⟨s, hdecides, hv⟩
  · rintro ⟨s, hdecides, hv⟩
    exact ⟨i, s, rfl, hdecides, hdecides.covers, hv⟩

theorem covers_iff : m.covers id = true ↔ ∃ s ∈ m, s.first ≤ id ∧ id ≤ s.last := by
  simp only [covers, List.any_eq_true, Segment.covers_iff]

/-! ## All ids -/

/-- What a range map answers, for every id. -/
structure IsExact (m : RangeMap) : Prop where
  /-- An id has the value that the least segment covering it gives to it, if that is a word. -/
  located : ∀ id i v, m.locate? id = some (i, v) ↔
    ∃ s, m.Decides id i s ∧ (v : Int) = s.base + (id - s.first) * s.stride ∧ v ≤ Text.maxWord
  /-- Otherwise it has none: no segment covers it, or the first one that does gives no word. -/
  unlocated : ∀ id, m.locate? id = none ↔ m.covers id = false ∨ m.Strays id
  mapped : ∀ id, m.map? id = (m.locate? id).map Prod.snd
  covered : ∀ id, m.covers id = true ↔ ∃ s ∈ m, s.first ≤ id ∧ id ≤ s.last
  /-- The ids are listed segment by segment, those of a segment in ascending order. -/
  listed : ∃ parts, m.ids = parts.flatten ∧ List.Forall₂ (fun s part =>
    part.Pairwise (· < ·) ∧ ∀ id, id ∈ part ↔ s.first ≤ id ∧ id ≤ s.last) m parts
  /-- Computed in 64 bits, the values of words are exact. -/
  exact64 : ∀ s ∈ m, s.IsWord → ∀ id, s.covers id = true →
    (s.offset64 id).toInt = (id - s.first) * s.stride ∧ (s.value64 id).toInt = s.value id
  distinct : ∀ s ∈ m, s.stride ≠ 0 → ∀ id id' v,
    s.map? id = some v → s.map? id' = some v → id = id'

theorem locate?_eq_none_iff :
    m.locate? id = none ↔ m.covers id = false ∨ m.Strays id := by
  cases h : m.covers id with
  | true =>
    rw [← Option.map_eq_none_iff (f := Prod.snd), ← map?, map?_eq_none_iff h]
    simp
  | false =>
    refine iff_of_true (Option.eq_none_iff_forall_ne_some.2 fun a ha => ?_) (.inl rfl)
    obtain ⟨s, hdecides, -⟩ := locate?_eq_some_iff.1 ha
    have hcovers := covers_iff.2 ⟨s, List.mem_of_getElem? hdecides.at_place, hdecides.covers⟩
    rw [h] at hcovers
    cases hcovers

/-- **Range maps are exact.** -/
theorem isExact (m : RangeMap) : m.IsExact where
  located _ _ _ := locate?_eq_some_iff
  unlocated _ := locate?_eq_none_iff
  mapped _ := rfl
  covered _ := covers_iff
  listed := by
    refine ⟨m.map Segment.ids, List.flatMap_def, List.forall₂_map_right_iff.2 ?_⟩
    refine List.forall₂_same.2 fun s _ => ⟨List.pairwise_lt_range', fun id => ?_⟩
    rw [Segment.mem_ids, Segment.covers_iff]
  exact64 _ _ hword _ hcovers :=
    ⟨Segment.toInt_offset64 hword hcovers, Segment.toInt_value64 hword hcovers⟩
  distinct s _ hstride id id' v hid hid' := by
    have hv := (Segment.map?_eq_some_iff.1 hid).2.1
    have hv' := (Segment.map?_eq_some_iff.1 hid').2.1
    exact Segment.value_injective hstride (hv.symm.trans hv')

/-- An id that strays has no value, although a later segment has one for it. -/
example : RangeMap.locate? [⟨0, 3, 1, -1⟩, ⟨2, 5, 100, 1⟩] 2 = none ∧
    RangeMap.locate? [⟨0, 3, 1, -1⟩, ⟨2, 5, 100, 1⟩] 4 = some (1, 102) := by decide

end RangeMap

end SwitchPlatform
