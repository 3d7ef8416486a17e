import SwitchPlatform.RangeMap

/-!
# Values of range maps

Whether a map covers an id and whether it has a value for it are different questions: the first
segment that covers the id decides alone, and its value may lie outside of 32 bits
(`RangeMap.Strays`). A covered id has a value unless it strays (`map?_eq_none_iff`).
-/

namespace SwitchPlatform

namespace Segment

/-- The value of an id fits into 32 bits. -/
def Fits (s : Segment) (id : Nat) : Prop :=
  0 ≤ s.value id ∧ s.value id ≤ Text.maxWord

instance (s : Segment) (id : Nat) : Decidable (s.Fits id) :=
  inferInstanceAs (Decidable (_ ∧ _))

theorem map?_of_covers {s : Segment} {id : Nat} (h : s.covers id = true) :
    s.map? id = if s.Fits id then some (s.value id).toNat else none := by
  simp only [map?, h, true_and]
  rfl

end Segment

namespace RangeMap

variable {m : RangeMap} {id : Nat}

/-- The first segment that covers an id. -/
def deciding? (m : RangeMap) (id : Nat) : Option Segment :=
  m.find? (·.covers id)

/-- The segment that decides an id gives it a value outside of 32 bits. -/
def Strays (m : RangeMap) (id : Nat) : Prop :=
  ∃ s, m.deciding? id = some s ∧ ¬s.Fits id

theorem covers_of_deciding? {s : Segment} (h : m.deciding? id = some s) : s.covers id = true := by
  simpa using List.find?_some (p := fun s : Segment => s.covers id) h

theorem isSome_deciding?_iff : (m.deciding? id).isSome = true ↔ m.covers id = true := by
  simp [deciding?, covers, List.find?_isSome]

theorem locateFrom?_value (start : Nat) :
    (m.locateFrom? id start).map Prod.snd = (m.deciding? id).bind (·.map? id) := by
  induction m generalizing start with
  | nil => rfl
  | cons s m ih =>
    rw [locateFrom?, deciding?, List.find?_cons]
    cases hs : s.covers id with
    | true =>
      rw [if_pos rfl, Option.map_map, Option.bind_some]
      exact Option.map_id'
    | false => exact ih (start + 1)

/-- **The first segment that covers an id decides its value.** -/
theorem map?_eq_bind (m : RangeMap) (id : Nat) :
    m.map? id = (m.deciding? id).bind (·.map? id) :=
  locateFrom?_value 0

/-- Only a covered id has a value. -/
theorem covers_of_map? {v : Nat} (h : m.map? id = some v) : m.covers id = true := by
  rw [map?_eq_bind] at h
  obtain ⟨s, hs, -⟩ := Option.bind_eq_some_iff.1 h
  exact isSome_deciding?_iff.1 (Option.isSome_iff_exists.2 ⟨s, hs⟩)

/-- **A covered id has a value unless it strays.** -/
theorem map?_eq_none_iff (h : m.covers id = true) : m.map? id = none ↔ m.Strays id := by
  obtain ⟨s, hs⟩ := Option.isSome_iff_exists.1 (isSome_deciding?_iff.2 h)
  rw [map?_eq_bind, hs, Option.bind_some, Segment.map?_of_covers (covers_of_deciding? hs)]
  constructor
  · intro hnone
    refine ⟨s, hs, fun hfits => ?_⟩
    rw [if_pos hfits] at hnone
    cases hnone
  · rintro ⟨s', hs', hfits⟩
    cases hs.symm.trans hs'
    rw [if_neg hfits]

end RangeMap

end SwitchPlatform
