import SwitchPlatform.Text.Numeral

/-!
# Range maps

Board wiring is rarely uniform, so the numbers of ports are mapped to the numbers of lines, buses
or attributes by a short list of linear segments. The first segment that covers a number decides
its value, and a value outside of 32 bits counts as none.
-/

namespace SwitchPlatform

/-- A linear piece of a map: `first` has the value `base`, and every next id, up to `last`, one
`stride` more. -/
structure Segment where
  first : Nat
  last : Nat
  base : Nat
  stride : Int := 1
  deriving DecidableEq

namespace Segment

/-- A segment whose values go down from `base`. -/
def descending (first last base : Nat) : Segment := ⟨first, last, base, -1⟩

/-- Is `id` in the segment? -/
def covers (s : Segment) (id : Nat) : Bool :=
  s.first ≤ id && id ≤ s.last

/-- The exact value of an id. -/
def value (s : Segment) (id : Nat) : Int :=
  s.base + (id - s.first : Int) * s.stride

/-- The value of an id that the segment covers, if it fits into 32 bits. -/
def map? (s : Segment) (id : Nat) : Option Nat :=
  if s.covers id ∧ 0 ≤ s.value id ∧ s.value id ≤ Text.maxWord then some (s.value id).toNat
  else none

/-- The number of ids in the segment. -/
def size (s : Segment) : Nat :=
  s.last + 1 - s.first

/-- The ids in the segment, ascending. -/
def ids (s : Segment) : List Nat :=
  List.range' s.first s.size

theorem covers_iff {s : Segment} {id : Nat} : s.covers id = true ↔ s.first ≤ id ∧ id ≤ s.last := by
  simp [covers]

theorem mem_ids {s : Segment} {id : Nat} : id ∈ s.ids ↔ s.covers id = true := by
  simp only [ids, size, List.mem_range'_1, covers_iff]
  omega

end Segment

/-- A list of segments, of which the first that covers an id decides. -/
abbrev RangeMap := List Segment

namespace RangeMap

/-- The place of the deciding segment, counted from `start`, and the value of an id. -/
def locateFrom? (id : Nat) : Nat → RangeMap → Option (Nat × Nat)
  | _, [] => none
  | start, s :: rest =>
    if s.covers id then (s.map? id).map fun v => (start, v)
    else locateFrom? id (start + 1) rest

/-- The place of the deciding segment and the value of an id. -/
def locate? (m : RangeMap) (id : Nat) : Option (Nat × Nat) :=
  locateFrom? id 0 m

/-- The value of an id. -/
def map? (m : RangeMap) (id : Nat) : Option Nat :=
  (m.locate? id).map Prod.snd

/-- Does some segment cover an id? -/
def covers (m : RangeMap) (id : Nat) : Bool :=
  m.any (·.covers id)

/-- Every id that is covered, segment by segment. -/
def ids (m : RangeMap) : List Nat :=
  m.flatMap Segment.ids

theorem mem_ids {m : RangeMap} {id : Nat} : id ∈ m.ids ↔ m.covers id = true := by
  simp [ids, covers, Segment.mem_ids]

end RangeMap

end SwitchPlatform
