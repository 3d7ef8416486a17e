/-!
# Sets of flags

A word whose bits are flags of one kind. Bits without a name are kept, so the set of a table or
of a register survives unchanged.
-/

namespace SwitchPlatform

/-- What the flags of a set say. -/
inductive FlagKind
  | thermalStatus
  | thermalCaps
  | fanStatus
  | fanCaps
  | psuStatus
  | psuCaps
  | ledStatus
  | ledCaps

/-- A set of flags of one kind. -/
structure Flags (kind : FlagKind) where
  bits : UInt32
  deriving DecidableEq

namespace Flags

variable {kind : FlagKind}

/-- No flag. -/
def empty : Flags kind := ⟨0⟩

/-- The flags of either set. -/
def union (a b : Flags kind) : Flags kind := ⟨a.bits ||| b.bits⟩

instance : OrOp (Flags kind) := ⟨union⟩

/-- Are all flags of `f` in `s`? -/
def has (s f : Flags kind) : Bool :=
  s.bits &&& f.bits == f.bits

theorem bits_union (a b : Flags kind) : (a ||| b).bits = a.bits ||| b.bits := rfl

end Flags

end SwitchPlatform
