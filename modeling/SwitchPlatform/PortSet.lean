/-!
# Sets of ports

A set of port numbers, kept in words of 64 bits: port `p` is the bit at place `p % 64` of the word
with number `p / 64`. A set has no empty words at its end, so that equal sets have equal words. The
text of a set lists its longest runs of consecutive ports, as in `0-3,8,10-11`.
-/

namespace SwitchPlatform

/-- A set of port numbers. -/
structure PortSet where
  words : Array UInt64
  /-- The last word is not empty. -/
  canonical : words.back? ≠ some 0 := by decide
  deriving DecidableEq

namespace PortSet

/-- The set without members. -/
def empty : PortSet := { words := #[] }

/-- The word with a bit at one place. -/
def bit (place : Nat) : UInt64 :=
  1 <<< UInt64.ofNat place

/-- The words, and empty ones behind them up to a least number. -/
def grow (count : Nat) (words : Array UInt64) : Array UInt64 :=
  words ++ Array.replicate (count - words.size) 0

/-- The words with the bit of a port. -/
def withPort (p : Nat) (words : Array UInt64) : Array UInt64 :=
  (grow (p / 64 + 1) words).modify (p / 64) (· ||| bit (p % 64))

theorem size_withPort (p : Nat) (words : Array UInt64) :
    (withPort p words).size = words.size + (p / 64 + 1 - words.size) := by
  simp [withPort, grow]

theorem or_bit_ne_zero (word : UInt64) (place : Nat) : word ||| bit (place % 64) ≠ 0 := by
  intro h
  have hplace : place % 64 < 64 := Nat.mod_lt place (by decide)
  have hbit := congrArg (fun w => w.toBitVec.getLsbD (place % 64)) h
  simp [bit, Nat.mod_eq_of_lt hplace, hplace] at hbit

/-- The last word is the one of the port, or it is still the last word. -/
theorem back?_withPort_ne (p : Nat) {words : Array UInt64} (h : words.back? ≠ some 0) :
    (withPort p words).back? ≠ some 0 := by
  rw [Array.back?_eq_getElem?] at h ⊢
  rw [size_withPort, withPort, grow, Array.getElem?_modify]
  split
  · intro heq
    obtain ⟨word, -, hword⟩ := Option.map_eq_some_iff.1 heq
    exact or_bit_ne_zero word p hword
  · rename_i hne
    have hlast : words.size + (p / 64 + 1 - words.size) - 1 = words.size - 1 := by omega
    rw [hlast, Array.getElem?_append, if_pos (by omega)]
    exact h

/-- The set with one more member. -/
def insert (p : Nat) (s : PortSet) : PortSet :=
  ⟨withPort p s.words, back?_withPort_ne p s.canonical⟩

/-- The set of the numbers in a list. -/
def ofList (ps : List Nat) : PortSet :=
  ps.foldl (fun s p => s.insert p) empty

/-- The ports below `n`. -/
def below (n : Nat) : PortSet :=
  ofList (List.range n)

/-- Has a word a bit at a place? -/
def hasBit (word : UInt64) (place : Nat) : Bool :=
  word &&& bit place != 0

/-- Is a port in the set? -/
def contains (s : PortSet) (p : Nat) : Bool :=
  s.words[p / 64]?.any fun word => hasBit word (p % 64)

/-- The number of members. -/
def size (s : PortSet) : Nat :=
  s.words.foldl (fun count word => count + word.toBitVec.cpop.toNat) 0

/-- Has the set no members? -/
def isEmpty (s : PortSet) : Bool :=
  s.words.all (· == 0)

/-- The places at which a word has bits. -/
def places (word : UInt64) : List Nat :=
  (List.range 64).filter (hasBit word)

/-- The members. -/
def ports (s : PortSet) : List Nat :=
  s.words.toList.zipIdx.flatMap fun (word, number) => (places word).map (number * 64 + ·)

/-- A run of consecutive ports. -/
structure Run where
  first : Nat
  last : Nat
  deriving DecidableEq

/-- The ports of a run. -/
def Run.ports (r : Run) : List Nat :=
  List.range' r.first (r.last + 1 - r.first)

/-- A run of one port is its number; a longer one has both ends. -/
def Run.text (r : Run) : String :=
  if r.first = r.last then toString r.first
  else toString r.first ++ "-" ++ toString r.last

/-- Splits a list into a first run, which so far ends at `last`, and the runs after it. -/
def runsFrom (first last : Nat) : List Nat → List Run
  | [] => [⟨first, last⟩]
  | p :: ps => if p = last + 1 then runsFrom first p ps else ⟨first, last⟩ :: runsFrom p p ps

/-- The longest runs of consecutive ports, ascending. -/
def runs (s : PortSet) : List Run :=
  match s.ports with
  | [] => []
  | p :: ps => runsFrom p p ps

/-- The runs of a set, separated by commas; `none` for the empty set. -/
def text (s : PortSet) : String :=
  if s.isEmpty then "none" else ",".intercalate (s.runs.map Run.text)

end PortSet

end SwitchPlatform
