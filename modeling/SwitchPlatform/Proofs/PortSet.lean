import Mathlib.Data.Finset.Card
import Mathlib.Tactic
import SwitchPlatform.PortSet

/-!
# Members of a set of ports

A port is in a set if the word of the port has its bit, and putting a port into a set changes this
one bit (`wordAt_withPort`, `contains_insert`). Since no set ends in an empty word, its bits
determine its words (`ext_contains`), so how a set came about does not matter. The list of the
members takes the words one by one, and the places in each of them one by one, and so is ascending
(`pairwise_ports`). `ofList_isSetOf` puts this together for a set that ports were put into.
-/

namespace SwitchPlatform.PortSet

/-! ## Bits of a word -/

section Word

variable {word word' : UInt64} {place place' : Nat}

theorem toBitVec_bit (h : place < 64) : (bit place).toBitVec = BitVec.twoPow 64 place := by
  rw [bit, UInt64.toBitVec_shiftLeft, BitVec.twoPow_eq, UInt64.toBitVec_ofNat']
  simp [BitVec.shiftLeft_eq', Nat.mod_eq_of_lt h]

theorem twoPow_ne_zero (h : place < 64) : BitVec.twoPow 64 place ≠ 0#64 := by
  intro hzero
  have hbit := congrArg (·.getLsbD place) hzero
  simp [h] at hbit

theorem hasBit_eq (word : UInt64) (h : place < 64) :
    hasBit word place = word.toBitVec.getLsbD place := by
  have hmask : word &&& bit place = 0 ↔ word.toBitVec.getLsbD place = false := by
    rw [← UInt64.toBitVec_inj, UInt64.toBitVec_and, toBitVec_bit h, BitVec.and_twoPow]
    cases word.toBitVec.getLsbD place with
    | false => simp
    | true => simp [twoPow_ne_zero h]
  rw [hasBit, Bool.eq_iff_iff, bne_iff_ne, ne_eq, hmask, Bool.not_eq_false]

theorem hasBit_zero (h : place < 64) : hasBit 0 place = false := by
  rw [hasBit_eq 0 h]
  exact BitVec.getLsbD_zero

/-- One more bit is at its place, and the others are as they were. -/
theorem hasBit_or_bit (h : place < 64) (h' : place' < 64) :
    hasBit (word ||| bit place) place' = true ↔ place' = place ∨ hasBit word place' = true := by
  rw [hasBit_eq _ h', hasBit_eq _ h', UInt64.toBitVec_or, BitVec.getLsbD_or, toBitVec_bit h,
    BitVec.getLsbD_twoPow, Bool.or_eq_true, Bool.and_eq_true, decide_eq_true_eq, decide_eq_true_eq,
    or_comm, and_iff_right h, eq_comm]

/-- Words with the same bits are the same. -/
theorem ext_hasBit (h : ∀ place < 64, hasBit word place = hasBit word' place) : word = word' := by
  refine UInt64.toBitVec_inj.1 (BitVec.eq_of_getLsbD_eq fun place hplace => ?_)
  rw [← hasBit_eq word hplace, ← hasBit_eq word' hplace, h place hplace]

theorem mem_places_iff : place ∈ places word ↔ place < 64 ∧ hasBit word place = true := by
  rw [places, List.mem_filter, List.mem_range]

/-- The bits of a word are counted place by place. -/
theorem cpopNatRec_eq_countP (v : BitVec 64) (n : Nat) :
    v.cpopNatRec n 0 = (List.range n).countP v.getLsbD := by
  induction n with
  | zero => rfl
  | succ n ih =>
    rw [BitVec.cpopNatRec_succ, BitVec.cpopNatRec_add, ih, List.range_succ, List.countP_append]
    cases h : v.getLsbD n with
    | false => simp [h]
    | true => simp [h]

theorem toNat_cpop (word : UInt64) : word.toBitVec.cpop.toNat = (places word).length := by
  rw [BitVec.toNat_cpop, cpopNatRec_eq_countP, places, ← List.countP_eq_length_filter]
  exact List.countP_congr fun place hplace => by rw [hasBit_eq word (List.mem_range.1 hplace)]

end Word

/-! ## Words of a set -/

/-- The word with a number; behind the last one all are empty. -/
def wordAt (words : Array UInt64) (i : Nat) : UInt64 :=
  words[i]?.getD 0

variable {s t : PortSet} {p x : Nat}

/-- **Putting a port among the words changes the word of the port**, by the bit of the port. -/
theorem wordAt_withPort (p : Nat) (words : Array UInt64) (i : Nat) :
    wordAt (withPort p words) i =
      if p / 64 = i then wordAt words i ||| bit (p % 64) else wordAt words i := by
  have hgrow : wordAt (grow (p / 64 + 1) words) i = wordAt words i := by
    rw [wordAt, wordAt, grow, Array.getElem?_append]
    split_ifs with hi
    · rfl
    · rw [Array.getElem?_replicate, Array.getElem?_eq_none (by omega)]
      split_ifs <;> rfl
  rw [wordAt, withPort, Array.getElem?_modify]
  split_ifs with hi
  · have hroom : i < (grow (p / 64 + 1) words).size := by
      simp only [grow, Array.size_append, Array.size_replicate]
      omega
    rw [← hgrow, wordAt, Array.getElem?_eq_getElem hroom]
    rfl
  · exact hgrow

theorem contains_eq (s : PortSet) (p : Nat) :
    s.contains p = hasBit (wordAt s.words (p / 64)) (p % 64) := by
  rw [contains, wordAt]
  cases s.words[p / 64]? with
  | none => exact (hasBit_zero (Nat.mod_lt p (by decide))).symm
  | some word => rfl

theorem contains_at {i place : Nat} (h : place < 64) :
    s.contains (i * 64 + place) = hasBit (wordAt s.words i) place := by
  rw [contains_eq, show (i * 64 + place) / 64 = i by omega,
    show (i * 64 + place) % 64 = place by omega]

theorem contains_empty (p : Nat) : empty.contains p = false := by
  rw [contains, empty, Array.getElem?_empty]
  rfl

theorem contains_insert : (s.insert p).contains x = true ↔ x = p ∨ s.contains x = true := by
  have hsame : x = p ↔ p / 64 = x / 64 ∧ x % 64 = p % 64 := by omega
  rw [contains_eq, contains_eq, insert, wordAt_withPort]
  split_ifs with hword
  · rw [hasBit_or_bit (Nat.mod_lt p (by decide)) (Nat.mod_lt x (by decide)), hsame,
      and_iff_right hword]
  · exact (or_iff_right fun h => hword (hsame.1 h).1).symm

theorem contains_foldl (ps : List Nat) (s : PortSet) :
    (ps.foldl (fun s p => s.insert p) s).contains x = true ↔ s.contains x = true ∨ x ∈ ps := by
  induction ps generalizing s with
  | nil => simp
  | cons p ps ih =>
    rw [List.foldl_cons, ih, contains_insert, List.mem_cons, or_assoc, or_left_comm]

/-- **A set has the ports that were put into it.** -/
theorem contains_ofList {ps : List Nat} : (ofList ps).contains x = true ↔ x ∈ ps := by
  rw [ofList, contains_foldl, contains_empty, or_iff_right Bool.false_ne_true]

theorem contains_below {n : Nat} : (below n).contains p = true ↔ p < n := by
  rw [below, contains_ofList, List.mem_range]

/-- The last word has a bit. -/
theorem wordAt_last_ne (h : s.words.size ≠ 0) : wordAt s.words (s.words.size - 1) ≠ 0 := by
  intro hzero
  refine s.canonical ?_
  rw [Array.back?_eq_getElem?, Array.getElem?_eq_getElem (by omega)]
  rw [wordAt, Array.getElem?_eq_getElem (by omega)] at hzero
  exact congrArg some hzero

/-- A set without the words of another one behind its own. -/
theorem size_words_le (h : ∀ i, wordAt s.words i = wordAt t.words i) :
    t.words.size ≤ s.words.size := by
  by_contra hlt
  have hlast := wordAt_last_ne (s := t) (by omega)
  rw [← h, wordAt, Array.getElem?_eq_none (by omega)] at hlast
  exact hlast rfl

/-- The words of a set do not go farther than those of its members. -/
theorem exists_contains_of_lt {i : Nat} (h : i < s.words.size) :
    ∃ p, s.contains p = true ∧ i ≤ p / 64 := by
  have hplace : ∃ place < 64, hasBit (wordAt s.words (s.words.size - 1)) place = true := by
    by_contra hnone
    refine wordAt_last_ne (s := s) (by omega) (ext_hasBit fun place hlt => ?_)
    rw [hasBit_zero hlt, ← Bool.not_eq_true]
    exact fun hbit => hnone ⟨place, hlt, hbit⟩
  obtain ⟨place, hlt, hbit⟩ := hplace
  refine ⟨(s.words.size - 1) * 64 + place, ?_, by omega⟩
  rwa [contains_at hlt]

/-- **Sets with the same members are equal**, however they came about. -/
theorem ext_contains (h : ∀ p, s.contains p = t.contains p) : s = t := by
  have hwords : ∀ i, wordAt s.words i = wordAt t.words i := by
    refine fun i => ext_hasBit fun place hplace => ?_
    have hp := h (i * 64 + place)
    rwa [contains_at hplace, contains_at hplace] at hp
  have hsize := Nat.le_antisymm (size_words_le fun i => (hwords i).symm) (size_words_le hwords)
  obtain ⟨sw, _⟩ := s
  obtain ⟨tw, _⟩ := t
  congr
  refine Array.ext hsize fun i hs ht => ?_
  have hi := hwords i
  rwa [wordAt, wordAt, Array.getElem?_eq_getElem hs, Array.getElem?_eq_getElem ht] at hi

/-! ## The members one by one -/

theorem mem_ports_iff : p ∈ s.ports ↔ s.contains p = true := by
  rw [ports, List.mem_flatMap]
  constructor
  · rintro ⟨⟨word, i⟩, hword, hp⟩
    obtain ⟨place, hplace, rfl⟩ := List.mem_map.1 hp
    obtain ⟨hlt, hbit⟩ := mem_places_iff.1 hplace
    rw [List.mem_zipIdx_iff_getElem?, Array.getElem?_toList] at hword
    dsimp only at hword ⊢
    rw [contains_at hlt, wordAt, hword]
    exact hbit
  · intro hbit
    rw [contains_eq] at hbit
    have hlt : p % 64 < 64 := Nat.mod_lt p (by decide)
    cases hword : s.words[p / 64]? with
    | none =>
      rw [wordAt, hword, Option.getD_none, hasBit_zero hlt] at hbit
      cases hbit
    | some word =>
      rw [wordAt, hword, Option.getD_some] at hbit
      refine ⟨(word, p / 64), ?_, List.mem_map.2 ⟨p % 64, mem_places_iff.2 ⟨hlt, hbit⟩, ?_⟩⟩
      · rw [List.mem_zipIdx_iff_getElem?, Array.getElem?_toList]
        exact hword
      · omega

/-- **The members are listed in ascending order.** -/
theorem pairwise_ports (s : PortSet) : s.ports.Pairwise (· < ·) := by
  have hplaces : ∀ word : UInt64, (places word).Pairwise (· < ·) := fun word =>
    List.pairwise_lt_range.filter _
  have hnumbers : s.words.toList.zipIdx.Pairwise fun a b => a.2 < b.2 := by
    rw [← List.pairwise_map (f := Prod.snd), List.zipIdx_map_snd]
    exact List.pairwise_lt_range'
  rw [ports, List.pairwise_flatMap]
  refine ⟨fun a _ => ?_, hnumbers.imp fun {a b} hab x hx y hy => ?_⟩
  · rw [List.pairwise_map]
    exact (hplaces a.1).imp fun hlt => Nat.add_lt_add_left hlt _
  · obtain ⟨place, hplace, rfl⟩ := List.mem_map.1 hx
    obtain ⟨place', -, rfl⟩ := List.mem_map.1 hy
    have hlt := (mem_places_iff.1 hplace).1
    omega

theorem size_eq (s : PortSet) : s.size = s.ports.length := by
  have hlength : (fun a : UInt64 × Nat => ((places a.1).map (a.2 * 64 + ·)).length) =
      (fun word => (places word).length) ∘ Prod.fst := by
    funext a
    exact List.length_map _
  rw [ports, List.length_flatMap, hlength, ← List.map_map, List.zipIdx_map_fst, List.sum_eq_foldl,
    List.foldl_map, size, ← Array.foldl_toList]
  simp only [toNat_cpop]

theorem isEmpty_iff : s.isEmpty = true ↔ ∀ p, s.contains p = false := by
  rw [isEmpty, Array.all_eq_true]
  constructor
  · intro h p
    have hplace : p % 64 < 64 := Nat.mod_lt p (by decide)
    rw [contains_eq, wordAt]
    cases hword : s.words[p / 64]? with
    | none => exact hasBit_zero hplace
    | some word =>
      obtain ⟨hi, rfl⟩ := Array.getElem?_eq_some_iff.1 hword
      rw [Option.getD_some, eq_of_beq (h _ hi), hasBit_zero hplace]
  · intro h
    rw [ext_contains (t := empty) fun p => (h p).trans (contains_empty p).symm]
    exact fun i hi => absurd hi (Nat.not_lt_zero i)

theorem ofList_ports (s : PortSet) : ofList s.ports = s :=
  ext_contains fun _ => Bool.eq_iff_iff.2 (contains_ofList.trans mem_ports_iff)

/-- The list of the members is the ascending one. -/
theorem ports_eq {ps : List Nat} (hasc : ps.Pairwise (· < ·))
    (h : ∀ p, s.contains p = true ↔ p ∈ ps) : s.ports = ps :=
  (pairwise_ports s).eq_of_mem_iff hasc fun p => mem_ports_iff.trans (h p)

theorem ports_below (n : Nat) : (below n).ports = List.range n :=
  ports_eq List.pairwise_lt_range fun _ => contains_below.trans List.mem_range.symm

/-- A set that holds the numbers of a list: what it answers, and that no other set answers so. -/
structure IsSetOf (s : PortSet) (ps : List Nat) : Prop where
  contains : ∀ p, s.contains p = true ↔ p ∈ ps
  listed : ∀ p, p ∈ s.ports ↔ p ∈ ps
  ascending : s.ports.Pairwise (· < ·)
  size : s.size = ps.toFinset.card
  isEmpty : s.isEmpty = true ↔ ps = []
  collected : ofList s.ports = s
  unique : ∀ t : PortSet, t = s ↔ ∀ p, t.contains p = true ↔ p ∈ ps
  /-- No word is farther back than the words of the members. -/
  fits : ∀ i < s.words.size, ∃ p ∈ ps, i ≤ p / 64

theorem ofList_isSetOf (ps : List Nat) : (ofList ps).IsSetOf ps := by
  have hcontains : ∀ p, (ofList ps).contains p = true ↔ p ∈ ps := fun p => contains_ofList
  have hlisted : ∀ p, p ∈ (ofList ps).ports ↔ p ∈ ps := fun p => mem_ports_iff.trans contains_ofList
  refine ⟨hcontains, hlisted, pairwise_ports _, ?_, ?_, ofList_ports _, fun t => ⟨?_, fun ht => ?_⟩,
    fun i hi => ?_⟩
  · have hfinset : (ofList ps).ports.toFinset = ps.toFinset :=
      Finset.ext fun p => by rw [List.mem_toFinset, List.mem_toFinset, hlisted]
    rw [size_eq, ← hfinset, List.toFinset_card_of_nodup (pairwise_ports _).nodup]
  · rw [isEmpty_iff, List.eq_nil_iff_forall_not_mem]
    exact forall_congr' fun p => by rw [← hcontains, Bool.not_eq_true]
  · rintro rfl
    exact hcontains
  · exact ext_contains fun p => Bool.eq_iff_iff.2 ((ht p).trans (hcontains p).symm)
  · obtain ⟨p, hp, hle⟩ := exists_contains_of_lt hi
    exact ⟨p, (hcontains p).1 hp, hle⟩

end SwitchPlatform.PortSet
