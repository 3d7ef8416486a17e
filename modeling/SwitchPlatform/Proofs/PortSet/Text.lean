import SwitchPlatform.Proofs.PortSet
import SwitchPlatform.Proofs.Text.Decimal

/-!
# Texts of sets of ports

The runs of a set are ascending, with a port missing between any two of them (`Apart`), and their
ports, one run after another, are the members of the set (`flatMap_ports_runs`). No other runs of
this kind have the same ports (`runs_eq`), so a set has one listing and no more (`lists_iff`). It is
read item by item, which gives back the set that it was written for (`ofText_text`).
`text_canonical` puts this together.
-/

namespace SwitchPlatform.PortSet

variable {s : PortSet} {r : Run} {rs : List Run} {ps : List Nat} {first last p : Nat}

/-! ## Runs -/

theorem Run.mem_ports_iff : p ∈ r.ports ↔ r.first ≤ p ∧ p ≤ r.last := by
  rw [Run.ports, List.mem_range'_1]
  omega

/-- Runs in ascending order, with a port missing between any two of them. -/
structure Apart (rs : List Run) : Prop where
  ends : ∀ r ∈ rs, r.first ≤ r.last
  gaps : rs.Pairwise fun r r' => r.last + 1 < r'.first

theorem apart_cons_iff : Apart (r :: rs) ↔
    r.first ≤ r.last ∧ (∀ r' ∈ rs, r.last + 1 < r'.first) ∧ Apart rs := by
  constructor
  · rintro ⟨ends, gaps⟩
    obtain ⟨hr, ends⟩ := List.forall_mem_cons.1 ends
    obtain ⟨hgap, gaps⟩ := List.pairwise_cons.1 gaps
    exact ⟨hr, hgap, ends, gaps⟩
  · rintro ⟨hr, hgap, ends, gaps⟩
    exact ⟨List.forall_mem_cons.2 ⟨hr, ends⟩, List.pairwise_cons.2 ⟨hgap, gaps⟩⟩

/-- The ports of such runs are ascending, too. -/
theorem Apart.pairwise_ports (h : Apart rs) : (rs.flatMap Run.ports).Pairwise (· < ·) := by
  refine List.pairwise_flatMap.2 ⟨fun r _ => List.pairwise_lt_range', ?_⟩
  refine h.gaps.imp fun {r r'} hgap p hp p' hp' => ?_
  have hlast := (Run.mem_ports_iff.1 hp).2
  have hfirst := (Run.mem_ports_iff.1 hp').1
  omega

/-- **No port is lost, and none is added.** -/
theorem flatMap_ports_runsFrom (h : first ≤ last) (ps : List Nat) :
    (runsFrom first last ps).flatMap Run.ports =
      List.range' first (last + 1 - first) ++ ps := by
  induction ps generalizing first last with
  | nil => simp [runsFrom, Run.ports]
  | cons p ps ih =>
    rw [runsFrom]
    split_ifs with hp
    · subst hp
      have hlen : last + 1 + 1 - first = last + 1 - first + 1 := by omega
      have hend : first + (last + 1 - first) = last + 1 := by omega
      rw [ih (by omega), hlen, List.range'_1_concat, hend, List.append_assoc]
      rfl
    · rw [List.flatMap_cons, ih le_rfl, Run.ports, Nat.add_sub_cancel_left]
      rfl

/-- **Between two runs a port is missing**: one that is next to the last port of a run becomes a
part of it. -/
theorem apart_runsFrom (h : first ≤ last) (hasc : (last :: ps).Pairwise (· < ·)) :
    Apart (runsFrom first last ps) ∧ ∀ r ∈ runsFrom first last ps, first ≤ r.first := by
  induction ps generalizing first last with
  | nil => exact ⟨⟨by simpa [runsFrom] using h, by simp [runsFrom]⟩, by simp [runsFrom]⟩
  | cons p ps ih =>
    obtain ⟨hlast, hasc⟩ := List.pairwise_cons.1 hasc
    have hp := hlast p List.mem_cons_self
    rw [runsFrom]
    split_ifs with hnext
    · exact ih (by omega) hasc
    · obtain ⟨hapart, hfirst⟩ := ih le_rfl hasc
      refine ⟨apart_cons_iff.2 ⟨h, fun r hr => ?_, hapart⟩, List.forall_mem_cons.2 ⟨le_rfl, ?_⟩⟩
      · have hle := hfirst r hr
        dsimp only
        omega
      · exact fun r hr => (h.trans hp.le).trans (hfirst r hr)

/-- The runs of an ascending list. -/
def runsOf : List Nat → List Run
  | [] => []
  | p :: ps => runsFrom p p ps

theorem runs_eq_runsOf (s : PortSet) : s.runs = runsOf s.ports := by
  unfold runs runsOf
  rfl

theorem flatMap_ports_runs (s : PortSet) : s.runs.flatMap Run.ports = s.ports := by
  rw [runs_eq_runsOf]
  cases s.ports with
  | nil => rfl
  | cons p ps =>
    rw [runsOf, flatMap_ports_runsFrom le_rfl, Nat.add_sub_cancel_left]
    rfl

theorem apart_runs (s : PortSet) : Apart s.runs := by
  have hasc := s.pairwise_ports
  rw [runs_eq_runsOf]
  cases hps : s.ports with
  | nil => exact ⟨nofun, .nil⟩
  | cons p ps => exact (apart_runsFrom le_rfl (hps ▸ hasc)).1

theorem mem_runs_iff : s.contains p = true ↔ ∃ r ∈ s.runs, r.first ≤ p ∧ p ≤ r.last := by
  simp only [← Run.mem_ports_iff]
  rw [← List.mem_flatMap, flatMap_ports_runs, mem_ports_iff]

/-- Consecutive ports continue a run. -/
theorem runsFrom_range' (first last count : Nat) (ps : List Nat) :
    runsFrom first last (List.range' (last + 1) count ++ ps) =
      runsFrom first (last + count) ps := by
  induction count generalizing last with
  | zero => rfl
  | succ count ih =>
    rw [List.range'_succ, List.cons_append, runsFrom, if_pos rfl, ih, Nat.add_assoc,
      Nat.add_comm 1]

/-- A gap ends a run. -/
theorem runsOf_ports_append (h : r.first ≤ r.last) (hgap : ∀ p ∈ ps, r.last + 1 < p) :
    runsOf (r.ports ++ ps) = r :: runsOf ps := by
  have hports : r.ports = r.first :: List.range' (r.first + 1) (r.last - r.first) := by
    rw [Run.ports, Nat.succ_sub h, List.range'_succ]
  rw [hports, List.cons_append, runsOf, runsFrom_range', Nat.add_sub_cancel' h]
  cases ps with
  | nil => rfl
  | cons p ps =>
    have hp := hgap p List.mem_cons_self
    rw [runsFrom, if_neg (by omega)]
    rfl

/-- Runs that are apart are the longest ones. -/
theorem runsOf_flatMap_ports (h : Apart rs) : runsOf (rs.flatMap Run.ports) = rs := by
  induction rs with
  | nil => rfl
  | cons r rs ih =>
    obtain ⟨hr, hgap, hrs⟩ := apart_cons_iff.1 h
    rw [List.flatMap_cons, runsOf_ports_append hr, ih hrs]
    intro p hp
    obtain ⟨r', hr', hp⟩ := List.mem_flatMap.1 hp
    exact (hgap r' hr').trans_le (Run.mem_ports_iff.1 hp).1

/-- **A set has no other runs that are apart.** -/
theorem runs_eq (h : Apart rs)
    (hports : ∀ p, s.contains p = true ↔ ∃ r ∈ rs, r.first ≤ p ∧ p ≤ r.last) : s.runs = rs := by
  have hflat : s.ports = rs.flatMap Run.ports := by
    refine ports_eq h.pairwise_ports fun p => ?_
    simp only [hports, List.mem_flatMap, Run.mem_ports_iff]
  rw [runs_eq_runsOf, hflat, runsOf_flatMap_ports h]

theorem runs_eq_nil_iff : s.runs = [] ↔ ∀ p, s.contains p = false := by
  constructor
  · intro h p
    rw [← Bool.not_eq_true, mem_runs_iff, h]
    exact nofun
  · intro h
    exact runs_eq ⟨nofun, .nil⟩ fun p => by simp [h p]

/-! ## Listings -/

/-- An item of a listing: a port, or the two ends of a longer run. -/
inductive IsItem : String → Run → Prop
  | port (p : Nat) : IsItem (toString p) ⟨p, p⟩
  | range {a b : Nat} (h : a < b) : IsItem (toString a ++ "-" ++ toString b) ⟨a, b⟩

theorem isItem_iff {item : String} : IsItem item r ↔ r.first ≤ r.last ∧ item = r.text := by
  constructor
  · rintro (p | h)
    · exact ⟨le_rfl, (if_pos rfl).symm⟩
    · exact ⟨h.le, (if_neg h.ne).symm⟩
  · obtain ⟨first, last⟩ := r
    rintro ⟨hle, rfl⟩
    obtain heq | hlt := Nat.eq_or_lt_of_le hle
    · cases heq
      rw [Run.text, if_pos rfl]
      exact .port first
    · rw [Run.text, if_neg hlt.ne]
      exact .range hlt

/-- A listing of a set: `none` if it has no members; else items between commas, ascending and with
a port missing between any two of them, which together have exactly the members. -/
inductive Lists (s : PortSet) : String → Prop
  | none (h : ∀ p, s.contains p = false) : s.Lists "none"
  | items {items : List String} {rs : List Run} (hne : items ≠ [])
      (hitems : List.Forall₂ IsItem items rs)
      (gaps : rs.Pairwise fun r r' => r.last + 1 < r'.first)
      (hports : ∀ p, s.contains p = true ↔ ∃ r ∈ rs, r.first ≤ p ∧ p ≤ r.last) :
      s.Lists (",".intercalate items)

/-- The items of runs are their texts. -/
theorem forall₂_isItem_iff {items : List String} :
    List.Forall₂ IsItem items rs ↔ (∀ r ∈ rs, r.first ≤ r.last) ∧ items = rs.map Run.text := by
  induction rs generalizing items with
  | nil => simp
  | cons r rs ih =>
    simp only [List.forall₂_cons_right_iff, isItem_iff]
    rw [List.forall_mem_cons, List.map_cons]
    constructor
    · rintro ⟨_, items, ⟨hr, rfl⟩, hitems, rfl⟩
      obtain ⟨hrs, rfl⟩ := ih.1 hitems
      exact ⟨⟨hr, hrs⟩, rfl⟩
    · rintro ⟨⟨hr, hrs⟩, rfl⟩
      exact ⟨_, _, ⟨hr, rfl⟩, ih.2 ⟨hrs, rfl⟩, rfl⟩

theorem text_of_runs_nil (h : s.runs = []) : s.text = "none" :=
  if_pos (isEmpty_iff.2 (runs_eq_nil_iff.1 h))

theorem text_of_runs_ne (h : s.runs ≠ []) : s.text = ",".intercalate (s.runs.map Run.text) :=
  if_neg fun hempty => h (runs_eq_nil_iff.2 (isEmpty_iff.1 hempty))

/-- **The text of a set is its only listing.** -/
theorem lists_iff {text : String} : s.Lists text ↔ text = s.text := by
  constructor
  · rintro (h | ⟨hne, hitems, gaps, hports⟩)
    · exact (text_of_runs_nil (runs_eq_nil_iff.2 h)).symm
    · obtain ⟨ends, rfl⟩ := forall₂_isItem_iff.1 hitems
      have hruns := runs_eq ⟨ends, gaps⟩ hports
      subst hruns
      exact (text_of_runs_ne (by simpa using hne)).symm
  · rintro rfl
    by_cases h : s.runs = []
    · rw [text_of_runs_nil h]
      exact .none (runs_eq_nil_iff.1 h)
    · rw [text_of_runs_ne h]
      exact .items (by simpa using h) (forall₂_isItem_iff.2 ⟨s.apart_runs.ends, rfl⟩)
        s.apart_runs.gaps fun p => mem_runs_iff

/-! ## Reading a listing -/

/-- The number that digits stand for. -/
def number (digits : List Char) : Nat :=
  Nat.ofDigitChars 10 digits 0

/-- The run that an item stands for. -/
def Run.ofText (item : List Char) : Run :=
  match item.splitOn '-' with
  | [a, b] => ⟨number a, number b⟩
  | _ => ⟨number item, number item⟩

theorem number_toString (n : Nat) : number (toString n).toList = n :=
  Text.ofDigitChars_natDecimal n

/-- The set that a listing stands for. -/
def ofText (text : String) : PortSet :=
  if text = "none" then empty
  else ofList ((text.toList.splitOn ',').flatMap fun item => (Run.ofText item).ports)

theorem toList_text (r : Run) : r.text.toList =
    if r.first = r.last then (toString r.first).toList
    else (toString r.first).toList ++ '-' :: (toString r.last).toList := by
  rw [Run.text]
  split_ifs
  · rfl
  · simp

/-- The characters of an item are digits and the dash. -/
theorem mem_toList_text {c : Char} (h : c ∈ r.text.toList) : c.isDigit = true ∨ c = '-' := by
  rw [toList_text] at h
  split_ifs at h
  · exact .inl (Text.isDigit_of_mem_natDecimal h)
  · rw [List.mem_append, List.mem_cons] at h
    obtain h | rfl | h := h
    · exact .inl (Text.isDigit_of_mem_natDecimal h)
    · exact .inr rfl
    · exact .inl (Text.isDigit_of_mem_natDecimal h)

theorem not_mem_toList_text {c : Char} (hdigit : c.isDigit = false) (hdash : c ≠ '-') :
    c ∉ r.text.toList := by
  intro h
  obtain hc | hc := mem_toList_text h
  · rw [hdigit] at hc
    cases hc
  · exact hdash hc

/-- **An item stands for its run.** -/
theorem Run.ofText_text (r : Run) : Run.ofText r.text.toList = r := by
  obtain ⟨first, last⟩ := r
  have hdash : ∀ n : Nat, '-' ∉ (toString n).toList := fun n h =>
    absurd (Text.isDigit_of_mem_natDecimal h) (by decide)
  rw [Run.ofText, toList_text]
  dsimp only
  split_ifs with hsame
  · subst hsame
    rw [List.splitOn_eq_singleton (hdash first), number_toString]
  · rw [List.splitOn_append_cons_self_of_not_mem (hdash first),
      List.splitOn_eq_singleton (hdash last)]
    exact congrArg₂ Run.mk (number_toString first) (number_toString last)

/-- The items of a listing are found again. -/
theorem splitOn_items (h : rs ≠ []) :
    (",".intercalate (rs.map Run.text)).toList.splitOn ',' =
      rs.map fun r => r.text.toList := by
  have hcomma : ∀ item ∈ (rs.map Run.text).map String.toList, ',' ∉ item := by
    intro item hitem
    simp only [List.map_map, List.mem_map] at hitem
    obtain ⟨r, -, rfl⟩ := hitem
    exact not_mem_toList_text (by decide) (by decide)
  rw [String.toList_intercalate, show ",".toList = [','] from rfl,
    List.splitOn_intercalate ',' hcomma (by simpa using h), List.map_map]
  rfl

/-- Items are no empty listing: it has letters. -/
theorem items_ne_none (h : rs ≠ []) : ",".intercalate (rs.map Run.text) ≠ "none" := by
  intro hnone
  have hitems := splitOn_items h
  rw [hnone, show "none".toList.splitOn ',' = ["none".toList] by decide] at hitems
  obtain ⟨r, -, hr⟩ := List.mem_map.1 (hitems ▸ List.mem_singleton_self "none".toList)
  have hmem : 'n' ∈ r.text.toList := by
    rw [hr]
    decide
  exact not_mem_toList_text (by decide) (by decide) hmem

/-- **Reading the text of a set gives the set.** -/
theorem ofText_text (s : PortSet) : ofText s.text = s := by
  by_cases h : s.runs = []
  · rw [text_of_runs_nil h, ofText, if_pos rfl]
    exact ext_contains fun p => (contains_empty p).trans (runs_eq_nil_iff.1 h p).symm
  · have hports : ∀ r : Run, (Run.ofText r.text.toList).ports = r.ports := fun r => by
      rw [Run.ofText_text]
    rw [text_of_runs_ne h, ofText, if_neg (items_ne_none h), splitOn_items h, List.flatMap_map]
    simp only [hports]
    rw [flatMap_ports_runs, ofList_ports]

/-- A text that stands for one set only, and that is the only text for it. -/
structure Denotes (text : String) (s : PortSet) : Prop where
  /-- The set has this listing and no other one. -/
  listing : ∀ t, s.Lists t ↔ t = text
  read : ofText text = s
  /-- No other set has this text. -/
  only : ∀ s' : PortSet, s'.text = text ↔ s' = s

/-- **The text of a set is its listing, and tells it from every other set.** -/
theorem text_canonical (s : PortSet) : Denotes s.text s := by
  refine ⟨fun t => lists_iff, ofText_text s, fun s' => ⟨fun h => ?_, fun h => h ▸ rfl⟩⟩
  rw [← ofText_text s', h, ofText_text s]

/-- Runs across words, and one that ends with the last port. -/
example : (ofList [130, 65, 64, 3, 2, 63, 0, 1, 8]).text = "0-3,8,63-65,130" := by decide +kernel

end SwitchPlatform.PortSet
