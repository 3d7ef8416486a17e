import Mathlib.Data.List.TakeWhile
import Mathlib.Data.Prod.Lex
import SwitchPlatform.Datum
import SwitchPlatform.Proofs.Text.Hex

/-!
# Ids as words and as texts

The packed word of an id gives back its kind and its number (`kindByte_raw`, `indexBits_raw`), and
no other word is read as the id (`ofRaw_eq_ok_iff`). A text is read as an id if it is the packed
word in hexadecimal or the name of the kind, a dash and the number in decimal; every other text is
refused, and `Reads` lists for what reason.
-/

namespace SwitchPlatform.Oid

open Text

variable {kind : Kind} {index word : Nat} {id : Oid} {e : OidError}

/-! ## Kinds -/

theorem Kind.ofCode?_eq_some_iff {c : Nat} : Kind.ofCode? c = some kind ↔ kind.code = c := by
  constructor
  · intro h
    exact eq_of_beq (List.find?_some (p := fun k : Kind => k.code == c) h)
  · rintro rfl
    exact kind.ofCode?_code

theorem Kind.ofCode?_eq_none_iff {c : Nat} :
    Kind.ofCode? c = none ↔ ∀ kind : Kind, kind.code ≠ c := by
  simp only [Option.eq_none_iff_forall_ne_some, ne_eq, Kind.ofCode?_eq_some_iff]

theorem Kind.ofName?_eq_some_iff {s : String} : Kind.ofName? s = some kind ↔ kind.name = s := by
  constructor
  · intro h
    exact eq_of_beq (List.find?_some (p := fun k : Kind => k.name == s) h)
  · rintro rfl
    cases kind <;> decide

/-! ## Packed words -/

theorem make_eq_ok_iff : make kind index = .ok id ↔ kind = id.kind ∧ index = id.index := by
  constructor
  · intro h
    obtain ⟨hkind, hindex⟩ := make_eq_ok h
    exact ⟨hkind.symm, hindex.symm⟩
  · rintro ⟨rfl, rfl⟩
    exact make_self id

theorem make_eq_error_iff : make kind index = .error e ↔
    (index = 0 ∨ maxIndex < index) ∧ e = .indexOutOfRange index := by
  rw [make]
  split_ifs with h
  · simp only [false_iff]
    omega
  · rw [Except.error.injEq, eq_comm, and_iff_right (by omega)]

theorem kindByte_eq (word : Nat) : kindByte word = word / 2 ^ kindShift :=
  Nat.shiftRight_eq_div_pow word kindShift

theorem indexBits_eq (word : Nat) : indexBits word = word % 2 ^ kindShift :=
  Nat.and_two_pow_sub_one_eq_mod word kindShift

theorem index_lt (id : Oid) : id.index < 2 ^ kindShift :=
  Nat.lt_of_le_of_lt id.index_le (by decide)

theorem raw_eq (id : Oid) : id.raw = id.kind.code * 2 ^ kindShift + id.index := by
  rw [raw, ← Nat.shiftLeft_add_eq_or_of_lt id.index_lt, Nat.shiftLeft_eq]

theorem kindByte_raw (id : Oid) : kindByte id.raw = id.kind.code := by
  rw [kindByte_eq, raw_eq, Nat.mul_comm, Nat.mul_add_div (by decide), Nat.div_eq_of_lt id.index_lt,
    Nat.add_zero]

theorem indexBits_raw (id : Oid) : indexBits id.raw = id.index := by
  rw [indexBits_eq, raw_eq, Nat.mul_comm, Nat.mul_add_mod, Nat.mod_eq_of_lt id.index_lt]

theorem ofRaw_raw (id : Oid) : ofRaw id.raw = .ok id := by
  rw [ofRaw, kindByte_raw, Kind.ofCode?_code, indexBits_raw]
  exact make_self id

theorem word_eq (word : Nat) : word = kindByte word * 2 ^ kindShift + indexBits word := by
  rw [kindByte_eq, indexBits_eq, Nat.mul_comm, Nat.div_add_mod]

/-- **A word is read as the id that it is the packed word of.** -/
theorem ofRaw_eq_ok_iff : ofRaw word = .ok id ↔ word = id.raw := by
  constructor
  · intro h
    rw [ofRaw] at h
    split at h
    · cases h
    · rename_i kind hkind
      obtain ⟨rfl, hindex⟩ := make_eq_ok_iff.1 h
      rw [word_eq word, raw_eq, ← Kind.ofCode?_eq_some_iff.1 hkind, hindex]
  · rintro rfl
    exact ofRaw_raw id

theorem raw_lt (id : Oid) : id.raw < 2 ^ 32 := by
  have hkind := id.kind.code_le
  have hindex := id.index_lt
  rw [raw_eq]
  simp only [kindShift] at *
  omega

/-- Packed words are ordered by the kinds, and within a kind by the numbers. -/
theorem raw_le_iff {a b : Oid} :
    a.raw ≤ b.raw ↔ toLex (a.kind.code, a.index) ≤ toLex (b.kind.code, b.index) := by
  have ha := a.index_lt
  have hb := b.index_lt
  rw [Prod.Lex.toLex_le_toLex, raw_eq, raw_eq]
  simp only [kindShift] at *
  omega

/-! ## Parts of a text -/

theorem hexPart?_eq_some_iff {cs ds : List Char} :
    hexPart? cs = some ds ↔ ∃ x, (x = 'x' ∨ x = 'X') ∧ cs = '0' :: x :: ds := by
  constructor
  · intro h
    unfold hexPart? at h
    split at h
    · cases h
      exact ⟨'x', .inl rfl, rfl⟩
    · cases h
      exact ⟨'X', .inr rfl, rfl⟩
    · cases h
  · rintro ⟨x, rfl | rfl, rfl⟩
    · rfl
    · rfl

/-- A text is taken apart at its last dash. -/
theorem splitLastDash?_append (front : List Char) {back : List Char} (h : '-' ∉ back) :
    splitLastDash? (front ++ '-' :: back) = some (front, back) := by
  have hback : ∀ c ∈ back.reverse, (c != '-') = true := fun c hc =>
    bne_iff_ne.2 fun heq => h (List.mem_reverse.1 (heq ▸ hc))
  have hreverse : (front ++ '-' :: back).reverse = back.reverse ++ '-' :: front.reverse := by simp
  rw [splitLastDash?, hreverse, List.takeWhile_append_of_pos hback,
    List.dropWhile_append_of_pos hback, List.takeWhile_cons_of_neg (by decide),
    List.dropWhile_cons_of_neg (by decide)]
  simp

theorem splitLastDash?_of_not_mem {cs : List Char} (h : '-' ∉ cs) : splitLastDash? cs = none := by
  have hdrop : cs.reverse.dropWhile (· != '-') = [] := by
    rw [List.dropWhile_eq_nil_iff]
    exact fun c hc => bne_iff_ne.2 fun heq => h (List.mem_reverse.1 (heq ▸ hc))
  rw [splitLastDash?, hdrop]

/-- A text has no dash, or it has a last one. -/
theorem dash_cases (cs : List Char) :
    '-' ∉ cs ∨ ∃ front back, '-' ∉ back ∧ cs = front ++ '-' :: back := by
  by_cases h : '-' ∈ cs
  · obtain ⟨back, front, hcs, hback⟩ := List.eq_append_cons_of_mem (List.mem_reverse.2 h)
    refine .inr ⟨front.reverse, back.reverse, fun hc => hback (List.mem_reverse.1 hc), ?_⟩
    rw [← List.reverse_reverse cs, hcs]
    simp
  · exact .inl h

/-- No name of a kind starts with a figure. -/
theorem hexPart?_name (kind : Kind) (ds : List Char) :
    hexPart? (kind.name.toList ++ ds) = none := by
  cases kind <;> rfl

/-! ## Texts of words and of ids -/

/-- A text of a word: its hexadecimal behind `0x` or `0X`. -/
inductive IsPacked : List Char → Nat → Prop
  | intro {x : Char} {ds : List Char} {word : Nat} (hx : x = 'x' ∨ x = 'X')
      (h : IsUnsigned 16 ds word) (hle : word ≤ maxWord) : IsPacked ('0' :: x :: ds) word

/-- A text of a kind and a number: the name of the kind, a dash and the decimal of the number. -/
inductive IsNamed : List Char → Kind → Nat → Prop
  | intro {kind : Kind} {ds : List Char} {index : Nat} (h : IsUnsigned 10 ds index)
      (hle : index ≤ maxWord) : IsNamed (kind.name.toList ++ '-' :: ds) kind index

theorem dash_not_mem {radix n : Nat} (hradix : radix ≤ 16) {ds : List Char}
    (h : IsUnsigned radix ds n) : '-' ∉ ds := by
  cases h with
  | plain h => exact h.not_mem hradix rfl
  | plus h => exact List.not_mem_cons_of_ne_of_not_mem (by decide) (h.not_mem hradix rfl)

theorem ofTrimmed_of_isPacked {cs : List Char} (h : IsPacked cs word) :
    ofTrimmed cs = ofRaw word := by
  obtain ⟨hx, h, hle⟩ := h
  have hword := (word?_eq_some_iff (by decide) (by decide)).2 ⟨h, hle⟩
  simp only [ofTrimmed, hexPart?_eq_some_iff.2 ⟨_, hx, rfl⟩, hword]

theorem ofTrimmed_of_isNamed {cs : List Char} (h : IsNamed cs kind index) :
    ofTrimmed cs = make kind index := by
  obtain ⟨h, hle⟩ := h
  have hindex := (word?_eq_some_iff (by decide) (by decide)).2 ⟨h, hle⟩
  have hsplit := splitLastDash?_append kind.name.toList (dash_not_mem (by decide) h)
  have hkind : Kind.ofName? (String.ofList kind.name.toList) = some kind := by
    rw [String.ofList_toList, Kind.ofName?_eq_some_iff]
  simp only [ofTrimmed, hexPart?_name, hsplit, hkind, hindex]

/-- **Every other text is refused as a whole.** -/
theorem ofTrimmed_of_neither {cs : List Char} (hpacked : ∀ word, ¬IsPacked cs word)
    (hnamed : ∀ kind index, ¬IsNamed cs kind index) :
    ofTrimmed cs = .error (.malformed (String.ofList cs)) := by
  unfold ofTrimmed
  split
  · rename_i ds hds
    obtain ⟨x, hx, rfl⟩ := hexPart?_eq_some_iff.1 hds
    split
    · rename_i word hword
      obtain ⟨h, hle⟩ := (word?_eq_some_iff (by decide) (by decide)).1 hword
      exact absurd (.intro hx h hle) (hpacked word)
    · rfl
  · obtain hdash | ⟨front, back, hback, rfl⟩ := dash_cases cs
    · rw [splitLastDash?_of_not_mem hdash]
    · rw [splitLastDash?_append front hback]
      dsimp only
      split
      · rename_i kind index hkind hindex
        obtain ⟨h, hle⟩ := (word?_eq_some_iff (by decide) (by decide)).1 hindex
        have hnamed' : IsNamed (kind.name.toList ++ '-' :: back) kind index := .intro h hle
        rw [Kind.ofName?_eq_some_iff.1 hkind, String.toList_ofList] at hnamed'
        exact absurd hnamed' (hnamed kind index)
      · rfl

/-! ## What a text is read as -/

/-- What a text without blanks around it is read as. -/
inductive Reads (cs : List Char) : Except OidError Oid → Prop
  /-- The packed word of an id. -/
  | packed {id : Oid} (h : IsPacked cs id.raw) : Reads cs (.ok id)
  /-- The kind and the number of an id. -/
  | named {id : Oid} (h : IsNamed cs id.kind id.index) : Reads cs (.ok id)
  /-- A word whose top byte names no kind. -/
  | unknownKind {word : Nat} (h : IsPacked cs word)
      (hkind : ∀ kind : Kind, kind.code ≠ kindByte word) :
      Reads cs (.error (.unknownKind (kindByte word)))
  /-- A word with a kind and no number. -/
  | noIndex {word : Nat} {kind : Kind} (h : IsPacked cs word) (hkind : kind.code = kindByte word)
      (hindex : indexBits word = 0) : Reads cs (.error (.indexOutOfRange 0))
  /-- A kind with no number, or with one that is too large. -/
  | outOfRange {kind : Kind} {index : Nat} (h : IsNamed cs kind index)
      (hindex : index = 0 ∨ maxIndex < index) : Reads cs (.error (.indexOutOfRange index))
  /-- Neither a word nor a kind and a number. -/
  | malformed (hpacked : ∀ word, ¬IsPacked cs word)
      (hnamed : ∀ kind index, ¬IsNamed cs kind index) :
      Reads cs (.error (.malformed (String.ofList cs)))

theorem indexBits_le (word : Nat) : indexBits word ≤ maxIndex :=
  Nat.and_le_right

theorem reads_ofRaw {cs : List Char} (h : IsPacked cs word) : Reads cs (ofRaw word) := by
  rw [ofRaw]
  split
  · rename_i hkind
    exact .unknownKind h (Kind.ofCode?_eq_none_iff.1 hkind)
  · rename_i kind hkind
    cases hmake : make kind (indexBits word) with
    | ok id =>
      have hword : word = id.raw := ofRaw_eq_ok_iff.1 (by rw [ofRaw, hkind]; exact hmake)
      exact .packed (hword ▸ h)
    | error e =>
      obtain ⟨hindex, rfl⟩ := make_eq_error_iff.1 hmake
      have hzero := hindex.resolve_right (Nat.not_lt.2 (indexBits_le word))
      rw [hzero]
      exact .noIndex h (Kind.ofCode?_eq_some_iff.1 hkind) hzero

theorem reads_make {cs : List Char} (h : IsNamed cs kind index) : Reads cs (make kind index) := by
  cases hmake : make kind index with
  | ok id =>
    obtain ⟨rfl, rfl⟩ := make_eq_ok_iff.1 hmake
    exact .named h
  | error e =>
    obtain ⟨hindex, rfl⟩ := make_eq_error_iff.1 hmake
    exact .outOfRange h hindex

theorem reads_ofTrimmed (cs : List Char) : Reads cs (ofTrimmed cs) := by
  by_cases hpacked : ∃ word, IsPacked cs word
  · obtain ⟨word, h⟩ := hpacked
    rw [ofTrimmed_of_isPacked h]
    exact reads_ofRaw h
  · by_cases hnamed : ∃ kind index, IsNamed cs kind index
    · obtain ⟨kind, index, h⟩ := hnamed
      rw [ofTrimmed_of_isNamed h]
      exact reads_make h
    · have hp : ∀ word, ¬IsPacked cs word := fun word h => hpacked ⟨word, h⟩
      have hn : ∀ kind index, ¬IsNamed cs kind index := fun kind index h => hnamed ⟨kind, index, h⟩
      rw [ofTrimmed_of_neither hp hn]
      exact .malformed hp hn

/-- **A text is read in one way**, and that is how it is read. -/
theorem ofTrimmed_eq_iff {cs : List Char} {r : Except OidError Oid} :
    ofTrimmed cs = r ↔ Reads cs r := by
  constructor
  · rintro rfl
    exact reads_ofTrimmed cs
  · intro h
    cases h with
    | packed h => rw [ofTrimmed_of_isPacked h, ofRaw_raw]
    | named h => rw [ofTrimmed_of_isNamed h, make_self]
    | unknownKind h hkind => rw [ofTrimmed_of_isPacked h, ofRaw, Kind.ofCode?_eq_none_iff.2 hkind]
    | noIndex h hkind hindex =>
      rw [ofTrimmed_of_isPacked h, ofRaw, Kind.ofCode?_eq_some_iff.2 hkind, hindex]
      rfl
    | outOfRange h hindex => rw [ofTrimmed_of_isNamed h, make_eq_error_iff.2 ⟨hindex, rfl⟩]
    | malformed hpacked hnamed => exact ofTrimmed_of_neither hpacked hnamed

theorem ofTrimmed_eq_ok_iff {cs : List Char} :
    ofTrimmed cs = .ok id ↔ IsPacked cs id.raw ∨ IsNamed cs id.kind id.index := by
  rw [ofTrimmed_eq_iff]
  constructor
  · intro h
    cases h with
    | packed h => exact .inl h
    | named h => exact .inr h
  · rintro (h | h)
    · exact .packed h
    · exact .named h

/-- **The grammar of ids.** A text, the blanks around it aside, is read as an id if it is the packed
word or the kind and the number of the id; every other text is refused for the reason that `Reads`
gives. A stored id is read as its text. -/
theorem parse_grammar (s : String) :
    (∀ id, parse s = .ok id ↔
      IsPacked (trimChars s.toList) id.raw ∨ IsNamed (trimChars s.toList) id.kind id.index) ∧
    (∀ r, parse s = r ↔ Reads (trimChars s.toList) r) ∧
    (Datum.text s).id = (parse s).mapError .badId :=
  ⟨fun _ => ofTrimmed_eq_ok_iff, fun _ => ofTrimmed_eq_iff, rfl⟩

/-! ## Texts of an id -/

theorem raw_le_maxWord (id : Oid) : id.raw ≤ maxWord :=
  Nat.le_of_lt_succ id.raw_lt

theorem index_le_maxWord (id : Oid) : id.index ≤ maxWord :=
  id.index_le.trans (by decide)

/-- The packed word is read in hexadecimal of any width. -/
theorem parse_hex {x : Char} (hx : x = 'x' ∨ x = 'X') (width : Nat) {s : String}
    (htext : s.toList = '0' :: x :: (hex width id.raw).toList) : parse s = .ok id := by
  have hdigits := isNatural_hex width id.raw
  have htrim : trimChars (['0', x] ++ (hex width id.raw).toList) = _ :=
    hdigits.trimChars_append (by decide) (by simp) fun c hc => by
      obtain rfl : '0' = c := Option.some.inj hc
      decide
  rw [List.cons_append, List.singleton_append] at htrim
  rw [parse, htext, htrim]
  exact ofTrimmed_eq_ok_iff.2 (.inl (.intro hx (.plain hdigits) id.raw_le_maxWord))

theorem not_isBlank_of_mem_name {c : Char} (h : c ∈ kind.name.toList) : isBlank c = false := by
  have hname : kind.name.toList.all fun c => !isBlank c := by cases kind <;> decide
  have hc := List.all_eq_true.1 hname c h
  rwa [Bool.not_eq_true'] at hc

theorem toList_text (id : Oid) :
    id.text.toList = id.kind.name.toList ++ '-' :: Nat.toDigits 10 id.index := by
  simp [text]

theorem parse_text (id : Oid) : parse id.text = .ok id := by
  have hdigits : IsNatural 10 (Nat.toDigits 10 id.index) id.index :=
    isNatural_toDigits (by decide) id.index
  have htrim : trimChars (id.kind.name.toList ++ '-' :: Nat.toDigits 10 id.index) =
      id.kind.name.toList ++ '-' :: Nat.toDigits 10 id.index := by
    rw [List.append_cons]
    refine hdigits.trimChars_append (by decide) (by simp) fun c hc => ?_
    obtain hname | hdash := List.mem_append.1 (List.mem_of_head? hc)
    · exact not_isBlank_of_mem_name hname
    · rw [List.mem_singleton.1 hdash]
      decide
  rw [parse, toList_text, htrim]
  exact ofTrimmed_eq_ok_iff.2 (.inr (.intro (.plain hdigits) id.index_le_maxWord))

/-! ## Ids in short -/

/-- An id is known by its word, by its kind and number, and by its texts. -/
structure Faithful (id : Oid) : Prop where
  /-- The top byte names the kind. -/
  kind : Kind.ofCode? (kindByte id.raw) = some id.kind
  /-- The bits below are the number. -/
  index : indexBits id.raw = id.index
  index_range : 1 ≤ id.index ∧ id.index ≤ maxIndex
  raw_lt : id.raw < 2 ^ 32
  make_iff : ∀ kind index, make kind index = .ok id ↔ kind = id.kind ∧ index = id.index
  ofRaw_iff : ∀ word, ofRaw word = .ok id ↔ word = id.raw
  parse_text : parse id.text = .ok id
  parse_hex : ∀ width, parse ("0x" ++ hex width id.raw) = .ok id ∧
    parse ("0X" ++ hex width id.raw) = .ok id
  stored : (Datum.text id.text).id = .ok id
  raw_le_iff : ∀ other : Oid, id.raw ≤ other.raw ↔
    toLex (id.kind.code, id.index) ≤ toLex (other.kind.code, other.index)

theorem faithful (id : Oid) : id.Faithful where
  kind := by rw [kindByte_raw, Kind.ofCode?_code]
  index := indexBits_raw id
  index_range := ⟨id.index_pos, id.index_le⟩
  raw_lt := raw_lt id
  make_iff _ _ := make_eq_ok_iff
  ofRaw_iff _ := ofRaw_eq_ok_iff
  parse_text := parse_text id
  parse_hex width := ⟨parse_hex (.inl rfl) width (by simp), parse_hex (.inr rfl) width (by simp)⟩
  stored := by
    rw [Datum.id, parse_text]
    rfl
  raw_le_iff _ := raw_le_iff

/-- **Ids are faithful**: every id is known by its word, its kind and number, and its texts; a kind
and a number make an id exactly if the number is in range; and ids are sorted by kind and number. -/
theorem ids_faithful :
    (∀ id : Oid, id.Faithful) ∧
    (∀ kind index, (∃ id, make kind index = .ok id) ↔ 1 ≤ index ∧ index ≤ maxIndex) ∧
    (∀ kind index e, make kind index = .error e ↔
      ¬(1 ≤ index ∧ index ≤ maxIndex) ∧ e = .indexOutOfRange index) ∧
    ∀ ids, (sort ids).Perm ids ∧ (sort ids).Pairwise fun a b =>
      toLex (a.kind.code, a.index) ≤ toLex (b.kind.code, b.index) := by
  refine ⟨faithful, fun kind index => ?_, fun kind index e => ?_, fun ids => ⟨?_, ?_⟩⟩
  · constructor
    · rintro ⟨id, h⟩
      obtain ⟨-, rfl⟩ := make_eq_ok_iff.1 h
      exact ⟨id.index_pos, id.index_le⟩
    · rintro ⟨hpos, hle⟩
      exact ⟨⟨kind, index, hpos, hle⟩, make_eq_ok_iff.2 ⟨rfl, rfl⟩⟩
  · rw [make_eq_error_iff]
    exact and_congr_left fun _ => by omega
  · exact List.mergeSort_perm ids _
  · have hsorted : (sort ids).Pairwise fun a b => decide (a.raw ≤ b.raw) = true :=
      List.pairwise_mergeSort
        (fun a b c hab hbc => by simp only [decide_eq_true_eq] at *; omega)
        (fun a b => by simp only [Bool.or_eq_true, decide_eq_true_eq]; omega) ids
    exact hsorted.imp fun h => raw_le_iff.1 (of_decide_eq_true h)

end SwitchPlatform.Oid
