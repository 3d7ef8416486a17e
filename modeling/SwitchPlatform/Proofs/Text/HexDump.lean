import SwitchPlatform.Proofs.Text.Hex
import SwitchPlatform.Text.HexDump

/-!
# Dumps are lossless

A dump has a line for every sixteen bytes, the last of which may be short (`isDump_text`). A line is
the offset in hexadecimal, a column of three characters for each byte, blanks in place of the
columns that are missing, and the bytes as characters (`IsLine`). The characters do not tell the
bytes, but the columns do: they are found behind the first colon, and the blanks hold no digits
(`lineBytes_of_isLine`). So reading the columns of all lines gives the bytes (`IsDump.read`), and
different bytes have different dumps (`text_lossless`).
-/

namespace SwitchPlatform.Text.HexDump

variable {offset : Nat} {bs : List UInt8} {cs : List Char}

/-! ## Lines -/

/-- The column of a byte: a blank and two digits. -/
def IsColumn (column : List Char) (b : UInt8) : Prop :=
  ∃ hi lo, column = [' ', hi, lo] ∧ IsNatural 16 [hi, lo] b.toNat

/-- The character of a byte: itself if it is printable ASCII, else a dot. -/
def IsShown (c : Char) (b : UInt8) : Prop :=
  if 0x20 ≤ b.toNat ∧ b.toNat ≤ 0x7E then c.toNat = b.toNat else c = '.'

/-- The line of some bytes at an offset, which has at least four digits and no more than it
needs. -/
inductive IsLine (offset : Nat) (bs : List UInt8) : List Char → Prop
  | intro (digits shown : List Char) (columns : List (List Char))
      (hdigits : IsNatural 16 digits offset)
      (hlength : digits.length = max 4 (Nat.toDigits 16 offset).length)
      (hcolumns : List.Forall₂ IsColumn columns bs)
      (hshown : List.Forall₂ IsShown shown bs) :
      IsLine offset bs
        (digits ++ ':' :: columns.flatten ++ List.replicate (3 * (16 - bs.length)) ' ' ++
          [' ', ' '] ++ shown)

theorem isColumn_hexByte (b : UInt8) : IsColumn (' ' :: (hexByte b).toList) b := by
  obtain ⟨hi, lo, hb⟩ := exists_hexByte b
  refine ⟨hi, lo, by rw [hb], ?_⟩
  rw [← hb, hexByte]
  exact isNatural_hex 2 b.toNat

theorem isShown_glyph (b : UInt8) : IsShown (glyph b) b := by
  have hrange : (0x20 ≤ b ∧ b ≤ 0x7E) ↔ 0x20 ≤ b.toNat ∧ b.toNat ≤ 0x7E := by
    simp [UInt8.le_iff_toNat_le]
  rw [IsShown, glyph]
  simp only [hrange]
  split_ifs with h
  · rw [Char.ofNat, dif_pos (.inl (by omega))]
    rfl
  · rfl

/-- A line without its end. -/
def openLine (offset : Nat) (bs : List UInt8) : String :=
  hex 4 offset ++ ":" ++
    String.join (bs.map fun b => " " ++ hexByte b) ++
    String.join (List.replicate (width - bs.length) "   ") ++
    "  " ++ String.ofList (bs.map glyph)

theorem line_eq (offset : Nat) (bs : List UInt8) : line offset bs = openLine offset bs ++ "\n" :=
  rfl

theorem toList_columns (bs : List UInt8) :
    (String.join (bs.map fun b => " " ++ hexByte b)).toList =
      (bs.map fun b => ' ' :: (hexByte b).toList).flatten := by
  simp [String.toList_join, List.flatMap_def, Function.comp_def]

theorem toList_blanks (n : Nat) :
    (String.join (List.replicate n "   ")).toList = List.replicate (3 * n) ' ' := by
  rw [String.toList_join, List.flatMap_def, List.map_replicate,
    show "   ".toList = List.replicate 3 ' ' from rfl, List.flatten_replicate_replicate,
    Nat.mul_comm]

theorem isLine_openLine (offset : Nat) (bs : List UInt8) :
    IsLine offset bs (openLine offset bs).toList := by
  have hcolumns : List.Forall₂ IsColumn (bs.map fun b => ' ' :: (hexByte b).toList) bs :=
    List.forall₂_map_left_iff.2 (List.forall₂_same.2 fun b _ => isColumn_hexByte b)
  have hshown : List.Forall₂ IsShown (bs.map glyph) bs :=
    List.forall₂_map_left_iff.2 (List.forall₂_same.2 fun b _ => isShown_glyph b)
  have hline := IsLine.intro _ _ _ (isNatural_hex 4 offset) (length_hex 4 offset) hcolumns hshown
  have hcolon : ":".toList = [':'] := rfl
  have hblanks : "  ".toList = [' ', ' '] := rfl
  simpa only [openLine, width, String.toList_append, toList_columns, toList_blanks, hcolon, hblanks,
    String.toList_ofList, List.append_assoc, List.cons_append, List.nil_append] using hline

/-- **A line does not break.** -/
theorem IsLine.newline_not_mem (h : IsLine offset bs cs) : '\n' ∉ cs := by
  obtain ⟨digits, shown, columns, hdigits, -, hcolumns, hshown⟩ := h
  have hcolumn : ∀ column b, IsColumn column b → '\n' ∉ column ∧ IsColumn column b := by
    rintro _ b ⟨hi, lo, rfl, hb⟩
    have hdigits := hb.not_mem (by decide) (show digit? 16 '\n' = none from rfl)
    exact ⟨List.not_mem_cons_of_ne_of_not_mem (by decide) hdigits, hi, lo, rfl, hb⟩
  have hchar : ∀ c b, IsShown c b → c ≠ '\n' ∧ IsShown c b := by
    refine fun c b h => ⟨?_, h⟩
    rintro rfl
    rw [IsShown] at h
    split_ifs at h with hb
    · exact absurd (h ▸ hb.1) (by decide)
    · cases h
  have hcolumns := ((List.forall₂_and_left _ _).1 (hcolumns.imp hcolumn)).1
  have hshown := ((List.forall₂_and_left _ _).1 (hshown.imp hchar)).1
  have hflat : '\n' ∉ columns.flatten := fun hmem => by
    obtain ⟨column, hcolumn, hmem⟩ := List.mem_flatten.1 hmem
    exact hcolumns column hcolumn hmem
  have hblanks : '\n' ∉ List.replicate (3 * (16 - bs.length)) ' ' := fun hmem =>
    absurd (List.eq_of_mem_replicate hmem) (by decide)
  simp only [List.mem_append, List.mem_cons, List.not_mem_nil, or_false, not_or]
  exact ⟨⟨⟨⟨hdigits.not_mem (by decide) rfl, by decide, hflat⟩, hblanks⟩, by decide, by decide⟩,
    fun hmem => hshown _ hmem rfl⟩

/-! ## Reading -/

/-- The bytes of columns of three characters; a column without two digits has none. -/
def columnBytes : List Char → List UInt8
  | _ :: hi :: lo :: cs =>
    match digit? 16 hi, digit? 16 lo with
    | some h, some l => UInt8.ofNat (16 * h + l) :: columnBytes cs
    | _, _ => columnBytes cs
  | _ => []

/-- The bytes of a line: sixteen columns behind the first colon. -/
def lineBytes (line : List Char) : List UInt8 :=
  columnBytes (((line.dropWhile (· != ':')).drop 1).take (3 * 16))

/-- The bytes of all lines. -/
def bytes (dump : String) : List UInt8 :=
  (dump.toList.splitOn '\n').flatMap lineBytes

theorem columnBytes_columns {columns : List (List Char)} (h : List.Forall₂ IsColumn columns bs)
    (cs : List Char) : columnBytes (columns.flatten ++ cs) = bs ++ columnBytes cs := by
  induction h with
  | nil => rfl
  | @cons column b columns bs hcolumn _ ih =>
    obtain ⟨hi, lo, rfl, hb⟩ := hcolumn
    obtain ⟨h, l, hh, hl, hb⟩ := isNatural_pair_iff.1 hb
    rw [← digit?_eq_some_iff (by decide)] at hh hl
    simp only [List.flatten_cons, List.cons_append, List.nil_append, columnBytes, hh, hl, ih, hb,
      UInt8.ofNat_toNat]

/-- Blanks hold no bytes. -/
theorem columnBytes_blanks (n : Nat) : columnBytes (List.replicate (3 * n) ' ') = [] := by
  induction n with
  | zero => rfl
  | succ n ih => exact ih

theorem length_columns {columns : List (List Char)} (h : List.Forall₂ IsColumn columns bs) :
    columns.flatten.length = 3 * bs.length := by
  induction h with
  | nil => rfl
  | cons hcolumn _ ih =>
    obtain ⟨hi, lo, rfl, -⟩ := hcolumn
    rw [List.flatten_cons, List.length_append, ih, List.length_cons]
    simp only [List.length_cons, List.length_nil]
    omega

/-- **The columns of a line tell its bytes**, also if the characters behind them look like
columns. -/
theorem lineBytes_of_isLine (h : IsLine offset bs cs) (hbs : bs.length ≤ 16) :
    lineBytes cs = bs := by
  obtain ⟨digits, shown, columns, hdigits, -, hcolumns, -⟩ := h
  have hcolon : ∀ c ∈ digits, (c != ':') = true := by
    intro c hc
    rw [bne_iff_ne]
    rintro rfl
    exact hdigits.not_mem (by decide) rfl hc
  have hlength :
      (columns.flatten ++ List.replicate (3 * (16 - bs.length)) ' ').length = 3 * 16 := by
    rw [List.length_append, length_columns hcolumns, List.length_replicate]
    omega
  rw [lineBytes]
  simp only [List.append_assoc, List.cons_append]
  rw [List.dropWhile_append_of_pos hcolon, List.dropWhile_cons_of_neg (by simp), List.drop_one,
    List.tail_cons, ← List.append_assoc columns.flatten, List.take_left' hlength,
    columnBytes_columns hcolumns, columnBytes_blanks, List.append_nil]

/-! ## Dumps -/

/-- A text in lines that are a dump of some bytes: one line for every sixteen of them. -/
structure IsDump (bs : List UInt8) (dump : String) (lines : List String) : Prop where
  text : dump = String.join (lines.map (· ++ "\n"))
  unbroken : ∀ line ∈ lines, '\n' ∉ line.toList
  count : lines.length = (bs.length + 15) / 16
  line : ∀ k line, lines[k]? = some line →
    IsLine (16 * k) ((bs.drop (16 * k)).take 16) line.toList

/-- Chunks are taken off as long as there are bytes. -/
theorem linesOf_induction {motive : List UInt8 → List (List UInt8) → Prop} (nil : motive [] [])
    (cons : ∀ bs chunks, 0 < bs.length → motive (bs.drop 16) chunks →
      motive bs (bs.take 16 :: chunks))
    {bound : Nat} (h : bs.length ≤ bound) : motive bs (linesOf bound bs) := by
  induction bound generalizing bs with
  | zero =>
    obtain rfl := List.eq_nil_of_length_eq_zero (Nat.le_zero.1 h)
    exact nil
  | succ bound ih =>
    cases bs with
    | nil => exact nil
    | cons b bs =>
      refine cons (b :: bs) _ (Nat.succ_pos _) (ih ?_)
      rw [List.length_cons] at h
      rw [List.length_drop, List.length_cons]
      omega

theorem length_linesOf {bound : Nat} (h : bs.length ≤ bound) :
    (linesOf bound bs).length = (bs.length + 15) / 16 := by
  refine linesOf_induction (motive := fun bs chunks => chunks.length = (bs.length + 15) / 16)
    rfl (fun bs chunks hpos ih => ?_) h
  rw [List.length_cons, ih, List.length_drop]
  omega

theorem flatten_linesOf {bound : Nat} (h : bs.length ≤ bound) :
    (linesOf bound bs).flatten = bs := by
  refine linesOf_induction (motive := fun bs chunks => chunks.flatten = bs)
    rfl (fun bs chunks _ ih => ?_) h
  rw [List.flatten_cons, ih, List.take_append_drop]

theorem getElem?_linesOf {bound : Nat} (h : bs.length ≤ bound) (k : Nat) :
    (linesOf bound bs)[k]? =
      if 16 * k < bs.length then some ((bs.drop (16 * k)).take 16) else none := by
  refine linesOf_induction (motive := fun bs chunks => ∀ k, chunks[k]? =
    if 16 * k < bs.length then some ((bs.drop (16 * k)).take 16) else none)
    (fun k => by simp) (fun bs chunks hpos ih k => ?_) h k
  cases k with
  | zero => rw [if_pos (by omega), List.getElem?_cons_zero, Nat.mul_zero, List.drop_zero]
  | succ k =>
    have hmore : 16 * k < bs.length - 16 ↔ 16 * (k + 1) < bs.length := by omega
    have hdrop : 16 + 16 * k = 16 * (k + 1) := by omega
    rw [List.getElem?_cons_succ, ih, List.length_drop, List.drop_drop, hdrop]
    simp only [hmore]

/-- The lines of a text are found again. -/
theorem splitOn_lines {lines : List String} (h : ∀ line ∈ lines, '\n' ∉ line.toList) :
    (String.join (lines.map (· ++ "\n"))).toList.splitOn '\n' =
      lines.map String.toList ++ [[]] := by
  induction lines with
  | nil => rfl
  | cons line lines ih =>
    obtain ⟨hline, hlines⟩ := List.forall_mem_cons.1 h
    have hend : "\n".toList = ['\n'] := rfl
    rw [List.map_cons, String.join_cons, String.toList_append, String.toList_append, hend,
      List.append_assoc, List.singleton_append, List.splitOn_append_cons_self_of_not_mem hline,
      ih hlines]
    rfl

/-- **Reading a dump gives its bytes.** -/
theorem IsDump.read {dump : String} {lines : List String} (h : IsDump bs dump lines) :
    bytes dump = bs := by
  have hlines : lines.map (fun line => lineBytes line.toList) = linesOf bs.length bs := by
    refine List.ext_getElem? fun k => ?_
    rw [List.getElem?_map]
    cases hline : lines[k]? with
    | none =>
      rw [List.getElem?_eq_none_iff, h.count, ← length_linesOf le_rfl] at hline
      rw [List.getElem?_eq_none hline, Option.map_none]
    | some line =>
      obtain ⟨hk, -⟩ := List.getElem?_eq_some_iff.1 hline
      rw [h.count] at hk
      rw [getElem?_linesOf le_rfl, if_pos (by omega), Option.map_some,
        lineBytes_of_isLine (h.line k line hline) (List.length_take_le 16 _)]
  rw [bytes, h.text, splitOn_lines h.unbroken, List.flatMap_append, List.flatMap_map,
    List.flatMap_def, hlines, flatten_linesOf le_rfl]
  exact List.append_nil bs

/-- The lines of the dump of some bytes, without their ends. -/
def openLines (bs : List UInt8) : List String :=
  (linesOf bs.length bs).zipIdx.map fun (chunk, k) => openLine (width * k) chunk

theorem linesText_eq (k : Nat) (chunks : List (List UInt8)) : linesText (width * k) chunks =
    (chunks.zipIdx k).map fun (chunk, k) => openLine (width * k) chunk ++ "\n" := by
  induction chunks generalizing k with
  | nil => rfl
  | cons chunk chunks ih =>
    rw [linesText, ← Nat.mul_succ, ih, List.zipIdx_cons, List.map_cons, line_eq]

theorem getElem?_openLines (bs : List UInt8) (k : Nat) : (openLines bs)[k]? =
    if 16 * k < bs.length then some (openLine (16 * k) ((bs.drop (16 * k)).take 16)) else none := by
  rw [openLines, List.getElem?_map, List.getElem?_zipIdx, getElem?_linesOf le_rfl]
  split_ifs with hk
  · simp only [Option.map_some, Nat.zero_add, width]
  · rfl

/-- **The text of some bytes is a dump of them.** -/
theorem isDump_text (bs : List UInt8) : IsDump bs (text bs) (openLines bs) where
  text := by
    rw [text, ← Nat.mul_zero width, linesText_eq, openLines, List.map_map]
    rfl
  unbroken line hline := by
    simp only [openLines, List.mem_map] at hline
    obtain ⟨a, -, rfl⟩ := hline
    exact (isLine_openLine _ _).newline_not_mem
  count := by rw [openLines, List.length_map, List.length_zipIdx, length_linesOf le_rfl]
  line k line hline := by
    rw [getElem?_openLines] at hline
    split_ifs at hline
    obtain rfl := Option.some.inj hline
    exact isLine_openLine _ _

/-- **A dump shows the bytes line by line, and loses none of them.** -/
theorem text_lossless (bs : List UInt8) :
    (∃ lines, IsDump bs (text bs) lines) ∧ bytes (text bs) = bs ∧
      ∀ bs', text bs' = text bs ↔ bs' = bs := by
  refine ⟨⟨_, isDump_text bs⟩, (isDump_text bs).read, fun bs' => ⟨fun h => ?_, fun h => h ▸ rfl⟩⟩
  rw [← (isDump_text bs').read, h, (isDump_text bs).read]

/-- Characters that look like columns, and a short last line. -/
example : text "12: 34 56  78 9\t\x00".toUTF8.toList =
    "0000: 31 32 3a 20 33 34 20 35 36 20 20 37 38 20 39 09  12: 34 56  78 9.\n" ++
    "0010: 00                                               .\n" := by
  decide +kernel

end SwitchPlatform.Text.HexDump
