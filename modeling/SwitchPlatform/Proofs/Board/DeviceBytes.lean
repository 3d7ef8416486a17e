import SwitchPlatform.Proofs.Board.ModuleViews

/-!
# Bytes of the modules

A device on the bus of a port is a file (`Board.Holds`). Its bytes are read and written one by one,
and a page of them is read at once; each way goes its own way through the file. `readByte_of_holds`
says what a byte reads as, in terms of the bytes of the device, and `readPage_eq_ok` which bytes
make up a page. What one way has written the others read: `Board.moduleBytes`.
-/

namespace SwitchPlatform

open SwitchPlatform.Action

/-! ## Bytes of a file -/

namespace FileTree

/-- What a byte written at an offset makes of the bytes of a file: it lies there, the others stay,
and zeros fill the gap if it is behind the end. -/
structure ByteWritten (offset : Nat) (value : UInt8) (bs bs' : List UInt8) : Prop where
  length : bs'.length = max bs.length (offset + 1)
  here : bs'[offset]? = some value
  others : ∀ i < bs.length, i ≠ offset → bs'[i]? = bs[i]?
  gap : ∀ i, bs.length ≤ i → i < offset → bs'[i]? = some 0

theorem byteWritten_overwrite (offset : Nat) (value : UInt8) (bs : List UInt8) :
    ByteWritten offset value bs (overwrite bs offset [value]) := by
  have hwritten : overwrite bs offset [value] =
      (bs.take offset ++ List.replicate (offset - bs.length) 0) ++
        value :: bs.drop (offset + 1) := by
    rw [overwrite, if_neg (List.cons_ne_nil _ _), List.append_assoc _ [value]]
    rfl
  have hfront : (bs.take offset ++ List.replicate (offset - bs.length) (0 : UInt8)).length =
      offset := by
    rw [List.length_append, List.length_take, List.length_replicate]
    omega
  rw [hwritten]
  refine ⟨?_, ?_, fun i hi hne => ?_, fun i hi hlt => ?_⟩
  · rw [List.length_append, hfront, List.length_cons, List.length_drop]
    omega
  · rw [List.getElem?_append_right hfront.le, hfront, Nat.sub_self, List.getElem?_cons_zero]
  · rcases Nat.lt_or_gt_of_ne hne with hlt | hgt
    · have htake : i < (bs.take offset).length := by
        rw [List.length_take]
        omega
      rw [List.getElem?_append_left (hlt.trans_eq hfront.symm), List.getElem?_append_left htake,
        List.getElem?_take_of_lt hlt]
    · obtain ⟨k, rfl⟩ : ∃ k, i = offset + (k + 1) := ⟨i - offset - 1, by omega⟩
      rw [List.getElem?_append_right (by omega), hfront, Nat.add_sub_cancel_left,
        List.getElem?_cons_succ, List.getElem?_drop]
      congr 1
      omega
  · have htake : (bs.take offset).length = bs.length := by
      rw [List.length_take]
      omega
    rw [List.getElem?_append_left (hlt.trans_eq hfront.symm),
      List.getElem?_append_right (htake.trans_le hi), htake,
      List.getElem?_replicate_of_lt (by omega)]

end FileTree

section Windows

variable {root : Root} {path : String} {offset len : Nat} {t : FileTree}

/-- A window is read from a file that it fits in. -/
theorem Root.readBytes_eq_ok_iff {part : List UInt8} (hlen : 0 < len) :
    root.readBytes path offset len t = .ok part ↔
      ∃ loc bs, t.openFile (root.resolve path) = .ok (loc, bs) ∧
        offset + len < FileTree.offsetLimit ∧ offset + len ≤ bs.length ∧
        part = (bs.drop offset).take len := by
  unfold Root.readBytes FileTree.readWindow FileTree.openFile
  rcases t.find (root.resolve path) with e | ⟨loc, bs | es⟩
  · simp [Except.mapError]
  · simp only [FileTree.window, Nat.ne_of_gt hlen, if_false]
    split_ifs with hlimit hfits
    · simp [Except.mapError, Nat.not_lt.2 hlimit]
    · simp [Except.mapError, Nat.not_le.1 hlimit, hfits, eq_comm]
    · simp [Except.mapError, hfits]
  · simp only [Nat.ne_of_gt hlen, if_false]
    split_ifs <;> simp [Except.mapError]

/-- What does not fit in a file is an error of the host. -/
theorem Root.readBytes_eq_error {file : FileTree.Location × List UInt8} {e : AttributeError}
    (hopen : t.openFile (root.resolve path) = .ok file)
    (h : root.readBytes path offset len t = .error e) : e.status = .internal := by
  unfold Root.readBytes FileTree.readWindow at h
  unfold FileTree.openFile at hopen
  rcases hfind : t.find (root.resolve path) with e' | ⟨loc, bs | es⟩
  · rw [hfind] at hopen
    cases hopen
  · rw [hfind] at h
    dsimp only [FileTree.window] at h
    split_ifs at h <;> cases h <;> rfl
  · rw [hfind] at hopen
    cases hopen

end Windows

namespace Board

variable {b : Board} {io : Io} {m : Machine} {port address offset : Nat}

/-- The device at an address on the bus of a port is a file with these bytes. -/
def Holds (b : Board) (io : Io) (m : Machine) (port address : Nat) (bs : List UInt8) : Prop :=
  ∃ path loc, b.pagePath port address = .ok path ∧
    m.tree.openFile (io.root.resolve path) = .ok (loc, bs)

theorem Holds.unique {bs bs' : List UInt8} (h : b.Holds io m port address bs)
    (h' : b.Holds io m port address bs') : bs = bs' := by
  obtain ⟨path, loc, hpath, hopen⟩ := h
  obtain ⟨path', loc', hpath', hopen'⟩ := h'
  cases hpath.symm.trans hpath'
  cases hopen.symm.trans hopen'
  rfl

/-! ## Reading -/

/-- **The bytes that can be read** are those of the device, up to the largest offset there is. -/
theorem readByte_eq_ok_iff {byte : UInt8} :
    (b.readByte io port address offset m).1 = .ok byte ↔
      ∃ bs, b.Holds io m port address bs ∧ offset + 1 < FileTree.offsetLimit ∧
        bs[offset]? = some byte := by
  rw [readByte]
  constructor
  · intro h
    obtain ⟨path, hpath, h⟩ := ok_of_bind h
    obtain ⟨part, hpart, h⟩ := ok_of_bind h
    obtain ⟨loc, bs, hopen, hlimit, hfits, rfl⟩ :=
      (Root.readBytes_eq_ok_iff Nat.zero_lt_one).1 (ok_of_fromTree hpart)
    refine ⟨bs, ⟨path, loc, hpath, hopen⟩, hlimit, ?_⟩
    rw [List.drop_eq_getElem_cons hfits] at h
    cases h
    exact List.getElem?_eq_getElem hfits
  · rintro ⟨bs, ⟨path, loc, hpath, hopen⟩, hlimit, hbyte⟩
    obtain ⟨hfits, hbyte⟩ := List.getElem?_eq_some_iff.1 hbyte
    have hpart := (Root.readBytes_eq_ok_iff Nat.zero_lt_one).2
      ⟨loc, bs, hopen, hlimit, hfits, rfl⟩
    rw [ofExcept_bind hpath, bind_ok (fromTree_of_ok hpart), List.drop_eq_getElem_cons hfits, hbyte]
    rfl

/-- **What a byte of a device reads as**: the byte at the offset, and an internal error if there is
none. -/
theorem readByte_of_holds {bs : List UInt8} (holds : b.Holds io m port address bs) :
    (b.readByte io port address offset m).1 =
      match if offset + 1 < FileTree.offsetLimit then bs[offset]? else none with
      | some byte => .ok byte
      | none => .error .internal := by
  cases hread : (b.readByte io port address offset m).1 with
  | ok byte =>
    obtain ⟨bs', holds', hlimit, hbyte⟩ := readByte_eq_ok_iff.1 hread
    obtain rfl := holds.unique holds'
    rw [if_pos hlimit, hbyte]
  | error e =>
    have hnone : (if offset + 1 < FileTree.offsetLimit then bs[offset]? else none) = none := by
      by_contra hsome
      obtain ⟨byte, hbyte⟩ := Option.ne_none_iff_exists'.1 hsome
      split_ifs at hbyte with hlimit
      cases hread.symm.trans (readByte_eq_ok_iff.2 ⟨bs, holds, hlimit, hbyte⟩)
    obtain ⟨path, loc, hpath, hopen⟩ := holds
    rw [readByte, ofExcept_bind hpath] at hread
    cases hpart : io.root.readBytes path offset 1 m.tree with
    | ok part =>
      have hlength := Root.length_readBytes hpart
      rw [bind_ok (fromTree_of_ok hpart)] at hread
      obtain ⟨byte, rfl⟩ := List.length_eq_one_iff.1 hlength
      cases hread
    | error e' =>
      rw [bind_error (fromTree_of_error hpart)] at hread
      cases hread
      rw [hnone, Root.readBytes_eq_error hopen hpart]

/-- Behind the end of a device there is nothing to read. -/
theorem readByte_beyond {bs : List UInt8} (holds : b.Holds io m port address bs)
    (hend : bs.length ≤ offset) :
    (b.readByte io port address offset m).1 = .error .internal := by
  rw [readByte_of_holds holds, List.getElem?_eq_none hend, ite_self]

/-- **A page consists of the first bytes of its device**; reading it leaves the machine alone. -/
theorem readPage_front {page : List UInt8} (h : (b.readPage io port address m).1 = .ok page) :
    (b.readPage io port address m).2 = m ∧
      ∃ bs, b.Holds io m port address bs ∧ pageSize ≤ bs.length ∧ page = bs.take pageSize := by
  have hpresent := (readPage_eq_ok h).1
  have hsame := isPortPresent_unchanged hpresent
  rw [readPage] at h ⊢
  obtain ⟨path, hpath, h⟩ := ok_of_bind h
  rw [bind_of_ok hpath, ofExcept_apply, bind_ok (Prod.ext hpresent hsame)]
  obtain ⟨present, hpresent', h⟩ := ok_of_bind h
  obtain rfl := Except.ok.inj (hpresent.symm.trans hpresent')
  obtain ⟨loc, bs, hopen, -, hfits, rfl⟩ :=
    (Root.readBytes_eq_ok_iff (by decide)).1 (ok_of_fromTree h)
  rw [ofExcept_apply, hsame] at hopen
  rw [Nat.zero_add] at hfits
  exact ⟨rfl, bs, ⟨path, loc, hpath, hopen⟩, hfits, rfl⟩

/-- A page shows the bytes that can be read one by one, and reading it leaves the machine alone. -/
structure ShowsBytes (b : Board) (io : Io) (m m' : Machine) (port address : Nat)
    (page : List UInt8) : Prop where
  unchanged : m' = m
  length : page.length = pageSize
  bytes : ∀ offset byte, page[offset]? = some byte →
    (b.readByte io port address offset m).1 = .ok byte

theorem readPage_showsBytes {page : List UInt8}
    (h : (b.readPage io port address m).1 = .ok page) :
    b.ShowsBytes io m (b.readPage io port address m).2 port address page := by
  obtain ⟨hsame, bs, holds, hlength, rfl⟩ := readPage_front h
  refine ⟨hsame, List.length_take_of_le hlength, fun offset byte hbyte => ?_⟩
  obtain ⟨hlt, -⟩ := List.getElem?_eq_some_iff.1 hbyte
  rw [List.length_take_of_le hlength] at hlt
  rw [List.getElem?_take_of_lt hlt] at hbyte
  refine readByte_eq_ok_iff.2 ⟨bs, holds, ?_, hbyte⟩
  have hlimit : pageSize < FileTree.offsetLimit := by decide
  omega

/-! ## Writing -/

/-- A byte was written to a device: the file of the device has it, and it is read there, while every
other byte that there was reads as before. -/
structure WroteByte (b : Board) (io : Io) (m m' : Machine) (port address offset : Nat)
    (value : UInt8) : Prop where
  file : ∃ bs bs', b.Holds io m port address bs ∧ b.Holds io m' port address bs' ∧
    FileTree.ByteWritten offset value bs bs'
  readBack : (b.readByte io port address offset m').1 = .ok value
  others : ∀ bs, b.Holds io m port address bs → ∀ i < bs.length, i ≠ offset →
    (b.readByte io port address i m').1 = (b.readByte io port address i m).1

/-- Writing a byte rewrites the file of the device. -/
theorem holds_of_writeByte {value : UInt8}
    (h : (b.writeByte io port address offset value m).1 = .ok ()) :
    offset + 1 < FileTree.offsetLimit ∧ ∃ bs, b.Holds io m port address bs ∧
      b.Holds io (b.writeByte io port address offset value m).2 port address
        (FileTree.overwrite bs offset [value]) := by
  rw [writeByte] at h ⊢
  obtain ⟨path, hpath, h⟩ := ok_of_bind h
  rw [bind_of_ok hpath]
  rw [ofExcept_apply] at h ⊢
  rw [onTree_apply, Root.writeBytes, mapError_eq, FileTree.writeBytes] at h ⊢
  cases hopen : m.tree.openFile (io.root.resolve path) with
  | error e =>
    rw [hopen] at h
    cases h
  | ok file =>
    rw [hopen] at h
    dsimp only at h ⊢
    split_ifs at h ⊢ with hlimit
    · cases h
    · have hopen' := FileTree.openFile_setContent hopen
        (FileTree.overwrite file.2 offset [value])
      exact ⟨Nat.not_le.1 hlimit, file.2, ⟨path, file.1, hpath, hopen⟩, path, file.1, hpath, hopen'⟩

/-- **A byte that is written to a device is what is read from it**, beside the bytes that were
there. -/
theorem wroteByte_of_ok {value : UInt8}
    (h : (b.writeByte io port address offset value m).1 = .ok ()) :
    b.WroteByte io m (b.writeByte io port address offset value m).2 port address offset value := by
  obtain ⟨hlimit, bs, holds, holds'⟩ := holds_of_writeByte h
  have written := FileTree.byteWritten_overwrite offset value bs
  refine ⟨⟨bs, _, holds, holds', written⟩, ?_, fun bs' h' i hi hne => ?_⟩
  · exact readByte_eq_ok_iff.2 ⟨_, holds', hlimit, written.here⟩
  · obtain rfl := holds.unique h'
    rw [readByte_of_holds holds, ← written.others i hi hne]
    exact readByte_of_holds holds'

/-- **What is written to a device of a module is what is read from it**, byte by byte and as a
page; behind the end of a device there is nothing to read. -/
theorem moduleBytes (b : Board) (io : Io) (m : Machine) (port : Nat) :
    (∀ address offset value,
      ((b.platform io).ports.writeByte port address offset value m).1 = .ok () →
      b.WroteByte io m ((b.platform io).ports.writeByte port address offset value m).2 port
        address offset value) ∧
    (∀ page, ((b.platform io).ports.readPage port m).1 = .ok page →
      b.ShowsBytes io m ((b.platform io).ports.readPage port m).2 port identificationAddress
        page) ∧
    (∀ page, ((b.platform io).ports.readDiagnostics port m).1 = .ok page →
      b.ShowsBytes io m ((b.platform io).ports.readDiagnostics port m).2 port diagnosticsAddress
        page) ∧
    ∀ address bs offset, b.Holds io m port address bs → bs.length ≤ offset →
      ((b.platform io).ports.readByte port address offset m).1 = .error .internal :=
  ⟨fun _ _ _ => wroteByte_of_ok, fun _ => readPage_showsBytes, fun _ => readPage_showsBytes,
    fun _ _ _ => readByte_beyond⟩

/-- A board of one port, with a page of identification and one of diagnostics. -/
def pagedPort : Board :=
  { name := "paged-port"
    ports :=
      { count := 1
        present := .gpio [⟨0, 0, 10, 1⟩] false
        eepromBus := [⟨0, 0, 1, 1⟩]
        eeprom := ⟨"/bus\x7b\x7d/identification"⟩
        diagnostics := some ⟨"/bus\x7b\x7d/diagnostics"⟩ } }

/-- A byte is written behind the end of the diagnostics, which have two bytes before. -/
theorem pagedPort_moduleBytes :
    let p := pagedPort.platform { root := ⟨"/"⟩ }
    let gpio : FileTree := .dir [("gpio10", .dir [("value", .file [49])])]
    let m : Machine := { tree := .dir [("sys", .dir [("class", .dir [("gpio", gpio)])]),
      ("bus1", .dir [("identification", .file (List.replicate 256 3)),
        ("diagnostics", .file [1, 2])])] }
    let m' := (p.ports.writeByte 0 diagnosticsAddress 4 7 m).2
    (p.ports.writeByte 0 diagnosticsAddress 4 7 m).1 = .ok () ∧
      m'.tree.fileAt? ["bus1", "diagnostics"] = some [1, 2, 0, 0, 7] ∧
      (p.ports.readPage 0 m').1 = .ok (List.replicate 256 3) ∧
      pagedPort.WroteByte { root := ⟨"/"⟩ } m m' 0 diagnosticsAddress 4 7 ∧
      pagedPort.ShowsBytes { root := ⟨"/"⟩ } m' m' 0 identificationAddress
        (List.replicate 256 3) := by
  intro p gpio m m'
  have hwrite : (p.ports.writeByte 0 diagnosticsAddress 4 7 m).1 = .ok () := by decide +kernel
  have hpage : (p.ports.readPage 0 m').1 = .ok (List.replicate 256 3) := by decide +kernel
  have wrote := (moduleBytes pagedPort { root := ⟨"/"⟩ } m 0).1 diagnosticsAddress 4 7 hwrite
  have shows := (moduleBytes pagedPort { root := ⟨"/"⟩ } m' 0).2.1 _ hpage
  exact ⟨hwrite, by decide +kernel, hpage, wrote, rfl, shows.length, shows.bytes⟩

end Board
end SwitchPlatform
