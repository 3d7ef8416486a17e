import Mathlib.Tactic
import SwitchPlatform.Board.Platform
import SwitchPlatform.Proofs.Io.Within
import SwitchPlatform.Proofs.Onie.Area

/-!
# The system EEPROM of a board

A board reads its system EEPROM in two stages: the header, and then as many bytes as the header
announces. Where all these bytes are there, that comes to the same as reading the whole content,
since an image does not depend on what is behind it (`readOnie_of_whole`). Where some are missing,
the second read, or the first, ends in the host's refusal (`readOnie_of_cutOff`).

* `onie_ok_iff`: so a board reads exactly the images that `decode` accepts, and as what they say.
* `onie_status`: an absent file is `missing`, and a content that is no image is `invalid` if it is
  not cut off. If it is, the status is `internal` (`cutImage_internal`).
-/

namespace SwitchPlatform

open SwitchPlatform.Action

/-! ## Looking at the front of a file -/

section Front

variable {t : FileTree} {root : Root} {path : String} {content : List UInt8} {len : Nat}

theorem FileTree.window_front (content : List UInt8) (len : Nat) :
    window content 0 len =
      if len ≤ content.length then .ok (content.take len) else .error .shortRead := by
  rw [window, Nat.zero_add, List.drop_zero]
  by_cases hlen : len = 0
  · subst hlen
    rfl
  · rw [if_neg hlen]

/-- The first bytes of a file, if it has as many. -/
theorem Root.readBytes_front (hfile : t.readAll (root.resolve path) = .ok content)
    (hlimit : len < FileTree.offsetLimit) :
    root.readBytes path 0 len t =
      if len ≤ content.length then .ok (content.take len) else .error (.io path .shortRead) := by
  unfold FileTree.readAll FileTree.openFile at hfile
  unfold Root.readBytes FileTree.readWindow
  split at hfile
  · rename_i hfind
    cases hfile
    rw [hfind]
    simp only [Nat.zero_add, Nat.not_le.2 hlimit, if_false, FileTree.window_front]
    split <;> rfl
  · cases hfile
  · cases hfile

/-- What cannot be read as a file has no first bytes. -/
theorem Root.readBytes_refused {e : HostError} (hfile : t.readAll (root.resolve path) = .error e)
    (hpos : 0 < len) (hlimit : len < FileTree.offsetLimit) :
    root.readBytes path 0 len t = .error (.ofHost path e) := by
  unfold FileTree.readAll FileTree.openFile at hfile
  unfold Root.readBytes FileTree.readWindow
  split at hfile
  · cases hfile
  · rename_i hfind
    cases hfile
    rw [hfind]
    simp only [Nat.zero_add, Nat.not_le.2 hlimit, if_false, Nat.ne_of_gt hpos]
    rfl
  · rename_i hfind
    cases hfile
    rw [hfind]
    rfl

end Front

namespace Board

variable {b : Board} {io : Io} {path : String} {content : List UInt8} {m : Machine}

/-- The reading of a content that has a header. -/
theorem readOnie_of_header (hpath : b.onieEeprom = some path)
    (hfile : m.tree.readAll (io.root.resolve path) = .ok content)
    (hheader : Onie.headerSize ≤ content.length) :
    b.readOnie io m =
      match Onie.imageSize content with
      | .error e => (.error e.status, m)
      | .ok size =>
        if size ≤ content.length then
          ((Onie.decode (content.take size)).mapError Onie.Error.status, m)
        else (.error .internal, m) := by
  have hfront : io.root.readBytes path 0 Onie.headerSize m.tree =
      .ok (content.take Onie.headerSize) := by
    rw [Root.readBytes_front hfile (by decide), if_pos hheader]
  have hsize : Onie.imageSize (content.take Onie.headerSize) = Onie.imageSize content := by
    have hlen : Onie.headerSize ≤ (content.take Onie.headerSize).length :=
      (List.length_take_of_le hheader).ge
    rw [← Onie.imageSize_append hlen (content.drop Onie.headerSize), List.take_append_drop]
  rw [readOnie, hpath]
  dsimp only
  rw [bind_ok (fromTree_of_ok hfront), hsize]
  cases himage : Onie.imageSize content with
  | error e => rfl
  | ok size =>
    obtain ⟨_, _, -, -, hmax⟩ := Onie.imageSize_eq_ok_iff.1 himage
    have hlimit : size < FileTree.offsetLimit := lt_of_le_of_lt hmax (by decide)
    have hread := Root.readBytes_front hfile hlimit
    have hannounced : (ofExcept ((.ok size : Except Onie.Error Nat).mapError Onie.Error.status) :
        Access Nat) m = (.ok size, m) := rfl
    rw [bind_ok hannounced]
    dsimp only
    split at hread
    · rename_i hlen
      rw [if_pos hlen, bind_ok (fromTree_of_ok hread)]
      rfl
    · rename_i hlen
      rw [if_neg hlen, bind_error (fromTree_of_error hread)]
      rfl

/-- A content that is not cut off is read as a whole. -/
theorem readOnie_of_whole (hpath : b.onieEeprom = some path)
    (hfile : m.tree.readAll (io.root.resolve path) = .ok content)
    (hwhole : ¬Onie.IsCutOff content) :
    b.readOnie io m = ((Onie.decode content).mapError Onie.Error.status, m) := by
  obtain ⟨hheader, himage⟩ := not_or.1 hwhole
  rw [readOnie_of_header hpath hfile (Nat.not_lt.1 hheader)]
  cases hsize : Onie.imageSize content with
  | error e =>
    rw [Onie.decode, hsize]
    rfl
  | ok size =>
    have hlen : size ≤ content.length := Nat.not_lt.1 fun h => himage ⟨size, hsize, h⟩
    dsimp only
    rw [if_pos hlen, Onie.decode_take hsize hlen]

/-- A content that is cut off is refused by the host, at one of the two reads. -/
theorem readOnie_of_cutOff (hpath : b.onieEeprom = some path)
    (hfile : m.tree.readAll (io.root.resolve path) = .ok content) (hcut : Onie.IsCutOff content) :
    b.readOnie io m = (.error .internal, m) := by
  by_cases hheader : content.length < Onie.headerSize
  · have hfront :
        io.root.readBytes path 0 Onie.headerSize m.tree = .error (.io path .shortRead) := by
      rw [Root.readBytes_front hfile (by decide), if_neg (Nat.not_le.2 hheader)]
    rw [readOnie, hpath]
    dsimp only
    rw [bind_error (fromTree_of_error hfront)]
    rfl
  · obtain ⟨size, hsize, hlen⟩ := hcut.resolve_left hheader
    rw [readOnie_of_header hpath hfile (Nat.not_lt.1 hheader), hsize]
    dsimp only
    rw [if_neg (Nat.not_le.2 hlen)]

/-- A file that is there is not missing, whatever its content. -/
theorem readOnie_ne_missing (hpath : b.onieEeprom = some path)
    (hfile : m.tree.readAll (io.root.resolve path) = .ok content) :
    (b.readOnie io m).1 ≠ .error .missing := by
  by_cases hcut : Onie.IsCutOff content
  · simp [readOnie_of_cutOff hpath hfile hcut]
  · rw [readOnie_of_whole hpath hfile hcut]
    cases Onie.decode content with
    | ok info => simp [Except.mapError]
    | error e => simp [Except.mapError, Onie.Error.status]

/-- What the host does not open as a file is refused at the first read. -/
theorem readOnie_of_refused (hpath : b.onieEeprom = some path) {e : HostError}
    (hfile : m.tree.readAll (io.root.resolve path) = .error e) :
    b.readOnie io m = (.error (AttributeError.ofHost path e).status, m) := by
  rw [readOnie, hpath]
  dsimp only
  rw [bind_error (fromTree_of_error (Root.readBytes_refused hfile (by decide) (by decide)))]

/-- **A board reads its system EEPROM as `decode` reads the whole content**, whatever that is. -/
theorem onie_ok_iff (hpath : b.onieEeprom = some path)
    (hfile : m.tree.readAll (io.root.resolve path) = .ok content) (info : Onie.Info) :
    ((b.platform io).system.onie m).1 = .ok info ↔ Onie.decode content = .ok info := by
  show (b.readOnie io m).1 = .ok info ↔ _
  by_cases hcut : Onie.IsCutOff content
  · obtain ⟨e, he⟩ := hcut.exists_error
    rw [readOnie_of_cutOff hpath hfile hcut, he]
    simp
  · rw [readOnie_of_whole hpath hfile hcut]
    cases Onie.decode content with
    | ok info' => simp [Except.mapError]
    | error e => simp [Except.mapError]

/-- A board of nothing but a system EEPROM. -/
def eepromBoard : Board :=
  { name := "eeprom"
    onieEeprom := some "/eeprom"
    ports := { count := 0, present := .gpio [] false, eepromBus := [], eeprom := ⟨""⟩ } }

/-- The access to that board. -/
def eepromIo : Io := { root := ⟨"/"⟩ }

/-- That board with some content in its EEPROM. -/
def eepromMachine (content : List UInt8) : Machine :=
  { tree := .dir [("eeprom", .file content)] }

theorem readAll_eepromMachine (content : List UInt8) :
    (eepromMachine content).tree.readAll (eepromIo.root.resolve "/eeprom") = .ok content := by
  rfl

/-- A product name, and two bytes behind the image. -/
theorem eepromBoard_onie_ok_iff :
    let content := Onie.encode [⟨Onie.Code.productName, [0x51]⟩] ++ [0xFF, 0xFF]
    eepromBoard.onieEeprom = some "/eeprom" ∧
      (eepromMachine content).tree.readAll (eepromIo.root.resolve "/eeprom") = .ok content ∧
      ((eepromBoard.platform eepromIo).system.onie (eepromMachine content)).1 =
        .ok { productName := some "Q", crc := 0xC9D780BB } := by
  intro content
  refine ⟨rfl, readAll_eepromMachine content, ?_⟩
  refine (onie_ok_iff rfl (readAll_eepromMachine content) _).2 ?_
  decide +kernel

/-- **The status of a system EEPROM that is not read.** It is `missing` exactly if the host finds no
entry at the path of the board. A file whose content is no image gives `invalid` if the content is
not cut off, and `internal` if it is. -/
theorem onie_status (hpath : b.onieEeprom = some path) (io : Io) (m : Machine) :
    (((b.platform io).system.onie m).1 = .error .missing ↔
      m.tree.readAll (io.root.resolve path) = .error .noEntry) ∧
    ∀ content e, m.tree.readAll (io.root.resolve path) = .ok content →
      Onie.decode content = .error e →
      (((b.platform io).system.onie m).1 = .error .invalid ↔ ¬Onie.IsCutOff content) ∧
      (((b.platform io).system.onie m).1 = .error .internal ↔ Onie.IsCutOff content) := by
  show ((b.readOnie io m).1 = .error .missing ↔ _) ∧ ∀ content e, _ → _ →
    ((b.readOnie io m).1 = .error .invalid ↔ _) ∧ ((b.readOnie io m).1 = .error .internal ↔ _)
  refine ⟨?_, fun content e hfile hdecode => ?_⟩
  · cases hfile : m.tree.readAll (io.root.resolve path) with
    | ok content => simp [readOnie_ne_missing hpath hfile]
    | error e =>
      rw [readOnie_of_refused hpath hfile]
      cases e <;> simp [AttributeError.ofHost, AttributeError.status]
  · by_cases hcut : Onie.IsCutOff content
    · simp [readOnie_of_cutOff hpath hfile hcut, hcut]
    · simp [readOnie_of_whole hpath hfile hcut, hcut, hdecode, Except.mapError, Onie.Error.status]

/-- The image without fields, without its last byte. -/
def cutImage : List UInt8 := (Onie.encode []).take 16

theorem cutImage_isCutOff : Onie.IsCutOff cutImage :=
  .inr ⟨17, by decide +kernel, by decide +kernel⟩

/-- Without the file it is `missing`, and a file of zeros is `invalid`. -/
theorem eepromBoard_onie_status :
    eepromBoard.onieEeprom = some "/eeprom" ∧
      ((eepromBoard.platform eepromIo).system.onie { tree := .dir [] }).1 = .error .missing ∧
      ((eepromBoard.platform eepromIo).system.onie
        (eepromMachine (List.replicate 16 0))).1 = .error .invalid := by
  refine ⟨rfl, ?_, ?_⟩
  · exact (onie_status (b := eepromBoard) rfl eepromIo _).1.2 (by decide +kernel)
  · have hwhole : ¬Onie.IsCutOff (List.replicate 16 0) := by
      rintro (h | ⟨size, h, -⟩)
      · exact absurd h (by decide)
      · have hsize : Onie.imageSize (List.replicate 16 0) = .error .badHeader := by decide +kernel
        cases hsize.symm.trans h
    exact ((onie_status (b := eepromBoard) rfl eepromIo _).2 _ .badHeader (readAll_eepromMachine _)
      (by decide +kernel)).1.2 hwhole

/-- A file that is cut off is no image, and its status is `internal`. -/
theorem cutImage_internal :
    eepromBoard.validate = .ok () ∧
      (eepromMachine cutImage).tree.readAll (eepromIo.root.resolve "/eeprom") = .ok cutImage ∧
      Onie.decode cutImage = .error .truncated ∧
      ((eepromBoard.platform eepromIo).system.onie (eepromMachine cutImage)).1 =
        .error .internal := by
  refine ⟨rfl, readAll_eepromMachine cutImage, by decide +kernel, ?_⟩
  exact congrArg Prod.fst
    (readOnie_of_cutOff (b := eepromBoard) rfl (readAll_eepromMachine cutImage) cutImage_isCutOff)

end Board

end SwitchPlatform
