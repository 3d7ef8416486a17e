import SwitchPlatform.Proofs.Board.ReadContract
import SwitchPlatform.Proofs.RangeMap

/-!
# The bus of a port

Every port of a valid board is covered by the map of the buses, but that map may still have no bus
for it: the segment that decides the port may send it outside of 32 bits. `page_param_iff`: such a
port is refused as a parameter by everything that goes to its identification page, and no other
port of the board is.
-/

namespace SwitchPlatform

open SwitchPlatform.Action StatusError

/-- A chain whose later parts refuse no parameter refuses exactly what its first part does. -/
theorem Action.param_ofExcept_bind_iff {σ α β : Type} {r : Except StatusError α}
    {f : α → Action StatusError σ β} (hf : ∀ a, FailsWith (· ≠ .param) (f a)) (s : σ) :
    ((ofExcept r >>= f) s).1 = .error .param ↔ r = .error .param := by
  rw [bind_eq, ofExcept_apply]
  cases r with
  | ok a =>
    constructor
    · exact fun h => absurd rfl (hf a s .param h)
    · exact fun h => nomatch h
  | error e => simp

namespace Board

variable {b : Board} {port : Nat}

/-- **The path of the identification page** leads over the bus of the port. -/
theorem pagePath_identification (hport : port < b.ports.count) :
    b.pagePath port identificationAddress =
      match b.ports.eepromBus.map? port with
      | some bus => .ok (b.ports.eeprom.render [bus])
      | none => .error .param := by
  rw [pagePath, checkPortNumber, if_pos hport]
  dsimp only
  cases b.ports.eepromBus.map? port with
  | none => rfl
  | some bus => exact if_pos rfl

/-- A port of a valid board has no identification page exactly if its bus strays. -/
theorem Valid.pagePath_param_iff (valid : b.Valid) (hport : port < b.ports.count) :
    b.pagePath port identificationAddress = .error .param ↔ b.ports.eepromBus.Strays port := by
  rw [← RangeMap.map?_eq_none_iff (valid.port port hport).2, pagePath_identification hport]
  cases b.ports.eepromBus.map? port <;> simp

section Uses

variable (io : Io) (m : Machine)

theorem Valid.readPage_param_iff (valid : b.Valid) (hport : port < b.ports.count)
    (address : Nat) : (b.readPage io port address m).1 = .error .param ↔
      b.pagePath port address = .error .param := by
  rw [readPage]
  refine param_ofExcept_bind_iff (fun path => ?_) m
  refine FailsWith.bind (fun m e h => ?_) fun present => ?_
  · exact (valid.failsWith_isPortPresent hport m e h).ne_param
  · cases present with
    | true => exact fun m e h => (failsWith_fromTree _ m e h).ne_param
    | false => exact .fail (by decide)

theorem readByte_param_iff (address offset : Nat) :
    (b.readByte io port address offset m).1 = .error .param ↔
      b.pagePath port address = .error .param := by
  rw [readByte]
  refine param_ofExcept_bind_iff (fun path => ?_) m
  refine FailsWith.bind (fun m e h => (failsWith_fromTree _ m e h).ne_param) fun bytes => ?_
  cases bytes with
  | nil => exact .fail (by decide)
  | cons byte _ => exact .pure byte

theorem writeByte_param_iff (address offset : Nat) (value : UInt8) :
    (b.writeByte io port address offset value m).1 = .error .param ↔
      b.pagePath port address = .error .param := by
  rw [writeByte]
  exact param_ofExcept_bind_iff (fun path m e h => (failsWith_onTree _ m e h).ne_param) m

theorem afterInsert_param_iff :
    ((b.platform io).ports.afterInsert port m).1 = .error .param ↔
      (b.readPage io port identificationAddress m).1 = .error .param := by
  show ((b.readPage io port identificationAddress >>= fun _ => pure ()) m).1 = _ ↔ _
  rw [bind_eq]
  cases (b.readPage io port identificationAddress m).1 <;> simp

/-- **Validation does not give every port a bus.** A port of a valid board has an identification
page unless the segment that decides its bus sends it outside of 32 bits. In that case, and in no
other, reading the page, the work after a module was plugged, and reading and writing a byte of the
page refuse the port as a parameter, whatever the files are. -/
theorem page_param_iff (valid : b.validate = .ok ()) (hport : port < b.ports.count) :
    ((∃ path, b.pagePath port identificationAddress = .ok path) ↔
      ¬b.ports.eepromBus.Strays port) ∧
    (((b.platform io).ports.readPage port m).1 = .error .param ↔
      b.ports.eepromBus.Strays port) ∧
    (((b.platform io).ports.afterInsert port m).1 = .error .param ↔
      b.ports.eepromBus.Strays port) ∧
    (∀ offset, ((b.platform io).ports.readByte port identificationAddress offset m).1 =
      .error .param ↔ b.ports.eepromBus.Strays port) ∧
    ∀ offset value, ((b.platform io).ports.writeByte port identificationAddress offset value m).1 =
      .error .param ↔ b.ports.eepromBus.Strays port := by
  have hvalid : b.Valid := validate_eq_ok_iff.1 valid
  have hpath := hvalid.pagePath_param_iff hport
  have hpage := (hvalid.readPage_param_iff io m hport identificationAddress).trans hpath
  refine ⟨?_, hpage, (afterInsert_param_iff io m).trans hpage, fun offset => ?_,
    fun offset value => ?_⟩
  · rw [← hpath, pagePath_identification hport]
    cases b.ports.eepromBus.map? port <;> simp
  · exact (readByte_param_iff io m _ offset).trans hpath
  · exact (writeByte_param_iff io m _ offset value).trans hpath

end Uses

/-- A board of two ports with descending buses: the second port has the bus before that of the
first one. -/
def twoPorts (bus : Nat) : Board :=
  { name := "two-ports"
    ports :=
      { count := 2
        present := .gpio [⟨0, 1, 10, 1⟩] false
        eepromBus := [.descending 0 1 bus]
        eeprom := ⟨"/bus\x7b\x7d/eeprom"⟩ } }

/-- With bus 0 for the first port there is none for the second one. -/
theorem twoPorts_page_param :
    let io : Io := { root := ⟨"/"⟩ }
    let m : Machine := { tree := .dir [("bus0", .dir [("eeprom", .file [3])])] }
    (twoPorts 0).validate = .ok () ∧ 0 < (twoPorts 0).ports.count ∧
      1 < (twoPorts 0).ports.count ∧
      (∃ path, (twoPorts 0).pagePath 0 identificationAddress = .ok path) ∧
      (((twoPorts 0).platform io).ports.afterInsert 1 m).1 = .error .param := by
  intro io m
  have hfirst : 0 < (twoPorts 0).ports.count := by decide
  have hsecond : 1 < (twoPorts 0).ports.count := by decide
  refine ⟨by decide, hfirst, hsecond, ?_, ?_⟩
  · refine (page_param_iff io m (by decide) hfirst).1.2 ?_
    rintro ⟨s, hs, hfits⟩
    cases hs
    exact hfits (by decide)
  · refine (page_param_iff io m (by decide) hsecond).2.2.1.2 ?_
    exact ⟨.descending 0 1 0, rfl, by decide⟩

/-- A board that validates has a port without an identification page. -/
theorem twoPorts_no_page :
    let p := (twoPorts 0).platform { root := ⟨"/"⟩ }
    let m : Machine := { tree := .dir [] }
    (twoPorts 0).validate = .ok () ∧ 1 < (twoPorts 0).ports.count ∧
      (¬∃ path, (twoPorts 0).pagePath 1 identificationAddress = .ok path) ∧
      (p.ports.readPage 1 m).1 = .error .param ∧
      (p.ports.afterInsert 1 m).1 = .error .param ∧
      (p.ports.readByte 1 identificationAddress 0 m).1 = .error .param ∧
      (p.ports.writeByte 1 identificationAddress 0 7 m).1 = .error .param := by
  refine ⟨by decide, by decide, ?_, rfl, rfl, rfl, rfl⟩
  rintro ⟨path, hpath⟩
  cases hpath

end Board

end SwitchPlatform
