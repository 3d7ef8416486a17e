import SwitchPlatform.Proofs.Board.FanPass
import SwitchPlatform.Proofs.Io.Failing

/-!
# What reading an object promises

`object_reads`: an id is refused as a parameter exactly if the board does not hold it, both when
its header is asked for and when it is read. An object of a valid board always has a header, and is
read under that header or fails at an attribute that is there and cannot be used: what is absent is
never an error. A temperature sensor does not even fail at such an attribute.

Each kind of object is read by a chain of operations that absorb what is missing
(`FanEntry.failsWith_read` and the like), so nothing but `StatusError.Unreadable` is left.
-/

namespace SwitchPlatform

open SwitchPlatform.Action StatusError

variable {io : Io}

/-! ## Signals and labels -/

theorem failsWith_asserted (s : Signal) : FailsWith Unreadable (io.asserted s) := by
  rw [Io.asserted]
  exact (failsWith_read? s.locator).bind fun _ => .pure _

theorem failsWith_deasserted (s : Option Signal) : FailsWith Unreadable (io.deasserted s) := by
  cases s with
  | none => exact .pure false
  | some s =>
    rw [Io.deasserted]
    exact (failsWith_read? s.locator).bind fun _ => .pure _

/-- A label that cannot be read is empty. -/
theorem failsWith_label {errs : StatusError → Prop} (l : Option Locator) :
    FailsWith errs (io.label l) := by
  cases l with
  | none => exact .pure ""
  | some l =>
    rw [Io.label]
    refine (FailsWith.attempt _).bind fun outcome => ?_
    cases outcome <;> exact .pure _

theorem failsWith_readLine (line : PortLine) : FailsWith Unreadable (io.readLine line) := by
  obtain ⟨path, activeLow⟩ | line := line
  · rw [Io.readLine]
    exact ((failsWith_fromTree _).bind fun _ => .pure _).optional
  · rw [Io.readLine]
    exact (failsWith_onTree _).optional

/-! ## Sensors -/

/-- A sensor is always read. -/
theorem ThermalEntry.exists_read (entry : ThermalEntry) (io : Io) (id : Oid) (m : Machine) :
    ∃ r, (entry.read io id m).1 = .ok r ∧ r.header = entry.header id := by
  refine ⟨entry.reading id (io.read entry.input m).1, ?_, ?_⟩
  · rw [read, bind_eq, attempt_apply]
    rfl
  · unfold reading
    split <;> rfl

/-! ## Fans -/

namespace FanEntry

theorem failsWith_dirStatus (dir : FanDirSource) : FailsWith Unreadable (dirStatus io dir) := by
  obtain _ | dir | ⟨l, f2b⟩ := dir
  · exact .pure _
  · exact .pure _
  · rw [dirStatus]
    refine (failsWith_read? l).bind fun raw => ?_
    cases raw <;> exact .pure _

theorem failsWith_readOptional (l : Option Locator) :
    FailsWith Unreadable (readOptional io l) := by
  cases l with
  | none => exact .pure none
  | some l => exact failsWith_read? l

theorem failsWith_hasFault (s : Option Signal) : FailsWith Unreadable (hasFault io s) := by
  cases s with
  | none => exact .pure false
  | some s => exact failsWith_asserted s

theorem failsWith_percentageOf (entry : FanEntry) (rpm : Int32) :
    FailsWith Unreadable (entry.percentageOf io rpm) := by
  rw [percentageOf]
  split
  · exact .pure _
  · refine (failsWith_read? _).bind fun raw => ?_
    cases raw <;> exact .pure _

theorem failsWith_isPresent (entry : FanEntry) : FailsWith Unreadable (entry.isPresent io) := by
  rw [isPresent]
  split
  · exact failsWith_asserted _
  · exact .pure true

theorem failsWith_read (entry : FanEntry) (id : Oid) :
    FailsWith Unreadable (entry.read io id) := by
  rw [read]
  refine entry.failsWith_isPresent.bind fun present => ?_
  cases present with
  | false => exact .pure _
  | true =>
    refine (failsWith_dirStatus entry.dir).bind fun dir => ?_
    refine (failsWith_hasFault entry.fault).bind fun fault => ?_
    refine (failsWith_readOptional entry.rpm).bind fun rpm => ?_
    refine (entry.failsWith_percentageOf _).bind fun percentage => ?_
    refine (failsWith_label entry.model).bind fun model => ?_
    exact (failsWith_label entry.serial).bind fun serial => .pure _

end FanEntry

/-! ## Power supplies -/

namespace PsuEntry

theorem failsWith_readValue {errs : StatusError → Prop} (device attr : String) (cap : PsuCaps)
    (divisor : Int) : FailsWith errs (readValue io device attr cap divisor) := by
  rw [readValue]
  refine (FailsWith.attempt _).bind fun outcome => ?_
  cases outcome <;> exact .pure _

theorem failsWith_readValues {errs : StatusError → Prop} (device : String) (r : PsuReading) :
    FailsWith errs (readValues io device r) := by
  rw [readValues]
  iterate 6 refine (failsWith_readValue device _ _ _).bind fun _ => ?_
  exact .pure _

/-- The electrical values are added under the same header. -/
theorem header_readValues {device : String} {r r' : PsuReading} {m : Machine}
    (h : (readValues io device r m).1 = .ok r') : r'.header = r.header := by
  rw [readValues] at h
  iterate 6 obtain ⟨_, -, h⟩ := ok_of_bind h
  cases h
  rfl

theorem failsWith_read (entry : PsuEntry) (id : Oid) :
    FailsWith Unreadable (entry.read io id) := by
  rw [read]
  refine (failsWith_asserted entry.present).bind fun present => ?_
  cases present with
  | false => exact .pure _
  | true =>
    refine (failsWith_deasserted entry.inputGood).bind fun unplugged => ?_
    refine (failsWith_deasserted entry.powerGood).bind fun failed => ?_
    refine (failsWith_label entry.model).bind fun model => ?_
    refine (failsWith_label entry.serial).bind fun serial => ?_
    split
    · exact .pure _
    · dsimp only
      split
      · exact failsWith_readValues _ _
      · exact .pure _

theorem header_read {entry : PsuEntry} {id : Oid} {m : Machine} {r : PsuReading}
    (h : (entry.read io id m).1 = .ok r) : r.header = entry.header id := by
  rw [read] at h
  obtain ⟨present, -, h⟩ := ok_of_bind h
  cases present with
  | false =>
    cases h
    rfl
  | true =>
    obtain ⟨unplugged, -, h⟩ := ok_of_bind h
    obtain ⟨failed, -, h⟩ := ok_of_bind h
    obtain ⟨model, -, h⟩ := ok_of_bind h
    obtain ⟨serial, -, h⟩ := ok_of_bind h
    split at h
    · cases h
      rfl
    · dsimp only at h
      split at h
      · rw [header_readValues h]
      · cases h
        rfl

end PsuEntry

/-! ## Leds -/

namespace LedEntry

theorem failsWith_read (entry : LedEntry) (id : Oid) :
    FailsWith Unreadable (entry.read io id) := by
  rw [read]
  exact (failsWith_read? entry.locator).bind fun _ => .pure _

theorem header_read {entry : LedEntry} {id : Oid} {m : Machine} {r : LedReading}
    (h : (entry.read io id m).1 = .ok r) : r.header = entry.header id := by
  rw [read] at h
  obtain ⟨raw, -, h⟩ := ok_of_bind h
  cases h
  unfold reading
  split <;> rfl

end LedEntry

namespace Board

variable {b : Board} {id : Oid}

/-! ## Objects of any kind -/

/-- An object is read under a header, or fails at an attribute that cannot be used. -/
structure ReadsUnder (h : Header) (x : Access ObjectReading) : Prop where
  header : ∀ m r, (x m).1 = .ok r → r.header = h
  fails : FailsWith Unreadable x

/-- The reading of an entry, as one of an object. -/
theorem ReadsUnder.of_entry {α : Type} {x : Access α} {wrap : α → ObjectReading} {h : Header}
    (header : ∀ m a, (x m).1 = .ok a → (wrap a).header = h) (fails : FailsWith Unreadable x) :
    ReadsUnder h (do return wrap (← x)) where
  header m r hr := by
    obtain ⟨a, ha, hr⟩ := ok_of_bind hr
    cases hr
    exact header m a ha
  fails := fails.bind fun _ => .pure _

theorem psu_read_eq {e : PsuEntry} (h : lookup? .psu b.psus id = some e) :
    (b.operations io).psu.read id = e.read io id := by
  show (Action.ofExcept (find .psu b.psus id) >>= fun e => e.read io id) = _
  rw [find_of_lookup h]
  rfl

theorem led_read_eq {e : LedEntry} (h : lookup? .led b.leds id = some e) :
    (b.operations io).led.read id = e.read io id := by
  show (Action.ofExcept (find .led b.leds id) >>= fun e => e.read io id) = _
  rw [find_of_lookup h]
  rfl

/-- The state of a sensor. -/
theorem read_thermal {e : ThermalEntry} (h : lookup? .thermal b.thermals id = some e) :
    (b.platform io).read id = (do return .thermal (← e.read io id)) := by
  rw [Platform.read, (lookup?_eq_some_iff.1 h).1, ← thermal_read_eq h]
  rfl

theorem read_fan {e : FanEntry} (h : lookup? .fan b.fans id = some e) :
    (b.platform io).read id = (do return .fan (← e.read io id)) := by
  rw [Platform.read, (lookup?_eq_some_iff.1 h).1, ← fan_read_eq h]
  rfl

theorem read_psu {e : PsuEntry} (h : lookup? .psu b.psus id = some e) :
    (b.platform io).read id = (do return .psu (← e.read io id)) := by
  rw [Platform.read, (lookup?_eq_some_iff.1 h).1, ← psu_read_eq h]
  rfl

theorem read_led {e : LedEntry} (h : lookup? .led b.leds id = some e) :
    (b.platform io).read id = (do return .led (← e.read io id)) := by
  rw [Platform.read, (lookup?_eq_some_iff.1 h).1, ← led_read_eq h]
  rfl

/-- The ports of a valid board have a line that tells whether there is a module in them. -/
theorem Valid.failsWith_isPortPresent (valid : b.Valid) {port : Nat}
    (hport : port < b.ports.count) :
    FailsWith Unreadable (b.isPortPresent io port) := by
  obtain ⟨line, hline⟩ := Option.isSome_iff_exists.1 (valid.port port hport).1
  have hfound : b.portLine port (some b.ports.present) = .ok line := by
    simp [portLine, checkPortNumber, hport, hline]
  rw [isPortPresent, hfound]
  refine FailsWith.bind (.ofExcept fun _ h => ?_) fun line => ?_
  · cases h
  · exact (failsWith_readLine line).bind fun _ => .pure _

theorem failsWith_moduleKind? {σ : Type} {errs : StatusError → Prop} (p : Platform σ) (port : Nat) :
    FailsWith errs (p.moduleKind? port) := by
  rw [Platform.moduleKind?]
  refine (FailsWith.attempt _).bind fun outcome => ?_
  cases outcome <;> exact .pure _

/-- A module that the board holds has a port. -/
theorem Valid.readsUnder_module (valid : b.Valid) (hk : id.kind = .module)
    (hle : id.index ≤ b.ports.count) :
    ReadsUnder (moduleHeaderOf id) ((b.platform io).readModule id) := by
  have hpos := id.index_pos
  have hheader : (b.platform io).moduleHeader id = fun _ => .ok (moduleHeaderOf id) := by
    funext m
    rw [moduleHeader_eq b io hk, if_pos hle]
  have hport : modulePort id = .ok (id.index - 1) := by rw [modulePort, if_pos hk]
  rw [Platform.readModule, hheader, hport]
  refine ⟨fun m r h => ?_, ?_⟩
  · obtain ⟨header, hok, h⟩ := ok_of_bind h
    cases hok
    obtain ⟨port, -, h⟩ := ok_of_bind h
    obtain ⟨present, -, h⟩ := ok_of_bind h
    cases present with
    | false =>
      cases h
      rfl
    | true =>
      obtain ⟨kind, -, h⟩ := ok_of_bind h
      cases h
      rfl
  · have hlooked : FailsWith Unreadable (.inspect fun _ : Machine => .ok (moduleHeaderOf id)) := by
      refine .inspect fun _ _ h => ?_
      cases h
    refine hlooked.bind fun header => ?_
    have hnumber : FailsWith (σ := Machine) Unreadable (.ofExcept (.ok (id.index - 1))) := by
      refine .ofExcept fun _ h => ?_
      cases h
    refine hnumber.bind_of fun _ port hok => ?_
    cases hok
    refine (valid.failsWith_isPortPresent (by omega)).bind fun present => ?_
    cases present with
    | false => exact .pure _
    | true => exact (failsWith_moduleKind? _ _).bind fun kind => .pure _

/-- **Every object of a valid board is read under its header.** -/
theorem Valid.readsUnder (valid : b.Valid) {h : Header} (hh : b.headerOf id = .ok h) :
    ReadsUnder h ((b.platform io).read id) := by
  have hsame : ∀ m, (b.platform io).header id m = .ok h := fun m =>
    (header_eq_headerOf b io id m).trans hh
  rw [headerOf] at hh
  cases hk : id.kind with
  | sys =>
    have hread : (b.platform io).read id =
        (do return .chassis (← Action.inspect ((b.platform io).header id))) := by
      rw [Platform.read, hk]
    rw [hread]
    refine .of_entry (fun m a ha => ?_) (.inspect fun m e he => ?_)
    · exact Except.ok.inj ((hsame m).symm.trans ha) ▸ rfl
    · cases (hsame m).symm.trans he
  | thermal =>
    rw [hk] at hh
    obtain ⟨e, he, rfl⟩ := find_map_eq_ok_iff.1 hh
    rw [read_thermal he]
    refine .of_entry (fun m a ha => ?_) fun m err herr => ?_
    all_goals obtain ⟨r, hr, hheader⟩ := e.exists_read io id m
    · cases hr.symm.trans ha
      exact hheader
    · cases hr.symm.trans herr
  | fan =>
    rw [hk] at hh
    obtain ⟨e, he, rfl⟩ := find_map_eq_ok_iff.1 hh
    rw [read_fan he]
    exact .of_entry (fun _ _ hr => (FanEntry.read_ok hr).1) (e.failsWith_read id)
  | psu =>
    rw [hk] at hh
    obtain ⟨e, he, rfl⟩ := find_map_eq_ok_iff.1 hh
    rw [read_psu he]
    exact .of_entry (fun _ _ hr => PsuEntry.header_read hr) (e.failsWith_read id)
  | led =>
    rw [hk] at hh
    obtain ⟨e, he, rfl⟩ := find_map_eq_ok_iff.1 hh
    rw [read_led he]
    exact .of_entry (fun _ _ hr => LedEntry.header_read hr) (e.failsWith_read id)
  | module =>
    rw [hk] at hh
    dsimp only at hh
    split at hh
    · rename_i hle
      cases hh
      rw [Platform.read, hk]
      exact valid.readsUnder_module hk hle
    · cases hh
  | rtc =>
    rw [hk] at hh
    cases hh

/-! ## Ids that the board does not hold -/

theorem find_map_error {α β : Type} {kind : Oid.Kind} {table : List α} {f : α → β}
    {e : StatusError} (h : (find kind table id).map f = .error e) :
    find kind table id = .error .param ∧ e = .param := by
  unfold find at h ⊢
  split at h
  · cases h
  · cases h
    exact ⟨rfl, rfl⟩

theorem headerOf_eq_error_iff : b.headerOf id = .error .param ↔ b.holds id = false := by
  constructor
  · intro h
    rw [← Bool.not_eq_true, ← headerOf_eq_ok_iff]
    rintro ⟨k, hk⟩
    cases hk.symm.trans h
  · intro h
    cases hh : b.headerOf id with
    | ok k =>
      rw [headerOf_eq_ok_iff.1 ⟨k, hh⟩] at h
      cases h
    | error e =>
      rw [headerOf] at hh
      split at hh
      · split at hh <;> cases hh
        rfl
      iterate 4
        · rw [(find_map_error hh).2]
      · split at hh <;> cases hh
        rfl
      · cases hh
        rfl

/-- Without an entry there is nothing to read. -/
theorem read_of_find_error {α β : Type} {kind : Oid.Kind} {table : List α}
    (h : find kind table id = .error .param) (read : α → Access β) (wrap : β → ObjectReading)
    (m : Machine) :
    ((do return wrap (← (do read (← .ofExcept (find kind table id)))) :
      Access ObjectReading) m).1 = .error .param := by
  rw [h]
  rfl

/-- What has no header cannot be read. -/
theorem read_refused (h : b.headerOf id = .error .param) (m : Machine) :
    ((b.platform io).read id m).1 = .error .param := by
  have hsame : (b.platform io).header id m = .error .param :=
    (header_eq_headerOf b io id m).trans h
  rw [headerOf] at h
  cases hk : id.kind with
  | sys =>
    rw [Platform.read, hk]
    dsimp only
    rw [bind_eq, inspect_apply, hsame]
  | thermal =>
    rw [hk] at h
    rw [Platform.read, hk]
    exact read_of_find_error (find_map_error h).1 _ _ m
  | fan =>
    rw [hk] at h
    rw [Platform.read, hk]
    exact read_of_find_error (find_map_error h).1 _ _ m
  | psu =>
    rw [hk] at h
    rw [Platform.read, hk]
    exact read_of_find_error (find_map_error h).1 _ _ m
  | led =>
    rw [hk] at h
    rw [Platform.read, hk]
    exact read_of_find_error (find_map_error h).1 _ _ m
  | module =>
    have hmodule : (b.platform io).moduleHeader id m = .error .param := by
      rw [Platform.header, hk] at hsame
      exact hsame
    rw [Platform.read, hk]
    dsimp only
    rw [Platform.readModule, bind_eq, inspect_apply, hmodule]
  | rtc =>
    rw [Platform.read, hk]
    dsimp only
    rw [bind_eq, inspect_apply, hsame]

/-- **What reading an object of a valid board promises.** An id that the board does not hold, and
no other, is refused as a parameter by the header and by the reading. An object of the board has one
header at all times, is read under it, and fails only with `invalid` or `internal`; a temperature
sensor is always read. -/
theorem object_reads (valid : b.validate = .ok ()) (io : Io) (id : Oid) (m : Machine) :
    ((b.platform io).header id m = .error .param ↔ b.holds id = false) ∧
    (((b.platform io).read id m).1 = .error .param ↔ b.holds id = false) ∧
    (b.holds id = true → ∃ h, (∀ m', (b.platform io).header id m' = .ok h) ∧
      match ((b.platform io).read id m).1 with
      | .ok r => r.header = h
      | .error e => e = .invalid ∨ e = .internal) ∧
    (b.holds id = true → id.kind = .thermal →
      ∃ r, ((b.platform io).read id m).1 = .ok (.thermal r)) := by
  have hvalid := validate_eq_ok_iff.1 valid
  have hread : ∀ {h}, b.headerOf id = .ok h → ReadsUnder h ((b.platform io).read id) :=
    fun hh => hvalid.readsUnder hh
  refine ⟨?_, ⟨?_, fun hout => read_refused (headerOf_eq_error_iff.2 hout) m⟩, ?_, ?_⟩
  · rw [header_eq_headerOf, headerOf_eq_error_iff]
  · intro hparam
    rw [← Bool.not_eq_true]
    intro hold
    obtain ⟨h, hh⟩ := headerOf_eq_ok hold
    obtain heq | heq := (hread hh).fails m _ hparam <;> cases heq
  · intro hold
    obtain ⟨h, hh⟩ := headerOf_eq_ok hold
    refine ⟨h, fun m' => (header_eq_headerOf b io id m').trans hh, ?_⟩
    cases hr : ((b.platform io).read id m).1 with
    | ok r => exact (hread hh).header m r hr
    | error e => exact (hread hh).fails m e hr
  · intro hold hk
    have hle : id.index ≤ b.thermals.length := by simpa [holds, hk] using hold
    obtain ⟨e, he⟩ := exists_lookup?_iff.2 ⟨hk, hle⟩
    obtain ⟨r, hr, -⟩ := e.exists_read io id m
    rw [read_thermal he, bind_eq, hr]
    exact ⟨r, rfl⟩

/-- The first fan of that board is read under its header or fails at its fault flag; there is no
third fan. -/
theorem twoFans_object_reads :
    twoFans.validate = .ok () ∧ twoFans.holds (oid .fan 0) = true ∧
      (∃ h, (∀ m, (twoFans.platform twoFansIo).header (oid .fan 0) m = .ok h) ∧
        match ((twoFans.platform twoFansIo).read (oid .fan 0) (twoFansMachine "broken")).1 with
        | .ok r => r.header = h
        | .error e => e = .invalid ∨ e = .internal) ∧
      ((twoFans.platform twoFansIo).read (oid .fan 2) (twoFansMachine "broken")).1 =
        .error .param := by
  have first := object_reads (b := twoFans) rfl twoFansIo (oid .fan 0) (twoFansMachine "broken")
  have third := object_reads (b := twoFans) rfl twoFansIo (oid .fan 2) (twoFansMachine "broken")
  exact ⟨rfl, rfl, first.2.2.1 rfl, third.2.1.2 rfl⟩

end Board

end SwitchPlatform
