import SwitchPlatform.Proofs.Board.Unmanaged
import SwitchPlatform.Proofs.Io.ReadBack
import SwitchPlatform.Proofs.Reading.Flags

/-!
# Modes of the leds

An led shows a mode by the register value that its table has for it. `Board.ledModes_agree` says
that showing and reading agree for every led of a valid board: the capabilities are the modes of
the table, exactly these can be shown, an attribute that was told to show a mode reads as that
mode, and a register value outside of the table reads as `off`.

A mode is looked up in the table from the left, and so is a register value. The two are inverse
(`LedEntry.modeOf_of_rawOf?`) because a valid table has each register value once, although it may
have several of them for one mode.
-/

namespace SwitchPlatform

open SwitchPlatform.Action

variable {entry : LedEntry} {io : Io} {id : Oid} {m : Machine} {mode : LedMode} {raw : Int32}

/-! ## The table of an led -/

namespace LedEntry

theorem rawOf?_eq_none_iff : entry.rawOf? mode = none ↔ mode ∉ entry.modes.map Prod.snd := by
  rw [rawOf?, Option.map_eq_none_iff, List.find?_eq_none]
  simp only [beq_iff_eq, List.mem_map, not_exists, not_and]

theorem mem_of_rawOf? (h : entry.rawOf? mode = some raw) : (raw, mode) ∈ entry.modes := by
  obtain ⟨⟨raw', mode'⟩, hfind, rfl⟩ := Option.map_eq_some_iff.1 h
  have hmode := List.find?_some hfind
  obtain rfl : mode' = mode := eq_of_beq hmode
  exact List.mem_of_find?_eq_some hfind

/-- A register value that is in the table once stands for its mode. -/
theorem modeOf_of_mem (once : (entry.modes.map Prod.fst).Nodup) (h : (raw, mode) ∈ entry.modes) :
    entry.modeOf raw = mode := by
  have hfind : entry.modes.find? (fun p => p.1 == raw) = some (raw, mode) := by
    rw [List.find?_eq_some_iff_append]
    obtain ⟨front, rest, hsplit⟩ := List.append_of_mem h
    refine ⟨beq_self_eq_true raw, front, rest, hsplit, fun p hp => ?_⟩
    rw [hsplit, List.map_append, List.map_cons] at once
    have hne : p.1 ≠ raw := (List.nodup_append.1 once).2.2 _ (List.mem_map_of_mem hp) raw
      List.mem_cons_self
    simpa using hne
  rw [modeOf, hfind]
  rfl

theorem modeOf_of_rawOf? (once : (entry.modes.map Prod.fst).Nodup)
    (h : entry.rawOf? mode = some raw) : entry.modeOf raw = mode :=
  modeOf_of_mem once (mem_of_rawOf? h)

theorem modeOf_of_not_mem (h : raw ∉ entry.modes.map Prod.fst) : entry.modeOf raw = .off := by
  have hfind : entry.modes.find? (fun p => p.1 == raw) = none := by
    rw [List.find?_eq_none]
    exact fun p hp heq => h (List.mem_map.2 ⟨p, hp, eq_of_beq heq⟩)
  rw [modeOf, hfind]
  rfl

end LedEntry

/-! ## Readings -/

/-- A reading of an led that is there, has not failed and shows a mode. It is on unless the mode is
`off`. -/
structure LedReading.Shows (r : LedReading) (shown : LedMode) : Prop where
  present : r.status.has LedStatus.present = true
  failed : r.status.has LedStatus.failed = false
  mode : r.mode = shown
  on : r.status.has LedStatus.on = true ↔ shown ≠ .off

namespace LedEntry

/-- A register value is read as the mode that it stands for. -/
theorem reading_shows (entry : LedEntry) (id : Oid) (raw : Int32) :
    (entry.reading id (some raw)).Shows (entry.modeOf raw) := by
  have hstatus : (entry.reading id (some raw)).status =
      if entry.modeOf raw = .off then LedStatus.present
      else LedStatus.present ||| LedStatus.on := rfl
  by_cases hoff : entry.modeOf raw = .off
  · rw [if_pos hoff] at hstatus
    refine ⟨?_, ?_, rfl, ?_⟩
    all_goals rw [hstatus]
    · decide
    · decide
    · exact iff_of_false (by decide) (not_not.2 hoff)
  · rw [if_neg hoff] at hstatus
    refine ⟨?_, ?_, rfl, ?_⟩
    all_goals rw [hstatus]
    · decide
    · decide
    · exact iff_of_true (by decide) hoff

theorem read_fst (entry : LedEntry) (io : Io) (id : Oid) (m : Machine) :
    (entry.read io id m).1 = (io.read? entry.locator m).1.map (entry.reading id) := by
  rw [read, bind_eq]
  cases (io.read? entry.locator m).1 <;> rfl

/-- An led whose locator can be read shows the mode of its register value. -/
theorem read_of_raw (h : (io.read entry.locator m).1 = .ok raw) :
    (entry.read io id m).1 = .ok (entry.reading id (some raw)) := by
  rw [read_fst, read?_eq_some_iff.2 h]
  rfl

theorem caps_of_read {r : LedReading} (h : (entry.read io id m).1 = .ok r) :
    r.caps = entry.caps := by
  rw [read_fst] at h
  cases hraw : (io.read? entry.locator m).1 with
  | error e =>
    rw [hraw] at h
    cases h
  | ok raw =>
    rw [hraw] at h
    cases h
    cases raw <;> rfl

end LedEntry

/-! ## Agreement -/

namespace Board

variable {b : Board}

/-- Showing the modes of an led and reading them agree, on every machine. -/
structure LedModesAgree (b : Board) (io : Io) (id : Oid) (e : LedEntry) : Prop where
  /-- The capabilities list the modes of the table, once each, and are the same for every table
  with these modes. -/
  caps : ∀ m r, ((b.platform io).led.read id m).1 = .ok r →
    r.caps.modes = LedMode.all.filter (· ∈ e.modes.map Prod.snd) ∧
    ∀ modes, (∀ mode, mode ∈ modes ↔ mode ∈ e.modes.map Prod.snd) → r.caps = .ofModes modes
  /-- Exactly the modes that are not among the capabilities are unsupported. -/
  unsupported : ∀ mode m m' r, ((b.platform io).led.read id m').1 = .ok r →
    (((b.platform io).led.setMode id mode m).1 = .error (.status .unsupported) ↔
      mode ∉ r.caps.modes)
  /-- An attribute shows the mode that it was told to show. -/
  shown : e.locator.IsAttribute → ∀ mode m, ((b.platform io).led.setMode id mode m).1 = .ok () →
    ∃ r, ((b.platform io).led.read id ((b.platform io).led.setMode id mode m).2).1 = .ok r ∧
      r.Shows mode
  /-- A register value outside of the table shows nothing. -/
  unknown : ∀ m raw, (io.read e.locator m).1 = .ok raw → raw ∉ e.modes.map Prod.fst →
    ∃ r, ((b.platform io).led.read id m).1 = .ok r ∧ r.Shows .off

/-- The capabilities of an led have the modes of its table. -/
theorem mem_modes_caps {e : LedEntry} : mode ∈ e.caps.modes ↔ mode ∈ e.modes.map Prod.snd := by
  rw [LedEntry.caps, LedCaps.modes_ofModes, List.mem_filter, decide_eq_true_eq]
  exact and_iff_right mode.mem_all

/-- A mode that is not in the table is the only thing unsupported. -/
theorem setLedMode_unsupported_iff {e : LedEntry} (he : lookup? .led b.leds id = some e)
    (root : Root) (bmc : Bmc.Mode) :
    (b.setLedMode (b.io root bmc) id mode m).1 = .error (.status .unsupported) ↔
      mode ∉ e.modes.map Prod.snd := by
  rw [b.setLedMode_eq _ he, ← LedEntry.rawOf?_eq_none_iff]
  cases e.rawOf? mode with
  | none => exact iff_of_true rfl rfl
  | some raw => exact iff_of_false (b.write_supported root bmc _ _ _) (Option.some_ne_none raw)

/-- An attribute reads as the register value of the mode that was shown. -/
theorem rawOf?_of_setLedMode {e : LedEntry} (he : lookup? .led b.leds id = some e)
    (hl : e.locator.IsAttribute) (ok : (b.setLedMode io id mode m).1 = .ok ()) :
    ∃ raw, e.rawOf? mode = some raw ∧
      (io.read e.locator (b.setLedMode io id mode m).2).1 = .ok raw := by
  rw [b.setLedMode_eq io he] at ok ⊢
  cases hraw : e.rawOf? mode with
  | none =>
    rw [hraw] at ok
    cases ok
  | some raw =>
    rw [hraw] at ok
    exact ⟨raw, rfl, hl.read_of_write ok⟩

/-- **Showing and reading the modes of the leds of a valid board agree.** -/
theorem ledModes_agree (valid : b.validate = .ok ()) (root : Root) (bmc : Bmc.Mode) {e : LedEntry}
    (he : lookup? .led b.leds id = some e) : b.LedModesAgree (b.io root bmc) id e := by
  have hread : ((b.platform (b.io root bmc)).led.read id) = e.read (b.io root bmc) id :=
    led_read_eq he
  have once : (e.modes.map Prod.fst).Nodup :=
    ((validate_eq_ok_iff.1 valid).led_modes e
      (List.mem_of_getElem? (lookup?_eq_some_iff.1 he).2)).2
  refine ⟨?_, ?_, ?_, ?_⟩
  all_goals rw [hread]
  · intro m r hr
    rw [LedEntry.caps_of_read hr]
    refine ⟨LedCaps.modes_ofModes _, fun modes hmodes => ?_⟩
    exact LedCaps.ofModes_congr fun mode => (hmodes mode).symm
  · intro mode m m' r hr
    rw [LedEntry.caps_of_read hr, mem_modes_caps]
    exact setLedMode_unsupported_iff he root bmc
  · intro hl mode m ok
    obtain ⟨raw, hraw, hwritten⟩ := rawOf?_of_setLedMode he hl ok
    refine ⟨_, LedEntry.read_of_raw hwritten, ?_⟩
    exact LedEntry.modeOf_of_rawOf? once hraw ▸ e.reading_shows id raw
  · intro m raw hraw hout
    refine ⟨_, LedEntry.read_of_raw hraw, ?_⟩
    exact LedEntry.modeOf_of_not_mem hout ▸ e.reading_shows id raw

/-- An led with two register values for one of its modes. -/
def twoGreens : LedEntry :=
  { description := "System", locator := .file "/led"
    modes := [(3, .green), (0, .off), (5, .green), (1, .orange)] }

/-- A board with that led. -/
def greenBoard : Board :=
  { name := "green"
    leds := [twoGreens]
    ports := { count := 0, present := .gpio [] false, eepromBus := [], eeprom := ⟨""⟩ } }

/-- That led shows green, by the first of the two register values; it reads the value 9 as `off`,
and cannot be red. -/
theorem greenBoard_ledModes :
    let p := greenBoard.platform (greenBoard.io ⟨"/"⟩ .auto)
    let m : Machine := { tree := .dir [("led", .file [57])] }
    let after := (p.led.setMode (.led 1) .green m).2
    greenBoard.validate = .ok () ∧ lookup? .led greenBoard.leds (.led 1) = some twoGreens ∧
      twoGreens.locator.IsAttribute ∧ (p.led.setMode (.led 1) .green m).1 = .ok () ∧
      after.tree.fileAt? ["led"] = some [51] ∧
      (∃ r, (p.led.read (.led 1) m).1 = .ok r ∧ r.Shows .off ∧
        r.caps.modes = [.off, .orange, .green] ∧
        (p.led.setMode (.led 1) .red m).1 = .error (.status .unsupported)) ∧
      ∃ r, (p.led.read (.led 1) after).1 = .ok r ∧ r.Shows .green := by
  intro p m after
  have agree : greenBoard.LedModesAgree (greenBoard.io ⟨"/"⟩ .auto) (.led 1) twoGreens :=
    ledModes_agree (by decide) ⟨"/"⟩ .auto rfl
  have ok : (p.led.setMode (.led 1) .green m).1 = .ok () := by decide +kernel
  have hraw : ((greenBoard.io ⟨"/"⟩ .auto).read twoGreens.locator m).1 = .ok 9 := by decide +kernel
  obtain ⟨r, hr, hshows⟩ := agree.unknown m 9 hraw (by decide)
  have hmodes : r.caps.modes = [.off, .orange, .green] := (agree.caps m r hr).1
  refine ⟨by decide, rfl, .file "/led", ok, by decide +kernel, ⟨r, hr, hshows, hmodes, ?_⟩, ?_⟩
  · exact (agree.unsupported .red m m r hr).2 (hmodes ▸ by decide)
  · exact agree.shown (.file "/led") .green m ok

end Board

end SwitchPlatform
