import SwitchPlatform.Proofs.Board.QuietReadings
import SwitchPlatform.Proofs.Board.ReadContract
import SwitchPlatform.Proofs.Io.ReadBack

/-!
# What fans report

A fan that can be read reports a duty within a percentage, the band of that duty and at most one
direction of the air; it has failed exactly if its fault flag is asserted or it stands still, and a
fan that is not there reports nothing else (`FanEntry.Tells`). `Board.fan_reading_tells` says so for
what the locators of the fan read as on the course of its reading, and on the machine itself if no
locator of the fan is the export attribute.

A fan without a locator for its duty has it derived from its speed. `Board.derivesDuty` compares
what is reported with the exact quotient: they agree as long as the quotient is not below what 32
bits hold, and such a quotient is reported as full duty. There is none exactly if the speed at full
duty is 100 or more.
-/

namespace SwitchPlatform

open SwitchPlatform.Action

variable {io : Io} {id : Oid} {m : Machine}

/-- A flag is asserted exactly if its locator reads as its active level. -/
theorem asserted_iff {s : Signal} : (io.asserted s m).1 = .ok true ↔
    ∃ raw, (io.read s.locator m).1 = .ok raw ∧ ((raw != 0) != s.activeLow) = true := by
  simp only [← read?_eq_some_iff]
  rw [Io.asserted, bind_eq]
  rcases (io.read? s.locator m).1 with e | _ | raw <;> simp

namespace FanEntry

variable {entry : FanEntry} {r : FanReading} {v : Int32}

/-! ## Faults and speeds -/

/-- The fault flag of a fan is asserted. -/
def Faulty (entry : FanEntry) (io : Io) (m : Machine) : Prop :=
  ∃ s ∈ entry.fault, ∃ raw, (io.read s.locator m).1 = .ok raw ∧
    ((raw != 0) != s.activeLow) = true

/-- The speed of a fan reads as a value. -/
def Turns (entry : FanEntry) (io : Io) (m : Machine) (v : Int32) : Prop :=
  ∃ l ∈ entry.rpm, (io.read l m).1 = .ok v

theorem hasFault_iff : (hasFault io entry.fault m).1 = .ok true ↔ entry.Faulty io m := by
  cases hs : entry.fault with
  | none => simp [Faulty, hasFault, hs]
  | some s => simp [Faulty, hasFault, hs, asserted_iff]

theorem readOptional_iff :
    (readOptional io entry.rpm m).1 = .ok (some v) ↔ entry.Turns io m v := by
  cases hl : entry.rpm with
  | none => simp [Turns, readOptional, hl]
  | some l => simp [Turns, readOptional, hl, read?_eq_some_iff]

/-! ## Duties -/

theorem toNat_full : (100 : UInt8).toNat = 100 := rfl

/-- A clamped value is the nearest one within a percentage. -/
theorem toNat_clampPercentage (v : Int) :
    ((clampPercentage v).toNat : Int) = max 0 (min v 100) := by
  unfold clampPercentage
  split_ifs with hlow hhigh
  · rw [UInt8.toNat_zero]
    omega
  · rw [toNat_full]
    omega
  · rw [UInt8.toNat_ofNat_of_lt' (by rw [UInt8.size]; omega)]
    omega

theorem clampPercentage_le (v : Int) : clampPercentage v ≤ 100 := by
  have hvalue := toNat_clampPercentage v
  rw [UInt8.le_iff_toNat_le, toNat_full]
  omega

theorem derivedPercentage_le (rpm maxRpm : Int32) : derivedPercentage rpm maxRpm ≤ 100 := by
  unfold derivedPercentage
  split_ifs
  · split
    · exact clampPercentage_le _
    · exact UInt8.le_refl 100
  · decide

/-- The duty that is read is a percentage, that of the locator if there is one. -/
theorem of_percentageOf {rpm : Int32} {percentage : UInt8}
    (h : (entry.percentageOf io rpm m).1 = .ok percentage) :
    percentage ≤ 100 ∧ (entry.percentage = none → percentage = derivedPercentage rpm entry.maxRpm) ∧
      ∀ l ∈ entry.percentage, ∃ raw, (io.read? l m).1 = .ok raw ∧
        (percentage.toNat : Int) = raw.elim 0 fun d => max 0 (min d.toInt 100) := by
  rw [percentageOf] at h
  cases hl : entry.percentage with
  | none =>
    rw [hl] at h
    cases h
    refine ⟨derivedPercentage_le _ _, fun _ => rfl, ?_⟩
    rintro _ ⟨⟩
  | some l =>
    rw [hl] at h
    have hsome : some l ≠ none := Option.some_ne_none l
    obtain ⟨raw, hraw, h⟩ := ok_of_bind h
    cases raw with
    | none =>
      cases h
      refine ⟨UInt8.zero_le, fun h => absurd h hsome, ?_⟩
      rintro _ ⟨⟩
      exact ⟨none, hraw, rfl⟩
    | some raw =>
      cases h
      refine ⟨clampPercentage_le _, fun h => absurd h hsome, ?_⟩
      rintro _ ⟨⟩
      exact ⟨some raw, hraw, toNat_clampPercentage _⟩

/-! ## Readings -/

/-- Air goes one way at most. -/
theorem of_dirStatus {source : FanDirSource} {dir : FanStatus}
    (h : (dirStatus io source m).1 = .ok dir) :
    dir = .empty ∨ dir = FanStatus.f2b ∨ dir = FanStatus.b2f := by
  rcases source with _ | fixed | ⟨l, f2b⟩
  · cases h
    exact .inl rfl
  · cases h
    cases fixed
    · exact .inr (.inr rfl)
    · exact .inr (.inl rfl)
  · rw [dirStatus] at h
    obtain ⟨_ | raw, -, h⟩ := ok_of_bind h
    · cases h
      exact .inl rfl
    · cases h
      by_cases hf2b : raw = f2b
      · exact .inr (.inl (if_pos hf2b))
      · exact .inr (.inr (if_neg hf2b))

/-- What the flags of a fan that is there say. -/
theorem flags_present {status dir : FanStatus} {failed : Bool}
    (hdir : dir = .empty ∨ dir = FanStatus.f2b ∨ dir = FanStatus.b2f)
    (hstatus : status = FanStatus.present ||| dir ||| if failed then FanStatus.failed else .empty) :
    status.has FanStatus.present = true ∧ status.has FanStatus.failed = failed ∧
      ¬(status.has FanStatus.f2b = true ∧ status.has FanStatus.b2f = true) := by
  subst hstatus
  rcases hdir with rfl | rfl | rfl <;> cases failed <;> decide

/-- A reading of a fan that is there says what its locators read as on a course, and one of a fan
that is not there says nothing. -/
structure Tells (entry : FanEntry) (io : Io) (c : Course) (r : FanReading) : Prop where
  percentage_le : r.percentage ≤ 100
  mode : r.mode = .ofPercentage r.percentage
  oneWay : ¬(r.status.has FanStatus.f2b = true ∧ r.status.has FanStatus.b2f = true)
  absent : r.status.has FanStatus.present = false →
    r.status = .empty ∧ r.rpm = 0 ∧ r.percentage = 0 ∧ r.model = "" ∧ r.serial = ""
  failed : r.status.has FanStatus.present = true →
    (r.status.has FanStatus.failed = true ↔ entry.Faulty io c.fault ∨ entry.Turns io c.rpm 0)
  speed : r.status.has FanStatus.present = true → ∀ v, entry.Turns io c.rpm v → r.rpm = v
  duty : r.status.has FanStatus.present = true → ∀ l ∈ entry.percentage,
    ∃ raw, (io.read? l c.duty).1 = .ok raw ∧
      (r.percentage.toNat : Int) = raw.elim 0 fun d => max 0 (min d.toInt 100)
  derived : r.status.has FanStatus.present = true → entry.percentage = none →
    r.percentage = derivedPercentage r.rpm entry.maxRpm

theorem Seen.tells {c : Course} (seen : entry.Seen io id c r) : entry.Tells io c r := by
  cases seen with
  | absent hpresent =>
    have hempty : ¬(Flags.empty : FanStatus).has FanStatus.present = true := by decide
    have hway : ¬((Flags.empty : FanStatus).has FanStatus.f2b = true ∧
        (Flags.empty : FanStatus).has FanStatus.b2f = true) := by decide
    refine ⟨UInt8.zero_le, rfl, hway, fun _ => ⟨rfl, rfl, rfl, rfl, rfl⟩, ?_, ?_, ?_, ?_⟩
    all_goals exact fun h => absurd h hempty
  | @present dir fault rpm percentage model serial hpresent hdir hfault hrpm hpercentage =>
    obtain ⟨hthere, hfailed, hway⟩ := flags_present (of_dirStatus hdir) rfl
    obtain ⟨hle, hderived, hduty⟩ := of_percentageOf hpercentage
    refine ⟨hle, rfl, hway, fun h => ?_, fun _ => ?_, fun _ v hv => ?_, fun _ => hduty,
      fun _ => hderived⟩
    · cases hthere.symm.trans h
    · rw [hfailed, ← hasFault_iff, ← readOptional_iff, hfault, hrpm]
      simp
    · cases hrpm.symm.trans (readOptional_iff.2 hv)
      rfl

/-! ## On the course of a reading -/

/-- Every machine of a course is one up to the export attribute. -/
structure Course.ExportOnly (root : Root) (t : FileTree) (c : Course) : Prop where
  presence : root.ExportOnly t c.presence.tree
  dir : root.ExportOnly t c.dir.tree
  fault : root.ExportOnly t c.fault.tree
  rpm : root.ExportOnly t c.rpm.tree
  duty : root.ExportOnly t c.duty.tree

/-- A reading only exports lines on its course. -/
theorem exportOnly_course (entry : FanEntry) (io : Io) (m : Machine) :
    (entry.course io m).ExportOnly io.root m.tree := by
  have hpresence : io.root.ExportOnly m.tree m.tree := .refl _ _
  have hdir := (entry.quiet_isPresent.within _ hpresence).tree
  have hfault := ((quiet_dirStatus entry.dir).within _ hdir).tree
  have hrpm := ((quiet_hasFault entry.fault).within _ hfault).tree
  exact ⟨hpresence, hdir, hfault, hrpm, ((quiet_readOptional entry.rpm).within _ hrpm).tree⟩

/-- The course that stays on one machine. -/
def Course.still (m : Machine) : Course :=
  { presence := m, dir := m, fault := m, rpm := m, duty := m }

/-- Reading the labels comes last. -/
theorem after_duty {dir : FanStatus} {fault : Bool} {rpm : Option Int32} {percentage : UInt8}
    (hpresent : (entry.isPresent io m).1 = .ok true)
    (hdir : (dirStatus io entry.dir (entry.course io m).dir).1 = .ok dir)
    (hfault : (hasFault io entry.fault (entry.course io m).fault).1 = .ok fault)
    (hrpm : (readOptional io entry.rpm (entry.course io m).rpm).1 = .ok rpm)
    (hpercentage :
      (entry.percentageOf io (rpm.getD 0) (entry.course io m).duty).1 = .ok percentage) :
    (entry.percentageOf io (rpm.getD 0) (entry.course io m).duty).2.After
      (io.root.Opens m.tree Gpio.exportPath) m.tree (entry.read io id m).2 := by
  have hpresent' : entry.isPresent io m = (.ok true, (entry.course io m).dir) :=
    Prod.ext hpresent rfl
  have hdir' : dirStatus io entry.dir (entry.course io m).dir =
      (.ok dir, (entry.course io m).fault) := Prod.ext hdir rfl
  have hfault' : hasFault io entry.fault (entry.course io m).fault =
      (.ok fault, (entry.course io m).rpm) := Prod.ext hfault rfl
  have hrpm' : readOptional io entry.rpm (entry.course io m).rpm =
      (.ok rpm, (entry.course io m).duty) := Prod.ext hrpm rfl
  have hduty := ((entry.quiet_percentageOf (rpm.getD 0)).within _
    (entry.exportOnly_course io m).duty).tree
  rw [read, bind_ok hpresent']
  show Machine.After _ _ _ (entry.readPresent io id (entry.course io m).dir).2
  rw [readPresent, bind_ok hdir', bind_ok hfault', bind_ok hrpm',
    bind_ok (Prod.ext hpercentage rfl : entry.percentageOf io _ _ = (.ok percentage, _))]
  exact ((quiet_label entry.model).within.bind fun model =>
    (quiet_label entry.serial).within.bind fun serial => .pure _) _ hduty

/-- **A fan is seen as it is before the reading**, once it is settled whether a controller is
fitted, if no locator of the fan is the export attribute. -/
theorem seen_still (h : (entry.read io id m).1 = .ok r) (spared : entry.Spared io m.tree) :
    entry.Seen io id (.still { m with bmcFitted := (entry.read io id m).2.bmcFitted }) r := by
  have along := entry.exportOnly_course io m
  have hstill : io.root.ExportOnly m.tree m.tree := .refl _ _
  have settled : (entry.read io id m).2.Settled (entry.read io id m).2.bmcFitted := .inr rfl
  cases seen_of_read h with
  | absent hpresent =>
    have hend : (entry.read io id m).2 = (entry.isPresent io m).2 := by
      rw [read, bind_ok (Prod.ext hpresent rfl : entry.isPresent io m = (.ok false, _))]
      rfl
    refine .absent (Eq.trans ?_ hpresent)
    exact entry.quiet_isPresent.same spared.presence _ m hstill hstill (hend ▸ settled)
  | present hpresent hdir hfault hrpm hpercentage =>
    -- what is settled at the end was settled after each question at most
    have settled₅ := (after_duty hpresent hdir hfault hrpm hpercentage).settled settled
    have settled₄ := ((entry.quiet_percentageOf _).within _ along.duty).settled settled₅
    have settled₃ := ((quiet_readOptional entry.rpm).within _ along.rpm).settled settled₄
    have settled₂ := ((quiet_hasFault entry.fault).within _ along.fault).settled settled₃
    have settled₁ := ((quiet_dirStatus entry.dir).within _ along.dir).settled settled₂
    refine .present (Eq.trans ?_ hpresent) (Eq.trans ?_ hdir) (Eq.trans ?_ hfault)
      (Eq.trans ?_ hrpm) (Eq.trans ?_ hpercentage)
    · exact entry.quiet_isPresent.same spared.presence _ _ hstill along.presence settled₁
    · exact (quiet_dirStatus entry.dir).same spared.dir _ _ hstill along.dir settled₂
    · exact (quiet_hasFault entry.fault).same spared.fault _ _ hstill along.fault settled₃
    · exact (quiet_readOptional entry.rpm).same spared.rpm _ _ hstill along.rpm settled₄
    · exact (entry.quiet_percentageOf _).same spared.duty _ _ hstill along.duty settled₅

/-! ## Derived duties -/

/-- What a speed is in percent of the speed at full duty, towards zero. -/
def quotient (entry : FanEntry) (v : Int32) : Int :=
  (v.toInt * 100).tdiv entry.maxRpm.toInt

theorem maxRpm_pos (hmax : 0 < entry.maxRpm) : 0 < entry.maxRpm.toInt := by
  rwa [Int32.lt_iff_toInt_lt, Int32.toInt_zero] at hmax

theorem quotient_mono (hmax : 0 < entry.maxRpm) {v' : Int32} (h : v ≤ v') :
    entry.quotient v ≤ entry.quotient v' := by
  have hle := Int32.le_iff_toInt_le.1 h
  exact Int.tdiv_le_tdiv (maxRpm_pos hmax) (by omega)

/-- The derived duty is the quotient within a percentage, but full duty for a quotient below what 32
bits hold. -/
theorem toNat_derivedPercentage (hmax : 0 < entry.maxRpm) (v : Int32) :
    ((derivedPercentage v entry.maxRpm).toNat : Int) =
      if -2147483648 ≤ entry.quotient v then max 0 (min (entry.quotient v) 100) else 100 := by
  rw [derivedPercentage, if_pos hmax, ← quotient]
  cases hq : Text.int32? (entry.quotient v) with
  | some quotient =>
    have hlow := quotient.le_toInt
    rw [Text.toInt_of_int32? hq] at hlow
    rw [toNat_clampPercentage, Text.toInt_of_int32? hq, if_pos (by omega)]
  | none =>
    rw [toNat_full]
    rw [Text.int32?] at hq
    split_ifs at hq
    split_ifs <;> omega

/-- The least speed has a quotient that 32 bits hold exactly if full duty is 100 turns or more. -/
theorem le_quotient_minValue_iff (hmax : 0 < entry.maxRpm) :
    -2147483648 ≤ entry.quotient Int32.minValue ↔ 100 ≤ entry.maxRpm := by
  have hpos := maxRpm_pos hmax
  have hquotient : entry.quotient Int32.minValue = -(214748364800 / entry.maxRpm.toInt) := by
    have hproduct : Int32.minValue.toInt * 100 = -214748364800 := by decide
    rw [quotient, hproduct, Int.neg_tdiv, Int.tdiv_eq_ediv_of_nonneg (by decide)]
  have hbelow := Int.ediv_lt_iff_lt_mul (a := 214748364800) (b := 2147483649) hpos
  rw [hquotient, Int32.le_iff_toInt_le, show (100 : Int32).toInt = 100 from rfl]
  omega

/-- Every speed has such a quotient if the least one does. -/
theorem forall_le_quotient_iff (hmax : 0 < entry.maxRpm) :
    (∀ v, -2147483648 ≤ entry.quotient v) ↔ 100 ≤ entry.maxRpm := by
  rw [← le_quotient_minValue_iff hmax]
  exact ⟨fun h => h _, fun h v => h.trans (quotient_mono hmax v.minValue_le)⟩

end FanEntry

/-! ## Fans of a board -/

namespace Board

variable {b : Board}

/-- Reading a fan of a board is reading its entry. -/
theorem read_of_fan_read {e : FanEntry} {r : FanReading} (he : lookup? .fan b.fans id = some e)
    (h : ((b.platform io).fan.read id m).1 = .ok r) : (e.read io id m).1 = .ok r := by
  rw [← fan_read_eq he]
  exact h

/-- What is read as a fan has an entry. -/
theorem exists_of_fan_read {r : FanReading} (h : ((b.platform io).fan.read id m).1 = .ok r) :
    ∃ e, lookup? .fan b.fans id = some e := by
  obtain ⟨e, hfind, -⟩ := ok_of_bind h
  exact ⟨e, lookup_of_find hfind⟩

/-- **What the reading of a fan tells.** -/
theorem fan_reading_tells {r : FanReading} (h : ((b.platform io).fan.read id m).1 = .ok r) :
    ∃ e, lookup? .fan b.fans id = some e ∧ e.Tells io (e.course io m) r ∧
      (e.course io m).ExportOnly io.root m.tree ∧
      (e.Spared io m.tree → e.Tells io
        (.still { m with bmcFitted := ((b.platform io).fan.read id m).2.bmcFitted }) r) := by
  obtain ⟨e, he⟩ := exists_of_fan_read h
  have hread := read_of_fan_read he h
  have hsame : (b.platform io).fan.read id = e.read io id := fan_read_eq he
  refine ⟨e, he, (FanEntry.seen_of_read hread).tells, e.exportOnly_course io m, fun spared => ?_⟩
  rw [hsame]
  exact (FanEntry.seen_still hread spared).tells

/-- A fan with a presence flag and a fault flag that are active low, and a direction, a speed and a
duty to be read. -/
def trayFan : FanEntry :=
  { description := "Fan 1", parent := .chassis, caps := FanCaps.getPercentage
    present := some ⟨.file "/present", true⟩, fault := some ⟨.file "/fault", true⟩
    rpm := some (.file "/rpm"), percentage := some (.file "/duty")
    dir := .attribute (.file "/dir") 1 }

/-- A board with that fan. -/
def trayBoard : Board :=
  { name := "tray"
    fans := [trayFan]
    ports := { count := 0, present := .gpio [] false, eepromBus := [], eeprom := ⟨""⟩ } }

/-- That fan stands still at a duty of 140, so it has failed at full duty. -/
theorem trayBoard_reading_tells :
    let m : Machine := { tree := .dir [("present", .file (Text.Utf8.encode "0")),
      ("fault", .file (Text.Utf8.encode "1")), ("rpm", .file (Text.Utf8.encode "0")),
      ("duty", .file (Text.Utf8.encode "140")), ("dir", .file (Text.Utf8.encode "1"))] }
    let io := trayBoard.io ⟨"/"⟩ .auto
    ∃ r, ((trayBoard.platform io).fan.read (.fan 1) m).1 = .ok r ∧ r.mode = .max ∧
      r.status = FanStatus.present ||| FanStatus.f2b ||| FanStatus.failed ∧
      trayFan.Turns io (trayFan.course io m).rpm 0 ∧ trayFan.Tells io (trayFan.course io m) r ∧
      trayFan.Tells io (.still m) r := by
  intro m io
  let r : FanReading :=
    { header := { id := .fan 1, description := "Fan 1", parent := .chassis }
      status := FanStatus.present ||| FanStatus.f2b ||| FanStatus.failed
      caps := FanCaps.getPercentage, rpm := 0, percentage := 100, mode := .max, model := ""
      serial := "" }
  have hread : ((trayBoard.platform io).fan.read (.fan 1) m).1 = .ok r := by decide +kernel
  have plain : trayFan.locators.all isPlain = true := by decide +kernel
  have hfitted : ((trayBoard.platform io).fan.read (.fan 1) m).2.bmcFitted = none := by
    decide +kernel
  obtain ⟨e, he, tells, -, still⟩ := fan_reading_tells hread
  obtain rfl : trayFan = e := Option.some.inj he
  rw [hfitted] at still
  refine ⟨r, hread, rfl, rfl, ⟨_, rfl, by decide +kernel⟩, tells, still fun l hl => ?_⟩
  exact spares_of_isPlain (List.all_eq_true.1 plain l hl)

/-- A fan that is there was read, and its speed too. -/
structure ReadsSpeed (b : Board) (io : Io) (id : Oid) (e : FanEntry) (m : Machine) (v : Int32)
    (r : FanReading) : Prop where
  read : ((b.platform io).fan.read id m).1 = .ok r
  present : r.status.has FanStatus.present = true
  speed : e.Turns io (e.course io m).rpm v

/-- How the duty of a fan is derived from its speed: exactly, but for speeds so negative that their
quotient is below what 32 bits hold. -/
structure DerivesDuty (b : Board) (io : Io) (id : Oid) (e : FanEntry) : Prop where
  agrees_iff : ∀ m v r, b.ReadsSpeed io id e m v r →
    ((r.percentage.toNat : Int) = max 0 (min (e.quotient v) 100) ↔ -2147483648 ≤ e.quotient v)
  full : ∀ m v r, b.ReadsSpeed io id e m v r → e.quotient v < -2147483648 → r.percentage = 100
  mono_iff : ∀ m v r m' v' r', b.ReadsSpeed io id e m v r → b.ReadsSpeed io id e m' v' r' → v ≤ v' →
    (r.percentage ≤ r'.percentage ↔
      -2147483648 ≤ e.quotient v ∨ e.quotient v' < -2147483648 ∨ 100 ≤ e.quotient v')
  always_iff : (∀ v, -2147483648 ≤ e.quotient v) ↔ 100 ≤ e.maxRpm

/-- The duty that is reported of a fan without a locator for it. -/
theorem ReadsSpeed.percentage_eq {e : FanEntry} {v : Int32} {r : FanReading}
    (h : b.ReadsSpeed io id e m v r) (he : lookup? .fan b.fans id = some e)
    (hduty : e.percentage = none) (hmax : 0 < e.maxRpm) :
    (r.percentage.toNat : Int) =
      if -2147483648 ≤ e.quotient v then max 0 (min (e.quotient v) 100) else 100 := by
  obtain ⟨hread, present, hv⟩ := h
  have tells := (FanEntry.seen_of_read (read_of_fan_read he hread)).tells
  rw [tells.derived present hduty, tells.speed present v hv]
  exact FanEntry.toNat_derivedPercentage hmax v

/-- **How the duty of a fan is derived from its speed.** -/
theorem derivesDuty {e : FanEntry} (he : lookup? .fan b.fans id = some e)
    (hduty : e.percentage = none) (hmax : 0 < e.maxRpm) : b.DerivesDuty io id e := by
  refine ⟨fun m v r h => ?_, fun m v r h hbelow => ?_, fun m v r m' v' r' h h' hle => ?_,
    FanEntry.forall_le_quotient_iff hmax⟩
  · rw [h.percentage_eq he hduty hmax]
    split_ifs <;> omega
  · have hvalue := h.percentage_eq he hduty hmax
    rw [if_neg (by omega)] at hvalue
    exact UInt8.toNat_inj.1 (by rw [FanEntry.toNat_full]; omega)
  · have hvalue := h.percentage_eq he hduty hmax
    have hvalue' := h'.percentage_eq he hduty hmax
    have hquotient := FanEntry.quotient_mono hmax hle
    rw [UInt8.le_iff_toNat_le]
    split_ifs at hvalue hvalue' <;> omega

/-- A fan without a locator for its duty that turns ten times at full duty. -/
def slowFan : FanEntry :=
  { description := "Fan 1", parent := .chassis, caps := FanCaps.getRpm
    rpm := some (.file "/fan_rpm"), maxRpm := 10 }

/-- A board with that fan. -/
def slowBoard : Board :=
  { name := "slow"
    fans := [slowFan]
    ports := { count := 0, present := .gpio [] false, eepromBus := [], eeprom := ⟨""⟩ } }

/-- The reading of that fan with a speed. -/
def slowReading (id : Oid) (rpm : Int32) (percentage : UInt8) : FanReading :=
  { header := slowFan.header id
    status := FanStatus.present, caps := FanCaps.getRpm, rpm := rpm, percentage := percentage
    mode := .ofPercentage percentage, model := "", serial := "" }

/-- That fan, on a machine where its speed reads as a text. -/
def slowMachine (text : String) : Machine :=
  { tree := .dir [("fan_rpm", .file (Text.Utf8.encode text))] }

/-- Half of full duty. -/
theorem slowBoard_derivesDuty :
    let io := slowBoard.io ⟨"/"⟩ .auto
    slowBoard.validate = .ok () ∧ lookup? .fan slowBoard.fans (.fan 1) = some slowFan ∧
      slowFan.percentage = none ∧ 0 < slowFan.maxRpm ∧ slowBoard.DerivesDuty io (.fan 1) slowFan ∧
      slowBoard.ReadsSpeed io (.fan 1) slowFan (slowMachine "5") 5 (slowReading (.fan 1) 5 50) ∧
      -2147483648 ≤ slowFan.quotient 5 := by
  intro io
  have derives : slowBoard.DerivesDuty io (.fan 1) slowFan := derivesDuty rfl rfl (by decide)
  refine ⟨by decide, rfl, rfl, by decide, derives, ⟨?_, rfl, _, rfl, ?_⟩, ?_⟩
  all_goals decide +kernel

/-- **A very negative speed is reported as full duty.** -/
theorem slowBoard_full :
    let io := slowBoard.io ⟨"/"⟩ .auto
    slowBoard.validate = .ok () ∧ lookup? .fan slowBoard.fans (.fan 1) = some slowFan ∧
      slowFan.percentage = none ∧ 0 < slowFan.maxRpm ∧
      slowBoard.ReadsSpeed io (.fan 1) slowFan (slowMachine "-1000000000") (-1000000000)
        (slowReading (.fan 1) (-1000000000) 100) ∧
      ((slowReading (.fan 1) (-1000000000) 100).percentage.toNat : Int) ≠
        max 0 (min (slowFan.quotient (-1000000000)) 100) := by
  intro io
  refine ⟨by decide, rfl, rfl, by decide, ⟨?_, rfl, _, rfl, ?_⟩, ?_⟩
  all_goals decide +kernel

end Board
end SwitchPlatform
