import SwitchPlatform.Proofs.Board.FanDuty
import SwitchPlatform.Proofs.Board.ReadingsInStep

/-!
# Management passes in step

On two machines over a ground that suits a board, a scan finds the same temperature, the same
faults, and the same fans to be set (`inStep_scanFans`); the fans are told one duty in step, since
the duty of each of them is an integer (`inStep_tell`); and a pass over the leds shows the same
(`inStep_manageLeds`).
-/

namespace SwitchPlatform

open FileTree (Location SameBut)

variable {g : Ground}

/-- Commands in step are run in step. -/
theorem inStep_driveAll {xs : List (Command Machine Unit)}
    (h : ∀ x ∈ xs, InStep g (· = ·) x x) : InStep g (· = ·) (driveAll xs) (driveAll xs) := by
  induction xs with
  | nil => exact .pure rfl
  | cons x xs ih =>
    have hrest := ih fun y hy => h y (List.mem_cons_of_mem _ hy)
    rw [driveAll]
    refine (h x List.mem_cons_self).attempt.bind ?_
    rintro _ _ (_ | fault)
    · exact hrest
    · cases fault with
      | quotientOverflow => exact .fail _
      | status e =>
        refine hrest.attempt.bind ?_
        rintro _ _ (_ | fault)
        · exact .fail _
        · cases fault <;> exact .fail _

/-- What the led of a power supply shows depends on its status. -/
theorem psuLedMode_congr {r r' : PsuReading} (h : r.status = r'.status) :
    Platform.psuLedMode (.ok r) = Platform.psuLedMode (.ok r') := by
  unfold Platform.psuLedMode PsuReading.isHealthy
  dsimp only
  rw [h]

/-! ## What suits a board -/

namespace Board

variable {b : Board}

/-- The locators that tell how hot the board is, and whether its fans and power supplies are there
and work. -/
def healthLocators (b : Board) : List Locator :=
  b.thermals.map ThermalEntry.input ++ b.fans.flatMap FanEntry.healthLocators ++
    b.psus.flatMap PsuEntry.healthLocators

/-- A ground that has the duties and the leds of a board among its files, and whose files are not
read for the health of the board. -/
structure Suits (b : Board) (g : Ground) : Prop where
  duty_attribute : ∀ e ∈ b.fans, ∀ l ∈ e.percentage, l.IsAttribute
  led_attribute : ∀ e ∈ b.leds, e.locator.IsAttribute
  duty : ∀ e ∈ b.fans, ∀ loc, e.DutyFile g.io g.tree loc → g.duty loc
  led : ∀ e ∈ b.leds, ∀ loc, e.locator.Targets g.io g.tree loc → g.led loc
  health : ∀ l ∈ b.healthLocators, g.Spares l

/-! ## Scans that found the same -/

/-- Readings of one fan of the tables that agree on its health. -/
def SameFan (b : Board) (g : Ground) (id : Oid) (r r' : FanReading) : Prop :=
  ∃ e, lookup? .fan b.fans id = some e ∧ e.SameHealth g id r r'

/-- The duty of the fan with an id is an integer. -/
def DutyReads (b : Board) (g : Ground) (id : Oid) : Prop :=
  ∀ e, lookup? .fan b.fans id = some e →
    ∀ loc, e.DutyFile g.io g.tree loc → g.tree.HoldsInt loc

/-- Scans that found the same, with fans to be set whose duties are integers. -/
structure SameScan (b : Board) (g : Ground) (scan scan' : FanScan) : Prop where
  hottest : scan.hottest = scan'.hottest
  fault : scan.fault = scan'.fault
  settable : scan.settable.map (·.header.id) = scan'.settable.map (·.header.id)
  duty : ∀ r ∈ scan.settable, b.DutyReads g r.header.id

theorem SameScan.refl_nil : b.SameScan g {} {} where
  hottest := rfl
  fault := rfl
  settable := rfl
  duty _ h := absurd h List.not_mem_nil

theorem SameScan.addThermal {scan scan' : FanScan} (h : b.SameScan g scan scan')
    (outcome : Except StatusError ThermalReading) :
    b.SameScan g (scan.addThermal outcome) (scan'.addThermal outcome) := by
  have hsettable : ∀ scan : FanScan, (scan.addThermal outcome).settable = scan.settable := by
    intro scan
    rw [FanScan.settable, FanScan.settable, FanScan.addThermal_fans]
  refine { hottest := ?_, fault := ?_, settable := ?_, duty := ?_ }
  · cases outcome with
    | error e => exact h.hottest
    | ok r =>
      unfold FanScan.addThermal
      dsimp only
      cases r.level? with
      | none => exact h.hottest
      | some level => rw [h.hottest]
  · rw [FanScan.addThermal_fault, FanScan.addThermal_fault, h.fault]
  · rw [hsettable, hsettable, h.settable]
  · rw [hsettable]
    exact h.duty

theorem SameScan.addFan {scan scan' : FanScan} (h : b.SameScan g scan scan') {id : Oid}
    {o o' : Except StatusError FanReading} (ho : SameOutcome (b.SameFan g id) o o') :
    b.SameScan g (scan.addFan o) (scan'.addFan o') := by
  cases ho with
  | error e =>
    exact { hottest := h.hottest, fault := rfl, settable := h.settable, duty := h.duty }
  | @ok r r' same =>
    obtain ⟨e, hlookup, same⟩ := same
    have hheader : r.header = r'.header := same.header.trans same.header'.symm
    have hsettable : ∀ (scan : FanScan) (r : FanReading), (scan.addFan (.ok r)).settable =
        scan.settable ++ [r].filter fun r =>
          r.caps.has FanCaps.setPercentage && r.status.has FanStatus.present :=
      fun scan r => List.filter_append scan.fans [r]
    refine { hottest := h.hottest, fault := ?_, settable := ?_, duty := ?_ }
    · unfold FanScan.addFan FanReading.isHealthy
      dsimp only
      rw [h.fault, same.status]
    · rw [hsettable, hsettable, List.map_append, List.map_append, h.settable,
        List.filter_singleton, List.filter_singleton, same.caps, same.status]
      cases r'.caps.has FanCaps.setPercentage && r'.status.has FanStatus.present with
      | true => exact congrArg (_ ++ [·]) (congrArg Header.id hheader)
      | false => rfl
    · rw [hsettable]
      intro r₀ hr₀
      obtain hmem | hmem := List.mem_append.1 hr₀
      · exact h.duty r₀ hmem
      · obtain ⟨hr, hset⟩ := List.mem_filter.1 hmem
        obtain rfl := List.mem_singleton.1 hr
        intro e' he'
        rw [same.header] at he'
        cases hlookup.symm.trans he'
        exact same.duty (Bool.and_eq_true_iff.1 hset).2

variable (suits : b.Suits g)
include suits

/-! ## Objects, scans and passes -/

theorem inStep_thermal (id : Oid) :
    InStep g (· = ·) ((b.operations g.io).thermal.read id)
      ((b.operations g.io).thermal.read id) := by
  refine (InStep.ofExcept (.self _)).bind ?_
  rintro e _ ⟨rfl, hfind⟩
  refine ThermalEntry.inStep_read (suits.health _ ?_) id
  have he : e ∈ b.thermals := mem_of_lookup? (lookup_of_find hfind)
  exact List.mem_append_left _ (List.mem_append_left _ (List.mem_map_of_mem he))

theorem inStep_fan (id : Oid) :
    InStep g (b.SameFan g id) ((b.operations g.io).fan.read id)
      ((b.operations g.io).fan.read id) := by
  refine (InStep.ofExcept (.self _)).bind ?_
  rintro e _ ⟨rfl, hfind⟩
  have hlookup := lookup_of_find hfind
  have he : e ∈ b.fans := mem_of_lookup? hlookup
  refine (FanEntry.inStep_read (fun l hl => suits.health l ?_) (suits.duty_attribute e he)
    (suits.duty e he) id).mono fun r r' same => ⟨e, hlookup, same⟩
  exact List.mem_append_left _ (List.mem_append_right _ (List.mem_flatMap.2 ⟨e, he, hl⟩))

theorem inStep_psu (id : Oid) :
    InStep g (fun r r' => r.status = r'.status) ((b.operations g.io).psu.read id)
      ((b.operations g.io).psu.read id) := by
  refine (InStep.ofExcept (.self _)).bind ?_
  rintro e _ ⟨rfl, hfind⟩
  refine PsuEntry.inStep_read (fun l hl => suits.health l ?_) id
  have he : e ∈ b.psus := mem_of_lookup? (lookup_of_find hfind)
  exact List.mem_append_right _ (List.mem_flatMap.2 ⟨e, he, hl⟩)

/-- **A scan finds the same.** -/
theorem inStep_scanFans (entries : List TreeEntry) {scan scan' : FanScan}
    (h : b.SameScan g scan scan') :
    InStep g (b.SameScan g) ((b.operations g.io).scanFans entries scan)
      ((b.operations g.io).scanFans entries scan') := by
  induction entries generalizing scan scan' with
  | nil => exact .pure h
  | cons e entries ih =>
    rw [Platform.scanFans, Platform.scanFans]
    split_ifs
    · refine (inStep_thermal suits e.header.id).attempt.bind ?_
      rintro o o' (rfl | err)
      · exact ih (h.addThermal _)
      · exact ih (h.addThermal _)
    · exact (inStep_fan suits e.header.id).attempt.bind fun o o' ho => ih (h.addFan ho)
    · exact ih h

/-! ## The passes -/

/-- **A duty that reads as an integer is set in step.** -/
theorem inStep_tell {id : Oid} (hduty : b.DutyReads g id) (percentage : UInt8) :
    InStep g (· = ·) (b.tell g.io percentage id) (b.tell g.io percentage id) := by
  rw [tell, FanOps.setPercentage, toInt_ofNat_toNat, Int.toNat_natCast, UInt8.ofNat_toNat]
  split_ifs
  · refine (InStep.ofExcept (.self _)).lift.bind ?_
    rintro e _ ⟨rfl, hfind⟩
    have hlookup := lookup_of_find hfind
    have he : e ∈ b.fans := mem_of_lookup? hlookup
    split_ifs
    · cases hl : e.percentage with
      | none => exact .fail _
      | some l =>
        refine inStep_write (suits.duty_attribute e he l hl) _ fun loc htarget => ?_
        have hfile : e.DutyFile g.io g.tree loc := ⟨l, hl, htarget⟩
        exact ⟨.inl (suits.duty e he loc hfile), fun _ => hduty e hlookup loc hfile⟩
    · exact .fail _
  · exact .fail _

/-- After scans that found the same, the fans are told one duty in step. -/
theorem inStep_commands {scan scan' : FanScan} (h : b.SameScan g scan scan')
    (percentage : UInt8) :
    InStep g (· = ·) (driveAll (b.commands g.io scan percentage))
      (driveAll (b.commands g.io scan' percentage)) := by
  have hcommands : ∀ scan : FanScan, b.commands g.io scan percentage =
      (scan.settable.map (·.header.id)).map (b.tell g.io percentage) := by
    intro scan
    rw [commands, List.map_map]
    rfl
  have hsame : b.commands g.io scan' percentage = b.commands g.io scan percentage := by
    rw [hcommands, hcommands, h.settable]
  rw [hsame]
  refine inStep_driveAll fun x hx => ?_
  obtain ⟨r, hr, rfl⟩ := List.mem_map.1 hx
  exact inStep_tell suits (h.duty r hr) percentage

/-- A mode is shown in step. -/
theorem inStep_showMode (id : Oid) (mode : LedMode) :
    InStep g (· = ·) ((b.operations g.io).led.setMode id mode)
      ((b.operations g.io).led.setMode id mode) := by
  refine (InStep.ofExcept (.self _)).lift.bind ?_
  rintro e _ ⟨rfl, hfind⟩
  have he : e ∈ b.leds := mem_of_lookup? (lookup_of_find hfind)
  cases e.rawOf? mode with
  | none => exact .fail _
  | some raw =>
    refine inStep_write (suits.led_attribute e he) raw fun loc htarget => ?_
    have hled := suits.led e he loc htarget
    exact ⟨.inr (.inl hled), fun hduty => absurd hled (g.duty_apart loc hduty).1⟩

theorem inStep_allHealthy (ids : List Oid) :
    InStep g (· = ·) ((b.operations g.io).allHealthy ids) ((b.operations g.io).allHealthy ids) := by
  induction ids with
  | nil => exact .pure rfl
  | cons id ids ih =>
    refine (inStep_fan suits id).attempt.bind ?_
    rintro _ _ (⟨e, -, same⟩ | e)
    · dsimp only
      rw [FanReading.isHealthy, FanReading.isHealthy, same.status]
      split_ifs
      · exact ih
      · exact .pure rfl
    · exact .pure rfl

omit suits in
/-- The walk through the objects of a board does not depend on the machine. -/
theorem inStep_walk :
    InStep g (· = ·) (b.operations g.io).walk (b.operations g.io).walk := by
  have hrun : ∀ m, (b.operations g.io).walk m = (SwitchPlatform.walk b.headerOf, m) :=
    operations_walk rfl g.io
  refine .of_still (fun m _ => by rw [hrun]) (fun m _ => by rw [hrun]) fun m₁ m₂ _ _ => ?_
  rw [hrun, hrun]
  exact (SameOutcome.self _).mono fun _ _ h => h.1

theorem inStep_fanLedCommand (led : Oid) :
    InStep g (fun x y => x = y ∧ InStep g (· = ·) x x) ((b.operations g.io).fanLedCommand led)
      ((b.operations g.io).fanLedCommand led) := by
  refine inStep_walk.bind ?_
  rintro entries _ rfl
  refine (inStep_allHealthy suits _).bind ?_
  rintro healthy _ rfl
  exact .pure ⟨rfl, inStep_showMode suits led _⟩

theorem inStep_psuLedCommand (psu led : Oid) :
    InStep g (· = ·) ((b.operations g.io).psuLedCommand psu led)
      ((b.operations g.io).psuLedCommand psu led) := by
  refine (inStep_psu suits psu).attempt.bind ?_
  rintro _ _ (same | e)
  · have hmode : Platform.psuLedMode (.ok _) = Platform.psuLedMode (.ok _) :=
      psuLedMode_congr same
    rw [hmode]
    exact inStep_showMode suits led _
  · exact inStep_showMode suits led _

/-- **A pass over the leds is in step.** -/
theorem inStep_manageLeds :
    InStep g (· = ·) (b.platform g.io).manageLeds (b.platform g.io).manageLeds := by
  rw [platform]
  dsimp only
  cases b.ledRoles with
  | none => exact .fail _
  | some roles =>
    have hpsus : ∀ x ∈ roles.psus.map fun role =>
        (b.operations g.io).psuLedCommand role.1 role.2, InStep g (· = ·) x x := by
      refine List.forall_mem_map.2 fun role _ => ?_
      exact inStep_psuLedCommand suits role.1 role.2
    dsimp only
    rw [Platform.ledPass]
    cases roles.fan with
    | none => exact inStep_driveAll hpsus
    | some led =>
      refine (inStep_fanLedCommand suits led).lift.bind ?_
      rintro x _ ⟨rfl, hx⟩
      exact inStep_driveAll (List.forall_mem_cons.2 ⟨hx, hpsus⟩)

end Board

end SwitchPlatform
