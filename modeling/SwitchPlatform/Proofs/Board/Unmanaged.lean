import SwitchPlatform.Board.Device
import SwitchPlatform.Proofs.Board.LedRoles
import SwitchPlatform.Proofs.Board.Remembered
import SwitchPlatform.Proofs.FanPolicy.Run
import SwitchPlatform.Proofs.Report

/-!
# Boards that seem to have no management

A board without a fan policy or without roles of leds has no such pass, which ends in `unsupported`.
`manage_unsupported_iff`: the passes of a valid board also end in `unsupported` if the first call
that fails is to a fan that takes a duty but has no attribute for it, or to an led that does not
have the mode, and in no other case; the report then says that the board has no such pass.
-/

namespace SwitchPlatform

open SwitchPlatform.Action StatusError

/-- What a run returns does not matter for its failures. -/
theorem map_eq_error_iff {ε α β : Type} {r : Except ε α} {f : α → β} {e : ε} :
    r.map f = .error e ↔ r = .error e := by
  cases r <;> simp [Except.map]

/-- Whatever duty is remembered, none above the table and the failsafe duty is decided. -/
theorem FanPolicy.decide_percentage_le {policy : FanPolicy} {bound : UInt8}
    (duty : ∀ t, policy.duty t ≤ bound) (failsafe : policy.failsafe ≤ bound)
    (current : Option UInt8) (hottest : Option Int32) (fault : Bool) :
    (policy.decide current hottest fault).percentage ≤ bound := by
  have hnext : ∀ t, policy.nextDuty current t ≤ bound := by
    intro t
    cases current with
    | none => exact duty t
    | some c =>
      rw [nextDuty]
      split_ifs
      · exact UInt8.le_trans (smaller_le_right c _) (duty _)
      · exact duty t
  unfold decide
  cases hottest with
  | none => exact failsafe
  | some t =>
    cases fault with
    | true => exact failsafe
    | false => exact hnext t

namespace Board

variable {b : Board} {io : Io} {policy : FanPolicy} {m : Machine}

/-! ## The access to a board -/

/-- The controller of a board has a directory. -/
theorem io_link (b : Board) (root : Root) (mode : Bmc.Mode) (link : Bmc.Link)
    (h : (b.io root mode).link = some link) : ∃ dir, link = .directory dir := by
  unfold Board.io at h
  split at h
  · cases h
  · cases h
    exact ⟨_, rfl⟩

/-- What a board writes is never unsupported. -/
theorem write_supported (b : Board) (root : Root) (mode : Bmc.Mode) (l : Locator) (v : Int32)
    (m : Machine) : ((b.io root mode).write l v m).1 ≠ .error (.status .unsupported) := by
  intro h
  obtain hfault | ⟨e, hfault, he⟩ :=
    failsWith_write_of_directory (b.io_link root mode) l v m _ h
  · cases hfault
  · cases hfault
    exact he.ne_unsupported rfl

/-! ## The fans -/

/-- A pass over the fans from `m`: what it walks through and finds, its decision, and its calls.
Each fan that was found there and takes a duty is told in its turn. -/
structure ToldFans (b : Board) (io : Io) (policy : FanPolicy) (m : Machine)
    (entries : List TreeEntry) (scan : FanScan) (m₁ : Machine) (d : FanDecision)
    (calls : List (Call Oid Machine)) (m' : Machine) : Prop where
  walk : SwitchPlatform.walk b.headerOf = .ok entries
  looked : (b.operations io).scanFans entries {} m = (.ok scan, m₁)
  decision : policy.decide m₁.duty scan.hottest scan.fault = d
  told : Calls (b.tell io d.percentage) Eq (fun r c => c.order = r.header.id) scan.settable
    { m₁ with duty := some d.percentage } calls m'
  outcome : (b.platform io).manageFans m =
    ((verdict (calls.map (Call.outcome (b.tell io d.percentage)))).map fun _ => d, m')

/-- Every pass of a valid board comes to its calls. -/
theorem Valid.toldFans (valid : b.Valid) (hpolicy : b.fanPolicy = some policy) (io : Io)
    (m : Machine) :
    ∃ entries scan m₁ d calls m', b.ToldFans io policy m entries scan m₁ d calls m' := by
  obtain ⟨entries, -, hlist, -, -⟩ := valid.walk
  obtain ⟨scan, m₁, hlook, -⟩ := Platform.scanFans_ok (b.operations io) entries {} m
  generalize hd : policy.decide m₁.duty scan.hottest scan.fault = d
  obtain ⟨calls, m', hrun, htold⟩ :
      ∃ calls m', driveAll (b.commands io scan d.percentage)
          { m₁ with duty := some d.percentage } =
            (verdict (calls.map (Call.outcome (b.tell io d.percentage))), m') ∧
        Calls (b.tell io d.percentage) Eq (fun r c => c.order = r.header.id) scan.settable
          { m₁ with duty := some d.percentage } calls m' :=
    driveAll_calls fun _ r _ _ _ => ⟨⟨r.header.id, _⟩, rfl, rfl, rfl⟩
  exact ⟨entries, scan, m₁, d, calls, m', hlist, hlook, hd, htold,
    manageFans_apply hpolicy hlist hlook hd hrun⟩

section ToldFans

variable {entries : List TreeEntry} {scan : FanScan} {m₁ m' : Machine} {d : FanDecision}
  {calls : List (Call Oid Machine)}

/-- Every call is to a fan of the chassis that takes a duty. -/
theorem ToldFans.fan (told : b.ToldFans io policy m entries scan m₁ d calls m')
    (walk : b.IsWalk entries) {c : Call Oid Machine} (hc : c ∈ calls) :
    ∃ e, b.ChassisFan c.order e ∧ e.caps.has FanCaps.setPercentage = true := by
  obtain ⟨r, hr, horder⟩ := told.told.exists_name hc
  obtain ⟨hfound, hset⟩ := List.mem_filter.1 hr
  obtain ⟨scan', m₂, hlook, hfans⟩ := Platform.scanFans_ok (b.operations io) entries {} m
  cases told.looked.symm.trans hlook
  obtain hnil | ⟨entry, hentry, hchassis, s, hread⟩ := hfans r hfound
  · cases hnil
  · obtain ⟨e, hfan⟩ := walk.fan hentry hchassis
    rw [fan_read_eq hfan.1] at hread
    obtain ⟨hheader, hcaps, -⟩ := FanEntry.read_ok hread
    refine ⟨e, ?_, hcaps ▸ (Bool.and_eq_true_iff.1 hset).1⟩
    rw [horder, hheader]
    exact hfan

end ToldFans

/-- **A fan that takes a duty is unsupported exactly if it has no attribute for it.** -/
theorem tell_unsupported_iff {id : Oid} {e : FanEntry} (he : lookup? .fan b.fans id = some e)
    (hcaps : e.caps.has FanCaps.setPercentage = true) {percentage : UInt8}
    (hle : percentage ≤ 100) (root : Root) (mode : Bmc.Mode) (m : Machine) :
    (b.tell (b.io root mode) percentage id m).1 = .error (.status .unsupported) ↔
      e.percentage = none := by
  rw [tell_eq he hle, if_pos hcaps]
  cases e.percentage with
  | none => simp
  | some l => simpa using b.write_supported root mode l _ m

/-- A pass over the fans whose first call that fails is to a fan that takes a duty, as far as its
capabilities say, but has no attribute for it. -/
def FailsAtFan (b : Board) (io : Io) (m : Machine) : Prop :=
  ∃ policy entries scan m₁ d calls m', b.fanPolicy = some policy ∧
    b.ToldFans io policy m entries scan m₁ d calls m' ∧
    (∀ c ∈ calls, c.outcome (b.tell io d.percentage) ≠ .error .quotientOverflow) ∧
    ∃ c e, FirstFailing (b.tell io d.percentage) calls c ∧ b.ChassisFan c.order e ∧
      e.caps.has FanCaps.setPercentage = true ∧ e.percentage = none

theorem Valid.decide_le (valid : b.Valid) (hpolicy : b.fanPolicy = some policy)
    (current : Option UInt8) (hottest : Option Int32) (fault : Bool) :
    (policy.decide current hottest fault).percentage ≤ 100 :=
  have hvalid := valid.policy policy hpolicy
  FanPolicy.decide_percentage_le (fun t => hvalid.le (policy.lists_duty t)) hvalid.failsafe_le
    current hottest fault

theorem Valid.manageFans_unsupported_iff (valid : b.Valid) (root : Root) (mode : Bmc.Mode)
    (m : Machine) :
    ((b.platform (b.io root mode)).manageFans m).1 = .error (.status .unsupported) ↔
      b.fanPolicy = none ∨ b.FailsAtFan (b.io root mode) m := by
  constructor
  · intro h
    cases hpolicy : b.fanPolicy with
    | none => exact .inl rfl
    | some policy =>
      obtain ⟨entries, scan, m₁, d, calls, m', told⟩ :=
        valid.toldFans hpolicy (b.io root mode) m
      rw [told.outcome, map_eq_error_iff, verdict_calls_eq_status_iff] at h
      obtain ⟨hwithin, c, hfirst, hout⟩ := h
      obtain ⟨entries', -, hlist, walk, -⟩ := valid.walk
      cases told.walk.symm.trans hlist
      obtain ⟨e, hfan, hcaps⟩ := told.fan walk hfirst.mem
      have hle : d.percentage ≤ 100 := told.decision ▸ valid.decide_le hpolicy _ _ _
      refine .inr ⟨policy, entries, scan, m₁, d, calls, m', hpolicy, told, hwithin, c, e, hfirst,
        hfan, hcaps, ?_⟩
      exact (tell_unsupported_iff hfan.1 hcaps hle root mode c.before).1 hout
  · rintro (hnone | ⟨policy, entries, scan, m₁, d, calls, m', hpolicy, told, hwithin, c, e, hfirst,
      hfan, hcaps, hunset⟩)
    · rw [platform, hnone]
      rfl
    · have hle : d.percentage ≤ 100 := told.decision ▸ valid.decide_le hpolicy _ _ _
      rw [told.outcome, map_eq_error_iff, verdict_calls_eq_status_iff]
      exact ⟨hwithin, c, hfirst,
        (tell_unsupported_iff hfan.1 hcaps hle root mode c.before).2 hunset⟩

/-! ## The leds -/

/-- A pass over the leds whose first call that fails is to an led without the mode. -/
def FailsAtLed (b : Board) (io : Io) (m : Machine) : Prop :=
  ∃ roles calls m', b.ledRoles = some roles ∧
    Calls (b.operations io).showOrder (b.operations io).Looks LedRole.AsksFor roles.inOrder m
      calls m' ∧
    (b.platform io).manageLeds m =
      (verdict (calls.map (Call.outcome (b.operations io).showOrder)), m') ∧
    (∀ c ∈ calls, c.outcome (b.operations io).showOrder ≠ .error .quotientOverflow) ∧
    ∃ c e, FirstFailing (b.operations io).showOrder calls c ∧
      lookup? .led b.leds c.order.1 = some e ∧ e.rawOf? c.order.2 = none

/-- **A call is unsupported exactly if the led does not have the mode.** -/
theorem showOrder_unsupported_iff {c : Call (Oid × LedMode) Machine} (root : Root)
    (mode : Bmc.Mode) :
    c.outcome (b.operations (b.io root mode)).showOrder = .error (.status .unsupported) ↔
      ∃ e, lookup? .led b.leds c.order.1 = some e ∧ e.rawOf? c.order.2 = none := by
  by_cases hled : b.IsLed c.order.1
  · obtain ⟨e, he⟩ := hled
    simp only [Call.outcome, showOrder_of_led he, he, Option.some.injEq, exists_eq_left']
    cases e.rawOf? c.order.2 with
    | none => simp
    | some raw => simpa using b.write_supported root mode e.locator raw c.before
  · rw [showOrder_of_not_led hled]
    refine iff_of_false (by simp) ?_
    rintro ⟨e, he, -⟩
    exact hled ⟨e, he⟩

theorem Valid.manageLeds_unsupported_iff (valid : b.Valid) (root : Root) (mode : Bmc.Mode)
    (m : Machine) :
    ((b.platform (b.io root mode)).manageLeds m).1 = .error (.status .unsupported) ↔
      b.ledRoles = none ∨ b.FailsAtLed (b.io root mode) m := by
  constructor
  · intro h
    cases hroles : b.ledRoles with
    | none => exact .inl rfl
    | some roles =>
      obtain ⟨calls, m', hrun, hcalls⟩ := valid.manageLeds_calls hroles (b.io root mode) m
      rw [hrun, verdict_calls_eq_status_iff] at h
      obtain ⟨hwithin, c, hfirst, hout⟩ := h
      obtain ⟨e, he, hraw⟩ := (showOrder_unsupported_iff root mode).1 hout
      exact .inr ⟨roles, calls, m', hroles, hcalls, hrun, hwithin, c, e, hfirst, he, hraw⟩
  · rintro (hnone | ⟨roles, calls, m', hroles, hcalls, hrun, hwithin, c, e, hfirst, he, hraw⟩)
    · rw [platform, hnone]
      rfl
    · rw [hrun, verdict_calls_eq_status_iff]
      exact ⟨hwithin, c, hfirst, (showOrder_unsupported_iff root mode).2 ⟨e, he, hraw⟩⟩

/-! ## Both passes, and their report -/

/-- **Validation does not make every managed board report its passes.** A pass over the fans of a
valid board ends in `unsupported` exactly if the board has no fan policy, or the first call that
fails is to a fan without an attribute for its duty; a pass over the leds exactly if the board has
no roles, or the first call that fails is to an led without the mode. A report says that a pass is
missing in exactly these cases. -/
theorem manage_unsupported_iff (valid : b.validate = .ok ()) (root : Root) (mode : Bmc.Mode)
    (m : Machine) :
    let p := b.platform (b.io root mode)
    ((p.manageFans m).1 = .error (.status .unsupported) ↔
      b.fanPolicy = none ∨ b.FailsAtFan (b.io root mode) m) ∧
    ((p.manageLeds m).1 = .error (.status .unsupported) ↔
      b.ledRoles = none ∨ b.FailsAtLed (b.io root mode) m) ∧
    ∀ text, (Report.manage p m).1 = .ok text →
      ("fans: not managed on this platform\n".toList <+: text.toList ↔
        b.fanPolicy = none ∨ b.FailsAtFan (b.io root mode) m) ∧
      ("leds: not managed on this platform\n".toList <:+ text.toList ↔
        b.ledRoles = none ∨ b.FailsAtLed (b.io root mode) (p.manageFans m).2) := by
  intro p
  have hvalid : b.Valid := validate_eq_ok_iff.1 valid
  have hfans := hvalid.manageFans_unsupported_iff root mode m
  have hleds := hvalid.manageLeds_unsupported_iff root mode
  refine ⟨hfans, hleds m, fun text htext => ?_⟩
  obtain ⟨hline, hlast⟩ := Report.manage_lines htext
  exact ⟨hline.trans hfans, hlast.trans (hleds _)⟩

/-- A managed board of a sensor, a fan that says that it takes a duty, and an led. The attribute of
the duty and the modes of the led are left open. -/
def managedBoard (duty : Option Locator) (modes : List (Int32 × LedMode)) : Board :=
  { name := "managed"
    thermals := [{ description := "CPU", parent := .chassis, input := .file "/temperature"
                   caps := ThermalCaps.temperature, thresholds := ⟨0, 0, 0⟩ }]
    fans := [{ description := "Fan 1", parent := .chassis, caps := FanCaps.setPercentage
               percentage := duty }]
    leds := [{ description := "Fans", locator := .file "/fan_led", modes := modes }]
    ports := { count := 0, present := .gpio [] false, eepromBus := [], eeprom := ⟨""⟩ }
    fanPolicy := some ⟨[⟨45000, 60⟩], 3000, 100, 40⟩
    ledRoles := some ⟨some (numbered .led 1), []⟩ }

/-- The attributes of that board, at 50 degrees. -/
def managedMachine : Machine :=
  { tree := .dir [("temperature", .file (Text.Utf8.encode "50000")),
      ("duty", .file (Text.Utf8.encode "40")), ("fan_led", .file (Text.Utf8.encode "0"))] }

/-- With an attribute for the duty and a mode for a healthy fan, both passes go well; without them,
each of them stops at what is missing. -/
theorem managedBoard_passes :
    let equipped := managedBoard (some (.file "/duty")) [(1, .green), (2, .orange)]
    let bare := managedBoard none [(2, .orange)]
    equipped.validate = .ok () ∧ ¬equipped.FailsAtFan (equipped.io ⟨"/"⟩ .absent) managedMachine ∧
      ¬equipped.FailsAtLed (equipped.io ⟨"/"⟩ .absent) managedMachine ∧
      bare.validate = .ok () ∧ bare.FailsAtFan (bare.io ⟨"/"⟩ .absent) managedMachine ∧
      bare.FailsAtLed (bare.io ⟨"/"⟩ .absent) managedMachine := by
  intro equipped bare
  obtain ⟨hfans, hleds, -⟩ :=
    manage_unsupported_iff (b := equipped) (by decide) ⟨"/"⟩ .absent managedMachine
  obtain ⟨hfans', hleds', -⟩ :=
    manage_unsupported_iff (b := bare) (by decide) ⟨"/"⟩ .absent managedMachine
  refine ⟨by decide, fun h => ?_, fun h => ?_, by decide, ?_, ?_⟩
  · exact absurd (hfans.2 (.inr h)) (by decide +kernel)
  · exact absurd (hleds.2 (.inr h)) (by decide +kernel)
  · exact (hfans'.1 (by decide +kernel)).resolve_left (Option.some_ne_none _)
  · exact (hleds'.1 (by decide +kernel)).resolve_left (Option.some_ne_none _)

/-- A board with a fan policy and roles of leds validates, and its report says that neither its fans
nor its leds are managed. -/
theorem managedBoard_unmanaged :
    let b := managedBoard none [(2, .orange)]
    let p := b.platform (b.io ⟨"/"⟩ .absent)
    b.validate = .ok () ∧ b.fanPolicy.isSome = true ∧ b.ledRoles.isSome = true ∧
      (p.manageFans managedMachine).1 = .error (.status .unsupported) ∧
      (p.manageLeds managedMachine).1 = .error (.status .unsupported) ∧
      (Report.manage p managedMachine).1 =
        .ok "fans: not managed on this platform\nleds: not managed on this platform\n" := by
  refine ⟨by decide, rfl, rfl, by decide +kernel, by decide +kernel, by decide +kernel⟩

end Board

end SwitchPlatform
