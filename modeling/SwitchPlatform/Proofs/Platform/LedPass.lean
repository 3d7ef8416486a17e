import Mathlib.Tactic
import SwitchPlatform.Proofs.Platform.Calls
import SwitchPlatform.Proofs.Platform.FanPass

/-!
# A pass over the leds

A pass over the leds is one call for each role, in their order (`ledPass_eq_calls`). It asks
for the modes that the readings call for, and judges the fans as a pass over the fans does, although
one of them stops at the first fan in fault and the other one reads them all:
`ledPass_shows_health` says so for readings that are steady (`Platform.Steady`).
-/

namespace SwitchPlatform

open FanReading (InFault inFault_ok_iff)

/-! ## Roles -/

/-- What one led stands for. -/
inductive LedRole
  /-- The led of all fans of the chassis. -/
  | fans (led : Oid)
  /-- The led of a power supply. -/
  | psu (psu led : Oid)

/-- The led of a role. -/
def LedRole.led : LedRole → Oid
  | fans led => led
  | psu _ led => led

/-- The roles in their order: the fans come first. -/
def LedRoles.inOrder (roles : LedRoles) : List LedRole :=
  roles.fan.toList.map .fans ++ roles.psus.map fun (psu, led) => .psu psu led

/-- A role and the ones before it: only the fans have none before them. -/
theorem LedRoles.inOrder_split {roles : LedRoles} {pre post : List LedRole} {role : LedRole}
    (h : roles.inOrder = pre ++ role :: post) :
    (∃ led, roles.fan = some led ∧ role = .fans led ∧ pre = []) ∨
    ∃ before psu led after, roles.psus = before ++ (psu, led) :: after ∧ role = .psu psu led ∧
      pre = LedRoles.inOrder ⟨roles.fan, before⟩ := by
  have supplies : ∀ {pre}, (roles.psus.map fun (psu, led) => LedRole.psu psu led) =
      pre ++ role :: post → ∃ before psu led after, roles.psus = before ++ (psu, led) :: after ∧
        role = .psu psu led ∧ pre = before.map fun (psu, led) => .psu psu led := by
    intro pre h
    obtain ⟨before, rest, hpsus, rfl, hrest⟩ := List.map_eq_append_iff.1 h
    obtain ⟨⟨psu, led⟩, after, rfl, rfl, -⟩ := List.map_eq_cons_iff.1 hrest
    exact ⟨before, psu, led, after, hpsus, rfl, rfl⟩
  unfold inOrder at h ⊢
  cases hfan : roles.fan with
  | none =>
    rw [hfan] at h
    exact .inr (supplies h)
  | some led =>
    rw [hfan] at h
    cases pre with
    | nil =>
      obtain ⟨rfl, -⟩ := List.cons.inj h
      exact .inl ⟨led, rfl, rfl, rfl⟩
    | cons first pre =>
      obtain ⟨rfl, hrest⟩ := List.cons.inj h
      obtain ⟨before, psu, led', after, hpsus, hrole, hpre⟩ := supplies hrest
      exact .inr ⟨before, psu, led', after, hpsus, hrole, by rw [hpre]; rfl⟩

/-- What an led shows in a role, if `fault` says whether a fan of the chassis is in fault and
`answer` what the power supplies report. -/
inductive Shows (fault : Bool) (answer : Oid → Except StatusError PsuReading) :
    LedRole → LedMode → Prop
  | fansHealthy (led : Oid) (h : fault = false) : Shows fault answer (.fans led) .green
  | fansInFault (led : Oid) (h : fault = true) : Shows fault answer (.fans led) .orange
  | absent {psu : Oid} {r : PsuReading} (led : Oid) (h : answer psu = .ok r)
    (status : r.status.has PsuStatus.present = false) : Shows fault answer (.psu psu led) .off
  | good {psu : Oid} {r : PsuReading} (led : Oid) (h : answer psu = .ok r)
    (status : r.status = PsuStatus.present) : Shows fault answer (.psu psu led) .green
  | bad {psu : Oid} {r : PsuReading} (led : Oid) (h : answer psu = .ok r)
    (present : r.status.has PsuStatus.present = true) (status : r.status ≠ PsuStatus.present) :
    Shows fault answer (.psu psu led) .orange
  | unreadable {psu : Oid} {e : StatusError} (led : Oid) (h : answer psu = .error e) :
    Shows fault answer (.psu psu led) .orange

theorem shows_psuLedMode (fault : Bool) (answer : Oid → Except StatusError PsuReading)
    (psu led : Oid) : Shows fault answer (.psu psu led) (Platform.psuLedMode (answer psu)) := by
  cases hr : answer psu with
  | error e => exact .unreadable led hr
  | ok r =>
    unfold Platform.psuLedMode PsuReading.isHealthy
    dsimp only
    split_ifs with hpresent hstatus
    · exact .good led hr (eq_of_beq hstatus)
    · exact .bad led hr hpresent (by simpa using hstatus)
    · exact .absent led hr (by simpa using hpresent)

theorem shows_fans {fault healthy : Bool} (answer : Oid → Except StatusError PsuReading) (led : Oid)
    (h : healthy = true ↔ fault = false) :
    Shows fault answer (.fans led) (if healthy then .green else .orange) := by
  cases healthy with
  | true => exact .fansHealthy led (h.1 rfl)
  | false => exact .fansInFault led (by simpa using h)

theorem FanScan.look_fault_iff {thermal : Oid → Except StatusError ThermalReading}
    {fan : Oid → Except StatusError FanReading} (scan : FanScan) (e : TreeEntry) :
    (scan.look thermal fan e).fault = true ↔
      scan.fault = true ∨ e.isChassisFan = true ∧ InFault (fan e.header.id) := by
  unfold look
  split_ifs with hk hf
  · have hfan : e.isChassisFan = false := by simp [TreeEntry.isChassisFan, hk]
    simp [addThermal_fault, hfan]
  · simp [addFan_fault_iff, hf]
  · simp [hf]

namespace Platform

variable {σ : Type} {p : Platform σ} {roles : LedRoles} {entries : List TreeEntry} {s s' : σ}
  {fan : Oid → Except StatusError FanReading}

/-! ## Judging the fans -/

/-- The fans of the chassis among some objects. -/
def chassisFans (entries : List TreeEntry) : List Oid :=
  (entries.filter (·.isChassisFan)).map (·.header.id)

theorem forall_chassisFans {P : Oid → Prop} :
    (∀ id ∈ chassisFans entries, P id) ↔
      ¬∃ e ∈ entries, e.isChassisFan = true ∧ ¬P e.header.id := by
  simp only [chassisFans, List.forall_mem_map, List.mem_filter]
  push Not
  exact forall_congr' fun e => and_imp

/-- A fan in fault settles the question. -/
theorem allHealthy_cons_inFault {id : Oid} (ids : List Oid) (h : InFault (p.fan.read id s).1) :
    p.allHealthy (id :: ids) s = (.ok false, (p.fan.read id s).2) := by
  rw [allHealthy, Action.bind_eq, Action.attempt_apply]
  cases hr : (p.fan.read id s).1 with
  | error e => rfl
  | ok r =>
    rw [hr, inFault_ok_iff] at h
    dsimp only
    rw [if_neg (by simp [h])]
    rfl

theorem allHealthy_cons_healthy {id : Oid} (ids : List Oid) (h : ¬InFault (p.fan.read id s).1) :
    p.allHealthy (id :: ids) s = p.allHealthy ids (p.fan.read id s).2 := by
  rw [allHealthy, Action.bind_eq, Action.attempt_apply]
  cases hr : (p.fan.read id s).1 with
  | error e =>
    rw [hr] at h
    exact absurd (.unreadable e) h
  | ok r =>
    rw [hr, inFault_ok_iff, Bool.not_eq_false] at h
    dsimp only
    rw [if_pos h]

/-- States that reading fans and power supplies leads to. -/
inductive Looks (p : Platform σ) : σ → σ → Prop
  | refl (s : σ) : Looks p s s
  | fan {s s' : σ} (id : Oid) (h : Looks p (p.fan.read id s).2 s') : Looks p s s'
  | psu {s s' : σ} (id : Oid) (h : Looks p (p.psu.read id s).2 s') : Looks p s s'

/-- The question always has an answer. -/
theorem allHealthy_ok (p : Platform σ) (ids : List Oid) (s : σ) :
    ∃ healthy s', p.allHealthy ids s = (.ok healthy, s') ∧ p.Looks s s' := by
  induction ids generalizing s with
  | nil => exact ⟨true, s, rfl, .refl s⟩
  | cons id ids ih =>
    by_cases h : InFault (p.fan.read id s).1
    · exact ⟨false, _, allHealthy_cons_inFault ids h, .fan id (.refl _)⟩
    · rw [allHealthy_cons_healthy ids h]
      obtain ⟨healthy, s', hrun, hlooks⟩ := ih (p.fan.read id s).2
      exact ⟨healthy, s', hrun, .fan id hlooks⟩

/-- **All fans are healthy if none is in fault**, where each fan answers as `fan` says when its turn
comes. -/
theorem allHealthy_iff {ids : List Oid}
    (steady : ∀ pre id post, ids = pre ++ id :: post → (p.allHealthy pre s).1 = .ok true →
      (p.fan.read id (p.allHealthy pre s).2).1 = fan id) :
    (p.allHealthy ids s).1 = .ok true ↔ ∀ id ∈ ids, ¬InFault (fan id) := by
  induction ids generalizing s with
  | nil => simp [allHealthy]
  | cons id ids ih =>
    have hread : (p.fan.read id s).1 = fan id := steady [] id ids rfl rfl
    rw [List.forall_mem_cons, ← hread]
    by_cases h : InFault (p.fan.read id s).1
    · simp [allHealthy_cons_inFault ids h, h]
    · rw [allHealthy_cons_healthy ids h, and_iff_right h]
      refine ih fun pre id' post hids hpre => ?_
      have hlater := steady (id :: pre) id' post (by rw [hids, List.cons_append])
      rw [allHealthy_cons_healthy pre h] at hlater
      exact hlater hpre

/-- The state in which a look at one object leaves a scan. -/
def lookedAt (p : Platform σ) (s : σ) (e : TreeEntry) : σ :=
  if e.header.id.kind = .thermal then (p.thermal.read e.header.id s).2
  else if e.isChassisFan then (p.fan.read e.header.id s).2
  else s

theorem scanFans_cons (e : TreeEntry) (entries : List TreeEntry) (scan : FanScan) (s : σ) :
    p.scanFans (e :: entries) scan s = p.scanFans entries
      (scan.look (fun id => (p.thermal.read id s).1) (fun id => (p.fan.read id s).1) e)
      (p.lookedAt s e) := by
  rw [scanFans, FanScan.look, lookedAt]
  split_ifs
  · rw [Action.bind_eq, Action.attempt_apply]
  · rw [Action.bind_eq, Action.attempt_apply]
  · rfl

/-- What a scan has found so far does not matter for the state that it leaves behind. -/
theorem scanFans_state (entries : List TreeEntry) (scan : FanScan) (s : σ) :
    (p.scanFans entries scan s).2 = entries.foldl p.lookedAt s := by
  induction entries generalizing scan s with
  | nil => rfl
  | cons e entries ih => rw [scanFans_cons, List.foldl_cons, ih]

/-- **A scan finds a fault if a fan is in fault**, where each fan answers as `fan` says when its
turn comes. -/
theorem scanFans_fault (fan : Oid → Except StatusError FanReading) (scan : FanScan)
    (steady : ∀ pre e post, entries = pre ++ e :: post → e.isChassisFan = true →
      (p.fan.read e.header.id (pre.foldl p.lookedAt s)).1 = fan e.header.id) :
    ∃ scan' s', p.scanFans entries scan s = (.ok scan', s') ∧
      (scan'.fault = true ↔ scan.fault = true ∨
        ∃ e ∈ entries, e.isChassisFan = true ∧ InFault (fan e.header.id)) := by
  induction entries generalizing scan s with
  | nil => exact ⟨scan, s, rfl, by simp⟩
  | cons e entries ih =>
    obtain ⟨scan', s', hrun, hfault⟩ := ih _ fun pre e' post hentries =>
      steady (e :: pre) e' post (by rw [hentries, List.cons_append])
    refine ⟨scan', s', (scanFans_cons e entries scan s).trans hrun, hfault.trans ?_⟩
    have hread : e.isChassisFan = true → (p.fan.read e.header.id s).1 = fan e.header.id :=
      steady [] e entries rfl
    rw [FanScan.look_fault_iff, List.exists_mem_cons_iff, or_assoc]
    exact or_congr_right (or_congr_left (and_congr_right fun hf => by rw [hread hf]))

/-! ## The calls of a pass -/

/-- Asks an led for a mode. -/
def showOrder (p : Platform σ) (order : Oid × LedMode) : Command σ Unit :=
  p.led.setMode order.1 order.2

/-- What a pass does for one role. -/
def roleCommand (p : Platform σ) : LedRole → Command σ Unit
  | .fans led => do
    let command ← p.fanLedCommand led
    command
  | .psu psu led => p.psuLedCommand psu led

theorem fanLedCommand_apply (led : Oid) {healthy : Bool} (hwalk : (p.walk s).1 = .ok entries)
    (hrun : p.allHealthy (chassisFans entries) s = (.ok healthy, s')) :
    p.fanLedCommand led s = (.ok (p.led.setMode led (if healthy then .green else .orange)), s') := by
  have hentries : p.walk s = (.ok entries, s) := Prod.ext hwalk rfl
  rw [fanLedCommand, Action.bind_ok hentries]
  exact Action.bind_ok hrun

/-- The call for the fans. -/
theorem roleCommand_fans (led : Oid) {healthy : Bool} (hwalk : (p.walk s).1 = .ok entries)
    (hrun : p.allHealthy (chassisFans entries) s = (.ok healthy, s')) :
    p.roleCommand (.fans led) s =
      p.showOrder (led, if healthy then .green else .orange) s' := by
  rw [roleCommand, lift_eq, Action.bind_eq, Action.mapError_eq,
    fanLedCommand_apply led hwalk hrun]
  rfl

/-- The call for a power supply. -/
theorem roleCommand_psu (psu led : Oid) (s : σ) :
    p.roleCommand (.psu psu led) s =
      p.showOrder (led, psuLedMode (p.psu.read psu s).1) (p.psu.read psu s).2 := by
  rw [roleCommand, psuLedCommand, Action.bind_eq, Action.attempt_apply]
  rfl

/-- **A pass drives one command for each role**, if the objects can be walked through. -/
theorem ledPass_eq (roles : LedRoles) (hwalk : (p.walk s).1 = .ok entries) :
    p.ledPass roles s = driveAll (roles.inOrder.map p.roleCommand) s := by
  have hpsus : (roles.psus.map fun (psu, led) => LedRole.psu psu led).map p.roleCommand =
      roles.psus.map fun (psu, led) => p.psuLedCommand psu led := by
    rw [List.map_map]
    rfl
  rw [ledPass, LedRoles.inOrder, List.map_append, hpsus]
  cases roles.fan with
  | none => rfl
  | some led =>
    -- the command for the fans is made before the pass, and does not read anything again
    obtain ⟨healthy, s', hrun, -⟩ := p.allHealthy_ok (chassisFans entries) s
    dsimp only
    rw [lift_eq, Action.bind_eq, Action.mapError_eq, fanLedCommand_apply led hwalk hrun]
    exact driveAll_cons_congr (roleCommand_fans led hwalk hrun).symm _

/-- **A pass is a call for each role in its turn.** What is asked of a call may depend on the
readings that it shows: those of the fans at the start, and that of a power supply once the roles
before it are done. -/
theorem ledPass_eq_calls {asks : LedRole → Call (Oid × LedMode) σ → Prop}
    (hwalk : (p.walk s).1 = .ok entries)
    (fans : ∀ led healthy s', roles.fan = some led →
      p.allHealthy (chassisFans entries) s = (.ok healthy, s') →
      asks (.fans led) ⟨(led, if healthy then .green else .orange), s'⟩)
    (supply : ∀ pre psu led post s' outcome s'', roles.psus = pre ++ (psu, led) :: post →
      (p.ledPass ⟨roles.fan, pre⟩ s).1 ≠ .error .quotientOverflow →
      (p.ledPass ⟨roles.fan, pre⟩ s).2 = s' → p.psu.read psu s' = (outcome, s'') →
      asks (.psu psu led) ⟨(led, psuLedMode outcome), s''⟩) :
    ∃ calls s', p.ledPass roles s = (verdict (calls.map (Call.outcome p.showOrder)), s') ∧
      Calls p.showOrder p.Looks asks roles.inOrder s calls s' := by
  rw [ledPass_eq roles hwalk]
  refine driveAll_calls fun pre role post hsplit hwithin => ?_
  obtain ⟨led, hled, rfl, rfl⟩ | ⟨before, psu, led, after, hpsus, rfl, rfl⟩ :=
    LedRoles.inOrder_split hsplit
  · obtain ⟨healthy, s', hrun, hlooks⟩ := p.allHealthy_ok (chassisFans entries) s
    exact ⟨_, fans led healthy s' hled hrun, hlooks, roleCommand_fans led hwalk hrun⟩
  · rw [← ledPass_eq ⟨roles.fan, before⟩ hwalk] at hwithin ⊢
    exact ⟨_, supply before psu led after _ _ _ hpsus hwithin rfl rfl, .psu psu (.refl _),
      roleCommand_psu psu led _⟩

/-! ## Health -/

/-- The readings of a pass over the leds and of the scan of a pass over the fans, both from `s`,
tell what they would tell at their start. Each of them is asked for once what comes before it in
its pass is done. -/
structure Steady (p : Platform σ) (roles : LedRoles) (entries : List TreeEntry) (s : σ) :
    Prop where
  scanned : ∀ pre e post, entries = pre ++ e :: post → e.isChassisFan = true →
    (p.fan.read e.header.id (p.scanFans pre {} s).2).1 = (p.fan.read e.header.id s).1
  judged : roles.fan.isSome = true → ∀ pre id post, chassisFans entries = pre ++ id :: post →
    (p.allHealthy pre s).1 = .ok true →
    (p.fan.read id (p.allHealthy pre s).2).1 = (p.fan.read id s).1
  supplied : ∀ pre psu led post, roles.psus = pre ++ (psu, led) :: post →
    (p.ledPass ⟨roles.fan, pre⟩ s).1 ≠ .error .quotientOverflow →
    (p.psu.read psu (p.ledPass ⟨roles.fan, pre⟩ s).2).1 = (p.psu.read psu s).1

/-- **Both passes judge health alike, and every led is asked for its mode.** From a state with
steady readings, the scan of a pass over the fans finds a fault or not; if it does, that pass is
failsafe. A pass over the leds asks the led of every role, in their order and whichever of them
fail, for what it has to show: the led of the fans for green if that scan finds no fault and for
orange otherwise, and the led of a power supply for what the supply reports. It ends in the first
failure in that order. -/
theorem ledPass_shows_health (p : Platform σ) (policy : FanPolicy) (last : σ → Option UInt8)
    (remember : UInt8 → σ → σ) {roles : LedRoles} {entries : List TreeEntry} {s : σ}
    (hwalk : (p.walk s).1 = .ok entries) (steady : p.Steady roles entries s) :
    ∃ scan s₁, p.scanFans entries {} s = (.ok scan, s₁) ∧
      (scan.fault = true →
        let run := driveAll (scan.settable.map fun r =>
          p.fan.setPercentage r.header.id (Int32.ofNat policy.failsafe.toNat))
          (remember policy.failsafe s₁)
        p.fanPass policy last remember s =
          (run.1.map fun _ => ⟨scan.hottest, policy.failsafe, true⟩, run.2)) ∧
      ∃ calls s', p.ledPass roles s = (verdict (calls.map (Call.outcome p.showOrder)), s') ∧
        Calls p.showOrder p.Looks
          (fun role c => c.order.1 = role.led ∧
            Shows scan.fault (fun psu => (p.psu.read psu s).1) role c.order.2)
          roles.inOrder s calls s' := by
  have hentries : p.walk s = (.ok entries, s) := Prod.ext hwalk rfl
  obtain ⟨scan, s₁, hscan, hfault⟩ :=
    scanFans_fault (fun id => (p.fan.read id s).1) {} fun pre e post hsplit hfan =>
      scanFans_state pre {} s ▸ steady.scanned pre e post hsplit hfan
  refine ⟨scan, s₁, hscan, fun hfailsafe => ?_, ?_⟩
  · refine Platform.fanPass_apply policy last remember hentries hscan ?_ rfl
    unfold FanPolicy.decide
    rw [hfailsafe]
    cases scan.hottest <;> rfl
  · refine ledPass_eq_calls hwalk (fun led healthy s' hled hrun => ⟨rfl, ?_⟩)
      fun pre psu led post s' outcome s'' hpsus hwithin hstate hread => ⟨rfl, ?_⟩
    · have hhealthy := allHealthy_iff (steady.judged (by rw [hled]; rfl))
      rw [hrun, forall_chassisFans] at hhealthy
      refine shows_fans _ led ?_
      rw [← Bool.not_eq_true, hfault]
      simpa using hhealthy
    · have hanswer := steady.supplied pre psu led post hpsus hwithin
      rw [hstate, hread] at hanswer
      subst hanswer
      exact shows_psuLedMode scan.fault (fun psu => (p.psu.read psu s).1) psu led

end Platform

/-! ## A platform with failures -/

/-- A platform whose only fan cannot be read, and neither can the second power supply. The second
led cannot be set. -/
def signalPlatform : Platform Stage :=
  { barePlatform with
    psu :=
      { barePlatform.psu with
        read := fun id =>
          if id.index = 1 then pure (({ status := 1 } : ObjectState).psu id) else .fail .i2c }
    led :=
      { barePlatform.led with
        setMode := fun id mode => do
          Stage.note (.mode id mode)
          if id.index = 2 then .fail (.status .missing) } }

theorem signalPlatform_steady (roles : LedRoles) (entries : List TreeEntry) :
    signalPlatform.Steady roles entries {} where
  scanned _ _ _ _ _ := rfl
  judged _ _ _ _ _ _ := rfl
  supplied _ psu _ _ _ _ := by
    simp only [signalPlatform]
    split <;> rfl

/-- There are an led for the fan and one for each of two power supplies. All three are told what to
show, and the one in the middle fails. -/
theorem signalPlatform_ledPass :
    let roles : LedRoles := ⟨some (.led 1), [(.psu 1, .led 2), (.psu 2, .led 3)]⟩
    let entries : List TreeEntry :=
      [⟨0, { bareHeader .chassis with children := [.fan 1] }⟩, ⟨1, bareHeader (.fan 1)⟩]
    (signalPlatform.walk {}).1 = .ok entries ∧ signalPlatform.Steady roles entries {} ∧
      (∃ calls s', signalPlatform.ledPass roles {} =
          (verdict (calls.map (Call.outcome signalPlatform.showOrder)), s') ∧
        Calls signalPlatform.showOrder signalPlatform.Looks
          (fun role c => c.order.1 = role.led ∧
            Shows true (fun psu => (signalPlatform.psu.read psu {}).1) role c.order.2)
          roles.inOrder {} calls s') ∧
      (signalPlatform.ledPass roles {}).1 = .error (.status .missing) ∧
      (signalPlatform.ledPass roles {}).2.calls =
        [.mode (.led 1) .orange, .mode (.led 2) .green, .mode (.led 3) .orange] := by
  intro roles entries
  have hwalk : (signalPlatform.walk {}).1 = .ok entries := by decide +kernel
  have steady : signalPlatform.Steady roles entries {} := signalPlatform_steady roles entries
  obtain ⟨scan, s₁, hscan, -, hcalls⟩ :=
    Platform.ledPass_shows_health signalPlatform ⟨[], 0, 100, 40⟩ Stage.duty
      (fun duty s => { s with duty := some duty }) hwalk steady
  have hfault : signalPlatform.scanFans entries {} {} = (.ok { fault := true }, {}) := rfl
  cases hfault.symm.trans hscan
  exact ⟨hwalk, steady, hcalls, by decide +kernel, by decide +kernel⟩

end SwitchPlatform
