import SwitchPlatform.Proofs.Board.Frame
import SwitchPlatform.Proofs.Board.ReadContract
import SwitchPlatform.Proofs.Platform.LedPass

/-!
# The roles of a board's leds

The roles of a valid board name objects of the board, but validation does not ask of which kind they
are. `manageLeds_param_iff`: an id of another kind than that of an led is refused as a parameter in
every pass, and nothing else is; a power supply that is none shows orange.
-/

namespace SwitchPlatform

/-- The modes that a role may ask of its led. What is no power supply cannot be read. -/
def LedRole.modes : LedRole → List LedMode
  | fans _ => [.green, .orange]
  | psu supply _ => if supply.kind = .psu then [.off, .green, .orange] else [.orange]

/-- A call asks the led of a role for one of the modes of that role. -/
def LedRole.AsksFor (role : LedRole) (c : Call (Oid × LedMode) Machine) : Prop :=
  c.order.1 = role.led ∧ c.order.2 ∈ role.modes

namespace Board

open SwitchPlatform.Action StatusError

variable {b : Board} {io : Io} {roles : LedRoles} {id : Oid} {mode : LedMode} {m m' : Machine}
  {calls : List (Call (Oid × LedMode) Machine)}

/-! ## The objects of roles -/

/-- An led of the board. -/
def IsLed (b : Board) (id : Oid) : Prop :=
  ∃ e, lookup? .led b.leds id = some e

/-- A power supply of the board. -/
def IsPsu (b : Board) (id : Oid) : Prop :=
  ∃ e, lookup? .psu b.psus id = some e

theorem isLed_iff (held : b.holds id = true) : b.IsLed id ↔ id.kind = .led := by
  rw [IsLed, exists_lookup?_iff]
  refine and_iff_left_of_imp fun hk => ?_
  simpa [holds, hk] using held

theorem isPsu_iff (held : b.holds id = true) : b.IsPsu id ↔ id.kind = .psu := by
  rw [IsPsu, exists_lookup?_iff]
  refine and_iff_left_of_imp fun hk => ?_
  simpa [holds, hk] using held

theorem mem_inOrder {role : LedRole} (h : role ∈ roles.inOrder) :
    (∃ led, roles.fan = some led ∧ role = .fans led) ∨
      ∃ pair ∈ roles.psus, role = .psu pair.1 pair.2 := by
  obtain ⟨pre, post, hsplit⟩ := List.append_of_mem h
  obtain ⟨led, hled, rfl, -⟩ | ⟨before, psu, led, after, hpsus, rfl, -⟩ :=
    LedRoles.inOrder_split hsplit
  · exact .inl ⟨led, hled, rfl⟩
  · exact .inr ⟨(psu, led), by simp [hpsus], rfl⟩

/-- Every led of a role is some object of the board. -/
theorem RolesValid.holds_led (h : b.RolesValid roles) {role : LedRole}
    (hrole : role ∈ roles.inOrder) : b.holds role.led = true := by
  obtain ⟨led, hled, rfl⟩ | ⟨pair, hpair, rfl⟩ := mem_inOrder hrole
  · exact h.fan led hled
  · exact h.led pair hpair

/-! ## Calls -/

theorem psu_read_refused (hk : id.kind ≠ .psu) (io : Io) (m : Machine) :
    ((b.operations io).psu.read id m).1 = .error .param := by
  show ((ofExcept (find .psu b.psus id) >>= fun e => e.read io id) m).1 = .error .param
  rw [find, lookup?, if_neg hk]
  rfl

theorem psuLedMode_mem (outcome : Except StatusError PsuReading) :
    Platform.psuLedMode outcome ∈ [LedMode.off, .green, .orange] := by
  unfold Platform.psuLedMode
  split
  · simp
  · split_ifs <;> simp

/-- **The calls of a pass over the leds of a valid board.** -/
theorem Valid.manageLeds_calls (valid : b.Valid) (hroles : b.ledRoles = some roles) (io : Io)
    (m : Machine) :
    ∃ calls m', (b.platform io).manageLeds m =
        (verdict (calls.map (Call.outcome (b.operations io).showOrder)), m') ∧
      Calls (b.operations io).showOrder (b.operations io).Looks LedRole.AsksFor roles.inOrder m
        calls m' := by
  obtain ⟨entries, -, hlist, -, -⟩ := valid.walk
  have hwalk : ((b.operations io).walk m).1 = .ok entries := by
    rw [operations_walk hlist io m]
  have hpass : (b.platform io).manageLeds = (b.operations io).ledPass roles := by
    rw [platform, hroles]
  rw [hpass]
  refine Platform.ledPass_eq_calls hwalk (fun led healthy s' _ _ => ⟨rfl, ?_⟩)
    fun pre supply led post s' outcome s'' _ _ _ hread => ⟨rfl, ?_⟩
  · cases healthy <;> simp [LedRole.modes]
  · rw [LedRole.modes]
    split_ifs with hk
    · exact psuLedMode_mem outcome
    · have hrefused : outcome = .error .param :=
        (congrArg Prod.fst hread).symm.trans (psu_read_refused hk io s')
      rw [hrefused]
      exact List.mem_singleton_self _

/-- A call that is carried out: the led has the mode that it is asked for, and the value of that
mode is written. -/
def Shown (b : Board) (io : Io) (c : Call (Oid × LedMode) Machine) : Prop :=
  ∃ e raw, lookup? .led b.leds c.order.1 = some e ∧ e.rawOf? c.order.2 = some raw ∧
    io.write e.locator raw c.before = (.ok (), c.after (b.operations io).showOrder)

section Outcome

variable {c : Call (Oid × LedMode) Machine}

theorem showOrder_of_not_led (h : ¬b.IsLed c.order.1) :
    c.outcome (b.operations io).showOrder = .error (.status .param) := by
  have hnone : lookup? .led b.leds c.order.1 = none :=
    Option.eq_none_iff_forall_not_mem.2 fun e he => h ⟨e, he⟩
  show (b.setLedMode io c.order.1 c.order.2 c.before).1 = _
  rw [setLedMode, find, hnone]
  rfl

/-- An led is driven as its entry says. -/
theorem showOrder_of_led {e : LedEntry} (he : lookup? .led b.leds c.order.1 = some e) :
    (b.operations io).showOrder c.order c.before =
      match e.rawOf? c.order.2 with
      | some raw => io.write e.locator raw c.before
      | none => (.error (.status .unsupported), c.before) := by
  show b.setLedMode io c.order.1 c.order.2 c.before = _
  rw [b.setLedMode_eq io he]
  cases e.rawOf? c.order.2 <;> rfl

/-- **A call is refused as a parameter exactly if it asks something that is no led.** -/
theorem outcome_param_iff :
    c.outcome (b.operations io).showOrder = .error (.status .param) ↔ ¬b.IsLed c.order.1 := by
  refine ⟨fun h => ?_, showOrder_of_not_led⟩
  rintro ⟨e, he⟩
  rw [Call.outcome, showOrder_of_led he] at h
  cases hraw : e.rawOf? c.order.2 with
  | none =>
    rw [hraw] at h
    cases h
  | some raw =>
    rw [hraw] at h
    obtain hdrive | hdrive | ⟨status, hdrive, hstatus⟩ := failsWith_write e.locator raw _ _ h
    · cases hdrive
    · cases hdrive
    · cases hdrive
      exact hstatus.ne_param rfl

/-- A call ends well exactly if it is carried out. -/
theorem outcome_ok_iff : c.outcome (b.operations io).showOrder = .ok () ↔ b.Shown io c := by
  constructor
  · intro h
    by_cases hled : b.IsLed c.order.1
    · obtain ⟨e, he⟩ := hled
      have hrun : (b.operations io).showOrder c.order c.before = _ := showOrder_of_led he
      cases hraw : e.rawOf? c.order.2 with
      | none =>
        rw [Call.outcome, hrun, hraw] at h
        cases h
      | some raw =>
        rw [hraw] at hrun
        exact ⟨e, raw, he, hraw, hrun.symm.trans (Prod.ext h rfl)⟩
    · cases (showOrder_of_not_led hled).symm.trans h
  · rintro ⟨e, raw, he, hraw, hwrite⟩
    rw [Call.outcome, showOrder_of_led he, hraw]
    exact congrArg Prod.fst hwrite

end Outcome

/-- **Validation does not make the leds of roles leds.** The objects that the roles of a valid board
name are leds and power supplies exactly if their ids are of these kinds. Every pass over the leds
asks for one mode of each role in turn; such a call is refused as a parameter exactly if it asks
something that is no led, and carried out exactly if it ends well. So the pass is refused as a
parameter if the first call that fails asks something that is no led. If all leds of the roles are
leds then no pass is, and otherwise none ends well. -/
theorem manageLeds_param_iff (valid : b.validate = .ok ()) (hroles : b.ledRoles = some roles)
    (io : Io) :
    (∀ role ∈ roles.inOrder, b.IsLed role.led ↔ role.led.kind = .led) ∧
    (∀ pair ∈ roles.psus, b.IsPsu pair.1 ↔ pair.1.kind = .psu) ∧
    ∀ m, ∃ calls m', (b.platform io).manageLeds m =
        (verdict (calls.map (Call.outcome (b.operations io).showOrder)), m') ∧
      Calls (b.operations io).showOrder (b.operations io).Looks LedRole.AsksFor roles.inOrder m
        calls m' ∧
      (∀ c ∈ calls,
        (c.outcome (b.operations io).showOrder = .error (.status .param) ↔ ¬b.IsLed c.order.1) ∧
        (c.outcome (b.operations io).showOrder = .ok () ↔ b.Shown io c)) ∧
      (((b.platform io).manageLeds m).1 = .error (.status .param) ↔
        (∀ c ∈ calls, c.outcome (b.operations io).showOrder ≠ .error .quotientOverflow) ∧
          ∃ c, FirstFailing (b.operations io).showOrder calls c ∧ ¬b.IsLed c.order.1) ∧
      ((∀ role ∈ roles.inOrder, b.IsLed role.led) →
        ((b.platform io).manageLeds m).1 ≠ .error (.status .param)) ∧
      ((∃ role ∈ roles.inOrder, ¬b.IsLed role.led) →
        ((b.platform io).manageLeds m).1 ≠ .ok ()) := by
  have hvalid : b.Valid := validate_eq_ok_iff.1 valid
  have hheld := hvalid.roles roles hroles
  refine ⟨fun role hrole => isLed_iff (hheld.holds_led hrole),
    fun pair hpair => isPsu_iff (hheld.psu pair hpair), fun m => ?_⟩
  obtain ⟨calls, m', hrun, hcalls⟩ := hvalid.manageLeds_calls hroles io m
  have hparam : ((b.platform io).manageLeds m).1 = .error (.status .param) ↔
      (∀ c ∈ calls, c.outcome (b.operations io).showOrder ≠ .error .quotientOverflow) ∧
        ∃ c, FirstFailing (b.operations io).showOrder calls c ∧ ¬b.IsLed c.order.1 := by
    simp only [hrun, verdict_calls_eq_status_iff, outcome_param_iff]
  refine ⟨calls, m', hrun, hcalls, fun c _ => ⟨outcome_param_iff, outcome_ok_iff⟩, hparam,
    fun hall hrefused => ?_, ?_⟩
  · obtain ⟨-, c, hfirst, hno⟩ := hparam.1 hrefused
    obtain ⟨role, hrole, hled, -⟩ := hcalls.exists_name hfirst.mem
    exact hno (hled ▸ hall role hrole)
  · rintro ⟨role, hrole, hno⟩ hok
    rw [hrun, verdict_calls_eq_ok_iff] at hok
    obtain ⟨c, hc, hled, -⟩ :=
      hcalls.exists_call (fun c hc h => by cases (hok c hc).symm.trans h) hrole
    cases (hok c hc).symm.trans (showOrder_of_not_led (hled ▸ hno))

/-- A board of a fan and an led, which gives the role of showing the fan to some object. -/
def roleBoard (led : Oid) : Board :=
  { name := "roles"
    fans := [{ description := "Fan 1", parent := .chassis, caps := .empty }]
    leds := [{ description := "Fans", locator := .file "/fan_led"
               modes := [(1, .green), (2, .orange)] }]
    ports := { count := 0, present := .gpio [] false, eepromBus := [], eeprom := ⟨""⟩ }
    ledRoles := some ⟨some led, []⟩ }

/-- The led is not refused, although its attribute does not exist. -/
theorem roleBoard_not_refused :
    let led : Oid := .led 1
    let m : Machine := { tree := .dir [] }
    (roleBoard led).validate = .ok () ∧ (roleBoard led).ledRoles = some ⟨some led, []⟩ ∧
      (((roleBoard led).platform { root := ⟨"/"⟩ }).manageLeds m).1 ≠ .error (.status .param) := by
  intro led m
  obtain ⟨-, -, hpass⟩ :=
    manageLeds_param_iff (b := roleBoard led) (by decide) rfl { root := ⟨"/"⟩ }
  obtain ⟨_, _, -, -, -, -, hall, -⟩ := hpass m
  refine ⟨by decide, rfl, hall fun role hrole => ?_⟩
  cases List.mem_singleton.1 hrole
  exact ⟨_, rfl⟩

/-- The fan is refused, although the board validates. -/
theorem roleBoard_refused :
    let fan : Oid := .fan 1
    let m : Machine := { tree := .dir [("fan_led", .file [])] }
    (roleBoard fan).validate = .ok () ∧ (roleBoard fan).ledRoles = some ⟨some fan, []⟩ ∧
      ¬(roleBoard fan).IsLed fan ∧
      (((roleBoard fan).platform { root := ⟨"/"⟩ }).manageLeds m).1 = .error (.status .param) := by
  refine ⟨by decide, rfl, ?_, by decide +kernel⟩
  rintro ⟨e, he⟩
  cases he

end Board

end SwitchPlatform
