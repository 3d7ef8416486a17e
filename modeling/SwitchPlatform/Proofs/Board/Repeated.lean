import SwitchPlatform.Proofs.Board.PassesInStep
import SwitchPlatform.Proofs.FanPolicy.Run

/-!
# Management that is repeated

If a pass over the fans and then one over the leds end well, and both are run again with no change
from outside, then they end well again, the fans get the same decision, and every file stays as it
is (`management_repeats`). What was written must not be read for the health of the board: the duties
and the leds are attributes of their own (`WritesApart`), and the readings do not look at the export
attribute, which the passes also write (`ExportUnread`; the board with a power supply at the end
shows what happens if a sensor does).

The second run is compared with the first one, which it follows in step (`manageFans_again`,
`inStep_manageLeds`). It remembers another duty, but that is the one that the first run decided, and
a decision that was just made is made again (`FanPolicy.decide_again`). It also remembers whether a
controller is fitted, so the probe of the controller may be any attribute.
-/

namespace SwitchPlatform

open FileTree (Location SameBut)

/-! ## Locators of different files -/

namespace Locator

variable {io : Io} {t : FileTree} {l l' : Locator} {loc : Location}

/-- No file is named by both locators. -/
def Apart (io : Io) (t : FileTree) (l l' : Locator) : Prop :=
  ∀ loc, l.Targets io t loc → ¬l'.Targets io t loc

theorem Targets.of_opens {path : String} (h : io.root.Opens t path loc) :
    (Locator.file path).Targets io t loc :=
  ⟨path, .file path, h⟩

/-- The names of the path of a locator that names the same attribute in every tree. -/
def names? : Locator → Option (List String)
  | .file path => some (Path.names path)
  | .gpio line => some (Path.names line.valuePath)
  | _ => none

theorem names_of_names? {ns : List String} (h : l.names? = some ns) {path : String}
    (names : l.Names io t path) : Path.names path = ns := by
  cases names with
  | file path => exact Option.some_injective _ h
  | gpio line => exact Option.some_injective _ h
  | _ => cases h

/-- Do two locators name one attribute each, and different ones? -/
def differ (l l' : Locator) : Bool :=
  match l.names?, l'.names? with
  | some ns, some ns' => ns != ns'
  | _, _ => false

theorem apart_of_differ (h : l.differ l' = true) : l.Apart io t l' := by
  rintro loc ⟨path, names, hopen⟩ ⟨path', names', hopen'⟩
  unfold differ at h
  split at h
  · rename_i ns ns' hns hns'
    have heq := hopen.names_eq hopen'
    rw [names_of_names? hns names, names_of_names? hns' names'] at heq
    exact bne_iff_ne.1 h heq
  · cases h

end Locator

namespace Board

variable {b : Board} {io : Io} {t : FileTree} {m m₁ m₂ n₁ : Machine} {policy : FanPolicy}
  {d : FanDecision}

/-! ## Passes that end well -/

/-- The steps of a pass over the fans that ends well, from `m` in `n`. -/
structure PassedFans (b : Board) (io : Io) (policy : FanPolicy) (m : Machine) (d : FanDecision)
    (n : Machine) (entries : List TreeEntry) (scan : FanScan) (m' : Machine) : Prop where
  walk : SwitchPlatform.walk b.headerOf = .ok entries
  scanned : (b.operations io).scanFans entries {} m = (.ok scan, m')
  decision : policy.decide m'.duty scan.hottest scan.fault = d
  driven : driveAll (b.commands io scan d.percentage) { m' with duty := some d.percentage } =
    (.ok (), n)

/-- **A pass over the fans ends well exactly by these steps.** -/
theorem manageFans_ok_iff (hpolicy : b.fanPolicy = some policy) {n : Machine} :
    (b.platform io).manageFans m = (.ok d, n) ↔
      ∃ entries scan m', b.PassedFans io policy m d n entries scan m' := by
  constructor
  · intro hrun
    cases hentries : SwitchPlatform.walk b.headerOf with
    | error e =>
      rw [manageFans_of_walk_error hpolicy hentries] at hrun
      cases hrun
    | ok entries =>
      obtain ⟨scan, m', hlook, -⟩ := Platform.scanFans_ok (b.operations io) entries {} m
      rw [manageFans_apply hpolicy hentries hlook rfl rfl] at hrun
      generalize hd : policy.decide m'.duty scan.hottest scan.fault = d' at hrun
      generalize hdriven : driveAll _ _ = run at hrun
      obtain ⟨_ | _, n'⟩ := run <;> cases hrun
      exact ⟨entries, scan, m', hentries, hlook, hd, hdriven⟩
  · rintro ⟨entries, scan, m', passed⟩
    exact manageFans_apply hpolicy passed.walk passed.scanned passed.decision passed.driven

/-- What a pass knows about the controller at its end was known after the scan, or learnt later. -/
theorem Suits.settled_scan {g : Ground} (suits : b.Suits g) (h₁ : g.Carries m₁)
    {entries : List TreeEntry} {scan : FanScan} {k₁ : Machine}
    (passed : b.PassedFans g.io policy m₁ d n₁ entries scan k₁) {answer : Option Bool}
    (hs : n₁.Settled answer) : k₁.Settled answer := by
  have hscan := inStep_scanFans suits entries .refl_nil
  have hknowing : g.Carries { m₁ with bmcFitted := k₁.bmcFitted } := h₁.of_tree rfl
  obtain ⟨scan', -, -, same, hforeseen⟩ :=
    hscan.exists_ok h₁ hknowing passed.scanned (.inr rfl)
  rw [passed.scanned] at hforeseen
  have hcarries : g.Carries { k₁ with duty := some d.percentage } := hforeseen.left.of_tree rfl
  refine (inStep_commands suits same d.percentage).settled hcarries ?_
  rw [passed.driven]
  exact hs

/-- **A pass over the fans that ends well is made again** on every machine that remembers the duty
of before or the one that was decided, and that knows what the pass has learnt about the
controller. -/
theorem Suits.manageFans_again {g : Ground} (suits : b.Suits g)
    (hpolicy : b.fanPolicy = some policy) (hyst : 0 ≤ policy.hysteresis) (h₁ : g.Carries m₁)
    (h₂ : g.Carries m₂) (hrun : (b.platform g.io).manageFans m₁ = (.ok d, n₁))
    (hs : n₁.Settled m₂.bmcFitted) (hduty : m₂.duty = m₁.duty ∨ m₂.duty = some d.percentage) :
    ∃ n₂, (b.platform g.io).manageFans m₂ = (.ok d, n₂) ∧ SameChanges g m₁ m₂ n₁ n₂ ∧
      n₁.duty = some d.percentage ∧ n₂.bmcFitted = m₂.bmcFitted := by
  obtain ⟨entries, scan, k₁, passed⟩ := (manageFans_ok_iff hpolicy).1 hrun
  obtain ⟨scan', k₂, hlook, same, hscan⟩ :=
    (inStep_scanFans suits entries .refl_nil).exists_ok h₁ h₂ passed.scanned
      (suits.settled_scan h₁ passed hs)
  rw [passed.scanned, hlook] at hscan
  -- the same findings, and the duty of before or the one decided, give the same decision
  have hdecision : policy.decide k₂.duty scan'.hottest scan'.fault = d := by
    have hkept : k₁.duty = m₁.duty := hscan.left_duty
    have hkept' : k₂.duty = m₂.duty := hscan.right_duty
    have hfirst := passed.decision
    rw [hkept] at hfirst
    rw [hkept', ← same.hottest, ← same.fault]
    obtain hsame | hdecided := hduty
    · rw [hsame, hfirst]
    · rw [hdecided, ← hfirst, FanPolicy.decide_again hyst]
  have hleft : g.Carries { k₁ with duty := some d.percentage } := hscan.left.of_tree rfl
  have hright : g.Carries { k₂ with duty := some d.percentage } := hscan.right.of_tree rfl
  obtain ⟨_, n₂, hdriven, -, hdrive⟩ :=
    (inStep_commands suits same d.percentage).exists_ok hleft hright passed.driven
      (hscan.right_fitted ▸ hs)
  rw [passed.driven, hdriven] at hdrive
  have hchanges : SameChanges g k₁ k₂ n₁ n₂ := ⟨hdrive.left, hdrive.right, hdrive.files⟩
  refine ⟨n₂, (manageFans_ok_iff hpolicy).2 ⟨entries, scan', k₂, ?_⟩,
    hscan.toSameChanges.trans hchanges, hdrive.left_duty,
    hdrive.right_fitted.trans hscan.right_fitted⟩
  exact ⟨passed.walk, hlook, hdecision, hdriven⟩

/-! ## What is written, and what is read -/

/-- The duties of the fans. -/
def dutyLocators (b : Board) : List Locator :=
  b.fans.filterMap FanEntry.percentage

/-- The leds. -/
def ledLocators (b : Board) : List Locator :=
  b.leds.map LedEntry.locator

/-- The duties and the leds of a board are attributes of their own: no attribute is both, none of
them is the one that exports GPIO lines, and none is read for the health of the board. -/
structure WritesApart (b : Board) (io : Io) (t : FileTree) : Prop where
  duty_attribute : ∀ l ∈ b.dutyLocators, l.IsAttribute
  led_attribute : ∀ l ∈ b.ledLocators, l.IsAttribute
  duty_led : ∀ l ∈ b.dutyLocators, ∀ l' ∈ b.ledLocators, l.Apart io t l'
  no_export : ∀ l ∈ b.dutyLocators ++ b.ledLocators, l.Apart io t (.file Gpio.exportPath)
  health : ∀ l ∈ b.healthLocators, ∀ l' ∈ b.dutyLocators ++ b.ledLocators, l.Apart io t l'

/-- The health of a board is not read from the attribute that exports GPIO lines. -/
def ExportUnread (b : Board) (io : Io) (t : FileTree) : Prop :=
  ∀ l ∈ b.healthLocators, l.Apart io t (.file Gpio.exportPath)

section Ground

variable (apart : b.WritesApart io m.tree)

/-- The ground that management of a machine stands on. -/
def ground : Ground where
  io := io
  tree := m.tree
  duty loc := ∃ l ∈ b.dutyLocators, l.Targets io m.tree loc
  led loc := ∃ l ∈ b.ledLocators, l.Targets io m.tree loc
  duty_apart := by
    rintro loc ⟨l, hl, htarget⟩
    refine ⟨fun ⟨l', hl', htarget'⟩ => apart.duty_led l hl l' hl' loc htarget htarget', ?_⟩
    intro hopen
    exact apart.no_export l (List.mem_append_left _ hl) loc htarget (.of_opens hopen)

theorem carries_ground : (ground apart).Carries m where
  tree := .refl _ _
  readable _ _ := Iff.rfl

theorem mem_dutyLocators {e : FanEntry} (he : e ∈ b.fans) {l : Locator}
    (hl : e.percentage = some l) : l ∈ b.dutyLocators :=
  List.mem_filterMap.2 ⟨e, he, hl⟩

theorem mem_ledLocators {e : LedEntry} (he : e ∈ b.leds) : e.locator ∈ b.ledLocators :=
  List.mem_map_of_mem he

theorem suits_ground (unread : b.ExportUnread io m.tree) : b.Suits (ground apart) where
  duty_attribute e he l hl := apart.duty_attribute l (mem_dutyLocators he hl)
  led_attribute e he := apart.led_attribute _ (mem_ledLocators he)
  duty e he _ := fun ⟨l, hl, htarget⟩ => ⟨l, mem_dutyLocators he hl, htarget⟩
  led e he _ htarget := ⟨e.locator, mem_ledLocators he, htarget⟩
  health := by
    rintro l hl loc htarget (⟨l', hl', h⟩ | ⟨l', hl', h⟩ | h)
    · exact apart.health l hl l' (List.mem_append_left _ hl') loc htarget h
    · exact apart.health l hl l' (List.mem_append_right _ hl') loc htarget h
    · exact unread l hl loc htarget (.of_opens h)

end Ground

/-! ## The second run -/

/-- If both passes over a machine end well, the same two passes end well again, with the same
decision, and leave every file as it is. -/
def Repeats (b : Board) (io : Io) (m : Machine) : Prop :=
  ∀ d m₁ m₂, (b.platform io).manageFans m = (.ok d, m₁) →
    (b.platform io).manageLeds m₁ = (.ok (), m₂) →
    ∃ m₃ m₄, (b.platform io).manageFans m₂ = (.ok d, m₃) ∧
      (b.platform io).manageLeds m₃ = (.ok (), m₄) ∧ SameBut (fun _ => False) m₂.tree m₄.tree

theorem Suits.repeats {g : Ground} (suits : b.Suits g) (hm : g.Carries m)
    (hyst : ∀ policy, b.fanPolicy = some policy → 0 ≤ policy.hysteresis) : b.Repeats g.io m := by
  intro d m₁ m₂ hfans hleds
  cases hpolicy : b.fanPolicy with
  | none =>
    rw [platform, hpolicy] at hfans
    cases hfans
  | some policy =>
    have hyst := hyst policy hpolicy
    have hpass := inStep_manageLeds suits
    -- the first run is in step with one that foresees it, so it stays on the ground
    have hknowing : g.Carries { m with bmcFitted := m₁.bmcFitted } := hm.of_tree rfl
    obtain ⟨_, -, hforeseen, hduty, -⟩ :=
      suits.manageFans_again hpolicy hyst hm hknowing hfans (.inr rfl) (.inl rfl)
    have hshown := hpass.foreseen hforeseen.left
    have hsettled : m₁.Settled m₂.bmcFitted :=
      hpass.settled hforeseen.left (by rw [hleds]; exact .inr rfl)
    rw [hleds] at hshown
    have hdecided : m₂.duty = some d.percentage := hshown.left_duty.trans hduty
    -- the second run knows all that the first one has learnt, and is in step with it
    obtain ⟨m₃, hfans', hset, -, hfitted⟩ :=
      suits.manageFans_again hpolicy hyst hm hshown.left hfans hsettled (.inr hdecided)
    obtain ⟨_, m₄, hleds', -, hshow⟩ :=
      hpass.exists_ok hset.left hset.right hleds (.inr hfitted)
    rw [hleds, hleds'] at hshow
    refine ⟨m₃, m₄, hfans', hleds', (hshow.left.tree.symm.trans hshow.right.tree).of_files ?_⟩
    intro loc
    obtain ⟨-, hright⟩ | hsame := (hset.trans hshow.toSameChanges).files loc
    · exact hright
    · exact hsame.symm

/-- **Management is idempotent**, if the hysteresis is not negative, the duties and the leds are
attributes of their own, and the export attribute is not read. -/
theorem management_repeats (b : Board) (io : Io) (m : Machine)
    (hyst : ∀ policy, b.fanPolicy = some policy → 0 ≤ policy.hysteresis)
    (apart : b.WritesApart io m.tree) (unread : b.ExportUnread io m.tree) : b.Repeats io m :=
  (suits_ground apart unread).repeats (carries_ground apart) hyst

/-! ## A board with a power supply -/

/-- Duties, leds and readings with paths that differ are apart. -/
theorem writesApart_of_differ
    (plain : ∀ l ∈ b.dutyLocators ++ b.ledLocators, l.IsAttribute)
    (duty_led : ∀ l ∈ b.dutyLocators, ∀ l' ∈ b.ledLocators, l.differ l' = true)
    (no_export : ∀ l ∈ b.dutyLocators ++ b.ledLocators,
      l.differ (.file Gpio.exportPath) = true)
    (health : ∀ l ∈ b.healthLocators, ∀ l' ∈ b.dutyLocators ++ b.ledLocators,
      l.differ l' = true) : b.WritesApart io t where
  duty_attribute l hl := plain l (List.mem_append_left _ hl)
  led_attribute l hl := plain l (List.mem_append_right _ hl)
  duty_led l hl l' hl' := Locator.apart_of_differ (duty_led l hl l' hl')
  no_export l hl := Locator.apart_of_differ (no_export l hl)
  health l hl l' hl' := Locator.apart_of_differ (health l hl l' hl')

/-- A board with a sensor, two fans, and a power supply whose presence is a GPIO line and whose
state an led shows. The sensor has an attribute of its own, or is the export attribute. -/
def poweredBoard (exportIsSensor : Bool) : Board :=
  { twoFans with
    name := "powered"
    thermals := [{ description := "CPU", parent := .chassis
                   input := .file (if exportIsSensor then Gpio.exportPath else "/temperature")
                   caps := ThermalCaps.temperature, thresholds := ⟨0, 0, 0⟩ }]
    psus := [{ description := "PSU 1", caps := PsuCaps.ac
               present := ⟨.gpio ⟨60000, false⟩, false⟩ }]
    leds := [{ description := "PSU 1", locator := .file "/psu_led"
               modes := [(0, .off), (1, .green), (2, .orange)] }]
    ledRoles := some ⟨none, [(oid .psu 0, oid .led 0)]⟩ }

/-- That board at 30 degrees, with the number of a line in the export attribute. -/
def poweredMachine : Machine :=
  { tree := .dir [("temperature", .file (Text.Utf8.encode "30000")),
      ("fan1_fault", .file (Text.Utf8.encode "0")), ("fan1_duty", .file (Text.Utf8.encode "40")),
      ("fan2_fault", .file (Text.Utf8.encode "0")), ("fan2_duty", .file (Text.Utf8.encode "40")),
      ("psu_led", .file (Text.Utf8.encode "0")),
      ("sys", .dir [("class", .dir [("gpio",
        .dir [("export", .file (Text.Utf8.encode "30000"))])])])] }

/-- That board after one pass over the fans. -/
def poweredAfterFans (exportIsSensor : Bool) : Machine :=
  (((poweredBoard exportIsSensor).platform twoFansIo).manageFans poweredMachine).2

/-- That board after one pass over the fans and one over the leds. -/
def poweredAfterLeds (exportIsSensor : Bool) : Machine :=
  (((poweredBoard exportIsSensor).platform twoFansIo).manageLeds
    (poweredAfterFans exportIsSensor)).2

theorem poweredBoard_writesApart (exportIsSensor : Bool) :
    (poweredBoard exportIsSensor).WritesApart twoFansIo t := by
  refine writesApart_of_differ ?_ ?_ ?_ ?_
  · exact List.forall_mem_cons.2 ⟨.file _, List.forall_mem_cons.2 ⟨.file _,
      List.forall_mem_singleton.2 (.file _)⟩⟩
  · revert exportIsSensor
    decide +kernel
  · revert exportIsSensor
    decide +kernel
  · revert exportIsSensor
    decide +kernel

theorem poweredBoard_exportUnread : (poweredBoard false).ExportUnread twoFansIo t := by
  have hdiffer : ∀ l ∈ (poweredBoard false).healthLocators,
      l.differ (.file Gpio.exportPath) = true := by
    decide +kernel
  exact fun l hl => Locator.apart_of_differ (hdiffer l hl)

/-- Both passes end well on that board, so they can be repeated. -/
theorem poweredBoard_repeats :
    (∀ policy, (poweredBoard false).fanPolicy = some policy → 0 ≤ policy.hysteresis) ∧
      (poweredBoard false).WritesApart twoFansIo poweredMachine.tree ∧
      (poweredBoard false).ExportUnread twoFansIo poweredMachine.tree ∧
      (((poweredBoard false).platform twoFansIo).manageFans poweredMachine).1 =
        .ok ⟨some 30000, 40, false⟩ ∧
      (((poweredBoard false).platform twoFansIo).manageLeds (poweredAfterFans false)).1 = .ok () ∧
      (poweredBoard false).Repeats twoFansIo poweredMachine := by
  have hyst : ∀ policy, (poweredBoard false).fanPolicy = some policy → 0 ≤ policy.hysteresis := by
    rintro policy ⟨⟩
    decide
  exact ⟨hyst, poweredBoard_writesApart false, poweredBoard_exportUnread, by decide +kernel,
    by decide +kernel, management_repeats (poweredBoard false) twoFansIo poweredMachine hyst
      (poweredBoard_writesApart false) poweredBoard_exportUnread⟩

/-- **A board that reads its temperature from the export attribute is hotter the second time**: the
pass over the leds has exported the line of the power supply in between. -/
theorem exportIsSensor_not_repeated :
    (poweredBoard true).validate = .ok () ∧ twoFansIo.probe = none ∧
      (∀ policy, (poweredBoard true).fanPolicy = some policy → 0 ≤ policy.hysteresis) ∧
      (poweredBoard true).WritesApart twoFansIo poweredMachine.tree ∧
      ¬(poweredBoard true).Repeats twoFansIo poweredMachine := by
  have hfans : (((poweredBoard true).platform twoFansIo).manageFans poweredMachine).1 =
      .ok ⟨some 30000, 40, false⟩ := by decide +kernel
  have hleds : (((poweredBoard true).platform twoFansIo).manageLeds (poweredAfterFans true)).1 =
      .ok () := by decide +kernel
  have hagain : (((poweredBoard true).platform twoFansIo).manageFans (poweredAfterLeds true)).1 =
      .ok ⟨some 60000, 60, false⟩ := by decide +kernel
  refine ⟨rfl, rfl, ?_, poweredBoard_writesApart true, fun repeats => ?_⟩
  · rintro policy ⟨⟩
    decide
  · have hfirst : ((poweredBoard true).platform twoFansIo).manageFans poweredMachine =
        (.ok ⟨some 30000, 40, false⟩, poweredAfterFans true) :=
      Prod.ext hfans (by simp only [poweredAfterFans])
    have hshown : ((poweredBoard true).platform twoFansIo).manageLeds (poweredAfterFans true) =
        (.ok (), poweredAfterLeds true) :=
      Prod.ext hleds (by simp only [poweredAfterLeds])
    obtain ⟨m₃, m₄, hsecond, -, -⟩ := repeats _ _ _ hfirst hshown
    rw [hsecond] at hagain
    cases hagain

end Board

end SwitchPlatform
