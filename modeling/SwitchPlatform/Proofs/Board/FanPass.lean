import SwitchPlatform.Proofs.Board.Objects
import SwitchPlatform.Proofs.Board.QuietReadings
import SwitchPlatform.Proofs.Board.Readings
import SwitchPlatform.Proofs.Io.Writing
import SwitchPlatform.Proofs.Platform.FanPass

/-!
# What a pass over the fans of a board decides

`manageFans_decides`: on a valid board whose locators leave the export attribute alone, a pass
decides by the highest temperature that any sensor of the tables reports, and by the faults of the
fans of the chassis; it remembers the duty whatever becomes of setting it, changes no file but
those that the duties of these fans reach, and treats the fans of power supplies as if they were
not there.

The walk of a valid board meets every sensor and every fan (`IsWalk.exists_sensor_iff`,
`IsWalk.exists_fan_iff`), so what a scan finds is said of the tables (`Valid.steps`).
-/

namespace SwitchPlatform.Board

open FileTree (Location SameBut)
open ThermalReading FanReading

variable {b : Board} {io : Io} {t : FileTree}

/-- A fan of a board whose parent is the chassis. -/
def ChassisFan (b : Board) (id : Oid) (e : FanEntry) : Prop :=
  lookup? .fan b.fans id = some e ∧ e.parent = .chassis

/-- No locator that a pass over the fans reads names the export attribute. -/
structure FansSpared (b : Board) (io : Io) (t : FileTree) : Prop where
  thermal : ∀ e ∈ b.thermals, e.input.Spares io t Gpio.exportPath
  fan : ∀ e ∈ b.fans, e.parent = .chassis → e.Spared io t

/-- The files that a pass over the fans may change: those of the duties of the chassis fans that
take one, and the export attribute. -/
def DutyFiles (b : Board) (io : Io) (t : FileTree) (loc : Location) : Prop :=
  io.root.Opens t Gpio.exportPath loc ∨
    ∃ id e l, b.ChassisFan id e ∧ e.caps.has FanCaps.setPercentage = true ∧
      e.percentage = some l ∧ l.Reaches io t loc

/-- The temperatures of the sensors of a board that can be read. -/
def Temperature (b : Board) (io : Io) (m : Machine) (t : Int32) : Prop :=
  ∃ id e, lookup? .thermal b.thermals id = some e ∧ (io.read e.input m).1 = .ok t

/-- Is a fan of the chassis in fault? -/
def FanFault (b : Board) (io : Io) (m : Machine) : Prop :=
  ∃ id e, b.ChassisFan id e ∧ InFault (e.read io id m).1

/-- The decision of a pass over the fans. -/
structure Decides (b : Board) (io : Io) (policy : FanPolicy) (m : Machine) (d : FanDecision) :
    Prop where
  hottest : IsHottest (b.Temperature io m) d.hottest
  failsafe : d.failsafe = true ↔ d.hottest = none ∨ b.FanFault io m
  failsafe_duty : d.failsafe = true → d.percentage = policy.failsafe
  duty : ∀ t, d.failsafe = false → d.hottest = some t → d.percentage = policy.nextDuty m.duty t

/-! ## The sensors and fans of a walk -/

theorem ChassisFan.unique {id : Oid} {e e' : FanEntry} (h : b.ChassisFan id e)
    (h' : b.ChassisFan id e') : e = e' :=
  Option.some_injective _ (h.1.symm.trans h'.1)

theorem ChassisFan.mem {id : Oid} {e : FanEntry} (h : b.ChassisFan id e) : e ∈ b.fans :=
  mem_of_lookup? h.1

namespace IsWalk

variable {entries : List TreeEntry}

/-- An object with a header is met with that header. -/
theorem exists_mem (walk : b.IsWalk entries) {id : Oid} {h : Header} (hh : b.headerOf id = .ok h) :
    ∃ e ∈ entries, e.header.id = id ∧ e.header = h := by
  have hid := (walk.mem_iff id).2 (headerOf_eq_ok_iff.1 ⟨h, hh⟩)
  obtain ⟨e, he, rfl⟩ := List.mem_map.1 hid
  have hown := walk.own e he
  rw [hh] at hown
  cases hown
  exact ⟨e, he, rfl, rfl⟩

theorem sensor (walk : b.IsWalk entries) {e : TreeEntry} (he : e ∈ entries)
    (hk : e.header.id.kind = .thermal) :
    ∃ entry, lookup? .thermal b.thermals e.header.id = some entry := by
  have hown := walk.own e he
  rw [headerOf, hk] at hown
  obtain ⟨entry, hentry, -⟩ := find_map_eq_ok_iff.1 hown
  exact ⟨entry, hentry⟩

theorem fan (walk : b.IsWalk entries) {e : TreeEntry} (he : e ∈ entries)
    (hf : e.isChassisFan = true) : ∃ entry, b.ChassisFan e.header.id entry := by
  unfold TreeEntry.isChassisFan at hf
  obtain ⟨hk, hp⟩ := Bool.and_eq_true_iff.1 hf
  have hown := walk.own e he
  rw [headerOf, eq_of_beq hk] at hown
  obtain ⟨entry, hentry, hheader⟩ := find_map_eq_ok_iff.1 hown
  refine ⟨entry, hentry, ?_⟩
  rw [← eq_of_beq hp, ← hheader]
  rfl

/-- **A walk meets every sensor of the tables.** -/
theorem exists_sensor_iff (walk : b.IsWalk entries) {P : Oid → Prop} :
    (∃ e ∈ entries, e.header.id.kind = .thermal ∧ P e.header.id) ↔
      ∃ id entry, lookup? .thermal b.thermals id = some entry ∧ P id := by
  constructor
  · rintro ⟨e, he, hk, hP⟩
    obtain ⟨entry, hentry⟩ := walk.sensor he hk
    exact ⟨_, entry, hentry, hP⟩
  · rintro ⟨id, entry, hentry, hP⟩
    obtain ⟨e, he, rfl, -⟩ := walk.exists_mem (headerOf_thermal hentry)
    exact ⟨e, he, (lookup?_eq_some_iff.1 hentry).1, hP⟩

/-- **A walk meets every fan of the chassis.** -/
theorem exists_fan_iff (walk : b.IsWalk entries) {P : Oid → Prop} :
    (∃ e ∈ entries, e.isChassisFan = true ∧ P e.header.id) ↔
      ∃ id entry, b.ChassisFan id entry ∧ P id := by
  constructor
  · rintro ⟨e, he, hf, hP⟩
    obtain ⟨entry, hentry⟩ := walk.fan he hf
    exact ⟨_, entry, hentry, hP⟩
  · rintro ⟨id, entry, ⟨hentry, hparent⟩, hP⟩
    obtain ⟨e, he, rfl, hheader⟩ := walk.exists_mem (headerOf_fan hentry)
    refine ⟨e, he, ?_, hP⟩
    unfold TreeEntry.isChassisFan
    rw [(lookup?_eq_some_iff.1 hentry).1, hheader]
    exact beq_iff_eq.2 hparent

end IsWalk

/-! ## Readings -/

theorem find_of_lookup {α : Type} {kind : Oid.Kind} {table : List α} {id : Oid} {a : α}
    (h : lookup? kind table id = some a) : find kind table id = .ok a := by
  rw [find, h]

theorem lookup_of_find {α : Type} {kind : Oid.Kind} {table : List α} {id : Oid} {a : α}
    (h : find kind table id = .ok a) : lookup? kind table id = some a := by
  unfold find at h
  split at h <;> cases h
  assumption

theorem thermal_read_eq {id : Oid} {e : ThermalEntry}
    (h : lookup? .thermal b.thermals id = some e) :
    (b.operations io).thermal.read id = e.read io id := by
  show (Action.ofExcept (find .thermal b.thermals id) >>= fun e => e.read io id) = _
  rw [find_of_lookup h]
  rfl

theorem fan_read_eq {id : Oid} {e : FanEntry} (h : lookup? .fan b.fans id = some e) :
    (b.operations io).fan.read id = e.read io id := by
  show (Action.ofExcept (find .fan b.fans id) >>= fun e => e.read io id) = _
  rw [find_of_lookup h]
  rfl

theorem setDuty_eq {id : Oid} {e : FanEntry} (h : lookup? .fan b.fans id = some e)
    (percentage : UInt8) :
    (b.operations io).fan.setDuty id percentage =
      if e.caps.has FanCaps.setPercentage then
        match e.percentage with
        | some l => io.write l (Int32.ofNat percentage.toNat)
        | none => .fail (.status .unsupported)
      else .fail (.status .unsupported) := by
  show b.setDuty io id percentage = _
  unfold setDuty
  rw [find_of_lookup h]
  rfl

theorem toInt_ofNat_toNat (percentage : UInt8) :
    (Int32.ofNat percentage.toNat).toInt = percentage.toNat := by
  have hlt := percentage.toNat_lt
  exact Int32.toInt_ofNat_of_lt (by omega)

/-- A percentage fits into a byte. -/
theorem ofNat_toNat_of_percentage {p : Int32} (hlow : 0 ≤ p) (hhigh : p ≤ 100) :
    Int32.ofNat (UInt8.ofNat p.toInt.toNat).toNat = p := by
  rw [Int32.le_iff_toInt_le] at hlow hhigh
  have hzero : (0 : Int32).toInt = 0 := rfl
  have hfull : (100 : Int32).toInt = 100 := rfl
  have hbyte : (UInt8.ofNat p.toInt.toNat).toNat = p.toInt.toNat :=
    UInt8.toNat_ofNat_of_lt' (by rw [UInt8.size]; omega)
  refine Int32.toInt_inj.1 ?_
  rw [toInt_ofNat_toNat, hbyte]
  omega

/-- A fan that was set was set to a percentage, through the locator of its duty. -/
theorem setPercentage_ok {id : Oid} {e : FanEntry} (h : lookup? .fan b.fans id = some e)
    {p : Int32} {m : Machine} (ok : ((b.operations io).fan.setPercentage id p m).1 = .ok ()) :
    (0 ≤ p ∧ p ≤ 100) ∧ ∃ l, e.percentage = some l ∧
      (b.operations io).fan.setPercentage id p m = io.write l p m := by
  rw [FanOps.setPercentage] at ok ⊢
  split_ifs at ok ⊢ with hrange
  · rw [setDuty_eq h, ofNat_toNat_of_percentage hrange.1 hrange.2] at ok ⊢
    split_ifs at ok ⊢ with hcaps
    · cases hl : e.percentage with
      | some l => exact ⟨hrange, l, rfl, rfl⟩
      | none =>
        rw [hl] at ok
        cases ok
    · cases ok
  · cases ok

/-- The operations of a platform with a sensor or fan of the tables are those of its entry. -/
theorem quietOn_walk {entries : List TreeEntry} (walk : b.IsWalk entries) :
    (b.operations io).QuietOn io.root t (b.FansSpared io t) entries where
  thermal e he hk := by
    obtain ⟨entry, hentry⟩ := walk.sensor he hk
    rw [thermal_read_eq hentry]
    exact (entry.quiet_read _).mono fun spared => spared.thermal entry (mem_of_lookup? hentry)
  fan e he hf := by
    obtain ⟨entry, hentry⟩ := walk.fan he hf
    rw [fan_read_eq hentry.1]
    exact (entry.quiet_read _).mono fun spared => spared.fan entry hentry.mem hentry.2

/-- What a scan of the walk finds, said of the tables. -/
structure Scanned (b : Board) (io : Io) (m : Machine) (scan : FanScan) : Prop where
  hottest : IsHottest (b.Temperature io m) scan.hottest
  fault : scan.fault = true ↔ b.FanFault io m
  fans : ∀ r, r ∈ scan.fans ↔ ∃ id e, b.ChassisFan id e ∧ (e.read io id m).1 = .ok r

theorem scanned_of_finds {entries : List TreeEntry} (walk : b.IsWalk entries) {m : Machine}
    {scan : FanScan} (h : FanScan.Finds (fun id => ((b.operations io).thermal.read id m).1)
      (fun id => ((b.operations io).fan.read id m).1) entries scan) : b.Scanned io m scan where
  hottest := by
    have htemps : b.Temperature io m = fun t => ∃ e ∈ entries, e.header.id.kind = .thermal ∧
        Reports ((b.operations io).thermal.read e.header.id m).1 t := by
      funext t
      rw [walk.exists_sensor_iff
        (P := fun id => Reports ((b.operations io).thermal.read id m).1 t)]
      refine propext (exists_congr fun id => exists_congr fun e => ?_)
      refine and_congr_right fun hentry => ?_
      rw [thermal_read_eq hentry, ThermalEntry.reports_read_iff]
    rw [htemps]
    exact h.hottest
  fault := by
    rw [h.fault, walk.exists_fan_iff
      (P := fun id => InFault ((b.operations io).fan.read id m).1)]
    refine exists_congr fun id => exists_congr fun e => and_congr_right fun hfan => ?_
    rw [fan_read_eq hfan.1]
  fans r := by
    rw [h.fans, walk.exists_fan_iff
      (P := fun id => ((b.operations io).fan.read id m).1 = .ok r)]
    refine exists_congr fun id => exists_congr fun e => and_congr_right fun hfan => ?_
    rw [fan_read_eq hfan.1]

/-- The command to a fan that sets its duty. -/
def tell (b : Board) (io : Io) (percentage : UInt8) (id : Oid) : Command Machine Unit :=
  (b.operations io).fan.setPercentage id (Int32.ofNat percentage.toNat)

/-- Setting a fan of the chassis changes the file of its duty at most. -/
theorem within_tell {id : Oid} {e : FanEntry} (hfan : b.ChassisFan id e) (percentage : UInt8) :
    Within (b.DutyFiles io t) t (b.tell io percentage id) := by
  rw [tell, FanOps.setPercentage]
  split
  · rw [setDuty_eq hfan.1]
    split
    · rename_i hcaps
      split
      · rename_i l hl
        refine .widen (fun t => l.Reaches io t) (fun t => within_write l _) fun t' loc same h => ?_
        rcases (Locator.reaches_iff same).1 h with hexport | hnamed
        · exact .inl hexport
        · exact .inr ⟨id, e, l, hfan, hcaps, hl, .inr hnamed⟩
      · exact .fail _
    · exact .fail _
  · exact .fail _

/-! ## The pass -/

/-- What the fans are told in a pass that found `scan`. -/
def commands (b : Board) (io : Io) (scan : FanScan) (percentage : UInt8) :
    List (Command Machine Unit) :=
  scan.settable.map fun r => b.tell io percentage r.header.id

/-- The steps of a pass from `m` that ends in `run`: a walk over `entries`, a scan of them that ends
in `m₁`, a decision, and the commands to the fans. -/
structure Steps (b : Board) (io : Io) (policy : FanPolicy) (m : Machine) (entries : List TreeEntry)
    (m₁ : Machine) (scan : FanScan) (d : FanDecision) (run : Except Fault FanDecision × Machine) :
    Prop where
  walk : b.IsWalk entries
  listed : (b.operations io).walk m = (.ok entries, m)
  looked : (b.operations io).scanFans entries {} m = (.ok scan, m₁)
  after : m.After (io.root.Opens m.tree Gpio.exportPath) m.tree m₁
  scanned : b.Scanned io { m with bmcFitted := run.2.bmcFitted } scan
  decision : policy.decide m.duty scan.hottest scan.fault = d
  outcome : run.1 = (driveAll (b.commands io scan d.percentage)
    { m₁ with duty := some d.percentage }).1.map fun _ => d
  machine : run.2 = (driveAll (b.commands io scan d.percentage)
    { m₁ with duty := some d.percentage }).2

/-- A pass over the fans that remembers the duty in the machine. -/
def dutyPass (p : Platform Machine) (policy : FanPolicy) : Command Machine FanDecision :=
  p.fanPass policy Machine.duty fun duty m => { m with duty := some duty }

theorem manageFans_eq {policy : FanPolicy} (hpolicy : b.fanPolicy = some policy) :
    (b.platform io).manageFans = dutyPass (b.operations io) policy := by
  simp only [platform, hpolicy]
  rfl

/-- **The steps of a pass of a board**, whose objects are walked through without looking at the
machine. -/
theorem manageFans_apply {policy : FanPolicy} (hpolicy : b.fanPolicy = some policy)
    {m m₁ : Machine} {entries : List TreeEntry} {scan : FanScan} {d : FanDecision}
    {run : Except Fault Unit × Machine} (hlist : SwitchPlatform.walk b.headerOf = .ok entries)
    (hscan : (b.operations io).scanFans entries {} m = (.ok scan, m₁))
    (hd : policy.decide m₁.duty scan.hottest scan.fault = d)
    (hrun : driveAll (b.commands io scan d.percentage) { m₁ with duty := some d.percentage } =
      run) :
    (b.platform io).manageFans m = (run.1.map fun _ => d, run.2) := by
  rw [manageFans_eq hpolicy, dutyPass]
  exact Platform.fanPass_apply policy Machine.duty (fun duty m => { m with duty := some duty })
    (operations_walk hlist io m) hscan hd hrun

/-- A pass of a board whose objects cannot be walked through does nothing. -/
theorem manageFans_of_walk_error {policy : FanPolicy} (hpolicy : b.fanPolicy = some policy)
    {e : StatusError} (hlist : SwitchPlatform.walk b.headerOf = .error e) (m : Machine) :
    (b.platform io).manageFans m = (.error (.status e), m) := by
  rw [manageFans_eq hpolicy, dutyPass, Platform.fanPass, lift_eq, Action.bind_eq,
    Action.mapError_eq, operations_walk hlist io m]
  rfl

/-- The fans that are told a duty are fans of the chassis. -/
theorem Scanned.chassisFan {m : Machine} {scan : FanScan} (scanned : b.Scanned io m scan)
    {r : FanReading} (hr : r ∈ scan.settable) : ∃ e, b.ChassisFan r.header.id e := by
  obtain ⟨id, e, hfan, hread⟩ := (scanned.fans r).1 (List.mem_filter.1 hr).1
  rw [(FanEntry.read_ok hread).1]
  exact ⟨e, hfan⟩

theorem within_commands {m : Machine} {scan : FanScan} (scanned : b.Scanned io m scan)
    (percentage : UInt8) : ∀ x ∈ b.commands io scan percentage, Within (b.DutyFiles io t) t x := by
  intro x hx
  obtain ⟨r, hr, rfl⟩ := List.mem_map.1 hx
  obtain ⟨e, hfan⟩ := scanned.chassisFan hr
  exact within_tell hfan _

/-- **The steps of a pass over the fans of a valid board.** -/
theorem Valid.steps (valid : b.Valid) {policy : FanPolicy} (hpolicy : b.fanPolicy = some policy)
    {m : Machine} (spared : b.FansSpared io m.tree) :
    ∃ entries m₁ scan d, b.Steps io policy m entries m₁ scan d ((b.platform io).manageFans m) := by
  obtain ⟨entries, -, hlist, walk, -⟩ := valid.walk
  have quiet : (b.operations io).QuietOn io.root m.tree (b.FansSpared io m.tree) entries :=
    quietOn_walk walk
  have hwithin := Platform.within_scanFans quiet {} m (.refl _ _)
  have found : ∀ answer, ((b.operations io).scanFans entries {} m).2.Settled answer →
      ∃ scan, ((b.operations io).scanFans entries {} m).1 = .ok scan ∧
        b.Scanned io { m with bmcFitted := answer } scan := by
    intro answer settled
    have same : io.root.ExportOnly m.tree ({ m with bmcFitted := answer } : Machine).tree :=
      .refl _ _
    have hscan := Platform.scanFans_outcome quiet spared (.refl _ _) same settled
    exact ⟨_, hscan, scanned_of_finds walk (FanScan.finds_foldl FanScan.finds_nil)⟩
  generalize hscan : (b.operations io).scanFans entries {} m = scanned at hwithin found
  obtain ⟨outcome, m₁⟩ := scanned
  obtain ⟨scan, rfl, hscanned⟩ := found m₁.bmcFitted (.inr rfl)
  generalize hd : policy.decide m.duty scan.hottest scan.fault = d
  have hdriven := within_driveAll (within_commands hscanned d.percentage)
    { m₁ with duty := some d.percentage } (hwithin.tree.mono fun _ h => .inl h)
  generalize hrun : driveAll (b.commands io scan d.percentage)
    { m₁ with duty := some d.percentage } = run at hdriven
  -- what the fans are told may still settle whether a controller is fitted
  obtain ⟨scan', hscan', hscanned'⟩ := found run.2.bmcFitted (hdriven.settled (.inr rfl))
  cases hscan'
  rw [manageFans_apply hpolicy hlist hscan (hwithin.duty ▸ hd) hrun]
  exact ⟨entries, m₁, scan, d,
    { walk := walk, listed := operations_walk hlist io m, looked := hscan, after := hwithin
      scanned := hscanned', decision := hd, outcome := by rw [hrun], machine := by rw [hrun] }⟩

/-- A platform with other operations on its fans. -/
def withFans (p : Platform Machine) (fan : FanOps Machine) : Platform Machine :=
  { p with fan := fan }

/-- Operations on fans that treat the fans of the chassis as the board does, and other fans in any
way. -/
structure AgreesOnChassis (b : Board) (io : Io) (fan : FanOps Machine) : Prop where
  header : fan.header = (b.platform io).fan.header
  read : ∀ id e, b.ChassisFan id e → fan.read id = (b.platform io).fan.read id
  setDuty : ∀ id e, b.ChassisFan id e → ∀ percentage,
    fan.setDuty id percentage = (b.platform io).fan.setDuty id percentage

namespace Steps

variable {policy : FanPolicy} {m m₁ : Machine} {entries : List TreeEntry} {scan : FanScan}
  {d : FanDecision} {run : Except Fault FanDecision × Machine}

theorem decides (steps : b.Steps io policy m entries m₁ scan d run) :
    b.Decides io policy { m with bmcFitted := run.2.bmcFitted } d := by
  have hd := steps.decision
  have hhottest : d.hottest = scan.hottest := hd ▸ policy.decide_hottest _ _ _
  refine { hottest := ?_, failsafe := ?_, failsafe_duty := ?_, duty := ?_ }
  · rw [hhottest]
    exact steps.scanned.hottest
  · rw [hhottest, ← steps.scanned.fault, ← hd]
    exact policy.decide_failsafe_iff _ _ _
  · intro hf
    rw [← hd] at hf ⊢
    exact policy.decide_percentage_of_failsafe _ _ _ hf
  · intro t hf ht
    rw [hhottest] at ht
    rw [ht] at hd
    rw [← hd] at hf ⊢
    exact policy.decide_percentage _ _ hf

/-- The files and the duty after the commands to the fans. -/
theorem after_commands (steps : b.Steps io policy m entries m₁ scan d run) :
    Machine.After (b.DutyFiles io m.tree) m.tree { m₁ with duty := some d.percentage } run.2 := by
  rw [steps.machine]
  exact within_driveAll (within_commands steps.scanned d.percentage)
    { m₁ with duty := some d.percentage } (steps.after.tree.mono fun _ h => .inl h)

/-- A pass that ends in a decision has made it, and all commands went well. -/
theorem driven_ok (steps : b.Steps io policy m entries m₁ scan d run) {d' : FanDecision}
    (hok : run.1 = .ok d') : (driveAll (b.commands io scan d.percentage)
      { m₁ with duty := some d.percentage }).1 = .ok () ∧ d = d' := by
  have houtcome := steps.outcome
  rw [hok] at houtcome
  generalize (driveAll (b.commands io scan d.percentage)
    { m₁ with duty := some d.percentage }).1 = outcome at houtcome
  cases outcome with
  | ok _ =>
    cases houtcome
    exact ⟨rfl, rfl⟩
  | error fault => cases houtcome

/-- **A pass does not use the fans of power supplies**: it runs the same whatever they do. -/
theorem eq_of_agrees (steps : b.Steps io policy m entries m₁ scan d run) {fan : FanOps Machine}
    (agrees : b.AgreesOnChassis io fan) :
    dutyPass (withFans (b.platform io) fan) policy m = run := by
  have hheader : (withFans (b.platform io) fan).header = (b.operations io).header := by
    funext id s
    unfold Platform.header withFans
    dsimp only
    rw [agrees.header]
    rfl
  have hwalk : (withFans (b.platform io) fan).walk m = (.ok entries, m) := by
    rw [← steps.listed]
    unfold Platform.walk
    rw [hheader]
  have hread : ∀ e ∈ entries, e.isChassisFan = true →
      (withFans (b.platform io) fan).fan.read e.header.id =
        (b.operations io).fan.read e.header.id := by
    intro e he hf
    obtain ⟨entry, hentry⟩ := steps.walk.fan he hf
    exact agrees.read _ entry hentry
  have hscan : (withFans (b.platform io) fan).scanFans entries {} m = (.ok scan, m₁) := by
    refine (congrFun (Platform.scanFans_congr ?_ hread {}) m).trans steps.looked
    exact fun _ _ _ => rfl
  have hcommands : scan.settable.map (fun r => (withFans (b.platform io) fan).fan.setPercentage
      r.header.id (Int32.ofNat d.percentage.toNat)) = b.commands io scan d.percentage := by
    refine List.map_congr_left fun r hr => ?_
    obtain ⟨e, hfan⟩ := steps.scanned.chassisFan hr
    rw [tell, FanOps.setPercentage, FanOps.setPercentage]
    show (if _ then fan.setDuty r.header.id _ else _) = _
    rw [agrees.setDuty _ e hfan]
    rfl
  rw [dutyPass, Platform.fanPass_apply policy Machine.duty
    (fun duty m => { m with duty := some duty }) hwalk hscan (steps.after.duty ▸ steps.decision)
    (congrArg (fun commands => driveAll commands _) hcommands), ← steps.outcome, ← steps.machine]

end Steps

/-- What a pass over the fans from `m` that ends in `run` decides, remembers and changes. -/
structure Managed (b : Board) (io : Io) (policy : FanPolicy) (m : Machine)
    (run : Except Fault FanDecision × Machine) : Prop where
  /-- The readings are those on the tree before the pass; whether a controller is fitted may be
  settled by the pass. The duty is remembered even if a fan cannot be set. -/
  decided : ∃ d, b.Decides io policy { m with bmcFitted := run.2.bmcFitted } d ∧
    run.2.duty = some d.percentage ∧ (run.1 = .ok d ∨ ∃ fault, run.1 = .error fault)
  files : SameBut (b.DutyFiles io m.tree) m.tree run.2.tree
  /-- The fans of power supplies might do anything. -/
  psu_fans : ∀ fan, b.AgreesOnChassis io fan →
    dutyPass (withFans (b.platform io) fan) policy m = run

/-- **What a pass over the fans of a valid board decides.** -/
theorem manageFans_decides (b : Board) (io : Io) (policy : FanPolicy) (m : Machine)
    (valid : b.validate = .ok ()) (hpolicy : b.fanPolicy = some policy)
    (spared : b.FansSpared io m.tree) : b.Managed io policy m ((b.platform io).manageFans m) := by
  obtain ⟨entries, m₁, scan, d, steps⟩ := (validate_eq_ok_iff.1 valid).steps hpolicy spared
  have hafter := steps.after_commands
  refine { decided := ⟨d, steps.decides, hafter.duty, ?_⟩, files := hafter.tree
           psu_fans := fun fan agrees => steps.eq_of_agrees agrees }
  rw [steps.outcome]
  cases (driveAll (b.commands io scan d.percentage) { m₁ with duty := some d.percentage }).1 with
  | ok _ => exact .inl rfl
  | error fault => exact .inr ⟨fault, rfl⟩

/-! ## Boards of plain files -/

/-- A locator of a file at a fixed path that is not the export attribute. -/
def isPlain : Locator → Bool
  | .file path => Path.names path != Path.names Gpio.exportPath
  | _ => false

theorem spares_of_isPlain {l : Locator} (h : isPlain l = true) :
    l.Spares io t Gpio.exportPath := by
  intro path names
  cases names with
  | file path => exact bne_iff_ne.1 h
  | _ => cases h

/-- A board whose sensors and fans are plain files. -/
theorem fansSpared_of_plain
    (h : ((b.thermals.map ThermalEntry.input ++ b.fans.flatMap FanEntry.locators).all isPlain) =
      true) : b.FansSpared io t := by
  have hplain := List.all_eq_true.1 h
  constructor
  · intro e he
    exact spares_of_isPlain (hplain _ (List.mem_append_left _ (List.mem_map_of_mem he)))
  · intro e he _ l hl
    exact spares_of_isPlain
      (hplain _ (List.mem_append_right _ (List.mem_flatMap.2 ⟨e, he, hl⟩)))

/-- A fan with a duty attribute of its own. -/
def plainFan (number : Nat) : FanEntry :=
  let stem := "/fan" ++ toString number
  { description := "Fan " ++ toString number, parent := .chassis
    caps := FanCaps.setPercentage ||| FanCaps.getPercentage
    fault := some ⟨.file (stem ++ "_fault"), false⟩
    percentage := some (.file (stem ++ "_duty")) }

/-- A board with one sensor and two fans. -/
def twoFans : Board :=
  { name := "two-fans"
    thermals := [{ description := "CPU", parent := .chassis, input := .file "/temperature"
                   caps := ThermalCaps.temperature, thresholds := ⟨0, 0, 0⟩ }]
    fans := [plainFan 1, plainFan 2]
    ports := { count := 0, present := .gpio [] false, eepromBus := [], eeprom := ⟨""⟩ }
    fanPolicy := some ⟨[⟨45000, 60⟩], 3000, 100, 40⟩ }

/-- The access to that board. -/
def twoFansIo : Io := { root := ⟨"/"⟩ }

/-- That board at 50 degrees and with both fans at 40 percent; `fault` is what the fault attribute
of the first fan reads. -/
def twoFansMachine (fault : String) : Machine :=
  { tree := .dir [("temperature", .file (Text.Utf8.encode "50000")),
      ("fan1_fault", .file (Text.Utf8.encode fault)), ("fan1_duty", .file (Text.Utf8.encode "40")),
      ("fan2_fault", .file (Text.Utf8.encode "0")), ("fan2_duty", .file (Text.Utf8.encode "40"))] }

theorem twoFans_spared : twoFans.FansSpared io t :=
  fansSpared_of_plain (by decide +kernel)

theorem twoFans_manageFans_decides :
    twoFans.validate = .ok () ∧ twoFans.fanPolicy = some ⟨[⟨45000, 60⟩], 3000, 100, 40⟩ ∧
      twoFans.FansSpared twoFansIo (twoFansMachine "0").tree ∧
      twoFans.Managed twoFansIo ⟨[⟨45000, 60⟩], 3000, 100, 40⟩ (twoFansMachine "0")
        ((twoFans.platform twoFansIo).manageFans (twoFansMachine "0")) :=
  ⟨rfl, rfl, twoFans_spared, manageFans_decides twoFans _ _ _ rfl rfl twoFans_spared⟩

end SwitchPlatform.Board
