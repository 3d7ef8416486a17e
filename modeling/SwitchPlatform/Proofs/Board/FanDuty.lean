import SwitchPlatform.Proofs.Board.FanPass

/-!
# Which fans get the duty of a pass

`duty_delivered_iff`: after a pass that ends well, the duty file of a chassis fan holds the decided
duty exactly if a fan whose duty is that file could be read, or the file held that duty before. So
the duty of a fan that cannot be read stays as it was, although such a fan makes the pass a
failsafe one (`twoFans_not_delivered`).

A fan is told the duty only if it could be read, is there, and takes one (`exists_settable_iff`).
What a run of the commands leaves in a file is an induction over the fans that are told
(`fileAt?_driveAll`), with one write as its step (`fileAt?_tell`).
-/

namespace SwitchPlatform.Board

open FileTree (Location SameBut)

variable {b : Board} {io : Io} {t : FileTree} {loc : Location}

/-- A duty as an attribute holds it. -/
def dutyText (percentage : UInt8) : List UInt8 :=
  Text.Utf8.encode (toString percentage.toNat)

/-- A chassis fan that takes a duty and is there. -/
structure Settable (b : Board) (io : Io) (m : Machine) (id : Oid) (e : FanEntry) : Prop where
  fan : b.ChassisFan id e
  caps : e.caps.has FanCaps.setPercentage = true
  present : (e.isPresent io m).1 = .ok true

/-- Such a fan with an existing attribute file for its duty. -/
structure TakesDuty (b : Board) (io : Io) (m : Machine) (id : Oid) (e : FanEntry)
    (loc : Location) : Prop extends b.Settable io m id e where
  duty : ∃ l, e.percentage = some l ∧ l.IsAttribute ∧ l.Targets io m.tree loc

/-- Such a fan that can be read. -/
structure Told (b : Board) (io : Io) (m : Machine) (id : Oid) (e : FanEntry) : Prop
    extends b.Settable io m id e where
  readable : ∃ r, (e.read io id m).1 = .ok r

/-- A file is the duty of a chassis fan. -/
def HasDuty (b : Board) (io : Io) (t : FileTree) (loc : Location) (id : Oid) : Prop :=
  ∃ e l, b.ChassisFan id e ∧ e.percentage = some l ∧ l.Targets io t loc

/-- A file is the duty of a fan that is told one. -/
def Supplied (b : Board) (io : Io) (m : Machine) (loc : Location) : Prop :=
  ∃ id e, b.Told io m id e ∧ b.HasDuty io m.tree loc id

/-- Every fan that takes a duty and is there gets the duty that a pass decided. -/
def Delivered (b : Board) (io : Io) (m : Machine) : Prop :=
  ∀ d run, (b.platform io).manageFans m = run → run.1 = .ok d →
    ∀ id e loc, b.TakesDuty io { m with bmcFitted := run.2.bmcFitted } id e loc →
      run.2.tree.fileAt? loc = some (dutyText d.percentage)

/-! ## One fan -/

/-- A fan that was set was set through the locator of its duty. -/
theorem tell_ok {id : Oid} {e : FanEntry} (hfan : b.ChassisFan id e) {percentage : UInt8}
    {s : Machine} (h : (b.tell io percentage id s).1 = .ok ()) :
    ∃ l, e.percentage = some l ∧
      b.tell io percentage id s = io.write l (Int32.ofNat percentage.toNat) s := by
  obtain ⟨-, l, hl, hrun⟩ := setPercentage_ok hfan.1 h
  exact ⟨l, hl, hrun⟩

/-- **What setting a fan leaves in a file.** -/
theorem fileAt?_tell {free : Location → Prop} {s : Machine}
    (same : SameBut free t s.tree) {id : Oid} {e : FanEntry} (hfan : b.ChassisFan id e)
    {percentage : UInt8} (hok : (b.tell io percentage id s).1 = .ok ())
    (hexport : ¬io.root.Opens t Gpio.exportPath loc)
    (plain : ∀ l, e.percentage = some l → l.IsAttribute ∨ ¬l.Targets io t loc) :
    (b.tell io percentage id s).2.tree.fileAt? loc = some (dutyText percentage) ↔
      b.HasDuty io t loc id ∨ s.tree.fileAt? loc = some (dutyText percentage) := by
  obtain ⟨l, hl, hrun⟩ := tell_ok hfan hok
  rw [hrun] at hok ⊢
  by_cases htarget : l.Targets io t loc
  · have hattr := (plain l hl).resolve_right (not_not_intro htarget)
    obtain ⟨loc', htarget', hfile⟩ := fileAt?_write hattr hok
    have hloc := hattr.targets_unique ((Locator.targets_iff same).1 htarget') htarget
    subst hloc
    rw [toInt_ofNat_toNat] at hfile
    exact iff_of_true hfile (.inl ⟨e, l, hfan, hl, htarget⟩)
  · have hreach : ¬l.Reaches io s.tree loc := by
      rw [Locator.reaches_iff same]
      exact not_or.2 ⟨hexport, htarget⟩
    have hkept := (within_write l (Int32.ofNat percentage.toNat) s (.refl _ _)).tree.fileAt? hreach
    rw [hkept]
    refine (or_iff_right ?_).symm
    rintro ⟨e', l', hfan', hl', htarget'⟩
    rw [hfan'.unique hfan, hl] at hl'
    cases hl'
    exact htarget htarget'

/-! ## All fans -/

/-- **What the commands to some fans leave in a file**, if all of them went well. -/
theorem fileAt?_driveAll {s : Machine} (same : SameBut (b.DutyFiles io t) t s.tree)
    {rs : List FanReading} (hfans : ∀ r ∈ rs, ∃ e, b.ChassisFan r.header.id e)
    {percentage : UInt8}
    (hok : (driveAll (rs.map fun r => b.tell io percentage r.header.id) s).1 = .ok ())
    (hexport : ¬io.root.Opens t Gpio.exportPath loc)
    (plain : ∀ r ∈ rs, ∀ e l, b.ChassisFan r.header.id e → e.percentage = some l →
      l.IsAttribute ∨ ¬l.Targets io t loc) :
    (driveAll (rs.map fun r => b.tell io percentage r.header.id) s).2.tree.fileAt? loc =
        some (dutyText percentage) ↔
      (∃ r ∈ rs, b.HasDuty io t loc r.header.id) ∨
        s.tree.fileAt? loc = some (dutyText percentage) := by
  induction rs generalizing s with
  | nil => simp [driveAll]
  | cons r rs ih =>
    obtain ⟨e, hfan⟩ := hfans r List.mem_cons_self
    rw [List.map_cons] at hok ⊢
    obtain ⟨hset, hrun⟩ := driveAll_cons_ok hok
    rw [hrun] at hok ⊢
    have hsame := (within_tell hfan percentage s same).tree
    have hrest := ih hsame (fun r' hr' => hfans r' (List.mem_cons_of_mem _ hr')) hok
      fun r' hr' => plain r' (List.mem_cons_of_mem _ hr')
    have hfirst := fileAt?_tell same hfan hset hexport fun l =>
      plain r List.mem_cons_self e l hfan
    rw [hrest, hfirst, ← or_assoc]
    refine or_congr_left ?_
    rw [or_comm]
    simp only [List.mem_cons, exists_eq_or_imp]

/-- A fan is among those to be set if it takes a duty, is there and can be read. -/
theorem Scanned.told {m : Machine} {scan : FanScan} (scanned : b.Scanned io m scan)
    {r : FanReading} (hr : r ∈ scan.settable) : ∃ e, b.Told io m r.header.id e := by
  obtain ⟨hmem, hset⟩ := List.mem_filter.1 hr
  obtain ⟨hcaps, hstatus⟩ := Bool.and_eq_true_iff.1 hset
  obtain ⟨id, e, hfan, hread⟩ := (scanned.fans r).1 hmem
  obtain ⟨hheader, hentry, hpresent⟩ := FanEntry.read_ok hread
  rw [hheader]
  exact ⟨e, { fan := hfan, caps := hentry ▸ hcaps, present := hpresent.1 hstatus
              readable := ⟨r, hread⟩ }⟩

theorem Scanned.mem_settable {m : Machine} {scan : FanScan} (scanned : b.Scanned io m scan)
    {id : Oid} {e : FanEntry} (told : b.Told io m id e) :
    ∃ r ∈ scan.settable, r.header.id = id := by
  obtain ⟨r, hread⟩ := told.readable
  obtain ⟨hheader, hentry, hpresent⟩ := FanEntry.read_ok hread
  refine ⟨r, List.mem_filter.2 ⟨(scanned.fans r).2 ⟨id, e, told.fan, hread⟩, ?_⟩, ?_⟩
  · exact Bool.and_eq_true_iff.2 ⟨hentry ▸ told.caps, hpresent.2 told.present⟩
  · rw [hheader]
    rfl

/-- **The fans that are told a duty** are those that take one, are there and can be read. -/
theorem Scanned.exists_settable_iff {m : Machine} {scan : FanScan} (scanned : b.Scanned io m scan)
    {P : Oid → Prop} :
    (∃ r ∈ scan.settable, P r.header.id) ↔ ∃ id e, b.Told io m id e ∧ P id := by
  constructor
  · rintro ⟨r, hr, hP⟩
    obtain ⟨e, told⟩ := scanned.told hr
    exact ⟨_, e, told, hP⟩
  · rintro ⟨id, e, told, hP⟩
    obtain ⟨r, hr, rfl⟩ := scanned.mem_settable told
    exact ⟨r, hr, hP⟩

/-- **The duty file of a chassis fan holds the decided duty exactly if** a fan whose duty it is was
told, or it held that duty before the pass. -/
theorem duty_delivered_iff (b : Board) (io : Io) (policy : FanPolicy) (m : Machine)
    (valid : b.validate = .ok ()) (hpolicy : b.fanPolicy = some policy)
    (spared : b.FansSpared io m.tree) {d : FanDecision} {run : Except Fault FanDecision × Machine}
    (hrun : (b.platform io).manageFans m = run) (hok : run.1 = .ok d) {id : Oid} {e : FanEntry}
    {loc : Location} (takes : b.TakesDuty io { m with bmcFitted := run.2.bmcFitted } id e loc)
    (plain : ∀ id e l, b.Told io { m with bmcFitted := run.2.bmcFitted } id e →
      e.percentage = some l → l.IsAttribute ∨ ¬l.Targets io m.tree loc) :
    run.2.tree.fileAt? loc = some (dutyText d.percentage) ↔
      b.Supplied io { m with bmcFitted := run.2.bmcFitted } loc ∨
        m.tree.fileAt? loc = some (dutyText d.percentage) := by
  obtain ⟨entries, m₁, scan, d', steps⟩ := (validate_eq_ok_iff.1 valid).steps hpolicy spared
  rw [hrun] at steps
  obtain ⟨hdriven, rfl⟩ := steps.driven_ok hok
  have hexport : ¬io.root.Opens m.tree Gpio.exportPath loc := by
    obtain ⟨l, hl, -, htarget⟩ := takes.duty
    refine Locator.Spares.not_opens (spared.fan e takes.fan.mem takes.fan.2 l ?_) htarget
    simp [FanEntry.locators, hl]
  have hplain : ∀ r ∈ scan.settable, ∀ e l, b.ChassisFan r.header.id e →
      e.percentage = some l → l.IsAttribute ∨ ¬l.Targets io m.tree loc := by
    intro r hr e l hfan
    obtain ⟨e', told⟩ := steps.scanned.told hr
    exact plain _ e l (told.fan.unique hfan ▸ told)
  have hscan : m₁.tree.fileAt? loc = m.tree.fileAt? loc := steps.after.tree.fileAt? hexport
  have hfile : run.2.tree.fileAt? loc = some (dutyText d'.percentage) ↔
      (∃ r ∈ scan.settable, b.HasDuty io m.tree loc r.header.id) ∨
        m₁.tree.fileAt? loc = some (dutyText d'.percentage) := by
    rw [steps.machine]
    exact fileAt?_driveAll (s := { m₁ with duty := some d'.percentage })
      (steps.after.tree.mono fun _ h => .inl h) (fun _ hr => steps.scanned.chassisFan hr) hdriven
      hexport hplain
  rw [hfile, hscan]
  exact or_congr_left steps.scanned.exists_settable_iff

/-- The first one of two fans takes a duty, whatever its fault attribute reads. -/
theorem takesDuty_twoFans (fault : String) (fitted : Option Bool) :
    twoFans.TakesDuty twoFansIo { twoFansMachine fault with bmcFitted := fitted } (oid .fan 0)
      (plainFan 1) ["fan1_duty"] where
  fan := ⟨rfl, rfl⟩
  caps := rfl
  present := rfl
  duty := ⟨_, rfl, .file _, _, .file _, _, rfl⟩

theorem isAttribute_twoFans {id : Oid} {e : FanEntry} {l : Locator}
    (hfan : twoFans.ChassisFan id e) (hl : e.percentage = some l) : l.IsAttribute := by
  have he : e ∈ [plainFan 1, plainFan 2] := hfan.mem
  simp only [List.mem_cons, List.not_mem_nil, or_false] at he
  rcases he with rfl | rfl
  · cases hl
    exact .file _
  · cases hl
    exact .file _

theorem twoFans_duty_delivered :
    (((twoFans.platform twoFansIo).manageFans (twoFansMachine "0")).2.tree.fileAt? ["fan1_duty"] =
        some (dutyText 60) ↔
      twoFans.Supplied twoFansIo { twoFansMachine "0" with bmcFitted :=
        ((twoFans.platform twoFansIo).manageFans (twoFansMachine "0")).2.bmcFitted } ["fan1_duty"] ∨
        (twoFansMachine "0").tree.fileAt? ["fan1_duty"] = some (dutyText 60)) :=
  duty_delivered_iff twoFans twoFansIo ⟨[⟨45000, 60⟩], 3000, 100, 40⟩ (twoFansMachine "0") rfl rfl
    twoFans_spared (d := ⟨some 50000, 60, false⟩) rfl (by decide +kernel)
    (takesDuty_twoFans "0" _) fun _ _ _ told hl => .inl (isAttribute_twoFans told.fan hl)

/-- **A fan that cannot be read keeps its duty**, in the failsafe pass that it causes. -/
theorem twoFans_not_delivered :
    twoFans.validate = .ok () ∧ twoFans.fanPolicy = some ⟨[⟨45000, 60⟩], 3000, 100, 40⟩ ∧
      ((twoFans.platform twoFansIo).manageFans (twoFansMachine "broken")).1 =
        .ok ⟨some 50000, 100, true⟩ ∧
      ¬twoFans.Delivered twoFansIo (twoFansMachine "broken") := by
  have hok : ((twoFans.platform twoFansIo).manageFans (twoFansMachine "broken")).1 =
      .ok ⟨some 50000, 100, true⟩ := by decide +kernel
  refine ⟨rfl, rfl, hok, fun delivered => ?_⟩
  have hfile := delivered _ _ rfl hok _ _ _ (takesDuty_twoFans "broken" _)
  have hkept : ((twoFans.platform twoFansIo).manageFans
      (twoFansMachine "broken")).2.tree.fileAt? ["fan1_duty"] = some (dutyText 40) := by
    decide +kernel
  rw [hkept] at hfile
  exact absurd hfile (by decide +kernel)

end SwitchPlatform.Board
