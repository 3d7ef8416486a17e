import Mathlib.Tactic
import SwitchPlatform.Platform.Scripted
import SwitchPlatform.Proofs.Io.Within

/-!
# What the operations of a platform keep

The operations of a platform as data: a `Look` reads, a `Setting` drives the hardware, and an
`Operation` is either of them or a management pass.

An operation keeps a relation if the state that it starts in is related to the state that it
leaves behind, whatever it ends in (`Action.Keeps`). If the relation is reflexive and transitive
then what single accesses keep is kept by everything that is built from them: by every look
(`ReadsKeep.look`), by every setting (`DrivesKeep.setting`), by a pass over the fans or the leds
(`ReadsKeep.fanPass`, `ReadsKeep.ledPass`), and by a run of any operations after each other
(`afterAll_keeps`).
-/

namespace SwitchPlatform

variable {ε ε' σ α β : Type} {R : σ → σ → Prop}

/-! ## Keeping a relation -/

/-- The state before an action is related to the one after it. -/
def Action.Keeps (R : σ → σ → Prop) (x : Action ε σ α) : Prop :=
  ∀ s, R s (x s).2

namespace Action.Keeps

theorem mono {R' : σ → σ → Prop} {x : Action ε σ α} (hx : x.Keeps R)
    (h : ∀ s s', R s s' → R' s s') : x.Keeps R' :=
  fun s => h _ _ (hx s)

theorem attempt {x : Action ε σ α} (hx : x.Keeps R) :
    (x.attempt : Action ε' σ (Except ε α)).Keeps R :=
  fun s => hx s

theorem mapError {x : Action ε σ α} (hx : x.Keeps R) (f : ε → ε') : (x.mapError f).Keeps R := by
  intro s
  rw [Action.mapError_eq]
  exact hx s

theorem lift {x : Action StatusError σ α} (hx : x.Keeps R) :
    (liftM x : Action Fault σ α).Keeps R := by
  rw [lift_eq]
  exact hx.mapError _

theorem update {f : σ → σ} (hf : ∀ s, R s (f s)) : (Action.update f : Action ε σ Unit).Keeps R :=
  hf

section Reflexive

variable [Std.Refl R]

theorem inspect (f : σ → Except ε α) : (Action.inspect f).Keeps R :=
  fun s => refl_of R s

theorem view (f : σ → α) : (Action.view f : Action ε σ α).Keeps R :=
  fun s => refl_of R s

theorem ofExcept (r : Except ε α) : (Action.ofExcept r : Action ε σ α).Keeps R :=
  fun s => refl_of R s

theorem pure (a : α) : (Pure.pure a : Action ε σ α).Keeps R :=
  fun s => refl_of R s

theorem fail (e : ε) : (Action.fail e : Action ε σ α).Keeps R :=
  fun s => refl_of R s

end Reflexive

/-- **What two actions keep is kept by the one after the other**; the second one for the values
that the first one may end in. -/
theorem bind_of [IsTrans σ R] {x : Action ε σ α} {f : α → Action ε σ β} (hx : x.Keeps R)
    (hf : ∀ a s, (x s).1 = .ok a → (f a).Keeps R) : (x >>= f).Keeps R := by
  intro s
  rw [Action.bind_eq]
  cases hr : (x s).1 with
  | ok a => exact trans_of R (hx s) (hf a s hr _)
  | error e => exact hx s

theorem bind [IsTrans σ R] {x : Action ε σ α} {f : α → Action ε σ β} (hx : x.Keeps R)
    (hf : ∀ a, (f a).Keeps R) : (x >>= f).Keeps R :=
  hx.bind_of fun a _ _ => hf a

end Action.Keeps

section Chains

variable [IsPreorder σ R]

theorem keeps_runAll {xs : List (Query σ Unit)} (h : ∀ x ∈ xs, x.Keeps R) :
    (Platform.runAll xs).Keeps R := by
  induction xs with
  | nil => exact .pure ()
  | cons x xs ih =>
    have hrest := ih fun y hy => h y (List.mem_cons_of_mem _ hy)
    rw [Platform.runAll]
    refine (h x List.mem_cons_self).attempt.bind fun first => hrest.attempt.bind fun others => ?_
    split
    · exact .fail _
    · exact .ofExcept _

theorem keeps_driveAll {xs : List (Command σ Unit)} (h : ∀ x ∈ xs, x.Keeps R) :
    (driveAll xs).Keeps R := by
  induction xs with
  | nil => exact .pure ()
  | cons x xs ih =>
    have hrest := ih fun y hy => h y (List.mem_cons_of_mem _ hy)
    rw [driveAll]
    refine (h x List.mem_cons_self).attempt.bind fun outcome => ?_
    split
    · exact hrest
    · exact .fail _
    · refine hrest.attempt.bind fun others => ?_
      split
      · exact .fail _
      · exact .fail _

theorem keeps_collect {test : Nat → Query σ Bool} (h : ∀ port, (test port).Keeps R)
    (ports : List Nat) (found : PortSet) : (PortOps.collect test ports found).Keeps R := by
  induction ports generalizing found with
  | nil => exact .pure found
  | cons port ports ih =>
    rw [PortOps.collect]
    refine (h port).bind fun passed => ?_
    split
    · exact ih _
    · exact ih _

end Chains

namespace Platform

/-! ## Operations as data -/

/-- What initializes a part of a platform. -/
def initOf (p : Platform σ) : PlatformPart → Query σ Unit
  | .system => p.system.init
  | .thermal => p.thermal.init
  | .fan => p.fan.init
  | .psu => p.psu.init
  | .led => p.led.init
  | .ports => p.ports.init

/-- An operation that reads. The status of an object is part of its reading. -/
inductive Look
  | init
  | initOf (part : PlatformPart)
  | header (id : Oid)
  | read (id : Oid)
  | thermal (id : Oid)
  | fan (id : Oid)
  | psu (id : Oid)
  | led (id : Oid)
  | walk
  | ids
  | oids
  | onie
  | versions
  | isPresent (port : Nat)
  | present
  | rxLos
  | readPage (port : Nat)
  | readDiagnostics (port : Nat)
  | readByte (port address offset : Nat)
  | getControl (port : Nat) (control : PortControl)
  | afterInsert (port : Nat)
  | release

/-- The state that a look leaves behind. -/
def Look.after (p : Platform σ) (s : σ) : Look → σ
  | .init => (p.init s).2
  | .initOf part => (p.initOf part s).2
  | .header id => ((Action.inspect (p.header id) : Query σ Header) s).2
  | .read id => (p.read id s).2
  | .thermal id => (p.thermal.read id s).2
  | .fan id => (p.fan.read id s).2
  | .psu id => (p.psu.read id s).2
  | .led id => (p.led.read id s).2
  | .walk => (p.walk s).2
  | .ids => (p.ids s).2
  | .oids => (p.system.oids s).2
  | .onie => (p.system.onie s).2
  | .versions => (p.system.versions s).2
  | .isPresent port => (p.ports.isPresent port s).2
  | .present => (p.ports.present s).2
  | .rxLos => (p.ports.rxLos s).2
  | .readPage port => (p.ports.readPage port s).2
  | .readDiagnostics port => (p.ports.readDiagnostics port s).2
  | .readByte port address offset => (p.ports.readByte port address offset s).2
  | .getControl port control => (p.ports.getControl port control s).2
  | .afterInsert port => (p.ports.afterInsert port s).2
  | .release => (p.ports.release s).2

/-- An operation that drives the hardware of one object or port. -/
inductive Setting
  | fanDuty (id : Oid) (percentage : UInt8)
  | fanPercentage (id : Oid) (percentage : Int32)
  | fanMode (id : Oid) (mode : FanMode)
  | fanRpm (id : Oid) (rpm : Int32)
  | fanDir (id : Oid) (dir : FanDir)
  | ledMode (id : Oid) (mode : LedMode)
  | ledSwitch (id : Oid) (on : Bool)
  | setControl (port : Nat) (control : PortControl) (value : Int32)
  | writeByte (port address offset : Nat) (value : UInt8)

/-- Drives the hardware. -/
def Setting.run (p : Platform σ) : Setting → Command σ Unit
  | .fanDuty id percentage => p.fan.setDuty id percentage
  | .fanPercentage id percentage => p.fan.setPercentage id percentage
  | .fanMode id mode => p.fan.setMode id mode
  | .fanRpm id rpm => p.fan.setRpm id rpm
  | .fanDir id dir => p.fan.setDir id dir
  | .ledMode id mode => p.led.setMode id mode
  | .ledSwitch id on => p.led.set id on
  | .setControl port control value => (p.ports.setControl port control value).mapError Fault.status
  | .writeByte port address offset value =>
    (p.ports.writeByte port address offset value).mapError Fault.status

/-- Any operation of a platform. -/
inductive Operation
  | look (l : Look)
  | set (setting : Setting)
  | manageFans
  | manageLeds

/-- The state that an operation leaves behind. -/
def Operation.after (p : Platform σ) (s : σ) : Operation → σ
  | .look l => l.after p s
  | .set setting => (setting.run p s).2
  | .manageFans => (p.manageFans s).2
  | .manageLeds => (p.manageLeds s).2

/-- The state that operations leave behind, each run on what the one before it left. -/
def afterAll (p : Platform σ) (ops : List Operation) (s : σ) : σ :=
  ops.foldl (fun s op => op.after p s) s

/-! ## What operations keep -/

/-- The reading operations that a platform offers keep a relation. -/
structure ReadsKeep (R : σ → σ → Prop) (p : Platform σ) : Prop where
  init : ∀ part, (p.initOf part).Keeps R
  thermal : ∀ id, (p.thermal.read id).Keeps R
  fan : ∀ id, (p.fan.read id).Keeps R
  psu : ∀ id, (p.psu.read id).Keeps R
  led : ∀ id, (p.led.read id).Keeps R
  oids : p.system.oids.Keeps R
  onie : p.system.onie.Keeps R
  versions : p.system.versions.Keeps R
  isPresent : ∀ port, (p.ports.isPresent port).Keeps R
  readPage : ∀ port, (p.ports.readPage port).Keeps R
  readDiagnostics : ∀ port, (p.ports.readDiagnostics port).Keeps R
  readByte : ∀ port address offset, (p.ports.readByte port address offset).Keeps R
  getControl : ∀ port control, (p.ports.getControl port control).Keeps R
  afterInsert : ∀ port, (p.ports.afterInsert port).Keeps R
  release : p.ports.release.Keeps R

/-- The driving operations that a platform offers keep a relation. -/
structure DrivesKeep (R : σ → σ → Prop) (p : Platform σ) : Prop where
  duty : ∀ id percentage, (p.fan.setDuty id percentage).Keeps R
  rpm : ∀ id rpm, (p.fan.setRpm id rpm).Keeps R
  dir : ∀ id dir, (p.fan.setDir id dir).Keeps R
  led : ∀ id mode, (p.led.setMode id mode).Keeps R
  control : ∀ port control value, (p.ports.setControl port control value).Keeps R
  writeByte : ∀ port address offset value, (p.ports.writeByte port address offset value).Keeps R

variable {p : Platform σ}

theorem ReadsKeep.mono {R' : σ → σ → Prop} (h : p.ReadsKeep R) (hR : ∀ s s', R s s' → R' s s') :
    p.ReadsKeep R' where
  init part := (h.init part).mono hR
  thermal id := (h.thermal id).mono hR
  fan id := (h.fan id).mono hR
  psu id := (h.psu id).mono hR
  led id := (h.led id).mono hR
  oids := h.oids.mono hR
  onie := h.onie.mono hR
  versions := h.versions.mono hR
  isPresent port := (h.isPresent port).mono hR
  readPage port := (h.readPage port).mono hR
  readDiagnostics port := (h.readDiagnostics port).mono hR
  readByte port address offset := (h.readByte port address offset).mono hR
  getControl port control := (h.getControl port control).mono hR
  afterInsert port := (h.afterInsert port).mono hR
  release := h.release.mono hR

variable [IsPreorder σ R]

namespace ReadsKeep

theorem initAll (h : p.ReadsKeep R) : p.init.Keeps R := by
  refine keeps_runAll fun x hx => ?_
  have hmem : ∃ part, p.initOf part = x := by
    simp only [List.mem_cons, List.not_mem_nil, or_false] at hx
    rcases hx with rfl | rfl | rfl | rfl | rfl | rfl
    exacts [⟨.system, rfl⟩, ⟨.thermal, rfl⟩, ⟨.fan, rfl⟩, ⟨.psu, rfl⟩, ⟨.led, rfl⟩, ⟨.ports, rfl⟩]
  obtain ⟨part, rfl⟩ := hmem
  exact h.init part

theorem moduleKind? (h : p.ReadsKeep R) (port : Nat) : (p.moduleKind? port).Keeps R := by
  refine (h.readPage port).attempt.bind fun outcome => ?_
  split
  · exact .pure _
  · exact .pure _

theorem readModule (h : p.ReadsKeep R) (id : Oid) : (p.readModule id).Keeps R := by
  refine (Action.Keeps.inspect _).bind fun header => (Action.Keeps.ofExcept _).bind fun port =>
    (h.isPresent port).bind fun present => ?_
  split
  · exact (h.moduleKind? port).bind fun kind => .pure _
  · exact .pure _

/-- Reading any object, by its kind. -/
theorem read (h : p.ReadsKeep R) (id : Oid) : (p.read id).Keeps R := by
  rw [Platform.read]
  split
  · exact (h.thermal id).bind fun r => .pure _
  · exact (h.fan id).bind fun r => .pure _
  · exact (h.psu id).bind fun r => .pure _
  · exact (h.led id).bind fun r => .pure _
  · exact h.readModule id
  · exact (Action.Keeps.inspect _).bind fun header => .pure _
  · exact (Action.Keeps.inspect _).bind fun header => .pure _

theorem present (h : p.ReadsKeep R) : p.ports.present.Keeps R :=
  (Action.Keeps.view _).bind fun _ => keeps_collect h.isPresent _ _

theorem rxLos (h : p.ReadsKeep R) : p.ports.rxLos.Keeps R := by
  have hloses : ∀ port, (p.ports.losesSignal port).Keeps R := by
    intro port
    refine (h.getControl port .rxLos).attempt.bind fun outcome => ?_
    split
    · exact .pure _
    · exact .pure _
    · exact .pure _
    · exact .fail _
  exact (Action.Keeps.view _).bind fun _ => keeps_collect hloses _ _

/-- **What the readings keep is kept by every look.** -/
theorem look (h : p.ReadsKeep R) (l : Look) (s : σ) : R s (l.after p s) := by
  cases l with
  | init => exact h.initAll s
  | initOf part => exact h.init part s
  | header id => exact refl_of R s
  | read id => exact h.read id s
  | thermal id => exact h.thermal id s
  | fan id => exact h.fan id s
  | psu id => exact h.psu id s
  | led id => exact h.led id s
  | walk => exact refl_of R s
  | ids => exact refl_of R s
  | oids => exact h.oids s
  | onie => exact h.onie s
  | versions => exact h.versions s
  | isPresent port => exact h.isPresent port s
  | present => exact h.present s
  | rxLos => exact h.rxLos s
  | readPage port => exact h.readPage port s
  | readDiagnostics port => exact h.readDiagnostics port s
  | readByte port address offset => exact h.readByte port address offset s
  | getControl port control => exact h.getControl port control s
  | afterInsert port => exact h.afterInsert port s
  | release => exact h.release s

end ReadsKeep

theorem DrivesKeep.percentage (h : p.DrivesKeep R) (id : Oid) (percentage : Int32) :
    (p.fan.setPercentage id percentage).Keeps R := by
  rw [FanOps.setPercentage]
  split
  · exact h.duty id _
  · exact .fail _

/-- **What the drives keep is kept by every setting.** -/
theorem DrivesKeep.setting (h : p.DrivesKeep R) (setting : Setting) : (setting.run p).Keeps R := by
  cases setting with
  | fanDuty id percentage => exact h.duty id percentage
  | fanPercentage id percentage => exact h.percentage id percentage
  | fanMode id mode => exact h.percentage id _
  | fanRpm id rpm => exact h.rpm id rpm
  | fanDir id dir => exact h.dir id dir
  | ledMode id mode => exact h.led id mode
  | ledSwitch id on => exact h.led id _
  | setControl port control value => exact (h.control port control value).mapError _
  | writeByte port address offset value => exact (h.writeByte port address offset value).mapError _

/-! ## Management passes -/

/-- The command for an led shows a mode on it. -/
theorem setMode_of_fanLedCommand {led : Oid} {s : σ} {command : Command σ Unit}
    (h : (p.fanLedCommand led s).1 = .ok command) : ∃ mode, command = p.led.setMode led mode := by
  rw [Platform.fanLedCommand, Action.bind_eq] at h
  cases hwalk : (p.walk s).1 with
  | error e =>
    rw [hwalk] at h
    cases h
  | ok entries =>
    rw [hwalk] at h
    dsimp only at h
    rw [Action.bind_eq] at h
    split at h
    · cases h
      exact ⟨_, rfl⟩
    · cases h

namespace ReadsKeep

theorem scanFans (h : p.ReadsKeep R) (entries : List TreeEntry) (scan : FanScan) :
    (p.scanFans entries scan).Keeps R := by
  induction entries generalizing scan with
  | nil => exact .pure scan
  | cons e entries ih =>
    rw [Platform.scanFans]
    split_ifs
    · exact (h.thermal _).attempt.bind fun outcome => ih _
    · exact (h.fan _).attempt.bind fun outcome => ih _
    · exact ih _

/-- A pass over the fans, if remembering a duty keeps the relation as well. -/
theorem fanPass (h : p.ReadsKeep R) (drives : p.DrivesKeep R) (policy : FanPolicy)
    (last : σ → Option UInt8) {remember : UInt8 → σ → σ}
    (hremember : ∀ duty s, R s (remember duty s)) :
    (p.fanPass policy last remember).Keeps R := by
  refine (Action.Keeps.lift (.inspect _)).bind fun entries =>
    (h.scanFans entries {}).lift.bind fun scan =>
    (Action.Keeps.view last).bind fun current =>
    (Action.Keeps.update (hremember _)).bind fun _ => ?_
  refine (keeps_driveAll fun x hx => ?_).bind fun _ => .pure _
  obtain ⟨r, -, rfl⟩ := List.mem_map.1 hx
  exact drives.percentage r.header.id _

theorem allHealthy (h : p.ReadsKeep R) (ids : List Oid) : (p.allHealthy ids).Keeps R := by
  induction ids with
  | nil => exact .pure true
  | cons id ids ih =>
    rw [Platform.allHealthy]
    refine (h.fan id).attempt.bind fun outcome => ?_
    split
    · split
      · exact ih
      · exact .pure false
    · exact .pure false

theorem fanLedCommand (h : p.ReadsKeep R) (led : Oid) : (p.fanLedCommand led).Keeps R :=
  (Action.Keeps.inspect _).bind fun _ => (h.allHealthy _).bind fun _ => .pure _

/-- A pass over the leds. -/
theorem ledPass (h : p.ReadsKeep R) (drives : p.DrivesKeep R) (roles : LedRoles) :
    (p.ledPass roles).Keeps R := by
  have hpsu : ∀ psu led, (p.psuLedCommand psu led).Keeps R := fun psu led =>
    (h.psu psu).attempt.bind fun outcome => drives.led led _
  rw [Platform.ledPass]
  split
  · refine keeps_driveAll fun x hx => ?_
    obtain ⟨⟨psu, led⟩, -, rfl⟩ := List.mem_map.1 hx
    exact hpsu psu led
  · rename_i led _
    refine (h.fanLedCommand led).lift.bind_of fun command s hr => keeps_driveAll fun x hx => ?_
    rcases List.mem_cons.1 hx with rfl | hx
    · obtain ⟨mode, rfl⟩ := setMode_of_fanLedCommand (Action.ok_of_mapError hr)
      exact drives.led led mode
    · obtain ⟨⟨psu, led⟩, -, rfl⟩ := List.mem_map.1 hx
      exact hpsu psu led

end ReadsKeep

/-! ## Runs of operations -/

/-- **What the operations of a platform keep is kept by any run of them.** -/
theorem afterAll_keeps (reads : p.ReadsKeep R) (drives : p.DrivesKeep R)
    (fans : p.manageFans.Keeps R) (leds : p.manageLeds.Keeps R) (ops : List Operation) (s : σ) :
    R s (p.afterAll ops s) := by
  have hstep : ∀ (op : Operation) (s : σ), R s (op.after p s) := by
    intro op s
    cases op with
    | look l => exact reads.look l s
    | set setting => exact drives.setting setting s
    | manageFans => exact fans s
    | manageLeds => exact leds s
  induction ops generalizing s with
  | nil => exact refl_of R s
  | cons op ops ih => exact trans_of R (hstep op s) (ih _)

end Platform

end SwitchPlatform
