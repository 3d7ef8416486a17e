import Mathlib.Tactic
import SwitchPlatform.Proofs.Io.Quiet
import SwitchPlatform.Proofs.Platform.FanScan

/-!
# The steps of a pass over the fans

A pass walks through the objects, scans them, decides, and drives the fans (`fanPass_apply`). If
the readings are quiet then so is the scan, and what it finds is what the sensors and fans read on
the tree before the pass (`scanFans_outcome`).
-/

namespace SwitchPlatform

open FileTree (Location SameBut)

/-! ## The decision -/

namespace FanPolicy

variable (policy : FanPolicy) (current : Option UInt8) (hottest : Option Int32) (fault : Bool)

theorem decide_hottest : (policy.decide current hottest fault).hottest = hottest := by
  unfold decide
  cases hottest with
  | none => rfl
  | some t => cases fault <;> rfl

/-- **A pass is failsafe if no sensor is readable or a fan is in fault.** -/
theorem decide_failsafe_iff :
    (policy.decide current hottest fault).failsafe = true ↔ hottest = none ∨ fault = true := by
  unfold decide
  cases hottest with
  | none => simp
  | some t => cases fault <;> simp

theorem decide_percentage_of_failsafe
    (h : (policy.decide current hottest fault).failsafe = true) :
    (policy.decide current hottest fault).percentage = policy.failsafe := by
  unfold decide at h ⊢
  cases hottest with
  | none => rfl
  | some t =>
    cases fault with
    | true => rfl
    | false => cases h

theorem decide_percentage {t : Int32}
    (h : (policy.decide current (some t) fault).failsafe = false) :
    (policy.decide current (some t) fault).percentage = policy.nextDuty current t := by
  unfold decide at h ⊢
  cases fault with
  | true => cases h
  | false => rfl

end FanPolicy

/-! ## Driving -/

theorem within_driveAll {free : Location → Prop} {t : FileTree} {xs : List (Command Machine Unit)}
    (h : ∀ x ∈ xs, Within free t x) : Within free t (driveAll xs) := by
  induction xs with
  | nil => exact .pure ()
  | cons x xs ih =>
    have hrest := ih fun y hy => h y (List.mem_cons_of_mem _ hy)
    rw [driveAll]
    refine (h x List.mem_cons_self).attempt.bind fun outcome => ?_
    split
    · exact hrest
    · exact .fail _
    · refine hrest.attempt.bind fun others => ?_
      split
      · exact .fail _
      · exact .fail _

/-- A run that ends well has run every command well, each where the one before it ended. -/
theorem driveAll_cons_ok {σ : Type} {x : Command σ Unit} {xs : List (Command σ Unit)} {s : σ}
    (h : (driveAll (x :: xs) s).1 = .ok ()) :
    (x s).1 = .ok () ∧ driveAll (x :: xs) s = driveAll xs (x s).2 := by
  rw [driveAll, Action.bind_eq, Action.attempt_apply] at h ⊢
  dsimp only at h ⊢
  cases hx : (x s).1 with
  | ok _ => exact ⟨rfl, rfl⟩
  | error fault =>
    rw [hx] at h
    cases fault with
    | quotientOverflow => cases h
    | status e =>
      dsimp only at h
      rw [Action.bind_eq, Action.attempt_apply] at h
      dsimp only at h
      generalize (driveAll xs (x s).2).1 = others at h
      rcases others with (_ | _) | _ <;> cases h

/-! ## Scanning -/

namespace Platform

section Scan

variable {p : Platform Machine} {root : Root} {t : FileTree} {spared : Prop}

/-- Reading what a scan of some objects reads is quiet. -/
structure QuietOn (p : Platform Machine) (root : Root) (t : FileTree) (spared : Prop)
    (entries : List TreeEntry) : Prop where
  thermal : ∀ e ∈ entries, e.header.id.kind = .thermal →
    Quiet root t spared (p.thermal.read e.header.id)
  fan : ∀ e ∈ entries, e.isChassisFan = true → Quiet root t spared (p.fan.read e.header.id)

theorem QuietOn.tail {e : TreeEntry} {entries : List TreeEntry}
    (h : p.QuietOn root t spared (e :: entries)) : p.QuietOn root t spared entries where
  thermal x hx := h.thermal x (List.mem_cons_of_mem _ hx)
  fan x hx := h.fan x (List.mem_cons_of_mem _ hx)

theorem within_scanFans {entries : List TreeEntry} (h : p.QuietOn root t spared entries)
    (scan : FanScan) :
    Within (root.Opens t Gpio.exportPath) t (p.scanFans entries scan) := by
  induction entries generalizing scan with
  | nil => exact .pure scan
  | cons e entries ih =>
    rw [scanFans]
    split
    · rename_i hk
      exact (h.thermal e List.mem_cons_self hk).within.attempt.bind fun _ => ih h.tail _
    · split
      · rename_i hf
        exact (h.fan e List.mem_cons_self hf).within.attempt.bind fun _ => ih h.tail _
      · exact ih h.tail _

/-- A step of a scan that reads: the reading, and then the rest of the scan. -/
theorem scan_step {α : Type} {read : Query Machine α} {m m₀ : Machine}
    {f : Except StatusError α → Query Machine FanScan}
    (hread : Quiet root t spared read) (hspared : spared)
    (hf : ∀ outcome, Within (root.Opens t Gpio.exportPath) t (f outcome))
    (same : root.ExportOnly t m.tree) (same₀ : root.ExportOnly t m₀.tree)
    (settled : ((read.attempt >>= f) m).2.Settled m₀.bmcFitted) :
    (read.attempt >>= f) m = f (read m₀).1 (read m).2 ∧ root.ExportOnly t (read m).2.tree := by
  have htree := (hread.within m same).tree
  have hrun : (read.attempt >>= f) m = f (read m).1 (read m).2 := by
    rw [Action.bind_eq, Action.attempt_apply]
  rw [hrun] at settled ⊢
  have hsettled := (hf _ _ htree).settled settled
  exact ⟨by rw [hread.same hspared m₀ m same₀ same hsettled], htree⟩

/-- **A scan finds what the sensors and fans read on one machine**, as far as the files of the
tree and the question whether a controller is fitted matter. -/
theorem scanFans_outcome {entries : List TreeEntry} (h : p.QuietOn root t spared entries)
    (hspared : spared) {scan : FanScan} {m m₀ : Machine} (same : root.ExportOnly t m.tree)
    (same₀ : root.ExportOnly t m₀.tree)
    (settled : (p.scanFans entries scan m).2.Settled m₀.bmcFitted) :
    (p.scanFans entries scan m).1 =
      .ok (entries.foldl (FanScan.look (fun id => (p.thermal.read id m₀).1)
        fun id => (p.fan.read id m₀).1) scan) := by
  induction entries generalizing scan m with
  | nil => rfl
  | cons e entries ih =>
    rw [List.foldl_cons, FanScan.look]
    rw [scanFans] at settled ⊢
    split at settled
    · rename_i hk
      rw [if_pos hk, if_pos hk]
      obtain ⟨hrun, htree⟩ := scan_step (h.thermal e List.mem_cons_self hk) hspared
        (fun _ => within_scanFans h.tail _) same same₀ settled
      rw [hrun] at settled ⊢
      exact ih h.tail htree settled
    · rename_i hk
      rw [if_neg hk, if_neg hk]
      split at settled
      · rename_i hf
        rw [if_pos hf, if_pos hf]
        obtain ⟨hrun, htree⟩ := scan_step (h.fan e List.mem_cons_self hf) hspared
          (fun _ => within_scanFans h.tail _) same same₀ settled
        rw [hrun] at settled ⊢
        exact ih h.tail htree settled
      · rename_i hf
        rw [if_neg hf, if_neg hf]
        exact ih h.tail same settled

end Scan

/-! ## The pass -/

variable {σ : Type} {p p' : Platform σ}

/-- A scan reads the sensors and the fans of the chassis, and nothing else. -/
theorem scanFans_congr {entries : List TreeEntry}
    (thermal : ∀ e ∈ entries, e.header.id.kind = .thermal →
      p'.thermal.read e.header.id = p.thermal.read e.header.id)
    (fan : ∀ e ∈ entries, e.isChassisFan = true →
      p'.fan.read e.header.id = p.fan.read e.header.id) (scan : FanScan) :
    p'.scanFans entries scan = p.scanFans entries scan := by
  induction entries generalizing scan with
  | nil => rfl
  | cons e entries ih =>
    have hrest := ih (fun x hx => thermal x (List.mem_cons_of_mem _ hx))
      (fun x hx => fan x (List.mem_cons_of_mem _ hx))
    rw [scanFans, scanFans]
    split
    · rename_i hk
      simp only [thermal e List.mem_cons_self hk, hrest]
    · split
      · rename_i hf
        simp only [fan e List.mem_cons_self hf, hrest]
      · exact hrest scan

/-- A scan always ends well, and a fan that it found was read. -/
theorem scanFans_ok (p : Platform σ) (entries : List TreeEntry) (scan : FanScan) (s : σ) :
    ∃ scan' s₁, p.scanFans entries scan s = (.ok scan', s₁) ∧ ∀ r ∈ scan'.fans, r ∈ scan.fans ∨
      ∃ e ∈ entries, e.isChassisFan = true ∧ ∃ s', (p.fan.read e.header.id s').1 = .ok r := by
  induction entries generalizing scan s with
  | nil => exact ⟨scan, s, rfl, fun r hr => .inl hr⟩
  | cons e entries ih =>
    have later : ∀ {r}, (∃ e' ∈ entries, e'.isChassisFan = true ∧
          ∃ s', (p.fan.read e'.header.id s').1 = .ok r) →
        ∃ e' ∈ e :: entries, e'.isChassisFan = true ∧
          ∃ s', (p.fan.read e'.header.id s').1 = .ok r := by
      rintro r ⟨e', he', hread⟩
      exact ⟨e', List.mem_cons_of_mem _ he', hread⟩
    rw [scanFans]
    split_ifs with hk hf
    · rw [Action.bind_eq, Action.attempt_apply]
      obtain ⟨scan', s₁, hscan, hfans⟩ :=
        ih (scan.addThermal (p.thermal.read e.header.id s).1) (p.thermal.read e.header.id s).2
      refine ⟨scan', s₁, hscan, fun r hr => (hfans r hr).imp (fun hmem => ?_) later⟩
      rwa [FanScan.addThermal_fans] at hmem
    · rw [Action.bind_eq, Action.attempt_apply]
      obtain ⟨scan', s₁, hscan, hfans⟩ :=
        ih (scan.addFan (p.fan.read e.header.id s).1) (p.fan.read e.header.id s).2
      refine ⟨scan', s₁, hscan, fun r hr => ?_⟩
      obtain hmem | hlater := hfans r hr
      · rw [FanScan.mem_addFan_fans] at hmem
        exact hmem.imp_right fun hread => ⟨e, List.mem_cons_self, hf, s, hread⟩
      · exact .inr (later hlater)
    · obtain ⟨scan', s₁, hscan, hfans⟩ := ih scan s
      exact ⟨scan', s₁, hscan, fun r hr => (hfans r hr).imp_right later⟩

/-- **The steps of a pass**: the duty is remembered before a fan is set. -/
theorem fanPass_apply (policy : FanPolicy) (last : σ → Option UInt8) (remember : UInt8 → σ → σ)
    {s s₁ : σ} {entries : List TreeEntry} {scan : FanScan} (hwalk : p.walk s = (.ok entries, s))
    (hscan : p.scanFans entries {} s = (.ok scan, s₁)) {d : FanDecision}
    (hd : policy.decide (last s₁) scan.hottest scan.fault = d) {run : Except Fault Unit × σ}
    (hrun : driveAll (scan.settable.map fun r =>
      p.fan.setPercentage r.header.id (Int32.ofNat d.percentage.toNat))
      (remember d.percentage s₁) = run) :
    p.fanPass policy last remember s = (run.1.map fun _ => d, run.2) := by
  subst hd hrun
  simp only [fanPass, lift_eq, Action.bind_eq, Action.mapError_eq, hwalk, hscan, Except.mapError,
    Action.view_apply, Action.update_apply, Action.pure_apply]
  split
  · rename_i h
    rw [h]
    rfl
  · rename_i h
    rw [h]
    rfl

end Platform

end SwitchPlatform
