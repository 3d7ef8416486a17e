import SwitchPlatform.Proofs.Board.FanPass
import SwitchPlatform.Proofs.FanPolicy.Duty
import SwitchPlatform.Proofs.Io.Failing
import SwitchPlatform.Proofs.Platform.Operations

/-!
# The duty that a board remembers

A pass over the fans remembers the duty that it decides, and the next pass decides with it. A
decision picks one of the duties that the policy lists, if the remembered one is such a duty
(`FanPolicy.lists_decide`), and a pass changes the remembered duty by a decision or not at all
(`pass_decides`). So in every state that passes lead to, whatever happens to the files in between,
the remembered duty is none or a listed one, and the passes of a valid board decide at most 100
percent and are never refused as a parameter (`remembered_duty_listed`).
-/

namespace SwitchPlatform

/-! ## The duties of a policy -/

namespace FanPolicy

variable {p : FanPolicy}

/-- The duties of a policy: the floor, the failsafe duty and those of the steps. -/
inductive Lists (p : FanPolicy) : UInt8 → Prop
  | floor : Lists p p.floor
  | failsafe : Lists p p.failsafe
  | step {s : FanStep} (h : s ∈ p.steps) : Lists p s.percentage

theorem lists_smaller {a b : UInt8} (ha : p.Lists a) (hb : p.Lists b) :
    p.Lists (smaller a b) := by
  unfold smaller
  split_ifs
  · exact ha
  · exact hb

theorem lists_duty (p : FanPolicy) (t : Int32) : p.Lists (p.duty t) := by
  obtain h | ⟨s, hs, -, h⟩ := p.duty_cases t
  · rw [h]
    exact .floor
  · rw [h]
    exact .step hs

variable {current : Option UInt8} (h : ∀ c ∈ current, p.Lists c)
include h

theorem lists_nextDuty (t : Int32) : p.Lists (p.nextDuty current t) := by
  cases current with
  | none => exact p.lists_duty t
  | some c =>
    rw [nextDuty]
    split_ifs
    · exact lists_smaller (h c rfl) (p.lists_duty _)
    · exact p.lists_duty t

/-- **A decision stays among the duties of the policy.** -/
theorem lists_decide (hottest : Option Int32) (fault : Bool) :
    p.Lists (p.decide current hottest fault).percentage := by
  unfold decide
  cases hottest with
  | none => exact .failsafe
  | some t =>
    cases fault with
    | true => exact .failsafe
    | false => exact lists_nextDuty h t

end FanPolicy

/-! ## What keeps the duty -/

/-- The same duty is remembered. -/
def Machine.SameDuty (m m' : Machine) : Prop :=
  m'.duty = m.duty

instance : IsPreorder Machine Machine.SameDuty where
  refl _ := rfl
  trans _ _ _ h h' := Eq.trans h' h

theorem Within.keeps_duty {ε α : Type} {x : Action ε Machine α}
    {free : FileTree → FileTree.Location → Prop} (h : ∀ t, Within (free t) t x) :
    x.Keeps Machine.SameDuty :=
  fun m => (h m.tree m (.refl _ _)).duty

namespace Board

variable {b : Board} {io : Io} {policy : FanPolicy} {m : Machine}

theorem PolicyValid.le (valid : PolicyValid policy) {c : UInt8} (h : policy.Lists c) :
    c ≤ 100 := by
  cases h with
  | floor => exact valid.floor_le
  | failsafe => exact valid.failsafe_le
  | step hs => exact valid.step_le _ hs

/-- Reading any sensor or fan is quiet. -/
theorem quietOn_entries (b : Board) (io : Io) (t : FileTree) (entries : List TreeEntry) :
    (b.operations io).QuietOn io.root t False entries where
  thermal _ _ _ := (Quiet.ofExcept _).bind fun entry => (entry.quiet_read _).mono False.elim
  fan _ _ _ := (Quiet.ofExcept _).bind fun entry => (entry.quiet_read _).mono False.elim

theorem keeps_duty_tell (b : Board) (io : Io) (percentage : UInt8) (id : Oid) :
    (b.tell io percentage id).Keeps Machine.SameDuty := by
  rw [tell, FanOps.setPercentage]
  split_ifs
  · refine (Action.Keeps.lift (.ofExcept _)).bind fun entry => ?_
    split_ifs
    · cases entry.percentage with
      | none => exact .fail _
      | some l => exact Within.keeps_duty fun t => within_write l _
    · exact .fail _
  · exact .fail _

/-- A pass from `m` that comes to a decision `d` and ends in `run`; the fans that it sets were
read. -/
structure Decided (b : Board) (io : Io) (policy : FanPolicy) (m : Machine) (d : FanDecision)
    (run : Except Fault FanDecision × Machine) : Prop where
  decision : ∃ hottest fault, policy.decide m.duty hottest fault = d
  duty : run.2.duty = some d.percentage
  outcome : ∃ (ids : List Oid) (m' : Machine),
    run.1 = (driveAll (ids.map (b.tell io d.percentage)) m').1.map (fun _ => d) ∧
    ∀ id ∈ ids, ∃ e, lookup? .fan b.fans id = some e

/-- **A pass comes to a decision**, unless the objects of the board cannot be walked through; then
it changes nothing. -/
theorem pass_decides (hpolicy : b.fanPolicy = some policy) (io : Io) (m : Machine) :
    (∃ e, SwitchPlatform.walk b.headerOf = .error e ∧ ((b.platform io).manageFans m).2 = m) ∨
      ∃ d, b.Decided io policy m d ((b.platform io).manageFans m) := by
  cases hentries : SwitchPlatform.walk b.headerOf with
  | error e =>
    refine .inl ⟨e, rfl, ?_⟩
    rw [manageFans_of_walk_error hpolicy hentries]
  | ok entries =>
    obtain ⟨scan, m₁, hscan, hfans⟩ := Platform.scanFans_ok (b.operations io) entries {} m
    have hduty := (Platform.within_scanFans (b.quietOn_entries io m.tree entries) {} m
      (.refl _ _)).duty
    rw [hscan] at hduty
    generalize hd : policy.decide m.duty scan.hottest scan.fault = d
    rw [manageFans_apply hpolicy hentries hscan (hduty ▸ hd) rfl]
    refine .inr ⟨d, ⟨_, _, hd⟩, ?_, scan.settable.map (·.header.id),
      { m₁ with duty := some d.percentage }, ?_, ?_⟩
    · refine keeps_driveAll (R := Machine.SameDuty) (fun x hx => ?_) _
      obtain ⟨r, -, rfl⟩ := List.mem_map.1 hx
      exact b.keeps_duty_tell io d.percentage r.header.id
    · rw [List.map_map]
      rfl
    · intro id hid
      obtain ⟨r, hr, rfl⟩ := List.mem_map.1 hid
      obtain hnil | ⟨e, -, -, m', hread⟩ := hfans r (List.mem_filter.1 hr).1
      · cases hnil
      · obtain ⟨entry, hfind, hentry⟩ := Action.ok_of_bind hread
        rw [(FanEntry.read_ok hentry).1]
        exact ⟨entry, lookup_of_find hfind⟩

/-! ## Runs of passes -/

/-- A duty of the policy of a board, or none. -/
def Listed (b : Board) (duty : Option UInt8) : Prop :=
  ∀ c ∈ duty, ∃ policy, b.fanPolicy = some policy ∧ policy.Lists c

/-- **A pass keeps to the duties of the policy.** -/
theorem listed_pass (io : Io) (h : b.Listed m.duty) :
    b.Listed ((b.platform io).manageFans m).2.duty := by
  cases hpolicy : b.fanPolicy with
  | none =>
    rw [platform, hpolicy]
    exact h
  | some policy =>
    obtain ⟨e, -, hsame⟩ | ⟨d, hd⟩ := pass_decides hpolicy io m
    · rw [hsame]
      exact h
    · intro c hc
      rw [hd.duty] at hc
      cases hc
      obtain ⟨hottest, fault, rfl⟩ := hd.decision
      refine ⟨policy, hpolicy, FanPolicy.lists_decide (fun c hc => ?_) hottest fault⟩
      obtain ⟨policy', hpolicy', hlists⟩ := h c hc
      cases hpolicy.symm.trans hpolicy'
      exact hlists

/-- Machines that passes over the fans lead to, whatever happens to the files in between. -/
inductive Reached (b : Board) (io : Io) : Machine → Prop
  | start (tree : FileTree) (fitted : Option Bool) : Reached b io ⟨tree, fitted, none⟩
  | outside {m : Machine} (h : Reached b io m) (tree : FileTree) (fitted : Option Bool) :
    Reached b io { m with tree := tree, bmcFitted := fitted }
  | pass {m : Machine} (h : Reached b io m) : Reached b io ((b.platform io).manageFans m).2

theorem Reached.listed (h : b.Reached io m) : b.Listed m.duty := by
  induction h with
  | start tree fitted => exact nofun
  | outside h tree fitted ih => exact ih
  | pass h ih => exact listed_pass io ih

/-! ## Passes of a valid board -/

theorem failsWith_driveAll {σ : Type} {errs : Fault → Prop} {xs : List (Command σ Unit)}
    (h : ∀ x ∈ xs, Action.FailsWith errs x) : Action.FailsWith errs (driveAll xs) := by
  induction xs with
  | nil => exact .pure ()
  | cons x xs ih =>
    have hrest := ih fun y hy => h y (List.mem_cons_of_mem _ hy)
    intro s e he
    rw [driveAll, Action.bind_eq, Action.attempt_apply] at he
    dsimp only at he
    have hx := h x List.mem_cons_self s
    generalize (x s).2 = s' at he
    cases hr : (x s).1 with
    | ok _ =>
      rw [hr] at he
      exact hrest s' e he
    | error fault =>
      rw [hr] at he hx
      cases fault with
      | quotientOverflow =>
        cases he
        exact hx _ rfl
      | status status =>
        dsimp only at he
        rw [Action.bind_eq, Action.attempt_apply] at he
        dsimp only at he
        have hothers := hrest s'
        generalize (driveAll xs s').1 = others at he hothers
        obtain (_ | _) | _ := others <;> cases he
        · exact hx _ rfl
        · exact hothers _ rfl
        · exact hx _ rfl

/-- A fan of the board takes any percentage, if it takes one at all. -/
theorem tell_eq {id : Oid} {e : FanEntry} (he : lookup? .fan b.fans id = some e)
    {percentage : UInt8} (hle : percentage ≤ 100) :
    b.tell io percentage id =
      if e.caps.has FanCaps.setPercentage then
        match e.percentage with
        | some l => io.write l (Int32.ofNat percentage.toNat)
        | none => .fail (.status .unsupported)
      else .fail (.status .unsupported) := by
  have hint : percentage.toNat ≤ 100 := hle
  have hrange : 0 ≤ Int32.ofNat percentage.toNat ∧ Int32.ofNat percentage.toNat ≤ 100 := by
    simp only [Int32.le_iff_toInt_le, toInt_ofNat_toNat]
    exact ⟨by simp, by simpa using hint⟩
  have hduty : b.tell io percentage id = (b.operations io).fan.setDuty id percentage := by
    rw [tell, FanOps.setPercentage, if_pos hrange, toInt_ofNat_toNat, Int.toNat_natCast,
      UInt8.ofNat_toNat]
  exact hduty.trans (setDuty_eq he percentage)

/-- A fan of the board takes any duty that is a percentage as a parameter. -/
theorem failsWith_tell {id : Oid} {e : FanEntry} (he : lookup? .fan b.fans id = some e)
    {percentage : UInt8} (hle : percentage ≤ 100) :
    Action.FailsWith (· ≠ .status .param) (b.tell io percentage id) := by
  rw [tell_eq he hle]
  split_ifs
  · cases e.percentage with
    | none => exact .fail (by decide)
    | some l =>
      intro m f hf
      obtain rfl | rfl | ⟨status, rfl, rfl | rfl | rfl⟩ := failsWith_write l _ m f hf
      all_goals decide
  · exact .fail (by decide)

section Decided

variable {d : FanDecision} {run : Except Fault FanDecision × Machine}

/-- A pass that ends well returns the decision that it remembers. -/
theorem Decided.eq_of_ok (hd : b.Decided io policy m d run) {d' : FanDecision}
    (h : run.1 = .ok d') : d' = d := by
  obtain ⟨ids, m', hout, -⟩ := hd.outcome
  rw [hout] at h
  cases hdrive : (driveAll (ids.map (b.tell io d.percentage)) m').1 with
  | ok _ =>
    rw [hdrive] at h
    cases h
    rfl
  | error f =>
    rw [hdrive] at h
    cases h

/-- Fans of the board refuse no percentage. -/
theorem Decided.not_refused (hd : b.Decided io policy m d run) (hle : d.percentage ≤ 100) :
    run.1 ≠ .error (.status .param) := by
  obtain ⟨ids, m', hout, hids⟩ := hd.outcome
  have hfails : Action.FailsWith (· ≠ .status .param)
      (driveAll (ids.map (b.tell io d.percentage))) := by
    refine failsWith_driveAll fun x hx => ?_
    obtain ⟨id, hid, rfl⟩ := List.mem_map.1 hx
    obtain ⟨e, he⟩ := hids id hid
    exact failsWith_tell he hle
  intro hparam
  rw [hout] at hparam
  cases hdrive : (driveAll (ids.map (b.tell io d.percentage)) m').1 with
  | ok _ =>
    rw [hdrive] at hparam
    cases hparam
  | error f =>
    rw [hdrive] at hparam
    cases hparam
    exact hfails m' _ hdrive rfl

end Decided

theorem Listed.le (valid : b.Valid) {duty : Option UInt8} (h : b.Listed duty) {c : UInt8}
    (hc : duty = some c) : c ≤ 100 := by
  obtain ⟨policy, hpolicy, hlists⟩ := h c hc
  exact (valid.policy policy hpolicy).le hlists

/-- **The remembered duty is none or one that the policy lists**, in every state that passes lead
to. A pass of a valid board decides at most 100 percent, which it remembers also if it fails
later, and is never refused as a parameter. -/
theorem remembered_duty_listed (b : Board) (io : Io) {m : Machine} (reached : b.Reached io m) :
    (∀ c, m.duty = some c → ∃ policy, b.fanPolicy = some policy ∧
      (c = policy.floor ∨ c = policy.failsafe ∨ ∃ s ∈ policy.steps, s.percentage = c)) ∧
    (b.validate = .ok () →
      (∀ c, ((b.platform io).manageFans m).2.duty = some c → c ≤ 100) ∧
      (∀ d, ((b.platform io).manageFans m).1 = .ok d →
        ((b.platform io).manageFans m).2.duty = some d.percentage ∧ d.percentage ≤ 100) ∧
      ((b.platform io).manageFans m).1 ≠ .error (.status .param)) := by
  refine ⟨fun c hc => ?_, fun hvalid => ?_⟩
  · obtain ⟨policy, hpolicy, hlists⟩ := reached.listed c hc
    refine ⟨policy, hpolicy, ?_⟩
    cases hlists with
    | floor => exact .inl rfl
    | failsafe => exact .inr (.inl rfl)
    | step hs => exact .inr (.inr ⟨_, hs, rfl⟩)
  · have valid := validate_eq_ok_iff.1 hvalid
    have hafter := reached.pass.listed
    refine ⟨fun c hc => hafter.le valid hc, ?_⟩
    cases hpolicy : b.fanPolicy with
    | none =>
      have hrun : (b.platform io).manageFans m = (.error (.status .unsupported), m) := by
        rw [platform, hpolicy]
        rfl
      rw [hrun]
      refine ⟨fun d h => ?_, fun h => ?_⟩ <;> cases h
    | some policy =>
      obtain ⟨entries, -, hwalk, -, -⟩ := valid.walk
      obtain ⟨e, hfail, -⟩ | ⟨d, hd⟩ := pass_decides hpolicy io m
      · cases hwalk.symm.trans hfail
      · have hle := hafter.le valid hd.duty
        refine ⟨fun d' hd' => ?_, hd.not_refused hle⟩
        rw [hd.eq_of_ok hd']
        exact ⟨hd.duty, hle⟩

/-- After one pass that board remembers the duty of its only step; so the next pass is sound. -/
theorem twoFans_remembers :
    let m := ((twoFans.platform twoFansIo).manageFans (twoFansMachine "0")).2
    m.duty = some 60 ∧ twoFans.Reached twoFansIo m ∧ twoFans.validate = .ok () ∧
      (∀ c, ((twoFans.platform twoFansIo).manageFans m).2.duty = some c → c ≤ 100) ∧
      ((twoFans.platform twoFansIo).manageFans m).1 ≠ .error (.status .param) := by
  intro m
  have reached : twoFans.Reached twoFansIo m := .pass (.start (twoFansMachine "0").tree none)
  have hpass := (remembered_duty_listed twoFans twoFansIo reached).2 rfl
  exact ⟨by decide +kernel, reached, rfl, hpass.1, hpass.2.2⟩

end Board

end SwitchPlatform
