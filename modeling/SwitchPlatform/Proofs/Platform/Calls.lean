import SwitchPlatform.Proofs.Platform.Operations

/-!
# The calls of a pass

A pass drives one object after another, and looks at others in between. What it does is a list of
calls: what was ordered, and the state that the order was given in (`Call`). `Calls` says that every
name of a list has its call in its turn, whichever calls fail; only a fault beyond any status ends
a pass early. The calls decide together how the pass ends (`verdict`), and `driveAll_calls` says
that `driveAll` is such a pass.
-/

namespace SwitchPlatform

variable {σ ι ν : Type}

/-! ## How calls end together -/

/-- The first failure among some outcomes. -/
def firstFailure : List (Except Fault Unit) → Except Fault Unit
  | [] => .ok ()
  | .ok () :: rest => firstFailure rest
  | .error f :: _ => .error f

/-- How calls with these outcomes end together: in the first failure, unless one of them ended in
the fault beyond any status. -/
def verdict (outcomes : List (Except Fault Unit)) : Except Fault Unit :=
  if .error .quotientOverflow ∈ outcomes then .error .quotientOverflow else firstFailure outcomes

theorem firstFailure_eq_ok_iff {outcomes : List (Except Fault Unit)} :
    firstFailure outcomes = .ok () ↔ ∀ r ∈ outcomes, r = .ok () := by
  induction outcomes with
  | nil => simp [firstFailure]
  | cons r rest ih => cases r <;> simp [firstFailure, ih]

theorem firstFailure_eq_error_iff {outcomes : List (Except Fault Unit)} {f : Fault} :
    firstFailure outcomes = .error f ↔
      ∃ before after, outcomes = before ++ .error f :: after ∧ ∀ r ∈ before, r = .ok () := by
  induction outcomes with
  | nil => simp [firstFailure]
  | cons r rest ih =>
    cases r with
    | ok _ =>
      rw [firstFailure, ih]
      constructor
      · rintro ⟨before, after, rfl, hok⟩
        exact ⟨.ok () :: before, after, rfl, List.forall_mem_cons.2 ⟨rfl, hok⟩⟩
      · rintro ⟨_ | ⟨r, before⟩, after, heq, hok⟩
        · cases heq
        · obtain ⟨-, rfl⟩ := List.cons.inj heq
          exact ⟨before, after, rfl, fun r hr => hok r (List.mem_cons_of_mem _ hr)⟩
    | error g =>
      constructor
      · rintro ⟨⟩
        exact ⟨[], rest, rfl, nofun⟩
      · rintro ⟨_ | ⟨r, before⟩, after, heq, hok⟩
        · cases heq
          rfl
        · obtain ⟨rfl, -⟩ := List.cons.inj heq
          cases hok _ List.mem_cons_self

theorem verdict_eq_overflow_iff {outcomes : List (Except Fault Unit)} :
    verdict outcomes = .error .quotientOverflow ↔ .error .quotientOverflow ∈ outcomes := by
  unfold verdict
  split_ifs with h
  · simp [h]
  · refine iff_of_false (fun hfirst => h ?_) h
    obtain ⟨before, after, rfl, -⟩ := firstFailure_eq_error_iff.1 hfirst
    simp

theorem verdict_of_ok (outcomes : List (Except Fault Unit)) :
    verdict (.ok () :: outcomes) = verdict outcomes := by
  simp [verdict, firstFailure]

theorem verdict_of_status (e : StatusError) (outcomes : List (Except Fault Unit)) :
    verdict (.error (.status e) :: outcomes) =
      if verdict outcomes = .error .quotientOverflow then .error .quotientOverflow
      else .error (.status e) := by
  rw [if_congr verdict_eq_overflow_iff rfl rfl]
  simp [verdict, firstFailure]

/-! ## Calls in turn -/

/-- A call: what is ordered, and the state before it. -/
structure Call (ι σ : Type) where
  order : ι
  before : σ

variable {exec : ι → Command σ Unit} {look : σ → σ → Prop} {asks : ν → Call ι σ → Prop}
  {names : List ν} {calls : List (Call ι σ)} {s s' : σ}

/-- How a call ends, if `exec` carries out the orders. -/
def Call.outcome (exec : ι → Command σ Unit) (c : Call ι σ) : Except Fault Unit :=
  (exec c.order c.before).1

/-- The state that a call leaves behind. -/
def Call.after (exec : ι → Command σ Unit) (c : Call ι σ) : σ :=
  (exec c.order c.before).2

/-- A pass over some names: each of them in turn has a call as `asks` says, before which the pass
does nothing but `look`. After a fault beyond any status there is no other call. -/
inductive Calls (exec : ι → Command σ Unit) (look : σ → σ → Prop) (asks : ν → Call ι σ → Prop) :
    List ν → σ → List (Call ι σ) → σ → Prop
  | done (s : σ) : Calls exec look asks [] s [] s
  | broken {n : ν} {names : List ν} {s : σ} {c : Call ι σ} (asked : asks n c)
    (looked : look s c.before) (beyond : c.outcome exec = .error .quotientOverflow) :
    Calls exec look asks (n :: names) s [c] (c.after exec)
  | call {n : ν} {names : List ν} {s s' : σ} {c : Call ι σ} {calls : List (Call ι σ)}
    (asked : asks n c) (looked : look s c.before)
    (within : c.outcome exec ≠ .error .quotientOverflow)
    (rest : Calls exec look asks names (c.after exec) calls s') :
    Calls exec look asks (n :: names) s (c :: calls) s'

namespace Calls

/-- Every call is made for a name. -/
theorem exists_name (h : Calls exec look asks names s calls s') {c : Call ι σ} (hc : c ∈ calls) :
    ∃ n ∈ names, asks n c := by
  induction h with
  | done => cases hc
  | broken asked =>
    cases List.mem_singleton.1 hc
    exact ⟨_, List.mem_cons_self, asked⟩
  | call asked _ _ _ ih =>
    obtain rfl | hc := List.mem_cons.1 hc
    · exact ⟨_, List.mem_cons_self, asked⟩
    · obtain ⟨n, hn, hasks⟩ := ih hc
      exact ⟨n, List.mem_cons_of_mem _ hn, hasks⟩

/-- **Every name has its call**, unless a fault is beyond any status. -/
theorem exists_call (h : Calls exec look asks names s calls s')
    (within : ∀ c ∈ calls, c.outcome exec ≠ .error .quotientOverflow) {n : ν} (hn : n ∈ names) :
    ∃ c ∈ calls, asks n c := by
  induction h with
  | done => cases hn
  | broken _ _ beyond => exact absurd beyond (within _ List.mem_cons_self)
  | call asked _ _ _ ih =>
    obtain rfl | hn := List.mem_cons.1 hn
    · exact ⟨_, List.mem_cons_self, asked⟩
    · obtain ⟨c, hc, hasks⟩ := ih (fun c hc => within c (List.mem_cons_of_mem _ hc)) hn
      exact ⟨c, List.mem_cons_of_mem _ hc, hasks⟩

end Calls

/-! ## The call that decides -/

/-- The first call that fails. -/
def FirstFailing (exec : ι → Command σ Unit) (calls : List (Call ι σ)) (c : Call ι σ) : Prop :=
  (∃ f, c.outcome exec = .error f) ∧
    ∃ earlier later, calls = earlier ++ c :: later ∧ ∀ x ∈ earlier, x.outcome exec = .ok ()

theorem FirstFailing.mem {c : Call ι σ} (h : FirstFailing exec calls c) : c ∈ calls := by
  obtain ⟨-, earlier, later, rfl, -⟩ := h
  simp

theorem verdict_calls_eq_ok_iff :
    verdict (calls.map (Call.outcome exec)) = .ok () ↔ ∀ c ∈ calls, c.outcome exec = .ok () := by
  unfold verdict
  split_ifs with h
  · refine iff_of_false (by simp) fun hok => ?_
    obtain ⟨c, hc, hout⟩ := List.mem_map.1 h
    cases hout.symm.trans (hok c hc)
  · simp [firstFailure_eq_ok_iff]

/-- **A pass ends in a status exactly if the first call that fails does**, and no call goes beyond
any status. -/
theorem verdict_calls_eq_status_iff {e : StatusError} :
    verdict (calls.map (Call.outcome exec)) = .error (.status e) ↔
      (∀ c ∈ calls, c.outcome exec ≠ .error .quotientOverflow) ∧
      ∃ c, FirstFailing exec calls c ∧ c.outcome exec = .error (.status e) := by
  have hmem : .error .quotientOverflow ∉ calls.map (Call.outcome exec) ↔
      ∀ c ∈ calls, c.outcome exec ≠ .error .quotientOverflow := by simp
  rw [← hmem]
  unfold verdict
  split_ifs with h
  · simp [h]
  · rw [firstFailure_eq_error_iff]
    constructor
    · rintro ⟨before, after, heq, hok⟩
      obtain ⟨earlier, rest, rfl, rfl, hrest⟩ := List.map_eq_append_iff.1 heq
      obtain ⟨c, later, rfl, hout, -⟩ := List.map_eq_cons_iff.1 hrest
      refine ⟨h, c, ⟨⟨_, hout⟩, earlier, later, rfl, fun x hx => ?_⟩, hout⟩
      exact hok _ (List.mem_map_of_mem hx)
    · rintro ⟨-, c, ⟨-, earlier, later, rfl, hok⟩, hout⟩
      refine ⟨earlier.map (Call.outcome exec), later.map (Call.outcome exec), ?_, ?_⟩
      · rw [List.map_append, List.map_cons, hout]
      · exact List.forall_mem_map.2 hok

/-! ## Driving all -/

section DriveAll

variable {x : Command σ Unit} {xs : List (Command σ Unit)}

/-- Of the first command only its run matters. -/
theorem driveAll_cons_congr {y : Command σ Unit} (h : x s = y s') (xs : List (Command σ Unit)) :
    driveAll (x :: xs) s = driveAll (y :: xs) s' := by
  rw [driveAll, driveAll, Action.bind_eq, Action.bind_eq, Action.attempt_apply,
    Action.attempt_apply, h]

theorem driveAll_cons_of_ok (h : (x s).1 = .ok ()) :
    driveAll (x :: xs) s = driveAll xs (x s).2 := by
  rw [driveAll, Action.bind_eq, Action.attempt_apply, h]

theorem driveAll_cons_of_overflow (h : (x s).1 = .error .quotientOverflow) :
    driveAll (x :: xs) s = (.error .quotientOverflow, (x s).2) := by
  rw [driveAll, Action.bind_eq, Action.attempt_apply, h]
  rfl

/-- After a status the others are driven all the same. -/
theorem driveAll_cons_of_status {e : StatusError} (h : (x s).1 = .error (.status e)) :
    driveAll (x :: xs) s =
      (if (driveAll xs (x s).2).1 = .error .quotientOverflow then .error .quotientOverflow
        else .error (.status e), (driveAll xs (x s).2).2) := by
  rw [driveAll, Action.bind_eq, Action.attempt_apply, h]
  dsimp only
  rw [Action.bind_eq, Action.attempt_apply]
  generalize driveAll xs (x s).2 = others
  obtain ⟨(_ | _) | _, s'⟩ := others <;> rfl

/-- A first command that is no fault beyond any status does not keep the others from being
driven. -/
theorem driveAll_cons_within (xs : List (Command σ Unit))
    (h : (x s).1 ≠ .error .quotientOverflow) :
    (driveAll (x :: xs) s).2 = (driveAll xs (x s).2).2 ∧
      ((driveAll (x :: xs) s).1 = .error .quotientOverflow ↔
        (driveAll xs (x s).2).1 = .error .quotientOverflow) := by
  cases hx : (x s).1 with
  | ok _ => simp [driveAll_cons_of_ok hx]
  | error f =>
    cases f with
    | quotientOverflow => exact absurd hx h
    | status e => simp [driveAll_cons_of_status hx]

end DriveAll

/-- **Driving all is a pass.** The command of a name has to be a call for it, after some looking, in
the state in which the names before leave the pass. -/
theorem driveAll_calls {cmd : ν → Command σ Unit} {names : List ν} {s : σ}
    (step : ∀ pre n post, names = pre ++ n :: post →
      (driveAll (pre.map cmd) s).1 ≠ .error .quotientOverflow →
      ∃ c, asks n c ∧ look (driveAll (pre.map cmd) s).2 c.before ∧
        cmd n (driveAll (pre.map cmd) s).2 = exec c.order c.before) :
    ∃ calls s', driveAll (names.map cmd) s = (verdict (calls.map (Call.outcome exec)), s') ∧
      Calls exec look asks names s calls s' := by
  induction names generalizing s with
  | nil => exact ⟨[], s, rfl, .done s⟩
  | cons n names ih =>
    obtain ⟨c, hasks, hlook, hcmd⟩ := step [] n names rfl nofun
    change look s c.before at hlook
    change cmd n s = exec c.order c.before at hcmd
    have hout : (cmd n s).1 = c.outcome exec := congrArg Prod.fst hcmd
    have hafter : (cmd n s).2 = c.after exec := congrArg Prod.snd hcmd
    by_cases hbeyond : (cmd n s).1 = .error .quotientOverflow
    · refine ⟨[c], c.after exec, ?_, .broken hasks hlook (hout ▸ hbeyond)⟩
      rw [List.map_cons, driveAll_cons_of_overflow hbeyond, hafter, List.map_singleton, ← hout,
        hbeyond]
      rfl
    · -- the names before a later name are those behind the first one, in the state after it
      obtain ⟨calls, s', hrun, hcalls⟩ := ih (s := (cmd n s).2) fun pre n' post hnames hwithin => by
        have hfirst := driveAll_cons_within (pre.map cmd) hbeyond
        have hlater := step (n :: pre) n' post (by rw [hnames, List.cons_append])
        rw [List.map_cons, hfirst.1] at hlater
        exact hlater fun h => hwithin (hfirst.2.1 h)
      refine ⟨c :: calls, s', ?_, .call hasks hlook (hout ▸ hbeyond) (hafter ▸ hcalls)⟩
      rw [List.map_cons, List.map_cons, ← hout]
      cases hx : (cmd n s).1 with
      | ok _ => rw [driveAll_cons_of_ok hx, hrun, verdict_of_ok]
      | error f =>
        cases f with
        | quotientOverflow => exact absurd hx hbeyond
        | status e => rw [driveAll_cons_of_status hx, hrun, verdict_of_status]

end SwitchPlatform
