import SwitchPlatform.Proofs.Io.Dispatch
import SwitchPlatform.Proofs.Io.Quiet

/-!
# Runs of accesses

While a board runs, accesses to locators follow each other and files change from outside.
`run_dispatched`: if there is a link to a controller, then all accesses of a run go by one answer
to whether the controller is fitted, however they are interleaved. The answer is that of the first
access that asks (`Decided`), and what each access does is what it does at the locator that its own
amounts to under this answer (`Dispatched`).

The run lemma is `ready_of_run`: before each access the answer is known, or nobody has asked and
asking now would give it.
-/

namespace SwitchPlatform.Io

open FileTree (SameBut)

/-- An access to the hardware of a board. -/
inductive Operation
  | read (l : Locator)
  | readOptional (l : Locator)
  | readText (l : Locator)
  | write (l : Locator) (value : Int32)
  | hasBmc

/-- How an access ended. -/
inductive Outcome
  | value (r : Except StatusError Int32)
  | optional (r : Except StatusError (Option Int32))
  | text (r : Except StatusError String)
  | done (r : Except Fault Unit)
  | fitted (r : Except StatusError Bool)

namespace Operation

/-- Runs an access. -/
def run (io : Io) : Operation → Machine → Outcome × Machine
  | read l, m => (io.read l m).map .value id
  | readOptional l, m => (io.read? l m).map .optional id
  | readText l, m => (io.readText l m).map .text id
  | write l v, m => (io.write l v m).map .done id
  | hasBmc, m => (io.hasBmc m).map .fitted id

/-- The locator of an access. -/
def locator? : Operation → Option Locator
  | read l => some l
  | readOptional l => some l
  | readText l => some l
  | write l _ => some l
  | hasBmc => none

/-- The access to the locator that its own amounts to under an answer. -/
def under (fitted : Bool) : Operation → Operation
  | read l => read (l.under fitted)
  | readOptional l => readOptional (l.under fitted)
  | readText l => readText (l.under fitted)
  | write l v => write (l.under fitted) v
  | hasBmc => hasBmc

/-- Does an access ask whether a controller is fitted? Files, sensor directories and GPIO lines do
not, and text is never read from a controller itself. -/
def asks : Operation → Bool
  | read l => l.usesBmc
  | readOptional l => l.usesBmc
  | readText l => l.isChoice
  | write l v => l.asksToWrite v
  | hasBmc => true

end Operation

/-- What happens while a board runs: an access, or a change of the files from outside. -/
inductive Step
  | access (op : Operation)
  | outside (t : FileTree)

/-- The accesses of a run, each with the machine before it. -/
def moments (io : Io) : Machine → List Step → List (Operation × Machine)
  | _, [] => []
  | m, .access op :: steps => (op, m) :: io.moments (op.run io m).2 steps
  | m, .outside t :: steps => io.moments { m with tree := t } steps

/-- How the answer of a run is decided: by the mode, and by the probe at the first access that
asks. -/
structure Decided (io : Io) (fitted : Bool) (moments : List (Operation × Machine)) : Prop where
  present : io.mode = .present → fitted = true
  absent : io.mode = .absent → fitted = false
  unprobed : io.mode = .auto → io.probe = none → fitted = false
  probed : ∀ probe x, io.mode = .auto → io.probe = some probe →
    moments.find? (·.1.asks) = some x →
      (fitted = true ↔ io.root.readInt probe.path x.2.tree = .ok probe.presentValue)

/-- An access that touches one attribute only: it changes no other file, and its outcome is the same
on all machines with a fitted controller where the attribute is the same. -/
structure TouchesOnly (io : Io) (path : String) (op : Operation) (m : Machine) : Prop where
  changes : SameBut (io.root.Opens m.tree path) m.tree (op.run io m).2.tree
  outcome : ∀ m', SameSensor io path (m.settle true) m' → (op.run io m').1 = (op.run io m).1

/-- An access that goes by an answer. -/
structure Dispatched (io : Io) (fitted : Bool) (op : Operation) (m : Machine) : Prop where
  known : m.bmcFitted = none ∨ m.bmcFitted = some fitted
  /-- The access does what it does at the locator that its own amounts to. -/
  outcome : (op.run io m).1 = ((op.under fitted).run io (m.settle fitted)).1
  tree : (op.run io m).2.tree = ((op.under fitted).run io (m.settle fitted)).2.tree
  settled : (op.run io m).2.bmcFitted = if op.asks then some fitted else m.bmcFitted
  answer : op = .hasBmc → (op.run io m).1 = .fitted (.ok fitted)
  /-- An access that the controller serves touches the attribute of its sensor only. -/
  served : fitted = true → ∀ sensor scale dir,
    (op.under fitted).locator? = some (.bmc sensor scale) → io.link = some (.directory dir) →
      io.TouchesOnly (Bmc.Link.sensorPath dir sensor) op m
  /-- Without a fitted controller, any other link would do, or none. -/
  detached : fitted = false → ∀ other,
    (op.run { io with link := other } (m.settle false)).1 = (op.run io m).1 ∧
      (op.run { io with link := other } (m.settle false)).2.tree = (op.run io m).2.tree

/-! ## One access -/

namespace Operation

variable {io : Io} {link : Bmc.Link} {op : Operation} {m m' : Machine} {fitted : Bool}

/-- An access that asks runs as if the answer had been known. -/
theorem run_settle (hlink : io.link = some link) (hasks : op.asks = true) (m : Machine) :
    op.run io m = op.run io (m.settle (io.answer m)) := by
  cases op with
  | read l => exact congrArg (Prod.map _ _) (Asking.read hlink hasks m)
  | readOptional l => exact congrArg (Prod.map _ _) (Asking.read? hlink hasks m)
  | readText l => exact congrArg (Prod.map _ _) (Asking.readText hlink hasks m)
  | write l v => exact congrArg (Prod.map _ _) (Asking.write hlink hasks m)
  | hasBmc => exact congrArg (Prod.map _ _) (Asking.hasBmc hlink m)

/-- An access that does not ask runs the same under every answer. -/
theorem run_indifferent (io : Io) (hasks : op.asks = false) (m : Machine) (answer : Option Bool) :
    op.run io { m with bmcFitted := answer } =
      ((op.run io m).1, { (op.run io m).2 with bmcFitted := answer }) := by
  cases op with
  | read l => exact congrArg (Prod.map _ _) (Indifferent.read hasks m answer)
  | readOptional l => exact congrArg (Prod.map _ _) (Indifferent.read? hasks m answer)
  | readText l => exact congrArg (Prod.map _ _) (Indifferent.readText hasks m answer)
  | write l v => exact congrArg (Prod.map _ _) (Indifferent.write hasks m answer)
  | hasBmc => cases hasks

theorem run_under (h : io.Answers m fitted) (op : Operation) :
    op.run io m = (op.under fitted).run io m := by
  cases op with
  | read l => exact congrArg (Prod.map _ _) (read_under h l)
  | readOptional l => exact congrArg (Prod.map _ _) (read?_under h l)
  | readText l => exact congrArg (Prod.map _ _) (readText_under h l)
  | write l v => exact congrArg (Prod.map _ _) (write_under h l v)
  | hasBmc => rfl

theorem run_detached (io : Io) (h : m.bmcFitted = some false) (other : Option Bmc.Link)
    (op : Operation) : op.run { io with link := other } m = op.run io m := by
  cases op with
  | read l => exact congrArg (Prod.map _ _) (read_detached io h other l)
  | readOptional l => exact congrArg (Prod.map _ _) (read?_detached io h other l)
  | readText l => exact congrArg (Prod.map _ _) (readText_detached io h other l)
  | write l v => exact congrArg (Prod.map _ _) (write_detached io h other l v)
  | hasBmc =>
    exact congrArg (Prod.map _ _) ((hasBmc_of_answers (answers_false _ h)).trans
      (hasBmc_of_answers (answers_false _ h)).symm)

/-- An answer that is known stays. -/
theorem run_known (h : m.bmcFitted = some fitted) : (op.run io m).2.bmcFitted = some fitted := by
  cases op with
  | read l => exact ((quiet_read l).within m (.refl _ _)).fitted fitted h
  | readOptional l => exact ((quiet_read? l).within m (.refl _ _)).fitted fitted h
  | readText l => exact ((quiet_readText l).within m (.refl _ _)).fitted fitted h
  | write l v => exact (within_write l v m (.refl _ _)).fitted fitted h
  | hasBmc =>
    have hkept : Within (fun _ => False) m.tree (io.hasBmc : Access Bool) := Within.hasBmc
    exact (hkept m (.refl _ _)).fitted fitted h

/-- An access to a sensor of a fitted controller touches the attribute of the sensor only. -/
theorem touchesOnly_sensor {dir : String} (hlink : io.link = some (.directory dir))
    (h : m.bmcFitted = some true) {sensor : Nat} {scale : Int32}
    (hl : op.locator? = some (.bmc sensor scale)) :
    io.TouchesOnly (Bmc.Link.sensorPath dir sensor) op m := by
  have hsettle := Machine.settle_of_known h
  cases op with
  | read l =>
    cases hl
    refine ⟨?_, fun m' same => ?_⟩
    · show SameBut _ m.tree (io.readBmc sensor scale m).2.tree
      rw [readBmc_of_fitted hlink h]
      exact .refl _ _
    · rw [hsettle] at same
      exact congrArg Outcome.value (readBmc_congr hlink scale same)
  | readOptional l =>
    cases hl
    have hrun (m : Machine) : io.read? (.bmc sensor scale) m =
        (orNone (io.readBmc sensor scale m).1, (io.readBmc sensor scale m).2) :=
      optional_eq _ m
    refine ⟨?_, fun m' same => ?_⟩
    · show SameBut _ m.tree (io.read? (.bmc sensor scale) m).2.tree
      rw [hrun, readBmc_of_fitted hlink h]
      exact .refl _ _
    · rw [hsettle] at same
      show Outcome.optional (io.read? (.bmc sensor scale) m').1 =
        .optional (io.read? (.bmc sensor scale) m).1
      rw [hrun, hrun, readBmc_congr hlink scale same]
  | readText l =>
    cases hl
    exact ⟨.refl _ _, fun m' _ => rfl⟩
  | write l v =>
    cases hl
    refine ⟨(within_sensor hlink sensor scale v m (.refl _ _)).tree, fun m' same => ?_⟩
    rw [hsettle] at same
    exact congrArg Outcome.done (writeBmc_congr hlink scale v same)
  | hasBmc => cases hl

end Operation

/-! ## A run -/

/-- Before an access, an answer is known, or nobody has asked, and asking now would give it. -/
def Ready (io : Io) (fitted : Bool) (op : Operation) (m : Machine) : Prop :=
  m.bmcFitted = some fitted ∨
    m.bmcFitted = none ∧ (op.asks = true → io.answer m = fitted)

variable {io : Io} {link : Bmc.Link} {fitted : Bool}

/-- From such a machine, an access runs as if the answer had been known. -/
theorem Ready.run_eq {op : Operation} {m : Machine} (hlink : io.link = some link)
    (ready : io.Ready fitted op m) :
    (op.run io (m.settle fitted)).1 = (op.run io m).1 ∧
      (op.run io (m.settle fitted)).2.tree = (op.run io m).2.tree ∧
      (op.run io m).2.bmcFitted = if op.asks then some fitted else m.bmcFitted := by
  rcases ready with known | ⟨unknown, hanswer⟩
  · rw [Machine.settle_of_known known, Operation.run_known known, known, ite_self]
    exact ⟨rfl, rfl, rfl⟩
  · cases hasks : op.asks with
    | true =>
      have hrun := op.run_settle hlink hasks m
      rw [hanswer hasks] at hrun
      rw [← hrun, if_pos rfl]
      refine ⟨rfl, rfl, ?_⟩
      rw [hrun]
      exact Operation.run_known rfl
    | false =>
      have hrun := op.run_indifferent io hasks m
      have hself : ({ m with bmcFitted := m.bmcFitted } : Machine) = m := rfl
      refine ⟨?_, ?_, ?_⟩
      · rw [Machine.settle, hrun]
      · rw [Machine.settle, hrun]
      · conv_lhs => rw [← hself, hrun]
        rfl

theorem Ready.dispatched {op : Operation} {m : Machine} (hlink : io.link = some link)
    (ready : io.Ready fitted op m) : io.Dispatched fitted op m := by
  obtain ⟨houtcome, htree, hsettled⟩ := ready.run_eq hlink
  have hknown : (m.settle fitted).bmcFitted = some fitted := rfl
  have hanswers : io.Answers (m.settle fitted) fitted := answers_of_known hlink hknown
  have hunder := Operation.run_under hanswers op
  refine { known := ?_, outcome := ?_, tree := ?_, settled := hsettled, answer := ?_, served := ?_,
           detached := ?_ }
  · exact ready.symm.imp_left And.left
  · rw [← houtcome, hunder]
  · rw [← htree, hunder]
  · rintro rfl
    rw [← houtcome]
    exact congrArg Outcome.fitted (congrArg Prod.fst (hasBmc_of_answers hanswers))
  · rintro rfl sensor scale dir hl hdir
    obtain ⟨changes, outcome⟩ := Operation.touchesOnly_sensor hdir hknown hl
    rw [← hunder, htree] at changes
    refine ⟨changes, fun m' same => ?_⟩
    rw [← houtcome, hunder, ← outcome m' same]
    exact congrArg Prod.fst (Operation.run_under (answers_of_known hlink same.fitted') op)
  · rintro rfl other
    rw [Operation.run_detached io hknown other]
    exact ⟨houtcome, htree⟩

theorem known_of_run {m : Machine} (known : m.bmcFitted = some fitted) (steps : List Step) :
    ∀ x ∈ io.moments m steps, x.2.bmcFitted = some fitted := by
  induction steps generalizing m with
  | nil => exact fun x hx => nomatch hx
  | cons step steps ih =>
    cases step with
    | access op =>
      intro x hx
      rcases List.mem_cons.1 hx with rfl | hx
      · exact known
      · exact ih (Operation.run_known known) x hx
    | outside t => exact ih known

/-- **Before each access of a run**, the answer on the tree of the first access that asks is known,
or nobody has asked yet and asking now would give it. -/
theorem ready_of_run (hlink : io.link = some link) {t : FileTree} {m : Machine}
    (fresh : m.bmcFitted = none) (steps : List Step)
    (first : ∀ x, (io.moments m steps).find? (·.1.asks) = some x → x.2.tree = t) :
    ∀ x ∈ io.moments m steps, io.Ready (Bmc.isFitted io.mode io.probe io.root t) x.1 x.2 := by
  induction steps generalizing m with
  | nil => exact fun x hx => nomatch hx
  | cons step steps ih =>
    cases step with
    | outside t' => exact ih fresh first
    | access op =>
      have hready : io.Ready (Bmc.isFitted io.mode io.probe io.root t) op m := by
        refine .inr ⟨fresh, fun hasks => ?_⟩
        have htree : m.tree = t := first (op, m) (List.find?_cons_of_pos hasks)
        rw [answer, fresh, htree]
        rfl
      have hsettled := (hready.run_eq hlink).2.2
      intro x hx
      rcases List.mem_cons.1 hx with rfl | hx
      · exact hready
      cases hasks : op.asks with
      | true =>
        rw [hasks, if_pos rfl] at hsettled
        exact .inl (known_of_run hsettled steps x hx)
      | false =>
        rw [hasks] at hsettled
        refine ih (hsettled.trans fresh) (fun x hx => first x ?_) x hx
        rw [← hx]
        exact List.find?_cons_of_neg (by simp [hasks])

/-- The answer on the tree of the first access that asks is decided as it should be. -/
theorem decided_isFitted {moments : List (Operation × Machine)} {t : FileTree}
    (first : ∀ x, moments.find? (·.1.asks) = some x → x.2.tree = t) :
    io.Decided (Bmc.isFitted io.mode io.probe io.root t) moments where
  present h := by
    unfold Bmc.isFitted
    rw [h]
  absent h := by
    unfold Bmc.isFitted
    rw [h]
  unprobed h hprobe := by
    unfold Bmc.isFitted
    rw [h, hprobe]
  probed probe x h hprobe hx := by
    unfold Bmc.isFitted
    rw [h, hprobe, first x hx]
    dsimp only
    cases io.root.readInt probe.path t with
    | ok v => simp
    | error e => simp

/-- **All accesses of a run go by one answer** to whether a controller is fitted, whatever happens
to the files in between. -/
theorem run_dispatched (io : Io) (link : Bmc.Link) (hlink : io.link = some link) (m : Machine)
    (fresh : m.bmcFitted = none) (steps : List Step) :
    ∃ fitted, io.Decided fitted (io.moments m steps) ∧
      ∀ x ∈ io.moments m steps, io.Dispatched fitted x.1 x.2 := by
  obtain ⟨t, first⟩ : ∃ t, ∀ x, (io.moments m steps).find? (·.1.asks) = some x → x.2.tree = t := by
    cases (io.moments m steps).find? (·.1.asks) with
    | none => exact ⟨m.tree, fun x hx => nomatch hx⟩
    | some x => exact ⟨x.2.tree, fun y hy => by cases hy; rfl⟩
  exact ⟨_, decided_isFitted first, fun x hx =>
    (ready_of_run hlink fresh steps first x hx).dispatched hlink⟩

/-- A controller that is probed for. -/
def probedIo : Io :=
  { root := ⟨"/"⟩, link := some (.directory "/bmc"), mode := .auto, probe := some ⟨"/fitted", 1⟩ }

/-- A fan that is driven through the controller, or else through one of two files. -/
def nestedFan : Locator :=
  .bmcOr 7 1 (.bmcOr 8 1 (.file "/fan"))

/-- A run that asks while the probe reads one, which it stops doing before the fan is driven. -/
def probedRun : List Step :=
  [.access (.read (.file "/fitted")), .access (.readText nestedFan),
    .outside (.dir [("fitted", .file [48]), ("bmc", .dir [("sensor7", .file [])])]),
    .access (.write nestedFan 60), .access .hasBmc]

theorem probedIo_run_dispatched :
    probedIo.link = some (.directory "/bmc") ∧
      ∃ fitted, probedIo.Decided fitted
          (probedIo.moments { tree := .dir [("fitted", .file [49])] } probedRun) ∧
        ∀ x ∈ probedIo.moments { tree := .dir [("fitted", .file [49])] } probedRun,
          probedIo.Dispatched fitted x.1 x.2 :=
  ⟨rfl, run_dispatched probedIo _ rfl _ rfl probedRun⟩

end SwitchPlatform.Io
