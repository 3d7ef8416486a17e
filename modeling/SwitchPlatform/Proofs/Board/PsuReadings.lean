import SwitchPlatform.Proofs.Board.FanReadings

/-!
# What power supplies report

A power supply that can be read is not there, or it is there and nothing else is known of it, or it
is unplugged, or it has failed. Only one that is there, with nothing else known, has its electrical
values read, each of them from an attribute of its own: what cannot be read is zero and without its
capability, and neither ends the reading nor touches the other values (`PsuEntry.Tells`).

`Board.psu_reading_tells` says so for what the locators of the supply read as on the course of its
reading, and on the machine itself if none of them is the export attribute. A supply fails to be
read only at one of its three flags (`PsuEntry.Answered`).
-/

namespace SwitchPlatform

open SwitchPlatform.Action

variable {io : Io} {id : Oid} {m n : Machine}

/-! ## Flags -/

/-- A flag reads as its active level. -/
def Signal.IsActive (io : Io) (m : Machine) (s : Signal) : Prop :=
  ∃ raw, (io.read s.locator m).1 = .ok raw ∧ (raw ≠ 0 ↔ s.activeLow = false)

/-- A flag reads as its other level. -/
def Signal.IsInactive (io : Io) (m : Machine) (s : Signal) : Prop :=
  ∃ raw, (io.read s.locator m).1 = .ok raw ∧ (raw ≠ 0 ↔ s.activeLow = true)

theorem asserted_iff_isActive {s : Signal} :
    (io.asserted s m).1 = .ok true ↔ s.IsActive io m := by
  rw [asserted_iff, Signal.IsActive]
  refine exists_congr fun raw => and_congr_right fun _ => ?_
  by_cases hraw : raw = 0 <;> cases s.activeLow <;> simp [hraw]

/-- A flag that is missing, or that there is none of, says nothing. -/
theorem deasserted_iff {s : Option Signal} :
    (io.deasserted s m).1 = .ok true ↔ ∃ s' ∈ s, s'.IsInactive io m := by
  cases s with
  | none => simp [Io.deasserted]
  | some s =>
    simp only [Option.mem_some_iff, exists_eq_left', Signal.IsInactive, ← read?_eq_some_iff]
    rw [Io.deasserted, bind_eq]
    rcases (io.read? s.locator m).1 with e | _ | raw
    · simp
    · simp
    · by_cases hraw : raw = 0 <;> cases s.activeLow <;> simp [hraw]

/-- A flag reads, or it is missing; anything else is an error. -/
def Signal.Answers (io : Io) (m : Machine) (s : Signal) : Prop :=
  ∃ raw, (io.read? s.locator m).1 = .ok raw

theorem exists_asserted_iff {s : Signal} :
    (∃ b, (io.asserted s m).1 = .ok b) ↔ s.Answers io m := by
  rw [Signal.Answers, Io.asserted, bind_eq]
  cases (io.read? s.locator m).1 <;> simp

theorem exists_deasserted_iff {s : Option Signal} :
    (∃ b, (io.deasserted s m).1 = .ok b) ↔ ∀ s' ∈ s, s'.Answers io m := by
  cases s with
  | none => simp [Io.deasserted]
  | some s =>
    simp only [Option.mem_some_iff, forall_eq', Signal.Answers]
    rw [Io.deasserted, bind_eq]
    cases (io.read? s.locator m).1 <;> simp

/-- A label is never an error. -/
theorem exists_label (io : Io) (l : Option Locator) (m : Machine) :
    ∃ text, (io.label l m).1 = .ok text := by
  cases l with
  | none => exact ⟨"", rfl⟩
  | some l =>
    rw [Io.label, bind_eq, attempt_apply]
    dsimp only
    cases (io.readText l m).1 with
    | ok text => exact ⟨text, rfl⟩
    | error e => exact ⟨"", rfl⟩

namespace PsuEntry

variable {entry : PsuEntry} {r : PsuReading} {device : String} {caps : PsuCaps}

/-! ## Electrical values -/

/-- The attribute of an electrical value reads as an integer. -/
def Electrical.Reads (io : Io) (device : String) (m : Machine) (q : Electrical) (raw : Int32) :
    Prop :=
  (io.read (.hwmon device q.attr) m).1 = .ok raw

/-- A reading has each electrical value whose attribute can be read, and zero for the others; to its
capabilities it adds those of the values that could be read. -/
structure Measures (io : Io) (device : String) (m : Machine) (caps : PsuCaps) (r : PsuReading) :
    Prop where
  read : ∀ q ∈ electricals, ∀ raw, q.Reads io device m raw →
    (q.value r).toInt = raw.toInt.tdiv q.divisor
  unread : ∀ q ∈ electricals, (∀ raw, ¬q.Reads io device m raw) → q.value r = 0
  caps : ∀ place, r.caps.holds place = true ↔ caps.holds place = true ∨
    ∃ q ∈ electricals, q.cap.holds place = true ∧ ∃ raw, q.Reads io device m raw

/-- A reading has no electrical values. -/
def Idle (caps : PsuCaps) (r : PsuReading) : Prop :=
  r.caps = caps ∧ ∀ q ∈ electricals, q.value r = 0

theorem Measures.congr (h : Measures io device m caps r)
    (same : ∀ l ∈ electricalLocators device, (io.read l n).1 = (io.read l m).1) :
    Measures io device n caps r := by
  have hreads : ∀ q ∈ electricals, ∀ raw, q.Reads io device n raw ↔ q.Reads io device m raw := by
    intro q hq raw
    rw [Electrical.Reads, Electrical.Reads, same _ (List.mem_map_of_mem hq)]
  refine ⟨fun q hq raw hraw => ?_, fun q hq hnone => ?_, fun place => ?_⟩
  · exact h.read q hq raw ((hreads q hq raw).1 hraw)
  · exact h.unread q hq fun raw hraw => hnone raw ((hreads q hq raw).2 hraw)
  · rw [h.caps place]
    refine or_congr_right (exists_congr fun q => and_congr_right fun hq => ?_)
    exact and_congr_right fun _ => exists_congr fun raw => (hreads q hq raw).symm

namespace Electrical

variable {q : Electrical}

/-- What the attribute of an electrical value makes of the value and of its capability. -/
def measured (io : Io) (device : String) (m : Machine) (q : Electrical) : Int32 × PsuCaps :=
  match (io.readHwmon device q.attr m).1 with
  | .ok raw => (Int32.ofInt (raw.toInt.tdiv q.divisor), q.cap)
  | .error _ => (0, .empty)

theorem readValue_eq (io : Io) (device : String) (m : Machine) (q : Electrical) :
    readValue io device q.attr q.cap q.divisor m = (.ok (q.measured io device m), m) := by
  rw [readValue, bind_eq, attempt_apply, readHwmon_unchanged]
  unfold measured
  dsimp only
  cases (io.readHwmon device q.attr m).1 with
  | ok raw => rfl
  | error e => rfl

theorem measured_of_reads {raw : Int32} (h : q.Reads io device m raw) :
    q.measured io device m = (Int32.ofInt (raw.toInt.tdiv q.divisor), q.cap) := by
  rw [Reads, Io.read] at h
  unfold measured
  rw [h]

theorem measured_of_unread (h : ∀ raw, ¬q.Reads io device m raw) :
    q.measured io device m = (0, .empty) := by
  unfold measured
  cases hraw : (io.readHwmon device q.attr m).1 with
  | ok raw => exact absurd hraw (h raw)
  | error e => rfl

theorem divisor_pos : ∀ q ∈ electricals, 0 < q.divisor := by
  simp [electricals]

/-- A quotient of a value is a value. -/
theorem toInt_measured (hq : q ∈ electricals) {raw : Int32} (h : q.Reads io device m raw) :
    (q.measured io device m).1.toInt = raw.toInt.tdiv q.divisor := by
  have hlow := raw.le_toInt
  have hhigh := raw.toInt_lt
  have hle : (raw.toInt.tdiv q.divisor).natAbs ≤ raw.toInt.natAbs := by
    rw [Int.natAbs_tdiv]
    exact Nat.div_le_self _ _
  -- a quotient of the least value is not the first number that is too large
  have hsign : raw.toInt ≤ 0 → raw.toInt.tdiv q.divisor ≤ 0 := by
    intro hraw
    have hneg := Int.tdiv_nonneg (Int.neg_nonneg_of_nonpos hraw) (divisor_pos q hq).le
    rw [Int.neg_tdiv] at hneg
    omega
  rw [measured_of_reads h]
  exact Int32.toInt_ofInt_of_le (by omega) (by omega)

theorem holds_measured {place : Nat} :
    (q.measured io device m).2.holds place = true ↔
      q.cap.holds place = true ∧ ∃ raw, q.Reads io device m raw := by
  by_cases hread : ∃ raw, q.Reads io device m raw
  · obtain ⟨raw, hraw⟩ := hread
    rw [measured_of_reads hraw]
    exact (and_iff_left ⟨raw, hraw⟩).symm
  · rw [measured_of_unread (not_exists.1 hread), Flags.holds_empty]
    simp [hread]

end Electrical

/-- A reading with what each attribute makes of its value. -/
def withValues (r : PsuReading) (measured : Electrical → Int32 × PsuCaps) : PsuReading :=
  let vin := measured ⟨"in1_input", PsuCaps.vin, 1, PsuReading.mvin⟩
  let vout := measured ⟨"in2_input", PsuCaps.vout, 1, PsuReading.mvout⟩
  let iin := measured ⟨"curr1_input", PsuCaps.iin, 1, PsuReading.miin⟩
  let iout := measured ⟨"curr2_input", PsuCaps.iout, 1, PsuReading.miout⟩
  let pin := measured ⟨"power1_input", PsuCaps.pin, 1000, PsuReading.mpin⟩
  let pout := measured ⟨"power2_input", PsuCaps.pout, 1000, PsuReading.mpout⟩
  { r with
    caps := r.caps ||| (vin.2 ||| vout.2 ||| iin.2 ||| iout.2 ||| pin.2 ||| pout.2)
    mvin := vin.1, mvout := vout.1, miin := iin.1, miout := iout.1, mpin := pin.1, mpout := pout.1 }

theorem value_withValues (r : PsuReading) (measured : Electrical → Int32 × PsuCaps) :
    ∀ q ∈ electricals, q.value (withValues r measured) = (measured q).1 := by
  simp only [electricals, List.forall_mem_cons, List.not_mem_nil, false_imp_iff, implies_true,
    and_true]
  exact ⟨rfl, rfl, rfl, rfl, rfl, rfl⟩

theorem holds_withValues (r : PsuReading) (measured : Electrical → Int32 × PsuCaps) (place : Nat) :
    (withValues r measured).caps.holds place = true ↔ r.caps.holds place = true ∨
      ∃ q ∈ electricals, (measured q).2.holds place = true := by
  simp only [withValues, electricals, Flags.holds_union, Bool.or_eq_true_iff,
    List.exists_mem_cons_iff, List.not_mem_nil, false_and, exists_false, or_false, or_assoc]

/-- Reading the electrical values takes what each attribute makes of its value, one after the
other. -/
theorem readValues_eq {measured : Electrical → Int32 × PsuCaps}
    (h : ∀ q, readValue io device q.attr q.cap q.divisor m = (.ok (measured q), m))
    (r : PsuReading) : readValues io device r m = (.ok (withValues r measured), m) := by
  have hvalue : ∀ (q : Electrical) (f : Int32 × PsuCaps → Access PsuReading),
      (readValue io device q.attr q.cap q.divisor >>= f) m = f (measured q) m :=
    fun q f => bind_ok (h q)
  rw [readValues]
  refine (hvalue ⟨"in1_input", PsuCaps.vin, 1, PsuReading.mvin⟩ _).trans ?_
  refine (hvalue ⟨"in2_input", PsuCaps.vout, 1, PsuReading.mvout⟩ _).trans ?_
  refine (hvalue ⟨"curr1_input", PsuCaps.iin, 1, PsuReading.miin⟩ _).trans ?_
  refine (hvalue ⟨"curr2_input", PsuCaps.iout, 1, PsuReading.miout⟩ _).trans ?_
  refine (hvalue ⟨"power1_input", PsuCaps.pin, 1000, PsuReading.mpin⟩ _).trans ?_
  refine (hvalue ⟨"power2_input", PsuCaps.pout, 1000, PsuReading.mpout⟩ _).trans ?_
  rfl

/-- **The electrical values are read from their attributes, one by one**, and the machine stays as
it is. -/
theorem measures_readValues (io : Io) (device : String) (m : Machine) (r : PsuReading) :
    ∃ r', readValues io device r m = (.ok r', m) ∧ r'.status = r.status ∧
      Measures io device m r.caps r' := by
  refine ⟨_, readValues_eq (Electrical.readValue_eq io device m) r, rfl, fun q hq raw hraw => ?_,
    fun q hq hnone => ?_, fun place => ?_⟩
  · rw [value_withValues r _ q hq, Electrical.toInt_measured hq hraw]
  · rw [value_withValues r _ q hq, Electrical.measured_of_unread hnone]
  · simp only [holds_withValues, Electrical.holds_measured]

/-! ## The course of a reading -/

/-- The machines on which the reading of a power supply asks, one after the other, for its presence,
for its input and for its power, reads its two labels, and then its electrical values. -/
structure Course where
  presence : Machine
  inputGood : Machine
  powerGood : Machine
  model : Machine
  serial : Machine
  values : Machine

/-- The course of a reading that starts on a machine: each question leaves the machine for the next
one. -/
def course (entry : PsuEntry) (io : Io) (m : Machine) : Course :=
  let inputGood := (io.asserted entry.present m).2
  let powerGood := (io.deasserted entry.inputGood inputGood).2
  let model := (io.deasserted entry.powerGood powerGood).2
  let serial := (io.label entry.model model).2
  { presence := m, inputGood := inputGood, powerGood := powerGood, model := model, serial := serial
    values := (io.label entry.serial serial).2 }

/-- The course that stays on one machine. -/
def Course.still (m : Machine) : Course :=
  { presence := m, inputGood := m, powerGood := m, model := m, serial := m, values := m }

/-- How the reading of a power supply ends well, and on which machine: the supply is not there, or
it is not read any further, or its electrical values are read as well. -/
inductive Seen (entry : PsuEntry) (io : Io) (c : Course) : PsuReading → Machine → Prop
  | absent {r : PsuReading} (hpresent : (io.asserted entry.present c.presence).1 = .ok false)
      (hstatus : r.status = .empty) (idle : Idle entry.caps r) : Seen entry io c r c.inputGood
  | idle {r : PsuReading} {unplugged failed : Bool}
      (hpresent : (io.asserted entry.present c.presence).1 = .ok true)
      (hunplugged : (io.deasserted entry.inputGood c.inputGood).1 = .ok unplugged)
      (hfailed : (io.deasserted entry.powerGood c.powerGood).1 = .ok failed)
      (hidle : entry.pmbus = none ∨ statusOf unplugged failed ≠ PsuStatus.present)
      (hstatus : r.status = statusOf unplugged failed) (idle : Idle entry.caps r) :
      Seen entry io c r c.values
  | measured {r : PsuReading} {device : String} {unplugged failed : Bool}
      (hpresent : (io.asserted entry.present c.presence).1 = .ok true)
      (hunplugged : (io.deasserted entry.inputGood c.inputGood).1 = .ok unplugged)
      (hfailed : (io.deasserted entry.powerGood c.powerGood).1 = .ok failed)
      (hdevice : entry.pmbus = some device)
      (hhealthy : statusOf unplugged failed = PsuStatus.present)
      (hstatus : r.status = statusOf unplugged failed)
      (measures : Measures io device c.values entry.caps r) : Seen entry io c r c.values

/-- What comes after the labels of a supply: its electrical values, if they are read. -/
def finish (entry : PsuEntry) (io : Io) (r : PsuReading) : Access PsuReading :=
  match entry.pmbus with
  | none => pure r
  | some device => if r.isHealthy then readValues io device r else pure r

theorem readPresent_eq (entry : PsuEntry) (io : Io) (id : Oid) :
    entry.readPresent io id = (do
      let unplugged ← io.deasserted entry.inputGood
      let failed ← io.deasserted entry.powerGood
      let model ← io.label entry.model
      let serial ← io.label entry.serial
      entry.finish io
        { header := entry.header id, model := model, serial := serial
          status := statusOf unplugged failed, caps := entry.caps }) := rfl

/-- The electrical values cannot fail a reading, and reading them changes nothing. -/
theorem finish_eq (entry : PsuEntry) (io : Io) (m : Machine) (r : PsuReading) :
    ∃ r', entry.finish io r m = (.ok r', m) ∧
      ((entry.pmbus = none ∨ r.status ≠ PsuStatus.present) ∧ r' = r ∨
        ∃ device, entry.pmbus = some device ∧ r.status = PsuStatus.present ∧
          r'.status = r.status ∧ Measures io device m r.caps r') := by
  rw [finish]
  cases hdevice : entry.pmbus with
  | none => exact ⟨r, rfl, .inl ⟨.inl rfl, rfl⟩⟩
  | some device =>
    dsimp only
    split_ifs with hhealthy
    · obtain ⟨r', hrun, hstatus, measures⟩ := measures_readValues io device m r
      exact ⟨r', hrun, .inr ⟨device, rfl, beq_iff_eq.1 hhealthy, hstatus, measures⟩⟩
    · exact ⟨r, rfl, .inl ⟨.inr fun hstatus => hhealthy (beq_iff_eq.2 hstatus), rfl⟩⟩

theorem seen_of_read (h : (entry.read io id m).1 = .ok r) :
    entry.Seen io (entry.course io m) r (entry.read io id m).2 := by
  rw [read] at h ⊢
  obtain ⟨present, hpresent, h⟩ := ok_of_bind h
  rw [bind_of_ok hpresent]
  cases present with
  | false =>
    cases h
    exact .absent hpresent rfl ⟨rfl, by simp [electricals]⟩
  | true =>
    simp only [if_true] at h ⊢
    rw [readPresent_eq] at h ⊢
    obtain ⟨unplugged, hunplugged, h⟩ := ok_of_bind h
    rw [bind_of_ok hunplugged]
    obtain ⟨failed, hfailed, h⟩ := ok_of_bind h
    rw [bind_of_ok hfailed]
    obtain ⟨model, hmodel, h⟩ := ok_of_bind h
    rw [bind_of_ok hmodel]
    obtain ⟨serial, hserial, h⟩ := ok_of_bind h
    rw [bind_of_ok hserial]
    obtain ⟨r', hrun, hlast⟩ := entry.finish_eq io (entry.course io m).values
      { header := entry.header id, model := model, serial := serial
        status := statusOf unplugged failed, caps := entry.caps }
    obtain rfl : r' = r := Except.ok.inj ((congrArg Prod.fst hrun).symm.trans h)
    have hend := congrArg Prod.snd hrun
    refine Eq.subst (motive := entry.Seen io _ r') hend.symm ?_
    rcases hlast with ⟨hidle, rfl⟩ | ⟨device, hdevice, hhealthy, hstatus, measures⟩
    · exact .idle hpresent hunplugged hfailed hidle rfl ⟨rfl, by simp [electricals]⟩
    · exact .measured hpresent hunplugged hfailed hdevice hhealthy hstatus measures

/-! ## What a reading tells -/

/-- What the reading of a power supply says of what its locators read as on a course. -/
structure Tells (entry : PsuEntry) (io : Io) (c : Course) (r : PsuReading) : Prop where
  status : r.status = .empty ∨ r.status = PsuStatus.present ∨
    r.status = PsuStatus.present ||| PsuStatus.unplugged ∨
    r.status = PsuStatus.present ||| PsuStatus.failed
  present : r.status.has PsuStatus.present = true ↔ entry.present.IsActive io c.presence
  unplugged : r.status.has PsuStatus.unplugged = true ↔
    r.status.has PsuStatus.present = true ∧ ∃ s ∈ entry.inputGood, s.IsInactive io c.inputGood
  failed : r.status.has PsuStatus.failed = true ↔
    r.status.has PsuStatus.present = true ∧ r.status.has PsuStatus.unplugged = false ∧
      ∃ s ∈ entry.powerGood, s.IsInactive io c.powerGood
  idle : r.status ≠ PsuStatus.present ∨ entry.pmbus = none → Idle entry.caps r
  measured : r.status = PsuStatus.present → ∀ device ∈ entry.pmbus,
    Measures io device c.values entry.caps r

/-- The flags of a status. -/
theorem flags_statusOf (unplugged failed : Bool) :
    (statusOf unplugged failed).has PsuStatus.present = true ∧
      (statusOf unplugged failed).has PsuStatus.unplugged = unplugged ∧
      (statusOf unplugged failed).has PsuStatus.failed = (!unplugged && failed) := by
  cases unplugged <;> cases failed <;> decide

theorem statusOf_mem (unplugged failed : Bool) :
    statusOf unplugged failed = PsuStatus.present ∨
      statusOf unplugged failed = PsuStatus.present ||| PsuStatus.unplugged ∨
      statusOf unplugged failed = PsuStatus.present ||| PsuStatus.failed := by
  cases unplugged <;> cases failed <;> decide

/-- The status of a supply that is there tells its flags. -/
theorem tells_statusOf {c : Course} {unplugged failed : Bool}
    (hpresent : (io.asserted entry.present c.presence).1 = .ok true)
    (hunplugged : (io.deasserted entry.inputGood c.inputGood).1 = .ok unplugged)
    (hfailed : (io.deasserted entry.powerGood c.powerGood).1 = .ok failed)
    (hstatus : r.status = statusOf unplugged failed)
    (idle : r.status ≠ PsuStatus.present ∨ entry.pmbus = none → Idle entry.caps r)
    (measured : r.status = PsuStatus.present → ∀ device ∈ entry.pmbus,
      Measures io device c.values entry.caps r) : entry.Tells io c r := by
  obtain ⟨hflag, hunpluggedFlag, hfailedFlag⟩ := flags_statusOf unplugged failed
  refine ⟨.inr (hstatus ▸ statusOf_mem _ _), ?_, ?_, ?_, idle, measured⟩
  · rw [hstatus, ← asserted_iff_isActive, hpresent]
    exact iff_of_true hflag rfl
  · rw [hstatus, hflag, hunpluggedFlag, ← deasserted_iff, hunplugged]
    simp
  · rw [hstatus, hflag, hunpluggedFlag, hfailedFlag, ← deasserted_iff, hfailed]
    simp

theorem Seen.tells {c : Course} (seen : entry.Seen io c r n) : entry.Tells io c r := by
  cases seen with
  | absent hpresent hstatus idle =>
    have hflags : (Flags.empty : PsuStatus).has PsuStatus.present = false ∧
        (Flags.empty : PsuStatus).has PsuStatus.unplugged = false ∧
        (Flags.empty : PsuStatus).has PsuStatus.failed = false := by decide
    refine ⟨.inl hstatus, ?_, ?_, ?_, fun _ => idle, fun h => ?_⟩
    · rw [hstatus, hflags.1, ← asserted_iff_isActive, hpresent]
      simp
    · simp [hstatus, hflags]
    · simp [hstatus, hflags]
    · rw [hstatus] at h
      exact absurd h (by decide)
  | idle hpresent hunplugged hfailed hidle hstatus idle =>
    refine tells_statusOf hpresent hunplugged hfailed hstatus (fun _ => idle) ?_
    intro h device hdevice
    rw [Option.mem_def] at hdevice
    rcases hidle with hnone | hunhealthy
    · cases hnone.symm.trans hdevice
    · exact absurd (hstatus.symm.trans h) hunhealthy
  | measured hpresent hunplugged hfailed hdevice hhealthy hstatus measures =>
    refine tells_statusOf hpresent hunplugged hfailed hstatus (fun h => ?_) fun _ device h => ?_
    · rcases h with hunhealthy | hnone
      · exact absurd (hstatus.trans hhealthy) hunhealthy
      · cases hnone.symm.trans hdevice
    · obtain rfl := Option.some.inj (hdevice.symm.trans h)
      exact measures

/-! ## On the course of a reading -/

/-- Every machine of a course is one up to the export attribute. -/
structure Course.ExportOnly (root : Root) (t : FileTree) (c : Course) : Prop where
  presence : root.ExportOnly t c.presence.tree
  inputGood : root.ExportOnly t c.inputGood.tree
  powerGood : root.ExportOnly t c.powerGood.tree
  model : root.ExportOnly t c.model.tree
  serial : root.ExportOnly t c.serial.tree
  values : root.ExportOnly t c.values.tree

/-- A reading only exports lines on its course. -/
theorem exportOnly_course (entry : PsuEntry) (io : Io) (m : Machine) :
    (entry.course io m).ExportOnly io.root m.tree := by
  have hpresence : io.root.ExportOnly m.tree m.tree := .refl _ _
  have hinputGood := ((quiet_asserted entry.present).within _ hpresence).tree
  have hpowerGood := ((quiet_deasserted entry.inputGood).within _ hinputGood).tree
  have hmodel := ((quiet_deasserted entry.powerGood).within _ hpowerGood).tree
  have hserial := ((quiet_label entry.model).within _ hmodel).tree
  exact ⟨hpresence, hinputGood, hpowerGood, hmodel, hserial,
    ((quiet_label entry.serial).within _ hserial).tree⟩

/-- The flags of a supply that is there are, on the machine before the reading, those on its
course. -/
theorem flags_still {answer : Option Bool} (spared : entry.Spared io m.tree)
    (settled : (entry.course io m).values.Settled answer) :
    (io.asserted entry.present { m with bmcFitted := answer }).1 =
        (io.asserted entry.present m).1 ∧
      (io.deasserted entry.inputGood { m with bmcFitted := answer }).1 =
        (io.deasserted entry.inputGood (entry.course io m).inputGood).1 ∧
      (io.deasserted entry.powerGood { m with bmcFitted := answer }).1 =
        (io.deasserted entry.powerGood (entry.course io m).powerGood).1 := by
  have along := entry.exportOnly_course io m
  have hstill : io.root.ExportOnly m.tree m.tree := .refl _ _
  -- what is settled at the end was settled after each question at most
  have hserial := ((quiet_label entry.serial).within _ along.serial).settled settled
  have hmodel := ((quiet_label entry.model).within _ along.model).settled hserial
  have hpower := ((quiet_deasserted entry.powerGood).within _ along.powerGood).settled hmodel
  have hinput := ((quiet_deasserted entry.inputGood).within _ along.inputGood).settled hpower
  refine ⟨?_, ?_, ?_⟩
  · exact (quiet_asserted _).same spared.presence _ m hstill hstill hinput
  · exact (quiet_deasserted _).same spared.inputGood _ _ hstill along.inputGood hpower
  · exact (quiet_deasserted _).same spared.powerGood _ _ hstill along.powerGood hmodel

/-- **A power supply is seen as it is before the reading**, once it is settled whether a controller
is fitted, if no locator of the supply is the export attribute. -/
theorem seen_still (h : (entry.read io id m).1 = .ok r) (spared : entry.Spared io m.tree) :
    ∃ n, entry.Seen io (.still { m with bmcFitted := (entry.read io id m).2.bmcFitted }) r n := by
  have hstill : io.root.ExportOnly m.tree m.tree := .refl _ _
  have seen := seen_of_read h
  have settled : (entry.read io id m).2.Settled (entry.read io id m).2.bmcFitted := .inr rfl
  generalize (entry.read io id m).2.bmcFitted = answer at settled ⊢
  generalize (entry.read io id m).2 = last at settled seen
  cases seen with
  | absent hpresent hstatus idle =>
    refine ⟨_, .absent (Eq.trans ?_ hpresent) hstatus idle⟩
    exact (quiet_asserted entry.present).same spared.presence _ m hstill hstill settled
  | idle hpresent hunplugged hfailed hidle hstatus idle =>
    obtain ⟨hpresent', hunplugged', hfailed'⟩ := flags_still spared settled
    exact ⟨_, .idle (hpresent'.trans hpresent) (hunplugged'.trans hunplugged)
      (hfailed'.trans hfailed) hidle hstatus idle⟩
  | measured hpresent hunplugged hfailed hdevice hhealthy hstatus measures =>
    obtain ⟨hpresent', hunplugged', hfailed'⟩ := flags_still spared settled
    refine ⟨_, .measured (hpresent'.trans hpresent) (hunplugged'.trans hunplugged)
      (hfailed'.trans hfailed) hdevice hhealthy hstatus (measures.congr fun l hl => ?_)⟩
    have hspared := spared.electrical hdevice l hl
    obtain ⟨q, -, rfl⟩ := List.mem_map.1 hl
    refine (quiet_readHwmon _ _).same hspared _ _ hstill (entry.exportOnly_course io m).values ?_
    rw [readHwmon_unchanged]
    exact settled

/-! ## When a power supply can be read -/

/-- A question whose answer is an error ends the reading: the presence flag has to read or to be
missing, and so have the other two if the supply is there. -/
structure Answered (entry : PsuEntry) (io : Io) (c : Course) : Prop where
  presence : entry.present.Answers io c.presence
  inputGood : entry.present.IsActive io c.presence →
    ∀ s ∈ entry.inputGood, s.Answers io c.inputGood
  powerGood : entry.present.IsActive io c.presence →
    ∀ s ∈ entry.powerGood, s.Answers io c.powerGood

/-- **A power supply can be read if its flags answer**, whatever there is of its labels and of its
electrical values. -/
theorem exists_read_iff (entry : PsuEntry) (io : Io) (id : Oid) (m : Machine) :
    (∃ r, (entry.read io id m).1 = .ok r) ↔ entry.Answered io (entry.course io m) := by
  constructor
  · rintro ⟨r, h⟩
    have seen := seen_of_read h
    generalize (entry.read io id m).2 = last at seen
    rcases seen with ⟨hpresent⟩ | ⟨hpresent, hunplugged, hfailed⟩ |
      ⟨hpresent, hunplugged, hfailed⟩
    · have hinactive : ¬entry.present.IsActive io (entry.course io m).presence := by
        rw [← asserted_iff_isActive, hpresent]
        simp
      exact ⟨exists_asserted_iff.1 ⟨_, hpresent⟩, (absurd · hinactive), (absurd · hinactive)⟩
    all_goals exact ⟨exists_asserted_iff.1 ⟨_, hpresent⟩,
      fun _ => exists_deasserted_iff.1 ⟨_, hunplugged⟩,
      fun _ => exists_deasserted_iff.1 ⟨_, hfailed⟩⟩
  · intro h
    obtain ⟨present, hpresent⟩ := exists_asserted_iff.2 h.presence
    cases present with
    | false => exact ⟨_, congrArg Prod.fst (bind_of_ok hpresent)⟩
    | true =>
      have active := asserted_iff_isActive.1 hpresent
      obtain ⟨unplugged, hunplugged⟩ := exists_deasserted_iff.2 (h.inputGood active)
      obtain ⟨failed, hfailed⟩ := exists_deasserted_iff.2 (h.powerGood active)
      obtain ⟨model, hmodel⟩ := exists_label io entry.model (entry.course io m).model
      obtain ⟨serial, hserial⟩ := exists_label io entry.serial (entry.course io m).serial
      obtain ⟨r, hrun, -⟩ := entry.finish_eq io (entry.course io m).values
        { header := entry.header id, model := model, serial := serial
          status := statusOf unplugged failed, caps := entry.caps }
      refine ⟨r, ?_⟩
      refine (congrArg Prod.fst (bind_of_ok hpresent)).trans ?_
      refine (congrArg Prod.fst (bind_of_ok hunplugged)).trans ?_
      refine (congrArg Prod.fst (bind_of_ok hfailed)).trans ?_
      refine (congrArg Prod.fst (bind_of_ok hmodel)).trans ?_
      refine (congrArg Prod.fst (bind_of_ok hserial)).trans ?_
      exact congrArg Prod.fst hrun

end PsuEntry

/-! ## Power supplies of a board -/

namespace Board

variable {b : Board} {r : PsuReading}

/-- What is read as a power supply has an entry. -/
theorem exists_of_psu_read (h : ((b.platform io).psu.read id m).1 = .ok r) :
    ∃ e, lookup? .psu b.psus id = some e := by
  obtain ⟨e, hfind, -⟩ := ok_of_bind h
  exact ⟨e, lookup_of_find hfind⟩

/-- **What the reading of a power supply tells**, and when there is one. -/
theorem psu_reading_tells (h : ((b.platform io).psu.read id m).1 = .ok r) :
    ∃ e, lookup? .psu b.psus id = some e ∧ e.Tells io (e.course io m) r ∧
      (e.course io m).ExportOnly io.root m.tree ∧
      (e.Spared io m.tree → e.Tells io
        (.still { m with bmcFitted := ((b.platform io).psu.read id m).2.bmcFitted }) r) ∧
      ∀ m', (∃ r', ((b.platform io).psu.read id m').1 = .ok r') ↔
        e.Answered io (e.course io m') := by
  obtain ⟨e, he⟩ := exists_of_psu_read h
  have hsame : (b.platform io).psu.read id = e.read io id := psu_read_eq he
  rw [hsame] at h ⊢
  refine ⟨e, he, (PsuEntry.seen_of_read h).tells, e.exportOnly_course io m, fun spared => ?_,
    e.exists_read_iff io id⟩
  obtain ⟨n, seen⟩ := PsuEntry.seen_still h spared
  exact seen.tells

/-- A power supply with a presence flag that is active low, two more flags and a device. -/
def bayPsu : PsuEntry :=
  { description := "PSU 1", present := ⟨.file "/present", true⟩
    inputGood := some ⟨.file "/input_good", false⟩, powerGood := some ⟨.file "/power_good", false⟩
    caps := PsuCaps.ac, pmbus := some "/psu" }

/-- A board with that power supply. -/
def bayBoard : Board :=
  { name := "bay"
    psus := [bayPsu]
    ports := { count := 0, present := .gpio [] false, eepromBus := [], eeprom := ⟨""⟩ } }

/-- That supply has its input voltage and a negative power read; the line that tells whether its
output is good is missing, and so are the attributes of other values, or there is no number in
them. -/
theorem bayBoard_reading_tells :
    let m : Machine := { tree := .dir [("present", .file (Text.Utf8.encode "0")),
      ("input_good", .file (Text.Utf8.encode "1")),
      ("psu", .dir [("hwmon", .dir [("hwmon3", .dir [
        ("in1_input", .file (Text.Utf8.encode "12000")),
        ("in2_input", .file (Text.Utf8.encode "none")),
        ("power1_input", .file (Text.Utf8.encode "-1999"))])])])] }
    let io := bayBoard.io ⟨"/"⟩ .auto
    ∃ r, ((bayBoard.platform io).psu.read (.psu 1) m).1 = .ok r ∧ r.status = PsuStatus.present ∧
      r.mvin = 12000 ∧ r.mvout = 0 ∧ r.mpin = -1 ∧
      r.caps = PsuCaps.ac ||| PsuCaps.vin ||| PsuCaps.pin ∧
      bayPsu.Tells io (bayPsu.course io m) r ∧ bayPsu.Tells io (.still m) r := by
  intro m io
  let r : PsuReading :=
    { header := { id := .psu 1, description := "PSU 1", parent := .chassis }
      status := PsuStatus.present, caps := PsuCaps.ac ||| PsuCaps.vin ||| PsuCaps.pin
      mvin := 12000, mpin := -1 }
  have hread : ((bayBoard.platform io).psu.read (.psu 1) m).1 = .ok r := by decide +kernel
  have hfitted : ((bayBoard.platform io).psu.read (.psu 1) m).2.bmcFitted = none := by
    decide +kernel
  have hpaths : ∀ q ∈ PsuEntry.electricals, Hwmon.attributePath io.root "/psu" q.attr m.tree =
      .ok ("/psu/hwmon/hwmon3/" ++ q.attr) ∧
      Path.names ("/psu/hwmon/hwmon3/" ++ q.attr) ≠ Path.names Gpio.exportPath := by
    decide +kernel
  obtain ⟨e, he, tells, -, still, -⟩ := psu_reading_tells hread
  obtain rfl : bayPsu = e := Option.some.inj he
  rw [hfitted] at still
  refine ⟨r, hread, rfl, rfl, rfl, rfl, rfl, tells, still fun l hl => ?_⟩
  rcases List.mem_append.1 hl with hflag | hvalue
  · exact spares_of_isPlain (List.all_eq_true.1 (by decide) l hflag)
  · obtain ⟨device, hdevice, hvalue⟩ := List.mem_flatMap.1 hvalue
    obtain rfl : device = "/psu" := List.mem_singleton.1 hdevice
    obtain ⟨q, hq, rfl⟩ := List.mem_map.1 hvalue
    obtain ⟨hpath, hnames⟩ := hpaths q hq
    intro path names
    cases names with
    | hwmon found =>
      cases hpath.symm.trans found
      exact hnames

end Board
end SwitchPlatform
