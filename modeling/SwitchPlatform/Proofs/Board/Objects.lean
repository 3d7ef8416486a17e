import SwitchPlatform.Board.Platform
import SwitchPlatform.Proofs.Board.Valid
import SwitchPlatform.Proofs.Walk

/-!
# The objects of a board

The headers of a board do not depend on its state: `Board.headerOf` is the header of an id by the
tables alone, and there is one exactly for the ids that `Board.holds` (`headerOf_eq_ok_iff`). On a
valid board every object is reached from the chassis, so a walk lists exactly the objects of the
board, each once and with its own header (`Valid.walk`).
-/

namespace SwitchPlatform.Board

open Walk

/-! ## Ids and tables -/

theorem oid_of_lt {kind : Oid.Kind} {i : Nat} (h : i < Oid.maxIndex) :
    oid kind i = ⟨kind, i + 1, Nat.succ_pos i, h⟩ := by
  have hmod : i % UInt32.size = i := Nat.mod_eq_of_lt (by simp [UInt32.size, Oid.maxIndex] at *; omega)
  simp only [oid, Oid.make, hmod]
  rw [dif_pos ⟨Nat.succ_pos i, h⟩]

theorem oid_index (id : Oid) : oid id.kind (id.index - 1) = id := by
  have hpos := id.index_pos
  have hle := id.index_le
  rw [oid_of_lt (by omega)]
  obtain ⟨kind, index, _, _⟩ := id
  simp only [Oid.mk.injEq, true_and]
  omega

theorem lookup?_eq_some_iff {α : Type} {kind : Oid.Kind} {table : List α} {id : Oid} {a : α} :
    lookup? kind table id = some a ↔ id.kind = kind ∧ table[id.index - 1]? = some a := by
  unfold lookup?
  by_cases h : id.kind = kind <;> simp [h]

theorem mem_of_lookup? {α : Type} {kind : Oid.Kind} {table : List α} {id : Oid} {a : α}
    (h : lookup? kind table id = some a) : a ∈ table :=
  List.mem_of_getElem? (lookup?_eq_some_iff.1 h).2

theorem lookup?_oid {α : Type} {kind : Oid.Kind} {table : List α} {i : Nat}
    (h : i < Oid.maxIndex) : lookup? kind table (oid kind i) = table[i]? := by
  rw [oid_of_lt h]
  simp [lookup?]

/-- A table has an entry for an id up to its length. -/
theorem exists_lookup?_iff {α : Type} {kind : Oid.Kind} {table : List α} {id : Oid} :
    (∃ a, lookup? kind table id = some a) ↔ id.kind = kind ∧ id.index ≤ table.length := by
  have hpos := id.index_pos
  simp only [lookup?_eq_some_iff, exists_and_left, List.getElem?_eq_some_iff]
  constructor
  · rintro ⟨hk, a, hlt, -⟩
    exact ⟨hk, by omega⟩
  · rintro ⟨hk, hle⟩
    exact ⟨hk, _, by omega, rfl⟩

theorem find_map_eq_ok_iff {α β : Type} {kind : Oid.Kind} {table : List α} {id : Oid}
    {f : α → β} {r : β} :
    (find kind table id).map f = .ok r ↔ ∃ a, lookup? kind table id = some a ∧ f a = r := by
  unfold find
  cases lookup? kind table id <;> simp [Except.map]

/-! ## Headers -/

/-- The header of a module. -/
def moduleHeaderOf (id : Oid) : Header :=
  ⟨id, "Port " ++ toString (id.index - 1), .chassis, []⟩

/-- The header of an id by the tables of a board. -/
def headerOf (b : Board) (id : Oid) : Except StatusError Header :=
  match id.kind with
  | .sys => if id = .chassis then .ok b.chassisHeader else .error .param
  | .thermal => (find .thermal b.thermals id).map (·.header id)
  | .fan => (find .fan b.fans id).map (·.header id)
  | .psu => (find .psu b.psus id).map (·.header id)
  | .led => (find .led b.leds id).map (·.header id)
  | .module => if id.index ≤ b.ports.count then .ok (moduleHeaderOf id) else .error .param
  | .rtc => .error .param

variable {b : Board}

theorem moduleHeader_eq (b : Board) (io : Io) {id : Oid} (hk : id.kind = .module) (m : Machine) :
    (b.platform io).moduleHeader id m =
      if id.index ≤ b.ports.count then .ok (moduleHeaderOf id) else .error .param := by
  have hpos := id.index_pos
  have hiff : id.index - 1 < b.ports.count ↔ id.index ≤ b.ports.count := by omega
  have hcheck : (b.platform io).ports.check (id.index - 1) m =
      if id.index ≤ b.ports.count then .ok () else .error .param := by
    simp only [platform, operations, checkPortNumber, hiff]
  simp only [Platform.moduleHeader, modulePort, hk, if_true, bind, Except.bind, hcheck]
  by_cases hc : id.index ≤ b.ports.count
  · simp only [if_pos hc]
    rfl
  · simp only [if_neg hc]

/-- The header of an object is looked up in the tables, whatever the state of the board. -/
theorem header_eq_headerOf (b : Board) (io : Io) (id : Oid) (m : Machine) :
    (b.platform io).header id m = b.headerOf id := by
  unfold Platform.header headerOf
  cases hk : id.kind with
  | module => exact moduleHeader_eq b io hk m
  | _ => rfl

/-- Every header is that of its id. -/
theorem headerOf_own (b : Board) : Own b.headerOf := by
  intro id h hh
  unfold headerOf at hh
  split at hh
  · split at hh <;> cases hh
    rename_i hid
    exact hid.symm
  · obtain ⟨e, -, rfl⟩ := find_map_eq_ok_iff.1 hh
    rfl
  · obtain ⟨e, -, rfl⟩ := find_map_eq_ok_iff.1 hh
    rfl
  · obtain ⟨e, -, rfl⟩ := find_map_eq_ok_iff.1 hh
    rfl
  · obtain ⟨e, -, rfl⟩ := find_map_eq_ok_iff.1 hh
    rfl
  · split at hh <;> cases hh
    rfl
  · cases hh

/-- **An id has a header exactly if the board holds it.** -/
theorem headerOf_eq_ok_iff {id : Oid} : (∃ h, b.headerOf id = .ok h) ↔ b.holds id = true := by
  have table : ∀ {α : Type} {kind : Oid.Kind} {l : List α} {f : α → Header}, id.kind = kind →
      ((∃ h, (find kind l id).map f = .ok h) ↔ id.index ≤ l.length) := by
    intro α kind l f hk
    have hl := @exists_lookup?_iff α kind l id
    simp only [find_map_eq_ok_iff]
    constructor
    · rintro ⟨-, a, ha, -⟩
      exact (hl.1 ⟨a, ha⟩).2
    · intro hle
      obtain ⟨a, ha⟩ := hl.2 ⟨hk, hle⟩
      exact ⟨_, a, ha, rfl⟩
  unfold headerOf holds
  cases hk : id.kind with
  | sys => by_cases hc : id = .chassis <;> simp [hc]
  | module => by_cases hc : id.index ≤ b.ports.count <;> simp [hc]
  | rtc => simp
  | thermal => simpa using table hk
  | fan => simpa using table hk
  | psu => simpa using table hk
  | led => simpa using table hk

/-! ## Parents and children -/

theorem headerOf_chassis (b : Board) : b.headerOf .chassis = .ok b.chassisHeader := rfl

theorem headerOf_eq_ok {id : Oid} (h : b.holds id = true) : ∃ k, b.headerOf id = .ok k :=
  headerOf_eq_ok_iff.2 h

theorem headerOf_thermal {id : Oid} {e : ThermalEntry}
    (h : lookup? .thermal b.thermals id = some e) : b.headerOf id = .ok (e.header id) := by
  rw [headerOf, (lookup?_eq_some_iff.1 h).1]
  exact find_map_eq_ok_iff.2 ⟨e, h, rfl⟩

theorem headerOf_fan {id : Oid} {e : FanEntry}
    (h : lookup? .fan b.fans id = some e) : b.headerOf id = .ok (e.header id) := by
  rw [headerOf, (lookup?_eq_some_iff.1 h).1]
  exact find_map_eq_ok_iff.2 ⟨e, h, rfl⟩

theorem headerOf_psu {id : Oid} {e : PsuEntry}
    (h : lookup? .psu b.psus id = some e) : b.headerOf id = .ok (e.header id) := by
  rw [headerOf, (lookup?_eq_some_iff.1 h).1]
  exact find_map_eq_ok_iff.2 ⟨e, h, rfl⟩

theorem mem_chassisOids {α : Type} {kind : Oid.Kind} {parent : α → Oid} {table : List α}
    {id : Oid} : id ∈ chassisOids kind parent table ↔
      ∃ i a, table[i]? = some a ∧ parent a = .chassis ∧ oid kind i = id := by
  simp only [chassisOids, List.mem_map, List.mem_filter, decide_eq_true_eq, Prod.exists,
    List.mk_mem_zipIdx_iff_getElem?]
  constructor
  · rintro ⟨a, i, ⟨ha, hp⟩, hid⟩
    exact ⟨i, a, ha, hp, hid⟩
  · rintro ⟨i, a, ha, hp, hid⟩
    exact ⟨a, i, ⟨ha, hp⟩, hid⟩

theorem mem_oids_of_le {kind : Oid.Kind} {size : Nat} {id : Oid} (hk : id.kind = kind)
    (hle : id.index ≤ size) : id ∈ oids kind size := by
  have hpos := id.index_pos
  subst hk
  exact List.mem_map.2 ⟨id.index - 1, List.mem_range.2 (by omega), oid_index id⟩

theorem mem_chassis_children {id : Oid} : id ∈ b.chassisHeader.children ↔
    id ∈ chassisOids .thermal ThermalEntry.parent b.thermals ∨
    id ∈ chassisOids .fan FanEntry.parent b.fans ∨ id ∈ oids .psu b.psus.length ∨
    id ∈ oids .led b.leds.length ∨ id ∈ oids .module b.ports.count := by
  simp only [chassisHeader, List.mem_append, or_assoc]

/-- The parent that a valid board gives a sensor or a fan lists it as a child. -/
theorem IsParent.listed {id parent : Oid} (h : b.IsParent id parent)
    (top : parent = .chassis → id ∈ b.chassisHeader.children) :
    ∃ k, b.headerOf parent = .ok k ∧ id ∈ k.children ∧ (parent = .chassis ∨ parent.kind = .psu) := by
  rcases h with rfl | ⟨psu, hpsu, hid⟩
  · exact ⟨_, headerOf_chassis b, top rfl, .inl rfl⟩
  · exact ⟨_, headerOf_psu hpsu, hid, .inr (lookup?_eq_some_iff.1 hpsu).1⟩

/-- The chassis and all leds, power supplies and modules are reached at once. -/
theorem reachable_of_chassis_child {id : Oid} (hid : id ∈ b.chassisHeader.children)
    (hold : b.holds id = true) : Reachable b.headerOf id := by
  obtain ⟨k, hk⟩ := headerOf_eq_ok hold
  exact .child (.chassis (headerOf_chassis b)) (headerOf_chassis b) hid hk

theorem reachable_psu {id : Oid} (hk : id.kind = .psu) (hold : b.holds id = true) :
    Reachable b.headerOf id := by
  have hle : id.index ≤ b.psus.length := by simpa [holds, hk] using hold
  exact reachable_of_chassis_child
    (mem_chassis_children.2 (.inr (.inr (.inl (mem_oids_of_le hk hle))))) hold

/-- A sensor or a fan is reached through its parent. -/
theorem reachable_of_parent {id parent : Oid} (h : b.IsParent id parent) (hold : b.holds id = true)
    (top : parent = .chassis → id ∈ b.chassisHeader.children) : Reachable b.headerOf id := by
  obtain ⟨k, hk, hc, hp⟩ := h.listed top
  obtain ⟨l, hl⟩ := headerOf_eq_ok hold
  have hparent : Reachable b.headerOf parent := by
    rcases hp with rfl | hpsu
    · exact .chassis (headerOf_chassis b)
    · exact reachable_psu hpsu (headerOf_eq_ok_iff.1 ⟨k, hk⟩)
  exact .child hparent hk hc hl

/-- **On a valid board, what is reached from the chassis is what the board holds.** -/
theorem Valid.reachable_iff (valid : b.Valid) {id : Oid} :
    Reachable b.headerOf id ↔ b.holds id = true := by
  constructor
  · rintro (⟨htop⟩ | ⟨-, -, -, hk⟩)
    · exact headerOf_eq_ok_iff.1 ⟨_, htop⟩
    · exact headerOf_eq_ok_iff.1 ⟨_, hk⟩
  · intro hold
    cases hk : id.kind with
    | sys =>
      have hid : id = .chassis := by simpa [holds, hk] using hold
      exact hid ▸ .chassis (headerOf_chassis b)
    | thermal =>
      have hle : id.index ≤ b.thermals.length := by simpa [holds, hk] using hold
      obtain ⟨e, he⟩ := exists_lookup?_iff.2 ⟨hk, hle⟩
      obtain ⟨-, hi⟩ := lookup?_eq_some_iff.1 he
      have hid : oid .thermal (id.index - 1) = id := hk ▸ oid_index id
      refine reachable_of_parent (hid ▸ valid.thermal_parent _ e hi) hold fun hp => ?_
      exact mem_chassis_children.2 (.inl (mem_chassisOids.2 ⟨_, e, hi, hp, hid⟩))
    | fan =>
      have hle : id.index ≤ b.fans.length := by simpa [holds, hk] using hold
      obtain ⟨e, he⟩ := exists_lookup?_iff.2 ⟨hk, hle⟩
      obtain ⟨-, hi⟩ := lookup?_eq_some_iff.1 he
      have hid : oid .fan (id.index - 1) = id := hk ▸ oid_index id
      refine reachable_of_parent (hid ▸ valid.fan_parent _ e hi) hold fun hp => ?_
      exact mem_chassis_children.2 (.inr (.inl (mem_chassisOids.2 ⟨_, e, hi, hp, hid⟩)))
    | psu => exact reachable_psu hk hold
    | led =>
      have hle : id.index ≤ b.leds.length := by simpa [holds, hk] using hold
      exact reachable_of_chassis_child
        (mem_chassis_children.2 (.inr (.inr (.inr (.inl (mem_oids_of_le hk hle)))))) hold
    | module =>
      have hle : id.index ≤ b.ports.count := by simpa [holds, hk] using hold
      exact reachable_of_chassis_child
        (mem_chassis_children.2 (.inr (.inr (.inr (.inr (mem_oids_of_le hk hle)))))) hold
    | rtc => simp [holds, hk] at hold

/-! ## The walk of a board -/

/-- The walk of a board looks at its headers only. -/
theorem walk_platform (b : Board) (io : Io) (m : Machine) :
    (b.platform io).walk m = (SwitchPlatform.walk b.headerOf, m) := by
  have h : (fun id => (b.platform io).header id m) = b.headerOf :=
    funext fun id => header_eq_headerOf b io id m
  simp only [Platform.walk, Action.inspect_apply, h]

theorem operations_walk {b : Board} {r : Except StatusError (List TreeEntry)}
    (hlist : SwitchPlatform.walk b.headerOf = r) (io : Io) (m : Machine) :
    (b.operations io).walk m = (r, m) := by
  rw [← hlist]
  exact walk_platform b io m

/-- A walk of a valid board: every object with its own header, each once. -/
structure IsWalk (b : Board) (entries : List TreeEntry) : Prop where
  own : ∀ e ∈ entries, b.headerOf e.header.id = .ok e.header
  nodup : (entries.map (·.header.id)).Nodup
  mem_iff : ∀ id, id ∈ entries.map (·.header.id) ↔ b.holds id = true

/-- **A valid board is walked through completely**, from the chassis on. -/
theorem Valid.walk (valid : b.Valid) :
    ∃ entries seen, SwitchPlatform.walk b.headerOf = .ok entries ∧ b.IsWalk entries ∧
      Listing b.headerOf [⟨0, b.chassisHeader⟩] [.chassis] entries seen := by
  have htop := headerOf_chassis b
  obtain ⟨entries, seen, hwalk, h⟩ := walk_listing htop
  have own := headerOf_own b
  have opened := open_chassis own htop
  refine ⟨entries, seen, hwalk, ⟨h.honest own opened, h.nodup_ids own opened, fun id => ?_⟩, h⟩
  rw [mem_ids_iff_reachable own htop h, valid.reachable_iff]

end SwitchPlatform.Board
