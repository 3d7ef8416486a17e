import SwitchPlatform.Board.Qs32
import SwitchPlatform.Proofs.Board.Objects

/-!
# The tree of a board

The walk of a valid board whose tables fit the ids, in full: the chassis, and then one branch for
each object attached to it, which is the object and what is attached to that (`walk_eq_branches`).
`Board.Tree` says what this means for the entries of a walk: which objects there are, behind which
parent each of them stands, and in what order. That every walk has these properties is
`walk_tree`.
-/

namespace SwitchPlatform

/-! ## Trees of two levels -/

namespace Walk

variable {header : Oid → Except StatusError Header}

/-- An entry and the entries of its children, each at its first place. -/
def branch (header : Oid → Except StatusError Header) (e : TreeEntry) : List TreeEntry :=
  e :: entriesOf header (e.depth + 1) (fresh [] e.header.children)

namespace Listing

variable {waiting out : List TreeEntry} {seen seen' : List Oid}

/-- Entries without children are listed as they stand. -/
theorem of_leaves (h : Listing header waiting seen out seen')
    (leaf : ∀ e ∈ waiting, e.header.children = []) : out = waiting ∧ seen' = seen := by
  induction waiting generalizing out seen with
  | nil =>
    cases h
    exact ⟨rfl, rfl⟩
  | cons e waiting ih =>
    cases h with
    | visit hbelow hrest =>
      rw [leaf e List.mem_cons_self] at hbelow
      cases hbelow
      obtain ⟨hout, hseen⟩ := ih hrest fun x hx => leaf x (List.mem_cons_of_mem _ hx)
      exact ⟨by rw [hout, List.nil_append], hseen⟩

/-- **Entries over leaves are listed branch by branch**, if no child was met before and none is
shared. -/
theorem of_branches (h : Listing header waiting seen out seen')
    (new : ∀ e ∈ waiting, ∀ c ∈ e.header.children, c ∉ seen)
    (apart : waiting.Pairwise fun e f => e.header.children.Disjoint f.header.children)
    (leaf : ∀ e ∈ waiting, ∀ c ∈ e.header.children, ∀ k, header c = .ok k → k.children = []) :
    out = waiting.flatMap (branch header) := by
  induction waiting generalizing out seen with
  | nil =>
    cases h
    rfl
  | cons e waiting ih =>
    obtain ⟨hapart, htail⟩ := List.pairwise_cons.1 apart
    cases h with
    | @visit _ _ below rest _ seen₁ _ hbelow hrest =>
      have hfresh : fresh seen e.header.children = fresh [] e.header.children :=
        fresh_congr fun c hc => by simp [new e List.mem_cons_self c hc]
      obtain ⟨rfl, rfl⟩ := hbelow.of_leaves fun x hx => by
        obtain ⟨-, c, hc, hk⟩ := mem_entriesOf.1 hx
        exact leaf e List.mem_cons_self c (mem_fresh.1 hc).1 _ hk
      have hnew : ∀ x ∈ waiting, ∀ c ∈ x.header.children,
          c ∉ (fresh seen e.header.children).reverse ++ seen := by
        intro x hx c hc hm
        rcases List.mem_append.1 hm with hm | hm
        · exact hapart x hx (mem_fresh.1 (List.mem_reverse.1 hm)).1 hc
        · exact new x (List.mem_cons_of_mem _ hx) c hc hm
      rw [ih hrest hnew htail fun x hx => leaf x (List.mem_cons_of_mem _ hx)]
      simp only [List.flatMap_cons, branch, hfresh, List.cons_append]

end Listing

end Walk

namespace Board

open Walk

variable {b : Board}

/-! ## The ids of the tables -/

/-- No table has more entries than a kind has ids. -/
structure FitsIds (b : Board) : Prop where
  thermals : b.thermals.length ≤ Oid.maxIndex
  fans : b.fans.length ≤ Oid.maxIndex
  psus : b.psus.length ≤ Oid.maxIndex
  leds : b.leds.length ≤ Oid.maxIndex
  ports : b.ports.count ≤ Oid.maxIndex

/-- The objects of the tables, table by table. -/
def objectIds (b : Board) : List Oid :=
  oids .thermal b.thermals.length ++ oids .fan b.fans.length ++ oids .psu b.psus.length ++
    oids .led b.leds.length ++ oids .module b.ports.count

theorem mem_oids_iff {kind : Oid.Kind} {size : Nat} (h : size ≤ Oid.maxIndex) {id : Oid} :
    id ∈ oids kind size ↔ id.kind = kind ∧ id.index ≤ size := by
  constructor
  · intro hid
    obtain ⟨i, hi, rfl⟩ := List.mem_map.1 hid
    have hlt := List.mem_range.1 hi
    rw [oid_of_lt (by omega)]
    exact ⟨rfl, hlt⟩
  · exact fun ⟨hk, hle⟩ => mem_oids_of_le hk hle

theorem nodup_oids {kind : Oid.Kind} {size : Nat} (h : size ≤ Oid.maxIndex) :
    (oids kind size).Nodup := by
  refine List.Nodup.map_on (fun i hi j hj hij => ?_) List.nodup_range
  rw [oid_of_lt (by have := List.mem_range.1 hi; omega),
    oid_of_lt (by have := List.mem_range.1 hj; omega)] at hij
  simpa using hij

theorem mem_objectIds (fits : b.FitsIds) {id : Oid} :
    id ∈ b.objectIds ↔ b.holds id = true ∧ id ≠ .chassis := by
  simp only [objectIds, List.mem_append, mem_oids_iff fits.thermals, mem_oids_iff fits.fans,
    mem_oids_iff fits.psus, mem_oids_iff fits.leds, mem_oids_iff fits.ports, holds]
  have hne : id.kind ≠ .sys → id ≠ .chassis := fun h e => h (e ▸ rfl)
  cases hk : id.kind <;> simp_all

theorem disjoint_oids {k k' : Oid.Kind} (hk : k ≠ k') {n n' : Nat} (hn : n ≤ Oid.maxIndex)
    (hn' : n' ≤ Oid.maxIndex) : (oids k n).Disjoint (oids k' n') := by
  intro id h h'
  exact hk (((mem_oids_iff hn).1 h).1.symm.trans ((mem_oids_iff hn').1 h').1)

theorem nodup_objectIds (fits : b.FitsIds) : b.objectIds.Nodup := by
  obtain ⟨ht, hf, hp, hl, hm⟩ := fits
  unfold objectIds
  refine (((nodup_oids ht).append (nodup_oids hf) ?_).append (nodup_oids hp) ?_).append
    (nodup_oids hl) ?_ |>.append (nodup_oids hm) ?_
  · exact disjoint_oids (by decide) ht hf
  · rw [List.disjoint_append_left]
    exact ⟨disjoint_oids (by decide) ht hp, disjoint_oids (by decide) hf hp⟩
  · rw [List.disjoint_append_left, List.disjoint_append_left]
    exact ⟨⟨disjoint_oids (by decide) ht hl, disjoint_oids (by decide) hf hl⟩,
      disjoint_oids (by decide) hp hl⟩
  · rw [List.disjoint_append_left, List.disjoint_append_left, List.disjoint_append_left]
    exact ⟨⟨⟨disjoint_oids (by decide) ht hm, disjoint_oids (by decide) hf hm⟩,
      disjoint_oids (by decide) hp hm⟩, disjoint_oids (by decide) hl hm⟩

theorem chassisOids_sublist {α : Type} (kind : Oid.Kind) (parent : α → Oid) (table : List α) :
    (chassisOids kind parent table).Sublist (oids kind table.length) := by
  have hall : table.zipIdx.map (fun x => oid kind x.2) = oids kind table.length := by
    rw [oids, List.range_eq_range', ← List.zipIdx_map_snd, List.map_map]
    rfl
  rw [← hall]
  exact List.Sublist.map _ List.filter_sublist

theorem chassis_children_sublist (b : Board) : b.chassisHeader.children.Sublist b.objectIds :=
  ((((chassisOids_sublist _ _ _).append (chassisOids_sublist _ _ _)).append
    (List.Sublist.refl _)).append (List.Sublist.refl _)).append (List.Sublist.refl _)

/-! ## Children name their parents -/

/-- The parent of an id by its header. -/
def ParentOf (b : Board) (id parent : Oid) : Prop :=
  ∃ k, b.headerOf id = .ok k ∧ k.parent = parent

theorem ParentOf.unique {id p q : Oid} (hp : b.ParentOf id p) (hq : b.ParentOf id q) : p = q := by
  obtain ⟨k, hk, rfl⟩ := hp
  obtain ⟨l, hl, rfl⟩ := hq
  rw [Except.ok.inj (hk.symm.trans hl)]

/-- Only the chassis and power supplies have children. -/
theorem headerOf_cases {id : Oid} {k : Header} (h : b.headerOf id = .ok k) :
    (id = .chassis ∧ k = b.chassisHeader) ∨
    (∃ e, lookup? .psu b.psus id = some e ∧ k = e.header id) ∨ k.children = [] := by
  unfold headerOf at h
  cases hk : id.kind with
  | sys =>
    simp only [hk] at h
    split at h <;> cases h
    exact .inl ⟨‹_›, rfl⟩
  | psu =>
    simp only [hk] at h
    obtain ⟨e, he, rfl⟩ := find_map_eq_ok_iff.1 h
    exact .inr (.inl ⟨e, he, rfl⟩)
  | module =>
    simp only [hk] at h
    split at h <;> cases h
    exact .inr (.inr rfl)
  | rtc =>
    simp only [hk] at h
    cases h
  | _ =>
    simp only [hk] at h
    obtain ⟨e, he, rfl⟩ := find_map_eq_ok_iff.1 h
    exact .inr (.inr rfl)

/-- A sensor or a fan has a header with its parent in it, and no children. -/
theorem headerOf_of_parent? {id parent : Oid} (h : b.parent? id = some parent) :
    ∃ k, b.headerOf id = .ok k ∧ k.parent = parent ∧ k.children = [] := by
  unfold parent? at h
  cases hk : id.kind <;> simp only [hk, reduceCtorEq, Option.map_eq_some_iff] at h
  · obtain ⟨e, he, rfl⟩ := h
    exact ⟨_, headerOf_thermal he, rfl, rfl⟩
  · obtain ⟨e, he, rfl⟩ := h
    exact ⟨_, headerOf_fan he, rfl, rfl⟩

/-- What a power supply lists has a header, is attached to it, and has no children. -/
theorem Valid.psu_child_header (valid : b.Valid) {id c : Oid} {e : PsuEntry}
    (he : lookup? .psu b.psus id = some e) (hc : c ∈ e.children) :
    ∃ k, b.headerOf c = .ok k ∧ k.parent = id ∧ k.children = [] := by
  obtain ⟨hk, hi⟩ := lookup?_eq_some_iff.1 he
  have hid : oid .psu (id.index - 1) = id := hk ▸ oid_index id
  exact headerOf_of_parent? (hid ▸ valid.psu_child _ e hi c hc)

/-- What the chassis lists has a header and is attached to it. -/
theorem parentOf_chassis_child (fits : b.FitsIds) {c : Oid} (hc : c ∈ b.chassisHeader.children) :
    b.ParentOf c .chassis := by
  have hmem := b.chassis_children_sublist.subset hc
  obtain ⟨k, hk⟩ := headerOf_eq_ok ((mem_objectIds fits).1 hmem).1
  refine ⟨k, hk, ?_⟩
  rcases mem_chassis_children.1 hc with h | h | h | h | h
  · obtain ⟨i, e, hi, hp, rfl⟩ := mem_chassisOids.1 h
    have hlt := (List.getElem?_eq_some_iff.1 hi).1
    have he : lookup? .thermal b.thermals (oid .thermal i) = some e := by
      rw [lookup?_oid (Nat.lt_of_lt_of_le hlt fits.thermals), hi]
    rw [headerOf_thermal he] at hk
    cases hk
    exact hp
  · obtain ⟨i, e, hi, hp, rfl⟩ := mem_chassisOids.1 h
    have hlt := (List.getElem?_eq_some_iff.1 hi).1
    have he : lookup? .fan b.fans (oid .fan i) = some e := by
      rw [lookup?_oid (Nat.lt_of_lt_of_le hlt fits.fans), hi]
    rw [headerOf_fan he] at hk
    cases hk
    exact hp
  · obtain ⟨hkind, -⟩ := (mem_oids_iff fits.psus).1 h
    rw [headerOf, hkind] at hk
    obtain ⟨e, -, rfl⟩ := find_map_eq_ok_iff.1 hk
    rfl
  · obtain ⟨hkind, -⟩ := (mem_oids_iff fits.leds).1 h
    rw [headerOf, hkind] at hk
    obtain ⟨e, -, rfl⟩ := find_map_eq_ok_iff.1 hk
    rfl
  · obtain ⟨hkind, -⟩ := (mem_oids_iff fits.ports).1 h
    rw [headerOf, hkind] at hk
    dsimp only at hk
    split at hk <;> cases hk
    rfl

/-- **Every child of an object is attached to it.** -/
theorem Valid.parentOf_child (valid : b.Valid) (fits : b.FitsIds) {id c : Oid} {h : Header}
    (hh : b.headerOf id = .ok h) (hc : c ∈ h.children) : b.ParentOf c id := by
  rcases headerOf_cases hh with ⟨rfl, rfl⟩ | ⟨e, he, rfl⟩ | hnil
  · exact parentOf_chassis_child fits hc
  · obtain ⟨k, hk, hp, -⟩ := valid.psu_child_header he hc
    exact ⟨k, hk, hp⟩
  · rw [hnil] at hc
    cases hc

/-! ## The walk branch by branch -/

theorem ne_chassis_of_child (fits : b.FitsIds) {c : Oid} (hc : c ∈ b.chassisHeader.children) :
    c ≠ .chassis :=
  ((mem_objectIds fits).1 (b.chassis_children_sublist.subset hc)).2

theorem chassis_children_nodup (fits : b.FitsIds) : b.chassisHeader.children.Nodup :=
  (nodup_objectIds fits).sublist b.chassis_children_sublist

/-- The entries of the objects attached to the chassis. -/
def topEntries (b : Board) : List TreeEntry :=
  entriesOf b.headerOf 1 b.chassisHeader.children

theorem mem_topEntries {e : TreeEntry} : e ∈ b.topEntries ↔ e.depth = 1 ∧
    e.header.id ∈ b.chassisHeader.children ∧ b.headerOf e.header.id = .ok e.header :=
  mem_entriesOf_own (headerOf_own b)

theorem ids_topEntries (fits : b.FitsIds) :
    b.topEntries.map (·.header.id) = b.chassisHeader.children := by
  rw [topEntries, ids_entriesOf (headerOf_own b), List.filter_eq_self]
  intro c hc
  obtain ⟨k, hk, -⟩ := parentOf_chassis_child fits hc
  rw [hk]
  rfl

/-- What an object attached to the chassis lists is attached to that object, is no child of the
chassis, and has no children. -/
theorem Valid.grandchild (valid : b.Valid) (fits : b.FitsIds) {e : TreeEntry} {c : Oid}
    (he : e ∈ b.topEntries) (hc : c ∈ e.header.children) :
    b.ParentOf c e.header.id ∧ c ∉ b.chassisHeader.children ∧ c ≠ .chassis ∧
      ∀ k, b.headerOf c = .ok k → k.children = [] := by
  obtain ⟨-, hid, hh⟩ := mem_topEntries.1 he
  have hparent := valid.parentOf_child fits hh hc
  have hne := ne_chassis_of_child fits hid
  refine ⟨hparent, fun h => ?_, ?_, fun k hk => ?_⟩
  · exact hne (hparent.unique (parentOf_chassis_child fits h))
  · rintro rfl
    exact hne (hparent.unique ⟨_, headerOf_chassis b, rfl⟩)
  · rcases headerOf_cases hh with ⟨heq, -⟩ | ⟨psu, hpsu, heq⟩ | hnil
    · exact absurd heq hne
    · rw [heq] at hc
      obtain ⟨l, hl, -, hleaf⟩ := valid.psu_child_header hpsu hc
      rw [Except.ok.inj (hk.symm.trans hl), hleaf]
    · rw [hnil] at hc
      cases hc

/-- **The walk of a valid board**: the chassis, and a branch for each object attached to it. -/
theorem Valid.walk_eq_branches (valid : b.Valid) (fits : b.FitsIds) {entries : List TreeEntry}
    {seen : List Oid} (h : Listing b.headerOf [⟨0, b.chassisHeader⟩] [.chassis] entries seen) :
    entries = ⟨0, b.chassisHeader⟩ :: b.topEntries.flatMap (branch b.headerOf) := by
  have hfresh : fresh [.chassis] b.chassisHeader.children = b.chassisHeader.children :=
    fresh_eq_self (chassis_children_nodup fits) fun c hc => by
      simpa using ne_chassis_of_child fits hc
  cases h with
  | visit hbelow hrest =>
    cases hrest
    rw [hfresh] at hbelow
    rw [List.append_nil]
    refine congrArg (_ :: ·) (hbelow.of_branches (fun e he c hc hm => ?_) ?_ ?_)
    · obtain ⟨-, hnot, hne, -⟩ := valid.grandchild fits he hc
      rcases List.mem_append.1 hm with hm | hm
      · exact hnot (List.mem_reverse.1 hm)
      · exact hne (List.mem_singleton.1 hm)
    · have hnodup : (b.topEntries.map (·.header.id)).Nodup := by
        rw [ids_topEntries fits]
        exact chassis_children_nodup fits
      refine (List.pairwise_map.1 hnodup).imp_of_mem fun he hf hne c hc hc' => hne ?_
      exact (valid.grandchild fits he hc).1.unique (valid.grandchild fits hf hc').1
    · exact fun e he c hc => (valid.grandchild fits he hc).2.2.2

/-! ## The order of the objects -/

/-- The objects that the entries of a walk attach to an object, in the order of the walk. The
chassis, which heads the walk and is attached to itself, is left out. -/
def attachedTo (entries : List TreeEntry) (id : Oid) : List Oid :=
  (entries.tail.filter fun e => e.header.parent = id).map (·.header.id)

/-- The entries of the children of an object attached to the chassis. -/
def childEntries (b : Board) (e : TreeEntry) : List TreeEntry :=
  entriesOf b.headerOf (e.depth + 1) (fresh [] e.header.children)

theorem mem_childEntries {e x : TreeEntry} : x ∈ b.childEntries e ↔ x.depth = e.depth + 1 ∧
    x.header.id ∈ e.header.children ∧ b.headerOf x.header.id = .ok x.header := by
  rw [childEntries, mem_entriesOf_own (headerOf_own b)]
  simp [mem_fresh]

theorem Valid.ids_childEntries (valid : b.Valid) (fits : b.FitsIds) {e : TreeEntry}
    (he : e ∈ b.topEntries) :
    (b.childEntries e).map (·.header.id) = fresh [] e.header.children := by
  rw [childEntries, ids_entriesOf (headerOf_own b), List.filter_eq_self]
  intro c hc
  obtain ⟨k, hk, -⟩ := (valid.grandchild fits he (mem_fresh.1 hc).1).1
  rw [hk]
  rfl

theorem Valid.parent_childEntries (valid : b.Valid) (fits : b.FitsIds) {e x : TreeEntry}
    (he : e ∈ b.topEntries) (hx : x ∈ b.childEntries e) : x.header.parent = e.header.id := by
  obtain ⟨-, hc, hh⟩ := mem_childEntries.1 hx
  exact ParentOf.unique ⟨_, hh, rfl⟩ (valid.grandchild fits he hc).1

theorem parent_topEntries (fits : b.FitsIds) {e : TreeEntry} (he : e ∈ b.topEntries) :
    e.header.parent = .chassis := by
  obtain ⟨-, hc, hh⟩ := mem_topEntries.1 he
  exact ParentOf.unique ⟨_, hh, rfl⟩ (parentOf_chassis_child fits hc)

theorem flatMap_eq_of_unique {α β : Type} {l : List α} {f : α → List β} {a : α} (nodup : l.Nodup)
    (ha : a ∈ l) (h : ∀ x ∈ l, x ≠ a → f x = []) : l.flatMap f = f a := by
  obtain ⟨s, t, rfl⟩ := List.append_of_mem ha
  obtain ⟨hs, ht, hdisj⟩ := List.nodup_append'.1 nodup
  have hnil : ∀ r : List α, (∀ x ∈ r, f x = []) → r.flatMap f = [] := fun r hr =>
    List.flatMap_eq_nil_iff.2 hr
  rw [List.flatMap_append, List.flatMap_cons, hnil s fun x hx => ?_, hnil t fun x hx => ?_,
    List.nil_append, List.append_nil]
  · refine h x (by simp [hx]) ?_
    rintro rfl
    exact (List.nodup_cons.1 ht).1 hx
  · refine h x (by simp [hx]) ?_
    rintro rfl
    exact hdisj hx List.mem_cons_self

/-- The objects of the chassis come in the order of its children. -/
theorem Valid.attachedTo_chassis (valid : b.Valid) (fits : b.FitsIds) :
    attachedTo (⟨0, b.chassisHeader⟩ :: b.topEntries.flatMap (branch b.headerOf)) .chassis =
      b.chassisHeader.children := by
  have hbranch : ∀ e ∈ b.topEntries,
      (branch b.headerOf e).filter (fun x => x.header.parent = .chassis) = [e] := by
    intro e he
    have hkids : (b.childEntries e).filter (fun x => x.header.parent = .chassis) = [] := by
      rw [List.filter_eq_nil_iff]
      intro x hx
      rw [valid.parent_childEntries fits he hx]
      simpa using ne_chassis_of_child fits (mem_topEntries.1 he).2.1
    rw [branch, ← childEntries, List.filter_cons, hkids]
    simp [parent_topEntries fits he]
  rw [attachedTo, List.tail_cons, List.filter_flatMap, List.flatMap_congr hbranch,
    List.flatMap_singleton', ids_topEntries fits]

/-- The objects of anything attached to the chassis come in the order of its children. -/
theorem Valid.attachedTo_top (valid : b.Valid) (fits : b.FitsIds) {p : TreeEntry}
    (hp : p ∈ b.topEntries) :
    attachedTo (⟨0, b.chassisHeader⟩ :: b.topEntries.flatMap (branch b.headerOf)) p.header.id =
      fresh [] p.header.children := by
  have hne : p.header.id ≠ .chassis := ne_chassis_of_child fits (mem_topEntries.1 hp).2.1
  have hbranch : ∀ e ∈ b.topEntries,
      (branch b.headerOf e).filter (fun x => x.header.parent = p.header.id) =
        (b.childEntries e).filter (fun x => x.header.parent = p.header.id) := by
    intro e he
    rw [branch, ← childEntries, List.filter_cons, parent_topEntries fits he,
      if_neg (by simpa using hne.symm)]
  have hnodup : (b.topEntries.map (·.header.id)).Nodup := by
    rw [ids_topEntries fits]
    exact chassis_children_nodup fits
  rw [attachedTo, List.tail_cons, List.filter_flatMap, List.flatMap_congr hbranch,
    flatMap_eq_of_unique hnodup.of_map hp, List.filter_eq_self.2, valid.ids_childEntries fits hp]
  · intro x hx
    simpa using valid.parent_childEntries fits hp hx
  · intro e he hep
    rw [List.filter_eq_nil_iff]
    intro x hx hxp
    rw [valid.parent_childEntries fits he hx, decide_eq_true_eq] at hxp
    exact hep (List.inj_on_of_nodup_map hnodup he hp hxp)

/-! ## The properties of a walk -/

/-- What the entries of a walk say about the objects of a board. -/
structure Tree (b : Board) (entries : List TreeEntry) : Prop where
  /-- The chassis comes first. -/
  head : entries.head? = some ⟨0, b.chassisHeader⟩
  /-- After it comes every object of the tables, and nothing else. -/
  objects : (entries.tail.map (·.header.id)).Perm b.objectIds
  /-- No object comes twice. -/
  nodup : (entries.map (·.header.id)).Nodup
  /-- Every entry has the header of its object. -/
  own : ∀ e ∈ entries, b.headerOf e.header.id = .ok e.header
  /-- Every object but the chassis comes after the parent that its header names, which lists it,
  and one step farther away. -/
  behind_parent : ∀ before e after, entries = before ++ e :: after → e.header.id ≠ .chassis →
    ∃ p ∈ before, p.header.id = e.header.parent ∧ e.depth = p.depth + 1 ∧
      e.header.id ∈ p.header.children
  /-- Every child of an object names it as its parent. -/
  child : ∀ e ∈ entries, ∀ c ∈ e.header.children, b.ParentOf c e.header.id
  /-- The objects of one parent come in the order in which it lists them: a power supply its fan
  before its sensor. One listed twice comes once. -/
  order : ∀ e ∈ entries, attachedTo entries e.header.id = fresh [] e.header.children
  /-- The objects of the chassis come table by table, and each table in its order. -/
  table_order : (attachedTo entries .chassis).Sublist b.objectIds
  /-- The children of a power supply come directly after it. -/
  psu : ∀ e ∈ entries, e.header.id.kind = .psu →
    ∃ before after, entries = before ++ e :: (b.childEntries e ++ after)

/-- An entry of the walk is the chassis, attached to the chassis, or a child of such an object. -/
theorem mem_branches {e : TreeEntry}
    (he : e ∈ ⟨0, b.chassisHeader⟩ :: b.topEntries.flatMap (branch b.headerOf)) :
    e = ⟨0, b.chassisHeader⟩ ∨ e ∈ b.topEntries ∨ ∃ p ∈ b.topEntries, e ∈ b.childEntries p := by
  rcases List.mem_cons.1 he with rfl | he
  · exact .inl rfl
  · obtain ⟨p, hp, he⟩ := List.mem_flatMap.1 he
    rcases List.mem_cons.1 he with rfl | he
    · exact .inr (.inl hp)
    · exact .inr (.inr ⟨p, hp, he⟩)

/-- The order of the objects below every entry. -/
theorem Valid.attachedTo_eq (valid : b.Valid) (fits : b.FitsIds) {e : TreeEntry}
    (he : e ∈ ⟨0, b.chassisHeader⟩ :: b.topEntries.flatMap (branch b.headerOf)) :
    attachedTo (⟨0, b.chassisHeader⟩ :: b.topEntries.flatMap (branch b.headerOf)) e.header.id =
      fresh [] e.header.children := by
  rcases mem_branches he with rfl | hp | ⟨p, hp, hx⟩
  · rw [fresh_eq_self (chassis_children_nodup fits) fun c _ => List.not_mem_nil]
    exact valid.attachedTo_chassis fits
  · exact valid.attachedTo_top fits hp
  · -- nothing is attached to a child of an object below the chassis
    obtain ⟨-, hc, hh⟩ := mem_childEntries.1 hx
    obtain ⟨-, hnot, hne, hleaf⟩ := valid.grandchild fits hp hc
    rw [hleaf _ hh, fresh, attachedTo, List.map_eq_nil_iff, List.filter_eq_nil_iff]
    intro x hx hxe
    rw [decide_eq_true_eq] at hxe
    rcases mem_branches (List.mem_cons_of_mem _ hx) with rfl | hq | ⟨q, hq, hxq⟩
    · exact hne hxe.symm
    · exact hne (hxe.symm.trans (parent_topEntries fits hq))
    · rw [valid.parent_childEntries fits hq hxq] at hxe
      exact hnot (hxe ▸ (mem_topEntries.1 hq).2.1)

/-- The children of a power supply come directly after it. -/
theorem psu_branch {e : TreeEntry} (own : b.headerOf e.header.id = .ok e.header)
    (he : e ∈ ⟨0, b.chassisHeader⟩ :: b.topEntries.flatMap (branch b.headerOf))
    (valid : b.Valid) (fits : b.FitsIds) (hk : e.header.id.kind = .psu) :
    ∃ before after, ⟨0, b.chassisHeader⟩ :: b.topEntries.flatMap (branch b.headerOf) =
      before ++ e :: (b.childEntries e ++ after) := by
  have htop : e ∈ b.topEntries := by
    rcases mem_branches he with rfl | hp | ⟨p, hp, hx⟩
    · cases hk
    · exact hp
    · -- a power supply is attached to the chassis
      obtain ⟨-, hc, -⟩ := mem_childEntries.1 hx
      have hparent := (valid.grandchild fits hp hc).1
      rw [headerOf, hk] at own
      obtain ⟨psu, hpsu, heq⟩ := find_map_eq_ok_iff.1 own
      have hchassis : b.ParentOf e.header.id .chassis := ⟨_, headerOf_psu hpsu, rfl⟩
      exact absurd (hparent.unique hchassis) (ne_chassis_of_child fits (mem_topEntries.1 hp).2.1)
  obtain ⟨s, t, hst⟩ := List.append_of_mem htop
  refine ⟨⟨0, b.chassisHeader⟩ :: s.flatMap (branch b.headerOf), t.flatMap (branch b.headerOf), ?_⟩
  rw [hst]
  simp [branch, childEntries]

/-- **The walk of a valid board shows its tables as a tree**: it lists every object exactly once,
behind its parent and in the order of the tables. -/
theorem walk_tree (b : Board) (io : Io) (m : Machine) (valid : b.validate = .ok ())
    (fits : b.FitsIds) : ∃ entries, (b.platform io).walk m = (.ok entries, m) ∧ b.Tree entries := by
  have valid := validate_eq_ok_iff.1 valid
  obtain ⟨entries, seen, hwalk, isWalk, h⟩ := valid.walk
  have hform := valid.walk_eq_branches fits h
  refine ⟨entries, by rw [walk_platform, hwalk], ?_⟩
  have htail : ⟨0, b.chassisHeader⟩ :: entries.tail = entries := by rw [hform, List.tail_cons]
  have hids : Oid.chassis :: entries.tail.map (·.header.id) = entries.map (·.header.id) := by
    rw [← htail]
    rfl
  have hnodup : (Oid.chassis :: entries.tail.map (·.header.id)).Nodup := hids ▸ isWalk.nodup
  exact
    { head := by rw [hform, List.head?_cons]
      objects := by
        refine (List.perm_ext_iff_of_nodup (List.nodup_cons.1 hnodup).2 (nodup_objectIds fits)).2 ?_
        intro id
        rw [mem_objectIds fits, ← isWalk.mem_iff id, ← hids, List.mem_cons]
        constructor
        · intro hid
          exact ⟨.inr hid, fun heq => (List.nodup_cons.1 hnodup).1 (heq ▸ hid)⟩
        · rintro ⟨hid, hne⟩
          exact hid.resolve_left hne
      nodup := isWalk.nodup
      own := isWalk.own
      behind_parent := by
        intro before e after hsplit hne
        rcases h.behind_lister (headerOf_own b) hsplit with hw | ⟨front, p, between, rfl, hd, hc, -⟩
        · exact absurd (congrArg (·.header.id) (List.mem_singleton.1 hw)) hne
        · have hp : p ∈ entries := by rw [hsplit]; simp
          have he : e ∈ entries := by rw [hsplit]; simp
          have hparent := valid.parentOf_child fits (isWalk.own p hp) hc
          exact ⟨p, by simp, hparent.unique ⟨_, isWalk.own e he, rfl⟩, hd, hc⟩
      child := fun e he c hc => valid.parentOf_child fits (isWalk.own e he) hc
      order := by
        intro e he
        rw [hform] at he ⊢
        exact valid.attachedTo_eq fits he
      table_order := by
        rw [hform, valid.attachedTo_chassis fits]
        exact b.chassis_children_sublist
      psu := by
        intro e he hk
        have own := isWalk.own e he
        rw [hform] at he ⊢
        exact psu_branch own he valid fits hk }

/-- The objects of the board `Qs32` come as a tree. -/
theorem qs32_walk_tree : Qs32.board.validate = .ok () ∧ Qs32.board.FitsIds ∧
    ∃ entries, (Qs32.board.platform { root := ⟨"/"⟩ }).walk { tree := .dir [] } =
      (.ok entries, { tree := .dir [] }) ∧ Qs32.board.Tree entries := by
  have fits : Qs32.board.FitsIds :=
    { thermals := by decide, fans := by decide, psus := by decide, leds := by decide
      ports := by decide }
  exact ⟨rfl, fits, walk_tree Qs32.board _ _ rfl fits⟩

end Board

end SwitchPlatform
