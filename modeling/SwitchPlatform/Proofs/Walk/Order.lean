import SwitchPlatform.Proofs.Walk.Loop

/-!
# The order of a walk

A walk meets an object at the first entry that lists it as a child, and lists it below that entry.
Another object that lists it too may come later. For headers without cycles this module says when:
`parent_before_child_iff` compares, for every object and every child that its header lists, the
order of the two in the walk with where the walk met them.

The reason is the shape of a listing inside a walk (`Placed`): it lists exactly what is beneath the
entries that it started from (`Placed.beneath_waiting`, `Placed.mem_of_beneath`), and the new
children of an entry are listed in their order, each with what is beneath it (`child_split`).
-/

namespace SwitchPlatform.Walk

variable {header : Oid → Except StatusError Header}

/-! ## Children and acyclic headers -/

/-- An object with a header lists another one with a header as a child. -/
def HasChild (header : Oid → Except StatusError Header) (p c : Oid) : Prop :=
  ∃ h k, header p = .ok h ∧ c ∈ h.children ∧ header c = .ok k

/-- No object comes below itself. -/
def Acyclic (header : Oid → Except StatusError Header) : Prop :=
  ∀ id, ¬Relation.TransGen (HasChild header) id id

theorem Reachable.of_chassis {id : Oid} (h : Reachable header id) :
    Relation.ReflTransGen (HasChild header) .chassis id := by
  induction h with
  | chassis htop => exact .refl
  | child hid hh hc hk ih => exact ih.tail ⟨_, _, hh, hc, hk⟩

/-- Without cycles, nothing that is reached lists the chassis. -/
theorem Acyclic.chassis_not_mem (acyclic : Acyclic header) {id : Oid} {h : Header}
    (reach : Reachable header id) (hh : header id = .ok h) : Oid.chassis ∉ h.children := by
  intro hc
  have htop : ∃ top, header .chassis = .ok top := by
    clear hh hc
    induction reach with
    | chassis htop => exact ⟨_, htop⟩
    | child _ _ _ _ ih => exact ih
  obtain ⟨top, htop⟩ := htop
  exact acyclic .chassis (Relation.TransGen.tail' reach.of_chassis ⟨h, top, hh, hc, htop⟩)

/-- Headers whose children have lower ranks are acyclic. -/
theorem Acyclic.of_rank (rank : Oid → Nat)
    (lower : ∀ p c, HasChild header p c → rank c < rank p) : Acyclic header := by
  have hlower : ∀ p c, Relation.TransGen (HasChild header) p c → rank c < rank p := by
    intro p c h
    induction h with
    | single h => exact lower _ _ h
    | tail _ h ih => exact Nat.lt_trans (lower _ _ h) ih
  exact fun id h => Nat.lt_irrefl _ (hlower id id h)

/-! ## The order of new children -/

/-- An element in front does not change the order of the first places of others. -/
theorem pairwise_idxOf_cons {d : Oid} {cs ds : List Oid} (hne : ∀ a ∈ ds, a ≠ d)
    (h : ds.Pairwise fun a b => cs.idxOf a < cs.idxOf b) :
    ds.Pairwise fun a b => (d :: cs).idxOf a < (d :: cs).idxOf b := by
  refine h.imp_of_mem fun {a b} ha hb hab => ?_
  rw [List.idxOf_cons_ne _ (hne a ha).symm, List.idxOf_cons_ne _ (hne b hb).symm]
  exact Nat.succ_lt_succ hab

/-- New children come in the order of their first places. -/
theorem pairwise_fresh (seen cs : List Oid) :
    (fresh seen cs).Pairwise fun a b => cs.idxOf a < cs.idxOf b := by
  induction cs generalizing seen with
  | nil => exact .nil
  | cons d cs ih =>
    by_cases hd : d ∈ seen
    · rw [fresh, if_pos hd]
      refine pairwise_idxOf_cons (fun a ha => ?_) (ih seen)
      rintro rfl
      exact (mem_fresh.1 ha).2 hd
    · have hne : ∀ a ∈ fresh (d :: seen) cs, a ≠ d := by
        rintro a ha rfl
        exact (mem_fresh.1 ha).2 List.mem_cons_self
      rw [fresh, if_neg hd]
      refine .cons (fun b hb => ?_) (pairwise_idxOf_cons hne (ih (d :: seen)))
      rw [List.idxOf_cons_self, List.idxOf_cons_ne _ (hne b hb).symm]
      exact Nat.succ_pos _

/-- What is in front of an entry, in a list with values in ascending order, has a lower value. -/
theorem mem_front_iff_of_pairwise {value : TreeEntry → Nat} {front back : List TreeEntry}
    {c x : TreeEntry} (h : (front ++ c :: back).Pairwise fun a b => value a < value b) :
    x ∈ front ↔ x ∈ front ++ c :: back ∧ value x < value c := by
  obtain ⟨-, hfrom, hbefore⟩ := List.pairwise_append.1 h
  obtain ⟨hafter, -⟩ := List.pairwise_cons.1 hfrom
  constructor
  · exact fun hx => ⟨List.mem_append_left _ hx, hbefore x hx c List.mem_cons_self⟩
  · rintro ⟨hx, hlt⟩
    rcases List.mem_append.1 hx with hx | hx
    · exact hx
    rcases List.mem_cons.1 hx with rfl | hx
    · exact absurd hlt (Nat.lt_irrefl _)
    · exact absurd hlt (Nat.lt_asymm (hafter x hx))

/-- The entries that wait below an entry come in the order of its children. -/
theorem pairwise_entriesOf (own : Own header) (depth : Nat) (seen cs : List Oid) :
    (entriesOf header depth (fresh seen cs)).Pairwise fun a b =>
      cs.idxOf a.header.id < cs.idxOf b.header.id := by
  have hids : ((entriesOf header depth (fresh seen cs)).map (·.header.id)).Pairwise
      fun a b => cs.idxOf a < cs.idxOf b := by
    rw [ids_entriesOf own]
    exact (pairwise_fresh seen cs).filter _
  rwa [List.pairwise_map] at hids

/-! ## Where objects are met -/

/-- The entry at which a walk meets an object: the first one that lists it as a child. -/
def finder? (entries : List TreeEntry) (c : Oid) : Option TreeEntry :=
  entries.find? fun e => e.header.children.contains c

/-- An object is beneath `top` in a walk: it is `top`, or it was met at an object beneath `top`. -/
inductive Beneath (entries : List TreeEntry) (top : Oid) : Oid → Prop
  | self : Beneath entries top top
  | met {finder : TreeEntry} {c : Oid} : Beneath entries top finder.header.id →
      finder? entries c = some finder → Beneath entries top c

/-- In a walk, one object is listed before another one. -/
def Before (entries : List TreeEntry) (a b : Oid) : Prop :=
  [a, b].Sublist (entries.map (·.header.id))

instance (entries : List TreeEntry) (a b : Oid) : Decidable (Before entries a b) :=
  inferInstanceAs (Decidable (List.Sublist _ _))

/-- A walk meets a child in time for a parent: at the parent itself, or at an object that lists the
child behind one that the parent is beneath. -/
def InTime (entries : List TreeEntry) (p : TreeEntry) (c : Oid) : Prop :=
  ∃ finder, finder? entries c = some finder ∧ (finder = p ∨
    ∃ e, finder? entries e = some finder ∧
      finder.header.children.idxOf e < finder.header.children.idxOf c ∧
      Beneath entries e p.header.id)

section Finder

variable {entries front back : List TreeEntry} {e : TreeEntry} {a b c : Oid}

theorem finder?_split (hsplit : entries = front ++ e :: back) (hc : c ∈ e.header.children)
    (hfront : ∀ x ∈ front, c ∉ x.header.children) : finder? entries c = some e := by
  rw [finder?, List.find?_eq_some_iff_append]
  refine ⟨List.contains_iff_mem.2 hc, front, back, hsplit, fun x hx => ?_⟩
  simpa using hfront x hx

theorem mem_of_finder? (h : finder? entries c = some e) :
    e ∈ entries ∧ c ∈ e.header.children := by
  have hc := List.find?_some h
  exact ⟨List.mem_of_find?_eq_some h, List.contains_iff_mem.1 hc⟩

theorem exists_finder? (he : e ∈ entries) (hc : c ∈ e.header.children) :
    ∃ finder, finder? entries c = some finder := by
  refine Option.isSome_iff_exists.1 (List.find?_isSome.2 ⟨e, he, ?_⟩)
  exact List.contains_iff_mem.2 hc

/-- What is met behind the front of a walk is not listed in front. -/
theorem not_mem_children_of_finder? (nodup : (entries.map (·.header.id)).Nodup)
    (hsplit : entries = front ++ back) (he : e ∈ back) (h : finder? entries c = some e) :
    ∀ x ∈ front, c ∉ x.header.children := by
  intro x hx hc
  rw [finder?, hsplit, List.find?_append, Option.or_eq_some_iff] at h
  rcases h with h | ⟨hnone, -⟩
  · -- an entry is not both in the front and behind it
    rw [hsplit, List.map_append] at nodup
    exact List.disjoint_of_nodup_append nodup (List.mem_map_of_mem (List.mem_of_find?_eq_some h))
      (List.mem_map_of_mem he)
  · exact List.find?_eq_none.1 hnone x hx (List.contains_iff_mem.2 hc)

theorem Beneath.trans (h : Beneath entries a b) (h' : Beneath entries b c) :
    Beneath entries a c := by
  induction h' with
  | self => exact h
  | met _ hfinder ih => exact ih.met hfinder

/-- What something listed is beneath is listed. -/
theorem Beneath.mem (h : Beneath entries a b) (hb : b ∈ entries.map (·.header.id)) :
    a ∈ entries.map (·.header.id) := by
  induction h with
  | self => exact hb
  | met _ hfinder ih => exact ih (List.mem_map_of_mem (mem_of_finder? hfinder).1)

theorem before_of_mem (hsplit : entries = front ++ back) (ha : a ∈ front.map (·.header.id))
    (hb : b ∈ back.map (·.header.id)) : Before entries a b := by
  rw [Before, hsplit, List.map_append]
  exact (List.singleton_sublist.2 ha).append (List.singleton_sublist.2 hb)

/-- What is listed before an entry is in front of it. -/
theorem Before.mem_front (nodup : (entries.map (·.header.id)).Nodup)
    (hsplit : entries = front ++ e :: back) (h : Before entries a e.header.id) :
    a ∈ front.map (·.header.id) := by
  have hlast : e.header.id ∉ back.map (·.header.id) := by
    rw [hsplit, List.map_append] at nodup
    exact (List.nodup_cons.1 nodup.of_append_right).1
  rw [Before, hsplit, List.map_append, List.map_cons, List.sublist_append_iff] at h
  obtain ⟨l₁, l₂, hl, h₁, h₂⟩ := h
  rcases List.cons_eq_append_iff.1 hl with ⟨rfl, rfl⟩ | ⟨l₁, rfl, -⟩
  · -- both would come behind the front, but there the entry is the first
    refine absurd ?_ hlast
    rcases List.sublist_cons_iff.1 h₂ with h | ⟨r, hr, h⟩
    · exact h.subset (by simp)
    · obtain ⟨-, rfl⟩ := List.cons.inj hr
      exact h.subset List.mem_cons_self
  · exact h₁.subset List.mem_cons_self

/-- Entries with the same id are the same. -/
theorem eq_of_id_eq (nodup : (entries.map (·.header.id)).Nodup) {x y : TreeEntry}
    (hx : x ∈ entries) (hy : y ∈ entries) (h : x.header.id = y.header.id) : x = y :=
  List.inj_on_of_nodup_map nodup hx hy h

end Finder

/-! ## A listing inside a walk -/

/-- A listing stands in a walk behind its front: it starts with the chassis and the children of the
front as the ids met. -/
structure Placed (header : Oid → Except StatusError Header) (entries front : List TreeEntry)
    (waiting : List TreeEntry) (seen : List Oid) (out : List TreeEntry) (seen' : List Oid) :
    Prop where
  listing : Listing header waiting seen out seen'
  split : ∃ back, entries = front ++ (out ++ back)
  seen_iff : ∀ c, c ∈ seen ↔ c = .chassis ∨ ∃ e ∈ front, c ∈ e.header.children

namespace Placed

variable {entries front waiting out : List TreeEntry} {seen seen' : List Oid} {e : TreeEntry}

/-- What is below the first waiting entry stands behind that entry. -/
theorem below {below rest : List TreeEntry} {seen₁ : List Oid}
    (h : Placed header entries front (e :: waiting) seen (e :: (below ++ rest)) seen')
    (hbelow : Listing header (entriesOf header (e.depth + 1) (fresh seen e.header.children))
      ((fresh seen e.header.children).reverse ++ seen) below seen₁) :
    Placed header entries (front ++ [e])
      (entriesOf header (e.depth + 1) (fresh seen e.header.children))
      ((fresh seen e.header.children).reverse ++ seen) below seen₁ where
  listing := hbelow
  split := by
    obtain ⟨back, hsplit⟩ := h.split
    exact ⟨rest ++ back, by simp [hsplit]⟩
  seen_iff c := by
    rw [mem_expanded, h.seen_iff]
    simp only [List.mem_append, List.mem_singleton, or_and_right, exists_or, exists_eq_left,
      or_assoc]

/-- The other waiting entries stand behind the first one and what is below it. -/
theorem rest {below rest : List TreeEntry} {seen₁ : List Oid}
    (h : Placed header entries front (e :: waiting) seen (e :: (below ++ rest)) seen')
    (hbelow : Listing header (entriesOf header (e.depth + 1) (fresh seen e.header.children))
      ((fresh seen e.header.children).reverse ++ seen) below seen₁)
    (hrest : Listing header waiting seen₁ rest seen') :
    Placed header entries (front ++ e :: below) waiting seen₁ rest seen' where
  listing := hrest
  split := by
    obtain ⟨back, hsplit⟩ := h.split
    exact ⟨back, by simp [hsplit]⟩
  seen_iff c := by
    rw [hbelow.seen_iff, (h.below hbelow).seen_iff]
    simp only [List.mem_append, List.mem_cons, List.not_mem_nil, or_and_right, exists_or,
      exists_eq_left, or_assoc, or_false]

/-- **Whatever a listing lists is beneath one of its waiting entries.** -/
theorem beneath_waiting (own : Own header)
    (h : Placed header entries front waiting seen out seen') :
    ∀ x ∈ out, ∃ w ∈ waiting, Beneath entries w.header.id x.header.id := by
  obtain ⟨listing, -, -⟩ := id h
  induction listing generalizing front with
  | done => exact fun x hx => absurd hx List.not_mem_nil
  | @visit e waiting below rest seen seen₁ seen₂ hb hr ihb ihr =>
    intro x hx
    rcases List.mem_cons.1 hx with rfl | hx
    · exact ⟨x, List.mem_cons_self, .self⟩
    rcases List.mem_append.1 hx with hx | hx
    · -- below the first waiting entry, everything is beneath a child that was met at that entry
      obtain ⟨w, hw, hbeneath⟩ := ihb (h.below hb) x hx
      obtain ⟨-, hf, -⟩ := (mem_entriesOf_own own).1 hw
      obtain ⟨hchild, hnew⟩ := mem_fresh.1 hf
      obtain ⟨back, hsplit⟩ := h.split
      have hfinder : finder? entries w.header.id = some e := by
        refine finder?_split hsplit hchild fun y hy hc => hnew ?_
        exact (h.seen_iff _).2 (.inr ⟨y, hy, hc⟩)
      exact ⟨e, List.mem_cons_self, (Beneath.self.met hfinder).trans hbeneath⟩
    · obtain ⟨w, hw, hbeneath⟩ := ihr (h.rest hb hr) x hx
      exact ⟨w, List.mem_cons_of_mem _ hw, hbeneath⟩

/-- What is met at an entry of a listing is in the listing. -/
theorem mem_of_finder? (h : Placed header entries front waiting seen out seen')
    (complete : Complete header entries) {x : TreeEntry} {c : Oid} (hx : x ∈ out)
    (hfinder : finder? entries c = some x) (hne : c ≠ .chassis)
    (hc : c ∈ entries.map (·.header.id)) : c ∈ out.map (·.header.id) := by
  obtain ⟨back, hsplit⟩ := h.split
  have hmet : c ∈ seen' := h.listing.children_met x hx c (Walk.mem_of_finder? hfinder).2
  have hnew : c ∉ seen := by
    rw [h.seen_iff]
    rintro (rfl | ⟨y, hy, hyc⟩)
    · exact hne rfl
    · exact not_mem_children_of_finder? complete.nodup hsplit (List.mem_append_left _ hx) hfinder
        y hy hyc
  obtain ⟨k, hk, rfl⟩ := List.mem_map.1 hc
  obtain ⟨e, he, hek⟩ := h.listing.met_listed _ hmet hnew _ (complete.own k hk)
  exact List.mem_map.2 ⟨e, he, by rw [hek]⟩

/-- **Whatever is beneath an entry of a listing is in the listing**, if nothing lists the
chassis. -/
theorem mem_of_beneath (h : Placed header entries front waiting seen out seen')
    (complete : Complete header entries)
    (top : ∀ e ∈ entries, Oid.chassis ∉ e.header.children) {a b : Oid}
    (ha : a ∈ out.map (·.header.id)) (hbeneath : Beneath entries a b)
    (hb : b ∈ entries.map (·.header.id)) : b ∈ out.map (·.header.id) := by
  induction hbeneath with
  | self => exact ha
  | @met finder c hbeneath hfinder ih =>
    obtain ⟨hmem, hchild⟩ := Walk.mem_of_finder? hfinder
    obtain ⟨x, hx, hid⟩ := List.mem_map.1 (ih (List.mem_map_of_mem hmem))
    obtain ⟨back, hsplit⟩ := h.split
    have hx' : x ∈ entries := hsplit ▸ List.mem_append_right _ (List.mem_append_left _ hx)
    obtain rfl := eq_of_id_eq complete.nodup hx' hmem hid
    refine h.mem_of_finder? complete hx hfinder ?_ hb
    rintro rfl
    exact top x hmem hchild

/-- Listings one behind the other. -/
theorem of_append {first second : List TreeEntry}
    (h : Placed header entries front (first ++ second) seen out seen') :
    ∃ out₁ seen₁ out₂, out = out₁ ++ out₂ ∧ Placed header entries front first seen out₁ seen₁ ∧
      Listing header second seen₁ out₂ seen' := by
  obtain ⟨out₁, seen₁, out₂, rfl, h₁, h₂⟩ := h.listing.of_append
  obtain ⟨back, hsplit⟩ := h.split
  exact ⟨out₁, seen₁, out₂, rfl, ⟨h₁, ⟨out₂ ++ back, by simp [hsplit]⟩, h.seen_iff⟩, h₂⟩

/-- Every entry of a listing is visited: what is below it stands right behind it. -/
theorem visited (h : Placed header entries front waiting seen out seen') {d : TreeEntry}
    (hd : d ∈ out) :
    ∃ front' seen₀ below seen₁,
      Placed header entries (front' ++ [d])
        (entriesOf header (d.depth + 1) (fresh seen₀ d.header.children))
        ((fresh seen₀ d.header.children).reverse ++ seen₀) below seen₁ ∧
      ∀ c, c ∈ seen₀ ↔ c = .chassis ∨ ∃ e ∈ front', c ∈ e.header.children := by
  obtain ⟨listing, -, -⟩ := id h
  induction listing generalizing front with
  | done => exact absurd hd List.not_mem_nil
  | @visit e waiting below rest seen seen₁ seen₂ hb hr ihb ihr =>
    rcases List.mem_cons.1 hd with rfl | hd
    · exact ⟨front, seen, below, seen₁, h.below hb, h.seen_iff⟩
    rcases List.mem_append.1 hd with hd | hd
    · exact ihb (h.below hb) hd
    · exact ihr (h.rest hb hr) hd

/-- **The children that wait below an entry are those that are met at it**, if nothing lists the
chassis. -/
theorem mem_children_iff {d : TreeEntry} {seen₀ : List Oid}
    (h : Placed header entries (front ++ [d])
      (entriesOf header (d.depth + 1) (fresh seen₀ d.header.children))
      ((fresh seen₀ d.header.children).reverse ++ seen₀) out seen')
    (own : Own header) (complete : Complete header entries)
    (top : ∀ e ∈ entries, Oid.chassis ∉ e.header.children)
    (hseen : ∀ c, c ∈ seen₀ ↔ c = .chassis ∨ ∃ e ∈ front, c ∈ e.header.children)
    (he : e ∈ entries) :
    e ∈ entriesOf header (d.depth + 1) (fresh seen₀ d.header.children) ↔
      finder? entries e.header.id = some d := by
  obtain ⟨back, hsplit⟩ := h.split
  rw [List.append_assoc, List.singleton_append] at hsplit
  constructor
  · intro hw
    obtain ⟨hmem, hnew⟩ := mem_fresh.1 ((mem_entriesOf_own own).1 hw).2.1
    exact finder?_split hsplit hmem fun y hy hyc => hnew ((hseen _).2 (.inr ⟨y, hy, hyc⟩))
  · intro hfinder
    obtain ⟨hd, hmem⟩ := Walk.mem_of_finder? hfinder
    have hnew : e.header.id ∉ seen₀ := by
      rw [hseen]
      rintro (hchassis | ⟨y, hy, hyc⟩)
      · exact top d hd (hchassis ▸ hmem)
      · exact not_mem_children_of_finder? complete.nodup hsplit List.mem_cons_self hfinder y hy hyc
    -- the child waits with a depth of its own, and nothing else in the walk has its id
    have hw : (⟨d.depth + 1, e.header⟩ : TreeEntry) ∈
        entriesOf header (d.depth + 1) (fresh seen₀ d.header.children) :=
      (mem_entriesOf_own own).2 ⟨rfl, mem_fresh.2 ⟨hmem, hnew⟩, complete.own e he⟩
    have hlisted : (⟨d.depth + 1, e.header⟩ : TreeEntry) ∈ entries := by
      rw [hsplit]
      exact List.mem_append_right _ (List.mem_cons_of_mem _
        (List.mem_append_left _ (h.listing.waiting_subset hw)))
    rwa [← eq_of_id_eq complete.nodup hlisted he rfl]

end Placed

/-! ## Parents and children in a walk -/

/-- The whole walk is placed at its own start. -/
theorem Listing.placed {entries waiting : List TreeEntry} {seen' : List Oid}
    (h : Listing header waiting [.chassis] entries seen') :
    Placed header entries [] waiting [.chassis] entries seen' where
  listing := h
  split := ⟨[], by simp⟩
  seen_iff c := by simp

section Children

variable {entries waiting : List TreeEntry} {seen' : List Oid} {c p : TreeEntry}

/-- **Where a child stands**: behind the entry at which it was met, and behind whatever is beneath
the children that were met there and are listed before it. -/
theorem child_split (own : Own header) (complete : Complete header entries)
    (top : ∀ e ∈ entries, Oid.chassis ∉ e.header.children)
    (h : Listing header waiting [.chassis] entries seen') (hc : c ∈ entries)
    (hp : p ∈ entries) (hchild : c.header.id ∈ p.header.children) :
    ∃ d front earlier seen₀ out seen₁ back, finder? entries c.header.id = some d ∧
      (∀ y ∈ front, c.header.id ∉ y.header.children) ∧
      entries = (front ++ [d] ++ out) ++ c :: back ∧
      Placed header entries (front ++ [d]) earlier seen₀ out seen₁ ∧
      ∀ e ∈ entries, e ∈ earlier ↔ finder? entries e.header.id = some d ∧
        d.header.children.idxOf e.header.id < d.header.children.idxOf c.header.id := by
  obtain ⟨d, hfinder⟩ := exists_finder? hp hchild
  obtain ⟨hd, hdc⟩ := mem_of_finder? hfinder
  obtain ⟨front, seen₀, below, seen₁, placed, hseen⟩ := h.placed.visited hd
  obtain ⟨back, hsplit⟩ := placed.split
  rw [List.append_assoc, List.singleton_append] at hsplit
  have waits : ∀ e ∈ entries,
      e ∈ entriesOf header (d.depth + 1) (fresh seen₀ d.header.children) ↔
        finder? entries e.header.id = some d :=
    fun e he => placed.mem_children_iff own complete top hseen he
  obtain ⟨earlier, later, hws⟩ := List.append_of_mem ((waits c hc).2 hfinder)
  have ordered := pairwise_entriesOf own (d.depth + 1) seen₀ d.header.children
  rw [hws] at placed waits ordered
  obtain ⟨out, seen₂, out₂, rfl, hearlier, hrest⟩ := placed.of_append
  cases hrest with
  | @visit _ _ below' rest _ _ _ _ _ =>
    refine ⟨d, front, earlier, _, out, seen₂, below' ++ rest ++ back, hfinder, ?_, ?_, hearlier, ?_⟩
    · exact not_mem_children_of_finder? complete.nodup hsplit List.mem_cons_self hfinder
    · simp [hsplit]
    · intro e he
      rw [mem_front_iff_of_pairwise ordered, waits e he]

/-- **A child comes after a parent exactly if it is met in time for it.** -/
theorem before_iff_inTime (own : Own header) (complete : Complete header entries)
    (top : ∀ e ∈ entries, Oid.chassis ∉ e.header.children)
    (h : Listing header waiting [.chassis] entries seen') (hp : p ∈ entries) (hc : c ∈ entries)
    (hchild : c.header.id ∈ p.header.children) :
    Before entries p.header.id c.header.id ↔ InTime entries p c.header.id := by
  obtain ⟨d, front, earlier, seen₀, out, seen₁, back, hfinder, hnew, hsplit, placed, hearlier⟩ :=
    child_split own complete top h hc hp hchild
  have listed : ∀ e ∈ earlier, e ∈ entries := by
    intro e he
    rw [hsplit]
    exact List.mem_append_left _ (List.mem_append_right _ (placed.listing.waiting_subset he))
  constructor
  · intro hbefore
    refine ⟨d, hfinder, ?_⟩
    obtain ⟨x, hx, hid⟩ := List.mem_map.1 (hbefore.mem_front complete.nodup hsplit)
    have hx' : x ∈ entries := hsplit ▸ List.mem_append_left _ hx
    obtain rfl := eq_of_id_eq complete.nodup hx' hp hid
    rcases List.mem_append.1 hx with hx | hx
    · rcases List.mem_append.1 hx with hx | hx
      · exact absurd hchild (hnew x hx)
      · exact .inl (List.mem_singleton.1 hx).symm
    · obtain ⟨w, hw, hbeneath⟩ := placed.beneath_waiting own x hx
      obtain ⟨hwd, hlt⟩ := (hearlier w (listed w hw)).1 hw
      exact .inr ⟨w.header.id, hwd, hlt, hbeneath⟩
  · rintro ⟨d', hd', hmet⟩
    obtain rfl := Option.some.inj (hfinder.symm.trans hd')
    refine before_of_mem hsplit ?_ (List.mem_map_of_mem List.mem_cons_self)
    rcases hmet with rfl | ⟨e, hed, hlt, hbeneath⟩
    · exact List.mem_map_of_mem (by simp)
    · obtain ⟨w, hw, rfl⟩ := List.mem_map.1 (hbeneath.mem (List.mem_map_of_mem hp))
      have hmem := placed.listing.waiting_subset ((hearlier w hw).2 ⟨hed, hlt⟩)
      have hpout := placed.mem_of_beneath complete top (List.mem_map_of_mem hmem) hbeneath
        (List.mem_map_of_mem hp)
      rw [List.map_append]
      exact List.mem_append_right _ hpout

end Children

/-- A walk that ends well has a header for the chassis, and lists from there. -/
theorem listing_of_walk {entries : List TreeEntry} (hwalk : walk header = .ok entries) :
    ∃ top seen', header .chassis = .ok top ∧
      Listing header [⟨0, top⟩] [.chassis] entries seen' := by
  cases htop : header .chassis with
  | ok top =>
    obtain ⟨out, seen', hout, h⟩ := walk_listing htop
    obtain rfl := Except.ok.inj (hwalk.symm.trans hout)
    exact ⟨top, seen', rfl, h⟩
  | error e => simp [SwitchPlatform.walk, htop] at hwalk

/-- A child comes after a parent in the walk of headers without cycles exactly if it is met in time
for it. -/
theorem before_iff_of_walk (own : Own header) (acyclic : Acyclic header)
    {entries : List TreeEntry} (hwalk : walk header = .ok entries) {p c : TreeEntry}
    (hp : p ∈ entries) (hc : c ∈ entries) (hchild : c.header.id ∈ p.header.children) :
    Before entries p.header.id c.header.id ↔ InTime entries p c.header.id := by
  obtain ⟨top, seen', htop, h⟩ := listing_of_walk hwalk
  have complete := h.complete own htop
  refine before_iff_inTime own complete ?_ h hp hc hchild
  intro e he
  exact acyclic.chassis_not_mem ((complete.mem_iff _).1 (List.mem_map_of_mem he))
    (complete.own e he)

/-- **When a parent comes before its child.** In the walk of headers without cycles, an object comes
before a child that its header lists exactly if the walk meets the child at that object, or at an
object that lists the child behind one that the parent is beneath. -/
theorem parent_before_child_iff (own : Own header) (acyclic : Acyclic header) {top : Header}
    (htop : header .chassis = .ok top) :
    ∃ entries, walk header = .ok entries ∧ ∀ p ∈ entries, ∀ c ∈ entries,
      c.header.id ∈ p.header.children →
        (Before entries p.header.id c.header.id ↔ InTime entries p c.header.id) :=
  ⟨_, walk_of_chassis htop, fun _ hp _ hc =>
    before_iff_of_walk own acyclic (walk_of_chassis htop) hp hc⟩

/-- Headers of a chassis with these children, a power supply with those `below` it, and a fan. -/
def sharedFan (children below : List Oid) (id : Oid) : Except StatusError Header :=
  match id.kind, id.index with
  | .sys, 1 => .ok ⟨id, "Chassis", .chassis, children⟩
  | .psu, 1 => .ok ⟨id, "PSU 1", .chassis, below⟩
  | .fan, 1 => .ok ⟨id, "Fan 1", .chassis, []⟩
  | _, _ => .error .param

theorem own_sharedFan (children below : List Oid) : Own (sharedFan children below) := by
  intro id h hh
  simp only [sharedFan] at hh
  split at hh <;> cases hh <;> rfl

theorem acyclic_sharedFan {children : List Oid} (hne : Oid.chassis ∉ children) :
    Acyclic (sharedFan children [.fan 1]) := by
  refine .of_rank (fun id => match id.kind with | .sys => 2 | .psu => 1 | _ => 0) ?_
  rintro ⟨pk, pi, _, _⟩ ⟨ck, ci, _, _⟩ ⟨h, k, hp, hc, hk⟩
  simp only [sharedFan] at hp hk
  split at hp <;> cases hp
  · -- of the children of the chassis, only the chassis itself would be too high
    split at hk <;> cases hk
    · exact absurd hc hne
    · exact Nat.one_lt_two
    · exact Nat.two_pos
  · cases List.mem_singleton.1 hc
    exact Nat.one_pos
  · exact absurd hc List.not_mem_nil

/-- With the fan listed behind the power supply, it comes after both of its parents. -/
theorem sharedFan_parent_before_child :
    Own (sharedFan [.psu 1, .fan 1] [.fan 1]) ∧ Acyclic (sharedFan [.psu 1, .fan 1] [.fan 1]) ∧
      ∃ top, sharedFan [.psu 1, .fan 1] [.fan 1] .chassis = .ok top ∧
      ∃ entries, walk (sharedFan [.psu 1, .fan 1] [.fan 1]) = .ok entries ∧
        (entries.map (·.header.id)) = [.chassis, .psu 1, .fan 1] ∧
        ∀ p ∈ entries, ∀ c ∈ entries, c.header.id ∈ p.header.children →
          (Before entries p.header.id c.header.id ↔ InTime entries p c.header.id) := by
  have acyclic : Acyclic (sharedFan [.psu 1, .fan 1] [.fan 1]) := acyclic_sharedFan (by decide)
  obtain ⟨entries, hwalk, h⟩ :=
    parent_before_child_iff (own_sharedFan [.psu 1, .fan 1] [.fan 1]) acyclic rfl
  refine ⟨own_sharedFan _ _, acyclic, _, rfl, entries, hwalk, ?_, h⟩
  obtain rfl := Except.ok.inj hwalk
  rfl

/-- With the fan listed before the power supply, it comes before that parent. -/
theorem sharedFan_child_first :
    Own (sharedFan [.fan 1, .psu 1] [.fan 1]) ∧ Acyclic (sharedFan [.fan 1, .psu 1] [.fan 1]) ∧
      ∃ entries, walk (sharedFan [.fan 1, .psu 1] [.fan 1]) = .ok entries ∧
        (entries.map (·.header.id)) = [.chassis, .fan 1, .psu 1] ∧
        ∃ p ∈ entries, ∃ c ∈ entries, c.header.id ∈ p.header.children ∧
          ¬Before entries p.header.id c.header.id := by
  refine ⟨own_sharedFan _ _, acyclic_sharedFan (by decide), _, rfl, rfl, ?_⟩
  exact ⟨⟨1, ⟨.psu 1, "PSU 1", .chassis, [.fan 1]⟩⟩, by decide,
    ⟨1, ⟨.fan 1, "Fan 1", .chassis, []⟩⟩, by decide, by decide, by decide⟩

end SwitchPlatform.Walk
