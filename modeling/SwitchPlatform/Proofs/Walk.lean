import Mathlib.Data.List.Nodup
import Mathlib.Data.List.Perm.Subperm
import SwitchPlatform.Platform.Walk

/-!
# The walk as a listing

`Walk.walkFrom` keeps a list of waiting entries and the ids met so far. This module gives it a
second form, `Walk.Listing`, which follows the tree and not the waiting list: an entry is listed,
then what is below it, then the other waiting entries.

* Expanding an entry meets the children that are new, each at its first place (`expand_eq`).
* There are no more ids than `Walk.idCount` (`length_le_idCount`), so the bound of `walkFrom` is
  never what ends a walk, and every walk is a listing (`walkFrom_listing`).
* A walk lists the ids that are reachable through headers (`mem_ids_iff_reachable`), each once
  (`nodup_ids`), with its own header (`Listing.honest`).
* Every entry but the first stands behind one that lists it as a child and is one step nearer to
  the chassis, with nothing of that depth or less between the two (`Listing.behind_lister`).
-/

namespace SwitchPlatform.Walk

variable {header : Oid → Except StatusError Header}

/-! ## Expanding an entry -/

/-- The members of a list that are not in `seen`, each at its first place. -/
def fresh : List Oid → List Oid → List Oid
  | _, [] => []
  | seen, c :: cs => if c ∈ seen then fresh seen cs else c :: fresh (c :: seen) cs

/-- The entries of those ids that have a header. -/
def entriesOf (header : Oid → Except StatusError Header) (depth : Nat) (ids : List Oid) :
    List TreeEntry :=
  ids.filterMap fun c => (header c).toOption.map (TreeEntry.mk depth)

theorem mem_fresh {seen cs : List Oid} {c : Oid} : c ∈ fresh seen cs ↔ c ∈ cs ∧ c ∉ seen := by
  induction cs generalizing seen with
  | nil => simp [fresh]
  | cons d cs ih =>
    by_cases hd : d ∈ seen
    · simp only [fresh, if_pos hd, ih, List.mem_cons]
      constructor
      · rintro ⟨h, hs⟩
        exact ⟨.inr h, hs⟩
      · rintro ⟨rfl | h, hs⟩
        · exact absurd hd hs
        · exact ⟨h, hs⟩
    · simp only [fresh, if_neg hd, List.mem_cons, ih, not_or]
      constructor
      · rintro (rfl | ⟨h, -, hs⟩)
        · exact ⟨.inl rfl, hd⟩
        · exact ⟨.inr h, hs⟩
      · rintro ⟨h, hs⟩
        by_cases hcd : c = d
        · exact .inl hcd
        · exact .inr ⟨h.resolve_left hcd, hcd, hs⟩

theorem nodup_fresh (seen cs : List Oid) : (fresh seen cs).Nodup := by
  induction cs generalizing seen with
  | nil => exact List.nodup_nil
  | cons d cs ih =>
    by_cases hd : d ∈ seen
    · simpa only [fresh, if_pos hd] using ih seen
    · simp only [fresh, if_neg hd, List.nodup_cons]
      exact ⟨fun h => (mem_fresh.1 h).2 List.mem_cons_self, ih _⟩

/-- What was met elsewhere does not matter for the members of a list. -/
theorem fresh_congr {seen seen' cs : List Oid} (h : ∀ c ∈ cs, c ∈ seen ↔ c ∈ seen') :
    fresh seen cs = fresh seen' cs := by
  induction cs generalizing seen seen' with
  | nil => rfl
  | cons d cs ih =>
    have hd := h d List.mem_cons_self
    have hcs : ∀ c ∈ cs, c ∈ seen ↔ c ∈ seen' := fun c hc => h c (List.mem_cons_of_mem _ hc)
    by_cases hs : d ∈ seen
    · rw [fresh, fresh, if_pos hs, if_pos (hd.1 hs), ih hcs]
    · rw [fresh, fresh, if_neg hs, if_neg (mt hd.2 hs)]
      refine congrArg (d :: ·) (ih ?_)
      intro c hc
      simp only [List.mem_cons, hcs c hc]

/-- A list of new ids without repetition is met as it stands. -/
theorem fresh_eq_self {seen cs : List Oid} (nodup : cs.Nodup) (h : ∀ c ∈ cs, c ∉ seen) :
    fresh seen cs = cs := by
  induction cs generalizing seen with
  | nil => rfl
  | cons d cs ih =>
    obtain ⟨hd, hcs⟩ := List.nodup_cons.1 nodup
    rw [fresh, if_neg (h d List.mem_cons_self), ih hcs]
    intro c hc
    simp only [List.mem_cons, not_or]
    exact ⟨fun e => hd (e ▸ hc), h c (List.mem_cons_of_mem _ hc)⟩

/-- An expansion meets the children, beside what was met before. -/
theorem mem_expanded {seen cs : List Oid} {c : Oid} :
    c ∈ (fresh seen cs).reverse ++ seen ↔ c ∈ seen ∨ c ∈ cs := by
  rw [List.mem_append, List.mem_reverse, mem_fresh]
  tauto

/-- **Expanding an entry** lists the new children that have headers, and meets all new ones. -/
theorem expand_eq (depth : Nat) (cs seen : List Oid) :
    expand header depth cs seen =
      (entriesOf header depth (fresh seen cs), (fresh seen cs).reverse ++ seen) := by
  induction cs generalizing seen with
  | nil => rfl
  | cons c cs ih =>
    by_cases hc : c ∈ seen
    · simp only [expand, fresh, List.contains_eq_mem, hc, decide_true, if_true, ih]
    · simp only [expand, fresh, List.contains_eq_mem, hc, decide_false, Bool.false_eq_true,
        if_false, ih, List.reverse_cons, List.append_assoc, List.singleton_append]
      cases hh : header c with
      | ok h => simp [entriesOf, hh, Except.toOption]
      | error e => simp [entriesOf, hh, Except.toOption]

theorem mem_entriesOf {depth : Nat} {ids : List Oid} {e : TreeEntry} :
    e ∈ entriesOf header depth ids ↔ e.depth = depth ∧ ∃ c ∈ ids, header c = .ok e.header := by
  simp only [entriesOf, List.mem_filterMap]
  constructor
  · rintro ⟨c, hc, he⟩
    cases hh : header c with
    | ok h =>
      simp only [hh, Except.toOption, Option.map_some, Option.some.injEq] at he
      exact ⟨by rw [← he], c, hc, by rw [← he, hh]⟩
    | error err => simp [hh, Except.toOption] at he
  · rintro ⟨rfl, c, hc, hh⟩
    exact ⟨c, hc, by simp [hh, Except.toOption]⟩

/-! ## The number of ids -/

/-- The place of an id when the ids are counted through, kind by kind. -/
def place (id : Oid) : Nat := (id.kind.code - 1) * Oid.maxIndex + (id.index - 1)

theorem place_lt (id : Oid) : place id < idCount := by
  have hi := id.index_le
  have hp := id.index_pos
  have hk := id.kind.code_le
  have : (id.kind.code - 1) * Oid.maxIndex ≤ 6 * Oid.maxIndex := Nat.mul_le_mul_right _ (by omega)
  simp only [place, idCount, Oid.maxIndex] at *
  omega

theorem place_injective : Function.Injective place := by
  rintro ⟨k, i, hi, hi'⟩ ⟨k', i', hj, hj'⟩ h
  simp only [place, Oid.maxIndex] at h hi' hj'
  have hkk : k = k' := by cases k <;> cases k' <;> simp only [Oid.Kind.code] at h ⊢ <;> omega
  subst hkk
  have hii : i = i' := by omega
  subst hii
  rfl

/-- A list of ids without repetition is no longer than there are ids. -/
theorem length_le_idCount {ids : List Oid} (nodup : ids.Nodup) : ids.length ≤ idCount := by
  have hsub : ids.map place ⊆ List.range idCount := by
    intro n hn
    obtain ⟨id, -, rfl⟩ := List.mem_map.1 hn
    exact List.mem_range.2 (place_lt id)
  have h := (List.subperm_of_subset (nodup.map place_injective) hsub).length_le
  simpa only [List.length_map, List.length_range] using h

/-! ## The listing -/

/-- `Listing header waiting seen out seen'` says that the waiting entries, with the ids of `seen`
met before, list `out`, each entry followed by what is below it, and that `seen'` are the ids met
in the end. -/
inductive Listing (header : Oid → Except StatusError Header) :
    List TreeEntry → List Oid → List TreeEntry → List Oid → Prop
  | done (seen : List Oid) : Listing header [] seen [] seen
  | visit {e : TreeEntry} {waiting below rest : List TreeEntry} {seen seen₁ seen₂ : List Oid} :
      Listing header (entriesOf header (e.depth + 1) (fresh seen e.header.children))
        ((fresh seen e.header.children).reverse ++ seen) below seen₁ →
      Listing header waiting seen₁ rest seen₂ →
      Listing header (e :: waiting) seen (e :: (below ++ rest)) seen₂

namespace Listing

variable {waiting out : List TreeEntry} {seen seen' : List Oid}

/-- A listing of two lists of entries is one of the first and then one of the second. -/
theorem of_append {first second : List TreeEntry}
    (h : Listing header (first ++ second) seen out seen') :
    ∃ out₁ seen₁ out₂, out = out₁ ++ out₂ ∧ Listing header first seen out₁ seen₁ ∧
      Listing header second seen₁ out₂ seen' := by
  induction first generalizing seen out with
  | nil => exact ⟨[], seen, out, rfl, .done seen, h⟩
  | cons e first ih =>
    cases h with
    | visit hbelow hrest =>
      obtain ⟨out₁, seen₁, out₂, rfl, h₁, h₂⟩ := ih hrest
      exact ⟨_, seen₁, out₂, by simp, .visit hbelow h₁, h₂⟩

end Listing

/-- Does the bound suffice for the waiting entries and everything not met yet? -/
def Enough (bound : Nat) (waiting : List TreeEntry) (seen : List Oid) : Prop :=
  waiting.length + (idCount - seen.length) < bound

theorem length_entriesOf_le (header : Oid → Except StatusError Header) (depth : Nat)
    (ids : List Oid) : (entriesOf header depth ids).length ≤ ids.length :=
  List.length_filterMap_le _ _

theorem nodup_expanded {seen : List Oid} (nodup : seen.Nodup) (cs : List Oid) :
    ((fresh seen cs).reverse ++ seen).Nodup := by
  refine List.Nodup.append (List.nodup_reverse.2 (nodup_fresh seen cs)) nodup ?_
  intro c hc hs
  exact (mem_fresh.1 (List.mem_reverse.1 hc)).2 hs

/-- Taking the first waiting entry off leaves a bound that suffices. -/
theorem Enough.step (header : Oid → Except StatusError Header) {bound : Nat} {e : TreeEntry}
    {waiting : List TreeEntry} {seen : List Oid} (nodup : seen.Nodup)
    (h : Enough (bound + 1) (e :: waiting) seen) :
    Enough bound
      (entriesOf header (e.depth + 1) (fresh seen e.header.children) ++ waiting)
      ((fresh seen e.header.children).reverse ++ seen) := by
  have hle := length_le_idCount (nodup_expanded nodup e.header.children)
  have hnew := length_entriesOf_le header (e.depth + 1) (fresh seen e.header.children)
  simp only [Enough, List.length_append, List.length_cons, List.length_reverse] at h hle hnew ⊢
  omega

/-- **Every walk is a listing**: a bound that suffices is never what ends it. -/
theorem walkFrom_listing {bound : Nat} {waiting : List TreeEntry} {seen : List Oid}
    (nodup : seen.Nodup) (enough : Enough bound waiting seen) :
    ∃ seen', Listing header waiting seen (walkFrom header bound waiting seen) seen' := by
  induction bound generalizing waiting seen with
  | zero => exact absurd enough (Nat.not_lt_zero _)
  | succ bound ih =>
    cases waiting with
    | nil => exact ⟨seen, .done seen⟩
    | cons e waiting =>
      obtain ⟨seen', h⟩ := ih (nodup_expanded nodup e.header.children) (enough.step header nodup)
      obtain ⟨below, seen₁, rest, hout, hbelow, hrest⟩ := h.of_append
      have hwalk : walkFrom header (bound + 1) (e :: waiting) seen = e :: (below ++ rest) := by
        simp only [walkFrom, expand_eq, hout]
      rw [hwalk]
      exact ⟨seen', .visit hbelow hrest⟩

/-- The bound of a walk suffices for what waits at its start. -/
theorem enough_chassis (top : Header) : Enough (idCount + 1) [⟨0, top⟩] [.chassis] := by
  simp [Enough, idCount]

theorem walk_of_chassis {top : Header} (htop : header .chassis = .ok top) :
    walk header = .ok (walkFrom header (idCount + 1) [⟨0, top⟩] [.chassis]) := by
  rw [SwitchPlatform.walk, htop]

/-- The walk of headers with one for the chassis. -/
theorem walk_listing {top : Header} (htop : header .chassis = .ok top) :
    ∃ out seen', walk header = .ok out ∧ Listing header [⟨0, top⟩] [.chassis] out seen' := by
  obtain ⟨seen', h⟩ := walkFrom_listing (List.nodup_singleton Oid.chassis) (enough_chassis top)
  exact ⟨_, seen', walk_of_chassis htop, h⟩

/-! ## What a listing lists -/

/-- Every header is that of the id it was asked for. -/
def Own (header : Oid → Except StatusError Header) : Prop :=
  ∀ id h, header id = .ok h → h.id = id

theorem mem_entriesOf_own (own : Own header) {depth : Nat} {ids : List Oid} {e : TreeEntry} :
    e ∈ entriesOf header depth ids ↔
      e.depth = depth ∧ e.header.id ∈ ids ∧ header e.header.id = .ok e.header := by
  rw [mem_entriesOf]
  constructor
  · rintro ⟨hd, c, hc, hh⟩
    obtain rfl := own c _ hh
    exact ⟨hd, hc, hh⟩
  · rintro ⟨hd, hc, hh⟩
    exact ⟨hd, _, hc, hh⟩

theorem ids_entriesOf (own : Own header) (depth : Nat) (ids : List Oid) :
    (entriesOf header depth ids).map (·.header.id) = ids.filter fun c => (header c).isOk := by
  induction ids with
  | nil => rfl
  | cons c ids ih =>
    cases hh : header c with
    | ok h =>
      have hid := own c h hh
      simp_all [entriesOf, Except.toOption, Except.isOk, Except.toBool]
    | error e => simp_all [entriesOf, Except.toOption, Except.isOk, Except.toBool]

/-- The waiting entries have their own headers, are distinct, and were met before. -/
structure Open (header : Oid → Except StatusError Header) (waiting : List TreeEntry)
    (seen : List Oid) : Prop where
  honest : ∀ e ∈ waiting, header e.header.id = .ok e.header
  nodup : (waiting.map (·.header.id)).Nodup
  met : ∀ e ∈ waiting, e.header.id ∈ seen

/-- The entries that an expansion adds are open. -/
theorem open_expanded (own : Own header) (depth : Nat) (seen cs : List Oid) :
    Open header (entriesOf header depth (fresh seen cs)) ((fresh seen cs).reverse ++ seen) where
  honest e he := ((mem_entriesOf_own own).1 he).2.2
  nodup := by
    rw [ids_entriesOf own]
    exact (nodup_fresh seen cs).filter _
  met e he := List.mem_append_left _ (List.mem_reverse.2 ((mem_entriesOf_own own).1 he).2.1)

theorem Open.tail {e : TreeEntry} {waiting : List TreeEntry} {seen seen' : List Oid}
    (h : Open header (e :: waiting) seen) (sub : seen ⊆ seen') : Open header waiting seen' where
  honest x hx := h.honest x (List.mem_cons_of_mem _ hx)
  nodup := (List.nodup_cons.1 h.nodup).2
  met x hx := sub (h.met x (List.mem_cons_of_mem _ hx))

namespace Listing

variable {waiting out : List TreeEntry} {seen seen' : List Oid}

/-- **What is met in the end** was met before, or is a child of an entry listed. -/
theorem seen_iff (h : Listing header waiting seen out seen') (c : Oid) :
    c ∈ seen' ↔ c ∈ seen ∨ ∃ e ∈ out, c ∈ e.header.children := by
  induction h with
  | done => simp
  | visit hb hr ihb ihr =>
    rw [ihr, ihb, mem_expanded]
    simp only [List.mem_cons, List.mem_append, or_and_right, exists_or, or_assoc, exists_eq_left]

/-- What was met stays met. -/
theorem seen_subset (h : Listing header waiting seen out seen') : seen ⊆ seen' :=
  fun c hc => (h.seen_iff c).2 (.inl hc)

/-- The children of every entry listed are met. -/
theorem children_met (h : Listing header waiting seen out seen') :
    ∀ e ∈ out, ∀ c ∈ e.header.children, c ∈ seen' :=
  fun e he c hc => (h.seen_iff c).2 (.inr ⟨e, he, hc⟩)

/-- Every waiting entry is listed. -/
theorem waiting_subset (h : Listing header waiting seen out seen') : waiting ⊆ out := by
  induction h with
  | done => exact List.Subset.refl _
  | visit hb hr ihb ihr =>
    intro x hx
    rcases List.mem_cons.1 hx with rfl | hx
    · exact List.mem_cons_self
    · exact List.mem_cons_of_mem _ (List.mem_append_right _ (ihr hx))

/-- Every entry listed was waiting, or was met on the way. -/
theorem mem_out (own : Own header) (h : Listing header waiting seen out seen') :
    ∀ e ∈ out, e ∈ waiting ∨ (e.header.id ∈ seen' ∧ e.header.id ∉ seen) := by
  induction h with
  | done => exact fun e he => .inl he
  | @visit e₀ waiting below rest seen seen₁ seen₂ hb hr ihb ihr =>
    intro e he
    rcases List.mem_cons.1 he with rfl | he
    · exact .inl List.mem_cons_self
    rcases List.mem_append.1 he with he | he
    · rcases ihb e he with hw | ⟨hs, hns⟩
      · have hf := ((mem_entriesOf_own own).1 hw).2.1
        have hmet := hb.seen_subset (List.mem_append_left _ (List.mem_reverse.2 hf))
        exact .inr ⟨hr.seen_subset hmet, (mem_fresh.1 hf).2⟩
      · exact .inr ⟨hr.seen_subset hs, fun hm => hns (List.mem_append_right _ hm)⟩
    · rcases ihr e he with hw | ⟨hs, hns⟩
      · exact .inl (List.mem_cons_of_mem _ hw)
      · exact .inr ⟨hs, fun hm => hns (hb.seen_subset (List.mem_append_right _ hm))⟩

/-- Every entry listed has its own header. -/
theorem honest (own : Own header) (h : Listing header waiting seen out seen')
    (opened : Open header waiting seen) : ∀ e ∈ out, header e.header.id = .ok e.header := by
  induction h with
  | done => exact opened.honest
  | visit hb hr ihb ihr =>
    intro e he
    rcases List.mem_cons.1 he with rfl | he
    · exact opened.honest e List.mem_cons_self
    rcases List.mem_append.1 he with he | he
    · exact ihb (open_expanded own _ _ _) e he
    · refine ihr (opened.tail fun c hc => ?_) e he
      exact hb.seen_subset (List.mem_append_right _ hc)

/-- **No object is listed twice.** -/
theorem nodup_ids (own : Own header) (h : Listing header waiting seen out seen')
    (opened : Open header waiting seen) : (out.map (·.header.id)).Nodup := by
  induction h with
  | done => exact opened.nodup
  | @visit e₀ waiting below rest seen seen₁ seen₂ hb hr ihb ihr =>
    have sub : seen ⊆ seen₁ := fun c hc => hb.seen_subset (List.mem_append_right _ hc)
    have hbelow := ihb (open_expanded own _ _ _)
    have hrest := ihr (opened.tail sub)
    -- what is below was not met before, and what comes after was met before or after it
    have new_below : ∀ e ∈ below, e.header.id ∈ seen₁ ∧ e.header.id ∉ seen := by
      intro e he
      rcases hb.mem_out own e he with hw | ⟨hs, hns⟩
      · have hf := ((mem_entriesOf_own own).1 hw).2.1
        exact ⟨hb.seen_subset (List.mem_append_left _ (List.mem_reverse.2 hf)), (mem_fresh.1 hf).2⟩
      · exact ⟨hs, fun hm => hns (List.mem_append_right _ hm)⟩
    have old_rest : ∀ e ∈ rest, e ∈ waiting ∨ e.header.id ∉ seen₁ := fun e he =>
      (hr.mem_out own e he).imp_right And.right
    have top_met := opened.met e₀ List.mem_cons_self
    simp only [List.map_cons, List.map_append, List.nodup_cons]
    constructor
    · intro hmem
      rcases List.mem_append.1 hmem with hm | hm
      · obtain ⟨e, he, heq⟩ := List.mem_map.1 hm
        exact (new_below e he).2 (heq ▸ top_met)
      · obtain ⟨e, he, heq⟩ := List.mem_map.1 hm
        rcases old_rest e he with hw | hns
        · have hin : e₀.header.id ∈ waiting.map (·.header.id) := List.mem_map.2 ⟨e, hw, heq⟩
          exact (List.nodup_cons.1 opened.nodup).1 hin
        · exact hns (heq ▸ sub top_met)
    · refine List.Nodup.append hbelow hrest ?_
      intro c hc hc'
      obtain ⟨e, he, rfl⟩ := List.mem_map.1 hc
      obtain ⟨e', he', heq⟩ := List.mem_map.1 hc'
      obtain ⟨hs, hns⟩ := new_below e he
      rcases old_rest e' he' with hw | hns'
      · exact hns (heq ▸ opened.met e' (List.mem_cons_of_mem _ hw))
      · exact hns' (heq ▸ hs)

/-- An id that is met on the way and has a header is listed. -/
theorem met_listed (h : Listing header waiting seen out seen') :
    ∀ c ∈ seen', c ∉ seen → ∀ k, header c = .ok k → ∃ e ∈ out, e.header = k := by
  induction h with
  | done => exact fun c hc hns => absurd hc hns
  | @visit e₀ waiting below rest seen seen₁ seen₂ hb hr ihb ihr =>
    intro c hc hns k hk
    by_cases hc₁ : c ∈ seen₁
    · obtain ⟨e, he, hek⟩ : ∃ e ∈ below, e.header = k := by
        by_cases hf : c ∈ fresh seen e₀.header.children
        · refine ⟨⟨e₀.depth + 1, k⟩, hb.waiting_subset (mem_entriesOf.2 ⟨rfl, c, hf, hk⟩), rfl⟩
        · refine ihb c hc₁ ?_ k hk
          simp only [List.mem_append, List.mem_reverse, hf, hns, or_self, not_false_eq_true]
      exact ⟨e, List.mem_cons_of_mem _ (List.mem_append_left _ he), hek⟩
    · obtain ⟨e, he, hek⟩ := ihr c hc hc₁ k hk
      exact ⟨e, List.mem_cons_of_mem _ (List.mem_append_right _ he), hek⟩

/-- A property that passes from the waiting entries to children with headers holds of every entry
listed. -/
theorem forall_mem (own : Own header) (h : Listing header waiting seen out seen')
    {P : Oid → Prop} (opened : Open header waiting seen) (start : ∀ e ∈ waiting, P e.header.id)
    (step : ∀ p k c l, P p → header p = .ok k → c ∈ k.children → header c = .ok l → P c) :
    ∀ e ∈ out, P e.header.id := by
  induction h with
  | done => exact start
  | @visit e₀ waiting below rest seen seen₁ seen₂ hb hr ihb ihr =>
    intro e he
    have top := start e₀ List.mem_cons_self
    rcases List.mem_cons.1 he with rfl | he
    · exact top
    rcases List.mem_append.1 he with he | he
    · refine ihb (open_expanded own _ _ _) (fun x hx => ?_) e he
      obtain ⟨-, hf, hh⟩ := (mem_entriesOf_own own).1 hx
      exact step _ _ _ _ top (opened.honest e₀ List.mem_cons_self) (mem_fresh.1 hf).1 hh
    · refine ihr (opened.tail fun c hc => ?_) (fun x hx => start x (List.mem_cons_of_mem _ hx)) e he
      exact hb.seen_subset (List.mem_append_right _ hc)

/-- No entry listed is nearer to the chassis than the waiting ones. -/
theorem depth_le (h : Listing header waiting seen out seen') {d : Nat}
    (start : ∀ e ∈ waiting, d ≤ e.depth) : ∀ e ∈ out, d ≤ e.depth := by
  induction h with
  | done => exact start
  | @visit e₀ waiting below rest seen seen₁ seen₂ hb hr ihb ihr =>
    intro e he
    have top := start e₀ List.mem_cons_self
    rcases List.mem_cons.1 he with rfl | he
    · exact top
    rcases List.mem_append.1 he with he | he
    · refine ihb (fun x hx => ?_) e he
      rw [(mem_entriesOf.1 hx).1]
      omega
    · exact ihr (fun x hx => start x (List.mem_cons_of_mem _ hx)) e he

/-- **Every entry stands behind its lister**: one that was not waiting comes after an entry that
lists it as a child and is one step nearer to the chassis, and everything between the two is
farther away than the lister. -/
theorem behind_lister (own : Own header) (h : Listing header waiting seen out seen')
    {before after : List TreeEntry} {e : TreeEntry} (hout : out = before ++ e :: after) :
    e ∈ waiting ∨ ∃ front p between, before = front ++ p :: between ∧ e.depth = p.depth + 1 ∧
      e.header.id ∈ p.header.children ∧ ∀ x ∈ between, p.depth < x.depth := by
  induction h generalizing before after e with
  | done => exact .inl (by rw [hout]; simp)
  | @visit e₀ waiting below rest seen seen₁ seen₂ hb hr ihb ihr =>
    rcases List.cons_eq_append_iff.1 hout with ⟨-, htop⟩ | ⟨before, rfl, hsplit⟩
    · obtain ⟨rfl, -⟩ := List.cons.inj htop
      exact .inl List.mem_cons_self
    rcases List.append_eq_append_iff.1 hsplit with ⟨gap, hbefore, hrest⟩ | ⟨gap, hbelow, hrest⟩
    · -- the entry is in what comes after the first waiting entry
      rcases ihr hrest with hw | ⟨front, p, between, rfl, hd, hc, hfar⟩
      · exact .inl (List.mem_cons_of_mem _ hw)
      · exact .inr ⟨e₀ :: (below ++ front), p, between, by simp [hbefore], hd, hc, hfar⟩
    · rcases List.cons_eq_append_iff.1 hrest with ⟨rfl, hrest⟩ | ⟨gap, rfl, hrest⟩
      · have hrest' : rest = [] ++ e :: after := hrest.symm
        rcases ihr hrest' with hw | ⟨front, p, between, hnil, -⟩
        · exact .inl (List.mem_cons_of_mem _ hw)
        · simp at hnil
      -- the entry is below the first waiting entry, listed by it or deeper
      · rcases ihb hbelow with hw | ⟨front, p, between, rfl, hd, hc, hfar⟩
        · obtain ⟨hd, hf, -⟩ := (mem_entriesOf_own own).1 hw
          refine .inr ⟨[], e₀, before, rfl, hd, (mem_fresh.1 hf).1, fun x hx => ?_⟩
          have hx' : x ∈ below := hbelow ▸ List.mem_append_left _ hx
          have := hb.depth_le (fun y hy => Nat.le_of_eq (mem_entriesOf.1 hy).1.symm) x hx'
          omega
        · exact .inr ⟨e₀ :: front, p, between, rfl, hd, hc, hfar⟩

end Listing

/-! ## What a walk lists -/

/-- The ids that are reached from the chassis by children with headers. -/
inductive Reachable (header : Oid → Except StatusError Header) : Oid → Prop
  | chassis {top : Header} : header .chassis = .ok top → Reachable header .chassis
  | child {id c : Oid} {h k : Header} : Reachable header id → header id = .ok h →
      c ∈ h.children → header c = .ok k → Reachable header c

theorem open_chassis (own : Own header) {top : Header} (htop : header .chassis = .ok top) :
    Open header [⟨0, top⟩] [.chassis] where
  honest e he := by
    obtain rfl := List.mem_singleton.1 he
    rw [own _ _ htop, htop]
  nodup := List.nodup_singleton _
  met e he := by
    obtain rfl := List.mem_singleton.1 he
    simp [own _ _ htop]

/-- **A walk lists what is reachable**, and nothing else. -/
theorem mem_ids_iff_reachable (own : Own header) {top : Header} {out : List TreeEntry}
    {seen' : List Oid} (htop : header .chassis = .ok top)
    (h : Listing header [⟨0, top⟩] [.chassis] out seen') (id : Oid) :
    id ∈ out.map (·.header.id) ↔ Reachable header id := by
  have opened := open_chassis own htop
  have start : Reachable header top.id := by
    rw [own _ _ htop]
    exact .chassis htop
  constructor
  · intro hid
    obtain ⟨e, he, rfl⟩ := List.mem_map.1 hid
    refine h.forall_mem own opened (fun x hx => ?_) (fun p k c l => .child) e he
    obtain rfl := List.mem_singleton.1 hx
    exact start
  · intro hid
    induction hid with
    | chassis htop' =>
      have hmem := h.waiting_subset List.mem_cons_self
      exact List.mem_map.2 ⟨_, hmem, own _ _ htop⟩
    | @child p c k l hp hk hc hl ih =>
      obtain ⟨e, he, rfl⟩ := List.mem_map.1 ih
      have heq : e.header = k := Except.ok.inj ((h.honest own opened e he).symm.trans hk)
      have hmet := h.children_met e he c (heq ▸ hc)
      by_cases hch : c ∈ [Oid.chassis]
      · obtain rfl := List.mem_singleton.1 hch
        exact List.mem_map.2 ⟨_, h.waiting_subset List.mem_cons_self, own _ _ htop⟩
      · obtain ⟨x, hx, rfl⟩ := h.met_listed c hmet hch l hl
        exact List.mem_map.2 ⟨x, hx, own _ _ hl⟩

end SwitchPlatform.Walk
