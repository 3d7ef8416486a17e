import Mathlib.Data.Prod.Lex
import Mathlib.Data.String.Basic
import Mathlib.Tactic
import SwitchPlatform.Hwmon
import SwitchPlatform.Proofs.Text.Numeral

/-!
# Finding the sensor directory

The sensor directories of a device are the entries named `hwmon` and a numeral (`IsNumbered`). The
one that is found has the least number and, among those of one number, the first name
(`IsChosen`): `choose?_eq_some_iff`. So only the set of the entries matters and not their order, and
entries that have no number, or a larger one than some other entry, do not matter either
(`choose?_of_extends`). `found_least` says this of the directory of a device in a file tree, and
that nothing is found exactly if the directory is not there or has no such entry.
-/

namespace SwitchPlatform.Hwmon

variable {name other : String} {entries entries' : List String} {i j : Nat}

/-! ## Numbered names -/

/-- The name of a sensor directory and its number: the stem, and behind it an unsigned numeral of
32 bits. -/
inductive IsNumbered : String → Nat → Prop
  | intro {ds : List Char} {i : Nat} (h : Text.IsUnsigned 10 ds i) (hle : i ≤ Text.maxWord) :
      IsNumbered (stem ++ String.ofList ds) i

theorem stripBeginning?_eq_some_iff {front cs rest : List Char} :
    stripBeginning? front cs = some rest ↔ cs = front ++ rest := by
  induction front generalizing cs with
  | nil => rw [stripBeginning?, Option.some.injEq, List.nil_append]
  | cons p ps ih =>
    cases cs with
    | nil => simp [stripBeginning?]
    | cons c cs =>
      rw [stripBeginning?, List.cons_append, List.cons.injEq]
      split_ifs with hp
      · rw [ih, and_iff_right hp.symm]
      · exact iff_of_false nofun fun h => hp h.1.symm

theorem index?_eq_some_iff : index? name = some i ↔ IsNumbered name i := by
  rw [index?, Option.bind_eq_some_iff]
  constructor
  · rintro ⟨ds, hds, hi⟩
    have hname : name = stem ++ String.ofList ds := by
      rw [← String.toList_inj, stripBeginning?_eq_some_iff.1 hds, String.toList_append,
        String.toList_ofList]
    obtain ⟨h, hle⟩ := (Text.word?_eq_some_iff (by decide) (by decide)).1 hi
    rw [hname]
    exact .intro h hle
  · rintro ⟨h, hle⟩
    refine ⟨_, stripBeginning?_eq_some_iff.2 ?_,
      (Text.word?_eq_some_iff (by decide) (by decide)).2 ⟨h, hle⟩⟩
    rw [String.toList_append, String.toList_ofList]

theorem index?_eq_none_iff : index? name = none ↔ ∀ i, ¬IsNumbered name i := by
  simp only [Option.eq_none_iff_forall_ne_some, ne_eq, index?_eq_some_iff]

/-! ## The least of numbered names -/

/-- Numbered names are in order of the number, and then of the name. -/
theorem precedes_iff {a b : Nat × String} : precedes a b = true ↔ toLex a ≤ toLex b := by
  rw [Prod.Lex.toLex_le_toLex]
  simp [precedes]

theorem least?_eq_none_iff {xs : List (Nat × String)} : least? xs = none ↔ xs = [] := by
  cases xs with
  | nil => exact iff_of_true rfl rfl
  | cons x xs =>
    rw [least?]
    refine iff_of_false ?_ (List.cons_ne_nil x xs)
    split
    · exact nofun
    · split_ifs <;> exact nofun

theorem least_of_least? {xs : List (Nat × String)} {a : Nat × String} (h : least? xs = some a) :
    a ∈ xs ∧ ∀ b ∈ xs, toLex a ≤ toLex b := by
  induction xs generalizing a with
  | nil => cases h
  | cons x xs ih =>
    rw [least?] at h
    split at h
    · rename_i hnone
      cases h
      rw [least?_eq_none_iff.1 hnone]
      simp
    · rename_i b hb
      obtain ⟨hmem, hleast⟩ := ih hb
      split_ifs at h with hx
      · cases h
        rw [precedes_iff] at hx
        refine ⟨List.mem_cons_self, List.forall_mem_cons.2 ⟨le_rfl, fun c hc => ?_⟩⟩
        exact hx.trans (hleast c hc)
      · cases h
        rw [precedes_iff] at hx
        exact ⟨List.mem_cons_of_mem x hmem, List.forall_mem_cons.2 ⟨(not_le.1 hx).le, hleast⟩⟩

/-- **The winner is the least**, by number and then by name. -/
theorem least?_eq_some_iff {xs : List (Nat × String)} {a : Nat × String} :
    least? xs = some a ↔ a ∈ xs ∧ ∀ b ∈ xs, toLex a ≤ toLex b := by
  refine ⟨least_of_least?, fun ⟨hmem, hleast⟩ => ?_⟩
  cases h : least? xs with
  | none =>
    rw [least?_eq_none_iff.1 h] at hmem
    cases hmem
  | some b =>
    obtain ⟨hmem', hleast'⟩ := least_of_least? h
    rw [toLex.injective ((hleast' a hmem).antisymm (hleast b hmem'))]

/-! ## The chosen entry -/

/-- The numbered entry with the least number and, among those of one number, the first name. -/
structure IsChosen (entries : List String) (name : String) (i : Nat) : Prop where
  mem : name ∈ entries
  numbered : IsNumbered name i
  least : ∀ other ∈ entries, ∀ j, IsNumbered other j → i < j ∨ i = j ∧ name ≤ other

theorem mem_numbered_iff :
    (i, name) ∈ (entries.filterMap fun n => (index? n).map fun i => (i, n)) ↔
      name ∈ entries ∧ IsNumbered name i := by
  simp only [List.mem_filterMap, Option.map_eq_some_iff, Prod.mk.injEq, index?_eq_some_iff]
  constructor
  · rintro ⟨_, hmem, _, hi, rfl, rfl⟩
    exact ⟨hmem, hi⟩
  · rintro ⟨hmem, hi⟩
    exact ⟨name, hmem, i, hi, rfl, rfl⟩

/-- **The entry that is chosen.** -/
theorem choose?_eq_some_iff : choose? entries = some name ↔ ∃ i, IsChosen entries name i := by
  rw [choose?, Option.map_eq_some_iff]
  constructor
  · rintro ⟨⟨i, _⟩, h, rfl⟩
    obtain ⟨hmem, hleast⟩ := least?_eq_some_iff.1 h
    obtain ⟨hname, hi⟩ := mem_numbered_iff.1 hmem
    refine ⟨i, hname, hi, fun other hother j hj => ?_⟩
    exact Prod.Lex.toLex_le_toLex.1 (hleast (j, other) (mem_numbered_iff.2 ⟨hother, hj⟩))
  · rintro ⟨i, h⟩
    refine ⟨(i, name), least?_eq_some_iff.2 ⟨mem_numbered_iff.2 ⟨h.mem, h.numbered⟩, ?_⟩, rfl⟩
    rintro ⟨j, other⟩ hother
    obtain ⟨hmem, hj⟩ := mem_numbered_iff.1 hother
    exact Prod.Lex.toLex_le_toLex.2 (h.least other hmem j hj)

theorem choose?_eq_none_iff :
    choose? entries = none ↔ ∀ name ∈ entries, ∀ i, ¬IsNumbered name i := by
  rw [choose?, Option.map_eq_none_iff, least?_eq_none_iff, List.filterMap_eq_nil_iff]
  simp only [Option.map_eq_none_iff, index?_eq_none_iff]

/-- More entries, of which the new ones have no number, or a larger one than some old entry. -/
structure Extends (entries entries' : List String) : Prop where
  kept : ∀ name ∈ entries, name ∈ entries'
  added : ∀ name ∈ entries', name ∉ entries → ∀ j, IsNumbered name j →
    ∃ other ∈ entries, ∃ i < j, IsNumbered other i

theorem Extends.of_perm (h : entries.Perm entries') : Extends entries entries' :=
  ⟨fun _ => h.mem_iff.1, fun _ hname hnew => absurd (h.mem_iff.2 hname) hnew⟩

/-- Such new entries make no difference to what is chosen. -/
theorem Extends.isChosen_iff (h : Extends entries entries') :
    IsChosen entries' name i ↔ IsChosen entries name i := by
  constructor
  · rintro ⟨hmem, hi, hleast⟩
    refine ⟨?_, hi, fun other hother => hleast other (h.kept other hother)⟩
    -- A new entry is not chosen: there is an old one with a smaller number.
    by_contra hnew
    obtain ⟨other, hother, k, hlt, hk⟩ := h.added name hmem hnew i hi
    obtain hik | ⟨hik, -⟩ := hleast other (h.kept other hother) k hk
    · omega
    · omega
  · rintro ⟨hmem, hi, hleast⟩
    refine ⟨h.kept name hmem, hi, fun other hother j hj => ?_⟩
    by_cases hold : other ∈ entries
    · exact hleast other hold j hj
    · obtain ⟨old, hmem', k, hlt, hk⟩ := h.added other hother hold j hj
      obtain hik | ⟨rfl, -⟩ := hleast old hmem' k hk
      · exact .inl (hik.trans hlt)
      · exact .inl hlt

theorem choose?_of_extends (h : Extends entries entries') : choose? entries' = choose? entries := by
  ext name
  simp only [choose?_eq_some_iff, h.isChosen_iff]

/-! ## The directory of a device -/

/-- The directory with the sensor directories of a device has these entries, in this order. -/
def Lists (root : Root) (device : String) (t : FileTree) (entries : List String) : Prop :=
  ∃ loc es, t.find (root.resolve (Path.join device stem)) = .ok (loc, .dir es) ∧
    es.map Prod.fst = entries

/-- There is nothing where the directory with the sensor directories of a device should be; what
else may be there instead of it is an error of the host. -/
def Absent (root : Root) (device : String) (t : FileTree) : Prop :=
  t.find (root.resolve (Path.join device stem)) = .error .noEntry

variable {root : Root} {device path : String} {t t' : FileTree}

theorem Lists.unique (h : Lists root device t entries) (h' : Lists root device t entries') :
    entries = entries' := by
  obtain ⟨loc, es, hfind, rfl⟩ := h
  obtain ⟨loc', es', hfind', rfl⟩ := h'
  cases hfind.symm.trans hfind'
  rfl

theorem Lists.not_absent (h : Lists root device t entries) : ¬Absent root device t := by
  obtain ⟨loc, es, hfind, -⟩ := h
  rw [Absent, hfind]
  exact nofun

/-- **What is found is the chosen entry**, however the entries are listed. -/
theorem dir_of_lists (h : Lists root device t entries) :
    dir root device t =
      match choose? entries with
      | some name => .ok (Path.join (Path.join device stem) name)
      | none => .error (.notFound (Path.join device stem)) := by
  obtain ⟨loc, es, hfind, rfl⟩ := h
  have hsorted := sortBy_perm (fun a b : String => decide (a ≤ b)) (es.map Prod.fst)
  unfold dir
  dsimp only
  rw [Root.list, FileTree.list, hfind, ← choose?_of_extends (.of_perm hsorted.symm)]
  rfl

/-- What is no directory is refused by the host. -/
theorem dir_of_not_lists (h : ∀ entries, ¬Lists root device t entries) :
    ∃ cause, dir root device t = .error (.ofHost (Path.join device stem) cause) ∧
      (cause = .noEntry ↔ Absent root device t) := by
  unfold dir
  dsimp only
  rw [Root.list, FileTree.list, Absent]
  rcases hfind : t.find (root.resolve (Path.join device stem)) with cause | ⟨loc, bs | es⟩
  · exact ⟨cause, rfl, by rw [Except.error.injEq]⟩
  · exact ⟨.notDirectory, rfl, by simp⟩
  · exact absurd ⟨loc, es, hfind, rfl⟩ (h (es.map Prod.fst))

theorem ofHost_eq_notFound_iff {cause : HostError} {path' : String} :
    AttributeError.ofHost path cause = .notFound path' ↔ path = path' ∧ cause = .noEntry := by
  cases cause <;> simp [AttributeError.ofHost]

theorem dir_eq_ok_iff : dir root device t = .ok path ↔
    ∃ entries name i, Lists root device t entries ∧ IsChosen entries name i ∧
      path = Path.join (Path.join device stem) name := by
  by_cases hlists : ∃ entries, Lists root device t entries
  · obtain ⟨entries, hlists⟩ := hlists
    rw [dir_of_lists hlists]
    constructor
    · intro h
      split at h
      · rename_i name hname
        obtain ⟨i, hchosen⟩ := choose?_eq_some_iff.1 hname
        exact ⟨entries, name, i, hlists, hchosen, (Except.ok.inj h).symm⟩
      · cases h
    · rintro ⟨_, name, i, hlists', hchosen, rfl⟩
      obtain rfl := hlists.unique hlists'
      rw [choose?_eq_some_iff.2 ⟨i, hchosen⟩]
  · obtain ⟨cause, hdir, -⟩ := dir_of_not_lists (not_exists.1 hlists)
    rw [hdir]
    exact iff_of_false nofun fun ⟨entries, _, _, h, _⟩ => hlists ⟨entries, h⟩

theorem dir_eq_notFound_iff : dir root device t = .error (.notFound path) ↔
    path = Path.join device stem ∧ (Absent root device t ∨
      ∃ entries, Lists root device t entries ∧ ∀ name ∈ entries, ∀ i, ¬IsNumbered name i) := by
  by_cases hlists : ∃ entries, Lists root device t entries
  · obtain ⟨entries, hlists⟩ := hlists
    rw [dir_of_lists hlists, or_iff_right hlists.not_absent]
    constructor
    · intro h
      split at h
      · cases h
      · rename_i hnone
        cases h
        exact ⟨rfl, entries, hlists, choose?_eq_none_iff.1 hnone⟩
    · rintro ⟨rfl, _, hlists', hnone⟩
      obtain rfl := hlists.unique hlists'
      rw [choose?_eq_none_iff.2 hnone]
  · obtain ⟨cause, hdir, habsent⟩ := dir_of_not_lists (not_exists.1 hlists)
    rw [hdir, Except.error.injEq, ofHost_eq_notFound_iff, habsent, eq_comm (a := path)]
    refine and_congr_right fun _ => (or_iff_left ?_).symm
    exact fun ⟨entries, h, _⟩ => hlists ⟨entries, h⟩

theorem dir_of_extends (h : Lists root device t entries) (h' : Lists root device t' entries')
    (hextends : Extends entries entries') : dir root device t' = dir root device t := by
  rw [dir_of_lists h, dir_of_lists h', choose?_of_extends hextends]

/-- How the sensor directory of a device is found. -/
structure FindsLeast (root : Root) (device : String) : Prop where
  /-- It is the numbered entry with the least number, and then with the first name. -/
  found : ∀ t path, dir root device t = .ok path ↔
    ∃ entries name i, Lists root device t entries ∧ IsChosen entries name i ∧
      path = Path.join (Path.join device stem) name
  /-- It is not found exactly if the directory is not there, or has no numbered entry. -/
  notFound : ∀ t path, dir root device t = .error (.notFound path) ↔
    path = Path.join device stem ∧ (Absent root device t ∨
      ∃ entries, Lists root device t entries ∧ ∀ name ∈ entries, ∀ i, ¬IsNumbered name i)
  /-- The order of the entries does not matter. -/
  unordered : ∀ t t' entries entries', Lists root device t entries →
    Lists root device t' entries' → entries.Perm entries' →
    dir root device t' = dir root device t
  /-- Nor do more entries without a number, or with larger ones. -/
  extended : ∀ t t' entries entries', Lists root device t entries →
    Lists root device t' entries' → Extends entries entries' →
    dir root device t' = dir root device t

/-- **The sensor directory with the least number is found**, whatever else there is. -/
theorem found_least (root : Root) (device : String) : FindsLeast root device where
  found _ _ := dir_eq_ok_iff
  notFound _ _ := dir_eq_notFound_iff
  unordered _ _ _ _ h h' hperm := dir_of_extends h h' (.of_perm hperm)
  extended _ _ _ _ := dir_of_extends

/-- The order of texts is not that of numbers, and zeros in front count for the name only. -/
example : choose? ["device", "hwmon12", "hwmon9", "hwmon09", "hwmonx", "hwmon4294967296"] =
    some "hwmon09" := by decide

end SwitchPlatform.Hwmon
