import Mathlib.Tactic
import SwitchPlatform.Attribute
import SwitchPlatform.Proofs.Text.Split

/-!
# Names below the root

What a platform path is resolved to, as text. The names of the path are pushed onto the root one
after the other (`Root.resolve_eq_foldl`), so the components of the result are those of the root
and then the names (`Root.named_resolve`); none of them is `..`, and the text of the root stays at
the beginning (`Root.top_isPrefix`).

Only the names matter: what has none, as do `.`, `..` and slashes in any mix, can stand anywhere
between two components (`Path.names_insert`), and two paths are resolved to the same one exactly if
they have the same names (`Root.resolve_eq_iff`).
-/

namespace SwitchPlatform

namespace Path

/-! ## Names -/

theorem parts_eq_splitOn (cs : List Char) : parts cs = cs.splitOn '/' :=
  Text.eq_splitOn rfl (fun _ _ => rfl) cs

theorem slash_not_mem_of_mem_parts {p cs : List Char} (h : p ∈ parts cs) : '/' ∉ p := by
  induction cs generalizing p with
  | nil =>
    rw [parts, List.mem_singleton] at h
    simp [h]
  | cons c cs ih =>
    rw [parts] at h
    split_ifs at h with hc
    · rcases List.mem_cons.1 h with rfl | h
      · exact List.not_mem_nil
      · exact ih h
    · split at h
      · rw [List.mem_singleton] at h
        simp [h, Ne.symm hc]
      · rename_i q qs hparts
        rcases List.mem_cons.1 h with rfl | h
        · have hq : '/' ∉ q := ih (by rw [hparts]; exact List.mem_cons_self)
          simp [hq, Ne.symm hc]
        · exact ih (by rw [hparts]; exact List.mem_cons_of_mem _ h)

/-- A step that leads to an entry of a directory. -/
structure IsName (n : String) : Prop where
  ne_empty : n ≠ ""
  ne_dot : n ≠ "."
  ne_dots : n ≠ ".."
  slash : '/' ∉ n.toList

theorem isName_of_mem_names {path n : String} (h : n ∈ names path) : IsName n := by
  rw [names, List.mem_filter] at h
  obtain ⟨hmem, hplain⟩ := h
  obtain ⟨p, hp, rfl⟩ := List.mem_map.1 hmem
  simp only [Bool.and_eq_true, bne_iff_ne, ne_eq] at hplain
  refine ⟨hplain.1.1, hplain.1.2, hplain.2, ?_⟩
  rw [String.toList_ofList]
  exact slash_not_mem_of_mem_parts hp

/-- The parts of a text that are not empty. -/
def named (cs : List Char) : List String :=
  ((parts cs).map String.ofList).filter (· != "")

theorem named_append (a b : List Char) : named (a ++ '/' :: b) = named a ++ named b := by
  rw [named, parts_eq_splitOn, List.splitOn_append_cons_self, List.map_append, List.filter_append,
    ← parts_eq_splitOn, ← parts_eq_splitOn, named, named]

theorem named_intercalate {ns : List String} (h : ∀ n ∈ ns, IsName n) :
    named ("/".intercalate ns).toList = ns := by
  by_cases hns : ns = []
  · subst hns
    rfl
  have hparts : parts ("/".intercalate ns).toList = ns.map String.toList :=
    Text.split_intercalate rfl (fun _ _ => rfl) rfl hns fun n hn => (h n hn).slash
  rw [named, hparts, List.map_map]
  have hid : String.ofList ∘ String.toList = id := by
    funext n
    exact String.ofList_toList
  rw [hid, List.map_id, List.filter_eq_self]
  intro n hn
  simpa using (h n hn).ne_empty

/-! ## Names of texts put together -/

/-- The names are the components but `.` and `..`. -/
theorem names_eq_filter (path : String) :
    names path = (named path.toList).filter fun p => p != "." && p != ".." := by
  rw [names, named, List.filter_filter]
  congr 1
  funext p
  cases p != "" <;> simp

/-- The parts of a path that name no entry. -/
def unnamed : List (List Char) := [[], ['.'], ['.', '.']]

/-- The names are what stands between slashes, but for `.`, `..` and nothing. -/
theorem names_eq_splitOn (path : String) :
    names path = ((path.toList.splitOn '/').filter fun p => p ∉ unnamed).map String.ofList := by
  have hplain : ∀ p : List Char,
      (String.ofList p != "" && String.ofList p != "." && String.ofList p != "..") =
        decide (p ∉ unnamed) := by
    intro p
    have hof : ∀ s : String, String.ofList p = s ↔ p = s.toList := by
      intro s
      constructor
      · rintro rfl
        exact String.toList_ofList.symm
      · rintro rfl
        exact String.ofList_toList
    rw [Bool.eq_iff_iff]
    simp only [Bool.and_eq_true, bne_iff_ne, ne_eq, hof, decide_eq_true_eq, unnamed, List.mem_cons,
      List.not_mem_nil, or_false, not_or, and_assoc]
    rfl
  rw [names, parts_eq_splitOn, List.filter_map]
  exact congrArg (List.map String.ofList) (List.filter_congr fun p _ => hplain p)

/-- The names before and after a slash. -/
theorem names_slash (a b : String) : names (a ++ "/" ++ b) = names a ++ names b := by
  have htext : (a ++ "/" ++ b).toList = a.toList ++ '/' :: b.toList := by
    rw [String.toList_append, String.toList_append, List.append_assoc]
    rfl
  rw [names_eq_filter, htext, named_append, List.filter_append, ← names_eq_filter,
    ← names_eq_filter]

/-- A text of `.`, `..` and slashes. -/
def IsFiller (c : String) : Prop :=
  ∀ p ∈ c.toList.splitOn '/', p ∈ unnamed

instance : DecidablePred IsFiller := fun c =>
  inferInstanceAs (Decidable (∀ p ∈ c.toList.splitOn '/', p ∈ unnamed))

/-- What has no names is filler. -/
theorem names_eq_nil_iff {c : String} : names c = [] ↔ IsFiller c := by
  rw [names_eq_splitOn, List.map_eq_nil_iff, List.filter_eq_nil_iff, IsFiller]
  simp only [decide_eq_true_eq, not_not]

/-- Filler between two components has no name. -/
theorem names_insert (a : String) {c : String} (b : String) (hc : IsFiller c) :
    names (a ++ "/" ++ c ++ "/" ++ b) = names (a ++ "/" ++ b) := by
  rw [names_slash, names_slash, names_slash, names_eq_nil_iff.2 hc, List.append_nil]

example : IsFiller ".././/.." := by decide

/-! ## Names pushed one after the other -/

theorem IsName.toList_ne_nil {n : String} (h : IsName n) : n.toList ≠ [] :=
  fun he => h.ne_empty (String.toList_eq_nil_iff.1 he)

theorem IsName.isAbsolute_eq {n : String} (h : IsName n) : isAbsolute n = false := by
  rw [isAbsolute, beq_eq_false_iff_ne]
  exact fun he => h.slash (List.mem_of_head? he)

theorem IsName.endsWithSlash_eq {n : String} (h : IsName n) : endsWithSlash n = false := by
  rw [endsWithSlash, beq_eq_false_iff_ne]
  exact fun he => h.slash (List.mem_of_getLast? he)

/-- What begins with a name is relative. -/
theorem IsName.isAbsolute_slash {n : String} (h : IsName n) (path : String) :
    isAbsolute (n ++ "/" ++ path) = false := by
  rw [isAbsolute, String.toList_append, String.toList_append, List.append_assoc,
    List.head?_append_of_ne_nil _ h.toList_ne_nil]
  exact h.isAbsolute_eq

theorem isAbsolute_intercalate {ns : List String} (h : ∀ n ∈ ns, IsName n) :
    isAbsolute ("/".intercalate ns) = false := by
  rcases ns with _ | ⟨n, _ | ⟨m, ms⟩⟩
  · rfl
  · rw [String.intercalate_singleton]
    exact (h n List.mem_cons_self).isAbsolute_eq
  · rw [String.intercalate_cons_cons]
    exact (h n List.mem_cons_self).isAbsolute_slash _

theorem join_relative (base : String) {path : String} (h : isAbsolute path = false) :
    join base path =
      if base = "" ∨ endsWithSlash base = true then base ++ path else base ++ "/" ++ path := by
  rw [join, h]
  simp only [Bool.false_eq_true, if_false, Bool.or_eq_true, decide_eq_true_eq]

/-- A relative path stands behind the text of the base. -/
theorem isPrefix_join (base : String) {path : String} (h : isAbsolute path = false) :
    base.toList <+: (join base path).toList := by
  rw [join_relative base h]
  split_ifs
  · rw [String.toList_append]
    exact List.prefix_append _ _
  · rw [String.toList_append, String.toList_append, List.append_assoc]
    exact List.prefix_append _ _

theorem isSuffix_join (base : String) {path : String} (h : isAbsolute path = false) :
    path.toList <:+ (join base path).toList := by
  rw [join_relative base h]
  split_ifs
  · rw [String.toList_append]
    exact List.suffix_append _ _
  · rw [String.toList_append]
    exact List.suffix_append _ _

/-- Joining a relative path adds its parts. -/
theorem named_join (base : String) {path : String} (h : isAbsolute path = false) :
    named (join base path).toList = named base.toList ++ named path.toList := by
  rw [join_relative base h]
  split_ifs with hbase
  · rw [String.toList_append]
    rcases hbase with rfl | hend
    · rfl
    · rw [endsWithSlash, beq_iff_eq] at hend
      obtain ⟨cs, hcs⟩ := List.getLast?_eq_some_iff.1 hend
      rw [hcs, List.append_assoc, List.singleton_append, named_append, named_append]
      simp [named, parts]
  · rw [String.toList_append, String.toList_append, List.append_assoc]
    exact named_append _ _

/-- Pushing a name and then a relative path is pushing both with a slash in between. -/
theorem join_join (base : String) {n path : String} (hn : IsName n)
    (hpath : isAbsolute path = false) :
    join (join base n) path = join base (n ++ "/" ++ path) := by
  obtain ⟨front, hfront⟩ := isSuffix_join base hn.isAbsolute_eq
  have hend : endsWithSlash (join base n) = false := by
    rw [endsWithSlash, ← hfront, List.getLast?_append_of_ne_nil _ hn.toList_ne_nil]
    exact hn.endsWithSlash_eq
  have hne : join base n ≠ "" := by
    intro he
    rw [he] at hfront
    exact hn.toList_ne_nil (List.append_eq_nil_iff.1 hfront).2
  rw [join_relative _ hpath, if_neg (by simp [hne, hend]), join_relative _ hn.isAbsolute_eq,
    join_relative _ (hn.isAbsolute_slash path)]
  split_ifs
  · simp only [String.append_assoc]
  · simp only [String.append_assoc]

/-- Names that are pushed one after the other stand with slashes in between. -/
theorem foldl_join {ns : List String} (hne : ns ≠ []) (h : ∀ n ∈ ns, IsName n) (base : String) :
    ns.foldl join base = join base ("/".intercalate ns) := by
  induction ns generalizing base with
  | nil => exact absurd rfl hne
  | cons n ns ih =>
    cases ns with
    | nil => rw [String.intercalate_singleton, List.foldl_cons, List.foldl_nil]
    | cons m ms =>
      have hms : ∀ k ∈ m :: ms, IsName k := fun k hk => h k (List.mem_cons_of_mem n hk)
      rw [List.foldl_cons, ih (by simp) hms, String.intercalate_cons_cons,
        join_join base (h n List.mem_cons_self) (isAbsolute_intercalate hms)]

theorem isPrefix_foldl_join {ns : List String} (h : ∀ n ∈ ns, IsName n) (base : String) :
    base.toList <+: (ns.foldl join base).toList := by
  induction ns generalizing base with
  | nil => exact List.prefix_rfl
  | cons n ns ih =>
    rw [List.foldl_cons]
    exact (isPrefix_join base (h n List.mem_cons_self).isAbsolute_eq).trans
      (ih (fun m hm => h m (List.mem_cons_of_mem n hm)) _)

theorem named_foldl_join {ns : List String} (h : ∀ n ∈ ns, IsName n) (base : String) :
    named (ns.foldl join base).toList = named base.toList ++ ns := by
  by_cases hne : ns = []
  · subst hne
    rw [List.foldl_nil, List.append_nil]
  rw [foldl_join hne h, named_join base (isAbsolute_intercalate h), named_intercalate h]

end Path

namespace Root

variable (root : Root)

/-! ## Resolved paths -/

/-- The steps to the root. -/
def steps : List String :=
  Path.named root.top.toList

/-- **A platform path is resolved by pushing its names onto the root.** -/
theorem resolve_eq_foldl (path : String) :
    root.resolve path = (Path.names path).foldl Path.join root.top := by
  rw [resolve]
  split
  · rename_i hnames
    rw [hnames]
    rfl
  · rename_i hnames
    exact (Path.foldl_join hnames (fun n hn => Path.isName_of_mem_names hn) root.top).symm

/-- The components of a resolved path are those of the root and then the names. -/
theorem named_resolve (path : String) :
    Path.named (root.resolve path).toList = root.steps ++ Path.names path := by
  rw [resolve_eq_foldl, Path.named_foldl_join fun n hn => Path.isName_of_mem_names hn]
  rfl

/-- A resolved path begins with the text of the root. -/
theorem top_isPrefix (path : String) : root.top.toList <+: (root.resolve path).toList := by
  rw [resolve_eq_foldl]
  exact Path.isPrefix_foldl_join (fun n hn => Path.isName_of_mem_names hn) root.top

/-- Two paths are resolved to the same one exactly if they have the same names. -/
theorem resolve_eq_iff {path path' : String} :
    root.resolve path = root.resolve path' ↔ Path.names path = Path.names path' := by
  constructor
  · intro h
    have hnamed := root.named_resolve path
    rw [h, named_resolve] at hnamed
    exact (List.append_cancel_left hnamed).symm
  · intro h
    rw [resolve_eq_foldl, resolve_eq_foldl, h]

/-- A platform path leads to the root and then through its names. A slash at the end may be left
from the root. -/
theorem steps_resolve (path : String) :
    Path.steps (root.resolve path) = root.steps ++ Path.names path ∨
      Path.steps (root.resolve path) = root.steps ++ Path.names path ++ ["."] := by
  rw [Path.steps, ← named_resolve]
  split_ifs
  · exact .inr rfl
  · exact .inl rfl

end Root

end SwitchPlatform
