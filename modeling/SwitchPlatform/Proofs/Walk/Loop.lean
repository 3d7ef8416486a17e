import SwitchPlatform.Proofs.Walk

/-!
# The walk as a loop

The walk is a loop over waiting entries, with a bound that is never reached. Here it is without the
bound: one turn lists the first waiting entry and puts its new children in front of the others
(`State.next?`), and `Ends` says that turn after turn comes to an end. It always does
(`walkFrom_ends`): every turn lists an object for the first time, or leaves one entry less to wait,
and there are only so many ids.

`walk_complete` says what the walk of any headers is, also of headers whose children form cycles,
are shared or unknown, or name the chassis: it ends with every object that is reached from the
chassis, each once and behind an object that lists it.
-/

namespace SwitchPlatform.Walk

variable {header : Oid → Except StatusError Header}

/-- Where the loop stands. -/
structure State where
  waiting : List TreeEntry
  /-- The ids met so far. -/
  seen : List Oid
  /-- The entries listed so far. -/
  listed : List TreeEntry

/-- One turn of the loop, none if nothing waits. -/
def State.next? (header : Oid → Except StatusError Header) (s : State) : Option State :=
  match s.waiting with
  | [] => none
  | e :: waiting =>
    let below := expand header (e.depth + 1) e.header.children s.seen
    some ⟨below.1 ++ waiting, below.2, s.listed ++ [e]⟩

/-- The loop comes to an end, with these entries listed. -/
inductive Ends (header : Oid → Except StatusError Header) : State → List TreeEntry → Prop
  | done {s : State} : s.next? header = none → Ends header s s.listed
  | turn {s s' : State} {out : List TreeEntry} : s.next? header = some s' →
      Ends header s' out → Ends header s out

variable (header) in
/-- **The loop comes to an end**, and what it lists is what the bounded walk lists. -/
theorem walkFrom_ends (listed : List TreeEntry) {bound : Nat} {waiting : List TreeEntry}
    {seen : List Oid} (nodup : seen.Nodup) (enough : Enough bound waiting seen) :
    Ends header ⟨waiting, seen, listed⟩ (listed ++ walkFrom header bound waiting seen) := by
  induction bound generalizing waiting seen listed with
  | zero => exact absurd enough (Nat.not_lt_zero _)
  | succ bound ih =>
    cases waiting with
    | nil =>
      rw [walkFrom, List.append_nil]
      exact .done rfl
    | cons e waiting =>
      refine .turn rfl ?_
      have hrest := ih (listed ++ [e]) (nodup_expanded nodup e.header.children)
        (enough.step header nodup)
      rw [List.append_assoc, List.singleton_append] at hrest
      rw [walkFrom]
      simpa only [expand_eq] using hrest

/-- The entries of a complete walk from the chassis. -/
structure Complete (header : Oid → Except StatusError Header) (entries : List TreeEntry) :
    Prop where
  head : ∃ top, header .chassis = .ok top ∧ entries.head? = some ⟨0, top⟩
  own : ∀ e ∈ entries, header e.header.id = .ok e.header
  nodup : (entries.map (·.header.id)).Nodup
  mem_iff : ∀ id, id ∈ entries.map (·.header.id) ↔ Reachable header id
  /-- Every later entry stands behind one that is a step nearer to the chassis and lists it as a
  child, and whatever is between the two is farther away than that one. -/
  behind : ∀ before e after, entries = before ++ e :: after → before ≠ [] →
    ∃ front lister between, before = front ++ lister :: between ∧
      e.depth = lister.depth + 1 ∧ e.header.id ∈ lister.header.children ∧
      ∀ x ∈ between, lister.depth < x.depth

/-- A listing that starts from the chassis is complete. -/
theorem Listing.complete (own : Own header) {top : Header} (htop : header .chassis = .ok top)
    {entries : List TreeEntry} {seen : List Oid}
    (h : Listing header [⟨0, top⟩] [.chassis] entries seen) : Complete header entries := by
  have opened := open_chassis own htop
  have hhead : ∃ rest, entries = ⟨0, top⟩ :: rest := by
    cases h with
    | visit hbelow hrest => exact ⟨_, rfl⟩
  have hnodup := h.nodup_ids own opened
  refine ⟨⟨top, htop, ?_⟩, h.honest own opened, hnodup, mem_ids_iff_reachable own htop h, ?_⟩
  · obtain ⟨rest, rfl⟩ := hhead
    rfl
  · intro before e after hsplit hne
    refine (h.behind_lister own hsplit).resolve_left fun hw => ?_
    -- the chassis is listed first, and only there
    obtain rfl := List.mem_singleton.1 hw
    obtain ⟨first, before, rfl⟩ := List.exists_cons_of_ne_nil hne
    obtain ⟨rest, rfl⟩ := hhead
    obtain ⟨rfl, hrest⟩ := List.cons.inj hsplit
    have hmem : (⟨0, top⟩ : TreeEntry) ∈ rest := by simp [hrest]
    exact (List.nodup_cons.1 hnodup).1 (List.mem_map_of_mem hmem)

/-- **The walk of any headers is complete.** If every header carries the id that it is asked for,
whatever children it lists, and the chassis has one, then the loop comes to an end, and it lists the
chassis and whatever is reached from it through headers, each object once and behind one that lists
it. -/
theorem walk_complete (own : Own header) {top : Header} (htop : header .chassis = .ok top) :
    ∃ entries, walk header = .ok entries ∧
      Ends header ⟨[⟨0, top⟩], [.chassis], []⟩ entries ∧ Complete header entries := by
  obtain ⟨entries, seen, hwalk, h⟩ := walk_listing htop
  have hends := walkFrom_ends header [] (List.nodup_singleton Oid.chassis) (enough_chassis top)
  rw [walk_of_chassis htop] at hwalk
  obtain rfl := Except.ok.inj hwalk
  exact ⟨_, walk_of_chassis htop, hends, h.complete own htop⟩

/-- Headers whose children form a cycle, are shared and repeated, name the chassis, and have no
header. -/
def tangled (id : Oid) : Except StatusError Header :=
  let entry (description : String) (children : List (Oid.Kind × Nat)) : Header :=
    ⟨id, description, .chassis, children.filterMap fun c => (Oid.make c.1 c.2).toOption⟩
  match id.kind, id.index with
  | .sys, 1 => .ok (entry "Chassis" [(.fan, 1), (.psu, 1), (.fan, 1), (.sys, 1)])
  | .fan, 1 => .ok (entry "Fan 1" [])
  | .psu, 1 => .ok (entry "PSU 1" [(.fan, 1), (.thermal, 9), (.psu, 2)])
  | .psu, 2 => .ok (entry "PSU 2" [(.psu, 1), (.sys, 1)])
  | _, _ => .error .param

theorem own_tangled : Own tangled := by
  intro id h hh
  simp only [tangled] at hh
  split at hh <;> cases hh <;> rfl

/-- The walk of these headers ends all the same, with the fan, the power supply and the spare one
below it. -/
theorem tangled_walk_complete :
    Own tangled ∧ ∃ top, tangled .chassis = .ok top ∧ ∃ entries, walk tangled = .ok entries ∧
      (entries.map fun e => (e.depth, e.header.description)) =
        [(0, "Chassis"), (1, "Fan 1"), (1, "PSU 1"), (2, "PSU 2")] ∧
      Ends tangled ⟨[⟨0, top⟩], [.chassis], []⟩ entries ∧ Complete tangled entries := by
  obtain ⟨entries, hwalk, hends, hcomplete⟩ := walk_complete own_tangled rfl
  refine ⟨own_tangled, _, rfl, entries, hwalk, ?_, hends, hcomplete⟩
  obtain rfl := Except.ok.inj hwalk
  rfl

end SwitchPlatform.Walk
