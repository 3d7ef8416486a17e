import SwitchPlatform.Proofs.Board.ReadContract
import SwitchPlatform.Proofs.Reading.LineBreaks
import SwitchPlatform.Report

/-!
# The lines of the tree

The text of a tree has one part for each entry of the walk, in its order: the header of the object
behind its indentation, what was read of the object or why that failed, and a line break
(`Report.tree_ok`, `Report.isPart_parts`). A part is a line exactly if nothing in it breaks, which
descriptions and labels may do.

A board whose descriptions are free of line breaks has as many lines as its walk has entries, and
then one more for every line break in a label that was read from an attribute. So it has one line
per object exactly if no label that is shown has a line break (`Board.tree_lines`); a label that
has one is shown as it is (`Board.labelledBoard_torn`).
-/

namespace SwitchPlatform

open Text

/-! ## A text in parts -/

namespace Report

variable {e : TreeEntry} {entries : List TreeEntry} {outcome : Except StatusError ObjectReading}
  {states : List (Except StatusError ObjectReading)}

/-- Does every line of a text stand for one entry, in order, and start with the header of its
object behind its indentation? -/
def OnePerLine (entries : List TreeEntry) (text : String) : Prop :=
  ∃ lines : List String, text = String.join (lines.map (· ++ "\n")) ∧
    (∀ line ∈ lines, '\n' ∉ line.toList) ∧
    List.Forall₂ (fun e line => (indent e.depth ++ e.header.text).toList <+: line.toList)
      entries lines

/-- Is a text the part of an entry, which ends in a line break? -/
def IsPart (e : TreeEntry) (part : String) : Prop :=
  ∃ rest, part = indent e.depth ++ e.header.text ++ rest ++ "\n"

/-- Such a text has as many line breaks as there are entries. -/
theorem OnePerLine.breaks_eq {text : String} (h : OnePerLine entries text) :
    breaks text = entries.length := by
  obtain ⟨lines, rfl, plain, starts⟩ := h
  have hone : ∀ n ∈ (lines.map (· ++ "\n")).map breaks, n = 1 := by
    simp only [List.map_map, List.mem_map, forall_exists_index, and_imp]
    rintro n line hline rfl
    rw [Function.comp_apply, breaks_append, breaks_eq_zero_iff.2 (plain line hline)]
    rfl
  rw [starts.length_eq, breaks_join, List.sum_eq_card_nsmul _ 1 hone]
  simp

/-- Parts without further line breaks are lines. -/
theorem onePerLine_join {parts : List String}
    (h : List.Forall₂ (fun e part => IsPart e part ∧ breaks part = 1) entries parts) :
    OnePerLine entries (String.join parts) := by
  induction h with
  | nil => exact ⟨[], rfl, by simp, .nil⟩
  | @cons e part entries parts hpart _ ih =>
    obtain ⟨⟨rest, rfl⟩, hbreaks⟩ := hpart
    obtain ⟨lines, hjoin, plain, starts⟩ := ih
    refine ⟨(indent e.depth ++ e.header.text ++ rest) :: lines, ?_, ?_, .cons ?_ starts⟩
    · rw [String.join_cons, hjoin, List.map_cons, String.join_cons]
    · have hline : breaks (indent e.depth ++ e.header.text ++ rest) = 0 :=
        Nat.add_right_cancel ((breaks_append _ _).symm.trans hbreaks)
      exact List.forall_mem_cons.2 ⟨breaks_eq_zero_iff.1 hline, plain⟩
    · rw [String.toList_append (t := rest)]
      exact List.prefix_append _ _

/-! ## The parts of a tree -/

/-- Is a state that was read that of the object of an entry? -/
def Under (e : TreeEntry) (outcome : Except StatusError ObjectReading) : Prop :=
  ∀ r, outcome = .ok r → r.header = e.header

/-- The labels shown of an object whose state was asked for. -/
def shownLabels : Except StatusError ObjectReading → List String
  | .ok r => r.labels
  | .error _ => []

@[simp]
theorem breaks_indent (depth : Nat) : breaks (indent depth) = 0 := by
  simp [breaks, indent, List.count_replicate]

theorem isPart_treeLine (h : Under e outcome) : IsPart e (treeLine e outcome) := by
  unfold treeLine
  cases outcome with
  | ok r =>
    obtain ⟨rest, hrest⟩ := r.text_eq_header
    exact ⟨rest, by simp only [hrest, h r rfl, String.append_assoc]⟩
  | error err => exact ⟨": " ++ err.message, by simp only [String.append_assoc]⟩

theorem breaks_treeLine (h : Under e outcome) (plain : breaks e.header.description = 0) :
    breaks (treeLine e outcome) = 1 + ((shownLabels outcome).map breaks).sum := by
  have hend : breaks "\n" = 1 := rfl
  unfold treeLine shownLabels
  cases outcome with
  | ok r => simp [r.breaks_text, h r rfl, plain, hend, Nat.add_comm]
  | error err => simp (disch := decide) [plain, hend, breaks_of_plain]

theorem isPart_parts (h : List.Forall₂ Under entries states) :
    List.Forall₂ IsPart entries (List.zipWith treeLine entries states) := by
  induction h with
  | nil => exact .nil
  | cons h _ ih => exact .cons (isPart_treeLine h) ih

/-- **The tree has a line break for each entry, and those of the labels shown.** -/
theorem breaks_parts (h : List.Forall₂ Under entries states)
    (plain : ∀ e ∈ entries, breaks e.header.description = 0) :
    breaks (String.join (List.zipWith treeLine entries states)) =
      entries.length + ((states.flatMap shownLabels).map breaks).sum := by
  induction h with
  | nil => rfl
  | cons h _ ih =>
    obtain ⟨hplain, plain⟩ := List.forall_mem_cons.1 plain
    rw [List.zipWith_cons_cons, String.join_cons, breaks_append, breaks_treeLine h hplain,
      ih plain, List.flatMap_cons, List.map_append, List.sum_append, List.length_cons]
    omega

/-- Without line breaks in the labels every part is one line. -/
theorem parts_of_plain_labels (h : List.Forall₂ Under entries states)
    (plain : ∀ e ∈ entries, breaks e.header.description = 0)
    (labels : ∀ label ∈ states.flatMap shownLabels, breaks label = 0) :
    List.Forall₂ (fun e part => IsPart e part ∧ breaks part = 1) entries
      (List.zipWith treeLine entries states) := by
  induction h with
  | nil => exact .nil
  | @cons e outcome _ _ h _ ih =>
    obtain ⟨hplain, plain⟩ := List.forall_mem_cons.1 plain
    obtain ⟨hlabels, labels⟩ := List.forall_mem_append.1 labels
    have hsum : ((shownLabels outcome).map breaks).sum = 0 :=
      List.sum_eq_zero_iff.2 (List.forall_mem_map.2 hlabels)
    refine .cons ⟨isPart_treeLine h, ?_⟩ (ih plain labels)
    rw [breaks_treeLine h hplain, hsum]

/-- **The tree has one line per entry exactly if no label that it shows has a line break.** -/
theorem onePerLine_iff (h : List.Forall₂ Under entries states)
    (plain : ∀ e ∈ entries, breaks e.header.description = 0) :
    OnePerLine entries (String.join (List.zipWith treeLine entries states)) ↔
      ∀ label ∈ states.flatMap shownLabels, '\n' ∉ label.toList := by
  constructor
  · intro hlines label hlabel
    have htotal := hlines.breaks_eq.symm.trans (breaks_parts h plain)
    have hsum : ((states.flatMap shownLabels).map breaks).sum = 0 := by omega
    exact breaks_eq_zero_iff.1 (List.sum_eq_zero_iff.1 hsum _ (List.mem_map_of_mem hlabel))
  · intro labels
    exact onePerLine_join (parts_of_plain_labels h plain fun label hlabel =>
      breaks_eq_zero_iff.2 (labels label hlabel))

/-! ## The tree of a platform -/

section Platform

variable {σ : Type}

/-- The states of the objects of some entries, asked for one after the other. -/
def outcomes (p : Platform σ) : List TreeEntry → σ → List (Except StatusError ObjectReading)
  | [], _ => []
  | e :: es, s => (p.read e.header.id s).1 :: outcomes p es (p.read e.header.id s).2

theorem treeLines_ok (p : Platform σ) (entries : List TreeEntry) (s : σ) :
    (treeLines p entries s).1 = .ok (List.zipWith treeLine entries (outcomes p entries s)) := by
  induction entries generalizing s with
  | nil => rfl
  | cons e es ih =>
    rw [treeLines, Action.bind_eq, Action.attempt_apply]
    dsimp only
    rw [Action.bind_of_ok (ih _)]
    rfl

/-- **The tree has a part for each entry of the walk.** -/
theorem tree_ok {p : Platform σ} {s : σ} (hwalk : p.walk s = (.ok entries, s)) :
    (tree p s).1 = .ok (String.join (List.zipWith treeLine entries (outcomes p entries s))) := by
  rw [tree, Action.bind_ok hwalk, Action.bind_of_ok (treeLines_ok p entries s)]
  rfl

theorem under_outcomes {p : Platform σ}
    (h : ∀ e ∈ entries, ∀ s, Under e (p.read e.header.id s).1) (s : σ) :
    List.Forall₂ Under entries (outcomes p entries s) := by
  induction entries generalizing s with
  | nil => exact .nil
  | cons e es ih =>
    obtain ⟨he, hes⟩ := List.forall_mem_cons.1 h
    exact .cons (he s) (ih hes _)

end Platform

end Report

/-! ## The tree of a board -/

namespace Board

open Report

/-- The descriptions of the objects of a board are free of line breaks. -/
structure PlainDescriptions (b : Board) : Prop where
  thermals : ∀ entry ∈ b.thermals, '\n' ∉ entry.description.toList
  fans : ∀ entry ∈ b.fans, '\n' ∉ entry.description.toList
  psus : ∀ entry ∈ b.psus, '\n' ∉ entry.description.toList
  leds : ∀ entry ∈ b.leds, '\n' ∉ entry.description.toList

variable {b : Board}

/-- The descriptions of the chassis and of the modules have none either. -/
theorem PlainDescriptions.breaks_headerOf (plain : b.PlainDescriptions) {id : Oid} {h : Header}
    (hh : b.headerOf id = .ok h) : breaks h.description = 0 := by
  unfold headerOf at hh
  split at hh
  · split at hh <;> cases hh
    exact breaks_of_plain (by decide : '\n' ∉ "Chassis".toList)
  · obtain ⟨entry, hentry, rfl⟩ := find_map_eq_ok_iff.1 hh
    exact breaks_of_plain (plain.thermals entry (mem_of_lookup? hentry))
  · obtain ⟨entry, hentry, rfl⟩ := find_map_eq_ok_iff.1 hh
    exact breaks_of_plain (plain.fans entry (mem_of_lookup? hentry))
  · obtain ⟨entry, hentry, rfl⟩ := find_map_eq_ok_iff.1 hh
    exact breaks_of_plain (plain.psus entry (mem_of_lookup? hentry))
  · obtain ⟨entry, hentry, rfl⟩ := find_map_eq_ok_iff.1 hh
    exact breaks_of_plain (plain.leds entry (mem_of_lookup? hentry))
  · split at hh <;> cases hh
    simp (disch := decide) [moduleHeaderOf, breaks_of_plain]
  · cases hh

/-- **The rendered tree of a valid board has a part for each entry of its walk**, in the order of
the walk, each with the indented header of its object in front. It has one line break for each
part, and beyond these the ones of the labels of fans and power supplies that it shows; so it has
one line for each entry exactly if none of these labels has a line break. -/
theorem tree_lines (b : Board) (io : Io) (m : Machine) (valid : b.validate = .ok ())
    (plain : b.PlainDescriptions) :
    ∃ entries parts, (b.platform io).walk m = (.ok entries, m) ∧
      (tree (b.platform io) m).1 = .ok (String.join parts) ∧
      List.Forall₂ IsPart entries parts ∧
      breaks (String.join parts) = entries.length +
        (((outcomes (b.platform io) entries m).flatMap shownLabels).map breaks).sum ∧
      (OnePerLine entries (String.join parts) ↔
        ∀ label ∈ (outcomes (b.platform io) entries m).flatMap shownLabels,
          '\n' ∉ label.toList) := by
  have valid := validate_eq_ok_iff.1 valid
  obtain ⟨entries, -, hlist, isWalk, -⟩ := valid.walk
  have hwalk : (b.platform io).walk m = (.ok entries, m) := by rw [walk_platform, hlist]
  have hunder : ∀ e ∈ entries, ∀ m, Under e ((b.platform io).read e.header.id m).1 :=
    fun e he m => (valid.readsUnder (isWalk.own e he)).header m
  have under := under_outcomes hunder m
  have hplain : ∀ e ∈ entries, breaks e.header.description = 0 :=
    fun e he => plain.breaks_headerOf (isWalk.own e he)
  exact ⟨entries, _, hwalk, tree_ok hwalk, isPart_parts under, breaks_parts under hplain,
    onePerLine_iff under hplain⟩

/-- A fan whose model is an attribute. -/
def labelledFan : FanEntry :=
  { description := "Fan 1", parent := .chassis, caps := .empty, model := some (.file "/fan_model") }

/-- A board with that fan. -/
def labelledBoard : Board :=
  { name := "labelled"
    fans := [labelledFan]
    ports := { count := 0, present := .gpio [] false, eepromBus := [], eeprom := ⟨""⟩ } }

/-- The platform of that board. -/
def labelledPlatform : Platform Machine :=
  labelledBoard.platform (labelledBoard.io ⟨"/"⟩ .auto)

/-- A machine with a text in the attribute for the model. -/
def labelledMachine (model : String) : Machine :=
  { tree := .dir [("fan_model", .file (Text.Utf8.encode model))] }

/-- The entries of a walk of that board: the chassis and the fan. -/
def labelledEntries : List TreeEntry :=
  [⟨0, labelledBoard.chassisHeader⟩, ⟨1, labelledFan.header (oid .fan 0)⟩]

theorem labelledBoard_plain : labelledBoard.PlainDescriptions where
  thermals := by decide
  fans := by decide
  psus := by decide
  leds := by decide

/-- A model without line breaks is shown on the line of the fan. -/
theorem labelledBoard_lines :
    let m := labelledMachine "AB CD"
    ∃ parts, labelledPlatform.walk m = (.ok labelledEntries, m) ∧
      (tree labelledPlatform m).1 = .ok (String.join parts) ∧
      breaks (String.join parts) = 2 ∧ OnePerLine labelledEntries (String.join parts) := by
  intro m
  obtain ⟨entries, parts, hwalk, htree, -, hbreaks, honePer⟩ :=
    tree_lines labelledBoard (labelledBoard.io ⟨"/"⟩ .auto) m (by decide) labelledBoard_plain
  have hlist : (labelledPlatform.walk m).1 = .ok labelledEntries := by decide +kernel
  obtain rfl : entries = labelledEntries :=
    Except.ok.inj ((congrArg Prod.fst hwalk).symm.trans hlist)
  exact ⟨parts, hwalk, htree, hbreaks.trans (by decide +kernel),
    honePer.2 (by decide +kernel)⟩

/-- **A line break in a model tears the line of its fan apart.** -/
theorem labelledBoard_torn :
    let m := labelledMachine "AB\nCD"
    labelledBoard.validate = .ok () ∧ labelledBoard.PlainDescriptions ∧
      ∃ text, (labelledPlatform.walk m).1 = .ok labelledEntries ∧
        (tree labelledPlatform m).1 = .ok text ∧ ¬OnePerLine labelledEntries text := by
  refine ⟨by decide, labelledBoard_plain,
    "sys-1 (0x01000001) \"Chassis\"\n" ++
      "  fan-1 (0x03000001) \"Fan 1\" 0 rpm 0% (off) model AB\nCD\n",
    by decide +kernel, by decide +kernel, fun h => ?_⟩
  exact absurd h.breaks_eq (by decide +kernel)

end Board

end SwitchPlatform
