import SwitchPlatform.Proofs.Board.Readings
import SwitchPlatform.Report

/-!
# What a report says of the management passes

A report of the management passes has a line for the fans and then one for the leds. Each of them
says that the board has no such pass exactly if the pass ended in `unsupported` (`manage_lines`).
-/

namespace SwitchPlatform.Report

open SwitchPlatform.Action

variable {σ α : Type} {p : Platform σ} {s : σ}

/-- The line for a pass that a board does not have. -/
def unmanagedLine (label : String) : String :=
  label ++ ": not managed on this platform\n"

/-- A line is that of a pass that ended well, or of a pass that the board does not have. -/
theorem passLine_ok {label line : String} {text : α → String} {outcome : Except Fault α}
    (h : passLine label text outcome = .ok line) :
    (∃ a, outcome = .ok a ∧ line = label ++ ": " ++ text a ++ "\n") ∨
      (outcome = .error (.status .unsupported) ∧ line = unmanagedLine label) := by
  unfold passLine at h
  split at h <;> cases h
  · exact .inl ⟨_, rfl, rfl⟩
  · exact .inr ⟨rfl, rfl⟩

/-- The line of a decision does not read like that of a missing pass. -/
theorem not_prefix_decision (d : FanDecision) (rest : String) :
    ¬(unmanagedLine "fans").toList <+: ("fans" ++ ": " ++ d.text ++ "\n" ++ rest).toList := by
  unfold unmanagedLine FanDecision.text
  cases d.hottest <;> simp [String.toList_append]

/-- Neither does the line of leds that were updated. -/
theorem not_suffix_updated (front : String) :
    ¬(unmanagedLine "leds").toList <:+ (front ++ ("leds" ++ ": " ++ "updated" ++ "\n")).toList := by
  intro h
  have hline : ("leds" ++ ": " ++ "updated" ++ "\n").toList <:+
      (front ++ ("leds" ++ ": " ++ "updated" ++ "\n")).toList :=
    ⟨front.toList, String.toList_append.symm⟩
  have hshort := List.suffix_of_suffix_length_le hline h (by decide)
  exact absurd hshort (by decide)

/-- A report of the passes has a line for each of them. -/
theorem manage_ok {text : String} (h : (manage p s).1 = .ok text) :
    ∃ fans leds, passLine "fans" FanDecision.text (p.manageFans s).1 = .ok fans ∧
      passLine "leds" (fun _ => "updated") (p.manageLeds (p.manageFans s).2).1 = .ok leds ∧
      text = fans ++ leds := by
  rw [manage] at h
  obtain ⟨_, hrun, h⟩ := ok_of_bind h
  cases hrun
  obtain ⟨fans, hfans, h⟩ := ok_of_bind h
  obtain ⟨_, hrun, h⟩ := ok_of_bind h
  cases hrun
  obtain ⟨leds, hleds, h⟩ := ok_of_bind h
  cases h
  exact ⟨fans, leds, hfans, hleds, rfl⟩

/-- **A report says that a pass is missing exactly if the pass ended in `unsupported`.** The pass
over the leds runs after the one over the fans. -/
theorem manage_lines {text : String} (h : (manage p s).1 = .ok text) :
    ((unmanagedLine "fans").toList <+: text.toList ↔
      (p.manageFans s).1 = .error (.status .unsupported)) ∧
    ((unmanagedLine "leds").toList <:+ text.toList ↔
      (p.manageLeds (p.manageFans s).2).1 = .error (.status .unsupported)) := by
  obtain ⟨fans, leds, hfans, hleds, rfl⟩ := manage_ok h
  constructor
  · obtain ⟨d, hrun, rfl⟩ | ⟨hrun, rfl⟩ := passLine_ok hfans
    · simp only [hrun, reduceCtorEq, iff_false]
      exact not_prefix_decision d leds
    · simp [hrun, String.toList_append]
  · obtain ⟨_, hrun, rfl⟩ | ⟨hrun, rfl⟩ := passLine_ok hleds
    · simp only [hrun, reduceCtorEq, iff_false]
      exact not_suffix_updated fans
    · simp [hrun, String.toList_append]

end SwitchPlatform.Report
