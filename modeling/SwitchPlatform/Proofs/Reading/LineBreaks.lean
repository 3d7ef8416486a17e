import Mathlib.Tactic
import SwitchPlatform.Proofs.Text.Decimal
import SwitchPlatform.Reading.Object
import SwitchPlatform.Status

/-!
# Line breaks in the text of a reading

The text of an object is put together from names, numbers, the description of its header and, for
a fan or a power supply that is there, the labels that were read from its attributes. Names and
numbers are free of line breaks, so a text breaks exactly where its description or one of its
labels does (`ObjectReading.breaks_text`). Every text starts with that of its header
(`ObjectReading.text_eq_header`).
-/

namespace SwitchPlatform

/-! ## Line breaks of texts -/

namespace Text

/-- The number of line breaks in a text. -/
def breaks (s : String) : Nat :=
  s.toList.count '\n'

@[simp]
theorem breaks_append (s t : String) : breaks (s ++ t) = breaks s + breaks t := by
  rw [breaks, String.toList_append, List.count_append]
  rfl

theorem breaks_eq_zero_iff {s : String} : breaks s = 0 ↔ '\n' ∉ s.toList :=
  List.count_eq_zero

theorem breaks_of_plain {s : String} (h : '\n' ∉ s.toList) : breaks s = 0 :=
  breaks_eq_zero_iff.2 h

theorem breaks_join (l : List String) : breaks (String.join l) = (l.map breaks).sum := by
  induction l with
  | nil => rfl
  | cons s l ih => rw [String.join_cons, breaks_append, ih, List.map_cons, List.sum_cons]

theorem newline_not_mem_toDigits {base : Nat} (h : 1 < base) (hle : base ≤ 16) (n : Nat) :
    '\n' ∉ Nat.toDigits base n :=
  (isNatural_toDigits h n).not_mem hle rfl

@[simp]
theorem breaks_natRepr (n : Nat) : breaks n.repr = 0 := by
  refine breaks_of_plain ?_
  rw [Nat.toList_repr]
  exact newline_not_mem_toDigits (by decide) (by decide) n

@[simp]
theorem breaks_intRepr (v : Int) : breaks v.repr = 0 := by
  refine breaks_of_plain fun h => ?_
  rw [← Int.toString_eq_repr] at h
  rcases mem_decimal h with hdigit | hminus
  · exact absurd hdigit (by decide)
  · exact absurd hminus (by decide)

theorem breaks_padLeft {fill : Char} (hfill : fill ≠ '\n') (width : Nat) (s : String) :
    breaks (padLeft width fill s) = breaks s := by
  simp [breaks, padLeft, List.count_replicate, hfill]

@[simp]
theorem breaks_prefixedHex (width n : Nat) : breaks (prefixedHex width n) = 0 := by
  have hdigits : breaks (String.ofList (Nat.toDigits 16 n)) = 0 := by
    refine breaks_of_plain ?_
    rw [String.toList_ofList]
    exact newline_not_mem_toDigits (by decide) (by decide) n
  rw [prefixedHex, hex, breaks_append, breaks_padLeft (by decide), hdigits]
  rfl

@[simp]
theorem breaks_milli (v : Int32) : breaks (milli v) = 0 := by
  simp (disch := decide) [milli, apply_ite breaks, breaks_padLeft, breaks_of_plain]

end Text

open Text

/-! ## Names and headers -/

@[simp]
theorem Oid.breaks_text (id : Oid) : breaks id.text = 0 := by
  have hname : breaks id.kind.name = 0 := by cases id.kind <;> rfl
  simp (disch := decide) [Oid.text, hname, breaks_of_plain]

@[simp]
theorem StatusError.breaks_message (e : StatusError) : breaks e.message = 0 := by
  cases e <;> rfl

@[simp]
theorem ModuleKind.breaks_name (k : ModuleKind) : breaks k.name = 0 := by
  cases k <;> simp (disch := decide) [ModuleKind.name, breaks_of_plain]

/-- A header breaks where its description does. -/
@[simp]
theorem Header.breaks_text (h : Header) : breaks h.text = breaks h.description := by
  simp (disch := decide) [Header.text, Oid.hexText, breaks_of_plain]

/-! ## Readings -/

theorem ThermalReading.breaks_text (r : ThermalReading) :
    breaks r.text = breaks r.header.description := by
  have hlevel : ∀ level : ThermalLevel, breaks level.name = 0 := by rintro (_ | _ | _ | _) <;> rfl
  unfold ThermalReading.text
  split <;>
    simp (disch := decide) [apply_ite breaks, hlevel, breaks_of_plain]

theorem LedReading.breaks_text (r : LedReading) :
    breaks r.text = breaks r.header.description := by
  have hmode : breaks r.mode.name = 0 := by cases r.mode <;> rfl
  simp (disch := decide) [LedReading.text, apply_ite breaks, hmode, breaks_of_plain]

theorem breaks_moduleState (present : Bool) (kind : Option ModuleKind) :
    breaks (ObjectReading.moduleState present kind) = 0 := by
  unfold ObjectReading.moduleState
  split
  · split <;> simp (disch := decide) [breaks_of_plain]
  · rfl

/-- An empty label is left out, and has no line breaks either. -/
theorem FanReading.breaks_labelled {label : String} (h : '\n' ∉ label.toList) (value : String) :
    breaks (labelled label value) = breaks value := by
  unfold labelled
  split
  · rename_i hempty
    rw [hempty]
  · simp (disch := decide) [breaks_of_plain h, breaks_of_plain]

theorem FanReading.breaks_text (r : FanReading) :
    breaks r.text = breaks r.header.description +
      if r.status.has FanStatus.present then breaks r.model + breaks r.serial else 0 := by
  have hmode : breaks r.mode.name = 0 := by cases r.mode <;> rfl
  have hdir : ∀ dir : FanDir, breaks dir.name = 0 := by rintro (_ | _) <;> rfl
  unfold FanReading.text
  cases r.dir? <;>
    simp (disch := decide) [apply_ite breaks, hmode, hdir, breaks_labelled, breaks_of_plain]

theorem PsuReading.breaks_valuesText (r : PsuReading) : breaks r.valuesText = 0 := by
  simp (disch := decide) [valuesText, values, apply_ite breaks, breaks_of_plain]

theorem PsuReading.breaks_text (r : PsuReading) :
    breaks r.text = breaks r.header.description +
      if r.status.has PsuStatus.present then breaks r.model + breaks r.serial else 0 := by
  simp (disch := decide) [PsuReading.text, apply_ite breaks, FanReading.breaks_labelled,
    breaks_valuesText, breaks_of_plain]

namespace ObjectReading

/-- The labels that the text of an object shows: the model and the serial number of a fan or a
power supply that is there. -/
def labels : ObjectReading → List String
  | fan r => if r.status.has FanStatus.present then [r.model, r.serial] else []
  | psu r => if r.status.has PsuStatus.present then [r.model, r.serial] else []
  | _ => []

theorem sum_breaks_ite (c : Bool) (model serial : String) :
    ((if c then [model, serial] else []).map breaks).sum =
      if c then breaks model + breaks serial else 0 := by
  cases c <;> simp

/-- **A text breaks where its description or one of its labels does.** -/
theorem breaks_text (r : ObjectReading) :
    breaks r.text = breaks r.header.description + (r.labels.map breaks).sum := by
  cases r with
  | chassis h => exact h.breaks_text
  | thermal r => exact r.breaks_text
  | fan r => rw [text, header, labels, r.breaks_text, sum_breaks_ite]
  | psu r => rw [text, header, labels, r.breaks_text, sum_breaks_ite]
  | led r => exact r.breaks_text
  | module h present kind => simp [text, header, labels, breaks_moduleState]

/-- Every text starts with that of its header. -/
theorem text_eq_header (r : ObjectReading) : ∃ rest, r.text = r.header.text ++ rest := by
  cases r with
  | chassis h => exact ⟨"", String.append_empty.symm⟩
  | _ => exact ⟨_, rfl⟩

end ObjectReading

end SwitchPlatform
