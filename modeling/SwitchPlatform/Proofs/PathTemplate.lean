import SwitchPlatform.Locator
import SwitchPlatform.Proofs.Text.Decimal

/-!
# Templates filled in

A template is cut at its slots: what is in front of the first one, and what is behind each
(`cut`). The pieces hold no slot, and no other pieces without slots make up the template
(`isCut_iff`), so counting slots from the left is counting pieces. Rendering puts the values between
the pieces and leaves the slots that are over (`fill_eq_weave`). A decimal holds no brace, so no
slot appears where there was none, and values may be filled in one stage after another
(`fill_fill`). `render_fills` puts this together.
-/

namespace SwitchPlatform.PathTemplate

variable {c : Char} {cs p first : List Char} {rest : List (List Char)} {vs xs : List Nat}

/-! ## Slots -/

/-- A slot without a value. -/
def slot : List Char := ['\x7b', '\x7d']

/-- Is a character, with the text behind it, the start of a slot? -/
def Opens (c : Char) (cs : List Char) : Prop :=
  c = '\x7b' ∧ cs.head? = some '\x7d'

/-- What is in front of the first slot, and what is behind each slot up to the next one. -/
def cut : List Char → List Char × List (List Char)
  | '\x7b' :: '\x7d' :: cs => ([], (cut cs).1 :: (cut cs).2)
  | c :: cs => (c :: (cut cs).1, (cut cs).2)
  | [] => ([], [])

/-- Pieces with a text between each and the next, by its place. -/
def weave (first : List Char) (rest : List (List Char)) (between : Nat → List Char) : List Char :=
  first ++ rest.zipIdx.flatMap fun (p, i) => between i ++ p

/-- What stands in a slot: the decimal of its value, or the slot itself if it has none. -/
def inSlot : Option Nat → List Char
  | some v => (toString v).toList
  | none => slot

theorem fill_slot (cs : List Char) (vs : List Nat) :
    fill (slot ++ cs) vs = inSlot vs.head? ++ fill cs vs.tail := by
  cases vs with
  | nil => rfl
  | cons v vs => rfl

theorem fill_cons (h : ¬Opens c cs) (vs : List Nat) : fill (c :: cs) vs = c :: fill cs vs := by
  refine fill.eq_3 vs c cs ?_ ?_
  · rintro _ _ _ - rfl rfl
    exact h ⟨rfl, rfl⟩
  · rintro _ - rfl rfl
    exact h ⟨rfl, rfl⟩

theorem cut_slot (cs : List Char) : cut (slot ++ cs) = ([], (cut cs).1 :: (cut cs).2) :=
  rfl

theorem cut_cons (h : ¬Opens c cs) : cut (c :: cs) = (c :: (cut cs).1, (cut cs).2) := by
  refine cut.eq_2 c cs ?_
  rintro _ rfl rfl
  exact h ⟨rfl, rfl⟩

/-- A text is empty, starts with a slot, or starts with a character that opens none. -/
@[elab_as_elim]
theorem slot_induction {motive : List Char → Prop} (nil : motive [])
    (slot : ∀ cs, motive cs → motive (slot ++ cs))
    (plain : ∀ c cs, ¬Opens c cs → motive cs → motive (c :: cs)) (cs : List Char) :
    motive cs := by
  induction cs using cut.induct with
  | case1 cs ih => exact slot cs ih
  | case2 c cs h ih =>
    refine plain c cs (fun ⟨hc, hcs⟩ => ?_) ih
    obtain ⟨cs', rfl⟩ := List.head?_eq_some_iff.1 hcs
    exact h cs' hc rfl
  | case3 => exact nil

/-! ## Pieces -/

theorem weave_nil (first : List Char) (between : Nat → List Char) :
    weave first [] between = first :=
  List.append_nil first

theorem weave_cons (first p : List Char) (rest : List (List Char)) (between : Nat → List Char) :
    weave first (p :: rest) between =
      first ++ between 0 ++ weave p rest fun i => between (i + 1) := by
  rw [weave, weave, List.zipIdx_cons, List.flatMap_cons, List.zipIdx_succ, List.flatMap_map]
  simp only [List.append_assoc]

/-- **Rendering puts the values between the pieces.** -/
theorem fill_eq_weave (cs : List Char) (vs : List Nat) :
    fill cs vs = weave (cut cs).1 (cut cs).2 fun i => inSlot vs[i]? := by
  induction cs using slot_induction generalizing vs with
  | nil => rfl
  | slot cs ih =>
    rw [fill_slot, ih, cut_slot, weave_cons, List.head?_eq_getElem?]
    simp only [List.getElem?_tail, List.nil_append]
  | plain c cs h ih =>
    rw [fill_cons h, cut_cons h, ih]
    rfl

/-- Without values a template is its own text. -/
theorem fill_nil (cs : List Char) : fill cs [] = cs := by
  induction cs using slot_induction with
  | nil => rfl
  | slot cs ih =>
    rw [fill_slot, List.tail_nil, ih]
    rfl
  | plain c cs h ih => rw [fill_cons h, ih]

/-- Pieces without slots that make up a text. -/
structure IsCut (cs first : List Char) (rest : List (List Char)) : Prop where
  text : weave first rest (fun _ => slot) = cs
  bare : ∀ p ∈ first :: rest, ¬slot <:+: p

theorem isPrefix_cut (cs : List Char) : (cut cs).1 <+: cs := by
  induction cs using slot_induction with
  | nil => exact List.nil_prefix
  | slot cs ih => exact List.nil_prefix
  | plain c cs h ih =>
    rw [cut_cons h]
    exact (List.prefix_cons_inj c).2 ih

theorem Opens.of_prefix (h : Opens c p) (hfront : p <+: cs) : Opens c cs := by
  obtain ⟨cs, rfl⟩ := hfront
  exact ⟨h.1, by rw [List.head?_append, h.2, Option.some_or]⟩

/-- A slot in a text opens with the first character, or it is behind it. -/
theorem slot_infix_cons_iff : slot <:+: c :: cs ↔ Opens c cs ∨ slot <:+: cs := by
  rw [List.infix_cons_iff]
  refine or_congr_left ?_
  rw [slot, List.cons_prefix_cons, Opens, eq_comm]
  refine and_congr_right fun _ => ?_
  cases cs with
  | nil => simp
  | cons d cs => simp [List.cons_prefix_cons, eq_comm]

theorem isCut_cut (cs : List Char) : IsCut cs (cut cs).1 (cut cs).2 := by
  refine ⟨?_, ?_⟩
  · have h := (fill_eq_weave cs []).symm
    rwa [fill_nil] at h
  · induction cs using slot_induction with
    | nil => exact List.forall_mem_singleton.2 (by decide)
    | slot cs ih =>
      rw [cut_slot]
      exact List.forall_mem_cons.2 ⟨(by decide : ¬slot <:+: []), ih⟩
    | plain c cs h ih =>
      obtain ⟨hfirst, hrest⟩ := List.forall_mem_cons.1 ih
      rw [cut_cons h]
      refine List.forall_mem_cons.2 ⟨fun hslot => ?_, hrest⟩
      obtain hopens | hslot := slot_infix_cons_iff.1 hslot
      · exact h (hopens.of_prefix (isPrefix_cut cs))
      · exact hfirst hslot

/-- A piece without a slot, with a slot or the end behind it, stays a piece. -/
theorem cut_append (hp : ¬slot <:+: p) (hcs : cs = [] ∨ cs.head? = some '\x7b') :
    cut (p ++ cs) = (p ++ (cut cs).1, (cut cs).2) := by
  induction p with
  | nil => rfl
  | cons c p ih =>
    rw [slot_infix_cons_iff, not_or] at hp
    have hopens : ¬Opens c (p ++ cs) := by
      rintro ⟨hc, hhead⟩
      cases p with
      | nil =>
        obtain rfl | hcs := hcs
        · cases hhead
        · rw [List.nil_append, hcs] at hhead
          cases hhead
      | cons d p => exact hp.1 ⟨hc, hhead⟩
    rw [List.cons_append, cut_cons hopens, ih hp.2]
    rfl

/-- **A text has no other pieces.** -/
theorem isCut_iff : IsCut cs first rest ↔ cut cs = (first, rest) := by
  constructor
  · rintro ⟨rfl, bare⟩
    induction rest generalizing first with
    | nil =>
      have hcut := cut_append (bare first List.mem_cons_self) (.inl rfl)
      rw [List.append_nil, cut, List.append_nil] at hcut
      rw [weave_nil, hcut]
    | cons p rest ih =>
      obtain ⟨hfirst, bare⟩ := List.forall_mem_cons.1 bare
      rw [weave_cons, List.append_assoc, cut_append hfirst (.inr rfl), cut_slot, ih bare,
        List.append_nil]
  · intro h
    have hcut := isCut_cut cs
    rwa [h] at hcut

/-! ## Stages -/

/-- A decimal holds no brace. -/
theorem not_brace_of_mem_decimal {n : Nat} (h : c ∈ (toString n).toList) :
    c ≠ '\x7b' ∧ c ≠ '\x7d' := by
  have hdigit := Text.isDigit_of_mem_natDecimal h
  constructor
  all_goals
    rintro rfl
    cases hdigit

/-- Text without an opening brace is left as it is. -/
theorem fill_append (hp : '\x7b' ∉ p) (cs : List Char) (vs : List Nat) :
    fill (p ++ cs) vs = p ++ fill cs vs := by
  induction p with
  | nil => rfl
  | cons c p ih =>
    obtain ⟨hc, hp⟩ := List.ne_and_not_mem_of_not_mem_cons hp
    rw [List.cons_append, fill_cons fun h => hc h.1.symm, ih hp]
    rfl

/-- No closing brace comes to the front. -/
theorem head?_of_head?_fill (h : (fill cs vs).head? = some '\x7d') : cs.head? = some '\x7d' := by
  induction cs using slot_induction with
  | nil => exact h
  | slot cs =>
    rw [fill_slot] at h
    cases vs with
    | nil => cases h
    | cons v vs =>
      have hv : '\x7d' ∈ (toString v).toList := by
        rw [List.head?_append_of_ne_nil _ (by simp [inSlot])] at h
        exact List.mem_of_head? h
      exact absurd rfl (not_brace_of_mem_decimal hv).2
  | plain c cs hopens => rwa [fill_cons hopens] at h

/-- **Filling in two stages is filling at once**, if the first stage uses up its values. -/
theorem fill_fill (h : xs.length ≤ (cut cs).2.length) (ys : List Nat) :
    fill (fill cs xs) ys = fill cs (xs ++ ys) := by
  induction cs using slot_induction generalizing xs with
  | nil => rfl
  | slot cs ih =>
    cases xs with
    | nil => rw [fill_nil, List.nil_append]
    | cons v xs =>
      have hv : '\x7b' ∉ (toString v).toList := fun hv => (not_brace_of_mem_decimal hv).1 rfl
      have hxs : xs.length ≤ (cut cs).2.length := Nat.le_of_succ_le_succ h
      calc fill (fill (slot ++ cs) (v :: xs)) ys
          = fill ((toString v).toList ++ fill cs xs) ys := by rw [fill_slot]; rfl
        _ = (toString v).toList ++ fill cs (xs ++ ys) := by rw [fill_append hv, ih hxs]
        _ = fill (slot ++ cs) (v :: xs ++ ys) := by rw [fill_slot]; rfl
  | plain c cs hopens ih =>
    rw [cut_cons hopens] at h
    have hfilled : ¬Opens c (fill cs xs) := fun hc => hopens ⟨hc.1, head?_of_head?_fill hc.2⟩
    rw [fill_cons hopens, fill_cons hfilled, fill_cons hopens, ih h]

/-! ## Every template -/

/-- What rendering makes of a template with its pieces. -/
structure Fills (t : PathTemplate) (first : List Char) (rest : List (List Char)) : Prop where
  /-- These are the pieces, and no others. -/
  pieces : ∀ first' rest', IsCut t.text.toList first' rest' ↔ first' = first ∧ rest' = rest
  /-- The slot with a number has the value with that number, as long as there are values. -/
  filled : ∀ vs : List Nat, (t.render vs).toList = weave first rest fun i => inSlot vs[i]?
  staged : ∀ xs ys : List Nat, xs.length ≤ rest.length →
    (PathTemplate.mk (t.render xs)).render ys = t.render (xs ++ ys)
  distinct : rest.length = 1 → ∀ v w vs ws, t.render (v :: vs) = t.render (w :: ws) → v = w

/-- **Rendering fills the slots of a template from left to right.** -/
theorem render_fills (t : PathTemplate) : ∃ first rest, t.Fills first rest := by
  refine ⟨(cut t.text.toList).1, (cut t.text.toList).2, ?_, ?_, ?_, ?_⟩
  · intro first' rest'
    rw [isCut_iff, Prod.ext_iff, eq_comm, eq_comm (b := rest')]
  · intro vs
    rw [render, String.toList_ofList, fill_eq_weave]
  · intro xs ys h
    rw [render, render, render, String.toList_ofList, fill_fill h]
  · intro hone v w vs ws h
    obtain ⟨p, hp⟩ := List.length_eq_one_iff.1 hone
    have hfill : fill t.text.toList (v :: vs) = fill t.text.toList (w :: ws) :=
      String.ofList_injective h
    rw [fill_eq_weave, fill_eq_weave, hp, weave_cons, weave_cons, weave_nil, weave_nil,
      List.append_cancel_right_eq, List.append_cancel_left_eq] at hfill
    exact Text.natDecimal_injective hfill

/-- Braces around a slot stay, and so does a slot without a value. -/
example : (PathTemplate.mk "\x7b\x7b\x7d\x7d/\x7b\x7d").render [5] =
    "\x7b5\x7d/\x7b\x7d" := by decide

end SwitchPlatform.PathTemplate
