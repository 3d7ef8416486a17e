import Mathlib.Data.List.TakeWhile
import SwitchPlatform.Proofs.Io.Within
import SwitchPlatform.Proofs.Logging.Settings
import SwitchPlatform.Proofs.Text.Split
import SwitchPlatform.Tool

/-!
# Setting levels from a text

A text sets levels as a whole or not at all. If one of its items is no setting, the first such item
decides the error and the control stays as it was; otherwise every target ends at the level of the
last item that means it, and so do the undeclared targets (`LogControl.SetsUp`). For these stands
the name `default`, which thereby means no target, even one that has it for a tag
(`LogControl.spare_keeps_level`).

The filter in force is renewed only if some level was changed on the way. That is enough
(`LogLevels.applyAll_unchanged`), so the filter of every control that can be reached is the one of
its levels (`LogControl.Reached.filter_eq`).
-/

namespace SwitchPlatform

/-! ## Items -/

section MapM

variable {ε α β : Type} {f : α → Except ε β}

/-- All values are there if no element fails. -/
theorem mapM_eq_ok_iff {xs : List α} {ys : List β} :
    xs.mapM f = .ok ys ↔ List.Forall₂ (fun x y => f x = .ok y) xs ys := by
  induction xs generalizing ys with
  | nil => cases ys <;> simp [pure, Except.pure]
  | cons x xs ih =>
    rw [List.mapM_cons, List.forall₂_cons_left_iff]
    simp only [← ih]
    cases f x with
    | error e => simp [bind, Except.bind]
    | ok y =>
      cases xs.mapM f with
      | error e => simp [bind, Except.bind]
      | ok ys' => simp [bind, Except.bind, pure, Except.pure, eq_comm]

/-- The first element that fails decides the error. -/
theorem mapM_eq_error_iff {xs : List α} {e : ε} :
    xs.mapM f = .error e ↔ ∃ front x back, xs = front ++ x :: back ∧
      (∀ x' ∈ front, ∃ y, f x' = .ok y) ∧ f x = .error e := by
  induction xs with
  | nil => simp [pure, Except.pure]
  | cons x xs ih =>
    have hrun : (x :: xs).mapM f = .error e ↔
        f x = .error e ∨ (∃ y, f x = .ok y) ∧ xs.mapM f = .error e := by
      rw [List.mapM_cons]
      cases f x with
      | error e' => simp [bind, Except.bind]
      | ok y => cases xs.mapM f <;> simp [bind, Except.bind, pure, Except.pure]
    rw [hrun, ih]
    constructor
    · rintro (he | ⟨hy, front, x', back, rfl, hfront, he⟩)
      · exact ⟨[], x, xs, rfl, nofun, he⟩
      · exact ⟨x :: front, x', back, rfl, List.forall_mem_cons.2 ⟨hy, hfront⟩, he⟩
    · rintro ⟨_ | ⟨x₀, front⟩, x', back, heq, hfront, he⟩
      · cases heq
        exact .inl he
      · cases heq
        obtain ⟨hy, hfront⟩ := List.forall_mem_cons.1 hfront
        exact .inr ⟨hy, front, x', back, rfl, hfront, he⟩

end MapM

/-- There is a list for a relation if there is an element for each element. -/
theorem exists_forall₂_iff {α β : Type} {R : α → β → Prop} {xs : List α} :
    (∃ ys, List.Forall₂ R xs ys) ↔ ∀ x ∈ xs, ∃ y, R x y := by
  induction xs with
  | nil => exact iff_of_true ⟨[], .nil⟩ nofun
  | cons x xs ih =>
    rw [List.forall_mem_cons, ← ih]
    constructor
    · rintro ⟨_, hx | ⟨hx, hxs⟩⟩
      exact ⟨⟨_, hx⟩, _, hxs⟩
    · rintro ⟨⟨y, hy⟩, ys, hys⟩
      exact ⟨y :: ys, .cons hy hys⟩

namespace LogSetting

/-- The items of a text: what there is between the commas besides the blanks around it. -/
def itemsOf (text : String) : List (List Char) :=
  ((text.toList.splitOn ',').map Text.trimChars).filter (!·.isEmpty)

/-- An item has a name and a level around its first `=`. -/
inductive Sets : List Char → String × LogLevel → Prop
  | intro {name level : List Char} {l : LogLevel} (first : '=' ∉ name)
      (hlevel : LogLevel.parse? (String.ofList (Text.trimChars level)) = some l) :
      Sets (name ++ '=' :: level) (String.ofList (Text.trimChars name), l)

/-- An item has no `=`, or behind the first one there is no level. -/
inductive Refuses : List Char → LogSettingError → Prop
  | malformed {item : List Char} (none : '=' ∉ item) :
      Refuses item (.malformed (String.ofList item))
  | unknownLevel {name level : List Char} (first : '=' ∉ name)
      (hlevel : LogLevel.parse? (String.ofList (Text.trimChars level)) = none) :
      Refuses (name ++ '=' :: level) (.unknownLevel (String.ofList (Text.trimChars name))
        (String.ofList (Text.trimChars level)))

/-- The setting of a name and a level. -/
def ofPair (p : String × LogLevel) : LogSetting :=
  ⟨keyOf p.1, p.2⟩

theorem items_eq_splitOn (cs : List Char) : items cs = cs.splitOn ',' :=
  Text.eq_splitOn rfl (fun _ _ => rfl) cs

theorem parse_eq (text : String) : parse text = (itemsOf text).mapM ofItem := by
  rw [parse, items_eq_splitOn, itemsOf]

/-- An item has no `=`, or it has a first one. -/
theorem item_cases (item : List Char) : '=' ∉ item ∨
    ∃ name level, '=' ∉ name ∧ item = name ++ '=' :: level := by
  by_cases h : '=' ∈ item
  · obtain ⟨name, level, rfl, hname⟩ := List.eq_append_cons_of_mem h
    exact .inr ⟨name, level, hname, rfl⟩
  · exact .inl h

theorem ofItem_of_not_mem {item : List Char} (h : '=' ∉ item) :
    ofItem item = .error (.malformed (String.ofList item)) := by
  have hdrop : item.dropWhile (· != '=') = [] := by
    rw [List.dropWhile_eq_nil_iff]
    intro c hc
    exact bne_iff_ne.2 fun heq => h (heq ▸ hc)
  rw [ofItem, hdrop]

theorem ofItem_append {name level : List Char} (h : '=' ∉ name) :
    ofItem (name ++ '=' :: level) =
      match LogLevel.parse? (String.ofList (Text.trimChars level)) with
      | some l => .ok (ofPair (String.ofList (Text.trimChars name), l))
      | none => .error (.unknownLevel (String.ofList (Text.trimChars name))
          (String.ofList (Text.trimChars level))) := by
  have hname : ∀ c ∈ name, (c != '=') = true := fun c hc =>
    bne_iff_ne.2 fun heq => h (heq ▸ hc)
  rw [ofItem, List.dropWhile_append_of_pos hname, List.takeWhile_append_of_pos hname]
  rw [List.dropWhile_cons_of_neg (by simp), List.takeWhile_cons_of_neg (by simp), List.append_nil]
  rfl

theorem ofItem_eq_ok_iff {item : List Char} {s : LogSetting} :
    ofItem item = .ok s ↔ ∃ p, Sets item p ∧ ofPair p = s := by
  constructor
  · intro h
    rcases item_cases item with hnone | ⟨name, level, hname, rfl⟩
    · rw [ofItem_of_not_mem hnone] at h
      cases h
    · rw [ofItem_append hname] at h
      split at h
      · rename_i hlevel
        cases h
        exact ⟨_, .intro hname hlevel, rfl⟩
      · cases h
  · rintro ⟨_, ⟨hname, hlevel⟩, rfl⟩
    rw [ofItem_append hname, hlevel]

theorem ofItem_eq_error_iff {item : List Char} {e : LogSettingError} :
    ofItem item = .error e ↔ Refuses item e := by
  constructor
  · intro h
    rcases item_cases item with hnone | ⟨name, level, hname, rfl⟩
    · rw [ofItem_of_not_mem hnone] at h
      cases h
      exact .malformed hnone
    · rw [ofItem_append hname] at h
      split at h
      · cases h
      · rename_i hlevel
        cases h
        exact .unknownLevel hname hlevel
  · rintro (hnone | ⟨hname, hlevel⟩)
    · exact ofItem_of_not_mem hnone
    · rw [ofItem_append hname, hlevel]

/-- The first item that is refused decides the error of a text. -/
def FirstRefused (text : String) (e : LogSettingError) : Prop :=
  ∃ front item back, itemsOf text = front ++ item :: back ∧
    (∀ item' ∈ front, ∃ p, Sets item' p) ∧ Refuses item e

theorem parse_eq_error_iff {text : String} {e : LogSettingError} :
    parse text = .error e ↔ FirstRefused text e := by
  have hok : ∀ item, (∃ s, ofItem item = .ok s) ↔ ∃ p, Sets item p := by
    intro item
    simp only [ofItem_eq_ok_iff]
    exact ⟨fun ⟨_, p, hp, _⟩ => ⟨p, hp⟩, fun ⟨p, hp⟩ => ⟨_, p, hp, rfl⟩⟩
  rw [parse_eq, mapM_eq_error_iff, FirstRefused]
  simp only [hok, ofItem_eq_error_iff]

theorem parse_eq_ok_iff {text : String} {settings : List LogSetting} :
    parse text = .ok settings ↔
      ∃ ps, List.Forall₂ Sets (itemsOf text) ps ∧ ps.map ofPair = settings := by
  rw [parse_eq, mapM_eq_ok_iff]
  simp only [ofItem_eq_ok_iff]
  generalize itemsOf text = items
  constructor
  · intro h
    induction h with
    | nil => exact ⟨[], .nil, rfl⟩
    | cons hitem _ ih =>
      obtain ⟨p, hp, rfl⟩ := hitem
      obtain ⟨ps, hps, rfl⟩ := ih
      exact ⟨p :: ps, .cons hp hps, rfl⟩
  · rintro ⟨ps, hps, rfl⟩
    rw [List.forall₂_map_right_iff]
    exact hps.imp fun item p hp => ⟨p, hp, rfl⟩

/-! ## The last item that counts -/

/-- The level of the last pair whose name counts. -/
def lastLevel? (counts : String → Bool) (ps : List (String × LogLevel)) : Option LogLevel :=
  (ps.filter fun p => counts p.1).getLast?.map Prod.snd

end LogSetting

/-- Does a name mean a target: is it `all`, or a tag of the target? The name `default` means the
undeclared targets, whatever tags there are. -/
def LogTarget.isMeant (t : LogTarget) (name : String) : Bool :=
  decide (name = "all" ∨ name ≠ "default" ∧ t.hasTag name = true)

namespace LogSetting

theorem covers_keyOf (name : String) (t : LogTarget) : (keyOf name).covers t = t.isMeant name := by
  rw [keyOf, LogTarget.isMeant]
  split_ifs with hdefault hall
  · subst hdefault
    simp [LogKey.covers]
  · simp [hall, LogKey.covers]
  · simp [hall, hdefault, LogKey.covers]

theorem keyOf_eq_fallback_iff {name : String} : keyOf name = .fallback ↔ name = "default" := by
  rw [keyOf]
  split_ifs with hdefault hall
  · exact iff_of_true rfl hdefault
  · exact iff_of_false nofun hdefault
  · exact iff_of_false nofun hdefault

theorem map_getLast?_filter_map (q : LogSetting → Bool) (ps : List (String × LogLevel)) :
    ((ps.map ofPair).filter q).getLast?.map LogSetting.level =
      ((ps.filter fun p => q (ofPair p)).getLast?.map Prod.snd) := by
  rw [List.filter_map, List.getLast?_map, Option.map_map]
  rfl

theorem lastFor?_ofPair (ps : List (String × LogLevel)) (t : LogTarget) :
    lastFor? (ps.map ofPair) t = lastLevel? t.isMeant ps := by
  rw [lastFor?, map_getLast?_filter_map, lastLevel?]
  simp only [ofPair, covers_keyOf]

theorem lastFallback?_ofPair (ps : List (String × LogLevel)) :
    lastFallback? (ps.map ofPair) = lastLevel? (fun name => decide (name = "default")) ps := by
  rw [lastFallback?, map_getLast?_filter_map, lastLevel?]
  simp only [ofPair, keyOf_eq_fallback_iff]

end LogSetting

/-! ## What is changed -/

namespace LogLevels

/-- A setting that changes nothing leaves the levels as they are. -/
theorem apply_of_not_isChangedBy {l : LogLevels} {s : LogSetting} (h : l.isChangedBy s = false) :
    l.apply s = l := by
  simp only [isChangedBy, Bool.or_eq_false_iff, List.any_eq_false, Bool.and_eq_false_imp,
    Bool.and_eq_true, beq_iff_eq, bne_eq_false_iff_eq, bne_iff_ne, not_and, not_not] at h
  obtain ⟨hfallback, htargets⟩ := h
  have hsame : ∀ t ∈ l.targets, t.withLevel (if s.key.covers t then s.level else t.level) = t := by
    intro t ht
    split_ifs with hcovers
    · exact LogTarget.withLevel_eq_self.2 (htargets t ht hcovers).symm
    · rfl
  refine LogLevels.ext ?_ ?_
  · show (if s.key = .fallback then s.level else l.fallback) = l.fallback
    split_ifs with hkey
    · exact (hfallback hkey).symm
    · rfl
  · rw [apply_targets, List.map_congr_left hsame, List.map_id']

/-- **Settings that report no change leave the levels as they are.** -/
theorem applyAll_unchanged {l : LogLevels} {settings : List LogSetting}
    (h : (l.applyAll settings).2 = false) : (l.applyAll settings).1 = l := by
  induction settings with
  | nil => rfl
  | cons s settings ih =>
    obtain ⟨hs, hrest⟩ := Bool.or_eq_false_iff.1 h
    rw [applyAll]
    dsimp only
    rw [apply_of_not_isChangedBy hs] at hrest ⊢
    exact ih hrest

end LogLevels

namespace LogControl

variable {levels : LogLevels} {c : LogControl} {text : String}

theorem levels_update (c : LogControl) (settings : List LogSetting) :
    (c.update settings).levels = (c.levels.applyAll settings).1 := rfl

/-- The filter in force is the one of the levels after settings if it was before. -/
theorem filter_update (h : c.filter = c.levels.filter) (settings : List LogSetting) :
    (c.update settings).filter = (c.update settings).levels.filter := by
  rw [update]
  dsimp only
  split_ifs with hchanged
  · rfl
  · rw [LogLevels.applyAll_unchanged (Bool.eq_false_of_not_eq_true hchanged), h]

/-! ## Runs of a text -/

/-- A text that is no list of settings is an error, and leaves the control as it is. -/
theorem setup_of_error {e : LogSettingError} (h : LogSetting.parse text = .error e) :
    setup text c = (.error e, c) := by
  rw [setup, Action.bind_eq, Action.ofExcept_apply, h]

/-- A text that is a list of settings makes of a control what the settings make of it. -/
theorem setup_of_ok {settings : List LogSetting} (h : LogSetting.parse text = .ok settings) :
    setup text c = (.ok (), c.update settings) := by
  rw [setup, Action.bind_eq, Action.ofExcept_apply, h]
  exact Action.update_apply _ _

theorem setup_eq_error_iff {e : LogSettingError} :
    (setup text c).1 = .error e ↔ LogSetting.parse text = .error e := by
  cases h : LogSetting.parse text with
  | error e' => rw [setup_of_error h, Except.error.injEq, Except.error.injEq]
  | ok settings =>
    rw [setup_of_ok h]
    exact iff_of_false nofun nofun

theorem setup_eq_ok_iff :
    (setup text c).1 = .ok () ↔ ∃ settings, LogSetting.parse text = .ok settings := by
  cases h : LogSetting.parse text with
  | error e =>
    rw [setup_of_error h]
    exact iff_of_false nofun nofun
  | ok settings =>
    rw [setup_of_ok h]
    exact iff_of_true rfl ⟨settings, rfl⟩

/-- The controls that settings and texts lead to. -/
inductive Reached (levels : LogLevels) : LogControl → Prop
  | start : Reached levels (.start levels)
  | update {c : LogControl} (h : Reached levels c) (settings : List LogSetting) :
      Reached levels (c.update settings)
  | setup {c : LogControl} (h : Reached levels c) (text : String) :
      Reached levels (setup text c).2

/-- **The filter in force always is the one of the levels.** -/
theorem Reached.filter_eq (h : Reached levels c) : c.filter = c.levels.filter := by
  induction h with
  | start => rfl
  | update _ settings ih => exact filter_update ih settings
  | setup _ text ih =>
    cases hparse : LogSetting.parse text with
    | error e => rw [setup_of_error hparse, ih]
    | ok settings => rw [setup_of_ok hparse, filter_update ih]

/-- What a text makes of a control: it stays as it is if one of the items is refused, and else every
level is the one of the last item for it. -/
structure SetsUp (c : LogControl) (text : String) : Prop where
  refused : ∀ e, (setup text c).1 = .error e ↔ LogSetting.FirstRefused text e
  kept : ∀ e, (setup text c).1 = .error e → (setup text c).2 = c
  accepted : (setup text c).1 = .ok () ↔
    ∀ item ∈ LogSetting.itemsOf text, ∃ p, LogSetting.Sets item p
  applied : (setup text c).1 = .ok () →
    ∃ ps, List.Forall₂ LogSetting.Sets (LogSetting.itemsOf text) ps ∧
      (setup text c).2.levels.targets = c.levels.targets.map (fun t =>
        t.withLevel ((LogSetting.lastLevel? t.isMeant ps).getD t.level)) ∧
      (setup text c).2.levels.fallback =
        (LogSetting.lastLevel? (fun name => name = "default") ps).getD c.levels.fallback

theorem setsUp (c : LogControl) (text : String) : c.SetsUp text where
  refused e := by rw [setup_eq_error_iff, LogSetting.parse_eq_error_iff]
  kept e h := by rw [setup_of_error (setup_eq_error_iff.1 h)]
  accepted := by
    simp only [setup_eq_ok_iff, LogSetting.parse_eq_ok_iff]
    rw [← exists_forall₂_iff]
    exact ⟨fun ⟨_, ps, hps, _⟩ => ⟨ps, hps⟩, fun ⟨ps, hps⟩ => ⟨_, ps, hps, rfl⟩⟩
  applied ok := by
    obtain ⟨settings, hparse⟩ := setup_eq_ok_iff.1 ok
    rw [setup_of_ok hparse]
    obtain ⟨ps, hps, rfl⟩ := LogSetting.parse_eq_ok_iff.1 hparse
    refine ⟨ps, hps, ?_, ?_⟩
    · simp only [levels_update, LogLevels.applyAll_targets, LogSetting.lastFor?_ofPair]
    · rw [levels_update, LogLevels.applyAll_fallback, LogSetting.lastFallback?_ofPair]

end LogControl

/-! ## In a session -/

namespace Tool

/-- What the configuration of a session may come to: it cannot be read, or its text for the levels
is refused, and nothing changes; or it has no such text, or one that sets the levels. -/
inductive Configures (s : Session) : Except ToolError Config × Session → Prop
  | unread (e : ConfigError) : Configures s (.error (.config e), s)
  | refused {config : Config} {text : String} {e : LogSettingError}
      (some : config.tracing = some text) (error : (LogControl.setup text s.logging).1 = .error e) :
      Configures s (.error (.tracing e), s)
  | silent {config : Config} (none : config.tracing = none) : Configures s (.ok config, s)
  | set {config : Config} {text : String} (some : config.tracing = some text)
      (ok : (LogControl.setup text s.logging).1 = .ok ()) :
      Configures s (.ok config, { s with logging := (LogControl.setup text s.logging).2 })

theorem configure_configures (args : Arguments) (cwd : FileTree.Location) (s : Session) :
    Configures s (configure args cwd s) := by
  rw [configure, Action.bind_eq, onHost, Action.inspect_apply]
  cases Config.loadOrDefault args.config cwd s.machine.tree with
  | error e => exact .unread e
  | ok file =>
    dsimp only [Except.mapError]
    generalize file.override args.platform args.root args.bmc args.tracing = config
    cases htext : config.tracing with
    | none => exact .silent htext
    | some text =>
      dsimp only
      rw [Action.bind_eq, Action.zoom_eq, Action.mapError_eq]
      cases hsetup : (LogControl.setup text s.logging).1 with
      | error e =>
        -- the control is put back as it was found
        have hkept := (s.logging.setsUp text).kept e hsetup
        dsimp only [Except.mapError]
        rw [hkept]
        exact .refused htext hsetup
      | ok _ => exact .set htext hsetup

end Tool

namespace LogControl

/-- **A text sets levels as a whole, the last item for a level decides it, and the filter follows.**
For a control that can be reached: what a text makes of it; the filters before and after; that
settings only report no change if they make none; and that a session whose configuration fails
keeps its control. -/
theorem setup_atomic {levels : LogLevels} {c : LogControl} (h : Reached levels c) (text : String) :
    c.SetsUp text ∧ (setup text c).2.filter = (setup text c).2.levels.filter ∧
      c.filter = c.levels.filter ∧
      (∀ settings, (c.levels.applyAll settings).2 = false →
        (c.levels.applyAll settings).1 = c.levels) ∧
      ∀ args cwd (s : Tool.Session), s.logging = c →
        Tool.Configures s (Tool.configure args cwd s) :=
  ⟨c.setsUp text, (h.setup text).filter_eq, h.filter_eq,
    fun _ => LogLevels.applyAll_unchanged, fun args cwd s _ => Tool.configure_configures args cwd s⟩

/-- Targets are set by a tag and then all of them; an item further back without `=` keeps a text
from setting anything. -/
theorem start_setup_atomic :
    let c := LogControl.start Tool.logLevels
    let named (c : LogControl) := c.levels.targets.map fun t => (t.name, t.level)
    let text := "config=off, all = DEBUG,,platform=5,default=error"
    (setup text c).1 = .ok () ∧
      named (setup text c).2 = [("tracectl", .debug), ("platform", .trace), ("platforms", .trace),
        ("config", .debug), ("onlpdump", .debug)] ∧
      (setup text c).2.levels.fallback = .error ∧
      (setup text c).2.filter = (setup text c).2.levels.filter ∧
      (setup "platform=trace,oops" c).1 = .error (.malformed "oops") ∧
      (setup "platform=trace,oops" c).2 = c ∧ c.SetsUp "platform=trace,oops" ∧
      LogSetting.FirstRefused "platform=trace,oops" (.malformed "oops") := by
  intro c named text
  have reached : Reached Tool.logLevels c := .start
  obtain ⟨-, hfilter, -⟩ := setup_atomic reached text
  obtain ⟨setsUp, -⟩ := setup_atomic reached "platform=trace,oops"
  have herror : (setup "platform=trace,oops" c).1 = .error (.malformed "oops") := by
    decide +kernel
  exact ⟨by decide +kernel, by decide +kernel, by decide +kernel, hfilter, herror,
    setsUp.kept _ herror, setsUp, (setsUp.refused _).1 herror⟩

/-- A control with one target, which is tagged `default`. -/
def spare : LogControl :=
  .start (.collect .info [⟨"spare", "spare", .info, ["default"], .custom⟩])

/-- The tags alone do not decide what an item means: `default=debug` does not reach a target tagged
`default`, since that name is for the undeclared targets. And ` debug` is no level, yet an item may
have it behind its `=`, since the blanks around a name or a level do not count. -/
theorem spare_keeps_level :
    (setup "default=debug" spare).1 = .ok () ∧
      List.Forall₂ LogSetting.Sets (LogSetting.itemsOf "default=debug") [("default", .debug)] ∧
      (setup "default=debug" spare).2.levels.targets ≠ spare.levels.targets.map (fun t =>
        t.withLevel ((LogSetting.lastLevel? (fun name => name = "all" ∨ t.hasTag name)
          [("default", .debug)]).getD t.level)) ∧
      (setup "default=debug" spare).2.levels.targets = spare.levels.targets ∧
      LogSetting.itemsOf "spare= debug" = ["spare".toList ++ '=' :: " debug".toList] ∧
      LogLevel.parse? " debug" = none ∧ (setup "spare= debug" spare).1 = .ok () := by
  have hname : String.ofList (Text.trimChars "default".toList) = "default" := by decide +kernel
  have hitems : LogSetting.itemsOf "default=debug" = ["default".toList ++ '=' :: "debug".toList] :=
    by decide +kernel
  have hsets : LogSetting.Sets ("default".toList ++ '=' :: "debug".toList) ("default", .debug) := by
    rw [← hname]
    exact .intro (by decide +kernel) (by decide +kernel)
  refine ⟨by decide +kernel, ?_, by decide +kernel, by decide +kernel, by decide +kernel,
    by decide +kernel, by decide +kernel⟩
  rw [hitems]
  exact .cons hsets .nil

end LogControl
end SwitchPlatform
