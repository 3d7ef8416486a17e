import SwitchPlatform.Proofs.Logging.Settings
import SwitchPlatform.Proofs.Text.Split

/-!
# The configuration text

Settings whose keys are written plainly are read back from their texts with commas in between
(`LogSetting.parse_texts`), so the configuration text of levels is read as one setting for
undeclared targets and one for each name (`LogLevels.parse_configText`).

Each of these settings goes to every target that has the name among its tags. So a target ends at
the level of the last target whose name it carries as a tag, and the text gives the levels it was
taken from if and only if that is the level of the target itself (`Faithful`,
`configText_reproduces_iff`). That holds at all levels if no target carries the name of a later
one; where one does, it can fail (`platforms_not_reproduced`).
-/

namespace SwitchPlatform

/-! ## Texts of settings -/

/-- A character that is neither a separator nor blank. -/
def Text.IsPlain (c : Char) : Prop :=
  c ≠ ',' ∧ c ≠ '=' ∧ Text.isBlank c = false

instance (c : Char) : Decidable (Text.IsPlain c) :=
  inferInstanceAs (Decidable (_ ∧ _))

/-- Whether the characters of a text are plain is decided on the text, not over all characters. -/
theorem Text.plain_of_all {cs : List Char} (h : cs.all fun c => Text.IsPlain c) :
    ∀ c ∈ cs, Text.IsPlain c := by
  simpa using h

/-- A name that a setting can have as its key. -/
structure IsTagName (name : String) : Prop where
  ne_empty : name ≠ ""
  ne_default : name ≠ "default"
  ne_all : name ≠ "all"
  plain : ∀ c ∈ name.toList, Text.IsPlain c

namespace LogLevel

theorem plain_of_mem_name {level : LogLevel} {c : Char} (h : c ∈ level.name.toList) :
    Text.IsPlain c := by
  cases level <;> exact Text.plain_of_all (by decide) c h

@[simp] theorem parse?_name (level : LogLevel) : parse? level.name = some level := by
  cases level <;> decide +kernel

end LogLevel

namespace LogKey

/-- The text of a key. -/
def text : LogKey → String
  | fallback => "default"
  | all => "all"
  | tag name => name

/-- Keys that are read back from their texts. -/
def Legible : LogKey → Prop
  | fallback | all => True
  | tag name => IsTagName name

variable {key : LogKey}

theorem keyOf_text (h : key.Legible) : LogSetting.keyOf key.text = key := by
  cases key with
  | fallback => rfl
  | all => rfl
  | tag name => rw [LogSetting.keyOf, text, if_neg h.ne_default, if_neg h.ne_all]

theorem plain_of_mem_text (h : key.Legible) {c : Char} (hc : c ∈ key.text.toList) :
    Text.IsPlain c := by
  cases key with
  | fallback => exact Text.plain_of_all (by decide) c hc
  | all => exact Text.plain_of_all (by decide) c hc
  | tag name => exact h.plain c hc

end LogKey

namespace LogSetting

/-- A setting as it is written. -/
def text (s : LogSetting) : String :=
  s.key.text ++ "=" ++ s.level.name

theorem toList_text (s : LogSetting) :
    s.text.toList = s.key.text.toList ++ '=' :: s.level.name.toList := by
  simp [text]

/-- Without blanks there is nothing to trim. -/
theorem trimChars_of_plain {cs : List Char} (h : ∀ c ∈ cs, Text.isBlank c = false) :
    Text.trimChars cs = cs :=
  Text.trimChars_of_ends (fun c hc => h c (List.mem_of_mem_head? hc))
    fun c hc => h c (List.mem_of_mem_getLast? hc)

section Legible

variable {s : LogSetting} (h : s.key.Legible)
include h

/-- Of a setting's text, only the sign in the middle is not plain. -/
theorem mem_text {c : Char} (hc : c ∈ s.text.toList) : Text.IsPlain c ∨ c = '=' := by
  rw [toList_text, List.mem_append, List.mem_cons] at hc
  obtain hc | rfl | hc := hc
  · exact .inl (LogKey.plain_of_mem_text h hc)
  · exact .inr rfl
  · exact .inl (LogLevel.plain_of_mem_name hc)

theorem comma_not_mem_text : ',' ∉ s.text.toList := by
  intro hc
  obtain hplain | heq := mem_text h hc
  · exact hplain.1 rfl
  · exact absurd heq (by decide)

theorem trimChars_text : Text.trimChars s.text.toList = s.text.toList := by
  refine trimChars_of_plain fun c hc => ?_
  obtain hplain | rfl := mem_text h hc
  · exact hplain.2.2
  · rfl

theorem ofItem_text : ofItem s.text.toList = .ok s := by
  have hkey : ∀ c ∈ s.key.text.toList, (c != '=') = true := fun c hc =>
    bne_iff_ne.2 (LogKey.plain_of_mem_text h hc).2.1
  have htrimKey : Text.trimChars s.key.text.toList = s.key.text.toList :=
    trimChars_of_plain fun c hc => (LogKey.plain_of_mem_text h hc).2.2
  have htrimLevel : Text.trimChars s.level.name.toList = s.level.name.toList :=
    trimChars_of_plain fun c hc => (LogLevel.plain_of_mem_name hc).2.2
  rw [ofItem, toList_text, List.dropWhile_append_of_pos hkey, List.takeWhile_append_of_pos hkey]
  simp [htrimKey, htrimLevel, LogKey.keyOf_text h]

end Legible

/-- **Legible settings are read back from their texts.** -/
theorem parse_texts {settings : List LogSetting} (hne : settings ≠ [])
    (h : ∀ s ∈ settings, s.key.Legible) :
    parse (",".intercalate (settings.map text)) = .ok settings := by
  have hcomma : ∀ t ∈ settings.map text, ',' ∉ t.toList := by
    simpa using fun s hs => comma_not_mem_text (h s hs)
  have hsplit : items (",".intercalate (settings.map text)).toList =
      (settings.map text).map String.toList :=
    Text.split_intercalate rfl (fun _ _ => rfl) rfl (by simpa using hne) hcomma
  have hitems : items (",".intercalate (settings.map text)).toList =
      settings.map (·.text.toList) := by
    rw [hsplit, List.map_map]
    rfl
  have htrim : (settings.map (·.text.toList)).map Text.trimChars =
      settings.map (·.text.toList) := by
    rw [List.map_map]
    exact List.map_congr_left fun s hs => trimChars_text (h s hs)
  have hfull : (settings.map (·.text.toList)).filter (!·.isEmpty) =
      settings.map (·.text.toList) := by
    rw [List.filter_eq_self]
    simp [toList_text]
  rw [parse, hitems, htrim, hfull, List.mapM_map]
  clear hne hcomma hsplit hitems htrim hfull
  induction settings with
  | nil => rfl
  | cons s settings ih =>
    rw [List.mapM_cons, Function.comp_apply, ofItem_text (h s List.mem_cons_self),
      ih fun s' hs' => h s' (List.mem_cons_of_mem s hs')]
    rfl

end LogSetting

/-! ## The text of levels -/

namespace LogLevels

open LogSetting

/-- The settings that the configuration text writes out. -/
def configSettings (l : LogLevels) : List LogSetting :=
  ⟨.fallback, l.fallback⟩ :: l.targets.map fun t => ⟨.tag t.name, t.level⟩

theorem configText_eq (l : LogLevels) :
    l.configText = ",".intercalate (l.configSettings.map text) := by
  simp [configText, configSettings, text, LogKey.text, Function.comp_def]

theorem parse_configText {l : LogLevels} (h : ∀ t ∈ l.targets, IsTagName t.name) :
    parse l.configText = .ok l.configSettings := by
  rw [configText_eq]
  refine parse_texts (by simp [configSettings]) fun s hs => ?_
  obtain rfl | hs := List.mem_cons.1 hs
  · trivial
  · obtain ⟨t, ht, rfl⟩ := List.mem_map.1 hs
    exact h t ht

/-- The level of the last target whose name is a tag of `t`. -/
def namedLevel? (l : LogLevels) (t : LogTarget) : Option LogLevel :=
  (l.targets.filter fun u => t.hasTag u.name).getLast?.map LogTarget.level

/-- Every target is at the level of the last one whose name it carries. -/
def Faithful (l : LogLevels) : Prop :=
  ∀ t ∈ l.targets, l.namedLevel? t = some t.level

@[simp] theorem namedLevel?_withLevel (l : LogLevels) (t : LogTarget) (level : LogLevel) :
    l.namedLevel? (t.withLevel level) = l.namedLevel? t := by
  simp [namedLevel?]

@[simp] theorem lastFor?_configSettings (l : LogLevels) (t : LogTarget) :
    lastFor? l.configSettings t = l.namedLevel? t := by
  rw [lastFor?, configSettings, List.filter_cons_of_neg (by simp [LogKey.covers]),
    List.filter_map, List.getLast?_map, Option.map_map]
  rfl

@[simp] theorem lastFallback?_configSettings (l : LogLevels) :
    lastFallback? l.configSettings = some l.fallback := by
  simp [lastFallback?, configSettings, List.filter_map, Function.comp_def]

variable {l l' : LogLevels} (htag : ∀ t ∈ l.targets, t.hasTag t.name)
include htag

/-- A target carries at least its own name. -/
theorem exists_namedLevel {t : LogTarget} (ht : t ∈ l.targets) :
    ∃ level, l.namedLevel? t = some level := by
  have hself : t ∈ l.targets.filter fun u => t.hasTag u.name := List.mem_filter.2 ⟨ht, htag t ht⟩
  rw [namedLevel?, List.getLast?_eq_some_getLast (List.ne_nil_of_mem hself)]
  exact ⟨_, rfl⟩

/-- What the settings of `l` make of levels over the same targets does not depend on these. -/
theorem targets_applyAll_configSettings (same : l.SameTargets l') :
    (l'.applyAll l.configSettings).1.targets =
      l.targets.map fun t => t.withLevel ((l.namedLevel? t).getD t.level) := by
  let named := fun t : LogTarget => t.withLevel ((l.namedLevel? t).getD .off)
  have hl' : ∀ t ∈ l'.targets, t.withLevel ((lastFor? l.configSettings t).getD t.level) =
      named t := by
    intro t ht
    obtain ⟨u, hu, level', rfl⟩ := same.exists_mem ht
    obtain ⟨level, hlevel⟩ := exists_namedLevel htag hu
    simp [named, hlevel]
  have hl : ∀ t ∈ l.targets, named t = t.withLevel ((l.namedLevel? t).getD t.level) := by
    intro t ht
    obtain ⟨level, hlevel⟩ := exists_namedLevel htag ht
    simp [named, hlevel]
  rw [applyAll_targets, List.map_congr_left hl', ← List.map_congr_left hl]
  exact (same.map_eq fun t level => by simp [named]).symm

/-- **The settings of `l` give `l` if and only if it is faithful.** -/
theorem applyAll_configSettings_eq_iff (same : l.SameTargets l') :
    (l'.applyAll l.configSettings).1 = l ↔ l.Faithful := by
  have hfallback : (l'.applyAll l.configSettings).1.fallback = l.fallback := by
    rw [applyAll_fallback, lastFallback?_configSettings]
    rfl
  have hiff : (l'.applyAll l.configSettings).1 = l ↔
      l.targets.map (fun t => t.withLevel ((l.namedLevel? t).getD t.level)) =
        l.targets.map id := by
    rw [LogLevels.ext_iff, targets_applyAll_configSettings htag same, List.map_id]
    exact and_iff_right hfallback
  rw [hiff, List.map_inj_left, Faithful]
  refine forall₂_congr fun t ht => ?_
  obtain ⟨level, hlevel⟩ := exists_namedLevel htag ht
  rw [hlevel, Option.getD_some, id_eq, LogTarget.withLevel_eq_self, Option.some_inj]

end LogLevels

/-! ## Declared targets -/

/-- Declarations of different targets under different names, each of which a setting can have as
its key. The tags are arbitrary. -/
structure Declared (decls : List LogDecl) : Prop where
  targets : (decls.map LogDecl.target).Nodup
  names : (decls.map LogDecl.name).Nodup
  keys : ∀ d ∈ decls, IsTagName d.name

namespace LogDecl

@[simp] theorem made_target (d : LogDecl) : d.made.target = d.target := rfl

theorem hasTag_made_iff {d : LogDecl} {tag : String} :
    d.made.hasTag tag ↔ d.tags.contains tag ∨ tag = d.name := by
  rw [made, LogTarget.declare, LogTarget.hasTag]
  split_ifs with hname
  · refine ⟨.inl, ?_⟩
    rintro (h | rfl)
    · exact h
    · exact hname
  · simp

end LogDecl

namespace LogLevels

open LogSetting

variable {decls : List LogDecl} {fallback : LogLevel} {l : LogLevels}

theorem foldl_insert {made ts : List LogTarget}
    (h : ((ts ++ made).map LogTarget.target).Nodup) : made.foldl insert ts = ts ++ made := by
  induction made generalizing ts with
  | nil => simp
  | cons t made ih =>
    have hfresh : ts.any (·.target == t.target) = false := by
      rw [List.map_append, List.nodup_append] at h
      rw [List.any_eq_false]
      intro s hs heq
      exact h.2.2 s.target (List.mem_map_of_mem hs) t.target (by simp) (beq_iff_eq.1 heq)
    rw [List.foldl_cons, insert, hfresh, if_neg Bool.false_ne_true,
      ih (by simpa using h), List.append_assoc, List.singleton_append]

/-- Different targets are kept in the order of their declarations. -/
theorem collect_targets (declared : Declared decls) :
    (collect fallback decls).targets = decls.map LogDecl.made := by
  rw [collect, foldl_insert, List.nil_append]
  simpa [Function.comp_def] using declared.targets

namespace Reached

variable (declared : Declared decls) (h : (collect fallback decls).Reached l)
include declared h

/-- What does not look at the levels can be seen from the declarations. -/
theorem map_eq {α : Type} {f : LogTarget → α} (hf : ∀ t level, f (t.withLevel level) = f t) :
    l.targets.map f = decls.map fun d => f d.made := by
  rw [← h.sameTargets.map_eq hf, collect_targets declared, List.map_map]
  rfl

theorem exists_decl {t : LogTarget} (ht : t ∈ l.targets) :
    ∃ d ∈ decls, ∃ level, t = d.made.withLevel level := by
  obtain ⟨u, hu, heq⟩ := h.sameTargets.exists_mem ht
  rw [collect_targets declared] at hu
  obtain ⟨d, hd, rfl⟩ := List.mem_map.1 hu
  exact ⟨d, hd, heq⟩

theorem isTagName {t : LogTarget} (ht : t ∈ l.targets) : IsTagName t.name := by
  obtain ⟨d, hd, level, rfl⟩ := h.exists_decl declared ht
  exact declared.keys d hd

theorem hasTag_name {t : LogTarget} (ht : t ∈ l.targets) : t.hasTag t.name := by
  obtain ⟨d, -, level, rfl⟩ := h.exists_decl declared ht
  exact LogDecl.hasTag_made_iff.2 (.inr rfl)

/-- Where no target carries the name of a later one, each target is the last whose name it
carries. -/
theorem faithful (hlater : decls.Pairwise fun d e => d.tags.contains e.name = false) :
    l.Faithful := by
  have hdecls : decls.Pairwise fun d e => ¬ d.made.hasTag e.name := by
    refine (hlater.and (List.pairwise_map.1 declared.names)).imp ?_
    rintro d e ⟨htag, hname⟩ hhas
    obtain hcontains | heq := LogDecl.hasTag_made_iff.1 hhas
    · exact Bool.false_ne_true (htag ▸ hcontains)
    · exact hname heq.symm
  have hpairs : l.targets.Pairwise fun t u => ¬ t.hasTag u.name := by
    let labels := fun t : LogTarget => (t.tags, t.name)
    have hlabels : (l.targets.map labels).Pairwise fun t u => ¬ t.1.contains u.2 := by
      rw [h.map_eq declared (f := labels) fun _ _ => rfl, List.pairwise_map]
      exact hdecls
    exact List.pairwise_map.1 hlabels
  intro t ht
  obtain ⟨before, later, hsplit⟩ := List.append_of_mem ht
  have hnone : ∀ u ∈ later, ¬ t.hasTag u.name := by
    rw [hsplit, List.pairwise_append, List.pairwise_cons] at hpairs
    exact hpairs.2.1.1
  have hlast : (l.targets.filter fun u => t.hasTag u.name) =
      (before.filter fun u => t.hasTag u.name) ++ [t] := by
    rw [hsplit, List.filter_append, List.filter_cons, if_pos (h.hasTag_name declared ht),
      List.filter_eq_nil_iff.2 hnone]
  rw [namedLevel?, hlast, List.getLast?_concat]
  rfl

end Reached

/-- **The configuration text gives the levels back if and only if they are faithful**, to whatever
levels over the same targets its settings are applied; and levels are faithful if no target carries
the name of a later one. -/
theorem configText_reproduces_iff (declared : Declared decls)
    (reached : (collect fallback decls).Reached l) :
    ∃ settings, parse l.configText = .ok settings ∧
      (∀ l', l.SameTargets l' → ((l'.applyAll settings).1 = l ↔ l.Faithful)) ∧
      (decls.Pairwise (fun d e => d.tags.contains e.name = false) →
        ∀ l', l.SameTargets l' → (l'.applyAll settings).1 = l) := by
  have hiff : ∀ l', l.SameTargets l' → ((l'.applyAll l.configSettings).1 = l ↔ l.Faithful) :=
    fun l' => applyAll_configSettings_eq_iff fun t ht => reached.hasTag_name declared ht
  refine ⟨l.configSettings, parse_configText fun t ht => reached.isTagName declared ht, hiff, ?_⟩
  intro hlater l' same
  exact (hiff l' same).2 (reached.faithful declared hlater)

/-- Two declarations of the program, the one with the name of the other among its tags. -/
def platformDecl : LogDecl := ⟨"onlp_platform", "platform", .info, ["platform"], .module⟩

/-- The declaration that carries the name of the other. -/
def platformsDecl : LogDecl := ⟨"onlp_platforms", "platforms", .info, ["platform"], .module⟩

theorem isTagName_platform : IsTagName "platform" :=
  ⟨by decide, by decide, by decide, Text.plain_of_all (by decide)⟩

theorem isTagName_platforms : IsTagName "platforms" :=
  ⟨by decide, by decide, by decide, Text.plain_of_all (by decide)⟩

/-- In this order no target carries the name of a later one. -/
theorem platform_reproduced :
    let l := (collect .info [platformDecl, platformsDecl]).apply ⟨.tag "platforms", .debug⟩
    ∃ settings, parse l.configText = .ok settings ∧
      ∀ l', l.SameTargets l' → (l'.applyAll settings).1 = l := by
  intro l
  have declared : Declared [platformDecl, platformsDecl] :=
    ⟨by decide, by decide, by simpa using ⟨isTagName_platform, isTagName_platforms⟩⟩
  have reached : (collect .info [platformDecl, platformsDecl]).Reached l := .set .start _
  obtain ⟨settings, hparse, -, h⟩ := configText_reproduces_iff declared reached
  exact ⟨settings, hparse, h (by decide)⟩

/-- In the other order the setting of `platform`, the later one, goes to both targets. -/
theorem platforms_not_reproduced :
    let start := collect .info [platformsDecl, platformDecl]
    let l := start.apply ⟨.tag "platforms", .debug⟩
    Declared [platformsDecl, platformDecl] ∧ start.Reached l ∧
      ∃ settings, parse l.configText = .ok settings ∧ (l.applyAll settings).1 ≠ l := by
  refine ⟨⟨by decide, by decide, by simpa using ⟨isTagName_platforms, isTagName_platform⟩⟩,
    .set .start _, [⟨.fallback, .info⟩, ⟨.tag "platforms", .debug⟩, ⟨.tag "platform", .info⟩],
    ?_, ?_⟩
  · decide +kernel
  · decide

end LogLevels

end SwitchPlatform
