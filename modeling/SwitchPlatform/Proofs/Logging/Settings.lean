import Mathlib.Tactic
import SwitchPlatform.Logging.Targets

/-!
# What settings make of levels

Settings are applied one after the other, so every target ends at the level of the last setting
that covers it, and stays at its own if there is none (`applyAll_targets`); the same goes for the
level of undeclared targets (`applyAll_fallback`). What a setting covers depends on the tags of a
target and not on its level, hence levels that differ in nothing but their levels (`SameTargets`)
are made the same of, as far as the settings cover them (`SameTargets.map_eq`).
-/

namespace SwitchPlatform

/-- A target at another level. -/
def LogTarget.withLevel (t : LogTarget) (level : LogLevel) : LogTarget :=
  { t with level := level }

section Target

variable (t : LogTarget) (level level' : LogLevel)

@[simp] theorem LogTarget.withLevel_level : (t.withLevel level).level = level := rfl

@[simp] theorem LogTarget.withLevel_withLevel :
    (t.withLevel level).withLevel level' = t.withLevel level' := rfl

@[simp] theorem LogTarget.withLevel_self : t.withLevel t.level = t := rfl

@[simp] theorem LogTarget.hasTag_withLevel (tag : String) :
    (t.withLevel level).hasTag tag = t.hasTag tag := rfl

@[simp] theorem LogKey.covers_withLevel (key : LogKey) :
    key.covers (t.withLevel level) = key.covers t := by
  cases key <;> rfl

theorem LogTarget.withLevel_eq_self {t : LogTarget} {level : LogLevel} :
    t.withLevel level = t ↔ level = t.level :=
  ⟨fun h => congrArg LogTarget.level h, fun h => h ▸ rfl⟩

end Target

namespace LogSetting

/-- The level that settings give a target in the end, if one of them covers it. -/
def lastFor? (settings : List LogSetting) (t : LogTarget) : Option LogLevel :=
  (settings.filter fun s => s.key.covers t).getLast?.map LogSetting.level

/-- The level that settings give undeclared targets in the end. -/
def lastFallback? (settings : List LogSetting) : Option LogLevel :=
  (settings.filter fun s => s.key = .fallback).getLast?.map LogSetting.level

/-- A setting counts if no later one does. -/
theorem map_getLast?_filter_cons (p : LogSetting → Bool) (s : LogSetting)
    (settings : List LogSetting) :
    ((s :: settings).filter p).getLast?.map LogSetting.level =
      ((settings.filter p).getLast?.map LogSetting.level).or
        (if p s then some s.level else none) := by
  rw [List.filter_cons]
  split_ifs
  · rw [List.getLast?_cons]
    cases (settings.filter p).getLast? <;> rfl
  · rw [Option.or_none]

@[simp] theorem lastFor?_withLevel (settings : List LogSetting) (t : LogTarget)
    (level : LogLevel) : lastFor? settings (t.withLevel level) = lastFor? settings t := by
  simp [lastFor?]

end LogSetting

attribute [ext] LogLevels

namespace LogLevels

open LogSetting

theorem apply_targets (l : LogLevels) (s : LogSetting) :
    (l.apply s).targets =
      l.targets.map fun t => t.withLevel (if s.key.covers t then s.level else t.level) := by
  refine List.map_congr_left fun t _ => ?_
  split_ifs <;> rfl

/-- **Every target ends at the level of the last setting that covers it.** -/
theorem applyAll_targets (l : LogLevels) (settings : List LogSetting) :
    (l.applyAll settings).1.targets =
      l.targets.map fun t => t.withLevel ((lastFor? settings t).getD t.level) := by
  induction settings generalizing l with
  | nil => simp [applyAll, lastFor?]
  | cons s settings ih =>
    rw [applyAll, ih, apply_targets, List.map_map]
    refine List.map_congr_left fun t _ => ?_
    have hlast : lastFor? (s :: settings) t =
        (lastFor? settings t).or (if s.key.covers t then some s.level else none) :=
      map_getLast?_filter_cons _ s settings
    simp only [Function.comp_apply, lastFor?_withLevel, LogTarget.withLevel_withLevel,
      LogTarget.withLevel_level, hlast]
    cases lastFor? settings t with
    | some level => rfl
    | none => split_ifs <;> rfl

/-- **Undeclared targets end at the level of the last setting for them.** -/
theorem applyAll_fallback (l : LogLevels) (settings : List LogSetting) :
    (l.applyAll settings).1.fallback = (lastFallback? settings).getD l.fallback := by
  induction settings generalizing l with
  | nil => rfl
  | cons s settings ih =>
    have hlast : lastFallback? (s :: settings) =
        (lastFallback? settings).or (if s.key = .fallback then some s.level else none) := by
      have h := map_getLast?_filter_cons (fun s => s.key = .fallback) s settings
      simp only [decide_eq_true_eq] at h
      exact h
    rw [applyAll, ih, hlast, LogLevels.apply]
    cases lastFallback? settings with
    | some level => rfl
    | none => split_ifs <;> rfl

/-! ## The same targets -/

/-- The same targets in the same order, at any levels. -/
def SameTargets (l l' : LogLevels) : Prop :=
  l.targets.map (·.withLevel .off) = l'.targets.map (·.withLevel .off)

theorem SameTargets.refl (l : LogLevels) : l.SameTargets l := rfl

theorem SameTargets.trans {l l' l'' : LogLevels} (h : l.SameTargets l') (h' : l'.SameTargets l'') :
    l.SameTargets l'' :=
  Eq.trans h h'

/-- What does not look at the levels is the same of the same targets. -/
theorem SameTargets.map_eq {α : Type} {l l' : LogLevels} (h : l.SameTargets l')
    {f : LogTarget → α} (hf : ∀ t level, f (t.withLevel level) = f t) :
    l.targets.map f = l'.targets.map f := by
  have hoff : ∀ ts : List LogTarget, ts.map f = (ts.map (·.withLevel .off)).map f := by
    intro ts
    rw [List.map_map]
    exact List.map_congr_left fun t _ => (hf t .off).symm
  rw [hoff, hoff l'.targets, h]

/-- A target of the one is a target of the other, at some level. -/
theorem SameTargets.exists_mem {l l' : LogLevels} (h : l.SameTargets l') {t : LogTarget}
    (ht : t ∈ l'.targets) : ∃ u ∈ l.targets, ∃ level, t = u.withLevel level := by
  have hoff : t.withLevel .off ∈ l.targets.map (·.withLevel .off) := by
    rw [h]
    exact List.mem_map_of_mem ht
  obtain ⟨u, hu, heq⟩ := List.mem_map.1 hoff
  refine ⟨u, hu, t.level, ?_⟩
  rw [← u.withLevel_withLevel .off, heq]
  rfl

/-- A setting changes levels only. -/
theorem sameTargets_apply (l : LogLevels) (s : LogSetting) : l.SameTargets (l.apply s) := by
  rw [SameTargets, apply_targets, List.map_map]
  exact List.map_congr_left fun t _ => rfl

/-- Levels that settings lead to. -/
inductive Reached (start : LogLevels) : LogLevels → Prop
  | start : Reached start start
  | set {l : LogLevels} (h : Reached start l) (s : LogSetting) : Reached start (l.apply s)

theorem Reached.sameTargets {start l : LogLevels} (h : start.Reached l) : start.SameTargets l := by
  induction h with
  | start => exact .refl start
  | set h s ih => exact ih.trans (sameTargets_apply _ s)

end LogLevels

end SwitchPlatform
