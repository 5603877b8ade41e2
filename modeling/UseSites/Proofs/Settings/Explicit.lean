import UseSites.Proofs.Settings.Sources
/-!
# Settings that are passed

A value that is passed for a setting goes before its variable, so that the variable makes no difference. The lists of
patterns are the exception: an empty list passes for none at all, and the variable is read in its place.
`passed_values_win` says that this is the only exception.
-/

namespace UseSites

namespace Settings

theorem Sourced.eq_given {α : Type} {environment : Environment} {Reads : String → α → Prop} {name : String}
    {default result : α} {value : Option α} (h : Sourced environment Reads name default value result)
    (hgiven : value ≠ none) : value = some result := by
  cases h with
  | given => rfl
  | read | default => exact absurd rfl hgiven

theorem givenPatterns_getD {patterns : Option (List String)} (h : patterns.getD [] ≠ []) :
    givenPatterns (patterns.getD []) = patterns := by
  cases patterns with
  | none => exact absurd rfl h
  | some patterns => exact if_neg h

/-- The settings in a call. A setting that is passed has a value, which for patterns may be the empty list. -/
structure Passed where
  includes : Option (List String) := none
  excludes : Option (List String) := none
  before : Option Int := none
  after : Option Int := none
  workers : Option Int := none
  strict : Option Bool := none
  deriving DecidableEq, Repr

namespace Passed

variable {passed : Passed} {environment : Environment} {root : Path} {symbol domain : String} {settings : Settings}
  {setting : Setting}

def given (passed : Passed) (symbol domain : String) : Given where
  symbol := symbol
  domain := domain
  includes := passed.includes.getD []
  excludes := passed.excludes.getD []
  before := passed.before
  after := passed.after
  workers := passed.workers
  strict := passed.strict

def Has (passed : Passed) : Setting → Prop
  | .includes => passed.includes ≠ none
  | .excludes => passed.excludes ≠ none
  | .before => passed.before ≠ none
  | .after => passed.after ≠ none
  | .workers => passed.workers ≠ none
  | .strict => passed.strict ≠ none

def IsEmpty (passed : Passed) : Setting → Prop
  | .includes => passed.includes = some []
  | .excludes => passed.excludes = some []
  | _ => False

def Keeps (passed : Passed) (settings : Settings) : Setting → Prop
  | .includes => passed.includes = some settings.includes
  | .excludes => passed.excludes = some settings.excludes
  | .before => passed.before = some settings.window.before
  | .after => passed.after = some settings.window.after
  | .workers => passed.workers = some settings.workers
  | .strict => passed.strict = some settings.strict

theorem isGiven_iff : IsGiven (passed.given symbol domain) setting ↔ passed.Has setting ∧ ¬passed.IsEmpty setting := by
  have hlist : ∀ patterns : Option (List String), patterns.getD [] ≠ [] ↔ patterns ≠ none ∧ patterns ≠ some [] := by
    rintro (_ | _ | ⟨pattern, rest⟩) <;> simp
  cases setting with
  | includes | excludes => exact hlist _
  | before | after | workers | strict => simp [IsGiven, Has, IsEmpty, given]

theorem keeps_of_made (hgiven : IsGiven (passed.given symbol domain) setting)
    (hmade : Made environment root (passed.given symbol domain) settings) : passed.Keeps settings setting := by
  have hhas := (isGiven_iff.1 hgiven).1
  cases setting with
  | includes =>
    have hincludes := hmade.includes
    rw [SourcedIncludes, given, givenPatterns_getD hgiven] at hincludes
    exact hincludes.eq_given hhas
  | excludes =>
    have hexcludes := hmade.excludes
    rw [SourcedExcludes, given, givenPatterns_getD hgiven] at hexcludes
    exact hexcludes.eq_given hhas
  | before => exact hmade.before.eq_given hhas
  | after => exact hmade.after.eq_given hhas
  | workers => exact hmade.workers.eq_given hhas
  | strict => exact hmade.strict.eq_given hhas

/-! ### Empty lists -/

def patternsOf (settings : Settings) : Setting → List String
  | .includes => settings.includes
  | .excludes => settings.excludes
  | _ => []

theorem list_set {name text : String} (htext : Text.trim text ≠ "") (default : List String) :
    list (environment.set name text) name default = listItems text := by
  have htells : Tells (environment.set name text) name text := ⟨by rw [Environment.get?_set, if_pos rfl], htext⟩
  rw [list, setting?_eq_some_iff.2 htells]
  rfl

/-- In place of an empty list, the settings have the list that the variable says. -/
theorem patternsOf_of_isEmpty {text : String} (hempty : passed.IsEmpty setting) (htext : Text.trim text ≠ "")
    (hbuilt : Built (environment.set setting.variable text) root (passed.given symbol domain) settings) :
    patternsOf settings setting = listItems text := by
  cases setting with
  | includes =>
    have hincludes := hbuilt.includes
    rw [given, show passed.includes = some [] from hempty] at hincludes
    exact hincludes.trans (list_set htext _)
  | excludes =>
    have hexcludes := hbuilt.excludes
    rw [given, show passed.excludes = some [] from hempty] at hexcludes
    exact hexcludes.trans (list_set htext _)
  | before | after | workers | strict => exact hempty.elim

end Passed

end Settings

namespace Surroundings

open Settings (Setting Passed)

variable {passed : Passed}

/-- Whatever an empty list leads to, the variable can have a value that does not lead there. -/
theorem exists_settingsAt_ne (surroundings : Surroundings) (path : Path) (symbol domain : String) (settings : Settings)
    {setting : Setting} (hempty : passed.IsEmpty setting) :
    ∃ text, { surroundings with environment := surroundings.environment.set setting.variable text }.settingsAt path
        (passed.given symbol domain) ≠ .ok settings := by
  by_contra hnone
  have hpatterns : ∀ text, Text.trim text ≠ "" → Passed.patternsOf settings setting = Settings.listItems text := by
    intro text htext
    by_cases hsame : { surroundings with environment := surroundings.environment.set setting.variable text }.settingsAt
        path (passed.given symbol domain) = .ok settings
    · obtain ⟨_, -, hbuilt⟩ := settingsAt_eq_ok_iff.1 hsame
      exact Passed.patternsOf_of_isEmpty hempty htext hbuilt
    · exact absurd ⟨text, hsame⟩ hnone
  -- One list cannot be what two different variables say.
  have hequal := (hpatterns "a" (by decide)).symm.trans (hpatterns "b" (by decide))
  exact absurd hequal (by decide)

/-- Passed values go before variables: as long as no list among the chosen settings is empty, their variables make no
difference, and the settings have the values that are passed. The variable of an empty list does make a difference. -/
theorem passed_values_win (path : Path) (symbol domain : String) {chosen : List Setting}
    (hchosen : ∀ setting ∈ chosen, passed.Has setting) :
    ((∀ setting ∈ chosen, ¬passed.IsEmpty setting) → ∀ surroundings later, SameBut surroundings later →
        (∀ name, (∀ setting ∈ chosen, name ≠ setting.variable) →
          later.environment.get? name = surroundings.environment.get? name) →
        later.settingsAt path (passed.given symbol domain) = surroundings.settingsAt path (passed.given symbol domain)
          ∧ ∀ settings, surroundings.settingsAt path (passed.given symbol domain) = .ok settings →
            ∀ setting ∈ chosen, passed.Keeps settings setting)
      ∧ ∀ setting ∈ chosen, passed.IsEmpty setting → ∀ (surroundings : Surroundings) settings,
        surroundings.settingsAt path (passed.given symbol domain) = .ok settings →
        ∃ text, { surroundings with environment := surroundings.environment.set setting.variable text }.settingsAt path
          (passed.given symbol domain) ≠ surroundings.settingsAt path (passed.given symbol domain) := by
  constructor
  · intro hlists surroundings later hsame hagree
    have hgiven : ∀ setting ∈ chosen, Settings.IsGiven (passed.given symbol domain) setting :=
      fun setting hmem => Passed.isGiven_iff.2 ⟨hchosen setting hmem, hlists setting hmem⟩
    constructor
    · apply settingsAt_congr hsame
      intro name hname
      apply hagree
      intro setting hmem
      exact hname setting (hgiven setting hmem)
    · intro settings hsettings setting hmem
      obtain ⟨root, -, hbuilt⟩ := settingsAt_eq_ok_iff.1 hsettings
      exact Passed.keeps_of_made (hgiven setting hmem) (Settings.built_iff_made.1 hbuilt)
  · intro setting _ hempty surroundings settings hsettings
    rw [hsettings]
    exact exists_settingsAt_ne surroundings path symbol domain settings hempty

def lowValues : Passed := { before := some 0, workers := some 2, strict := some false }

/-- Variables that cannot be read, or not be used. -/
def hostileVariables : Environment :=
  ⟨[("REFSCAN_CONTEXT_BEFORE", "-4"), ("REFSCAN_WORKERS", "many"), ("REFSCAN_STRICT_PARSE", "perhaps")]⟩

theorem lowValues_win :
    (onlyProject hostileVariables).settingsAt (Path.ofString "project") (lowValues.given "foo" "database")
      = .ok { plainSettings "foo" with window := ⟨0, 1⟩, workers := 2, strict := false } := by
  have hchosen : ∀ setting ∈ [Setting.before, .workers, .strict], lowValues.Has setting := by
    simp [Passed.Has, lowValues]
  have hlists : ∀ setting ∈ [Setting.before, .workers, .strict], ¬lowValues.IsEmpty setting := by
    simp [Passed.IsEmpty]
  have hagree : ∀ name, (∀ setting ∈ [Setting.before, .workers, .strict], name ≠ setting.variable) →
      hostileVariables.get? name = Environment.empty.get? name := by
    intro name hname
    obtain ⟨hbefore, hworkers, hstrict⟩ : name ≠ "REFSCAN_CONTEXT_BEFORE" ∧ name ≠ "REFSCAN_WORKERS"
        ∧ name ≠ "REFSCAN_STRICT_PARSE" := by simpa [Setting.variable] using hname
    simp [hostileVariables, Environment.get?, Environment.empty, List.lookup_cons, beq_false_of_ne hbefore,
      beq_false_of_ne hworkers, beq_false_of_ne hstrict]
  have hwins := (passed_values_win (Path.ofString "project") "foo" "database" hchosen).1 hlists
    (onlyProject .empty) (onlyProject hostileVariables) rfl hagree
  rw [hwins.1]
  exact settingsAt_eq_ok_iff.2 ⟨_, isProject_onlyProject .empty, Settings.build_eq_ok_iff.1 rfl⟩

/-- An empty list of patterns to leave out does not win: what is left out is for the variable to say. -/
theorem empty_excludes_lose :
    (onlyProject ⟨[("REFSCAN_EXCLUDE", "vendor/")]⟩).settingsAt (Path.ofString "project")
        (Passed.given { excludes := some [] } "foo" "database")
      = .ok { plainSettings "foo" with excludes := ["vendor/"] }
    ∧ (onlyProject .empty).settingsAt (Path.ofString "project") (Passed.given { excludes := some [] } "foo" "database")
      = .ok (plainSettings "foo") := by
  constructor
  · exact settingsAt_eq_ok_iff.2 ⟨_, isProject_onlyProject _, Settings.build_eq_ok_iff.1 rfl⟩
  · exact settingsAt_eq_ok_iff.2 ⟨_, isProject_onlyProject _, Settings.build_eq_ok_iff.1 rfl⟩

end Surroundings

end UseSites
