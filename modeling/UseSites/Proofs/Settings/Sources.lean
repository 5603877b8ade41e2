import UseSites.Proofs.Settings.Isolation
import UseSites.Proofs.Settings.Symbols
import UseSites.Proofs.Text.Numerals
import UseSites.Proofs.Text.Pieces
/-!
# Where settings come from

Each setting has three sources, of which the first one that there is counts (`Sourced`): the value that is given, what
its variable says, the default. `Made` puts the settings of a project together from their sources.

The conditions are checked in a fixed order (`conditions`), and `FirstBroken` goes through them until one is broken. The
checks are followed in the same order by `bind_eq_error_iff` and `ite_eq_error_iff`, one condition at a time.
-/

namespace UseSites

namespace Settings

variable {environment : Environment} {root : Path} {values : Given} {settings : Settings} {flaw : SettingsFlaw}

/-! ### What variables say -/

/-- A variable says something when it is set and not blank. -/
def Tells (environment : Environment) (name text : String) : Prop :=
  environment.get? name = some text ∧ Text.trim text ≠ ""

theorem setting?_eq_some_iff {name text : String} :
    setting? environment name = some text ↔ Tells environment name text := by
  rw [setting?, Option.filter_eq_some_iff, Tells, Bool.not_eq_true', ne_eq, Text.trim_eq_empty_iff, Bool.not_eq_true]

def ReadsTruth (text : String) (truth : Bool) : Prop :=
  Text.lower (Text.trim text) ∈ if truth then ["1", "true", "yes", "on"] else ["0", "false", "no", "off"]

theorem truthOf?_eq_some_iff {text : String} {truth : Bool} : truthOf? text = some truth ↔ ReadsTruth text truth := by
  have hdisjoint : ∀ word ∈ ["1", "true", "yes", "on"], word ∉ ["0", "false", "no", "off"] := by decide
  unfold truthOf? ReadsTruth
  generalize Text.lower (Text.trim text) = word
  simp only [List.contains_iff_mem]
  split
  · next htrue => cases truth <;> simp [htrue, hdisjoint word htrue]
  · next htrue =>
    split
    · next hfalse => cases truth <;> simp [htrue, hfalse]
    · next hfalse => cases truth <;> simp [htrue, hfalse]

/-- Items of a list stand between commas; blanks around an item do not belong to it, and blank items are none. -/
def ReadsList (text : String) (items : List String) : Prop :=
  ∃ stretches, stretches ≠ [] ∧ (∀ stretch ∈ stretches, ',' ∉ stretch) ∧ text.toList = [','].intercalate stretches
    ∧ items = (stretches.map fun stretch => Text.trim (String.ofList stretch)).filter (· ≠ "")

theorem readsList_iff {text : String} {items : List String} : ReadsList text items ↔ items = listItems text := by
  have hitem : ∀ stretch : List Char, Text.trim (String.ofList stretch) = String.ofList (Text.trimmed stretch) := by
    intro stretch
    rw [Text.trim, String.toList_ofList]
  simp only [ReadsList, listItems, hitem]
  constructor
  · rintro ⟨stretches, hne, hplain, htext, rfl⟩
    rw [htext, Text.pieces_intercalate hne hplain]
  · rintro rfl
    refine ⟨Text.pieces ',' text.toList, Text.pieces_ne_nil _ _, fun _ => Text.notMem_of_mem_pieces, ?_, rfl⟩
    rw [← Text.joined_eq_intercalate, Text.joined_pieces]

theorem ReadsList.trimmed {text item : String} {items : List String} (h : ReadsList text items) (hitem : item ∈ items) :
    Text.IsTrimmed item ∧ item ≠ "" := by
  obtain ⟨stretches, -, -, -, rfl⟩ := h
  obtain ⟨hmem, hne⟩ := List.mem_filter.1 hitem
  obtain ⟨stretch, -, rfl⟩ := List.mem_map.1 hmem
  exact ⟨Text.isTrimmed_trim _, by simpa using hne⟩

/-! ### Sources of a setting -/

/-- The value of a setting and where it comes from. -/
inductive Sourced {α : Type} (environment : Environment) (Reads : String → α → Prop) (name : String) (default : α) :
    Option α → α → Prop where
  | given (value : α) : Sourced environment Reads name default (some value) value
  | read {text : String} {value : α} (htells : Tells environment name text) (hreads : Reads text value) :
      Sourced environment Reads name default none value
  | default (hsilent : ∀ text, ¬Tells environment name text) : Sourced environment Reads name default none default

/-- A variable is looked at and says what cannot be read. -/
def Unreadable {α : Type} (environment : Environment) (Reads : String → α → Prop) (name : String) (value : Option α)
    (text : String) : Prop :=
  value = none ∧ Tells environment name text ∧ ∀ result, ¬Reads text result

section Consult

variable {α : Type} {read : String → Option α} {Reads : String → α → Prop} {complain : String → SettingsFlaw}
  {name : String} {default result : α} {value : Option α}

/-- What the readers of numbers and of truth values have in common. -/
def consult (read : String → Option α) (complain : String → SettingsFlaw) (environment : Environment) (name : String)
    (default : α) : Except SettingsFlaw α :=
  match setting? environment name with
  | none => .ok default
  | some text =>
    match read text with
    | some result => .ok result
    | none => .error (complain text)

theorem consult_eq_ok_iff : consult read complain environment name default = .ok result
    ↔ (∃ text, Tells environment name text ∧ read text = some result)
      ∨ (∀ text, ¬Tells environment name text) ∧ default = result := by
  unfold consult
  cases hsetting : setting? environment name with
  | none => simp [← setting?_eq_some_iff, hsetting]
  | some text => cases hread : read text <;> simp [← setting?_eq_some_iff, hsetting, hread]

theorem consult_eq_error_iff : consult read complain environment name default = .error flaw
    ↔ ∃ text, Tells environment name text ∧ read text = none ∧ complain text = flaw := by
  unfold consult
  cases hsetting : setting? environment name with
  | none => simp [← setting?_eq_some_iff, hsetting]
  | some text => cases hread : read text <;> simp [← setting?_eq_some_iff, hsetting, hread]

theorem given_eq_ok_iff (hread : ∀ text result, read text = some result ↔ Reads text result) :
    given value (consult read complain environment name default) = .ok result
      ↔ Sourced environment Reads name default value result := by
  cases value with
  | some value =>
    constructor
    · intro h
      obtain rfl := Except.ok.inj h
      exact .given value
    · intro h
      cases h
      rfl
  | none =>
    rw [given, consult_eq_ok_iff]
    constructor
    · rintro (⟨text, htells, hresult⟩ | ⟨hsilent, rfl⟩)
      · exact .read htells ((hread text result).1 hresult)
      · exact .default hsilent
    · intro h
      cases h with
      | read htells hreads => exact .inl ⟨_, htells, (hread _ _).2 hreads⟩
      | default hsilent => exact .inr ⟨hsilent, rfl⟩

theorem given_eq_error_iff (hread : ∀ text result, read text = some result ↔ Reads text result) :
    given value (consult read complain environment name default) = .error flaw
      ↔ ∃ text, Unreadable environment Reads name value text ∧ flaw = complain text := by
  cases value with
  | some value => exact ⟨nofun, fun ⟨_, ⟨hnone, _⟩, _⟩ => nomatch hnone⟩
  | none =>
    rw [given, consult_eq_error_iff]
    refine exists_congr fun text => ?_
    rw [Unreadable, Option.eq_none_iff_forall_ne_some]
    simp only [ne_eq, hread, true_and, and_assoc, eq_comm]

end Consult

theorem integer_eq_consult (environment : Environment) (name : String) (default : Int) :
    integer environment name default = consult Text.integer? (.notAnInteger name) environment name default := by
  unfold integer consult
  cases setting? environment name with
  | none => rfl
  | some text => cases hread : Text.integer? text <;> simp only [hread]

theorem boolean_eq_consult (environment : Environment) (name : String) (default : Bool) :
    boolean environment name default = consult truthOf? (.notABoolean name) environment name default := by
  unfold boolean consult
  cases setting? environment name with
  | none => rfl
  | some text => cases hread : truthOf? text <;> simp only [hread]

/-- A list of patterns counts as given when there is a pattern in it. -/
def givenPatterns (patterns : List String) : Option (List String) := if patterns = [] then none else some patterns

theorem givenList_eq_iff {patterns default items : List String} {name : String} :
    items = givenList patterns (list environment name default)
      ↔ Sourced environment ReadsList name default (givenPatterns patterns) items := by
  -- a list can always be read, so that there is never a complaint
  have hread : given (givenPatterns patterns)
      (consult (some ∘ listItems) (fun _ => .noIncludes) environment name default)
      = .ok (givenList patterns (list environment name default)) := by
    unfold givenList givenPatterns list consult
    cases patterns with
    | cons pattern rest => rfl
    | nil => cases setting? environment name <;> rfl
  have hsourced := @given_eq_ok_iff environment _ (some ∘ listItems) ReadsList (fun _ => .noIncludes) name default items
    (givenPatterns patterns) fun text items => by rw [readsList_iff, Function.comp_apply, Option.some.injEq, eq_comm]
  rw [← hsourced, hread, Except.ok.injEq, eq_comm]

/-! ### Settings from their sources -/

/-- An identifier, which a line feed may follow. -/
def AcceptsSymbol (symbol : String) : Prop := IsIdentifier symbol ∨ ∃ name, IsIdentifier name ∧ symbol = name ++ "\n"

def SourcedBefore (environment : Environment) (values : Given) : Int → Prop :=
  Sourced environment Text.ReadsInteger "REFSCAN_CONTEXT_BEFORE" defaultWindow.before values.before

def SourcedAfter (environment : Environment) (values : Given) : Int → Prop :=
  Sourced environment Text.ReadsInteger "REFSCAN_CONTEXT_AFTER" defaultWindow.after values.after

def SourcedWorkers (environment : Environment) (values : Given) : Int → Prop :=
  Sourced environment Text.ReadsInteger "REFSCAN_WORKERS" defaultWorkers values.workers

def SourcedStrict (environment : Environment) (values : Given) : Bool → Prop :=
  Sourced environment ReadsTruth "REFSCAN_STRICT_PARSE" true values.strict

def SourcedIncludes (environment : Environment) (values : Given) : List String → Prop :=
  Sourced environment ReadsList "REFSCAN_INCLUDE" defaultIncludes (givenPatterns values.includes)

def SourcedExcludes (environment : Environment) (values : Given) : List String → Prop :=
  Sourced environment ReadsList "REFSCAN_EXCLUDE" defaultExcludes (givenPatterns values.excludes)

/-- Settings that can be used, with the source of each. -/
structure Made (environment : Environment) (root : Path) (values : Given) (settings : Settings) : Prop where
  acceptsSymbol : AcceptsSymbol values.symbol
  domain : Text.trim values.domain ≠ ""
  root : settings.root = root
  symbol : settings.symbol = values.symbol
  filter : settings.filter = Text.trim values.domain
  includes : SourcedIncludes environment values settings.includes
  excludes : SourcedExcludes environment values settings.excludes
  before : SourcedBefore environment values settings.window.before
  after : SourcedAfter environment values settings.window.after
  workers : SourcedWorkers environment values settings.workers
  strict : SourcedStrict environment values settings.strict
  inRange : settings.InRange

theorem integer_eq_ok_iff {name : String} {default : Int} {value : Option Int} {result : Int} :
    given value (integer environment name default) = .ok result
      ↔ Sourced environment Text.ReadsInteger name default value result := by
  rw [integer_eq_consult]
  exact given_eq_ok_iff fun _ _ => Text.integer?_eq_some_iff

theorem boolean_eq_ok_iff {name : String} {default : Bool} {value : Option Bool} {result : Bool} :
    given value (boolean environment name default) = .ok result
      ↔ Sourced environment ReadsTruth name default value result := by
  rw [boolean_eq_consult]
  exact given_eq_ok_iff fun _ _ => truthOf?_eq_some_iff

theorem integer_eq_error_iff {name : String} {default : Int} {value : Option Int} :
    given value (integer environment name default) = .error flaw
      ↔ ∃ text, Unreadable environment Text.ReadsInteger name value text ∧ flaw = .notAnInteger name text := by
  rw [integer_eq_consult]
  exact given_eq_error_iff fun _ _ => Text.integer?_eq_some_iff

theorem boolean_eq_error_iff {name : String} {default : Bool} {value : Option Bool} :
    given value (boolean environment name default) = .error flaw
      ↔ ∃ text, Unreadable environment ReadsTruth name value text ∧ flaw = .notABoolean name text := by
  rw [boolean_eq_consult]
  exact given_eq_error_iff fun _ _ => truthOf?_eq_some_iff

theorem built_iff_made : Built environment root values settings ↔ Made environment root values settings := by
  constructor
  · intro h
    exact
      { h with
        acceptsSymbol := (isSymbol_iff _).1 h.isSymbol
        domain := fun hblank => Bool.eq_false_iff.1 h.domain ((Text.trim_eq_empty_iff _).1 hblank)
        includes := givenList_eq_iff.1 h.includes
        excludes := givenList_eq_iff.1 h.excludes
        before := integer_eq_ok_iff.1 h.before
        after := integer_eq_ok_iff.1 h.after
        workers := integer_eq_ok_iff.1 h.workers
        strict := boolean_eq_ok_iff.1 h.strict }
  · intro h
    exact
      { h with
        isSymbol := (isSymbol_iff _).2 h.acceptsSymbol
        domain := Bool.eq_false_iff.2 fun hblank => h.domain ((Text.trim_eq_empty_iff _).2 hblank)
        includes := givenList_eq_iff.2 h.includes
        excludes := givenList_eq_iff.2 h.excludes
        before := integer_eq_ok_iff.2 h.before
        after := integer_eq_ok_iff.2 h.after
        workers := integer_eq_ok_iff.2 h.workers
        strict := boolean_eq_ok_iff.2 h.strict }

/-! ### The first condition that is broken -/

inductive Condition where
  | symbol | domain | before | after | workers | strict | window | workerCount | includes
  deriving DecidableEq, Repr

/-- The conditions in the order in which they are checked. -/
def conditions : List Condition :=
  [.symbol, .domain, .before, .after, .workers, .strict, .window, .workerCount, .includes]

/-- What breaks a condition, and the flaw that is then reported. -/
def Breaks (environment : Environment) (values : Given) (flaw : SettingsFlaw) : Condition → Prop
  | .symbol => ¬AcceptsSymbol values.symbol ∧ flaw = .badSymbol values.symbol
  | .domain => Text.trim values.domain = "" ∧ flaw = .noDomain
  | .before => ∃ text, Unreadable environment Text.ReadsInteger "REFSCAN_CONTEXT_BEFORE" values.before text
      ∧ flaw = .notAnInteger "REFSCAN_CONTEXT_BEFORE" text
  | .after => ∃ text, Unreadable environment Text.ReadsInteger "REFSCAN_CONTEXT_AFTER" values.after text
      ∧ flaw = .notAnInteger "REFSCAN_CONTEXT_AFTER" text
  | .workers => ∃ text, Unreadable environment Text.ReadsInteger "REFSCAN_WORKERS" values.workers text
      ∧ flaw = .notAnInteger "REFSCAN_WORKERS" text
  | .strict => ∃ text, Unreadable environment ReadsTruth "REFSCAN_STRICT_PARSE" values.strict text
      ∧ flaw = .notABoolean "REFSCAN_STRICT_PARSE" text
  | .window => ((∃ size, SourcedBefore environment values size ∧ size < 0)
      ∨ ∃ size, SourcedAfter environment values size ∧ size < 0) ∧ flaw = .negativeWindow
  | .workerCount => ∃ count, SourcedWorkers environment values count ∧ count < 1 ∧ flaw = .tooFewWorkers count
  | .includes => SourcedIncludes environment values [] ∧ flaw = .noIncludes

def FirstBroken (environment : Environment) (values : Given) (flaw : SettingsFlaw) : List Condition → Prop
  | [] => False
  | condition :: rest => Breaks environment values flaw condition
      ∨ (∀ other, ¬Breaks environment values other condition) ∧ FirstBroken environment values flaw rest

section Steps

variable {α : Type} {condition : Condition} {rest : List Condition} {next : Except SettingsFlaw Settings}

theorem ite_eq_error_iff {p : Prop} [Decidable p] {own : SettingsFlaw}
    (hbreaks : ∀ flaw, Breaks environment values flaw condition ↔ p ∧ flaw = own)
    (hnext : ¬p → (next = .error flaw ↔ FirstBroken environment values flaw rest)) :
    (if p then .error own else next) = .error flaw ↔ FirstBroken environment values flaw (condition :: rest) := by
  simp only [FirstBroken, hbreaks]
  by_cases h : p
  · simp [h, eq_comm]
  · simp [h, hnext h]

/-- A check that reports what it has read, and then goes on with another value. -/
theorem bind_eq_error_iff {first : Except SettingsFlaw α} {next : α → Except SettingsFlaw Settings}
    (hbreaks : ∀ flaw, first = .error flaw ↔ Breaks environment values flaw condition)
    (hnext : ∀ value, first = .ok value → (next value = .error flaw ↔ FirstBroken environment values flaw rest)) :
    (first >>= next) = .error flaw ↔ FirstBroken environment values flaw (condition :: rest) := by
  simp only [FirstBroken, ← hbreaks]
  cases first with
  | error cause => simp [Bind.bind, Except.bind]
  | ok value => simpa [Bind.bind, Except.bind] using hnext value rfl

end Steps

theorem exists_sourced_iff {name : String} {default : Int} {value : Option Int} {result : Int} (p : Int → Prop)
    (h : given value (integer environment name default) = .ok result) :
    (∃ number, Sourced environment Text.ReadsInteger name default value number ∧ p number) ↔ p result := by
  simp only [← integer_eq_ok_iff, h, Except.ok.injEq]
  simp

theorem check_eq_error_iff (hbefore : given values.before (integer environment "REFSCAN_CONTEXT_BEFORE"
      defaultWindow.before) = .ok settings.window.before)
    (hafter : given values.after (integer environment "REFSCAN_CONTEXT_AFTER" defaultWindow.after)
      = .ok settings.window.after)
    (hworkers : given values.workers (integer environment "REFSCAN_WORKERS" defaultWorkers) = .ok settings.workers)
    (hincludes : settings.includes = givenList values.includes (list environment "REFSCAN_INCLUDE" defaultIncludes)) :
    check settings = .error flaw
      ↔ FirstBroken environment values flaw [.window, .workerCount, .includes] := by
  unfold check
  refine ite_eq_error_iff ?_ fun _ => ite_eq_error_iff ?_ fun _ => ite_eq_error_iff ?_ fun _ => ?_
  · intro flaw
    exact and_congr_left' (or_congr (exists_sourced_iff (· < 0) hbefore) (exists_sourced_iff (· < 0) hafter))
  · intro flaw
    exact exists_sourced_iff (fun count => count < 1 ∧ flaw = .tooFewWorkers count) hworkers
  · intro flaw
    refine and_congr_left' ?_
    rw [List.isEmpty_iff, SourcedIncludes, ← givenList_eq_iff, hincludes, eq_comm]
  · exact ⟨nofun, nofun⟩

theorem build_eq_ite : build environment root values =
    if isSymbol values.symbol = false then .error (.badSymbol values.symbol)
    else if Text.allBlank values.domain = true then .error .noDomain
    else (do
      let before ← given values.before (integer environment "REFSCAN_CONTEXT_BEFORE" defaultWindow.before)
      let after ← given values.after (integer environment "REFSCAN_CONTEXT_AFTER" defaultWindow.after)
      let workers ← given values.workers (integer environment "REFSCAN_WORKERS" defaultWorkers)
      let strict ← given values.strict (boolean environment "REFSCAN_STRICT_PARSE" true)
      check
        { root := root, symbol := values.symbol, filter := Text.trim values.domain,
          includes := givenList values.includes (list environment "REFSCAN_INCLUDE" defaultIncludes),
          excludes := givenList values.excludes (list environment "REFSCAN_EXCLUDE" defaultExcludes),
          window := ⟨before, after⟩, workers := workers, strict := strict }) := by
  unfold build
  cases isSymbol values.symbol with
  | false => rfl
  | true => cases Text.allBlank values.domain <;> rfl

theorem build_eq_error_iff :
    build environment root values = .error flaw ↔ FirstBroken environment values flaw conditions := by
  -- The checks are those of `conditions`, in this order; the last three are in `check`.
  rw [build_eq_ite]
  refine ite_eq_error_iff ?_ fun _ => ite_eq_error_iff ?_ fun _ => bind_eq_error_iff ?_ fun before hbefore =>
    bind_eq_error_iff ?_ fun after hafter => bind_eq_error_iff ?_ fun workers hworkers =>
      bind_eq_error_iff ?_ fun strict _ => check_eq_error_iff hbefore hafter hworkers rfl
  · intro flaw
    rw [← Bool.not_eq_true, isSymbol_iff]
    exact Iff.rfl
  · intro flaw
    rw [← Text.trim_eq_empty_iff]
    exact Iff.rfl
  · exact fun flaw => integer_eq_error_iff
  · exact fun flaw => integer_eq_error_iff
  · exact fun flaw => integer_eq_error_iff
  · exact fun flaw => boolean_eq_error_iff

theorem forall_not_firstBroken_iff {conditions : List Condition} :
    (∀ flaw, ¬FirstBroken environment values flaw conditions)
      ↔ ∀ condition ∈ conditions, ∀ flaw, ¬Breaks environment values flaw condition := by
  induction conditions with
  | nil => simp [FirstBroken]
  | cons condition rest ih =>
    rw [List.forall_mem_cons, ← ih]
    constructor
    · intro h
      have hfirst : ∀ flaw, ¬Breaks environment values flaw condition := fun flaw hbreaks => h flaw (.inl hbreaks)
      exact ⟨hfirst, fun flaw hrest => h flaw (.inr ⟨hfirst, hrest⟩)⟩
    · rintro ⟨hfirst, hrest⟩ flaw (hbreaks | ⟨-, hbroken⟩)
      · exact hfirst flaw hbreaks
      · exact hrest flaw hbroken

/-! ### Variables that are not read -/

inductive Setting where
  | includes | excludes | before | after | workers | strict
  deriving DecidableEq, Repr

def Setting.variable : Setting → String
  | includes => "REFSCAN_INCLUDE"
  | excludes => "REFSCAN_EXCLUDE"
  | before => "REFSCAN_CONTEXT_BEFORE"
  | after => "REFSCAN_CONTEXT_AFTER"
  | workers => "REFSCAN_WORKERS"
  | strict => "REFSCAN_STRICT_PARSE"

/-- An empty list of patterns is not given. -/
def IsGiven (values : Given) : Setting → Prop
  | .includes => values.includes ≠ []
  | .excludes => values.excludes ≠ []
  | .before => values.before ≠ none
  | .after => values.after ≠ none
  | .workers => values.workers ≠ none
  | .strict => values.strict ≠ none

theorem variable_notMem_consulted {setting : Setting} (h : IsGiven values setting) :
    setting.variable ∉ consulted values := by
  cases setting <;> simp_all [consulted, Setting.variable, IsGiven]

end Settings

namespace Surroundings

variable {surroundings later : Surroundings} {path root : Path} {values : Given}

theorem settingsAt_congr (hsame : surroundings.SameBut later)
    (hagree : ∀ name, (∀ setting, Settings.IsGiven values setting → name ≠ setting.variable) →
      later.environment.get? name = surroundings.environment.get? name) :
    later.settingsAt path values = surroundings.settingsAt path values := by
  have hhome : later.environment.get? "HOME" = surroundings.environment.get? "HOME" := by
    apply hagree
    intro setting _
    cases setting <;> decide
  have hconsulted : ∀ name ∈ Settings.consulted values,
      later.environment.get? name = surroundings.environment.get? name := by
    intro name hname
    apply hagree
    rintro setting hgiven rfl
    exact Settings.variable_notMem_consulted hgiven hname
  rw [settingsAt, settingsAt, projectRoot_congr hsame fun _ => hhome]
  refine congrArg _ (funext fun root => ?_)
  rw [settingsFor, settingsFor, Settings.build_congr hconsulted]

theorem settingsAt_eq_error_iff (hproject : surroundings.IsProject path root) {obstacle : Obstacle} :
    surroundings.settingsAt path values = .error obstacle ↔ ∃ flaw, obstacle = .settings flaw
      ∧ Settings.FirstBroken surroundings.environment values flaw Settings.conditions := by
  simp only [settingsAt_eq_of_isProject hproject, settingsFor, ← @Settings.build_eq_error_iff _ root]
  cases Settings.build surroundings.environment root values with
  | ok settings => simp [Except.mapError]
  | error flaw => simp [Except.mapError, eq_comm]

/-- For a root that is a project, settings are made of their sources, or else the first condition that is broken is
reported. Items that a variable lists are trimmed and not blank, and the variables of settings that are given make no
difference. -/
theorem settings_from_sources (hproject : surroundings.IsProject path root) :
    (∀ settings, surroundings.settingsAt path values = .ok settings
        ↔ Settings.Made surroundings.environment root values settings)
      ∧ (∀ obstacle, surroundings.settingsAt path values = .error obstacle ↔ ∃ flaw, obstacle = .settings flaw
        ∧ Settings.FirstBroken surroundings.environment values flaw Settings.conditions)
      ∧ ((∃ settings, surroundings.settingsAt path values = .ok settings)
        ↔ ∀ condition ∈ Settings.conditions, ∀ flaw,
          ¬Settings.Breaks surroundings.environment values flaw condition)
      ∧ (∀ text items, Settings.ReadsList text items → ∀ item ∈ items, Text.IsTrimmed item ∧ item ≠ "")
      ∧ ∀ later, surroundings.SameBut later → (∀ name, (∀ setting, Settings.IsGiven values setting →
          name ≠ setting.variable) → later.environment.get? name = surroundings.environment.get? name) →
        later.settingsAt path values = surroundings.settingsAt path values := by
  have herror := @settingsAt_eq_error_iff surroundings path root values hproject
  refine ⟨fun settings => ?_, fun _ => herror, ?_, fun _ _ hreads _ => hreads.trimmed,
    fun later => settingsAt_congr⟩
  · rw [settingsAt_eq_of_isProject hproject, settingsFor_eq_ok_iff, Settings.built_iff_made]
  · rw [← Settings.forall_not_firstBroken_iff]
    constructor
    · rintro ⟨settings, hsettings⟩ flaw hbroken
      cases hsettings.symm.trans (herror.2 ⟨flaw, rfl, hbroken⟩)
    · intro hnone
      cases hresult : surroundings.settingsAt path values with
      | ok settings => exact ⟨settings, rfl⟩
      | error obstacle =>
        obtain ⟨flaw, -, hbroken⟩ := herror.1 hresult
        exact absurd hbroken (hnone flaw)

def mixedVariables : Environment :=
  ⟨[("REFSCAN_INCLUDE", " *.ts ,, src/ "), ("REFSCAN_CONTEXT_AFTER", "many"), ("REFSCAN_WORKERS", " 0 ")]⟩

def padded : Given := { symbol := "foo", domain := " database " }

/-- Each value that is given lets the next flaw come to light, until none is left. -/
theorem settingsAt_mixedVariables :
    (onlyProject mixedVariables).settingsAt (Path.ofString "project") padded
        = .error (.settings (.notAnInteger "REFSCAN_CONTEXT_AFTER" "many"))
      ∧ (onlyProject mixedVariables).settingsAt (Path.ofString "project") { padded with after := some 2 }
        = .error (.settings (.tooFewWorkers 0))
      ∧ (onlyProject mixedVariables).settingsAt (Path.ofString "project")
          { padded with after := some 2, workers := some 3 }
        = .ok { plainSettings "foo" with includes := ["*.ts", "src/"], window := ⟨1, 2⟩, workers := 3 } := by
  have hproject := isProject_onlyProject mixedVariables
  have hafter : Settings.build mixedVariables (Path.ofString "/project") padded
      = .error (.notAnInteger "REFSCAN_CONTEXT_AFTER" "many") := rfl
  have hworkers : Settings.build mixedVariables (Path.ofString "/project") { padded with after := some 2 }
      = .error (.tooFewWorkers 0) := rfl
  refine ⟨?_, ?_, ?_⟩
  · exact ((settings_from_sources hproject).2.1 _).2 ⟨_, rfl, Settings.build_eq_error_iff.1 hafter⟩
  · exact ((settings_from_sources hproject).2.1 _).2 ⟨_, rfl, Settings.build_eq_error_iff.1 hworkers⟩
  · exact ((settings_from_sources hproject).1 _).2 (Settings.built_iff_made.1 (Settings.build_eq_ok_iff.1 rfl))

end Surroundings

end UseSites
