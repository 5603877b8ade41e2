import Mathlib
import UseSites.Proofs.Settings.Variables
import UseSites.Proofs.Text.Utf8
/-!
# Settings after other settings

What is taken over for one project stays in the environment, where a call for another project finds it. The settings of
the second project may then be others than if there had been no other call: a variable of the first project is set by
then, and goes before the default and even before the file of the second project.

`Unrelated` says which variables this is about. Those that the second call looks at have to be as they were, or as it
would have left them by itself; then it ends as it would have ended by itself.

The proof follows the two calls side by side. Both take over the same assignments, and where their environments are the
same before a stage they are the same after it (`Carries`).
-/

namespace UseSites

namespace EnvFile

variable {environment later : Environment} {known others : List Assignment} {name : String}

/-! ### References to variables -/

/-- The variables that a value refers to. -/
def references (skip : Nat) : List Char → List String
  | [] => []
  | c :: rest =>
    match skip with
    | skip + 1 => references skip rest
    | 0 =>
      match c, rest with
      | '$', '\x7b' :: inner =>
        match reference? inner with
        | none => references 0 rest
        | some (name, _, after) => String.ofList name :: references (rest.length - after.length) rest
      | _, _ => references 0 rest

theorem expanded_congr {lookup other : String → Option (Option String)} {skip : Nat} {text : List Char}
    (h : ∀ name ∈ references skip text, other name = lookup name) :
    expanded other skip text = expanded lookup skip text := by
  fun_induction references skip text with
  | case1 => rfl
  | case2 c rest skip ih =>
    rw [expanded, expanded]
    exact ih h
  | case3 inner hnone ih =>
    rw [expanded, expanded, hnone]
    exact congrArg _ (ih h)
  | case4 inner name default after hsome ih =>
    obtain ⟨hname, hrest⟩ := List.forall_mem_cons.1 h
    rw [expanded, expanded, hsome]
    dsimp only
    rw [hname, ih hrest]
  | case5 c rest hplain ih =>
    rw [expanded, expanded]
    · rw [ih h]
    · exact hplain
    · exact hplain

def lookupIn (environment : Environment) (known : List Assignment) (name : String) : Option (Option String) :=
  ((environment.get? name).map some).or (known.lookup name)

def extended (environment : Environment) (known : List Assignment) (assignment : Assignment) : List Assignment :=
  assigned assignment.1
    (assignment.2.map fun text => String.ofList (expanded (lookupIn environment known) 0 text.toList)) known

theorem resolved_eq_foldl (environment : Environment) (assignments : List Assignment) :
    resolved environment assignments = assignments.foldl (extended environment) [] := rfl

/-! ### The same file in two environments -/

/-- The same variables, with the same values as far as they are not set yet. -/
def SameUnset (later : Environment) (known others : List Assignment) : Prop :=
  List.Forall₂ (fun a b => b.1 = a.1 ∧ (later.get? a.1 = none → b.2 = a.2)) known others

theorem SameUnset.lookup_eq (hsame : SameUnset later known others) (hunset : later.get? name = none) :
    others.lookup name = known.lookup name := by
  induction hsame with
  | nil => rfl
  | @cons first other _ _ hfirst _ ih =>
    obtain ⟨_, value⟩ := first
    obtain ⟨key, value'⟩ := other
    obtain ⟨rfl, hvalue⟩ := hfirst
    by_cases h : name = key
    · subst name
      simpa using hvalue hunset
    · simp [List.lookup_cons, beq_false_of_ne h, ih]

theorem SameUnset.assigned {value value' : Option String} (hsame : SameUnset later known others)
    (hvalue : later.get? name = none → value' = value) :
    SameUnset later (assigned name value known) (assigned name value' others) := by
  induction hsame with
  | nil => exact .cons ⟨rfl, hvalue⟩ .nil
  | @cons first other _ _ hfirst hrest ih =>
    obtain ⟨key, old⟩ := first
    obtain ⟨key', old'⟩ := other
    obtain ⟨rfl, hold⟩ := hfirst
    unfold EnvFile.assigned
    split
    · exact .cons ⟨rfl, hvalue⟩ hrest
    · exact .cons ⟨rfl, hold⟩ ih

/-- A variable that is still to be set refers to none whose value has changed. -/
def RefersToSame (environment later : Environment) (assignment : Assignment) : Prop :=
  later.get? assignment.1 = none → ∀ text, assignment.2 = some text →
    ∀ name ∈ references 0 text.toList, later.get? name = environment.get? name

theorem SameUnset.extended {assignment : Assignment} (hsame : SameUnset later known others)
    (hrefers : RefersToSame environment later assignment) :
    SameUnset later (extended environment known assignment) (extended later others assignment) := by
  obtain ⟨name, value⟩ := assignment
  apply hsame.assigned
  intro hunset
  cases value with
  | none => rfl
  | some text =>
    refine congrArg (fun chars => some (String.ofList chars)) (expanded_congr ?_)
    intro other hother
    have hother' : later.get? other = environment.get? other := hrefers hunset text rfl other hother
    unfold lookupIn
    rw [← hother']
    cases hset : later.get? other with
    | some value => rfl
    | none => rw [hsame.lookup_eq hset]

theorem sameUnset_foldl {assignments : List Assignment}
    (hrefers : ∀ assignment ∈ assignments, RefersToSame environment later assignment)
    (hsame : SameUnset later known others) :
    SameUnset later (assignments.foldl (extended environment) known) (assignments.foldl (extended later) others) := by
  induction assignments generalizing known others with
  | nil => exact hsame
  | cons first rest ih =>
    obtain ⟨hfirst, hrest⟩ := List.forall_mem_cons.1 hrefers
    exact ih hrest (hsame.extended hfirst)

theorem sameUnset_resolved {assignments : List Assignment}
    (hrefers : ∀ assignment ∈ assignments, RefersToSame environment later assignment) :
    SameUnset later (resolved environment assignments) (resolved later assignments) := by
  rw [resolved_eq_foldl, resolved_eq_foldl]
  exact sameUnset_foldl hrefers .nil

end EnvFile

namespace Environment

/-! ### Two environments side by side -/

variable {environment later settled : Environment}

/-- Every variable of one environment is set in the other, if to another value. -/
def Covers (later environment : Environment) : Prop := ∀ name, later.get? name = none → environment.get? name = none

/-- A stage that leads from two environments to two others. -/
structure Carries (environment later left leftLater : Environment) : Prop where
  same : ∀ name, later.get? name = environment.get? name → leftLater.get? name = left.get? name
  covers : leftLater.Covers left

theorem Carries.refl (hcovers : later.Covers environment) : Carries environment later environment later :=
  ⟨fun _ h => h, hcovers⟩

theorem Carries.trans {middle middleLater left leftLater : Environment}
    (hfirst : Carries environment later middle middleLater) (hsecond : Carries middle middleLater left leftLater) :
    Carries environment later left leftLater :=
  ⟨fun name h => hsecond.same name (hfirst.same name h), hsecond.covers⟩

theorem carries_set_set (hcovers : later.Covers environment) (name value : String) :
    Carries environment later (environment.set name value) (later.set name value) := by
  constructor
  · intro other h
    rw [get?_set, get?_set, h]
  · intro other h
    rw [get?_set] at h ⊢
    split at h
    · cases h
    · next hne => rw [if_neg hne, hcovers other h]

/-- The second environment has had a value for the variable all the time. -/
theorem carries_set {name : String} (hcovers : later.Covers environment) (hnone : environment.get? name = none)
    (hset : later.get? name ≠ none) (value : String) :
    Carries environment later (environment.set name value) later := by
  constructor
  · intro other h
    rw [get?_set]
    split
    · next heq =>
      rw [heq, hnone] at h
      exact absurd h hset
    · exact h
  · intro other h
    rw [get?_set, if_neg, hcovers other h]
    rintro rfl
    exact hset h

structure Steps (environment later : Environment) (assignment other : String × Option String)
    (next nextLater : Environment) : Prop where
  step : ∀ rest, environment.adopt (assignment :: rest) = next.adopt rest
  stepLater : ∀ rest, later.adopt (other :: rest) = nextLater.adopt rest
  carries : Carries environment later next nextLater
  unset : ∀ name, nextLater.get? name = none → later.get? name = none

theorem exists_steps_of_set {name early : String} {value : Option String} (hcovers : later.Covers environment)
    (hset : later.get? name = some early)
    (hholds : environment.get? name = none → ∀ text, value = some text → canHold name text = true)
    (value' : Option String) : ∃ next, Steps environment later (name, value) (name, value') next later := by
  have hstay : ∀ rest, later.adopt ((name, value') :: rest) = later.adopt rest := fun _ => adopt_of_set hset _
  cases hget : environment.get? name with
  | some old => exact ⟨environment, fun _ => adopt_of_set hget _, hstay, .refl hcovers, fun _ h => h⟩
  | none =>
    cases value with
    | none => exact ⟨environment, fun _ => adopt_of_no_value, hstay, .refl hcovers, fun _ h => h⟩
    | some text =>
      refine ⟨environment.set name text, fun rest => ?_, hstay, ?_, fun _ h => h⟩
      · rw [adopt_of_unset hget, if_pos (hholds hget text rfl)]
      · exact carries_set hcovers hget (by rw [hset]; exact nofun) text

theorem exists_steps_of_unset {name : String} {value : Option String} (hcovers : later.Covers environment)
    (hunset : later.get? name = none) (hholds : ∀ text, value = some text → canHold name text = true) :
    ∃ next nextLater, Steps environment later (name, value) (name, value) next nextLater := by
  cases value with
  | none =>
    exact ⟨environment, later, fun _ => adopt_of_no_value, fun _ => adopt_of_no_value, .refl hcovers, fun _ h => h⟩
  | some text =>
    refine ⟨environment.set name text, later.set name text, fun rest => ?_, fun rest => ?_,
      carries_set_set hcovers name text, fun other h => ?_⟩
    · rw [adopt_of_unset (hcovers name hunset), if_pos (hholds text rfl)]
    · rw [adopt_of_unset hunset, if_pos (hholds text rfl)]
    · rw [get?_set] at h
      split at h
      · cases h
      · exact h

theorem exists_steps {name : String} {value value' : Option String} (hcovers : later.Covers environment)
    (hvalue : later.get? name = none → value' = value)
    (hholds : environment.get? name = none → ∀ text, value = some text → canHold name text = true) :
    ∃ next nextLater, Steps environment later (name, value) (name, value') next nextLater := by
  cases hlater : later.get? name with
  | some early =>
    obtain ⟨next, hsteps⟩ := exists_steps_of_set hcovers hlater hholds value'
    exact ⟨next, later, hsteps⟩
  | none =>
    rw [hvalue hlater]
    exact exists_steps_of_unset hcovers hlater (hholds (hcovers name hlater))

/-- Both environments stop at the same assignment, or neither of them stops. -/
theorem carries_adopt {known others : List (String × Option String)} (hcovers : later.Covers environment)
    (hsame : EnvFile.SameUnset later known others)
    (hrefused : ∀ name, (environment.adopt known).2 = some name → later.get? name = environment.get? name) :
    (later.adopt others).2 = (environment.adopt known).2
      ∧ Carries environment later (environment.adopt known).1 (later.adopt others).1 := by
  induction known generalizing environment later others with
  | nil =>
    cases hsame
    exact ⟨rfl, .refl hcovers⟩
  | cons first rest ih =>
    obtain ⟨name, value⟩ := first
    cases hsame with
    | @cons _ other _ others hfirst hrest =>
    obtain ⟨key, value'⟩ := other
    obtain rfl : key = name := hfirst.1
    have hvalue : later.get? key = none → value' = value := hfirst.2
    by_cases hstops : environment.get? key = none ∧ ∃ text, value = some text ∧ canHold key text = false
    · obtain ⟨hget, text, rfl, hcannot⟩ := hstops
      rw [adopt_of_unset hget, hcannot, if_neg Bool.false_ne_true] at hrefused ⊢
      have hunset : later.get? key = none := (hrefused key rfl).trans hget
      rw [hvalue hunset, adopt_of_unset hunset, hcannot, if_neg Bool.false_ne_true]
      exact ⟨rfl, .refl hcovers⟩
    · have hholds : environment.get? key = none → ∀ text, value = some text → canHold key text = true := by
        intro hget text htext
        by_contra hcannot
        exact hstops ⟨hget, text, htext, Bool.eq_false_iff.2 hcannot⟩
      obtain ⟨next, nextLater, hsteps⟩ := exists_steps hcovers hvalue hholds
      rw [hsteps.step] at hrefused ⊢
      rw [hsteps.stepLater]
      have hsame : EnvFile.SameUnset nextLater rest others :=
        hrest.imp fun a b h => ⟨h.1, fun hnone => h.2 (hsteps.unset a.1 hnone)⟩
      obtain ⟨hstop, hleft⟩ := ih hsteps.carries.covers hsame fun other h =>
        hsteps.carries.same other (hrefused other h)
      exact ⟨hstop, hsteps.carries.trans hleft⟩

end Environment

namespace Settings

def consulted (values : Given) : List String :=
  (if values.includes.isEmpty then ["REFSCAN_INCLUDE"] else [])
    ++ (if values.excludes.isEmpty then ["REFSCAN_EXCLUDE"] else [])
    ++ (if values.before.isNone then ["REFSCAN_CONTEXT_BEFORE"] else [])
    ++ (if values.after.isNone then ["REFSCAN_CONTEXT_AFTER"] else [])
    ++ (if values.workers.isNone then ["REFSCAN_WORKERS"] else [])
    ++ (if values.strict.isNone then ["REFSCAN_STRICT_PARSE"] else [])

theorem given_congr {α : Type} {value : Option α} {read other : Except SettingsFlaw α}
    (h : value.isNone = true → other = read) : given value other = given value read := by
  cases value with
  | some value => rfl
  | none => exact h rfl

theorem givenList_congr {values read other : List String} (h : values.isEmpty = true → other = read) :
    givenList values other = givenList values read := by
  unfold givenList
  split
  · next hempty => exact h hempty
  · rfl

theorem build_congr {environment later : Environment} {values : Given}
    (h : ∀ name ∈ consulted values, later.get? name = environment.get? name) (root : Path) :
    build later root values = build environment root values := by
  have hsetting : ∀ name ∈ consulted values, setting? later name = setting? environment name := by
    intro name hname
    rw [setting?, setting?, h name hname]
  have hinteger : ∀ name ∈ consulted values, ∀ default,
      integer later name default = integer environment name default := by
    intro name hname default
    rw [integer, integer, hsetting name hname]
  have hboolean : ∀ name ∈ consulted values, ∀ default,
      boolean later name default = boolean environment name default := by
    intro name hname default
    rw [boolean, boolean, hsetting name hname]
  have hlist : ∀ name ∈ consulted values, ∀ default, list later name default = list environment name default := by
    intro name hname default
    rw [list, list, hsetting name hname]
  have hincludes := givenList_congr fun hempty : values.includes.isEmpty = true =>
    hlist "REFSCAN_INCLUDE" (by simp [consulted, hempty]) defaultIncludes
  have hexcludes := givenList_congr fun hempty : values.excludes.isEmpty = true =>
    hlist "REFSCAN_EXCLUDE" (by simp [consulted, hempty]) defaultExcludes
  have hbefore := given_congr fun hnone : values.before.isNone = true =>
    hinteger "REFSCAN_CONTEXT_BEFORE" (by simp [consulted, hnone]) defaultWindow.before
  have hafter := given_congr fun hnone : values.after.isNone = true =>
    hinteger "REFSCAN_CONTEXT_AFTER" (by simp [consulted, hnone]) defaultWindow.after
  have hworkers := given_congr fun hnone : values.workers.isNone = true =>
    hinteger "REFSCAN_WORKERS" (by simp [consulted, hnone]) defaultWorkers
  have hstrict := given_congr fun hnone : values.strict.isNone = true =>
    hboolean "REFSCAN_STRICT_PARSE" (by simp [consulted, hnone]) true
  unfold build
  rw [hincludes, hexcludes, hbefore, hafter, hworkers, hstrict]

end Settings

namespace Surroundings

open Environment (Covers Carries)

variable {surroundings later : Surroundings} {path root : Path} {given : Given}

/-! ### Two calls side by side -/

/-- Only a root that starts with `~` depends on the environment. -/
theorem projectRoot_congr (hsame : surroundings.SameBut later)
    (hhome : path.segments.head? = some "~" → later.environment.get? "HOME" = surroundings.environment.get? "HOME") :
    later.projectRoot path = surroundings.projectRoot path := by
  have hexpand : later.expandHome path = surroundings.expandHome path := by
    unfold expandHome
    split
    · next segment rest _ hsegments =>
      split
      · next user huser =>
        have hknown : later.home? user = surroundings.home? user := by
          unfold home?
          rw [hsame]
          cases user with
          | cons c rest => rfl
          | nil =>
            have htilde : segment = "~" := String.toList_injective huser
            rw [hhome (by rw [hsegments, htilde]; rfl)]
        rw [hknown]
      · rfl
    · rfl
  unfold projectRoot
  rw [hexpand, hsame]

theorem carries_loadEnvFile (hsame : surroundings.SameBut later)
    (hcovers : later.environment.Covers surroundings.environment)
    (hrefers : ∀ assignment ∈ surroundings.assignmentsIn path,
      EnvFile.RefersToSame surroundings.environment later.environment assignment)
    (hrefused : ∀ name, (surroundings.loadEnvFile path).2 = some (.badVariable name) →
      later.environment.get? name = surroundings.environment.get? name) :
    (later.loadEnvFile path).2 = (surroundings.loadEnvFile path).2
      ∧ Carries surroundings.environment later.environment
        (surroundings.loadEnvFile path).1.environment (later.loadEnvFile path).1.environment := by
  unfold assignmentsIn at hrefers
  unfold loadEnvFile at hrefused ⊢
  rw [hsame.sameDisk.disk]
  cases hread : surroundings.disk.read [] path with
  | error trouble => exact ⟨rfl, .refl hcovers⟩
  | ok bytes =>
    rw [hread] at hrefers hrefused
    dsimp only at hrefers hrefused ⊢
    cases hdecode : Text.Utf8.decode bytes.toList with
    | error position => exact ⟨rfl, .refl hcovers⟩
    | ok text =>
      rw [hdecode] at hrefers hrefused
      obtain ⟨hstop, hcarries⟩ := Environment.carries_adopt hcovers (EnvFile.sameUnset_resolved hrefers)
        fun name hname => hrefused name (congrArg (Option.map Obstacle.badVariable) hname)
      exact ⟨congrArg (Option.map Obstacle.badVariable) hstop, hcarries⟩

def assignmentsFor (surroundings : Surroundings) (root : Path) : List EnvFile.Assignment :=
  surroundings.assignmentsIn (root.child envFileName)
    ++ (surroundings.envFileUpwards?.map surroundings.assignmentsIn).getD []

theorem refersToSame_loadEnvFile {assignment : EnvFile.Assignment} {left : Environment}
    (hrefers : EnvFile.RefersToSame surroundings.environment later.environment assignment)
    (hcarries : Carries surroundings.environment later.environment left (later.loadEnvFile path).1.environment) :
    EnvFile.RefersToSame left (later.loadEnvFile path).1.environment assignment := by
  intro hunset text htext name hname
  apply hcarries.same
  refine hrefers ?_ text htext name hname
  cases hget : later.environment.get? assignment.1 with
  | none => rfl
  | some value => cases hunset.symm.trans (get?_loadEnvFile_of_some hget)

theorem carries_loadEnvFileUpwards (hsame : surroundings.SameBut later)
    (hcovers : later.environment.Covers surroundings.environment)
    (hrefers : ∀ assignment ∈ (surroundings.envFileUpwards?.map surroundings.assignmentsIn).getD [],
      EnvFile.RefersToSame surroundings.environment later.environment assignment)
    (hrefused : ∀ name, surroundings.loadEnvFileUpwards.2 = some (.badVariable name) →
      later.environment.get? name = surroundings.environment.get? name) :
    later.loadEnvFileUpwards.2 = surroundings.loadEnvFileUpwards.2
      ∧ Carries surroundings.environment later.environment
        surroundings.loadEnvFileUpwards.1.environment later.loadEnvFileUpwards.1.environment := by
  unfold loadEnvFileUpwards at hrefused ⊢
  rw [hsame.sameDisk.envFileUpwards?_eq]
  cases hpath : surroundings.envFileUpwards? with
  | none => exact ⟨rfl, .refl hcovers⟩
  | some path =>
    rw [hpath] at hrefers hrefused
    exact carries_loadEnvFile hsame hcovers hrefers hrefused

/-- Both calls stop at the same variable or file, or neither of them does. -/
theorem carries_loadEnvFiles (hsame : surroundings.SameBut later)
    (hcovers : later.environment.Covers surroundings.environment)
    (hrefers : ∀ assignment ∈ surroundings.assignmentsFor root,
      EnvFile.RefersToSame surroundings.environment later.environment assignment)
    (hrefused : ∀ name, (surroundings.loadEnvFiles root).2 = some (.badVariable name) →
      later.environment.get? name = surroundings.environment.get? name) :
    (later.loadEnvFiles root).2 = (surroundings.loadEnvFiles root).2
      ∧ Carries surroundings.environment later.environment
        (surroundings.loadEnvFiles root).1.environment (later.loadEnvFiles root).1.environment := by
  obtain ⟨hrefersOwn, hrefersNext⟩ := List.forall_mem_append.1 hrefers
  rcases loadEnvFiles_cases surroundings root with ⟨hown, hleft⟩ | ⟨hstopped, hleft⟩
  · rw [hleft] at hrefused ⊢
    obtain ⟨hstop, hcarries⟩ := carries_loadEnvFile hsame hcovers hrefersOwn fun name h => by
      rw [hown] at h
      cases h
    rcases loadEnvFiles_cases later root with ⟨-, hleftLater⟩ | ⟨hstoppedLater, -⟩
    · rw [hleftLater]
      have hmiddle : surroundings.SameBut (surroundings.loadEnvFile (root.child envFileName)).1 := sameBut_loadEnvFile
      have hnext : ((surroundings.loadEnvFile (root.child envFileName)).1.envFileUpwards?.map
          (surroundings.loadEnvFile (root.child envFileName)).1.assignmentsIn)
            = surroundings.envFileUpwards?.map surroundings.assignmentsIn := by
        rw [hmiddle.sameDisk.envFileUpwards?_eq, funext hmiddle.sameDisk.assignmentsIn_eq]
      obtain ⟨hstopNext, hcarriesNext⟩ := carries_loadEnvFileUpwards
        (hmiddle.symm.trans (hsame.trans sameBut_loadEnvFile)) hcarries.covers
        (fun assignment hmem => refersToSame_loadEnvFile (hrefersNext assignment (hnext ▸ hmem)) hcarries)
        fun name h => hcarries.same name (hrefused name h)
      exact ⟨hstopNext, hcarries.trans hcarriesNext⟩
    · exact absurd (hstop.trans hown) hstoppedLater
  · rw [hleft] at hrefused ⊢
    obtain ⟨hstop, hcarries⟩ := carries_loadEnvFile hsame hcovers hrefersOwn hrefused
    rcases loadEnvFiles_cases later root with ⟨hownLater, -⟩ | ⟨-, hleftLater⟩
    · exact absurd (hstop.symm.trans hownLater) hstopped
    · rw [hleftLater]
      exact ⟨hstop, hcarries⟩

/-! ### A call after another one -/

/-- What has been taken over in between makes no difference to a call. -/
structure Unrelated (surroundings later : Surroundings) (path : Path) (given : Given) : Prop where
  home : path.segments.head? = some "~" → later.environment.get? "HOME" = surroundings.environment.get? "HOME"
  /-- What the files of the project refer to is as it was. -/
  refers : ∀ root, surroundings.IsProject path root → ∀ assignment ∈ surroundings.assignmentsFor root,
    EnvFile.RefersToSame surroundings.environment later.environment assignment
  /-- If the call cannot set a variable, nothing else has set it. -/
  refused : ∀ name, (surroundings.loadSettings path given).2 = .error (.badVariable name) →
    later.environment.get? name = surroundings.environment.get? name
  /-- What the call looks at is as it was, or as the call alone would leave it. -/
  consulted : ∀ root, surroundings.IsProject path root → ∀ name ∈ Settings.consulted given,
    later.environment.get? name = surroundings.environment.get? name
      ∨ later.environment.get? name = (surroundings.loadSettings path given).1.environment.get? name

theorem loadSettings_eq (hroot : surroundings.projectRoot path = .ok root) :
    (surroundings.loadSettings path given).1 = (surroundings.loadEnvFiles root).1
      ∧ (surroundings.loadSettings path given).2 = match (surroundings.loadEnvFiles root).2 with
        | some obstacle => .error obstacle
        | none => (surroundings.loadEnvFiles root).1.settingsFor root given := by
  unfold loadSettings
  rw [hroot]
  dsimp only
  rcases surroundings.loadEnvFiles root with ⟨left, _ | obstacle⟩ <;> exact ⟨rfl, rfl⟩

theorem result_of_unrelated (hsame : surroundings.SameBut later)
    (hcovers : later.environment.Covers surroundings.environment)
    (hunrelated : surroundings.Unrelated later path given) :
    (later.loadSettings path given).2 = (surroundings.loadSettings path given).2 := by
  have hroots := projectRoot_congr hsame hunrelated.home
  cases hroot : surroundings.projectRoot path with
  | error obstacle =>
    unfold loadSettings
    rw [hroots, hroot]
  | ok root =>
    have hproject := projectRoot_eq_ok_iff.1 hroot
    obtain ⟨hleft, hresult⟩ := @loadSettings_eq surroundings path root given hroot
    have hrefused := hunrelated.refused
    have hconsulted := hunrelated.consulted root hproject
    rw [hresult] at hrefused
    rw [hleft] at hconsulted
    obtain ⟨hstop, hcarries⟩ := carries_loadEnvFiles hsame hcovers (hunrelated.refers root hproject) fun name h =>
      hrefused name (by rw [h])
    rw [hresult, (loadSettings_eq (hroots.trans hroot)).2, hstop]
    cases (surroundings.loadEnvFiles root).2 with
    | some obstacle => rfl
    | none =>
      refine congrArg (Except.mapError Obstacle.settings) (Settings.build_congr ?_ root)
      intro name hname
      rcases hconsulted name hname with hunchanged | hsettled
      · exact hcarries.same name hunchanged
      · cases hget : later.environment.get? name with
        | none => exact hcarries.same name (hget.trans (hcovers name hget).symm)
        | some value => rw [get?_loadEnvFiles_of_some hget, ← hsettled, hget]

/-- A call for one project leaves the result of the next call as it is, provided that the variables which it has taken
over are unrelated to that. -/
theorem result_after_unrelated_call {first : Path} {givenFirst : Given}
    (hunrelated : surroundings.Unrelated (surroundings.loadSettings first givenFirst).1 path given) :
    ((surroundings.loadSettings first givenFirst).1.loadSettings path given).2
      = (surroundings.loadSettings path given).2 := by
  refine result_of_unrelated sameBut_loadSettings ?_ hunrelated
  intro name hunset
  cases hget : surroundings.environment.get? name with
  | none => rfl
  | some value => cases hunset.symm.trans ((takesOver_loadSettings surroundings first givenFirst).kept name value hget)

def desks : Surroundings where
  disk :=
    ⟨[("first", .folder [(".env", .file "REFSCAN_WORKERS=9".toUTF8)]),
      ("second", .folder [(".env", .file "REFSCAN_WORKERS=2".toUTF8)]),
      ("desk", .folder [(".env", .file "REFSCAN_CONTEXT_AFTER=3".toUTF8)])]⟩
  environment := .empty
  folder := ["desk"]

def asked : Given := { symbol := "foo", domain := "database" }

theorem loadEnvFile_of_text {text : String} (hread : surroundings.disk.read [] path = .ok text.toUTF8) :
    surroundings.loadEnvFile path
      = ({ surroundings with environment := (EnvFile.load surroundings.environment text).1 },
          (EnvFile.load surroundings.environment text).2.map .badVariable) := by
  unfold loadEnvFile
  rw [hread]
  dsimp only
  rw [Text.Utf8.decode_eq_ok_iff.2 rfl]

/-- The working folder sets its variable after a project has set its own. -/
theorem loadEnvFiles_desks {root : Path} {text : String} {own : Environment}
    (hread : desks.disk.read [] (root.child envFileName) = .ok text.toUTF8) (environment : Environment)
    (hload : EnvFile.load environment text = (own, none)) :
    ({ desks with environment := environment } : Surroundings).loadEnvFiles root
      = ({ desks with environment := (EnvFile.load own "REFSCAN_CONTEXT_AFTER=3").1 },
          (EnvFile.load own "REFSCAN_CONTEXT_AFTER=3").2.map .badVariable) := by
  have hfile : ({ desks with environment := own } : Surroundings).envFileUpwards?
      = some (Path.ofString "/desk/.env") := by cbv
  have hnext : desks.disk.read [] (Path.ofString "/desk/.env") = .ok "REFSCAN_CONTEXT_AFTER=3".toUTF8 := by cbv
  have hown := @loadEnvFile_of_text { desks with environment := environment } (root.child envFileName) _ hread
  rw [hload] at hown
  unfold loadEnvFiles
  rw [hown]
  dsimp only [Option.map_none]
  unfold loadEnvFileUpwards
  rw [hfile]
  exact loadEnvFile_of_text hnext

def deskVariables (workers : String) : Environment :=
  ⟨[("REFSCAN_CONTEXT_AFTER", "3"), ("REFSCAN_WORKERS", workers)]⟩

def deskSettings (root : Path) (workers : Int) : Settings where
  root := root
  symbol := "foo"
  filter := "database"
  includes := Settings.defaultIncludes
  excludes := Settings.defaultExcludes
  window := ⟨1, 3⟩
  workers := workers
  strict := true

theorem isProject_first (environment : Environment) :
    ({ desks with environment := environment } : Surroundings).IsProject (Path.ofString "/first")
      (Path.ofString "/first") :=
  ⟨["first"], _, ⟨Path.ofString "/first", rfl, by decide, by cbv⟩, rfl, by cbv, List.not_mem_nil⟩

theorem isProject_second (environment : Environment) :
    ({ desks with environment := environment } : Surroundings).IsProject (Path.ofString "/second")
      (Path.ofString "/second") :=
  ⟨["second"], _, ⟨Path.ofString "/second", rfl, by decide, by cbv⟩, rfl, by cbv, List.not_mem_nil⟩

theorem loadEnvFiles_first : desks.loadEnvFiles (Path.ofString "/first")
    = ({ desks with environment := deskVariables "9" }, none) := by
  have hload : EnvFile.load .empty "REFSCAN_WORKERS=9" = (⟨[("REFSCAN_WORKERS", "9")]⟩, none) := by cbv
  have hnext : EnvFile.load ⟨[("REFSCAN_WORKERS", "9")]⟩ "REFSCAN_CONTEXT_AFTER=3" = (deskVariables "9", none) := by cbv
  have hleft := @loadEnvFiles_desks (Path.ofString "/first") "REFSCAN_WORKERS=9" _ (by cbv) .empty hload
  rw [hnext] at hleft
  exact hleft

theorem loadEnvFiles_second {environment own left : Environment}
    (hload : EnvFile.load environment "REFSCAN_WORKERS=2" = (own, none))
    (hnext : EnvFile.load own "REFSCAN_CONTEXT_AFTER=3" = (left, none)) :
    ({ desks with environment := environment } : Surroundings).loadEnvFiles (Path.ofString "/second")
      = ({ desks with environment := left }, none) := by
  have hleft := @loadEnvFiles_desks (Path.ofString "/second") "REFSCAN_WORKERS=2" _ (by cbv) environment hload
  rw [hnext] at hleft
  exact hleft

theorem loadSettings_first :
    desks.loadSettings (Path.ofString "/first") asked
      = ({ desks with environment := deskVariables "9" }, .ok (deskSettings (Path.ofString "/first") 9)) :=
  loadSettings_of_built (isProject_first .empty) loadEnvFiles_first (Settings.build_eq_ok_iff.1 rfl)

theorem loadSettings_second {given : Given} {settings : Settings}
    (hbuild : Settings.build (deskVariables "2") (Path.ofString "/second") given = .ok settings) :
    desks.loadSettings (Path.ofString "/second") given
      = ({ desks with environment := deskVariables "2" }, .ok settings) := by
  have hload : EnvFile.load .empty "REFSCAN_WORKERS=2" = (⟨[("REFSCAN_WORKERS", "2")]⟩, none) := by cbv
  have hnext : EnvFile.load ⟨[("REFSCAN_WORKERS", "2")]⟩ "REFSCAN_CONTEXT_AFTER=3" = (deskVariables "2", none) := by cbv
  exact loadSettings_of_built (isProject_second .empty) (loadEnvFiles_second hload hnext)
    (Settings.build_eq_ok_iff.1 hbuild)

/-- When the number of workers is given, it does not matter that another project has set it. -/
theorem result_given_workers :
    ((desks.loadSettings (Path.ofString "/first") asked).1.loadSettings (Path.ofString "/second")
        { asked with workers := some 1 }).2
      = (desks.loadSettings (Path.ofString "/second") { asked with workers := some 1 }).2 := by
  have hsecond : desks.loadSettings (Path.ofString "/second") { asked with workers := some 1 }
      = ({ desks with environment := deskVariables "2" }, .ok (deskSettings (Path.ofString "/second") 1)) :=
    loadSettings_second rfl
  apply result_after_unrelated_call
  rw [loadSettings_first]
  refine ⟨by decide, ?_, ?_, ?_⟩
  · intro root hproject
    obtain rfl := hproject.unique (isProject_second .empty)
    have hassigned : desks.assignmentsFor (Path.ofString "/second")
        = [("REFSCAN_WORKERS", some "2"), ("REFSCAN_CONTEXT_AFTER", some "3")] := by cbv
    have hset : ∀ assignment ∈ desks.assignmentsFor (Path.ofString "/second"),
        (deskVariables "9").get? assignment.1 ≠ none := by
      rw [hassigned]
      decide
    intro assignment hmem hunset
    exact absurd hunset (hset assignment hmem)
  · intro name hrefused
    rw [hsecond] at hrefused
    cases hrefused
  · intro root _
    rw [hsecond]
    decide

/-- The second project says two workers, but a call for the first one has set nine. -/
theorem result_desks :
    (desks.loadSettings (Path.ofString "/second") asked).2 = .ok (deskSettings (Path.ofString "/second") 2)
      ∧ ((desks.loadSettings (Path.ofString "/first") asked).1.loadSettings (Path.ofString "/second") asked).2
        = .ok (deskSettings (Path.ofString "/second") 9) := by
  have halone : desks.loadSettings (Path.ofString "/second") asked
      = ({ desks with environment := deskVariables "2" }, .ok (deskSettings (Path.ofString "/second") 2)) :=
    loadSettings_second rfl
  refine ⟨by rw [halone], ?_⟩
  have hload : EnvFile.load (deskVariables "9") "REFSCAN_WORKERS=2" = (deskVariables "9", none) := by cbv
  have hnext : EnvFile.load (deskVariables "9") "REFSCAN_CONTEXT_AFTER=3" = (deskVariables "9", none) := by cbv
  rw [loadSettings_first, loadSettings_of_built (isProject_second _) (loadEnvFiles_second hload hnext)
    (Settings.build_eq_ok_iff.1 rfl)]
  rfl

end Surroundings

end UseSites
