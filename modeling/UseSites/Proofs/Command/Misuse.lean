import Mathlib
import UseSites.Command.Run
import UseSites.Proofs.Settings.Loading
/-!
# What a search is told and cannot be used

A search is `Usable` when its root is a project, the files of variables can be taken over, settings can be built and
every pattern can be read. Of the four only the first and the third are for the settings to judge, and only they make
a misuse of the command, which is answered with a message and the usage. A root of which nobody knows where it leads,
a file of variables that is no text and a pattern that cannot be read are not caught, and the command fails without a
word about them. `settles_search` lists what can become of a search before it is run.
-/

namespace UseSites

namespace Ignore.Pattern

theorem exists_ofLines_eq_ok_iff {lines : List String} :
    (∃ patterns, ofLines lines = .ok patterns) ↔ ∀ line ∈ lines, ∃ pattern, ofLine line = .ok pattern := by
  induction lines with
  | nil => exact ⟨fun _ => List.forall_mem_nil _, fun _ => ⟨[], rfl⟩⟩
  | cons line lines ih =>
    rw [List.forall_mem_cons, ← ih]
    constructor
    · rintro ⟨patterns, h⟩
      obtain ⟨pattern, hpattern, h⟩ := bind_eq_ok_iff.1 h
      obtain ⟨others, hothers, -⟩ := bind_eq_ok_iff.1 h
      exact ⟨⟨pattern, hpattern⟩, ⟨others, hothers⟩⟩
    · rintro ⟨⟨pattern, hpattern⟩, ⟨others, hothers⟩⟩
      exact ⟨_, bind_eq_ok_iff.2 ⟨pattern, hpattern, bind_eq_ok_iff.2 ⟨others, hothers, rfl⟩⟩⟩

end Ignore.Pattern

namespace Command

open Ignore (Pattern)

variable {surroundings : Surroundings} {course : Course} {arguments : Arguments} {words : List String}

/-- All that a search is told can be used. -/
structure Usable (surroundings : Surroundings) (arguments : Arguments) (root : Path) (loaded : Surroundings)
    (settings : Settings) : Prop where
  project : surroundings.IsProject (Path.ofString arguments.root) root
  loads : surroundings.loadEnvFiles root = (loaded, none)
  built : Settings.Built loaded.environment root arguments.given settings
  patterns : ∀ line ∈ settings.includes ++ settings.excludes, ∃ pattern, Pattern.ofLine line = .ok pattern

/-- What the settings reject: a root that is no folder, or a value that cannot be used. -/
inductive Rejects (surroundings : Surroundings) (arguments : Arguments) : Prop where
  | root (hlacks : surroundings.LacksProject (Path.ofString arguments.root))
  | values {root : Path} {loaded : Surroundings} (hproject : surroundings.IsProject (Path.ofString arguments.root) root)
      (hloaded : surroundings.loadEnvFiles root = (loaded, none))
      (hnone : ∀ settings, ¬Settings.Built loaded.environment root arguments.given settings)

/-- A misuse is answered with its flaw and the usage, and nothing else comes of it. -/
structure Answer.Refuses (answer : Answer) (arguments : Arguments) : Prop where
  exit : answer.exit = .misuse
  output : answer.output = ""
  escape : answer.escape = none
  diagnostics : ∃ flaw,
    answer.diagnostics = Messages.searching arguments.symbol arguments.domain :: Messages.misuse flaw

/-- The command fails over an obstacle that it has no message for: all that is said was said before. -/
structure Answer.GivesUp (answer : Answer) (arguments : Arguments) : Prop where
  exit : answer.exit = .failure
  output : answer.output = ""
  escape : ∃ obstacle, answer.escape = some (.obstacle obstacle)
  diagnostics : ∃ more, answer.diagnostics = Messages.searching arguments.symbol arguments.domain :: more
    ∧ (more = [] ∨ ∃ settings, more = Messages.root settings)

theorem exit_runSearch_ne_misuse {said : List Diagnostic} {search : Search} :
    (runSearch arguments surroundings course said search).exit ≠ .misuse := by
  unfold runSearch
  dsimp only
  cases course search surroundings.reads (search.discover surroundings.disk) with
  | error abort => cases abort <;> exact nofun
  | ok report =>
    unfold deliver
    cases arguments.output with
    | none => exact nofun
    | some name =>
      dsimp only
      split <;> exact nofun

theorem patterns_of_ofSettings {settings : Settings} {search : Search}
    (h : Search.ofSettings surroundings settings = .ok search) :
    ∀ line ∈ settings.includes ++ settings.excludes, ∃ pattern, Pattern.ofLine line = .ok pattern := by
  obtain ⟨root, -, h⟩ := bind_eq_ok_iff.1 h
  obtain ⟨includes, hincludes, h⟩ := bind_eq_ok_iff.1 h
  obtain ⟨excludes, hexcludes, -⟩ := bind_eq_ok_iff.1 h
  have hlines : ∀ {lines patterns}, (Pattern.ofLines lines).mapError Obstacle.pattern = .ok patterns →
      ∀ line ∈ lines, ∃ pattern, Pattern.ofLine line = .ok pattern := by
    intro lines patterns hread
    refine Pattern.exists_ofLines_eq_ok_iff.1 ?_
    cases hpatterns : Pattern.ofLines lines with
    | error flaw =>
      rw [hpatterns] at hread
      cases hread
    | ok others => exact ⟨others, rfl⟩
  intro line hline
  rcases List.mem_append.1 hline with hline | hline
  · exact hlines hincludes line hline
  · exact hlines hexcludes line hline

theorem not_rejects_of_loadEnvFiles {root : Path} {left : Surroundings} {obstacle : Obstacle}
    (hproject : surroundings.IsProject (Path.ofString arguments.root) root)
    (hleft : surroundings.loadEnvFiles root = (left, some obstacle)) : ¬Rejects surroundings arguments := by
  rintro (hlacks | ⟨hother, hloaded, -⟩)
  · exact Surroundings.not_isProject_of_lacksProject hlacks hproject
  · obtain rfl := hproject.unique hother
    cases hleft.symm.trans hloaded

theorem not_rejects_of_built {root : Path} {loaded : Surroundings} {settings : Settings}
    (hproject : surroundings.IsProject (Path.ofString arguments.root) root)
    (hloaded : surroundings.loadEnvFiles root = (loaded, none))
    (hbuilt : Settings.Built loaded.environment root arguments.given settings) : ¬Rejects surroundings arguments := by
  rintro (hlacks | ⟨hother, hleft, hnone⟩)
  · exact Surroundings.not_isProject_of_lacksProject hlacks hproject
  · obtain rfl := hproject.unique hother
    obtain ⟨rfl, -⟩ := Prod.mk.inj (hloaded.symm.trans hleft)
    exact hnone settings hbuilt

/-- What becomes of a search before it is run. -/
inductive Settles (surroundings : Surroundings) (arguments : Arguments) (answer : Answer) : Prop where
  | refused (hrejects : Rejects surroundings arguments) (hrefuses : answer.Refuses arguments)
  | givenUp (hrejects : ¬Rejects surroundings arguments) (hgives : answer.GivesUp arguments)
  | started {root : Path} {loaded : Surroundings} {settings : Settings} (hrejects : ¬Rejects surroundings arguments)
      (husable : Usable surroundings arguments root loaded settings) (hexit : answer.exit ≠ .misuse)

theorem settles_search : Settles surroundings arguments (search surroundings course arguments) := by
  have hloads := @Surroundings.loads_loadSettings surroundings (Path.ofString arguments.root) arguments.given
  unfold search
  dsimp only
  generalize surroundings.loadSettings (Path.ofString arguments.root) arguments.given = result at hloads
  cases hloads with
  | @rejected obstacle hroot =>
    -- only a root that leads to no folder is a misuse, not one that leads nowhere
    by_cases hlacks : surroundings.LacksProject (Path.ofString arguments.root)
    · obtain ⟨flaw, hflaw⟩ := Surroundings.exists_projectRoot_eq_settings_iff.2 hlacks
      obtain rfl := Except.error.inj (hroot.symm.trans hflaw)
      exact .refused (.root hlacks) ⟨rfl, rfl, rfl, flaw, rfl⟩
    · have hrejects : ¬Rejects surroundings arguments := by
        rintro (hroot' | ⟨hproject, -, -⟩)
        · exact hlacks hroot'
        · cases hroot.symm.trans (Surroundings.projectRoot_eq_ok_iff.2 hproject)
      cases obstacle with
      | settings flaw => exact absurd (Surroundings.exists_projectRoot_eq_settings_iff.1 ⟨flaw, hroot⟩) hlacks
      | _ => exact .givenUp hrejects ⟨rfl, rfl, ⟨_, rfl⟩, _, rfl, .inl rfl⟩
  | @stopped root left obstacle hproject hleft hobstacle =>
    have hrejects := not_rejects_of_loadEnvFiles hproject hleft
    cases obstacle with
    | settings flaw => exact absurd rfl (hobstacle flaw)
    | _ => exact .givenUp hrejects ⟨rfl, rfl, ⟨_, rfl⟩, _, rfl, .inl rfl⟩
  | @flawed root left flaw hproject hleft hnone =>
    exact .refused (.values hproject hleft hnone) ⟨rfl, rfl, rfl, flaw, rfl⟩
  | @built root left settings hproject hleft hbuilt =>
    have hrejects := not_rejects_of_built hproject hleft hbuilt
    dsimp only
    cases hsearch : Search.ofSettings left settings with
    | error obstacle => exact .givenUp hrejects ⟨rfl, rfl, ⟨obstacle, rfl⟩, _, rfl, .inr ⟨settings, rfl⟩⟩
    | ok search =>
      exact .started hrejects ⟨hproject, hleft, hbuilt, patterns_of_ofSettings hsearch⟩ exit_runSearch_ne_misuse

theorem search_refuses_iff :
    (search surroundings course arguments).Refuses arguments ↔ Rejects surroundings arguments := by
  cases @settles_search surroundings course arguments with
  | refused hrejects hrefuses => exact iff_of_true hrefuses hrejects
  | givenUp hrejects hgives =>
    refine iff_of_false (fun hrefuses => ?_) hrejects
    cases hrefuses.exit.symm.trans hgives.exit
  | started hrejects _ hexit => exact iff_of_false (fun hrefuses => hexit hrefuses.exit) hrejects

theorem search_givesUp (hrejects : ¬Rejects surroundings arguments)
    (hunusable : ∀ root loaded settings, ¬Usable surroundings arguments root loaded settings) :
    (search surroundings course arguments).GivesUp arguments := by
  cases @settles_search surroundings course arguments with
  | refused hrejected _ => exact absurd hrejected hrejects
  | givenUp _ hgives => exact hgives
  | started _ husable => exact absurd husable (hunusable _ _ _)

/-- When something that a search is told cannot be used, the command says what is wrong and how it is used, provided
that the settings reject it; otherwise it gives up over an obstacle that it has no message for. -/
theorem refuses_iff_rejects (hwords : Request.ofWords? words = some (.search arguments))
    (hunusable : ∀ root loaded settings, ¬Usable surroundings arguments root loaded settings) :
    ((runBy surroundings course words).Refuses arguments ↔ Rejects surroundings arguments)
      ∧ (¬Rejects surroundings arguments → (runBy surroundings course words).GivesUp arguments) := by
  rw [runBy_eq_search hwords]
  exact ⟨search_refuses_iff, fun hrejects => search_givesUp hrejects hunusable⟩

def bareProject : Surroundings where
  disk := ⟨[("project", .folder [])]⟩
  environment := .empty
  folder := []

theorem isProject_bareProject (environment : Environment) :
    { bareProject with environment := environment }.IsProject (Path.ofString "project") (Path.ofString "/project") := by
  have hresolve : bareProject.disk.resolve [] (Path.ofString "project") = some ["project"] := by cbv
  exact ⟨["project"], [], ⟨Path.ofString "project", rfl, by decide, hresolve⟩, rfl, by cbv, List.not_mem_nil⟩

def bareArguments : Arguments where
  root := "project"
  symbol := "foo"
  domain := "database"

def manyWorkers : Surroundings := { bareProject with environment := ⟨[("REFSCAN_WORKERS", "many")]⟩ }

theorem refuses_manyWorkers :
    (runBy manyWorkers (Course.inOrder {}) ["project", "foo", "database"]).Refuses bareArguments := by
  have hproject : manyWorkers.IsProject (Path.ofString "project") (Path.ofString "/project") := isProject_bareProject _
  have hloaded : manyWorkers.loadEnvFiles (Path.ofString "/project") = (manyWorkers, none) := by cbv
  have hnone : ∀ settings, ¬Settings.Built manyWorkers.environment (Path.ofString "/project") bareArguments.given
      settings := by
    intro settings hbuilt
    cases hbuilt.workers
  have hunusable : ∀ root loaded settings, ¬Usable manyWorkers bareArguments root loaded settings := by
    rintro root loaded settings ⟨hother, hleft, hbuilt, -⟩
    obtain rfl := hproject.unique hother
    obtain ⟨rfl, -⟩ := Prod.mk.inj (hloaded.symm.trans hleft)
    exact hnone settings hbuilt
  exact (refuses_iff_rejects (by decide) hunusable).1.2 (.values hproject hloaded hnone)

def negatedNothing : Arguments := { bareArguments with includes := ["!"] }

/-- A pattern that cannot be read is no misuse: the command fails and does not say why. -/
theorem not_refuses_negatedNothing :
    Request.ofWords? ["project", "foo", "database", "-i", "!"] = some (.search negatedNothing)
      ∧ Pattern.ofLine "!" = .error (.malformed "!")
      ∧ ¬(run bareProject {} ["project", "foo", "database", "-i", "!"]).Refuses negatedNothing
      ∧ (run bareProject {} ["project", "foo", "database", "-i", "!"]).GivesUp negatedNothing := by
  have hwords : Request.ofWords? ["project", "foo", "database", "-i", "!"] = some (.search negatedNothing) := by decide
  have hproject : bareProject.IsProject (Path.ofString "project") (Path.ofString "/project") := isProject_bareProject _
  have hbuild : Settings.build bareProject.environment (Path.ofString "/project") negatedNothing.given = .ok
      { root := Path.ofString "/project", symbol := "foo", filter := "database", includes := ["!"],
        excludes := Settings.defaultExcludes, window := ⟨1, 1⟩, workers := 4, strict := true } := rfl
  have hrejects : ¬Rejects bareProject negatedNothing :=
    not_rejects_of_built hproject (by cbv) (Settings.build_eq_ok_iff.1 hbuild)
  have hunusable : ∀ root loaded settings, ¬Usable bareProject negatedNothing root loaded settings := by
    rintro root loaded settings ⟨-, -, hbuilt, hpatterns⟩
    have hline : "!" ∈ settings.includes ++ settings.excludes := by
      rw [hbuilt.includes]
      exact List.mem_append_left _ List.mem_cons_self
    obtain ⟨pattern, hpattern⟩ := hpatterns "!" hline
    cases hpattern
  rw [run, runBy_eq_search hwords]
  exact ⟨hwords, rfl, fun hrefuses => hrejects (search_refuses_iff.1 hrefuses), search_givesUp hrejects hunusable⟩

end Command

end UseSites
