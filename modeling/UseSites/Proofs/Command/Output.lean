import Mathlib
import UseSites.Command.Run
import UseSites.Proofs.Files.Written
import UseSites.Proofs.Project.Finds
import UseSites.Proofs.Report.Text
import UseSites.Proofs.Settings.Loading
/-!
# The result of a search

A search that does not come to its end leaves nothing behind that could be taken for a result: no output, and the
disk as it was. One that does leaves its result as a whole and in one place. `Leaves` says so in two cases, and the
lemmas about it follow the command from the inside out. Nothing is assumed of the course of the search, so the files
may be finished in any order and disturbed in any way; `run` is the case of files that are taken in their order.
-/

namespace UseSites

namespace Command

variable {surroundings : Surroundings} {course : Course} {arguments : Arguments} {said : List Diagnostic}
  {report : Report} {answer : Answer}

/-- The report that a search comes to: it has been set up, and its course ends with the report. -/
def Yields (surroundings : Surroundings) (course : Course) (arguments : Arguments) (report : Report) : Prop :=
  ∃ loaded settings search,
    surroundings.loadSettings (Path.ofString arguments.root) arguments.given = (loaded, .ok settings)
      ∧ Search.ofSettings loaded settings = .ok search
      ∧ course search loaded.reads (search.discover loaded.disk) = .ok report

def Arguments.textOf (arguments : Arguments) (report : Report) : String :=
  if arguments.withSummary then report.textWithSummary else report.text

def Arguments.resultOf (arguments : Arguments) (report : Report) : String := arguments.textOf report ++ "\n"

/-- No result, on standard output or on the disk. -/
structure Answer.Withholds (answer : Answer) (surroundings : Surroundings) : Prop where
  output : answer.output = ""
  disk : answer.surroundings.disk = surroundings.disk

/-- A whole result in the one place that was asked for. -/
structure Answer.Delivers (answer : Answer) (surroundings : Surroundings) (arguments : Arguments) (report : Report) :
    Prop where
  escape : answer.escape = none
  isJson : ∃ json, Json.read? (arguments.textOf report) = some json
  printed : arguments.output = none →
    answer.output = arguments.resultOf report ∧ answer.surroundings.disk = surroundings.disk
  written : ∀ name, arguments.output = some name →
    answer.output = "" ∧ answer.surroundings.disk.read surroundings.folder (Path.ofString name)
      = .ok (arguments.resultOf report).toUTF8

/-- The file that is named for the result of a search, if any, can be written. -/
def CanDeliver (surroundings : Surroundings) (arguments : Arguments) (report : Report) : Prop :=
  ∀ name, arguments.output = some name → ∃ disk, surroundings.disk.write surroundings.folder (Path.ofString name)
    (arguments.resultOf report).toUTF8 = .ok disk

theorem exists_read?_textOf (arguments : Arguments) (report : Report) :
    ∃ json, Json.read? (arguments.textOf report) = some json := by
  unfold Arguments.textOf
  split
  · exact ⟨_, report.read?_textWithSummary⟩
  · exact ⟨_, report.read?_text⟩

theorem Exit.code_eq_zero_iff {exit : Exit} : exit.code = 0 ↔ exit = .success := by
  cases exit <;> decide

/-! ### From the inside out -/

/-- What is left behind when a search may come to certain reports. -/
inductive Leaves (surroundings : Surroundings) (arguments : Arguments) (reached : Report → Prop) (answer : Answer) :
    Prop where
  | nothing (hexit : answer.exit ≠ .success) (hwithholds : answer.Withholds surroundings)
  | whole {report : Report} (hexit : answer.exit = .success) (hreached : reached report)
      (hdelivers : answer.Delivers surroundings arguments report)

theorem Leaves.of_sameDisk {loaded : Surroundings} {reached : Report → Prop} (hsame : surroundings.SameDisk loaded)
    (h : Leaves loaded arguments reached answer) : Leaves surroundings arguments reached answer := by
  cases h with
  | nothing hexit hwithholds => exact .nothing hexit ⟨hwithholds.output, hwithholds.disk.trans hsame.disk⟩
  | whole hexit hreached hdelivers =>
    refine .whole hexit hreached ⟨hdelivers.escape, hdelivers.isJson, fun hnone => ?_, fun name hname => ?_⟩
    · obtain ⟨houtput, hdisk⟩ := hdelivers.printed hnone
      exact ⟨houtput, hdisk.trans hsame.disk⟩
    · exact hsame.folder ▸ hdelivers.written name hname

theorem leaves_deliver {reached : Report → Prop} (hreached : reached report) :
    Leaves surroundings arguments reached (deliver arguments surroundings said (arguments.textOf report)) := by
  have hjson := exists_read?_textOf arguments report
  unfold deliver
  cases hname : arguments.output with
  | none =>
    refine .whole rfl hreached ⟨rfl, hjson, fun _ => ⟨rfl, rfl⟩, fun other hother => ?_⟩
    cases hname.symm.trans hother
  | some name =>
    dsimp only
    cases hwrite : surroundings.disk.write surroundings.folder (Path.ofString name)
        (arguments.textOf report ++ "\n").toUTF8 with
    | error trouble => exact .nothing nofun ⟨rfl, rfl⟩
    | ok disk =>
      refine .whole rfl hreached ⟨rfl, hjson, fun hnone => ?_, fun other hother => ⟨rfl, ?_⟩⟩
      · cases hname.symm.trans hnone
      · obtain rfl := Option.some.inj (hname.symm.trans hother)
        exact Disk.read_of_write hwrite

theorem leaves_runSearch {search : Search} {reached : Report → Prop}
    (hreached : ∀ report, course search surroundings.reads (search.discover surroundings.disk) = .ok report →
      reached report) :
    Leaves surroundings arguments reached (runSearch arguments surroundings course said search) := by
  unfold runSearch
  dsimp only
  cases hcourse : course search surroundings.reads (search.discover surroundings.disk) with
  | ok report => exact leaves_deliver (hreached report hcourse)
  | error abort => cases abort <;> exact .nothing nofun ⟨rfl, rfl⟩

theorem leaves_search :
    Leaves surroundings arguments (Yields surroundings course arguments) (search surroundings course arguments) := by
  have hsame := @Surroundings.sameDisk_loadSettings surroundings (Path.ofString arguments.root) arguments.given
  unfold search
  dsimp only
  cases hload : surroundings.loadSettings (Path.ofString arguments.root) arguments.given with
  | mk loaded result =>
    rw [hload] at hsame
    refine .of_sameDisk hsame ?_
    cases result with
    | error obstacle => cases obstacle <;> exact .nothing nofun ⟨rfl, rfl⟩
    | ok settings =>
      dsimp only
      cases hsearch : Search.ofSettings loaded settings with
      | error obstacle => exact .nothing nofun ⟨rfl, rfl⟩
      | ok search => exact leaves_runSearch fun report hreport => ⟨loaded, settings, search, hload, hsearch, hreport⟩

/-! ### Searches that come to their end -/

theorem Yields.unique {other : Report} (h : Yields surroundings course arguments report)
    (hother : Yields surroundings course arguments other) : other = report := by
  obtain ⟨loaded, settings, search, hload, hsearch, hcourse⟩ := h
  obtain ⟨loaded', settings', search', hload', hsearch', hcourse'⟩ := hother
  obtain ⟨rfl, hsettings⟩ := Prod.mk.inj (hload.symm.trans hload')
  obtain rfl := Except.ok.inj hsettings
  obtain rfl := Except.ok.inj (hsearch.symm.trans hsearch')
  exact Except.ok.inj (hcourse'.symm.trans hcourse)

theorem exit_deliver (hcan : CanDeliver surroundings arguments report) :
    (deliver arguments surroundings said (arguments.textOf report)).exit = .success := by
  unfold deliver
  cases hname : arguments.output with
  | none => rfl
  | some name =>
    obtain ⟨disk, hwrite⟩ := hcan name hname
    dsimp only
    rw [Arguments.resultOf] at hwrite
    rw [hwrite]

theorem exit_search_of_yields (h : Yields surroundings course arguments report)
    (hcan : CanDeliver surroundings arguments report) : (search surroundings course arguments).exit = .success := by
  obtain ⟨loaded, settings, goal, hload, hgoal, hcourse⟩ := h
  have hsame := @Surroundings.sameDisk_loadSettings surroundings (Path.ofString arguments.root) arguments.given
  rw [hload] at hsame
  unfold search
  rw [hload]
  dsimp only
  rw [hgoal]
  dsimp only
  unfold runSearch
  dsimp only
  rw [hcourse]
  refine exit_deliver fun name hname => ?_
  rw [hsame.disk, hsame.folder]
  exact hcan name hname

/-- Whatever stands in the way of a search and whatever course it takes: unless the command succeeds, it prints no
result and leaves the disk as it was. When it succeeds, the result is the text of the report and a line end, and the
text is one value of JSON; it is printed, or it is what is read from the file that was named for it. And it succeeds
when the search comes to its end and its result can be written. -/
theorem result_whole_or_absent {words : List String} (hwords : Request.ofWords? words = some (.search arguments)) :
    ((runBy surroundings course words).exit.code ≠ 0 ∨ (runBy surroundings course words).escape ≠ none →
        (runBy surroundings course words).Withholds surroundings)
      ∧ ((runBy surroundings course words).exit.code = 0 → ∃ report, Yields surroundings course arguments report
        ∧ (runBy surroundings course words).Delivers surroundings arguments report)
      ∧ ∀ report, Yields surroundings course arguments report → CanDeliver surroundings arguments report →
        (runBy surroundings course words).exit.code = 0 := by
  rw [runBy_eq_search hwords, ne_eq, Exit.code_eq_zero_iff]
  refine ⟨?_, ?_, fun report => exit_search_of_yields⟩
  · intro hfailed
    cases @leaves_search surroundings course arguments with
    | nothing _ hwithholds => exact hwithholds
    | whole hexit _ hdelivers =>
      rcases hfailed with hcode | hescaped
      · exact absurd hexit hcode
      · exact absurd hdelivers.escape hescaped
  · intro hsuccess
    cases @leaves_search surroundings course arguments with
    | nothing hexit _ => exact absurd hsuccess hexit
    | whole _ hyields hdelivers => exact ⟨_, hyields, hdelivers⟩

/-- A project that calls the symbol, and an older result. -/
def callProject : Surroundings where
  disk := ⟨[("project", .folder [("a.ts", .file "foo();".toUTF8)]), ("uses.json", .file "old".toUTF8)]⟩
  environment := .empty
  folder := []

def callSearch : Search where
  settings :=
    { root := Path.ofString "/project", symbol := "foo", filter := "database", includes := Settings.defaultIncludes,
      excludes := Settings.defaultExcludes, window := ⟨1, 1⟩, workers := 4, strict := true }
  root := Path.ofString "/project"
  includes := ((Ignore.Pattern.ofLines Settings.defaultIncludes).toOption).getD []
  excludes := ((Ignore.Pattern.ofLines Settings.defaultExcludes).toOption).getD []

def callFile : Path := Path.ofString "/project/a.ts"

def callReference : Reference where
  file := "/project/a.ts"
  line := 1
  role := .directCall
  category := .internal
  context := "> 1: foo();"

def callReport : Report where
  files := [callFile]
  references := [callReference]
  failures := []
  outOfScope := []
  finished := [callFile]

def callArguments : Arguments where
  root := "project"
  symbol := "foo"
  domain := "database"
  output := some "uses.json"

theorem discover_callProject : callSearch.discover callProject.disk = [callFile] := by
  have hfound : Listing.filesAmong (fun segments => callSearch.prunes (Path.joinSegments segments))
      (fun segments => callSearch.keeps (Path.joinSegments segments)) []
      (callProject.disk.contents callSearch.root.segments) = [["a.ts"]] := by decide
  rw [Search.discover, discover, hfound]
  exact List.mergeSort_singleton _

theorem searchFile_callFile :
    callSearch.searchFile callProject.reads {} callFile = .ok ⟨callFile, .found [callReference]⟩ := by
  have hrelative : callSearch.relative? callFile = some "a.ts" := by decide
  have hcategory : Category.ofPath (Search.placeOf "a.ts") = .internal := by decide
  have hdialect : Dialect.ofPath? callFile = some .typescript := by decide
  have hread : callProject.reads callFile = .ok "foo();".toUTF8 := by cbv
  have hsound : (Grammar.parse .typescript "foo();").flawed = false := by decide +kernel
  have huses : (Grammar.parse .typescript "foo();").outline.uses "foo" = [⟨1, .directCall⟩] := by decide +kernel
  have hload : Source.load callProject.reads true callFile
      = .ok ⟨callFile, "foo();", (Grammar.parse .typescript "foo();").outline⟩ :=
    (Source.load_of_text hdialect hread true).trans (Source.ofTree_of_passes (Or.inr hsound))
  have hreferences : callSearch.references .internal
      ⟨callFile, "foo();", (Grammar.parse .typescript "foo();").outline⟩ = [callReference] := by
    rw [Search.references, show callSearch.settings.symbol = "foo" from rfl, huses]
    decide
  unfold Search.searchFile Search.searchInScope
  rw [hrelative]
  dsimp only
  rw [if_pos (by decide), show callSearch.settings.strict = true from rfl, hload, hcategory]
  dsimp only
  rw [hreferences]

theorem run_callFile : callSearch.run callProject.reads {} [callFile] = .ok callReport := by
  have houtcomes : callSearch.outcomes callProject.reads {} [callFile] = [.ok ⟨callFile, .found [callReference]⟩] :=
    congrArg (fun searched => [searched]) searchFile_callFile
  have hfailures : [Searched.mk callFile (.found [callReference])].filterMap Searched.failure? = [] := rfl
  rw [Search.run, houtcomes]
  change Report.ofSearched [callFile] [⟨callFile, .found [callReference]⟩] = .ok callReport
  unfold Report.ofSearched
  rw [hfailures]
  simp [Searched.isOutOfScope, Searched.references, Reference.sorted, Report.sortedFailures, Report.sortedPaths,
    callReport]

theorem yields_callProject : Yields callProject (Course.inOrder {}) callArguments callReport := by
  have hproject : callProject.IsProject (Path.ofString "project") (Path.ofString "/project") :=
    ⟨["project"], _, ⟨Path.ofString "project", rfl, by decide, by cbv⟩, rfl, by cbv, List.not_mem_nil⟩
  have hroot : callProject.projectRoot (Path.ofString "/project") = .ok (Path.ofString "/project") :=
    Surroundings.projectRoot_eq_ok_iff.2
      ⟨["project"], _, ⟨Path.ofString "/project", rfl, by decide, by cbv⟩, rfl, by cbv, List.not_mem_nil⟩
  have hbuild : Settings.build callProject.environment (Path.ofString "/project") callArguments.given
      = .ok callSearch.settings := rfl
  have hload : callProject.loadSettings (Path.ofString "project") callArguments.given
      = (callProject, .ok callSearch.settings) :=
    Surroundings.loadSettings_of_built hproject (by cbv) (Settings.build_eq_ok_iff.1 hbuild)
  refine ⟨callProject, callSearch.settings, callSearch, hload, ?_, ?_⟩
  · unfold Search.ofSettings
    rw [show callSearch.settings.root = Path.ofString "/project" from rfl, hroot]
    rfl
  · rw [discover_callProject]
    exact run_callFile

/-- The older result gives way to the new one, which lists the call. -/
theorem result_callProject :
    (runBy callProject (Course.inOrder {}) ["project", "foo", "database", "--output", "uses.json"]).output = ""
      ∧ (runBy callProject (Course.inOrder {})
          ["project", "foo", "database", "--output", "uses.json"]).surroundings.disk.read [] (Path.ofString "uses.json")
        = .ok (callReport.text ++ "\n").toUTF8 := by
  have hwords : Request.ofWords? ["project", "foo", "database", "--output", "uses.json"]
      = some (.search callArguments) := by decide
  obtain ⟨-, hdelivers, hsucceeds⟩ := @result_whole_or_absent callProject (Course.inOrder {}) _ _ hwords
  have hwrite : callProject.disk.write [] (Path.ofString "uses.json") (callArguments.resultOf callReport).toUTF8
      = .ok ⟨[("project", .folder [("a.ts", .file "foo();".toUTF8)]),
        ("uses.json", .file (callArguments.resultOf callReport).toUTF8)]⟩ := by cbv
  have hcan : CanDeliver callProject callArguments callReport := by
    rintro name ⟨rfl⟩
    exact ⟨_, hwrite⟩
  obtain ⟨report, hyields, hdelivered⟩ := hdelivers (hsucceeds _ yields_callProject hcan)
  obtain rfl := yields_callProject.unique hyields
  exact hdelivered.written "uses.json" rfl

end Command

end UseSites
