import Mathlib
import UseSites.Proofs.Files.Discovery
import UseSites.Proofs.Project.Arrival
import UseSites.Proofs.Report.Recount
import UseSites.Proofs.Use.Mentions
/-!
# What a report says of each file

A file of a project is out of scope, or it has a flaw, or it is scanned: `group` decides which, from the path
and the content of the file alone. A report has one list for each group. `Accounts` says what these lists are,
file by file in the order of discovery, and `accounts_of_report` that every search of a project that ends with
a report accounts for its files, however many workers there are.

Two orders meet here: discovery sorts paths by their texts, and the report sorts references by the texts of
their files first. So the references of a report are those of one file after the other, and only inside a file
are they put in order.
-/

namespace UseSites

namespace Search

variable {search : Search} {reads : Reads} {disturbances : Disturbances} {disk : Disk}

inductive Group where
  | outOfScope | failed | scanned
  deriving DecidableEq, Repr

def looksAt (search : Search) (file : Path) : Bool := (search.relative? file).any search.covers

def categoryOf (search : Search) (file : Path) : Category :=
  .ofPath (placeOf ((search.relative? file).getD ""))

def group (search : Search) (reads : Reads) (file : Path) : Group :=
  if search.looksAt file then
    match Source.load reads search.settings.strict file with
    | .error _ => .failed
    | .ok _ => .scanned
  else .outOfScope

/-- The references of a file that can be loaded, by line, rank of the role and name of the role. -/
def sortedReferences (search : Search) (reads : Reads) (file : Path) : List Reference :=
  match Source.load reads search.settings.strict file with
  | .error _ => []
  | .ok source => Reference.sortedInFile (search.references (search.categoryOf file) source)

/-- A failure that names a file and the flaw for which it cannot be loaded. -/
def IsFailureOf (search : Search) (reads : Reads) (file : Path) (failure : Failure) : Prop :=
  failure.path = file.toString
    ∧ ∃ flaw, Source.load reads search.settings.strict file = .error flaw ∧ failure.reason = flaw.reason

/-! ### One file -/

/-- A file out of scope is not read. -/
theorem searchFile_of_looksAt_eq_false {file : Path} (hbelow : (search.relative? file).isSome = true)
    (hlooks : search.looksAt file = false) :
    search.searchFile reads disturbances file = .ok ⟨file, .outOfScope⟩ := by
  obtain ⟨relative, hrelative⟩ := Option.isSome_iff_exists.1 hbelow
  rw [looksAt, hrelative] at hlooks
  simp only [searchFile, hrelative]
  exact if_neg (Bool.eq_false_iff.1 hlooks)

theorem searchFile_of_looksAt {file : Path} (hlooks : search.looksAt file = true) :
    search.searchFile reads disturbances file
      = search.searchInScope reads disturbances (search.categoryOf file) file := by
  rw [looksAt, Option.any_eq_true] at hlooks
  obtain ⟨relative, hrelative, hcovers⟩ := hlooks
  simp only [searchFile, categoryOf, hrelative, Option.getD_some]
  exact if_pos hcovers

theorem Finds.group_cases {file : Path} {searched : Searched} (h : search.Finds reads file searched) :
    (search.group reads file = .outOfScope ∧ searched = ⟨file, .outOfScope⟩)
      ∨ (∃ flaw, Source.load reads search.settings.strict file = .error flaw
        ∧ search.group reads file = .failed ∧ searched = ⟨file, .failed flaw⟩)
      ∨ ∃ source, Source.load reads search.settings.strict file = .ok source
        ∧ search.group reads file = .scanned
        ∧ searched = ⟨file, .found (search.references (search.categoryOf file) source)⟩ := by
  cases h with
  | outOfScope hrelative hcovers =>
    refine Or.inl ⟨?_, rfl⟩
    simp [group, looksAt, hrelative, hcovers]
  | failed hrelative hcovers hload =>
    refine Or.inr (Or.inl ⟨_, hload, ?_, rfl⟩)
    simp [group, looksAt, hrelative, hcovers, hload]
  | found hrelative hcovers hload =>
    refine Or.inr (Or.inr ⟨_, hload, ?_, ?_⟩)
    · simp [group, looksAt, hrelative, hcovers, hload]
    · rw [categoryOf, hrelative, Option.getD_some]

theorem isOutOfScope_of_finds {file : Path} {searched : Searched} (h : search.Finds reads file searched) :
    searched.isOutOfScope = decide (search.group reads file = .outOfScope) := by
  rcases h.group_cases with ⟨hgroup, rfl⟩ | ⟨flaw, -, hgroup, rfl⟩ | ⟨source, -, hgroup, rfl⟩ <;> rw [hgroup] <;> rfl

theorem failure?_of_finds {file : Path} {searched : Searched} (h : search.Finds reads file searched) :
    (search.group reads file = .failed
        ∧ ∃ failure, searched.failure? = some failure ∧ search.IsFailureOf reads file failure)
      ∨ (search.group reads file ≠ .failed ∧ searched.failure? = none) := by
  rcases h.group_cases with ⟨hgroup, rfl⟩ | ⟨flaw, hload, hgroup, rfl⟩ | ⟨source, -, hgroup, rfl⟩ <;> rw [hgroup]
  · exact Or.inr ⟨by decide, rfl⟩
  · exact Or.inl ⟨rfl, _, rfl, rfl, flaw, hload, rfl⟩
  · exact Or.inr ⟨by decide, rfl⟩

theorem sortedInFile_of_finds {file : Path} {searched : Searched} (h : search.Finds reads file searched) :
    Reference.sortedInFile searched.references
      = if search.group reads file = .scanned then search.sortedReferences reads file else [] := by
  rcases h.group_cases with ⟨hgroup, rfl⟩ | ⟨flaw, -, hgroup, rfl⟩ | ⟨source, hload, hgroup, rfl⟩ <;> rw [hgroup]
  · exact List.mergeSort_nil
  · exact List.mergeSort_nil
  · rw [if_pos rfl]
    unfold sortedReferences
    rw [hload]
    rfl

theorem looksAt_eq (search : Search) (reads : Reads) (file : Path) :
    search.looksAt file = decide (search.group reads file ≠ .outOfScope) := by
  unfold group
  cases search.looksAt file with
  | false => rfl
  | true => cases Source.load reads search.settings.strict file <;> rfl

/-- A file in scope is scanned if it is text and, in a strict search, a program. -/
theorem group_of_text {file : Path} {dialect : Dialect} {text : String} (hlooks : search.looksAt file = true)
    (hdialect : Dialect.ofPath? file = some dialect) (hread : reads file = .ok text.toUTF8)
    (hpasses : search.settings.strict = false ∨ (Grammar.parse dialect text).flawed = false) :
    search.group reads file = .scanned := by
  have hload := (Source.load_of_text hdialect hread search.settings.strict).trans (Source.ofTree_of_passes hpasses)
  unfold group
  rw [if_pos hlooks, hload]

/-- The references in one file tell their places apart. -/
theorem nodup_place_references (search : Search) (category : Category) (source : Source) :
    ((search.references category source).map Reference.place).Nodup := by
  rw [references, List.map_map]
  refine List.Nodup.map_on (fun first _ second _ hplace => ?_) (Outline.uses_nodup _ _)
  obtain ⟨hline, hrole⟩ := Reference.of_place_eq hplace
  exact Use.mk.injEq .. ▸ ⟨hline, hrole⟩

/-! ### All files -/

variable {searched : List Searched}

theorem outOfScope_of_finds (hfinds : ∀ a ∈ searched, search.Finds reads a.file a) :
    (searched.filter Searched.isOutOfScope).map Searched.file
      = (searched.map Searched.file).filter (search.group reads · = .outOfScope) := by
  rw [List.filter_map]
  exact congrArg _ (List.filter_congr fun a ha => isOutOfScope_of_finds (hfinds a ha))

theorem failures_of_finds (hfinds : ∀ a ∈ searched, search.Finds reads a.file a) :
    List.Forall₂ (search.IsFailureOf reads)
      ((searched.map Searched.file).filter (search.group reads · = .failed))
      (searched.filterMap Searched.failure?) := by
  induction searched with
  | nil => exact .nil
  | cons first rest ih =>
    obtain ⟨hfirst, hrest⟩ := List.forall_mem_cons.1 hfinds
    rcases failure?_of_finds hfirst with ⟨hgroup, failure, hfailure, hown⟩ | ⟨hgroup, hnone⟩
    · simpa [hgroup, hfailure] using And.intro hown (ih hrest)
    · simpa [hgroup, hnone] using ih hrest

theorem sortedReferences_of_finds (hfinds : ∀ a ∈ searched, search.Finds reads a.file a) :
    (searched.flatMap fun a => Reference.sortedInFile a.references)
      = ((searched.map Searched.file).filter (search.group reads · = .scanned)).flatMap
        (search.sortedReferences reads) := by
  induction searched with
  | nil => rfl
  | cons first rest ih =>
    obtain ⟨hfirst, hrest⟩ := List.forall_mem_cons.1 hfinds
    rw [List.flatMap_cons, ih hrest, sortedInFile_of_finds hfirst]
    by_cases hgroup : search.group reads first.file = .scanned <;> simp [hgroup]

/-- What a report says of some files, each group of them in the order of the list. -/
structure Accounts (search : Search) (reads : Reads) (listed : List Path) (report : Report) : Prop where
  files : report.files = listed
  /-- The references of one scanned file after the other, sorted in each file. -/
  references : report.references
    = (listed.filter (search.group reads · = .scanned)).flatMap (search.sortedReferences reads)
  references_increase : report.references.Pairwise fun a b => a.key < b.key
  references_nodup : (report.references.map fun reference => (reference.file, reference.line, reference.role)).Nodup
  /-- One failure for each file that failed. -/
  failures : List.Forall₂ (search.IsFailureOf reads) (listed.filter (search.group reads · = .failed)) report.failures
  failures_increase : report.failures.Pairwise fun a b => a.path < b.path
  outOfScope : report.outOfScope = listed.filter (search.group reads · = .outOfScope)
  outOfScope_increase : report.outOfScope.Pairwise fun a b => a.toString < b.toString
  summary : report.summary.Recounts report.references

section Report

variable {files : List Path} {others : List Searched}

theorem sorted_of_finds (hincrease : files.Pairwise fun a b => a.toString < b.toString)
    (hperm : others.Perm searched) (hfiles : searched.map Searched.file = files)
    (hfinds : ∀ a ∈ searched, search.Finds reads a.file a) :
    Reference.sorted (others.flatMap Searched.references)
        = (files.filter (search.group reads · = .scanned)).flatMap (search.sortedReferences reads)
      ∧ (Reference.sorted (others.flatMap Searched.references)).Pairwise fun a b => a.key < b.key := by
  have htexts : searched.Pairwise fun a b => a.file.toString < b.file.toString := by
    rw [← hfiles, List.pairwise_map] at hincrease
    exact hincrease
  have hfile : ∀ a ∈ searched, ∀ reference ∈ a.references, reference.file = a.file.toString := by
    intro a ha reference hreference
    rcases (hfinds a ha).references_eq with hnone | ⟨category, source, hpath, hsome⟩
    · rw [hnone] at hreference
      cases hreference
    · rw [hsome] at hreference
      rw [file_of_mem_references hreference, hpath]
  have hplaces : ∀ a ∈ searched, (a.references.map Reference.place).Nodup := by
    intro a ha
    rcases (hfinds a ha).references_eq with hnone | ⟨category, source, -, hsome⟩
    · rw [hnone]
      exact List.nodup_nil
    · rw [hsome]
      exact nodup_place_references search category source
  have hsorted := Reference.sorted_flatMap (hperm.flatMap_right Searched.references) htexts hfile hplaces
  rw [hsorted]
  refine ⟨?_, Reference.pairwise_flatMap_sortedInFile htexts hfile hplaces⟩
  rw [← hfiles, sortedReferences_of_finds hfinds]

theorem pairwise_failures {failed : List Path} {failures : List Failure}
    (hincrease : failed.Pairwise fun a b => a.toString < b.toString)
    (hfailures : List.Forall₂ (search.IsFailureOf reads) failed failures) :
    failures.Pairwise fun a b => a.path < b.path := by
  have hpaths : failures.map Failure.path = failed.map Path.toString := by
    induction hfailures with
    | nil => rfl
    | cons hfirst hrest ih => rw [List.map_cons, List.map_cons, hfirst.1, ih (List.pairwise_cons.1 hincrease).2]
  rw [← List.pairwise_map (R := (· < ·)), hpaths, List.pairwise_map]
  exact hincrease

theorem accounts_of_ofSearched {report : Report} (hincrease : files.Pairwise fun a b => a.toString < b.toString)
    (hperm : others.Perm searched) (hfiles : searched.map Searched.file = files)
    (hfinds : ∀ a ∈ searched, search.Finds reads a.file a) (hreport : Report.ofSearched files others = .ok report) :
    search.Accounts reads files report := by
  obtain ⟨hreferences, hstrict⟩ := sorted_of_finds hincrease hperm hfiles hfinds
  have hfailures := failures_of_finds hfinds
  rw [hfiles] at hfailures
  have hfailuresIncrease := pairwise_failures (hincrease.filter _) hfailures
  have hsortedFailures : Report.sortedFailures (others.filterMap Searched.failure?)
      = searched.filterMap Searched.failure? :=
    mergeSort_eq_of_strict Failure.path (fun _ _ => not_decide_lt_iff) (hperm.filterMap _) hfailuresIncrease
  have hout := (hperm.filter Searched.isOutOfScope).map Searched.file
  rw [outOfScope_of_finds hfinds, hfiles] at hout
  have hsortedOut : Report.sortedPaths ((others.filter Searched.isOutOfScope).map Searched.file)
      = files.filter (search.group reads · = .outOfScope) :=
    mergeSort_eq_of_strict Path.toString (fun _ _ => not_decide_lt_iff) hout (hincrease.filter _)
  simp only [Report.ofSearched] at hreport
  split at hreport
  · cases hreport
  · cases hreport
    exact
      { files := rfl
        references := hreferences
        references_increase := hstrict
        references_nodup := Reference.nodup_of_pairwise_key hstrict
        failures := hsortedFailures ▸ hfailures
        failures_increase := hsortedFailures ▸ hfailuresIncrease
        outOfScope := hsortedOut
        outOfScope_increase := hsortedOut ▸ hincrease.filter _
        summary := Summary.recounts_ofReferences _ }

/-- The outcome of a search that no file stops is an error when there are files in scope and all of them failed. -/
theorem ofSearched_eq_error_iff {abort : Abort} (hperm : others.Perm searched)
    (hfiles : searched.map Searched.file = files) (hfinds : ∀ a ∈ searched, search.Finds reads a.file a) :
    Report.ofSearched files others = .error abort ↔
      0 < (files.filter search.looksAt).length
        ∧ (∀ file ∈ files, search.looksAt file = true → search.group reads file = .failed)
        ∧ abort = .allFailed (files.filter search.looksAt).length := by
  have hscope : (others.filter (!·.isOutOfScope)).length = (files.filter search.looksAt).length := by
    have hlooks : searched.filter (!·.isOutOfScope) = searched.filter fun a => search.looksAt a.file := by
      refine List.filter_congr fun a ha => ?_
      rw [isOutOfScope_of_finds (hfinds a ha), looksAt_eq search reads, ← decide_not]
    rw [(hperm.filter _).length_eq, hlooks, ← hfiles, List.filter_map, List.length_map]
    rfl
  have hfailed : (others.filterMap Searched.failure?).length
      = ((files.filter search.looksAt).filter (search.group reads · = .failed)).length := by
    rw [(hperm.filterMap _).length_eq, ← (failures_of_finds hfinds).length_eq, hfiles, List.filter_filter]
    refine congrArg _ (List.filter_congr fun file _ => ?_)
    rw [looksAt_eq search reads]
    cases search.group reads file <;> rfl
  have hall : ((files.filter search.looksAt).filter (search.group reads · = .failed)).length
      = (files.filter search.looksAt).length
        ↔ ∀ file ∈ files, search.looksAt file = true → search.group reads file = .failed := by
    rw [List.length_filter_eq_length_iff]
    simp only [List.mem_filter, decide_eq_true_eq, and_imp]
  simp only [Report.ofSearched]
  rw [hscope, hfailed, ← hall]
  split
  · rename_i hfail
    constructor
    · intro h
      cases h
      exact ⟨hfail.1, hfail.2, rfl⟩
    · rintro ⟨-, -, rfl⟩
      rfl
  · rename_i hreport
    constructor
    · intro h
      cases h
    · rintro ⟨hpos, hfailing, -⟩
      exact absurd ⟨hpos, hfailing⟩ hreport

end Report

/-! ### Searching a whole project -/

theorem isSome_relative?_of_mem_discover {file : Path} (hfile : file ∈ search.discover disk) :
    (search.relative? file).isSome = true := by
  rw [relative?, Option.isSome_map]
  exact isSome_relativeTo?_of_mem_discover hfile

/-- A search of a project that ends with a report accounts for the files of the project. -/
theorem accounts_of_report {arrived : List (Except Abort Searched)} {report : Report}
    (hnames : Listing.allWellNamed (disk.contents search.root.segments) = true)
    (harrives : search.Arrives (search.outcomes reads disturbances (search.discover disk)) arrived)
    (hreport : Report.ofFinished (search.discover disk) arrived = .ok report) :
    search.Accounts reads (search.discover disk) report := by
  obtain ⟨searched, others, rfl, hperm, hfiles, hfinds⟩ :=
    exists_finds_of_arrives (searchFile_eq_ok_of_report harrives hreport) harrives
  rw [Report.ofFinished_ok] at hreport
  exact accounts_of_ofSearched (pairwise_discover hnames) hperm hfiles hfinds hreport

/-- A search that no file stops ends with a report if it scans one of them. -/
theorem exists_report_of_scanned {files : List Path} {arrived : List (Except Abort Searched)} {file : Path}
    (hquiet : ∀ file ∈ files, ∃ searched, search.searchFile reads disturbances file = .ok searched)
    (harrives : search.Arrives (search.outcomes reads disturbances files) arrived) (hfile : file ∈ files)
    (hscanned : search.group reads file = .scanned) : ∃ report, Report.ofFinished files arrived = .ok report := by
  obtain ⟨searched, others, rfl, hperm, hfiles, hfinds⟩ := exists_finds_of_arrives hquiet harrives
  rw [Report.ofFinished_ok]
  cases houtcome : Report.ofSearched files others with
  | ok report => exact ⟨report, rfl⟩
  | error abort =>
    obtain ⟨-, hfailed, -⟩ := (ofSearched_eq_error_iff hperm hfiles hfinds).1 houtcome
    have hlooks : search.looksAt file = true := by
      rw [looksAt_eq search reads, hscanned]
      decide
    rw [hfailed file hfile hlooks] at hscanned
    cases hscanned

theorem searchFile_eq_ok_of_mem_discover {file : Path} (hfile : file ∈ search.discover disk) :
    ∃ searched, search.searchFile reads {} file = .ok searched :=
  exists_searchFile_eq_ok (isSome_relative?_of_mem_discover hfile) rfl rfl

/-- A search of a project in which no file stops it fails when there are files in scope and all of them failed,
and says how many they are. Otherwise it ends with a report that accounts for every file of the project. -/
theorem discovered_files_accounted {arrived : List (Except Abort Searched)}
    (hnames : Listing.allWellNamed (disk.contents search.root.segments) = true)
    (hquiet : ∀ file ∈ search.discover disk, ∃ searched, search.searchFile reads disturbances file = .ok searched)
    (harrives : search.Arrives (search.outcomes reads disturbances (search.discover disk)) arrived) :
    (∀ text, (Report.ofFinished (search.discover disk) arrived).mapError Abort.message = .error text ↔
        0 < ((search.discover disk).filter search.looksAt).length
          ∧ (∀ file ∈ search.discover disk, search.looksAt file = true → search.group reads file = .failed)
          ∧ text = "All " ++ toString ((search.discover disk).filter search.looksAt).length
              ++ " source files failed to parse")
      ∧ ((∃ abort, Report.ofFinished (search.discover disk) arrived = .error abort)
        ∨ ∃ report, Report.ofFinished (search.discover disk) arrived = .ok report
          ∧ search.Accounts reads (search.discover disk) report) := by
  obtain ⟨searched, others, rfl, hperm, hfiles, hfinds⟩ := exists_finds_of_arrives hquiet harrives
  rw [Report.ofFinished_ok]
  have herror (abort : Abort) := @ofSearched_eq_error_iff _ _ _ _ _ abort hperm hfiles hfinds
  cases houtcome : Report.ofSearched (search.discover disk) others with
  | ok report =>
    refine ⟨fun text => ⟨fun h => (by cases h), ?_⟩, Or.inr ⟨report, rfl, ?_⟩⟩
    · rintro ⟨hpos, hfailed, -⟩
      rw [(herror _).2 ⟨hpos, hfailed, rfl⟩] at houtcome
      cases houtcome
    · exact accounts_of_ofSearched (pairwise_discover hnames) hperm hfiles hfinds houtcome
  | error abort =>
    obtain ⟨hpos, hfailed, rfl⟩ := (herror abort).1 houtcome
    refine ⟨fun text => ⟨fun h => ⟨hpos, hfailed, (Except.error.inj h).symm⟩, ?_⟩, Or.inl ⟨_, rfl⟩⟩
    rintro ⟨-, -, rfl⟩
    rfl

/-- A project with a file that is scanned, one without a grammar and one of another domain. -/
def mixedDisk : Disk :=
  ⟨[("project", .folder
    [("a.ts", .file "foo();".toUTF8), ("notes.txt", .file "foo".toUTF8),
      ("domains", .folder [("billing", .folder [("b.ts", .file "foo();".toUTF8)])])])]⟩

def mixed : Search :=
  { sample with
    settings := { sample.settings with filter := "orders", workers := 4, strict := false }
    includes := [⟨false, .everywhere⟩] }

theorem mem_discover_mixed : Path.ofString "/project/a.ts" ∈ mixed.discover mixedDisk :=
  mem_discover.2 ⟨["a.ts"], by decide, by decide⟩

theorem group_mixed : mixed.group sampleReads (Path.ofString "/project/a.ts") = .scanned := by
  have hlooks : mixed.looksAt (Path.ofString "/project/a.ts") = true := by decide
  have hdialect : Dialect.ofPath? (Path.ofString "/project/a.ts") = some .typescript := by decide
  have hread : sampleReads (Path.ofString "/project/a.ts") = .ok "foo();".toUTF8 := rfl
  exact group_of_text hlooks hdialect hread (Or.inl rfl)

theorem mixed_accounted :
    ∃ report, Report.ofFinished (mixed.discover mixedDisk)
        (mixed.outcomes sampleReads {} (mixed.discover mixedDisk)).reverse = .ok report
      ∧ mixed.Accounts sampleReads (mixed.discover mixedDisk) report := by
  have hnames : Listing.allWellNamed (mixedDisk.contents mixed.root.segments) = true := by decide
  have hquiet : ∀ file ∈ mixed.discover mixedDisk, ∃ searched, mixed.searchFile sampleReads {} file = .ok searched :=
    fun file hfile => searchFile_eq_ok_of_mem_discover hfile
  have hworkers : 1 < mixed.settings.workers := by decide
  have harrives : mixed.Arrives (mixed.outcomes sampleReads {} (mixed.discover mixedDisk))
      (mixed.outcomes sampleReads {} (mixed.discover mixedDisk)).reverse := arrives_reverse hworkers _
  obtain ⟨report, hreport⟩ := exists_report_of_scanned hquiet harrives mem_discover_mixed group_mixed
  obtain ⟨-, ⟨abort, habort⟩ | hfinished⟩ := discovered_files_accounted hnames hquiet harrives
  · rw [hreport] at habort
    cases habort
  · exact hfinished

end Search

end UseSites
