import UseSites.Proofs.Project.Groups
/-!
# Searches that are disturbed

A disturbance stops a search only where the task of some file meets it: the file has to be in scope, and a scan is
disturbed only after the file has been loaded. `searchFile_eq_error_iff` says so of one file, and the section on a
whole search builds on it. When several files meet a disturbance, the order in which they are finished decides
which of them is named, so that nothing can be said but that it is one of them.

The flaw of a file is no disturbance. A file that has one is among the failures of the report.
-/

namespace UseSites

inductive Stage where
  | load | scan
  deriving DecidableEq, Repr

/-- What a disturbance at a stage stops a search with. -/
def Disturbance.abort (file : Path) : Stage → Disturbance → Abort
  | _, interrupt => .interrupted
  | .load, failure message => .loading file message
  | .scan, failure message => .scanning file message

namespace Search

variable {search : Search} {reads : Reads} {disturbances : Disturbances} {file : Path} {files : List Path}

inductive Meets (search : Search) (reads : Reads) (disturbances : Disturbances) (file : Path) :
    Stage → Disturbance → Prop where
  | load {disturbance : Disturbance} (hlooks : search.looksAt file = true)
      (hload : disturbances.onLoad file = some disturbance) : Meets search reads disturbances file .load disturbance
  | scan {disturbance : Disturbance} {source : Source} (hlooks : search.looksAt file = true)
      (hquiet : disturbances.onLoad file = none)
      (hsource : Source.load reads search.settings.strict file = .ok source)
      (hscan : disturbances.onScan file = some disturbance) : Meets search reads disturbances file .scan disturbance

/-! ### One file -/

theorem searchFile_of_meets {stage : Stage} {disturbance : Disturbance}
    (hmeets : search.Meets reads disturbances file stage disturbance) :
    search.searchFile reads disturbances file = .error (disturbance.abort file stage) := by
  cases hmeets with
  | load hlooks hload =>
    rw [searchFile_of_looksAt hlooks]
    unfold searchInScope
    rw [hload]
    cases disturbance <;> rfl
  | scan hlooks hquiet hsource hscan =>
    rw [searchFile_of_looksAt hlooks]
    unfold searchInScope
    rw [hquiet]
    dsimp only
    rw [hsource]
    dsimp only
    rw [hscan]
    cases disturbance <;> rfl

/-- A flaw is met before the scan and does not stop the search. -/
theorem searchFile_of_flaw {flaw : Flaw} (hlooks : search.looksAt file = true)
    (hquiet : disturbances.onLoad file = none)
    (hflaw : Source.load reads search.settings.strict file = .error flaw) :
    search.searchFile reads disturbances file = .ok ⟨file, .failed flaw⟩ := by
  rw [searchFile_of_looksAt hlooks]
  unfold searchInScope
  rw [hquiet]
  dsimp only
  rw [hflaw]

/-- Nothing but a disturbance that is met stops the search at a file below the root. -/
theorem meets_or_searchFile_eq_ok (hbelow : (search.relative? file).isSome = true) :
    (∃ stage disturbance, search.Meets reads disturbances file stage disturbance)
      ∨ ∃ searched, search.searchFile reads disturbances file = .ok searched := by
  cases hlooks : search.looksAt file with
  | false => exact Or.inr ⟨_, searchFile_of_looksAt_eq_false hbelow hlooks⟩
  | true =>
    cases hload : disturbances.onLoad file with
    | some disturbance => exact Or.inl ⟨.load, disturbance, .load hlooks hload⟩
    | none =>
      cases hsource : Source.load reads search.settings.strict file with
      | error flaw => exact Or.inr ⟨_, searchFile_of_flaw hlooks hload hsource⟩
      | ok source =>
        cases hscan : disturbances.onScan file with
        | some disturbance => exact Or.inl ⟨.scan, disturbance, .scan hlooks hload hsource hscan⟩
        | none => exact Or.inr (exists_searchFile_eq_ok hbelow hload hscan)

theorem searchFile_eq_error_iff (hbelow : (search.relative? file).isSome = true) (abort : Abort) :
    search.searchFile reads disturbances file = .error abort ↔
      ∃ stage disturbance, search.Meets reads disturbances file stage disturbance
        ∧ abort = disturbance.abort file stage := by
  constructor
  · intro herror
    rcases meets_or_searchFile_eq_ok hbelow with ⟨stage, disturbance, hmeets⟩ | ⟨searched, hok⟩
    · rw [searchFile_of_meets hmeets] at herror
      exact ⟨stage, disturbance, hmeets, (Except.error.inj herror).symm⟩
    · rw [hok] at herror
      cases herror
  · rintro ⟨stage, disturbance, hmeets, rfl⟩
    exact searchFile_of_meets hmeets

/-! ### Disturbances that nobody meets -/

def SameWhereMet (search : Search) (reads : Reads) (file : Path) (disturbances others : Disturbances) : Prop :=
  search.looksAt file = true → others.onLoad file = disturbances.onLoad file
    ∧ ∀ source, Source.load reads search.settings.strict file = .ok source →
        others.onScan file = disturbances.onScan file

theorem searchFile_congr_disturbances {others : Disturbances} (hbelow : (search.relative? file).isSome = true)
    (hsame : search.SameWhereMet reads file disturbances others) :
    search.searchFile reads others file = search.searchFile reads disturbances file := by
  cases hlooks : search.looksAt file with
  | false =>
    rw [searchFile_of_looksAt_eq_false hbelow hlooks, searchFile_of_looksAt_eq_false hbelow hlooks]
  | true =>
    obtain ⟨hload, hscan⟩ := hsame hlooks
    rw [searchFile_of_looksAt hlooks, searchFile_of_looksAt hlooks]
    unfold searchInScope
    rw [hload]
    cases hsource : Source.load reads search.settings.strict file with
    | error flaw => rfl
    | ok source =>
      dsimp only
      rw [hscan source hsource]

theorem sameWhereMet_of_not_meets
    (hnone : ∀ stage disturbance, ¬search.Meets reads disturbances file stage disturbance) :
    search.SameWhereMet reads file disturbances {} := by
  intro hlooks
  have hload : disturbances.onLoad file = none :=
    Option.eq_none_iff_forall_ne_some.2 fun disturbance hfault => hnone .load disturbance (.load hlooks hfault)
  refine ⟨hload.symm, fun source hsource => ?_⟩
  have hscan : disturbances.onScan file = none :=
    Option.eq_none_iff_forall_ne_some.2 fun disturbance hfault =>
      hnone .scan disturbance (.scan hlooks hload hsource hfault)
  exact hscan.symm

theorem outcomes_congr_disturbances {others : Disturbances}
    (hbelow : ∀ file ∈ files, (search.relative? file).isSome = true)
    (hsame : ∀ file ∈ files, search.SameWhereMet reads file disturbances others) :
    search.outcomes reads others files = search.outcomes reads disturbances files :=
  List.map_congr_left fun file hfile => searchFile_congr_disturbances (hbelow file hfile) (hsame file hfile)

/-! ### A whole search -/

def SomeMeets (search : Search) (reads : Reads) (disturbances : Disturbances) (files : List Path) : Prop :=
  ∃ file ∈ files, ∃ stage disturbance, search.Meets reads disturbances file stage disturbance

section Outcome

variable {arrived : List (Except Abort Searched)}

/-- The first error among the results is that of a file which meets a disturbance. -/
theorem exists_meets_of_stopped (hbelow : ∀ file ∈ files, (search.relative? file).isSome = true)
    (harrives : search.Arrives (search.outcomes reads disturbances files) arrived) {abort : Abort}
    (hmem : .error abort ∈ arrived) :
    ∃ file ∈ files, ∃ stage disturbance, search.Meets reads disturbances file stage disturbance
      ∧ abort = disturbance.abort file stage := by
  have hresult := (perm_of_arrives harrives).mem_iff.1 hmem
  obtain ⟨file, hfile, herror⟩ := List.mem_map.1 hresult
  exact ⟨file, hfile, (searchFile_eq_error_iff (hbelow file hfile) abort).1 herror⟩

theorem stopped_of_someMeets (hbelow : ∀ file ∈ files, (search.relative? file).isSome = true)
    (hsome : search.SomeMeets reads disturbances files)
    (harrives : search.Arrives (search.outcomes reads disturbances files) arrived) :
    ∃ file ∈ files, ∃ stage disturbance, search.Meets reads disturbances file stage disturbance
      ∧ Report.ofFinished files arrived = .error (disturbance.abort file stage) := by
  rcases Report.ofFinished_cases files arrived with ⟨searched, rfl, -⟩ | ⟨before, abort, rest, harrived, houtcome⟩
  · -- without an error among the results, that of the file which meets a disturbance is missing
    obtain ⟨file, hfile, stage, disturbance, hmeets⟩ := hsome
    have herror : .error (disturbance.abort file stage) ∈ searched.map Except.ok := by
      rw [← searchFile_of_meets hmeets]
      exact (perm_of_arrives harrives).mem_iff.2 (List.mem_map_of_mem hfile)
    obtain ⟨a, -, ha⟩ := List.mem_map.1 herror
    cases ha
  · have hmem : .error abort ∈ arrived := harrived ▸ List.mem_append_right _ List.mem_cons_self
    obtain ⟨file, hfile, stage, disturbance, hmeets, rfl⟩ := exists_meets_of_stopped hbelow harrives hmem
    exact ⟨file, hfile, stage, disturbance, hmeets, houtcome⟩

theorem finished_of_not_someMeets (hbelow : ∀ file ∈ files, (search.relative? file).isSome = true)
    (hnone : ¬search.SomeMeets reads disturbances files)
    (harrives : search.Arrives (search.outcomes reads disturbances files) arrived) :
    (∃ report, Report.ofFinished files arrived = .ok report)
      ∨ ∃ count, Report.ofFinished files arrived = .error (.allFailed count) := by
  rcases Report.ofFinished_cases files arrived with ⟨searched, rfl, houtcome⟩ | ⟨before, abort, rest, harrived, -⟩
  · rw [houtcome]
    cases hreport : Report.ofSearched files searched with
    | ok report => exact Or.inl ⟨report, rfl⟩
    | error abort =>
      obtain ⟨count, rfl⟩ := Report.allFailed_of_ofSearched hreport
      exact Or.inr ⟨count, rfl⟩
  · have hmem : .error abort ∈ arrived := harrived ▸ List.mem_append_right _ List.mem_cons_self
    obtain ⟨file, hfile, stage, disturbance, hmeets, -⟩ := exists_meets_of_stopped hbelow harrives hmem
    exact absurd ⟨file, hfile, stage, disturbance, hmeets⟩ hnone

end Outcome

/-- However many workers search files below the root, and in whatever order these are finished: when no file meets
a disturbance the search goes as without any; when some do, it has no report and ends with the interrupt or with
the message of one of them. Flaws of files never end it, and disturbances have no effect where no file meets them. -/
theorem outcome_of_disturbances {arrived : List (Except Abort Searched)}
    (hbelow : ∀ file ∈ files, (search.relative? file).isSome = true)
    (harrives : search.Arrives (search.outcomes reads disturbances files) arrived) :
    (¬search.SomeMeets reads disturbances files →
        search.outcomes reads disturbances files = search.outcomes reads {} files
          ∧ ((∃ report, Report.ofFinished files arrived = .ok report)
            ∨ ∃ count, Report.ofFinished files arrived = .error (.allFailed count)))
      ∧ (search.SomeMeets reads disturbances files →
        ∃ file ∈ files, ∃ abort, Report.ofFinished files arrived = .error abort
          ∧ ((abort = .interrupted ∧ ∃ stage, search.Meets reads disturbances file stage .interrupt)
            ∨ ∃ message,
              (search.Meets reads disturbances file .load (.failure message) ∧ abort = .loading file message
                ∧ abort.message = "Failed to load " ++ file.toString ++ ": " ++ message)
              ∨ (search.Meets reads disturbances file .scan (.failure message) ∧ abort = .scanning file message
                ∧ abort.message = "Failed while scanning " ++ file.toString ++ ": " ++ message)))
      ∧ (∀ file ∈ files, ∀ flaw, search.looksAt file = true → disturbances.onLoad file = none →
        Source.load reads search.settings.strict file = .error flaw →
        search.searchFile reads disturbances file = .ok ⟨file, .failed flaw⟩)
      ∧ ∀ others : Disturbances, (∀ file ∈ files, search.SameWhereMet reads file disturbances others) →
        search.outcomes reads others files = search.outcomes reads disturbances files := by
  refine ⟨fun hnone => ⟨?_, finished_of_not_someMeets hbelow hnone harrives⟩, fun hsome => ?_,
    fun file _ flaw hlooks hquiet hflaw => searchFile_of_flaw hlooks hquiet hflaw,
    fun others hsame => outcomes_congr_disturbances hbelow hsame⟩
  · refine (outcomes_congr_disturbances hbelow fun file hfile => ?_).symm
    exact sameWhereMet_of_not_meets fun stage disturbance hmeets => hnone ⟨file, hfile, stage, disturbance, hmeets⟩
  · obtain ⟨file, hfile, stage, disturbance, hmeets, houtcome⟩ := stopped_of_someMeets hbelow hsome harrives
    refine ⟨file, hfile, _, houtcome, ?_⟩
    cases disturbance with
    | interrupt => exact Or.inl ⟨rfl, stage, hmeets⟩
    | failure message =>
      cases stage with
      | load => exact Or.inr ⟨message, Or.inl ⟨hmeets, rfl, rfl⟩⟩
      | scan => exact Or.inr ⟨message, Or.inr ⟨hmeets, rfl, rfl⟩⟩

def fullDisk : Disturbances where
  onLoad _ := some (.failure "disk full")

def disturbedFiles : List Path := ["/project/domains/billing/b.ts", "/project/a.ts"].map Path.ofString

/-- The file of another domain is not loaded, so only the other one can be named. -/
theorem outcome_fullDisk :
    ∃ abort, Report.ofFinished disturbedFiles (mixed.outcomes sampleReads fullDisk disturbedFiles).reverse
        = .error abort
      ∧ abort.message = "Failed to load /project/a.ts: disk full" := by
  have hbelow : ∀ file ∈ disturbedFiles, (mixed.relative? file).isSome = true := by decide
  have hworkers : 1 < mixed.settings.workers := by decide
  have harrives : mixed.Arrives (mixed.outcomes sampleReads fullDisk disturbedFiles)
      (mixed.outcomes sampleReads fullDisk disturbedFiles).reverse := arrives_reverse hworkers _
  have hlooks : ∀ file ∈ disturbedFiles, mixed.looksAt file = true → file = Path.ofString "/project/a.ts" := by decide
  have hmeets : mixed.Meets sampleReads fullDisk (Path.ofString "/project/a.ts") .load (.failure "disk full") :=
    .load (by decide) rfl
  obtain ⟨-, hstopped, -, -⟩ := outcome_of_disturbances hbelow harrives
  obtain ⟨file, hfile, abort, houtcome, hcause⟩ := hstopped ⟨_, by decide, _, _, hmeets⟩
  refine ⟨abort, houtcome, ?_⟩
  rcases hcause with ⟨-, stage, hinterrupt⟩ | ⟨message, ⟨hload, -, hmessage⟩ | ⟨hscan, -, -⟩⟩
  · cases hinterrupt with
    | load _ hload => cases hload
    | scan _ hquiet _ _ => cases hquiet
  · cases hload with
    | load hscope hfault =>
      obtain rfl := hlooks file hfile hscope
      cases hfault
      rw [hmessage]
      decide
  · cases hscan with
    | scan _ hquiet _ _ => cases hquiet

end Search

end UseSites
