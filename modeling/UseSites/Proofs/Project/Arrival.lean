import Mathlib.Data.List.Perm.Basic
import UseSites.Proofs.Path.Regular
import UseSites.Proofs.Project.Finds
import UseSites.Proofs.Report.Arrival
/-!
# Searching by several workers

Several workers may finish files in any order. What they find does not depend on it: a file is searched
without a look at the others, what was searched is coherent, and so the report is the one of a single
worker. Only the order of the announcements is left to chance, and every listed file is announced once.

A file that is listed twice is searched twice and its references are reported twice.
-/

namespace UseSites

namespace Search

variable {search : Search} {reads : Reads} {disturbances : Disturbances}

theorem coherent_of_searchFile {searched : List Searched} (hregular : ∀ a ∈ searched, a.file.Regular)
    (hsearched : ∀ a ∈ searched, search.searchFile reads disturbances a.file = .ok a) : Coherent searched where
  alike a ha b hb htext := by
    have hfile := Path.toString_inj (hregular a ha) (hregular b hb) htext
    have hsame := (hsearched a ha).symm.trans (hfile ▸ hsearched b hb)
    exact Except.ok.inj hsame
  file a ha reference hreference := by
    rcases (finds_of_searchFile (hsearched a ha)).references_eq with hnone | ⟨category, source, hpath, hsome⟩
    · rw [hnone] at hreference
      cases hreference
    · rw [hsome] at hreference
      rw [file_of_mem_references hreference, hpath]
  reference a ha first hfirst second hsecond hline hrole := by
    rcases (finds_of_searchFile (hsearched a ha)).references_eq with hnone | ⟨category, source, -, hsome⟩
    · rw [hnone] at hfirst
      cases hfirst
    · rw [hsome] at hfirst hsecond
      exact eq_of_mem_references hfirst hsecond hline hrole

/-! ### The number of workers -/

@[simp]
theorem filter_withWorkers (workers : Int) :
    (search.withWorkers workers).settings.filter = search.settings.filter := rfl

@[simp]
theorem strict_withWorkers (workers : Int) :
    (search.withWorkers workers).settings.strict = search.settings.strict := rfl

@[simp]
theorem relative?_withWorkers (workers : Int) (file : Path) :
    (search.withWorkers workers).relative? file = search.relative? file := rfl

@[simp]
theorem references_withWorkers (workers : Int) (category : Category) (source : Source) :
    (search.withWorkers workers).references category source = search.references category source := rfl

@[simp]
theorem searchInScope_withWorkers (workers : Int) (category : Category) (file : Path) :
    (search.withWorkers workers).searchInScope reads disturbances category file
      = search.searchInScope reads disturbances category file := by
  unfold searchInScope
  simp only [references_withWorkers, strict_withWorkers]

@[simp]
theorem searchFile_withWorkers (workers : Int) (file : Path) :
    (search.withWorkers workers).searchFile reads disturbances file = search.searchFile reads disturbances file := by
  unfold searchFile
  rw [relative?_withWorkers]
  simp only [searchInScope_withWorkers, filter_withWorkers]

theorem outcomes_withWorkers (workers : Int) (files : List Path) :
    (search.withWorkers workers).outcomes reads disturbances files = search.outcomes reads disturbances files :=
  List.map_congr_left fun file _ => searchFile_withWorkers workers file

/-! ### Orders of arrival -/

theorem perm_of_arrives {results arrived : List (Except Abort Searched)} (h : search.Arrives results arrived) :
    arrived.Perm results := by
  unfold Arrives at h
  split at h
  · rw [h]
  · exact h

/-- Several workers may finish the files of a list from the last one to the first. -/
theorem arrives_reverse (hworkers : 1 < search.settings.workers) (results : List (Except Abort Searched)) :
    search.Arrives results results.reverse := by
  unfold Arrives
  split
  · rename_i hfew
    have hlength : results.length ≤ 1 := hfew.resolve_left (by omega)
    match results, hlength with
    | [], _ => rfl
    | [result], _ => rfl
  · exact List.reverse_perm results

theorem outcomes_eq_map_ok {files : List Path}
    (hquiet : ∀ file ∈ files, ∃ searched, search.searchFile reads disturbances file = .ok searched) :
    ∃ searched : List Searched, search.outcomes reads disturbances files = searched.map Except.ok
      ∧ searched.map Searched.file = files
      ∧ ∀ a ∈ searched, search.searchFile reads disturbances a.file = .ok a := by
  induction files with
  | nil => exact ⟨[], rfl, rfl, List.forall_mem_nil _⟩
  | cons file rest ih =>
    obtain ⟨first, hfirst⟩ := hquiet file List.mem_cons_self
    obtain ⟨others, houtcomes, hfiles, hothers⟩ := ih fun file hmem => hquiet file (List.mem_cons_of_mem _ hmem)
    have hfile := (finds_of_searchFile hfirst).file_eq
    refine ⟨first :: others, ?_, ?_, List.forall_mem_cons.2 ⟨by rw [hfile, hfirst], hothers⟩⟩
    · rw [outcomes, List.map_cons, List.map_cons, hfirst, ← houtcomes, outcomes]
    · rw [List.map_cons, hfile, hfiles]

theorem exists_eq_map_ok_of_perm {arrived : List (Except Abort Searched)} {searched : List Searched}
    (hperm : arrived.Perm (searched.map Except.ok)) :
    ∃ others : List Searched, arrived = others.map Except.ok ∧ others.Perm searched := by
  have hcomp := congrFun₂ (List.eq_map_comp_perm (Except.ok : Searched → Except Abort Searched)) arrived searched
  exact hcomp.mpr hperm

/-- What a search finds in files that do not stop it, in their own order and as it arrives. -/
theorem exists_finds_of_arrives {files : List Path} {arrived : List (Except Abort Searched)}
    (hquiet : ∀ file ∈ files, ∃ searched, search.searchFile reads disturbances file = .ok searched)
    (harrives : search.Arrives (search.outcomes reads disturbances files) arrived) :
    ∃ searched others : List Searched, arrived = others.map Except.ok ∧ others.Perm searched
      ∧ searched.map Searched.file = files ∧ ∀ a ∈ searched, search.Finds reads a.file a := by
  obtain ⟨searched, houtcomes, hfiles, hsearched⟩ := outcomes_eq_map_ok hquiet
  have hperm := perm_of_arrives harrives
  rw [houtcomes] at hperm
  obtain ⟨others, harrived, hothers⟩ := exists_eq_map_ok_of_perm hperm
  exact ⟨searched, others, harrived, hothers, hfiles, fun a ha => finds_of_searchFile (hsearched a ha)⟩

/-- A search that ends with a report was not stopped by any file. -/
theorem searchFile_eq_ok_of_report {files : List Path} {arrived : List (Except Abort Searched)} {report : Report}
    (harrives : search.Arrives (search.outcomes reads disturbances files) arrived)
    (hreport : Report.ofFinished files arrived = .ok report) :
    ∀ file ∈ files, ∃ searched, search.searchFile reads disturbances file = .ok searched := by
  rcases Report.ofFinished_cases files arrived with ⟨searched, rfl, -⟩ | ⟨_, abort, _, -, habort⟩
  · intro file hfile
    have hresult : search.searchFile reads disturbances file ∈ searched.map Except.ok :=
      (perm_of_arrives harrives).mem_iff.2 (List.mem_map_of_mem hfile)
    obtain ⟨found, -, hfound⟩ := List.mem_map.1 hresult
    exact ⟨found, hfound.symm⟩
  · rw [habort] at hreport
    cases hreport

/-- However many workers search the files of a list, and in whatever order these are finished: if no file
stops the search, its outcome is that of going through the list, and each listed file is announced once. -/
theorem sameOutcome_of_arrives {workers : Int} {files : List Path} {arrived : List (Except Abort Searched)}
    (hregular : ∀ file ∈ files, file.Regular)
    (hquiet : ∀ file ∈ files, ∃ searched, search.searchFile reads disturbances file = .ok searched)
    (harrives : (search.withWorkers workers).Arrives
      ((search.withWorkers workers).outcomes reads disturbances files) arrived) :
    SameOutcome (Report.ofFinished files arrived) (search.run reads disturbances files)
      ∧ (∀ abort, Report.ofFinished files arrived = .error abort → ∃ count, abort = .allFailed count)
      ∧ ((Progress.after arrived).announced.map Searched.file).Perm files := by
  obtain ⟨searched, houtcomes, hfiles, hsearched⟩ := outcomes_eq_map_ok hquiet
  have hperm := perm_of_arrives harrives
  rw [outcomes_withWorkers, houtcomes] at hperm
  obtain ⟨others, rfl, hothers⟩ := exists_eq_map_ok_of_perm hperm
  have hcoherent : Coherent searched :=
    coherent_of_searchFile (fun a ha => hregular a.file (hfiles ▸ List.mem_map_of_mem ha)) hsearched
  rw [run, houtcomes, Report.ofFinished_ok, Report.ofFinished_ok, Progress.after_ok]
  refine ⟨sameOutcome_of_map_result_eq (Report.result_ofSearched_of_perm files hothers.symm hcoherent).symm,
    fun abort habort => Report.allFailed_of_ofSearched habort, ?_⟩
  rw [← hfiles]
  exact hothers.map Searched.file

def sample : Search where
  settings :=
    { root := Path.ofString "/project", symbol := "foo", filter := "database", includes := [], excludes := [],
      window := ⟨1, 1⟩, workers := 1, strict := true }
  root := Path.ofString "/project"
  includes := []
  excludes := []

def sampleReads : Reads := fun _ => .ok "foo();".toUTF8

def sampleFiles : List Path := ["/project/b.ts", "/project/a.ts", "/project/b.ts"].map Path.ofString

/-- Four workers may finish three files in reverse, of which one is listed twice. -/
theorem sameOutcome_reverse_sample :
    SameOutcome (Report.ofFinished sampleFiles (sample.outcomes sampleReads {} sampleFiles).reverse)
      (sample.run sampleReads {} sampleFiles) := by
  have hregular : ∀ file ∈ sampleFiles, file.Regular := by
    intro file hfile
    obtain ⟨text, -, rfl⟩ := List.mem_map.1 hfile
    exact Path.regular_ofString text
  have hbelow : ∀ file ∈ sampleFiles, (sample.relative? file).isSome = true := by decide
  have harrives : (sample.withWorkers 4).Arrives ((sample.withWorkers 4).outcomes sampleReads {} sampleFiles)
      (sample.outcomes sampleReads {} sampleFiles).reverse := by
    have hseveral : ¬((sample.withWorkers 4).settings.workers ≤ 1 ∨ sampleFiles.length ≤ 1) := by decide
    rw [Arrives, outcomes_withWorkers, outcomes, List.length_map, if_neg hseveral]
    exact List.reverse_perm _
  exact (sameOutcome_of_arrives hregular
    (fun file hfile => exists_searchFile_eq_ok (hbelow file hfile) rfl rfl) harrives).1

end Search

end UseSites
