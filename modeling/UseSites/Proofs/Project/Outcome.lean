import UseSites.Proofs.Project.Groups
/-!
# What becomes of a whole search

A search that no file stops fails in one case: there are files in scope, and all of them fail. Otherwise it has a
report that accounts for every file. `failureOf?` says which failure a file adds to the report, so that the failures
of two searches can be compared file by file.
-/

namespace UseSites

namespace Search

variable {search : Search} {reads : Reads} {disturbances : Disturbances} {disk : Disk}

/-- The failure of a file in scope that cannot be loaded. -/
def failureOf? (search : Search) (reads : Reads) (file : Path) : Option Failure :=
  if search.looksAt file then
    match Source.load reads search.settings.strict file with
    | .error flaw => some ⟨file.toString, flaw.reason⟩
    | .ok _ => none
  else none

theorem path_of_failureOf? {file : Path} {failure : Failure} (h : search.failureOf? reads file = some failure) :
    failure.path = file.toString := by
  unfold failureOf? at h
  split at h
  · split at h
    · cases h
      rfl
    · cases h
  · cases h

theorem failureOf?_of_isFailureOf {file : Path} {failure : Failure} (hlooks : search.looksAt file = true)
    (hfailure : search.IsFailureOf reads file failure) : search.failureOf? reads file = some failure := by
  obtain ⟨path, reason⟩ := failure
  obtain ⟨rfl, flaw, hload, rfl⟩ := hfailure
  rw [failureOf?, if_pos hlooks, hload]

theorem failureOf?_of_group_ne {file : Path} (hgroup : search.group reads file ≠ .failed) :
    search.failureOf? reads file = none := by
  unfold group at hgroup
  unfold failureOf?
  split
  · next hlooks =>
    rw [if_pos hlooks] at hgroup
    cases hload : Source.load reads search.settings.strict file with
    | error flaw =>
      rw [hload] at hgroup
      exact absurd rfl hgroup
    | ok source => rfl
  · rfl

theorem failures_eq_filterMap_of_forall₂ {listed : List Path} {failures : List Failure}
    (h : List.Forall₂ (search.IsFailureOf reads) (listed.filter (search.group reads · = .failed)) failures) :
    failures = listed.filterMap (search.failureOf? reads) := by
  induction listed generalizing failures with
  | nil =>
    cases h
    rfl
  | cons file rest ih =>
    by_cases hgroup : search.group reads file = .failed
    · rw [List.filter_cons_of_pos (by simpa using hgroup)] at h
      obtain _ | ⟨hfirst, hrest⟩ := h
      have hlooks : search.looksAt file = true := by
        rw [looksAt_eq search reads, hgroup]
        decide
      rw [List.filterMap_cons_some (failureOf?_of_isFailureOf hlooks hfirst), ih hrest]
    · rw [List.filter_cons_of_neg (by simpa using hgroup)] at h
      rw [List.filterMap_cons_none (failureOf?_of_group_ne hgroup), ih h]

theorem Accounts.failures_eq {listed : List Path} {report : Report} (h : search.Accounts reads listed report) :
    report.failures = listed.filterMap (search.failureOf? reads) :=
  failures_eq_filterMap_of_forall₂ h.failures

def AllFail (search : Search) (reads : Reads) (listed : List Path) : Prop :=
  0 < (listed.filter search.looksAt).length
    ∧ ∀ file ∈ listed, search.looksAt file = true → search.group reads file = .failed

/-- What becomes of a search of a project that no file stops. -/
theorem outcome_of_arrives {arrived : List (Except Abort Searched)}
    (hnames : Listing.allWellNamed (disk.contents search.root.segments) = true)
    (hquiet : ∀ file ∈ search.discover disk, ∃ searched, search.searchFile reads disturbances file = .ok searched)
    (harrives : search.Arrives (search.outcomes reads disturbances (search.discover disk)) arrived) :
    (search.AllFail reads (search.discover disk)
        ∧ Report.ofFinished (search.discover disk) arrived
          = .error (.allFailed ((search.discover disk).filter search.looksAt).length))
      ∨ (¬search.AllFail reads (search.discover disk)
        ∧ ∃ report, Report.ofFinished (search.discover disk) arrived = .ok report
          ∧ search.Accounts reads (search.discover disk) report) := by
  obtain ⟨searched, others, rfl, hperm, hfiles, hfinds⟩ := exists_finds_of_arrives hquiet harrives
  rw [Report.ofFinished_ok]
  cases houtcome : Report.ofSearched (search.discover disk) others with
  | error abort =>
    obtain ⟨hpos, hfailed, rfl⟩ := (ofSearched_eq_error_iff hperm hfiles hfinds).1 houtcome
    exact Or.inl ⟨⟨hpos, hfailed⟩, rfl⟩
  | ok report =>
    refine Or.inr ⟨fun ⟨hpos, hfailed⟩ => ?_, report, rfl, ?_⟩
    · rw [(ofSearched_eq_error_iff hperm hfiles hfinds).2 ⟨hpos, hfailed, rfl⟩] at houtcome
      cases houtcome
    · exact accounts_of_ofSearched (pairwise_discover hnames) hperm hfiles hfinds houtcome

end Search

end UseSites
