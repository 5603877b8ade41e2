import Mathlib
import UseSites.Proofs.Project.Outcome
import UseSites.Proofs.Project.Scope
/-!
# Strict and tolerant searches

There is a tree also of a text with errors. A tolerant search makes do with it, and a strict search counts the file as
failed. `Tightens` says that nothing else changes: a strict search drops the references in files whose tree is flawed,
it has a failure more for each of these files, and it keeps what there was of all other files.

Whether a search is strict is asked last, when there is a tree, so that it has no influence on the other three flaws of
a file. `Source.load_cases` has this in one place.
-/

namespace UseSites

namespace Source

variable {reads : Reads} {path : Path}

/-- The tree of a file that has a grammar, can be read and is text. -/
def tree? (reads : Reads) (path : Path) : Option Cst := do
  let dialect ← Dialect.ofPath? path
  let bytes ← (reads path).toOption
  let text ← (Text.Utf8.decode bytes.toList).toOption
  return Grammar.parse dialect text

def isSound (reads : Reads) (path : Path) : Bool := (tree? reads path).any (!·.flawed)

/-- The flaw of a file that has a tree, but one with an error. -/
def syntaxFlaw? (reads : Reads) (path : Path) : Option Flaw :=
  ((tree? reads path).filter (·.flawed)).map fun tree => .notAProgram tree.firstErrorLine

theorem load_cases (reads : Reads) (path : Path) :
    (tree? reads path = none ∧ ∃ flaw, ∀ strict, load reads strict path = .error flaw)
      ∨ ∃ tree source, tree? reads path = some tree ∧ load reads false path = .ok source
        ∧ load reads true path = if tree.flawed then .error (.notAProgram tree.firstErrorLine) else .ok source := by
  unfold tree? load
  cases Dialect.ofPath? path with
  | none => exact Or.inl ⟨rfl, _, fun _ => rfl⟩
  | some dialect =>
    cases hread : reads path with
    | error trouble => exact Or.inl ⟨rfl, _, fun _ => rfl⟩
    | ok bytes =>
      dsimp only
      cases hdecode : Text.Utf8.decode bytes.toList with
      | error position => exact Or.inl ⟨by simp [Except.toOption, hdecode], _, fun _ => rfl⟩
      | ok text => exact Or.inr ⟨_, _, by simp [Except.toOption, hdecode], ofTree_of_passes (Or.inl rfl), rfl⟩

end Source

/-- One of two lists at most has something of each. -/
theorem perm_filterMap_or {α β : Type} {f g : α → Option β} {xs : List α} (h : ∀ x ∈ xs, f x = none ∨ g x = none) :
    (xs.filterMap fun x => (f x).or (g x)).Perm (xs.filterMap f ++ xs.filterMap g) := by
  induction xs with
  | nil => exact .refl _
  | cons x rest ih =>
    obtain ⟨hx, hrest⟩ := List.forall_mem_cons.1 h
    cases hf : f x with
    | none =>
      cases hg : g x with
      | none => simpa [hf, hg] using ih hrest
      | some y => simpa [hf, hg] using ((ih hrest).cons y).trans List.perm_middle.symm
    | some y =>
      have hg : g x = none := hx.resolve_left (by simp [hf])
      simpa [hf, hg] using ih hrest

namespace Search

variable {search : Search} {reads : Reads} {disturbances others : Disturbances} {disk : Disk} {file : Path}
  {listed : List Path}

def withStrict (search : Search) (strict : Bool) : Search :=
  { search with settings := { search.settings with strict := strict } }

@[simp]
theorem strict_withStrict (strict : Bool) : (search.withStrict strict).settings.strict = strict := rfl

@[simp]
theorem looksAt_withStrict (strict : Bool) : (search.withStrict strict).looksAt = search.looksAt := rfl

@[simp]
theorem categoryOf_withStrict (strict : Bool) : (search.withStrict strict).categoryOf = search.categoryOf := rfl

@[simp]
theorem references_withStrict (strict : Bool) : (search.withStrict strict).references = search.references := rfl

@[simp]
theorem discover_withStrict (strict : Bool) : (search.withStrict strict).discover disk = search.discover disk := rfl

/-- The failure that a file adds in a strict search alone. -/
def syntaxFailure? (search : Search) (reads : Reads) (file : Path) : Option Failure :=
  if search.looksAt file then (Source.syntaxFlaw? reads file).map fun flaw => ⟨file.toString, flaw.reason⟩ else none

/-! ### One file -/

theorem group_strict :
    (search.withStrict true).group reads file = .scanned
      ↔ Source.isSound reads file = true ∧ (search.withStrict false).group reads file = .scanned := by
  unfold group Source.isSound
  simp only [looksAt_withStrict, strict_withStrict]
  by_cases hlooks : search.looksAt file = true
  · rcases Source.load_cases reads file with ⟨htree, flaw, hload⟩ | ⟨tree, source, htree, htolerant, hstrict⟩
    · simp [hlooks, htree, hload]
    · cases hflawed : tree.flawed <;> simp [hlooks, htree, htolerant, hstrict, hflawed]
  · simp [hlooks]

theorem group_eq_outOfScope_iff : search.group reads file = .outOfScope ↔ search.looksAt file = false := by
  rw [looksAt_eq search reads]
  simp

theorem sortedReferences_strict (hsound : Source.isSound reads file = true) :
    (search.withStrict true).sortedReferences reads file = (search.withStrict false).sortedReferences reads file := by
  unfold Source.isSound at hsound
  unfold sortedReferences
  simp only [strict_withStrict, references_withStrict, categoryOf_withStrict]
  rcases Source.load_cases reads file with ⟨htree, flaw, hload⟩ | ⟨tree, source, htree, htolerant, hstrict⟩
  · simp [htree] at hsound
  · simp only [htree, Option.any_some, Bool.not_eq_true'] at hsound
    rw [htolerant, hstrict, hsound]
    rfl

theorem failureOf?_strict :
    (search.withStrict true).failureOf? reads file
      = ((search.withStrict false).failureOf? reads file).or (search.syntaxFailure? reads file) := by
  unfold failureOf? syntaxFailure? Source.syntaxFlaw?
  simp only [looksAt_withStrict, strict_withStrict]
  by_cases hlooks : search.looksAt file = true
  · rcases Source.load_cases reads file with ⟨htree, flaw, hload⟩ | ⟨tree, source, htree, htolerant, hstrict⟩
    · simp [hlooks, htree, hload]
    · cases hflawed : tree.flawed <;> simp [hlooks, htree, htolerant, hstrict, hflawed, Option.filter]
  · simp [hlooks]

/-- A file that fails in every search does not fail for its tree. -/
theorem failureOf?_or_syntaxFailure? (search : Search) (reads : Reads) (file : Path) :
    (search.withStrict false).failureOf? reads file = none ∨ search.syntaxFailure? reads file = none := by
  unfold failureOf? syntaxFailure? Source.syntaxFlaw?
  simp only [looksAt_withStrict, strict_withStrict]
  rcases Source.load_cases reads file with ⟨htree, -⟩ | ⟨tree, source, -, htolerant, -⟩
  · exact Or.inr (by simp [htree])
  · exact Or.inl (by simp [htolerant])

/-! ### Whole reports -/

/-- A strict report against the tolerant one of the same files. -/
structure Tightens (search : Search) (reads : Reads) (listed : List Path) (tolerant strict : Report) : Prop where
  references : strict.references = tolerant.references.filter fun reference =>
    reference.file ∈ (listed.filter (Source.isSound reads)).map Path.toString
  failures : strict.failures
    = Report.sortedFailures (tolerant.failures ++ listed.filterMap (search.syntaxFailure? reads))
  failures_increase : strict.failures.Pairwise fun a b => a.path < b.path
  files : strict.files = tolerant.files
  outOfScope : strict.outOfScope = tolerant.outOfScope

theorem filter_group_strict (listed : List Path) :
    listed.filter ((search.withStrict true).group reads · = .scanned)
      = (listed.filter ((search.withStrict false).group reads · = .scanned)).filter (Source.isSound reads) := by
  rw [List.filter_filter]
  apply List.filter_congr
  intro file _
  rw [Bool.eq_iff_iff, Bool.and_eq_true, decide_eq_true_iff, decide_eq_true_iff]
  exact group_strict

theorem filter_outOfScope_withStrict (strict : Bool) (listed : List Path) :
    listed.filter ((search.withStrict strict).group reads · = .outOfScope)
      = listed.filter fun file => !search.looksAt file := by
  apply List.filter_congr
  intro file _
  rw [Bool.eq_iff_iff, decide_eq_true_iff, group_eq_outOfScope_iff, looksAt_withStrict, Bool.not_eq_true']

theorem tightens_of_accounts {tolerant strict : Report} (hincrease : listed.Pairwise fun a b => a.toString < b.toString)
    (htolerant : (search.withStrict false).Accounts reads listed tolerant)
    (hstrict : (search.withStrict true).Accounts reads listed strict) :
    search.Tightens reads listed tolerant strict where
  references := by
    rw [hstrict.references, htolerant.references, filter_group_strict]
    have hsame : ∀ files : List Path, (files.filter (Source.isSound reads)).flatMap
        ((search.withStrict true).sortedReferences reads) = (files.filter (Source.isSound reads)).flatMap
          ((search.withStrict false).sortedReferences reads) := by
      intro files
      rw [List.flatMap_def, List.flatMap_def]
      refine congrArg _ (List.map_congr_left fun file hfile => ?_)
      exact sortedReferences_strict (List.mem_filter.1 hfile).2
    rw [hsame]
    refine (filter_flatMap_eq fun file hfile reference hreference => ?_).symm
    rw [(file_and_category_of_mem_sortedReferences hreference).1, Bool.eq_iff_iff, decide_eq_true_iff]
    exact mem_texts_iff hincrease (List.mem_of_mem_filter hfile)
  failures := by
    have hperm : (tolerant.failures ++ listed.filterMap (search.syntaxFailure? reads)).Perm strict.failures := by
      rw [hstrict.failures_eq, htolerant.failures_eq, funext fun file => @failureOf?_strict search reads file]
      exact (perm_filterMap_or fun file _ => failureOf?_or_syntaxFailure? search reads file).symm
    exact (mergeSort_eq_of_strict Failure.path (fun _ _ => not_decide_lt_iff) hperm hstrict.failures_increase).symm
  failures_increase := hstrict.failures_increase
  files := by rw [hstrict.files, htolerant.files]
  outOfScope := by
    rw [hstrict.outOfScope, htolerant.outOfScope, filter_outOfScope_withStrict, filter_outOfScope_withStrict]

/-- When neither the strict nor the tolerant search of a project is stopped, the strict report has the references of the
tolerant one in files without errors, and its failures and one more for each file with an error. -/
theorem strict_report_tightens {arrived arrivedTolerant : List (Except Abort Searched)} {strict tolerant : Report}
    (hnames : Listing.allWellNamed (disk.contents search.root.segments) = true)
    (harrives : (search.withStrict true).Arrives
      ((search.withStrict true).outcomes reads disturbances ((search.withStrict true).discover disk)) arrived)
    (hstrict : Report.ofFinished ((search.withStrict true).discover disk) arrived = .ok strict)
    (harrivesTolerant : (search.withStrict false).Arrives
      ((search.withStrict false).outcomes reads others ((search.withStrict false).discover disk)) arrivedTolerant)
    (htolerant : Report.ofFinished ((search.withStrict false).discover disk) arrivedTolerant = .ok tolerant) :
    search.Tightens reads (search.discover disk) tolerant strict := by
  have haccounts : (search.withStrict true).Accounts reads ((search.withStrict true).discover disk) strict :=
    accounts_of_report hnames harrives hstrict
  have haccountsTolerant :
      (search.withStrict false).Accounts reads ((search.withStrict false).discover disk) tolerant :=
    accounts_of_report hnames harrivesTolerant htolerant
  rw [discover_withStrict] at haccounts haccountsTolerant
  exact tightens_of_accounts (pairwise_discover hnames) haccountsTolerant haccounts

def roughDisk : Disk :=
  ⟨[("project", .folder
    [("empty.ts", .file "".toUTF8), ("open.ts", .file "foo(".toUTF8), ("notes.txt", .file "foo".toUTF8)])]⟩

def rough : Search :=
  { sample with settings := { sample.settings with workers := 4 }, includes := [⟨false, .everywhere⟩] }

theorem group_rough (strict : Bool) :
    (rough.withStrict strict).group (roughDisk.read []) (Path.ofString "/project/empty.ts") = .scanned := by
  have hlooks : (rough.withStrict strict).looksAt (Path.ofString "/project/empty.ts") = true := by
    rw [looksAt_withStrict]
    decide
  have hdialect : Dialect.ofPath? (Path.ofString "/project/empty.ts") = some .typescript := by decide
  have hread : roughDisk.read [] (Path.ofString "/project/empty.ts") = .ok "".toUTF8 := by cbv
  have hsound : (Grammar.parse .typescript "").flawed = false := by cbv
  exact group_of_text hlooks hdialect hread (Or.inr hsound)

theorem tightens_rough :
    ∃ strict tolerant,
      Report.ofFinished (rough.discover roughDisk)
          ((rough.withStrict true).outcomes (roughDisk.read []) {} (rough.discover roughDisk)).reverse = .ok strict
        ∧ Report.ofFinished (rough.discover roughDisk)
          ((rough.withStrict false).outcomes (roughDisk.read []) {} (rough.discover roughDisk)).reverse = .ok tolerant
        ∧ rough.Tightens (roughDisk.read []) (rough.discover roughDisk) tolerant strict := by
  have hquiet : ∀ strict, ∀ file ∈ rough.discover roughDisk,
      ∃ searched, (rough.withStrict strict).searchFile (roughDisk.read []) {} file = .ok searched := by
    intro strict file (hfile : file ∈ (rough.withStrict strict).discover roughDisk)
    exact searchFile_eq_ok_of_mem_discover hfile
  have hworkers : 1 < rough.settings.workers := by decide
  have harrives : ∀ strict, (rough.withStrict strict).Arrives
      ((rough.withStrict strict).outcomes (roughDisk.read []) {} (rough.discover roughDisk))
      ((rough.withStrict strict).outcomes (roughDisk.read []) {} (rough.discover roughDisk)).reverse := by
    intro strict
    exact arrives_reverse hworkers _
  have hmem : Path.ofString "/project/empty.ts" ∈ rough.discover roughDisk :=
    mem_discover.2 ⟨["empty.ts"], by decide, by decide⟩
  obtain ⟨strict, hstrict⟩ := exists_report_of_scanned (hquiet true) (harrives true) hmem (group_rough true)
  obtain ⟨tolerant, htolerant⟩ := exists_report_of_scanned (hquiet false) (harrives false) hmem (group_rough false)
  exact ⟨strict, tolerant, hstrict, htolerant,
    strict_report_tightens (by decide) (harrives true) hstrict (harrives false) htolerant⟩

end Search

end UseSites
