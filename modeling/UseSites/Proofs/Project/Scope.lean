import UseSites.Proofs.Project.Groups
/-!
# Searches limited to one business domain

A search that is limited to a domain leaves files out before it reads them. `Restricts` says that this is all the
limit does: the report is that of the search of all domains, with what belongs to the files left out taken away,
and nothing else is missing from it.

Both reports account for the same files, since discovery does not look at the limit, and a file that both
searches look at is in the same group for both of them. What a report says of a file carries the text of its
path; discovered files have different texts, so these texts say what belongs to which file.
-/

namespace UseSites

namespace Source

/-- Of all that can be read, loading a file looks at the content of that file. -/
theorem load_congr {reads others : Reads} {file : Path} (strict : Bool) (h : others file = reads file) :
    load others strict file = load reads strict file := by
  unfold load
  rw [h]

end Source

namespace Search

variable {search : Search} {reads : Reads} {disturbances : Disturbances} {disk : Disk} {file : Path}

def withFilter (search : Search) (filter : String) : Search :=
  { search with settings := { search.settings with filter := filter } }

@[simp]
theorem filter_withFilter (filter : String) : (search.withFilter filter).settings.filter = filter := rfl

@[simp]
theorem strict_withFilter (filter : String) :
    (search.withFilter filter).settings.strict = search.settings.strict := rfl

@[simp]
theorem relative?_withFilter (filter : String) (file : Path) :
    (search.withFilter filter).relative? file = search.relative? file := rfl

@[simp]
theorem references_withFilter (filter : String) (category : Category) (source : Source) :
    (search.withFilter filter).references category source = search.references category source := rfl

@[simp]
theorem categoryOf_withFilter (filter : String) (file : Path) :
    (search.withFilter filter).categoryOf file = search.categoryOf file := rfl

@[simp]
theorem discover_withFilter (filter : String) : (search.withFilter filter).discover disk = search.discover disk := rfl

@[simp]
theorem sortedReferences_withFilter (filter : String) :
    (search.withFilter filter).sortedReferences reads = search.sortedReferences reads := by
  funext file
  unfold sortedReferences
  simp only [strict_withFilter, references_withFilter, categoryOf_withFilter]

@[simp]
theorem isFailureOf_withFilter (filter : String) :
    (search.withFilter filter).IsFailureOf reads = search.IsFailureOf reads := by
  funext file failure
  unfold IsFailureOf
  rw [strict_withFilter]

/-! ### Files in scope -/

theorem looksAt_eq_inScope {relative : String} (hrelative : search.relative? file = some relative) (filter : String) :
    (search.withFilter filter).looksAt file
      = Category.inScope (placeOf relative) (.ofPath (placeOf relative)) filter := by
  rw [looksAt, relative?_withFilter, hrelative, Option.any_some, covers, filter_withFilter]

theorem looksAt_everyDomain (hbelow : (search.relative? file).isSome = true) :
    (search.withFilter Category.everyDomain).looksAt file = true := by
  obtain ⟨relative, hrelative⟩ := Option.isSome_iff_exists.1 hbelow
  rw [looksAt_eq_inScope hrelative, Category.inScope, beq_self_eq_true]
  rfl

theorem looksAt_of_categoryOf_ne (hbelow : (search.relative? file).isSome = true)
    (hcategory : search.categoryOf file ≠ .service) (filter : String) :
    (search.withFilter filter).looksAt file = true := by
  obtain ⟨relative, hrelative⟩ := Option.isSome_iff_exists.1 hbelow
  rw [categoryOf, hrelative, Option.getD_some] at hcategory
  rw [looksAt_eq_inScope hrelative, Category.inScope, bne_iff_ne.2 hcategory, Bool.or_true, Bool.true_or]

/-- A limited search puts the files in its scope into the groups in which the search of all domains puts them. -/
theorem group_withFilter (hbelow : (search.relative? file).isSome = true) (filter : String) :
    (search.withFilter filter).group reads file
      = if (search.withFilter filter).looksAt file then (search.withFilter Category.everyDomain).group reads file
        else .outOfScope := by
  unfold group
  simp only [looksAt_everyDomain hbelow, strict_withFilter, if_true]

/-- The contents of the files out of scope have no influence on a search. -/
theorem outcomes_congr_reads {files : List Path} {others : Reads}
    (hbelow : ∀ file ∈ files, (search.relative? file).isSome = true)
    (hreads : ∀ file ∈ files, search.looksAt file = true → others file = reads file) :
    search.outcomes others disturbances files = search.outcomes reads disturbances files := by
  refine List.map_congr_left fun file hfile => ?_
  cases hlooks : search.looksAt file with
  | false =>
    rw [searchFile_of_looksAt_eq_false (hbelow file hfile) hlooks,
      searchFile_of_looksAt_eq_false (hbelow file hfile) hlooks]
  | true =>
    rw [searchFile_of_looksAt hlooks, searchFile_of_looksAt hlooks]
    unfold searchInScope
    rw [Source.load_congr _ (hreads file hfile hlooks)]

/-! ### What belongs to files in scope -/

theorem mem_texts_iff {listed : List Path} {kept : Path → Bool}
    (hincrease : listed.Pairwise fun a b => a.toString < b.toString) (hfile : file ∈ listed) :
    file.toString ∈ (listed.filter kept).map Path.toString ↔ kept file = true := by
  have htexts : (listed.map Path.toString).Nodup := (List.pairwise_map.2 hincrease).imp ne_of_lt
  constructor
  · intro htext
    obtain ⟨other, hother, hsame⟩ := List.mem_map.1 htext
    obtain ⟨hlisted, hkept⟩ := List.mem_filter.1 hother
    rwa [← List.inj_on_of_nodup_map htexts hlisted hfile hsame]
  · intro hkept
    exact List.mem_map_of_mem (List.mem_filter.2 ⟨hfile, hkept⟩)

def textsInScope (search : Search) (listed : List Path) : List String :=
  (listed.filter search.looksAt).map Path.toString

theorem mem_textsInScope {listed : List Path} (hincrease : listed.Pairwise fun a b => a.toString < b.toString)
    (hfile : file ∈ listed) : file.toString ∈ search.textsInScope listed ↔ search.looksAt file = true :=
  mem_texts_iff hincrease hfile

theorem file_and_category_of_mem_sortedReferences {reference : Reference}
    (h : reference ∈ search.sortedReferences reads file) :
    reference.file = file.toString ∧ reference.category = search.categoryOf file := by
  unfold sortedReferences at h
  cases hload : Source.load reads search.settings.strict file with
  | error flaw =>
    rw [hload] at h
    cases h
  | ok source =>
    rw [hload] at h
    have hmem := (Reference.sortedInFile_perm _).mem_iff.1 h
    refine ⟨?_, ?_⟩
    · rw [file_of_mem_references hmem, Source.path_of_load hload]
    · exact category_of_mem_references hmem

/-- A report that has of another one what belongs to the files in the scope of a search. -/
structure Restricts (search : Search) (listed : List Path) (whole report : Report) : Prop where
  references : report.references
    = whole.references.filter fun reference => reference.file ∈ search.textsInScope listed
  failures : report.failures = whole.failures.filter fun failure => failure.path ∈ search.textsInScope listed
  outOfScope : report.outOfScope = listed.filter fun file => !search.looksAt file
  /-- Nothing is missing that is not in a service file. -/
  others : ∀ reference ∈ whole.references, reference.category ≠ .service → reference ∈ report.references

section Restriction

variable {filter : String} {listed : List Path} {whole report : Report}

theorem filter_flatMap_eq {α β : Type} {f : α → List β} {kept : α → Bool} {belongs : β → Bool} {xs : List α}
    (h : ∀ x ∈ xs, ∀ y ∈ f x, belongs y = kept x) : (xs.flatMap f).filter belongs = (xs.filter kept).flatMap f := by
  induction xs with
  | nil => rfl
  | cons x rest ih =>
    obtain ⟨hx, hrest⟩ := List.forall_mem_cons.1 h
    rw [List.flatMap_cons, List.filter_append, ih hrest]
    cases hkept : kept x with
    | true =>
      rw [List.filter_eq_self.2 fun y hy => (hx y hy).trans hkept, List.filter_cons_of_pos hkept, List.flatMap_cons]
    | false =>
      have hnone : (f x).filter belongs = [] :=
        List.filter_eq_nil_iff.2 fun y hy => by rw [hx y hy, hkept]; exact Bool.false_ne_true
      rw [hnone, List.nil_append, List.filter_cons_of_neg (by rw [hkept]; exact Bool.false_ne_true)]

theorem forall₂_filter {α β : Type} {relation : α → β → Prop} {kept : α → Bool} {belongs : β → Bool} {xs : List α}
    {ys : List β} (hall : List.Forall₂ relation xs ys) (h : ∀ x ∈ xs, ∀ y, relation x y → belongs y = kept x) :
    List.Forall₂ relation (xs.filter kept) (ys.filter belongs) := by
  induction hall with
  | nil => exact .nil
  | @cons x y _ _ hfirst _ ih =>
    obtain ⟨hx, hrest⟩ := List.forall_mem_cons.1 h
    have hsame := hx y hfirst
    cases hkept : kept x with
    | true =>
      rw [List.filter_cons_of_pos hkept, List.filter_cons_of_pos (hsame.trans hkept)]
      exact .cons hfirst (ih hrest)
    | false =>
      rw [List.filter_cons_of_neg (by rw [hkept]; exact Bool.false_ne_true),
        List.filter_cons_of_neg (by rw [hsame, hkept]; exact Bool.false_ne_true)]
      exact ih hrest

/-- A file has one failure at most. -/
theorem failures_unique {failed : List Path} {failures others : List Failure}
    (hfailures : List.Forall₂ (search.IsFailureOf reads) failed failures)
    (hothers : List.Forall₂ (search.IsFailureOf reads) failed others) : failures = others := by
  induction hfailures generalizing others with
  | nil =>
    cases hothers
    rfl
  | @cons file failure _ _ hfirst _ ih =>
    obtain _ | ⟨hother, hrest⟩ := hothers
    obtain ⟨hpath, flaw, hload, hreason⟩ := hfirst
    obtain ⟨hotherPath, otherFlaw, hotherLoad, hotherReason⟩ := hother
    obtain rfl : flaw = otherFlaw := Except.error.inj (hload.symm.trans hotherLoad)
    rw [ih hrest]
    exact congrArg (· :: _) (Failure.mk.injEq .. ▸ ⟨hpath.trans hotherPath.symm, hreason.trans hotherReason.symm⟩)

theorem filter_group_withFilter (hbelow : ∀ file ∈ listed, (search.relative? file).isSome = true) {which : Group}
    (hwhich : which ≠ .outOfScope) :
    listed.filter ((search.withFilter filter).group reads · = which)
      = (listed.filter ((search.withFilter Category.everyDomain).group reads · = which)).filter
        (search.withFilter filter).looksAt := by
  rw [List.filter_filter]
  refine List.filter_congr fun file hfile => ?_
  rw [group_withFilter (hbelow file hfile) filter]
  cases (search.withFilter filter).looksAt file with
  | true => rw [if_pos rfl, Bool.true_and]
  | false =>
    rw [if_neg Bool.false_ne_true, Bool.false_and]
    exact decide_eq_false hwhich.symm

/-- Two searches of the same files, one of them limited, report the same on the files in the scope of both. -/
theorem restricts_of_accounts (hincrease : listed.Pairwise fun a b => a.toString < b.toString)
    (hbelow : ∀ file ∈ listed, (search.relative? file).isSome = true)
    (hwhole : (search.withFilter Category.everyDomain).Accounts reads listed whole)
    (hreport : (search.withFilter filter).Accounts reads listed report) :
    (search.withFilter filter).Restricts listed whole report := by
  have hbelongs : ∀ file ∈ listed, ∀ text, text = file.toString →
      decide (text ∈ (search.withFilter filter).textsInScope listed) = (search.withFilter filter).looksAt file := by
    rintro file hfile _ rfl
    exact Bool.eq_iff_iff.2 (decide_eq_true_iff.trans (mem_textsInScope hincrease hfile))
  have hreferences : report.references = whole.references.filter fun reference =>
      reference.file ∈ (search.withFilter filter).textsInScope listed := by
    rw [hreport.references, hwhole.references, filter_group_withFilter hbelow (by decide), sortedReferences_withFilter,
      sortedReferences_withFilter]
    refine (filter_flatMap_eq fun file hfile reference hreference => ?_).symm
    exact hbelongs file (List.mem_of_mem_filter hfile) _ (file_and_category_of_mem_sortedReferences hreference).1
  refine ⟨hreferences, ?_, ?_, ?_⟩
  · have hfailures := hreport.failures
    have hall := hwhole.failures
    rw [filter_group_withFilter hbelow (by decide), isFailureOf_withFilter] at hfailures
    rw [isFailureOf_withFilter] at hall
    refine failures_unique hfailures (forall₂_filter hall fun file hfile failure hfailure => ?_)
    exact hbelongs file (List.mem_of_mem_filter hfile) _ hfailure.1
  · rw [hreport.outOfScope]
    refine List.filter_congr fun file _ => ?_
    rw [looksAt_eq _ reads, decide_not, Bool.not_not]
  · intro reference hreference hcategory
    rw [hreferences]
    refine List.mem_filter.2 ⟨hreference, ?_⟩
    rw [hwhole.references, sortedReferences_withFilter] at hreference
    obtain ⟨file, hfile, hsorted⟩ := List.mem_flatMap.1 hreference
    have hlisted := List.mem_of_mem_filter hfile
    obtain ⟨htext, hown⟩ := file_and_category_of_mem_sortedReferences hsorted
    rw [hbelongs file hlisted _ htext]
    exact looksAt_of_categoryOf_ne (hbelow file hlisted) (hown ▸ hcategory) filter

end Restriction

/-- When neither a search limited to a domain nor the search of all domains is stopped, the report of the first
restricts that of the second to the files in scope, and the other files are not even read. -/
theorem report_withFilter {filter : String} {arrived arrivedAll : List (Except Abort Searched)} {report whole : Report}
    (hnames : Listing.allWellNamed (disk.contents search.root.segments) = true)
    (harrives : (search.withFilter filter).Arrives
      ((search.withFilter filter).outcomes reads disturbances ((search.withFilter filter).discover disk)) arrived)
    (hreport : Report.ofFinished ((search.withFilter filter).discover disk) arrived = .ok report)
    (harrivesAll : (search.withFilter Category.everyDomain).Arrives
      ((search.withFilter Category.everyDomain).outcomes reads disturbances
        ((search.withFilter Category.everyDomain).discover disk)) arrivedAll)
    (hwhole : Report.ofFinished ((search.withFilter Category.everyDomain).discover disk) arrivedAll = .ok whole) :
    (search.withFilter filter).Restricts (search.discover disk) whole report
      ∧ ∀ others : Reads,
        (∀ file ∈ search.discover disk, (search.withFilter filter).looksAt file = true → others file = reads file) →
        (search.withFilter filter).outcomes others disturbances (search.discover disk)
          = (search.withFilter filter).outcomes reads disturbances (search.discover disk) := by
  have haccounts : (search.withFilter filter).Accounts reads ((search.withFilter filter).discover disk) report :=
    accounts_of_report hnames harrives hreport
  have haccountsAll : (search.withFilter Category.everyDomain).Accounts reads
      ((search.withFilter Category.everyDomain).discover disk) whole :=
    accounts_of_report hnames harrivesAll hwhole
  rw [discover_withFilter] at haccounts haccountsAll
  have hbelow : ∀ file ∈ search.discover disk, (search.relative? file).isSome = true :=
    fun file hfile => isSome_relative?_of_mem_discover hfile
  exact ⟨restricts_of_accounts (pairwise_discover hnames) hbelow haccountsAll haccounts,
    fun others hreads => outcomes_congr_reads hbelow hreads⟩

/-- The mixed project has a file of another domain. A search that does not look at it has a report, as one that does. -/
theorem restricts_mixed :
    ∃ report whole,
      Report.ofFinished (mixed.discover mixedDisk)
          ((mixed.withFilter "orders").outcomes sampleReads {} (mixed.discover mixedDisk)).reverse = .ok report
        ∧ Report.ofFinished (mixed.discover mixedDisk)
          ((mixed.withFilter Category.everyDomain).outcomes sampleReads {} (mixed.discover mixedDisk)).reverse
            = .ok whole
        ∧ (mixed.withFilter "orders").Restricts (mixed.discover mixedDisk) whole report := by
  have hnames : Listing.allWellNamed (mixedDisk.contents mixed.root.segments) = true := by decide
  have hquiet : ∀ filter, ∀ file ∈ mixed.discover mixedDisk,
      ∃ searched, (mixed.withFilter filter).searchFile sampleReads {} file = .ok searched :=
    fun filter file hfile => searchFile_eq_ok_of_mem_discover hfile
  have hworkers : 1 < mixed.settings.workers := by decide
  have harrives : ∀ filter, (mixed.withFilter filter).Arrives
      ((mixed.withFilter filter).outcomes sampleReads {} (mixed.discover mixedDisk))
      ((mixed.withFilter filter).outcomes sampleReads {} (mixed.discover mixedDisk)).reverse :=
    fun filter => arrives_reverse hworkers _
  have hbelow : (mixed.relative? (Path.ofString "/project/a.ts")).isSome = true := by decide
  have hlooks : (mixed.withFilter "orders").looksAt (Path.ofString "/project/a.ts") = true := by decide
  have hscanned : (mixed.withFilter Category.everyDomain).group sampleReads (Path.ofString "/project/a.ts")
      = .scanned := by
    have hlimited : (mixed.withFilter "orders").group sampleReads (Path.ofString "/project/a.ts") = .scanned :=
      group_mixed
    rw [group_withFilter hbelow, hlooks, if_pos rfl] at hlimited
    exact hlimited
  obtain ⟨report, hreport⟩ :=
    exists_report_of_scanned (hquiet "orders") (harrives "orders") mem_discover_mixed group_mixed
  obtain ⟨whole, hwhole⟩ := exists_report_of_scanned (hquiet Category.everyDomain) (harrives Category.everyDomain)
    mem_discover_mixed hscanned
  exact ⟨report, whole, hreport, hwhole,
    (report_withFilter hnames (harrives "orders") hreport (harrives Category.everyDomain) hwhole).1⟩

end Search

end UseSites
