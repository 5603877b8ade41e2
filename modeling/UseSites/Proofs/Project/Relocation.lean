import Mathlib.Data.List.Forall2
import UseSites.Proofs.Files.Copies
import UseSites.Proofs.Project.Outcome
import UseSites.Proofs.Project.Scope
import UseSites.Proofs.Settings.Loading
/-!
# Searching a project somewhere else

Where a project lies has no influence on what is found in it. Two searches with the same settings, of projects with
the same content below different roots, list the same files in the same order and report the same of each of them:
their reports `Corresponds`, which allows for no difference but the text of the root in front of a path.

The root is in the paths that are sorted and reported, but not in those that are judged. Patterns, categories and
domains see a file as it lies below the root (`relative?_under`), and the text of a root stands in front of all its
files alike (`toString_under`), so that it does not change their order.
-/

namespace UseSites

/-! ### Paths below a root -/

namespace Path

def under (folder : Path) (below : List String) : Path := ⟨folder.anchor, folder.segments ++ below⟩

def lead (folder : Path) : String :=
  if folder.segments = [] then folder.anchor.text else folder.anchor.text ++ joinSegments folder.segments ++ "/"

theorem toString_under (folder : Path) {below : List String} (hne : below ≠ []) :
    (folder.under below).toString = folder.lead ++ joinSegments below := by
  rw [under, toString_of_segments_ne_nil (List.append_ne_nil_of_right_ne_nil _ hne), lead]
  split
  · next hnil => rw [hnil, List.nil_append]
  · next hsome => rw [joinSegments, String.intercalate_append_of_ne_nil hsome hne, joinSegments, String.append_assoc,
      String.append_assoc, String.append_assoc, joinSegments]

theorem suffix_under (folder : Path) {below : List String} (hne : below ≠ []) :
    (folder.under below).suffix = suffixOfName (below.getLast?.getD "") := by
  rw [suffix, name, under, List.getLast?_append_of_ne_nil _ hne]

/-- Two paths that lie below two roots in the same place. -/
def Corresponds (root other a b : Path) : Prop := ∃ below, a = root.under below ∧ b = other.under below

/-- Two texts of paths that differ in the root in front of them. -/
def TextsCorrespond (root other : Path) (a b : String) : Prop :=
  ∃ text, a = root.lead ++ text ∧ b = other.lead ++ text

end Path

theorem append_lt_append_iff (lead a b : String) : lead ++ a < lead ++ b ↔ a < b := by
  rw [String.lt_iff_toList_lt, String.lt_iff_toList_lt, String.toList_append, String.toList_append]
  induction lead.toList with
  | nil => exact Iff.rfl
  | cons c rest ih => rw [List.cons_append, List.cons_append, List.cons_lt_cons_iff, ih]; simp

/-- What discovery finds below a root, in the order in which it lists it. -/
def Listing.ordered (pruned included : List String → Bool) (entries : List (String × Listing)) :
    List (List String) :=
  (filesAmong pruned included [] entries).mergeSort fun a b => !decide (Path.joinSegments b < Path.joinSegments a)

theorem Listing.holds_of_mem_ordered {pruned included : List String → Bool} {entries : List (String × Listing)}
    {below : List String} (h : below ∈ ordered pruned included entries) : Holds entries below := by
  obtain ⟨found, hfound, hholds, -⟩ := mem_filesAmong_iff.1 (List.mem_mergeSort.1 h)
  rw [List.nil_append] at hfound
  exact hfound ▸ hholds

/-- The root has no influence on what discovery lists, nor on the order. -/
theorem discover_eq_map_under (pruned included : List String → Bool) (root : Path) (entries : List (String × Listing)) :
    discover pruned included root entries = (Listing.ordered pruned included entries).map root.under := by
  refine (List.map_mergeSort fun a ha b hb => ?_).symm
  have hne : ∀ found ∈ Listing.filesAmong pruned included [] entries, found ≠ [] := fun found hfound =>
    (Listing.holds_of_mem_ordered (List.mem_mergeSort.2 hfound)).ne_nil
  change _ = !decide ((root.under b).toString < (root.under a).toString)
  simp only [Path.toString_under root (hne a ha), Path.toString_under root (hne b hb), append_lt_append_iff]

/-! ### Corresponding reports -/

/-- References that differ in nothing but the roots of their files. -/
structure Reference.Corresponds (root other : Path) (a b : Reference) : Prop where
  file : Path.TextsCorrespond root other a.file b.file
  line : b.line = a.line
  role : b.role = a.role
  category : b.category = a.category
  context : b.context = a.context

structure Failure.Corresponds (root other : Path) (a b : Failure) : Prop where
  path : Path.TextsCorrespond root other a.path b.path
  reason : b.reason = a.reason

/-- Reports that correspond element by element. -/
structure Report.Corresponds (root other : Path) (report moved : Report) : Prop where
  files : List.Forall₂ (Path.Corresponds root other) report.files moved.files
  references : List.Forall₂ (Reference.Corresponds root other) report.references moved.references
  failures : List.Forall₂ (Failure.Corresponds root other) report.failures moved.failures
  outOfScope : List.Forall₂ (Path.Corresponds root other) report.outOfScope moved.outOfScope
  summary : moved.summary = report.summary

theorem Summary.ofReferences_congr {references others : List Reference}
    (hroles : others.map Reference.role = references.map Reference.role)
    (hcategories : others.map Reference.category = references.map Reference.category) :
    ofReferences others = ofReferences references := by
  have hrole : ∀ (xs : List Reference) (role : Role),
      xs.countP (·.role == role) = (xs.map Reference.role).countP (· == role) := fun xs role => by
    rw [List.countP_map]
    rfl
  have hcategory : ∀ (xs : List Reference) (category : Category),
      xs.countP (·.category == category) = (xs.map Reference.category).countP (· == category) := fun xs category => by
    rw [List.countP_map]
    rfl
  simp only [ofReferences, hrole, hcategory, hroles, hcategories]

theorem map_eq_of_forall₂ {α β : Type} {relation : α → α → Prop} {f : α → β} {xs ys : List α}
    (hall : List.Forall₂ relation xs ys) (hf : ∀ x y, relation x y → f y = f x) : ys.map f = xs.map f := by
  induction hall with
  | nil => rfl
  | cons hfirst _ ih => rw [List.map_cons, List.map_cons, hf _ _ hfirst, ih]

theorem Summary.ofReferences_of_corresponds {root other : Path} {references others : List Reference}
    (hall : List.Forall₂ (Reference.Corresponds root other) references others) :
    ofReferences others = ofReferences references :=
  ofReferences_congr (map_eq_of_forall₂ hall fun _ _ h => h.role) (map_eq_of_forall₂ hall fun _ _ h => h.category)

/-- Inside a file the order of references does not look at its path. -/
theorem Reference.sortedInFile_map_file (text : String) (references : List Reference) :
    sortedInFile (references.map fun reference => { reference with file := text })
      = (sortedInFile references).map fun reference => { reference with file := text } := by
  unfold sortedInFile
  refine (List.map_mergeSort ?_).symm
  intro a _ b _
  rfl

/-! ### Reading the same files elsewhere -/

theorem Disk.HasFile.ne_nil {disk : Disk} {place below : List String} (h : disk.HasFile place below) : below ≠ [] := by
  obtain ⟨_, _, -, hbelow, -⟩ := h
  exact hbelow.ne_nil

/-- The same project in two places: their folders hold the same, and the same can be read of a file in both. -/
structure SameContent (here there : Surroundings) (root other : Path) : Prop where
  contents : there.disk.contents other.segments = here.disk.contents root.segments
  reads : ∀ below, here.disk.HasFile root.segments below →
    there.reads (other.under below) = here.reads (root.under below)

theorem sameContent_of_copy {here there : Surroundings} {place other : List String} {entries : List (String × Entry)}
    (hhere : here.disk.entryAt? place = some (.folder entries))
    (hthere : there.disk.entryAt? other = some (.folder entries)) (hplain : Entry.arePlain entries = true)
    (hplace : Disk.LeadDown place) (hother : Disk.LeadDown other) :
    SameContent here there ⟨.root, place⟩ ⟨.root, other⟩ where
  contents := Disk.contents_eq_of_plain hhere hthere hplain
  reads := by
    rintro below ⟨found, entry, hfound, hbelow, -⟩
    obtain rfl : found = entries := Entry.folder.inj (Option.some.inj (hfound.symm.trans hhere))
    exact Disk.read_eq_of_plain hhere hthere hplain hplace hother (hbelow.notMem_up hplain) _ _

/-- A file is loaded by its suffix and by what can be read of it. -/
theorem Source.load_of_same_reading {reads others : Reads} {path other : Path} (strict : Bool)
    (hsuffix : other.suffix = path.suffix) (hreads : others other = reads path) :
    load others strict other = (load reads strict path).map fun source => { source with path := other } := by
  unfold load
  rw [Dialect.ofPath?, Dialect.ofPath?, hsuffix]
  cases Dialect.ofSuffix? (Text.lower path.suffix) with
  | none => rfl
  | some dialect =>
    dsimp only
    rw [hreads]
    cases reads path with
    | error trouble => rfl
    | ok bytes =>
      dsimp only
      cases Text.Utf8.decode bytes.toList with
      | error position => rfl
      | ok text =>
        dsimp only
        unfold ofTree
        generalize Grammar.parse dialect text = tree
        split <;> rfl

namespace Search

def movedTo (search : Search) (path root : Path) : Search :=
  { search with settings := { search.settings with root := path }, root := root }

theorem eq_movedTo_of_ofSettings {here there : Surroundings} {settings : Settings} {path : Path} {search moved : Search}
    (hsearch : ofSettings here settings = .ok search)
    (hmoved : ofSettings there { settings with root := path } = .ok moved) :
    moved = search.movedTo path moved.root := by
  unfold ofSettings at hsearch hmoved
  obtain ⟨root, -, hsearch⟩ := bind_eq_ok_iff.1 hsearch
  obtain ⟨includes, hincludes, hsearch⟩ := bind_eq_ok_iff.1 hsearch
  obtain ⟨excludes, hexcludes, hsearch⟩ := bind_eq_ok_iff.1 hsearch
  obtain ⟨other, -, hmoved⟩ := bind_eq_ok_iff.1 hmoved
  rw [hincludes] at hmoved
  obtain ⟨_, hsame, hmoved⟩ := bind_eq_ok_iff.1 hmoved
  obtain rfl := Except.ok.inj hsame
  rw [hexcludes] at hmoved
  obtain ⟨_, hsame, hmoved⟩ := bind_eq_ok_iff.1 hmoved
  obtain rfl := Except.ok.inj hsame
  obtain rfl := Except.ok.inj hsearch
  obtain rfl := Except.ok.inj hmoved
  rfl

variable {search : Search} {reads others : Reads} {below : List String} {path root : Path}

@[simp]
theorem root_movedTo : (search.movedTo path root).root = root := rfl

@[simp]
theorem strict_movedTo : (search.movedTo path root).settings.strict = search.settings.strict := rfl

theorem references_movedTo (category : Category) (source : Source) (file : Path) :
    (search.movedTo path root).references category { source with path := file }
      = (search.references category source).map fun reference => { reference with file := file.toString } := by
  unfold references
  rw [List.map_map]
  rfl

theorem discover_movedTo (search : Search) (path : Path) {disk other : Disk}
    (hcontents : other.contents root.segments = disk.contents search.root.segments) :
    ∃ belows : List (List String), search.discover disk = belows.map search.root.under
      ∧ (search.movedTo path root).discover other = belows.map root.under
      ∧ ∀ below ∈ belows, disk.HasFile search.root.segments below := by
  refine ⟨_, discover_eq_map_under _ _ _ _, ?_, fun below hbelow =>
    Disk.holds_contents_iff.1 (Listing.holds_of_mem_ordered hbelow)⟩
  rw [← hcontents]
  exact discover_eq_map_under _ _ _ _

/-- Below the root a file is seen without the root. -/
theorem relative?_under (search : Search) (below : List String) :
    search.relative? (search.root.under below) = some (Path.mk .here below).toString := by
  have hbelow : Path.below? search.root (search.root.under below) = some below := by
    simp [Path.below?, Path.under]
  rw [relative?, Path.relativeTo?, hbelow]
  rfl

theorem looksAt_movedTo :
    (search.movedTo path root).looksAt (root.under below) = search.looksAt (search.root.under below) := by
  have hmoved := relative?_under (search.movedTo path root) below
  rw [root_movedTo] at hmoved
  rw [looksAt, looksAt, relative?_under, hmoved]
  rfl

theorem categoryOf_movedTo :
    (search.movedTo path root).categoryOf (root.under below) = search.categoryOf (search.root.under below) := by
  have hmoved := relative?_under (search.movedTo path root) below
  rw [root_movedTo] at hmoved
  rw [categoryOf, categoryOf, relative?_under, hmoved]

section File

variable (hne : below ≠ []) (hreads : others (root.under below) = reads (search.root.under below))

include hne hreads

theorem load_movedTo :
    Source.load others (search.movedTo path root).settings.strict (root.under below)
      = (Source.load reads search.settings.strict (search.root.under below)).map
        fun source => { source with path := root.under below } := by
  rw [strict_movedTo]
  exact Source.load_of_same_reading _ (by rw [Path.suffix_under root hne, Path.suffix_under _ hne]) hreads

theorem group_movedTo :
    (search.movedTo path root).group others (root.under below) = search.group reads (search.root.under below) := by
  unfold group
  rw [looksAt_movedTo, load_movedTo hne hreads]
  cases Source.load reads search.settings.strict (search.root.under below) <;> rfl

theorem failureOf?_movedTo :
    (search.movedTo path root).failureOf? others (root.under below)
      = (search.failureOf? reads (search.root.under below)).map
        fun failure => { failure with path := (root.under below).toString } := by
  unfold failureOf?
  rw [looksAt_movedTo, load_movedTo hne hreads]
  split
  · cases Source.load reads search.settings.strict (search.root.under below) <;> rfl
  · rfl

theorem sortedReferences_movedTo :
    (search.movedTo path root).sortedReferences others (root.under below)
      = (search.sortedReferences reads (search.root.under below)).map
        fun reference => { reference with file := (root.under below).toString } := by
  unfold sortedReferences
  rw [load_movedTo hne hreads, categoryOf_movedTo]
  cases Source.load reads search.settings.strict (search.root.under below) with
  | error flaw => rfl
  | ok source =>
    dsimp only [Except.map]
    rw [references_movedTo, Reference.sortedInFile_map_file]

end File

/-! ### Whole reports -/

theorem forall₂_flatMap_of_forall {α β : Type} {relation : β → β → Prop} {f g : α → List β} {xs : List α}
    (h : ∀ x ∈ xs, List.Forall₂ relation (f x) (g x)) : List.Forall₂ relation (xs.flatMap f) (xs.flatMap g) := by
  induction xs with
  | nil => exact .nil
  | cons x rest ih =>
    obtain ⟨hx, hrest⟩ := List.forall_mem_cons.1 h
    rw [List.flatMap_cons, List.flatMap_cons]
    exact List.rel_append hx (ih hrest)

section Lists

variable {belows : List (List String)}
  (hfiles : ∀ below ∈ belows, below ≠ [] ∧ others (root.under below) = reads (search.root.under below))

theorem forall₂_under (belows : List (List String)) (root other : Path) :
    List.Forall₂ (Path.Corresponds root other) (belows.map root.under) (belows.map other.under) := by
  rw [List.forall₂_map_left_iff, List.forall₂_map_right_iff, List.forall₂_same]
  exact fun below _ => ⟨below, rfl, rfl⟩

theorem length_filter_looksAt_movedTo (belows : List (List String)) :
    ((belows.map root.under).filter (search.movedTo path root).looksAt).length
      = ((belows.map search.root.under).filter search.looksAt).length := by
  rw [List.filter_map, List.filter_map, List.length_map, List.length_map]
  refine congrArg _ (List.filter_congr fun below _ => ?_)
  rw [Function.comp_apply, Function.comp_apply, looksAt_movedTo]

include hfiles

theorem filter_group_movedTo (which : Group) :
    (belows.map root.under).filter ((search.movedTo path root).group others · = which)
      = (belows.filter fun below => search.group reads (search.root.under below) = which).map root.under := by
  rw [List.filter_map]
  refine congrArg _ (List.filter_congr fun below hbelow => ?_)
  obtain ⟨hne, hreads⟩ := hfiles below hbelow
  rw [Function.comp_apply, group_movedTo hne hreads]

theorem references_correspond :
    List.Forall₂ (Reference.Corresponds search.root root)
      (((belows.map search.root.under).filter (search.group reads · = .scanned)).flatMap
        (search.sortedReferences reads))
      (((belows.map root.under).filter ((search.movedTo path root).group others · = .scanned)).flatMap
        ((search.movedTo path root).sortedReferences others)) := by
  rw [filter_group_movedTo hfiles, List.filter_map, List.flatMap_map, List.flatMap_map]
  apply forall₂_flatMap_of_forall
  intro below hbelow
  obtain ⟨hne, hreads⟩ := hfiles below (List.mem_of_mem_filter hbelow)
  rw [sortedReferences_movedTo hne hreads, List.forall₂_map_right_iff, List.forall₂_same]
  intro reference hreference
  have hfile := (file_and_category_of_mem_sortedReferences hreference).1
  rw [Path.toString_under _ hne] at hfile
  exact ⟨⟨_, hfile, Path.toString_under root hne⟩, rfl, rfl, rfl, rfl⟩

theorem failures_correspond :
    List.Forall₂ (Failure.Corresponds search.root root)
      ((belows.map search.root.under).filterMap (search.failureOf? reads))
      ((belows.map root.under).filterMap ((search.movedTo path root).failureOf? others)) := by
  induction belows with
  | nil => exact .nil
  | cons below rest ih =>
    obtain ⟨⟨hne, hreads⟩, hrest⟩ := List.forall_mem_cons.1 hfiles
    have hmoved := @failureOf?_movedTo search reads others below path root hne hreads
    rw [List.map_cons, List.map_cons]
    cases hfailure : search.failureOf? reads (search.root.under below) with
    | none =>
      rw [hfailure, Option.map_none] at hmoved
      rw [List.filterMap_cons_none hfailure, List.filterMap_cons_none hmoved]
      exact ih hrest
    | some failure =>
      rw [hfailure, Option.map_some] at hmoved
      rw [List.filterMap_cons_some hfailure, List.filterMap_cons_some hmoved]
      have hpath : failure.path = (search.root.under below).toString := path_of_failureOf? hfailure
      rw [Path.toString_under _ hne] at hpath
      exact .cons ⟨⟨_, hpath, Path.toString_under root hne⟩, rfl⟩ (ih hrest)

theorem corresponds_of_accounts {report moved : Report}
    (hreport : search.Accounts reads (belows.map search.root.under) report)
    (hmoved : (search.movedTo path root).Accounts others (belows.map root.under) moved) :
    report.Corresponds search.root root moved := by
  have hreferences := @references_correspond search reads others path root belows hfiles
  rw [← hreport.references, ← hmoved.references] at hreferences
  refine ⟨?_, hreferences, ?_, ?_, Summary.ofReferences_of_corresponds hreferences⟩
  · rw [hreport.files, hmoved.files]
    exact forall₂_under _ _ _
  · rw [hreport.failures_eq, hmoved.failures_eq]
    exact failures_correspond hfiles
  · rw [hreport.outOfScope, hmoved.outOfScope, filter_group_movedTo hfiles, List.filter_map]
    exact forall₂_under _ _ _

theorem allFail_movedTo_iff :
    (search.movedTo path root).AllFail others (belows.map root.under)
      ↔ search.AllFail reads (belows.map search.root.under) := by
  unfold AllFail
  rw [length_filter_looksAt_movedTo, List.forall_mem_map, List.forall_mem_map]
  refine and_congr_right fun _ => forall₂_congr fun below hbelow => ?_
  obtain ⟨hne, hreads⟩ := hfiles below hbelow
  rw [looksAt_movedTo, group_movedTo hne hreads]

end Lists

/-- Where a project lies has no influence on a search of it. Two searches whose settings differ in the root alone, of
projects with the same content, list the same files in the same order. When no file stops them, however many workers
there are, all files in scope fail in both, or both have a report, and the reports correspond. -/
theorem reports_correspond {here there : Surroundings} {settings : Settings} {elsewhere : Path} {search moved : Search}
    {disturbances others : Disturbances} {arrived arrivedThere : List (Except Abort Searched)}
    (hsearch : ofSettings here settings = .ok search)
    (hmoved : ofSettings there { settings with root := elsewhere } = .ok moved)
    (hsame : SameContent here there search.root moved.root)
    (hnames : Listing.allWellNamed (here.disk.contents search.root.segments) = true)
    (hquiet : ∀ file ∈ search.discover here.disk,
      ∃ searched, search.searchFile here.reads disturbances file = .ok searched)
    (hquietThere : ∀ file ∈ moved.discover there.disk,
      ∃ searched, moved.searchFile there.reads others file = .ok searched)
    (harrives : search.Arrives (search.outcomes here.reads disturbances (search.discover here.disk)) arrived)
    (harrivesThere : moved.Arrives (moved.outcomes there.reads others (moved.discover there.disk)) arrivedThere) :
    List.Forall₂ (Path.Corresponds search.root moved.root) (search.discover here.disk) (moved.discover there.disk)
      ∧ (moved.discover there.disk).map moved.relative? = (search.discover here.disk).map search.relative?
      ∧ ((∃ count, Report.ofFinished (search.discover here.disk) arrived = .error (.allFailed count)
          ∧ Report.ofFinished (moved.discover there.disk) arrivedThere = .error (.allFailed count))
        ∨ ∃ report counterpart, Report.ofFinished (search.discover here.disk) arrived = .ok report
          ∧ Report.ofFinished (moved.discover there.disk) arrivedThere = .ok counterpart
          ∧ report.Corresponds search.root moved.root counterpart) := by
  obtain ⟨root, rfl⟩ : ∃ root, moved = search.movedTo elsewhere root := ⟨_, eq_movedTo_of_ofSettings hsearch hmoved⟩
  rw [root_movedTo] at hsame ⊢
  have hnamesThere : Listing.allWellNamed (there.disk.contents root.segments) = true := hsame.contents ▸ hnames
  have houtcome := outcome_of_arrives hnames hquiet harrives
  have houtcomeThere := outcome_of_arrives hnamesThere hquietThere harrivesThere
  obtain ⟨belows, hlisted, hlistedThere, hfound⟩ :=
    discover_movedTo search elsewhere hsame.contents
  have hfiles : ∀ below ∈ belows,
      below ≠ [] ∧ there.reads (root.under below) = here.reads (search.root.under below) := fun below hbelow =>
    ⟨(hfound below hbelow).ne_nil, hsame.reads below (hfound below hbelow)⟩
  rw [hlistedThere] at houtcomeThere ⊢
  rw [hlisted] at houtcome ⊢
  refine ⟨forall₂_under _ _ _, ?_, ?_⟩
  · rw [List.map_map, List.map_map]
    refine List.map_congr_left fun below _ => ?_
    exact (relative?_under (search.movedTo elsewhere root) below).trans (relative?_under search below).symm
  · rcases houtcome with ⟨hall, hfail⟩ | ⟨hsome, report, hreport, haccounts⟩
    · rcases houtcomeThere with ⟨-, hfailThere⟩ | ⟨hsomeThere, -⟩
      · rw [length_filter_looksAt_movedTo] at hfailThere
        exact Or.inl ⟨_, hfail, hfailThere⟩
      · exact absurd ((allFail_movedTo_iff hfiles).2 hall) hsomeThere
    · rcases houtcomeThere with ⟨hallThere, -⟩ | ⟨-, counterpart, hcounterpart, haccountsThere⟩
      · exact absurd ((allFail_movedTo_iff hfiles).1 hallThere) hsome
      · exact Or.inr ⟨report, counterpart, hreport, hcounterpart,
          corresponds_of_accounts hfiles haccounts haccountsThere⟩

/-- A project, and a copy of it below folders whose names would count if they were inside of it. -/
def copies : Surroundings where
  disk :=
    let project := .folder
      [("a.ts", .file "foo();".toUTF8), ("node_modules", .folder [("b.ts", .file "foo();".toUTF8)])]
    ⟨[("project", project), ("api", .folder [("node_modules", project)])]⟩
  environment := .empty
  folder := []

def copySettings : Settings :=
  { sample.settings with includes := ["*"], excludes := ["node_modules/"], workers := 4, strict := false }

def copySearch : Search where
  settings := copySettings
  root := Path.ofString "/project"
  includes := ((Ignore.Pattern.ofLines copySettings.includes).toOption).getD []
  excludes := ((Ignore.Pattern.ofLines copySettings.excludes).toOption).getD []

def copyElsewhere : Search := copySearch.movedTo (Path.ofString "/api/node_modules") (Path.ofString "/api/node_modules")

theorem ofSettings_copies {path root : Path} (hroot : copies.projectRoot path = .ok root) :
    ofSettings copies { copySettings with root := path } = .ok (copySearch.movedTo path root) := by
  have hincludes : Ignore.Pattern.ofLines copySettings.includes = .ok copySearch.includes := rfl
  have hexcludes : Ignore.Pattern.ofLines copySettings.excludes = .ok copySearch.excludes := rfl
  unfold ofSettings
  dsimp only
  rw [hroot, hincludes, hexcludes]
  rfl

theorem group_copies : copySearch.group copies.reads (Path.ofString "/project/a.ts") = .scanned := by
  have hlooks : copySearch.looksAt (Path.ofString "/project/a.ts") = true := by decide
  have hdialect : Dialect.ofPath? (Path.ofString "/project/a.ts") = some .typescript := by decide
  have hread : copies.reads (Path.ofString "/project/a.ts") = .ok "foo();".toUTF8 := by cbv
  exact group_of_text hlooks hdialect hread (Or.inl rfl)

/-- The folder `node_modules` is left out where it lies in the project, and makes no difference where the project lies
in it. -/
theorem reports_correspond_copies :
    ∃ report counterpart,
      Report.ofFinished (copySearch.discover copies.disk)
          (copySearch.outcomes copies.reads {} (copySearch.discover copies.disk)).reverse = .ok report
        ∧ Report.ofFinished (copyElsewhere.discover copies.disk)
          (copyElsewhere.outcomes copies.reads {} (copyElsewhere.discover copies.disk)).reverse = .ok counterpart
        ∧ report.Corresponds copySearch.root copyElsewhere.root counterpart := by
  have hroot : copies.projectRoot (Path.ofString "/project") = .ok (Path.ofString "/project") :=
    Surroundings.projectRoot_eq_ok_iff.2
      ⟨["project"], _, ⟨Path.ofString "/project", rfl, by decide, by cbv⟩, rfl, by cbv, List.not_mem_nil⟩
  have hrootThere : copies.projectRoot (Path.ofString "/api/node_modules") = .ok (Path.ofString "/api/node_modules") :=
    Surroundings.projectRoot_eq_ok_iff.2
      ⟨["api", "node_modules"], _, ⟨Path.ofString "/api/node_modules", rfl, by decide, by cbv⟩, rfl, by cbv, List.not_mem_nil⟩
  have hsame : SameContent copies copies copySearch.root copyElsewhere.root :=
    @sameContent_of_copy copies copies ["project"] ["api", "node_modules"] _ rfl rfl (by decide) (by decide) (by decide)
  have hquiet : ∀ search : Search, ∀ file ∈ search.discover copies.disk,
      ∃ searched, search.searchFile copies.reads {} file = .ok searched :=
    fun search file hfile => searchFile_eq_ok_of_mem_discover hfile
  have hworkers : 1 < copySettings.workers := by decide
  have harrives : copySearch.Arrives _ _ :=
    arrives_reverse hworkers (copySearch.outcomes copies.reads {} (copySearch.discover copies.disk))
  have harrivesThere : copyElsewhere.Arrives _ _ :=
    arrives_reverse hworkers (copyElsewhere.outcomes copies.reads {} (copyElsewhere.discover copies.disk))
  have hmem : Path.ofString "/project/a.ts" ∈ copySearch.discover copies.disk :=
    mem_discover.2 ⟨["a.ts"], by decide, by decide⟩
  obtain ⟨report, hreport⟩ := exists_report_of_scanned (hquiet copySearch) harrives hmem group_copies
  obtain ⟨-, -, ⟨count, hfail, -⟩ | hboth⟩ := reports_correspond (ofSettings_copies hroot)
    (ofSettings_copies hrootThere) hsame (by decide) (hquiet copySearch) (hquiet copyElsewhere) harrives harrivesThere
  · cases hreport.symm.trans hfail
  · exact hboth

end Search

end UseSites
