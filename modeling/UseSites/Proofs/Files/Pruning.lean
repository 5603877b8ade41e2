import Mathlib
import UseSites.Project.Search
import UseSites.Proofs.Files.Discovery
/-!
# What discovery reaches

Discovery never enters an excluded folder. `HasFile` says what there is below a folder when nothing is left
out: everything in it and in its folders that is no folder itself, where a link counts as what it leads to
but is not followed. `discover_eq_reached` says which of these files discovery lists, for any judgement of
paths: those that are kept and have no excluded folder above them.

A judgement that excludes everything below a folder together with the folder is closed under descent. For
such a judgement one cannot see from the result that folders were left out.
-/

namespace UseSites

/-- An entry below a folder: it is in the folder, or in a folder below it. -/
inductive Entry.Below : List (String × Entry) → List String → Entry → Prop where
  | here {entries : List (String × Entry)} {name : String} {entry : Entry} (hmem : (name, entry) ∈ entries) :
      Below entries [name] entry
  | inside {entries inner : List (String × Entry)} {name : String} {below : List String} {entry : Entry}
      (hmem : (name, .folder inner) ∈ entries) (hbelow : Below inner below entry) :
      Below entries (name :: below) entry

theorem Entry.Below.ne_nil {entries : List (String × Entry)} {below : List String} {entry : Entry}
    (h : Below entries below entry) : below ≠ [] := by
  cases h <;> exact List.cons_ne_nil _ _

/-- Something holds for every folder on the way to a place, the place itself left out. -/
def FoldersAbove (below : List String) (p : List String → Prop) : Prop :=
  ∀ folder rest, folder ≠ [] → rest ≠ [] → below = folder ++ rest → p folder

theorem foldersAbove_singleton (name : String) (p : List String → Prop) : FoldersAbove [name] p := by
  intro folder rest hfolder hrest heq
  have hlength := congrArg List.length heq
  rw [List.length_append, List.length_singleton] at hlength
  have := List.length_pos_iff.2 hfolder
  have := List.length_pos_iff.2 hrest
  omega

theorem foldersAbove_cons {name : String} {below : List String} {p : List String → Prop} (hne : below ≠ []) :
    FoldersAbove (name :: below) p ↔ p [name] ∧ FoldersAbove below fun folder => p (name :: folder) := by
  constructor
  · intro h
    refine ⟨h [name] below (List.cons_ne_nil _ _) hne rfl, fun folder rest _ hrest heq => ?_⟩
    exact h (name :: folder) rest (List.cons_ne_nil _ _) hrest (by rw [heq, List.cons_append])
  · rintro ⟨hfirst, hothers⟩ folder rest hfolder hrest heq
    cases folder with
    | nil => exact absurd rfl hfolder
    | cons first inner =>
      obtain ⟨rfl, hbelow⟩ := List.cons.inj heq
      by_cases hinner : inner = []
      · rw [hinner]
        exact hfirst
      · exact hothers inner rest hinner hrest hbelow

namespace Listing

/-- A file of a listing: it is in the folder, or in a folder below it. -/
inductive Holds : List (String × Listing) → List String → Prop where
  | here {entries : List (String × Listing)} {name : String} (hmem : (name, .file) ∈ entries) : Holds entries [name]
  | inside {entries inner : List (String × Listing)} {name : String} {below : List String}
      (hmem : (name, .folder inner) ∈ entries) (hbelow : Holds inner below) : Holds entries (name :: below)

theorem Holds.ne_nil {entries : List (String × Listing)} {below : List String} (h : Holds entries below) :
    below ≠ [] := by
  cases h <;> exact List.cons_ne_nil _ _

theorem Holds.mono {entries others : List (String × Listing)} {below : List String} (h : Holds entries below)
    (hsub : entries ⊆ others) : Holds others below := by
  cases h with
  | here hmem => exact .here (hsub hmem)
  | inside hmem hbelow => exact .inside (hsub hmem) hbelow

variable {pruned included : List String → Bool}

mutual

theorem holds_of_mem_files {above segments : List String} {name : String} {entry : Listing}
    (h : segments ∈ entry.files pruned included above name) :
    ∃ below, segments = above ++ below ∧ Holds [(name, entry)] below
      ∧ FoldersAbove below (fun folder => pruned (above ++ folder) = false) ∧ included segments = true := by
  cases entry with
  | file =>
    rw [files] at h
    split at h
    · rename_i hincluded
      obtain rfl := List.mem_singleton.1 h
      exact ⟨[name], rfl, .here List.mem_cons_self, foldersAbove_singleton _ _, hincluded⟩
    · cases h
  | linkedFolder => cases h
  | folder entries =>
    rw [files] at h
    split at h
    · cases h
    · rename_i hopen
      obtain ⟨below, rfl, hbelow, hfolders, hincluded⟩ := holds_of_mem_filesAmong h
      refine ⟨name :: below, by rw [List.append_assoc, List.singleton_append],
        .inside List.mem_cons_self hbelow, (foldersAbove_cons hbelow.ne_nil).2 ⟨?_, ?_⟩, hincluded⟩
      · exact Bool.eq_false_iff.2 hopen
      · simpa only [List.append_assoc, List.singleton_append] using hfolders

theorem holds_of_mem_filesAmong {above segments : List String} {entries : List (String × Listing)}
    (h : segments ∈ filesAmong pruned included above entries) :
    ∃ below, segments = above ++ below ∧ Holds entries below
      ∧ FoldersAbove below (fun folder => pruned (above ++ folder) = false) ∧ included segments = true := by
  cases entries with
  | nil => cases h
  | cons first rest =>
    rw [filesAmong, List.mem_append] at h
    rcases h with h | h
    · obtain ⟨below, heq, hholds, hkept⟩ := holds_of_mem_files h
      refine ⟨below, heq, hholds.mono ?_, hkept⟩
      exact List.cons_subset_cons _ (List.nil_subset _)
    · obtain ⟨below, heq, hholds, hkept⟩ := holds_of_mem_filesAmong h
      exact ⟨below, heq, hholds.mono (List.subset_cons_self _ _), hkept⟩

end

theorem mem_filesAmong_of_mem {above segments : List String} {name : String} {entry : Listing}
    {entries : List (String × Listing)} (hentry : (name, entry) ∈ entries)
    (h : segments ∈ entry.files pruned included above name) :
    segments ∈ filesAmong pruned included above entries := by
  induction entries with
  | nil => cases hentry
  | cons first rest ih =>
    rw [filesAmong, List.mem_append]
    rcases List.mem_cons.1 hentry with rfl | hrest
    · exact Or.inl h
    · exact Or.inr (ih hrest)

theorem mem_filesAmong_of_holds {above below : List String} {entries : List (String × Listing)}
    (hholds : Holds entries below) (hfolders : FoldersAbove below fun folder => pruned (above ++ folder) = false)
    (hincluded : included (above ++ below) = true) :
    above ++ below ∈ filesAmong pruned included above entries := by
  induction hholds generalizing above with
  | here hmem =>
    refine mem_filesAmong_of_mem hmem ?_
    rw [files, if_pos hincluded]
    exact List.mem_singleton_self _
  | @inside entries inner name below hmem hbelow ih =>
    obtain ⟨hopen, hothers⟩ := (foldersAbove_cons hbelow.ne_nil).1 hfolders
    refine mem_filesAmong_of_mem hmem ?_
    have hplace : above ++ name :: below = above ++ [name] ++ below := List.append_cons above name below
    rw [files, if_neg (Bool.eq_false_iff.1 hopen), hplace]
    refine ih ?_ (hplace ▸ hincluded)
    simpa only [List.append_assoc, List.singleton_append] using hothers

/-- Discovery finds the files that are included and have no pruned folder above them. -/
theorem mem_filesAmong_iff {above segments : List String} {entries : List (String × Listing)} :
    segments ∈ filesAmong pruned included above entries ↔
      ∃ below, segments = above ++ below ∧ Holds entries below
        ∧ FoldersAbove below (fun folder => pruned (above ++ folder) = false) ∧ included segments = true := by
  constructor
  · exact holds_of_mem_filesAmong
  · rintro ⟨below, rfl, hholds, hfolders, hincluded⟩
    exact mem_filesAmong_of_holds hholds hfolders hincluded

end Listing

namespace Disk

variable {disk : Disk}

def IsFolder (disk : Disk) (place : List String) : Entry → Prop
  | .file _ => False
  | .link target => ∃ entries, disk.find place (Path.ofString target) = .ok (.folder entries)
  | .folder _ => True

/-- A file below the folder at a place, which is everything that is no folder. Only folders are entered, and no
links. -/
def HasFile (disk : Disk) (place below : List String) : Prop :=
  ∃ entries entry, disk.entryAt? place = some (.folder entries) ∧ Entry.Below entries below entry
    ∧ ¬disk.IsFolder (place ++ below.dropLast) entry

theorem leadsToFolder_iff {place : List String} {target : String} :
    disk.leadsToFolder place target = true ↔ disk.IsFolder place (.link target) := by
  unfold leadsToFolder IsFolder
  split <;> simp_all

theorem listing_eq_file_iff {place : List String} {name : String} {entry : Entry} :
    disk.listing place name entry = .file ↔ ¬disk.IsFolder place entry := by
  cases entry with
  | file bytes => simp [listing, IsFolder]
  | link target =>
    rw [listing, ← leadsToFolder_iff]
    split <;> simp_all
  | folder entries => simp [listing, IsFolder]

theorem listing_eq_folder_iff {place : List String} {name : String} {entry : Entry}
    {inner : List (String × Listing)} :
    disk.listing place name entry = .folder inner ↔
      ∃ entries, entry = .folder entries ∧ inner = disk.listings (place ++ [name]) entries := by
  cases entry with
  | file bytes => simp [listing]
  | link target =>
    rw [listing]
    split <;> simp
  | folder entries => simp [listing, eq_comm]

theorem mem_listings {place : List String} {name : String} {found : Listing} {entries : List (String × Entry)} :
    (name, found) ∈ disk.listings place entries ↔
      ∃ entry, (name, entry) ∈ entries ∧ disk.listing place name entry = found := by
  induction entries with
  | nil => simp [listings]
  | cons first rest ih =>
    obtain ⟨other, entry⟩ := first
    rw [listings, List.mem_cons, ih]
    simp only [List.mem_cons, Prod.mk.injEq]
    grind

theorem holds_listings_iff {place below : List String} {entries : List (String × Entry)} :
    Listing.Holds (disk.listings place entries) below ↔
      ∃ entry, Entry.Below entries below entry ∧ ¬disk.IsFolder (place ++ below.dropLast) entry := by
  constructor
  · intro h
    generalize hlistings : disk.listings place entries = found at h
    induction h generalizing place entries with
    | here hmem =>
      subst hlistings
      obtain ⟨entry, hentry, hfile⟩ := mem_listings.1 hmem
      refine ⟨entry, .here hentry, ?_⟩
      rw [List.dropLast_singleton, List.append_nil]
      exact listing_eq_file_iff.1 hfile
    | @inside _ _ name below hmem hbelow ih =>
      subst hlistings
      obtain ⟨entry, hentry, hfolder⟩ := mem_listings.1 hmem
      obtain ⟨inner, rfl, hinner⟩ := listing_eq_folder_iff.1 hfolder
      obtain ⟨file, hfile, hkind⟩ := ih hinner.symm
      refine ⟨file, .inside hentry hfile, ?_⟩
      rwa [List.dropLast_cons_of_ne_nil hbelow.ne_nil, List.append_cons]
  · rintro ⟨entry, hbelow, hkind⟩
    induction hbelow generalizing place with
    | here hmem =>
      rw [List.dropLast_singleton, List.append_nil] at hkind
      exact .here (mem_listings.2 ⟨_, hmem, listing_eq_file_iff.2 hkind⟩)
    | inside hmem hbelow ih =>
      rw [List.dropLast_cons_of_ne_nil hbelow.ne_nil, List.append_cons] at hkind
      exact .inside (mem_listings.2 ⟨_, hmem, listing_eq_folder_iff.2 ⟨_, rfl, rfl⟩⟩) (ih hkind)

theorem holds_contents_iff {place below : List String} :
    Listing.Holds (disk.contents place) below ↔ disk.HasFile place below := by
  unfold contents HasFile
  split
  · rename_i entries hplace
    simp [hplace, holds_listings_iff]
  · rename_i hplace
    constructor
    · intro h
      cases h <;> contradiction
    · rintro ⟨entries, _, hentries, -⟩
      exact absurd hentries (hplace entries)

end Disk

/-! ### Judging paths by their texts -/

def prunedBy (excludes : String → Bool) (folder : List String) : Bool := excludes (Path.joinSegments folder ++ "/")

def keptBy (excludes includes : String → Bool) (below : List String) : Bool :=
  !excludes (Path.joinSegments below) && includes (Path.joinSegments below)

/-- The files that discovery lists on a disk when paths below the root are judged as texts. -/
def discoverBy (excludes includes : String → Bool) (root : Path) (disk : Disk) : List Path :=
  discover (prunedBy excludes) (keptBy excludes includes) root (disk.contents root.segments)

/-- What is below an excluded folder is excluded as well. -/
def ClosedUnderDescent (excludes : String → Bool) : Prop :=
  ∀ folder rest : List String, folder ≠ [] → rest ≠ [] →
    excludes (Path.joinSegments folder ++ "/") = true → excludes (Path.joinSegments (folder ++ rest)) = true

theorem foldersAbove_of_kept {excludes includes : String → Bool} (hclosed : ClosedUnderDescent excludes)
    {below : List String} (hkept : keptBy excludes includes below = true) :
    FoldersAbove below fun folder => prunedBy excludes folder = false := by
  rw [keptBy, Bool.and_eq_true, Bool.not_eq_true'] at hkept
  rintro folder rest hfolder hrest rfl
  refine Bool.eq_false_iff.2 fun hpruned => ?_
  rw [hclosed folder rest hfolder hrest hpruned] at hkept
  exact absurd hkept.1 (by decide)

variable {pruned included : List String → Bool} {excludes includes : String → Bool} {disk : Disk} {root file : Path}

theorem mem_discover_contents :
    file ∈ discover pruned included root (disk.contents root.segments) ↔
      ∃ below, file = ⟨root.anchor, root.segments ++ below⟩ ∧ disk.HasFile root.segments below
        ∧ FoldersAbove below (fun folder => pruned folder = false) ∧ included below = true := by
  rw [mem_discover]
  constructor
  · rintro ⟨segments, hfound, rfl⟩
    obtain ⟨below, hsegments, hholds, hfolders, hincluded⟩ := Listing.mem_filesAmong_iff.1 hfound
    obtain rfl : segments = below := hsegments
    exact ⟨segments, rfl, Disk.holds_contents_iff.1 hholds, hfolders, hincluded⟩
  · rintro ⟨below, rfl, hfile, hfolders, hincluded⟩
    exact ⟨below, Listing.mem_filesAmong_iff.2
      ⟨below, rfl, Disk.holds_contents_iff.2 hfile, hfolders, hincluded⟩, rfl⟩

theorem mem_discoverBy_of_closed (hclosed : ClosedUnderDescent excludes) :
    file ∈ discoverBy excludes includes root disk ↔
      ∃ below, file = ⟨root.anchor, root.segments ++ below⟩ ∧ disk.HasFile root.segments below
        ∧ keptBy excludes includes below = true := by
  rw [discoverBy, mem_discover_contents]
  constructor
  · rintro ⟨below, hbelow, hfile, -, hkept⟩
    exact ⟨below, hbelow, hfile, hkept⟩
  · rintro ⟨below, hbelow, hfile, hkept⟩
    exact ⟨below, hbelow, hfile, foldersAbove_of_kept hclosed hkept, hkept⟩

/-- For a judgement that is closed under descent it makes no difference that excluded folders are not entered. -/
theorem discoverBy_eq_discover (hnames : Listing.allWellNamed (disk.contents root.segments) = true)
    (hclosed : ClosedUnderDescent excludes) :
    discoverBy excludes includes root disk
      = discover (fun _ => false) (keptBy excludes includes) root (disk.contents root.segments) := by
  have hsame : ∀ file, file ∈ discoverBy excludes includes root disk ↔
      file ∈ discover (fun _ => false) (keptBy excludes includes) root (disk.contents root.segments) := by
    intro file
    rw [mem_discoverBy_of_closed hclosed, mem_discover_contents]
    refine exists_congr fun below => and_congr_right fun _ => and_congr_right fun _ => ?_
    exact (and_iff_right fun _ _ _ _ _ => rfl).symm
  exact List.Pairwise.eq_of_mem_iff (pairwise_discover hnames) (pairwise_discover hnames) hsame

theorem Search.includes?_of_below {search : Search} {below : List String} (hne : below ≠ []) :
    search.includes? ⟨search.root.anchor, search.root.segments ++ below⟩
      = some (keptBy (Ignore.selects search.excludes) (Ignore.selects search.includes) below) := by
  have hbelow : Path.below? search.root ⟨search.root.anchor, search.root.segments ++ below⟩ = some below := by
    simp [Path.below?]
  rw [includes?, relative?, Path.relativeTo?, hbelow, Option.map_some, Option.map_some, Option.map_some,
    Path.toString_of_segments_ne_nil hne]
  rfl

/-- Discovery lists, in the strict order of their texts, the files that are kept and lie in no excluded folder. When
what is below an excluded folder is excluded anyway, these are all the files that are kept, so that leaving folders
out cannot be seen. A search judges paths by its patterns. -/
theorem discoverBy_reaches (hnames : Listing.allWellNamed (disk.contents root.segments) = true) :
    (discoverBy excludes includes root disk).Pairwise (fun a b => a.toString < b.toString)
      ∧ (∀ file, file ∈ discoverBy excludes includes root disk ↔
          ∃ below, file = ⟨root.anchor, root.segments ++ below⟩ ∧ disk.HasFile root.segments below
            ∧ FoldersAbove below (fun folder => excludes (Path.joinSegments folder ++ "/") = false)
            ∧ keptBy excludes includes below = true)
      ∧ (ClosedUnderDescent excludes →
          (∀ file, file ∈ discoverBy excludes includes root disk ↔
            ∃ below, file = ⟨root.anchor, root.segments ++ below⟩ ∧ disk.HasFile root.segments below
              ∧ keptBy excludes includes below = true)
          ∧ discoverBy excludes includes root disk
            = discover (fun _ => false) (keptBy excludes includes) root (disk.contents root.segments))
      ∧ ∀ search : Search, search.root = root → Ignore.selects search.excludes = excludes →
          Ignore.selects search.includes = includes →
          search.discover disk = discoverBy excludes includes root disk
            ∧ ∀ below, below ≠ [] →
              search.includes? ⟨root.anchor, root.segments ++ below⟩ = some (keptBy excludes includes below) := by
  refine ⟨pairwise_discover hnames, fun file => mem_discover_contents,
    fun hclosed => ⟨fun file => mem_discoverBy_of_closed hclosed, discoverBy_eq_discover hnames hclosed⟩, ?_⟩
  rintro search rfl rfl rfl
  exact ⟨rfl, fun below hne => Search.includes?_of_below hne⟩

/-- A project with a link to a folder elsewhere, a link that leads nowhere, and a folder that is to be skipped. -/
def linkedDisk : Disk :=
  ⟨[("lib", .folder [("m.ts", .file .empty)]),
    ("project", .folder
      [("a", .folder [("b.ts", .file .empty)]), ("a.ts", .file .empty), ("gone.ts", .link "nowhere"),
        ("lib", .link "../lib"), ("skip", .folder [("c.ts", .file .empty)])])]⟩

def skips (path : String) : Bool := "skip/".toList.isPrefixOf path.toList

theorem closedUnderDescent_skips : ClosedUnderDescent skips := by
  intro folder rest hfolder hrest hskips
  have hpath : Path.joinSegments (folder ++ rest) = Path.joinSegments folder ++ "/" ++ Path.joinSegments rest :=
    String.intercalate_append_of_ne_nil hfolder hrest
  rw [skips, List.isPrefixOf_iff_prefix] at hskips ⊢
  rw [hpath, String.toList_append]
  exact hskips.trans (List.prefix_append _ _)

/-- A dead link is listed as a file, what a link to a folder leads to is not listed, and leaving the skipped folder
out cannot be seen. -/
theorem discoverBy_linkedDisk :
    Path.ofString "/project/gone.ts" ∈ discoverBy skips (fun _ => true) (Path.ofString "/project") linkedDisk
      ∧ Path.ofString "/project/lib" ∉ discoverBy skips (fun _ => true) (Path.ofString "/project") linkedDisk
      ∧ discoverBy skips (fun _ => true) (Path.ofString "/project") linkedDisk
        = discover (fun _ => false) (keptBy skips fun _ => true) (Path.ofString "/project")
          (linkedDisk.contents ["project"]) := by
  have hnames : Listing.allWellNamed (linkedDisk.contents (Path.ofString "/project").segments) = true := by cbv
  obtain ⟨-, -, hclosed, -⟩ := @discoverBy_reaches skips (fun _ => true) _ _ hnames
  obtain ⟨hmem, hunpruned⟩ := hclosed closedUnderDescent_skips
  have hgone : linkedDisk.find ["project"] (Path.ofString "nowhere") = .error .missing := by cbv
  have hlib : linkedDisk.find ["project"] (Path.ofString "../lib") = .ok (.folder [("m.ts", .file .empty)]) := by cbv
  refine ⟨(hmem _).2 ⟨["gone.ts"], by decide, ⟨_, .link "nowhere", rfl, .here (by simp), ?_⟩, by decide⟩,
    fun hlisted => ?_, hunpruned⟩
  · rintro ⟨entries, hfolder⟩
    have hsame := hgone.symm.trans hfolder
    cases hsame
  · obtain ⟨below, hpath, ⟨entries, entry, hroot, hbelow, hkind⟩, -⟩ := (hmem _).1 hlisted
    have hsegments : ["project"] ++ ["lib"] = ["project"] ++ below := congrArg Path.segments hpath
    obtain rfl := List.append_cancel_left hsegments
    obtain rfl : entries = _ := (Entry.folder.inj (Option.some.inj hroot)).symm
    cases hbelow with
    | here hentry =>
      obtain rfl : entry = .link "../lib" := by simpa using hentry
      exact hkind ⟨_, hlib⟩
    | inside _ hinner => exact absurd rfl hinner.ne_nil

end UseSites
