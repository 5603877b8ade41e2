import Mathlib.Data.List.Nodup
import UseSites.Files.Discovery
import UseSites.Proofs.Path.Regular
import UseSites.Proofs.Report.Order
/-!
# The files that discovery lists

Discovery goes through folders in the order in which they hold their entries and sorts what it has found by
the texts of the paths. On a disk the names in one folder differ and have no slash in them, which is what
`wellNamed` asks of a listing. Then every file is found once, different files have different texts, and so
the list that comes out is strictly increasing.

The texts are the reason why names must have no slash: with `a/b` for the name of a file, that file would have
the text of a file `b` in a folder `a`.
-/

namespace UseSites

namespace Listing

mutual

/-- Whether the names in a folder, and in the folders below it, are such as a disk can have. -/
def wellNamed : Listing → Bool
  | file => true
  | linkedFolder => true
  | folder entries => allWellNamed entries

def allWellNamed : List (String × Listing) → Bool
  | [] => true
  | (name, entry) :: rest =>
    !name.toList.contains '/' && !(rest.map Prod.fst).contains name && (wellNamed entry && allWellNamed rest)

end

theorem allWellNamed_cons {name : String} {entry : Listing} {rest : List (String × Listing)}
    (h : allWellNamed ((name, entry) :: rest) = true) :
    '/' ∉ name.toList ∧ name ∉ rest.map Prod.fst ∧ entry.wellNamed = true ∧ allWellNamed rest = true := by
  rw [allWellNamed, Bool.and_eq_true, Bool.and_eq_true, Bool.and_eq_true] at h
  obtain ⟨⟨hslash, hname⟩, hentry, hrest⟩ := h
  exact ⟨by simpa using hslash, by simpa using hname, hentry, hrest⟩

variable {pruned included : List String → Bool}

mutual

/-- What is found at an entry lies at its place or below it. -/
theorem exists_below_of_mem_files {above segments : List String} {name : String} {entry : Listing}
    (hname : '/' ∉ name.toList) (hentry : entry.wellNamed = true)
    (h : segments ∈ entry.files pruned included above name) :
    ∃ below, segments = above ++ name :: below ∧ ∀ segment ∈ name :: below, '/' ∉ segment.toList := by
  cases entry with
  | file =>
    rw [files] at h
    split at h
    · exact ⟨[], List.mem_singleton.1 h, List.forall_mem_singleton.2 hname⟩
    · cases h
  | linkedFolder => cases h
  | folder entries =>
    rw [files] at h
    split at h
    · cases h
    · rw [wellNamed] at hentry
      obtain ⟨inner, -, below, rfl, hbelow⟩ := exists_below_of_mem_filesAmong hentry h
      refine ⟨inner :: below, ?_, List.forall_mem_cons.2 ⟨hname, hbelow⟩⟩
      rw [List.append_assoc, List.singleton_append]

theorem exists_below_of_mem_filesAmong {above segments : List String} {entries : List (String × Listing)}
    (hentries : allWellNamed entries = true) (h : segments ∈ filesAmong pruned included above entries) :
    ∃ name ∈ entries.map Prod.fst, ∃ below,
      segments = above ++ name :: below ∧ ∀ segment ∈ name :: below, '/' ∉ segment.toList := by
  cases entries with
  | nil => cases h
  | cons first rest =>
    obtain ⟨name, entry⟩ := first
    obtain ⟨hname, -, hentry, hrest⟩ := allWellNamed_cons hentries
    rw [filesAmong, List.mem_append] at h
    rcases h with h | h
    · exact ⟨name, List.mem_cons_self, exists_below_of_mem_files hname hentry h⟩
    · obtain ⟨other, hother, below⟩ := exists_below_of_mem_filesAmong hrest h
      exact ⟨other, List.mem_cons_of_mem _ hother, below⟩

end

mutual

theorem nodup_files {above : List String} {name : String} {entry : Listing} (hentry : entry.wellNamed = true) :
    (entry.files pruned included above name).Nodup := by
  cases entry with
  | file =>
    rw [files]
    split
    · exact List.nodup_singleton _
    · exact List.nodup_nil
  | linkedFolder => exact List.nodup_nil
  | folder entries =>
    rw [files]
    split
    · exact List.nodup_nil
    · exact nodup_filesAmong hentry

/-- No file is found twice, because two entries of one folder differ in the segment that names them. -/
theorem nodup_filesAmong {above : List String} {entries : List (String × Listing)}
    (hentries : allWellNamed entries = true) : (filesAmong pruned included above entries).Nodup := by
  cases entries with
  | nil => exact List.nodup_nil
  | cons first rest =>
    obtain ⟨name, entry⟩ := first
    obtain ⟨hname, hnew, hentry, hrest⟩ := allWellNamed_cons hentries
    rw [filesAmong, List.nodup_append]
    refine ⟨nodup_files hentry, nodup_filesAmong hrest, ?_⟩
    rintro segments hfirst _ hothers rfl
    obtain ⟨below, hsegments, -⟩ := exists_below_of_mem_files hname hentry hfirst
    obtain ⟨other, hother, elsewhere, hsame, -⟩ := exists_below_of_mem_filesAmong hrest hothers
    have hnames : name :: below = other :: elsewhere := List.append_cancel_left (hsegments.symm.trans hsame)
    rw [(List.cons.inj hnames).1] at hnew
    exact hnew hother

end

end Listing

variable {pruned included : List String → Bool} {root : Path} {entries : List (String × Listing)}

theorem mem_discover {file : Path} :
    file ∈ discover pruned included root entries ↔
      ∃ below ∈ Listing.filesAmong pruned included [] entries, file = ⟨root.anchor, root.segments ++ below⟩ := by
  rw [discover, List.mem_mergeSort, List.mem_map]
  exact exists_congr fun below => and_congr_right fun _ => eq_comm

/-- Discovery lists files in the strict order of their texts, so that it lists none twice. -/
theorem pairwise_discover (hentries : Listing.allWellNamed entries = true) :
    (discover pruned included root entries).Pairwise fun a b => a.toString < b.toString := by
  refine pairwise_lt_mergeSort Path.toString (fun _ _ => not_decide_lt_iff) ?_
  rw [List.map_map]
  refine List.Nodup.map_on (fun first hfirst second hsecond htext => ?_) (Listing.nodup_filesAmong hentries)
  obtain ⟨name, -, below, rfl, hslash⟩ := Listing.exists_below_of_mem_filesAmong hentries hfirst
  obtain ⟨other, -, elsewhere, rfl, hotherSlash⟩ := Listing.exists_below_of_mem_filesAmong hentries hsecond
  exact Path.eq_of_toString_append_eq (List.cons_ne_nil _ _) (List.cons_ne_nil _ _) hslash hotherSlash htext

theorem isSome_relativeTo?_of_mem_discover {file : Path} (hfile : file ∈ discover pruned included root entries) :
    (file.relativeTo? root).isSome = true := by
  obtain ⟨below, -, rfl⟩ := mem_discover.1 hfile
  rw [Path.relativeTo?, Path.below?, Option.isSome_map]
  simp [List.isPrefixOf_iff_prefix]

end UseSites
