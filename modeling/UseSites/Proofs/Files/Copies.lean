import UseSites.Proofs.Files.Pruning
import UseSites.Proofs.Files.Written
/-!
# Copies of a folder

A plain folder holds files and folders, and no links. Where it stands makes no difference then: two places with the
same plain folder, on one disk or on two, have the same contents and read the same. With links this would be wrong,
since a link may lead out of the folder, to what is different in different places.
-/

namespace UseSites

namespace Entry

mutual

/-- No links, and no name that leads upwards. -/
def isPlain : Entry → Bool
  | file _ => true
  | link _ => false
  | folder entries => arePlain entries

def arePlain : List (String × Entry) → Bool
  | [] => true
  | (name, entry) :: rest => name != ".." && (isPlain entry && arePlain rest)

end

theorem plain_of_mem {entries : List (String × Entry)} {name : String} {entry : Entry}
    (hplain : arePlain entries = true) (hmem : (name, entry) ∈ entries) : name ≠ ".." ∧ entry.isPlain = true := by
  induction entries with
  | nil => cases hmem
  | cons first rest ih =>
    obtain ⟨other, inner⟩ := first
    simp only [arePlain, Bool.and_eq_true, bne_iff_ne] at hplain
    obtain ⟨hname, hinner, hrest⟩ := hplain
    rcases List.mem_cons.1 hmem with heq | hmem
    · cases heq
      exact ⟨hname, hinner⟩
    · exact ih hrest hmem

theorem plain_of_lookup {entries : List (String × Entry)} {name : String} {entry : Entry}
    (hplain : arePlain entries = true) (hlookup : entries.lookup name = some entry) : entry.isPlain = true := by
  obtain ⟨before, after, rfl, -⟩ := List.lookup_eq_some_iff.1 hlookup
  exact (plain_of_mem hplain (List.mem_append_right _ List.mem_cons_self)).2

theorem Below.notMem_up {entries : List (String × Entry)} {below : List String} {entry : Entry}
    (h : Below entries below entry) (hplain : arePlain entries = true) : ".." ∉ below := by
  induction h with
  | here hmem =>
    rw [List.mem_singleton]
    exact (plain_of_mem hplain hmem).1.symm
  | inside hmem _ ih =>
    obtain ⟨hname, hinner⟩ := plain_of_mem hplain hmem
    exact List.not_mem_cons_of_ne_of_not_mem hname.symm (ih hinner)

end Entry

namespace Disk

variable {here there disk : Disk} {place other below : List String} {entries : List (String × Entry)} {links : Nat}

/-! ### Contents -/

mutual

theorem listing_eq_of_plain (place other : List String) (name : String) {entry : Entry}
    (hplain : entry.isPlain = true) : there.listing other name entry = here.listing place name entry := by
  cases entry with
  | file bytes => simp only [listing]
  | link target => cases hplain
  | folder inner =>
    rw [listing, listing]
    exact congrArg Listing.folder (listings_eq_of_plain _ _ hplain)

theorem listings_eq_of_plain (place other : List String) {entries : List (String × Entry)}
    (hplain : Entry.arePlain entries = true) : there.listings other entries = here.listings place entries := by
  cases entries with
  | nil => rfl
  | cons first rest =>
    obtain ⟨name, entry⟩ := first
    simp only [Entry.arePlain, Bool.and_eq_true] at hplain
    obtain ⟨-, hentry, hrest⟩ := hplain
    rw [listings, listings, listing_eq_of_plain _ _ name hentry, listings_eq_of_plain _ _ hrest]

end

theorem contents_eq_of_plain (hhere : here.entryAt? place = some (.folder entries))
    (hthere : there.entryAt? other = some (.folder entries)) (hplain : Entry.arePlain entries = true) :
    there.contents other = here.contents place := by
  unfold contents
  rw [hhere, hthere]
  exact listings_eq_of_plain _ _ hplain

/-! ### Reading -/

theorem hasFolder_of_entryAt?_append {above : List String}
    (h : disk.entryAt? (above ++ below) = some (.folder entries)) : disk.HasFolder above := by
  rw [entryAt?_eq_at?, Entry.at?_append, Option.bind_eq_some_iff] at h
  obtain ⟨entry, habove, hbelow⟩ := h
  rw [HasFolder, entryAt?_eq_at?, habove]
  cases entry with
  | folder inner => exact ⟨inner, rfl⟩
  | file bytes | link target => cases below <;> cases hbelow

/-- Names that lead down and are not too long. -/
def LeadDown (segments : List String) : Prop := ∀ name ∈ segments, name ≠ ".." ∧ name.utf8ByteSize ≤ nameLimit

instance (segments : List String) : Decidable (LeadDown segments) :=
  inferInstanceAs (Decidable (∀ name ∈ segments, name ≠ ".." ∧ name.utf8ByteSize ≤ nameLimit))

theorem spotFrom_down {name : String} {entry : Entry} (hname : name ≠ "..") (hlength : name.utf8ByteSize ≤ nameLimit)
    (hplace : disk.entryAt? place = some (.folder entries)) (hentry : entries.lookup name = some entry)
    (hlink : ∀ target, entry ≠ .link target) (below : List String) :
    disk.spotFrom links place (name :: below) = disk.spotFrom links (place ++ [name]) below := by
  rw [spotFrom, hplace]
  dsimp only
  rw [if_neg hname, if_neg (by omega), hentry]
  cases entry with
  | link target => exact absurd rfl (hlink target)
  | file bytes | folder inner => rfl

/-- A path goes down through folders to the one that it names. -/
theorem spotFrom_append {above : List String} (place : List String) (hdown : LeadDown above)
    (hplace : disk.entryAt? (place ++ above) = some (.folder entries)) (below : List String) :
    disk.spotFrom links place (above ++ below) = disk.spotFrom links (place ++ above) below := by
  induction above generalizing place with
  | nil => rw [List.append_nil, List.nil_append]
  | cons name rest ih =>
    obtain ⟨⟨hname, hlength⟩, hrest⟩ := List.forall_mem_cons.1 hdown
    rw [List.append_cons] at hplace ⊢
    obtain ⟨inner, hinner⟩ := hasFolder_of_entryAt?_append hplace
    obtain ⟨outer, houter, hlookup⟩ := exists_folder_of_entryAt?_concat hinner
    rw [List.cons_append, spotFrom_down hname hlength houter hlookup nofun]
    exact ih (place ++ [name]) hrest hplace

def Spot.entry? : Spot → Option Entry
  | .taken _ entry => some entry
  | .vacant _ => none

/-- From two places with the same plain entry, the same path leads to the same. -/
theorem spotFrom_eq_of_plain {entry : Entry} (hhere : here.entryAt? place = some entry)
    (hthere : there.entryAt? other = some entry) (hplain : entry.isPlain = true) (hup : ".." ∉ below) :
    (there.spotFrom links other below).map Spot.entry? = (here.spotFrom links place below).map Spot.entry? := by
  induction below generalizing place other entry with
  | nil =>
    rw [spotFrom, spotFrom, hhere, hthere]
    rfl
  | cons name rest ih =>
    obtain ⟨hname, hrest⟩ := List.ne_and_not_mem_of_not_mem_cons hup
    cases entry with
    | link target => cases hplain
    | file bytes => rw [spotFrom, spotFrom, hhere, hthere]
    | folder entries =>
      by_cases hlength : name.utf8ByteSize ≤ nameLimit
      · cases hlookup : entries.lookup name with
        | none =>
          rw [spotFrom, spotFrom, hhere, hthere]
          dsimp only
          have hfits : ¬nameLimit < name.utf8ByteSize := Nat.not_lt.2 hlength
          rw [if_neg hname.symm, if_neg hname.symm, if_neg hfits, if_neg hfits, hlookup]
          cases rest.isEmpty <;> rfl
        | some inner =>
          have hinner := Entry.plain_of_lookup hplain hlookup
          have hlink : ∀ target, inner ≠ .link target := by
            intro target heq
            rw [heq] at hinner
            cases hinner
          rw [spotFrom_down hname.symm hlength hhere hlookup hlink,
            spotFrom_down hname.symm hlength hthere hlookup hlink]
          refine ih ?_ ?_ hinner hrest
          · rw [entryAt?_concat hhere, hlookup]
          · rw [entryAt?_concat hthere, hlookup]
      · rw [spotFrom, spotFrom, hhere, hthere]
        dsimp only
        have hlong : nameLimit < name.utf8ByteSize := Nat.lt_of_not_le hlength
        rw [if_neg hname.symm, if_neg hname.symm, if_pos hlong, if_pos hlong]

theorem find_eq (disk : Disk) (folder : List String) (path : Path) :
    disk.find folder path = ((disk.spot folder path).map Spot.entry?).bind fun
      | some entry => .ok entry
      | none => .error .missing := by
  unfold find
  cases disk.spot folder path with
  | error trouble => rfl
  | ok spot => cases spot <;> rfl

/-- A file of a plain folder reads the same wherever the folder stands. -/
theorem read_eq_of_plain (hhere : here.entryAt? place = some (.folder entries))
    (hthere : there.entryAt? other = some (.folder entries)) (hplain : Entry.arePlain entries = true)
    (hplace : LeadDown place) (hother : LeadDown other) (hup : ".." ∉ below) (folder folderThere : List String) :
    there.read folderThere ⟨.root, other ++ below⟩ = here.read folder ⟨.root, place ++ below⟩ := by
  have hspot : ∀ (disk : Disk) (folder above : List String), disk.entryAt? above = some (.folder entries) →
      LeadDown above → disk.spot folder ⟨.root, above ++ below⟩ = disk.spotFrom linkLimit above below :=
    fun disk folder above hentry hdown => spotFrom_append [] hdown hentry below
  have hfind : there.find folderThere ⟨.root, other ++ below⟩ = here.find folder ⟨.root, place ++ below⟩ := by
    rw [find_eq, find_eq, hspot here _ _ hhere hplace, hspot there _ _ hthere hother,
      spotFrom_eq_of_plain hhere hthere hplain hup]
  unfold read
  rw [hfind]

end Disk

end UseSites
