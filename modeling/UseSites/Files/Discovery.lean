import UseSites.Files.Disk
/-!
# Discovery of source files

`discover` collects the files of a project. It goes through the folders of a `Listing`, leaves out the
folders that `pruned` names, with all that is in them, and keeps the files that `included` names. A link
to a folder counts as a folder that is not entered; any other link counts as a file.
-/

namespace UseSites

/-- What a folder holds, as far as discovery looks at it. -/
inductive Listing where
  | file
  | linkedFolder
  | folder (entries : List (String × Listing))
  deriving Inhabited

namespace Disk

def leadsToFolder (disk : Disk) (place : List String) (target : String) : Bool :=
  match disk.find place (Path.ofString target) with
  | .ok (.folder _) => true
  | _ => false

mutual

def listing (disk : Disk) (place : List String) (name : String) : Entry → Listing
  | .file _ => .file
  | .link target => if disk.leadsToFolder place target then .linkedFolder else .file
  | .folder entries => .folder (listings disk (place ++ [name]) entries)

def listings (disk : Disk) (place : List String) : List (String × Entry) → List (String × Listing)
  | [] => []
  | (name, entry) :: rest => (name, disk.listing place name entry) :: listings disk place rest

end

def contents (disk : Disk) (place : List String) : List (String × Listing) :=
  match disk.entryAt? place with
  | some (.folder entries) => disk.listings place entries
  | _ => []

end Disk

namespace Listing

mutual

/-- The files of an entry that are kept, as segments below the project. -/
def files (pruned included : List String → Bool) (above : List String) (name : String) :
    Listing → List (List String)
  | file => if included (above ++ [name]) then [above ++ [name]] else []
  | linkedFolder => []
  | folder entries =>
    if pruned (above ++ [name]) then [] else filesAmong pruned included (above ++ [name]) entries

def filesAmong (pruned included : List String → Bool) (above : List String) :
    List (String × Listing) → List (List String)
  | [] => []
  | (name, entry) :: rest =>
    files pruned included above name entry ++ filesAmong pruned included above rest

end

end Listing

/-- The source files of a project below `root`, in the order of their paths as text. -/
def discover (pruned included : List String → Bool) (root : Path) (entries : List (String × Listing)) :
    List Path :=
  let found := (Listing.filesAmong pruned included [] entries).map fun segments =>
    Path.mk root.anchor (root.segments ++ segments)
  found.mergeSort fun a b => !decide (b.toString < a.toString)

end UseSites
