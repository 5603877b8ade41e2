import UseSites.Path
/-!
# Disks

A `Disk` is what files and folders look like at one moment: a tree of folders with files and links at its
leaves. `find` follows a path the way the system opens it, through links and upwards at `..`, and says
what went wrong when it does not get there. `resolve` only changes a path: it replaces the links in it and
does not mind what is missing. There are no permissions on a disk: whatever is there can be read.
-/

namespace UseSites

inductive Entry where
  | file (bytes : ByteArray)
  | link (target : String)
  | folder (entries : List (String × Entry))
  deriving Inhabited

/-- Why the system does not open a path. -/
inductive Trouble where
  | missing
  | notAFolder
  | isAFolder
  | tooManyLinks
  | nameTooLong
  deriving DecidableEq, Inhabited, Repr

def Trouble.message : Trouble → String
  | missing => "No such file or directory"
  | notAFolder => "Not a directory"
  | isAFolder => "Is a directory"
  | tooManyLinks => "Too many levels of symbolic links"
  | nameTooLong => "File name too long"

/-- The entries of the topmost folder. -/
structure Disk where
  entries : List (String × Entry)
  deriving Inhabited

namespace Disk

def empty : Disk := ⟨[]⟩

/-- The entry at a place, without following links. -/
def entryAmong? : List (String × Entry) → List String → Option Entry
  | entries, [] => some (.folder entries)
  | entries, name :: rest =>
    match entries.lookup name, rest with
    | none, _ => none
    | some entry, [] => some entry
    | some (.folder inner), _ => entryAmong? inner rest
    | some _, _ => none

def entryAt? (disk : Disk) (place : List String) : Option Entry := entryAmong? disk.entries place

/-- How many links may be followed on the way to one place. -/
def linkLimit : Nat := 40

/-- The longest name of a file in bytes. -/
def nameLimit : Nat := 255

def throughLink (folder : List String) (target : String) (rest : List String) :
    List String × List String :=
  let path := Path.ofString target
  (if path.isAbsolute then [] else folder, path.segments ++ rest)

/-- Replaces the links among the segments that lead on from a place without links. Nothing comes out when
links lead in a circle. -/
def resolveFrom (disk : Disk) (links : Nat) (place : List String) : List String → Option (List String)
  | [] => some place
  | name :: rest =>
    if name = ".." then resolveFrom disk links place.dropLast rest
    else
      match disk.entryAt? (place ++ [name]) with
      | some (.link target) =>
        match links with
        | 0 => none
        | links + 1 =>
          let (place, rest) := throughLink place target rest
          resolveFrom disk links place rest
      | _ => resolveFrom disk links (place ++ [name]) rest
termination_by segments => (links, segments.length)

def resolve (disk : Disk) (folder : List String) (path : Path) : Option (List String) :=
  disk.resolveFrom linkLimit (if path.isAbsolute then [] else folder) path.segments

inductive Spot where
  | taken (place : List String) (entry : Entry)
  /-- Nothing, but the folder for it exists. -/
  | vacant (place : List String)
  deriving Inhabited

def spotFrom (disk : Disk) (links : Nat) (place : List String) : List String → Except Trouble Spot
  | [] =>
    match disk.entryAt? place with
    | some entry => .ok (.taken place entry)
    | none => .error .missing
  | name :: rest =>
    match disk.entryAt? place with
    | some (.folder entries) =>
      if name = ".." then spotFrom disk links place.dropLast rest
      else if nameLimit < name.utf8ByteSize then .error .nameTooLong
      else
        match entries.lookup name with
        | none => if rest.isEmpty then .ok (.vacant (place ++ [name])) else .error .missing
        | some (.link target) =>
          match links with
          | 0 => .error .tooManyLinks
          | links + 1 =>
            let (place, rest) := throughLink place target rest
            spotFrom disk links place rest
        | some _ => spotFrom disk links (place ++ [name]) rest
    | _ => .error .notAFolder
termination_by segments => (links, segments.length)

def spot (disk : Disk) (folder : List String) (path : Path) : Except Trouble Spot :=
  disk.spotFrom linkLimit (if path.isAbsolute then [] else folder) path.segments

def find (disk : Disk) (folder : List String) (path : Path) : Except Trouble Entry :=
  match disk.spot folder path with
  | .error trouble => .error trouble
  | .ok (.taken _ entry) => .ok entry
  | .ok (.vacant _) => .error .missing

def read (disk : Disk) (folder : List String) (path : Path) : Except Trouble ByteArray :=
  match disk.find folder path with
  | .error trouble => .error trouble
  | .ok (.file bytes) => .ok bytes
  | .ok _ => .error .isAFolder

def isFile (disk : Disk) (folder : List String) (path : Path) : Bool :=
  (disk.read folder path).isOk

/-! ### Changes -/

def replaced (name : String) (entry : Entry) : List (String × Entry) → List (String × Entry)
  | [] => [(name, entry)]
  | (other, old) :: rest =>
    if other = name then (name, entry) :: rest else (other, old) :: replaced name entry rest

/-- Puts an entry at a place and makes the folders on the way. -/
def placed (entry : Entry) : List String → List (String × Entry) → List (String × Entry)
  | [], entries => entries
  | [name], entries => replaced name entry entries
  | name :: rest, entries =>
    let inner := match entries.lookup name with
      | some (.folder inner) => inner
      | _ => []
    replaced name (.folder (placed entry rest inner)) entries

def put (disk : Disk) (place : List String) (entry : Entry) : Disk :=
  ⟨placed entry place disk.entries⟩

def erased : List String → List (String × Entry) → List (String × Entry)
  | [], entries => entries
  | [name], entries => entries.filter (·.1 != name)
  | name :: rest, entries =>
    match entries.lookup name with
    | some (.folder inner) => replaced name (.folder (erased rest inner)) entries
    | _ => entries

def erase (disk : Disk) (place : List String) : Disk := ⟨erased place disk.entries⟩

/-- Writes a file. Links on the way are followed, the last one included; folders are not made. -/
def write (disk : Disk) (folder : List String) (path : Path) (bytes : ByteArray) : Except Trouble Disk :=
  match disk.spot folder path with
  | .error trouble => .error trouble
  | .ok (.vacant place) | .ok (.taken place (.file _)) => .ok (disk.put place (.file bytes))
  | .ok (.taken _ _) => .error .isAFolder

end Disk

end UseSites
