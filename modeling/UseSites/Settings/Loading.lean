import UseSites.Files.Disk
import UseSites.Ignore.Pattern
import UseSites.Settings.Basic
import UseSites.Settings.EnvFile
import UseSites.Text.Utf8
/-!
# Loading settings

Settings come from what is given and from the surroundings of a search: its environment, its working
folder and the files there are. Before settings are built, variables are taken over from the `.env` file
of the project and then from the next one upwards from the working folder. They stay in the environment
for later searches.

`loadSettings` checks the root of the project first, and nothing changes when the root cannot be used. Of the
permissions of files and folders only those are looked at that the root needs.
-/

namespace UseSites

/-- Where a search takes place. The working folder is a place without links. -/
structure Surroundings where
  disk : Disk
  environment : Environment
  folder : List String
  /-- The home folders of users; the empty name stands for the user who searches. -/
  homes : List (String × String) := []
  /-- The places of the folders that must not be listed or entered. -/
  closed : List (List String) := []
  deriving Inhabited

inductive Obstacle where
  | settings (flaw : SettingsFlaw)
  | pattern (flaw : Ignore.PatternFlaw)
  | homeUnknown
  | linkCircle
  | nameTooLong
  | badPath
  | envFileNotText
  | badVariable (name : String)
  deriving DecidableEq, Inhabited, Repr

def Obstacle.message : Obstacle → String
  | settings flaw => flaw.message
  | pattern flaw => flaw.message
  | homeUnknown => "the home folder is not known"
  | linkCircle => "links lead in a circle"
  | nameTooLong => Trouble.nameTooLong.message
  | badPath => "a path contains a character that no path can have"
  | envFileNotText => "a file of variables is not text"
  | badVariable name => "no variable can be set to the value of " ++ name

namespace Surroundings

def home? (surroundings : Surroundings) (user : List Char) : Option String :=
  let known := surroundings.homes.lookup (String.ofList user)
  if user.isEmpty then (surroundings.environment.get? "HOME").or known else known

def expandHome (surroundings : Surroundings) (path : Path) : Except Obstacle Path :=
  match path.anchor, path.segments with
  | .here, segment :: rest =>
    match segment.toList with
    | '~' :: user =>
      match surroundings.home? user with
      | none => .error .homeUnknown
      | some home =>
        let trimmed := (home.toList.reverse.dropWhile (· = '/')).reverse
        if trimmed.head? = some '~' then .error .homeUnknown
        else
          let base := if trimmed.isEmpty then Path.root else Path.ofString (String.ofList trimmed)
          .ok ⟨base.anchor, base.segments ++ rest⟩
    | _ => .ok path
  | _, _ => .ok path

def containsNul (path : Path) : Bool := path.segments.any fun segment => segment.toList.any (·.toNat = 0)

/-- The root of a project, without links, provided that it is a folder one can look into. -/
def projectRoot (surroundings : Surroundings) (path : Path) : Except Obstacle Path := do
  let path ← surroundings.expandHome path
  if containsNul path then throw .badPath
  match surroundings.disk.resolve surroundings.folder path with
  | none => throw .linkCircle
  | some place =>
    let root : Path := ⟨.root, place⟩
    match surroundings.disk.find [] root with
    | .ok (.folder _) =>
      if place ∈ surroundings.closed then throw (.settings (.rootNotReadable root)) else return root
    | .ok _ => throw (.settings (.rootNotAFolder root))
    | .error .nameTooLong => throw .nameTooLong
    | .error _ => throw (.settings (.rootMissing root))

/-! ### Files of variables -/

def envFileName : String := ".env"

/-- The places of a folder and of all folders above it, from the inside out. -/
def upwards (folder : List String) : List (List String) :=
  (List.range (folder.length + 1)).map fun up => folder.take (folder.length - up)

/-- The file of variables that counts in a folder: its own, or that of the next folder above. -/
def envFileUpwards? (surroundings : Surroundings) : Option Path :=
  ((upwards surroundings.folder).map fun place => Path.mk .root (place ++ [envFileName])).find?
    (surroundings.disk.isFile [])

/-- Takes over the variables of a file. Where there is no such file, nothing happens. -/
def loadEnvFile (surroundings : Surroundings) (path : Path) : Surroundings × Option Obstacle :=
  match surroundings.disk.read [] path with
  | .error _ => (surroundings, none)
  | .ok bytes =>
    match Text.Utf8.decode bytes.toList with
    | .error _ => (surroundings, some .envFileNotText)
    | .ok text =>
      let (environment, refused) := EnvFile.load surroundings.environment text
      ({ surroundings with environment := environment }, refused.map .badVariable)

def loadEnvFileUpwards (surroundings : Surroundings) : Surroundings × Option Obstacle :=
  match surroundings.envFileUpwards? with
  | none => (surroundings, none)
  | some path => surroundings.loadEnvFile path

def loadEnvFiles (surroundings : Surroundings) (root : Path) : Surroundings × Option Obstacle :=
  match surroundings.loadEnvFile (root.child envFileName) with
  | (surroundings, none) => surroundings.loadEnvFileUpwards
  | stopped => stopped

/-! ### Settings -/

def settingsFor (surroundings : Surroundings) (root : Path) (given : Given) : Except Obstacle Settings :=
  (Settings.build surroundings.environment root given).mapError .settings

def loadSettings (surroundings : Surroundings) (path : Path) (given : Given) :
    Surroundings × Except Obstacle Settings :=
  match surroundings.projectRoot path with
  | .error obstacle => (surroundings, .error obstacle)
  | .ok root =>
    match surroundings.loadEnvFiles root with
    | (surroundings, some obstacle) => (surroundings, .error obstacle)
    | (surroundings, none) => (surroundings, surroundings.settingsFor root given)

def settingsAt (surroundings : Surroundings) (path : Path) (given : Given) : Except Obstacle Settings := do
  let root ← surroundings.projectRoot path
  surroundings.settingsFor root given

/-- Settings for a project, without a look at the variables of its own file. -/
def buildSettings (surroundings : Surroundings) (path : Path) (given : Given) :
    Surroundings × Except Obstacle Settings :=
  match surroundings.loadEnvFileUpwards with
  | (surroundings, some obstacle) => (surroundings, .error obstacle)
  | (surroundings, none) => (surroundings, surroundings.settingsAt path given)

end Surroundings

end UseSites
