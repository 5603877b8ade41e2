import UseSites.Files.Discovery
import UseSites.Ignore.Selection
import UseSites.Project.Source
import UseSites.Report.Basic
import UseSites.Settings.Loading
/-!
# Searching a project

A `Search` has settings that have been checked and patterns that have been read. It discovers the source
files of the project, searches them one by one and reports on all of them. Files of other business
domains are never read.

Loading or scanning a file can be disturbed from outside; `Disturbances` says where that happens. A
disturbed file stops the whole search. The files are searched independently of each other, by several
workers if there are several files: `outcomes` has one result for each file, `Arrives` says in which orders
they may be finished, and `Report.ofFinished` reports on any arrangement of them.
-/

namespace UseSites

/-- What can happen to a file apart from its own flaws. -/
inductive Disturbance where
  | failure (message : String)
  | interrupt
  deriving DecidableEq, Inhabited, Repr

structure Disturbances where
  onLoad : Path → Option Disturbance := fun _ => none
  onScan : Path → Option Disturbance := fun _ => none

structure Search where
  settings : Settings
  root : Path
  includes : List Ignore.Pattern
  excludes : List Ignore.Pattern
  deriving Inhabited

namespace Search

/-- A search with the given settings. Its root has to be a folder, and its patterns have to be read. -/
def ofSettings (surroundings : Surroundings) (settings : Settings) : Except Obstacle Search := do
  let root ← surroundings.projectRoot settings.root
  let includes ← (Ignore.Pattern.ofLines settings.includes).mapError .pattern
  let excludes ← (Ignore.Pattern.ofLines settings.excludes).mapError .pattern
  return ⟨settings, root, includes, excludes⟩

def relative? (search : Search) (file : Path) : Option String :=
  (file.relativeTo? search.root).map Path.toString

def keeps (search : Search) (path : String) : Bool :=
  !Ignore.selects search.excludes path && Ignore.selects search.includes path

def prunes (search : Search) (path : String) : Bool := Ignore.selects search.excludes (path ++ "/")

def includes? (search : Search) (file : Path) : Option Bool := (search.relative? file).map search.keeps

def discover (search : Search) (disk : Disk) : List Path :=
  UseSites.discover (fun segments => search.prunes (Path.joinSegments segments))
    (fun segments => search.keeps (Path.joinSegments segments)) search.root
    (disk.contents search.root.segments)

def references (search : Search) (category : Category) (source : Source) : List Reference :=
  let lines := Text.splitLines source.text
  (source.outline.uses search.settings.symbol).map fun use =>
    { file := source.path.toString, line := use.line, role := use.role, category := category,
      context := Excerpt.render search.settings.window lines use.line }

/-- A file as categories see it: with a slash in front, so that the root has no influence. -/
def placeOf (relative : String) : String := "/" ++ relative

def searchInScope (search : Search) (reads : Reads) (disturbances : Disturbances) (category : Category)
    (file : Path) : Except Abort Searched :=
  match disturbances.onLoad file with
  | some .interrupt => .error .interrupted
  | some (.failure message) => .error (.loading file message)
  | none =>
    match Source.load reads search.settings.strict file with
    | .error flaw => .ok ⟨file, .failed flaw⟩
    | .ok source =>
      match disturbances.onScan file with
      | some .interrupt => .error .interrupted
      | some (.failure message) => .error (.scanning file message)
      | none => .ok ⟨file, .found (search.references category source)⟩

def searchFile (search : Search) (reads : Reads) (disturbances : Disturbances) (file : Path) :
    Except Abort Searched :=
  match search.relative? file with
  | none => .error (.outside file)
  | some relative =>
    let category := Category.ofPath (placeOf relative)
    if Category.inScope (placeOf relative) category search.settings.filter then
      search.searchInScope reads disturbances category file
    else .ok ⟨file, .outOfScope⟩

def outcomes (search : Search) (reads : Reads) (disturbances : Disturbances) (files : List Path) :
    List (Except Abort Searched) :=
  files.map (search.searchFile reads disturbances)

def withWorkers (search : Search) (workers : Int) : Search :=
  { search with settings := { search.settings with workers := workers } }

/-- Whether results may arrive in an order. Several workers finish files in any order; one worker, and any
number of them when there is one file, goes through the files as they are listed. -/
def Arrives (search : Search) (results arrived : List (Except Abort Searched)) : Prop :=
  if search.settings.workers ≤ 1 ∨ results.length ≤ 1 then arrived = results else arrived.Perm results

def run (search : Search) (reads : Reads) (disturbances : Disturbances) (files : List Path) :
    Except Abort Report :=
  Report.ofFinished files (search.outcomes reads disturbances files)

end Search

def Surroundings.reads (surroundings : Surroundings) : Reads :=
  surroundings.disk.read surroundings.folder

end UseSites
