import UseSites.Command.Run
import UseSites.Terminal.Console
/-!
# The program

The command works on values. The program reads the surroundings of a search into a `Surroundings`, lets
`Command.run` answer, and does what the answer says: it prints, writes the result and ends with the exit
code. Of the disk it reads what a search can look at, which is the project, the files of variables and the
way to the result; of files only those are read that can matter.
-/

namespace UseSites.Program

/-- What an action yields, unless the system refuses it. -/
def attempt? (action : IO α) : IO (Option α) := do
  try return some (← action) catch _ => return none

/-! ### The disk -/

abbrev Sighting := List String × Entry

def deadLink : Entry := .link "/dev/null/nowhere"

def placeOf (path : String) : List String := (Path.ofString path).segments

/-- Whether a search can look into a file. -/
def matters (path : Path) : Bool :=
  path.name == Surroundings.envFileName || (Dialect.ofPath? path).isSome

/-- A file, with its bytes where they can matter. One that cannot be read is as good as a dead link. -/
def file (path : String) : IO Entry := do
  if matters (Path.ofString path) then
    return ((← attempt? (IO.FS.readBinFile path)).map Entry.file).getD deadLink
  else return .file .empty

/-- What stands at a place and, if that is a link, where it leads. Folders are left empty. -/
def sightings (entry : IO.FS.DirEntry) : IO (List Sighting) := do
  let some metadata ← attempt? entry.path.symlinkMetadata | return []
  let place := placeOf entry.path.toString
  match metadata.type with
  | .dir => return [(place, .folder [])]
  | .symlink =>
    let some target ← attempt? (IO.FS.realPath entry.path) | return [(place, deadLink)]
    let final ← if ← target.isDir then pure (.folder []) else file target.toString
    return [(place, .link target.toString), (placeOf target.toString, final)]
  | _ => return [(place, ← file entry.path.toString)]

/-- What stands at a place and, if that is a folder, everything below. -/
partial def sightingsBelow (entry : IO.FS.DirEntry) : IO (List Sighting) := do
  let here ← sightings entry
  match here with
  | [(_, .folder _)] =>
    let some inner ← attempt? entry.path.readDir | return here
    return here ++ (← inner.toList.mapM sightingsBelow).flatten
  | _ => return here

def sightingsOnWay (path : Path) : IO (List Sighting) := do
  let parts := (List.range path.segments.length).map fun n => path.segments.take (n + 1)
  let found ← parts.mapM fun segments => do
    let above : Path := ⟨path.anchor, segments.dropLast⟩
    let some folder ← attempt? (IO.FS.realPath above.toString) | return []
    sightings ⟨folder, segments.getLast?.getD ""⟩
  return found.flatten

/-- Adds a sighting. A folder that is known stays as it is. -/
def withSighting (disk : Disk) (sighting : Sighting) : Disk :=
  match sighting with
  | (place, .folder _) => if (disk.entryAt? place).isSome then disk else disk.put place (.folder [])
  | (place, entry) => disk.put place entry

/-! ### The surroundings -/

def environment : IO Environment := do
  let some bytes ← attempt? (IO.FS.readBinFile "/proc/self/environ") | return .empty
  let entries := ((String.fromUTF8? bytes).getD "").splitOn "\x00"
  return entries.foldl (fun environment entry =>
    match entry.splitOn "=" with
    | name :: value :: more => environment.set name ("=".intercalate (value :: more))
    | _ => environment) .empty

def homes : IO (List (String × String)) := do
  let some text ← attempt? (IO.FS.readFile "/etc/passwd") | return []
  return (text.splitOn "\n").filterMap fun line =>
    match line.splitOn ":" with
    | name :: _ :: _ :: _ :: _ :: home :: _ => some (name, home)
    | _ => none

def closedPlace? (path : Path) : IO (Option (List String)) := do
  let some folder ← attempt? (IO.FS.realPath path.toString) | return none
  let listed ← attempt? folder.readDir
  let entered ← attempt? (folder / ".").metadata
  return if listed.isSome && entered.isSome then none else some (placeOf folder.toString)

/-- The surroundings of a search, with as much of the disk as it needs. -/
def surroundings (arguments : Command.Arguments) : IO Surroundings := do
  let folder ← IO.FS.realPath "."
  let base : Surroundings := ⟨.empty, ← environment, placeOf folder.toString, ← homes, []⟩
  let roots := (base.expandHome (Path.ofString arguments.root)).toOption.toList
  let ends := roots ++ (arguments.output.map Path.ofString).toList
  let ways ← ends.mapM fun path => sightingsOnWay (Path.ofString folder.toString ++ path)
  let projects ← roots.mapM fun root => do
    let some place ← attempt? (IO.FS.realPath root.toString) | return []
    sightingsBelow ⟨place, ""⟩
  let files ← (Surroundings.upwards base.folder).mapM fun place =>
    sightings ⟨Path.toString ⟨.root, place⟩, Surroundings.envFileName⟩
  let closed ← roots.filterMapM closedPlace?
  return { base with disk := (ways ++ projects ++ files).flatten.foldl withSighting .empty, closed := closed }

/-! ### The answer -/

def console : Terminal.Console := { encoding := none }

def tell (diagnostic : Diagnostic) : IO Unit :=
  IO.eprint <| match diagnostic with
    | .print markup => console.printed (Terminal.Markup.shown markup)
    | .log markup => console.logged (Terminal.Markup.shown markup)
    | .table table => table.render .heavyHead

def writeResult (arguments : Command.Arguments) (left : Surroundings) : IO Unit := do
  if let some name := arguments.output then
    if let .ok bytes := left.disk.read left.folder (Path.ofString name) then
      IO.FS.writeBinFile name bytes

def search (words : List String) (arguments : Command.Arguments) : IO UInt32 := do
  let answer := Command.run (← surroundings arguments) {} words
  answer.diagnostics.forM tell
  if let some escape := answer.escape then IO.eprintln escape.message
  if answer.exit = .success then writeResult arguments answer.surroundings
  IO.print answer.output
  return answer.exit.code.toUInt32

end UseSites.Program

open UseSites in
def main (words : List String) : IO UInt32 := do
  match Command.Request.ofWords? words with
  | none =>
    IO.eprintln Command.usage
    return Command.Exit.misuse.code.toUInt32
  | some .help =>
    IO.println Command.usage
    return Command.Exit.success.code.toUInt32
  | some .version =>
    IO.print (Command.run default {} words).output
    return Command.Exit.success.code.toUInt32
  | some (.search arguments) => Program.search words arguments
