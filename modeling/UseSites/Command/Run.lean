import UseSites.Command.Arguments
import UseSites.Project.Search
import UseSites.Report.Diagnostic
/-!
# The command

`Command.run` answers a command line in its surroundings. The result of a search goes to standard output,
or to a file when one is named, and only when the search has come to its end; everything meant for people
is in the diagnostics. The exit code tells a success, a failed search, a misuse and a cancelled search
apart.
-/

namespace UseSites.Command

def programName : String := "refscan"

def versionText : String := "1.2.0"

def usage : String :=
  "Usage: " ++ programName ++ " PROJECT_ROOT SYMBOL DOMAIN\n"
    ++ "  DOMAIN narrows service-layer files to one business domain; "
    ++ "pass '" ++ Category.everyDomain ++ "' to scan every domain."

inductive Exit where
  | success
  | failure
  | misuse
  | cancelled
  deriving DecidableEq, Inhabited, Repr

def Exit.code : Exit → Nat
  | success => 0
  | failure => 1
  | misuse => 2
  | cancelled => 130

/-- A cause that the command has no message for. -/
inductive Escape where
  | obstacle (obstacle : Obstacle)
  /-- The search met a file that it should never have been given. -/
  | abort (abort : Abort)
  /-- The result could not be written. -/
  | output (trouble : Trouble)
  deriving DecidableEq, Inhabited, Repr

def Escape.message : Escape → String
  | obstacle cause => cause.message
  | abort cause => cause.message
  | output cause => cause.message

structure Answer where
  exit : Exit
  output : String := ""
  diagnostics : List Diagnostic := []
  escape : Option Escape := none
  surroundings : Surroundings
  deriving Inhabited

open Terminal.Markup (escaped)

namespace Messages

def searching (symbol domain : String) : Diagnostic :=
  .print ("[bold blue]🔍 Finding references to[/bold blue] [cyan]" ++ escaped symbol ++ "[/cyan] "
    ++ "[dim](domain: " ++ escaped domain ++ ")[/dim]")

def misuse (flaw : SettingsFlaw) : List Diagnostic :=
  [.print ("[bold red]Error:[/bold red] " ++ escaped flaw.message), .print (escaped usage)]

def root (settings : Settings) : List Diagnostic :=
  .print ("[bold blue]Project root:[/bold blue] " ++ escaped settings.root.toString)
    :: if settings.isScoped then []
      else [.print "[dim]Domain scoping disabled: all service domains are scanned[/dim]"]

def matched (files : List Path) : Diagnostic :=
  .print ("[bold blue]Source files matched:[/bold blue] " ++ toString files.length)

def failed (abort : Abort) : Diagnostic :=
  .print ("[bold red]Scan failed:[/bold red] " ++ escaped abort.message)

def cancelled : Diagnostic := .print "[yellow]Scan cancelled; no result written[/yellow]"

def outOfScope (settings : Settings) (report : Report) : List Diagnostic :=
  if report.outOfScope.isEmpty then []
  else
    [.print ("[dim]" ++ toString report.outOfScope.length ++ " service files outside domain "
      ++ "'" ++ escaped settings.filter ++ "' skipped[/dim]")]

def found (report : Report) : Diagnostic :=
  .print ("\n[bold green]✓ Found " ++ toString report.references.length ++ " references[/bold green]")

def report (settings : Settings) (report : Report) : List Diagnostic :=
  Diagnostic.skippedFiles settings.root report.failures ++ outOfScope settings report
    ++ found report :: Diagnostic.summaryTables report.summary

def written (path : Path) : Diagnostic :=
  .print ("[bold blue]Result written to[/bold blue] " ++ escaped path.toString)

end Messages

def deliver (arguments : Arguments) (surroundings : Surroundings) (said : List Diagnostic)
    (text : String) : Answer :=
  match arguments.output with
  | none => { exit := .success, output := text ++ "\n", diagnostics := said, surroundings := surroundings }
  | some name =>
    let path := Path.ofString name
    match surroundings.disk.write surroundings.folder path (text ++ "\n").toUTF8 with
    | .error trouble =>
      { exit := .failure, diagnostics := said, escape := some (.output trouble)
        surroundings := surroundings }
    | .ok disk =>
      { exit := .success, diagnostics := said ++ [Messages.written path]
        surroundings := { surroundings with disk := disk } }

/-- What going through the files of a search comes to. Apart from the files this depends on what disturbs
the search and on the order in which several workers finish the files. -/
abbrev Course := Search → Reads → List Path → Except Abort Report

def Course.inOrder (disturbances : Disturbances) : Course :=
  fun search reads files => search.run reads disturbances files

def runSearch (arguments : Arguments) (surroundings : Surroundings) (course : Course)
    (said : List Diagnostic) (search : Search) : Answer :=
  let files := search.discover surroundings.disk
  let said := said ++ [Messages.matched files]
  match course search surroundings.reads files with
  | .error .interrupted =>
    { exit := .cancelled, diagnostics := said ++ [Messages.cancelled], surroundings := surroundings }
  | .error (.outside file) =>
    { exit := .failure, diagnostics := said, escape := some (.abort (.outside file))
      surroundings := surroundings }
  | .error abort =>
    { exit := .failure, diagnostics := said ++ [Messages.failed abort], surroundings := surroundings }
  | .ok report =>
    deliver arguments surroundings (said ++ Messages.report search.settings report)
      (if arguments.withSummary then report.textWithSummary else report.text)

def Arguments.given (arguments : Arguments) : Given where
  symbol := arguments.symbol
  domain := arguments.domain
  includes := arguments.includes
  excludes := arguments.excludes
  before := arguments.before
  after := arguments.after
  workers := arguments.workers
  strict := if arguments.tolerant then some false else none

def search (surroundings : Surroundings) (course : Course) (arguments : Arguments) : Answer :=
  let said := [Messages.searching arguments.symbol arguments.domain]
  let (surroundings, settings) := surroundings.loadSettings (Path.ofString arguments.root) arguments.given
  match settings with
  | .error (.settings flaw) =>
    { exit := .misuse, diagnostics := said ++ Messages.misuse flaw, surroundings := surroundings }
  | .error obstacle =>
    { exit := .failure, diagnostics := said, escape := some (.obstacle obstacle)
      surroundings := surroundings }
  | .ok settings =>
    let said := said ++ Messages.root settings
    match Search.ofSettings surroundings settings with
    | .error obstacle =>
      { exit := .failure, diagnostics := said, escape := some (.obstacle obstacle)
        surroundings := surroundings }
    | .ok search => runSearch arguments surroundings course said search

/-- Answers a command line when a search would take the given course. -/
def runBy (surroundings : Surroundings) (course : Course) (words : List String) : Answer :=
  match Request.ofWords? words with
  | none => { exit := .misuse, surroundings := surroundings }
  | some .help => { exit := .success, surroundings := surroundings }
  | some .version =>
    { exit := .success, output := programName ++ " " ++ versionText ++ "\n", surroundings := surroundings }
  | some (.search arguments) => search surroundings course arguments

theorem runBy_eq_search {surroundings : Surroundings} {course : Course} {words : List String} {arguments : Arguments}
    (hwords : Request.ofWords? words = some (.search arguments)) :
    runBy surroundings course words = search surroundings course arguments := by
  unfold runBy
  rw [hwords]

def run (surroundings : Surroundings) (disturbances : Disturbances) (words : List String) : Answer :=
  runBy surroundings (Course.inOrder disturbances) words

end UseSites.Command
