import UseSites.Report.Failure
import UseSites.Report.Reference
/-!
# Reports

A file that was searched is out of scope, could not be loaded, or has references. A `Report` puts the
files of a search together. It is the same whatever the order in which the files were finished, because
its lists are sorted, except for `finished`, which is that order. When all files in scope have failed
there is no report.

Results come one by one. `Progress` is what is known between two of them: each is announced when it comes,
until one of them stops the search.
-/

namespace UseSites

inductive FileOutcome where
  | outOfScope
  | failed (flaw : Flaw)
  | found (references : List Reference)
  deriving DecidableEq, Inhabited, Repr

structure Searched where
  file : Path
  outcome : FileOutcome
  deriving DecidableEq, Inhabited, Repr

namespace Searched

def references (searched : Searched) : List Reference :=
  match searched.outcome with
  | .found references => references
  | _ => []

def failure? (searched : Searched) : Option Failure :=
  match searched.outcome with
  | .failed flaw => some ⟨searched.file.toString, flaw.reason⟩
  | _ => none

def isOutOfScope (searched : Searched) : Bool := searched.outcome == .outOfScope

end Searched

inductive Abort where
  /-- A file to be searched is not below the root. -/
  | outside (file : Path)
  | interrupted
  | loading (file : Path) (message : String)
  | scanning (file : Path) (message : String)
  | allFailed (count : Nat)
  deriving DecidableEq, Inhabited, Repr

def Abort.message : Abort → String
  | outside file => file.toString ++ " is not below the project root"
  | interrupted => "interrupted"
  | loading file message => "Failed to load " ++ file.toString ++ ": " ++ message
  | scanning file message => "Failed while scanning " ++ file.toString ++ ": " ++ message
  | allFailed count => "All " ++ toString count ++ " source files failed to parse"

/-- How far a search has come: what was announced, and why it was stopped, if it was. -/
structure Progress where
  announced : List Searched := []
  stopped : Option Abort := none
  deriving DecidableEq, Inhabited, Repr

namespace Progress

/-- Takes one more result. A search that was stopped takes none. -/
def next (progress : Progress) (result : Except Abort Searched) : Progress :=
  match progress.stopped, result with
  | some _, _ => progress
  | none, .error abort => { progress with stopped := some abort }
  | none, .ok searched => { progress with announced := progress.announced ++ [searched] }

def after (results : List (Except Abort Searched)) : Progress := results.foldl next {}

end Progress

structure Report where
  /-- The files that were to be searched. -/
  files : List Path
  references : List Reference
  failures : List Failure
  outOfScope : List Path
  /-- The files in the order in which they were finished. -/
  finished : List Path
  deriving DecidableEq, Inhabited, Repr

namespace Report

def summary (report : Report) : Summary := Summary.ofReferences report.references

def sortedFailures (failures : List Failure) : List Failure :=
  failures.mergeSort fun a b => !decide (b.path < a.path)

def sortedPaths (paths : List Path) : List Path :=
  paths.mergeSort fun a b => !decide (b.toString < a.toString)

def ofSearched (files : List Path) (searched : List Searched) : Except Abort Report :=
  let inScope := searched.filter (!·.isOutOfScope)
  let failures := searched.filterMap Searched.failure?
  if 0 < inScope.length ∧ failures.length = inScope.length then .error (.allFailed inScope.length)
  else
    .ok
      { files := files
        references := Reference.sorted (searched.flatMap Searched.references)
        failures := sortedFailures failures
        outOfScope := sortedPaths ((searched.filter Searched.isOutOfScope).map Searched.file)
        finished := searched.map Searched.file }

/-- The report on files that were finished in the given order. The first one that stopped the search is
the reason why there is no report. -/
def ofFinished (files : List Path) (finished : List (Except Abort Searched)) : Except Abort Report :=
  let progress := Progress.after finished
  match progress.stopped with
  | some abort => .error abort
  | none => ofSearched files progress.announced

/-- A report apart from the order in which the files were finished. -/
def result (report : Report) : Report := { report with finished := [] }

def text (report : Report) : String := referencesText report.references

def textWithSummary (report : Report) : String := payloadText report.references report.summary

end Report

end UseSites
