import UseSites.Category
import UseSites.Path
import UseSites.Settings.Environment
import UseSites.Text.Blank
import UseSites.Text.Excerpt
import UseSites.Text.Numeral
import UseSites.Text.Quoted
/-!
# Settings of a search

A search is told the root of a project, the name of a symbol and a business domain. All other settings
have three sources: a value that is given wins, then a variable of the environment that is not blank,
then the default. `Settings.build` takes them in the order of the fields and reports the first value that
cannot be used; a variable whose setting is given is never looked at.
-/

namespace UseSites

structure Settings where
  root : Path
  symbol : String
  filter : String
  includes : List String
  excludes : List String
  window : Window
  workers : Int
  strict : Bool
  deriving DecidableEq, Inhabited, Repr

inductive SettingsFlaw where
  | rootMissing (root : Path)
  | rootNotAFolder (root : Path)
  | rootNotReadable (root : Path)
  | badSymbol (symbol : String)
  | noDomain
  | notAnInteger (name value : String)
  | notABoolean (name value : String)
  | negativeWindow
  | tooFewWorkers (workers : Int)
  | noIncludes
  deriving DecidableEq, Inhabited, Repr

def SettingsFlaw.message : SettingsFlaw → String
  | rootMissing root => "Project root does not exist: " ++ root.toString
  | rootNotAFolder root => "Project root is not a directory: " ++ root.toString
  | rootNotReadable root => "Project root is not readable: " ++ root.toString
  | badSymbol symbol => "Symbol name must be a single identifier token, got " ++ Text.quoted symbol
  | noDomain => "Domain filter must be a non-empty string"
  | notAnInteger name value => name ++ " must be an integer, got " ++ Text.quoted value
  | notABoolean name value => name ++ " must be a boolean, got " ++ Text.quoted value
  | negativeWindow => "Context window sizes must be zero or positive"
  | tooFewWorkers workers => "Worker count must be at least 1, got " ++ toString workers
  | noIncludes => "At least one include pattern is required"

/-- What a search is told. An empty list of patterns counts as not given. -/
structure Given where
  symbol : String
  domain : String
  includes : List String := []
  excludes : List String := []
  before : Option Int := none
  after : Option Int := none
  workers : Option Int := none
  strict : Option Bool := none
  deriving DecidableEq, Inhabited, Repr

namespace Settings

def defaultIncludes : List String := ["*.ts", "*.tsx", "*.js", "*.jsx", "*.mjs", "*.cjs"]

def defaultExcludes : List String :=
  ["node_modules/", "dist/", "build/", ".git/", "coverage/", "*.d.ts"]

def defaultWindow : Window := ⟨1, 1⟩

def defaultWorkers : Int := 4

def isScoped (settings : Settings) : Bool := settings.filter != Category.everyDomain

/-! ### Variables -/

/-- The value of a variable that is set and not blank. -/
def setting? (environment : Environment) (name : String) : Option String :=
  (environment.get? name).filter fun value => !Text.allBlank value

def integer (environment : Environment) (name : String) (default : Int) : Except SettingsFlaw Int :=
  match setting? environment name with
  | none => .ok default
  | some value =>
    match Text.integer? value with
    | some number => .ok number
    | none => .error (.notAnInteger name value)

/-- The items of a list with commas between them, without blanks around them; blank items are none. -/
def listItems (value : String) : List String :=
  ((Text.pieces ',' value.toList).map fun item => String.ofList (Text.trimmed item)).filter (· ≠ "")

def list (environment : Environment) (name : String) (default : List String) : List String :=
  ((setting? environment name).map listItems).getD default

def truthOf? (value : String) : Option Bool :=
  let word := Text.lower (Text.trim value)
  if ["1", "true", "yes", "on"].contains word then some true
  else if ["0", "false", "no", "off"].contains word then some false
  else none

def boolean (environment : Environment) (name : String) (default : Bool) : Except SettingsFlaw Bool :=
  match setting? environment name with
  | none => .ok default
  | some value =>
    match truthOf? value with
    | some truth => .ok truth
    | none => .error (.notABoolean name value)

/-! ### Building -/

def startsSymbol (c : Char) : Bool := c.isAlpha || c == '_' || c == '$'

def continuesSymbol (c : Char) : Bool := startsSymbol c || c.isDigit

/-- Names of symbols: one identifier, which a line feed may end. -/
def isSymbol (text : String) : Bool :=
  let name := if text.toList.getLast? = some '\n' then text.toList.dropLast else text.toList
  match name with
  | [] => false
  | c :: rest => startsSymbol c && rest.all continuesSymbol

def given {α : Type} (value : Option α) (read : Except SettingsFlaw α) : Except SettingsFlaw α :=
  match value with
  | some value => .ok value
  | none => read

def givenList (values : List String) (read : List String) : List String :=
  if values.isEmpty then read else values

/-- Conditions on values, whatever their source. -/
def check (settings : Settings) : Except SettingsFlaw Settings :=
  if settings.window.before < 0 ∨ settings.window.after < 0 then .error .negativeWindow
  else if settings.workers < 1 then .error (.tooFewWorkers settings.workers)
  else if settings.includes.isEmpty then .error .noIncludes
  else .ok settings

def build (environment : Environment) (root : Path) (values : Given) : Except SettingsFlaw Settings := do
  if !isSymbol values.symbol then throw (.badSymbol values.symbol)
  if Text.allBlank values.domain then throw .noDomain
  let includes := givenList values.includes (list environment "REFSCAN_INCLUDE" defaultIncludes)
  let excludes := givenList values.excludes (list environment "REFSCAN_EXCLUDE" defaultExcludes)
  let before ← given values.before (integer environment "REFSCAN_CONTEXT_BEFORE" defaultWindow.before)
  let after ← given values.after (integer environment "REFSCAN_CONTEXT_AFTER" defaultWindow.after)
  let workers ← given values.workers (integer environment "REFSCAN_WORKERS" defaultWorkers)
  let strict ← given values.strict (boolean environment "REFSCAN_STRICT_PARSE" true)
  check
    { root := root, symbol := values.symbol, filter := Text.trim values.domain, includes := includes,
      excludes := excludes, window := ⟨before, after⟩, workers := workers, strict := strict }

end Settings

end UseSites
