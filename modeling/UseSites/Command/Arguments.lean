import UseSites.Text.Numeral
/-!
# Command lines

A command line has three arguments and any number of options between, before and behind them. An option
with a value takes what follows it, joined by `=` or, after a single letter, directly, or else the next
word, whatever that is. Everything behind `--` is an argument. `Request.ofWords?` reads a command line, and
has no answer when it is misused.

Asking for help or for the version goes before every misuse that is not an unknown option or an option
with a missing or superfluous value.
-/

namespace UseSites.Command

inductive OptionName where
  | includes | excludes | before | after | workers | output | withSummary | tolerant | version | help
  deriving DecidableEq, Inhabited, Repr

namespace OptionName

/-- The long form of every option, without the dashes. -/
def table : List (String × OptionName) :=
  [("include", includes), ("exclude", excludes), ("before", before), ("after", after),
    ("workers", workers), ("output", output), ("with-summary", withSummary), ("tolerant", tolerant),
    ("version", version), ("help", help)]

def letters : List (Char × OptionName) :=
  [('i', includes), ('x', excludes), ('B', before), ('A', after), ('w', workers), ('o', output)]

def takesValue : OptionName → Bool
  | withSummary | tolerant | version | help => false
  | _ => true

end OptionName

structure Words where
  options : List (OptionName × String) := []
  arguments : List String := []
  deriving DecidableEq, Inhabited, Repr

namespace Words

def withOption (name : OptionName) (value : String) (words : Words) : Words :=
  { words with options := (name, value) :: words.options }

def withArgument (argument : String) (words : Words) : Words :=
  { words with arguments := argument :: words.arguments }

def splitAtEquals (word : List Char) : List Char × Option (List Char) :=
  let name := word.takeWhile (· ≠ '=')
  (name, if name.length < word.length then some (word.drop (name.length + 1)) else none)

/-- A word that starts with a dash, as an option and the value that is part of the word. -/
def option? (word : List Char) : Option (OptionName × Option (List Char)) :=
  match word with
  | '-' :: '-' :: long =>
    let (name, value) := splitAtEquals long
    (OptionName.table.lookup (String.ofList name)).map fun option => (option, value)
  | '-' :: letter :: rest =>
    (OptionName.letters.lookup letter).map fun option => (option, if rest.isEmpty then none else some rest)
  | _ => none

/-- Tells words apart. An option that still waits for its value takes the next word. Nothing comes out
when an option is not known, or when its value is missing or superfluous. -/
def read? : Option OptionName → List String → Option Words
  | none, [] => some {}
  | some _, [] => none
  | some name, word :: rest => (read? none rest).map (withOption name word)
  | none, word :: rest =>
    match word.toList with
    | ['-', '-'] => some { arguments := rest }
    | '-' :: second :: more =>
      match option? ('-' :: second :: more) with
      | none => none
      | some (name, value) =>
        match name.takesValue, value with
        | true, some value => (read? none rest).map (withOption name (String.ofList value))
        | true, none => read? (some name) rest
        | false, none => (read? none rest).map (withOption name "")
        | false, some _ => none
    | _ => (read? none rest).map (withArgument word)

def ofList? (words : List String) : Option Words := read? none words

def values (words : Words) (name : OptionName) : List String :=
  (words.options.filter (·.1 == name)).map (·.2)

def value? (words : Words) (name : OptionName) : Option String := (words.values name).getLast?

def has (words : Words) (name : OptionName) : Bool := words.options.any (·.1 == name)

/-- The number that an option has for its last value, if it is there. Nothing comes out when that value is
no number. -/
def number? (words : Words) (name : OptionName) : Option (Option Int) :=
  match words.value? name with
  | none => some none
  | some value => (Text.integer? value).map some

end Words

structure Arguments where
  root : String
  symbol : String
  domain : String
  includes : List String := []
  excludes : List String := []
  before : Option Int := none
  after : Option Int := none
  workers : Option Int := none
  output : Option String := none
  withSummary : Bool := false
  tolerant : Bool := false
  deriving DecidableEq, Inhabited, Repr

inductive Request where
  | help
  | version
  | search (arguments : Arguments)
  deriving DecidableEq, Inhabited, Repr

namespace Request

/-- The first option that is answered at once. -/
def atOnce? (words : Words) : Option Request :=
  words.options.findSome? fun (name, _) =>
    if name = .help then some .help else if name = .version then some .version else none

def arguments? (words : Words) : Option Arguments :=
  match words.arguments with
  | [root, symbol, domain] => do
    let before ← words.number? .before
    let after ← words.number? .after
    let workers ← words.number? .workers
    return {
      root := root, symbol := symbol, domain := domain, includes := words.values .includes
      excludes := words.values .excludes, before := before, after := after, workers := workers
      output := words.value? .output, withSummary := words.has .withSummary
      tolerant := words.has .tolerant }
  | _ => none

def ofWords? (words : List String) : Option Request :=
  match Words.ofList? words with
  | none => none
  | some words => (atOnce? words).or ((arguments? words).map .search)

end Request

end UseSites.Command
