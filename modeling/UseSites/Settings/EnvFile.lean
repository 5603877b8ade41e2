import UseSites.Settings.Environment
import UseSites.Text.Blank
/-!
# Files of variables

A file of variables has a line `NAME=value` for each of them. `assignments` reads such a text: a line may
start with `export`, values may stand in quotes, and a `#` after a blank starts a comment. A line that
makes no sense is passed over. `resolved` puts values of variables in place of `${NAME}` and
`${NAME:-default}`, where the environment goes before the file, and gives every name its last value.
-/

namespace UseSites.EnvFile

open Text (isBlank trimmedLeft trimmedRight)

/-- A text with every kind of line end turned into a line feed, and without a byte order mark. -/
def normalized (text : List Char) : List Char :=
  let rec ends : List Char → List Char
    | [] => []
    | '\r' :: '\n' :: rest => '\n' :: ends rest
    | '\r' :: rest => '\n' :: ends rest
    | c :: rest => c :: ends rest
  match text with
  | c :: rest => if c.toNat = 0xfeff then ends rest else ends text
  | [] => []

def isInnerBlank (c : Char) : Bool := isBlank c && c ≠ '\n'

def skipBlanks (text : List Char) : List Char := text.dropWhile isInnerBlank

def nextLine (text : List Char) : List Char := (text.dropWhile (· ≠ '\n')).drop 1

/-! ### Quoted values -/

def atPlainQuote? (quote : Char) : List Char → Option (List Char × List Char)
  | [] => none
  | '\\' :: c :: rest =>
    if c = quote then (atPlainQuote? quote rest).map fun (inside, after) => ('\\' :: c :: inside, after)
    else (atPlainQuote? quote (c :: rest)).map fun (inside, after) => ('\\' :: inside, after)
  | c :: rest =>
    if c = quote then some ([], rest)
    else (atPlainQuote? quote rest).map fun (inside, after) => (c :: inside, after)

def atLastQuote? (quote : Char) (text : List Char) : Option (List Char × List Char) :=
  let after := text.reverse.takeWhile (· ≠ quote)
  if after.length < text.length then
    some (text.take (text.length - after.length - 1), after.reverse)
  else none

/-- The inside of a quoted value and what follows it. A quote with a backslash closes a value only when
there is no other. -/
def closed? (quote : Char) (text : List Char) : Option (List Char × List Char) :=
  (atPlainQuote? quote text).or (atLastQuote? quote text)

def escapes : List (Char × Char) :=
  [('\\', '\\'), ('\'', '\''), ('"', '"'), ('a', '\x07'), ('b', '\x08'), ('f', '\x0c'), ('n', '\n'),
    ('r', '\r'), ('t', '\t'), ('v', '\x0b')]

def plainEscapes : List (Char × Char) := [('\\', '\\'), ('\'', '\'')]

def unescaped (table : List (Char × Char)) : List Char → List Char
  | '\\' :: c :: rest =>
    match table.lookup c with
    | some image => image :: unescaped table rest
    | none => '\\' :: unescaped table (c :: rest)
  | c :: rest => c :: unescaped table rest
  | [] => []

/-! ### Lines -/

/-- The part of a value before a comment, which starts with a blank and a `#`. -/
def beforeComment : List Char → List Char
  | [] => []
  | c :: rest =>
    if isBlank c && (trimmedLeft rest).head? == some '#' then [] else c :: beforeComment rest

def value? (text : List Char) : Option (List Char × List Char) :=
  match skipBlanks text with
  | '\'' :: rest => (closed? '\'' rest).map fun (inside, after) => (unescaped plainEscapes inside, after)
  | '"' :: rest => (closed? '"' rest).map fun (inside, after) => (unescaped escapes inside, after)
  | _ =>
    let line := text.takeWhile (· ≠ '\n')
    some (trimmedRight (trimmedLeft (beforeComment line)), text.drop line.length)

def name? (text : List Char) : Option (List Char × List Char) :=
  match text with
  | '#' :: _ => some ([], text)
  | '\'' :: rest =>
    let name := rest.takeWhile (· ≠ '\'')
    if name.isEmpty || name.length = rest.length then none else some (name, rest.drop (name.length + 1))
  | _ =>
    let name := text.takeWhile fun c => c ≠ '=' && c ≠ '#' && !isBlank c
    if name.isEmpty then none else some (name, text.drop name.length)

def exportWord : List Char := ['e', 'x', 'p', 'o', 'r', 't']

def withoutExport (text : List Char) : List Char :=
  if exportWord.isPrefixOf text && ((text.drop exportWord.length).head?.map isInnerBlank).getD false then
    skipBlanks (text.drop exportWord.length)
  else text

def lineEnd? (text : List Char) : Option (List Char) :=
  match skipBlanks text with
  | [] => some []
  | '\n' :: rest => some rest
  | '#' :: rest => some (nextLine rest)
  | _ => none

/-- A variable of a file. One without an equals sign has no value. -/
abbrev Assignment := String × Option String

def assignment (text : List Char) : Option Assignment × List Char :=
  let start := withoutExport text
  match name? start with
  | none => (none, nextLine start)
  | some (name, rest) =>
    let found := match skipBlanks rest with
      | '=' :: behind =>
        match value? behind with
        | some (value, after) => Except.ok (some (String.ofList value), after)
        | none => .error behind
      | after => .ok (none, after)
    match found with
    | .error behind => (none, nextLine behind)
    | .ok (value, after) =>
      match lineEnd? after with
      | none => (none, nextLine after)
      | some rest => (if name.isEmpty then none else some (String.ofList name, value), rest)

/-- Reads the lines of a text, each of which is shorter than what is left. -/
def assignmentsFrom (text : List Char) : List Assignment :=
  match trimmedLeft text with
  | [] => []
  | c :: more =>
    let (found, rest) := assignment (c :: more)
    if rest.length < text.length then found.toList ++ assignmentsFrom rest else found.toList
termination_by text.length

def assignments (text : String) : List Assignment := assignmentsFrom (normalized text.toList)

/-! ### References to variables -/

/-- The name and the default of the reference after `${`, and what follows it. -/
def reference? (text : List Char) : Option (List Char × Option (List Char) × List Char) :=
  let name := text.takeWhile fun c => c ≠ '\x7d' && c ≠ ':'
  match text.drop name.length with
  | '\x7d' :: rest => some (name, none, rest)
  | ':' :: '-' :: rest =>
    let default := rest.takeWhile (· ≠ '\x7d')
    match rest.drop default.length with
    | _ :: after => some (name, some default, after)
    | [] => none
  | _ => none

/-- A value with the values of variables in place of references to them. `skip` characters belong to a
reference that has been dealt with. -/
def expanded (lookup : String → Option (Option String)) (skip : Nat) : List Char → List Char
  | [] => []
  | c :: rest =>
    match skip with
    | skip + 1 => expanded lookup skip rest
    | 0 =>
      match c, rest with
      | '$', '\x7b' :: inner =>
        match reference? inner with
        | none => c :: expanded lookup 0 rest
        | some (name, default, after) =>
          let value := match lookup (String.ofList name) with
            | some value => (value.getD "").toList
            | none => default.getD []
          value ++ expanded lookup (rest.length - after.length) rest
      | _, _ => c :: expanded lookup 0 rest

/-- Gives a name a value; a name that is there already stays in its place. -/
def assigned (name : String) (value : Option String) : List Assignment → List Assignment
  | [] => [(name, value)]
  | (other, old) :: rest =>
    if other == name then (name, value) :: rest else (other, old) :: assigned name value rest

def resolved (environment : Environment) (assignments : List Assignment) : List Assignment :=
  assignments.foldl
    (fun known (name, value) =>
      let lookup := fun name => ((environment.get? name).map some).or (known.lookup name)
      assigned name (value.map fun text => String.ofList (expanded lookup 0 text.toList)) known)
    []

def load (environment : Environment) (text : String) : Environment × Option String :=
  environment.adopt (resolved environment (assignments text))

end UseSites.EnvFile
