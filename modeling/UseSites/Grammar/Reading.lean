import Std.Data.TreeMap.Basic
import UseSites.Grammar.LineEnd
import UseSites.Grammar.Rule
/-!
# Reading a source by a grammar

`Rule.read` reads a rule at a place of the source and yields the nodes of the rule with the place behind
them. It works on the rule alone; goals are read by a function that it is given. `readGoal` ties the
knot with a bound on the depth of goals inside one another. What a goal yields at a place is kept, so
that going back over a stretch costs nothing the second time. It is kept in a search tree and not in a
hash table, because the hashes of Lean do not compute in proofs, and a short source should.

Nodes know where they start and stop in the source. All tokens are nodes, so that whatever lies
between two neighbours is blank or comment.
-/

namespace UseSites.Grammar

structure Node where
  kind : String
  named : Bool := true
  label : Option String := none
  start : Nat
  stop : Nat
  missing : Bool := false
  children : List Node := []
  deriving Inhabited

/-- A place in the source: how many characters come before it, how many come after it, and those. -/
structure Place where
  before : Nat
  after : Nat
  rest : List Char
  deriving Inhabited

namespace Place

def ofText (text : List Char) : Place := ⟨0, text.length, text⟩

def advance (place : Place) (count : Nat) : Place :=
  ⟨place.before + count, place.after - count, place.rest.drop count⟩

def pastGap (place : Place) : Place := place.advance (gap place.rest).length

end Place

abbrev Outcome := Option (List Node × Place)

/-- What has been read so far: the outcomes of goals by place, the furthest place at which a token was
looked for, and where the last token starts and stops that was found. -/
structure Memory where
  outcomes : Std.TreeMap Nat (List (Goal × Outcome)) := {}
  furthest : Nat := 0
  lastStart : Nat := 0
  lastStop : Nat := 0
  deriving Inhabited

namespace Memory

def outcome? (memory : Memory) (goal : Goal) (place : Nat) : Option Outcome :=
  (memory.outcomes.getD place []).lookup goal

def remember (memory : Memory) (goal : Goal) (place : Nat) (outcome : Outcome) : Memory :=
  { memory with
    outcomes := memory.outcomes.insert place ((goal, outcome) :: memory.outcomes.getD place []) }

end Memory

abbrev Reader := Place → Memory → Outcome × Memory

def Condition.holds (dialect : Dialect) (place : Place) : Condition → Bool
  | sameLine => !(gap place.rest).endsLine dialect
  | lineEnd => endsHere dialect false place.rest
  | headEnd => endsHere dialect true place.rest
  | sourceEnd => place.pastGap.rest.isEmpty

def readToken (kind : Option String) (token : Token) : Reader := fun place memory =>
  let memory := { memory with furthest := max memory.furthest place.before }
  match token.length? place.rest with
  | none => (none, memory)
  | some length =>
    let node : Node :=
      { kind := kind.getD (String.ofList (place.rest.take length)), named := kind.isSome,
        start := place.before, stop := place.before + length }
    let memory :=
      if node.stop ≤ memory.lastStop then memory
      else { memory with lastStart := node.start, lastStop := node.stop }
    (some ([node], place.advance length), memory)

def nodeAround (kind : String) (place : Place) (children : List Node) : Node :=
  { kind := kind, start := (children.head?.map Node.start).getD place.before,
    stop := (children.getLast?.map Node.stop).getD place.before, children := children }

/-- Reads a rule again and again until it fails or does not move. -/
def repeated (reader : Reader) : Nat → Reader
  | 0 => fun place memory => (some ([], place), memory)
  | bound + 1 => fun place memory =>
    match reader place memory with
    | (none, memory) => (some ([], place), memory)
    | (some (nodes, next), memory) =>
      if next.before ≤ place.before then (some ([], place), memory)
      else
        match repeated reader bound next memory with
        | (none, memory) => (some (nodes, next), memory)
        | (some (more, last), memory) => (some (nodes ++ more, last), memory)

/-- Lets every link that succeeds replace the last node. -/
def linked (link : Option Node → Reader) : Nat → Node → Reader
  | 0, last => fun place memory => (some ([last], place), memory)
  | bound + 1, last => fun place memory =>
    match link (some last) place memory with
    | (some ([wrapped], next), memory) =>
      if next.before ≤ place.before then (some ([last], place), memory)
      else linked link bound wrapped next memory
    | (_, memory) => (some ([last], place), memory)

namespace Rule

/-- Reads a rule. `last` is the node that the links of a chain continue. -/
def read (dialect : Dialect) (goals : Goal → Reader) : Rule → Option Node → Reader
  | nothing, _ => fun place memory => (some ([], place), memory)
  | token kind t, _ => fun place memory => readToken kind t place.pastGap memory
  | tight kind t, _ => fun place memory =>
    match readToken kind t place memory with
    | (some (nodes, next), memory) =>
      if next.before = place.before then (none, memory) else (some (nodes, next), memory)
    | failed => failed
  | seq first second, last => fun place memory =>
    match read dialect goals first last place memory with
    | (none, memory) => (none, memory)
    | (some (nodes, next), memory) =>
      match read dialect goals second last next memory with
      | (none, memory) => (none, memory)
      | (some (more, next), memory) => (some (nodes ++ more, next), memory)
  | alt first second, last => fun place memory =>
    match read dialect goals first last place memory with
    | (none, memory) => read dialect goals second last place memory
    | found => found
  | many rule, last => fun place memory =>
    repeated (read dialect goals rule last) place.after place memory
  | node kind body, last => fun place memory =>
    match read dialect goals body last place memory with
    | (none, memory) => (none, memory)
    | (some (children, next), memory) => (some ([nodeAround kind place children], next), memory)
  | labelled label body, last => fun place memory =>
    match read dialect goals body last place memory with
    | (none, memory) => (none, memory)
    | (some (nodes, next), memory) =>
      (some (nodes.map fun item => { item with label := some label }, next), memory)
  | goal g, _ => goals g
  | chain head links, last => fun place memory =>
    match read dialect goals head last place memory with
    | (some ([first], next), memory) => linked (read dialect goals links) next.after first next memory
    | found => found
  | wrap kind label body, last => fun place memory =>
    match last with
    | none => (none, memory)
    | some first =>
      match read dialect goals body last place memory with
      | (none, memory) => (none, memory)
      | (some (others, next), memory) =>
        (some ([nodeAround kind place ({ first with label := label } :: others)], next), memory)
  | lastIs kinds, last => fun place memory =>
    if (last.map fun item => kinds.contains item.kind).getD false then (some ([], place), memory)
    else (none, memory)
  | ahead rule, last => fun place memory =>
    match read dialect goals rule last place memory with
    | (none, memory) => (none, memory)
    | (some _, memory) => (some ([], place), memory)
  | notAhead rule, last => fun place memory =>
    match read dialect goals rule last place memory with
    | (none, memory) => (some ([], place), memory)
    | (some _, memory) => (none, memory)
  | require condition, _ => fun place memory =>
    if condition.holds dialect place then (some ([], place), memory) else (none, memory)
  | only dialects rule, last => fun place memory =>
    if dialects.contains dialect then read dialect goals rule last place memory else (none, memory)

end Rule

/-- Reads a goal by its rule, with goals at most `depth` deep inside one another. -/
def readGoal (grammar : Goal → Rule) (dialect : Dialect) : Nat → Goal → Reader
  | 0, _ => fun _ memory => (none, memory)
  | depth + 1, goal => fun place memory =>
    match memory.outcome? goal place.before with
    | some outcome => (outcome, memory)
    | none =>
      let (outcome, memory) := (grammar goal).read dialect (readGoal grammar dialect depth) none place memory
      (outcome, memory.remember goal place.before outcome)

end UseSites.Grammar
