/-!
# Concrete syntax trees

A `Cst` is a parsed file as the grammar sees it: every construct is a node with a kind, the row it
starts on, its text, and the label it carries inside its parent. The rest of the library reads a tree
through `namedChildren`, `child?`, `line` and `firstErrorLine`, and never through positions.

`firstErrorLine` searches with an explicit stack, so its depth does not grow with the tree, and looks only
below nodes that are flagged. `preorder` lists every node without looking at flags, so that the two can be
compared, and is what the search gets shorter by.
-/

namespace UseSites

/-- A node of a concrete syntax tree. Rows are counted from zero. -/
structure Cst where
  kind : String
  row : Nat := 0
  text : String := ""
  /-- The role of the node inside its parent, such as `name` or `arguments`. -/
  label : Option String := none
  /-- Punctuation and keywords are not named. -/
  named : Bool := true
  /-- The parser put the node in although the source has nothing there. -/
  missing : Bool := false
  /-- The node has an error in it or below it. -/
  flawed : Bool := false
  children : List Cst := []
  deriving Inhabited

namespace Cst

def line (node : Cst) : Int := node.row + 1

def namedChildren (node : Cst) : List Cst := node.children.filter (·.named)

/-- The first child with a label, named or not. -/
def child? (node : Cst) (label : String) : Option Cst :=
  node.children.find? (·.label == some label)

def childIndex? (node : Cst) (label : String) : Option Nat :=
  node.children.findIdx? (·.label == some label)

/-- A stretch the grammar could not read, or a token that had to be made up. -/
def isError (node : Cst) : Bool := node.kind == "ERROR" || node.missing

mutual

def preorder : Cst → List Cst
  | ⟨kind, row, text, label, named, missing, flawed, children⟩ =>
    ⟨kind, row, text, label, named, missing, flawed, children⟩ :: preorderAll children

def preorderAll : List Cst → List Cst
  | [] => []
  | child :: rest => preorder child ++ preorderAll rest

end

theorem preorder_eq_cons (node : Cst) : node.preorder = node :: preorderAll node.children := by
  cases node
  rfl

theorem preorderAll_append (nodes others : List Cst) :
    preorderAll (nodes ++ others) = preorderAll nodes ++ preorderAll others := by
  induction nodes with
  | nil => rfl
  | cons node rest ih => rw [List.cons_append, preorderAll, preorderAll, ih, List.append_assoc]

/-- The first error among the nodes on a stack and below them, the top of the stack first. A node that is not flagged
is not looked into. -/
def firstErrorFrom? : List Cst → Option Cst
  | [] => none
  | node :: stack =>
    if node.isError then some node
    else if node.flawed then firstErrorFrom? (node.children ++ stack)
    else firstErrorFrom? stack
termination_by stack => (preorderAll stack).length
decreasing_by
  all_goals
    simp only [preorderAll, preorder_eq_cons, preorderAll_append, List.cons_append, List.length_cons,
      List.length_append]
    omega

/-- The line of the first error, or the line of the node itself when it has none. -/
def firstErrorLine (root : Cst) : Int := ((firstErrorFrom? [root]).getD root).line

end Cst

end UseSites
