/-!
# Outlines

An `Outline` keeps of a source file only what the search for uses looks at: imports, calls, member
accesses, identifiers and declarations. Any other construct is a `group` of the interesting parts
below it.

The search visits an outline through `sites`, which lists every node once, parents first, together
with the one fact about its position that matters: whether it is what a call calls. The walk keeps an
explicit stack, so its depth does not grow with the tree; the quantity that shrinks is the number of
nodes on the stack and below it. `preorder` is the same order by plain recursion.
-/

namespace UseSites

structure Binding where
  name : String
  line : Int
  deriving DecidableEq, Inhabited, Repr

inductive Outline where
  /-- An import statement, or a variable bound to a required module. -/
  | imported (source : String) (line : Int) (bindings : List Binding)
  | call (line : Int) (callee : Outline) (arguments : List Outline)
  /-- An access to a member, on the line where the whole access starts. -/
  | member (name : String) (line : Int) (object : Outline)
  | identifier (name : String) (line : Int)
  /-- The name a declaration introduces is not among its parts. -/
  | declaration (kind : String) (name : Option String) (line : Int) (parts : List Outline)
  | group (kind : String) (line : Int) (parts : List Outline)
  deriving Inhabited

namespace Outline

def line : Outline → Int
  | imported _ line _ | call line _ _ | member _ line _ | identifier _ line
  | declaration _ _ line _ | group _ line _ => line

/-- A node of an outline at its place: `called` says whether it is what a call calls. -/
structure Site where
  node : Outline
  called : Bool
  deriving Inhabited

/-- The parts of a node in source order. The bindings of an import are not parts. -/
def children : Outline → List Outline
  | imported .. => []
  | call _ callee arguments => callee :: arguments
  | member _ _ object => [object]
  | identifier .. => []
  | declaration _ _ _ parts => parts
  | group _ _ parts => parts

def childSites : Outline → List Site
  | call _ callee arguments => ⟨callee, true⟩ :: arguments.map (⟨·, false⟩)
  | node => node.children.map (⟨·, false⟩)

theorem map_node_childSites (node : Outline) : node.childSites.map Site.node = node.children := by
  cases node <;> simp [childSites, children, Function.comp_def]

mutual

def size : Outline → Nat
  | imported .. => 1
  | call _ callee arguments => 1 + (size callee + sizeAll arguments)
  | member _ _ object => 1 + (size object + 0)
  | identifier .. => 1
  | declaration _ _ _ parts => 1 + sizeAll parts
  | group _ _ parts => 1 + sizeAll parts

def sizeAll : List Outline → Nat
  | [] => 0
  | node :: rest => size node + sizeAll rest

end

theorem size_eq (node : Outline) : node.size = 1 + sizeAll node.children := by
  cases node <;> simp [size, children, sizeAll]

theorem sizeAll_append (xs ys : List Outline) : sizeAll (xs ++ ys) = sizeAll xs + sizeAll ys := by
  induction xs with
  | nil => simp [sizeAll]
  | cons x xs ih => simp [sizeAll, ih, Nat.add_assoc]

/-- The nodes on a stack of sites and below them, the top of the stack first. -/
def sitesFrom : List Site → List Site
  | [] => []
  | site :: stack => site :: sitesFrom (site.node.childSites ++ stack)
termination_by stack => sizeAll (stack.map Site.node)
decreasing_by
  simp only [List.map_append, map_node_childSites, sizeAll_append, List.map_cons, sizeAll, size_eq site.node]
  omega

def sites (root : Outline) : List Site := sitesFrom [⟨root, false⟩]

def walk (root : Outline) : List Outline := root.sites.map Site.node

mutual

/-- Every node, parents before children, by recursion on the tree. -/
def preorder : Outline → List Outline
  | imported source line bindings => [imported source line bindings]
  | call line callee arguments =>
    call line callee arguments :: (preorder callee ++ preorderAll arguments)
  | member name line object => member name line object :: preorder object
  | identifier name line => [identifier name line]
  | declaration kind name line parts => declaration kind name line parts :: preorderAll parts
  | group kind line parts => group kind line parts :: preorderAll parts

def preorderAll : List Outline → List Outline
  | [] => []
  | node :: rest => preorder node ++ preorderAll rest

end

end Outline

end UseSites
