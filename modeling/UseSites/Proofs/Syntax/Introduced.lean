import Mathlib.Data.List.Flatten
import UseSites.Proofs.Syntax.Identifiers
import UseSites.Proofs.Use.Mentions
/-!
# Names that imports introduce

The parts of an import statement are what is left of its children without comments, signs and keywords. `Introduces`
follows the grammar of imports over these parts, form by form, and says which tokens are the local names that a
statement introduces, in the order of the source: a default, a namespace, each specifier of a list under its alias if
it has one, or the name of a required module.

Lowering finds exactly these names (`importBindings_eq`). A file of nothing but imports becomes a group of imports,
so that all that can be found in it are the local names (`introduced_names_found`).
-/

namespace UseSites

namespace Outline

theorem linesOf_of_imports (way : Mention) (symbol kind : String) (line : Int) {imports : List Outline}
    {bindings : List (List Binding)}
    (h : List.Forall₂ (fun node names => ∃ source line, node = .imported source line names) imports bindings) :
    linesOf way symbol (.group kind line imports)
      = if way = .binding then (bindings.flatten.filter (·.name == symbol)).map (·.line) else [] := by
  have hmentions : mentionsAll symbol imports
      = (bindings.flatten.filter (·.name == symbol)).map fun binding => (.binding, binding.line) := by
    induction h with
    | nil => rfl
    | @cons node names imports bindings hfirst _ ih =>
      obtain ⟨source, line, rfl⟩ := hfirst
      rw [mentionsAll, ih, mentions, List.flatten_cons, List.filter_append, List.map_append]
  rw [linesOf, mentions, hmentions, linesAmong_bindings]

theorem tagged_nil (role : Role) : tagged role [] = [] := rfl

theorem tagged_eq_nil_iff {role : Role} {lines : List Int} : tagged role lines = [] ↔ lines = [] := by
  simp only [List.eq_nil_iff_forall_not_mem, mem_tagged]
  exact ⟨fun h line hline => h ⟨line, role⟩ ⟨rfl, hline⟩, fun h use huse => h use.line huse.2⟩

/-- All that is found in a file of nothing but imports are their names, once on each line. -/
theorem uses_of_imports (symbol kind : String) (line : Int) {imports : List Outline} {bindings : List (List Binding)}
    (h : List.Forall₂ (fun node names => ∃ source line, node = .imported source line names) imports bindings) :
    (Outline.group kind line imports).uses symbol
      = tagged .imported ((bindings.flatten.filter (·.name == symbol)).map (·.line)) := by
  simp [uses_eq, firmUses, callbackLines, linesOf_of_imports _ symbol kind line h, tagged_nil]

end Outline

namespace Cst

/-! ### The grammar of imports -/

def triviaKinds : List String := ["comment", "html_comment", "hash_bang_line"]

/-- Comments, and the first line of a script. -/
def isTrivia (node : Cst) : Bool := triviaKinds.contains node.kind && node.label.isNone && node.children.isEmpty

/-- The children of a node without comments, and without signs and keywords that have no role in it. -/
def parts (node : Cst) : List Cst :=
  node.children.filter fun child => (child.named || child.label.isSome) && !child.isTrivia

def IsNode (kind : String) (node : Cst) : Prop := node.named = true ∧ node.kind = kind

/-- The local name of a specifier is its alias, or else the name that is imported. -/
inductive Specifies (specifier : Cst) : Cst → Prop where
  | plain {name : Cst} (hkind : specifier.IsNode "import_specifier") (hparts : specifier.parts = [name])
      (hname : name.label = some "name") : Specifies specifier name
  | renamed {name chosen : Cst} (hkind : specifier.IsNode "import_specifier")
      (hparts : specifier.parts = [name, chosen]) (hname : name.label = some "name") (halias : chosen.label = some "alias") : Specifies specifier chosen

/-- A part of an import clause: a default, a namespace, or a list of specifiers. -/
inductive PartIntroduces (part : Cst) : List Cst → Prop where
  | default (hkind : part.IsNode "identifier") : PartIntroduces part [part]
  | everything {name : Cst} (hkind : part.IsNode "namespace_import") (hparts : part.parts = [name])
      (hname : name.IsNode "identifier") : PartIntroduces part [name]
  | specifiers {names : List Cst} (hkind : part.IsNode "named_imports")
      (hparts : List.Forall₂ Specifies part.parts names) : PartIntroduces part names

/-- The clause of an import statement: any mix of parts, or a required module with its name. -/
inductive ClauseIntroduces (clause : Cst) : List Cst → Prop where
  | parts {names : List (List Cst)} (hkind : clause.IsNode "import_clause")
      (hparts : List.Forall₂ PartIntroduces clause.parts names) : ClauseIntroduces clause names.flatten
  | required {name source : Cst} (hkind : clause.IsNode "import_require_clause")
      (hparts : clause.parts = [name, source]) (hname : name.IsNode "identifier") (hsource : source.IsNode "string") : ClauseIntroduces clause [name]

def clauseKinds : List String := ["import_clause", "import_require_clause"]

/-- An import statement and the tokens of the local names it introduces, in the order of the source. Apart from its
clause, a statement has the name of the module and attributes. -/
inductive Introduces (statement : Cst) : List Cst → Prop where
  | sideEffect (hkind : statement.IsNode "import_statement")
      (hrest : ∀ part ∈ statement.parts, part.kind ∉ clauseKinds) : Introduces statement []
  | clause {clause : Cst} {rest names : List Cst} (hkind : statement.IsNode "import_statement")
      (hparts : statement.parts = clause :: rest) (hrest : ∀ part ∈ rest, part.kind ∉ clauseKinds)
      (hclause : ClauseIntroduces clause names) : Introduces statement names

theorem Introduces.isNode {statement : Cst} {names : List Cst} (h : Introduces statement names) :
    statement.IsNode "import_statement" := by
  cases h with
  | sideEffect hkind _ => exact hkind
  | clause hkind _ _ _ => exact hkind

/-! ### Parts and children -/

/-- What looks at named children and passes over comments looks at parts. -/
theorem flatMap_namedChildren {β : Type} {f : Cst → List β} (htrivia : ∀ child, child.isTrivia = true → f child = [])
    (node : Cst) : node.namedChildren.flatMap f = (node.parts.filter (·.named)).flatMap f := by
  rw [namedChildren, parts, List.filter_filter, flatMap_filter, flatMap_filter]
  refine List.flatMap_congr fun child _ => ?_
  cases hnamed : child.named with
  | false => simp
  | true =>
    cases hchild : child.isTrivia with
    | false => simp
    | true => simp [htrivia child hchild]

theorem child?_eq_find?_parts (node : Cst) (label : String) :
    node.child? label = node.parts.find? (·.label == some label) := by
  rw [child?, parts, List.find?_filter]
  congr 1
  funext child
  by_cases hlabel : child.label = some label
  · simp [hlabel, isTrivia]
  · simp [beq_false_of_ne hlabel]

theorem kind_of_isTrivia {node : Cst} (h : node.isTrivia = true) : node.kind ∈ triviaKinds := by
  rw [isTrivia, Bool.and_assoc, Bool.and_eq_true] at h
  exact List.contains_iff_mem.1 h.1

theorem ofKind_namedChildren {kind : String} (hkind : kind ∉ triviaKinds) (node : Cst) :
    ofKind kind node.namedChildren = ofKind kind (node.parts.filter (·.named)) := by
  rw [ofKind, ofKind, namedChildren, parts, List.filter_filter, List.filter_filter, List.filter_filter]
  refine List.filter_congr fun child _ => ?_
  cases htrivia : child.isTrivia with
  | false => cases child.named <;> simp
  | true =>
    have hne : child.kind ≠ kind := by
      rintro rfl
      exact hkind (kind_of_isTrivia htrivia)
    simp [hne]

/-! ### Bindings -/

theorem specifierBinding?_eq {specifier name : Cst} (h : Specifies specifier name) :
    specifierBinding? specifier = some (binding name) := by
  rw [specifierBinding?, child?_eq_find?_parts, child?_eq_find?_parts]
  cases h with
  | plain _ hparts hname => simp [hparts, hname]
  | renamed _ hparts hname halias => simp [hparts, hname, halias]

theorem specifierBindings_eq {specifiers names : List Cst} (h : List.Forall₂ Specifies specifiers names) :
    (ofKind "import_specifier" (specifiers.filter (·.named))).filterMap specifierBinding? = names.map binding := by
  induction h with
  | nil => rfl
  | @cons specifier name specifiers names hfirst _ ih =>
    have hnode : specifier.IsNode "import_specifier" := by
      cases hfirst with
      | plain hkind _ _ => exact hkind
      | renamed hkind _ _ _ => exact hkind
    rw [List.filter_cons_of_pos hnode.1, ofKind, List.filter_cons_of_pos (by simp [hnode.2]),
      List.filterMap_cons_some (specifierBinding?_eq hfirst), List.map_cons, ← ih, ofKind]

theorem PartIntroduces.named {part : Cst} {names : List Cst} (h : PartIntroduces part names) : part.named = true := by
  cases h with
  | default hkind => exact hkind.1
  | everything hkind _ _ => exact hkind.1
  | specifiers hkind _ => exact hkind.1

theorem clausePartBindings_eq {part : Cst} {names : List Cst} (h : PartIntroduces part names) :
    clausePartBindings part = names.map binding := by
  unfold clausePartBindings
  cases h with
  | default hkind =>
    rw [hkind.2]
    rfl
  | @everything name hkind hparts hname =>
    rw [hkind.2]
    change (ofKind "identifier" part.namedChildren).map binding = [name].map binding
    rw [ofKind_namedChildren (by decide), hparts, List.filter_cons_of_pos hname.1, List.filter_nil, ofKind,
      List.filter_cons_of_pos (by simp [hname.2]), List.filter_nil]
  | @specifiers names hkind hparts =>
    rw [hkind.2]
    change (ofKind "import_specifier" part.namedChildren).filterMap specifierBinding? = names.map binding
    rw [ofKind_namedChildren (by decide), specifierBindings_eq hparts]

theorem clausePartBindings_of_isTrivia {part : Cst} (h : part.isTrivia = true) : clausePartBindings part = [] := by
  have hkind := kind_of_isTrivia h
  unfold clausePartBindings
  split
  · next heq => exact absurd (heq ▸ hkind) (by decide)
  · next heq => exact absurd (heq ▸ hkind) (by decide)
  · next heq => exact absurd (heq ▸ hkind) (by decide)
  · rfl

theorem clauseBindings_eq {parts : List Cst} {names : List (List Cst)} (h : List.Forall₂ PartIntroduces parts names) :
    (parts.filter (·.named)).flatMap clausePartBindings = names.flatten.map binding := by
  induction h with
  | nil => rfl
  | cons hfirst _ ih =>
    rw [List.filter_cons_of_pos hfirst.named, List.flatMap_cons, ih, clausePartBindings_eq hfirst, List.flatten_cons,
      List.map_append]

theorem ClauseIntroduces.named {clause : Cst} {names : List Cst} (h : ClauseIntroduces clause names) :
    clause.named = true := by
  cases h with
  | parts hkind _ => exact hkind.1
  | required hkind _ _ _ => exact hkind.1

theorem importPartBindings_eq {clause : Cst} {names : List Cst} (h : ClauseIntroduces clause names) :
    importPartBindings clause = names.map binding := by
  unfold importPartBindings
  cases h with
  | @parts names hkind hparts =>
    rw [hkind.2]
    change clause.namedChildren.flatMap clausePartBindings = names.flatten.map binding
    rw [flatMap_namedChildren fun _ => clausePartBindings_of_isTrivia, clauseBindings_eq hparts]
  | @required name source hkind hparts hname hsource =>
    rw [hkind.2]
    change ((ofKind "identifier" clause.namedChildren).take 1).map binding = [name].map binding
    rw [ofKind_namedChildren (by decide), hparts, List.filter_cons_of_pos hname.1, ofKind,
      List.filter_cons_of_pos (by simp [hname.2]), List.take_succ_cons, List.take_zero]

theorem importPartBindings_of_kind {part : Cst} (h : part.kind ∉ clauseKinds) : importPartBindings part = [] := by
  unfold importPartBindings
  split
  · next heq => exact absurd (by rw [heq]; decide) h
  · next heq => exact absurd (by rw [heq]; decide) h
  · rfl

/-- An import binds the local names that it introduces, each on the line of its own token. -/
theorem importBindings_eq {statement : Cst} {names : List Cst} (h : Introduces statement names) :
    importBindings statement = names.map binding := by
  -- Only the clause binds: comments are passed over, and what follows the clause is of another kind.
  have htrivia : ∀ part : Cst, part.isTrivia = true → importPartBindings part = [] := by
    intro part hpart
    refine importPartBindings_of_kind fun hclause => ?_
    have hdisjoint : ∀ kind ∈ clauseKinds, kind ∉ triviaKinds := by decide
    exact hdisjoint _ hclause (kind_of_isTrivia hpart)
  have hnone : ∀ {rest : List Cst}, (∀ part ∈ rest, part.kind ∉ clauseKinds) →
      (rest.filter (·.named)).flatMap importPartBindings = [] := by
    intro rest hrest
    refine List.flatMap_eq_nil_iff.2 fun part hpart => ?_
    exact importPartBindings_of_kind (hrest part (List.mem_filter.1 hpart).1)
  rw [importBindings, flatMap_namedChildren htrivia]
  cases h with
  | sideEffect _ hrest => exact hnone hrest
  | clause _ hparts hrest hclause =>
    rw [hparts, List.filter_cons_of_pos hclause.named, List.flatMap_cons, hnone hrest, List.append_nil,
      importPartBindings_eq hclause]

/-! ### The order of the source -/

theorem parts_sublist_children (node : Cst) : node.parts.Sublist node.children := List.filter_sublist

/-- What stands in the parts of a node one after the other stands so in the node. -/
theorem sublist_preorder {node : Cst} {names : List (List Cst)}
    (h : List.Forall₂ (fun part names => names.Sublist part.preorder) node.parts names) :
    names.flatten.Sublist node.preorder := by
  have hparts : ∀ {parts : List Cst} {names : List (List Cst)},
      List.Forall₂ (fun part names => names.Sublist part.preorder) parts names →
        names.flatten.Sublist (parts.flatMap preorder) := by
    intro parts names h
    induction h with
    | nil => exact List.Sublist.refl _
    | cons hfirst _ ih =>
      rw [List.flatten_cons, List.flatMap_cons]
      exact hfirst.append ih
  rw [preorder_eq]
  refine (hparts h).trans (List.Sublist.trans ?_ (List.sublist_cons_self _ _))
  exact (parts_sublist_children node).flatMap preorder

theorem preorder_sublist_preorder {node part : Cst} (h : part ∈ node.parts) : part.preorder.Sublist node.preorder := by
  rw [preorder_eq node]
  have hchild := (parts_sublist_children node).subset h
  exact (List.sublist_flatten_of_mem (List.mem_map_of_mem hchild)).trans (List.sublist_cons_self _ _)

theorem singleton_sublist_preorder {node part : Cst} (h : part ∈ node.parts) : [part].Sublist node.preorder :=
  (List.singleton_sublist.2 (mem_preorder_self part)).trans (preorder_sublist_preorder h)

theorem Specifies.sublist {specifier name : Cst} (h : Specifies specifier name) :
    [name].Sublist specifier.preorder := by
  cases h with
  | plain _ hparts _ => exact singleton_sublist_preorder (by simp [hparts])
  | renamed _ hparts _ _ => exact singleton_sublist_preorder (by simp [hparts])

theorem PartIntroduces.sublist {part : Cst} {names : List Cst} (h : PartIntroduces part names) :
    names.Sublist part.preorder := by
  cases h with
  | default _ => exact List.singleton_sublist.2 (mem_preorder_self part)
  | everything _ hparts _ => exact singleton_sublist_preorder (by simp [hparts])
  | specifiers _ hparts =>
    have hsingle : List.Forall₂ (fun part names => names.Sublist part.preorder) part.parts (names.map ([·])) :=
      List.forall₂_map_right_iff.2 (hparts.imp fun _ _ => Specifies.sublist)
    have hsublist := sublist_preorder hsingle
    rwa [← List.flatMap_def, List.flatMap_singleton'] at hsublist

theorem ClauseIntroduces.sublist {clause : Cst} {names : List Cst} (h : ClauseIntroduces clause names) :
    names.Sublist clause.preorder := by
  cases h with
  | parts _ hparts => exact sublist_preorder (hparts.imp fun _ _ => PartIntroduces.sublist)
  | required _ hparts _ _ => exact singleton_sublist_preorder (by simp [hparts])

/-- The local names of a statement are tokens of its tree, in the order of the source. -/
theorem Introduces.sublist {statement : Cst} {names : List Cst} (h : Introduces statement names) :
    names.Sublist statement.preorder := by
  cases h with
  | sideEffect _ _ => exact List.nil_sublist _
  | clause _ hparts _ hclause => exact hclause.sublist.trans (preorder_sublist_preorder (by simp [hparts]))

/-! ### Files of imports -/

theorem construct_of_import {statement : Cst} (h : statement.IsNode "import_statement") :
    statement.construct = .importing := by
  rw [construct, if_pos h.2]

theorem outline_image_of_introduces {statement : Cst} {names : List Cst} (h : Introduces statement names)
    (parent : Option String) :
    ∃ source, (image parent statement).outline = some (.imported source statement.line (names.map binding)) := by
  rw [outline_image, construct_of_import h.isNode, importOutline, importBindings_eq h]
  exact ⟨_, rfl⟩

theorem outline_image_of_isTrivia {node : Cst} (h : node.isTrivia = true) (parent : Option String) :
    (image parent node).outline = none := by
  obtain ⟨kind, row, text, label, named, missing, flawed, children⟩ := node
  have hkind := kind_of_isTrivia h
  obtain rfl : children = [] := by
    rw [isTrivia, Bool.and_eq_true] at h
    exact List.isEmpty_iff.1 h.2
  simp only [triviaKinds, List.mem_cons, List.not_mem_nil, or_false] at hkind
  rcases hkind with rfl | rfl | rfl <;> rfl

theorem outline_image_of_program {root : Cst} (hkind : root.kind = "program") (parent : Option String) :
    (image parent root).outline = match imagesOf root.kind root.namedChildren with
      | [] => none
      | parts => some (.group root.kind root.line parts) := by
  have hconstruct : root.construct = .plain := by
    obtain ⟨kind, row, text, label, named, missing, flawed, children⟩ := root
    obtain rfl : kind = "program" := hkind
    rfl
  have hnames : parameterNames parent root = [] := by
    obtain ⟨kind, row, text, label, named, missing, flawed, children⟩ := root
    obtain rfl : kind = "program" := hkind
    rfl
  rw [outline_image, hconstruct]
  show (match imagesOf root.kind (root.others (parameterNames parent root)) with
    | [] => none
    | parts => some (Outline.group root.kind root.line parts)) = _
  rw [hnames, others_nil]

/-- A file of nothing but imports and comments, with the local names of each import. -/
structure ImportsOnly (root : Cst) (names : List (List Cst)) : Prop where
  program : root.kind = "program"
  introduces : List.Forall₂ Introduces root.parts names

theorem imagesOf_of_introduces (above : String) {statements : List Cst} {names : List (List Cst)}
    (h : List.Forall₂ Introduces statements names) :
    List.Forall₂ (fun node names => ∃ source line, node = .imported source line names)
      ((statements.filter (·.named)).flatMap fun statement => (image (some above) statement).outline.toList)
      (names.map fun names => names.map binding) := by
  induction h with
  | nil => exact .nil
  | @cons statement first statements names hfirst _ ih =>
    obtain ⟨source, houtline⟩ := outline_image_of_introduces hfirst (some above)
    rw [List.filter_cons_of_pos hfirst.isNode.1, List.flatMap_cons, houtline]
    exact .cons ⟨source, _, rfl⟩ ih

theorem exists_outline_of_importsOnly {root : Cst} {names : List (List Cst)} (h : ImportsOnly root names) :
    ∃ imports, root.outline = .group root.kind root.line imports
      ∧ List.Forall₂ (fun node names => ∃ source line, node = Outline.imported source line names) imports
        (names.map fun names => names.map binding) := by
  have hparts : imagesOf root.kind root.namedChildren
      = (root.parts.filter (·.named)).flatMap fun statement => (image (some root.kind) statement).outline.toList := by
    rw [imagesOf, List.filterMap_eq_flatMap_toList]
    refine flatMap_namedChildren (fun node hnode => ?_) root
    rw [outline_image_of_isTrivia hnode]
    rfl
  refine ⟨imagesOf root.kind root.namedChildren, ?_, hparts ▸ imagesOf_of_introduces root.kind h.introduces⟩
  rw [outline, outline_image_of_program h.program]
  cases imagesOf root.kind root.namedChildren <;> rfl

/-- The import that a statement becomes binds just the local names it introduces, each on the line of its own token
and in the order of the tokens in the source. In a file of imports a symbol is found as an import once on each line
that has a local name equal to it, and in no other way. -/
theorem introduced_names_found :
    (∀ {statement : Cst} {names : List Cst}, Introduces statement names → ∀ parent,
        names.Sublist statement.preorder
          ∧ ∃ source, (image parent statement).outline
            = some (.imported source statement.line (names.map fun name => ⟨name.text, name.line⟩)))
      ∧ ∀ {root : Cst} {names : List (List Cst)}, ImportsOnly root names → ∀ symbol,
        root.outline.uses symbol = ((names.flatten.filter (·.text == symbol)).map line).eraseDups.map (⟨·, .imported⟩)
          ∧ (root.outline.uses symbol = [] ↔ ∀ name ∈ names.flatten, name.text ≠ symbol) := by
  refine ⟨fun h parent => ⟨h.sublist, outline_image_of_introduces h parent⟩, fun {root names} h symbol => ?_⟩
  obtain ⟨imports, houtline, hbindings⟩ := exists_outline_of_importsOnly h
  have huses : root.outline.uses symbol
      = Outline.tagged .imported ((names.flatten.filter (·.text == symbol)).map line) := by
    rw [houtline, Outline.uses_of_imports symbol root.kind root.line hbindings]
    simp [List.filter_map, Function.comp_def, binding, ← List.map_flatten]
  refine ⟨huses, ?_⟩
  rw [huses, Outline.tagged_eq_nil_iff, List.map_eq_nil_iff, List.filter_eq_nil_iff]
  simp

/-! ### A file of imports -/

def nodeAt (row : Nat) (kind : String) (children : List Cst) : Cst := { kind, row, children }

def nameAt (row : Nat) (text : String) (label : Option String := none) : Cst :=
  { token "identifier" text label with row }

def moduleAt (row : Nat) (text : String) : Cst := { token "string" text (some "source") with row }

def hookSpecifiers : Cst :=
  nodeAt 1 "named_imports"
    [sign "\x7b", nodeAt 2 "import_specifier" [sign "type", nameAt 2 "FC" (some "name")], sign ",",
      nodeAt 3 "import_specifier" [nameAt 3 "useEffect" (some "name"), sign "as", nameAt 3 "effect" (some "alias")],
      sign ",", sign "\x7d"]

def hookClause : Cst := nodeAt 1 "import_clause" [nameAt 1 "React", sign ",", hookSpecifiers]

def pathClause : Cst := nodeAt 5 "import_clause" [nodeAt 5 "namespace_import" [sign "*", sign "as", nameAt 5 "path"]]

def requireClause : Cst :=
  nodeAt 7 "import_require_clause"
    [nameAt 7 "effect", sign "=", sign "require", sign "(", moduleAt 7 "\"./effect\"", sign ")"]

/-- The tree of this file, with the numbers of its lines:
```
1  // hooks
2  import React, {
3    type FC,
4    useEffect as effect,
5  } from "react";
6  import * as path from "path";
7  import "./setup";
8  import effect = require("./effect");
```
-/
def hookImports : Cst :=
  nodeAt 0 "program"
    [token "comment" "// hooks",
      nodeAt 1 "import_statement"
        [sign "import", hookClause, sign "from", moduleAt 4 "\"react\"", sign ";"],
      nodeAt 5 "import_statement" [sign "import", pathClause, sign "from", moduleAt 5 "\"path\"", sign ";"],
      nodeAt 6 "import_statement" [sign "import", moduleAt 6 "\"./setup\"", sign ";"],
      nodeAt 7 "import_statement" [sign "import", requireClause, sign ";"]]

def hookNames : List Cst := [nameAt 1 "React", nameAt 2 "FC" (some "name"), nameAt 3 "effect" (some "alias")]

theorem hookClause_introduces : ClauseIntroduces hookClause hookNames := by
  have hspecifiers : PartIntroduces hookSpecifiers [nameAt 2 "FC" (some "name"), nameAt 3 "effect" (some "alias")] :=
    .specifiers ⟨rfl, rfl⟩ (.cons (.plain ⟨rfl, rfl⟩ rfl rfl) (.cons (.renamed ⟨rfl, rfl⟩ rfl rfl rfl) .nil))
  have hdefault : PartIntroduces (nameAt 1 "React") [nameAt 1 "React"] := .default ⟨rfl, rfl⟩
  have hparts : List.Forall₂ PartIntroduces hookClause.parts [_, _] := .cons hdefault (.cons hspecifiers .nil)
  exact .parts ⟨rfl, rfl⟩ hparts

theorem pathClause_introduces : ClauseIntroduces pathClause [nameAt 5 "path"] := by
  have hparts : List.Forall₂ PartIntroduces pathClause.parts [[nameAt 5 "path"]] :=
    .cons (.everything ⟨rfl, rfl⟩ rfl ⟨rfl, rfl⟩) .nil
  exact .parts ⟨rfl, rfl⟩ hparts

theorem hookImports_importsOnly :
    ImportsOnly hookImports [hookNames, [nameAt 5 "path"], [], [nameAt 7 "effect"]] := by
  refine ⟨rfl, .cons ?_ (.cons ?_ (.cons ?_ (.cons ?_ .nil)))⟩
  · exact .clause ⟨rfl, rfl⟩ rfl (by decide) hookClause_introduces
  · exact .clause ⟨rfl, rfl⟩ rfl (by decide) pathClause_introduces
  · exact .sideEffect ⟨rfl, rfl⟩ (by decide)
  · exact .clause ⟨rfl, rfl⟩ rfl (by decide) (.required ⟨rfl, rfl⟩ rfl ⟨rfl, rfl⟩ ⟨rfl, rfl⟩)

/-- What is imported under another name is found by that name alone. -/
theorem effect_found_useEffect_not_found :
    hookImports.outline.uses "effect" = [⟨4, .imported⟩, ⟨8, .imported⟩]
      ∧ hookImports.outline.uses "useEffect" = [] := by
  have hfound := introduced_names_found.2 hookImports_importsOnly
  exact ⟨(hfound "effect").1, (hfound "useEffect").2.2 (by decide)⟩

end Cst

end UseSites
