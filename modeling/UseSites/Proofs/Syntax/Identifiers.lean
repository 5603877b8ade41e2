import Mathlib.Data.List.Perm.Basic
import UseSites.Proofs.Syntax.NamedUses
import UseSites.Proofs.Syntax.Retained
/-!
# Uses of names that lowering loses

The identifiers of the outline of a grammatical tree are nearly its uses of names. The one difference are the
type arguments of a call: lowering looks at what is called and at the arguments, and drops whatever else a
call has. So `identifiers_outline` accounts for all uses: those in the type arguments of a call become
nothing, the others one identifier each.

What lowering makes of a node is spelled out by `retainedNames_eq_construct`. The identifiers come in another
order than the uses when the labelled children of a call are not in their usual order, hence a permutation.
-/

namespace UseSites

def Landmark.identifier? : Landmark → Option (String × Int)
  | .identifier name line => some (name, line)
  | _ => none

namespace Outline

def identifiers (root : Outline) : List (String × Int) :=
  root.walk.filterMap fun
    | identifier name line => some (name, line)
    | _ => none

theorem identifiers_eq (root : Outline) : root.identifiers = root.landmarks.filterMap Landmark.identifier? := by
  rw [identifiers, walk_eq_preorder, landmarks, List.filterMap_filterMap]
  refine congrArg (List.filterMap · _) (funext fun node => ?_)
  cases node <;> rfl

end Outline

namespace Cst

/-! ### Children by label and position -/

theorem zipIdx_flatMap_ite {α β : Type} (xs : List α) (offset i : Nat) (f : α → List β) :
    ((xs.zipIdx offset).flatMap fun x => if offset + i = x.2 then f x.1 else []) = (xs[i]?).toList.flatMap f := by
  induction xs generalizing offset i with
  | nil => simp
  | cons x rest ih =>
    rw [List.zipIdx_cons, List.flatMap_cons]
    cases i with
    | zero =>
      have hrest : ((rest.zipIdx (offset + 1)).flatMap fun x => if offset + 0 = x.2 then f x.1 else []) = [] := by
        refine List.flatMap_eq_nil_iff.2 fun x hx => ?_
        have := List.le_snd_of_mem_zipIdx hx
        rw [if_neg (by omega)]
      rw [hrest]
      simp
    | succ i =>
      have hrest := ih (offset + 1) i
      rw [show offset + 1 + i = offset + (i + 1) by omega] at hrest
      rw [hrest]
      simp

theorem zipIdx_flatMap_childIndex? {β : Type} (node : Cst) (label : String) (f : Cst → List β) :
    (node.children.zipIdx.flatMap fun child => if node.childIndex? label = some child.2 then f child.1 else [])
      = (node.child? label).toList.flatMap f := by
  rw [child?, List.find?_eq_bind_findIdx?_getElem?, ← childIndex?]
  cases node.childIndex? label with
  | none => simp
  | some i => simpa using zipIdx_flatMap_ite node.children 0 i f

theorem flatMap_filter {α β : Type} (xs : List α) (p : α → Bool) (f : α → List β) :
    (xs.filter p).flatMap f = xs.flatMap fun x => if p x then f x else [] := by
  induction xs with
  | nil => rfl
  | cons x rest ih => cases hx : p x <;> simp [hx, ih]

theorem others_flatMap {β : Type} (skipped : List Nat) (node : Cst) (f : Cst → List β) :
    (node.others skipped).flatMap f = node.children.zipIdx.flatMap fun child =>
      if skipped.contains child.2 then [] else if child.1.named then f child.1 else [] := by
  rw [others, flatMap_filter, List.flatMap_map, flatMap_filter]
  refine List.flatMap_congr fun child _ => ?_
  cases skipped.contains child.2 <;> rfl

theorem others_nil (node : Cst) : node.others [] = node.namedChildren := by
  simp [others, namedChildren, List.zipIdx_map_fst]

/-! ### Names of retained nodes -/

/-- The names of the identifiers that lowering makes of a node and what it goes on to. -/
def retainedNames (parent : Option String) (node : Cst) : List (String × Int) :=
  (node.retainedLandmarks parent).filterMap Landmark.identifier?

theorem retainedNames_eq (parent : Option String) (node : Cst) :
    node.retainedNames parent = (node.landmark?.bind Landmark.identifier?).toList
      ++ (node.followed parent).flatMap fun child => child.2.retainedNames (some child.1) := by
  rw [retainedNames, retainedLandmarks_eq, List.filterMap_append, List.filterMap_flatMap]
  cases node.landmark? with
  | none => rfl
  | some landmark => cases hname : landmark.identifier? <;> simp [hname, retainedNames]

def childNames (above : String) (child : Cst) : List (String × Int) :=
  if child.named then child.retainedNames (some above) else []

theorem others_flatMap_retainedNames (skipped : List Nat) (node : Cst) :
    (node.others skipped).flatMap (retainedNames (some node.kind))
      = node.children.zipIdx.flatMap fun child =>
        if skipped.contains child.2 then [] else childNames node.kind child.1 :=
  others_flatMap skipped node _

theorem namedChild?_flatMap_retainedNames (node : Cst) (label : String) :
    (node.namedChild? label).toList.flatMap (retainedNames (some node.kind))
      = (node.child? label).toList.flatMap (childNames node.kind) := by
  rw [namedChild?]
  cases node.child? label with
  | none => rfl
  | some child => cases hnamed : child.named <;> simp [hnamed, childNames, Option.filter_some]

/-- What lowering makes of the names in a node, construct by construct. -/
theorem retainedNames_eq_construct (parent : Option String) (node : Cst) :
    node.retainedNames parent =
      match node.construct with
      | .importing | .requiring _ => []
      | .use => [(node.text, node.line)]
      | .call =>
        (node.child? "function").toList.flatMap (childNames node.kind)
          ++ (node.namedChild? "arguments").toList.flatMap fun arguments =>
            arguments.namedChildren.flatMap (retainedNames (some arguments.kind))
      | .access object _ => childNames node.kind object
      | .declaration position _ => (node.others [position]).flatMap (retainedNames (some node.kind))
      | .plain => (node.others (parameterNames parent node)).flatMap (retainedNames (some node.kind)) := by
  have hfits := construct_fits node
  rw [retainedNames_eq]
  rw [landmark?_eq, followed_eq]
  cases hconstruct : node.construct with
  | importing => rfl
  | requiring outline =>
    rw [hconstruct] at hfits
    obtain ⟨source, bindings, rfl⟩ := imported_of_required? hfits
    rfl
  | use => rfl
  | call =>
    simp only [Option.bind_some, Landmark.identifier?, Option.toList_none, List.nil_append, List.flatMap_append,
      List.flatMap_map, List.flatMap_assoc, namedChild?_flatMap_retainedNames]
  | access object property =>
    simp only [Option.bind_some, Landmark.identifier?, Option.toList_none, List.nil_append, List.flatMap_map]
    cases hnamed : object.named <;> simp [hnamed, childNames]
  | declaration position name =>
    simp only [Option.bind_some, Landmark.identifier?, Option.toList_none, List.nil_append, List.flatMap_map]
  | plain => simp only [Option.bind_none, Option.toList_none, List.nil_append, List.flatMap_map]

/-- The arguments of a call give what their children give. -/
theorem retainedNames_of_arguments {node : Cst} (hkind : node.kind ∈ ["arguments", "template_string"])
    (parent : Option String) :
    node.retainedNames parent = node.namedChildren.flatMap (retainedNames (some node.kind)) := by
  have hnames : parameterNames parent node = [] := by
    apply parameterNames_eq_nil
    simp only [List.mem_cons, List.not_mem_nil, or_false] at hkind ⊢
    tauto
  rw [retainedNames_eq_construct, construct_eq_plain hkind]
  simp only [hnames, others_nil]

/-! ### Names of children and of nodes -/

section Children

variable {node : Cst} (hchildren : ∀ child ∈ node.children,
  (childNames node.kind child).Perm (keptNames (child.namedUses false (some node.kind))))
include hchildren

theorem others_perm_keptNames {parent : Option String} {skipped : List Nat} (himports : node.imports = false)
    (huse : node.kind ∉ useKinds) (hcall : node.kind ≠ "call_expression")
    (hdeclared : node.declaredNames parent = skipped) :
    ((node.others skipped).flatMap (retainedNames (some node.kind))).Perm (keptNames (node.namedUses false parent)) := by
  rw [others_flatMap_retainedNames, keptNames_namedUses himports huse, hdeclared]
  refine List.Perm.flatMap_left _ fun child hchild => ?_
  by_cases hskipped : skipped.contains child.2 = true
  · simp only [hskipped, if_true]
    exact List.Perm.refl _
  · simp only [hskipped, typeArguments?, if_neg hcall]
    exact hchildren child.1 (List.fst_mem_of_mem_zipIdx hchild)

theorem childNames_of_isBare {child : Cst} (hchild : child ∈ node.children) (hbare : child.isBare = true) :
    childNames node.kind child = [] ∧ keptNames (child.namedUses false (some node.kind)) = [] := by
  have hkept : keptNames (child.namedUses false (some node.kind)) = [] := by
    rw [namedUses_of_isBare hbare]
    rfl
  have hperm := hchildren child hchild
  rw [hkept] at hperm
  exact ⟨hperm.eq_nil, hkept⟩

theorem object_perm_keptNames (parent : Option String) (himports : node.imports = false)
    (hkind : node.kind = "member_expression") (hshape : node.isBareBut ["object"] = true) :
    ((node.child? "object").toList.flatMap (childNames node.kind)).Perm (keptNames (node.namedUses false parent)) := by
  have hdeclared : node.declaredNames parent = [] := declaredNames_eq_nil (by rw [hkind]; decide)
  rw [← zipIdx_flatMap_childIndex?, keptNames_namedUses himports (by rw [hkind]; decide), hdeclared]
  refine List.Perm.flatMap_left _ fun ⟨child, i⟩ hmem => ?_
  have hchild := List.fst_mem_of_mem_zipIdx hmem
  have hgeneric : node.typeArguments? ≠ some i := by simp [typeArguments?, hkind]
  simp only [List.contains_nil, Bool.false_eq_true, if_false, if_neg hgeneric]
  cases hbare : child.isBare with
  | true =>
    obtain ⟨hnames, hkept⟩ := childNames_of_isBare hchildren hchild hbare
    rw [hnames, hkept]
    simp
  | false =>
    obtain ⟨label, hlabel, hindex⟩ := mem_labels_of_isBareBut hshape hmem hbare
    rw [List.mem_singleton] at hlabel
    rw [← hlabel, if_pos hindex]
    exact hchildren child hchild

theorem call_perm_keptNames {parent : Option String} (himports : node.imports = false)
    (hkind : node.kind = "call_expression")
    (hshape : node.isBareBut ["function", "type_arguments", "arguments"] = true) :
    ((node.child? "function").toList.flatMap (childNames node.kind)
      ++ (node.child? "arguments").toList.flatMap (childNames node.kind)).Perm
      (keptNames (node.namedUses false parent)) := by
  have hdeclared : node.declaredNames parent = [] := declaredNames_eq_nil (by rw [hkind]; decide)
  have hgeneric : node.typeArguments? = node.childIndex? "type_arguments" := if_pos hkind
  rw [← zipIdx_flatMap_childIndex?, ← zipIdx_flatMap_childIndex?,
    keptNames_namedUses himports (by rw [hkind]; decide), hdeclared, hgeneric]
  refine (List.flatMap_append_perm _ _ _).trans (List.Perm.flatMap_left _ fun ⟨child, i⟩ hmem => ?_)
  have hchild := List.fst_mem_of_mem_zipIdx hmem
  simp only [List.contains_nil, Bool.false_eq_true, if_false]
  cases hbare : child.isBare with
  | true =>
    obtain ⟨hnames, hkept⟩ := childNames_of_isBare hchildren hchild hbare
    rw [hnames, hkept]
    simp
  | false =>
    -- the child has exactly one of the labels, so that it is on one side at most once
    obtain ⟨label, hlabel, hindex⟩ := mem_labels_of_isBareBut hshape hmem hbare
    have hother : ∀ other, other ≠ label → node.childIndex? other ≠ some i :=
      fun other hne heq => hne (childIndex?_inj heq hindex)
    simp only [List.mem_cons, List.not_mem_nil, or_false] at hlabel
    rcases hlabel with rfl | rfl | rfl
    · rw [if_pos hindex, if_neg (hother _ (by decide)), if_neg (hother _ (by decide)), List.append_nil]
      exact hchildren child hchild
    · rw [if_pos hindex, if_neg (hother _ (by decide)), if_neg (hother _ (by decide))]
      exact List.Perm.refl _
    · rw [if_pos hindex, if_neg (hother _ (by decide)), if_neg (hother _ (by decide)), List.nil_append]
      exact hchildren child hchild

end Children

theorem argumentNames_eq {node : Cst} (hcall : node.kind = "call_expression") (hshape : node.WellShaped) :
    ((node.namedChild? "arguments").toList.flatMap fun arguments =>
        arguments.namedChildren.flatMap (retainedNames (some arguments.kind)))
      = (node.child? "arguments").toList.flatMap (childNames node.kind) := by
  rw [← namedChild?_flatMap_retainedNames]
  refine List.flatMap_congr fun arguments hmem => ?_
  have hchild := (Option.filter_eq_some_iff.1 (Option.mem_toList.1 hmem)).1
  have hkind := hshape.arguments hcall
  rw [hchild] at hkind
  exact (retainedNames_of_arguments (List.contains_iff_mem.1 hkind) _).symm

theorem retainedNames_perm (parent : Option String) (node : Cst) (hshape : ∀ below ∈ node.preorder, below.WellShaped)
    (hnamed : node.named = true) : (node.retainedNames parent).Perm (keptNames (node.namedUses false parent)) := by
  have hchildren : ∀ child ∈ node.children, (childNames node.kind child).Perm
      (keptNames (child.namedUses false (some node.kind))) := by
    intro child hchild
    have hbelow : ∀ below ∈ child.preorder, below.WellShaped :=
      fun below hmem => hshape below (mem_preorder_of_mem_children hchild hmem)
    rw [childNames]
    cases hname : child.named with
    | true => exact retainedNames_perm (some node.kind) child hbelow hname
    | false =>
      -- lowering passes over signs, and there are no names in them
      rw [namedUses_of_isBare ((hbelow child (mem_preorder_self child)).sign hname)]
      exact List.Perm.refl _
  have hnode := hshape node (mem_preorder_self node)
  have hfits := construct_fits node
  have himports := imports_eq node
  rw [retainedNames_eq_construct]
  cases hconstruct : node.construct with
  | importing | requiring outline =>
    rw [hconstruct] at himports
    rw [namedUses_eq, himports]
    exact List.Perm.refl _
  | use =>
    rw [hconstruct] at himports hfits
    have huse : (node.named && useKinds.contains node.kind) = true := by
      rw [hnamed, Bool.true_and]
      exact List.contains_iff_mem.2 hfits
    have hleaf : node.children = [] := List.isEmpty_iff.1 (hnode.name (List.mem_append_left _ hfits))
    rw [namedUses_eq, himports, huse, hleaf]
    exact List.Perm.refl _
  | call =>
    rw [hconstruct] at himports hfits
    simp only [argumentNames_eq hfits hnode]
    exact call_perm_keptNames hchildren himports hfits (hnode.call hfits)
  | access object property =>
    rw [hconstruct] at himports hfits
    obtain ⟨hkind, hobject, -⟩ := accessed?_eq_some hfits
    have hperm := object_perm_keptNames hchildren parent himports hkind (hnode.access hkind)
    rw [hobject, Option.toList_some, List.flatMap_singleton] at hperm
    exact hperm
  | declaration position name =>
    rw [hconstruct] at himports hfits
    obtain ⟨hkind, -, -, -⟩ := declared?_eq_some hfits
    obtain ⟨huse, hcall⟩ := not_use_of_declarationKinds hkind
    have hdeclared : node.declaredNames parent = [position] := by
      rw [declaredNames, hfits, parameterNames_eq_nil (by simp only [List.mem_cons, hkind, or_true])]
      rfl
    exact others_perm_keptNames hchildren himports huse hcall hdeclared
  | plain =>
    rw [hconstruct] at himports hfits
    obtain ⟨huse, hcall, -, hdeclaration⟩ := hfits
    have hdeclared : node.declaredNames parent = parameterNames parent node := by
      rw [declaredNames, hdeclaration]
      rfl
    exact others_perm_keptNames hchildren himports huse hcall hdeclared
termination_by sizeOf node
decreasing_by exact sizeOf_lt_of_mem_children hchild

/-- Lowering makes one identifier of every use of a name outside of the type arguments of calls, and no
others; so nothing is lost exactly if there are no uses in type arguments of calls. -/
theorem identifiers_outline {root : Cst} (hshape : root.IsGrammatical) :
    root.outline.identifiers.Perm (keptNames (root.namedUses false none))
      ∧ (root.outline.identifiers.Perm ((root.namedUses false none).map fun use => (use.name, use.line))
        ↔ ∀ use ∈ root.namedUses false none, use.generic = false) := by
  have hkept : root.outline.identifiers.Perm (keptNames (root.namedUses false none)) := by
    rw [Outline.identifiers_eq, landmarks_outline]
    exact retainedNames_perm none root hshape.2 hshape.1
  refine ⟨hkept, fun hall use huse => ?_, fun hnone => ?_⟩
  · have hlength := (hkept.symm.trans hall).length_eq
    rw [keptNames, List.length_map, List.length_map, List.length_filter_eq_length_iff] at hlength
    simpa using hlength use huse
  · have hfilter : ((root.namedUses false none).filter fun use => !use.generic) = root.namedUses false none :=
      List.filter_eq_self.2 fun use huse => by rw [hnone use huse]; rfl
    rw [keptNames, hfilter] at hkept
    exact hkept

/-! ### A call and a construction -/

def sign (text : String) : Cst := { kind := text, text, named := false }

def token (kind text : String) (label : Option String := none) : Cst := { kind, text, label }

def typedArguments : List Cst :=
  [{ kind := "type_arguments", text := "<Widget>", label := some "type_arguments",
     children := [sign "<", token "type_identifier" "Widget", sign ">"] },
   { kind := "arguments", text := "(x)", label := some "arguments",
     children := [sign "(", token "identifier" "x", sign ")"] }]

def ofExpression (expression : Cst) : Cst :=
  { kind := "program", text := expression.text ++ ";\n",
    children := [{ kind := "expression_statement", text := expression.text ++ ";",
                   children := [expression, sign ";"] }] }

/-- The tree of `make<Widget>(x);`. -/
def typedCall : Cst :=
  ofExpression { kind := "call_expression", text := "make<Widget>(x)",
                 children := token "identifier" "make" (some "function") :: typedArguments }

/-- The tree of `new Box<Widget>(x);`. -/
def typedConstruction : Cst :=
  ofExpression { kind := "new_expression", text := "new Box<Widget>(x)",
                 children := sign "new" :: token "identifier" "Box" (some "constructor") :: typedArguments }

/-- A construction keeps the names in its type arguments. -/
theorem identifiers_typedConstruction :
    typedConstruction.IsGrammatical
      ∧ typedConstruction.outline.identifiers.Perm [("Box", 1), ("Widget", 1), ("x", 1)] := by
  have hshape : typedConstruction.IsGrammatical := by decide
  have huses : ∀ use ∈ typedConstruction.namedUses false none, use.generic = false := by decide
  exact ⟨hshape, (identifiers_outline hshape).2.2 huses⟩

/-- A call loses them. -/
theorem widget_notMem_identifiers_typedCall :
    typedCall.IsGrammatical ∧ ⟨"Widget", 1, true⟩ ∈ typedCall.namedUses false none
      ∧ ("Widget", 1) ∉ typedCall.outline.identifiers := by
  refine ⟨by decide, by decide, ?_⟩
  rw [Outline.identifiers, Outline.walk_eq_preorder]
  decide

end Cst

end UseSites
