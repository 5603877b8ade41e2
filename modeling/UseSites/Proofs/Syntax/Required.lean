import UseSites.Proofs.Syntax.Declared
/-!
# What an import by `require` keeps

Lowering puts an import in place of a variable that is bound to a required module. The bindings of the import are
read off the pattern of the variable, one level deep, and everything else in the declarator is gone: `patternNames`
are all names that a pattern introduces, `isDirect` singles out those that the import binds, and nothing inside the
declarator is reached. So the import loses nothing exactly if all names of the pattern are direct and no name is used
in the declarator, apart from `require` itself. `import_of_required` puts this together.
-/

namespace UseSites

namespace Cst

/-! ### Names of a pattern -/

def patternNameKinds : List String := ["identifier", "shorthand_property_identifier_pattern"]

mutual

/-- The names that a pattern introduces, with their addresses below it, in the order of the source. -/
def patternNames : Cst → List (List Nat × Cst)
  | ⟨kind, row, text, label, named, missing, flawed, children⟩ =>
    let node : Cst := ⟨kind, row, text, label, named, missing, flawed, children⟩
    if patternNameKinds.contains kind then [([], node)] else patternNamesFrom node.patternParts 0 children

def patternNamesFrom (parts : List Nat) (position : Nat) : List Cst → List (List Nat × Cst)
  | [] => []
  | child :: rest =>
    (if parts.contains position then child.patternNames.map fun name => (position :: name.1, name.2) else [])
      ++ patternNamesFrom parts (position + 1) rest

end

/-- Whether the import binds a name of a pattern: the name is the whole pattern, or a property of an object that is
not given a default, by its own name or by another one. -/
def isDirect (pattern : Cst) : List Nat × Cst → Bool
  | ([], token) => token.kind == "identifier"
  | ([_], token) =>
    pattern.kind == "object_pattern" && token.named && token.kind == "shorthand_property_identifier_pattern"
  | ([i, _], token) =>
    pattern.kind == "object_pattern"
      && pattern.children[i]?.any (fun property => property.named && property.kind == "pair_pattern")
      && token.kind == "identifier"
  | _ => false

theorem patternNamesFrom_eq_flatMap (parts : List Nat) (position : Nat) (children : List Cst) :
    patternNamesFrom parts position children = (children.zipIdx position).flatMap fun child =>
      if parts.contains child.2 then child.1.patternNames.map fun name => (child.2 :: name.1, name.2) else [] := by
  induction children generalizing position with
  | nil => rfl
  | cons child rest ih => rw [patternNamesFrom, ih, List.zipIdx_cons, List.flatMap_cons]

theorem patternNames_eq (pattern : Cst) :
    pattern.patternNames =
      if patternNameKinds.contains pattern.kind then [([], pattern)]
      else pattern.children.zipIdx.flatMap fun child =>
        if pattern.patternParts.contains child.2 then child.1.patternNames.map fun name => (child.2 :: name.1, name.2)
        else [] := by
  cases pattern
  rw [patternNames, patternNamesFrom_eq_flatMap]

theorem patternNames_of_name {pattern : Cst} (hname : pattern.kind ∈ patternNameKinds) :
    pattern.patternNames = [([], pattern)] := by
  rw [patternNames_eq, if_pos (List.contains_iff_mem.2 hname)]

theorem patternNames_of_parts {pattern : Cst} (hname : pattern.kind ∉ patternNameKinds) :
    pattern.patternNames = pattern.children.zipIdx.flatMap fun child =>
      if pattern.patternParts.contains child.2 then child.1.patternNames.map fun name => (child.2 :: name.1, name.2)
      else [] := by
  rw [patternNames_eq, if_neg fun hcontains => hname (List.contains_iff_mem.1 hcontains)]

theorem exists_cons_of_mem_patternNames {pattern : Cst} (hname : pattern.kind ∉ patternNameKinds)
    {name : List Nat × Cst} (hmem : name ∈ pattern.patternNames) : ∃ i below, name.1 = i :: below := by
  rw [patternNames_of_parts hname, List.mem_flatMap] at hmem
  obtain ⟨child, -, hmem⟩ := hmem
  split at hmem
  · obtain ⟨inner, -, rfl⟩ := List.mem_map.1 hmem
    exact ⟨_, _, rfl⟩
  · cases hmem

theorem patternNames_of_label {pattern : Cst} {label : String} (hname : pattern.kind ∉ patternNameKinds)
    (hparts : pattern.patternParts = (pattern.childIndex? label).toList) :
    pattern.patternNames = (pattern.childIndex? label).toList.flatMap fun j =>
      (pattern.children[j]?).toList.flatMap fun child =>
        child.patternNames.map fun name => (j :: name.1, name.2) := by
  rw [patternNames_of_parts hname, hparts]
  cases pattern.childIndex? label with
  | none => simp
  | some j =>
    rw [Option.toList_some, List.flatMap_singleton, ← zipIdx_flatMap_ite pattern.children 0 j]
    refine List.flatMap_congr fun child _ => ?_
    by_cases hposition : child.2 = j
    · simp [hposition]
    · simp [hposition, Ne.symm hposition]

/-! ### Bindings of an import -/

theorem filter_isDirect_value {pattern property : Cst} {i : Nat} (hpattern : pattern.kind = "object_pattern")
    (hproperty : pattern.children[i]? = some property) (hkind : property.kind = "pair_pattern") (value : Cst)
    (j : Nat) :
    (value.patternNames.map fun name => (i :: j :: name.1, name.2)).filter pattern.isDirect
      = if property.named && value.kind == "identifier" then [([i, j], value)] else [] := by
  by_cases hname : value.kind ∈ patternNameKinds
  · simp [patternNames_of_name hname, isDirect, hpattern, hproperty, hkind, List.filter_cons]
  · have hidentifier : value.kind ≠ "identifier" := by
      rintro hidentifier
      rw [hidentifier] at hname
      exact hname (by decide)
    -- the names of a pattern in the value are three levels down or more
    rw [beq_eq_false_iff_ne.2 hidentifier, Bool.and_false, if_neg Bool.false_ne_true, List.filter_eq_nil_iff]
    intro name hmem
    obtain ⟨inner, hinner, rfl⟩ := List.mem_map.1 hmem
    obtain ⟨k, below, hbelow⟩ := exists_cons_of_mem_patternNames hname hinner
    rw [hbelow]
    exact Bool.false_ne_true

theorem propertyBinding?_of_pair {property : Cst} (hpair : property.kind = "pair_pattern") :
    propertyBinding? property = ((property.childIndex? "value").bind fun j => property.children[j]?).bind fun value =>
      if value.kind == "identifier" then some (binding value) else none := by
  rw [childIndex?, ← List.find?_eq_bind_findIdx?_getElem?, ← child?]
  simp [propertyBinding?, hpair]

theorem filter_isDirect_pair {pattern property : Cst} {i : Nat} (hpattern : pattern.kind = "object_pattern")
    (hproperty : pattern.children[i]? = some property) (hpair : property.kind = "pair_pattern") :
    ((property.patternNames.map fun name => (i :: name.1, name.2)).filter pattern.isDirect).map (binding ·.2)
      = if property.named then (propertyBinding? property).toList else [] := by
  have hname : property.kind ∉ patternNameKinds := by
    rw [hpair]
    decide
  have hparts : property.patternParts = (property.childIndex? "value").toList := by simp [patternParts, hpair]
  rw [patternNames_of_label hname hparts, propertyBinding?_of_pair hpair]
  cases property.childIndex? "value" with
  | none => simp
  | some j =>
    cases hvalue : property.children[j]? with
    | none => simp [hvalue]
    | some value =>
      simp only [Option.toList_some, List.flatMap_singleton, hvalue, List.map_map, Function.comp_def, Option.bind_some]
      rw [filter_isDirect_value hpattern hproperty hpair value j]
      cases property.named <;> cases value.kind == "identifier" <;> rfl

/-- A property that is neither shorthand nor renamed has no direct names, at whatever depth its names are. -/
theorem filter_isDirect_eq_nil {pattern property : Cst} {i : Nat} (hproperty : pattern.children[i]? = some property)
    (hshorthand : property.kind ≠ "shorthand_property_identifier_pattern") (hpair : property.kind ≠ "pair_pattern") :
    (property.patternNames.map fun name => (i :: name.1, name.2)).filter pattern.isDirect = [] := by
  rw [List.filter_eq_nil_iff]
  intro name hmem
  obtain ⟨inner, hinner, rfl⟩ := List.mem_map.1 hmem
  by_cases hname : property.kind ∈ patternNameKinds
  · rw [patternNames_of_name hname, List.mem_singleton] at hinner
    simp [hinner, isDirect, hshorthand]
  · obtain ⟨k, below, hbelow⟩ := exists_cons_of_mem_patternNames hname hinner
    cases below <;> simp [hbelow, isDirect, hproperty, hpair]

theorem filter_isDirect_property {pattern property : Cst} {i : Nat} (hpattern : pattern.kind = "object_pattern")
    (hproperty : pattern.children[i]? = some property) :
    ((property.patternNames.map fun name => (i :: name.1, name.2)).filter pattern.isDirect).map (binding ·.2)
      = if property.named then (propertyBinding? property).toList else [] := by
  by_cases hshorthand : property.kind = "shorthand_property_identifier_pattern"
  · rw [patternNames_of_name (by rw [hshorthand]; decide)]
    cases hnamed : property.named <;> simp [isDirect, propertyBinding?, hpattern, hshorthand, hnamed]
  · by_cases hpair : property.kind = "pair_pattern"
    · exact filter_isDirect_pair hpattern hproperty hpair
    · have hbinding : propertyBinding? property = none := by
        unfold propertyBinding?
        split <;> simp_all
      rw [filter_isDirect_eq_nil hproperty hshorthand hpair, hbinding]
      simp

/-- The bindings of an import are the direct names of its pattern, in the order of the source. -/
theorem patternBindings_eq (pattern : Cst) :
    patternBindings pattern = (pattern.patternNames.filter pattern.isDirect).map (binding ·.2) := by
  unfold patternBindings
  split
  · rename_i hkind
    rw [patternNames_of_name (by rw [hkind]; decide)]
    simp [isDirect, hkind]
  · rename_i hkind
    have hname : pattern.kind ∉ patternNameKinds := by
      rw [hkind]
      decide
    have hparts : pattern.patternParts = List.range pattern.children.length := by simp [patternParts, hkind]
    have hproperties : ∀ child ∈ pattern.children.zipIdx,
        (((if pattern.patternParts.contains child.2 then
              child.1.patternNames.map fun name => (child.2 :: name.1, name.2)
            else []).filter pattern.isDirect).map (binding ·.2))
          = if child.1.named then (propertyBinding? child.1).toList else [] := by
      intro child hchild
      have hposition := List.mem_zipIdx_iff_getElem?.1 hchild
      obtain ⟨hlt, -⟩ := List.getElem?_eq_some_iff.1 hposition
      rw [hparts, if_pos (by simpa using hlt)]
      exact filter_isDirect_property hkind hposition
    rw [patternNames_of_parts hname, List.filter_flatMap, List.map_flatMap, List.flatMap_congr hproperties,
      namedChildren, List.filterMap_eq_flatMap_toList, flatMap_filter, ← List.zipIdx_map_fst 0 pattern.children,
      List.flatMap_map, List.zipIdx_map_fst]
  · rename_i hidentifier hobject
    have hnone : pattern.patternNames.filter pattern.isDirect = [] := by
      rw [List.filter_eq_nil_iff]
      rintro ⟨address, token⟩ hmem
      by_cases hname : pattern.kind ∈ patternNameKinds
      · rw [patternNames_of_name hname, List.mem_singleton, Prod.mk.injEq] at hmem
        obtain ⟨rfl, rfl⟩ := hmem
        exact fun hdirect => hidentifier (beq_iff_eq.1 hdirect)
      · obtain ⟨i, below, rfl⟩ := exists_cons_of_mem_patternNames hname hmem
        have hkind : (pattern.kind == "object_pattern") = false := beq_eq_false_iff_ne.2 hobject
        rcases below with _ | ⟨j, _ | ⟨k, rest⟩⟩ <;> simp [isDirect, hkind]
    rw [hnone]
    rfl

/-- The import that stands for a declarator binds the direct names of its pattern. It binds all of its local names
exactly if all are direct. -/
theorem required?_eq_some {declarator : Cst} {outline : Outline} (hrequired : declarator.required? = some outline) :
    ∃ pattern source bindings, declarator.child? "name" = some pattern
      ∧ outline = .imported source declarator.line bindings
      ∧ bindings = (pattern.patternNames.filter pattern.isDirect).map (binding ·.2)
      ∧ (bindings = pattern.patternNames.map (binding ·.2) ↔ ∀ name ∈ pattern.patternNames, pattern.isDirect name) := by
  unfold required? at hrequired
  split at hrequired
  · simp only [requireOutline?, Option.bind_eq_bind, Option.bind_eq_some_iff] at hrequired
    obtain ⟨pattern, hpattern, value, -, required, -, _, -, hreturn⟩ := hrequired
    cases hreturn
    refine ⟨pattern, _, _, hpattern, rfl, patternBindings_eq pattern, ?_⟩
    rw [patternBindings_eq]
    constructor
    · -- a filtered list is as long as the whole one only if all pass
      intro hall
      have hlength := congrArg List.length hall
      rw [List.length_map, List.length_map, List.length_filter_eq_length_iff] at hlength
      exact hlength
    · intro hdirect
      rw [List.filter_eq_self.2 hdirect]
  · cases hrequired

/-! ### Uses inside an import -/

def calledAt? (declarator : Cst) : Option (List Nat) := do
  let i ← declarator.childIndex? "value"
  let j ← (← declarator.children[i]?).childIndex? "function"
  return [i, j]

/-- Whether a name is used at an address: a token is a name there, and neither part of the pattern of a declaration
nor the name of a declared function, class or type. -/
def UsesName (root : Cst) (address : List Nat) : Prop :=
  (∃ token, root.at? address = some token ∧ token.named = true ∧ token.kind ∈ useKinds)
    ∧ ¬ PatternAt root address
    ∧ ∀ above i node name, address = above ++ [i] → root.at? above = some node → node.declared? ≠ some (i, name)

/-- Whether a name is used at an address inside a declarator, apart from the function that its value calls. -/
def UsesInside (root : Cst) (declarator : Located) (address : List Nat) : Prop :=
  UsesName root address ∧ ∃ below, address = declarator.address ++ below ∧ declarator.node.calledAt? ≠ some below

section Uses

variable {root : Cst} {kept : Located} {outline : Outline}

/-- Nothing inside a declarator that became an import is kept as an identifier. -/
theorem not_mem_useAddresses_of_required (hkept : kept ∈ root.retainedAt none)
    (hrequired : kept.node.required? = some outline) (below : List Nat) :
    kept.address ++ below ∉ root.useAddresses := by
  have hconstruct := construct_of_required hrequired
  intro huse
  obtain ⟨other, hother, hkind, haddress⟩ := mem_useAddresses_iff.1 huse
  have hnone : ∀ above i, ¬ kept.node.GoesTo above i := by
    intro above i
    rw [GoesTo, hconstruct]
    exact id
  have hcall : kept.node.construct ≠ .call := by
    rw [hconstruct]
    rintro ⟨⟩
  have hbelow := below_eq_nil_of_not_goesTo hkept hnone hcall hother haddress
  rw [hbelow, List.append_nil] at haddress
  rw [node_eq_of_address_eq hother hkept haddress] at hkind
  rw [construct_of_useKinds hkind] at hconstruct
  cases hconstruct

theorem mem_walk_of_required {source : String} {line : Int} {bindings : List Binding}
    (hkept : kept ∈ root.retainedAt none)
    (hrequired : kept.node.required? = some (.imported source line bindings)) :
    .imported source line bindings ∈ root.outline.walk := by
  have hnode : kept.node ∈ root.retained none := by
    rw [← map_node_retainedAt]
    exact List.mem_map_of_mem hkept
  have hlandmark : Landmark.imported source line bindings ∈ root.outline.landmarks := by
    rw [landmarks_outline, retainedLandmarks, List.mem_filterMap]
    refine ⟨kept.node, hnode, ?_⟩
    rw [landmark?_eq, construct_of_required hrequired]
    rfl
  obtain ⟨found, hfound, hsame⟩ := List.mem_filterMap.1 hlandmark
  rw [Outline.walk_eq_preorder]
  cases found with
  | imported _ _ _ =>
    cases hsame
    exact hfound
  | call _ _ _ | member _ _ _ | identifier _ _ | declaration _ _ _ _ | group _ _ _ => simp [Outline.landmark?] at hsame

/-- What the import in place of a declarator keeps of the names in it. Of the names of the pattern it binds those that
are direct, each once and in order, hence all of them exactly if all are direct. No identifier of the outline stands in
the declarator, hence all uses of names in it are kept exactly if there are none. -/
theorem import_of_required (hkept : kept ∈ root.retainedAt none) (hrequired : kept.node.required? = some outline) :
    ∃ pattern source bindings, kept.node.child? "name" = some pattern
      ∧ .imported source kept.node.line bindings ∈ root.outline.walk
      ∧ bindings = (pattern.patternNames.filter pattern.isDirect).map (binding ·.2)
      ∧ (bindings = pattern.patternNames.map (binding ·.2) ↔ ∀ name ∈ pattern.patternNames, pattern.isDirect name)
      ∧ root.outline.identifiers
        = root.useAddresses.filterMap (fun use => (root.at? use).map fun found => (found.text, found.line))
      ∧ (∀ below, kept.address ++ below ∉ root.useAddresses)
      ∧ ((∀ use, UsesInside root kept use → use ∈ root.useAddresses) ↔ ∀ use, ¬ UsesInside root kept use) := by
  obtain ⟨pattern, source, bindings, hpattern, rfl, hbindings, hall⟩ := required?_eq_some hrequired
  refine ⟨pattern, source, bindings, hpattern, mem_walk_of_required hkept hrequired, hbindings, hall,
    identifiers_eq_useAddresses root, not_mem_useAddresses_of_required hkept hrequired, ?_⟩
  refine forall_congr' fun use => ⟨fun hstill hinside => ?_, fun hnone hinside => absurd hinside hnone⟩
  obtain ⟨-, below, rfl, -⟩ := id hinside
  exact not_mem_useAddresses_of_required hkept hrequired below (hstill hinside)

end Uses

/-! ### Imports with and without a default -/

def requireCall : Cst :=
  { kind := "call_expression", text := "require('m')",
    children := [token "identifier" "require" (some "function"),
      { kind := "arguments", text := "('m')", label := some "arguments",
        children := [sign "(", token "string" "'m'", sign ")"] }] }

def objectPattern (properties : List Cst) : Cst :=
  { kind := "object_pattern", children := [sign "\x7b"] ++ properties.intersperse (sign ",") ++ [sign "\x7d"] }

def shorthand (name : String) (label : Option String := none) : Cst :=
  token "shorthand_property_identifier_pattern" name label

/-- The declarator in `const { a, b: c } = require('m');`. -/
def plainImport : Cst :=
  declaratorOf (objectPattern [shorthand "a",
    { kind := "pair_pattern", text := "b: c",
      children := [token "property_identifier" "b" (some "key"), sign ":", token "identifier" "c" (some "value")] }])
    requireCall

/-- The declarator in `const { a, b = foo } = require('m');`. -/
def defaultImport : Cst :=
  declaratorOf (objectPattern [shorthand "a",
    { kind := "object_assignment_pattern", text := "b = foo",
      children := [shorthand "b" (some "left"), sign "=", token "identifier" "foo" (some "right")] }]) requireCall

theorem bindings_plainImport :
    plainImport.required? = some (.imported "m" 1 [⟨"a", 1⟩, ⟨"c", 1⟩])
      ∧ (∃ source, .imported source 1 [⟨"a", 1⟩, ⟨"c", 1⟩] ∈ (ofDeclarator plainImport).outline.walk)
      ∧ ∀ below, [0, 1] ++ below ∉ (ofDeclarator plainImport).useAddresses := by
  have hrequired : plainImport.required? = some (.imported "m" 1 [⟨"a", 1⟩, ⟨"c", 1⟩]) := rfl
  obtain ⟨pattern, source, bindings, hpattern, hwalk, -, hall, -, hnone, -⟩ :=
    import_of_required (declarator_mem_retainedAt rfl) hrequired
  cases hpattern
  have hbindings : bindings = [⟨"a", 1⟩, ⟨"c", 1⟩] := hall.2 (by decide)
  exact ⟨hrequired, ⟨source, hbindings ▸ hwalk⟩, hnone⟩

/-- With a default, the name that has it and the name it uses are lost. -/
theorem foo_lost_defaultImport :
    defaultImport.required? = some (.imported "m" 1 [⟨"a", 1⟩])
      ∧ (∃ pattern, defaultImport.child? "name" = some pattern
        ∧ pattern.patternNames.map (binding ·.2) = [⟨"a", 1⟩, ⟨"b", 1⟩])
      ∧ UsesInside (ofDeclarator defaultImport) ⟨[0, 1], some "lexical_declaration", defaultImport⟩ [0, 1, 0, 3, 2]
      ∧ (ofDeclarator defaultImport).outline.identifiers = []
      ∧ (ofDeclarator defaultImport).outline.uses "b" = [] ∧ (ofDeclarator defaultImport).outline.uses "foo" = [] := by
  refine ⟨rfl, ⟨_, rfl, by decide⟩, ?_, ?_, ?_, ?_⟩
  · refine ⟨⟨⟨_, rfl, rfl, by decide⟩, ?_, ?_⟩, [0, 3, 2], rfl, by decide⟩
    · intro hpattern
      obtain ⟨node, hnode, hpart⟩ := (show PatternAt _ ([0, 1, 0, 3] ++ [2]) from hpattern).exists_holder
      cases hnode
      rcases hpart with hpart | ⟨-, hpart⟩ <;> exact absurd hpart (by decide)
    · intro above i node name haddress hnode
      obtain ⟨rfl, -⟩ := List.append_inj' (show [0, 1, 0, 3] ++ [2] = above ++ [i] from haddress) rfl
      cases hnode
      rintro ⟨⟩
  · rw [Outline.identifiers, Outline.walk_eq_preorder]
    decide
  · rw [Outline.uses, Outline.sites_eq_places]
    decide
  · rw [Outline.uses, Outline.sites_eq_places]
    decide

end Cst

end UseSites
