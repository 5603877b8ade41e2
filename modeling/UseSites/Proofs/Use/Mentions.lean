import Mathlib.Data.List.Nodup
import UseSites.Proofs.Syntax.Places
import UseSites.Use
/-!
# Mentions of a symbol and the uses reported of them

A mention is a place where the text of a program names the symbol. `mentions` lists all of them in
document order by one recursion on the outline; nothing is left out and nothing is merged. The search for
uses goes through the tree five times with two rules about what gives way to what. Here both are brought
together: what is reported are the first mentions on each line, role by role, and of the mentions that are
no call only those on lines where nothing else was found.

The merging is one fact about lists. A round adds the lines that are `fresh` when it starts, each of them
once, whether or not the round gives way to other roles.
-/

namespace UseSites

namespace Outline

/-- The ways in which a place can mention a symbol. -/
inductive Mention where
  | binding | directCall | methodCall | access | identifier
  deriving DecidableEq, Repr

/-- What a call on a line mentions through what it calls. -/
def calleeMentions (symbol : String) (line : Int) : Outline → List (Mention × Int)
  | identifier name _ => if name = symbol then [(.directCall, line)] else []
  | member name _ _ => if name = symbol then [(.methodCall, line)] else []
  | _ => []

mutual

/-- Every mention of a symbol with its line, in document order. What a call calls is mentioned by the
call and not a second time by itself. -/
def mentions (symbol : String) (called : Bool) : Outline → List (Mention × Int)
  | imported _ _ bindings =>
    (bindings.filter (·.name == symbol)).map fun binding => (.binding, binding.line)
  | call line callee arguments =>
    calleeMentions symbol line callee ++ (mentions symbol true callee ++ mentionsAll symbol arguments)
  | member name line object =>
    (if name = symbol ∧ called = false then [(.access, line)] else []) ++ mentions symbol false object
  | identifier name line => if name = symbol ∧ called = false then [(.identifier, line)] else []
  | declaration _ _ _ parts => mentionsAll symbol parts
  | group _ _ parts => mentionsAll symbol parts

def mentionsAll (symbol : String) : List Outline → List (Mention × Int)
  | [] => []
  | node :: rest => mentions symbol false node ++ mentionsAll symbol rest

end

def linesAmong (way : Mention) (found : List (Mention × Int)) : List Int :=
  (found.filter (·.1 = way)).map (·.2)

/-- The lines on which an outline mentions a symbol in one way, in document order. -/
def linesOf (way : Mention) (symbol : String) (root : Outline) : List Int :=
  linesAmong way (root.mentions symbol false)

/-! ### The lists of the search -/

theorem mentionsAll_eq_flatMap (symbol : String) (nodes : List Outline) :
    mentionsAll symbol nodes = nodes.flatMap (mentions symbol false) := by
  induction nodes with
  | nil => rfl
  | cons node rest ih => rw [mentionsAll, ih, List.flatMap_cons]

/-- What a node at its place mentions without the nodes below it. -/
def Site.mentions (symbol : String) (site : Site) : List (Mention × Int) :=
  match site.node with
  | imported _ _ bindings =>
    (bindings.filter (·.name == symbol)).map fun binding => (.binding, binding.line)
  | call line callee _ => calleeMentions symbol line callee
  | member name line _ => if name = symbol ∧ site.called = false then [(.access, line)] else []
  | identifier name line => if name = symbol ∧ site.called = false then [(.identifier, line)] else []
  | declaration .. => []
  | group .. => []

theorem mentions_eq (symbol : String) (called : Bool) (node : Outline) :
    node.mentions symbol called = Site.mentions symbol ⟨node, called⟩
      ++ node.childSites.flatMap fun site => site.node.mentions symbol site.called := by
  cases node <;>
    simp [mentions, Site.mentions, childSites, children, mentionsAll_eq_flatMap, List.flatMap_map]

theorem mentions_eq_flatMap_places (symbol : String) (called : Bool) (node : Outline) :
    node.mentions symbol called = (node.places called).flatMap (Site.mentions symbol) := by
  induction node using childInduction generalizing called with
  | step node ih =>
    have hbelow : ∀ site ∈ node.childSites, site.node.mentions symbol site.called
        = (site.node.places site.called).flatMap (Site.mentions symbol) := by
      intro site hsite
      apply ih
      rw [← map_node_childSites]
      exact List.mem_map_of_mem hsite
    rw [mentions_eq, places_eq, List.flatMap_cons, List.flatMap_assoc, List.flatMap_congr hbelow]

theorem linesOf_eq_flatMap_sites (way : Mention) (symbol : String) (root : Outline) :
    linesOf way symbol root = root.sites.flatMap fun site => linesAmong way (site.mentions symbol) := by
  rw [linesOf, mentions_eq_flatMap_places, sites_eq_places, linesAmong, List.filter_flatMap, List.map_flatMap]
  rfl

@[simp] theorem linesAmong_ite (way found : Mention) (p : Prop) [Decidable p] (line : Int) :
    linesAmong way (if p then [(found, line)] else []) = if p ∧ found = way then [line] else [] := by
  by_cases hp : p <;> by_cases hway : found = way <;> simp [linesAmong, hp, hway]

@[simp] theorem linesAmong_nil (way : Mention) : linesAmong way [] = [] := rfl

theorem linesAmong_bindings (way : Mention) (bindings : List Binding) :
    linesAmong way (bindings.map fun binding => (.binding, binding.line))
      = if way = .binding then bindings.map (·.line) else [] := by
  by_cases hway : way = .binding
  · simp [linesAmong, hway, Function.comp_def, List.filter_map]
  · simp [linesAmong, hway, Ne.symm hway]

theorem importLines_sites (symbol : String) (root : Outline) :
    importLines symbol root.sites = linesOf .binding symbol root := by
  rw [linesOf_eq_flatMap_sites, importLines]
  refine List.flatMap_congr fun site _ => ?_
  obtain ⟨node, called⟩ := site
  cases node with
  | imported source line bindings => simp [Site.mentions, linesAmong_bindings]
  | call line callee arguments => cases callee <;> simp [Site.mentions, calleeMentions]
  | _ => simp [Site.mentions]

theorem filterMap_sites_eq_linesOf (way : Mention) (symbol : String) (root : Outline) (line? : Site → Option Int)
    (hline : ∀ site : Site, (line? site).toList = linesAmong way (site.mentions symbol)) :
    root.sites.filterMap line? = linesOf way symbol root := by
  rw [linesOf_eq_flatMap_sites, List.filterMap_eq_flatMap_toList]
  exact List.flatMap_congr fun site _ => hline site

theorem directCallLines_sites (symbol : String) (root : Outline) :
    directCallLines symbol root.sites = linesOf .directCall symbol root := by
  refine filterMap_sites_eq_linesOf .directCall symbol root _ fun ⟨node, called⟩ => ?_
  cases node with
  | imported source line bindings => simp [Site.mentions, linesAmong_bindings]
  | call line callee arguments => cases callee <;> simp [Site.mentions, calleeMentions, apply_ite Option.toList]
  | _ => simp [Site.mentions]

theorem methodCallLines_sites (symbol : String) (root : Outline) :
    methodCallLines symbol root.sites = linesOf .methodCall symbol root := by
  refine filterMap_sites_eq_linesOf .methodCall symbol root _ fun ⟨node, called⟩ => ?_
  cases node with
  | imported source line bindings => simp [Site.mentions, linesAmong_bindings]
  | call line callee arguments => cases callee <;> simp [Site.mentions, calleeMentions, apply_ite Option.toList]
  | _ => simp [Site.mentions]

theorem accessLines_sites (symbol : String) (root : Outline) :
    accessLines symbol root.sites = linesOf .access symbol root := by
  refine filterMap_sites_eq_linesOf .access symbol root _ fun ⟨node, called⟩ => ?_
  cases node with
  | imported source line bindings => simp [Site.mentions, linesAmong_bindings]
  | call line callee arguments => cases callee <;> simp [Site.mentions, calleeMentions]
  | _ => simp [Site.mentions, apply_ite Option.toList]

theorem identifierLines_sites (symbol : String) (root : Outline) :
    identifierLines symbol root.sites = linesOf .identifier symbol root := by
  refine filterMap_sites_eq_linesOf .identifier symbol root _ fun ⟨node, called⟩ => ?_
  cases node with
  | imported source line bindings => simp [Site.mentions, linesAmong_bindings]
  | call line callee arguments => cases callee <;> simp [Site.mentions, calleeMentions]
  | _ => simp [Site.mentions, apply_ite Option.toList]

/-! ### Rounds -/

def fresh (role : Role) (yields : Bool) (found : List Use) (line : Int) : Bool :=
  !(yields && found.any (·.line == line)) && !found.contains ⟨line, role⟩

theorem accept_eq (role : Role) (yields : Bool) (found : List Use) (line : Int) :
    accept role yields found line = if fresh role yields found line then found ++ [⟨line, role⟩] else found := by
  unfold accept fresh
  cases yields && found.any (·.line == line) <;> cases found.contains ⟨line, role⟩ <;> rfl

/-- Once a line has been added, the round takes that line no more and all others as before. -/
theorem fresh_append (role : Role) (yields : Bool) (found : List Use) (line other : Int) :
    fresh role yields (found ++ [⟨line, role⟩]) other = (fresh role yields found other && !other == line) := by
  have hcontains : (found ++ [(⟨line, role⟩ : Use)]).contains ⟨other, role⟩
      = (found.contains ⟨other, role⟩ || other == line) := by
    by_cases heq : other = line <;> simp [heq, Use.mk.injEq, beq_eq_decide]
  have hany : (found ++ [(⟨line, role⟩ : Use)]).any (·.line == other) = (found.any (·.line == other) || other == line) := by
    by_cases heq : other = line
    · simp [heq]
    · simp [beq_false_of_ne heq, beq_false_of_ne (Ne.symm heq)]
  unfold fresh
  rw [hcontains, hany]
  cases yields <;> cases found.any (·.line == other) <;> cases found.contains ⟨other, role⟩ <;>
    cases other == line <;> rfl

theorem fresh_of_role_ne {role : Role} {found : List Use} (hother : ∀ use ∈ found, use.role ≠ role) (line : Int) :
    fresh role false found line = true := by
  have habsent : (⟨line, role⟩ : Use) ∉ found := fun hmem => hother _ hmem rfl
  simp [fresh, habsent]

theorem fresh_yielding (role : Role) (found : List Use) (line : Int) :
    fresh role true found line = !found.any (·.line == line) := by
  cases hany : found.any (·.line == line) with
  | true => simp [fresh, hany]
  | false =>
    have habsent : (⟨line, role⟩ : Use) ∉ found := by
      intro hmem
      have := List.any_eq_false.1 hany _ hmem
      simp at this
    simp [fresh, hany, habsent]

def tagged (role : Role) (lines : List Int) : List Use := lines.eraseDups.map (⟨·, role⟩)

theorem foldl_accept (role : Role) (yields : Bool) (lines : List Int) (found : List Use) :
    lines.foldl (accept role yields) found
      = found ++ tagged role (lines.filter (fresh role yields found)) := by
  induction lines generalizing found with
  | nil => simp [tagged]
  | cons line rest ih =>
    rw [List.foldl_cons, accept_eq]
    by_cases hfresh : fresh role yields found line = true
    · rw [if_pos hfresh, ih, List.filter_cons_of_pos hfresh]
      have hrest : rest.filter (fresh role yields (found ++ [⟨line, role⟩]))
          = (rest.filter (fresh role yields found)).filter fun other => !other == line := by
        rw [List.filter_filter]
        refine List.filter_congr fun other _ => ?_
        rw [fresh_append, Bool.and_comm]
      rw [hrest, tagged, tagged, List.eraseDups_cons, List.map_cons, List.append_assoc, List.singleton_append]
    · rw [if_neg hfresh, ih, List.filter_cons_of_neg hfresh]

theorem mem_tagged {role : Role} {lines : List Int} {use : Use} :
    use ∈ tagged role lines ↔ use.role = role ∧ use.line ∈ lines := by
  obtain ⟨line, found⟩ := use
  simp only [tagged, List.mem_map, List.mem_eraseDups, Use.mk.injEq]
  constructor
  · rintro ⟨other, hother, rfl, rfl⟩
    exact ⟨rfl, hother⟩
  · rintro ⟨rfl, hline⟩
    exact ⟨line, hline, rfl, rfl⟩

theorem eraseDups_nodup (lines : List Int) : lines.eraseDups.Nodup := by
  match lines with
  | [] => simp
  | line :: rest =>
    rw [List.eraseDups_cons, List.nodup_cons]
    exact ⟨by simp, eraseDups_nodup _⟩
termination_by lines.length
decreasing_by exact Nat.lt_succ_of_le (List.length_filter_le _ _)

theorem tagged_nodup (role : Role) (lines : List Int) : (tagged role lines).Nodup :=
  (eraseDups_nodup lines).map fun _ _ heq => by simpa using congrArg Use.line heq

/-- The lines of the mentions that are no call, apart from those on which something else is found. -/
def callbackLines (symbol : String) (root : Outline) : List Int :=
  (root.linesOf .access symbol ++ root.linesOf .identifier symbol).filter fun line =>
    line ∉ root.linesOf .binding symbol ∧ line ∉ root.linesOf .directCall symbol
      ∧ line ∉ root.linesOf .methodCall symbol

theorem any_line_tagged (role : Role) (lines : List Int) (line : Int) :
    (tagged role lines).any (·.line == line) = decide (line ∈ lines) := by
  simp [tagged, List.any_map, Function.comp_def, List.any_beq']

/-- A round whose role is new adds each of its lines once. -/
theorem foldl_accept_of_role_ne (role : Role) {found : List Use} (hother : ∀ use ∈ found, use.role ≠ role)
    (lines : List Int) : lines.foldl (accept role false) found = found ++ tagged role lines := by
  rw [foldl_accept, List.filter_eq_self.2 fun line _ => fresh_of_role_ne hother line]

def firmUses (symbol : String) (root : Outline) : List Use :=
  tagged .imported (root.linesOf .binding symbol) ++ tagged .directCall (root.linesOf .directCall symbol)
    ++ tagged .methodCall (root.linesOf .methodCall symbol)

theorem any_line_firmUses (symbol : String) (root : Outline) (line : Int) :
    (root.firmUses symbol).any (·.line == line) = decide (line ∈ root.linesOf .binding symbol
      ∨ line ∈ root.linesOf .directCall symbol ∨ line ∈ root.linesOf .methodCall symbol) := by
  rw [firmUses, List.any_append, List.any_append, any_line_tagged, any_line_tagged, any_line_tagged, Bool.or_assoc,
    ← Bool.decide_or, ← Bool.decide_or]

theorem filter_fresh_firmUses (symbol : String) (root : Outline) :
    (root.linesOf .access symbol ++ root.linesOf .identifier symbol).filter
      (fresh .callback true (root.firmUses symbol)) = root.callbackLines symbol := by
  refine List.filter_congr fun line _ => ?_
  rw [fresh_yielding, any_line_firmUses]
  simp only [not_or, ← decide_not]

theorem uses_eq (symbol : String) (root : Outline) :
    root.uses symbol = root.firmUses symbol ++ tagged .callback (root.callbackLines symbol) := by
  have himports : ∀ use ∈ tagged .imported (root.linesOf .binding symbol), use.role = .imported :=
    fun use huse => (mem_tagged.1 huse).1
  have hcalls : ∀ use ∈ tagged .directCall (root.linesOf .directCall symbol), use.role = .directCall :=
    fun use huse => (mem_tagged.1 huse).1
  have himported := foldl_accept_of_role_ne .imported (List.forall_mem_nil _) (root.linesOf .binding symbol)
  have hdirect := foldl_accept_of_role_ne .directCall (fun use huse => by rw [himports use huse]; decide)
    (root.linesOf .directCall symbol)
  have hfirm : ∀ use ∈ tagged .imported (root.linesOf .binding symbol)
      ++ tagged .directCall (root.linesOf .directCall symbol), use.role ≠ .methodCall := by
    intro use huse
    rcases List.mem_append.1 huse with huse | huse
    · rw [himports use huse]
      decide
    · rw [hcalls use huse]
      decide
  have hmethod := foldl_accept_of_role_ne .methodCall hfirm (root.linesOf .methodCall symbol)
  simp only [uses, importLines_sites, directCallLines_sites, methodCallLines_sites, accessLines_sites,
    identifierLines_sites]
  rw [himported, List.nil_append, hdirect, hmethod, ← firmUses, ← List.foldl_append, foldl_accept,
    filter_fresh_firmUses]

/-! ### What is reported -/

theorem mem_firmUses {symbol : String} {root : Outline} {use : Use} :
    use ∈ root.firmUses symbol ↔ (use.role = .imported ∧ use.line ∈ root.linesOf .binding symbol)
      ∨ (use.role = .directCall ∧ use.line ∈ root.linesOf .directCall symbol)
      ∨ (use.role = .methodCall ∧ use.line ∈ root.linesOf .methodCall symbol) := by
  simp only [firmUses, List.mem_append, mem_tagged, or_assoc]

theorem mem_callbackLines {symbol : String} {root : Outline} {line : Int} :
    line ∈ root.callbackLines symbol ↔
      (line ∈ root.linesOf .access symbol ∨ line ∈ root.linesOf .identifier symbol)
        ∧ ∀ use ∈ root.firmUses symbol, use.line ≠ line := by
  rw [← filter_fresh_firmUses, List.mem_filter, List.mem_append, fresh_yielding]
  simp

theorem uses_nodup (symbol : String) (root : Outline) : (root.uses symbol).Nodup := by
  rw [uses_eq, firmUses, List.nodup_append, List.nodup_append, List.nodup_append]
  refine ⟨⟨⟨tagged_nodup _ _, tagged_nodup _ _, ?_⟩, tagged_nodup _ _, ?_⟩, tagged_nodup _ _, ?_⟩
  all_goals
    intro use huse other hother heq
    subst heq
    simp only [List.mem_append, mem_tagged] at huse hother
    simp_all

/-- A line with a callback has no use in another role. -/
theorem role_eq_callback {symbol : String} {root : Outline} {use other : Use} (huse : use ∈ root.uses symbol)
    (hother : other ∈ root.uses symbol) (hrole : use.role = .callback) (hline : other.line = use.line) :
    other.role = .callback := by
  rw [uses_eq, List.mem_append] at huse hother
  have hcallback : use.line ∈ root.callbackLines symbol := by
    rcases huse with hfirm | htagged
    · rcases mem_firmUses.1 hfirm with ⟨h, _⟩ | ⟨h, _⟩ | ⟨h, _⟩ <;> rw [hrole] at h <;> cases h
    · exact (mem_tagged.1 htagged).2
  rcases hother with hfirm | htagged
  · exact absurd hline ((mem_callbackLines.1 hcallback).2 other hfirm)
  · exact (mem_tagged.1 htagged).1

theorem exists_use_iff (symbol : String) (root : Outline) (line : Int) :
    (∃ use ∈ root.uses symbol, use.line = line) ↔ ∃ way, line ∈ root.linesOf way symbol := by
  constructor
  · rintro ⟨use, huse, rfl⟩
    rw [uses_eq, List.mem_append] at huse
    rcases huse with hfirm | htagged
    · rcases mem_firmUses.1 hfirm with ⟨_, h⟩ | ⟨_, h⟩ | ⟨_, h⟩
      · exact ⟨_, h⟩
      · exact ⟨_, h⟩
      · exact ⟨_, h⟩
    · rcases (mem_callbackLines.1 (mem_tagged.1 htagged).2).1 with h | h
      · exact ⟨_, h⟩
      · exact ⟨_, h⟩
  · rintro ⟨way, hline⟩
    by_cases hfirm : ∃ use ∈ root.firmUses symbol, use.line = line
    · obtain ⟨use, huse, hline⟩ := hfirm
      exact ⟨use, by rw [uses_eq]; exact List.mem_append_left _ huse, hline⟩
    · -- nothing gives the line away, so the mention is an access or an identifier and becomes a callback
      have hnone : ∀ use ∈ root.firmUses symbol, use.line ≠ line := fun use huse heq => hfirm ⟨use, huse, heq⟩
      have hmentioned : line ∈ root.linesOf .access symbol ∨ line ∈ root.linesOf .identifier symbol := by
        cases way with
        | binding => exact absurd rfl (hnone ⟨line, .imported⟩ (mem_firmUses.2 (.inl ⟨rfl, hline⟩)))
        | directCall => exact absurd rfl (hnone ⟨line, .directCall⟩ (mem_firmUses.2 (.inr (.inl ⟨rfl, hline⟩))))
        | methodCall => exact absurd rfl (hnone ⟨line, .methodCall⟩ (mem_firmUses.2 (.inr (.inr ⟨rfl, hline⟩))))
        | access => exact .inl hline
        | identifier => exact .inr hline
      refine ⟨⟨line, .callback⟩, ?_, rfl⟩
      rw [uses_eq]
      exact List.mem_append_right _ (mem_tagged.2 ⟨rfl, mem_callbackLines.2 ⟨hmentioned, hnone⟩⟩)

/-- The uses of a symbol are the first mentions on each line, role by role; of the mentions that are no call
those on lines where nothing else was found. No line is reported twice in one role, a callback stands alone
on its line, and every line with a mention is reported. -/
theorem uses_eq_first_mentions (symbol : String) (root : Outline) :
    root.uses symbol = tagged .imported (root.linesOf .binding symbol)
        ++ tagged .directCall (root.linesOf .directCall symbol)
        ++ tagged .methodCall (root.linesOf .methodCall symbol)
        ++ tagged .callback ((root.linesOf .access symbol ++ root.linesOf .identifier symbol).filter fun line =>
          line ∉ root.linesOf .binding symbol ∧ line ∉ root.linesOf .directCall symbol
            ∧ line ∉ root.linesOf .methodCall symbol)
      ∧ (root.uses symbol).Nodup
      ∧ (∀ use ∈ root.uses symbol, ∀ other ∈ root.uses symbol, use.role = .callback → other.line = use.line →
        other.role = .callback)
      ∧ ∀ line, (∃ use ∈ root.uses symbol, use.line = line) ↔ ∃ way, line ∈ root.linesOf way symbol := by
  refine ⟨?_, uses_nodup symbol root, ?_, exists_use_iff symbol root⟩
  · rw [uses_eq, firmUses, callbackLines]
  · intro use huse other hother hrole hline
    exact role_eq_callback huse hother hrole hline

end Outline

end UseSites
