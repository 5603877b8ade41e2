import UseSites.Proofs.Json.RoundTrip
import UseSites.Report.Basic
/-!
# The texts of a report

A report has two texts, one of the references alone and one with the summary. Both say all that there is to say
about the references: `Reference.ofJson?` takes a reference out of its five members, and what is read from
either text is the list of references that it was made of.
-/

namespace UseSites

namespace Reference

def memberNames : List String := ["file", "line", "type", "category", "context"]

/-- The reference that a value stands for. -/
def ofJson? : Json → Option Reference
  | .object
      [(file, .text path), (line, .int number), (type, .text role), (category, .text place), (context, .text lines)] =>
    if [file, line, type, category, context] = memberNames then
      (Role.all.find? (·.name == role)).bind fun role =>
        (Category.all.find? (·.name == place)).map fun category => ⟨path, number, role, category, lines⟩
    else none
  | _ => none

theorem ofJson?_toJson (reference : Reference) : ofJson? reference.toJson = some reference := by
  obtain ⟨file, line, role, category, context⟩ := reference
  have hrole : Role.all.find? (·.name == role.name) = some role := by cases role <;> decide
  have hcategory : Category.all.find? (·.name == category.name) = some category := by cases category <;> decide
  rw [toJson, ofJson?, if_pos (by decide), hrole, Option.bind_some, hcategory, Option.map_some]

theorem mapM_ofJson? (references : List Reference) : (references.map toJson).mapM ofJson? = some references := by
  induction references with
  | nil => rfl
  | cons first rest ih => simp [ofJson?_toJson, ih]

theorem eq_of_map_toJson_eq {references others : List Reference} (h : others.map toJson = references.map toJson) :
    others = references := by
  have hread := mapM_ofJson? others
  rw [h, mapM_ofJson?] at hread
  exact (Option.some.inj hread).symm

end Reference

namespace Report

theorem read?_text (report : Report) :
    Json.read? report.text = some (.array (report.references.map Reference.toJson)) :=
  Json.read?_pretty _

theorem read?_textWithSummary (report : Report) :
    Json.read? report.textWithSummary = some (.object
      [("references", .array (report.references.map Reference.toJson)), ("summary", report.summary.toJson)]) :=
  Json.read?_pretty _

/-- Both texts of a report are read back: the references are those of the report, in their order and each with its
five members in theirs, and the summary has their numbers. So either text determines the references. -/
theorem texts_read_back (report : Report) :
    (∃ items, Json.read? report.text = some (.array items)
        ∧ items.mapM Reference.ofJson? = some report.references
        ∧ Json.read? report.textWithSummary = some (.object
          [("references", .array items),
            ("summary", .object
              [("countsByType", .object (Role.all.map fun role =>
                  (role.name, .int (report.references.countP (·.role == role))))),
                ("countsByCategory", .object (Category.all.map fun category =>
                  (category.name, .int (report.references.countP (·.category == category)))))])]))
      ∧ ∀ other : Report, other.text = report.text ∨ other.textWithSummary = report.textWithSummary →
          other.references = report.references := by
  refine ⟨⟨_, read?_text report, Reference.mapM_ofJson? _, read?_textWithSummary report⟩, ?_⟩
  rintro other (htext | htext)
  · have hread := read?_text other
    rw [htext, read?_text, Option.some.injEq, Json.array.injEq] at hread
    exact Reference.eq_of_map_toJson_eq hread.symm
  · have hread := read?_textWithSummary other
    rw [htext, read?_textWithSummary, Option.some.injEq, Json.object.injEq] at hread
    obtain ⟨hitems, -⟩ := List.cons.inj hread
    rw [Prod.mk.injEq, Json.array.injEq] at hitems
    exact Reference.eq_of_map_toJson_eq hitems.2.symm

end Report

end UseSites
