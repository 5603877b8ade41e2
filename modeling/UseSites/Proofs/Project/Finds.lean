import UseSites.Project.Search
import UseSites.Proofs.Text.Utf8
/-!
# Searching one file

A file below the root is out of scope, or it could not be loaded, or it was searched. `Finds` lists these
cases with what is known in each of them, and whatever a search says of a file without being stopped is one of
them. Every reference in a file carries its path, and the line and the role tell references in one file apart.
-/

namespace UseSites

namespace Source

theorem ofTree_of_passes {path : Path} {text : String} {strict : Bool} {tree : Cst}
    (hpasses : strict = false ∨ tree.flawed = false) :
    ofTree path text strict tree = .ok ⟨path, text, tree.outline⟩ := by
  rw [ofTree, Bool.and_eq_false_iff.2 hpasses, if_neg Bool.false_ne_true]

section Load

variable {reads : Reads} {path : Path} {dialect : Dialect} {bytes : ByteArray}

theorem load_of_illFormed {position : Nat} (hdialect : Dialect.ofPath? path = some dialect)
    (hread : reads path = .ok bytes) (hdecode : Text.Utf8.decode bytes.toList = .error position) (strict : Bool) :
    load reads strict path = .error (.notUtf8 position) := by
  unfold load
  rw [hdialect]
  dsimp only
  rw [hread]
  dsimp only
  rw [hdecode]

theorem load_of_text {text : String} (hdialect : Dialect.ofPath? path = some dialect)
    (hread : reads path = .ok text.toUTF8) (strict : Bool) :
    load reads strict path = ofTree path text strict (Grammar.parse dialect text) := by
  have hdecode : Text.Utf8.decode text.toUTF8.toList = .ok text := Text.Utf8.decode_eq_ok_iff.2 rfl
  unfold load
  rw [hdialect]
  dsimp only
  rw [hread]
  dsimp only
  rw [hdecode]

end Load

theorem path_of_ofTree {path : Path} {text : String} {strict : Bool} {tree : Cst} {source : Source}
    (h : ofTree path text strict tree = .ok source) : source.path = path := by
  unfold ofTree at h
  split at h
  · cases h
  · cases h
    rfl

theorem path_of_load {reads : Reads} {strict : Bool} {path : Path} {source : Source}
    (h : load reads strict path = .ok source) : source.path = path := by
  unfold load at h
  split at h
  · cases h
  · split at h
    · cases h
    · split at h
      · cases h
      · exact path_of_ofTree h

end Source

namespace Search

variable {search : Search} {reads : Reads} {disturbances : Disturbances}

def covers (search : Search) (relative : String) : Bool :=
  Category.inScope (placeOf relative) (.ofPath (placeOf relative)) search.settings.filter

/-- What a search makes of a file, if nothing stops it there. -/
inductive Finds (search : Search) (reads : Reads) (file : Path) : Searched → Prop where
  | outOfScope {relative : String} (hrelative : search.relative? file = some relative)
      (hcovers : search.covers relative = false) : Finds search reads file ⟨file, .outOfScope⟩
  | failed {relative : String} {flaw : Flaw} (hrelative : search.relative? file = some relative)
      (hcovers : search.covers relative = true)
      (hload : Source.load reads search.settings.strict file = .error flaw) :
      Finds search reads file ⟨file, .failed flaw⟩
  | found {relative : String} {source : Source} (hrelative : search.relative? file = some relative)
      (hcovers : search.covers relative = true)
      (hload : Source.load reads search.settings.strict file = .ok source) :
      Finds search reads file ⟨file, .found (search.references (.ofPath (placeOf relative)) source)⟩

theorem finds_of_searchFile {file : Path} {searched : Searched}
    (h : search.searchFile reads disturbances file = .ok searched) : search.Finds reads file searched := by
  unfold searchFile at h
  cases hrelative : search.relative? file with
  | none =>
    rw [hrelative] at h
    cases h
  | some relative =>
    simp only [hrelative] at h
    split at h
    · rename_i hcovers
      unfold searchInScope at h
      cases hload : disturbances.onLoad file with
      | some disturbance => cases disturbance <;> simp [hload] at h
      | none =>
        simp only [hload] at h
        cases hsource : Source.load reads search.settings.strict file with
        | error flaw =>
          simp only [hsource] at h
          cases h
          exact .failed hrelative hcovers hsource
        | ok source =>
          simp only [hsource] at h
          cases hscan : disturbances.onScan file with
          | some disturbance => cases disturbance <;> simp [hscan] at h
          | none =>
            simp only [hscan] at h
            cases h
            exact .found hrelative hcovers hsource
    · rename_i hcovers
      cases h
      exact .outOfScope hrelative (Bool.eq_false_iff.2 hcovers)

theorem Finds.file_eq {file : Path} {searched : Searched} (h : search.Finds reads file searched) :
    searched.file = file := by
  cases h <;> rfl

/-- A file below the root that is not disturbed does not stop the search. -/
theorem exists_searchFile_eq_ok {file : Path} (hbelow : (search.relative? file).isSome = true)
    (hload : disturbances.onLoad file = none) (hscan : disturbances.onScan file = none) :
    ∃ searched, search.searchFile reads disturbances file = .ok searched := by
  obtain ⟨relative, hrelative⟩ := Option.isSome_iff_exists.1 hbelow
  simp only [searchFile, hrelative, searchInScope, hload, hscan]
  split
  · cases Source.load reads search.settings.strict file with
    | error flaw => exact ⟨_, rfl⟩
    | ok source => exact ⟨_, rfl⟩
  · exact ⟨_, rfl⟩

theorem file_of_mem_references {category : Category} {source : Source} {reference : Reference}
    (h : reference ∈ search.references category source) : reference.file = source.path.toString := by
  obtain ⟨use, -, rfl⟩ := List.mem_map.1 h
  rfl

theorem category_of_mem_references {category : Category} {source : Source} {reference : Reference}
    (h : reference ∈ search.references category source) : reference.category = category := by
  obtain ⟨use, -, rfl⟩ := List.mem_map.1 h
  rfl

theorem eq_of_mem_references {category : Category} {source : Source} {first second : Reference}
    (hfirst : first ∈ search.references category source) (hsecond : second ∈ search.references category source)
    (hline : first.line = second.line) (hrole : first.role = second.role) : first = second := by
  obtain ⟨⟨line, role⟩, -, rfl⟩ := List.mem_map.1 hfirst
  obtain ⟨⟨otherLine, otherRole⟩, -, rfl⟩ := List.mem_map.1 hsecond
  obtain rfl : line = otherLine := hline
  obtain rfl : role = otherRole := hrole
  rfl

/-- The references in a file that was searched are those of a source with its path, or there are none. -/
theorem Finds.references_eq {file : Path} {searched : Searched} (h : search.Finds reads file searched) :
    searched.references = [] ∨ ∃ category source, source.path = file
      ∧ searched.references = search.references category source := by
  cases h with
  | outOfScope => exact Or.inl rfl
  | failed => exact Or.inl rfl
  | found hrelative hcovers hload => exact Or.inr ⟨_, _, Source.path_of_load hload, rfl⟩

end Search

end UseSites
