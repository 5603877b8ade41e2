import UseSites.Proofs.Project.Finds
import UseSites.Proofs.Syntax.Shape
/-!
# What becomes of a file that is loaded

Loading a file has five outcomes, and each cause of a failure is looked at only if none of those before it applies.
`Loads` lists the outcomes with what is known of the file in each of them. It does not mention the reader of UTF-8: a
file has a text or has none, and in the second case there is a longest beginning that is one.
-/

namespace UseSites

namespace Source

variable {reads : Reads} {strict : Bool} {path : Path}

inductive Loads (reads : Reads) (strict : Bool) (path : Path) : Except Flaw Source → Prop where
  | noGrammar (hgrammar : Dialect.ofPath? path = none) : Loads reads strict path (.error (.noGrammar path.suffix))
  | unreadable {dialect : Dialect} {trouble : Trouble} (hgrammar : Dialect.ofPath? path = some dialect)
      (hread : reads path = .error trouble) : Loads reads strict path (.error (.unreadable trouble.message))
  | notUtf8 {dialect : Dialect} {bytes : ByteArray} {position : Nat} (hgrammar : Dialect.ofPath? path = some dialect)
      (hread : reads path = .ok bytes) (hinvalid : ¬bytes.IsValidUTF8)
      (hlongest : Text.Utf8.IsLongestText bytes position) : Loads reads strict path (.error (.notUtf8 position))
  | notAProgram {dialect : Dialect} {text : String} (hgrammar : Dialect.ofPath? path = some dialect)
      (hread : reads path = .ok text.toUTF8) (hstrict : strict = true)
      (hflawed : (Grammar.parse dialect text).flawed = true) :
      Loads reads strict path (.error (.notAProgram (Grammar.parse dialect text).firstErrorLine))
  | loaded {dialect : Dialect} {text : String} (hgrammar : Dialect.ofPath? path = some dialect)
      (hread : reads path = .ok text.toUTF8) (hpasses : strict = false ∨ (Grammar.parse dialect text).flawed = false) :
      Loads reads strict path (.ok ⟨path, text, (Grammar.parse dialect text).outline⟩)

theorem loads_load (reads : Reads) (strict : Bool) (path : Path) :
    Loads reads strict path (load reads strict path) := by
  cases hgrammar : Dialect.ofPath? path with
  | none =>
    unfold load
    rw [hgrammar]
    exact .noGrammar hgrammar
  | some dialect =>
    cases hread : reads path with
    | error trouble =>
      unfold load
      rw [hgrammar]
      dsimp only
      rw [hread]
      exact .unreadable hgrammar hread
    | ok bytes =>
      cases hdecode : Text.Utf8.decode bytes.toList with
      | error position =>
        obtain ⟨hinvalid, hlongest⟩ := Text.Utf8.decode_eq_error_iff.1 hdecode
        rw [load_of_illFormed hgrammar hread hdecode]
        exact .notUtf8 hgrammar hread hinvalid hlongest
      | ok text =>
        obtain rfl := Text.Utf8.decode_eq_ok_iff.1 hdecode
        rw [load_of_text hgrammar hread, ofTree]
        split
        · rename_i hflawed
          rw [Bool.and_eq_true] at hflawed
          exact .notAProgram hgrammar hread hflawed.1 hflawed.2
        · rename_i hpasses
          rw [Bool.not_eq_true, Bool.and_eq_false_iff] at hpasses
          exact .loaded hgrammar hread hpasses

/-- The cases exclude each other. -/
theorem Loads.eq_load {outcome : Except Flaw Source} (h : Loads reads strict path outcome) :
    load reads strict path = outcome := by
  cases h with
  | noGrammar hgrammar =>
    unfold load
    rw [hgrammar]
  | unreadable hgrammar hread =>
    unfold load
    rw [hgrammar]
    dsimp only
    rw [hread]
  | notUtf8 hgrammar hread hinvalid hlongest =>
    exact load_of_illFormed hgrammar hread (Text.Utf8.decode_eq_error_iff.2 ⟨hinvalid, hlongest⟩) strict
  | notAProgram hgrammar hread hstrict hflawed =>
    rw [load_of_text hgrammar hread, ofTree, hstrict, hflawed, Bool.and_self, if_pos rfl]
  | loaded hgrammar hread hpasses =>
    exact (load_of_text hgrammar hread strict).trans (ofTree_of_passes hpasses)

/-- Of all that can be read, loading looks at the file itself, and at nothing if no grammar is known for it. A source
has the bytes of the file for its text and a group for its outline, and a search reports a failure with the path. -/
theorem load_outcomes (reads : Reads) (strict : Bool) (path : Path) :
    (∀ outcome, load reads strict path = outcome ↔ Loads reads strict path outcome)
      ∧ (∀ others : Reads, Dialect.ofPath? path = none ∨ others path = reads path →
        load others strict path = load reads strict path)
      ∧ (∀ source, load reads strict path = .ok source → reads path = .ok source.text.toUTF8 ∧ source.path = path
        ∧ ∃ kind line parts, source.outline = .group kind line parts)
      ∧ ∀ flaw, load reads strict path = .error flaw → ∀ (search : Search) (disturbances : Disturbances) category,
        search.settings.strict = strict → disturbances.onLoad path = none →
          ∃ searched, search.searchInScope reads disturbances category path = .ok searched
            ∧ searched.failure? = some ⟨path.toString, flaw.reason⟩ := by
  refine ⟨?outcome, ?others, ?source, ?failure⟩
  case outcome =>
    intro outcome
    constructor
    · rintro rfl
      exact loads_load reads strict path
    · exact Loads.eq_load
  case others =>
    rintro others (hgrammar | hsame)
    · unfold load
      rw [hgrammar]
    · unfold load
      rw [hsame]
  case source =>
    intro source hload
    have hloads := loads_load reads strict path
    rw [hload] at hloads
    cases hloads with
    | loaded hgrammar hread hpasses => exact ⟨hread, rfl, Cst.outline_eq_group _⟩
  case failure =>
    rintro flaw hload search disturbances category rfl hnone
    refine ⟨⟨path, .failed flaw⟩, ?_, rfl⟩
    rw [Search.searchInScope, hnone]
    dsimp only
    rw [hload]

end Source

end UseSites
