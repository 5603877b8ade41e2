import UseSites.Proofs.Grammar.Names
import UseSites.Proofs.Settings.Loading
/-!
# Names of symbols

A symbol is searched for by the texts of name tokens, so a symbol that no token can have is never found. Of the symbols
that the settings accept these are the ones with a line feed at the end: `isSymbol_iff` says that an identifier is
accepted as it is and with a line feed behind it, and in no other form.
-/

namespace UseSites

namespace Settings

theorem startsSymbol_iff (c : Char) : startsSymbol c = true ↔ StartsIdentifier c := by
  simp [startsSymbol, StartsIdentifier, IsLetter, Char.isAlpha, Char.isUpper, Char.isLower, Char.le_def, or_assoc]

theorem continuesSymbol_iff (c : Char) : continuesSymbol c = true ↔ ContinuesIdentifier c := by
  simp [continuesSymbol, ContinuesIdentifier, startsSymbol_iff, Char.isDigit, Char.le_def]

def isName : List Char → Bool
  | [] => false
  | c :: rest => startsSymbol c && rest.all continuesSymbol

theorem isName_iff (text : String) : isName text.toList = true ↔ IsIdentifier text := by
  unfold IsIdentifier
  cases text.toList with
  | nil => simp [isName]
  | cons c rest =>
    simp only [isName, Bool.and_eq_true, List.all_eq_true, startsSymbol_iff, continuesSymbol_iff]
    constructor
    · rintro ⟨hfirst, hrest⟩
      exact ⟨c, rest, rfl, hfirst, hrest⟩
    · rintro ⟨first, others, htext, hfirst, hrest⟩
      obtain ⟨rfl, rfl⟩ := List.cons.inj htext
      exact ⟨hfirst, hrest⟩

theorem isSymbol_eq (text : String) :
    isSymbol text = isName (if text.toList.getLast? = some '\n' then text.toList.dropLast else text.toList) := rfl

/-- Accepted are identifiers, and identifiers with one line feed behind them. -/
theorem isSymbol_iff (text : String) :
    isSymbol text = true ↔ IsIdentifier text ∨ ∃ name, IsIdentifier name ∧ text = name ++ "\n" := by
  rw [isSymbol_eq]
  constructor
  · intro h
    split at h
    · next hlast =>
      obtain ⟨name, htext⟩ := List.getLast?_eq_some_iff.1 hlast
      rw [htext, List.dropLast_concat] at h
      refine .inr ⟨String.ofList name, ?_, ?_⟩
      · rw [← isName_iff, String.toList_ofList]
        exact h
      · rw [← String.toList_inj, String.toList_append, String.toList_ofList]
        exact htext
    · exact .inl ((isName_iff text).1 h)
  · rintro (hname | ⟨name, hname, rfl⟩)
    · rw [if_neg, isName_iff]
      · exact hname
      · intro hlast
        exact hname.lineFeed_notMem (List.mem_of_getLast? hlast)
    · have htext : (name ++ "\n").toList = name.toList ++ ['\n'] := String.toList_append
      rw [htext, List.getLast?_concat, if_pos rfl, List.dropLast_concat, isName_iff]
      exact hname

end Settings

/-! ### Accepted symbols -/

/-- The symbol plays no part in any other condition. -/
theorem Settings.Built.withSymbol {environment : Environment} {root : Path} {values : Given} {settings : Settings}
    {symbol : String} (h : Built environment root values settings) (hsymbol : Settings.isSymbol symbol = true) :
    Built environment root { values with symbol := symbol } { settings with symbol := symbol } :=
  { h with isSymbol := hsymbol, symbol := rfl, inRange := { h.inRange with } }

namespace Surroundings

variable {surroundings : Surroundings} {path : Path} {given : Given} {settings : Settings} {valid : String}

/-- Where another symbol is accepted, a symbol is accepted if it is one. -/
theorem exists_settingsAt_iff (hvalid : surroundings.settingsAt path { given with symbol := valid } = .ok settings) :
    (∃ settings, surroundings.settingsAt path given = .ok settings) ↔ Settings.isSymbol given.symbol = true := by
  obtain ⟨root, hproject, hbuilt⟩ := settingsAt_eq_ok_iff.1 hvalid
  constructor
  · rintro ⟨own, hown⟩
    obtain ⟨_, -, hbuilt⟩ := settingsAt_eq_ok_iff.1 hown
    exact hbuilt.isSymbol
  · intro hsymbol
    exact ⟨_, settingsAt_eq_ok_iff.2 ⟨root, hproject, hbuilt.withSymbol hsymbol⟩⟩

/-- Where all else can be used, a symbol is accepted if it is an identifier or one with a line feed behind it. It is
then the text of a name token, and of an identifier token unless it is reserved, exactly if there is no line feed. -/
theorem accepted_symbols (hvalid : surroundings.settingsAt path { given with symbol := valid } = .ok settings) :
    ((∃ settings, surroundings.settingsAt path given = .ok settings)
        ↔ IsIdentifier given.symbol ∨ ∃ name, IsIdentifier name ∧ given.symbol = name ++ "\n")
      ∧ ∀ settings, surroundings.settingsAt path given = .ok settings →
        (Grammar.Token.name.CanSpell settings.symbol.toList ↔ IsIdentifier given.symbol)
          ∧ (Grammar.Token.identifier.CanSpell settings.symbol.toList
            ↔ IsIdentifier given.symbol ∧ given.symbol.toList ∉ Grammar.reservedWords) := by
  rw [exists_settingsAt_iff hvalid, Settings.isSymbol_iff]
  refine ⟨Iff.rfl, fun own hown => ?_⟩
  obtain ⟨_, -, hbuilt⟩ := settingsAt_eq_ok_iff.1 hown
  have hspell : Grammar.Token.name.CanSpell given.symbol.toList ↔ IsIdentifier given.symbol := by
    constructor
    · intro hspells
      refine ((Settings.isSymbol_iff _).1 hbuilt.isSymbol).resolve_right ?_
      rintro ⟨name, -, heq⟩
      apply hspells.lineFeed_notMem
      rw [heq, String.toList_append]
      exact List.mem_append_right _ List.mem_cons_self
    · intro hidentifier
      exact ⟨[], by rw [List.append_nil]; exact Grammar.nameLength?_of_isIdentifier hidentifier⟩
  rw [hbuilt.symbol, Grammar.canSpell_identifier_iff, hspell]
  exact ⟨Iff.rfl, Iff.rfl⟩

def onlyProject (environment : Environment) : Surroundings where
  disk := ⟨[("project", .folder [])]⟩
  environment := environment
  folder := []

theorem isProject_onlyProject (environment : Environment) :
    (onlyProject environment).IsProject (Path.ofString "project") (Path.ofString "/project") := by
  have hresolve : (onlyProject environment).disk.resolve [] (Path.ofString "project") = some ["project"] := by cbv
  exact ⟨["project"], [], ⟨Path.ofString "project", rfl, by decide, hresolve⟩, rfl, by cbv, List.not_mem_nil⟩

def plainSettings (symbol : String) : Settings where
  root := Path.ofString "/project"
  symbol := symbol
  filter := "database"
  includes := Settings.defaultIncludes
  excludes := Settings.defaultExcludes
  window := Settings.defaultWindow
  workers := Settings.defaultWorkers
  strict := true

theorem settingsAt_onlyProject {symbol : String} (h : Settings.isSymbol symbol = true) :
    (onlyProject .empty).settingsAt (Path.ofString "project") { symbol := symbol, domain := "database" }
      = .ok (plainSettings symbol) := by
  have hbuild : Settings.build .empty (Path.ofString "/project") { symbol := "foo", domain := "database" }
      = .ok (plainSettings "foo") := rfl
  refine settingsAt_eq_ok_iff.2 ⟨_, isProject_onlyProject .empty, ?_⟩
  exact (Settings.build_eq_ok_iff.1 hbuild).withSymbol h

theorem foo_accepted :
    (∃ settings, (onlyProject .empty).settingsAt (Path.ofString "project") { symbol := "foo", domain := "database" }
        = .ok settings)
      ∧ Grammar.Token.identifier.CanSpell "foo".toList := by
  have hfoo := @settingsAt_onlyProject "foo" rfl
  have hidentifier : IsIdentifier "foo" := (Settings.isName_iff "foo").1 rfl
  have haccepted := @accepted_symbols _ _ { symbol := "foo", domain := "database" } _ _ hfoo
  exact ⟨haccepted.1.2 (.inl hidentifier), (haccepted.2 _ hfoo).2.2 ⟨hidentifier, by decide⟩⟩

/-- A symbol with a line feed at the end is accepted, although it is no identifier and no name has it as its text. -/
theorem foo_lineFeed_accepted :
    (onlyProject .empty).settingsAt (Path.ofString "project") { symbol := "foo\n", domain := "database" }
        = .ok (plainSettings "foo\n")
      ∧ ¬IsIdentifier "foo\n" ∧ ¬Grammar.Token.name.CanSpell "foo\n".toList := by
  have hmem : '\n' ∈ "foo\n".toList := by decide
  exact ⟨settingsAt_onlyProject rfl, fun h => h.lineFeed_notMem hmem, fun h => h.lineFeed_notMem hmem⟩

end Surroundings

end UseSites
