import Mathlib
import UseSites.Grammar.Rule
/-!
# Names

An identifier of letters, digits, `_` and `$` is a name token by itself. Names can have more in them than identifiers,
with letters of any script and escapes, but never a line feed (`notMem_take_nameLength?`), so that a text with a line
feed is the text of no name.
-/

namespace UseSites

/-! ### Identifiers -/

def IsLetter (c : Char) : Prop := 'A' ≤ c ∧ c ≤ 'Z' ∨ 'a' ≤ c ∧ c ≤ 'z'

def StartsIdentifier (c : Char) : Prop := IsLetter c ∨ c = '_' ∨ c = '$'

def ContinuesIdentifier (c : Char) : Prop := StartsIdentifier c ∨ '0' ≤ c ∧ c ≤ '9'

instance (c : Char) : Decidable (IsLetter c) := inferInstanceAs (Decidable (_ ∨ _))

instance (c : Char) : Decidable (StartsIdentifier c) := inferInstanceAs (Decidable (_ ∨ _))

instance (c : Char) : Decidable (ContinuesIdentifier c) := inferInstanceAs (Decidable (_ ∨ _))

/-- A single identifier, with nothing before or after it. -/
def IsIdentifier (text : String) : Prop :=
  ∃ first rest, text.toList = first :: rest ∧ StartsIdentifier first ∧ ∀ c ∈ rest, ContinuesIdentifier c

theorem IsIdentifier.lineFeed_notMem {text : String} (h : IsIdentifier text) : '\n' ∉ text.toList := by
  obtain ⟨first, rest, htext, hfirst, hrest⟩ := h
  intro hmem
  rw [htext] at hmem
  rcases List.mem_cons.1 hmem with rfl | hmem
  · exact absurd hfirst (by decide)
  · exact absurd (hrest _ hmem) (by decide)

/-! ### Name tokens -/

namespace Grammar

/-- A text that a token can have in a source. -/
def Token.CanSpell (token : Token) (text : List Char) : Prop :=
  ∃ rest, token.length? (text ++ rest) = some text.length

theorem startsName_of_startsIdentifier {c : Char} (h : StartsIdentifier c) : startsName c = true := by
  have hascii : ∀ n : Fin 128, StartsIdentifier (Char.ofNat n) → startsName (Char.ofNat n) = true := by decide
  have hlt : c.toNat < 128 := by
    rcases h with (⟨-, hz⟩ | ⟨-, hz⟩) | rfl | rfl
    · exact Nat.lt_of_le_of_lt hz (by decide)
    · exact Nat.lt_of_le_of_lt hz (by decide)
    · decide
    · decide
  have hname := hascii ⟨c.toNat, hlt⟩
  rw [Char.ofNat_toNat] at hname
  exact hname h

theorem continuesName_of_continuesIdentifier {c : Char} (h : ContinuesIdentifier c) : continuesName c = true := by
  rw [continuesName, Bool.or_eq_true]
  rcases h with hstarts | ⟨hzero, hnine⟩
  · exact .inl (startsName_of_startsIdentifier hstarts)
  · exact .inr (by simpa [Char.isDigit, Char.le_def] using And.intro hzero hnine)

theorem nameTailLength_of_continues {text : List Char} (h : ∀ c ∈ text, ContinuesIdentifier c) :
    nameTailLength 0 text = text.length := by
  induction text with
  | nil => rfl
  | cons c rest ih =>
    obtain ⟨hc, hrest⟩ := List.forall_mem_cons.1 h
    rw [nameTailLength, if_pos (continuesName_of_continuesIdentifier hc), ih hrest, List.length_cons, Nat.add_comm]

/-- An identifier at the end of a source is one name token. -/
theorem nameLength?_of_isIdentifier {text : String} (h : IsIdentifier text) :
    nameLength? text.toList = some text.toList.length := by
  obtain ⟨first, rest, htext, hfirst, hrest⟩ := h
  rw [htext, nameLength?, if_pos (startsName_of_startsIdentifier hfirst), nameTailLength_of_continues hrest,
    List.length_cons, Nat.add_comm]

/-! ### Line feeds -/

theorem notMem_take_nameEscapeLength? {text : List Char} {length : Nat} (h : nameEscapeLength? text = some length) :
    '\n' ∉ text.take length := by
  have hhex : ∀ {digits : List Char}, (∀ c ∈ digits, isHexDigit c = true) → '\n' ∉ digits :=
    fun hdigits hmem => absurd (hdigits _ hmem) (by decide)
  unfold nameEscapeLength? at h
  split at h
  · next rest =>
    dsimp only at h
    split at h
    · next hclosed =>
      obtain rfl := Option.some.inj h
      rw [Bool.and_eq_true, beq_iff_eq, List.head?_drop] at hclosed
      have hdigits : rest.take (spanLength isHexDigit rest) = rest.takeWhile isHexDigit :=
        (List.prefix_iff_eq_take.1 (List.takeWhile_prefix _)).symm
      rw [List.take_succ_cons, List.take_succ_cons, List.take_add_one, hclosed.2, hdigits]
      simp only [List.mem_cons, List.mem_append, not_or]
      exact ⟨by decide, by decide, hhex fun c hc => List.mem_takeWhile_imp hc, by decide⟩
    · cases h
  · next rest _ =>
    split at h
    · next hfour =>
      obtain rfl := Option.some.inj h
      rw [Bool.and_eq_true, List.all_eq_true] at hfour
      rw [List.take_succ_cons]
      exact List.not_mem_cons_of_ne_of_not_mem (by decide) (hhex hfour.2)
    · cases h
  · cases h

/-- What continues a name has no line feed in it, if what is skipped has none. -/
theorem notMem_take_nameTailLength {skip : Nat} {text : List Char} (hskip : '\n' ∉ text.take skip) :
    '\n' ∉ text.take (nameTailLength skip text) := by
  induction text generalizing skip with
  | nil => simp
  | cons c rest ih =>
    -- one more character, which is no line feed, and what follows it
    have hmore : ∀ {skip : Nat}, c ≠ '\n' → '\n' ∉ rest.take skip →
        '\n' ∉ (c :: rest).take (1 + nameTailLength skip rest) := by
      intro skip hc hrest
      rw [Nat.add_comm, List.take_succ_cons]
      exact List.not_mem_cons_of_ne_of_not_mem hc.symm (ih hrest)
    cases skip with
    | succ skip =>
      obtain ⟨hc, hrest⟩ := List.ne_and_not_mem_of_not_mem_cons hskip
      exact hmore hc.symm hrest
    | zero =>
      rw [nameTailLength]
      split
      · next hcontinues =>
        apply hmore
        · rintro rfl
          exact absurd hcontinues (by decide)
        · simp
      · split
        · next hbackslash =>
          split
          · next length hescape =>
            apply hmore
            · rintro rfl
              exact absurd hbackslash (by decide)
            · exact notMem_take_nameEscapeLength? hescape
          · simp
        · simp

theorem notMem_take_nameLength? {text : List Char} {length : Nat} (h : nameLength? text = some length) :
    '\n' ∉ text.take length := by
  unfold nameLength? at h
  split at h
  · cases h
  · next c rest =>
    split at h
    · next hstarts =>
      obtain rfl := Option.some.inj h
      rw [Nat.add_comm, List.take_succ_cons]
      refine List.not_mem_cons_of_ne_of_not_mem ?_ (notMem_take_nameTailLength (by simp))
      rintro rfl
      exact absurd hstarts (by decide)
    · split at h
      · next hbackslash =>
        obtain ⟨escape, hescape, rfl⟩ := Option.map_eq_some_iff.1 h
        rw [Nat.add_assoc, Nat.add_comm, List.take_succ_cons, List.take_add]
        refine List.not_mem_cons_of_ne_of_not_mem ?_ ?_
        · rintro rfl
          exact absurd hbackslash (by decide)
        · rw [List.mem_append, not_or]
          exact ⟨notMem_take_nameEscapeLength? hescape, notMem_take_nameTailLength (by simp)⟩
      · cases h

theorem Token.CanSpell.lineFeed_notMem {text : List Char} (h : Token.name.CanSpell text) : '\n' ∉ text := by
  obtain ⟨rest, hlength⟩ := h
  have hnone := notMem_take_nameLength? hlength
  rwa [List.take_left] at hnone

theorem canSpell_identifier_iff {text : List Char} :
    Token.identifier.CanSpell text ↔ Token.name.CanSpell text ∧ text ∉ reservedWords := by
  unfold Token.CanSpell Token.length? identifierLength?
  constructor
  · rintro ⟨rest, h⟩
    obtain ⟨length, hname, hreserved⟩ := Option.bind_eq_some_iff.1 h
    split at hreserved
    · cases hreserved
    · next hfree =>
      obtain rfl := Option.some.inj hreserved
      rw [List.take_left] at hfree
      exact ⟨⟨rest, hname⟩, fun hmem => hfree (List.contains_iff_mem.2 hmem)⟩
  · rintro ⟨⟨rest, hname⟩, hfree⟩
    refine ⟨rest, Option.bind_eq_some_iff.2 ⟨_, hname, ?_⟩⟩
    rw [List.take_left, if_neg fun hmem => hfree (List.contains_iff_mem.1 hmem)]

end Grammar

end UseSites
