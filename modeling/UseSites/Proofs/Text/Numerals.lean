import Mathlib.Data.List.DropRight
import UseSites.Text.Numeral
/-!
# Texts without their ends, and numbers in them

`stripped_eq_iff` says what is left when characters are taken away at both ends of a text: the stretch between them,
which does not start or end with such a character. Both `trimmed` and the reader of whole numbers strip a text, with
other characters each.

`ReadsInteger` spells out how a whole number is written, and `integer?_eq_some_iff` says that just these texts are
read.
-/

namespace UseSites.Text

/-! ### Taking away characters at both ends -/

section Strip

variable {p : Char → Bool} {text core : List Char}

def stripped (p : Char → Bool) (text : List Char) : List Char := (text.dropWhile p).rdropWhile p

/-- A text whose first and last characters stay when it is stripped. -/
structure Bare (p : Char → Bool) (text : List Char) : Prop where
  first : ∀ c, text.head? = some c → p c = false
  last : ∀ c, text.getLast? = some c → p c = false

theorem dropWhile_append_of_forall {before : List Char} (hbefore : ∀ c ∈ before, p c = true) (rest : List Char) :
    (before ++ rest).dropWhile p = rest.dropWhile p := by
  rw [List.dropWhile_append, List.dropWhile_eq_nil_iff.2 hbefore]
  rfl

theorem dropWhile_of_first (h : ∀ c, text.head? = some c → p c = false) : text.dropWhile p = text := by
  cases text with
  | nil => rfl
  | cons c rest => exact List.dropWhile_cons_of_neg (Bool.eq_false_iff.1 (h c rfl))

theorem rdropWhile_append_of_forall {after : List Char} (hafter : ∀ c ∈ after, p c = true) (text : List Char) :
    (text ++ after).rdropWhile p = text.rdropWhile p := by
  rw [List.rdropWhile, List.reverse_append, dropWhile_append_of_forall, List.rdropWhile]
  intro c hc
  exact hafter c (List.mem_reverse.1 hc)

theorem rdropWhile_of_last (h : ∀ c, text.getLast? = some c → p c = false) : text.rdropWhile p = text := by
  rw [List.rdropWhile, dropWhile_of_first, List.reverse_reverse]
  intro c hc
  exact h c (by rw [← hc, List.head?_reverse])

theorem bare_stripped (p : Char → Bool) (text : List Char) : Bare p (stripped p text) := by
  constructor
  · intro c hc
    -- stripping at the end leaves a prefix
    have hprefix : stripped p text <+: text.dropWhile p := List.rdropWhile_prefix p _
    have hfirst : (text.dropWhile p).head? = some c := by
      obtain ⟨after, hafter⟩ := hprefix
      rw [← hafter, List.head?_append, hc]
      rfl
    have hnot := List.head?_dropWhile_not p text
    rw [hfirst] at hnot
    exact hnot
  · intro c hc
    have hne : stripped p text ≠ [] := by
      intro hnil
      rw [hnil] at hc
      cases hc
    have hlast : ¬p ((stripped p text).getLast hne) = true := List.rdropWhile_last_not p _ hne
    rw [List.getLast_of_mem_getLast? hc] at hlast
    exact Bool.eq_false_iff.2 hlast

theorem stripped_eq_iff : stripped p text = core ↔ Bare p core
    ∧ ∃ before after, text = before ++ core ++ after ∧ ∀ c ∈ before ++ after, p c = true := by
  constructor
  · rintro rfl
    refine ⟨bare_stripped p text, text.takeWhile p, (text.dropWhile p).rtakeWhile p, ?_, ?_⟩
    · rw [List.append_assoc, stripped, List.rdropWhile_append_rtakeWhile, List.takeWhile_append_dropWhile]
    · intro c hc
      rcases List.mem_append.1 hc with hbefore | hafter
      · exact List.mem_takeWhile_imp hbefore
      · exact List.mem_rtakeWhile_imp hafter
  · rintro ⟨hbare, before, after, rfl, hends⟩
    obtain ⟨hbefore, hafter⟩ := List.forall_mem_append.1 hends
    rw [stripped, List.append_assoc, dropWhile_append_of_forall hbefore]
    cases core with
    | nil =>
      rw [List.nil_append, List.dropWhile_eq_nil_iff.2 hafter]
      rfl
    | cons c rest =>
      rw [dropWhile_of_first, rdropWhile_append_of_forall hafter, rdropWhile_of_last hbare.last]
      intro first hfirst
      exact hbare.first first hfirst

end Strip

theorem trimmed_eq_stripped (text : List Char) : trimmed text = stripped isBlank text := rfl

def IsTrimmed (text : String) : Prop := Bare isBlank text.toList

theorem isTrimmed_trim (text : String) : IsTrimmed (trim text) := by
  rw [IsTrimmed, trim, String.toList_ofList, trimmed_eq_stripped]
  exact bare_stripped isBlank text.toList

/-- Nothing is left exactly of a text that has nothing but blanks. -/
theorem trim_eq_empty_iff (text : String) : trim text = "" ↔ allBlank text = true := by
  rw [trim, allBlank, List.all_eq_true, ← String.toList_inj, String.toList_ofList, trimmed_eq_stripped]
  show stripped isBlank text.toList = [] ↔ _
  rw [stripped_eq_iff]
  constructor
  · rintro ⟨-, before, after, htext, hblank⟩
    rw [htext, List.append_nil]
    exact hblank
  · intro hblank
    exact ⟨⟨nofun, nofun⟩, text.toList, [], by simp, by simpa using hblank⟩

/-! ### Whole numbers -/

/-- Digits of any script with single underscores between them, and their values. -/
inductive Spells : List Char → List Nat → Prop where
  | last {c : Char} {value : Nat} (hdigit : digit? c = some value) : Spells [c] [value]
  | next {c : Char} {value : Nat} {rest : List Char} {values : List Nat} (hdigit : digit? c = some value)
      (hrest : Spells rest values) : Spells (c :: rest) (value :: values)
  | underscore {c : Char} {value : Nat} {rest : List Char} {values : List Nat} (hdigit : digit? c = some value)
      (hrest : Spells rest values) : Spells (c :: '_' :: rest) (value :: values)

/-- A sign, and the number that it makes of a value. -/
inductive Signed (value : Nat) : List Char → Int → Prop where
  | plain : Signed value [] value
  | plus : Signed value ['+'] value
  | minus : Signed value ['-'] (-value)

/-- How a whole number is written: blanks, perhaps a sign, at most `maxDigits` digits, and blanks. -/
def ReadsInteger (text : String) (number : Int) : Prop :=
  ∃ before sign spelled after values, text.toList = before ++ (sign ++ spelled) ++ after
    ∧ (∀ c ∈ before ++ after, isPadding c = true) ∧ Spells spelled values ∧ values.length ≤ maxDigits
    ∧ Signed (ofDigits values) sign number

theorem exists_base_of_digit? {c : Char} {value : Nat} (h : digit? c = some value) :
    ∃ base ∈ zeros, base ≤ c.toNat ∧ c.toNat < base + 10 := by
  obtain ⟨base, hbase, -⟩ := Option.map_eq_some_iff.1 h
  have hbounds := List.find?_some hbase
  simp only [Bool.and_eq_true, decide_eq_true_eq] at hbounds
  exact ⟨base, List.mem_of_find?_eq_some hbase, hbounds⟩

/-- Digits are no blanks: the digits of every script lie between two neighbouring blanks. -/
theorem isPadding_of_digit? {c : Char} {value : Nat} (h : digit? c = some value) : isPadding c = false := by
  obtain ⟨base, hbase, hfirst, hlast⟩ := exists_base_of_digit? h
  have hbetween : ∀ base ∈ zeros, 0x20 < base ∧ base + 10 ≤ 0x85 ∨ 0xa0 < base ∧ base + 10 ≤ 0x1680
      ∨ 0x1680 < base ∧ base + 10 ≤ 0x2000 ∨ 0x3000 < base := by decide
  have := hbetween base hbase
  have hblank : isBlank c = false := by
    simp only [isBlank, Bool.or_eq_false_iff, Bool.and_eq_false_iff, decide_eq_false_iff_not, beq_eq_false_iff_ne]
    omega
  rw [isPadding, hblank, Bool.false_and]

theorem Spells.exists_cons {text : List Char} {values : List Nat} (h : Spells text values) :
    ∃ c value rest, text = c :: rest ∧ digit? c = some value := by
  cases h with
  | last hdigit => exact ⟨_, _, _, rfl, hdigit⟩
  | next hdigit _ => exact ⟨_, _, _, rfl, hdigit⟩
  | underscore hdigit _ => exact ⟨_, _, _, rfl, hdigit⟩

theorem Spells.getLast? {text : List Char} {values : List Nat} (h : Spells text values) :
    ∃ c value, text.getLast? = some c ∧ digit? c = some value := by
  induction h with
  | last hdigit => exact ⟨_, _, rfl, hdigit⟩
  | next _ _ ih =>
    obtain ⟨c, value, hlast, hdigit⟩ := ih
    exact ⟨c, value, by rw [List.getLast?_cons, hlast]; rfl, hdigit⟩
  | underscore _ _ ih =>
    obtain ⟨c, value, hlast, hdigit⟩ := ih
    exact ⟨c, value, by rw [List.getLast?_cons, List.getLast?_cons, hlast]; rfl, hdigit⟩

theorem digits?_eq_some_iff {text : List Char} {values : List Nat} :
    digits? text = some values ↔ Spells text values := by
  constructor
  · intro h
    fun_induction digits? text generalizing values with
    | case1 => cases h
    | case2 => cases h
    | case3 c value hdigit =>
      obtain rfl := Option.some.inj h
      exact .last hdigit
    | case4 c value rest hdigit ih =>
      obtain ⟨values, hrest, rfl⟩ := Option.map_eq_some_iff.1 h
      exact .underscore hdigit (ih hrest)
    | case5 c rest value _ _ hdigit ih =>
      obtain ⟨values, hrest, rfl⟩ := Option.map_eq_some_iff.1 h
      exact .next hdigit (ih hrest)
  · intro h
    induction h with
    | last hdigit => simp [digits?, hdigit]
    | underscore hdigit _ ih => simp [digits?, hdigit, ih]
    | next hdigit hrest ih =>
      -- another digit follows, which is no underscore
      obtain ⟨c, value, rest, rfl, hnext⟩ := hrest.exists_cons
      have hne : c ≠ '_' := by
        rintro rfl
        cases hnext
      simp [digits?, hdigit, hne, ih]

theorem natural?_eq_some_iff {text : List Char} {value : Nat} :
    natural? text = some value
      ↔ ∃ values, Spells text values ∧ values.length ≤ maxDigits ∧ value = ofDigits values := by
  rw [natural?, Option.bind_eq_some_iff]
  refine exists_congr fun values => ?_
  rw [digits?_eq_some_iff]
  apply and_congr_right
  intro _
  split
  · next hlength => simp [hlength, eq_comm]
  · next hlength => simp [hlength]

def signed? : List Char → Option Int
  | '-' :: rest => (natural? rest).map fun value : Nat => -(value : Int)
  | '+' :: rest => (natural? rest).map Int.ofNat
  | rest => (natural? rest).map Int.ofNat

theorem integer?_eq (text : String) : integer? text = signed? (stripped isPadding text.toList) := by
  show (match stripped isPadding text.toList with | '-' :: rest => _ | '+' :: rest => _ | rest => _) = _
  unfold signed?
  split
  · next rest _ => cases natural? rest <;> rfl
  · rfl
  · rfl

theorem signed?_eq_some_iff {text : List Char} {number : Int} :
    signed? text = some number ↔ ∃ sign spelled values, text = sign ++ spelled ∧ Spells spelled values
      ∧ values.length ≤ maxDigits ∧ Signed (ofDigits values) sign number := by
  constructor
  · intro h
    unfold signed? at h
    split at h
    all_goals
      obtain ⟨value, hvalue, rfl⟩ := Option.map_eq_some_iff.1 h
      obtain ⟨values, hspells, hlength, rfl⟩ := natural?_eq_some_iff.1 hvalue
    · exact ⟨['-'], _, values, rfl, hspells, hlength, .minus⟩
    · exact ⟨['+'], _, values, rfl, hspells, hlength, .plus⟩
    · exact ⟨[], _, values, rfl, hspells, hlength, .plain⟩
  · rintro ⟨sign, spelled, values, rfl, hspells, hlength, hsigned⟩
    have hnatural := natural?_eq_some_iff.2 ⟨values, hspells, hlength, rfl⟩
    cases hsigned with
    | minus => exact Option.map_eq_some_iff.2 ⟨_, hnatural, rfl⟩
    | plus => exact Option.map_eq_some_iff.2 ⟨_, hnatural, rfl⟩
    | plain =>
      -- a digit comes first, which is no sign
      obtain ⟨c, value, rest, rfl, hdigit⟩ := hspells.exists_cons
      rw [List.nil_append, signed?]
      · exact Option.map_eq_some_iff.2 ⟨_, hnatural, rfl⟩
      · rintro rest' heq
        obtain ⟨rfl, -⟩ := List.cons.inj heq
        cases hdigit
      · rintro rest' heq
        obtain ⟨rfl, -⟩ := List.cons.inj heq
        cases hdigit

/-- A sign and digits have no blanks at their ends. -/
theorem bare_signed {sign spelled : List Char} {values : List Nat} {value : Nat} {number : Int}
    (hspells : Spells spelled values) (hsigned : Signed value sign number) : Bare isPadding (sign ++ spelled) := by
  constructor
  · intro first hfirst
    obtain ⟨c, digit, rest, rfl, hdigit⟩ := hspells.exists_cons
    cases hsigned with
    | minus | plus =>
      obtain rfl := Option.some.inj hfirst
      rfl
    | plain =>
      obtain rfl := Option.some.inj hfirst
      exact isPadding_of_digit? hdigit
  · intro last hlast
    obtain ⟨c, digit, hc, hdigit⟩ := hspells.getLast?
    rw [List.getLast?_append, hc] at hlast
    obtain rfl := Option.some.inj hlast
    exact isPadding_of_digit? hdigit

theorem integer?_eq_some_iff {text : String} {number : Int} :
    integer? text = some number ↔ ReadsInteger text number := by
  rw [integer?_eq, signed?_eq_some_iff]
  constructor
  · rintro ⟨sign, spelled, values, hcore, hspells, hlength, hsigned⟩
    obtain ⟨-, before, after, htext, hpadding⟩ := stripped_eq_iff.1 hcore
    exact ⟨before, sign, spelled, after, values, htext, hpadding, hspells, hlength, hsigned⟩
  · rintro ⟨before, sign, spelled, after, values, htext, hpadding, hspells, hlength, hsigned⟩
    refine ⟨sign, spelled, values, ?_, hspells, hlength, hsigned⟩
    exact stripped_eq_iff.2 ⟨bare_signed hspells hsigned, before, after, htext, hpadding⟩

end UseSites.Text
