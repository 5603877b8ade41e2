import Mathlib.Data.List.Basic
import UseSites.Proofs.Json.Reader
/-!
# Reading what was written

`read?_pretty` says that a written value is read back, whatever characters its strings have. Strings, numbers
and values are each read back from the front of a longer text, because that is where they stand inside a
value. A number ends where no digit follows, which is the only thing that is asked of the rest of a text.
-/

namespace UseSites.Json

/-! ### Strings -/

theorem unit?_hexDigit : ∀ n < 32, unit? '0' '0' (hexDigit (n / 16)) (hexDigit (n % 16)) = some n := by decide

theorem units?_cons_of_plain {c : Char} {rest : List Char} (hquote : c ≠ '"') (hslash : c ≠ '\\')
    (hcontrol : ¬c.toNat < 32) :
    units? (c :: rest) = (units? rest).map fun (units, after) => (c.toNat :: units, after) := by
  rw [units?, if_neg hcontrol]
  all_goals simp_all

theorem units?_escapeChar_append (c : Char) (rest : List Char) :
    units? (escapeChar c ++ rest) = (units? rest).map fun (units, after) => (c.toNat :: units, after) := by
  unfold escapeChar
  split
  · subst c; rfl
  split
  · subst c; rfl
  split
  · subst c; rfl
  split
  · subst c; rfl
  split
  · subst c; rfl
  split
  · rename_i hbackspace; rw [hbackspace]; rfl
  split
  · rename_i hfeed; rw [hfeed]; rfl
  split
  · rename_i hcontrol
    simp only [unicodeEscape, List.cons_append, List.nil_append, units?, unit?_hexDigit c.toNat hcontrol,
      Option.bind_some]
  · rename_i hquote hslash _ _ _ _ _ hcontrol
    exact units?_cons_of_plain hquote hslash hcontrol

theorem units?_flatMap_escapeChar (chars rest : List Char) :
    units? (chars.flatMap escapeChar ++ '"' :: rest) = some (chars.map Char.toNat, rest) := by
  induction chars with
  | nil => rfl
  | cons c chars ih =>
    rw [List.flatMap_cons, List.append_assoc, units?_escapeChar_append, ih, Option.map_some, List.map_cons]

theorem characters?_map_toNat (chars : List Char) : characters? (chars.map Char.toNat) = some chars := by
  induction chars with
  | nil => rfl
  | cons c chars ih =>
    have hvalid : c.toNat.isValidChar := c.valid
    have hwhole : ¬isHigh c.toNat = true := by
      simp only [isHigh, Bool.and_eq_true, decide_eq_true_eq, not_and]
      rcases hvalid with hlow | hhigh <;> omega
    rw [List.map_cons, characters?.eq_def]
    dsimp only
    rw [if_neg hwhole, if_pos hvalid, ih, Option.map_some, Char.ofNat_toNat]

theorem string?_flatMap_escapeChar (text : String) (rest : List Char) :
    string? (text.toList.flatMap escapeChar ++ '"' :: rest) = some (text, rest) := by
  rw [string?, units?_flatMap_escapeChar, Option.bind_some]
  dsimp only
  rw [characters?_map_toNat, Option.map_some, String.ofList_toList]

/-! ### Numbers -/

/-- A number can end in front of a text. -/
def EndsNumber (rest : List Char) : Prop := ∀ c ∈ rest.head?, c.isDigit = false

theorem endsNumber_nil : EndsNumber [] := by
  rintro c ⟨⟩

theorem endsNumber_cons {c : Char} {rest : List Char} (h : c.isDigit = false) : EndsNumber (c :: rest) := by
  rintro _ ⟨⟩
  exact h

/-- Only the digits of zero start with a zero. -/
theorem head?_toDigits_ne_zero {n : Nat} (h : n ≠ 0) : (Nat.toDigits 10 n).head? ≠ some '0' := by
  induction n using Nat.strongRecOn with
  | ind n ih =>
    by_cases hsmall : n < 10
    · rw [Nat.toDigits_of_lt_base hsmall]
      simpa using h
    · rw [Nat.toDigits_of_base_le (by decide) (by omega), List.head?_append_of_ne_nil _ Nat.toDigits_ne_nil]
      exact ih (n / 10) (by omega) (by omega)

theorem digits?_append {digits rest : List Char} (hdigits : ∀ c ∈ digits, c.isDigit = true) (hrest : EndsNumber rest)
    (hne : digits ≠ []) (hzero : digits.head? = some '0' → digits = ['0']) :
    digits? (digits ++ rest) = some (digits, rest) := by
  have htake : (digits ++ rest).takeWhile Char.isDigit = digits := by
    rw [List.takeWhile_append_of_pos hdigits]
    cases rest with
    | nil => simp
    | cons c others => simp [hrest c rfl]
  have hdrop : (digits ++ rest).dropWhile Char.isDigit = rest := by
    rw [List.dropWhile_append_of_pos hdigits]
    cases rest with
    | nil => rfl
    | cons c others => simp [hrest c rfl]
  rw [digits?, htake, hdrop]
  refine if_neg ?_
  rintro (hnone | ⟨hhead, hmore⟩)
  · exact hne hnone
  · exact hmore (hzero hhead)

theorem natural?_toDigits (n : Nat) {rest : List Char} (hrest : EndsNumber rest) :
    natural? (Nat.toDigits 10 n ++ rest) = some (n, rest) := by
  have hdigits : ∀ c ∈ Nat.toDigits 10 n, c.isDigit = true :=
    fun c hc => Nat.isDigit_of_mem_toDigits (by decide) (by decide) hc
  have hzero : (Nat.toDigits 10 n).head? = some '0' → Nat.toDigits 10 n = ['0'] := by
    intro hhead
    by_cases hn : n = 0
    · rw [hn]
      rfl
    · exact absurd hhead (head?_toDigits_ne_zero hn)
  rw [natural?, digits?_append hdigits hrest Nat.toDigits_ne_nil hzero, Option.map_some]
  dsimp only
  rw [Nat.ofDigitChars_ten_toDigits]

theorem integer?_of_head {text : List Char} (h : text.head? ≠ some '-') :
    integer? text = (natural? text).map fun (value, rest) => ((value : Int), rest) := by
  rw [integer?]
  rintro digits rfl
  exact h rfl

/-- The text of a number is its digits, with a sign in front if the number is negative. -/
theorem toList_toString_int (value : Int) :
    (toString value).toList
      = if 0 ≤ value then Nat.toDigits 10 value.natAbs else '-' :: Nat.toDigits 10 value.natAbs := by
  rw [Int.toString_eq_repr, Int.repr_eq_if]
  split
  · rename_i hpos
    rw [Nat.toList_repr]
    congr 1
    omega
  · rename_i hneg
    rw [String.toList_append, Nat.toList_repr]
    have habs : (-value).toNat = value.natAbs := by omega
    rw [habs]
    rfl

/-- The first character of a number. -/
def StartsNumber (c : Char) : Prop := c = '-' ∨ c.isDigit = true

theorem exists_toString_int_eq_cons (value : Int) :
    ∃ c rest, (toString value).toList = c :: rest ∧ StartsNumber c := by
  rw [toList_toString_int]
  split
  · obtain ⟨c, digits, hdigits⟩ := List.exists_cons_of_ne_nil (@Nat.toDigits_ne_nil value.natAbs 10)
    refine ⟨c, digits, hdigits, Or.inr ?_⟩
    exact Nat.isDigit_of_mem_toDigits (by decide) (by decide) (hdigits ▸ List.mem_cons_self)
  · exact ⟨_, _, rfl, Or.inl rfl⟩

theorem StartsNumber.ne {c other : Char} (h : StartsNumber c) (hdash : other ≠ '-') (hdigit : other.isDigit = false) :
    c ≠ other := by
  rintro rfl
  rcases h with rfl | h
  · exact hdash rfl
  · rw [hdigit] at h
    cases h

theorem integer?_toString (value : Int) {rest : List Char} (hrest : EndsNumber rest) :
    integer? ((toString value).toList ++ rest) = some (value, rest) := by
  rw [toList_toString_int]
  split
  · rename_i hpos
    have hhead : (Nat.toDigits 10 value.natAbs ++ rest).head? ≠ some '-' := by
      rw [List.head?_append_of_ne_nil _ Nat.toDigits_ne_nil]
      intro hdash
      have hdigit := Nat.isDigit_of_mem_toDigits (by decide) (by decide) (List.mem_of_mem_head? hdash)
      exact absurd hdigit (by decide)
    rw [integer?_of_head hhead, natural?_toDigits _ hrest, Option.map_some]
    dsimp only
    rw [Int.natAbs_of_nonneg hpos]
  · rename_i hneg
    rw [List.cons_append, integer?, natural?_toDigits _ hrest, Option.map_some]
    dsimp only
    congr 2
    omega

/-! ### Blanks -/

theorem skipBlanks_append {blanks : List Char} (h : ∀ c ∈ blanks, isBlank c = true) (rest : List Char) :
    skipBlanks (blanks ++ rest) = skipBlanks rest :=
  List.dropWhile_append_of_pos h

theorem skipBlanks_cons {c : Char} (h : isBlank c = false) (rest : List Char) :
    skipBlanks (c :: rest) = c :: rest := by
  rw [skipBlanks, List.dropWhile_cons_of_neg]
  exact Bool.eq_false_iff.1 h

theorem isBlank_of_mem_newLine {level : Nat} : ∀ c ∈ newLine level, isBlank c = true := by
  intro c hc
  rcases List.mem_cons.1 hc with rfl | hspaces
  · rfl
  · rw [List.eq_of_mem_replicate hspaces]
    rfl

theorem isDigit_eq_false_of_isBlank {c : Char} (h : isBlank c = true) : c.isDigit = false := by
  simp only [isBlank, Bool.or_eq_true, beq_iff_eq] at h
  rcases h with ((rfl | rfl) | rfl) | rfl <;> rfl

theorem endsNumber_append {blanks rest : List Char} (hblanks : ∀ c ∈ blanks, isBlank c = true)
    (hrest : EndsNumber rest) : EndsNumber (blanks ++ rest) := by
  cases blanks with
  | nil => exact hrest
  | cons c blanks => exact endsNumber_cons (isDigit_eq_false_of_isBlank (hblanks c List.mem_cons_self))

/-- A value starts with a character that is no blank and closes no array. -/
theorem exists_write_eq_cons (level : Nat) (value : Json) :
    ∃ c rest, write level value = c :: rest ∧ isBlank c = false ∧ c ≠ ']' := by
  cases value with
  | int value =>
    obtain ⟨c, rest, htext, hstart⟩ := exists_toString_int_eq_cons value
    refine ⟨c, rest, by rw [write, htext], ?_, hstart.ne (by decide) (by decide)⟩
    refine Bool.eq_false_iff.2 fun hblank => ?_
    rcases hstart with rfl | hdigit
    · exact absurd hblank (by decide)
    · rw [isDigit_eq_false_of_isBlank hblank] at hdigit
      cases hdigit
  | text value => exact ⟨_, _, rfl, by decide, by decide⟩
  | array items => cases items <;> exact ⟨_, _, rfl, by decide, by decide⟩
  | object members => cases members <;> exact ⟨_, _, rfl, by decide, by decide⟩

theorem skipBlanks_write (level : Nat) (value : Json) (rest : List Char) :
    skipBlanks (write level value ++ rest) = write level value ++ rest := by
  obtain ⟨c, others, hwrite, hblank, -⟩ := exists_write_eq_cons level value
  rw [hwrite, List.cons_append, skipBlanks_cons hblank]

/-! ### Values -/

theorem value?_of_startsNumber {c : Char} {rest : List Char} (h : StartsNumber c) :
    value? (c :: rest) = (integer? (c :: rest)).map fun (value, after) => (.int value, after) := by
  rw [value?]
  · rintro others ⟨⟩
    exact h.ne (by decide) (by decide) rfl
  · rintro others ⟨⟩
    exact h.ne (by decide) (by decide) rfl
  · rintro others ⟨⟩
    exact h.ne (by decide) (by decide) rfl

theorem value?_toString (value : Int) {rest : List Char} (hrest : EndsNumber rest) :
    value? ((toString value).toList ++ rest) = some (.int value, rest) := by
  obtain ⟨c, others, htext, hstart⟩ := exists_toString_int_eq_cons value
  have hread := integer?_toString value hrest
  rw [htext, List.cons_append] at hread ⊢
  rw [value?_of_startsNumber hstart, hread]
  rfl

theorem value?_array {inside : List Char} (hclose : ∀ after, skipBlanks inside ≠ ']' :: after) :
    value? ('[' :: inside) = (items? (skipBlanks inside)).map fun (items, after) => (.array items, after) := by
  rw [value?]
  split
  · rename_i after hinside
    exact absurd hinside (hclose after)
  · rfl

theorem value?_object {inside : List Char} (hclose : ∀ after, skipBlanks inside ≠ '\x7d' :: after) :
    value? ('\x7b' :: inside)
      = (members? (skipBlanks inside)).map fun (members, after) => (.object members, after) := by
  rw [value?]
  split
  · rename_i after hinside
    exact absurd hinside (hclose after)
  · rfl

/-- The item is the last one. -/
theorem items?_last {text rest after : List Char} {item : Json} (hitem : value? text = some (item, rest))
    (hrest : skipBlanks rest = ']' :: after) : items? text = some ([item], after) := by
  rw [items?, hitem]
  dsimp only
  rw [hrest]
  rfl

theorem items?_more {text rest more after : List Char} {item : Json} {items : List Json}
    (hitem : value? text = some (item, rest)) (hrest : skipBlanks rest = ',' :: more)
    (hshort : (skipBlanks more).length < text.length) (hitems : items? (skipBlanks more) = some (items, after)) :
    items? text = some (item :: items, after) := by
  rw [items?, hitem]
  dsimp only
  rw [hrest]
  change (if (skipBlanks more).length < text.length then _ else _) = _
  rw [if_pos hshort, hitems]
  rfl

/-- The member is the last one. -/
theorem members?_last {text inside rest after : List Char} {key : String} {value : Json}
    (hkey : key? text = some (key, inside)) (hshort : inside.length < text.length)
    (hvalue : value? inside = some (value, rest)) (hrest : skipBlanks rest = '\x7d' :: after) :
    members? text = some ([(key, value)], after) := by
  rw [members?, hkey]
  dsimp only
  rw [if_pos hshort, hvalue]
  dsimp only
  rw [hrest]
  rfl

theorem members?_more {text inside rest more after : List Char} {key : String} {value : Json}
    {members : List (String × Json)} (hkey : key? text = some (key, inside)) (hinside : inside.length < text.length)
    (hvalue : value? inside = some (value, rest)) (hrest : skipBlanks rest = ',' :: more)
    (hshort : (skipBlanks more).length < text.length) (hmembers : members? (skipBlanks more) = some (members, after)) :
    members? text = some ((key, value) :: members, after) := by
  rw [members?, hkey]
  dsimp only
  rw [if_pos hinside, hvalue]
  dsimp only
  rw [hrest]
  change (if (skipBlanks more).length < text.length then _ else _) = _
  rw [if_pos hshort, hmembers]
  rfl

/-- The name of a member is read up to its value. -/
theorem key?_quoted (key : String) (level : Nat) (value : Json) (rest : List Char) :
    key? (quoted key ++ (':' :: ' ' :: (write level value ++ rest))) = some (key, write level value ++ rest) := by
  have hspace : ∀ c ∈ [' '], isBlank c = true := List.forall_mem_singleton.2 rfl
  have hblank : skipBlanks (' ' :: (write level value ++ rest)) = write level value ++ rest :=
    (skipBlanks_append hspace _).trans (skipBlanks_write level value rest)
  rw [quoted, List.cons_append, List.append_assoc, List.singleton_append, key?, string?_flatMap_escapeChar,
    Option.bind_some]
  dsimp only
  rw [skipBlanks_cons (by decide)]
  change some (key, skipBlanks (' ' :: (write level value ++ rest))) = _
  rw [hblank]

theorem skipBlanks_newLine_quoted (level : Nat) (key : String) (rest : List Char) :
    skipBlanks (newLine level ++ (quoted key ++ rest)) = quoted key ++ rest := by
  rw [skipBlanks_append isBlank_of_mem_newLine, quoted, List.cons_append, skipBlanks_cons (by decide)]

theorem skipBlanks_close {blanks : List Char} (hblanks : ∀ c ∈ blanks, isBlank c = true) {close : Char}
    (hclose : isBlank close = false) (rest : List Char) : skipBlanks (blanks ++ close :: rest) = close :: rest := by
  rw [skipBlanks_append hblanks, skipBlanks_cons hclose]

mutual

theorem value?_write (level : Nat) (value : Json) {rest : List Char} (hrest : EndsNumber rest) :
    value? (write level value ++ rest) = some (value, rest) := by
  cases value with
  | int value =>
    rw [write]
    exact value?_toString value hrest
  | text value =>
    rw [write, quoted, List.cons_append, List.append_assoc, List.singleton_append, value?,
      string?_flatMap_escapeChar]
    rfl
  | array items =>
    cases items with
    | nil =>
      rw [write, List.cons_append, List.singleton_append, value?, skipBlanks_cons (by decide)]
      rfl
    | cons item items =>
      have hinside : skipBlanks (newLine (level + 1) ++ (write (level + 1) item
          ++ (writeItems (level + 1) items ++ (newLine level ++ ']' :: rest))))
          = write (level + 1) item ++ (writeItems (level + 1) items ++ (newLine level ++ ']' :: rest)) := by
        rw [skipBlanks_append isBlank_of_mem_newLine, skipBlanks_write]
      obtain ⟨c, others, hitem, -, hclose⟩ := exists_write_eq_cons (level + 1) item
      simp only [write, List.cons_append, List.append_assoc, List.nil_append]
      rw [value?_array, hinside, items?_write (level + 1) item items isBlank_of_mem_newLine]
      · rfl
      · rw [hinside, hitem]
        rintro after ⟨⟩
        exact hclose rfl
  | object members =>
    cases members with
    | nil =>
      rw [write, List.cons_append, List.singleton_append, value?, skipBlanks_cons (by decide)]
      rfl
    | cons member members =>
      obtain ⟨key, value⟩ := member
      have hinside : skipBlanks (newLine (level + 1) ++ (quoted key ++ (':' :: ' ' :: (write (level + 1) value
          ++ (writeMembers (level + 1) members ++ (newLine level ++ '\x7d' :: rest))))))
          = quoted key ++ (':' :: ' ' :: (write (level + 1) value
            ++ (writeMembers (level + 1) members ++ (newLine level ++ '\x7d' :: rest)))) :=
        skipBlanks_newLine_quoted (level + 1) key _
      simp only [write, List.cons_append, List.append_assoc, List.nil_append]
      rw [value?_object, hinside, members?_write (level + 1) key value members isBlank_of_mem_newLine]
      · rfl
      · rw [hinside]
        rintro after ⟨⟩
termination_by sizeOf value
decreasing_by
  all_goals
    simp only [Json.array.sizeOf_spec, Json.object.sizeOf_spec, List.cons.sizeOf_spec, Prod.mk.sizeOf_spec]
    omega

theorem items?_write (level : Nat) (item : Json) (items : List Json) {blanks rest : List Char}
    (hblanks : ∀ c ∈ blanks, isBlank c = true) :
    items? (write level item ++ (writeItems level items ++ (blanks ++ ']' :: rest)))
      = some (item :: items, rest) := by
  cases items with
  | nil =>
    rw [writeItems, List.nil_append]
    exact items?_last (value?_write level item (endsNumber_append hblanks (endsNumber_cons (by decide))))
      (skipBlanks_close hblanks (by decide) rest)
  | cons next items =>
    have hmore : skipBlanks (newLine level ++ (write level next ++ (writeItems level items ++ (blanks ++ ']' :: rest))))
        = write level next ++ (writeItems level items ++ (blanks ++ ']' :: rest)) := by
      rw [skipBlanks_append isBlank_of_mem_newLine, skipBlanks_write]
    simp only [writeItems, List.cons_append, List.append_assoc]
    refine items?_more (value?_write level item (endsNumber_cons (by decide))) (skipBlanks_cons (by decide) _) ?_ ?_
    · rw [hmore]
      simp only [List.length_append, List.length_cons]
      omega
    · rw [hmore]
      exact items?_write level next items hblanks
termination_by sizeOf item + sizeOf items
decreasing_by
  all_goals
    simp only [List.cons.sizeOf_spec, List.nil.sizeOf_spec]
    omega

theorem members?_write (level : Nat) (key : String) (value : Json) (members : List (String × Json))
    {blanks rest : List Char} (hblanks : ∀ c ∈ blanks, isBlank c = true) :
    members? (quoted key ++ (':' :: ' ' :: (write level value ++ (writeMembers level members
      ++ (blanks ++ '\x7d' :: rest))))) = some ((key, value) :: members, rest) := by
  have hkey := key?_quoted key level value (writeMembers level members ++ (blanks ++ '\x7d' :: rest))
  have hshort {text : List Char} : text.length < (quoted key ++ (':' :: ' ' :: text)).length := by
    simp only [List.length_append, List.length_cons]
    omega
  cases members with
  | nil =>
    rw [writeMembers, List.nil_append] at hkey ⊢
    exact members?_last hkey hshort
      (value?_write level value (endsNumber_append hblanks (endsNumber_cons (by decide))))
      (skipBlanks_close hblanks (by decide) rest)
  | cons member members =>
    obtain ⟨other, next⟩ := member
    have hmore := skipBlanks_newLine_quoted level other
      (':' :: ' ' :: (write level next ++ (writeMembers level members ++ (blanks ++ '\x7d' :: rest))))
    simp only [writeMembers, List.cons_append, List.append_assoc, List.nil_append] at hkey ⊢
    refine members?_more hkey hshort (value?_write level value (endsNumber_cons (by decide)))
      (skipBlanks_cons (by decide) _) ?_ ?_
    · rw [hmore]
      simp only [List.length_append, List.length_cons]
      omega
    · rw [hmore]
      exact members?_write level other next members hblanks
termination_by sizeOf value + sizeOf members
decreasing_by
  all_goals
    simp only [List.cons.sizeOf_spec, List.nil.sizeOf_spec, Prod.mk.sizeOf_spec]
    omega

end

theorem read?_pretty (value : Json) : read? value.pretty = some value := by
  have hread := value?_write 0 value endsNumber_nil
  have hskip := skipBlanks_write 0 value []
  rw [List.append_nil] at hread hskip
  rw [read?, pretty, String.toList_ofList, hskip, hread]
  rfl

end UseSites.Json
