import Mathlib.Data.List.Infix
import UseSites.Terminal.Icons
/-!
# Icons on terminals without UTF-8

The icons of the table are replaced one after the other, so a later pass reads what the earlier ones wrote. It finds
nothing there: an image is ASCII and no icon begins with an ASCII character. An icon of several characters begins with
one that has been replaced already, so its pass finds nothing at all. Both are conditions on the rows of the table
(`Fits`), and under them the passes together replace each character by itself (`foldl_replaceAll`).

The last condition is also what is wrong with the table: the warning sign with a variation selector is never found as
one icon, and the selector stays.
-/

namespace UseSites.Terminal

def IsAscii (c : Char) : Prop := c.toNat < 128

instance (c : Char) : Decidable (IsAscii c) := inferInstanceAs (Decidable (_ < _))

def IsAsciiText (text : List Char) : Prop := ∀ c ∈ text, IsAscii c

-- Not by way of all characters, which are finitely many too.
instance (text : List Char) : Decidable (IsAsciiText text) := List.decidableBAll _ text

/-! ### One pass -/

theorem replaceAll_singleton (icon : Char) (image text : List Char) :
    replaceAll [icon] image text = text.flatMap fun c => if c = icon then image else [c] := by
  rw [replaceAll]
  induction text with
  | nil => rfl
  | cons c rest ih =>
    rw [replaceFrom, List.flatMap_cons]
    by_cases hicon : c = icon
    · simp [hicon, ih]
    · simp [hicon, Ne.symm hicon, ih]

theorem replaceAll_of_notMem {first : Char} (more image : List Char) {text : List Char} (habsent : first ∉ text) :
    replaceAll (first :: more) image text = text := by
  rw [replaceAll]
  induction text with
  | nil => rfl
  | cons c rest ih =>
    rw [List.mem_cons, not_or] at habsent
    obtain ⟨hfirst, hrest⟩ := habsent
    simp [replaceFrom, hfirst, ih hrest]

/-! ### The passes of a table -/

section Table

variable {table : List (List Char × List Char)}

def imageIn (table : List (List Char × List Char)) (c : Char) : List Char := (table.lookup [c]).getD [c]

/-- Whether a row can come after the rows of a table: its pass finds an icon only where the text had it. -/
def Fits (table : List (List Char × List Char)) (row : List Char × List Char) : Prop :=
  IsAsciiText row.2 ∧
    match row.1 with
    | [] => False
    | [icon] => ¬IsAscii icon
    | first :: _ => ¬IsAscii first ∧ (table.lookup [first]).isSome

instance : (row : List Char × List Char) → Decidable (Fits table row)
  | ([], _) => inferInstanceAs (Decidable (_ ∧ False))
  | ([_], _) => inferInstanceAs (Decidable (_ ∧ ¬_))
  | (_ :: _ :: _, _) => inferInstanceAs (Decidable (_ ∧ _ ∧ _))

/-- Whether each of these rows can come after the rows before it. -/
def FitAfter (table : List (List Char × List Char)) : List (List Char × List Char) → Prop
  | [] => True
  | row :: rest => Fits table row ∧ FitAfter (table ++ [row]) rest

instance instDecidableFitAfter (table : List (List Char × List Char)) :
    (rows : List (List Char × List Char)) → Decidable (FitAfter table rows)
  | [] => .isTrue trivial
  | _ :: rest => @instDecidableAnd _ _ inferInstance (instDecidableFitAfter _ rest)

theorem imageIn_of_lookup_none {c : Char} (hrow : table.lookup [c] = none) : imageIn table c = [c] := by
  rw [imageIn, hrow, Option.getD_none]

theorem imageIn_nil (c : Char) : imageIn [] c = [c] := imageIn_of_lookup_none rfl

theorem isAscii_of_mem_imageIn {c d : Char} (himages : ∀ row ∈ table, IsAsciiText row.2)
    (hrow : (table.lookup [c]).isSome) (hd : d ∈ imageIn table c) : IsAscii d := by
  obtain ⟨image, hlookup⟩ := Option.isSome_iff_exists.1 hrow
  obtain ⟨before, after, rfl, -⟩ := List.lookup_eq_some_iff.1 hlookup
  rw [imageIn, hlookup, Option.getD_some] at hd
  exact himages ([c], image) (List.mem_append_right before List.mem_cons_self) d hd

/-- A row that fits finds the icons of the text and nothing else. -/
theorem replaceAll_flatMap_imageIn {row : List Char × List Char}
    (himages : ∀ row ∈ table, IsAsciiText row.2) (hfits : Fits table row) (text : List Char) :
    replaceAll row.1 row.2 (text.flatMap (imageIn table)) = text.flatMap (imageIn (table ++ [row])) := by
  obtain ⟨icon, image⟩ := row
  obtain ⟨-, hicon⟩ := hfits
  match icon, hicon with
  | [icon], hicon =>
    -- what stands for a character now is the character itself or an image, and an image has no icon in it
    rw [replaceAll_singleton, List.flatMap_assoc]
    refine List.flatMap_congr fun c _ => ?_
    cases hrow : table.lookup [c] with
    | none =>
      rw [imageIn_of_lookup_none hrow, List.flatMap_singleton, imageIn, List.lookup_append, hrow]
      by_cases hc : c = icon
      · simp [hc]
      · simp [hc, List.lookup_cons, beq_false_of_ne hc]
    | some old =>
      have hold : ∀ d ∈ old, (if d = icon then image else [d]) = [d] := by
        intro d hd
        have hascii := isAscii_of_mem_imageIn himages (Option.isSome_of_eq_some hrow)
          (show d ∈ imageIn table c by rwa [imageIn, hrow, Option.getD_some])
        refine if_neg ?_
        rintro rfl
        exact hicon hascii
      rw [imageIn, imageIn, List.lookup_append, hrow, Option.some_or, Option.getD_some, List.flatMap_congr hold,
        List.flatMap_singleton']
  | first :: second :: more, ⟨hfirst, hearlier⟩ =>
    -- the first character has a row of its own, so none is left
    have hsame : imageIn (table ++ [(first :: second :: more, image)]) = imageIn table := by
      funext c
      rw [imageIn, imageIn, List.lookup_append]
      simp [List.lookup_cons]
    rw [hsame]
    refine replaceAll_of_notMem _ _ fun hmem => ?_
    obtain ⟨c, -, hc⟩ := List.mem_flatMap.1 hmem
    cases hrow : table.lookup [c] with
    | none =>
      rw [imageIn_of_lookup_none hrow, List.mem_singleton] at hc
      rw [hc, hrow] at hearlier
      cases hearlier
    | some old => exact hfirst (isAscii_of_mem_imageIn himages (Option.isSome_of_eq_some hrow) hc)

/-- The passes together replace each character of the text by itself. -/
theorem foldl_replaceAll {rows : List (List Char × List Char)} (himages : ∀ row ∈ table, IsAsciiText row.2)
    (hfit : FitAfter table rows) (text : List Char) :
    rows.foldl (fun text row => replaceAll row.1 row.2 text) (text.flatMap (imageIn table))
      = text.flatMap (imageIn (table ++ rows)) := by
  induction rows generalizing table with
  | nil => rw [List.foldl_nil, List.append_nil]
  | cons row rest ih =>
    obtain ⟨hrow, hrest⟩ := hfit
    have himages' : ∀ other ∈ table ++ [row], IsAsciiText other.2 := by
      intro other hother
      rcases List.mem_append.1 hother with hold | hnew
      · exact himages other hold
      · rw [List.mem_singleton.1 hnew]
        exact hrow.1
    rw [List.foldl_cons, replaceAll_flatMap_imageIn himages hrow, ih himages' hrest, List.append_assoc,
      List.singleton_append]

end Table

/-! ### The icons -/

theorem isAsciiText_of_mem_iconTable : ∀ row ∈ iconTable, IsAsciiText row.2 := by decide

def iconImage (c : Char) : List Char := imageIn iconTable c

theorem asciiIcons_eq (text : List Char) : asciiIcons text = text.flatMap iconImage := by
  have hfit : FitAfter [] iconTable := by decide
  have hpasses := foldl_replaceAll (by simp) hfit text
  rwa [List.flatMap_congr fun c _ => imageIn_nil c, List.flatMap_singleton'] at hpasses

theorem not_isAscii_of_mem_iconTable {icon : Char} {more image : List Char}
    (hrow : (icon :: more, image) ∈ iconTable) : ¬IsAscii icon := by
  have hicons : ∀ row ∈ iconTable, row.1.head?.all (fun icon => !decide (IsAscii icon)) = true := by decide
  simpa using hicons _ hrow

theorem lookup_of_isAscii {c : Char} (hascii : IsAscii c) : iconTable.lookup [c] = none := by
  refine List.lookup_eq_none_iff.2 fun row hrow => bne_iff_ne.2 ?_
  intro heq
  have hicon : ([c], row.2) ∈ iconTable := by
    rw [heq]
    exact hrow
  exact not_isAscii_of_mem_iconTable hicon hascii

theorem iconImage_of_isAscii {c : Char} (hascii : IsAscii c) : iconImage c = [c] :=
  imageIn_of_lookup_none (lookup_of_isAscii hascii)

theorem flatMap_iconImage_of_isAsciiText {text : List Char} (hascii : IsAsciiText text) :
    text.flatMap iconImage = text := by
  rw [List.flatMap_congr fun c hc => iconImage_of_isAscii (hascii c hc), List.flatMap_singleton']

theorem iconImage_cases (c : Char) :
    ((iconTable.lookup [c]).isSome ∧ IsAsciiText (iconImage c)) ∨ iconTable.lookup [c] = none ∧ iconImage c = [c] := by
  cases hrow : iconTable.lookup [c] with
  | none => exact .inr ⟨rfl, imageIn_of_lookup_none hrow⟩
  | some image =>
    have hsome := Option.isSome_of_eq_some hrow
    exact .inl ⟨rfl, fun d hd => isAscii_of_mem_imageIn isAsciiText_of_mem_iconTable hsome hd⟩

theorem flatMap_iconImage_iconImage (c : Char) : (iconImage c).flatMap iconImage = iconImage c := by
  rcases iconImage_cases c with ⟨-, hascii⟩ | ⟨-, himage⟩
  · exact flatMap_iconImage_of_isAsciiText hascii
  · rw [himage, List.flatMap_singleton, himage]

theorem notMem_iconImage {icon : Char} {image : List Char} (hrow : ([icon], image) ∈ iconTable) (c : Char) :
    icon ∉ iconImage c := by
  intro hmem
  rcases iconImage_cases c with ⟨-, hascii⟩ | ⟨hnone, himage⟩
  · exact not_isAscii_of_mem_iconTable hrow (hascii icon hmem)
  · rw [himage, List.mem_singleton] at hmem
    subst hmem
    have := List.lookup_eq_none_iff.1 hnone _ hrow
    simp at this

/-! ### Messages of ASCII characters and icons -/

/-- A part of a message: an ASCII character, or an icon. -/
inductive Stretch
  | plain (c : Char) (hascii : IsAscii c)
  | icon (row : List Char × List Char) (hrow : row ∈ iconTable)

namespace Stretch

def text : Stretch → List Char
  | plain c _ => [c]
  | icon row _ => row.1

def image : Stretch → List Char
  | plain c _ => [c]
  | icon row _ => row.2

def message (stretches : List Stretch) : String := String.ofList (stretches.flatMap text)

def selectedWarning : List Char := ['⚠', '\ufe0f']

/-- What an icon leaves behind its image. -/
def remainder (stretch : Stretch) : List Char := if stretch.text = selectedWarning then ['\ufe0f'] else []

theorem flatMap_iconImage_text (stretch : Stretch) :
    stretch.text.flatMap iconImage = stretch.image ++ stretch.remainder := by
  cases stretch with
  | plain c hascii =>
    have hsign : c ≠ '⚠' := by
      rintro rfl
      revert hascii
      decide
    simp [text, image, remainder, selectedWarning, hsign, iconImage_of_isAscii hascii]
  | icon row hrow =>
    have hrows : ∀ row ∈ iconTable,
        row.1.flatMap iconImage = row.2 ++ if row.1 = selectedWarning then ['\ufe0f'] else [] := by decide
    exact hrows row hrow

theorem isAsciiText_image (stretch : Stretch) : IsAsciiText stretch.image := by
  cases stretch with
  | plain c hascii =>
    intro d hd
    rwa [List.mem_singleton.1 hd]
  | icon row hrow => exact isAsciiText_of_mem_iconTable row hrow

theorem remainder_eq_nil_iff {stretch : Stretch} : stretch.remainder = [] ↔ stretch.text ≠ selectedWarning := by
  rw [remainder]
  split <;> simp [*]

/-- No part of a message begins with a variation selector. -/
theorem text_eq_cons (stretch : Stretch) : ∃ first more, stretch.text = first :: more ∧ first ≠ '\ufe0f' := by
  cases stretch with
  | plain c hascii =>
    refine ⟨c, [], rfl, ?_⟩
    rintro rfl
    revert hascii
    decide
  | icon row hrow =>
    have hrows : ∀ row ∈ iconTable, row.1 ≠ [] ∧ row.1.head? ≠ some '\ufe0f' := by decide
    obtain ⟨hicon, hfirst⟩ := hrows row hrow
    obtain ⟨first, more, hcons⟩ := List.exists_cons_of_ne_nil hicon
    refine ⟨first, more, hcons, ?_⟩
    rintro rfl
    exact hfirst (by rw [hcons, List.head?_cons])

/-- No icon of the table goes on where a part of the message ends. -/
theorem beginning_of_text {row : List Char × List Char} (hrow : row ∈ iconTable) {stretch : Stretch}
    {after : List Stretch} (hbegins : row.1 <+: stretch.text ++ after.flatMap text) : row.1 <+: stretch.text := by
  have hrows : ∀ row ∈ iconTable, row.1.length = 1 ∨ row.1 = selectedWarning := by decide
  obtain ⟨first, more, htext, -⟩ := stretch.text_eq_cons
  -- an icon that is longer than the part begins with all of it, and then goes on with the next part
  by_cases hlength : row.1.length ≤ stretch.text.length
  · exact List.prefix_of_prefix_length_le hbegins (List.prefix_append _ _) hlength
  · rw [htext, List.length_cons] at hlength
    rcases hrows row hrow with hone | hselected
    · omega
    · rw [hselected, selectedWarning, List.length_cons, List.length_singleton] at hlength
      obtain rfl : more = [] := List.length_eq_zero_iff.1 (by omega)
      rw [hselected, htext, selectedWarning, List.singleton_append, List.cons_prefix_cons] at hbegins
      obtain ⟨-, rest, hrest⟩ := hbegins
      cases after with
      | nil => cases hrest
      | cons next after =>
        obtain ⟨c, others, hnext, hc⟩ := next.text_eq_cons
        rw [List.flatMap_cons, hnext] at hrest
        exact absurd (List.cons.inj hrest).1.symm hc

end Stretch

section Messages

variable {name preferred : Option String} {text : String}

theorem toList_safeText (hlegacy : understandsUtf8 name preferred = false) :
    (safeText name text preferred).toList = text.toList.flatMap iconImage := by
  rw [safeText, hlegacy, if_neg Bool.false_ne_true, String.toList_ofList, asciiIcons_eq]

theorem toList_safeText_message (hlegacy : understandsUtf8 name preferred = false) (stretches : List Stretch) :
    (safeText name (Stretch.message stretches) preferred).toList
      = stretches.flatMap fun stretch => stretch.image ++ stretch.remainder := by
  rw [toList_safeText hlegacy, Stretch.message, String.toList_ofList, List.flatMap_assoc]
  exact List.flatMap_congr fun stretch _ => stretch.flatMap_iconImage_text

/-- A message of ASCII characters and icons, each of them the longest icon of the table at its place, is shown as the
images, and this is ASCII, exactly if no icon is the warning sign with a variation selector: its selector stays. -/
theorem safeText_of_icons (hlegacy : understandsUtf8 name preferred = false) (stretches : List Stretch) :
    (safeText name (Stretch.message stretches) preferred).toList
        = stretches.flatMap (fun stretch => stretch.image ++ stretch.remainder)
      ∧ ((safeText name (Stretch.message stretches) preferred).toList = stretches.flatMap Stretch.image
          ↔ ∀ stretch ∈ stretches, stretch.text ≠ Stretch.selectedWarning)
      ∧ (IsAsciiText (safeText name (Stretch.message stretches) preferred).toList
          ↔ ∀ stretch ∈ stretches, stretch.text ≠ Stretch.selectedWarning)
      ∧ ∀ before stretch after, stretches = before ++ stretch :: after →
          ∀ row ∈ iconTable, row.1 <+: stretch.text ++ after.flatMap Stretch.text → row.1 <+: stretch.text := by
  rw [toList_safeText_message hlegacy]
  have himages : (∀ stretch ∈ stretches, stretch.text ≠ Stretch.selectedWarning) →
      stretches.flatMap (fun stretch => stretch.image ++ stretch.remainder) = stretches.flatMap Stretch.image := by
    intro hnone
    refine List.flatMap_congr fun stretch hstretch => ?_
    rw [Stretch.remainder_eq_nil_iff.2 (hnone stretch hstretch), List.append_nil]
  have hascii : IsAsciiText (stretches.flatMap Stretch.image) := by
    intro c hc
    obtain ⟨stretch, -, hmem⟩ := List.mem_flatMap.1 hc
    exact stretch.isAsciiText_image c hmem
  have hselector : IsAsciiText (stretches.flatMap fun stretch => stretch.image ++ stretch.remainder) →
      ∀ stretch ∈ stretches, stretch.text ≠ Stretch.selectedWarning := by
    intro hall stretch hstretch hselected
    have hremainder : '\ufe0f' ∈ stretch.remainder := by
      rw [Stretch.remainder, if_pos hselected]
      exact List.mem_cons_self
    have hselector := hall _ (List.mem_flatMap.2 ⟨stretch, hstretch, List.mem_append_right _ hremainder⟩)
    revert hselector
    decide
  exact ⟨rfl, ⟨fun heq => hselector (heq ▸ hascii), himages⟩, ⟨hselector, fun hnone => himages hnone ▸ hascii⟩,
    fun _ _ _ _ _ hrow hbegins => Stretch.beginning_of_text hrow hbegins⟩

theorem safeText_foundAndSkipped :
    understandsUtf8 (some "cp1252") = false
      ∧ (safeText (some "cp1252") "✓ 🔍a⚠⚠\ufe0f").toList = "[OK] [search]a[WARN][WARN]\ufe0f".toList
      ∧ ¬IsAsciiText (safeText (some "cp1252") "✓ 🔍a⚠⚠\ufe0f").toList := by
  let stretches : List Stretch :=
    [.icon (['✓'], "[OK]".toList) (by decide), .plain ' ' (by decide), .icon (['🔍'], "[search]".toList) (by decide),
      .plain 'a' (by decide), .icon (['⚠'], "[WARN]".toList) (by decide),
      .icon (['⚠', '\ufe0f'], "[WARN]".toList) (by decide)]
  have hlegacy : understandsUtf8 (some "cp1252") = false := by decide
  obtain ⟨hshown, -, hascii, -⟩ := safeText_of_icons hlegacy stretches
  refine ⟨hlegacy, hshown, fun hall => ?_⟩
  exact hascii.1 hall (.icon (['⚠', '\ufe0f'], "[WARN]".toList) (by decide)) (by simp [stretches]) rfl

/-- The warning sign with a variation selector is an icon of the table and not shown as its image. -/
theorem safeText_selectedWarning :
    understandsUtf8 (some "cp1252") = false ∧ ("⚠\ufe0f".toList, "[WARN]".toList) ∈ iconTable
      ∧ safeText (some "cp1252") "⚠\ufe0f" = "[WARN]\ufe0f" ∧ ¬IsAsciiText "[WARN]\ufe0f".toList := by
  decide

/-- A terminal without UTF-8 gets each single icon as its image and any other character as it is. So it makes no
difference whether a message is written in pieces or as a whole, or whether it is made safe once or twice. -/
theorem safeText_by_characters (hlegacy : understandsUtf8 name preferred = false) (first second : String) :
    (safeText name first preferred).toList = first.toList.flatMap (fun c => (iconTable.lookup [c]).getD [c])
      ∧ safeText name (first ++ second) preferred = safeText name first preferred ++ safeText name second preferred
      ∧ safeText name (safeText name first preferred) preferred = safeText name first preferred
      ∧ (∀ icon image, ([icon], image) ∈ iconTable → icon ∉ (safeText name first preferred).toList)
      ∧ (IsAsciiText first.toList → safeText name first preferred = first) := by
  refine ⟨toList_safeText hlegacy, ?pieces, ?twice, ?single, ?ascii⟩
  case pieces =>
    apply String.toList_inj.1
    rw [String.toList_append, toList_safeText hlegacy, toList_safeText hlegacy, toList_safeText hlegacy,
      String.toList_append, List.flatMap_append]
  case twice =>
    apply String.toList_inj.1
    rw [toList_safeText hlegacy, toList_safeText hlegacy, List.flatMap_assoc]
    exact List.flatMap_congr fun c _ => flatMap_iconImage_iconImage c
  case single =>
    intro icon image hrow hmem
    rw [toList_safeText hlegacy] at hmem
    obtain ⟨c, -, hc⟩ := List.mem_flatMap.1 hmem
    exact notMem_iconImage hrow c hc
  case ascii =>
    intro hascii
    apply String.toList_inj.1
    rw [toList_safeText hlegacy, flatMap_iconImage_of_isAsciiText hascii]

/-- A message cut between a warning sign and its selector, on a terminal with a code page of its own. -/
theorem safeText_cutInIcon :
    understandsUtf8 (some "cp850") = false
      ∧ (safeText (some "cp850") "é→⚠").toList = "é->[WARN]".toList
      ∧ safeText (some "cp850") ("é→⚠" ++ "\ufe0f") = safeText (some "cp850") "é→⚠" ++ safeText (some "cp850") "\ufe0f"
      ∧ safeText (some "cp850") (safeText (some "cp850") "é→⚠") = safeText (some "cp850") "é→⚠"
      ∧ '⚠' ∉ (safeText (some "cp850") "é→⚠").toList := by
  have hlegacy : understandsUtf8 (some "cp850") = false := by decide
  obtain ⟨hshown, hpieces, htwice, hsingle, -⟩ := safeText_by_characters hlegacy "é→⚠" "\ufe0f"
  exact ⟨hlegacy, hshown, hpieces, htwice, hsingle '⚠' "[WARN]".toList (by decide)⟩

end Messages

end UseSites.Terminal
