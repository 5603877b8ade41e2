/-!
# Lines of a text

A line ends at a line feed and nowhere else, so that the numbers agree with the rows of a concrete
tree. A carriage return before the line feed belongs to the line end. `pieces` cuts a text at every
occurrence of one character and loses nothing else: `joined_pieces`.
-/

namespace UseSites.Text

/-- The stretches between the occurrences of a character; there is always at least one. -/
def pieces (mark : Char) : List Char → List (List Char)
  | [] => [[]]
  | c :: rest =>
    if c = mark then [] :: pieces mark rest
    else
      match pieces mark rest with
      | [] => [[c]]
      | piece :: others => (c :: piece) :: others

def joined (mark : Char) : List (List Char) → List Char
  | [] => []
  | [piece] => piece
  | piece :: others => piece ++ mark :: joined mark others

theorem pieces_ne_nil (mark : Char) (text : List Char) : pieces mark text ≠ [] := by
  cases text with
  | nil => simp [pieces]
  | cons c rest =>
    simp only [pieces]
    split
    · simp
    · split <;> simp

theorem joined_pieces (mark : Char) (text : List Char) : joined mark (pieces mark text) = text := by
  induction text with
  | nil => rfl
  | cons c rest ih =>
    simp only [pieces]
    split
    · rename_i h
      cases hp : pieces mark rest with
      | nil => exact absurd hp (pieces_ne_nil mark rest)
      | cons piece others => rw [hp] at ih; simp [joined, ih, h]
    · cases hp : pieces mark rest with
      | nil => exact absurd hp (pieces_ne_nil mark rest)
      | cons piece others =>
        rw [hp] at ih
        cases others <;> simp_all [joined]

def withoutReturn (line : List Char) : List Char :=
  if line.getLast? = some '\r' then line.dropLast else line

/-- Leaves out an empty last line after at least one other: a final line feed starts no new line. -/
def withoutTrailingEmpty (lines : List (List Char)) : List (List Char) :=
  if lines.length > 1 ∧ lines.getLast? = some [] then lines.dropLast else lines

def splitLines (text : String) : List String :=
  (withoutTrailingEmpty (pieces '\n' text.toList)).map fun line => String.ofList (withoutReturn line)

end UseSites.Text
