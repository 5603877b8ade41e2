import UseSites.Text.LowerCase
import UseSites.Terminal.CellTable
/-!
# Text in cells

A terminal line is a row of cells. `padRight`, `padLeft` and `centred` fill a text up to a width, and
`wrapped` breaks a text between words so that every line fits, cutting a word only when it is wider
than a whole line.
-/

namespace UseSites.Terminal

def cellWidth (c : Char) : Nat :=
  if c.toNat < 32 then 0
  else if c.toNat < 0x300 then 1
  else if Text.inRanges CellTable.zero c.toNat then 0
  else if Text.inRanges CellTable.wide c.toNat then 2
  else 1

def cells (text : List Char) : Nat := text.foldl (fun total c => total + cellWidth c) 0

def blanks (count : Nat) : List Char := List.replicate count ' '

def padRight (width : Nat) (text : List Char) : List Char := text ++ blanks (width - cells text)

def padLeft (width : Nat) (text : List Char) : List Char := blanks (width - cells text) ++ text

/-- In the middle of a line, one cell further left when it does not come out even. -/
def centred (width : Nat) (text : List Char) : List Char :=
  padRight width (blanks ((width - cells text) / 2) ++ text)

def words : List Char → List (List Char)
  | [] => []
  | c :: rest =>
    match words rest with
    | [] => [[c]]
    | word :: others =>
      if c == ' ' && word.head? != some ' ' then [c] :: word :: others
      else (c :: word) :: others

/-- Words with their blanks behind them: a piece of blanks joins the word before it. -/
def withBlanks : List (List Char) → List (List Char)
  | [] => []
  | word :: rest =>
    match withBlanks rest with
    | [] => [word]
    | next :: others =>
      if next.head? == some ' ' && word.head? != some ' ' then (word ++ next) :: others
      else word :: next :: others

def withoutFinalBlanks (text : List Char) : List Char := (text.reverse.dropWhile (· == ' ')).reverse

def cut (width : Nat) : List Char → List (List Char)
  | [] => []
  | c :: rest =>
    match cut width rest with
    | [] => [[c]]
    | piece :: others =>
      if cellWidth c + cells piece ≤ width then (c :: piece) :: others else [c] :: piece :: others

/-- Adds a word to the lines so far, the last line first. -/
def addWord (width : Nat) (lines : List (List Char)) (word : List Char) : List (List Char) :=
  let needed := cells (withoutFinalBlanks word)
  match lines with
  | [] => if needed ≤ width then [word] else (cut width word).reverse
  | line :: others =>
    if cells line + needed ≤ width then (line ++ word) :: others
    else if needed ≤ width then word :: line :: others
    else (cut width word).reverse ++ line :: others

def wrapped (width : Nat) (text : List Char) : List (List Char) :=
  match ((withBlanks (words text)).foldl (addWord width) []).reverse with
  | [] => [[]]
  | lines => lines.map withoutFinalBlanks

end UseSites.Terminal
