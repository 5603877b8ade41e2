import UseSites.Text.Lines
/-!
# Excerpts

An excerpt shows a line between its neighbours, every line numbered and the one asked for marked. The
range of the excerpt is cut to the lines there are; when nothing of it is left, the nearest line
stands alone and unmarked.
-/

namespace UseSites

/-- How many lines an excerpt shows before and after the marked line. Negative counts mean none. -/
structure Window where
  before : Int := 1
  after : Int := 1
  deriving DecidableEq, Inhabited, Repr

namespace Excerpt

/-- The first and last line number shown around `line` in a text of `count` lines. -/
def range (window : Window) (count line : Int) : Int × Int :=
  let first := max 1 (line - max 0 window.before)
  let last := min count (line + max 0 window.after)
  if first > last then
    let nearest := max 1 (min line count)
    (nearest, nearest)
  else (first, last)

def padded (width : Nat) (number : Int) : String :=
  let digits := toString number
  String.ofList (List.replicate (width - digits.length) ' ') ++ digits

def row (width : Nat) (line number : Int) (text : String) : String :=
  (if number = line then ">" else " ") ++ " " ++ padded width number ++ ": " ++ text

def numbers (window : Window) (count line : Int) : List Int :=
  let (first, last) := range window count line
  (List.range (last - first + 1).toNat).map fun (i : Nat) => first + i

def rows (window : Window) (lines : List String) (line : Int) : List String :=
  let shown := numbers window lines.length line
  let width := (toString (range window lines.length line).2).length
  let texts := (lines.drop ((range window lines.length line).1 - 1).toNat).take shown.length
  (shown.zip texts).map fun (number, text) => row width line number text

def render (window : Window) (lines : List String) (line : Int) : String :=
  if lines.isEmpty then "" else "\n".intercalate (rows window lines line)

def ofText (window : Window) (text : String) (line : Int) : String :=
  render window (Text.splitLines text) line

end Excerpt

end UseSites
