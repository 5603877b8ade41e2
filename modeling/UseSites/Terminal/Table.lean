import UseSites.Terminal.Layout
/-!
# Tables of counts

A `Table` has a title, two headers and rows of a name and a count. `Table.render` draws it with names
to the left and counts to the right, as narrow as the entries allow. The title stands in the middle
above the box and takes several lines when it is wider than the box. A terminal without box characters
gets the box in ASCII.
-/

namespace UseSites.Terminal

structure Table where
  title : String
  nameHeader : String
  countHeader : String
  rows : List (String × Int)
  deriving Inhabited

/-- The characters of a box: for each horizontal rule its left end, line, joint and right end, and the
bars of the header and of the other rows. -/
structure Box where
  top : Char × Char × Char × Char
  rule : Char × Char × Char × Char
  bottom : Char × Char × Char × Char
  headerBar : Char
  bar : Char

def Box.heavyHead : Box where
  top := ('┏', '━', '┳', '┓')
  rule := ('┡', '━', '╇', '┩')
  bottom := ('└', '─', '┴', '┘')
  headerBar := '┃'
  bar := '│'

def Box.ascii : Box where
  top := ('+', '-', '-', '+')
  rule := ('|', '-', '+', '|')
  bottom := ('+', '-', '-', '+')
  headerBar := '|'
  bar := '|'

/-- Box characters are at hand in the encodings whose name starts with `utf`. -/
def Box.forEncoding (encoding : String) : Box :=
  if "utf".toList.isPrefixOf encoding.toList then Box.heavyHead else Box.ascii

namespace Table

def nameWidth (table : Table) : Nat :=
  ((table.nameHeader :: table.rows.map (·.1)).map fun text => cells text.toList).foldl max 0

def countWidth (table : Table) : Nat :=
  ((table.countHeader :: table.rows.map fun row => toString row.2).map fun text => cells text.toList).foldl
    max 0

def rule (table : Table) (parts : Char × Char × Char × Char) : List Char :=
  let (left, line, joint, right) := parts
  left :: (List.replicate (table.nameWidth + 2) line ++ joint ::
    List.replicate (table.countWidth + 2) line ++ [right])

def row (table : Table) (bar : Char) (name count : String) : List Char :=
  bar :: ' ' :: (padRight table.nameWidth name.toList ++ [' ', bar, ' ']
    ++ padLeft table.countWidth count.toList ++ [' ', bar])

def width (table : Table) : Nat := table.nameWidth + table.countWidth + 7

def lines (table : Table) (box : Box) : List (List Char) :=
  (wrapped table.width table.title.toList).map (centred table.width)
    ++ [table.rule box.top, table.row box.headerBar table.nameHeader table.countHeader, table.rule box.rule]
    ++ table.rows.map (fun (name, count) => table.row box.bar name (toString count))
    ++ [table.rule box.bottom]

def render (table : Table) (box : Box) : String :=
  String.ofList ((table.lines box).flatMap fun line => line ++ ['\n'])

end Table

end UseSites.Terminal
