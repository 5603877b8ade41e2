import UseSites.Text.LowerCase
/-!
# Icons on terminals

Messages use a few icons. A terminal that does not understand UTF-8 gets each icon as a short ASCII
text: `asciiIcons` replaces them one after the other in the order of the table. A terminal is
described by the name of its encoding.
-/

namespace UseSites.Terminal

/-- The icons and what stands for them. The warning sign followed by a variation selector has a row of
its own after the bare sign. -/
def iconTable : List (List Char × List Char) :=
  [(['✓'], "[OK]".toList), (['✔'], "[OK]".toList), (['✗'], "[FAIL]".toList),
    (['✘'], "[FAIL]".toList), (['⚠'], "[WARN]".toList), (['⚠', '\ufe0f'], "[WARN]".toList),
    (['→'], "->".toList), (['←'], "<-".toList), (['⇒'], "=>".toList), (['│'], "|".toList),
    (['─'], "-".toList), (['…'], "...".toList), (['•'], "*".toList), (['🔍'], "[search]".toList),
    (['📁'], "[dir]".toList), (['📄'], "[file]".toList), (['📊'], "[stats]".toList)]

/-- Replaces the occurrences of a text from left to right; after an occurrence the search goes on
behind it. `skip` counts the characters of the last occurrence that are still to be passed. -/
def replaceFrom (icon image : List Char) : Nat → List Char → List Char
  | _, [] => []
  | skip + 1, _ :: rest => replaceFrom icon image skip rest
  | 0, c :: rest =>
    if !icon.isEmpty && icon.isPrefixOf (c :: rest) then
      image ++ replaceFrom icon image (icon.length - 1) rest
    else c :: replaceFrom icon image 0 rest

def replaceAll (icon image text : List Char) : List Char := replaceFrom icon image 0 text

def asciiIcons (text : List Char) : List Char :=
  iconTable.foldl (fun text row => replaceAll row.1 row.2 text) text

def defaultEncoding : String := "utf-8"

/-- The encoding of a terminal, in lower case. One that does not name its encoding has the encoding the
system prefers, and ASCII if the system names none either. -/
def encodingOf (name : Option String) (preferred : Option String := some defaultEncoding) : String :=
  match name with
  | none => systemEncoding
  | some name => if name.isEmpty then systemEncoding else Text.lower name
where
  systemEncoding : String := (preferred.map Text.lower).getD "ascii"

def understandsUtf8 (name : Option String) (preferred : Option String := some defaultEncoding) : Bool :=
  let dashed := String.ofList ((encodingOf name preferred).toList.map fun c => if c = '_' then '-' else c)
  dashed == "utf-8" || dashed == "utf8"

def safeText (name : Option String) (text : String) (preferred : Option String := some defaultEncoding) : String :=
  if understandsUtf8 name preferred then text else String.ofList (asciiIcons text.toList)

end UseSites.Terminal
