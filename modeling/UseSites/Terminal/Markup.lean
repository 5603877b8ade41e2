/-!
# Plain text inside markup

Messages carry markup: a tag is a text in square brackets that starts with a lower case letter, `#`,
`/` or `@`. `escaped` writes a plain text so that nothing in it reads as a tag: it puts a backslash
before everything that looks like one and doubles the backslashes that stand there already. `shown` is
what is left of a message on a terminal without styles: tags are gone, escaped ones are plain text again.
-/

namespace UseSites.Terminal.Markup

def startsTag (c : Char) : Bool := ('a' ≤ c && c ≤ 'z') || c == '#' || c == '/' || c == '@'

def closeTag? : List Char → Option (List Char × List Char)
  | [] => none
  | ']' :: rest => some ([']'], rest)
  | '[' :: _ => none
  | c :: rest => (closeTag? rest).map fun (tag, after) => (c :: tag, after)

def tag? : List Char → Option (List Char × List Char)
  | '[' :: c :: rest =>
    if startsTag c then (closeTag? rest).map fun (tag, after) => ('[' :: c :: tag, after) else none
  | _ => none

/-- Escapes a text; `slashes` counts the backslashes just before it, not yet written, and `inTag` the
characters of a tag that are still to be copied. -/
def escapeFrom (slashes inTag : Nat) : List Char → List Char
  | [] => List.replicate slashes '\\'
  | c :: rest =>
    match inTag with
    | n + 1 => c :: escapeFrom 0 n rest
    | 0 =>
      if c = '\\' then escapeFrom (slashes + 1) 0 rest
      else
        match tag? (c :: rest) with
        | some (tag, _) =>
          List.replicate (2 * slashes + 1) '\\' ++ c :: escapeFrom 0 (tag.length - 1) rest
        | none => List.replicate slashes '\\' ++ c :: escapeFrom 0 0 rest

/-- Doubles a single backslash at the end, which would otherwise escape what follows. -/
def closeSlash (text : List Char) : List Char :=
  match text.reverse with
  | '\\' :: '\\' :: _ => text
  | '\\' :: _ => text ++ ['\\']
  | _ => text

def escaped (text : String) : String := String.ofList (closeSlash (escapeFrom 0 0 text.toList))

/-- Drops tags; `slashes` counts the backslashes just before a text, not yet written, and `inTag` the
characters of a tag still to come, which are copied when the tag is a `plain` text. -/
def shownFrom (slashes inTag : Nat) (plain : Bool) : List Char → List Char
  | [] => List.replicate slashes '\\'
  | c :: rest =>
    match inTag with
    | n + 1 => if plain then c :: shownFrom 0 n plain rest else shownFrom 0 n plain rest
    | 0 =>
      if c = '\\' then shownFrom (slashes + 1) 0 false rest
      else
        match tag? (c :: rest) with
        | some (tag, _) =>
          let plain := slashes % 2 == 1
          List.replicate (slashes / 2) '\\' ++ (if plain then [c] else [])
            ++ shownFrom 0 (tag.length - 1) plain rest
        | none => List.replicate slashes '\\' ++ c :: shownFrom 0 0 false rest

def shown (markup : String) : String := String.ofList (shownFrom 0 0 false markup.toList)

end UseSites.Terminal.Markup
