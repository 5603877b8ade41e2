import UseSites.Text.CaseTable
/-!
# Lower case

`lower` is the full Unicode mapping of a text to lower case. It maps character by character with two
exceptions: a capital I with dot becomes two characters, and a capital sigma takes its final form
where it ends a word. ASCII characters need no table.
-/

namespace UseSites.Text

def inRanges (ranges : Array (Nat × Nat)) (n : Nat) : Bool :=
  ranges.any fun (first, last) => first ≤ n && n ≤ last

def isCaseIgnorable (c : Char) : Bool := inRanges CaseTable.ignorableRanges c.toNat

def isCased (c : Char) : Bool := inRanges CaseTable.casedRanges c.toNat

/-- Whether the first character that is not looked through has a case. -/
def startsCased (text : List Char) : Bool :=
  ((text.dropWhile isCaseIgnorable).head?.map isCased).getD false

def lowerChar (c : Char) : Char :=
  if c.toNat < 0x80 then c.toLower
  else
    let run := CaseTable.lowerRuns.find? fun (first, last, step, _, _) =>
      first ≤ c.toNat && c.toNat ≤ last && (c.toNat - first) % step == 0
    match run with
    | some (_, _, _, up, down) => Char.ofNat (c.toNat + up - down)
    | none => c

/-- Maps the characters that follow `before`, which is given in reverse. -/
def lowerAfter (before : List Char) : List Char → List Char
  | [] => []
  | c :: rest =>
    let image :=
      if c.toNat = 0x130 then ['i', Char.ofNat 0x307]
      else if c.toNat = 0x3a3 then
        [if startsCased before && !startsCased rest then Char.ofNat 0x3c2 else Char.ofNat 0x3c3]
      else [lowerChar c]
    image ++ lowerAfter (c :: before) rest

def lower (text : String) : String := String.ofList (lowerAfter [] text.toList)

end UseSites.Text
