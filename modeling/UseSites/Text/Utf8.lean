/-!
# UTF-8

`decode` reads bytes as text. It accepts well-formed UTF-8 only: shortest forms, no surrogates, nothing
above the last code point. When it fails it tells where the first ill-formed sequence starts, which is
the length of the longest well-formed beginning.
-/

namespace UseSites.Text.Utf8

def continues (byte : UInt8) : Bool := 0x80 ≤ byte && byte ≤ 0xbf

def payload (byte : UInt8) : Nat := byte.toNat % 64

/-- The character at the start of the bytes and the number of its bytes. -/
def first? : List UInt8 → Option (Char × Nat)
  | [] => none
  | a :: rest =>
    if a < 0x80 then some (Char.ofNat a.toNat, 1)
    else
      match rest with
      | [] => none
      | b :: rest =>
        if 0xc2 ≤ a && a ≤ 0xdf && continues b then
          some (Char.ofNat (a.toNat % 32 * 64 + payload b), 2)
        else
          match rest with
          | [] => none
          | c :: rest =>
            let low := if a = 0xe0 then 0xa0 else 0x80
            let high := if a = 0xed then 0x9f else 0xbf
            if 0xe0 ≤ a && a ≤ 0xef && low ≤ b && b ≤ high && continues c then
              some (Char.ofNat ((a.toNat % 16 * 64 + payload b) * 64 + payload c), 3)
            else
              match rest with
              | [] => none
              | d :: _ =>
                let low := if a = 0xf0 then 0x90 else 0x80
                let high := if a = 0xf4 then 0x8f else 0xbf
                if 0xf0 ≤ a && a ≤ 0xf4 && low ≤ b && b ≤ high && continues c && continues d then
                  some (Char.ofNat (((a.toNat % 8 * 64 + payload b) * 64 + payload c) * 64 + payload d), 4)
                else none

/-- Reads bytes behind those that gave the characters of `found`, the last one first. So far `position`
bytes have been passed, and the next `skip` bytes belong to the last character. -/
def decodeFrom (found : List Char) (position skip : Nat) : List UInt8 → Except Nat (List Char)
  | [] => .ok found.reverse
  | byte :: rest =>
    match skip with
    | skip + 1 => decodeFrom found (position + 1) skip rest
    | 0 =>
      match first? (byte :: rest) with
      | none => .error position
      | some (c, length) => decodeFrom (c :: found) (position + 1) (length - 1) rest

/-- The text of the bytes, or the position of the first ill-formed sequence. -/
def decode (bytes : List UInt8) : Except Nat String := (decodeFrom [] 0 0 bytes).map String.ofList

end UseSites.Text.Utf8
