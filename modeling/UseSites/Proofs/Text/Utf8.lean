import Mathlib.Order.Bounds.Basic
import UseSites.Text.Utf8
/-!
# Bytes that are text

The reader of UTF-8 goes by the values of bytes, the standard library by the characters that it writes. The two agree
on one character, whichever of the four lengths it has: `first?_encode` reads back what is written, and
`exists_encode_of_first?` says that nothing else is read. So bytes fall apart into the bytes of characters up to a place
where no character starts. Nothing that begins like these bytes and is text goes beyond that place, which makes it the
end of the longest text among their beginnings (`decode_eq_error_iff`).
-/

namespace UseSites.Text.Utf8

/-! ### The bytes of one character -/

def IsTail (byte : UInt8) : Prop := 0x80 ≤ byte.toNat ∧ byte.toNat ≤ 0xbf

def OpensTwo (a b : UInt8) : Prop := 0xc2 ≤ a.toNat ∧ a.toNat ≤ 0xdf ∧ IsTail b

/-- The bytes of a character of three. There are shorter ones for the lowest values, and some values are surrogates. -/
def OpensThree (a b c : UInt8) : Prop :=
  0xe0 ≤ a.toNat ∧ a.toNat ≤ 0xef ∧ IsTail b ∧ (a.toNat = 0xe0 → 0xa0 ≤ b.toNat) ∧ (a.toNat = 0xed → b.toNat ≤ 0x9f)
    ∧ IsTail c

/-- The bytes of a character of four. There are shorter ones for the lowest values, and values that are too high. -/
def OpensFour (a b c d : UInt8) : Prop :=
  0xf0 ≤ a.toNat ∧ a.toNat ≤ 0xf4 ∧ IsTail b ∧ (a.toNat = 0xf0 → 0x90 ≤ b.toNat) ∧ (a.toNat = 0xf4 → b.toNat ≤ 0x8f)
    ∧ IsTail c ∧ IsTail d

instance (byte : UInt8) : Decidable (IsTail byte) := inferInstanceAs (Decidable (_ ∧ _))

instance (a b : UInt8) : Decidable (OpensTwo a b) := inferInstanceAs (Decidable (_ ∧ _))

instance (a b c : UInt8) : Decidable (OpensThree a b c) := inferInstanceAs (Decidable (_ ∧ _))

instance (a b c d : UInt8) : Decidable (OpensFour a b c d) := inferInstanceAs (Decidable (_ ∧ _))

theorem continues_iff (byte : UInt8) : continues byte = true ↔ IsTail byte := by
  simp [continues, IsTail, UInt8.le_iff_toNat_le]

/-- A lowest value that is higher behind one particular byte. -/
theorem ite_le_iff (a b special : UInt8) {low : UInt8} (hlow : 0x80 ≤ low.toNat) :
    (if a = special then low else 0x80) ≤ b ↔ 0x80 ≤ b.toNat ∧ (a.toNat = special.toNat → low.toNat ≤ b.toNat) := by
  rw [UInt8.toNat_inj]
  by_cases h : a = special
  · simp only [h, if_true, UInt8.le_iff_toNat_le, true_imp_iff]
    omega
  · simp [h, UInt8.le_iff_toNat_le]

/-- A highest value that is lower behind one particular byte. -/
theorem le_ite_iff (a b special : UInt8) {high : UInt8} (hhigh : high.toNat ≤ 0xbf) :
    b ≤ (if a = special then high else 0xbf) ↔ b.toNat ≤ 0xbf ∧ (a.toNat = special.toNat → b.toNat ≤ high.toNat) := by
  rw [UInt8.toNat_inj]
  by_cases h : a = special
  · simp only [h, if_true, UInt8.le_iff_toNat_le, true_imp_iff]
    omega
  · simp [h, UInt8.le_iff_toNat_le]

theorem opensTwo_iff (a b : UInt8) : (0xc2 ≤ a && a ≤ 0xdf && continues b) = true ↔ OpensTwo a b := by
  simp [OpensTwo, continues_iff, UInt8.le_iff_toNat_le, and_assoc]

theorem opensThree_iff (a b c : UInt8) :
    (0xe0 ≤ a && a ≤ 0xef && (if a = 0xe0 then 0xa0 else 0x80) ≤ b && b ≤ (if a = 0xed then 0x9f else 0xbf)
      && continues c) = true ↔ OpensThree a b c := by
  have hfirst : 0xe0 ≤ a ∧ a ≤ 0xef ↔ 0xe0 ≤ a.toNat ∧ a.toNat ≤ 0xef := by simp [UInt8.le_iff_toNat_le]
  have hlow : (if a = 0xe0 then 0xa0 else 0x80) ≤ b ↔ _ := ite_le_iff a b 0xe0 (by decide)
  have hhigh : b ≤ (if a = 0xed then 0x9f else 0xbf) ↔ _ := le_ite_iff a b 0xed (by decide)
  simp only [Bool.and_eq_true, decide_eq_true_eq, continues_iff, hfirst, hlow, hhigh, OpensThree, IsTail,
    UInt8.reduceToNat]
  constructor
  · rintro ⟨⟨⟨ha, hb, hlowest⟩, hb', hhighest⟩, hc⟩
    exact ⟨ha.1, ha.2, ⟨hb, hb'⟩, hlowest, hhighest, hc⟩
  · rintro ⟨ha, ha', ⟨hb, hb'⟩, hlowest, hhighest, hc⟩
    exact ⟨⟨⟨⟨ha, ha'⟩, hb, hlowest⟩, hb', hhighest⟩, hc⟩

theorem opensFour_iff (a b c d : UInt8) :
    (0xf0 ≤ a && a ≤ 0xf4 && (if a = 0xf0 then 0x90 else 0x80) ≤ b && b ≤ (if a = 0xf4 then 0x8f else 0xbf)
      && continues c && continues d) = true ↔ OpensFour a b c d := by
  have hfirst : 0xf0 ≤ a ∧ a ≤ 0xf4 ↔ 0xf0 ≤ a.toNat ∧ a.toNat ≤ 0xf4 := by simp [UInt8.le_iff_toNat_le]
  have hlow : (if a = 0xf0 then 0x90 else 0x80) ≤ b ↔ _ := ite_le_iff a b 0xf0 (by decide)
  have hhigh : b ≤ (if a = 0xf4 then 0x8f else 0xbf) ↔ _ := le_ite_iff a b 0xf4 (by decide)
  simp only [Bool.and_eq_true, decide_eq_true_eq, continues_iff, hfirst, hlow, hhigh, OpensFour, IsTail,
    UInt8.reduceToNat]
  constructor
  · rintro ⟨⟨⟨⟨ha, hb, hlowest⟩, hb', hhighest⟩, hc⟩, hd⟩
    exact ⟨ha.1, ha.2, ⟨hb, hb'⟩, hlowest, hhighest, hc, hd⟩
  · rintro ⟨ha, ha', ⟨hb, hb'⟩, hlowest, hhighest, hc, hd⟩
    exact ⟨⟨⟨⟨⟨ha, ha'⟩, hb, hlowest⟩, hb', hhighest⟩, hc⟩, hd⟩

/-- What is read at the start of some bytes, with conditions on numbers. -/
theorem first?_eq (bytes : List UInt8) :
    first? bytes =
      match bytes with
      | [] => none
      | a :: rest =>
        if a.toNat < 0x80 then some (Char.ofNat a.toNat, 1)
        else
          match rest with
          | [] => none
          | b :: rest =>
            if OpensTwo a b then some (Char.ofNat (a.toNat % 32 * 64 + payload b), 2)
            else
              match rest with
              | [] => none
              | c :: rest =>
                if OpensThree a b c then some (Char.ofNat ((a.toNat % 16 * 64 + payload b) * 64 + payload c), 3)
                else
                  match rest with
                  | [] => none
                  | d :: _ =>
                    if OpensFour a b c d then
                      some (Char.ofNat (((a.toNat % 8 * 64 + payload b) * 64 + payload c) * 64 + payload d), 4)
                    else none := by
  match bytes with
  | [] => rfl
  | [a] =>
    simp only [first?, UInt8.lt_iff_toNat_lt]
    rfl
  | [a, b] =>
    simp only [first?, UInt8.lt_iff_toNat_lt, opensTwo_iff]
    rfl
  | [a, b, c] =>
    simp only [first?, UInt8.lt_iff_toNat_lt, opensTwo_iff, opensThree_iff]
    rfl
  | a :: b :: c :: d :: rest =>
    simp only [first?, UInt8.lt_iff_toNat_lt, opensTwo_iff, opensThree_iff, opensFour_iff]
    rfl

section

variable {a b c d : UInt8} {rest : List UInt8}

theorem first?_one (ha : a.toNat < 0x80) : first? (a :: rest) = some (Char.ofNat a.toNat, 1) := by
  rw [first?_eq]
  exact if_pos ha

theorem first?_two (h : OpensTwo a b) :
    first? (a :: b :: rest) = some (Char.ofNat (a.toNat % 32 * 64 + payload b), 2) := by
  have ha := h.1
  rw [first?_eq]
  dsimp only
  rw [if_neg (by omega), if_pos h]

theorem first?_three (h : OpensThree a b c) :
    first? (a :: b :: c :: rest) = some (Char.ofNat ((a.toNat % 16 * 64 + payload b) * 64 + payload c), 3) := by
  have ha := h.1
  have htwo : ¬OpensTwo a b := fun ⟨_, hmost, _⟩ => by omega
  rw [first?_eq]
  dsimp only
  rw [if_neg (by omega), if_neg htwo, if_pos h]

theorem first?_four (h : OpensFour a b c d) :
    first? (a :: b :: c :: d :: rest)
      = some (Char.ofNat (((a.toNat % 8 * 64 + payload b) * 64 + payload c) * 64 + payload d), 4) := by
  have ha := h.1
  have htwo : ¬OpensTwo a b := fun ⟨_, hmost, _⟩ => by omega
  have hthree : ¬OpensThree a b c := fun ⟨_, hmost, _⟩ => by omega
  rw [first?_eq]
  dsimp only
  rw [if_neg (by omega), if_neg htwo, if_neg hthree, if_pos h]

/-! ### Reading one character -/

theorem toNat_ofNat_of_lt {n : Nat} (h : n < 256) : (UInt8.ofNat n).toNat = n := by
  rw [UInt8.toNat_ofNat']
  exact Nat.mod_eq_of_lt h

/-- A character is read back from its bytes, whatever comes after them. -/
theorem first?_encode (character : Char) (rest : List UInt8) :
    first? (String.utf8EncodeChar character ++ rest) = some (character, (String.utf8EncodeChar character).length) := by
  have hvalid : character.val.toNat < 0xd800 ∨ 0xdfff < character.val.toNat ∧ character.val.toNat < 0x110000 :=
    character.valid
  have hcharacter : Char.ofNat character.val.toNat = character := Char.ofNat_toNat character
  unfold String.utf8EncodeChar
  dsimp only
  generalize character.val.toNat = v at hvalid hcharacter
  have hlast := toNat_ofNat_of_lt (show v % 64 + 128 < 256 by omega)
  have hmiddle := toNat_ofNat_of_lt (show v / 64 % 64 + 128 < 256 by omega)
  by_cases hone : v ≤ 127
  · have ha := toNat_ofNat_of_lt (show v < 256 by omega)
    rw [if_pos hone, List.cons_append, first?_one (by omega), ha, hcharacter]
    rfl
  · rw [if_neg hone]
    by_cases htwo : v ≤ 2047
    · have ha := toNat_ofNat_of_lt (show v / 64 % 32 + 192 < 256 by omega)
      have hv : (v / 64 % 32 + 192) % 32 * 64 + (v % 64 + 128) % 64 = v := by omega
      rw [if_pos htwo, List.cons_append, List.cons_append, first?_two, payload, ha, hlast, hv, hcharacter]
      · rfl
      · unfold OpensTwo IsTail
        omega
    · rw [if_neg htwo]
      by_cases hthree : v ≤ 65535
      · have ha := toNat_ofNat_of_lt (show v / 4096 % 16 + 224 < 256 by omega)
        have hv : ((v / 4096 % 16 + 224) % 16 * 64 + (v / 64 % 64 + 128) % 64) * 64 + (v % 64 + 128) % 64 = v := by
          omega
        rw [if_pos hthree, List.cons_append, List.cons_append, List.cons_append, first?_three, payload, payload, ha,
          hmiddle, hlast, hv, hcharacter]
        · rfl
        · unfold OpensThree IsTail
          omega
      · have ha := toNat_ofNat_of_lt (show v / 262144 % 8 + 240 < 256 by omega)
        have hb := toNat_ofNat_of_lt (show v / 4096 % 64 + 128 < 256 by omega)
        have hv : (((v / 262144 % 8 + 240) % 8 * 64 + (v / 4096 % 64 + 128) % 64) * 64
            + (v / 64 % 64 + 128) % 64) * 64 + (v % 64 + 128) % 64 = v := by omega
        rw [if_neg hthree, List.cons_append, List.cons_append, List.cons_append, List.cons_append, first?_four, payload,
          payload, payload, ha, hb, hmiddle, hlast, hv, hcharacter]
        · rfl
        · unfold OpensFour IsTail
          omega

theorem toNat_val_ofNat {n : Nat} (h : n.isValidChar) : (Char.ofNat n).val.toNat = n := by
  rw [Char.ofNat, dif_pos h]
  rfl

theorem ofNat_eq_of_toNat {n : Nat} (h : n = a.toNat) : UInt8.ofNat n = a := by
  rw [h, UInt8.ofNat_toNat]

theorem encode_one (ha : a.toNat < 0x80) : String.utf8EncodeChar (Char.ofNat a.toNat) = [a] := by
  have hv := toNat_val_ofNat (n := a.toNat) (by unfold Nat.isValidChar; omega)
  unfold String.utf8EncodeChar
  dsimp only
  rw [hv, if_pos (by omega), UInt8.ofNat_toNat]

theorem encode_two (h : OpensTwo a b) :
    String.utf8EncodeChar (Char.ofNat (a.toNat % 32 * 64 + payload b)) = [a, b] := by
  unfold OpensTwo IsTail at h
  unfold payload
  have hv := toNat_val_ofNat (n := a.toNat % 32 * 64 + b.toNat % 64) (by unfold Nat.isValidChar; omega)
  unfold String.utf8EncodeChar
  dsimp only
  rw [hv, if_neg (by omega), if_pos (by omega), ofNat_eq_of_toNat (a := a) (by omega),
    ofNat_eq_of_toNat (a := b) (by omega)]

theorem encode_three (h : OpensThree a b c) :
    String.utf8EncodeChar (Char.ofNat ((a.toNat % 16 * 64 + payload b) * 64 + payload c)) = [a, b, c] := by
  unfold OpensThree IsTail at h
  unfold payload
  have hv := toNat_val_ofNat (n := (a.toNat % 16 * 64 + b.toNat % 64) * 64 + c.toNat % 64)
    (by unfold Nat.isValidChar; omega)
  unfold String.utf8EncodeChar
  dsimp only
  rw [hv, if_neg (by omega), if_neg (by omega), if_pos (by omega), ofNat_eq_of_toNat (a := a) (by omega),
    ofNat_eq_of_toNat (a := b) (by omega), ofNat_eq_of_toNat (a := c) (by omega)]

theorem encode_four (h : OpensFour a b c d) :
    String.utf8EncodeChar (Char.ofNat (((a.toNat % 8 * 64 + payload b) * 64 + payload c) * 64 + payload d))
      = [a, b, c, d] := by
  unfold OpensFour IsTail at h
  unfold payload
  have hv := toNat_val_ofNat (n := ((a.toNat % 8 * 64 + b.toNat % 64) * 64 + c.toNat % 64) * 64 + d.toNat % 64)
    (by unfold Nat.isValidChar; omega)
  unfold String.utf8EncodeChar
  dsimp only
  rw [hv, if_neg (by omega), if_neg (by omega), if_neg (by omega), ofNat_eq_of_toNat (a := a) (by omega),
    ofNat_eq_of_toNat (a := b) (by omega), ofNat_eq_of_toNat (a := c) (by omega),
    ofNat_eq_of_toNat (a := d) (by omega)]

end

/-- What is read are the bytes of the character. -/
theorem exists_encode_of_first? {bytes : List UInt8} {character : Char} {length : Nat}
    (h : first? bytes = some (character, length)) : ∃ rest, bytes = String.utf8EncodeChar character ++ rest := by
  rw [first?_eq] at h
  split at h
  · cases h
  · split at h
    · rename_i ha
      cases h
      rw [encode_one ha]
      exact ⟨_, rfl⟩
    · split at h
      · cases h
      · split at h
        · rename_i hopens
          cases h
          rw [encode_two hopens]
          exact ⟨_, rfl⟩
        · split at h
          · cases h
          · split at h
            · rename_i hopens
              cases h
              rw [encode_three hopens]
              exact ⟨_, rfl⟩
            · split at h
              · cases h
              · split at h
                · rename_i hopens
                  cases h
                  rw [encode_four hopens]
                  exact ⟨_, rfl⟩
                · cases h

/-! ### Reading texts -/

def encoded (text : List Char) : List UInt8 := text.flatMap String.utf8EncodeChar

theorem encoded_cons (character : Char) (text : List Char) :
    encoded (character :: text) = String.utf8EncodeChar character ++ encoded text := List.flatMap_cons

theorem decodeFrom_skip (found : List Char) (position : Nat) (passed rest : List UInt8) :
    decodeFrom found position passed.length (passed ++ rest)
      = decodeFrom found (position + passed.length) 0 rest := by
  induction passed generalizing position with
  | nil => rfl
  | cons byte passed ih => rw [List.length_cons, List.cons_append, decodeFrom, ih, Nat.add_assoc, Nat.add_comm 1]

/-- One step of the reader takes one character. -/
theorem decodeFrom_encode (found : List Char) (position : Nat) (character : Char) (rest : List UInt8) :
    decodeFrom found position 0 (String.utf8EncodeChar character ++ rest)
      = decodeFrom (character :: found) (position + (String.utf8EncodeChar character).length) 0 rest := by
  have hfirst := first?_encode character rest
  cases hbytes : String.utf8EncodeChar character with
  | nil => exact absurd hbytes String.utf8EncodeChar_ne_nil
  | cons byte others =>
    rw [hbytes, List.cons_append, List.length_cons] at hfirst
    rw [List.cons_append, decodeFrom, hfirst]
    dsimp only
    rw [Nat.add_sub_cancel, decodeFrom_skip, List.length_cons, Nat.add_assoc, Nat.add_comm 1]

theorem decodeFrom_encoded (found : List Char) (position : Nat) (text : List Char) (rest : List UInt8) :
    decodeFrom found position 0 (encoded text ++ rest)
      = decodeFrom (text.reverse ++ found) (position + (encoded text).length) 0 rest := by
  induction text generalizing found position with
  | nil => rfl
  | cons character text ih =>
    rw [encoded_cons, List.append_assoc, decodeFrom_encode, ih, List.reverse_cons, List.append_assoc,
      List.singleton_append, List.length_append, Nat.add_assoc]

theorem decode_encoded_append (text : List Char) {rest : List UInt8} (hrest : first? rest = none) :
    decode (encoded text ++ rest) = if rest = [] then .ok (String.ofList text) else .error (encoded text).length := by
  rw [decode, decodeFrom_encoded, Nat.zero_add, List.append_nil]
  cases rest with
  | nil =>
    rw [decodeFrom, List.reverse_reverse, if_pos rfl]
    rfl
  | cons byte rest =>
    rw [decodeFrom, hrest, if_neg (List.cons_ne_nil _ _)]
    rfl

/-- Bytes are those of some characters, up to a place where no character starts. -/
theorem exists_encoded_append (bytes : List UInt8) :
    ∃ text rest, bytes = encoded text ++ rest ∧ first? rest = none := by
  cases hfirst : first? bytes with
  | none => exact ⟨[], bytes, rfl, hfirst⟩
  | some found =>
    obtain ⟨character, length⟩ := found
    obtain ⟨others, hbytes⟩ := exists_encode_of_first? hfirst
    have hshorter : others.length < bytes.length := by
      have hpos := List.length_pos_iff.2 (String.utf8EncodeChar_ne_nil (c := character))
      rw [hbytes, List.length_append]
      omega
    obtain ⟨text, rest, hothers, hrest⟩ := exists_encoded_append others
    refine ⟨character :: text, rest, ?_, hrest⟩
    rw [hbytes, hothers, encoded_cons, List.append_assoc]
termination_by bytes.length

/-- A beginning that is text does not go beyond a place where no character starts. -/
theorem encoded_beginning {text other : List Char} {rest : List UInt8} (hrest : first? rest = none)
    (hbegins : encoded other <+: encoded text ++ rest) : encoded other <+: encoded text := by
  induction other generalizing text with
  | nil => exact List.nil_prefix
  | cons character other ih =>
    obtain ⟨more, hmore⟩ := hbegins
    have hfirst : first? (encoded text ++ rest) = some (character, (String.utf8EncodeChar character).length) := by
      rw [← hmore, encoded_cons, List.append_assoc, first?_encode]
    cases text with
    | nil => exact absurd (hrest.symm.trans hfirst) nofun
    | cons head text =>
      rw [encoded_cons, List.append_assoc, first?_encode] at hfirst
      cases hfirst
      rw [encoded_cons, encoded_cons, List.append_assoc, List.append_assoc, List.append_cancel_left_eq] at hmore
      rw [encoded_cons, encoded_cons, List.prefix_append_right_inj]
      exact ih ⟨more, hmore⟩

/-! ### Bytes in arrays -/

theorem toList_loop (bytes : ByteArray) (i : Nat) (found : List UInt8) :
    ByteArray.toList.loop bytes i found = found.reverse ++ bytes.data.toList.drop i := by
  induction i, found using ByteArray.toList.loop.induct bytes with
  | case1 i found hlt ih =>
    have hdrop : bytes.data.toList.drop i = bytes.get! i :: bytes.data.toList.drop (i + 1) := by
      rw [List.drop_eq_getElem_cons (by simpa using hlt)]
      congr 1
      exact (getElem!_pos bytes.data i hlt).symm
    rw [ByteArray.toList.loop, if_pos hlt, ih, hdrop, List.reverse_cons, List.append_assoc, List.singleton_append]
  | case2 i found hge =>
    have hdrop : bytes.data.toList.drop i = [] := List.drop_eq_nil_of_le (by simpa using hge)
    rw [ByteArray.toList.loop, if_neg hge, hdrop, List.append_nil]

theorem toList_eq (bytes : ByteArray) : bytes.toList = bytes.data.toList := toList_loop bytes 0 []

theorem length_toList (bytes : ByteArray) : bytes.toList.length = bytes.size := by
  rw [toList_eq]
  rfl

theorem toList_extract (bytes : ByteArray) (n : Nat) : (bytes.extract 0 n).toList = bytes.toList.take n := by
  rw [toList_eq, toList_eq, ByteArray.data_extract, Array.toList_extract, List.extract_eq_take_drop]
  rfl

theorem eq_utf8Encode_iff {bytes : ByteArray} {text : List Char} :
    bytes = text.utf8Encode ↔ bytes.toList = encoded text := by
  constructor
  · rintro rfl
    rw [List.utf8Encode, toList_eq, List.toList_data_toByteArray, encoded]
  · intro h
    apply ByteArray.ext
    rw [List.utf8Encode, List.data_toByteArray, ← encoded, ← h, toList_eq, Array.toArray_toList]

theorem isValidUTF8_iff {bytes : ByteArray} : bytes.IsValidUTF8 ↔ ∃ text, bytes.toList = encoded text := by
  constructor
  · rintro ⟨text, hbytes⟩
    exact ⟨text, eq_utf8Encode_iff.1 hbytes⟩
  · rintro ⟨text, hbytes⟩
    exact ⟨text, eq_utf8Encode_iff.2 hbytes⟩

/-! ### What is read and what is not -/

/-- The length of the longest beginning of some bytes that is well formed. -/
def IsLongestText (bytes : ByteArray) (length : Nat) : Prop :=
  IsGreatest {n | n ≤ bytes.size ∧ (bytes.extract 0 n).IsValidUTF8} length

theorem isLongestText_encoded {bytes : ByteArray} {text : List Char} {rest : List UInt8}
    (hbytes : bytes.toList = encoded text ++ rest) (hrest : first? rest = none) :
    IsLongestText bytes (encoded text).length := by
  constructor
  · refine ⟨?_, isValidUTF8_iff.2 ⟨text, ?_⟩⟩
    · rw [← length_toList, hbytes, List.length_append]
      exact Nat.le_add_right _ _
    · rw [toList_extract, hbytes, List.take_left]
  · rintro n ⟨hsize, hvalid⟩
    obtain ⟨other, hother⟩ := isValidUTF8_iff.1 hvalid
    rw [toList_extract] at hother
    have hbegins : encoded other <+: encoded text ++ rest := by
      rw [← hother, hbytes]
      exact List.take_prefix _ _
    have hlength := (encoded_beginning hrest hbegins).length_le
    rw [← hother, List.length_take, length_toList, Nat.min_eq_left hsize] at hlength
    exact hlength

theorem decode_cases (bytes : ByteArray) :
    (∃ text : String, text.toUTF8 = bytes ∧ decode bytes.toList = .ok text)
      ∨ ∃ position, ¬bytes.IsValidUTF8 ∧ IsLongestText bytes position ∧ decode bytes.toList = .error position := by
  obtain ⟨text, rest, hbytes, hrest⟩ := exists_encoded_append bytes.toList
  have hdecode := decode_encoded_append text hrest
  rw [← hbytes] at hdecode
  by_cases hend : rest = []
  · rw [if_pos hend] at hdecode
    rw [hend, List.append_nil] at hbytes
    refine .inl ⟨String.ofList text, ?_, hdecode⟩
    rw [String.toUTF8_eq_toByteArray, String.toByteArray_ofList]
    exact (eq_utf8Encode_iff.2 hbytes).symm
  · rw [if_neg hend] at hdecode
    refine .inr ⟨(encoded text).length, ?_, isLongestText_encoded hbytes hrest, hdecode⟩
    intro hvalid
    obtain ⟨other, hother⟩ := isValidUTF8_iff.1 hvalid
    have hwhole : encoded other <+: encoded text ++ rest :=
      ⟨[], (List.append_nil _).trans (hother.symm.trans hbytes)⟩
    have hlength := (encoded_beginning hrest hwhole).length_le
    rw [← hother, hbytes, List.length_append] at hlength
    exact hend (List.length_eq_zero_iff.1 (by omega))

/-- What is read is the text that has these bytes. -/
theorem decode_eq_ok_iff {bytes : ByteArray} {text : String} :
    decode bytes.toList = .ok text ↔ text.toUTF8 = bytes := by
  rcases decode_cases bytes with ⟨found, hfound, hdecode⟩ | ⟨position, hinvalid, -, hdecode⟩
  · rw [hdecode, Except.ok.injEq, ← hfound, String.toUTF8_eq_toByteArray, String.toUTF8_eq_toByteArray,
      String.toByteArray_inj, eq_comm]
  · rw [hdecode]
    constructor
    · nofun
    · rintro rfl
      exact absurd text.isValidUTF8 hinvalid

/-- Nothing is read if the bytes are no text. The position is where they stop being one. -/
theorem decode_eq_error_iff {bytes : ByteArray} {position : Nat} :
    decode bytes.toList = .error position ↔ ¬bytes.IsValidUTF8 ∧ IsLongestText bytes position := by
  rcases decode_cases bytes with ⟨found, rfl, hdecode⟩ | ⟨place, hinvalid, hlongest, hdecode⟩
  · rw [hdecode]
    constructor
    · nofun
    · rintro ⟨hinvalid, -⟩
      exact absurd found.isValidUTF8 hinvalid
  · rw [hdecode, Except.error.injEq]
    constructor
    · rintro rfl
      exact ⟨hinvalid, hlongest⟩
    · rintro ⟨-, hposition⟩
      exact hlongest.unique hposition

end UseSites.Text.Utf8
