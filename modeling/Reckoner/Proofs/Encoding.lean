import Reckoner.Text.Utf8
/-!
# Encoding

A text written in UTF-8 reads back (`decode_encode`). The bytes of a
character are given by numbers, and so are the ranges that decoding tells
them apart by, so each of the four lengths comes down to arithmetic.
-/

namespace Reckoner

namespace Text

namespace Utf8

/-! ## The bytes of a text -/

/-- The bytes of an array from an index on, behind those already read. -/
theorem toList_loop (bytes : ByteArray) (i : Nat) (read : List UInt8) :
    ByteArray.toList.loop bytes i read = read.reverse ++ bytes.data.toList.drop i := by
  fun_induction ByteArray.toList.loop bytes i read with
  | case1 i read h ih =>
    have hi : i < bytes.data.toList.length := by simpa using h
    rw [ih, List.drop_eq_getElem_cons hi]
    simp [ByteArray.get!, h]
  | case2 i read h =>
    rw [List.drop_eq_nil_of_le (by simpa using Nat.le_of_not_lt h)]
    simp

/-- The encoding of a text is that of its characters, one after the
other. -/
theorem encode_eq_flatMap (cs : List Char) : encode cs = cs.flatMap String.utf8EncodeChar := by
  rw [encode, String.toUTF8_eq_toByteArray, String.toByteArray_ofList, List.utf8Encode,
    ByteArray.toList, toList_loop, List.toList_data_toByteArray]
  rfl

@[simp] theorem encode_nil : encode [] = [] := by
  rw [encode_eq_flatMap]
  rfl

theorem encode_append (cs ds : List Char) : encode (cs ++ ds) = encode cs ++ encode ds := by
  simp only [encode_eq_flatMap, List.flatMap_append]

/-- The bytes of a string are the encoding of its characters. -/
theorem toUTF8_toList (s : String) : s.toUTF8.toList = encode s.toList := by
  rw [encode, String.ofList_toList]

/-! ## One sequence -/

section Sequence

variable {lead second third fourth : UInt8} {position : Nat} {rest : List UInt8} {c : Char}

/-- What a lead byte announces, by its number. -/
theorem announced?_eq (lead : UInt8) :
    announced? lead =
      if lead.toNat < 0x80 then some 1
      else if lead.toNat < 0xC2 then none
      else if lead.toNat < 0xE0 then some 2
      else if lead.toNat < 0xF0 then some 3
      else if lead.toNat < 0xF5 then some 4
      else none := by
  simp only [announced?, UInt8.lt_iff_toNat_lt]
  rfl

theorem isContinuation_iff {b : UInt8} :
    isContinuation b = true ↔ 0x80 ≤ b.toNat ∧ b.toNat ≤ 0xBF := by
  simp only [isContinuation, Bool.and_eq_true, decide_eq_true_eq, UInt8.le_iff_toNat_le]
  rfl

/-- A continuation byte follows any lead byte but four, and those where it
is in their range. -/
theorem follows_of_toNat (h : isContinuation second = true)
    (hE0 : lead.toNat = 0xE0 → 0xA0 ≤ second.toNat) (hED : lead.toNat = 0xED → second.toNat ≤ 0x9F)
    (hF0 : lead.toNat = 0xF0 → 0x90 ≤ second.toNat)
    (hF4 : lead.toNat = 0xF4 → second.toNat ≤ 0x8F) : follows lead second = true := by
  rw [follows, h, Bool.true_and]
  split
  · rename_i hlead
    exact decide_eq_true (UInt8.le_iff_toNat_le.2 (hE0 (congrArg UInt8.toNat hlead)))
  · split
    · rename_i hlead
      exact decide_eq_true (UInt8.le_iff_toNat_le.2 (hED (congrArg UInt8.toNat hlead)))
    · split
      · rename_i hlead
        exact decide_eq_true (UInt8.le_iff_toNat_le.2 (hF0 (congrArg UInt8.toNat hlead)))
      · split
        · rename_i hlead
          exact decide_eq_true (UInt8.le_iff_toNat_le.2 (hF4 (congrArg UInt8.toNat hlead)))
        · rfl

/-- A sequence that is read as the number of a character is that
character. -/
theorem assemble_eq {bytes : List UInt8} {n : Nat} (h : assemble lead bytes = Char.ofNat n)
    (hn : n = c.toNat) : assemble lead bytes = c := by
  rw [h, hn, Char.ofNat_toNat]

theorem decodeFrom_one (hlead : lead.toNat = c.toNat) (hc : c.toNat ≤ 0x7F) :
    decodeFrom position (lead :: rest) = (decodeFrom (position + 1) rest).map (c :: ·) := by
  have hassemble : assemble lead [] = c := assemble_eq rfl hlead
  rw [decodeFrom, announced?_eq, if_pos (by omega)]
  simp only [hassemble]

theorem decodeFrom_two (hlead : lead.toNat = c.toNat / 64 % 32 + 192)
    (hsecond : second.toNat = c.toNat % 64 + 128) (hc : 0x7F < c.toNat) (hc' : c.toNat ≤ 0x7FF) :
    decodeFrom position (lead :: second :: rest) =
      (decodeFrom (position + 2) rest).map (c :: ·) := by
  have hassemble : assemble lead [second] = c := assemble_eq rfl (by simp; omega)
  have hfollows : follows lead second = true :=
    follows_of_toNat (isContinuation_iff.2 (by omega)) (by omega) (by omega) (by omega) (by omega)
  rw [decodeFrom, announced?_eq, if_neg (by omega), if_neg (by omega), if_pos (by omega)]
  simp [hfollows, hassemble]

theorem decodeFrom_three (hlead : lead.toNat = c.toNat / 4096 % 16 + 224)
    (hsecond : second.toNat = c.toNat / 64 % 64 + 128) (hthird : third.toNat = c.toNat % 64 + 128)
    (hc : 0x7FF < c.toNat) (hc' : c.toNat ≤ 0xFFFF) :
    decodeFrom position (lead :: second :: third :: rest) =
      (decodeFrom (position + 3) rest).map (c :: ·) := by
  have hvalid : c.toNat < 0xD800 ∨ 0xDFFF < c.toNat ∧ c.toNat < 0x110000 := c.valid
  have hassemble : assemble lead [second, third] = c := assemble_eq rfl (by simp; omega)
  -- the lead E0 keeps out what is shorter, and ED the surrogates
  have hfollows : follows lead second = true :=
    follows_of_toNat (isContinuation_iff.2 (by omega)) (by omega) (by omega) (by omega) (by omega)
  have hcontinues : isContinuation third = true := isContinuation_iff.2 (by omega)
  rw [decodeFrom, announced?_eq, if_neg (by omega), if_neg (by omega), if_neg (by omega),
    if_pos (by omega)]
  simp [hfollows, hcontinues, hassemble]

theorem decodeFrom_four (hlead : lead.toNat = c.toNat / 262144 % 8 + 240)
    (hsecond : second.toNat = c.toNat / 4096 % 64 + 128)
    (hthird : third.toNat = c.toNat / 64 % 64 + 128) (hfourth : fourth.toNat = c.toNat % 64 + 128)
    (hc : 0xFFFF < c.toNat) :
    decodeFrom position (lead :: second :: third :: fourth :: rest) =
      (decodeFrom (position + 4) rest).map (c :: ·) := by
  have hvalid : c.toNat < 0xD800 ∨ 0xDFFF < c.toNat ∧ c.toNat < 0x110000 := c.valid
  have hassemble : assemble lead [second, third, fourth] = c := assemble_eq rfl (by simp; omega)
  have hfollows : follows lead second = true :=
    follows_of_toNat (isContinuation_iff.2 (by omega)) (by omega) (by omega) (by omega) (by omega)
  have hthird' : isContinuation third = true := isContinuation_iff.2 (by omega)
  have hfourth' : isContinuation fourth = true := isContinuation_iff.2 (by omega)
  rw [decodeFrom, announced?_eq, if_neg (by omega), if_neg (by omega), if_neg (by omega),
    if_neg (by omega), if_pos (by omega)]
  simp [hfollows, hthird', hfourth', hassemble]

end Sequence

/-! ## A whole text -/

/-- A number below 256 is that of a byte. -/
theorem toNat_ofNat_of_lt {n : Nat} (h : n < 256) : (UInt8.ofNat n).toNat = n := by
  rw [UInt8.toNat_ofNat']
  exact Nat.mod_eq_of_lt h

/-- **The bytes of a character** are read as that character. -/
theorem decodeFrom_utf8EncodeChar (position : Nat) (c : Char) (rest : List UInt8) :
    ∃ next, decodeFrom position (String.utf8EncodeChar c ++ rest) =
      (decodeFrom next rest).map (c :: ·) := by
  have hbyte : ∀ {n}, n < 256 → (UInt8.ofNat n).toNat = n := toNat_ofNat_of_lt
  have hval : c.val.toNat = c.toNat := rfl
  rw [String.utf8EncodeChar, hval]
  split
  · exact ⟨_, decodeFrom_one (hbyte (by omega)) (by omega)⟩
  · split
    · exact ⟨_, decodeFrom_two (hbyte (by omega)) (hbyte (by omega)) (by omega) (by omega)⟩
    · split
      · exact ⟨_, decodeFrom_three (hbyte (by omega)) (hbyte (by omega)) (hbyte (by omega))
          (by omega) (by omega)⟩
      · exact ⟨_, decodeFrom_four (hbyte (by omega)) (hbyte (by omega)) (hbyte (by omega))
          (hbyte (by omega)) (by omega)⟩

/-- **A text written in UTF-8 reads back.** -/
theorem decode_encode (cs : List Char) : decode (encode cs) = .ok cs := by
  rw [decode, encode_eq_flatMap]
  generalize 0 = position
  induction cs generalizing position with
  | nil => rfl
  | cons c cs ih =>
    obtain ⟨next, hnext⟩ := decodeFrom_utf8EncodeChar position c (cs.flatMap String.utf8EncodeChar)
    rw [List.flatMap_cons, hnext, ih]
    rfl

end Utf8

end Text

end Reckoner
