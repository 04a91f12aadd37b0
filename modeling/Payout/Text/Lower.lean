/-!
# Lower case of ASCII letters, byte by byte

Names compare without regard to the case of ASCII letters. In UTF-8 an ASCII character is
one byte below 128, the capitals `A` to `Z` being the bytes 65 to 90, and every byte of a
character beyond ASCII is 128 or more. So the lower case of a text is its bytes with each
capital moved by 32: the encoding of its characters, each made lower case
(`lowerBytes_utf8Encode`). Working on the bytes keeps the lower case of a name cheap to
compute, also where a proof evaluates it.
-/

namespace Payout.Text

/-- A character is an ASCII capital exactly when its code lies from 65 to 90. -/
theorem isCapital_iff (c : Char) :
  (c.val ≥ 'A'.val ∧ c.val ≤ 'Z'.val) ↔ (65 ≤ c.toNat ∧ c.toNat ≤ 90)
  := by
  simp only [ge_iff_le, UInt32.le_iff_toNat_le]
  rfl

theorem toNat_toLower_of_capital {c : Char} (h : 65 ≤ c.toNat ∧ c.toNat ≤ 90) :
  c.toLower.toNat = c.toNat + 32
  := by
  unfold Char.toLower
  rw [dif_pos ((isCapital_iff c).2 h)]
  have hd : ('a'.val - 'A'.val).toNat = 32 := rfl
  have hc : c.val.toNat ≤ 90 := h.2
  show (c.val + ('a'.val - 'A'.val)).toNat = c.val.toNat + 32
  rw [UInt32.toNat_add, hd]
  omega

theorem toLower_of_not_capital {c : Char} (h : ¬(65 ≤ c.toNat ∧ c.toNat ≤ 90)) :
  c.toLower = c
  := by
  unfold Char.toLower
  rw [dif_neg (mt (isCapital_iff c).1 h)]

/-- A byte with an ASCII capital made small; every other byte is kept. -/
def lowerByte (b : UInt8) : UInt8 :=
  if 65 ≤ b.toNat ∧ b.toNat ≤ 90 then UInt8.ofNat (b.toNat + 32) else b

theorem lowerByte_of_not_capital {b : UInt8} (h : ¬(65 ≤ b.toNat ∧ b.toNat ≤ 90)) :
  lowerByte b = b
  := if_neg h

/-- The bytes of a character that is no ASCII capital are no capitals' bytes. -/
theorem not_capital_of_mem_utf8EncodeChar {c : Char} (h : ¬(65 ≤ c.toNat ∧ c.toNat ≤ 90))
    {b : UInt8} (hb : b ∈ String.utf8EncodeChar c) :
  ¬(65 ≤ b.toNat ∧ b.toNat ≤ 90)
  := by
  unfold String.utf8EncodeChar at hb
  dsimp only at hb
  simp only [Char.toNat] at h
  split at hb
  · simp only [List.mem_singleton] at hb
    subst hb
    simp only [UInt8.toNat_ofNat']
    omega
  · split at hb
    · simp only [List.mem_cons, List.not_mem_nil, or_false] at hb
      rcases hb with rfl | rfl <;> simp only [UInt8.toNat_ofNat'] <;> omega
    · split at hb
      · simp only [List.mem_cons, List.not_mem_nil, or_false] at hb
        rcases hb with rfl | rfl | rfl <;> simp only [UInt8.toNat_ofNat'] <;> omega
      · simp only [List.mem_cons, List.not_mem_nil, or_false] at hb
        rcases hb with rfl | rfl | rfl | rfl <;> simp only [UInt8.toNat_ofNat'] <;> omega

/-- The encoding of a character made lower case is its encoding with its capital, if it is
one, made small. -/
theorem utf8EncodeChar_toLower (c : Char) :
  String.utf8EncodeChar c.toLower = (String.utf8EncodeChar c).map lowerByte
  := by
  by_cases hup : 65 ≤ c.toNat ∧ c.toNat ≤ 90
  · have hlow := toNat_toLower_of_capital hup
    have hc : c.val.toNat ≤ 0x7f := by simp only [Char.toNat] at hup; omega
    have hl : c.toLower.val.toNat ≤ 0x7f := by simp only [Char.toNat] at hlow hup; omega
    unfold String.utf8EncodeChar
    simp only [if_pos hc, if_pos hl, List.map_cons, List.map_nil, List.cons.injEq, and_true]
    have hbyte : (UInt8.ofNat c.val.toNat).toNat = c.toNat := by
      simp only [UInt8.toNat_ofNat', Char.toNat] at hup ⊢
      omega
    rw [lowerByte, hbyte, if_pos hup, ← hlow]
    rfl
  · rw [toLower_of_not_capital hup]
    conv => lhs; rw [← List.map_id (String.utf8EncodeChar c)]
    exact List.map_congr_left fun b hb =>
      (lowerByte_of_not_capital (not_capital_of_mem_utf8EncodeChar hup hb)).symm

/-- Bytes with every ASCII capital made small. -/
def lowerBytes (b : ByteArray) : ByteArray := ⟨b.data.map lowerByte⟩

/-- The encoding of characters made lower case is their encoding with the capitals' bytes made
small. -/
theorem lowerBytes_utf8Encode (l : List Char) :
  lowerBytes l.utf8Encode = (l.map Char.toLower).utf8Encode
  := by
  apply ByteArray.ext
  simp only [lowerBytes, List.utf8Encode, List.data_toByteArray, List.map_toArray,
    List.flatMap_map, utf8EncodeChar_toLower, List.map_flatMap]

/-- The lower case of a text's bytes is again UTF-8: the encoding of its characters, each made
lower case. -/
theorem isValidUTF8_lowerBytes (s : String) :
  (lowerBytes s.toByteArray).IsValidUTF8
  := .intro (s.toList.map Char.toLower) (by rw [← String.utf8Encode_toList, lowerBytes_utf8Encode])

end Payout.Text
