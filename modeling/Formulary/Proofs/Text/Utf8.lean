import Formulary.Proofs.Failure
import Formulary.Text.Utf8

namespace Formulary.Text.Utf8

theorem isContinuation_iff (b : UInt8) : isContinuation b = true ↔ 128 ≤ b.toNat ∧ b.toNat < 192 := by
  simp [isContinuation, UInt8.le_iff_toNat_le, UInt8.lt_iff_toNat_lt]

theorem isSecond_iff (a b : UInt8) : isSecond a b = true ↔
    (128 ≤ b.toNat ∧ b.toNat < 192) ∧ (a.toNat = 224 → 160 ≤ b.toNat) ∧
      (a.toNat = 237 → b.toNat < 160) ∧ (a.toNat = 240 → 144 ≤ b.toNat) ∧
      (a.toNat = 244 → b.toNat < 144) := by
  rw [isSecond, Bool.and_eq_true, isContinuation_iff]
  refine and_congr_right fun _ => ?_
  repeat' split
  all_goals simp_all [UInt8.le_iff_toNat_le, UInt8.lt_iff_toNat_lt, ← UInt8.toNat_inj]

section Reading

variable (position : Nat) (a b c d : UInt8) (rest : List UInt8)

theorem decodeFrom_one (ha : a.toNat < 128) :
    decodeFrom position (a :: rest) =
      (Char.ofNat a.toNat :: ·) <$> decodeFrom (position + 1) rest := by
  have hlow : a < 0x80 := by simpa [UInt8.lt_iff_toNat_lt] using ha
  rw [decodeFrom.eq_def]
  simp [hlow]

-- Between these bounds an octet leads others
theorem leads_iff : (¬ a < 0x80 ∧ (a < 0xc2 || 0xf5 ≤ a) = false) ↔ 194 ≤ a.toNat ∧ a.toNat < 245 := by
  simp [UInt8.lt_iff_toNat_lt, UInt8.le_iff_toNat_le]
  omega

theorem decodeFrom_two (ha : 194 ≤ a.toNat ∧ a.toNat < 224) (hb : isSecond a b = true) :
    decodeFrom position (a :: b :: rest) =
      (Char.ofNat (a.toNat % 32 * 64 + low b) :: ·) <$> decodeFrom (position + 2) rest := by
  obtain ⟨hlow, hlead⟩ := (leads_iff a).mpr ⟨ha.1, by omega⟩
  have hshort : a < 0xe0 := by simpa [UInt8.lt_iff_toNat_lt] using ha.2
  rw [decodeFrom.eq_def]
  simp [hlow, hlead, hb, hshort]

theorem decodeFrom_three (ha : 224 ≤ a.toNat ∧ a.toNat < 240) (hb : isSecond a b = true)
    (hc : isContinuation c = true) :
    decodeFrom position (a :: b :: c :: rest) =
      (Char.ofNat (a.toNat % 16 * 4096 + low b * 64 + low c) :: ·) <$>
        decodeFrom (position + 3) rest := by
  obtain ⟨hlow, hlead⟩ := (leads_iff a).mpr ⟨by omega, by omega⟩
  have hshort : ¬ a < 0xe0 := by simpa [UInt8.lt_iff_toNat_lt] using ha.1
  have hmiddle : a < 0xf0 := by simpa [UInt8.lt_iff_toNat_lt] using ha.2
  rw [decodeFrom.eq_def]
  simp [hlow, hlead, hb, hc, hshort, hmiddle]

theorem decodeFrom_four (ha : 240 ≤ a.toNat ∧ a.toNat < 245) (hb : isSecond a b = true)
    (hc : isContinuation c = true) (hd : isContinuation d = true) :
    decodeFrom position (a :: b :: c :: d :: rest) =
      (Char.ofNat (a.toNat % 8 * 262144 + low b * 4096 + low c * 64 + low d) :: ·) <$>
        decodeFrom (position + 4) rest := by
  obtain ⟨hlow, hlead⟩ := (leads_iff a).mpr ⟨by omega, ha.2⟩
  have hlong : ¬ a < 0xf0 := by simpa [UInt8.lt_iff_toNat_lt] using ha.1
  have hshort : ¬ a < 0xe0 := by
    rw [UInt8.lt_iff_toNat_lt] at hlong ⊢
    simp at hlong ⊢
    omega
  rw [decodeFrom.eq_def]
  simp [hlow, hlead, hb, hc, hd, hshort, hlong]

end Reading

-- The octets of a character are read as that character, whatever follows them
theorem decodeFrom_encode (position : Nat) (c : Char) (rest : List UInt8) :
    decodeFrom position (String.utf8EncodeChar c ++ rest) =
      (c :: ·) <$> decodeFrom (position + width c) rest := by
  have hvalid : c.toNat < 0xd800 ∨ 0xdfff < c.toNat ∧ c.toNat < 0x110000 := c.valid
  have hchar (n : Nat) (h : n = c.toNat) : Char.ofNat n = c := by rw [h, Char.ofNat_toNat]
  have hval : c.val.toNat = c.toNat := rfl
  have hbyte (n : Nat) : (UInt8.ofNat n).toNat = n % 256 := UInt8.toNat_ofNat'
  simp only [String.utf8EncodeChar, hval]
  split
  · have ha : (UInt8.ofNat c.toNat).toNat < 128 := by rw [hbyte]; omega
    rw [List.singleton_append, decodeFrom_one _ _ _ ha, hbyte, hchar _ (by omega), width,
      if_pos (by omega)]
  split
  · have ha : 194 ≤ (UInt8.ofNat (c.toNat / 64 % 32 + 192)).toNat ∧
        (UInt8.ofNat (c.toNat / 64 % 32 + 192)).toNat < 224 := by rw [hbyte]; omega
    simp only [List.cons_append, List.nil_append]
    rw [decodeFrom_two _ _ _ _ ha (by rw [isSecond_iff]; simp only [hbyte]; omega), low, hbyte, hbyte,
      hchar _ (by omega), width, if_neg (by omega), if_pos (by omega)]
  split
  · have ha : 224 ≤ (UInt8.ofNat (c.toNat / 4096 % 16 + 224)).toNat ∧
        (UInt8.ofNat (c.toNat / 4096 % 16 + 224)).toNat < 240 := by rw [hbyte]; omega
    simp only [List.cons_append, List.nil_append]
    rw [decodeFrom_three _ _ _ _ _ ha (by rw [isSecond_iff]; simp only [hbyte]; omega)
      (by rw [isContinuation_iff]; simp only [hbyte]; omega), low, low, hbyte, hbyte, hbyte,
      hchar _ (by omega), width, if_neg (by omega), if_neg (by omega), if_pos (by omega)]
  · have ha : 240 ≤ (UInt8.ofNat (c.toNat / 262144 % 8 + 240)).toNat ∧
        (UInt8.ofNat (c.toNat / 262144 % 8 + 240)).toNat < 245 := by rw [hbyte]; omega
    simp only [List.cons_append, List.nil_append]
    rw [decodeFrom_four _ _ _ _ _ _ ha (by rw [isSecond_iff]; simp only [hbyte]; omega)
      (by rw [isContinuation_iff]; simp only [hbyte]; omega)
      (by rw [isContinuation_iff]; simp only [hbyte]; omega), low, low, low, hbyte, hbyte, hbyte, hbyte,
      hchar _ (by omega), width, if_neg (by omega), if_neg (by omega), if_neg (by omega)]

-- The octets of a text, character by character
def encode (text : List Char) : List UInt8 := text.flatMap String.utf8EncodeChar

theorem decodeFrom_encode_all (position : Nat) (text : List Char) :
    decodeFrom position (encode text) = .ok text := by
  induction text generalizing position with
  | nil => rw [encode, List.flatMap_nil, decodeFrom]
  | cons c rest ih =>
      have h := decodeFrom_encode position c (encode rest)
      rw [ih] at h
      exact h

theorem val_ofNat (n : Nat) (h : n.isValidChar) : (Char.ofNat n).val.toNat = n := by
  rw [Char.ofNat, dif_pos h]
  rfl

section Writing

variable (a b c d : UInt8)

theorem encode_one (ha : a.toNat < 128) : String.utf8EncodeChar (Char.ofNat a.toNat) = [a] := by
  have hvalid : a.toNat.isValidChar := .inl (by omega)
  simp only [String.utf8EncodeChar, val_ofNat _ hvalid]
  rw [if_pos (by omega), UInt8.ofNat_toNat]

theorem encode_two (ha : 194 ≤ a.toNat ∧ a.toNat < 224) (hb : isSecond a b = true) :
    String.utf8EncodeChar (Char.ofNat (a.toNat % 32 * 64 + low b)) = [a, b] := by
  rw [isSecond_iff] at hb
  have hvalid : (a.toNat % 32 * 64 + low b).isValidChar := .inl (by rw [low]; omega)
  simp only [String.utf8EncodeChar, val_ofNat _ hvalid]
  rw [low, if_neg (by omega), if_pos (by omega)]
  congr <;> (rw [← UInt8.toNat_inj, UInt8.toNat_ofNat']; omega)

theorem encode_three (ha : 224 ≤ a.toNat ∧ a.toNat < 240) (hb : isSecond a b = true)
    (hc : isContinuation c = true) :
    String.utf8EncodeChar (Char.ofNat (a.toNat % 16 * 4096 + low b * 64 + low c)) = [a, b, c] := by
  rw [isSecond_iff] at hb
  rw [isContinuation_iff] at hc
  have hvalid : (a.toNat % 16 * 4096 + low b * 64 + low c).isValidChar := by
    rw [Nat.isValidChar, low, low]
    omega
  simp only [String.utf8EncodeChar, val_ofNat _ hvalid]
  rw [low, low, if_neg (by omega), if_neg (by omega), if_pos (by omega)]
  congr <;> (rw [← UInt8.toNat_inj, UInt8.toNat_ofNat']; omega)

theorem encode_four (ha : 240 ≤ a.toNat ∧ a.toNat < 245) (hb : isSecond a b = true)
    (hc : isContinuation c = true) (hd : isContinuation d = true) :
    String.utf8EncodeChar (Char.ofNat (a.toNat % 8 * 262144 + low b * 4096 + low c * 64 + low d)) =
      [a, b, c, d] := by
  rw [isSecond_iff] at hb
  rw [isContinuation_iff] at hc hd
  have hvalid : (a.toNat % 8 * 262144 + low b * 4096 + low c * 64 + low d).isValidChar := by
    rw [Nat.isValidChar, low, low, low]
    omega
  simp only [String.utf8EncodeChar, val_ofNat _ hvalid]
  rw [low, low, low, if_neg (by omega), if_neg (by omega), if_neg (by omega)]
  congr <;> (rw [← UInt8.toNat_inj, UInt8.toNat_ofNat']; omega)

end Writing

theorem append_eq_encode (c : Char) (octets rest : List UInt8) (read : Except Refusal (List Char))
    (text : List Char) (h : (c :: ·) <$> read = .ok text) (hc : String.utf8EncodeChar c = octets)
    (hrest : ∀ more, read = .ok more → rest = encode more) : octets ++ rest = encode text := by
  cases read with
  | error refusal => cases h
  | ok more =>
      cases h
      rw [hrest more rfl, ← hc, encode, encode, List.flatMap_cons]

theorem eq_encode_of_decodeFrom (position : Nat) (octets : List UInt8) (text : List Char)
    (h : decodeFrom position octets = .ok text) : octets = encode text := by
  fun_induction decodeFrom position octets generalizing text with
  | case1 =>
      cases h
      rfl
  | case2 position a rest ha ih =>
      have ha' : a.toNat < 128 := by simpa [UInt8.lt_iff_toNat_lt] using ha
      exact append_eq_encode _ [a] rest _ text h (encode_one a ha') ih
  | case6 position a hlow hlead b rest hb ha ih =>
      have hbounds := (leads_iff a).mp ⟨hlow, eq_false_of_ne_true hlead⟩
      have ha' : a.toNat < 224 := by simpa [UInt8.lt_iff_toNat_lt] using ha
      exact append_eq_encode _ [a, b] rest _ text h
        (encode_two a b ⟨hbounds.1, ha'⟩ (by simpa using hb)) ih
  | case9 position a hlow hlead b hb ha c rest hc hshort ih =>
      have ha' : 224 ≤ a.toNat := by simpa [UInt8.lt_iff_toNat_lt] using ha
      have hshort' : a.toNat < 240 := by simpa [UInt8.lt_iff_toNat_lt] using hshort
      exact append_eq_encode _ [a, b, c] rest _ text h
        (encode_three a b c ⟨ha', hshort'⟩ (by simpa using hb) (by simpa using hc)) ih
  | case12 position a hlow hlead b hb ha c hc hlong d rest hd ih =>
      have hbounds := (leads_iff a).mp ⟨hlow, eq_false_of_ne_true hlead⟩
      have hlong' : 240 ≤ a.toNat := by simpa [UInt8.lt_iff_toNat_lt] using hlong
      exact append_eq_encode _ [a, b, c, d] rest _ text h (encode_four a b c d ⟨hlong', hbounds.2⟩
        (by simpa using hb) (by simpa using hc) (by simpa using hd)) ih
  | _ => cases h

-- Octets are read as a text exactly if they are the octets of that text
theorem decode_eq_ok_iff (octets : List UInt8) (text : List Char) :
    decode octets = .ok text ↔ octets = encode text := by
  refine ⟨eq_encode_of_decodeFrom 0 octets text, ?_⟩
  rintro rfl
  exact decodeFrom_encode_all 0 text

end Formulary.Text.Utf8
