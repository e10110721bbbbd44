import AwkEdit.Proofs.Text.Decoding

/-!
# Reading what was written

The bytes of a text are read as that text, character by character: the first byte of a character opens it with the bits that it
carries, and the others bring the rest of them, within the ranges that the reader admits. So the bytes that are read without broken
parts are exactly the bytes of texts (`Utf8.read?_eq_some_iff`).
-/

namespace AwkEdit.Utf8

/-- A byte that brings six bits of an open character, when it is in the range that is admitted. -/
theorem decodeFrom_inside {owed value n : Nat} {low high : UInt8} (hlow : low.toNat ≤ n % 64 + 128)
    (hhigh : n % 64 + 128 ≤ high.toNat) (rest : List UInt8) :
    decodeFrom (.inside owed value low high) (UInt8.ofNat (n % 64 + 128) :: rest) =
      if owed = 0 then Char.ofNat (value * 64 + n % 64) :: decodeFrom .between rest
      else decodeFrom (.inside (owed - 1) (value * 64 + n % 64) 0x80 0xBF) rest := by
  have hvalue : (UInt8.ofNat (n % 64 + 128)).toNat = n % 64 + 128 := by
    rw [UInt8.toNat_ofNat']
    omega
  have hrange : low ≤ UInt8.ofNat (n % 64 + 128) ∧ UInt8.ofNat (n % 64 + 128) ≤ high := by
    rw [UInt8.le_iff_toNat_le, UInt8.le_iff_toNat_le, hvalue]
    exact ⟨hlow, hhigh⟩
  have hbits : (n % 64 + 128) % 64 = n % 64 := by omega
  rw [decodeFrom_cons, step_inside hrange, hvalue, hbits]
  split <;> rfl

/-- The byte that opens a character of two bytes. -/
theorem start_two : ∀ n < 32, 2 ≤ n → start (UInt8.ofNat (n + 192)) = ([], .inside 0 n 0x80 0xBF) := by decide

/-- The byte that opens a character of three bytes. -/
theorem start_three : ∀ n < 16, start (UInt8.ofNat (n + 224)) =
    ([], .inside 1 n (if n = 0 then 0xA0 else 0x80) (if n = 13 then 0x9F else 0xBF)) := by decide

/-- The byte that opens a character of four bytes. -/
theorem start_four : ∀ n < 5, start (UInt8.ofNat (n + 240)) =
    ([], .inside 2 n (if n = 0 then 0x90 else 0x80) (if n = 4 then 0x8F else 0xBF)) := by decide

/-- The bytes of a character are read as that character. -/
theorem decodeFrom_utf8EncodeChar (c : Char) (rest : List UInt8) :
    decodeFrom .between (String.utf8EncodeChar c ++ rest) = c :: decodeFrom .between rest := by
  have hvalid : c.toNat.isValidChar := c.valid
  have hself : Char.ofNat c.toNat = c := Char.ofNat_toNat c
  simp only [String.utf8EncodeChar, Char.toNat_val]
  generalize c.toNat = n at hvalid hself ⊢
  rw [Nat.isValidChar] at hvalid
  split
  · have hvalue : (UInt8.ofNat n).toNat = n := by
      rw [UInt8.toNat_ofNat']
      omega
    have hascii : UInt8.ofNat n < 0x80 := by
      rw [UInt8.lt_iff_toNat_lt, hvalue]
      exact Nat.lt_succ_of_le ‹_›
    rw [List.singleton_append, decodeFrom_cons, step, start_ascii hascii, hvalue, hself]
    rfl
  split
  · have hlead : n / 64 % 32 = n / 64 := by omega
    rw [List.cons_append, decodeFrom_cons, step, hlead, start_two _ (by omega) (by omega), List.nil_append, List.singleton_append,
      decodeFrom_inside (by simp) (by simp; omega), if_pos rfl, Nat.div_add_mod', hself]
  split
  · have hlead : n / 4096 % 16 = n / 4096 := by omega
    have hbits : (n / 4096 * 64 + n / 64 % 64) * 64 + n % 64 = n := by omega
    rw [List.cons_append, decodeFrom_cons, step, hlead, start_three _ (by omega), List.nil_append, List.cons_append,
      decodeFrom_inside (by split <;> simp; omega) (by split <;> simp <;> omega), if_neg (by decide), List.singleton_append,
      decodeFrom_inside (by simp) (by simp; omega), if_pos rfl, hbits, hself]
  · have hlead : n / 262144 % 8 = n / 262144 := by omega
    have hbits : ((n / 262144 * 64 + n / 4096 % 64) * 64 + n / 64 % 64) * 64 + n % 64 = n := by omega
    rw [List.cons_append, decodeFrom_cons, step, hlead, start_four _ (by omega), List.nil_append, List.cons_append,
      decodeFrom_inside (by split <;> simp; omega) (by split <;> simp <;> omega), if_neg (by decide), List.cons_append,
      decodeFrom_inside (by simp) (by simp; omega), if_neg (by decide), List.singleton_append,
      decodeFrom_inside (by simp) (by simp; omega), if_pos rfl, hbits, hself]

/-- The bytes of a text are read as that text. -/
theorem decode_encode (chars : List Char) : decode (encode chars) = chars := by
  induction chars with
  | nil => rfl
  | cons c chars ih =>
    rw [encode, List.flatMap_cons, decode, decodeFrom_utf8EncodeChar]
    exact congrArg (c :: ·) ih

/-- What is read without broken parts is the text that has those bytes. -/
theorem read?_eq_some_iff {bytes : List UInt8} {chars : List Char} : read? bytes = some chars ↔ encode chars = bytes := by
  rw [read?]
  constructor
  · intro h
    split at h
    next hvalid => rw [← Option.some.inj h, hvalid]
    next => cases h
  · rintro rfl
    rw [decode_encode, if_pos rfl]

/-- Nothing is read from bytes that are those of no text. -/
theorem read?_eq_none_iff {bytes : List UInt8} : read? bytes = none ↔ ∀ chars, encode chars ≠ bytes := by
  rw [Option.eq_none_iff_forall_ne_some]
  exact forall_congr' fun chars => not_congr read?_eq_some_iff

end AwkEdit.Utf8
