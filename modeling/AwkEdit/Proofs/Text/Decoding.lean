import AwkEdit.Source
import Mathlib.Data.List.Induction

/-!
# Reading text piece by piece

An ASCII byte is a character of its own wherever it stands, in broken text as well: what is open before it is closed as a
broken part, and after it reading starts afresh. So a text read as a whole is its lines read one by one, and what comes after
leading blanks is read as it would be alone. One more byte is one more character or changes the last (`decode_concat`), and only
an ASCII byte is read as an ASCII character, so a line without a newline is read without one, and what starts with no blank is
read and written without one at its front.
-/

namespace AwkEdit.Utf8

/-! ## States that reading comes to -/

/-- The state is one that reading comes to: the next byte of an open character is no ASCII byte, and neither is a character that
it completes. -/
def State.Sound : State → Prop
  | .between => True
  | .inside owed value low high =>
    0x80 ≤ low ∧ high ≤ 0xBF ∧
      ∀ b : UInt8, low ≤ b → b ≤ 0xBF → 16 ≤ value * 64 + b.toNat % 64 ∧ (owed = 0 → 128 ≤ value * 64 + b.toNat % 64)

/-- A character that owes more bytes is open soundly when its lead byte, or else the next one, says more than zeros. -/
theorem sound_inside {owed value : Nat} {low high : UInt8} (howed : owed ≠ 0) (hlow : 0x80 ≤ low) (hhigh : high ≤ 0xBF)
    (h : value = 0 → 0x90 ≤ low) : (State.inside owed value low high).Sound := by
  refine ⟨hlow, hhigh, fun b hb hb' => ⟨?_, fun hzero => absurd hzero howed⟩⟩
  by_cases hvalue : value = 0
  · have := UInt8.le_iff_toNat_le.1 (UInt8.le_trans (h hvalue) hb)
    have := UInt8.le_iff_toNat_le.1 hb'
    simp only [UInt8.toNat_ofNat] at *
    omega
  · omega

/-- A lead byte opens a sound state. -/
theorem start_sound (b : UInt8) : (start b).2.Sound := by
  unfold start
  split
  · trivial
  split
  · trivial
  split
  · refine ⟨by decide, by decide, fun c _ _ => ?_⟩
    simp only [UInt8.lt_iff_toNat_lt, UInt8.toNat_ofNat] at *
    omega
  split
  · refine sound_inside (by decide) (by split <;> decide) (by split <;> decide) fun hzero => ?_
    have hb : b = 0xE0 := by
      simp only [UInt8.lt_iff_toNat_lt, UInt8.toNat_ofNat, ← UInt8.toNat_inj] at *
      omega
    rw [if_pos hb]
    decide
  split
  · refine sound_inside (by decide) (by split <;> decide) (by split <;> decide) fun hzero => ?_
    have hb : b = 0xF0 := by
      simp only [UInt8.lt_iff_toNat_lt, UInt8.toNat_ofNat, ← UInt8.toNat_inj] at *
      omega
    rw [if_pos hb]
    decide
  · trivial

/-- The last byte that an open character owes completes it, and any other byte within the range is taken into it. -/
theorem step_inside {owed value : Nat} {low high b : UInt8} (h : low ≤ b ∧ b ≤ high) :
    step (.inside owed value low high) b =
      if owed = 0 then ([Char.ofNat (value * 64 + b.toNat % 64)], .between)
      else ([], .inside (owed - 1) (value * 64 + b.toNat % 64) 0x80 0xBF) := by
  cases owed <;> simp [step, h]

/-- A byte outside the range breaks the open character and is read afresh. -/
theorem step_broken {owed value : Nat} {low high b : UInt8} (h : ¬(low ≤ b ∧ b ≤ high)) :
    step (.inside owed value low high) b = (replacement :: (start b).1, (start b).2) := by
  cases owed <;> simp only [step, if_neg h]

/-- A step leaves a sound state. -/
theorem step_sound {s : State} (hs : s.Sound) (b : UInt8) : (step s b).2.Sound := by
  cases s with
  | between => exact start_sound b
  | inside owed value low high =>
    by_cases hb : low ≤ b ∧ b ≤ high
    · have := (hs.2.2 b hb.1 (UInt8.le_trans hb.2 hs.2.1)).1
      rw [step_inside hb]
      split
      · trivial
      · exact ⟨by decide, by decide, fun c _ _ => by omega⟩
    · rw [step_broken hb]
      exact start_sound b

/-- Reading comes to a cut with some characters completed, and goes on from there in a sound state. -/
theorem exists_cut {s : State} (hs : s.Sound) (xs : List UInt8) :
    ∃ cs t, t.Sound ∧ decodeFrom s xs = cs ++ finish t ∧ ∀ ys, decodeFrom s (xs ++ ys) = cs ++ decodeFrom t ys := by
  -- The induction is on what comes before the cut, from any sound state; the invariant is what `step_sound` keeps.
  induction xs generalizing s with
  | nil => exact ⟨[], s, hs, rfl, fun _ => rfl⟩
  | cons x xs ih =>
    obtain ⟨cs, t, ht, hend, hcut⟩ := ih (step_sound hs x)
    refine ⟨(step s x).1 ++ cs, t, ht, ?_, fun ys => ?_⟩
    · rw [decodeFrom_cons, hend, List.append_assoc]
    · rw [List.cons_append, decodeFrom_cons, hcut, List.append_assoc]

/-! ## ASCII bytes -/

/-- An ASCII byte closes what is open and is a character of its own. -/
theorem step_ascii {s : State} (hs : s.Sound) {b : UInt8} (hb : b < 0x80) :
    step s b = (finish s ++ [Char.ofNat b.toNat], .between) := by
  cases s with
  | between => rw [step, start_ascii hb, finish, List.nil_append]
  | inside owed value low high =>
    rw [step_broken fun h => UInt8.not_le.2 hb (UInt8.le_trans hs.1 h.1), start_ascii hb]
    rfl

/-- What an ASCII byte parts is read apart. -/
theorem decode_append_ascii {b : UInt8} (hb : b < 0x80) (xs ys : List UInt8) :
    decode (xs ++ b :: ys) = decode xs ++ Char.ofNat b.toNat :: decode ys := by
  obtain ⟨cs, t, ht, hend, hcut⟩ := exists_cut (s := .between) trivial xs
  rw [decode, hcut, decodeFrom_cons, step_ascii ht hb, decode, hend, List.append_assoc, List.append_assoc]
  rfl

/-- ASCII bytes are read as the characters of their values, and what comes after them as it would be alone. -/
theorem decode_ascii_append {xs : List UInt8} (h : ∀ b ∈ xs, b < 0x80) (ys : List UInt8) :
    decode (xs ++ ys) = xs.map (Char.ofNat ·.toNat) ++ decode ys := by
  induction xs with
  | nil => rfl
  | cons x xs ih =>
    rw [List.cons_append, ← List.nil_append (x :: (xs ++ ys)), decode_append_ascii (h x List.mem_cons_self), decode_nil,
      List.nil_append, ih fun b hb => h b (List.mem_cons_of_mem _ hb), List.map_cons, List.cons_append]

/-- A text is read line by line. -/
theorem decode_intercalate (lines : List (List UInt8)) :
    decode ([newline].intercalate lines) = ['\n'].intercalate (lines.map decode) := by
  induction lines with
  | nil => rfl
  | cons line lines ih =>
    cases lines with
    | nil => simp
    | cons next lines =>
      rw [List.intercalate_cons_cons, List.append_assoc, List.singleton_append, decode_append_ascii (by decide), ih,
        List.map_cons, List.map_cons, List.map_cons, List.intercalate_cons_cons, List.append_assoc]
      rfl

/-! ## One more byte -/

/-- The character of a value has that value, if there is such a character. -/
theorem toNat_ofNat {n : Nat} (h : n.isValidChar) : (Char.ofNat n).toNat = n := by
  unfold Char.ofNat
  rw [dif_pos h]
  unfold Char.ofNatAux Char.toNat
  simp

theorem toNat_ofNat_of_le {n : Nat} (h : 128 ≤ n) : (Char.ofNat n).toNat = 0 ∨ 128 ≤ (Char.ofNat n).toNat := by
  by_cases hn : n.isValidChar
  · rw [toNat_ofNat hn]
    exact .inr h
  · left
    unfold Char.ofNat
    rw [dif_neg hn]
    rfl

/-- A byte that is no ASCII byte is a broken part or opens a character. -/
theorem start_of_not_ascii {b : UInt8} (h : ¬b < 0x80) :
    start b = ([replacement], .between) ∨ ∃ owed value low high, start b = ([], .inside owed value low high) := by
  unfold start
  rw [if_neg h]
  split
  · exact .inl rfl
  split
  · exact .inr ⟨_, _, _, _, rfl⟩
  split
  · exact .inr ⟨_, _, _, _, rfl⟩
  split
  · exact .inr ⟨_, _, _, _, rfl⟩
  · exact .inl rfl

/-- A byte alone is read as one character: an ASCII byte as its own, any other as a broken part. -/
theorem decode_singleton (b : UInt8) : ∃ c, decode [b] = [c] ∧ (c.toNat = b.toNat ∨ 128 ≤ c.toNat) := by
  rw [decode, decodeFrom_cons, step, decodeFrom_nil]
  by_cases hb : b < 0x80
  · have hvalue : b.toNat < 128 := UInt8.lt_iff_toNat_lt.1 hb
    rw [start_ascii hb]
    exact ⟨_, rfl, .inl (toNat_ofNat (.inl (by omega)))⟩
  · refine ⟨replacement, ?_, .inr (by decide)⟩
    rcases start_of_not_ascii hb with hstart | ⟨owed, value, low, high, hstart⟩ <;> rw [hstart] <;> rfl

/-- From a sound state one byte adds a character to what the end would leave, or changes the broken part that it would leave. -/
theorem decodeFrom_singleton {s : State} (hs : s.Sound) (b : UInt8) :
    (∃ c, (c.toNat = b.toNat ∨ 128 ≤ c.toNat) ∧ decodeFrom s [b] = finish s ++ [c]) ∨
      ∃ c, (c.toNat = 0 ∨ 128 ≤ c.toNat) ∧ finish s = [replacement] ∧ decodeFrom s [b] = [c] := by
  obtain ⟨c, hc, hvalue⟩ := decode_singleton b
  cases s with
  | between => exact .inl ⟨c, hvalue, hc⟩
  | inside owed value low high =>
    rw [decodeFrom_cons]
    by_cases hin : low ≤ b ∧ b ≤ high
    · rw [step_inside hin]
      split
      next howed =>
        exact .inr ⟨_, toNat_ofNat_of_le ((hs.2.2 b hin.1 (UInt8.le_trans hin.2 hs.2.1)).2 howed), rfl, rfl⟩
      next => exact .inr ⟨replacement, .inr (by decide), rfl, rfl⟩
    · rw [step_broken hin]
      exact .inl ⟨c, hvalue, congrArg (replacement :: ·) hc⟩

/-- One more byte is read as one more character, which is its own if it is an ASCII character, or changes the broken part at the
end into what is no ASCII character; what stands for a value that is no character is U+0000. -/
theorem decode_concat (xs : List UInt8) (b : UInt8) :
    (∃ c, (c.toNat = b.toNat ∨ 128 ≤ c.toNat) ∧ decode (xs ++ [b]) = decode xs ++ [c]) ∨
      ∃ cs c, (c.toNat = 0 ∨ 128 ≤ c.toNat) ∧ decode xs = cs ++ [replacement] ∧ decode (xs ++ [b]) = cs ++ [c] := by
  obtain ⟨cs, t, ht, hend, hcut⟩ := exists_cut (s := .between) trivial xs
  rcases decodeFrom_singleton ht b with ⟨c, hvalue, hread⟩ | ⟨c, hvalue, hfinish, hread⟩
  · refine .inl ⟨c, hvalue, ?_⟩
    rw [decode, hcut, hread, decode, hend, List.append_assoc]
  · refine .inr ⟨cs, c, hvalue, ?_, ?_⟩
    · rw [decode, hend, hfinish]
    · rw [decode, hcut, hread]

/-- An ASCII character other than U+0000 is not read from bytes among which its own is not. -/
theorem not_mem_decode {a : Char} (hzero : 0 < a.toNat) (hascii : a.toNat < 128) {bytes : List UInt8}
    (h : ∀ b ∈ bytes, b.toNat ≠ a.toNat) : a ∉ decode bytes := by
  -- The induction is on the bytes from the last one back: what the last one adds or changes is another character.
  induction bytes using List.reverseRecOn with
  | nil => exact List.not_mem_nil
  | append_singleton xs b ih =>
    have hxs := ih fun x hx => h x (List.mem_append_left _ hx)
    have hb := h b (List.mem_append_right _ List.mem_cons_self)
    rcases decode_concat xs b with ⟨c, hvalue, hread⟩ | ⟨cs, c, hvalue, hcs, hread⟩
    · rw [hread, List.mem_append, List.mem_singleton, not_or]
      refine ⟨hxs, ?_⟩
      rintro rfl
      omega
    · rw [hcs, List.mem_append, not_or] at hxs
      rw [hread, List.mem_append, List.mem_singleton, not_or]
      refine ⟨hxs.1, ?_⟩
      rintro rfl
      omega

/-- Bytes without a newline are read without one. -/
theorem newline_not_mem_decode {bytes : List UInt8} (h : newline ∉ bytes) : '\n' ∉ decode bytes :=
  not_mem_decode (by decide) (by decide) fun b hb heq => h ((UInt8.toNat_inj.1 heq : b = newline) ▸ hb)

/-! ## Writing what was read -/

/-- Only the newline is written with the byte that ends a line. -/
theorem newline_not_mem_utf8EncodeChar {c : Char} (h : c ≠ '\n') : newline ∉ String.utf8EncodeChar c := by
  have hvalue : c.val.toNat ≠ 10 := fun hc => h (Char.ext (UInt32.toNat_inj.1 hc))
  unfold String.utf8EncodeChar
  simp only [newline]
  generalize c.val.toNat = value at hvalue ⊢
  split
  · simp [← UInt8.toNat_inj]
    omega
  split
  · simp [← UInt8.toNat_inj]
    omega
  split
  · simp [← UInt8.toNat_inj]
    omega
  · simp [← UInt8.toNat_inj]
    omega

/-- Characters without a newline are written without one. -/
theorem newline_not_mem_encode {chars : List Char} (h : '\n' ∉ chars) : newline ∉ encode chars := by
  rw [encode, List.mem_flatMap]
  rintro ⟨c, hc, hmem⟩
  exact newline_not_mem_utf8EncodeChar (fun heq => h (heq ▸ hc)) hmem

/-- Lines are written line by line. -/
theorem encode_intercalate (lines : List (List Char)) :
    encode (['\n'].intercalate lines) = [newline].intercalate (lines.map encode) := by
  induction lines with
  | nil => rfl
  | cons line lines ih =>
    cases lines with
    | nil => simp
    | cons next lines =>
      rw [List.intercalate_cons_cons, encode_append, encode_append, ih, List.map_cons, List.map_cons, List.map_cons,
        List.intercalate_cons_cons]
      rfl

/-- Bytes without broken parts: writing what is read gives them back. -/
def Valid (bytes : List UInt8) : Prop := encode (decode bytes) = bytes

/-- A text without broken parts has none in any line. -/
theorem Valid.line {lines : List (List UInt8)} (hlines : ∀ line ∈ lines, newline ∉ line)
    (h : Valid ([newline].intercalate lines)) : ∀ line ∈ lines, Valid line := by
  intro line hline
  have hne : lines ≠ [] := List.ne_nil_of_mem hline
  have hsplit : lines.map (encode ∘ decode) = lines := by
    rw [Valid, decode_intercalate, encode_intercalate, List.map_map] at h
    have := congrArg (List.splitOn newline) h
    rwa [List.splitOn_intercalate newline ?_ (by simpa using hne), List.splitOn_intercalate newline hlines hne] at this
    intro other hother
    obtain ⟨line, hline, rfl⟩ := List.mem_map.1 hother
    exact newline_not_mem_encode (newline_not_mem_decode (hlines line hline))
  exact List.map_inj_left.1 (hsplit.trans (List.map_id lines).symm) line hline

/-- Lines without broken parts make up a text without any. -/
theorem Valid.intercalate {lines : List (List UInt8)} (h : ∀ line ∈ lines, Valid line) :
    Valid ([newline].intercalate lines) := by
  rw [Valid, decode_intercalate, encode_intercalate, List.map_map]
  exact congrArg [newline].intercalate ((List.map_congr_left h).trans (List.map_id lines))

/-- ASCII bytes are written as they were read. -/
theorem encode_ascii {xs : List UInt8} (h : ∀ b ∈ xs, b < 0x80) : encode (xs.map (Char.ofNat ·.toNat)) = xs := by
  induction xs with
  | nil => rfl
  | cons x xs ih =>
    have hx : x.toNat < 0x80 := UInt8.lt_iff_toNat_lt.1 (h x List.mem_cons_self)
    have hvalue : (Char.ofNat x.toNat).val.toNat = x.toNat := toNat_ofNat (Or.inl (by omega))
    have hchar : String.utf8EncodeChar (Char.ofNat x.toNat) = [x] := by
      unfold String.utf8EncodeChar
      rw [hvalue, if_pos (by omega), UInt8.ofNat_toNat]
    rw [List.map_cons, encode, List.flatMap_cons, hchar, ← encode, ih fun b hb => h b (List.mem_cons_of_mem _ hb)]
    rfl

/-- Bytes after ASCII bytes have no broken parts exactly when the whole has none. -/
theorem valid_ascii_append_iff {xs ys : List UInt8} (hxs : ∀ b ∈ xs, b < 0x80) : Valid (xs ++ ys) ↔ Valid ys := by
  rw [Valid, decode_ascii_append hxs, encode_append, encode_ascii hxs, List.append_cancel_left_eq, Valid]

/-! ## Blanks -/

/-- The first character that is read is that of the first byte's value, or no ASCII character, or no blank. -/
theorem head_decode_cons (b : UInt8) (bytes : List UInt8) :
    ∃ c rest, decode (b :: bytes) = c :: rest ∧ (c.toNat = b.toNat ∨ c.toNat = 0 ∨ 128 ≤ c.toNat) := by
  induction bytes using List.reverseRecOn with
  | nil =>
    obtain ⟨c, hc, hvalue⟩ := decode_singleton b
    exact ⟨c, [], hc, hvalue.imp_right .inr⟩
  | append_singleton bytes x ih =>
    obtain ⟨c, rest, hc, hvalue⟩ := ih
    rw [← List.cons_append]
    rcases decode_concat (b :: bytes) x with ⟨d, -, hread⟩ | ⟨cs, d, hd, hcs, hread⟩
    · exact ⟨c, rest ++ [d], by rw [hread, hc, List.cons_append], hvalue⟩
    · cases cs with
      | nil => exact ⟨d, [], hread, .inr hd⟩
      | cons first cs =>
        obtain rfl : c = first := (List.cons.inj (hc.symm.trans hcs)).1
        exact ⟨c, cs ++ [d], hread, hvalue⟩

/-- Something is read as soon as there is a byte. -/
theorem decode_eq_nil_iff {bytes : List UInt8} : decode bytes = [] ↔ bytes = [] := by
  cases bytes with
  | nil => exact iff_of_true rfl rfl
  | cons b bytes =>
    obtain ⟨c, rest, hc, -⟩ := head_decode_cons b bytes
    rw [hc]
    exact iff_of_false (List.cons_ne_nil _ _) (List.cons_ne_nil _ _)

/-- Only a blank is written with a blank at its front. -/
theorem head_utf8EncodeChar (c : Char) :
    ∃ b rest, String.utf8EncodeChar c = b :: rest ∧ (isBlankByte b = true → c.toNat = b.toNat) := by
  unfold String.utf8EncodeChar
  simp only
  split
  · refine ⟨_, _, rfl, fun _ => ?_⟩
    simp only [Char.toNat, UInt8.toNat_ofNat']
    omega
  split
  · refine ⟨_, _, rfl, fun h => ?_⟩
    simp [isBlankByte, ← UInt8.toNat_inj] at h
    omega
  split
  · refine ⟨_, _, rfl, fun h => ?_⟩
    simp [isBlankByte, ← UInt8.toNat_inj] at h
    omega
  · refine ⟨_, _, rfl, fun h => ?_⟩
    simp [isBlankByte, ← UInt8.toNat_inj] at h
    omega

/-- Bytes that do not start with a blank do not when they are written as they are read. -/
theorem dropWhile_encode_decode {bytes : List UInt8} (h : ∀ b ∈ bytes.head?, isBlankByte b = false) :
    (encode (decode bytes)).dropWhile isBlankByte = encode (decode bytes) := by
  cases bytes with
  | nil => rfl
  | cons b bytes =>
    have hb : isBlankByte b = false := h b rfl
    obtain ⟨c, rest, hc, hvalue⟩ := head_decode_cons b bytes
    obtain ⟨first, more, hfirst, hblank⟩ := head_utf8EncodeChar c
    have hplain : ¬isBlankByte first = true := by
      intro hfirst
      have hto := hblank hfirst
      rcases hvalue with hvalue | hvalue
      · obtain rfl : first = b := UInt8.toNat_inj.1 (hto.symm.trans hvalue)
        rw [hb] at hfirst
        cases hfirst
      · simp only [isBlankByte, Bool.or_eq_true, beq_iff_eq] at hfirst
        rcases hfirst with (((rfl | rfl) | rfl) | rfl) | rfl <;> simp at hto <;> omega
    rw [hc, encode, List.flatMap_cons, hfirst, List.cons_append, List.dropWhile_cons_of_neg hplain]

end AwkEdit.Utf8
