import AwkEdit.Proofs.Text.Decoding
import AwkEdit.Toml.Document
import AwkEdit.Toml.Printer

/-!
# Values that are read as they were written

The writer and the reader of TOML have no code in common: a character is written as itself, after a backslash, or as its code in
four digits, and is read by a machine that is told where it stands. For each kind of value there is one lemma, about the text of the
value and whatever comes after it, and the value is what the reader takes from the front of that text (`Toml.value_chars`).
-/

namespace AwkEdit.Toml

variable {rest : List Char}

/-- A character of a class is none of the characters that are not of it. -/
theorem notMem_of_holds {holds : Char → Bool} {c : Char} {others : List Char} (hc : holds c = true)
    (hothers : others.all (fun d => !holds d) = true) : c ∉ others := by
  intro hmem
  have hnot := List.all_eq_true.1 hothers c hmem
  rw [hc] at hnot
  cases hnot

theorem ne_of_holds {holds : Char → Bool} {c other : Char} (hc : holds c = true) (hother : holds other = false) : c ≠ other := by
  rintro rfl
  rw [hc] at hother
  cases hother

/-! ## Strings -/

theorem hexValue?_hexDigit : ∀ k < 16, Quoted.hexValue? (Quoted.hexDigit k) = some k := by decide

/-- A character that is written by its code is read by it. -/
theorem basic_code {c : Char} (hc : c.toNat < 0x10000) (rest : List Char) :
    basic .plain ('\\' :: 'u' :: Quoted.hexDigits 4 c.toNat ++ rest) = (basic .plain rest).map (push c) := by
  have hdigits : Quoted.hexDigits 4 c.toNat = [Quoted.hexDigit (c.toNat / 16 / 16 / 16 % 16), Quoted.hexDigit (c.toNat / 16 / 16 % 16),
      Quoted.hexDigit (c.toNat / 16 % 16), Quoted.hexDigit (c.toNat % 16)] := rfl
  have hvalue : (((0 * 16 + c.toNat / 16 / 16 / 16 % 16) * 16 + c.toNat / 16 / 16 % 16) * 16 + c.toNat / 16 % 16) * 16 +
      c.toNat % 16 = c.toNat := by omega
  have hchar : charOf? c.toNat = some c := by
    have hvalid : c.toNat.isValidChar := c.valid
    rw [charOf?, if_pos hvalid, Char.ofNat_toNat]
  have hdigit : ∀ k, Quoted.hexValue? (Quoted.hexDigit (k % 16)) = some (k % 16) := fun k =>
    hexValue?_hexDigit _ (Nat.mod_lt k (by decide))
  have hopening : ∀ cs, basic .plain ('\\' :: 'u' :: cs) = basic (.code 3 0) cs := fun cs => rfl
  rw [hdigits, List.cons_append, List.cons_append, hopening]
  simp only [List.cons_append, List.nil_append, basic, hdigit, hvalue, hchar]

/-- A written character is read as it was. -/
theorem basic_writtenChar (c : Char) (rest : List Char) :
    basic .plain (writtenChar c ++ rest) = (basic .plain rest).map (push c) := by
  rw [writtenChar]
  by_cases hquote : c = '\x22'
  · subst hquote
    rfl
  rw [if_neg hquote]
  by_cases hbackslash : c = '\\'
  · subst hbackslash
    rfl
  rw [if_neg hbackslash]
  -- The backspace, the tab, the newline, the form feed and the return are written as letters after a backslash.
  iterate 5
    split
    next h =>
      subst h
      rfl
  split
  next hcontrol => exact basic_code (by omega) rest
  next hplain =>
    have hplain : isPlain c = true := by simp [isPlain, isControl]; omega
    rw [List.singleton_append, basic, if_neg hquote, if_neg hbackslash, if_pos hplain]

/-- A written text is read up to its closing quote. -/
theorem basic_writtenText (text rest : List Char) :
    basic .plain (text.flatMap writtenChar ++ '\x22' :: rest) = some (text, rest) := by
  induction text with
  | nil => rfl
  | cons c text ih =>
    rw [List.flatMap_cons, List.append_assoc, basic_writtenChar, ih]
    rfl

theorem head?_writtenChar (c : Char) : ∃ d tail, writtenChar c = d :: tail ∧ d ≠ '\x22' := by
  rw [writtenChar]
  split
  · exact ⟨_, _, rfl, by decide⟩
  next hquote =>
    repeat' split
    all_goals first | exact ⟨_, _, rfl, by decide⟩ | exact ⟨_, _, rfl, hquote⟩

/-- The quote of a written text is not the first of three. -/
theorem twoQuotes_writtenText (text : List Char) (hrest : rest.head? ≠ some '\x22') :
    twoQuotes '\x22' (text.flatMap writtenChar ++ '\x22' :: rest) = false := by
  cases text with
  | nil =>
    cases rest with
    | nil => rfl
    | cons c rest => simpa [twoQuotes] using hrest
  | cons c text =>
    obtain ⟨d, tail, hd, hne⟩ := head?_writtenChar c
    rw [List.flatMap_cons, hd]
    cases h : tail ++ text.flatMap writtenChar ++ '\x22' :: rest with
    | nil => simp at h
    | cons e after => simp [twoQuotes, h, hne]

/-- A string is read as it was written. -/
theorem valueWithin_writtenText (fuel : Nat) (text : String) (hrest : rest.head? ≠ some '\x22') :
    valueWithin (fuel + 1) (writtenText text ++ rest) = .ok (.text text, rest) := by
  have hwritten : writtenText text ++ rest = '\x22' :: (text.toList.flatMap writtenChar ++ '\x22' :: rest) := by
    rw [writtenText, List.cons_append, List.cons_append, List.append_assoc, List.singleton_append]
  rw [hwritten]
  simp only [valueWithin, if_pos, stringAfter, twoQuotes_writtenText _ hrest]
  rw [if_neg Bool.false_ne_true, basic_writtenText]
  simp [sound]

/-! ## Integers and truth values -/

section Digits

variable {ds : List Char}

theorem digits_append_newline (hds : ∀ c ∈ ds, c.isDigit = true) (rest : List Char) :
    digits Char.isDigit (ds ++ '\n' :: rest) = (ds, '\n' :: rest) := by
  induction ds with
  | nil => simp [digits]
  | cons c ds ih =>
    obtain ⟨hc, hds⟩ := List.forall_mem_cons.1 hds
    rw [List.cons_append]
    unfold digits
    split
    next heq => exact absurd (List.cons.inj heq).1 (ne_of_holds hc (by decide))
    next heq =>
      obtain ⟨rfl, rfl⟩ := List.cons.inj heq
      rw [if_pos hc, ih hds]
      rfl
    next heq => cases heq

/-- After digits there is a newline, and no other mark. -/
theorem mark_append_newline (hds : ∀ c ∈ ds, c.isDigit = true) {m : Char} (hm : m.isDigit = false) (hne : '\n' ≠ m)
    (rest : List Char) : mark m (ds ++ '\n' :: rest) = none := by
  cases ds with
  | nil => rw [List.nil_append, mark, if_neg hne]
  | cons c ds => rw [List.cons_append, mark, if_neg (ne_of_holds (List.forall_mem_cons.1 hds).1 hm)]

/-- Two digits are taken from among digits. -/
theorem pair_append_newline (hds : ∀ c ∈ ds, c.isDigit = true) {low high n : Nat} {after : List Char}
    (h : pair low high (ds ++ '\n' :: rest) = some (n, after)) :
    ∃ ds', (∀ c ∈ ds', c.isDigit = true) ∧ after = ds' ++ '\n' :: rest := by
  rcases ds with _ | ⟨a, _ | ⟨b, ds⟩⟩
  · cases rest <;> simp [pair] at h
  · simp [pair] at h
  · simp only [List.cons_append, pair, Option.ite_none_right_eq_some, Option.some.injEq, Prod.mk.injEq] at h
    exact ⟨ds, fun c hc => hds c (List.mem_cons_of_mem a (List.mem_cons_of_mem b hc)), h.2.2.symm⟩

theorem afterTime_append_newline (hds : ∀ c ∈ ds, c.isDigit = true) (rest : List Char) :
    afterTime (ds ++ '\n' :: rest) = none := by
  rw [afterTime]
  cases h : pair 0 23 (ds ++ '\n' :: rest) with
  | none => rfl
  | some found =>
    obtain ⟨ds', hds', hafter⟩ := pair_append_newline hds h
    simp [hafter, mark_append_newline hds']

theorem afterDate_append_newline (hds : ∀ c ∈ ds, c.isDigit = true) (rest : List Char) :
    afterDate (ds ++ '\n' :: rest) = none := by
  rw [afterDate]
  cases h : pair 0 99 (ds ++ '\n' :: rest) with
  | none => rfl
  | some found =>
    obtain ⟨ds', hds', hafter⟩ := pair_append_newline hds h
    cases h' : pair 0 99 found.2 with
    | none => simp [h']
    | some again =>
      rw [hafter] at h'
      obtain ⟨ds'', hds'', hafter'⟩ := pair_append_newline hds' h'
      simp [hafter, h', hafter', mark_append_newline hds'']

/-- Digits alone are no date and no time. -/
theorem moment_append_newline (hds : ∀ c ∈ ds, c.isDigit = true) (rest : List Char) : moment (ds ++ '\n' :: rest) = none := by
  simp [moment, afterMoment, afterDate_append_newline hds, afterTime_append_newline hds]

theorem valueOf_digits (hds : ∀ c ∈ ds, c.isDigit = true) : valueOf 10 ds = Nat.ofDigitChars 10 ds 0 := by
  have hfold : ∀ n, ds.foldl (fun n c => n * 10 + (Quoted.hexValue? c).getD 0) n = Nat.ofDigitChars 10 ds n := by
    induction ds with
    | nil => exact fun n => rfl
    | cons c ds ih =>
      obtain ⟨hc, hds⟩ := List.forall_mem_cons.1 hds
      intro n
      rw [List.foldl_cons, ih hds, Nat.ofDigitChars_cons, Quoted.hexValue?, if_pos hc, Nat.mul_comm]
      rfl
  exact hfold 0

end Digits

theorem isDigit_toDigits (n : Nat) : ∀ c ∈ Nat.toDigits 10 n, c.isDigit = true :=
  fun _ => Nat.isDigit_of_mem_toDigits (by decide) (by decide)

/-- A number is written without a leading zero. -/
theorem eq_nil_of_toDigits {n : Nat} {ds : List Char} (h : Nat.toDigits 10 n = '0' :: ds) : ds = [] := by
  induction n using Nat.strongRecOn generalizing ds with
  | ind n ih =>
    by_cases hn : n < 10
    · rw [Nat.toDigits_of_lt_base hn] at h
      exact (List.cons.inj h).2.symm
    · rw [Nat.toDigits_of_base_le (by decide) (by omega)] at h
      cases hfront : Nat.toDigits 10 (n / 10) with
      | nil => exact absurd hfront Nat.toDigits_ne_nil
      | cons d front =>
        rw [hfront, List.cons_append] at h
        obtain ⟨rfl, -⟩ := List.cons.inj h
        have hvalue := Nat.ofDigitChars_ten_toDigits (n := n / 10)
        rw [hfront, ih _ (by omega) hfront] at hvalue
        have hzero : n / 10 = 0 := hvalue.symm
        omega

/-- A number as it is written: its first digit and the others; a zero is the only one. -/
theorem exists_toDigits (n : Nat) :
    ∃ d ds, Nat.toDigits 10 n = d :: ds ∧ d.isDigit = true ∧ (∀ c ∈ ds, c.isDigit = true) ∧ (d = '0' → ds = []) := by
  cases h : Nat.toDigits 10 n with
  | nil => exact absurd h Nat.toDigits_ne_nil
  | cons d ds =>
    have hdigits := isDigit_toDigits n
    rw [h] at hdigits
    obtain ⟨hd, hds⟩ := List.forall_mem_cons.1 hdigits
    refine ⟨d, ds, rfl, hd, hds, ?_⟩
    rintro rfl
    exact eq_nil_of_toDigits h

theorem integerPart_toDigits (n : Nat) (rest : List Char) :
    integerPart (Nat.toDigits 10 n ++ '\n' :: rest) = some (Nat.toDigits 10 n, '\n' :: rest) := by
  obtain ⟨d, ds, hn, hd, hds, hzero⟩ := exists_toDigits n
  rw [hn, List.cons_append]
  unfold integerPart
  split
  next heq =>
    obtain ⟨rfl, rfl⟩ := List.cons.inj heq
    rw [hzero rfl, List.nil_append]
  next =>
    have hdigits : ∀ c ∈ d :: ds, c.isDigit = true := List.forall_mem_cons.2 ⟨hd, hds⟩
    rw [someDigits, if_pos hd, ← List.cons_append, digits_append_newline hdigits]

theorem unsigned_toDigits {n : Nat} (hn : (Nat.toDigits 10 n).length ≤ IntegerText.longest) (rest : List Char) :
    unsigned false (Nat.toDigits 10 n ++ '\n' :: rest) = .ok (.integer n, '\n' :: rest) := by
  have hvalue : valueOf 10 (Nat.toDigits 10 n) = n := by
    rw [valueOf_digits (isDigit_toDigits n), Nat.ofDigitChars_ten_toDigits]
  have hfraction : fractionPart ('\n' :: rest) = ([], '\n' :: rest) := rfl
  have hexponent : exponentPart ('\n' :: rest) = (none, '\n' :: rest) := by simp [exponentPart]
  rw [unsigned, integerPart_toDigits]
  simp only [sound, bind, Except.bind, hfraction, hexponent, List.append_nil, hvalue, if_neg (Nat.not_lt.2 hn)]
  rfl

/-- A number is read as it was written, on its own line. -/
theorem number_toDigits {n : Nat} (hn : (Nat.toDigits 10 n).length ≤ IntegerText.longest) (rest : List Char) :
    number (Nat.toDigits 10 n ++ '\n' :: rest) = .ok (.integer n, '\n' :: rest) := by
  have hunsigned := unsigned_toDigits hn rest
  obtain ⟨d, ds, hds, hd, -, hzero⟩ := exists_toDigits n
  rw [hds, List.cons_append] at hunsigned ⊢
  have hsecond : ∀ {c more}, d :: (ds ++ '\n' :: rest) = '0' :: c :: more → c = '\n' := by
    intro c more heq
    obtain ⟨hd, htail⟩ := List.cons.inj heq
    rw [hzero hd, List.nil_append] at htail
    exact (List.cons.inj htail).1.symm
  have hsign : sign (d :: (ds ++ '\n' :: rest)) = (false, d :: (ds ++ '\n' :: rest)) := by
    unfold sign
    split
    next heq => exact absurd (List.cons.inj heq).1 (ne_of_holds hd (by decide))
    next heq => exact absurd (List.cons.inj heq).1 (ne_of_holds hd (by decide))
    next => rfl
  unfold number
  split
  next heq => exact absurd (hsecond heq) (by decide)
  next heq => exact absurd (hsecond heq) (by decide)
  next heq => exact absurd (hsecond heq) (by decide)
  · rw [hsign]
    split
    next heq => exact absurd (List.cons.inj (Prod.mk.inj heq).2).1 (ne_of_holds hd (by decide))
    next heq => exact absurd (List.cons.inj (Prod.mk.inj heq).2).1 (ne_of_holds hd (by decide))
    next heq =>
      obtain ⟨rfl, rfl⟩ := Prod.mk.inj heq
      exact hunsigned

theorem scalar_toDigits {n : Nat} (hn : (Nat.toDigits 10 n).length ≤ IntegerText.longest) (rest : List Char) :
    scalar (Nat.toDigits 10 n ++ '\n' :: rest) = .ok (.integer n, '\n' :: rest) := by
  have hnumber := number_toDigits hn rest
  have hmoment := moment_append_newline (isDigit_toDigits n) rest
  obtain ⟨d, ds, hds, hd, -, -⟩ := exists_toDigits n
  rw [hds, List.cons_append] at hnumber hmoment ⊢
  unfold scalar
  split
  next heq => exact absurd (List.cons.inj heq).1 (ne_of_holds hd (by decide))
  next heq => exact absurd (List.cons.inj heq).1 (ne_of_holds hd (by decide))
  next => rw [hmoment, Option.map_none, Option.getD_none, hnumber]

/-! ## Values -/

/-- The value of what is written on one line. -/
def Plain.setting : Plain → Setting
  | text value => .text value
  | number value => .integer value
  | truth value => .truth value
  | texts values => .list (values.map .text)

/-- What starts with no quote, no bracket and no brace is a date, a number or a truth value. -/
theorem valueWithin_scalar (fuel : Nat) {c : Char} (hc : c ∉ ['\x22', '\x27', '[', '\x7b']) (cs : List Char) :
    valueWithin (fuel + 1) (c :: cs) = scalar (c :: cs) := by
  simp only [List.mem_cons, List.not_mem_nil, or_false, not_or] at hc
  rw [valueWithin, if_neg hc.1, if_neg hc.2.1, if_neg hc.2.2.1, if_neg hc.2.2.2]

theorem exists_writtenText (text : String) : ∃ cs, writtenText text = '\x22' :: cs := ⟨_, rfl⟩

/-- Strings that are set off by commas start with a quote. -/
theorem exists_writtenTexts (text : String) (values : List String) :
    ∃ cs, [',', ' '].intercalate ((text :: values).map writtenText) = '\x22' :: cs := by
  obtain ⟨inside, hinside⟩ := exists_writtenText text
  cases values with
  | nil => exact ⟨inside, by rw [List.map_singleton, List.intercalate_singleton, hinside]⟩
  | cons next values =>
    rw [List.map_cons, List.map_cons, List.intercalate_cons_cons, hinside, List.append_assoc, List.cons_append]
    exact ⟨_, rfl⟩

/-- One string of an array is read, and what comes after it decides. -/
theorem itemsWithin_writtenText (fuel : Nat) (text : String) {cs : List Char} (hcs : cs.head? ≠ some '\x22') :
    itemsWithin (fuel + 1 + 1) (writtenText text ++ cs) = (do
      match ← sound (skipFill false cs) with
      | ']' :: rest => return ([.text text], rest)
      | ',' :: rest =>
        let (items, rest) ← itemsWithin (fuel + 1) (← sound (skipFill false rest))
        return (.text text :: items, rest)
      | _ => .error .malformed) := by
  obtain ⟨inside, hinside⟩ := exists_writtenText text
  have hvalue := valueWithin_writtenText fuel text hcs
  rw [hinside, List.cons_append] at hvalue ⊢
  simp only [itemsWithin, hvalue]
  rfl

/-- Strings are read up to the closing bracket, if there is fuel for each of them and for the bracket. -/
theorem itemsWithin_writtenTexts {fuel : Nat} {values : List String} (hfuel : values.length < fuel) (rest : List Char) :
    itemsWithin fuel ([',', ' '].intercalate (values.map writtenText) ++ ']' :: rest) = .ok (values.map .text, rest) := by
  induction values generalizing fuel with
  | nil =>
    obtain ⟨fuel, rfl⟩ := Nat.exists_eq_succ_of_ne_zero (Nat.ne_zero_of_lt hfuel)
    rfl
  | cons text values ih =>
    obtain ⟨fuel, rfl⟩ := Nat.exists_eq_succ_of_ne_zero (Nat.ne_zero_of_lt hfuel)
    have hfuel : values.length < fuel := Nat.lt_of_succ_lt_succ hfuel
    obtain ⟨below, rfl⟩ := Nat.exists_eq_succ_of_ne_zero (Nat.ne_zero_of_lt hfuel)
    cases values with
    | nil =>
      have hbracket : (']' :: rest).head? ≠ some '\x22' := by simp
      rw [List.map_singleton, List.intercalate_singleton, itemsWithin_writtenText below text hbracket]
      rfl
    | cons next values =>
      obtain ⟨inside, hinside⟩ := exists_writtenTexts next values
      have hnext := ih hfuel
      have hcomma : ([',', ' '] ++ ('\x22' :: inside ++ ']' :: rest)).head? ≠ some '\x22' := by simp
      have hfilled : skipFill false ([',', ' '] ++ ('\x22' :: inside ++ ']' :: rest)) =
          some (',' :: ' ' :: '\x22' :: (inside ++ ']' :: rest)) := rfl
      have hblank : skipFill false (' ' :: '\x22' :: (inside ++ ']' :: rest)) = some ('\x22' :: (inside ++ ']' :: rest)) := rfl
      rw [List.map_cons, List.map_cons, List.intercalate_cons_cons, ← List.map_cons, hinside, List.append_assoc, List.append_assoc,
        itemsWithin_writtenText below text hcomma, hfilled]
      rw [hinside, List.cons_append] at hnext
      simp only [sound, bind, Except.bind, hblank, hnext]
      rfl

/-- Strings that are set off by commas are written with a character for each of them. -/
theorem length_le_writtenTexts (values : List String) :
    values.length ≤ ([',', ' '].intercalate (values.map writtenText)).length := by
  induction values with
  | nil => exact Nat.zero_le _
  | cons text values ih =>
    obtain ⟨inside, hinside⟩ := exists_writtenText text
    cases values with
    | nil =>
      rw [List.map_singleton, List.intercalate_singleton, hinside, List.length_singleton, List.length_cons]
      omega
    | cons next values =>
      rw [List.map_cons, List.map_cons, List.intercalate_cons_cons, ← List.map_cons, hinside]
      simp only [List.length_append, List.length_cons] at ih ⊢
      omega

/-- Nothing is skipped before strings that are set off by commas. -/
theorem skipFill_writtenTexts (values : List String) (rest : List Char) :
    skipFill false ([',', ' '].intercalate (values.map writtenText) ++ ']' :: rest) =
      some ([',', ' '].intercalate (values.map writtenText) ++ ']' :: rest) := by
  cases values with
  | nil => rfl
  | cons text values =>
    obtain ⟨inside, hinside⟩ := exists_writtenTexts text values
    rw [hinside]
    rfl

/-- A value on its own line is read as it was written. -/
theorem value_chars {v : Plain} (hv : v.isWritable = true) (rest : List Char) :
    value (v.chars ++ '\n' :: rest) = .ok (v.setting, '\n' :: rest) := by
  have hnewline : ('\n' :: rest).head? ≠ some '\x22' := by simp
  rw [value]
  cases v with
  | text text => exact valueWithin_writtenText _ text hnewline
  | number n =>
    have hdigits : (Nat.toDigits 10 n).length ≤ IntegerText.longest := of_decide_eq_true hv
    have hscalar := scalar_toDigits hdigits rest
    obtain ⟨d, ds, hds, hd, -, -⟩ := exists_toDigits n
    have hplain : d ∉ ['\x22', '\x27', '[', '\x7b'] := notMem_of_holds hd rfl
    rw [hds, List.cons_append] at hscalar
    rw [Plain.chars, hds, List.cons_append, valueWithin_scalar _ hplain, hscalar]
    rfl
  | truth b => cases b <;> rfl
  | texts values =>
    have hchars : Plain.chars (.texts values) ++ '\n' :: rest =
        '[' :: ([',', ' '].intercalate (values.map writtenText) ++ ']' :: '\n' :: rest) := by
      rw [Plain.chars, List.cons_append, List.cons_append, List.append_assoc, List.singleton_append]
    have hfuel : values.length < ('[' :: ([',', ' '].intercalate (values.map writtenText) ++ ']' :: '\n' :: rest)).length := by
      have hlength := length_le_writtenTexts values
      rw [List.length_cons, List.length_append]
      omega
    rw [hchars]
    generalize ('[' :: ([',', ' '].intercalate (values.map writtenText) ++ ']' :: '\n' :: rest)).length = fuel at hfuel ⊢
    have hitems := itemsWithin_writtenTexts hfuel ('\n' :: rest)
    unfold valueWithin
    simp only [sound, bind, Except.bind, skipFill_writtenTexts, hitems]
    rfl

/-- A value is written without blanks at its front. -/
theorem skipBlanks_chars (v : Plain) (rest : List Char) : skipBlanks (v.chars ++ rest) = v.chars ++ rest := by
  cases v with
  | text text => rfl
  | number n =>
    obtain ⟨d, ds, hds, hd, -, -⟩ := exists_toDigits n
    have hblank : isBlank d = false := by
      rw [isBlank, Bool.or_eq_false_iff, decide_eq_false_iff_not, decide_eq_false_iff_not]
      exact ⟨ne_of_holds hd (by decide), ne_of_holds hd (by decide)⟩
    rw [Plain.chars, hds, List.cons_append, skipBlanks, List.dropWhile_cons_of_neg (Bool.eq_false_iff.1 hblank)]
  | truth b => cases b <;> rfl
  | texts values => rfl

end AwkEdit.Toml
