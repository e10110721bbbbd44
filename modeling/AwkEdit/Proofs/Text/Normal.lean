import AwkEdit.Proofs.Text.Decoding
import AwkEdit.Text.Blank
import AwkEdit.Text.Upper
import Mathlib.Data.List.DropRight

/-!
# Texts that trimming and upper case leave as they are

What has been trimmed is not trimmed any further, and the upper case of a text is its own upper case. Neither undoes the other: the
upper case of a trimmed text is trimmed, because no character but a white one has a white upper case. For upper case this is a
property of its tables, which is looked up run by run: the images of a run are compared as a whole with the other runs
(`UpperRun.isSettled`), not one by one.
-/

namespace AwkEdit.Text

/-! ## Trimming -/

variable {blank : Char → Bool} {cs : List Char}

/-- Characters with none of a class at either end. -/
def Trimmed (blank : Char → Bool) (cs : List Char) : Prop :=
  (∀ c ∈ cs.head?, blank c = false) ∧ ∀ c ∈ cs.getLast?, blank c = false

theorem trimChars_eq_self (h : Trimmed blank cs) : trimChars blank cs = cs := by
  have hstart : cs.dropWhile blank = cs := by
    cases cs with
    | nil => rfl
    | cons c rest => exact List.dropWhile_cons_of_neg (Bool.eq_false_iff.1 (h.1 c rfl))
  rw [trimChars, hstart]
  change cs.rdropWhile blank = cs
  exact List.rdropWhile_eq_self_iff.2 fun hne => Bool.eq_false_iff.1 (h.2 _ (List.getLast?_eq_some_getLast hne))

/-- Nothing of the class is left at either end: what is dropped at the end brings nothing else to the start. -/
theorem trimmed_trimChars (blank : Char → Bool) (cs : List Char) : Trimmed blank (trimChars blank cs) := by
  change Trimmed blank ((cs.dropWhile blank).rdropWhile blank)
  constructor
  · intro c hc
    obtain ⟨dropped, hdropped⟩ := List.rdropWhile_prefix blank (cs.dropWhile blank)
    have hfirst := List.head?_dropWhile_not blank cs
    rw [← hdropped, List.head?_append, hc] at hfirst
    exact hfirst
  · intro c hc
    obtain ⟨hne, rfl⟩ := List.mem_getLast?_eq_getLast hc
    exact Bool.eq_false_iff.2 (List.rdropWhile_last_not _ _ hne)

/-- Trimmed characters are left as they are. -/
theorem trimChars_trimChars (blank : Char → Bool) (cs : List Char) : trimChars blank (trimChars blank cs) = trimChars blank cs :=
  trimChars_eq_self (trimmed_trimChars blank cs)

theorem trimBlank_trimBlank (text : String) : trimBlank (trimBlank text) = trimBlank text := by
  rw [trimBlank, trimBlank, String.toList_ofList, trimChars_trimChars]

theorem trimWhite_trimWhite (text : String) : trimWhite (trimWhite text) = trimWhite text := by
  rw [trimWhite, trimWhite, String.toList_ofList, trimChars_trimChars]

/-- Texts that are trimmed of a class are trimmed of the smaller one. -/
theorem trimWhite_of_trimBlank {text : String} (h : trimBlank text = text) : trimWhite text = text := by
  have hblank : Trimmed isBlank text.toList := by
    rw [← h, trimBlank, String.toList_ofList]
    exact trimmed_trimChars _ _
  have hwhite : ∀ c, isBlank c = false → isWhite c = false := fun c hc =>
    Bool.eq_false_iff.2 fun hwhite => Bool.eq_false_iff.1 hc (isBlank_of_isWhite hwhite)
  rw [trimWhite, trimChars_eq_self ⟨fun c hc => hwhite c (hblank.1 c hc), fun c hc => hwhite c (hblank.2 c hc)⟩,
    String.ofList_toList]

/-- Characters that are replaced by some of their own kind stay trimmed. -/
theorem Trimmed.flatMap {f : Char → List Char} (hne : ∀ c, f c ≠ []) (hf : ∀ c, blank c = false → ∀ d ∈ f c, blank d = false)
    (h : Trimmed blank cs) : Trimmed blank (cs.flatMap f) := by
  constructor
  · intro d hd
    cases cs with
    | nil => cases hd
    | cons c rest =>
      rw [List.flatMap_cons, List.head?_append_of_ne_nil _ (hne c)] at hd
      exact hf c (h.1 c rfl) d (List.mem_of_mem_head? hd)
  · intro d hd
    obtain rfl | ⟨before, c, rfl⟩ := cs.eq_nil_or_concat'
    · cases hd
    · rw [List.flatMap_append, List.flatMap_singleton, List.getLast?_append_of_ne_nil _ (hne c)] at hd
      exact hf c (h.2 c List.getLast?_concat) d (List.mem_of_mem_getLast? hd)

/-! ## Upper case -/

/-- A run of characters whose upper case is one character, as in `upperRuns`. -/
abbrev UpperRun := Nat × Nat × Nat × Int

namespace UpperRun

/-- Whether a value is in a run. -/
def has (run : UpperRun) (n : Nat) : Bool := run.1 ≤ n && n ≤ run.2.1 && (n - run.1) % run.2.2.1 == 0

/-- The upper case of the first value of a run. -/
def low (run : UpperRun) : Nat := (run.1 + run.2.2.2).toNat

/-- The upper case of the last value of a run. -/
def high (run : UpperRun) : Nat := (run.2.1 + run.2.2.2).toNat

/-- Whether the images of a run are apart from a range. -/
def isApart (run : UpperRun) (r : Nat × Nat) : Bool := run.high.blt r.1 || r.2.blt run.low

/-- Whether the images of a run are not in another: they are apart from it, or lie in the gaps of one that takes every second value. -/
def misses (run other : UpperRun) : Bool :=
  run.isApart (other.1, other.2.1) ||
    other.2.2.1 == 2 && (run.2.2.1 == 2 || run.1 == run.2.1) && (run.low + other.1) % 2 == 1

/-- Whether the images of a run are in no table, not white, and characters. -/
def isSettled (run : UpperRun) : Bool :=
  upperRuns.all run.misses && upperExpansions.all (fun e => run.isApart (e.1, e.1)) && whiteRanges.all run.isApart &&
    (decide (0 ≤ run.1 + run.2.2.2) && run.isApart (0xd800, 0xdfff) && run.high.blt 0x110000)

end UpperRun

/-- Whether a value is in no table, not white, and that of a character. -/
def isSettled (m : Nat) : Bool :=
  upperRuns.all (fun run => !UpperRun.has run m) && upperExpansions.all (fun e => !e.1 == m) &&
    whiteRanges.all (fun r => m.blt r.1 || r.2.blt m) && m.blt 0xd800

theorem isSettled_upperRuns : upperRuns.all UpperRun.isSettled = true := by decide +kernel

theorem isSettled_upperExpansions : upperExpansions.all (fun e => !e.2.isEmpty && e.2.all isSettled) = true := by decide +kernel

/-- A value that is its own upper case, and that of a character which is not white. -/
structure Settled (m : Nat) : Prop where
  not_expanded : ∀ e ∈ upperExpansions, e.1 ≠ m
  not_mapped : ∀ run ∈ upperRuns, UpperRun.has run m = false
  not_white : ∀ r ∈ whiteRanges, m < r.1 ∨ r.2 < m
  valid : m.isValidChar

theorem settled_of_isSettled {m : Nat} (h : isSettled m = true) : Settled m := by
  simp only [isSettled, Bool.and_eq_true, List.all_eq_true, Bool.or_eq_true, Nat.blt_eq, Bool.not_eq_true', beq_eq_false_iff_ne] at h
  obtain ⟨⟨⟨hruns, hexpansions⟩, hwhite⟩, hvalid⟩ := h
  exact ⟨hexpansions, hruns, hwhite, .inl hvalid⟩

namespace UpperRun

variable {run other : UpperRun} {n : Nat}

theorem between (h : run.has n = true) : run.low ≤ (n + run.2.2.2).toNat ∧ (n + run.2.2.2).toNat ≤ run.high := by
  simp only [has, Bool.and_eq_true, decide_eq_true_eq] at h
  rw [low, high]
  omega

theorem lt_or_lt_of_isApart {r : Nat × Nat} (h : run.has n = true) (hapart : run.isApart r = true) :
    (n + run.2.2.2).toNat < r.1 ∨ r.2 < (n + run.2.2.2).toNat := by
  obtain ⟨hlow, hhigh⟩ := between h
  simp only [isApart, Bool.or_eq_true, Nat.blt_eq] at hapart
  omega

theorem has_eq_false_of_misses (hrun : 0 ≤ run.1 + run.2.2.2) (h : run.has n = true) (hmisses : run.misses other = true) :
    other.has (n + run.2.2.2).toNat = false := by
  obtain ⟨hlow, hhigh⟩ := between h
  simp only [misses, isApart, Bool.or_eq_true, Bool.and_eq_true, Nat.blt_eq, beq_iff_eq] at hmisses
  rw [Bool.eq_false_iff]
  intro hother
  simp only [has, Bool.and_eq_true, decide_eq_true_eq, beq_iff_eq] at h hother
  obtain hapart | ⟨⟨htwo, hstep⟩, hodd⟩ := hmisses
  · omega
  · rw [htwo] at hother
    rw [low] at hodd hlow
    obtain hstep | hsingle := hstep
    · rw [hstep] at h
      omega
    · omega

/-- The upper case of a value of a run is settled. -/
theorem settled (hmem : run ∈ upperRuns) (h : run.has n = true) : Settled (n + run.2.2.2).toNat := by
  have hsettled := List.all_eq_true.1 isSettled_upperRuns run hmem
  simp only [isSettled, Bool.and_eq_true, List.all_eq_true, decide_eq_true_eq] at hsettled
  obtain ⟨⟨⟨hruns, hexpansions⟩, hwhite⟩, ⟨hlow, hsurrogate⟩, hhigh⟩ := hsettled
  refine ⟨fun e he => ?_, fun other hother => has_eq_false_of_misses hlow h (hruns other hother),
    fun r hr => lt_or_lt_of_isApart h (hwhite r hr), ?_⟩
  · have hapart := lt_or_lt_of_isApart h (hexpansions e he)
    omega
  · have hapart := lt_or_lt_of_isApart h hsurrogate
    have hbetween := between h
    rw [Nat.blt_eq] at hhigh
    rw [Nat.isValidChar]
    omega

end UpperRun

theorem Settled.upperCodes {m : Nat} (h : Settled m) : upperCodes m = [m] := by
  have hexpansions : upperExpansions.find? (·.1 == m) = none := by
    simpa [List.find?_eq_none] using h.not_expanded
  have hruns : upperRuns.find? (UpperRun.has · m) = none :=
    List.find?_eq_none.2 fun run hrun => Bool.eq_false_iff.1 (h.not_mapped run hrun)
  rw [Text.upperCodes, hexpansions]
  change (match upperRuns.find? (UpperRun.has · m) with | some (_, _, _, shift) => [(m + shift).toNat] | none => [m]) = [m]
  rw [hruns]

/-- A value that is not its own upper case has one that is settled. -/
theorem upperCodes_cases (n : Nat) : upperCodes n = [n] ∨ upperCodes n ≠ [] ∧ ∀ m ∈ upperCodes n, Settled m := by
  rw [upperCodes]
  split
  next e values he =>
    have hsettled := List.all_eq_true.1 isSettled_upperExpansions _ (List.mem_of_find?_eq_some he)
    simp only [Bool.and_eq_true, List.all_eq_true, Bool.not_eq_true', List.isEmpty_eq_false_iff] at hsettled
    exact .inr ⟨hsettled.1, fun m hm => settled_of_isSettled (hsettled.2 m hm)⟩
  next =>
    split
    next low high step shift hrun =>
      refine .inr ⟨List.cons_ne_nil _ _, fun m hm => ?_⟩
      have hhas : UpperRun.has (low, high, step, shift) n = true := List.find?_some (p := (UpperRun.has · n)) hrun
      rw [List.mem_singleton.1 hm]
      exact UpperRun.settled (List.mem_of_find?_eq_some hrun) hhas
    next => exact .inl rfl

/-- A character that is not its own upper case has one of characters that are, and that are not white. -/
theorem upperChar_cases (c : Char) :
    upperChar c = [c] ∨ upperChar c ≠ [] ∧ ∀ d ∈ upperChar c, upperChar d = [d] ∧ isWhite d = false := by
  rw [upperChar]
  obtain hself | ⟨hne, hsettled⟩ := upperCodes_cases c.toNat
  · rw [hself, List.map_singleton, Char.ofNat_toNat]
    exact .inl rfl
  · refine .inr ⟨fun h => hne (List.map_eq_nil_iff.1 h), fun d hd => ?_⟩
    obtain ⟨m, hm, rfl⟩ := List.mem_map.1 hd
    have hm := hsettled m hm
    have hcode := Utf8.toNat_ofNat hm.valid
    constructor
    · rw [upperChar, hcode, hm.upperCodes]
      rfl
    · rw [isWhite, inRanges, List.any_eq_false]
      intro r hr
      have hwhite := hm.not_white r hr
      simp only [hcode, Bool.and_eq_true, decide_eq_true_eq]
      omega

theorem upperChar_of_mem {c d : Char} (h : d ∈ upperChar c) : upperChar d = [d] := by
  obtain hself | ⟨-, hsettled⟩ := upperChar_cases c
  · rw [hself, List.mem_singleton] at h
    rw [h, hself]
  · exact (hsettled d h).1

/-- The upper case of a text is its own upper case. -/
theorem upper_upper (text : String) : upper (upper text) = upper text := by
  have hself : ∀ cs : List Char, (∀ d ∈ cs, upperChar d = [d]) → cs.flatMap upperChar = cs := by
    intro cs h
    rw [List.flatMap_congr h, List.flatMap_singleton']
  rw [upper, upper, String.toList_ofList, hself _ fun d hd => ?_]
  obtain ⟨c, -, hd⟩ := List.mem_flatMap.1 hd
  exact upperChar_of_mem hd

/-- The upper case of a trimmed text is trimmed. -/
theorem trimWhite_upper {text : String} (h : trimWhite text = text) : trimWhite (upper text) = upper text := by
  have htrimmed : Trimmed isWhite text.toList := by
    rw [← h, trimWhite, String.toList_ofList]
    exact trimmed_trimChars _ _
  have hupper : Trimmed isWhite (text.toList.flatMap upperChar) := by
    refine htrimmed.flatMap (fun c => ?_) fun c hc d hd => ?_
    · obtain hself | ⟨hne, -⟩ := upperChar_cases c
      · rw [hself]
        exact List.cons_ne_nil _ _
      · exact hne
    · obtain hself | ⟨-, hsettled⟩ := upperChar_cases c
      · rw [hself, List.mem_singleton] at hd
        rw [hd, hc]
      · exact (hsettled d hd).2
  rw [upper, trimWhite, String.toList_ofList, trimChars_eq_self hupper]

end AwkEdit.Text
