import AwkEdit.Files

/-!
# Files that are written anew, and directories that are made

Writing new bytes into a file changes nothing about where names lead, since a file was at its location before and is there
afterwards. So the name still leads to the file, which holds the new bytes, and every other location holds what it held. A
directory is made only where nothing is, so names that lead to a file lead to it afterwards, and no file holds other bytes.
-/

namespace AwkEdit.Files

variable {fs : Files} {l : Location}

/-- What was put at a location is there, and everywhere else is what was there. -/
theorem entry?_put (fs : Files) (hl : l ≠ []) (e : FileEntry) (other : Location) :
    Files.entry? (fs.put l e) other = if other = l then some e else fs.entry? other := by
  unfold entry? put
  by_cases hroot : other = []
  · rw [if_pos hroot, if_pos hroot, if_neg fun h : other = l => hl (h.symm.trans hroot)]
  · rw [if_neg hroot, if_neg hroot, List.lookup_cons]
    by_cases h : other = l
    · simp [h]
    · simp [h, beq_eq_false_iff_ne.2 h]

/-- Where something other than a directory is, or nothing, is not the root. -/
theorem ne_nil_of_entry {e : Option FileEntry} (h : fs.entry? l = e) (he : e ≠ some .directory) : l ≠ [] := by
  rintro rfl
  exact he (h.symm.trans (if_pos rfl))

/-- Parts lead to the same location when a file has other bytes: no way leads on from a file. -/
theorem follow_put_file {before after : List UInt8} (h : fs.entry? l = some (.file before)) (base : Location)
    (parts : List String) : (fs.put l (.file after)).follow base parts = fs.follow base parts := by
  induction parts generalizing base with
  | nil => rfl
  | cons part parts ih =>
    rw [follow, follow, entry?_put fs (ne_nil_of_entry h nofun)]
    by_cases hbase : base = l
    · rw [if_pos hbase, hbase, h]
    · rw [if_neg hbase]
      simp only [ih]

/-- So names lead where they did. -/
theorem locate?_put_file {before after : List UInt8} (h : fs.entry? l = some (.file before)) (name : String) :
    (fs.put l (.file after)).locate? name = fs.locate? name := by
  rw [locate?, locate?, trace, trace, follow_put_file h]
  rfl

/-- After a file was written anew its name leads to the new bytes, and no other location holds anything else. -/
theorem read?_of_write? {fs' : Files} {name : String} {before after : List UInt8} (hread : fs.read? name = some before)
    (hwrite : fs.write? name after = some fs') :
    fs'.read? name = some after ∧ ∀ l, fs.locate? name ≠ some l → fs'.bytes? l = fs.bytes? l := by
  obtain ⟨l, hl, hbytes⟩ := Option.bind_eq_some_iff.1 hread
  have hentry : fs.entry? l = some (.file before) := by
    unfold bytes? at hbytes
    split at hbytes
    next h => rw [h, Option.some.inj hbytes]
    next => cases hbytes
  have hput : fs' = fs.put l (.file after) := by
    simp only [write?, hl, Option.bind_eq_bind, Option.bind_some] at hwrite
    split at hwrite
    · cases hwrite
    · exact (Option.some.inj hwrite).symm
  have hnew := entry?_put fs (ne_nil_of_entry hentry nofun) (.file after)
  subst hput
  refine ⟨?_, fun other hother => ?_⟩
  · rw [read?, locate?_put_file hentry, hl, Option.bind_some, bytes?, hnew, if_pos rfl]
  · rw [bytes?, bytes?, hnew, if_neg fun h : other = l => hother (h ▸ hl)]

/-! ## Directories that are made -/

/-- Whether nothing but directories was made: what was anywhere is still there, and every location holds the bytes it held. -/
structure Grown (fs fs' : Files) : Prop where
  here_eq : fs'.here = fs.here
  entry_of : ∀ l e, fs.entry? l = some e → fs'.entry? l = some e
  bytes_eq : ∀ l, fs'.bytes? l = fs.bytes? l

theorem Grown.refl (fs : Files) : Grown fs fs := ⟨rfl, fun _ _ h => h, fun _ => rfl⟩

theorem Grown.trans {fs fs' fs'' : Files} (h : Grown fs fs') (h' : Grown fs' fs'') : Grown fs fs'' :=
  ⟨h'.here_eq.trans h.here_eq, fun l e he => h'.entry_of l e (h.entry_of l e he), fun l => (h'.bytes_eq l).trans (h.bytes_eq l)⟩

/-- A directory is made where nothing is. -/
theorem grown_put (h : fs.entry? l = none) : Grown fs (fs.put l .directory) := by
  have hput := entry?_put fs (ne_nil_of_entry h nofun) .directory
  refine ⟨rfl, fun other e he => ?_, fun other => ?_⟩
  · rw [hput, if_neg, he]
    rintro rfl
    rw [h] at he
    cases he
  · rw [bytes?, bytes?, hput]
    by_cases hother : other = l
    · rw [if_pos hother, hother, h]
    · rw [if_neg hother]

/-- Making one directory makes nothing but a directory. -/
theorem grown_makeOne {fs' : Files} {base : Location} {parts : List String} (h : fs.makeOne base parts = .ok fs') :
    Grown fs fs' := by
  unfold makeOne at h
  split at h
  · cases h
  next last _ =>
    split at h
    · cases h
    next above _ =>
      split at h
      · cases h
      · cases h
      next =>
        dsimp only at h
        split at h
        · cases h
        · split at h
          · cases h
          next hnew =>
            rw [not_or, Option.not_isSome_iff_eq_none] at hnew
            obtain rfl := Except.ok.inj h
            exact grown_put hnew.2

theorem ifDirectory_eq_ok {fs' : Files} {base : Location} {parts : List String} {e : MakeFault}
    (h : fs.ifDirectory base parts e = .ok fs') : fs' = fs := by
  unfold ifDirectory at h
  split at h
  · split at h
    · exact (Except.ok.inj h).symm
    · cases h
  · cases h

/-- Making a directory and those above it makes nothing but directories. -/
theorem grown_makeAll {fs' : Files} {base : Location} {parts : List String} (h : fs.makeAll base parts = .ok fs') :
    Grown fs fs' := by
  induction parts generalizing fs' with
  | nil =>
    rw [ifDirectory_eq_ok h]
    exact .refl fs
  | cons last above ih =>
    rw [makeAll] at h
    split at h
    next made hmade =>
      obtain rfl := Except.ok.inj h
      exact grown_makeOne hmade
    next =>
      split at h
      · cases h
      next made hmade =>
        have hgrown := ih hmade
        split at h
        next whole hwhole =>
          obtain rfl := Except.ok.inj h
          exact hgrown.trans (grown_makeOne hwhole)
        next =>
          rw [ifDirectory_eq_ok h]
          exact hgrown
    next =>
      rw [ifDirectory_eq_ok h]
      exact .refl fs

/-- Parts that lead somewhere lead there when directories were made. -/
theorem Grown.follow {fs' : Files} (h : Grown fs fs') {base : Location} {parts : List String}
    (hl : fs.follow base parts = .ok l) : fs'.follow base parts = .ok l := by
  induction parts generalizing base with
  | nil => exact hl
  | cons part parts ih =>
    rw [Files.follow] at hl ⊢
    split at hl
    · cases hl
    · cases hl
    next hentry =>
      rw [h.entry_of _ _ hentry]
      dsimp only
      split at hl
      · cases hl
      next hshort =>
        rw [if_neg hshort]
        exact ih hl

/-- So a name that leads to a file leads to it, and the file holds what it held. -/
theorem Grown.read? {fs' : Files} (h : Grown fs fs') {name : String} {bytes : List UInt8} (hread : fs.read? name = some bytes) :
    fs'.locate? name = fs.locate? name ∧ fs'.read? name = some bytes := by
  obtain ⟨l, hl, hbytes⟩ := Option.bind_eq_some_iff.1 hread
  have hlocate : fs'.locate? name = some l := by
    unfold locate? trace base at hl ⊢
    rw [h.here_eq]
    split
    next hempty => rw [if_pos hempty] at hl; cases hl
    next hempty =>
      rw [if_neg hempty] at hl
      split
      next hlong => rw [if_pos hlong] at hl; cases hl
      next hlong =>
        rw [if_neg hlong] at hl
        generalize hfollow : fs.follow _ _ = followed at hl
        cases followed with
        | error e => cases hl
        | ok found =>
          obtain rfl : found = l := Option.some.inj hl
          rw [h.follow hfollow]
          rfl
  refine ⟨hlocate.trans hl.symm, ?_⟩
  rw [Files.read?, hlocate, Option.bind_some, h.bytes_eq, hbytes]

end AwkEdit.Files
