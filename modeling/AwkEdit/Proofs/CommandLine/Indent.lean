import AwkEdit.CommandLine.Run
import AwkEdit.Proofs.Files
import AwkEdit.Proofs.Results
import AwkEdit.Proofs.Session.Preserved
import AwkEdit.Proofs.Tree.Conversion

/-!
# What indenting writes into a file

`indent --write` reads a file, has it parsed, indents it anew and writes the text that results, if it is another one. Whatever the
file holds and whatever the parser returns, the file has as many newlines afterwards, and no other file is touched but the log. What
comes after the leading blanks of a line is read as text and written again: where it has no broken parts it is what it was
(`run_indent_write`), and where it has some they are written as U+FFFD (`run_indent_broken`).

The log is kept apart from the files of a workspace. With a directory for it, a command line adds its records to the log file there,
which nothing here speaks of, also if the name of that file is the one that is given to be indented.
-/

namespace AwkEdit

/-! ## The source of a parsed tree -/

theorem ParsedNode.source_of_snapshot {root : ParsedNode} {source : Source} {t : Snapshot} (h : root.snapshot source = .ok t) :
    t.source = source := by
  rw [snapshot_eq] at h
  exact (Snapshot.eq_of_ofNode h).2

/-- A tree that was parsed from a source is a tree over that source. -/
theorem Installation.source_of_parse {i : Installation} {loaded : LoadedGrammars} {settings : ParserSettings} {source : Source}
    {output : ParserOutput} {t : Snapshot} (h : (i.parse loaded settings source output).2.2 = .ok t) : t.source = source := by
  unfold Installation.parse at h
  split at h
  · cases h
  · split at h
    · cases h
    · exact ParsedNode.source_of_snapshot (eq_ok_of_mapError h)

namespace CommandLine

/-! ## What commands do to files -/

/-- A command changes files only through what it does with a session over the text of its file. -/
theorem files_withSession (p : Prepared) (s : Surroundings) (w : Workspace) (path : String) (bytes : List UInt8)
    (engine : EngineConfig) (act : Session → List Event × Outcome × Files) :
    (withSession p s w path bytes engine act).2.files = w.files ∨
      ∃ session : Session, session.source = .ofBytes bytes ∧
        (withSession p s w path bytes engine act).2.files = (act session).2.2 := by
  have hsource : ∀ {t}, (s.installation.parse w.loaded p.config.parser (.ofBytes bytes) (s.parser (.ofBytes bytes))).2.2 = .ok t →
      t.source = .ofBytes bytes := Installation.source_of_parse
  unfold withSession
  dsimp only
  generalize (s.installation.parse w.loaded p.config.parser (.ofBytes bytes) (s.parser (.ofBytes bytes))).2.2 = parsed at hsource ⊢
  cases parsed with
  | error failure =>
    left
    split
    · rfl
    · rfl
    · rfl
    next h => cases h
  | ok tree =>
    dsimp only
    split
    next => exact .inl rfl
    next language _ =>
      split
      next counted => exact .inr ⟨⟨tree, engine, language, counted⟩, hsource rfl, rfl⟩
      next => exact .inl rfl

/-- Indenting a file leaves it as it is or writes the text that was indented anew. -/
theorem files_indentFile (path : String) (fs : Files) (s : Session) :
    (indentFile path true false fs s).2.2 = fs ∨
      ∃ text, s.reindent.1 = .ok text ∧ fs.write? path (Utf8.encode text.toList) = some (indentFile path true false fs s).2.2 := by
  unfold indentFile
  generalize s.reindent = result
  obtain ⟨result, events⟩ := result
  cases result with
  | error fault => exact .inl rfl
  | ok text =>
    dsimp only [indentedOutcome]
    rw [if_neg Bool.false_ne_true, if_neg (by decide)]
    split
    · exact .inl rfl
    · split
      next written hwritten => exact .inr ⟨text, rfl, hwritten⟩
      next => exact .inl rfl

/-! ## What `indent --write` leaves -/

/-- What the lines of a file keep: there are as many newlines, what comes after the leading blanks of a line without broken parts
is what it was, and if the file is another one at all, what comes after the leading blanks of any line is what it was, read as text
and written again. -/
structure LinesKept (before after : List UInt8) : Prop where
  newlines : after.count newline = before.count newline
  valid : ∀ l < (Source.ofBytes before).lineCount, Utf8.Valid ((Source.ofBytes before).lineBytes l) →
    (Source.ofBytes after).significant l = (Source.ofBytes before).significant l
  rewritten : after = before ∨ ∀ l < (Source.ofBytes before).lineCount,
    (Source.ofBytes after).significant l = Utf8.encode (Utf8.decode ((Source.ofBytes before).significant l))

theorem LinesKept.refl (bytes : List UInt8) : LinesKept bytes bytes := ⟨rfl, fun _ _ _ => rfl, .inl rfl⟩

/-- A text that was indented anew keeps the lines of the bytes that were parsed. -/
theorem linesKept_of_reindent {session : Session} {bytes : List UInt8} {text : String} (hsource : session.source = .ofBytes bytes)
    (hreindent : session.reindent.1 = .ok text) : LinesKept bytes (Utf8.encode text.toList) := by
  have hcount := (Session.lineBytes_of_reindent hreindent).1
  have hlines : ∀ l < (Source.ofBytes bytes).lineCount, (Source.ofString text).significant l =
      Utf8.encode (Utf8.decode ((Source.ofBytes bytes).significant l)) := by
    rw [← hsource]
    exact fun l hl => Session.significant_of_reindent hreindent hl
  rw [hsource, Source.lineCount_eq_count, Source.lineCount_eq_count] at hcount
  exact ⟨Nat.succ.inj hcount, fun l hl hvalid => (hlines l hl).trans (Source.valid_significant hvalid), .inr hlines⟩

/-- The command that indents a file leaves it as it was, or writes a text into it that was indented anew. -/
theorem files_execute_indent (p : Prepared) (s : Surroundings) (w : Workspace) (path : String) (check : Bool) {bytes : List UInt8}
    (h : w.files.read? (PathName.normal path) = some bytes) :
    (execute p s w (.indent path true check)).2.files = w.files ∨
      ∃ (session : Session) (text : String), session.source = .ofBytes bytes ∧ session.reindent.1 = .ok text ∧
        w.files.write? (PathName.normal path) (Utf8.encode text.toList) =
          some (execute p s w (.indent path true check)).2.files := by
  cases check with
  | true => exact .inl rfl
  | false =>
    have hexecute : execute p s w (.indent path true false) =
        withSession p s w (PathName.normal path) bytes p.config.engine (indentFile (PathName.normal path) true false w.files) := by
      simp [execute, h]
    rw [hexecute]
    rcases files_withSession p s w (PathName.normal path) bytes p.config.engine
      (indentFile (PathName.normal path) true false w.files) with hsame | ⟨session, hsource, hfiles⟩
    · exact .inl hsame
    · rw [hfiles]
      rcases files_indentFile (PathName.normal path) w.files session with hsame | ⟨text, hreindent, hwrite⟩
      · exact .inl hsame
      · exact .inr ⟨session, text, hsource, hreindent, hwrite⟩

/-- So the lines of the file are kept, and no other location holds other bytes, the log aside. -/
theorem linesKept_execute_indent (p : Prepared) (s : Surroundings) (w : Workspace) (path : String) (check : Bool)
    {bytes : List UInt8} (h : w.files.read? (PathName.normal path) = some bytes) :
    ∃ after, (execute p s w (.indent path true check)).2.files.read? (PathName.normal path) = some after ∧
      LinesKept bytes after ∧ ∀ location, w.files.locate? (PathName.normal path) ≠ some location →
        (execute p s w (.indent path true check)).2.files.bytes? location = w.files.bytes? location := by
  rcases files_execute_indent p s w path check h with hsame | ⟨session, text, hsource, hreindent, hwrite⟩
  · rw [hsame]
    exact ⟨bytes, h, .refl bytes, fun _ _ => rfl⟩
  · obtain ⟨hread, hothers⟩ := Files.read?_of_write? h hwrite
    exact ⟨_, hread, linesKept_of_reindent hsource hreindent, hothers⟩

/-- Preparing the log makes nothing but directories. -/
theorem grown_prepareLog {environment : List (String × String)} {fs fs' : Files} {dir : Option String}
    (h : prepareLog environment fs dir = .ok fs') : fs.Grown fs' := by
  unfold prepareLog at h
  split at h
  · obtain rfl := Except.ok.inj h
    exact .refl fs
  · split at h
    · cases h
    · split at h
      · exact Files.grown_makeAll (eq_ok_of_mapError h)
      · cases h

/-- A request changes no files before its command is run, except that directories are made for a log. -/
theorem files_serve {s : Surroundings} {w : Workspace} {r : Request} {command : Command}
    (h : Command.ofArguments r.command r.arguments = .asked command) :
    (serve s w r).2.files = w.files ∨
      ∃ (p : Prepared) (made : Files), w.files.Grown made ∧ (serve s w r).2 = (execute p s { w with files := made } command).2 := by
  unfold serve
  split
  next => exact .inl rfl
  next config _ =>
    split
    next => exact .inl rfl
    next level _ =>
      split
      next => exact .inl rfl
      next made hmade =>
        rw [h]
        exact .inr ⟨_, made, grown_prepareLog hmade, rfl⟩

/-- Whatever a file holds, whatever the parser returns for it and whatever the settings are, a command line that asks for the file
to be indented and written leaves a file that keeps its lines, and no other file of the workspace holds other bytes. The log is no
file of the workspace: what a command line adds to it stands in `Outcome.records`. -/
theorem run_indent_write (s : Surroundings) (w : Workspace) {arguments : List String} {r : Request} {path : String} {check : Bool}
    {bytes : List UInt8} (hr : Request.ofArguments arguments = .asked r)
    (hc : Command.ofArguments r.command r.arguments = .asked (.indent path true check))
    (h : w.files.read? (PathName.normal path) = some bytes) :
    ∃ after, (run s w arguments).2.files.read? (PathName.normal path) = some after ∧ LinesKept bytes after ∧
      ∀ location, w.files.locate? (PathName.normal path) ≠ some location →
        (run s w arguments).2.files.bytes? location = w.files.bytes? location := by
  have hrun : run s w arguments = serve s w r := by rw [run, hr]
  rw [hrun]
  rcases files_serve hc with hsame | ⟨p, made, hgrown, hserve⟩
  · rw [hsame]
    exact ⟨bytes, h, .refl bytes, fun _ _ => rfl⟩
  · obtain ⟨hlocate, hread⟩ := hgrown.read? h
    obtain ⟨after, hafter, hkept, hothers⟩ := linesKept_execute_indent p s { w with files := made } path check hread
    rw [hserve]
    refine ⟨after, hafter, hkept, fun location hlocation => (hothers location ?_).trans (hgrown.bytes_eq location)⟩
    rwa [hlocate]

/-! ### A line that is led by a space -/

/-- A directory with one file, of which the bytes are given. -/
def directoryWith (bytes : List UInt8) : Workspace :=
  ⟨⟨["work"], "/work", [(["work"], .directory), (["work", "x.awk"], .file bytes)]⟩, []⟩

/-- A parser that takes three bytes for a program and the second of them for an error. -/
def errorParser : Surroundings :=
  ⟨[], {}, fun _ => ⟨.mk "program" 0 3 true false [(none, .mk errorType 1 2 true false [])], true⟩⟩

/-- A letter after a space is moved to the left and stays what it is. -/
theorem run_indent_letter :
    (run errorParser (directoryWith [0x20, 0x62, 0x0A]) ["indent", "--write", "x.awk"]).2.files.read? "x.awk" =
        some [0x62, 0x0A] ∧
      LinesKept [0x20, 0x62, 0x0A] [0x62, 0x0A] := by
  have hread : (directoryWith [0x20, 0x62, 0x0A]).files.read? (PathName.normal "x.awk") = some [0x20, 0x62, 0x0A] := by
    decide +kernel
  have hrequest : Request.ofArguments ["indent", "--write", "x.awk"] =
      .asked ⟨none, none, none, "indent", ["--write", "x.awk"]⟩ := by decide +kernel
  have hcommand : Command.ofArguments "indent" ["--write", "x.awk"] = .asked (.indent "x.awk" true false) := by decide +kernel
  have hname : PathName.normal "x.awk" = "x.awk" := by decide +kernel
  have hdone : (run errorParser (directoryWith [0x20, 0x62, 0x0A]) ["indent", "--write", "x.awk"]).2.files.read? "x.awk" =
      some [0x62, 0x0A] := by decide +kernel
  obtain ⟨after, hafter, hkept, -⟩ := run_indent_write errorParser _ hrequest hcommand hread
  rw [hname] at hafter
  obtain rfl : after = [0x62, 0x0A] := Option.some.inj (hafter.symm.trans hdone)
  exact ⟨hdone, hkept⟩

/-- A byte after a space that is no text by itself is lost when it is moved: the file holds U+FFFD in its place. -/
theorem run_indent_broken :
    (directoryWith [0x20, 0xFF, 0x0A]).files.read? "x.awk" = some [0x20, 0xFF, 0x0A] ∧
      (run errorParser (directoryWith [0x20, 0xFF, 0x0A]) ["indent", "--write", "x.awk"]).2.files.read? "x.awk" =
        some [0xEF, 0xBF, 0xBD, 0x0A] ∧
      (Source.ofBytes [0xEF, 0xBF, 0xBD, 0x0A]).significant 0 ≠ (Source.ofBytes [0x20, 0xFF, 0x0A]).significant 0 := by
  decide +kernel

end CommandLine

end AwkEdit
