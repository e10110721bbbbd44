import AwkEdit.Proofs.Bundled.Indentation
import AwkEdit.Proofs.Indent.Context
import AwkEdit.Proofs.Session.Preserved
import AwkEdit.Proofs.Tree.Carried

/-!
# The canonical form of a text

Rules that hang lines measure a line from a line above it that was indented before, or from the left; what led the lines
before has no part in it. So two sessions whose trees are carried over from one text to a variant of it put every line at the
same column, and the texts that result are the same. `reindent_canonical` says so for the rules of AWK, and that indenting
what results once more leaves it as it is.
-/

namespace AwkEdit

/-! ## What starts a line -/

namespace IndentContext

variable {t u : Snapshot} {l b c : Nat}

/-- Measured from the left, a line is measured from its start. -/
theorem position_columnZero (hb : t.source.firstNonblank l = some b) :
    Anchor.columnZero.position (ofLine t l) = t.source.lineStart l := by
  have hrange := Source.firstNonblank_range hb
  rw [Anchor.position, tree_ofLine, bol_ofLine hb, Source.lineOf_of_firstNonblank hb (by omega) (by omega)]

/-- The contexts of a line in a tree and in what it was carried over to are alike. What is above the line is the root of both,
or starts at the same place of both, on an earlier line. -/
theorem ofLine_carried (htree : t.CarriedTo u) (hb : t.source.firstNonblank l = some b)
    (hc : u.source.firstNonblank l = some c) :
    (ofLine t l).Alike (ofLine u l) ∧
      ((ofLine t l).parent.node = t.root ∧ (ofLine u l).parent.node = u.root ∨
        (ofLine t l).parent.node.CarriedTo t.source u.source (ofLine u l).parent.node ∧ (ofLine t l).parent.node.start < b) := by
  have hplace := Snapshot.largestNodeAt_carried htree (Source.samePlace_of_firstNonblank hb hc)
  simp only [ofLine, hb, hc]
  generalize hp : t.largestNodeAt b = p at hplace
  generalize u.largestNodeAt c = q at hplace
  cases hplace with
  | root => exact ⟨⟨rfl, htree.type_eq⟩, .inl ⟨rfl, rfl⟩⟩
  | child i hnode habove =>
    refine ⟨⟨congrArg some hnode.carriedBelow.type_eq, (habove.carriedBelow htree).type_eq⟩, ?_⟩
    cases habove with
    | root => exact .inl ⟨rfl, rfl⟩
    | child j hnext hrest => exact .inr ⟨hnext, Snapshot.start_lt_of_largestNodeAt (congrArg Place.trail hp)⟩

end IndentContext

namespace Session

variable {s t : Session} {moved : List (Nat × Int)}

/-! ## Measuring what has moved -/

/-- The lines that have moved are those before a line, as far as they have a significant byte. -/
def MovedUpTo (s : Session) (moved : List (Nat × Int)) (l : Nat) : Prop :=
  ∀ k, (moved.lookup k).isSome = true ↔ k < l ∧ (s.source.firstNonblank k).isSome = true

/-- Once one more line is indented, the lines up to it have moved. -/
theorem MovedUpTo.moveLine {l : Nat} (h : s.MovedUpTo moved l) (d : IndentDecision) :
    s.MovedUpTo (s.moveLine moved l d) (l + 1) := by
  intro k
  rw [lookup_moveLine]
  split
  next hk =>
    obtain ⟨rfl, hsome⟩ := hk
    exact iff_of_true rfl ⟨Nat.lt_succ_self k, hsome⟩
  next hk =>
    rw [h k]
    refine and_congr_left fun hsome => ?_
    have hne : k ≠ l := fun heq => hk ⟨heq, hsome⟩
    omega

/-- The first significant byte of a line that has moved has the new column of the line. -/
theorem columnAfter_firstNonblank {l b : Nat} {column : Int} (hb : s.source.firstNonblank l = some b)
    (hmoved : moved.lookup l = some column) : s.columnAfter moved b = column := by
  have hrange := Source.firstNonblank_range hb
  have hline : s.source.lineOf b = l := Source.lineOf_of_firstNonblank hb (by omega) (by omega)
  simp only [columnAfter, hline, hmoved, hb]
  rw [if_neg (by omega)]
  omega

/-- What lies on a line that has not moved is measured where it stands. -/
theorem columnAfter_of_unmoved_line {pos : Int} (hmoved : moved.lookup (s.source.lineOf pos) = none) :
    s.columnAfter moved pos = s.columnOf pos := by
  simp only [columnAfter, hmoved]

/-- What lies on a blank line is measured where it stands. -/
theorem columnAfter_of_blank {pos : Int} (hblank : s.source.firstNonblank (s.source.lineOf pos) = none) :
    s.columnAfter moved pos = s.columnOf pos := by
  simp only [columnAfter, hblank]
  cases moved.lookup (s.source.lineOf pos) <;> rfl

/-- The start of a line that has not moved has the first column. -/
theorem columnAfter_lineStart {l : Nat} (hl : l < s.source.lineCount) (hmoved : moved.lookup l = none) :
    s.columnAfter moved (s.source.lineStart l) = 0 := by
  simp only [columnAfter, Source.lineOf_lineStart hl, hmoved]
  exact Source.column_lineStart _ hl

/-! ## Two sessions -/

/-- Once the lines before a line have moved, the line of a node that starts before it begins at the same column in both sessions. -/
theorem columnAfter_above {l b : Nat} {p q : Int} (hmoved : s.MovedUpTo moved l) (hb : s.source.firstNonblank l = some b)
    (hpq : s.source.SamePlace t.source p q) (hp : p < b) :
    s.columnAfter moved (s.source.bol p) = t.columnAfter moved (t.source.bol q) := by
  obtain ⟨k, b', c', hb', hc', hbol, hbol', hle⟩ := hpq.bol
  have hk : k < l := Source.line_lt_of_lt hb hb' (by omega)
  obtain ⟨column, hcolumn⟩ := Option.isSome_iff_exists.1 ((hmoved k).2 ⟨hk, by rw [hb', Option.isSome_some]⟩)
  rw [hbol, hbol', columnAfter_firstNonblank hb' hcolumn, columnAfter_firstNonblank hc' hcolumn]

/-- The roots start on the same line, which begins at the same column in both texts. -/
def RootsLevel (s t : Session) : Prop :=
  s.source.lineOf s.tree.root.start = t.source.lineOf t.tree.root.start ∧
    s.columnOf (s.source.bol s.tree.root.start) = t.columnOf (t.source.bol t.tree.root.start)

/-- The sessions indent by the same rules, which hang lines, and the tree of one is carried over to the text of the other,
which is a variant of its own. Nothing hangs from the roots, because they are top nodes or because all lines are blank, or
the roots are level. -/
structure Alike (top : String) (s t : Session) : Prop where
  indent : s.language.indent = t.language.indent
  hanging : IndentRules.Hanging top s.language.indent.rules
  config : s.config = t.config
  root : s.tree.root.type = top ∨ (∀ l, s.source.firstNonblank l = none) ∨ s.RootsLevel t
  tree : s.tree.CarriedTo t.tree
  text : s.source.Variant t.source

variable {top : String}

/-- Where the roots are level, the lines that they start on begin at the same column in both sessions, moved or not. -/
theorem Alike.columnAfter_root (h : Alike top s t) (hlevel : s.RootsLevel t) (moved : List (Nat × Int)) :
    s.columnAfter moved (s.source.bol s.tree.root.start) = t.columnAfter moved (t.source.bol t.tree.root.start) := by
  obtain ⟨hline, hcolumn⟩ := hlevel
  cases hb : s.source.firstNonblank (s.source.lineOf s.tree.root.start) with
  | none =>
    have hc := h.text.firstNonblank_eq_none hb
    rw [hline] at hc
    rw [columnAfter_of_blank (by rw [Source.lineOf_bol, hb]), columnAfter_of_blank (by rw [Source.lineOf_bol, hc]), hcolumn]
  | some b =>
    obtain ⟨c, hc⟩ := h.text.exists_firstNonblank hb
    cases hlookup : moved.lookup (s.source.lineOf s.tree.root.start) with
    | none =>
      rw [columnAfter_of_unmoved_line (by rw [Source.lineOf_bol, hlookup]),
        columnAfter_of_unmoved_line (by rw [Source.lineOf_bol, ← hline, hlookup]), hcolumn]
    | some column =>
      rw [Source.bol_eq hb, Source.bol_eq (hline ▸ hc), columnAfter_firstNonblank hb hlookup,
        columnAfter_firstNonblank hc hlookup]

/-- A line with a significant byte is put at the same column in both sessions once the lines before it are. -/
theorem Alike.column_eq (h : Alike top s t) {l : Nat} (hmoved : s.MovedUpTo moved l)
    (hl : (s.source.firstNonblank l).isSome = true) :
    (s.language.indent.resolveWith s.config (s.columnAfter moved) s.tree l).1.column =
      (t.language.indent.resolveWith t.config (t.columnAfter moved) t.tree l).1.column := by
  obtain ⟨b, hb⟩ := Option.isSome_iff_exists.1 hl
  obtain ⟨c, hc⟩ := h.text.exists_firstNonblank hb
  have halike := (IndentContext.ofLine_carried h.tree hb hc).1
  obtain ⟨r, hr, hdecision⟩ := s.language.indent.exists_resolve_eq s.config (s.columnAfter moved) (.ofLine s.tree l)
  obtain ⟨r', hr', hdecision'⟩ := t.language.indent.exists_resolve_eq t.config (t.columnAfter moved) (.ofLine t.tree l)
  rw [← h.indent, ← IndentRules.select_alike halike h.hanging.types, hr] at hr'
  obtain rfl := Option.some.inj hr'
  -- The left is the first column of any line that has not moved; the line above has, in both sessions to the same column, or is
  -- that of the roots, which are level.
  have hmeasure : s.columnAfter moved (r.anchor.position (.ofLine s.tree l)) =
      t.columnAfter moved (r.anchor.position (.ofLine t.tree l)) := by
    by_cases htop : (IndentContext.ofLine s.tree l).parent.node.type = top
    · have hnone : moved.lookup l = none :=
        Option.not_isSome_iff_eq_none.1 fun hsome => Nat.lt_irrefl l ((hmoved l).1 hsome).1
      rw [h.hanging.anchor hr, if_pos htop, IndentContext.position_columnZero hb, IndentContext.position_columnZero hc]
      rw [show s.tree.source.lineStart l = s.source.lineStart l from rfl,
        show t.tree.source.lineStart l = t.source.lineStart l from rfl,
        columnAfter_lineStart (Source.lt_lineCount_of_firstNonblank hb) hnone,
        columnAfter_lineStart (Source.lt_lineCount_of_firstNonblank hc) hnone]
    · rw [h.hanging.anchor hr, if_neg htop, Anchor.position, Anchor.position, IndentContext.tree_ofLine,
        IndentContext.tree_ofLine]
      rcases (IndentContext.ofLine_carried h.tree hb hc).2 with ⟨hroot, hroot'⟩ | ⟨habove, hstart⟩
      · rw [hroot] at htop
        rw [hroot, hroot']
        rcases h.root.resolve_left htop with hblank | hlevel
        · cases (hblank l).symm.trans hb
        · exact h.columnAfter_root hlevel moved
      · exact columnAfter_above hmoved hb habove.start hstart
  rw [IndentRules.resolveWith, IndentRules.resolveWith, hdecision, hdecision']
  simp only [IndentRules.decisionOf, IndentRules.columnFor, hmeasure, h.config]

/-! ## The two runs -/

/-- A line is the same in both sessions when it is put at the same column. -/
theorem Alike.newLine_eq (h : Alike top s t) {l : Nat} (hl : l < s.source.lineCount) {d e : IndentDecision}
    (hcolumn : (s.source.firstNonblank l).isSome = true → d.column = e.column) : s.newLine l d = t.newLine l e := by
  cases hb : s.source.firstNonblank l with
  | some b =>
    obtain ⟨c, hc⟩ := h.text.exists_firstNonblank hb
    simp only [newLine, hb, hc]
    rw [Source.chars_lineEnd hb, Source.chars_lineEnd hc, (h.text.2 l hl).1, hcolumn (by rw [hb, Option.isSome_some])]
  | none =>
    simp only [newLine, hb, h.text.firstNonblank_eq_none hb]
    simp only [(h.text.2 l hl).2 (Source.firstNonblank_eq_none_iff.1 hb)]

/-- There is room for a line in both sessions or in neither when it is put at the same column. -/
theorem Alike.lineFault?_eq (h : Alike top s t) {l : Nat} {d e : IndentDecision}
    (hcolumn : (s.source.firstNonblank l).isSome = true → d.column = e.column) :
    s.lineFault? l d = t.lineFault? l e := by
  have hisSome := h.text.isSome_firstNonblank l
  unfold lineFault?
  cases hb : s.source.firstNonblank l with
  | some b =>
    rw [hb] at hisSome
    rw [hcolumn (by rw [hb, Option.isSome_some]), ← Option.not_isSome, ← Option.not_isSome, ← hisSome]
  | none =>
    rw [hb] at hisSome
    rw [← Option.not_isSome, ← Option.not_isSome, ← hisSome]
    rfl

/-- Whatever is made of the lines and their decisions is the same in both sessions, if all it takes from a decision is the
column of a line with a significant byte. -/
theorem Alike.zipWith_indentAfter (h : Alike top s t) {β : Type} {f g : Nat → IndentDecision → β}
    (hfg : ∀ l d e, l < s.source.lineCount → ((s.source.firstNonblank l).isSome = true → d.column = e.column) → f l d = g l e)
    {l n : Nat} (hn : l + n ≤ s.source.lineCount) (hmoved : s.MovedUpTo moved l) :
    List.zipWith f (List.range' l n) (s.indentAfter moved (List.range' l n)).1 =
      List.zipWith g (List.range' l n) (t.indentAfter moved (List.range' l n)).1 := by
  induction n generalizing l moved with
  | zero => rfl
  | succ n ih =>
    have hcolumn := fun hl => h.column_eq hmoved hl
    simp only [List.range'_succ, indentAfter, List.zipWith_cons_cons]
    generalize (s.language.indent.resolveWith s.config (s.columnAfter moved) s.tree l).1 = d at hcolumn ⊢
    generalize (t.language.indent.resolveWith t.config (t.columnAfter moved) t.tree l).1 = e at hcolumn ⊢
    -- The line moves to the same column in both runs, so what has moved stays one list for both.
    have hmoves : t.moveLine moved l e = s.moveLine moved l d := by
      rw [moveLine, moveLine, ← h.text.isSome_firstNonblank]
      split
      next hl => rw [hcolumn hl]
      next => rfl
    rw [hfg l d e (by omega) hcolumn, hmoves, ih (by omega) (hmoved.moveLine d)]

theorem movedUpTo_zero (s : Session) : s.MovedUpTo [] 0 := fun k => by simp

/-- Both sessions indent their texts anew to the same text. -/
theorem Alike.reindent_eq (h : Alike top s t) : s.reindent.1 = t.reindent.1 := by
  have hzip : ∀ {β : Type} {f g : Nat → IndentDecision → β},
      (∀ l d e, l < s.source.lineCount → ((s.source.firstNonblank l).isSome = true → d.column = e.column) → f l d = g l e) →
        List.zipWith f (s.region 0 none) (s.indentLines 0 none).1 =
          List.zipWith g (t.region 0 none) (t.indentLines 0 none).1 := by
    intro β f g hfg
    rw [indentLines, indentLines, region_all, region_all, ← h.text.1, List.range_eq_range']
    exact h.zipWith_indentAfter hfg (by omega) (movedUpTo_zero s)
  rw [reindent_fst, reindent_fst, newLines, newLines, linesUnder, linesUnder,
    hzip fun l d e hl => h.newLine_eq hl, hzip fun l d e _ => h.lineFault?_eq]

/-! ## Indenting what results -/

/-- A line without broken parts keeps what comes after its leading blanks wherever it is put, and a blank line its carriage
return. -/
theorem newLine_variant {l : Nat} (hvalid : Utf8.Valid (s.source.lineBytes l)) (d : IndentDecision) :
    (Utf8.encode (s.newLine l d)).dropWhile isBlankByte = s.source.significant l ∧
      (s.source.significant l = [] →
        ((s.source.lineBytes l).getLast? = some 0x0D ↔ (Utf8.encode (s.newLine l d)).getLast? = some 0x0D)) := by
  refine ⟨(s.significant_newLine l d).trans (Source.valid_significant hvalid), fun hnil => ?_⟩
  have hreturn : Utf8.encode ['\r'] = [0x0D] := by decide
  simp only [newLine, Source.firstNonblank_eq_none_iff.2 hnil]
  split
  next hlast => simp [hlast, hreturn]
  next hlast => simp [hlast]

/-- A text without broken parts is indented anew to a variant of itself. -/
theorem variant_of_reindent (hvalid : Utf8.Valid s.source.bytes) {text : String} (h : s.reindent.1 = .ok text) :
    s.source.Variant (.ofString text) := by
  obtain ⟨hcount, hlines⟩ := lineBytes_of_reindent h
  refine ⟨hcount.symm, fun l hl => ?_⟩
  obtain ⟨d, -, hd⟩ := hlines l hl
  obtain ⟨hsig, hreturn⟩ := newLine_variant (Source.valid_lineBytes hvalid hl) d
  rw [show (Source.ofString text).significant l = _ from congrArg (List.dropWhile isBlankByte) hd, hd]
  exact ⟨hsig.symm, hreturn⟩

/-! ## The rules of AWK -/

/-- Sessions that indent by the rules of AWK are alike when their settings are the same and the tree of one, a program, is
carried over to the text of the other, a variant of its own. -/
theorem alike_of_builds (hs : Awk.Builds s.language) (ht : Awk.Builds t.language) (hconfig : s.config = t.config)
    (hroot : s.tree.root.type = "program") (htree : s.tree.CarriedTo t.tree) (htext : s.source.Variant t.source) :
    Alike "program" s t :=
  ⟨hs.indent_eq ht, hs.hanging, hconfig, .inl hroot, htree, htext⟩

/-- Indenting anew by the rules of AWK leaves nothing of what led the lines: for variants of a text, with the tree carried
over, the text that results is the same. A text without broken parts is a variant of what it is indented to, so indenting that
once more, with the tree carried over to it, leaves it as it is. -/
theorem reindent_canonical (hs : Awk.Builds s.language) (ht : Awk.Builds t.language) (hconfig : s.config = t.config)
    (hroot : s.tree.root.type = "program") (htree : s.tree.CarriedTo t.tree) :
    (s.source.Variant t.source → s.reindent.1 = t.reindent.1) ∧
      ∀ text, Utf8.Valid s.source.bytes → s.reindent.1 = .ok text → t.source = .ofString text → t.reindent.1 = .ok text := by
  have hcanonical : s.source.Variant t.source → s.reindent.1 = t.reindent.1 := fun htext =>
    (alike_of_builds hs ht hconfig hroot htree htext).reindent_eq
  refine ⟨hcanonical, fun text hvalid h htext => ?_⟩
  rw [← hcanonical (htext ▸ variant_of_reindent hvalid h)]
  exact h

/-! ### A ragged block -/

/-- A program of one block, given where its word starts, where its last bracket does, and where the text ends. -/
def blockTree (word bracket stop : Int) : Node :=
  .mk { type := "program", start := 0, stop := stop }
    [.mk { type := "block", start := 0, stop := bracket + 1 }
      [.mk { type := "\x7b", start := 0, stop := 1, named := false } [],
        .mk { type := "identifier", start := word, stop := word + 1 } [],
        .mk { type := "\x7d", start := bracket, stop := bracket + 1, named := false } []]]

/-- A block with lines that are led by a tab, by nothing but spaces, and by spaces. -/
def raggedText : Source := .ofString "\x7b\n\tx\n  \n  \x7d\n"

/-- The same block with its lines where they belong. -/
def neatText : Source := .ofString "\x7b\n    x\n\n\x7d\n"

theorem valid_raggedTree : (blockTree 3 10 12).Valid raggedText.size := by
  simp only [blockTree, Node.Valid, Node.ValidAll, Node.Laid]
  decide

theorem valid_neatTree : (blockTree 6 9 11).Valid neatText.size := by
  simp only [blockTree, Node.Valid, Node.ValidAll, Node.Laid]
  decide

/-- The settings as they come. -/
def settings : EngineConfig :=
  { indentUnit_pos := Nat.succ_pos 3, tabWidth_pos := Nat.succ_pos 7, level_pos := Nat.succ_pos 2, level_le := Nat.le_succ 3 }

/-- A session over the ragged block. -/
def ragged : Session := ⟨⟨blockTree 3 10 12, raggedText, valid_raggedTree⟩, settings, Awk.language, by decide⟩

/-- A session over the neat block. -/
def neat : Session := ⟨⟨blockTree 6 9 11, neatText, valid_neatTree⟩, settings, Awk.language, by decide⟩

/-- The tree of the ragged block is carried over to the neat one. -/
theorem carriedTo_neat : ragged.tree.CarriedTo neat.tree := by
  have hplace : ∀ l b c k : Nat, ragged.source.firstNonblank l = some b → neat.source.firstNonblank l = some c →
      b + k ≤ ragged.source.lineEnd l → c + k ≤ neat.source.lineEnd l →
        ragged.source.SamePlace neat.source ((b + k : Nat) : Int) ((c + k : Nat) : Int) :=
    fun l b c k hb hc hs ht =>
      ⟨l, b, c, k, hb, hc, Int.natCast_add b k, Int.natCast_add c k, Int.ofNat_le.2 hs, Int.ofNat_le.2 ht⟩
  have hopen := hplace 0 0 0 0 (by decide) (by decide) (by decide) (by decide)
  have hopened := hplace 0 0 0 1 (by decide) (by decide) (by decide) (by decide)
  have hword := hplace 1 3 6 0 (by decide) (by decide) (by decide) (by decide)
  have hworded := hplace 1 3 6 1 (by decide) (by decide) (by decide) (by decide)
  have hclose := hplace 3 10 9 0 (by decide) (by decide) (by decide) (by decide)
  have hclosed := hplace 3 10 9 1 (by decide) (by decide) (by decide) (by decide)
  exact ⟨rfl, ⟨rfl, hopen, hclosed, ⟨rfl, hopen, hopened, trivial⟩, ⟨rfl, hword, hworded, trivial⟩,
    ⟨rfl, hclose, hclosed, trivial⟩, trivial⟩, trivial⟩

/-- So the neat block is what both of them are indented to. -/
theorem reindent_canonical_ragged :
    ragged.source.Variant neat.source ∧ ragged.reindent.1 = neat.reindent.1 ∧
      neat.reindent.1 = .ok "\x7b\n    x\n\n\x7d\n" := by
  have hvariant : ragged.source.Variant neat.source := by
    unfold Source.Variant
    decide
  have hvalid : Utf8.Valid ragged.source.bytes := by
    unfold Utf8.Valid
    decide
  have hreindent : ragged.reindent.1 = .ok "\x7b\n    x\n\n\x7d\n" := by decide +kernel
  have hcanonical := reindent_canonical Awk.builds_language Awk.builds_language (s := ragged) (t := neat) rfl rfl carriedTo_neat
  exact ⟨hvariant, hcanonical.1 hvariant, hcanonical.2 _ hvalid hreindent rfl⟩

end Session

end AwkEdit
