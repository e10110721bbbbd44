import AwkEdit.Bundled.Rules
import AwkEdit.Grammar
import AwkEdit.Highlight.Pass
import AwkEdit.Indent.Resolve

/-!
# Editing sessions

A session is a snapshot with the settings and the rules that its queries use. A region is indented line by line from the top: a
byte on a line that has been indented already is measured where that line's new indentation puts it. Nothing changes the snapshot;
`Session.reindent` is the text that results, unless a line would start further to the right than a text can extend. The text of a
session is one that there is, so its bytes can be counted.
-/

namespace AwkEdit

/-- A snapshot with settings and rules. -/
structure Session where
  tree : Snapshot
  config : EngineConfig
  language : Language
  counted : tree.source.size ≤ Extent.countable

namespace Session

/-- The session of a snapshot over a text, which has to be the text that the snapshot was built from. -/
def ofTree (text : Source) (tree : Snapshot) (config : EngineConfig) (language : Language)
    (counted : tree.source.size ≤ Extent.countable) : Except TreeError Session :=
  if tree.source = text then .ok ⟨tree, config, language, counted⟩ else .error .differentText

/-- The text of the session. -/
def source (s : Session) : Source := s.tree.source

/-! ## Indentation -/

/-- The decision for a line as the text stands. -/
def indentLine (s : Session) (line : Nat) : IndentDecision × List Event := s.language.indent.resolveLine s.config s.tree line

/-- The column of a byte as the text stands. -/
def columnOf (s : Session) (pos : Int) : Int := s.source.column s.config.tabWidth pos

/-- The column of a byte after some lines were given new columns: on such a line, what lies at or after its first significant byte
moves with it. -/
def columnAfter (s : Session) (moved : List (Nat × Int)) (pos : Int) : Int :=
  let line := s.source.lineOf pos
  match moved.lookup line, s.source.firstNonblank line with
  | some column, some bol => if pos < bol then s.columnOf pos else column + s.columnOf pos - s.columnOf bol
  | _, _ => s.columnOf pos

/-- The new columns of lines after one more line was indented; a blank line has no column. -/
def moveLine (s : Session) (moved : List (Nat × Int)) (line : Nat) (d : IndentDecision) : List (Nat × Int) :=
  if (s.source.firstNonblank line).isSome then (line, d.column) :: moved else moved

/-- The decisions for lines one after another, when other lines were given new columns before. -/
def indentAfter (s : Session) (moved : List (Nat × Int)) : List Nat → List IndentDecision × List Event
  | [] => ([], [])
  | line :: lines =>
    let (d, events) := s.language.indent.resolveWith s.config (s.columnAfter moved) s.tree line
    let (ds, more) := indentAfter s (s.moveLine moved line d) lines
    (d :: ds, events ++ more)

/-- The lines of a region, which is cut to the lines that there are. -/
def region (s : Session) (start : Int) (stop : Option Int) : List Nat :=
  let last := (stop.map fun i => min i (s.source.lineCount : Int)).getD s.source.lineCount
  (List.range last.toNat).drop start.toNat

/-- The decisions for the lines of a region, from the top. -/
def indentLines (s : Session) (start : Int) (stop : Option Int) : List IndentDecision × List Event :=
  s.indentAfter [] (s.region start stop)

/-- A line as it is indented anew: a blank line keeps nothing but a carriage return at its end. -/
def newLine (s : Session) (line : Nat) (d : IndentDecision) : List Char :=
  match s.source.firstNonblank line with
  | none => if (s.source.lineBytes line).getLast? = some 0x0D then ['\r'] else []
  | some bol => List.replicate d.column.toNat ' ' ++ s.source.chars bol (s.source.lineEnd line)

/-- The lines of the text under decisions, one for each. -/
def linesUnder (s : Session) (ds : List IndentDecision) : List (List Char) := List.zipWith s.newLine (s.region 0 none) ds

/-- Why a decision cannot put a line where it does, unless it can; a blank line is put nowhere. -/
def lineFault? (s : Session) (line : Nat) (d : IndentDecision) : Option Extent.Fault :=
  if (s.source.firstNonblank line).isNone then none else Extent.fault? d.column

/-- The lines of the text under decisions, unless one of them cannot be put where its decision does. -/
def newLines (s : Session) (ds : List IndentDecision) : Except Extent.Fault (List (List Char)) :=
  match (List.zipWith s.lineFault? (s.region 0 none) ds).findSome? id with
  | some fault => .error fault
  | none => .ok (s.linesUnder ds)

/-- The text with every line indented anew, unless a line cannot be, and what is reported. -/
def reindent (s : Session) : Except Extent.Fault String × List Event :=
  let (ds, events) := s.indentLines 0 none
  match s.newLines ds with
  | .error fault => (.error fault, events)
  | .ok lines => (.ok (String.ofList (['\n'].intercalate lines)), events ++ [.reindented lines.length])

/-- The text as it stands. -/
def text (s : Session) : String := s.source.text 0 s.source.size

/-- Whether the text is what it would be if it were indented anew, unless a line cannot be, and what is reported. -/
def isIndented (s : Session) : Except Extent.Fault Bool × List Event :=
  let (text, events) := s.reindent
  (text.map (· == s.text), events)

/-! ## Highlighting and outline -/

/-- The table of a pass over a range, and what is reported. -/
def sweep (s : Session) (start stop : Option Int) : Table × List Event := s.language.highlight.sweep s.tree s.config start stop

/-- The outline, and what is reported. -/
def outline (s : Session) : List OutlineEntry × List Event := s.language.outline.outline s.tree s.config

/-- The definition around a position: the innermost one, or the outermost one if the top level is preferred. -/
def definitionAt? (s : Session) (pos : Int) : Option Place := s.language.outline.definitionAt? s.tree pos s.config.preferTopLevel

/-- The name of a definition, if it has one. -/
def definitionName? (s : Session) (p : Place) : Option String := (s.language.outline.namePlace? p).map fun name => s.tree.text name.node

end Session

end AwkEdit
