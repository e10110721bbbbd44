import AwkEdit.Regex.CharTest
import AwkEdit.Text.Quoted

/-!
# Regular expressions

The structure of regular expressions, how many characters they match, and the flags that they are read under. A sequence is elements
before one another and `empty` at its end, and a choice is sequences before one another and `nothing` at its end. Groups are numbered
from one; what a group has matched can be asked for later on. A group that changes flags only is an element as well, since what is
noticed of the front of sequences does not reach into it.
-/

namespace AwkEdit

/-- In which order the numbers of rounds of a repetition are tried: many first, few first, or as many as possible only. -/
inductive Manner where
  | greedy
  | lazy
  | possessive
  deriving DecidableEq, Repr

/-- A regular expression. -/
inductive Regex where
  | empty
  | seq (a rest : Regex)
  | nothing
  | alt (a others : Regex)
  | one (test : CharTest)
  | repeated (r : Regex) (least : Nat) (most : Option Nat) (manner : Manner)
  | group (index : Nat) (r : Regex)
  | flagged (r : Regex)
  | atomic (r : Regex)
  | again (index : Nat) (rule : CaseRule)
  | given (index : Nat) (yes no : Regex)
  | ahead (r : Regex) (wanted : Bool)
  | behind (distance : Nat) (r : Regex) (wanted : Bool)
  | textStart
  | textEnd
  | lineStart (everyLine : Bool)
  | lineEnd (everyLine : Bool)
  | wordEdge (ascii inside : Bool)
  deriving DecidableEq, Repr

/-- How many characters something matches: at least, and at most unless there is no bound. -/
structure Width where
  least : Nat
  most : Option Nat
  deriving DecidableEq, Repr

namespace Width

/-- The width of nothing. -/
def zero : Width := ⟨0, some 0⟩

/-- The width of one thing after another. -/
def plus (a b : Width) : Width := ⟨a.least + b.least, do return (← a.most) + (← b.most)⟩

/-- The width of one of two things. -/
def either (a b : Width) : Width := ⟨min a.least b.least, do return max (← a.most) (← b.most)⟩

/-- The width of a repetition. -/
def times (w : Width) (least : Nat) (most : Option Nat) : Width :=
  ⟨w.least * least, if w.most = some 0 ∨ most = some 0 then some 0 else do return (← w.most) * (← most)⟩

end Width

/-- The width of an expression; `known` are the widths of the groups before it. -/
def Regex.width (known : List (Nat × Width)) : Regex → Width
  | one _ => ⟨1, some 1⟩
  | seq a b => (a.width known).plus (b.width known)
  | alt a nothing => a.width known
  | alt a b | given _ a b => (a.width known).either (b.width known)
  | repeated r least most _ => (r.width known).times least most
  | group _ r | flagged r | atomic r => r.width known
  | again index _ => (known.lookup index).getD .zero
  | _ => .zero

namespace Regex

/-! ## Sequences and choices -/

/-- Elements as a sequence. -/
def sequence (elements : List Regex) : Regex := elements.foldr seq empty

/-- Whether an expression is nothing to match: there are no elements, or they are groups without elements. -/
def isSilent : Regex → Bool
  | empty => true
  | seq a b => a.isSilent && b.isSilent
  | flagged r => r.isSilent
  | _ => false

/-- The test of a character that an expression starts with. -/
def leading? : Regex → Option CharTest
  | one test => some test
  | seq a b => if a.isSilent then b.leading? else a.leading?
  | flagged r => r.leading?
  | _ => none

/-- The test of a character that a whole sequence is. -/
def single? : Regex → Option CharTest
  | seq (one test) empty => some test
  | seq (flagged r) empty => r.single?
  | _ => none

/-- Whether several sequences that start with an element are noticed to do so. -/
def isShareable : Regex → Bool
  | one _ | again .. | textStart | textEnd | lineStart _ | lineEnd _ | wordEdge .. => true
  | _ => false

/-- The items of a class that has the same characters as a sequence, if that is one test. -/
def items? : List Regex → Option (List CharItem)
  | [one (.char true n _)] => some [.code n]
  | [one (.cls true items _)] => some items
  | _ => none

/-- Several sequences, of which nothing at the front is the same, as one element: a class if each is a test of one character. -/
def branches (rule : CaseRule) (sequences : List (List Regex)) : Regex :=
  match sequences.mapM items? with
  | some items => one (.ofItems true items.flatten.eraseDups rule)
  | none => (sequences.map sequence).foldr alt nothing

/-- A choice from a sequence and others, as elements: what is the same at the front of them all comes before the choice. -/
def choice (rule : CaseRule) (first : List Regex) (others : List (List Regex)) : List Regex :=
  match first with
  | [] => [branches rule ([] :: others)]
  | a :: rest =>
    if a.isShareable ∧ others.all (·.head? = some a) then a :: choice rule rest (others.map (·.drop 1))
    else [branches rule ((a :: rest) :: others)]

end Regex

/-! ## Flags -/

/-- The flags that an expression is read under. -/
structure RegexFlags where
  template : Bool := false
  ignoreCase : Bool := false
  multiline : Bool := false
  dotAll : Bool := false
  verbose : Bool := false
  ascii : Bool := false
  unicode : Bool := false
  deriving DecidableEq, Repr

namespace RegexFlags

/-- The flags of either. -/
def union (a b : RegexFlags) : RegexFlags :=
  ⟨a.template || b.template, a.ignoreCase || b.ignoreCase, a.multiline || b.multiline, a.dotAll || b.dotAll,
    a.verbose || b.verbose, a.ascii || b.ascii, a.unicode || b.unicode⟩

/-- The flags of one without those of another. -/
def without (a b : RegexFlags) : RegexFlags :=
  ⟨a.template && !b.template, a.ignoreCase && !b.ignoreCase, a.multiline && !b.multiline, a.dotAll && !b.dotAll,
    a.verbose && !b.verbose, a.ascii && !b.ascii, a.unicode && !b.unicode⟩

/-- The flags of both. -/
def common (a b : RegexFlags) : RegexFlags := a.without (a.without b)

/-- The flags that choose the script of the classes. -/
def scripts : RegexFlags := { ascii := true, unicode := true }

/-- The flags after some are turned on and others off; turning on a script turns off the other one. -/
def changed (flags on off : RegexFlags) : RegexFlags :=
  ((if on.ascii || on.unicode then flags.without scripts else flags).union on).without off

/-- Which letters are the same in either case. -/
def caseRule (flags : RegexFlags) : CaseRule :=
  if flags.ignoreCase then if flags.ascii then .ascii else .everyLetter else .exact

/-- The names of the flags that are on. -/
def names (flags : RegexFlags) : List String :=
  [(flags.template, "re.TEMPLATE"), (flags.ignoreCase, "re.IGNORECASE"), (flags.multiline, "re.MULTILINE"),
    (flags.dotAll, "re.DOTALL"), (flags.verbose, "re.VERBOSE"), (flags.ascii, "re.ASCII")].filterMap fun
    | (on, name) => if on then some name else none

end RegexFlags

/-- A regular expression with the pattern that writes it and the flags that stand at its front. -/
structure CompiledRegex where
  pattern : String
  flags : RegexFlags
  body : Regex
  deriving Repr

/-- A compiled expression as messages show it; a long pattern is cut off. -/
def CompiledRegex.shown (r : CompiledRegex) : String :=
  let pattern := String.ofList ((Quoted.quote r.pattern).toList.take 200)
  let flags := String.intercalate "|" r.flags.names
  "re.compile(" ++ pattern ++ (if flags.isEmpty then "" else ", " ++ flags) ++ ")"

end AwkEdit
