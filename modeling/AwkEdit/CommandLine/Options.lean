/-!
# Options and operands

Arguments are options and operands. An option has a name with two dashes, and may have a one-letter name; it stands alone or takes a
value, which follows it or is attached to it. One-letter options may be written together after one dash. After two dashes alone
there are operands only.
-/

namespace AwkEdit.CommandLine

/-- An option: the name it is known by, its one-letter name, and whether it takes a value. -/
structure OptionSpec where
  name : String
  letter : Option Char := none
  takesValue : Bool := false
  deriving DecidableEq, Repr

/-- Arguments taken apart: the options with their values, which are empty where none is taken, and the operands. -/
structure Arguments where
  options : List (String × String)
  operands : List String
  deriving DecidableEq, Repr

namespace Arguments

/-- Arguments with options before them. -/
def withOptions (options : List (String × String)) (a : Arguments) : Arguments := ⟨options ++ a.options, a.operands⟩

/-- Arguments with an operand before them. -/
def withOperand (operand : String) (a : Arguments) : Arguments := ⟨a.options, operand :: a.operands⟩

/-- Every value of an option, in order. -/
def values (a : Arguments) (name : String) : List String := (a.options.filter (·.1 == name)).map (·.2)

/-- The last value of an option. -/
def value? (a : Arguments) (name : String) : Option String := (a.values name).getLast?

/-- Whether an option is among the arguments. -/
def has (a : Arguments) (name : String) : Bool := a.options.any (·.1 == name)

end Arguments

/-- What one argument says: options that are complete, and one that still takes the next argument for its value. -/
structure Scanned where
  complete : List (String × String)
  waiting : Option String

/-- One-letter options written together. -/
def scanLetters (specs : List OptionSpec) : List Char → Option Scanned
  | [] => some ⟨[], none⟩
  | c :: rest =>
    match specs.find? (·.letter == some c) with
    | none => none
    | some spec =>
      if spec.takesValue then
        some (if rest.isEmpty then ⟨[], some spec.name⟩ else ⟨[(spec.name, String.ofList rest)], none⟩)
      else (scanLetters specs rest).map fun s => ⟨(spec.name, "") :: s.complete, s.waiting⟩

/-- An option with two dashes, without them. -/
def scanName (specs : List OptionSpec) (text : List Char) : Option Scanned :=
  let name := String.ofList (text.takeWhile (· ≠ '='))
  match specs.find? (·.name == name), text.dropWhile (· ≠ '=') with
  | none, _ => none
  | some spec, [] => some (if spec.takesValue then ⟨[], some name⟩ else ⟨[(name, "")], none⟩)
  | some spec, _ :: value => if spec.takesValue then some ⟨[(name, String.ofList value)], none⟩ else none

/-- What an argument says as an option; none if it is an operand, and nothing in it if it is no option there is. -/
def scanOption (specs : List OptionSpec) (argument : String) : Option (Option Scanned) :=
  match argument.toList with
  | '-' :: '-' :: name => some (scanName specs name)
  | '-' :: c :: letters => some (scanLetters specs (c :: letters))
  | _ => none

/-- Arguments taken apart. If operands may not stand between options, the first operand ends the options. -/
def scan (specs : List OptionSpec) (mixed : Bool) : List String → Option Arguments
  | [] => some ⟨[], []⟩
  | argument :: rest =>
    if argument = "--" then some ⟨[], rest⟩
    else
      match scanOption specs argument with
      | none => if mixed then (scan specs mixed rest).map (·.withOperand argument) else some ⟨[], argument :: rest⟩
      | some none => none
      | some (some ⟨complete, none⟩) => (scan specs mixed rest).map (·.withOptions complete)
      | some (some ⟨complete, some name⟩) =>
        match rest with
        | [] => none
        | value :: rest => (scan specs mixed rest).map (·.withOptions (complete ++ [(name, value)]))

end AwkEdit.CommandLine
