import AwkEdit.CommandLine.Options
import AwkEdit.IntegerText

/-!
# Commands

What a command line asks for: options of the application, and a command with options and operands of its own. A name of a file or a
directory has no null character.
-/

namespace AwkEdit.CommandLine

/-- The options before the command, and the command with its arguments. -/
structure Request where
  configPath : Option String
  logLevel : Option String
  logDir : Option String
  command : String
  arguments : List String
  deriving DecidableEq, Repr

/-- A command. -/
inductive Command where
  | highlight (path : String) (features : List String) (level : Option Nat) (start stop : Option Int)
  | indent (path : String) (write check : Bool)
  | outline (path : String) (topLevel : Option Bool)
  | features (level : Option Nat)
  | initConfig (path : Option String) (force : Bool)
  deriving DecidableEq, Repr

/-- What arguments lead to: something that is asked for, help, or nothing because they are wrong. -/
inductive Understood (α : Type) where
  | asked (request : α)
  | help
  | wrong
  deriving DecidableEq, Repr

namespace Understood

/-- What is asked for, unless it is nothing. -/
def ofOption {α : Type} : Option α → Understood α
  | some a => asked a
  | none => wrong

end Understood

/-- The option that asks for help. -/
def helpOption : OptionSpec := { name := "help" }

/-- Whether a text can name a file or a directory. -/
def canName (text : String) : Bool := !text.contains '\x00'

/-! ## The application -/

/-- The options of the application. -/
def applicationOptions : List OptionSpec :=
  [{ name := "config", letter := some 'c', takesValue := true }, { name := "log-level", letter := some 'l', takesValue := true },
   { name := "log-dir", takesValue := true }, helpOption]

/-- The names of the commands. -/
def commandNames : List String := ["highlight", "indent", "outline", "features", "init-config"]

/-- What the arguments of the application lead to. Names are looked at before operands. Operands that name no command are read once more
as options, so that help can be asked for there. -/
def Request.ofArguments (arguments : List String) : Understood Request :=
  match scan applicationOptions false arguments with
  | none => .wrong
  | some a =>
    if a.has "help" then .help
    else if !((a.value? "config").all canName && (a.value? "log-dir").all canName) then .wrong
    else
      match a.operands with
      | [] => .wrong
      | command :: rest =>
        if commandNames.contains command then
          .asked ⟨a.value? "config", a.value? "log-level", a.value? "log-dir", command, rest⟩
        else
          match scan applicationOptions false a.operands with
          | some again => if again.has "help" then .help else .wrong
          | none => .wrong

/-! ## Numbers -/

/-- The value of an option that is an integer within bounds, if it is given; nothing if it is given and is none. -/
def bounded? (a : Arguments) (name : String) (low : Int) (high : Option Int) : Option (Option Int) :=
  match a.value? name with
  | none => some none
  | some text =>
    match (IntegerText.read text).value? with
    | none => none
    | some i => if low ≤ i ∧ high.all (i ≤ ·) then some (some i) else none

/-- The level that an option gives. -/
def level? (a : Arguments) : Option (Option Nat) := (bounded? a "level" 1 (some 4)).map (·.map Int.toNat)

/-! ## The commands -/

/-- The options of a command. -/
def commandOptions (command : String) : List OptionSpec :=
  helpOption ::
    match command with
    | "highlight" =>
      [{ name := "feature", letter := some 'f', takesValue := true }, { name := "level", takesValue := true },
       { name := "start", takesValue := true }, { name := "end", takesValue := true }]
    | "indent" => [{ name := "write", letter := some 'w' }, { name := "check" }]
    | "outline" => [{ name := "top-level" }, { name := "all" }]
    | "features" => [{ name := "level", takesValue := true }]
    | _ => [{ name := "force" }]

/-- The last of two opposite options that is given, as a truth value. -/
def lastOf (a : Arguments) (yes no : String) : Option Bool :=
  ((a.options.filter fun o => o.1 == yes || o.1 == no).getLast?).map (·.1 == yes)

/-- The command that options and operands ask for. -/
def Command.ofScanned (command : String) (a : Arguments) : Option Command :=
  match command, a.operands with
  | "highlight", [path] => do
    return .highlight path (a.values "feature") (← level? a) (← bounded? a "start" 0 none) (← bounded? a "end" 0 none)
  | "indent", [path] => some (.indent path (a.has "write") (a.has "check"))
  | "outline", [path] => some (.outline path (lastOf a "top-level" "all"))
  | "features", [] => do return .features (← level? a)
  | "init-config", [] => some (.initConfig none (a.has "force"))
  | "init-config", [path] => if canName path then some (.initConfig (some path) (a.has "force")) else none
  | _, _ => none

/-- What the arguments of a command lead to. -/
def Command.ofArguments (command : String) (arguments : List String) : Understood Command :=
  match scan (commandOptions command) true arguments with
  | none => .wrong
  | some a => if a.has "help" then .help else .ofOption (ofScanned command a)

/-- The file that a command reads or writes, if it is given. -/
def Command.path? : Command → Option String
  | highlight path .. | indent path .. | outline path .. => some path
  | features .. => none
  | initConfig path _ => path

/-- The names of files and directories that a request gives. -/
def Request.names (r : Request) : List String :=
  r.configPath.toList ++ r.logDir.toList ++
    match Command.ofArguments r.command r.arguments with
    | .asked command => command.path?.toList
    | _ => []

end AwkEdit.CommandLine
