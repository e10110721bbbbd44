import AwkEdit.Text.Blank
import AwkEdit.Text.Quoted
import AwkEdit.Text.Upper

/-!
# Log levels

A log level is the least severity that is logged. It is written as a name, apart from blanks around it and from case.
-/

namespace AwkEdit.LogLevel

/-- The levels under their names. -/
def named : List (String × Nat) :=
  [("CRITICAL", 50), ("FATAL", 50), ("ERROR", 40), ("WARN", 30), ("WARNING", 30), ("INFO", 20), ("DEBUG", 10), ("NOTSET", 0)]

/-- The level of a name. -/
def ofName? (name : String) : Option Nat := named.lookup (Text.upper (Text.trimBlank name))

/-- What is said of a name that is no level. -/
def unknownName (name : String) : String := s!"Unsupported log level: {Quoted.quote name}"

end AwkEdit.LogLevel
