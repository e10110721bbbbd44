import AwkEdit.Event
import AwkEdit.Sorted
import AwkEdit.Text.Ascii

/-!
# The log file

A line of the log file is an event with the command that caused it. The severity of the event stands under the name of levels, in
place of a detail of that name. The log file, and what is made of it when a day is over, is kept apart from all other files: a
command line tells of the lines it adds, and not where they go.
-/

namespace AwkEdit.CommandLine

/-- An event of a command. -/
structure LogRecord where
  event : Event
  command : String
  deriving DecidableEq, Repr

/-- The fields of a record, sorted by name. -/
def LogRecord.fields (r : LogRecord) : List (String × Detail) :=
  let own := [("command", Detail.text r.command), ("event", .text r.event.name), ("level", .text r.event.severity.name)]
  let details := r.event.details.filter fun d => !own.any (·.1 == d.1)
  sortBy (fun a b => !decide (b.1 < a.1)) (own ++ details)

/-- A detail as it is written in the log file. -/
def detailText : Detail → String
  | .absent => "null"
  | .text value => Text.asciiQuoted value
  | .texts values => "[" ++ Quoted.commas (values.map Text.asciiQuoted) ++ "]"
  | .number value => toString value
  | .flag value => if value then "true" else "false"

/-- A record as a line of the log file. -/
def LogRecord.line (r : LogRecord) : String :=
  "\x7b" ++ Quoted.commas (r.fields.map fun (name, d) => Text.asciiQuoted name ++ ": " ++ detailText d) ++ "\x7d"

/-- The name of the log file. -/
def logFileName : String := "awkts.log"

/-- The records of events that are at least as severe as a level. -/
def recordsOf (command : String) (level : Nat) (events : List Event) : List LogRecord :=
  (events.filter fun e => level ≤ e.severity.number).map (⟨·, command⟩)

end AwkEdit.CommandLine
