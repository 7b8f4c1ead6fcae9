import LogCourier.Text.Blank
import LogCourier.Text.Case

/-! Severities, least to most severe, and the names under which they are known. -/

namespace LogCourier

/-- How severe an event is. -/
inductive Severity where
  | trace | debug | info | warn | error
  deriving DecidableEq, Repr

namespace Severity

/-- An event is informational unless told otherwise. -/
instance : Inhabited Severity := ⟨info⟩

/-- Every severity, least severe first. -/
def all : List Severity := [trace, debug, info, warn, error]

/-- The position from least to most severe. -/
def rank : Severity → Nat
  | trace => 0
  | debug => 1
  | info => 2
  | warn => 3
  | error => 4

/-- The name of a severity on the wire and on the console. -/
def name : Severity → String
  | trace => "TRACE"
  | debug => "DEBUG"
  | info => "INFO"
  | warn => "WARN"
  | error => "ERROR"

/-- The severity with exactly this name. -/
def ofName? (text : String) : Option Severity :=
  all.find? fun level => level.name == text

/-- The severity that a person may have meant: blanks around and letter case do not count. -/
def parse? (text : String) : Option Severity :=
  -- Capitals are compared, and some letters outside ASCII have theirs in it.
  match String.ofList (upperName (trimBlanks text.toList)) with
  | "TRACE" => some trace
  | "DEBUG" => some debug
  | "INFO" => some info
  | "WARN" => some warn
  | "WARNING" => some warn
  | "ERROR" => some error
  | _ => none

/-- What is said of a text that names no severity. -/
def parseFailure (text : String) : String :=
  "Invalid log level: '" ++ text ++ "'"

/-- The severity that a text names, or what is said of the text. -/
def ofText (text : String) : Except String Severity :=
  (parse? text).elim (.error (parseFailure text)) .ok

/-- The colour number of a severity on terminals. -/
def colour : Severity → String
  | trace => "90"
  | debug => "34"
  | info => "32"
  | warn => "33"
  | error => "31"

/-- A name leads back to its severity. -/
theorem ofName?_name (level : Severity) : ofName? level.name = some level := by
  cases level <;> decide

end Severity

end LogCourier
