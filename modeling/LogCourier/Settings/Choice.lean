import LogCourier.Text.Blank
import LogCourier.Text.Case

/-! Choices that settings name: how bodies are compressed and how console lines look. -/

namespace LogCourier

/-- How the body of a payload is compressed. -/
inductive Compression where
  | none | gzip
  deriving DecidableEq, Repr

namespace Compression

instance : Inhabited Compression := ⟨gzip⟩

/-- The name of a choice in settings. -/
def name : Compression → String
  | none => "none"
  | gzip => "gzip"

/-- The name of the content encoding that receivers are told. -/
def encoding : Compression → String
  | none => "identity"
  | gzip => "gzip"

/-- The choice that a person may have meant: blanks around and letter case do not count. -/
def parse? (text : String) : Option Compression :=
  match String.ofList (lowerName (trimBlanks text.toList)) with
  | "none" => some none
  | "identity" => some none
  | "gzip" => some gzip
  | _ => Option.none

/-- What is said of a text that names no compression. -/
def parseFailure (text : String) : String :=
  "Invalid compression: '" ++ text ++ "' (expected gzip or none)"

/-- The compression that a text names, or what is said of the text. -/
def ofText (text : String) : Except String Compression :=
  (parse? text).elim (.error (parseFailure text)) .ok

end Compression

/-- How an event looks on the console. -/
inductive LineFormat where
  | text | json
  deriving DecidableEq, Repr

namespace LineFormat

instance : Inhabited LineFormat := ⟨text⟩

/-- The name of a choice in settings. -/
def name : LineFormat → String
  | text => "text"
  | json => "json"

/-- The choice that a person may have meant: blanks around and letter case do not count. -/
def parse? (input : String) : Option LineFormat :=
  match String.ofList (lowerName (trimBlanks input.toList)) with
  | "text" => some text
  | "json" => some json
  | _ => none

/-- What is said of a text that names no format. -/
def parseFailure (input : String) : String :=
  "Invalid console format: '" ++ input ++ "' (expected text or json)"

/-- The line format that a text names, or what is said of the text. -/
def ofText (input : String) : Except String LineFormat :=
  (parse? input).elim (.error (parseFailure input)) .ok

end LineFormat

/-- The switch position that a person may have meant. -/
def parseSwitch? (text : String) : Option Bool :=
  match String.ofList (lowerName (trimBlanks text.toList)) with
  | "1" | "true" | "yes" | "on" => some true
  | "0" | "false" | "no" | "off" => some false
  | _ => none

end LogCourier
