import LogCourier.DeliveryError
import LogCourier.Event.Basic
import LogCourier.Settings.Choice

/-! The console: a line for each event, errors on standard error, all else on standard output. -/

namespace LogCourier

/-- Where a line is printed. -/
inductive Stream where
  | out | err
  deriving DecidableEq, Repr

/-- How lines look. -/
structure Console where
  colours : Bool
  format : LineFormat
  deriving DecidableEq, Repr

/-- A message in which line breaks and tabs are spelled out. -/
def spelledOut (message : String) : String :=
  -- Only these three are spelled out; other control characters stand as they are.
  String.ofList <| message.toList.flatMap fun
    | '\n' => ['\\', 'n']
    | '\r' => ['\\', 'r']
    | '\t' => ['\\', 't']
    | other => [other]

namespace Console

/-- Lines for people, in colours. -/
def standard : Console := ⟨true, .text⟩

instance : Inhabited Console := ⟨standard⟩

/-- Lines for people, in colours or not. -/
def withColours (colours : Bool) : Console := ⟨colours, .text⟩

/-- The console with another format; lines for programs have no colours. -/
def withFormat (console : Console) (format : LineFormat) : Console :=
  ⟨console.colours && format ≠ .json, format⟩

/-- The name of the console among sinks of events. -/
def name : String := "console"

/-- The name of a severity in a column of five, in its colour where that can be shown. -/
def severityColumn (console : Console) (ansi : Bool) (severity : Severity) : String :=
  let name := severity.name
  let column := name ++ String.ofList (List.replicate (5 - name.length) ' ')
  -- Colours are for streams that can show them.
  if console.colours && ansi then
    "\x1b[" ++ severity.colour ++ "m" ++ column ++ "\x1b[0m"
  else column

/-- The end of a line that tells of an error: kind, message, causes and frames. -/
def failureText (failure : Failure) : String :=
  -- The kind is the one text here that stands as it is.
  " | " ++ ((failure.kind.map (· ++ ": ")).getD "") ++ spelledOut failure.message ++
    String.join (failure.causes.map fun cause => " | caused by: " ++ spelledOut cause) ++
    String.join (failure.stack.map fun frame => "\\n\\tat " ++ spelledOut frame)

/-- The line of an event for people. -/
def line (console : Console) (ansi : Bool) (event : Event) : String :=
  -- Of the texts before the error only the message has its breaks spelled out.
  "[" ++ event.timestamp.text ++ "] [" ++ console.severityColumn ansi event.severity ++ "] " ++
    event.origin.label ++ " - " ++ spelledOut event.message ++
    (if event.attributes.isEmpty then "" else " " ++ event.attributes.display) ++
    ((event.failure.map failureText).getD "")

/-- The line of an event. -/
def render (console : Console) (ansi : Bool) (event : Event) : String :=
  match console.format with
  | .text => console.line ansi event
  | .json => event.wire

/-- Where the line of an event goes. -/
def stream (severity : Severity) : Stream :=
  if severity = .error then .err else .out

/-- What is printed for an event. -/
def printed (console : Console) (ansi : Bool) (event : Event) : String :=
  console.render ansi event ++ "\n"

/-- The failure to print to a device without space. -/
def deviceFull : DeliveryError :=
  .ioWhile "writing to console" "No space left on device (os error 28)"

/-- How printing an event ends when standard error is or is not a full device. -/
def write (errFull : Bool) (event : Event) : Outcome :=
  if errFull && stream event.severity = .err then .failed deviceFull else .ok

end Console

end LogCourier
