import LogCourier.Notice
import LogCourier.Settings.Choice
import LogCourier.Text.Quoted

/-! The environment as a source of settings: useless values are reported and then ignored. -/

namespace LogCourier

/-- The variables that settings are looked up under. -/
inductive Variable where
  | endpoint | sourceId | appId | serviceName | publishInterval | minBatch | maxBatch
  | sendTimeout | compression | echo | lineFormat
  deriving DecidableEq, Repr

/-- The name of a variable. -/
def Variable.name : Variable → String
  | endpoint => "LOG_SHIPPER_ENDPOINT_URL"
  | sourceId => "LOG_SHIPPER_SOURCE_ID"
  | appId => "LOG_SHIPPER_APP_ID"
  | serviceName => "LOG_SHIPPER_SERVICE_NAME"
  | publishInterval => "LOG_SHIPPER_PUBLISH_INTERVAL_MS"
  | minBatch => "LOG_SHIPPER_MIN_BUFFER_SIZE"
  | maxBatch => "LOG_SHIPPER_MAX_BUFFER_SIZE"
  | sendTimeout => "LOG_SHIPPER_SEND_TIMEOUT_MS"
  | compression => "LOG_SHIPPER_COMPRESSION"
  | echo => "LOG_SHIPPER_CONSOLE"
  | lineFormat => "LOG_SHIPPER_CONSOLE_FORMAT"

/-- The values of variables by their names. -/
abbrev Environment := String → Option String

/-- A value from the environment, if there is a useful one, and what there was to report. -/
structure Lookup (α : Type) where
  value : Option α
  notices : List Notice

namespace Environment

/-- An environment without variables. -/
def empty : Environment := fun _ => none

/-- The value of a variable as it stands. -/
def text (environment : Environment) (key : Variable) : Option String :=
  environment key.name

/-- Reads a variable, unless an explicit value makes that needless. -/
def lookUp (environment : Environment) (explicit : Option α) (key : Variable)
    (parse : String → Except String α) : Lookup α :=
  match explicit with
  -- With an explicit value the variable is not even looked at.
  | some value => ⟨some value, []⟩
  | none =>
    match environment.text key with
    | none => ⟨none, []⟩
    | some raw =>
      match parse raw with
      | .ok value => ⟨some value, []⟩
      -- A useless value counts as none, and is quoted in what is told of it.
      | .error problem =>
        ⟨none, [.ignoredVariable key.name ("ignoring " ++ quoted raw ++ ": " ++ problem)]⟩

end Environment

/-- A text without the blanks at its ends, in which a value is looked for. -/
def trimmedText (raw : String) : String :=
  String.ofList (trimBlanks raw.toList)

/-- A whole number of 64 bits. -/
def parseNumber (raw : String) : Except String Nat :=
  (parseBounded 18446744073709551615 (trimBlanks raw.toList)).mapError DigitsFault.message

/-- A number of milliseconds. -/
def parseMillis (raw : String) : Except String Span :=
  (parseNumber raw).map Span.ofMillis

/-- A compression by its name. -/
def parseCompression (raw : String) : Except String Compression :=
  match Compression.parse? (trimmedText raw) with
  | some choice => .ok choice
  | none => .error (Compression.parseFailure (trimmedText raw))

/-- A line format by its name. -/
def parseLineFormat (raw : String) : Except String LineFormat :=
  match LineFormat.parse? (trimmedText raw) with
  | some format => .ok format
  | none => .error (LineFormat.parseFailure (trimmedText raw))

/-- A switch position by one of its names. -/
def parseSwitch (raw : String) : Except String Bool :=
  match parseSwitch? raw with
  | some wanted => .ok wanted
  | none => .error "expected a boolean"

end LogCourier
