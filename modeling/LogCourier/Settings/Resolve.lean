import LogCourier.Settings.Basic
import LogCourier.Settings.Environment

/-! Resolving settings: explicit options first, then the environment, then defaults, then limits. -/

namespace LogCourier

namespace Settings

/-- The shortest publish interval. -/
def shortestInterval : Span := Span.ofMillis 10

/-- The longest publish interval, a day. -/
def longestInterval : Span := Span.ofSeconds 86400

/-- The publish interval unless told otherwise. -/
def defaultInterval : Span := Span.ofSeconds 30

/-- The time that one send may take unless told otherwise. -/
def defaultSendTimeout : Span := Span.ofSeconds 30

/-- The time that the last flush may take unless told otherwise. -/
def defaultShutdownTimeout : Span := Span.ofSeconds 5

/-- The least batch worth a timer's while unless told otherwise. -/
def defaultMinBatch : Nat := 100

/-- The batch that is sent at once unless told otherwise. -/
def defaultMaxBatch : Nat := 10000

end Settings

/-- An endpoint without the blanks around it, if anything is left. -/
def cleanEndpoint (url : Option String) : Option String :=
  (url.map trimmedText).filter fun text => !text.isEmpty

/-- A name as it is given, unless it is blank. -/
def cleanName (name : Option String) : Option String :=
  name.filter fun text => !isBlankText text

namespace Options

/-- The settings that options amount to in an environment, and the notices given on the way. -/
def resolve (options : Options) (environment : Environment) : Settings × List Notice :=
  let endpoint := cleanEndpoint (options.endpoint <|> environment.text .endpoint)
  let origin : Origin :=
    ⟨cleanName (options.sourceId <|> environment.text .sourceId),
      cleanName (options.appId <|> environment.text .appId),
      cleanName (options.serviceName <|> environment.text .serviceName)⟩
  let interval := environment.lookUp options.publishInterval .publishInterval parseMillis
  let maxBatch := environment.lookUp options.maxBatch .maxBatch parseNumber
  let minBatch := environment.lookUp options.minBatch .minBatch parseNumber
  let sendTimeout := environment.lookUp options.sendTimeout .sendTimeout parseMillis
  let compression := environment.lookUp options.compression .compression parseCompression
  let echo := environment.lookUp options.echo .echo parseSwitch
  let lineFormat := environment.lookUp options.lineFormat .lineFormat parseLineFormat
  -- The limits hold wherever a value comes from.
  let publishInterval := (interval.value.getD Settings.defaultInterval).clamp
    Settings.shortestInterval Settings.longestInterval
  -- A batch limit of zero would never let anything wait.
  let largest := max (maxBatch.value.getD Settings.defaultMaxBatch) 1
  let settings : Settings := {
    endpoint, origin, publishInterval
    minBatch := min (minBatch.value.getD Settings.defaultMinBatch) largest
    maxBatch := largest
    -- A send that fills the interval would meet the next flush.
    sendTimeout :=
      (sendTimeout.value.getD Settings.defaultSendTimeout).min publishInterval.nineTenths
    compression := compression.value.getD default
    -- What is not sent anywhere is shown, unless told otherwise.
    echo := echo.value.getD endpoint.isNone
    lineFormat := lineFormat.value.getD default
    -- Below the batch limit a ceiling would never let a batch fill.
    overflow := (options.overflow.getD default).raisedTo largest
    autoStart := options.autoStart.getD true
    shutdownTimeout := options.shutdownTimeout.getD Settings.defaultShutdownTimeout }
  -- What was told stands in the order in which the variables were read.
  (settings, interval.notices ++ maxBatch.notices ++ minBatch.notices ++ sendTimeout.notices ++
    compression.notices ++ echo.notices ++ lineFormat.notices)

end Options

/-- The settings of a courier of which nothing is told. -/
def Settings.standard : Settings :=
  (Options.none.resolve Environment.empty).1

end LogCourier
