import LogCourier.DeliveryError
import LogCourier.Number.Layout

/-! Notices to the operator, which go straight to standard error. -/

namespace LogCourier

/-- Something that the operator is told. -/
inductive Notice where
  /-- There is no endpoint, so events are shown at most. -/
  | disabled
  /-- A batch could not be delivered. -/
  | dropping (error : DeliveryError) (events : Nat)
  /-- An event could not be shown. -/
  | consoleFailed (error : DeliveryError)
  /-- An environment variable holds something useless. -/
  | ignoredVariable (key problem : String)
  /-- There was no thread for the courier. -/
  | noThread (cause : String)
  /-- The courier was gone before it was asked to stop. -/
  | goneEarly
  /-- The courier crashed instead of stopping. -/
  | crashedStopping
  /-- The courier was still busy at the deadline. -/
  | overdue (deadline : Span)
  /-- What was lost by the end; the rate is in percent. -/
  | undelivered (events : Nat) (rate : Float)
  deriving DecidableEq

namespace Notice

/-- The mark of lines that warn. -/
def warning : String := "[LOG SHIPPER WARNING] "

/-- The mark of lines that report an error. -/
def alarm : String := "[LOG SHIPPER ERROR] "

/-- The rule above and below the banner. -/
def rule : String := String.ofList (List.replicate 64 '*')

/-- The lines of a notice. -/
def lines : Notice → List String
  | disabled =>
    [rule, warning ++ "No ingestion endpoint configured",
      warning ++ "Events are not shipped; console output only", rule]
  | dropping error events =>
    [warning ++ "Dropping batch of " ++ String.ofList (digits events) ++ " events: " ++
      error.message]
  | consoleFailed error => [alarm ++ "Console output failed: " ++ error.message]
  | ignoredVariable key problem => [warning ++ (DeliveryError.invalidSetting key problem).message]
  | noThread cause => [alarm ++ "Failed to spawn publisher thread: " ++ cause]
  | goneEarly => [alarm ++ "Publisher thread exited before shutdown"]
  | crashedStopping =>
    [alarm ++ "Publisher thread panicked during shutdown: Any \x7b .. \x7d"]
  | overdue deadline =>
    [warning ++ "Publisher thread did not finish within " ++ deadline.text ++
      ". Pending events may be lost."]
  | undelivered events rate =>
    [warning ++ "Shipper shutting down with " ++ String.ofList (digits events) ++
      " undelivered events (loss rate: " ++ String.ofList (fixedPlaces 2 rate) ++ "%)"]

/-- The text of a notice, every line of it ended. -/
def text (notice : Notice) : String :=
  String.join (notice.lines.map (· ++ "\n"))

end Notice

end LogCourier
