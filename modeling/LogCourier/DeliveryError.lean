import LogCourier.Time.Span

/-! What can go wrong between a queue and its endpoint, and how it is worded. -/

namespace LogCourier

/-- A failure to deliver or to print. -/
inductive DeliveryError where
  | ioWhile (operation cause : String)
  | io (cause : String)
  | json (cause : String)
  | http (cause : String)
  | rejected (status events : Nat)
  | timedOut (after : Span)
  | invalidSetting (key problem : String)
  | stopped
  | crashed (component problem : String)
  | other (problem : String)
  deriving DecidableEq, Repr

namespace DeliveryError

/-- The wording of a failure. -/
def message : DeliveryError → String
  | ioWhile operation cause => "IO error while " ++ operation ++ ": " ++ cause
  | io cause => "IO error: " ++ cause
  | json cause => "JSON error: " ++ cause
  | http cause => "HTTP error: " ++ cause
  | rejected status events =>
    "Endpoint rejected batch of " ++ String.ofList (digits events) ++ " events with status " ++
      String.ofList (digits status)
  | timedOut after => "Transmission timed out after " ++ after.text
  | invalidSetting key problem => "Invalid configuration for " ++ key ++ ": " ++ problem
  | stopped => "Shipper already stopped"
  | crashed component problem => component ++ " panicked: " ++ problem
  | other problem => problem

end DeliveryError

/-- What a crash of foreign code leaves behind: a text, or something that is none. -/
inductive Crash where
  | text (message : String)
  | opaqueValue
  deriving DecidableEq, Repr

namespace Crash

/-- The failure that a caught crash is reported as. -/
def error (component : String) : Crash → DeliveryError
  | text message => .crashed component message
  | opaqueValue => .crashed component "Unknown panic"

end Crash

/-- How a call into foreign code ends. -/
inductive Outcome where
  | ok
  | failed (error : DeliveryError)
  | crashed (crash : Crash)
  deriving DecidableEq, Repr

namespace Outcome

/-- The failure of a call whose crash is caught. -/
def error? (component : String) : Outcome → Option DeliveryError
  | ok => none
  | failed error => some error
  | crashed crash => some (crash.error component)

end Outcome

end LogCourier
