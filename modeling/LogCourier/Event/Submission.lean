import LogCourier.Event.Basic

/-! Submissions: what is told of an occurrence before it is stamped with time and origin. -/

namespace LogCourier

/-- An occurrence as it is handed in. -/
structure Submission where
  severity : Severity
  message : Option String
  failure : Option Failure
  attributes : Attributes
  deriving DecidableEq

namespace Submission

instance : Inhabited Submission := ⟨⟨default, none, none, default⟩⟩

/-- A plain message. -/
def ofMessage (severity : Severity) (message : String) : Submission :=
  { (default : Submission) with severity, message := some message }

/-- The submission with attributes. -/
def withAttributes (submission : Submission) (attributes : Attributes) : Submission :=
  { submission with attributes }

/-- The submission with an error. -/
def withFailure (submission : Submission) (failure : Failure) : Submission :=
  { submission with failure := some failure }

/-- The event that a submission becomes; a missing message counts as an empty one. -/
def event (submission : Submission) (timestamp : Timestamp) (origin : Origin) : Event where
  timestamp := timestamp
  severity := submission.severity
  message := submission.message.getD ""
  failure := submission.failure
  origin := origin
  attributes := submission.attributes

end Submission

end LogCourier
