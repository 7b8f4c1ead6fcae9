import LogCourier.Depot.Task
import LogCourier.Settings.Basic

/-! Calls: what can be asked of a courier from outside, and the tasks that each call begins with. -/

namespace LogCourier

/-- What can be asked from outside. -/
inductive Call where
  /-- To take an occurrence. -/
  | submit (submission : Submission)
  /-- To take a record of the logging facade. -/
  | bridge (record : Record)
  /-- To start the courier on a thread of its own. -/
  | start
  /-- To send what is waiting. -/
  | flush
  /-- To send what is left, and then to stop, within a time. -/
  | stop (timeout : Span)
  /-- To stop, and to tell the operator what was lost. -/
  | dispose
  deriving DecidableEq

namespace Call

/-- The tasks that a call begins with. -/
def tasks (settings : Settings) : Call → List Task
  | submit submission => [.submit submission]
  | bridge record => [.bridge record]
  | start => [.start]
  | flush => [.flush]
  | stop timeout => [.stop timeout]
  | dispose => [.stop settings.shutdownTimeout, .reportLosses]

end Call

end LogCourier
