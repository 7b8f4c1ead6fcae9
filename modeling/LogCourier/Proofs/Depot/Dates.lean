import LogCourier.Proofs.Depot.Silence
import LogCourier.Proofs.Queue.Mapping

/-! Dates: the time of day is stamped on events, and nothing else depends on it. -/

namespace LogCourier

/-- An event without its time has none to lose. -/
@[simp] theorem Event.undated_undated (event : Event) : event.undated.undated = event.undated := rfl

/-- An event that was just stamped has no more than its submission but the time. -/
@[simp] theorem Submission.undated_event (submission : Submission) (wall : Timestamp)
    (origin : Origin) : (submission.event wall origin).undated = submission.undated origin := rfl

/-- What a submission becomes without its time has none to lose. -/
@[simp] theorem Submission.undated_undated (submission : Submission) (origin : Origin) :
    (submission.undated origin).undated = submission.undated origin := rfl

/-- Time is lost once. -/
@[simp] theorem Event.undated_comp_undated : Event.undated ∘ Event.undated = Event.undated := rfl

namespace Task

/-- The task without dates. -/
def undated : Task → Task
  | .echo event => .echo event.undated
  | .offer event => .offer event.undated
  | .append event => .append event.undated
  | .send batch timeout => .send (batch.map Event.undated) timeout
  | .settle wasSending batch outcome => .settle wasSending (batch.map Event.undated) outcome
  | .fallBack events => .fallBack (events.map Event.undated)
  | task => task

end Task

namespace Occurrence

/-- What happened, without dates. -/
def undated : Occurrence → Occurrence
  | .submitted event => .submitted event.undated
  | .arrived event entry => .arrived event.undated entry
  | .evicted event => .evicted event.undated
  | .turnedAway event => .turnedAway event.undated
  | .sent batch payload timeout sending =>
    let undated := batch.map Event.undated
    .sent undated (Payload.encode undated payload.compression) timeout sending
  | .ended batch outcome => .ended (batch.map Event.undated) outcome
  | .shown event outcome => .shown event.undated outcome
  | occurrence => occurrence

/-- Dates are lost once. -/
@[simp] theorem undated_undated (occurrence : Occurrence) :
    occurrence.undated.undated = occurrence.undated := by
  cases occurrence <;> simp [undated, Payload.encode]

end Occurrence

end LogCourier
