import LogCourier.DeliveryError
import LogCourier.Event.Submission

/-!
The bridge from a logging facade: records of the facade become submissions.

Records that arise while their own thread is sending a batch are passed over; otherwise every send
would be followed by a send of what it logged.
-/

namespace LogCourier

/-- How much the bridge lets through: nothing, or everything at least this severe. -/
inductive Threshold where
  | off
  | atLeast (severity : Severity)
  deriving DecidableEq, Repr

namespace Threshold

/-- Everything passes. -/
instance : Inhabited Threshold := ⟨atLeast .trace⟩

/-- Whether a severity passes. -/
def admits : Threshold → Severity → Bool
  | off, _ => false
  | atLeast least, severity => least.rank ≤ severity.rank

end Threshold

/-- A record of the facade. -/
structure Record where
  severity : Severity
  target : String
  modulePath : Option String
  file : Option String
  line : Option UInt32
  message : String
  deriving DecidableEq, Repr

namespace Record

/-- The attributes that tell where a record comes from. -/
def attributes (record : Record) : Attributes :=
  -- What is not known of a record is left out.
  .ofList <|
    ("logger", .text record.target) ::
      ((record.modulePath.map fun name => ("module", Field.text name)).toList ++
        (record.file.map fun name => ("file", Field.text name)).toList ++
        (record.line.map fun line => ("line", Field.int (Int64.ofNat line.toNat))).toList)

/-- The submission that a record becomes. -/
def submission (record : Record) : Submission :=
  (Submission.ofMessage record.severity record.message).withAttributes record.attributes

/-- Whether a record passes a threshold on a thread that is sending or not. -/
def passes (record : Record) (threshold : Threshold) (sending : Bool) : Bool :=
  threshold.admits record.severity && !sending

end Record

/-- What comes of installing a bridge where there is one already. -/
def Threshold.alreadyInstalled : DeliveryError :=
  .other <| "Failed to install log bridge: attempted to set a logger after the logging system " ++
    "was already initialized"

end LogCourier
