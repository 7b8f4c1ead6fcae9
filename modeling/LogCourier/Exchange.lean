import LogCourier.DeliveryError
import LogCourier.Payload.Basic

/-! One exchange with an endpoint: the request that carries a payload, and what its answer means. -/

namespace LogCourier

/-- What comes back from an endpoint. -/
inductive Answer where
  /-- A status. -/
  | status (code : Nat)
  /-- Nothing, until the time is over. -/
  | silence
  /-- The end of the connection, or none at all. -/
  | broken (cause : String)
  deriving DecidableEq, Repr

/-- The request that carries a payload. -/
structure Request where
  path : String
  accept : String
  contentType : String
  contentEncoding : String
  deriving DecidableEq, Repr

namespace Request

/-- The request for a payload under a path. -/
def ofPayload (path : String) (payload : Payload) : Request :=
  ⟨path, "application/json", "application/json", payload.compression.encoding⟩

/-- The path as it stands in a request: it starts with a slash, and fragments stay behind. -/
def target (request : Request) : String :=
  let kept := request.path.toList.takeWhile (· ≠ '#')
  String.ofList (if kept.head? = some '/' then kept else '/' :: kept)

/-- The first line of a request. -/
def line (request : Request) : String :=
  "POST " ++ request.target ++ " HTTP/1.1"

end Request

namespace Answer

/-- The name of this way of delivery. -/
def transportName : String := "http"

/-- What an answer means for a batch: only a status of success counts as delivered. -/
def outcome (answer : Answer) (timeout : Span) (events : Nat) : Outcome :=
  match answer with
  -- All other statuses refuse the batch, redirections among them.
  | status code => if code / 100 = 2 then .ok else .failed (.rejected code events)
  | silence => .failed (.timedOut timeout)
  | broken cause => .failed (.http cause)

end Answer

end LogCourier
