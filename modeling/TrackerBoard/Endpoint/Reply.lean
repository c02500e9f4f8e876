import TrackerBoard.Snapshot.Wire
import TrackerBoard.Text.Digits

/-!
# Replies of an endpoint

What a fetch comes to, given what became of its request: an endpoint that is not reached is a
failure of transport, a status other than success is a failure of its own, and the body of a
successful answer is read as a snapshot.
-/

namespace TrackerBoard

/-- What became of a request. -/
inductive Reply where
  | unreachable (reason : String)
  | answered (status : UInt16) (body : List UInt8)

namespace Reply

/-- Whether a status tells of success. -/
def isSuccess (status : UInt16) : Bool := 200 ≤ status && status < 300

/-- What a fetch comes to. -/
def outcome : Reply → Except FetchFailure Snapshot
  | unreachable reason => .error (.transport reason)
  | answered status body =>
    if isSuccess status then Snapshot.decode body else .error (.status status)

/-- The reply that a line tells of, of a status, a blank and a body; a line without a status is no
answer. -/
def ofLine (line : String) : Reply :=
  let (status, rest) := line.toList.span (· ≠ ' ')
  match (Digits.natural? status).filter (· < UInt16.size) with
  | some status => .answered status.toUInt16 (Utf8.encode rest.tail)
  | none => .unreachable "no answer"

/-- Why nobody listens at an address. -/
def unreachableReason (endpoint : String) : String :=
  "error sending request for url (" ++ endpoint ++ ")"

end Reply

end TrackerBoard
