import TrackerBoard.Endpoint.Target
import TrackerBoard.Log
import TrackerBoard.Snapshot.Wire

/-!
# The state endpoint

The bridge serves the snapshot that was published last, or an error while it is down, to whoever
asks for it by `GET` at one path.  Pages of any origin may ask: a request that names an origin is
answered with leave for it, and a browser that asks beforehand is told that `GET` is allowed and
no header beyond the usual.
-/

namespace TrackerBoard

/-- What the endpoint serves. -/
structure Bridge where
  snapshot : Snapshot
  isDown : Bool

/-- A request. -/
structure Request where
  method : String
  /-- The path of the target, without a query. -/
  path : List Char
  headers : List (String × String)

/-- An answer. -/
structure Response where
  status : UInt16
  headers : List (String × String)
  body : String

namespace Request

/-- Whether a text may be a method or the name of a header. -/
def isToken (text : String) : Bool :=
  text ≠ "" ∧ text.toList.all fun c =>
    c.isAlphanum || "!#$%&'*+-.^_\x60|~".toList.contains c

/-- Whether a text may be the value of a header. -/
def isHeaderValue (text : String) : Bool :=
  text.toList.all fun c => c = '\t' ∨ ('\x20' ≤ c ∧ c ≠ '\x7f')

/-- The request of a method and a target, if it is well formed. -/
def ofTarget? (method target : String) (headers : List (String × String)) : Option Request :=
  if isToken method ∧ headers.all fun (name, value) => isToken name ∧ isHeaderValue value then
    (Target.path? target).map (⟨method, ·, headers⟩)
  else none

/-- The value of a header; names are the same in either case of their letters. -/
def header? (r : Request) (name : String) : Option String :=
  (r.headers.find? fun (n, _) => n.map Char.toLower == name).map (·.2)

end Request

namespace Response

/-- An answer in plain text. -/
def plain (status : UInt16) (text : String) : Response :=
  ⟨status, [("content-type", "text/plain; charset=utf-8")], text⟩

/-- An answer in JSON. -/
def json (status : UInt16) (text : String) : Response :=
  ⟨status, [("content-type", "application/json")], text⟩

/-- The bytes of the body. -/
def bytes (r : Response) : List UInt8 := Utf8.encode r.body.toList

/-- An answer without line breaks as one line: its status, a blank, and its body. -/
def line (r : Response) : String := toString r.status.toNat ++ " " ++ r.body

/-- Gives leave to an origin. -/
def allowOrigin (r : Response) (origin : String) : Response :=
  { r with headers := ("access-control-allow-origin", origin) :: r.headers }

end Response

namespace Bridge

/-- Nothing was published yet. -/
def new : Bridge := ⟨{}, false⟩

/-- Publishes a snapshot, and whether the endpoint is down from now on. -/
def publish (b : Bridge) (snapshot : Snapshot) (isDown : Bool) : Bridge × List LogRecord :=
  (⟨snapshot, isDown⟩,
    if b.isDown = isDown then []
    else [.info ("[WebHID] endpoint " ++ if isDown then "down" else "up")])

/-- The paths of the endpoint. -/
def routes : List (List Char) := ["/api/state".toList, "/api/state/".toList]

/-- The answer with the published snapshot, or with an error. -/
def current (b : Bridge) : Response :=
  if b.isDown then
    .json 500 (Json.Value.object [("error", .string "tracker unavailable")]).render
  else .json 200 b.snapshot.wire

/-- The answer to a request of the same origin. -/
def serve (b : Bridge) (r : Request) : Response :=
  if r.path ∉ routes then ⟨404, [], ""⟩
  else if r.method = "GET" then b.current
  else .plain 405 "HTTP method not allowed"

/-- Why a browser is not given leave. -/
def forbidden (what : String) : Response :=
  .plain 403 ("CORS request forbidden: " ++ what ++ " not allowed")

/-- The answer to a browser that asks beforehand, for a page of some origin. -/
def preflight (r : Request) (origin : String) : Response :=
  if r.header? "access-control-request-method" ≠ some "GET" then forbidden "request-method"
  else if (r.header? "access-control-request-headers").isSome then forbidden "header"
  else
    Response.allowOrigin
      ⟨200, [("access-control-allow-headers", ""), ("access-control-allow-methods", "GET")], ""⟩
      origin

/-- Whether a request is answered by the endpoint itself. -/
def isServed (r : Request) : Bool := r.path ∈ routes ∧ r.method = "GET"

/-- The answer to a request. -/
def respond (b : Bridge) (r : Request) : Response :=
  match r.header? "origin" with
  | none => b.serve r
  | some origin =>
    if r.method = "OPTIONS" then preflight r origin
    else if isServed r then (b.serve r).allowOrigin origin
    else b.serve r

end Bridge

end TrackerBoard
