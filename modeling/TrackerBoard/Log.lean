/-!
# Failures and log records

A fetch fails because the endpoint could not be reached, because it answered with a status other
than success, or because its answer is no snapshot.

What an operation logs is part of its result: the records in the order in which they are written.
Records about an endpoint name it in brackets.
-/

namespace TrackerBoard

/-- Why a fetch gave no snapshot. -/
inductive FetchFailure where
  | transport (reason : String)
  | status (code : UInt16)
  | decode (reason : String)
deriving DecidableEq, Repr

/-- The wording of a failure. -/
def FetchFailure.message : FetchFailure → String
  | transport reason => "transport error: " ++ reason
  | status code => "endpoint answered with HTTP status " ++ toString code.toNat
  | decode reason => "undecodable snapshot: " ++ reason

/-- How much a record matters. -/
inductive LogLevel where
  | debug
  | info
  | warn
deriving DecidableEq, Repr

/-- The name of a level. -/
def LogLevel.name : LogLevel → String
  | debug => "DEBUG"
  | info => "INFO"
  | warn => "WARN"

/-- A log record. -/
structure LogRecord where
  level : LogLevel
  text : String
deriving DecidableEq, Repr

namespace LogRecord

def debug (text : String) : LogRecord := ⟨.debug, text⟩

def info (text : String) : LogRecord := ⟨.info, text⟩

def warn (text : String) : LogRecord := ⟨.warn, text⟩

/-- A message about an endpoint. -/
def ofEndpoint (endpoint message : String) : LogRecord :=
  info ("[" ++ endpoint ++ "] " ++ message)

/-- A failed fetch from an endpoint. -/
def ofFailure (endpoint : String) (failure : FetchFailure) : LogRecord :=
  warn ("[" ++ endpoint ++ "] could not fetch tracker state: " ++ failure.message)

/-- The endpoint named when none is given. -/
def defaultEndpoint : String := "tracker"

end LogRecord

end TrackerBoard
