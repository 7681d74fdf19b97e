import ValueTrace.Duration
import ValueTrace.Inspector.Frame

/-!
# Failures of a connection

What can go wrong between a request and its result: the connection, the time, the debuggee's own
refusal and the shape of the data.

## Main definitions

* `TransportError`, `TransportError.message` : the failures.
* `TransportError.isProtocol` : whether the debuggee itself refused a request.
-/

namespace ValueTrace.Inspector

open Json (DecodeError)

/-- Why a connection or a request fails. -/
inductive TransportError where
  | connect (endpoint reason : String)
  | closed
  | timeout (method : String) (id : RequestId) (bound : Duration)
  | protocol (method : String) (code : Int) (message : String)
  | encode (error : DecodeError)
  | decode (method : String) (error : DecodeError)

namespace TransportError

/-- The wording of a connection that cannot be opened, up to the reason. -/
def connectHeadline (endpoint : String) : String := "failed to connect to " ++ endpoint

/-- The wording of a failure. -/
def message : TransportError → String
  | .connect endpoint reason => connectHeadline endpoint ++ ": " ++ reason
  | .closed => "connection closed"
  | .timeout method id bound =>
    "request " ++ method ++ " (id " ++ toString id ++ ") timed out after " ++ bound.text
  | .protocol method code message =>
    method ++ " failed with code " ++ (Json.Number.integer code).text ++ ": " ++ message
  | .encode error => "failed to encode request: " ++ error.message
  | .decode method error => "failed to decode " ++ method ++ " result: " ++ error.message

/-- The failure of a request that the debuggee refused. -/
def ofBody (method : String) (body : ErrorBody) : TransportError :=
  .protocol method body.code body.message

/-- Whether the debuggee itself refused the request. -/
def isProtocol : TransportError → Bool
  | .protocol .. => true
  | _ => false

end TransportError

end ValueTrace.Inspector
