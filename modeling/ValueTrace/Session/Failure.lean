import ValueTrace.Debuggee.Launch
import ValueTrace.Inspector.Failure
import ValueTrace.Inspector.Payload
import ValueTrace.Session.Phase
import ValueTrace.Source.Parser

/-!
# Failures of a session

What ends a session without a result.

## Main definitions

* `SessionError`, `SessionError.message` : the failures.
-/

namespace ValueTrace

open Inspector (Method TransportError)

/-- Why a session has no result. -/
inductive SessionError where
  | launch (error : LaunchError)
  | parser (error : ParseError)
  | transport (error : TransportError)
  /-- A request that configures the debugger failed. -/
  | configuration (step : Method) (error : TransportError)
  | invalidTransition (source target : EngineState)
  | invalidPhase (source target : Phase)
  /-- Another session or a cancellation came in between. -/
  | superseded
  | pauseTimeout (bound : Duration)
  /-- The debuggee sent what it never should. -/
  | unexpected (message : String)

/-- The wording of a failure. -/
def SessionError.message : SessionError → String
  | .launch error => error.message
  | .parser error => error.message
  | .transport error => error.message
  | .configuration step error =>
    "debugger configuration failed at " ++ step.name ++ ": " ++ error.message
  | .invalidTransition source target =>
    "illegal engine transition from " ++ source.name ++ " to " ++ target.name
  | .invalidPhase source target =>
    "illegal session phase change from " ++ source.name ++ " to " ++ target.name
  | .superseded => "session was superseded before it finished"
  | .pauseTimeout bound => "no pause or context end within " ++ bound.text
  | .unexpected message => "unexpected debuggee state: " ++ message

end ValueTrace
