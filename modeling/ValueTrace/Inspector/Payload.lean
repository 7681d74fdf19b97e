import ValueTrace.Inspector.Frame

/-!
# Payloads of inspector methods

The parameters and results of the inspector methods that tracing uses, as far as it reads them.
Fields that are not listed are ignored, and most others may be missing.

## Main definitions

* `Location`, `ScopeEntry`, `CallFrame`, `PausedEvent` : where a debuggee halts.
* `RemoteObject`, `ExceptionDetails`, `Evaluation` : what an evaluation gives.
* `RemoteObject.display?` : the text shown for a value of the debuggee.
* `ExecutionContext`, `ScriptParsed`, `ConsoleCall`, `BreakpointResult` : other payloads.
* `breakpointParams`, `evaluationParams`, `pauseOnExceptionsParams` : parameters of requests.
-/

namespace ValueTrace.Inspector

open Json (Value Decoder Record)

/-- The methods and events of the inspector that tracing uses. -/
inductive Method where
  | debuggerEnable
  | setPauseOnExceptions
  | setBreakpointByUrl
  | resume
  | evaluateOnCallFrame
  | paused
  | resumed
  | scriptParsed
  | runtimeEnable
  | runIfWaitingForDebugger
  | executionContextCreated
  | executionContextDestroyed
  | consoleApiCalled
  | exceptionThrown
deriving DecidableEq, Repr

/-- The name of a method on the wire. -/
def Method.name : Method → String
  | .debuggerEnable => "Debugger.enable"
  | .setPauseOnExceptions => "Debugger.setPauseOnExceptions"
  | .setBreakpointByUrl => "Debugger.setBreakpointByUrl"
  | .resume => "Debugger.resume"
  | .evaluateOnCallFrame => "Debugger.evaluateOnCallFrame"
  | .paused => "Debugger.paused"
  | .resumed => "Debugger.resumed"
  | .scriptParsed => "Debugger.scriptParsed"
  | .runtimeEnable => "Runtime.enable"
  | .runIfWaitingForDebugger => "Runtime.runIfWaitingForDebugger"
  | .executionContextCreated => "Runtime.executionContextCreated"
  | .executionContextDestroyed => "Runtime.executionContextDestroyed"
  | .consoleApiCalled => "Runtime.consoleAPICalled"
  | .exceptionThrown => "Runtime.exceptionThrown"

/-- A place in a script, with line and column from 0. -/
structure Location where
  scriptId : String
  line : UInt32
  column : Option UInt32
deriving DecidableEq, Repr

/-- Reads a location. -/
def Location.decoder : Decoder Location :=
  Record.make Location.mk
    |>.withDefault "scriptId" Decoder.text ""
    |>.required "lineNumber" Decoder.uint32
    |>.optional "columnNumber" Decoder.uint32
    |>.decoder "Location"

/-- A natural number as JSON, or null. -/
def wordValue (n : Option UInt32) : Value :=
  match n with
  | some n => .ofNat n.toNat
  | none => .null

/-- A location as JSON, with null for a missing column. -/
def Location.value (l : Location) : Value :=
  .object [("scriptId", .string l.scriptId), ("lineNumber", .ofNat l.line.toNat),
    ("columnNumber", wordValue l.column)]

/-- A scope of a call frame, innermost first in a chain. -/
structure ScopeEntry where
  kind : String
  name : Option String
  start : Option Location
  stop : Option Location
deriving DecidableEq, Repr

/-- Reads a scope. -/
def ScopeEntry.decoder : Decoder ScopeEntry :=
  Record.make ScopeEntry.mk
    |>.required "type" Decoder.text
    |>.optional "name" Decoder.text
    |>.optional "startLocation" Location.decoder
    |>.optional "endLocation" Location.decoder
    |>.decoder "Scope"

/-- A frame of the call stack of a halted debuggee. -/
structure CallFrame where
  id : String
  functionName : String
  location : Location
  url : Option String
  scopes : List ScopeEntry
deriving DecidableEq, Repr

/-- Reads a call frame. -/
def CallFrame.decoder : Decoder CallFrame :=
  Record.make CallFrame.mk
    |>.required "callFrameId" Decoder.text
    |>.withDefault "functionName" Decoder.text ""
    |>.required "location" Location.decoder
    |>.optional "url" Decoder.text
    |>.withDefault "scopeChain" (Decoder.list ScopeEntry.decoder) []
    |>.decoder "CallFrame"

/-- The news that the debuggee has halted. -/
structure PausedEvent where
  callFrames : List CallFrame
  reason : String
  hitBreakpoints : List String
deriving DecidableEq, Repr

/-- Reads the news of a pause. -/
def PausedEvent.decoder : Decoder PausedEvent :=
  Record.make PausedEvent.mk
    |>.required "callFrames" (Decoder.list CallFrame.decoder)
    |>.withDefault "reason" Decoder.text ""
    |>.withDefault "hitBreakpoints" (Decoder.list Decoder.text) []
    |>.decoder "PausedEvent"

/-- Which exceptions halt the debuggee. -/
inductive PauseOnExceptions where
  | none
  | caught
  | uncaught
  | all
deriving DecidableEq, Repr

/-- The choices by name. -/
def PauseOnExceptions.variants : List (String × PauseOnExceptions) :=
  [("none", .none), ("caught", .caught), ("uncaught", .uncaught), ("all", .all)]

/-- The name of a choice. -/
def PauseOnExceptions.name : PauseOnExceptions → String
  | .none => "none"
  | .caught => "caught"
  | .uncaught => "uncaught"
  | .all => "all"

/-- Reads a choice. -/
def PauseOnExceptions.decoder : Decoder PauseOnExceptions := Decoder.variant variants

/-- The parameters that choose which exceptions halt the debuggee. -/
def pauseOnExceptionsParams (state : PauseOnExceptions) : Value :=
  .object [("state", .string state.name)]

/-- The parameters that set a breakpoint. -/
def breakpointParams (line : UInt32) (url : String) (column : UInt32) : Value :=
  .object [("lineNumber", .ofNat line.toNat), ("url", .string url),
    ("columnNumber", .ofNat column.toNat)]

/-- A breakpoint that was set. -/
structure BreakpointResult where
  id : String
  locations : List Location

/-- Reads the result of setting a breakpoint. -/
def BreakpointResult.decoder : Decoder BreakpointResult :=
  Record.make BreakpointResult.mk
    |>.required "breakpointId" Decoder.text
    |>.withDefault "locations" (Decoder.list Location.decoder) []
    |>.decoder "SetBreakpointByUrlResult"

/-- The parameters that evaluate an expression on a call frame. -/
def evaluationParams (callFrameId expression : String) (throwOnSideEffect silent : Bool) : Value :=
  .object [("callFrameId", .string callFrameId), ("expression", .string expression),
    ("throwOnSideEffect", .bool throwOnSideEffect), ("silent", .bool silent)]

/-- A value of the debuggee as the inspector describes it. -/
structure RemoteObject where
  kind : String
  subtype : Option String
  className : Option String
  /-- The primitive value; an explicit null is a value. -/
  value : Option Value
  unserializable : Option String
  description : Option String

/-- Reads the description of a value. -/
def RemoteObject.decoder : Decoder RemoteObject :=
  Record.make RemoteObject.mk
    |>.required "type" Decoder.text
    |>.optional "subtype" Decoder.text
    |>.optional "className" Decoder.text
    |>.withDefault "value" (Decoder.value.map some) none
    |>.optional "unserializableValue" Decoder.text
    |>.optional "description" Decoder.text
    |>.decoder "RemoteObject"

/-- The text shown for a value of the debuggee: its description, or else its primitive value, or
else the name of a number that JSON cannot write. -/
def RemoteObject.display? (o : RemoteObject) : Option String :=
  match o.description, o.value with
  | some text, _ => some text
  | none, some (.string s) => some s
  | none, some v => some v.compact
  | none, none => o.unserializable

/-- An exception of the debuggee. -/
structure ExceptionDetails where
  text : String
  line : UInt32
  column : UInt32
  exception : Option RemoteObject

/-- Reads an exception. -/
def ExceptionDetails.decoder : Decoder ExceptionDetails :=
  Record.make ExceptionDetails.mk
    |>.withDefault "text" Decoder.text ""
    |>.withDefault "lineNumber" Decoder.uint32 0
    |>.withDefault "columnNumber" Decoder.uint32 0
    |>.optional "exception" RemoteObject.decoder
    |>.decoder "ExceptionDetails"

/-- The result of an evaluation. -/
structure Evaluation where
  result : RemoteObject
  exception : Option ExceptionDetails

/-- Reads the result of an evaluation. -/
def Evaluation.decoder : Decoder Evaluation :=
  Record.make Evaluation.mk
    |>.required "result" RemoteObject.decoder
    |>.optional "exceptionDetails" ExceptionDetails.decoder
    |>.decoder "EvaluateOnCallFrameResult"

/-- A context in which the debuggee runs code. -/
structure ExecutionContext where
  id : Int
  origin : String
  name : String
deriving DecidableEq, Repr

/-- Reads a context. -/
def ExecutionContext.decoder : Decoder ExecutionContext :=
  Record.make ExecutionContext.mk
    |>.required "id" Decoder.int64
    |>.withDefault "origin" Decoder.text ""
    |>.withDefault "name" Decoder.text ""
    |>.decoder "ExecutionContextDescription"

/-- Reads the context that the news of its creation carries. -/
def contextCreated : Decoder ExecutionContext :=
  Record.make id
    |>.required "context" ExecutionContext.decoder
    |>.decoder "ExecutionContextCreated"

/-- Reads the id of the context that the news of its end carries. -/
def contextDestroyed : Decoder Int :=
  Record.make id
    |>.required "executionContextId" Decoder.int64
    |>.decoder "ExecutionContextDestroyed"

/-- The news that a script was read. -/
structure ScriptParsed where
  scriptId : String
  url : String
deriving DecidableEq, Repr

/-- Reads the news of a script. -/
def ScriptParsed.decoder : Decoder ScriptParsed :=
  Record.make ScriptParsed.mk
    |>.required "scriptId" Decoder.text
    |>.withDefault "url" Decoder.text ""
    |>.decoder "ScriptParsed"

/-- Reads the exception that the news of an uncaught exception carries. -/
def exceptionThrown : Decoder ExceptionDetails :=
  Record.make id
    |>.required "exceptionDetails" ExceptionDetails.decoder
    |>.decoder "ExceptionThrown"

/-- A call of the debuggee's console. -/
structure ConsoleCall where
  kind : String
  args : List RemoteObject

/-- Reads a console call. -/
def ConsoleCall.decoder : Decoder ConsoleCall :=
  Record.make ConsoleCall.mk
    |>.required "type" Decoder.text
    |>.withDefault "args" (Decoder.list RemoteObject.decoder) []
    |>.decoder "ConsoleApiCalled"

/-- The text of a console call: its arguments, each with its kind if nothing better is known. -/
def ConsoleCall.text (c : ConsoleCall) : String :=
  " ".intercalate (c.args.map fun o => o.display?.getD o.kind)

end ValueTrace.Inspector
