import ValueTrace.Json.Decode

/-!
# Inspector frames

The debuggee's inspector exchanges JSON texts.  A request carries an id and a method.  An inbound
frame that names an id answers the request with that id; one without an id is a notification of its
method; anything else is malformed.

## Main definitions

* `Request`, `Response`, `Notification`, `Inbound` : the frames.
* `Inbound.ofText?` : the frame that a text is, or why it is none.
* `Request.text`, `Inbound.text` : the text of a frame.
* `Response.outcome` : the result or the error of an answer.
-/

namespace ValueTrace.Inspector

open Json (Value Decoder DecodeError Record)

/-- The number that ties an answer to its request. -/
abbrev RequestId := Nat

/-- A call of an inspector method. -/
structure Request where
  id : RequestId
  method : String
  params : Option Value

/-- What an inspector says about a failed request. -/
structure ErrorBody where
  code : Int
  message : String
  data : Option Value

/-- The answer to a request. -/
structure Response where
  id : RequestId
  result : Option Value
  error : Option ErrorBody

/-- An event of the debuggee. -/
structure Notification where
  method : String
  params : Value

/-- A frame received from the inspector. -/
inductive Inbound where
  | response (r : Response)
  | notification (n : Notification)

/-- Why a text is not an inbound frame. -/
inductive FrameError where
  | undecodable (error : DecodeError)
  /-- The id is not a natural number of 64 bits. -/
  | invalidId (id : Value)
  | anonymous

/-- The wording of a frame error. -/
def FrameError.message : FrameError → String
  | .undecodable error => error.message
  | .invalidId id => "response id " ++ id.compact ++ " is not a non-negative integer"
  | .anonymous => "frame has neither an id nor a method"

/-- Reads the error of a failed request. -/
def ErrorBody.decoder : Decoder ErrorBody :=
  Record.make ErrorBody.mk
    |>.required "code" Decoder.int64
    |>.required "message" Decoder.text
    |>.optional "data" Decoder.value
    |>.decoder "ProtocolErrorBody"

/-- The fields of an inbound frame before it is classified. -/
structure RawFrame where
  id : Option Value
  method : Option String
  params : Option Value
  result : Option Value
  error : Option ErrorBody

/-- Reads the fields of an inbound frame. -/
def RawFrame.decoder : Decoder RawFrame :=
  Record.make RawFrame.mk
    |>.optional "id" Decoder.value
    |>.optional "method" Decoder.text
    |>.optional "params" Decoder.value
    |>.optional "result" Decoder.value
    |>.optional "error" ErrorBody.decoder
    |>.decoder "RawFrame"

/-- The natural number of 64 bits that an id is. -/
def requestId? (id : Value) : Option RequestId :=
  id.natural?.bind fun n => if n < UInt64.size then some n else none

/-- The kind of frame that the fields make. -/
def RawFrame.classify (raw : RawFrame) : Except FrameError Inbound :=
  match raw.id, raw.method with
  | some id, _ =>
    match requestId? id with
    | some n => .ok (.response ⟨n, raw.result, raw.error⟩)
    | none => .error (.invalidId id)
  | none, some method => .ok (.notification ⟨method, raw.params.getD .null⟩)
  | none, none => .error .anonymous

namespace Inbound

/-- The frame that a text is, or why it is none. -/
def ofText? (text : String) : Except FrameError Inbound :=
  match Json.decodeText RawFrame.decoder text with
  | .error e => .error (.undecodable e)
  | .ok raw => raw.classify

/-- The method of a notification. -/
def method? : Inbound → Option String
  | .response _ => none
  | .notification n => some n.method

/-- The id of a response. -/
def id? : Inbound → Option RequestId
  | .response r => some r.id
  | .notification _ => none

/-- The notification that a frame is. -/
def notification? : Inbound → Option Notification
  | .response _ => none
  | .notification n => some n

end Inbound

/-- The result of a request or its error; an absent result counts as an empty object. -/
def Response.outcome (r : Response) : Except ErrorBody Value :=
  match r.error with
  | some e => .error e
  | none => .ok (r.result.getD (.object []))

/-- The typed parameters of a notification. -/
def Notification.decode {α : Type} (d : Decoder α) (n : Notification) : Except DecodeError α :=
  Json.decodeValue d n.params

/-- A member for a value that may be absent. -/
def optionalMember (name : String) (v : Option Value) : List (String × Value) :=
  match v with
  | some v => [(name, v)]
  | none => []

/-- A request as JSON; absent parameters are left out. -/
def Request.value (r : Request) : Value :=
  .object ([("id", .ofNat r.id), ("method", .string r.method)] ++ optionalMember "params" r.params)

/-- The text of a request. -/
def Request.text (r : Request) : String := r.value.compact

/-- The error of a request as JSON. -/
def ErrorBody.value (e : ErrorBody) : Value :=
  .object ([("code", .number (.integer e.code)), ("message", .string e.message)]
    ++ optionalMember "data" e.data)

/-- A response as JSON; what is absent is left out. -/
def Response.value (r : Response) : Value :=
  .object ([("id", .ofNat r.id)] ++ optionalMember "result" r.result
    ++ optionalMember "error" (r.error.map ErrorBody.value))

/-- A notification as JSON, always with its parameters. -/
def Notification.value (n : Notification) : Value :=
  .object [("method", .string n.method), ("params", n.params)]

/-- The text of a frame. -/
def Inbound.text : Inbound → String
  | .response r => r.value.compact
  | .notification n => n.value.compact

end ValueTrace.Inspector
