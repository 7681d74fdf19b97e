import Mathlib.Logic.Relation
import ValueTrace.Inspector.Payload
import ValueTrace.Proofs.Json.Edits

/-!
# Payloads of newer debuggees

A debuggee that is newer than the tracer sends members that the tracer does not know, in any object
of a payload, and sends members in another order.  The tracer reads the same data as without these
changes.  The only part of a payload that it takes as it is, and which is therefore not changed
here, is the primitive value of a remote object.

## Main definitions

* `Payload` : the payloads that are read.

## Main results

* `newer_payloads_read_alike` : what is read after any number of changes.
-/

namespace ValueTrace.Inspector

open Json

/-- The payloads of events and results that are read. -/
inductive Payload where
  | location
  | scope
  | callFrame
  | paused
  | remoteObject
  | exceptionDetails
  | evaluation
  | breakpoint
  | context
  | contextCreated
  | contextDestroyed
  | scriptParsed
  | exceptionThrown
  | consoleCall

namespace Payload

/-- The data of a payload. -/
abbrev Data : Payload → Type
  | location => Location
  | scope => ScopeEntry
  | callFrame => CallFrame
  | paused => PausedEvent
  | remoteObject => RemoteObject
  | exceptionDetails => ExceptionDetails
  | evaluation => Evaluation
  | breakpoint => BreakpointResult
  | context => ExecutionContext
  | contextCreated => ExecutionContext
  | contextDestroyed => Int
  | scriptParsed => ScriptParsed
  | exceptionThrown => ExceptionDetails
  | consoleCall => ConsoleCall

/-- Reads the data of a payload. -/
def decoder : (payload : Payload) → Decoder payload.Data
  | location => Location.decoder
  | scope => ScopeEntry.decoder
  | callFrame => CallFrame.decoder
  | paused => PausedEvent.decoder
  | remoteObject => RemoteObject.decoder
  | exceptionDetails => ExceptionDetails.decoder
  | evaluation => Evaluation.decoder
  | breakpoint => BreakpointResult.decoder
  | context => ExecutionContext.decoder
  | contextCreated => Inspector.contextCreated
  | contextDestroyed => Inspector.contextDestroyed
  | scriptParsed => ScriptParsed.decoder
  | exceptionThrown => Inspector.exceptionThrown
  | consoleCall => ConsoleCall.decoder

end Payload

/-- A payload is read as it was before any number of changes that newer debuggees make: members that
the records do not declare, and another order of members, in any object that is read as a record. -/
theorem newer_payloads_read_alike (payload : Payload) (v v' : Value) (data : payload.Data)
    (hedits : Relation.ReflTransGen (Edit payload.decoder) v v')
    (hdata : decodeValue payload.decoder v = .ok data) :
    decodeValue payload.decoder v' = .ok data := by
  induction hedits with
  | refl => exact hdata
  | tail _ hedit ih => exact hedit.decode ih

/-- The start of a scope as it has always been sent. -/
def plainStart : List (String × Value) := [("lineNumber", .ofNat 3)]

/-- The start of a scope with the hash of its script. -/
def hashedStart : List (String × Value) := plainStart ++ [("hash", .string "b1")]

/-- A scope with the given start. -/
def sampleScope (start : List (String × Value)) : Value :=
  .object [("type", .string "local"), ("startLocation", .object start)]

/-- The first members of a call frame. -/
def sampleFrame : List (String × Value) :=
  [("callFrameId", .string "0"), ("location", .object [("lineNumber", .ofNat 4)])]

/-- The call frames of a debuggee that has halted in a scope with the given start. -/
def sampleFrames (start : List (String × Value)) : Value :=
  .array [.object (sampleFrame ++ [("scopeChain", .array [sampleScope start])])]

/-- A newer debuggee sends the hash of a script, and the reason for a pause before the frames. -/
theorem newer_payloads_read_alike_pause :
    Relation.ReflTransGen (Edit Payload.paused.decoder)
      (.object [("callFrames", sampleFrames plainStart), ("reason", .string "other")])
      (.object [("reason", .string "other"), ("callFrames", sampleFrames hashedStart)]) ∧
    decodeValue Payload.paused.decoder
        (.object [("reason", .string "other"), ("callFrames", sampleFrames hashedStart)]) =
      .ok ⟨[⟨"0", "", ⟨"", 4, none⟩, none, [⟨"local", none, some ⟨"", 3, none⟩, none⟩]⟩], "other",
        []⟩ := by
  have hstart : Edit Location.decoder (.object plainStart) (.object hashedStart) :=
    @Edit.insert _ _ _ _ plainStart [] _ (by decide)
  have hscope : Edit ScopeEntry.decoder (sampleScope plainStart) (sampleScope hashedStart) :=
    @Edit.member _ _ _ _ _ _ _ [("type", .string "local")] [] _ _
      (.earlier (by decide) (.last rfl)) hstart.optional
  have hscopes : Edit ScopeEntry.decoder.list (.array [sampleScope plainStart])
      (.array [sampleScope hashedStart]) :=
    @Edit.list _ _ [] [] _ _ hscope
  have hframe : Edit CallFrame.decoder
      (.object (sampleFrame ++ [("scopeChain", .array [sampleScope plainStart])]))
      (.object (sampleFrame ++ [("scopeChain", .array [sampleScope hashedStart])])) :=
    .member (.last rfl) hscopes
  have hframes : Edit CallFrame.decoder.list (sampleFrames plainStart) (sampleFrames hashedStart) :=
    @Edit.list _ _ [] [] _ _ hframe
  have hpause : Edit PausedEvent.decoder
      (.object [("callFrames", sampleFrames plainStart), ("reason", .string "other")])
      (.object [("callFrames", sampleFrames hashedStart), ("reason", .string "other")]) :=
    @Edit.member _ _ _ _ _ _ _ [] [("reason", .string "other")] _ _
      (.earlier (by decide) (.earlier (by decide) (.last rfl))) hframes
  have hedits := (Relation.ReflTransGen.single hpause).tail (.permute (.swap ..))
  exact ⟨hedits, newer_payloads_read_alike .paused _ _ _ hedits rfl⟩

end ValueTrace.Inspector
