import ValueTrace.Json.Document
import ValueTrace.Json.Printer
import ValueTrace.Text.Printable

/-!
# Reading typed data

A `Decoder` reads data of a fixed shape from a document and names the first thing that does not
fit, in document order.  Records are read with a `Record`, a builder that fills one field after the
other: from an object by name, where unknown names are ignored and a missing field falls back to
its default, or from an array in order of declaration.

## Main definitions

* `DecodeError`, `DecodeError.message` : what does not fit, and its wording.
* `Decoder` and the decoders of texts, numbers, lists, options and plain values.
* `Record` : fields of a record, and `Record.decoder` which reads them.
* `decodeValue`, `decodeText` : a decoder run on a value or on a text.
-/

namespace ValueTrace.Json

/-- Where a document comes from, which decides what surplus parts it may have. -/
inductive Origin where
  | text
  | value
  | table
deriving DecidableEq

/-- What a document holds where something else is expected. -/
inductive Found where
  | null
  | bool (value : Bool)
  | number (value : Number)
  | string (value : String)
  | sequence
  | map

/-- Why data cannot be read from a document. -/
inductive DecodeError where
  /-- The text is not JSON, or its value cannot be represented. -/
  | malformed
  | invalidType (found : Found) (expected : String)
  | invalidValue (found : Found) (expected : String)
  | invalidLength (length : Nat) (expected : String)
  | missingField (name : String)
  | duplicateField (name : String)
  | unknownVariant (found : String) (expected : List String)

/-- The wording of a found part. -/
def Found.message : Found → String
  | .null => "null"
  | .bool true => "boolean `true`"
  | .bool false => "boolean `false`"
  | .number (.integer n) => "integer `" ++ (Number.integer n).text ++ "`"
  | .number (.float x) => "floating point `" ++ (Number.float x).text ++ "`"
  | .string s => "string " ++ Text.quoted s
  | .sequence => "sequence"
  | .map => "map"

/-- The wording of a decoding error.  A malformed text has no wording of its own. -/
def DecodeError.message : DecodeError → String
  | .malformed => "JSON"
  | .invalidType found expected => "invalid type: " ++ found.message ++ ", expected " ++ expected
  | .invalidValue found expected =>
    "invalid value: " ++ found.message ++ ", expected " ++ expected
  | .invalidLength length expected =>
    "invalid length " ++ toString length ++ ", expected " ++ expected
  | .missingField name => "missing field `" ++ name ++ "`"
  | .duplicateField name => "duplicate field `" ++ name ++ "`"
  | .unknownVariant found expected =>
    "unknown variant `" ++ found ++ "`, expected one of "
      ++ ", ".intercalate (expected.map fun name => "`" ++ name ++ "`")

/-- Reads data from a document of the given origin. -/
abbrev Decoder (α : Type) := Origin → Document → Except DecodeError α

/-- The error of a document that holds something unexpected. -/
def Document.mismatch (expected : String) : Document → DecodeError
  | .null => .invalidType .null expected
  | .bool b => .invalidType (.bool b) expected
  | .number n => .invalidType (.number n) expected
  | .string s => .invalidType (.string s) expected
  | .array _ _ => .invalidType .sequence expected
  | .object _ _ => .invalidType .map expected
  | .unrepresentable => .malformed
  | .broken => .malformed

namespace Decoder

/-- Reads a string. -/
def text : Decoder String
  | _, .string s => .ok s
  | _, d => .error (d.mismatch "a string")

/-- Reads a truth value. -/
def flag : Decoder Bool
  | _, .bool b => .ok b
  | _, d => .error (d.mismatch "a boolean")

/-- Reads an integer between two bounds, whose type has the given name. -/
def integer (least greatest : Int) (expected : String) : Decoder Int
  | _, .number (.integer n) =>
    if least ≤ n ∧ n ≤ greatest then .ok n
    else .error (.invalidValue (.number (.integer n)) expected)
  | _, d => .error (d.mismatch expected)

/-- Reads a natural number of the given number of bits. -/
def natural (bits : Nat) (expected : String) : Decoder Nat := fun origin d =>
  match integer 0 ((Nat.pow 2 bits : Int) - 1) expected origin d with
  | .ok n => .ok n.toNat
  | .error e => .error e

/-- Changes the data read. -/
def map {α β : Type} (f : α → β) (d : Decoder α) : Decoder β := fun origin doc =>
  match d origin doc with
  | .ok a => .ok (f a)
  | .error e => .error e

/-- A natural number of 16 bits. -/
def uint16 : Decoder UInt16 := (natural 16 "u16").map UInt16.ofNat

/-- A natural number of 32 bits. -/
def uint32 : Decoder UInt32 := (natural 32 "u32").map UInt32.ofNat

/-- A natural number of 64 bits. -/
def uint64 : Decoder UInt64 := (natural 64 "u64").map UInt64.ofNat

/-- A count of things in memory. -/
def size : Decoder Nat := natural 64 "usize"

/-- An integer of 64 bits. -/
def int64 : Decoder Int := integer (-(Nat.pow 2 63 : Int)) ((Nat.pow 2 63 : Int) - 1) "i64"

/-- Reads data that may be null. -/
def optional {α : Type} (d : Decoder α) : Decoder (Option α)
  | _, .null => .ok none
  | origin, doc =>
    match d origin doc with
    | .ok a => .ok (some a)
    | .error e => .error e

/-- Reads data of any shape. -/
def value : Decoder Value
  | _, d =>
    match d.value? with
    | some v => .ok v
    | none => .error .malformed

/-- Reads the items of a list in order. -/
def items {α : Type} (d : Decoder α) (origin : Origin) :
    List Document → Except DecodeError (List α)
  | [] => .ok []
  | doc :: rest =>
    match d origin doc with
    | .error e => .error e
    | .ok a =>
      match items d origin rest with
      | .error e => .error e
      | .ok as => .ok (a :: as)

/-- Reads a list. -/
def list {α : Type} (d : Decoder α) : Decoder (List α)
  | origin, .array docs closed =>
    match items d origin docs with
    | .error e => .error e
    | .ok as => if closed then .ok as else .error .malformed
  | _, d => .error (d.mismatch "a sequence")

end Decoder

/-- Fields of a record: the earlier ones, then the last one with what was read for it so far.  A
field may have a default for an object that does not name it and one for an array that ends before
it. -/
inductive Record : Type → Type 1 where
  | make {α : Type} (value : α) : Record α
  | field {α β : Type} (earlier : Record (β → α)) (name : String) (read : Decoder β)
      (unnamed unlisted : Option β) (slot : Option β) : Record α

namespace Record

variable {α β : Type}

/-- A field that must be there. -/
def required (r : Record (β → α)) (name : String) (read : Decoder β) : Record α :=
  r.field name read none none none

/-- A field with a default. -/
def withDefault (r : Record (β → α)) (name : String) (read : Decoder β) (absent : β) : Record α :=
  r.field name read (some absent) (some absent) none

/-- A field that may be null or missing. -/
def optional (r : Record (Option β → α)) (name : String) (read : Decoder β) : Record α :=
  r.field name read.optional (some none) (some none) none

/-- A field that may be null, and missing in an object only. -/
def nullable (r : Record (Option β → α)) (name : String) (read : Decoder β) : Record α :=
  r.field name read.optional (some none) none none

/-- The number of fields. -/
def arity : {α : Type} → Record α → Nat
  | _, .make _ => 0
  | _, .field earlier .. => earlier.arity + 1

/-- Whether the record has a field of the given name. -/
def declares (name : String) : {α : Type} → Record α → Bool
  | _, .make _ => false
  | _, .field earlier n _ _ _ _ => n == name || earlier.declares name

/-- Fills the field of the given name, which must be empty. -/
def offer (origin : Origin) (name : String) (d : Document) :
    {α : Type} → Record α → Except DecodeError (Record α)
  | _, .make a => .ok (.make a)
  | _, .field earlier n read unnamed unlisted slot =>
    if n = name then
      match slot with
      | some _ => .error (.duplicateField name)
      | none =>
        match read origin d with
        | .ok b => .ok (.field earlier n read unnamed unlisted (some b))
        | .error e => .error e
    else
      match earlier.offer origin name d with
      | .ok r => .ok (.field r n read unnamed unlisted slot)
      | .error e => .error e

/-- Fills the field at the given place. -/
def offerAt (origin : Origin) (place : Nat) (d : Document) :
    {α : Type} → Record α → Except DecodeError (Record α)
  | _, .make a => .ok (.make a)
  | _, .field earlier n read unnamed unlisted slot =>
    if place = earlier.arity then
      match read origin d with
      | .ok b => .ok (.field earlier n read unnamed unlisted (some b))
      | .error e => .error e
    else
      match earlier.offerAt origin place d with
      | .ok r => .ok (.field r n read unnamed unlisted slot)
      | .error e => .error e

/-- Takes the members of an object in order.  An unknown member must only be undamaged. -/
def takeMembers (origin : Origin) :
    List (Option String × Document) → Record α → Except DecodeError (Record α)
  | [], r => .ok r
  | (none, _) :: _, _ => .error .malformed
  | (some name, d) :: rest, r =>
    if r.declares name then
      match r.offer origin name d with
      | .ok r => takeMembers origin rest r
      | .error e => .error e
    else if d.intact then takeMembers origin rest r
    else .error .malformed

/-- The record read from an object, or the first field that it does not name. -/
def finish : {α : Type} → Record α → Except DecodeError α
  | _, .make a => .ok a
  | _, .field earlier name _ unnamed _ slot =>
    match earlier.finish with
    | .error e => .error e
    | .ok build =>
      match slot, unnamed with
      | some b, _ => .ok (build b)
      | none, some b => .ok (build b)
      | none, none => .error (.missingField name)

/-- The record read from an array, or the place of the first field that it does not reach. -/
def finishItems : {α : Type} → Record α → Except Nat α
  | _, .make a => .ok a
  | _, .field earlier _ _ _ unlisted slot =>
    match earlier.finishItems with
    | .error place => .error place
    | .ok build =>
      match slot, unlisted with
      | some b, _ => .ok (build b)
      | none, some b => .ok (build b)
      | none, none => .error earlier.arity

/-- Takes items of an array for the fields from the given place on; returns what is left. -/
def takeItems (origin : Origin) :
    List Document → Nat → Record α → Except DecodeError (Record α × List Document)
  | [], _, r => .ok (r, [])
  | d :: rest, place, r =>
    if place < r.arity then
      match r.offerAt origin place d with
      | .ok r => takeItems origin rest (place + 1) r
      | .error e => .error e
    else .ok (r, d :: rest)

/-- A record's name and size as an error names them. -/
def described (name : String) (arity : Nat) : String :=
  "struct " ++ name ++ " with " ++ toString arity ++ (if arity = 1 then " element" else " elements")

/-- Reads a record from an array whose end was reached or not. -/
def decodeItems (name : String) (r : Record α) (origin : Origin) (docs : List Document)
    (closed : Bool) : Except DecodeError α :=
  match r.takeItems origin docs 0 with
  | .error e => .error e
  | .ok (filled, surplus) =>
    if docs.length < r.arity && !closed then .error .malformed
    else
      match filled.finishItems with
      | .error place => .error (.invalidLength place (described name r.arity))
      | .ok a =>
        match origin with
        | .text => if closed && surplus.isEmpty then .ok a else .error .malformed
        | .value =>
          if surplus.isEmpty then .ok a
          else .error (.invalidLength docs.length "fewer elements in array")
        | .table => .ok a

/-- Reads a record from an object whose end was reached or not. -/
def decodeMembers (r : Record α) (origin : Origin) (members : List (Option String × Document))
    (closed : Bool) : Except DecodeError α :=
  match r.takeMembers origin members with
  | .error e => .error e
  | .ok filled => if closed then filled.finish else .error .malformed

/-- Reads a record of the given name. -/
def decoder (name : String) (r : Record α) : Decoder α
  | origin, .object members closed => r.decodeMembers origin members closed
  | origin, .array docs closed => r.decodeItems name origin docs closed
  | _, d => .error (d.mismatch ("struct " ++ name))

end Record

/-- Finds a named alternative. -/
def lookupVariant {α : Type} (variants : List (String × α)) (name : String) :
    Except DecodeError α :=
  match findMember name variants with
  | some a => .ok a
  | none => .error (.unknownVariant name (variants.map Prod.fst))

/-- Whether a document is the empty content of a named alternative. -/
def isUnit (origin : Origin) : Document → Bool
  | .null => true
  | .object [] true => origin == .table
  | .array [] true => origin == .table
  | _ => false

/-- Reads one of several named alternatives: its name, or a map from its name to nothing. -/
def Decoder.variant {α : Type} (variants : List (String × α)) : Decoder α
  | _, .string s => lookupVariant variants s
  | origin, .object members closed =>
    match origin, members, closed with
    | .value, [], _ | .value, _ :: _ :: _, _ =>
      .error (.invalidValue .map "map with a single key")
    | _, (some name, d) :: rest, closed =>
      match lookupVariant variants name with
      | .error e => .error e
      | .ok a =>
        if !isUnit origin d then .error (d.mismatch "unit")
        else if rest.isEmpty && closed then .ok a
        else .error .malformed
    | _, _, _ => .error .malformed
  | origin, d =>
    match origin, d.mismatch "string or map" with
    | .text, _ => .error .malformed
    | _, e => .error e

/-- Reads typed data from a value. -/
def decodeValue {α : Type} (d : Decoder α) (v : Value) : Except DecodeError α :=
  d .value (.ofValue v)

/-- The number of nested containers that a typed reading of a text can represent. -/
def depthLimit : Nat := 127

/-- Reads typed data from a text that is nothing but one document. -/
def decodeText {α : Type} (d : Decoder α) (text : String) : Except DecodeError α :=
  match Document.read (some depthLimit) text with
  | (doc, whole) =>
    match d .text doc with
    | .error e => .error e
    | .ok a => if whole then .ok a else .error .malformed

end ValueTrace.Json
