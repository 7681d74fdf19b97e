import ValueTrace.Json.Document
import ValueTrace.Tree.Basic

/-!
# Fields of syntax tree nodes

How the fields of one node are read from its JSON object: its kind, its name, its literal value and
its source location.  A field that is missing or of the wrong shape is reported with the kind of
the node and the path to it.

## Main definitions

* `Step`, `Path`, `Path.text` : the way from the root of a document to one of its parts.
* `TreeError`, `TreeError.message` : why a document is not a syntax tree.
* `readKind`, `readName`, `readLocation?`, `readLocation`, `readLiteral` : the fields.
-/

namespace ValueTrace

open Json (Value findMember)

/-- A step into a JSON value. -/
inductive Step where
  | field (name : String)
  | item (index : Nat)
deriving DecidableEq

/-- The steps from the root of a document to a part of it. -/
abbrev Path := List Step

/-- The text of a step. -/
def Step.text : Step → String
  | .field name => "." ++ name
  | .item index => "[" ++ toString index ++ "]"

/-- The text of a path, which begins at the root `$`. -/
def Path.text (p : Path) : String :=
  p.foldl (fun text step => text ++ step.text) "$"

/-- Why a document is not a syntax tree. -/
inductive TreeError where
  /-- The text is not JSON. -/
  | malformed
  | missingType (path : Path)
  | missingLocation (kind : String) (path : Path)
  | invalidField (kind field : String) (path : Path)
deriving DecidableEq

/-- The path to the faulty part; a text that is not JSON is faulty as a whole. -/
def TreeError.path : TreeError → Path
  | .malformed => []
  | .missingType path => path
  | .missingLocation _ path => path
  | .invalidField _ _ path => path

/-- The wording of a syntax tree error at a place that is already written out. -/
def TreeError.messageAt (place : String) : TreeError → String
  | .malformed => "invalid syntax tree JSON"
  | .missingType _ => "node without a type at " ++ place
  | .missingLocation kind _ =>
    kind ++ " node at " ++ place
      ++ " has no source location (was the parser asked for locations?)"
  | .invalidField kind field _ =>
    kind ++ " node at " ++ place ++ " has an invalid `" ++ field ++ "` field"

/-- The wording of a syntax tree error. -/
def TreeError.message (e : TreeError) : String := e.messageAt e.path.text

namespace Tree

/-- The members of a JSON object. -/
abbrev Members := List (String × Value)

/-- The fields of a node that never hold children. -/
def plainFields : List String := ["type", "loc", "range", "start", "end"]

/-- The members and the kind of a value that is a node. -/
def readKind (path : Path) : Value → Except TreeError (Members × String)
  | .object members =>
    match findMember "type" members with
    | some (.string kind) => .ok (members, kind)
    | _ => .error (.missingType path)
  | _ => .error (.missingType path)

/-- A field that must be a string. -/
def readText (members : Members) (kind field : String) (path : Path) : Except TreeError String :=
  match findMember field members with
  | some (.string s) => .ok s
  | _ => .error (.invalidField kind field path)

/-- A natural number of 32 bits. -/
def readWord (v : Value) : Option UInt32 :=
  match v.natural? with
  | some n => if n < UInt32.size then some (UInt32.ofNat n) else none
  | none => none

/-- A position with both coordinates. -/
def readPosition (v : Value) : Option Position := do
  let line ← (v.member? "line").bind readWord
  let column ← (v.member? "column").bind readWord
  return ⟨line, column⟩

/-- The location of a node, which may be missing or null. -/
def readLocation? (members : Members) (kind : String) (path : Path) :
    Except TreeError (Option SourceLocation) :=
  match findMember "loc" members with
  | none => .ok none
  | some .null => .ok none
  | some v =>
    match (v.member? "start").bind readPosition, (v.member? "end").bind readPosition with
    | some start, some stop => .ok (some ⟨start, stop⟩)
    | _, _ => .error (.invalidField kind "loc" path)

/-- The location of a node that must have one. -/
def readLocation (members : Members) (kind : String) (path : Path) :
    Except TreeError SourceLocation :=
  match readLocation? members kind path with
  | .error e => .error e
  | .ok (some l) => .ok l
  | .ok none => .error (.missingLocation kind path)

/-- The value of a literal: a regular expression before an integer of any size before the plain
value, which may be missing. -/
def readLiteral (members : Members) (path : Path) : Except TreeError Literal :=
  match findMember "regex" members with
  | some (.object regex) =>
    match readText regex "Literal" "pattern" path with
    | .error e => .error e
    | .ok pattern =>
      .ok (.regExp pattern (((findMember "flags" regex).bind Value.text?).getD ""))
  | _ =>
    match findMember "bigint" members with
    | some (.string digits) => .ok (.bigInt digits)
    | _ =>
      match findMember "value" members with
      | some (.string s) => .ok (.string s)
      | some (.bool b) => .ok (.boolean b)
      | some (.number n) => .ok (.number n.toFloat)
      | some .null => .ok .null
      | none => .ok .null
      | some _ => .error (.invalidField "Literal" "value" path)

/-- Whether nested bracket notation is used; only an explicit `true` says so. -/
def readComputed (members : Members) : Bool :=
  ((findMember "computed" members).bind Value.flag?).getD false

/-- An identifier. -/
def readIdentifier (members : Members) (path : Path) : Except TreeError Node := do
  let name ← readText members "Identifier" "name" path
  let location ← readLocation members "Identifier" path
  return .identifier name location

/-- A literal with its optional location. -/
def readLiteralNode (members : Members) (path : Path) : Except TreeError Node := do
  let value ← readLiteral members path
  let location ← readLocation? members "Literal" path
  return .literal value location

/-- The object and the property of a member access, both of which must be there. -/
def readOperands (members : Members) (path : Path) : Except TreeError (Value × Value) :=
  match findMember "object" members, findMember "property" members with
  | none, _ => .error (.invalidField "MemberExpression" "object" path)
  | some _, none => .error (.invalidField "MemberExpression" "property" path)
  | some object, some property => .ok (object, property)

/-- Items with their paths. -/
def items (path : Path) (index : Nat) : List Value → List (Value × Path)
  | [] => []
  | v :: rest => (v, path ++ [.item index]) :: items path (index + 1) rest

/-- Members with their paths. -/
def fields (path : Path) (members : Members) : List (Value × Path) :=
  members.map fun (name, v) => (v, path ++ [.field name])

/-- The fields of a node in which children are looked for. -/
def searched (members : Members) : Members :=
  members.filter fun (name, _) => !plainFields.contains name

end Tree

end ValueTrace
