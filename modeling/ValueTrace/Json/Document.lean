import ValueTrace.Json.Token

/-!
# Documents, also damaged ones

A text is read into a `Document`, which keeps what a typed reading needs and a `Value` forgets:
repeated members, parts whose value cannot be represented, and the place where a damaged text stops
making sense.  A damaged document holds everything before the damage, so that a reading in document
order meets a wrong type before it meets the damage exactly when the text has it first.

The text is read token by token by an `Assembler` that keeps the containers still open.

## Main definitions

* `Document` : the tree of a text.
* `Document.read` : the tree of a text, and whether the text ends with it.
* `Document.ofValue`, `Document.value?` : the undamaged documents without repeated members.
-/

namespace ValueTrace.Json

/-- The tree of a JSON text, up to its first damage. -/
inductive Document where
  | null
  | bool (value : Bool)
  | number (value : Number)
  | string (value : String)
  /-- The items, and whether the end of the array was reached. -/
  | array (items : List Document) (closed : Bool)
  /-- The members, whose names may lack a value as strings do, and whether the end was reached. -/
  | object (members : List (Option String × Document)) (closed : Bool)
  /-- Well-formed text that has no value. -/
  | unrepresentable
  /-- The place of the damage. -/
  | broken
deriving Inhabited

/-- A container whose end has not been read; what it holds so far is newest first. -/
inductive Open where
  | array (items : List Document)
  | object (members : List (Option String × Document))
  /-- An object after a name whose value has not been read. -/
  | member (members : List (Option String × Document)) (name : Option String)

/-- What may come next in a text. -/
inductive Expect where
  | value
  | firstItem
  | firstName
  | name
  | colon
  | separator
deriving DecidableEq

/-- How far a text has been read: inside open containers, innermost first, or to its end. -/
inductive Assembler where
  | reading (stack : List Open) (expects : Expect)
  | done (document : Document)

namespace Assembler

/-- Before the first token. -/
def start : Assembler := .reading [] .value

/-- Puts a finished document where a value was expected. -/
def place (stack : List Open) (d : Document) : Option Assembler :=
  match stack with
  | [] => some (.done d)
  | .array items :: stack => some (.reading (.array (d :: items) :: stack) .separator)
  | .member members name :: stack =>
    some (.reading (.object ((name, d) :: members) :: stack) .separator)
  | .object _ :: _ => none

/-- A container as it is placed in its parent: one nested deeper than the limit has no value. -/
def container (limit : Option Nat) (depth : Nat) (d : Document) : Document :=
  match limit with
  | some bound => if depth ≤ bound then d else .unrepresentable
  | none => d

/-- Ends the innermost container. -/
def close (limit : Option Nat) (stack : List Open) (square : Bool) : Option Assembler :=
  match stack with
  | .array items :: rest =>
    if square then place rest (container limit stack.length (.array items.reverse true)) else none
  | .object members :: rest =>
    if square then none
    else place rest (container limit stack.length (.object members.reverse true))
  | _ => none

/-- Takes a token where a value may begin. -/
def value (stack : List Open) : Token → Option Assembler
  | .openArray => some (.reading (.array [] :: stack) .firstItem)
  | .openObject => some (.reading (.object [] :: stack) .firstName)
  | .null => place stack .null
  | .bool b => place stack (.bool b)
  | .number (some n) => place stack (.number n)
  | .number none => place stack .unrepresentable
  | .string (some s) => place stack (.string s)
  | .string none => place stack .unrepresentable
  | _ => none

/-- Takes the name of a member. -/
def name (stack : List Open) : Token → Option Assembler
  | .string s =>
    match stack with
    | .object members :: rest => some (.reading (.member members s :: rest) .colon)
    | _ => none
  | _ => none

/-- Takes the mark after a value. -/
def separator (limit : Option Nat) (stack : List Open) : Token → Option Assembler
  | .comma =>
    match stack with
    | .array _ :: _ => some (.reading stack .value)
    | .object _ :: _ => some (.reading stack .name)
    | _ => none
  | .closeArray => close limit stack true
  | .closeObject => close limit stack false
  | _ => none

/-- Takes a token, unless it cannot stand here. -/
def next (limit : Option Nat) : Assembler → Token → Option Assembler
  | .reading stack .value, t => value stack t
  | .reading stack .firstItem, .closeArray => close limit stack true
  | .reading stack .firstItem, t => value stack t
  | .reading stack .firstName, .closeObject => close limit stack false
  | .reading stack .firstName, t => name stack t
  | .reading stack .name, t => name stack t
  | .reading stack .colon, .colon => some (.reading stack .value)
  | .reading _ .colon, _ => none
  | .reading stack .separator, t => separator limit stack t
  | .done _, _ => none

/-- Abandons a container at the damage: a member without a value ends in the damage itself. -/
def abandon (inner : Option Document) : Open → Document
  | .array items => .array (inner.toList ++ items).reverse false
  | .object members => .object members.reverse false
  | .member members name => .object ((name, inner.getD .broken) :: members).reverse false

/-- Abandons all open containers, innermost first. -/
def abandonAll : Option Document → List Open → Option Document
  | inner, [] => inner
  | inner, o :: stack => abandonAll (some (abandon inner o)) stack

/-- What was read when the text ends or is damaged. -/
def document : Assembler → Document
  | .reading stack _ => (abandonAll none stack).getD .broken
  | .done d => d

/-- Whether the text may end here. -/
def isDone : Assembler → Bool
  | .reading _ _ => false
  | .done _ => true

/-- Reads a text to its end or its first damage, and says whether it is a whole document.  Every
step takes a character at least, so the length of the text bounds their number. -/
def run (limit : Option Nat) : Nat → List Char → Assembler → Document × Bool
  | 0, text, a => (a.document, text.isEmpty && a.isDone)
  | _ + 1, [], a => (a.document, a.isDone)
  | steps + 1, c :: text, a =>
    if isBlank c then run limit steps text a
    else
      match Token.scan c text with
      | none => (a.document, false)
      | some (t, rest) =>
        match a.next limit t with
        | none => (a.document, false)
        | some b => run limit steps rest b

end Assembler

namespace Document

/-- The tree of a text, and whether the text is undamaged up to its end.  Containers nested deeper
than the limit have no value. -/
def read (limit : Option Nat) (text : String) : Document × Bool :=
  Assembler.run limit text.toList.length text.toList .start

mutual

/-- Whether a document is undamaged, with or without a value. -/
def intact : Document → Bool
  | .array items closed => intactItems items && closed
  | .object members closed => intactMembers members && closed
  | .broken => false
  | _ => true

/-- Whether all items are undamaged. -/
def intactItems : List Document → Bool
  | [] => true
  | d :: rest => d.intact && intactItems rest

/-- Whether all members are undamaged. -/
def intactMembers : List (Option String × Document) → Bool
  | [] => true
  | (_, d) :: rest => d.intact && intactMembers rest

end

mutual

/-- The value of an undamaged document.  A repeated member counts once. -/
def value? : Document → Option Value
  | .null => some .null
  | .bool b => some (.bool b)
  | .number n => some (.number n)
  | .string s => some (.string s)
  | .array items closed => if closed then (items? items).map .array else none
  | .object members closed => if closed then (members? members []).map .object else none
  | .unrepresentable => none
  | .broken => none

/-- The values of all items. -/
def items? : List Document → Option (List Value)
  | [] => some []
  | d :: rest =>
    match d.value? with
    | some v => (items? rest).map (v :: ·)
    | none => none

/-- The members collected after the given ones. -/
def members? : List (Option String × Document) → List (String × Value) →
    Option (List (String × Value))
  | [], collected => some collected
  | (some name, d) :: rest, collected =>
    match d.value? with
    | some v => members? rest (insertMember name v collected)
    | none => none
  | (none, _) :: _, _ => none

end

mutual

/-- A value as a document. -/
def ofValue : Value → Document
  | .null => .null
  | .bool b => .bool b
  | .number n => .number n
  | .string s => .string s
  | .array items => .array (ofItems items) true
  | .object members => .object (ofMembers members) true

/-- Values as items of a document. -/
def ofItems : List Value → List Document
  | [] => []
  | v :: rest => ofValue v :: ofItems rest

/-- Members as members of a document. -/
def ofMembers : List (String × Value) → List (Option String × Document)
  | [] => []
  | (name, v) :: rest => (some name, ofValue v) :: ofMembers rest

end

end Document

/-- The value of a text that is nothing but one JSON value, nested as deep as it may be. -/
def Value.read (text : String) : Option Value :=
  match Document.read none text with
  | (d, true) => d.value?
  | (_, false) => none

end ValueTrace.Json
