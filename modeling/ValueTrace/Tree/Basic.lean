import ValueTrace.Decimal.Layout

/-!
# Syntax trees

The part of a source file's syntax tree that matters for finding expressions: identifiers, member
accesses and literals.  Every other node is kept as its kind and its children, so that a walk can
pass through it.  Lines count from 1 and columns from 0, both with 32 bits.

## Main definitions

* `Position`, `SourceLocation` : places in a source file.
* `Literal`, `Node` : the tree.
* `Literal.text` : a literal as it is shown in an expression.
* `Node.render` : the source text of an identifier, a member access or a literal.
-/

namespace ValueTrace

/-- A place in a source file, with lines from 1 and columns from 0. -/
structure Position where
  line : UInt32
  column : UInt32
deriving DecidableEq, Repr

/-- The source of a node: its first character and the place after its last one. -/
structure SourceLocation where
  start : Position
  stop : Position
deriving DecidableEq, Repr

/-- The value of a literal. -/
inductive Literal where
  | string (value : String)
  | number (value : Float)
  | boolean (value : Bool)
  | null
  | regExp (pattern flags : String)
  /-- An integer of any size, as its digits. -/
  | bigInt (digits : String)
deriving DecidableEq

/-- A node of a syntax tree. -/
inductive Node where
  | identifier (name : String) (location : SourceLocation)
  | member (object property : Node) (computed : Bool) (location : SourceLocation)
  | literal (value : Literal) (location : Option SourceLocation)
  | other (kind : String) (location : Option SourceLocation) (children : List Node)
deriving Inhabited

/-- A number as it is shown in an expression: all digits of a whole number below `10 ^ 21`, and the
shortest digits of any other, always without an exponent. -/
def numberText (x : Float) : String :=
  let magnitude := Decimal.dyadic x
  if magnitude.isNatural ∧ magnitude.floor < Nat.pow 10 21 then
    let digits := Nat.toDigits 10 magnitude.floor
    String.ofList (if Decimal.isNegative x then '-' :: digits else digits)
  else
    String.ofList (Decimal.Layout.plain.chars x)

/-- A literal as it is shown in an expression: a string is shown without its quotes. -/
def Literal.text : Literal → String
  | .string s => s
  | .number x => numberText x
  | .boolean true => "true"
  | .boolean false => "false"
  | .null => "null"
  | .regExp pattern flags => "/" ++ pattern ++ "/" ++ flags
  | .bigInt digits => digits

/-- The name of the variant of a literal. -/
def Literal.variant : Literal → String
  | .string _ => "String"
  | .number _ => "Number"
  | .boolean _ => "Boolean"
  | .null => "Null"
  | .regExp _ _ => "RegExp"
  | .bigInt _ => "BigInt"

namespace Node

/-- The kind of a node as a syntax tree names it. -/
def kind : Node → String
  | .identifier .. => "Identifier"
  | .member .. => "MemberExpression"
  | .literal .. => "Literal"
  | .other kind .. => kind

/-- The source of a node, if it is known. -/
def location? : Node → Option SourceLocation
  | .identifier _ l => some l
  | .member _ _ _ l => some l
  | .literal _ l => l
  | .other _ l _ => l

/-- The children of a node, in source order. -/
def children : Node → List Node
  | .member object property _ _ => [object, property]
  | .other _ _ children => children
  | _ => []

/-- The source text of an expression.  A node that is no identifier, member access or literal has
an empty text. -/
def render : Node → String
  | .identifier name _ => name
  | .literal value _ => value.text
  | .member object property true _ => object.render ++ "[" ++ property.render ++ "]"
  | .member object property false _ => object.render ++ "." ++ property.render
  | .other .. => ""

end Node

end ValueTrace
