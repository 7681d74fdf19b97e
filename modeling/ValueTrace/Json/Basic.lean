/-!
# JSON values

The values that inspector frames, syntax trees and configurations are made of.  An object keeps its
members in the order of the text; `insertMember` keeps the first place and the last value of a name
that occurs again, so an object built with it names each member once.

Integers between `-2 ^ 63` and `2 ^ 64 - 1` are exact and differ from every double, also from the
one of the same value.

## Main definitions

* `Number`, `Value` : the data.
* `Value.member?` : the member of an object by name.
* `Value.text?`, `Value.natural?` : the readings of a value as a string or natural number.
-/

namespace ValueTrace.Json

/-- A number of a JSON text: an integer of 64 bits, or else the double it denotes. -/
inductive Number where
  | integer (value : Int)
  | float (value : Float)
deriving DecidableEq

/-- A JSON value. -/
inductive Value where
  | null
  | bool (value : Bool)
  | number (value : Number)
  | string (value : String)
  | array (items : List Value)
  | object (members : List (String × Value))
deriving Inhabited, BEq

/-- Members in order of their first occurrence, each with its last value. -/
def insertMember {α : Type} (name : String) (value : α) :
    List (String × α) → List (String × α)
  | [] => [(name, value)]
  | (n, v) :: rest =>
    if n = name then (n, value) :: rest else (n, v) :: insertMember name value rest

/-- The value of the first member with the given name. -/
def findMember {α : Type} (name : String) : List (String × α) → Option α
  | [] => none
  | (n, v) :: rest => if n = name then some v else findMember name rest

/-- The natural number that an integer of a text denotes; a double denotes none. -/
def Number.natural? : Number → Option Nat
  | .integer n => if 0 ≤ n then some n.toNat else none
  | .float _ => none

/-- The nearest double of a number. -/
def Number.toFloat : Number → Float
  | .integer n => Float.ofInt n
  | .float x => x

namespace Value

/-- A natural number as a value. -/
def ofNat (n : Nat) : Value := .number (.integer n)

/-- The member of an object; no other value has members. -/
def member? (name : String) : Value → Option Value
  | .object members => findMember name members
  | _ => none

/-- The string that a value is. -/
def text? : Value → Option String
  | .string s => some s
  | _ => none

/-- The natural number that a value is. -/
def natural? : Value → Option Nat
  | .number n => n.natural?
  | _ => none

/-- The truth value that a value is. -/
def flag? : Value → Option Bool
  | .bool b => some b
  | _ => none

end Value

end ValueTrace.Json
