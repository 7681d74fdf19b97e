import ValueTrace.Json.Document

/-!
# TOML tables

A table grows while a document is read.  Dotted keys and headers create the tables on their way;
a table can be given once by a header, and only tables that dotted keys created can be extended by
dotted keys.

## Main definitions

* `Item`, `Members` : tables under construction.
* `assign` : a value under a dotted key.
* `openTable`, `openArrayTable` : a table under a header, with its values.
* `Members.document` : the finished table.
-/

namespace ValueTrace.Toml

open Json (Document)

/-- How a table came to be. -/
inductive TableOrigin where
  /-- A header names it. -/
  | header
  /-- It is on the way to a table that a header names. -/
  | implicit
  /-- It is on the way of a dotted key. -/
  | dotted
deriving DecidableEq

/-- What a name stands for. -/
inductive Item where
  | value (d : Document)
  | table (origin : TableOrigin) (members : List (String × Item))
  /-- Tables that headers in double brackets name; the last one is still open. -/
  | tables (earlier : List (List (String × Item))) (last : List (String × Item))

/-- Names with what they stand for, in order. -/
abbrev Members := List (String × Item)

/-- The names on the way to a value, outermost first. -/
abbrev Key := List String

/-- The members with a value under a key.  The table that takes the value must be the open one
itself or created by dotted keys. -/
def assignIn (d : Document) : (accepting : Bool) → Key → Members → Option Members
  | _, [], _ => none
  | accepting, [name], members =>
    match Json.findMember name members with
    | some _ => none
    | none => if accepting then some (members ++ [(name, .value d)]) else none
  | _, name :: more :: rest, members =>
    match Json.findMember name members with
    | none =>
      (assignIn d true (more :: rest) []).map fun inner =>
        members ++ [(name, .table .dotted inner)]
    | some (.table .dotted inner) =>
      (assignIn d true (more :: rest) inner).map fun inner =>
        Json.insertMember name (.table .dotted inner) members
    | some (.table .implicit inner) =>
      (assignIn d false (more :: rest) inner).map fun inner =>
        Json.insertMember name (.table .implicit inner) members
    | some (.tables earlier last) =>
      (assignIn d false (more :: rest) last).map fun last =>
        Json.insertMember name (.tables earlier last) members
    | some (.table .header _) => none
    | some (.value _) => none

/-- The members of the open table with a value under a key. -/
def assign (members : Members) (entry : Key × Document) : Option Members :=
  assignIn entry.2 true entry.1 members

/-- The members with several values under their keys. -/
def assignAll (entries : List (Key × Document)) (members : Members) : Option Members :=
  entries.foldlM assign members

/-- Changes what the last name of a key stands for. -/
def modify (change : Option Item → Option Item) : Key → Members → Option Members
  | [], _ => none
  | [name], members =>
    (change (Json.findMember name members)).map fun item => Json.insertMember name item members
  | name :: more :: rest, members =>
    match Json.findMember name members with
    | none =>
      (modify change (more :: rest) []).map fun inner =>
        members ++ [(name, .table .implicit inner)]
    | some (.table origin inner) =>
      (modify change (more :: rest) inner).map fun inner =>
        Json.insertMember name (.table origin inner) members
    | some (.tables earlier last) =>
      (modify change (more :: rest) last).map fun last =>
        Json.insertMember name (.tables earlier last) members
    | some (.value _) => none

/-- Gives the table that a header names its values. -/
def openTable (key : Key) (entries : List (Key × Document)) (root : Members) : Option Members :=
  modify (fun
    | none => (assignAll entries []).map (.table .header)
    | some (.table .implicit inner) => (assignAll entries inner).map (.table .header)
    | some _ => none) key root

/-- Appends a table with its values to those that a header in double brackets names. -/
def openArrayTable (key : Key) (entries : List (Key × Document)) (root : Members) :
    Option Members :=
  modify (fun
    | none => (assignAll entries []).map (.tables [])
    | some (.tables earlier last) => (assignAll entries []).map (.tables (earlier ++ [last]))
    | some _ => none) key root

mutual

/-- The finished form of an item. -/
def Item.document : Item → Document
  | .value d => d
  | .table _ members => .object (membersDocument members) true
  | .tables earlier last =>
    .array (tablesDocument earlier ++ [.object (membersDocument last) true]) true

/-- The finished forms of members. -/
def membersDocument : List (String × Item) → List (Option String × Document)
  | [] => []
  | (name, item) :: rest => (some name, item.document) :: membersDocument rest

/-- The finished forms of several tables. -/
def tablesDocument : List (List (String × Item)) → List Document
  | [] => []
  | members :: rest => .object (membersDocument members) true :: tablesDocument rest

end

/-- The finished table. -/
def finish (members : Members) : Document := .object (membersDocument members) true

end ValueTrace.Toml
