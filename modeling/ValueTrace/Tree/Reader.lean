import ValueTrace.Json.Size
import ValueTrace.Tree.Field

/-!
# Reading a syntax tree

A document is turned into a syntax tree with two stacks: tasks still to be done and nodes already
built.  A node with children is scheduled after them, and takes them from the built nodes when its
turn comes, so trees of any depth are read without recursion.  The children of a node are the typed
objects in its fields, in document order, looked for through arrays and through objects without a
type.

The first fault in this order is reported: a node's own location is read after its children.

## Main definitions

* `Tree.typedChildren` : the children of a node, with their paths.
* `Tree.run` : the tasks done one after the other.
* `Node.ofValue?`, `Program.ofText?` : the syntax tree of a value or of a text.
-/

namespace ValueTrace

open Json (Value findMember)

namespace Tree

/-- The total size of parts that are still to be looked at. -/
def load : List (Value × Path) → Nat
  | [] => 0
  | p :: rest => p.1.size + load rest

theorem load_cons (p : Value × Path) (rest : List (Value × Path)) :
    load (p :: rest) = p.1.size + load rest := rfl

theorem load_append (a b : List (Value × Path)) : load (a ++ b) = load a + load b := by
  induction a with
  | nil => exact (Nat.zero_add _).symm
  | cons p rest ih => rw [List.cons_append, load_cons, load_cons, ih, Nat.add_assoc]

theorem load_items (path : Path) (index : Nat) (values : List Value) :
    load (items path index values) = Json.itemsSize values := by
  induction values generalizing index with
  | nil => rfl
  | cons v rest ih => simp [items, Json.itemsSize, load_cons, ih]

theorem load_fields (path : Path) (members : Members) :
    load (fields path members) = Json.membersSize members := by
  induction members with
  | nil => rfl
  | cons m rest ih =>
    obtain ⟨n, v⟩ := m
    simp only [fields, List.map_cons, load_cons, Json.membersSize] at ih ⊢
    rw [ih]

/-- The typed objects among the pending parts, the first part first.  What is not typed is replaced
by its own parts. -/
def typedChildren : List (Value × Path) → List (Value × Path)
  | [] => []
  | (.array values, path) :: pending => typedChildren (items path 0 values ++ pending)
  | (.object members, path) :: pending =>
    if (findMember "type" members).isSome then
      (.object members, path) :: typedChildren pending
    else typedChildren (fields path members ++ pending)
  | (.null, _) :: pending => typedChildren pending
  | (.bool _, _) :: pending => typedChildren pending
  | (.number _, _) :: pending => typedChildren pending
  | (.string _, _) :: pending => typedChildren pending
termination_by pending => load pending
decreasing_by
  all_goals simp only [load_append, load_items, load_fields, load_cons, Value.size]
  all_goals omega

theorem load_typedChildren_le (pending : List (Value × Path)) :
    load (typedChildren pending) ≤ load pending := by
  fun_induction typedChildren pending with
  | case1 => simp
  | case2 values path pending ih =>
    simp only [load_append, load_items, load_cons, Value.size] at ih ⊢; omega
  | case3 members path pending h ih => simp only [load_cons] at ih ⊢; omega
  | case4 members path pending h ih =>
    simp only [load_append, load_fields, load_cons, Value.size] at ih ⊢; omega
  | case5 path pending ih => simp only [load_cons] at ih ⊢; omega
  | case6 b path pending ih => simp only [load_cons] at ih ⊢; omega
  | case7 n path pending ih => simp only [load_cons] at ih ⊢; omega
  | case8 s path pending ih => simp only [load_cons] at ih ⊢; omega

/-- What is left to do while a tree is built. -/
inductive Task where
  /-- Read the node at a path. -/
  | visit (value : Value) (path : Path)
  /-- Join the two nodes built last, the property above the object. -/
  | join (members : Members) (path : Path)
  /-- Gather the given number of nodes built last. -/
  | gather (members : Members) (kind : String) (path : Path) (count : Nat)

/-- A bound on the tasks that a task may still lead to. -/
def Task.weight : Task → Nat
  | .visit v _ => 2 * v.size
  | .join _ _ => 1
  | .gather _ _ _ _ => 1

/-- The total weight of tasks. -/
def weight : List Task → Nat
  | [] => 0
  | t :: tasks => t.weight + weight tasks

theorem weight_nil : weight [] = 0 := rfl

theorem weight_cons (t : Task) (tasks : List Task) :
    weight (t :: tasks) = t.weight + weight tasks := rfl

theorem weight_append (a b : List Task) : weight (a ++ b) = weight a + weight b := by
  induction a with
  | nil => exact (Nat.zero_add _).symm
  | cons t tasks ih => rw [List.cons_append, weight_cons, weight_cons, ih, Nat.add_assoc]

/-- Tasks that visit the given parts in order. -/
def visits (parts : List (Value × Path)) : List Task :=
  parts.map fun (v, path) => .visit v path

theorem weight_visits (parts : List (Value × Path)) : weight (visits parts) = 2 * load parts := by
  induction parts with
  | nil => rfl
  | cons p rest ih =>
    obtain ⟨v, path⟩ := p
    simp only [visits, List.map_cons] at ih ⊢
    rw [weight_cons, load_cons, ih, Task.weight]
    dsimp only
    omega

/-- What a visit leads to: a finished node, or tasks that will build it. -/
inductive Visited where
  | leaf (node : Node)
  | composite (tasks : List Task)

/-- Reads a node without children at once and schedules any other one after its children. -/
def visit (value : Value) (path : Path) : Except TreeError Visited :=
  match readKind path value with
  | .error e => .error e
  | .ok (members, kind) =>
    if kind = "Identifier" then
      match readIdentifier members path with
      | .ok node => .ok (.leaf node)
      | .error e => .error e
    else if kind = "MemberExpression" then
      match readOperands members path with
      | .ok (object, property) =>
        .ok (.composite [.visit object (path ++ [.field "object"]),
          .visit property (path ++ [.field "property"]), .join members path])
      | .error e => .error e
    else if kind = "Literal" then
      match readLiteralNode members path with
      | .ok node => .ok (.leaf node)
      | .error e => .error e
    else
      let children := typedChildren (fields path (searched members))
      .ok (.composite (visits children ++ [.gather members kind path children.length]))

private theorem size_of_readKind {path : Path} {v : Value} {members : Members} {kind : String}
    (h : readKind path v = .ok (members, kind)) : v.size = Json.membersSize members + 1 := by
  unfold readKind at h
  split at h
  · split at h
    · injection h with h; injection h with h₁ h₂; subst h₁; simp [Value.size]
    · simp at h
  · simp at h

private theorem readOperands_eq_ok {members : Members} {path : Path} {object property : Value}
    (h : readOperands members path = .ok (object, property)) :
    findMember "object" members = some object ∧ findMember "property" members = some property := by
  unfold readOperands at h
  split at h <;> simp_all

/-- The tasks that a visit leads to weigh less than the visit. -/
theorem weight_visit_lt {v : Value} {path : Path} {tasks : List Task}
    (h : visit v path = .ok (.composite tasks)) : weight tasks < (Task.visit v path).weight := by
  unfold visit at h
  split at h
  · simp at h
  · rename_i members kind hkind
    have hsize := size_of_readKind hkind
    split at h
    · split at h <;> simp at h
    · split at h
      · split at h
        · rename_i object property hop
          obtain ⟨ho, hp⟩ := readOperands_eq_ok hop
          have hle := Json.size_add_size_le (by decide) ho hp
          injection h with h; injection h with h; subst h
          simp only [weight_cons, weight_nil, Task.weight]
          omega
        · simp at h
      · split at h
        · split at h <;> simp at h
        · injection h with h; injection h with h; subst h
          have h₁ := load_typedChildren_le (fields path (searched members))
          have h₂ := Json.membersSize_filter_le
            (fun m => !plainFields.contains m.1) members
          rw [load_fields] at h₁
          simp only [weight_append, weight_visits, weight_cons, weight_nil, Task.weight]
          simp only [searched] at h₁ ⊢
          omega

/-- A member access from its two operands, which were built last. -/
def join (members : Members) (path : Path) (built : List Node) :
    Except TreeError (List Node) :=
  match built with
  | [] => .error (.invalidField "MemberExpression" "property" path)
  | [_] => .error (.invalidField "MemberExpression" "object" path)
  | property :: object :: built =>
    match readLocation members "MemberExpression" path with
    | .ok location => .ok (.member object property (readComputed members) location :: built)
    | .error e => .error e

/-- A node of another kind from its children, which were built last. -/
def gather (members : Members) (kind : String) (path : Path) (count : Nat) (built : List Node) :
    Except TreeError (List Node) :=
  match readLocation? members kind path with
  | .ok location => .ok (.other kind location (built.take count).reverse :: built.drop count)
  | .error e => .error e

/-- Does the tasks in order; nodes built last come first.  The answer is the node on top. -/
def run (tasks : List Task) (built : List Node) : Except TreeError Node :=
  match tasks with
  | [] =>
    match built with
    | node :: _ => .ok node
    | [] => .error (.missingType [])
  | .visit v path :: tasks =>
    match _h : visit v path with
    | .error e => .error e
    | .ok (.leaf node) => run tasks (node :: built)
    | .ok (.composite more) => run (more ++ tasks) built
  | .join members path :: tasks =>
    match join members path built with
    | .error e => .error e
    | .ok built => run tasks built
  | .gather members kind path count :: tasks =>
    match gather members kind path count built with
    | .error e => .error e
    | .ok built => run tasks built
termination_by weight tasks
decreasing_by
  · have := v.size_pos; simp only [weight_cons, Task.weight]; omega
  · have := weight_visit_lt _h; simp only [weight_append, weight_cons]; omega
  · simp only [weight_cons, Task.weight]; omega
  · simp only [weight_cons, Task.weight]; omega

end Tree

/-- The syntax tree that a JSON value describes, or its first fault. -/
def Node.ofValue? (v : Value) : Except TreeError Node :=
  Tree.run [.visit v []] []

/-- A parsed source file. -/
structure Program where
  root : Node

/-- The program that a JSON value describes. -/
def Program.ofValue? (v : Value) : Except TreeError Program :=
  match Node.ofValue? v with
  | .ok root => .ok ⟨root⟩
  | .error e => .error e

/-- The program that a text describes, nested as deep as it may be. -/
def Program.ofText? (text : String) : Except TreeError Program :=
  match Value.read text with
  | some v => Program.ofValue? v
  | none => .error .malformed

end ValueTrace
