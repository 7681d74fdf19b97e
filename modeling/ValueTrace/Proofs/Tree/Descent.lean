import ValueTrace.Tree.Reader

/-!
# Reading a syntax tree by recursion

The reader of syntax trees works with two stacks, and nothing there follows the structure of the
document.  Here the same tree is read by recursion along the document: a node after its children,
the children in document order, and the first fault ends it.  What a node needs is told here from
the members of its object alone, and the readers of its fields are shown to find the same.  The
tasks of the stacks are the calls of this recursion, whatever lies below them on either stack
(`run_visit`), so both ways read the same tree or report the same fault (`ofValue?_eq_descend`).

## Main definitions

* `Tree.typedIn` : the typed objects in a value that no other typed object hides.
* `Tree.nameIn`, `Tree.locationIn`, `Tree.neededLocationIn`, `Tree.isComputedIn`, `Tree.literalIn`,
  `Tree.childFields` : what the members of a node say.
* `Tree.descend`, `Tree.descendAll` : the node that a value describes, and those of several.
* `Tree.Builds` : visiting a value leads to the node that it describes.

## Main results

* `Tree.typedChildren_eq` : the search for children with a stack.
* `Tree.nameIn_eq`, `Tree.locationIn_eq`, `Tree.neededLocationIn_eq`, `Tree.isComputedIn_eq`,
  `Tree.literalIn_eq`, `Tree.childFields_eq` : the readers of fields.
* `Tree.run_visit` : what the tasks of a node do.
* `ofValue?_eq_descend` : reading with stacks and by recursion.
-/

namespace ValueTrace

open Json (Value findMember)

namespace Tree

/-! ### Children -/

mutual

/-- The typed objects in a value, in document order.  They are looked for through arrays and through
objects without a type, and not in typed objects. -/
def typedIn (path : Path) : Value → List (Value × Path)
  | .array values => typedInItems path 0 values
  | .object members =>
    if (findMember "type" members).isSome then [(.object members, path)]
    else typedInMembers path members
  | _ => []

/-- The typed objects in the items of an array from an index on. -/
def typedInItems (path : Path) (index : Nat) : List Value → List (Value × Path)
  | [] => []
  | v :: rest => typedIn (path ++ [.item index]) v ++ typedInItems path (index + 1) rest

/-- The typed objects in the members of an object. -/
def typedInMembers (path : Path) : Members → List (Value × Path)
  | [] => []
  | (name, v) :: rest => typedIn (path ++ [.field name]) v ++ typedInMembers path rest

end

theorem flatMap_items (path : Path) (index : Nat) (values : List Value) :
    (items path index values).flatMap (fun p => typedIn p.2 p.1) =
      typedInItems path index values := by
  induction values generalizing index with
  | nil => rfl
  | cons v rest ih => rw [items, List.flatMap_cons, ih, typedInItems]

theorem flatMap_fields (path : Path) (members : Members) :
    (fields path members).flatMap (fun p => typedIn p.2 p.1) = typedInMembers path members := by
  induction members with
  | nil => rfl
  | cons member rest ih =>
    obtain ⟨name, v⟩ := member
    rw [typedInMembers, ← ih]
    rfl

/-- The stack of parts finds the typed objects in each of them, one part after the other. -/
theorem typedChildren_eq (pending : List (Value × Path)) :
    typedChildren pending = pending.flatMap fun p => typedIn p.2 p.1 := by
  fun_induction typedChildren pending with
  | case1 => rfl
  | case2 values path pending ih =>
    rw [ih, List.flatMap_append, flatMap_items, List.flatMap_cons, typedIn]
  | case3 members path pending htyped ih =>
    rw [ih, List.flatMap_cons, typedIn, if_pos htyped]
    rfl
  | case4 members path pending huntyped ih =>
    rw [ih, List.flatMap_append, flatMap_fields, List.flatMap_cons, typedIn, if_neg huntyped]
  | case5 path pending ih => exact ih
  | case6 b path pending ih => exact ih
  | case7 n path pending ih => exact ih
  | case8 s path pending ih => exact ih

theorem typedChildren_fields (path : Path) (members : Members) :
    typedChildren (fields path members) = typedInMembers path members := by
  rw [typedChildren_eq, flatMap_fields]

theorem load_typedInMembers_le (path : Path) (members : Members) :
    load (typedInMembers path members) ≤ Json.membersSize members := by
  rw [← typedChildren_fields, ← load_fields path members]
  exact load_typedChildren_le _

/-! ### What the members of a node say -/

/-- The string that a member is. -/
def textIn? (name : String) (members : Members) : Option String :=
  (findMember name members).bind Value.text?

/-- The members of the object that a member is. -/
def membersIn? (name : String) (members : Members) : Option Members :=
  match findMember name members with
  | some (.object inner) => some inner
  | _ => none

/-- The name of an identifier, which must be a string. -/
def nameIn (members : Members) (path : Path) : Except TreeError String :=
  match findMember "name" members with
  | some (.string name) => .ok name
  | _ => .error (.invalidField "Identifier" "name" path)

/-- The coordinate that a member is, a whole number of 32 bits without a sign. -/
def coordinateIn? (name : String) (members : Members) : Option UInt32 :=
  match findMember name members with
  | some (.number (.integer n)) =>
    if 0 ≤ n ∧ n.toNat < UInt32.size then some (UInt32.ofNat n.toNat) else none
  | _ => none

/-- The position that a member is, an object with both coordinates. -/
def positionIn? (name : String) (members : Members) : Option Position := do
  let inner ← membersIn? name members
  let line ← coordinateIn? "line" inner
  let column ← coordinateIn? "column" inner
  return ⟨line, column⟩

/-- The location of a node between two positions, which is faulty unless both are there. -/
def locationBetween (kind : String) (path : Path) :
    Option Position → Option Position → Except TreeError (Option SourceLocation)
  | some start, some stop => .ok (some ⟨start, stop⟩)
  | _, _ => .error (.invalidField kind "loc" path)

/-- The location of a node.  There is none if the member is missing or null, and anything else must
be an object with a start and an end. -/
def locationIn (members : Members) (kind : String) (path : Path) :
    Except TreeError (Option SourceLocation) :=
  match findMember "loc" members with
  | none | some .null => .ok none
  | some (.object inner) =>
    locationBetween kind path (positionIn? "start" inner) (positionIn? "end" inner)
  | some _ => .error (.invalidField kind "loc" path)

/-- The location of a node that must have one. -/
def neededLocationIn (members : Members) (kind : String) (path : Path) :
    Except TreeError SourceLocation := do
  match ← locationIn members kind path with
  | some location => return location
  | none => throw (.missingLocation kind path)

/-- Whether a member access is one with brackets, which only a member that is true says. -/
def isComputedIn (members : Members) : Bool :=
  match findMember "computed" members with
  | some (.bool b) => b
  | _ => false

/-- The fields of a node in which children are looked for. -/
def childFields (members : Members) : Members :=
  members.filter fun (name, _) =>
    name ≠ "type" ∧ name ≠ "loc" ∧ name ≠ "range" ∧ name ≠ "start" ∧ name ≠ "end"

/-- What a literal says: a regular expression before the digits of an integer of any size before a
plain value, which is null if there is none. -/
def literalIn (members : Members) (path : Path) : Except TreeError Literal :=
  match membersIn? "regex" members with
  | some regex =>
    match textIn? "pattern" regex with
    | some pattern => .ok (.regExp pattern ((textIn? "flags" regex).getD ""))
    | none => .error (.invalidField "Literal" "pattern" path)
  | none =>
    match textIn? "bigint" members with
    | some digits => .ok (.bigInt digits)
    | none =>
      match findMember "value" members with
      | some (.string s) => .ok (.string s)
      | some (.bool b) => .ok (.boolean b)
      | some (.number n) => .ok (.number n.toFloat)
      | some .null | none => .ok .null
      | some (.array _) | some (.object _) => .error (.invalidField "Literal" "value" path)

/-! ### The recursion -/

mutual

/-- The node that a value describes, or its first fault.  Only an object with a string as its type
describes one.  An identifier needs a name and then a location; a member access needs both operands,
which are read before its own location; a literal is read before its location, which may be missing;
and any other node is made of the typed objects in its fields, before its location, which may be
missing too. -/
def descend (path : Path) (v : Value) : Except TreeError Node :=
  match v with
  | .object members =>
    match findMember "type" members with
    | some (.string kind) =>
      if kind = "Identifier" then do
        let name ← nameIn members path
        let location ← neededLocationIn members kind path
        return .identifier name location
      else if kind = "MemberExpression" then
        match hobject : findMember "object" members,
          hproperty : findMember "property" members with
        | none, _ => .error (.invalidField kind "object" path)
        | some _, none => .error (.invalidField kind "property" path)
        | some object, some property => do
          let object ← descend (path ++ [.field "object"]) object
          let property ← descend (path ++ [.field "property"]) property
          let location ← neededLocationIn members kind path
          return .member object property (isComputedIn members) location
      else if kind = "Literal" then do
        let value ← literalIn members path
        let location ← locationIn members kind path
        return .literal value location
      else do
        let children ← descendAll (typedInMembers path (childFields members))
        let location ← locationIn members kind path
        return .other kind location children
    | _ => .error (.missingType path)
  | _ => .error (.missingType path)
termination_by 2 * v.size
decreasing_by
  · have := Json.size_le_of_findMember hobject
    simp only [Value.size]
    omega
  · have := Json.size_le_of_findMember hproperty
    simp only [Value.size]
    omega
  · have hload := load_typedInMembers_le path (childFields members)
    have hfields : Json.membersSize (childFields members) ≤ Json.membersSize members :=
      Json.membersSize_filter_le _ members
    simp only [Value.size]
    omega

/-- The nodes that some values describe, in order, or the first fault. -/
def descendAll (parts : List (Value × Path)) : Except TreeError (List Node) :=
  match parts with
  | [] => .ok []
  | (v, path) :: rest => do
    let node ← descend path v
    let nodes ← descendAll rest
    return node :: nodes
termination_by 2 * load parts + 1
decreasing_by
  · simp only [load_cons]
    omega
  · have := v.size_pos
    simp only [load_cons]
    omega

end

/-! ### The readers of fields -/

theorem textIn?_eq_some {name s : String} {members : Members} :
    textIn? name members = some s ↔ findMember name members = some (.string s) := by
  rw [textIn?]
  cases findMember name members with
  | none => simp
  | some v => cases v <;> simp [Value.text?]

theorem membersIn?_eq_some {name : String} {members inner : Members} :
    membersIn? name members = some inner ↔ findMember name members = some (.object inner) := by
  rw [membersIn?]
  cases findMember name members with
  | none => simp
  | some v => cases v <;> simp

theorem readText_eq (members : Members) (kind field : String) (path : Path) :
    readText members kind field path =
      match textIn? field members with
      | some s => .ok s
      | none => .error (.invalidField kind field path) := by
  rw [readText, textIn?]
  cases findMember field members with
  | none => rfl
  | some v => cases v <;> rfl

theorem nameIn_eq (members : Members) (path : Path) :
    nameIn members path = readText members "Identifier" "name" path := rfl

theorem coordinateIn?_eq (name : String) (members : Members) :
    coordinateIn? name members = ((Value.object members).member? name).bind readWord := by
  rw [coordinateIn?, Value.member?]
  cases findMember name members with
  | none => rfl
  | some v =>
    cases v with
    | number number =>
      cases number with
      | integer n =>
        by_cases hn : 0 ≤ n <;> simp [readWord, Value.natural?, Json.Number.natural?, hn]
      | float x => rfl
    | _ => rfl

theorem positionIn?_eq (name : String) (members : Members) :
    positionIn? name members = ((Value.object members).member? name).bind readPosition := by
  rw [positionIn?, membersIn?, Value.member?]
  cases findMember name members with
  | none => rfl
  | some v =>
    cases v with
    | object inner =>
      simp only [Option.bind_eq_bind, Option.bind_some, coordinateIn?_eq]
      rfl
    | _ => rfl

theorem locationIn_eq (members : Members) (kind : String) (path : Path) :
    locationIn members kind path = readLocation? members kind path := by
  rw [locationIn, readLocation?]
  cases findMember "loc" members with
  | none => rfl
  | some v =>
    cases v with
    | object inner =>
      dsimp only
      rw [positionIn?_eq, positionIn?_eq]
      rfl
    | _ => rfl

theorem neededLocationIn_eq (members : Members) (kind : String) (path : Path) :
    neededLocationIn members kind path = readLocation members kind path := by
  rw [neededLocationIn, readLocation, locationIn_eq]
  cases readLocation? members kind path with
  | error e => rfl
  | ok location => cases location <;> rfl

theorem isComputedIn_eq (members : Members) : isComputedIn members = readComputed members := by
  rw [isComputedIn, readComputed]
  cases findMember "computed" members with
  | none => rfl
  | some v => cases v <;> rfl

/-- A literal is read as it is described. -/
theorem literalIn_eq (members : Members) (path : Path) :
    literalIn members path = readLiteral members path := by
  symm
  unfold readLiteral
  split
  · rename_i regex hregex
    rw [readText_eq, literalIn, membersIn?_eq_some.2 hregex]
    dsimp only
    cases textIn? "pattern" regex <;> rfl
  · rename_i hregex
    have hnone : membersIn? "regex" members = none :=
      Option.eq_none_iff_forall_not_mem.2 fun regex h => hregex regex (membersIn?_eq_some.1 h)
    rw [literalIn, hnone]
    split
    · rename_i digits hdigits
      rw [textIn?_eq_some.2 hdigits]
    · rename_i hdigits
      have hnone : textIn? "bigint" members = none :=
        Option.eq_none_iff_forall_not_mem.2 fun digits h => hdigits digits (textIn?_eq_some.1 h)
      rw [hnone]
      cases findMember "value" members with
      | none => rfl
      | some v => cases v <;> rfl

/-- Children are looked for in all fields but five. -/
theorem childFields_eq (members : Members) : childFields members = searched members := by
  refine List.filter_congr fun member _ => ?_
  simp [plainFields]

/-! ### The node that an object describes -/

section Descend

variable {members : Members} {path : Path} {kind : String}

theorem descend_identifier (htype : findMember "type" members = some (.string "Identifier")) :
    descend path (.object members) = readIdentifier members path := by
  rw [descend, readIdentifier, ← nameIn_eq, ← neededLocationIn_eq]
  simp only [htype, if_true]

theorem descend_literal (htype : findMember "type" members = some (.string "Literal")) :
    descend path (.object members) = readLiteralNode members path := by
  rw [descend, readLiteralNode, ← literalIn_eq, ← locationIn_eq]
  simp only [htype, String.reduceEq, if_false, if_true]

/-- A member access needs both operands before anything is read. -/
theorem descend_member (htype : findMember "type" members = some (.string "MemberExpression")) :
    descend path (.object members) = readOperands members path >>= fun operands => do
      let object ← descend (path ++ [.field "object"]) operands.1
      let property ← descend (path ++ [.field "property"]) operands.2
      let location ← readLocation members "MemberExpression" path
      return .member object property (readComputed members) location := by
  rw [descend, readOperands, ← neededLocationIn_eq, ← isComputedIn_eq]
  simp only [htype, String.reduceEq, if_false, if_true]
  split
  · rename_i hobject
    rw [hobject]
    rfl
  · rename_i object hobject hproperty
    rw [hobject, hproperty]
    rfl
  · rename_i object property hobject hproperty
    rw [hobject, hproperty]
    rfl

/-- A member access with both operands is these, and then its location. -/
theorem descend_of_operands {object property : Value}
    (htype : findMember "type" members = some (.string "MemberExpression"))
    (hoperands : readOperands members path = .ok (object, property)) :
    descend path (.object members) = (do
      let object ← descend (path ++ [.field "object"]) object
      let property ← descend (path ++ [.field "property"]) property
      let location ← readLocation members "MemberExpression" path
      return .member object property (readComputed members) location) := by
  rw [descend_member htype, hoperands]
  rfl

/-- Any other node is its children, and then its location. -/
theorem descend_other (htype : findMember "type" members = some (.string kind))
    (hidentifier : kind ≠ "Identifier") (hmember : kind ≠ "MemberExpression")
    (hliteral : kind ≠ "Literal") :
    descend path (.object members) = (do
      let children ← descendAll (typedInMembers path (searched members))
      let location ← readLocation? members kind path
      return .other kind location children) := by
  rw [descend, ← childFields_eq, ← locationIn_eq]
  simp only [htype, if_neg hidentifier, if_neg hmember, if_neg hliteral]

end Descend

@[simp] theorem descendAll_nil : descendAll [] = .ok [] := by rw [descendAll]

@[simp] theorem descendAll_cons (v : Value) (path : Path) (rest : List (Value × Path)) :
    descendAll ((v, path) :: rest) =
      descend path v >>= fun node => descendAll rest >>= fun nodes => .ok (node :: nodes) := by
  rw [descendAll]
  rfl

/-- A computation in two steps succeeds in both of them. -/
theorem exists_ok_of_bind {ε α β : Type} {x : Except ε α} {f : α → Except ε β} {b : β}
    (h : x >>= f = .ok b) : ∃ a, x = .ok a ∧ f a = .ok b := by
  cases x with
  | error e => cases h
  | ok a => exact ⟨a, rfl, h⟩

/-- As many nodes are read as there are values. -/
theorem length_of_descendAll {parts : List (Value × Path)} {nodes : List Node}
    (h : descendAll parts = .ok nodes) : nodes.length = parts.length := by
  induction parts generalizing nodes with
  | nil =>
    rw [descendAll_nil] at h
    rw [← Except.ok.inj h]
    rfl
  | cons part rest ih =>
    obtain ⟨v, path⟩ := part
    rw [descendAll_cons] at h
    obtain ⟨node, -, h⟩ := exists_ok_of_bind h
    obtain ⟨others, hothers, h⟩ := exists_ok_of_bind h
    rw [← Except.ok.inj h, List.length_cons, ih hothers, List.length_cons]

/-! ### The tasks of the stacks -/

variable {v : Value} {path : Path} {tasks : List Task} {built : List Node}

theorem run_of_visit_eq_error {e : TreeError} (h : visit v path = .error e) :
    run (.visit v path :: tasks) built = .error e := by
  rw [run]
  split <;> simp_all

theorem run_of_visit_eq_leaf {node : Node} (h : visit v path = .ok (.leaf node)) :
    run (.visit v path :: tasks) built = run tasks (node :: built) := by
  rw [run]
  split <;> simp_all

theorem run_of_visit_eq_composite {more : List Task} (h : visit v path = .ok (.composite more)) :
    run (.visit v path :: tasks) built = run (more ++ tasks) built := by
  rw [run]
  split <;> simp_all

/-- The tasks after a visit go on with the node that the value describes on top of the built
ones. -/
def Builds (path : Path) (v : Value) : Prop :=
  ∀ tasks built, run (.visit v path :: tasks) built =
    descend path v >>= fun node => run tasks (node :: built)

/-- The tasks after visits of some values go on with the nodes that the values describe. -/
def BuildsAll (parts : List (Value × Path)) : Prop :=
  ∀ tasks built, run (visits parts ++ tasks) built =
    descendAll parts >>= fun nodes => run tasks (nodes.reverse ++ built)

theorem BuildsAll.nil : BuildsAll [] := by
  intro tasks built
  rw [descendAll_nil]
  rfl

theorem BuildsAll.cons {rest : List (Value × Path)} (hv : Builds path v) (hrest : BuildsAll rest) :
    BuildsAll ((v, path) :: rest) := by
  intro tasks built
  rw [descendAll_cons]
  have hvisits : visits ((v, path) :: rest) ++ tasks =
      .visit v path :: (visits rest ++ tasks) := rfl
  rw [hvisits, hv]
  cases descend path v with
  | error e => rfl
  | ok node =>
    show run (visits rest ++ tasks) (node :: built) = _
    rw [hrest]
    cases descendAll rest with
    | error e => rfl
    | ok nodes => simp [bind, Except.bind]

/-- A value is done with its visit if the visit reads it or finds its fault. -/
theorem builds_of_visit (h : visit v path = (descend path v).map .leaf) : Builds path v := by
  intro tasks built
  cases hnode : descend path v with
  | error e =>
    rw [hnode] at h
    exact run_of_visit_eq_error h
  | ok node =>
    rw [hnode] at h
    exact run_of_visit_eq_leaf h

variable {members : Members} {kind : String}

theorem readKind_of_type (htype : findMember "type" members = some (.string kind)) :
    readKind path (.object members) = .ok (members, kind) := by
  rw [readKind, htype]

theorem visit_identifier (htype : findMember "type" members = some (.string "Identifier")) :
    visit (.object members) path = (descend path (.object members)).map .leaf := by
  rw [visit, readKind_of_type htype, descend_identifier htype]
  dsimp only
  rw [if_pos rfl]
  cases readIdentifier members path <;> rfl

theorem visit_literal (htype : findMember "type" members = some (.string "Literal")) :
    visit (.object members) path = (descend path (.object members)).map .leaf := by
  rw [visit, readKind_of_type htype, descend_literal htype]
  dsimp only
  rw [if_neg (by decide), if_neg (by decide), if_pos rfl]
  cases readLiteralNode members path <;> rfl

theorem visit_untyped
    (htype : ∀ kind, findMember "type" members = some (.string kind) → False) :
    visit (.object members) path = (descend path (.object members)).map .leaf := by
  have hkind : readKind path (.object members) = .error (.missingType path) := by
    rw [readKind]
    split
    · rename_i kind hkind
      exact absurd hkind (htype kind)
    · rfl
  rw [visit, hkind, descend]
  dsimp only
  split
  · rename_i kind hkind
    exact absurd hkind (htype kind)
  · rfl

theorem visit_plain (hv : ∀ members, v = .object members → False) :
    visit v path = (descend path v).map .leaf := by
  cases v with
  | object members => exact absurd rfl (hv members)
  | _ =>
    rw [visit, readKind, descend]
    · rfl
    · exact hv
    · exact hv

/-- A member access without one of its operands is faulty. -/
theorem visit_incomplete {e : TreeError}
    (htype : findMember "type" members = some (.string "MemberExpression"))
    (hoperands : readOperands members path = .error e) :
    visit (.object members) path = (descend path (.object members)).map .leaf := by
  rw [visit, readKind_of_type htype, descend_member htype]
  dsimp only
  rw [hoperands, if_neg (by decide), if_pos rfl]
  rfl

/-- The two nodes built last are joined, unless the location is faulty. -/
theorem join_operands (object property : Node) (rest : List Node) :
    join members path (property :: object :: rest) = (do
      let location ← readLocation members "MemberExpression" path
      return .member object property (readComputed members) location :: rest) := by
  rw [join]
  cases readLocation members "MemberExpression" path <;> rfl

/-- The nodes built last are gathered in the order in which they were built, unless the location
is faulty. -/
theorem gather_children (children rest : List Node) :
    gather members kind path children.length (children.reverse ++ rest) = (do
      let location ← readLocation? members kind path
      return .other kind location children :: rest) := by
  have htake : ((children.reverse ++ rest).take children.length).reverse = children := by simp
  have hdrop : (children.reverse ++ rest).drop children.length = rest := by simp
  rw [gather, htake, hdrop]
  cases readLocation? members kind path <;> rfl

/-- The operands of a member access are visited before it. -/
theorem visit_member {object property : Value}
    (htype : findMember "type" members = some (.string "MemberExpression"))
    (hoperands : readOperands members path = .ok (object, property)) :
    visit (.object members) path =
      .ok (.composite [.visit object (path ++ [.field "object"]),
        .visit property (path ++ [.field "property"]), .join members path]) := by
  rw [visit, readKind_of_type htype]
  dsimp only
  rw [hoperands, if_neg (by decide), if_pos rfl]

/-- The children of any other node are visited before it. -/
theorem visit_other (htype : findMember "type" members = some (.string kind))
    (hidentifier : kind ≠ "Identifier") (hmember : kind ≠ "MemberExpression")
    (hliteral : kind ≠ "Literal") :
    visit (.object members) path =
      .ok (.composite (visits (typedInMembers path (searched members)) ++
        [.gather members kind path (typedInMembers path (searched members)).length])) := by
  rw [visit, readKind_of_type htype]
  simp only [if_neg hidentifier, if_neg hmember, if_neg hliteral, typedChildren_fields]

/-- The operands of a member access are built before it, and its location is read last. -/
theorem builds_member {object property : Value}
    (htype : findMember "type" members = some (.string "MemberExpression"))
    (hoperands : readOperands members path = .ok (object, property))
    (hobject : Builds (path ++ [.field "object"]) object)
    (hproperty : Builds (path ++ [.field "property"]) property) :
    Builds path (.object members) := by
  intro tasks built
  rw [run_of_visit_eq_composite (visit_member htype hoperands), List.cons_append, hobject,
    descend_of_operands htype hoperands]
  cases descend (path ++ [.field "object"]) object with
  | error e => rfl
  | ok first =>
    show run (.visit property (path ++ [.field "property"]) :: .join members path :: tasks)
      (first :: built) = _
    rw [hproperty]
    cases descend (path ++ [.field "property"]) property with
    | error e => rfl
    | ok second =>
      show run (.join members path :: tasks) (second :: first :: built) = _
      rw [run, join_operands]
      cases readLocation members "MemberExpression" path <;> rfl

/-- Any other node is built after its children. -/
theorem builds_other (htype : findMember "type" members = some (.string kind))
    (hidentifier : kind ≠ "Identifier") (hmember : kind ≠ "MemberExpression")
    (hliteral : kind ≠ "Literal")
    (hbuild : BuildsAll (typedInMembers path (searched members))) :
    Builds path (.object members) := by
  intro tasks built
  rw [run_of_visit_eq_composite (visit_other htype hidentifier hmember hliteral),
    List.append_assoc, hbuild, descend_other htype hidentifier hmember hliteral]
  cases hnodes : descendAll (typedInMembers path (searched members)) with
  | error e => rfl
  | ok nodes =>
    rw [← length_of_descendAll hnodes]
    show run (.gather members kind path nodes.length :: tasks) (nodes.reverse ++ built) = _
    rw [run, gather_children]
    cases readLocation? members kind path <;> rfl

/-- Whatever the tasks and the built nodes are, a visit comes to the node that the value
describes, or to its fault. -/
theorem run_visit (v : Value) (path : Path) : Builds path v := by
  refine descend.induct Builds BuildsAll ?identifier ?noObject ?noProperty ?member ?literal ?other
    ?untyped ?plain ?none ?more path v
  case identifier =>
    intro path members htype
    exact builds_of_visit (visit_identifier htype)
  case noObject =>
    intro path members hobject htype _
    have hoperands : readOperands members path =
        .error (.invalidField "MemberExpression" "object" path) := by
      rw [readOperands, hobject]
    exact builds_of_visit (visit_incomplete htype hoperands)
  case noProperty =>
    intro path members object hobject hproperty htype _
    have hoperands : readOperands members path =
        .error (.invalidField "MemberExpression" "property" path) := by
      rw [readOperands, hobject, hproperty]
    exact builds_of_visit (visit_incomplete htype hoperands)
  case member =>
    intro path members object property hobject hproperty htype _ hfirst hsecond
    refine builds_member htype ?_ hfirst hsecond
    rw [readOperands, hobject, hproperty]
  case literal =>
    intro path members htype _ _
    exact builds_of_visit (visit_literal htype)
  case other =>
    intro path members kind htype hidentifier hmember hliteral hbuild
    rw [childFields_eq] at hbuild
    exact builds_other htype hidentifier hmember hliteral hbuild
  case untyped =>
    intro path members htype
    exact builds_of_visit (visit_untyped htype)
  case plain =>
    intro path v hv
    exact builds_of_visit (visit_plain hv)
  case none => exact BuildsAll.nil
  case more =>
    intro v path rest hv hrest
    exact BuildsAll.cons hv hrest

/-- Nothing is left on the stacks after the visit of the whole document. -/
theorem run_visit_root (v : Value) : run [.visit v []] [] = descend [] v := by
  rw [run_visit v []]
  cases descend [] v with
  | error e => rfl
  | ok node =>
    show run [] [node] = _
    rw [run]

end Tree

/-- The two stacks read the node that the recursion reads, or report its fault. -/
theorem ofValue?_eq_descend (v : Value) : Node.ofValue? v = Tree.descend [] v := by
  rw [Node.ofValue?, Tree.run_visit_root]

end ValueTrace
