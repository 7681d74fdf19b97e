import Mathlib.Data.List.Nodup
import ValueTrace.Proofs.Json.Readable
import ValueTrace.Proofs.Tree.Descent

/-!
# Faults of documents that are no syntax trees

A document that is no syntax tree is refused with the path to one of its parts, which has been
carried along while the parts were looked for, through arrays and through objects without a type.
Here it is followed from the root again: it leads to a part, and this part has the fault that is
reported (`faults_are_where_reported`).

## Main definitions

* `Leads` : the parts of a JSON value and the paths to them.
* `Json.Value.IsLocation` : what a location has to look like.
* `IsFaulty` : the fields that a node must not have.
* `Blames` : the value has the fault.

## Main results

* `Leads.unique` : a path in a value that was read leads to one part.
* `Tree.leads_of_mem_typedIn` : children stand where their paths say.
* `Tree.blamed_descend` : a fault of a part is a fault at its path.
* `faults_are_where_reported` : the reported path and the reported fault.
-/

namespace ValueTrace

open Json (Value findMember)
open ValueTrace.Tree (Members)

/-! ### Parts of values -/

/-- The path leads from a value to a part of it. -/
inductive Leads : Value → Path → Value → Prop
  | here {v} : Leads v [] v
  | field {members : Members} {name v path w} (hmember : (name, v) ∈ members)
      (h : Leads v path w) : Leads (.object members) (.field name :: path) w
  | item {items : List Value} {index v path w} (hitem : items[index]? = some v)
      (h : Leads v path w) : Leads (.array items) (.item index :: path) w

namespace Leads

variable {u v w w' : Value} {p q : Path}

theorem trans (h : Leads u p v) (h' : Leads v q w) : Leads u (p ++ q) w := by
  induction h with
  | here => exact h'
  | field hmember _ ih => exact .field hmember (ih h')
  | item hitem _ ih => exact .item hitem (ih h')

/-- No two parts of a value that was read have the same path, since no object in it names a member
twice. -/
theorem unique {depth : Nat} (hv : v.IsReadable depth) (h : Leads v p w) (h' : Leads v p w') :
    w' = w := by
  induction h generalizing depth with
  | here =>
    cases h'
    rfl
  | field hmember _ ih =>
    cases h' with
    | field hmember' hrest =>
      cases hv with
      | object hnames hmembers =>
        have hsame := List.inj_on_of_nodup_map hnames hmember' hmember rfl
        obtain rfl := (Prod.mk.inj hsame).2
        exact ih (hmembers _ hmember) hrest
  | item hitem _ ih =>
    cases h' with
    | item hitem' hrest =>
      cases hv with
      | array hitems =>
        obtain rfl := Option.some.inj (hitem'.symm.trans hitem)
        exact ih (hitems _ (List.mem_of_getElem? hitem)) hrest

end Leads

/-- A path is written as the root and its steps. -/
theorem Path.text_eq (p : Path) : p.text = "$" ++ String.join (p.map Step.text) := by
  have hfold (start : String) : p.foldl (fun text step => text ++ step.text) start =
      start ++ String.join (p.map Step.text) := by
    induction p generalizing start with
    | nil => simp
    | cons step p ih =>
      rw [List.foldl_cons, ih, List.map_cons, String.join_cons, String.append_assoc]
  exact hfold "$"

/-- A member that is found is a part of its object. -/
theorem leads_of_findMember {members : Members} {name : String} {v : Value}
    (h : findMember name members = some v) : Leads (.object members) [.field name] v := by
  refine .field ?_ .here
  induction members with
  | nil => cases h
  | cons member rest ih =>
    rw [findMember] at h
    split at h
    · rename_i hname
      rw [← hname, ← Option.some.inj h]
      exact List.mem_cons_self
    · exact List.mem_cons_of_mem _ (ih h)

/-! ### Faulty fields -/

/-- A natural number of 32 bits. -/
def Json.Value.IsWord (v : Value) : Prop := ∃ n : Nat, n < UInt32.size ∧ v = .number (.integer n)

/-- A line and a column. -/
def Json.Value.IsPosition (v : Value) : Prop :=
  ∃ members line column, v = .object members ∧
    findMember "line" members = some line ∧ line.IsWord ∧
    findMember "column" members = some column ∧ column.IsWord

/-- A start and an end. -/
def Json.Value.IsLocation (v : Value) : Prop :=
  ∃ members start stop, v = .object members ∧
    findMember "start" members = some start ∧ start.IsPosition ∧
    findMember "end" members = some stop ∧ stop.IsPosition

/-- The field of a node of this kind is missing although the kind needs it, or it has the wrong
shape. -/
inductive IsFaulty (members : Members) : (kind field : String) → Prop
  | name (h : ∀ s, findMember "name" members ≠ some (.string s)) :
      IsFaulty members "Identifier" "name"
  | object (h : findMember "object" members = none) : IsFaulty members "MemberExpression" "object"
  | property (h : findMember "property" members = none) :
      IsFaulty members "MemberExpression" "property"
  /-- The pattern is a field of the regular expression. -/
  | pattern {regex} (hregex : findMember "regex" members = some (.object regex))
      (h : ∀ s, findMember "pattern" regex ≠ some (.string s)) :
      IsFaulty members "Literal" "pattern"
  /-- The value is not looked at if there is a regular expression or an integer of any size. -/
  | value {v} (hregex : ∀ regex, findMember "regex" members ≠ some (.object regex))
      (hbigint : ∀ digits, findMember "bigint" members ≠ some (.string digits))
      (hvalue : findMember "value" members = some v)
      (h : (∃ items, v = .array items) ∨ ∃ inner, v = .object inner) :
      IsFaulty members "Literal" "value"
  | location {kind v} (hlocation : findMember "loc" members = some v) (hnull : v ≠ .null)
      (h : ¬ v.IsLocation) : IsFaulty members kind "loc"

/-- The value has the fault that is reported. -/
inductive Blames : TreeError → Value → Prop
  | missingType {path v}
      (h : ∀ members kind, v = .object members →
        findMember "type" members ≠ some (.string kind)) : Blames (.missingType path) v
  | missingLocation {kind path members}
      (hkind : kind = "Identifier" ∨ kind = "MemberExpression")
      (htype : findMember "type" members = some (.string kind))
      (h : findMember "loc" members = none ∨ findMember "loc" members = some .null) :
      Blames (.missingLocation kind path) (.object members)
  | invalidField {kind field path members}
      (htype : findMember "type" members = some (.string kind))
      (h : IsFaulty members kind field) : Blames (.invalidField kind field path) (.object members)

namespace Tree

variable {members : Members} {kind field : String} {path : Path} {e : TreeError} {v w : Value}

theorem readWord_of_isWord (h : v.IsWord) : ∃ x, readWord v = some x := by
  obtain ⟨n, hn, rfl⟩ := h
  have hnatural : Value.natural? (.number (.integer n)) = some n := by
    rw [Value.natural?, Json.Number.natural?, if_pos (Int.natCast_nonneg n), Int.toNat_natCast]
  rw [readWord, hnatural]
  exact ⟨UInt32.ofNat n, if_pos hn⟩

theorem readPosition_of_isPosition (h : v.IsPosition) : ∃ x, readPosition v = some x := by
  obtain ⟨members, line, column, rfl, hline, hlineWord, hcolumn, hcolumnWord⟩ := h
  obtain ⟨x, hx⟩ := readWord_of_isWord hlineWord
  obtain ⟨y, hy⟩ := readWord_of_isWord hcolumnWord
  exact ⟨⟨x, y⟩, by simp [readPosition, Value.member?, hline, hcolumn, hx, hy]⟩

theorem readText_eq_error (h : readText members kind field path = .error e) :
    e = .invalidField kind field path ∧ ∀ s, findMember field members ≠ some (.string s) := by
  rw [readText] at h
  split at h
  · cases h
  · rename_i hno
    exact ⟨(Except.error.inj h).symm, hno⟩

/-- Only a location that is there and has the wrong shape is refused. -/
theorem readLocation?_eq_error (h : readLocation? members kind path = .error e) :
    e = .invalidField kind "loc" path ∧ IsFaulty members kind "loc" := by
  rw [readLocation?] at h
  split at h
  · cases h
  · cases h
  · rename_i v hnull hlocation
    split at h
    · cases h
    · rename_i hno
      refine ⟨(Except.error.inj h).symm, .location hlocation hnull ?_⟩
      rintro ⟨inner, start, stop, rfl, hstart, hstartPosition, hstop, hstopPosition⟩
      obtain ⟨x, hx⟩ := readPosition_of_isPosition hstartPosition
      obtain ⟨y, hy⟩ := readPosition_of_isPosition hstopPosition
      exact hno x y (by simp [Value.member?, hstart, hx]) (by simp [Value.member?, hstop, hy])

theorem readLocation_eq_error (hkind : kind = "Identifier" ∨ kind = "MemberExpression")
    (htype : findMember "type" members = some (.string kind))
    (h : readLocation members kind path = .error e) :
    e.path = path ∧ Blames e (.object members) := by
  rw [readLocation] at h
  split at h
  · rename_i e' hlocation
    obtain rfl := Except.error.inj h
    obtain ⟨rfl, hfaulty⟩ := readLocation?_eq_error hlocation
    exact ⟨rfl, .invalidField htype hfaulty⟩
  · cases h
  · rename_i hlocation
    obtain rfl := Except.error.inj h
    refine ⟨rfl, .missingLocation hkind htype ?_⟩
    rw [readLocation?] at hlocation
    split at hlocation
    · exact Or.inl ‹_›
    · exact Or.inr ‹_›
    · split at hlocation <;> cases hlocation

theorem findMember_ne_string {name : String} (h : textIn? name members = none) (s : String) :
    findMember name members ≠ some (.string s) := by
  intro hs
  rw [textIn?_eq_some.2 hs] at h
  cases h

theorem findMember_ne_object {name : String} (h : membersIn? name members = none)
    (inner : Members) : findMember name members ≠ some (.object inner) := by
  intro hinner
  rw [membersIn?_eq_some.2 hinner] at h
  cases h

/-- A literal is refused for the pattern of a regular expression or for a value that is none. -/
theorem literalIn_eq_error (h : literalIn members path = .error e) :
    ∃ field, e = .invalidField "Literal" field path ∧ IsFaulty members "Literal" field := by
  rw [literalIn] at h
  split at h
  · rename_i regex hregex
    split at h
    · cases h
    · rename_i hpattern
      refine ⟨_, (Except.error.inj h).symm, ?_⟩
      exact .pattern (membersIn?_eq_some.1 hregex) (findMember_ne_string hpattern)
  · rename_i hregex
    split at h
    · cases h
    · rename_i hbigint
      have hfaulty {v : Value} (hvalue : findMember "value" members = some v)
          (hv : (∃ items, v = .array items) ∨ ∃ inner, v = .object inner) :
          IsFaulty members "Literal" "value" :=
        .value (findMember_ne_object hregex) (findMember_ne_string hbigint) hvalue hv
      split at h
      · cases h
      · cases h
      · cases h
      · cases h
      · cases h
      · rename_i items hvalue
        exact ⟨_, (Except.error.inj h).symm, hfaulty hvalue (Or.inl ⟨items, rfl⟩)⟩
      · rename_i inner hvalue
        exact ⟨_, (Except.error.inj h).symm, hfaulty hvalue (Or.inr ⟨inner, rfl⟩)⟩

/-! ### Paths of children -/

mutual

/-- A typed object that is found in a value stands where its path leads to. -/
theorem leads_of_mem_typedIn {path q : Path} {w : Value} :
    (v : Value) → (w, q) ∈ typedIn path v → ∃ below, q = path ++ below ∧ Leads v below w
  | .null, h | .bool _, h | .number _, h | .string _, h => by simp [typedIn] at h
  | .array values, h => by
    rw [typedIn] at h
    obtain ⟨i, u, below, rfl, hu, hleads⟩ := leads_of_mem_typedInItems values h
    rw [Nat.zero_add]
    exact ⟨_, rfl, .item hu hleads⟩
  | .object members, h => by
    rw [typedIn] at h
    split at h
    · obtain ⟨rfl, rfl⟩ := Prod.mk.inj (List.mem_singleton.1 h)
      exact ⟨[], (List.append_nil _).symm, .here⟩
    · obtain ⟨name, u, below, rfl, hu, hleads⟩ := leads_of_mem_typedInMembers members h
      exact ⟨_, rfl, .field hu hleads⟩

theorem leads_of_mem_typedInItems {path q : Path} {index : Nat} {w : Value} :
    (values : List Value) → (w, q) ∈ typedInItems path index values →
      ∃ i u below, q = path ++ .item (index + i) :: below ∧ values[i]? = some u ∧ Leads u below w
  | [], h => by simp [typedInItems] at h
  | v :: rest, h => by
    rw [typedInItems, List.mem_append] at h
    rcases h with h | h
    · obtain ⟨below, rfl, hleads⟩ := leads_of_mem_typedIn v h
      exact ⟨0, v, below, by simp, rfl, hleads⟩
    · obtain ⟨i, u, below, rfl, hu, hleads⟩ := leads_of_mem_typedInItems rest h
      exact ⟨i + 1, u, below, by rw [Nat.add_right_comm, Nat.add_assoc], hu, hleads⟩

theorem leads_of_mem_typedInMembers {path q : Path} {w : Value} :
    (members : Members) → (w, q) ∈ typedInMembers path members →
      ∃ name u below, q = path ++ .field name :: below ∧ (name, u) ∈ members ∧ Leads u below w
  | [], h => by simp [typedInMembers] at h
  | (name, v) :: rest, h => by
    rw [typedInMembers, List.mem_append] at h
    rcases h with h | h
    · obtain ⟨below, rfl, hleads⟩ := leads_of_mem_typedIn v h
      exact ⟨name, v, below, by simp, List.mem_cons_self, hleads⟩
    · obtain ⟨name, u, below, rfl, hu, hleads⟩ := leads_of_mem_typedInMembers rest h
      exact ⟨name, u, below, rfl, List.mem_cons_of_mem _ hu, hleads⟩

end

/-! ### Faults of parts -/

/-- A computation in two steps fails in one of them. -/
theorem eq_error_of_bind {ε α β : Type} {x : Except ε α} {f : α → Except ε β} {e : ε}
    (h : x >>= f = .error e) : x = .error e ∨ ∃ a, x = .ok a ∧ f a = .error e := by
  cases x with
  | error e' => exact Or.inl (congrArg _ (Except.error.inj h))
  | ok a => exact Or.inr ⟨a, rfl, h⟩

/-- The fault is that of a part of the value at the path, and its path leads to this part. -/
def HasFault (path : Path) (v : Value) (e : TreeError) : Prop :=
  ∃ below w, e.path = path ++ below ∧ Leads v below w ∧ Blames e w

namespace HasFault

theorem self (h : e.path = path ∧ Blames e v) : HasFault path v e :=
  ⟨[], v, by rw [h.1, List.append_nil], .here, h.2⟩

/-- A fault of a part is a fault of the whole. -/
theorem of_leads {below : Path} (h : HasFault (path ++ below) w e) (hleads : Leads v below w) :
    HasFault path v e := by
  obtain ⟨further, u, hpath, hu, hblames⟩ := h
  exact ⟨below ++ further, u, by rw [hpath, List.append_assoc], hleads.trans hu, hblames⟩

end HasFault

/-- Whatever fault a value is refused with, the value has it. -/
def Blamed (path : Path) (v : Value) : Prop :=
  ∀ e, descend path v = .error e → HasFault path v e

/-- Whatever fault some values are refused with, one of them has it. -/
def BlamedAll (parts : List (Value × Path)) : Prop :=
  ∀ e, descendAll parts = .error e → ∃ part ∈ parts, HasFault part.2 part.1 e

theorem BlamedAll.cons {rest : List (Value × Path)} (hv : Blamed path v) (hrest : BlamedAll rest) :
    BlamedAll ((v, path) :: rest) := by
  intro e h
  rw [descendAll_cons] at h
  rcases eq_error_of_bind h with h | ⟨node, -, h⟩
  · exact ⟨_, List.mem_cons_self, hv e h⟩
  · rcases eq_error_of_bind h with h | ⟨nodes, -, h⟩
    · obtain ⟨part, hmem, hfault⟩ := hrest e h
      exact ⟨part, List.mem_cons_of_mem _ hmem, hfault⟩
    · cases h

theorem blamed_identifier (htype : findMember "type" members = some (.string "Identifier")) :
    Blamed path (.object members) := by
  intro e h
  rw [descend_identifier htype] at h
  rcases eq_error_of_bind h with h | ⟨name, -, h⟩
  · obtain ⟨rfl, hname⟩ := readText_eq_error h
    exact .self ⟨rfl, .invalidField htype (.name hname)⟩
  · rcases eq_error_of_bind h with h | ⟨location, -, h⟩
    · exact .self (readLocation_eq_error (Or.inl rfl) htype h)
    · cases h

theorem blamed_literal (htype : findMember "type" members = some (.string "Literal")) :
    Blamed path (.object members) := by
  intro e h
  rw [descend_literal htype] at h
  rcases eq_error_of_bind h with h | ⟨value, -, h⟩
  · rw [← literalIn_eq] at h
    obtain ⟨field, rfl, hfaulty⟩ := literalIn_eq_error h
    exact .self ⟨rfl, .invalidField htype hfaulty⟩
  · rcases eq_error_of_bind h with h | ⟨location, -, h⟩
    · obtain ⟨rfl, hfaulty⟩ := readLocation?_eq_error h
      exact .self ⟨rfl, .invalidField htype hfaulty⟩
    · cases h

/-- A member access has the faults of its operands, and otherwise its own. -/
theorem blamed_member {object property : Value}
    (htype : findMember "type" members = some (.string "MemberExpression"))
    (hobject : findMember "object" members = some object)
    (hproperty : findMember "property" members = some property)
    (hfirst : Blamed (path ++ [.field "object"]) object)
    (hsecond : Blamed (path ++ [.field "property"]) property) :
    Blamed path (.object members) := by
  intro e h
  have hoperands : readOperands members path = .ok (object, property) := by
    rw [readOperands, hobject, hproperty]
  rw [descend_of_operands htype hoperands] at h
  rcases eq_error_of_bind h with h | ⟨_, -, h⟩
  · exact (hfirst e h).of_leads (leads_of_findMember hobject)
  · rcases eq_error_of_bind h with h | ⟨_, -, h⟩
    · exact (hsecond e h).of_leads (leads_of_findMember hproperty)
    · rcases eq_error_of_bind h with h | ⟨location, -, h⟩
      · exact .self (readLocation_eq_error (Or.inr rfl) htype h)
      · cases h

/-- A member access without one of its operands is to blame itself. -/
theorem blamed_incomplete
    (htype : findMember "type" members = some (.string "MemberExpression"))
    (hmissing : findMember "object" members = none ∨ findMember "property" members = none) :
    Blamed path (.object members) := by
  intro e h
  rw [descend_member htype, readOperands] at h
  split at h
  · rename_i hobject
    obtain rfl := Except.error.inj h
    exact .self ⟨rfl, .invalidField htype (.object hobject)⟩
  · rename_i hproperty
    obtain rfl := Except.error.inj h
    exact .self ⟨rfl, .invalidField htype (.property hproperty)⟩
  · rename_i hobject hproperty
    simp [hobject, hproperty] at hmissing

/-- Any other node has the faults of its children, and otherwise its own. -/
theorem blamed_other (htype : findMember "type" members = some (.string kind))
    (hidentifier : kind ≠ "Identifier") (hmember : kind ≠ "MemberExpression")
    (hliteral : kind ≠ "Literal")
    (hchildren : BlamedAll (typedInMembers path (searched members))) :
    Blamed path (.object members) := by
  intro e h
  rw [descend_other htype hidentifier hmember hliteral] at h
  rcases eq_error_of_bind h with h | ⟨nodes, -, h⟩
  · obtain ⟨⟨w, q⟩, hmem, hfault⟩ := hchildren e h
    obtain ⟨name, u, below, rfl, hu, hleads⟩ := leads_of_mem_typedInMembers _ hmem
    exact hfault.of_leads (.field (List.mem_of_mem_filter hu) hleads)
  · rcases eq_error_of_bind h with h | ⟨location, -, h⟩
    · obtain ⟨rfl, hfaulty⟩ := readLocation?_eq_error h
      exact .self ⟨rfl, .invalidField htype hfaulty⟩
    · cases h

theorem blamed_untyped
    (h : ∀ members kind, v = .object members → findMember "type" members ≠ some (.string kind)) :
    Blamed path v := by
  intro e herror
  have hdescend : descend path v = .error (.missingType path) := by
    cases v with
    | object members =>
      rw [descend]
      split
      · rename_i kind htype
        exact absurd htype (h members kind rfl)
      · rfl
    | _ => rw [descend]; simp
  obtain rfl := Except.error.inj (hdescend.symm.trans herror)
  exact .self ⟨rfl, .missingType h⟩

/-- The recursion refuses a value only with a fault that it has. -/
theorem blamed_descend (v : Value) (path : Path) : Blamed path v := by
  refine descend.induct Blamed BlamedAll ?identifier ?noObject ?noProperty ?member ?literal ?other
    ?untyped ?plain ?none ?more path v
  case identifier =>
    intro path members htype
    exact blamed_identifier htype
  case noObject =>
    intro path members hobject htype _
    exact blamed_incomplete htype (Or.inl hobject)
  case noProperty =>
    intro path members object hobject hproperty htype _
    exact blamed_incomplete htype (Or.inr hproperty)
  case member =>
    intro path members object property hobject hproperty htype _ hfirst hsecond
    exact blamed_member htype hobject hproperty hfirst hsecond
  case literal =>
    intro path members htype _ _
    exact blamed_literal htype
  case other =>
    intro path members kind htype hidentifier hmember hliteral hchildren
    rw [childFields_eq] at hchildren
    exact blamed_other htype hidentifier hmember hliteral hchildren
  case untyped =>
    intro path members htype
    refine blamed_untyped fun inner kind heq hkind => ?_
    obtain rfl := Value.object.inj heq
    exact htype kind hkind
  case plain =>
    intro path v hv
    exact blamed_untyped fun members _ heq _ => hv members heq
  case none =>
    intro e h
    rw [descendAll_nil] at h
    cases h
  case more =>
    intro v path rest hv hrest
    exact BlamedAll.cons hv hrest

end Tree

/-- A value that is refused as a syntax tree is refused for one of its parts.  The reported path is
written as the steps that lead from the root to this part, and to no other in a value that was read,
and the part has the reported fault: it is no object with a string as its type, or an identifier or
a member access without a location, or a node of the reported kind that lacks the reported field or
has it in the wrong shape. -/
theorem faults_are_where_reported {v : Value} {e : TreeError} (h : Node.ofValue? v = .error e) :
    ∃ w, Leads v e.path w ∧ Blames e w ∧
      e.path.text = "$" ++ String.join (e.path.map Step.text) ∧
      ∀ depth, v.IsReadable depth → ∀ w', Leads v e.path w' → w' = w := by
  rw [Node.ofValue?, Tree.run_visit_root] at h
  obtain ⟨below, w, hpath, hleads, hblames⟩ := Tree.blamed_descend v [] e h
  rw [List.nil_append] at hpath
  subst hpath
  exact ⟨w, hleads, hblames, e.path.text_eq, fun depth hv w' hw' => hleads.unique hv hw'⟩

/-- A document whose second node is a regular expression with a number as its pattern. -/
def sampleDocument : Value :=
  .object [("type", .string "Program"), ("loc", .null), ("body", .array
    [.object [("type", .string "Super")],
      .object [("holder", .object [("type", .string "Literal"), ("value", .object []),
        ("regex", .object [("pattern", .number (.integer 3))])])]])]

theorem faults_are_where_reported_sample :
    let e := TreeError.invalidField "Literal" "pattern" [.field "body", .item 1, .field "holder"]
    Node.ofValue? sampleDocument = .error e ∧ e.path.text = "$.body[1].holder" ∧
    ∃ w, Leads sampleDocument e.path w ∧ Blames e w := by
  intro e
  have h : Node.ofValue? sampleDocument = .error e := by
    rw [Node.ofValue?, Tree.run_visit_root, sampleDocument, Tree.descend]
    simp [Tree.childFields, Tree.typedInMembers, Tree.typedInItems, Tree.typedIn, Tree.descend,
      Tree.literalIn, Tree.membersIn?, Tree.textIn?, findMember, Value.text?, Tree.locationIn, bind,
      Except.bind, pure, Except.pure, e]
  obtain ⟨w, hleads, hblames, -⟩ := faults_are_where_reported h
  exact ⟨h, by decide, w, hleads, hblames⟩

end ValueTrace
