import ValueTrace.Proofs.Scope.Visible
import ValueTrace.Proofs.Tree.Faults

/-!
# The parts of a document that its syntax tree is made of

Every node of a syntax tree that was read is what one part of the document describes by itself, read
at the path that leads there (`Tree.exists_part`).  The location of an identifier or a member access
is therefore written in its part, with the same line and column (`Tree.exists_startsAt`).

## Main definitions

* `Tree.StartsAt` : where the location of a node begins, as its part says.

## Main results

* `Tree.exists_part` : the part of the document that a node was read from.
* `Tree.exists_startsAt` : the location of an expression in its part.
-/

namespace ValueTrace

open Json (Value findMember)

namespace Tree

variable {v w : Value} {path : Path} {members : Members} {n m : Node}

/-! ### Locations -/

/-- The location among the members of a node begins at a line and a column. -/
def StartsAt (members : Members) (line column : Nat) : Prop :=
  ∃ loc start, findMember "loc" members = some (.object loc) ∧
    findMember "start" loc = some (.object start) ∧
    findMember "line" start = some (.ofNat line) ∧
    findMember "column" start = some (.ofNat column)

theorem eq_ofNat_of_natural? {k : Nat} (h : v.natural? = some k) : v = .ofNat k := by
  cases v with
  | number number =>
    cases number with
    | integer n =>
      rw [Value.natural?, Json.Number.natural?] at h
      split at h
      · rename_i hn
        rw [← Option.some.inj h, Value.ofNat, Int.toNat_of_nonneg hn]
      · cases h
    | float x => cases h
  | _ => cases h

theorem eq_ofNat_of_readWord {x : UInt32} (h : readWord v = some x) : v = .ofNat x.toNat := by
  unfold readWord at h
  split at h
  · rename_i k hk
    split at h
    · rename_i hlt
      rw [← Option.some.inj h, UInt32.toNat_ofNat_of_lt' hlt]
      exact eq_ofNat_of_natural? hk
    · cases h
  · cases h

theorem exists_object_of_member? {name : String} (h : v.member? name = some w) :
    ∃ members, v = .object members ∧ findMember name members = some w := by
  cases v with
  | object members => exact ⟨members, rfl, h⟩
  | _ => cases h

/-- A position that is read is written with the same line and column. -/
theorem exists_of_readPosition {x : Position} (h : readPosition v = some x) :
    ∃ members, v = .object members ∧
      findMember "line" members = some (.ofNat x.line.toNat) ∧
      findMember "column" members = some (.ofNat x.column.toNat) := by
  simp only [readPosition, Option.bind_eq_bind, Option.bind_eq_some_iff] at h
  obtain ⟨line, ⟨u, hu, hline⟩, column, ⟨w, hw, hcolumn⟩, heq⟩ := h
  obtain rfl := Option.some.inj heq
  obtain ⟨members, rfl, hline'⟩ := exists_object_of_member? hu
  refine ⟨members, rfl, ?_, ?_⟩
  · rw [hline', eq_ofNat_of_readWord hline]
  · exact hw.trans (congrArg some (eq_ofNat_of_readWord hcolumn))

/-- A location that is read begins where it says. -/
theorem startsAt_of_readLocation {kind : String} {l : SourceLocation}
    (h : readLocation members kind path = .ok l) :
    StartsAt members l.start.line.toNat l.start.column.toNat := by
  have hlocation : readLocation? members kind path = .ok (some l) := by
    unfold readLocation at h
    split at h
    · cases h
    · rename_i hfound
      rwa [Except.ok.inj h] at hfound
    · cases h
  unfold readLocation? at hlocation
  split at hlocation
  · cases hlocation
  · cases hlocation
  · rename_i v _ hv
    split at hlocation
    · rename_i start stop hstart hstop
      obtain rfl := Option.some.inj (Except.ok.inj hlocation)
      obtain ⟨u, hu, hposition⟩ := Option.bind_eq_some_iff.1 hstart
      obtain ⟨loc, rfl, hloc⟩ := exists_object_of_member? hu
      obtain ⟨inner, rfl, hline, hcolumn⟩ := exists_of_readPosition hposition
      exact ⟨loc, inner, hv, hloc, hline, hcolumn⟩
    · cases hlocation

/-- An identifier or a member access is described by an object of its kind, in which its location
begins where that of the node does. -/
theorem exists_startsAt {l : SourceLocation} (h : descend path v = .ok n)
    (hl : n.reference? = some l) :
    ∃ members, v = .object members ∧ findMember "type" members = some (.string n.kind) ∧
      StartsAt members l.start.line.toNat l.start.column.toNat := by
  unfold descend at h
  split at h
  · rename_i members
    split at h
    · rename_i kind htype
      refine ⟨members, rfl, ?_⟩
      split_ifs at h with hidentifier hmember hliteral
      · obtain ⟨name, -, h⟩ := exists_ok_of_bind h
        obtain ⟨location, hlocation, h⟩ := exists_ok_of_bind h
        obtain rfl := Except.ok.inj h
        obtain rfl := Option.some.inj hl
        rw [neededLocationIn_eq] at hlocation
        exact ⟨htype.trans (by rw [hidentifier]; rfl), startsAt_of_readLocation hlocation⟩
      · split at h
        · cases h
        · cases h
        · obtain ⟨object, -, h⟩ := exists_ok_of_bind h
          obtain ⟨property, -, h⟩ := exists_ok_of_bind h
          obtain ⟨location, hlocation, h⟩ := exists_ok_of_bind h
          obtain rfl := Except.ok.inj h
          obtain rfl := Option.some.inj hl
          rw [neededLocationIn_eq] at hlocation
          exact ⟨htype.trans (by rw [hmember]; rfl), startsAt_of_readLocation hlocation⟩
      · obtain ⟨value, -, h⟩ := exists_ok_of_bind h
        obtain ⟨location, -, h⟩ := exists_ok_of_bind h
        obtain rfl := Except.ok.inj h
        cases hl
      · obtain ⟨children, -, h⟩ := exists_ok_of_bind h
        obtain ⟨location, -, h⟩ := exists_ok_of_bind h
        obtain rfl := Except.ok.inj h
        cases hl
    · cases h
  · cases h

/-! ### Parts -/

/-- The node stands for a part of the value: read at its path, the part describes the node. -/
def IsPart (path : Path) (v : Value) (m : Node) : Prop :=
  ∃ below w, Leads v below w ∧ descend (path ++ below) w = .ok m

theorem IsPart.self (h : descend path v = .ok m) : IsPart path v m :=
  ⟨[], v, .here, by rwa [List.append_nil]⟩

/-- What stands for a part of a part stands for a part of the whole. -/
theorem IsPart.of_leads {below : Path} (h : IsPart (path ++ below) w m) (hleads : Leads v below w) :
    IsPart path v m := by
  obtain ⟨further, u, hu, hm⟩ := h
  exact ⟨below ++ further, u, hleads.trans hu, by rwa [← List.append_assoc]⟩

/-- All nodes of the tree that a value describes stand for its parts. -/
def Consists (path : Path) (v : Value) : Prop :=
  ∀ n, descend path v = .ok n → ∀ a m, n.at? a = some m → IsPart path v m

/-- All nodes of the trees that some values describe stand for parts of one of them. -/
def ConsistAll (parts : List (Value × Path)) : Prop :=
  ∀ nodes, descendAll parts = .ok nodes → ∀ n ∈ nodes, ∀ a m, n.at? a = some m →
    ∃ part ∈ parts, IsPart part.2 part.1 m

/-- A tree consists of parts of the value if the trees below its root do. -/
theorem consists_of_children
    (h : ∀ n, descend path v = .ok n → ∀ child ∈ n.children, ∀ a m, child.at? a = some m →
      IsPart path v m) : Consists path v := by
  intro n hn a m hm
  cases a with
  | nil =>
    obtain rfl := Option.some.inj hm
    exact .self hn
  | cons i a =>
    obtain ⟨child, hchild, hm⟩ := Option.bind_eq_some_iff.1 hm
    exact h n hn child (List.mem_of_getElem? hchild) a m hm

theorem ConsistAll.cons {rest : List (Value × Path)} (hv : Consists path v)
    (hrest : ConsistAll rest) : ConsistAll ((v, path) :: rest) := by
  intro nodes h n hn a m hm
  rw [descendAll_cons] at h
  obtain ⟨first, hfirst, h⟩ := exists_ok_of_bind h
  obtain ⟨others, hothers, h⟩ := exists_ok_of_bind h
  obtain rfl := Except.ok.inj h
  rcases List.mem_cons.1 hn with rfl | hn
  · exact ⟨_, List.mem_cons_self, hv n hfirst a m hm⟩
  · obtain ⟨part, hpart, hm⟩ := hrest others hothers n hn a m hm
    exact ⟨part, List.mem_cons_of_mem _ hpart, hm⟩

theorem consists_member {object property : Value}
    (htype : findMember "type" members = some (.string "MemberExpression"))
    (hobject : findMember "object" members = some object)
    (hproperty : findMember "property" members = some property)
    (hfirst : Consists (path ++ [.field "object"]) object)
    (hsecond : Consists (path ++ [.field "property"]) property) :
    Consists path (.object members) := by
  refine consists_of_children fun n h child hchild a m hm => ?_
  have hoperands : readOperands members path = .ok (object, property) := by
    rw [readOperands, hobject, hproperty]
  rw [descend_of_operands htype hoperands] at h
  obtain ⟨left, hleft, h⟩ := exists_ok_of_bind h
  obtain ⟨right, hright, h⟩ := exists_ok_of_bind h
  obtain ⟨location, -, h⟩ := exists_ok_of_bind h
  obtain rfl := Except.ok.inj h
  simp only [Node.children, List.mem_cons, List.not_mem_nil, or_false] at hchild
  rcases hchild with rfl | rfl
  · exact (hfirst _ hleft a m hm).of_leads (leads_of_findMember hobject)
  · exact (hsecond _ hright a m hm).of_leads (leads_of_findMember hproperty)

theorem consists_other {kind : String} (htype : findMember "type" members = some (.string kind))
    (hidentifier : kind ≠ "Identifier") (hmember : kind ≠ "MemberExpression")
    (hliteral : kind ≠ "Literal")
    (hchildren : ConsistAll (typedInMembers path (searched members))) :
    Consists path (.object members) := by
  refine consists_of_children fun n h child hchild a m hm => ?_
  rw [descend_other htype hidentifier hmember hliteral] at h
  obtain ⟨nodes, hnodes, h⟩ := exists_ok_of_bind h
  obtain ⟨location, -, h⟩ := exists_ok_of_bind h
  obtain rfl := Except.ok.inj h
  obtain ⟨⟨w, q⟩, hmem, hpart⟩ := hchildren nodes hnodes child hchild a m hm
  obtain ⟨name, u, below, rfl, hu, hleads⟩ := leads_of_mem_typedInMembers _ hmem
  exact hpart.of_leads (.field (List.mem_of_mem_filter hu) hleads)

/-- An identifier or a literal, and a value that is refused, has nothing below it. -/
theorem consists_childless
    (h : ∀ n, descend path v = .ok n → n.children = []) : Consists path v := by
  refine consists_of_children fun n hn child hchild => ?_
  rw [h n hn] at hchild
  cases hchild

/-- Every tree consists of parts of the value that it was read from. -/
theorem consists_descend (v : Value) (path : Path) : Consists path v := by
  -- Along the recursion of the reader: only member accesses and nodes of other kinds have children.
  refine descend.induct Consists ConsistAll ?identifier ?noObject ?noProperty ?member ?literal
    ?other ?untyped ?plain ?none ?more path v
  case identifier =>
    intro path members htype
    refine consists_childless fun n h => ?_
    rw [descend_identifier htype] at h
    obtain ⟨name, -, h⟩ := exists_ok_of_bind h
    obtain ⟨location, -, h⟩ := exists_ok_of_bind h
    rw [← Except.ok.inj h]
    rfl
  case noObject =>
    intro path members hobject htype _
    refine consists_childless fun n h => ?_
    rw [descend_member htype, readOperands, hobject] at h
    cases h
  case noProperty =>
    intro path members object hobject hproperty htype _
    refine consists_childless fun n h => ?_
    rw [descend_member htype, readOperands, hobject, hproperty] at h
    cases h
  case member =>
    intro path members object property hobject hproperty htype _ hfirst hsecond
    exact consists_member htype hobject hproperty hfirst hsecond
  case literal =>
    intro path members htype _ _
    refine consists_childless fun n h => ?_
    rw [descend_literal htype] at h
    obtain ⟨value, -, h⟩ := exists_ok_of_bind h
    obtain ⟨location, -, h⟩ := exists_ok_of_bind h
    rw [← Except.ok.inj h]
    rfl
  case other =>
    intro path members kind htype hidentifier hmember hliteral hchildren
    rw [childFields_eq] at hchildren
    exact consists_other htype hidentifier hmember hliteral hchildren
  case untyped =>
    intro path members htype
    refine consists_childless fun n h => ?_
    rw [descend] at h
    split at h
    · exact absurd ‹_› (htype _)
    · cases h
  case plain =>
    intro path v hv
    refine consists_childless fun n h => ?_
    cases v with
    | object members => exact absurd rfl (hv members)
    | _ => simp [descend] at h
  case none =>
    intro nodes h n hn
    rw [descendAll_nil] at h
    obtain rfl := Except.ok.inj h
    cases hn
  case more =>
    intro v path rest hv hrest
    exact ConsistAll.cons hv hrest

/-- Every node of a tree is what one part of the document describes, read at the path to it. -/
theorem exists_part (h : Node.ofValue? v = .ok n) {a : Address} (hm : n.at? a = some m) :
    ∃ q w, Leads v q w ∧ descend q w = .ok m := by
  rw [Node.ofValue?, run_visit_root] at h
  exact consists_descend v [] n h a m hm

end Tree

end ValueTrace
