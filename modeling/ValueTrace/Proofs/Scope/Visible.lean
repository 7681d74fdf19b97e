import Mathlib.Data.List.Basic
import Mathlib.Data.List.Forall2
import ValueTrace.Proofs.Scope.Histories
import ValueTrace.Scope.Analysis

/-!
# The visible expressions of a program

The walk through a program takes nodes from a stack and forgets where in the tree they stand.  Here
a node is named by its address: which child to take at each node on the way from the root.  In the
lexicographic order of addresses a node comes before everything below it, and everything below a
child before the next child, so this is the order of the source.

The candidates of a program are the identifiers and member accesses that no member access encloses
and that lie in the scope and above the cursor, in this order
(`candidates_are_visible_expressions`).  All queries select from one list (`candidates_eq`), so a
narrower query selects from what a wider one selects (`narrower_query_selects_sublist`).

## Main definitions

* `Address`, `Node.at?` : places in a tree and what stands there.
* `Node.reference?` : the location of an identifier or a member access.
* `Node.IsOutermost` : no member access encloses a place.
* `Node.references` : all outermost identifiers and member accesses.
* `IsVisible` : what a query asks for.

## Main results

* `Node.mem_references_iff`, `Node.pairwise_references` : the outermost expressions are complete and
  in source order.
* `Scope.walk_eq` : the walk selects from the outermost expressions.
* `candidates_are_visible_expressions` : the candidates and their order.
* `narrower_query_selects_sublist` : queries compared.
-/

namespace ValueTrace

/-! ### Addresses -/

/-- A place in a tree: at each node on the way from the root, the index of the child to take. -/
abbrev Address := List Nat

namespace Node

/-- The node at an address, if the tree reaches so far. -/
def at? (n : Node) : Address → Option Node
  | [] => some n
  | i :: rest => n.children[i]?.bind fun child => child.at? rest

theorem at?_append (n : Node) (a b : Address) :
    n.at? (a ++ b) = (n.at? a).bind fun m => m.at? b := by
  induction a generalizing n with
  | nil => rfl
  | cons i a ih =>
    rw [List.cons_append, at?, at?, Option.bind_assoc]
    simp only [ih]

/-- The location of an expression that is looked at as a whole: an identifier or a member access. -/
def reference? : Node → Option SourceLocation
  | .identifier _ l => some l
  | .member _ _ _ l => some l
  | _ => none

/-- Whether a node is a member access. -/
def isMember : Node → Bool
  | .member .. => true
  | _ => false

/-- No node strictly above the address is a member access. -/
def IsOutermost (root : Node) (a : Address) : Prop :=
  ∀ b m, b <+: a → b ≠ a → root.at? b = some m → m.isMember = false

variable {n : Node} {i : Nat} {a : Address}

theorem isOutermost_nil (n : Node) : n.IsOutermost [] :=
  fun _ _ habove hne _ => absurd (List.prefix_nil.1 habove) hne

/-- A place below a child is outermost if the child is no operand and the place is outermost in the
child. -/
theorem isOutermost_cons {child : Node} (hchild : n.children[i]? = some child) :
    n.IsOutermost (i :: a) ↔ n.isMember = false ∧ child.IsOutermost a := by
  have hat (b : Address) : n.at? (i :: b) = child.at? b := by rw [at?, hchild, Option.bind_some]
  constructor
  · intro h
    refine ⟨h [] n List.nil_prefix (List.cons_ne_nil i a).symm rfl, fun b m habove hne hm => ?_⟩
    exact h (i :: b) m (List.cons_prefix_cons.2 ⟨rfl, habove⟩)
      (fun heq => hne (List.cons.inj heq).2) ((hat b).trans hm)
  · rintro ⟨hmember, h⟩ b m habove hne hm
    rcases List.prefix_cons_iff.1 habove with rfl | ⟨b, rfl, hrest⟩
    · obtain rfl := Option.some.inj hm
      exact hmember
    · exact h b m hrest (fun heq => hne (congrArg (i :: ·) heq)) ((hat b).symm.trans hm)

end Node

/-! ### The outermost expressions of a tree -/

mutual

/-- The identifiers and member accesses of a tree that no member access encloses, as candidates with
their addresses, in source order. -/
def Node.references : Node → List (Address × Candidate)
  | .identifier name l => [([], ⟨name, .ofLocation l⟩)]
  | .member object property computed l =>
    [([], ⟨(Node.member object property computed l).render, .ofLocation l⟩)]
  | .literal _ _ => []
  | .other _ _ children => referencesFrom 0 children

/-- The outermost expressions of the children of a node from an index on. -/
def referencesFrom (index : Nat) : List Node → List (Address × Candidate)
  | [] => []
  | n :: rest =>
    n.references.map (fun r => (index :: r.1, r.2)) ++ referencesFrom (index + 1) rest

end

/-- What is found in the children of a node is found in one of them, and its address begins with the
index of this child. -/
theorem mem_referencesFrom_iff {index : Nat} {children : List Node} {a : Address} {c : Candidate} :
    (a, c) ∈ referencesFrom index children ↔
      ∃ i rest child, a = (index + i) :: rest ∧ children[i]? = some child ∧
        (rest, c) ∈ child.references := by
  induction children generalizing index with
  | nil => simp [referencesFrom]
  | cons n children ih =>
    rw [referencesFrom, List.mem_append, List.mem_map, ih]
    constructor
    · rintro (⟨⟨rest, c⟩, hmem, heq⟩ | ⟨i, rest, child, rfl, hchild, hmem⟩)
      · obtain ⟨rfl, rfl⟩ := Prod.mk.inj heq
        exact ⟨0, rest, n, rfl, rfl, hmem⟩
      · exact ⟨i + 1, rest, child, by rw [Nat.add_right_comm, Nat.add_assoc], hchild, hmem⟩
    · rintro ⟨i, rest, child, rfl, hchild, hmem⟩
      cases i with
      | zero =>
        obtain rfl := Option.some.inj hchild
        exact Or.inl ⟨(rest, c), hmem, rfl⟩
      | succ i =>
        exact Or.inr ⟨i, rest, child, by rw [Nat.add_right_comm, Nat.add_assoc], hchild, hmem⟩

namespace Node

/-- Exactly the identifiers and member accesses that no member access encloses are found. -/
theorem mem_references_iff {n : Node} {a : Address} {c : Candidate} :
    (a, c) ∈ n.references ↔
      ∃ m l, n.at? a = some m ∧ m.reference? = some l ∧ n.IsOutermost a ∧
        c = ⟨m.render, .ofLocation l⟩ := by
  -- Along the address: only a node of another kind is looked into, and there the child decides.
  induction a generalizing n with
  | nil =>
    cases n with
    | identifier name l => simp [references, at?, reference?, isOutermost_nil, render]
    | member object property computed l => simp [references, at?, reference?, isOutermost_nil]
    | literal value l => simp [references, at?, reference?]
    | other kind l children => simp [references, mem_referencesFrom_iff, at?, reference?]
  | cons i a ih =>
    cases n with
    | identifier name l => simp [references, at?, children]
    | literal value l => simp [references, at?, children]
    | member object property computed l =>
      have hinside : ¬ (member object property computed l).IsOutermost (i :: a) := fun h =>
        Bool.noConfusion (h [] _ List.nil_prefix (List.cons_ne_nil i a).symm rfl)
      simp [references, hinside]
    | other kind l children =>
      rw [references, mem_referencesFrom_iff]
      constructor
      · rintro ⟨j, rest, child, heq, hchild, hmem⟩
        rw [Nat.zero_add] at heq
        obtain ⟨rfl, rfl⟩ := List.cons.inj heq
        obtain ⟨m, l, hm, hl, houtermost, rfl⟩ := ih.1 hmem
        refine ⟨m, l, ?_, hl, (isOutermost_cons hchild).2 ⟨rfl, houtermost⟩, rfl⟩
        rw [at?, Node.children, hchild, Option.bind_some, hm]
      · rintro ⟨m, l, hm, hl, houtermost, rfl⟩
        obtain ⟨child, hchild, hm⟩ := Option.bind_eq_some_iff.1 hm
        exact ⟨i, a, child, by rw [Nat.zero_add], hchild,
          ih.2 ⟨m, l, hm, hl, ((isOutermost_cons hchild).1 houtermost).2, rfl⟩⟩

end Node

mutual

/-- The outermost expressions are found in source order. -/
theorem Node.pairwise_references : (n : Node) → n.references.Pairwise fun r s => r.1 < s.1
  | .identifier _ _ => List.pairwise_singleton _ _
  | .member _ _ _ _ => List.pairwise_singleton _ _
  | .literal _ _ => List.Pairwise.nil
  | .other _ _ children => pairwise_referencesFrom 0 children

theorem pairwise_referencesFrom (index : Nat) :
    (children : List Node) → (referencesFrom index children).Pairwise fun r s => r.1 < s.1
  | [] => List.Pairwise.nil
  | n :: rest => by
    rw [referencesFrom, List.pairwise_append, List.pairwise_map]
    refine ⟨?_, pairwise_referencesFrom (index + 1) rest, fun r hr s hs => ?_⟩
    · exact n.pairwise_references.imp fun h => List.cons_lt_cons_iff.2 (Or.inr ⟨rfl, h⟩)
    · obtain ⟨r, -, rfl⟩ := List.mem_map.1 hr
      obtain ⟨i, below, -, hs, -⟩ := mem_referencesFrom_iff.1 hs
      rw [hs]
      exact List.cons_lt_cons_iff.2 (Or.inl (by omega))

end

/-! ### The walk -/

theorem toNat_previousLine (line : UInt32) : (previousLine line).toNat = line.toNat - 1 := by
  rw [previousLine]
  split
  · rename_i hzero
    rw [hzero]
    rfl
  · rename_i hzero
    have hne : line.toNat ≠ 0 := fun h => hzero (UInt32.toNat_inj.1 h)
    have hone : 1 ≤ line := UInt32.le_iff_toNat_le.2 (Nat.one_le_iff_ne_zero.2 hne)
    rw [UInt32.toNat_sub_of_le _ _ hone]
    rfl

/-- Whether a range starts at or after the start of the scope and ends above the cursor. -/
def SourceRange.isVisible (r : SourceRange) (scope : ScopeStart) (cursor : UInt32) : Bool :=
  (r.startLine > scope.line || r.startLine == scope.line && r.startColumn ≥ scope.column)
    && r.endLine < cursor

theorem SourceRange.isVisible_iff {r : SourceRange} {scope : ScopeStart} {cursor : UInt32} :
    r.isVisible scope cursor = true ↔
      (scope.line.toNat < r.startLine.toNat ∨
        scope.line.toNat = r.startLine.toNat ∧ scope.column.toNat ≤ r.startColumn.toNat) ∧
      r.endLine.toNat < cursor.toNat := by
  simp [isVisible, UInt32.lt_iff_toNat_lt, UInt32.le_iff_toNat_le, ← UInt32.toNat_inj,
    eq_comm (a := scope.line.toNat)]

namespace Scope

variable (scope : ScopeStart) (cursor : UInt32)

theorem qualifies_eq (l : SourceLocation) :
    qualifies l scope cursor = (SourceRange.ofLocation l).isVisible scope cursor := rfl

theorem map_snd_referencesFrom (index : Nat) (children : List Node) :
    (referencesFrom index children).map Prod.snd =
      children.flatMap fun n => n.references.map Prod.snd := by
  induction children generalizing index with
  | nil => rfl
  | cons n rest ih =>
    rw [referencesFrom, List.map_append, ih, List.map_map, List.flatMap_cons]
    rfl

/-- The walk selects from the outermost expressions of the nodes on its stack, one node after the
other. -/
theorem walk_eq (stack : List Node) :
    walk scope cursor stack = (stack.flatMap fun n => n.references.map Prod.snd).filter
      fun c => c.range.isVisible scope cursor := by
  have hcandidate (n : Node) (l : SourceLocation) : candidate? n l scope cursor =
      [(⟨n.render, .ofLocation l⟩ : Candidate)].filter fun c => c.range.isVisible scope cursor := by
    rw [candidate?, qualifies_eq, List.filter_singleton, Bool.cond_eq_ite]
  fun_induction walk scope cursor stack with
  | case1 => rfl
  | case2 name l stack ih =>
    rw [hcandidate, ih, List.flatMap_cons, List.filter_append]
    rfl
  | case3 object property computed l stack ih =>
    rw [hcandidate, ih, List.flatMap_cons, List.filter_append]
    rfl
  | case4 value l stack ih => rw [ih, List.flatMap_cons]; rfl
  | case5 kind l children stack ih =>
    rw [ih, List.flatMap_append, List.flatMap_cons, Node.references, map_snd_referencesFrom]

end Scope

section Query

variable {p : Program} {scope : ScopeStart} {cursor : UInt32} {c : Candidate}

/-- Every query selects from the outermost expressions of the program. -/
theorem candidates_eq : p.candidates scope cursor =
    (p.root.references.map Prod.snd).filter fun c => c.range.isVisible scope cursor := by
  rw [Program.candidates, Scope.walk_eq, List.flatMap_cons, List.flatMap_nil, List.append_nil]

theorem isVisible_of_mem_candidates (h : c ∈ p.candidates scope cursor) :
    c.range.isVisible scope cursor = true := by
  rw [candidates_eq] at h
  exact (List.mem_filter.1 h).2

/-- A query finds a visible candidate as often as it occurs in the program. -/
theorem count_candidates (h : c.range.isVisible scope cursor = true) :
    (p.candidates scope cursor).count c = (p.root.references.map Prod.snd).count c := by
  rw [candidates_eq]
  exact List.count_filter h

end Query

/-! ### What a query finds -/

/-- The node at an address is an identifier or a member access at a location, no member access
encloses it, it starts at or after the start of the scope, and it ends on a line above the cursor.
Lines of a location count from 1, and a line 0 stands for the first. -/
structure IsVisible (p : Program) (scope : ScopeStart) (cursor : UInt32) (a : Address) (n : Node)
    (l : SourceLocation) : Prop where
  found : p.root.at? a = some n
  reference : n.reference? = some l
  outermost : p.root.IsOutermost a
  inScope : scope.line.toNat < l.start.line.toNat - 1 ∨
    scope.line.toNat = l.start.line.toNat - 1 ∧ scope.column.toNat ≤ l.start.column.toNat
  aboveCursor : l.stop.line.toNat - 1 < cursor.toNat

/-- A candidate has the text of a node and its location, with lines from 0. -/
structure Candidate.Describes (c : Candidate) (n : Node) (l : SourceLocation) : Prop where
  expression : c.expression = n.render
  startLine : c.range.startLine.toNat = l.start.line.toNat - 1
  startColumn : c.range.startColumn = l.start.column
  endLine : c.range.endLine.toNat = l.stop.line.toNat - 1
  endColumn : c.range.endColumn = l.stop.column

theorem Candidate.describes_mk (n : Node) (l : SourceLocation) :
    (⟨n.render, .ofLocation l⟩ : Candidate).Describes n l :=
  ⟨rfl, toNat_previousLine _, rfl, toNat_previousLine _, rfl⟩

/-- An outermost expression with a visible range is visible where it stands. -/
theorem mem_references_and_isVisible_iff {p : Program} {scope : ScopeStart} {cursor : UInt32}
    {a : Address} :
    (∃ c, (a, c) ∈ p.root.references ∧ c.range.isVisible scope cursor = true) ↔
      ∃ n l, IsVisible p scope cursor a n l := by
  constructor
  · rintro ⟨c, hmem, hvisible⟩
    obtain ⟨n, l, hn, hl, houtermost, rfl⟩ := Node.mem_references_iff.1 hmem
    obtain ⟨hscope, hcursor⟩ := SourceRange.isVisible_iff.1 hvisible
    simp only [SourceRange.ofLocation, toNat_previousLine] at hscope hcursor
    exact ⟨n, l, hn, hl, houtermost, hscope, hcursor⟩
  · rintro ⟨n, l, h⟩
    refine ⟨_, Node.mem_references_iff.2 ⟨n, l, h.found, h.reference, h.outermost, rfl⟩, ?_⟩
    refine SourceRange.isVisible_iff.2 ⟨?_, ?_⟩ <;>
      simp only [SourceRange.ofLocation, toNat_previousLine]
    · exact h.inScope
    · exact h.aboveCursor

/-- Only a node that is neither an identifier nor a member access nor a literal stands strictly
above an outermost place. -/
theorem Node.IsOutermost.exists_other {root n : Node} {a b : Address} (h : root.IsOutermost a)
    (ha : root.at? a = some n) (habove : b <+: a) (hne : b ≠ a) :
    ∃ kind l children, root.at? b = some (.other kind l children) := by
  obtain ⟨_ | ⟨i, below⟩, rfl⟩ := habove
  · exact absurd (List.append_nil b).symm hne
  · rw [at?_append] at ha
    obtain ⟨m, hm, hbelow⟩ := Option.bind_eq_some_iff.1 ha
    have hmember := h b m (List.prefix_append _ _) hne hm
    cases m with
    | identifier name l => simp [at?, Node.children] at hbelow
    | literal value l => simp [at?, Node.children] at hbelow
    | member object property computed l => cases hmember
    | other kind l children => exact ⟨kind, l, children, hm⟩

/-- The candidates of a program for a scope and a cursor line are its visible expressions, each
once, in source order, with their texts and ranges.  What stands below an identifier, a member
access or a literal is never among them. -/
theorem candidates_are_visible_expressions (p : Program) (scope : ScopeStart) (cursor : UInt32) :
    ∃ places : List Address,
      places.Pairwise (· < ·) ∧
      (∀ a, a ∈ places ↔ ∃ n l, IsVisible p scope cursor a n l) ∧
      List.Forall₂ (fun a c => ∃ n l, p.root.at? a = some n ∧ n.reference? = some l ∧
        c.Describes n l) places (p.candidates scope cursor) ∧
      ∀ a ∈ places, ∀ b, b <+: a → b ≠ a →
        ∃ kind l children, p.root.at? b = some (.other kind l children) := by
  let found := p.root.references.filter fun r => r.2.range.isVisible scope cursor
  have hmem (a : Address) : a ∈ found.map Prod.fst ↔ ∃ n l, IsVisible p scope cursor a n l := by
    rw [← mem_references_and_isVisible_iff]
    simp [found]
  refine ⟨found.map Prod.fst, ?sorted, hmem, ?described, ?above⟩
  case sorted =>
    rw [List.pairwise_map]
    exact p.root.pairwise_references.sublist List.filter_sublist
  case described =>
    have hcandidates : p.candidates scope cursor = found.map Prod.snd := by
      rw [candidates_eq, List.filter_map]
      rfl
    rw [hcandidates, List.forall₂_map_left_iff, List.forall₂_map_right_iff, List.forall₂_same]
    intro r hr
    obtain ⟨n, l, hn, hl, -, hc⟩ := Node.mem_references_iff.1 (List.mem_of_mem_filter hr)
    exact ⟨n, l, hn, hl, hc ▸ Candidate.describes_mk n l⟩
  case above =>
    intro a ha b habove hne
    obtain ⟨n, l, h⟩ := (hmem a).1 ha
    exact h.outermost.exists_other h.found habove hne

/-! ### Queries compared -/

/-- A range that is visible from a later scope and above an earlier line is visible from the earlier
scope and above the later line. -/
theorem SourceRange.isVisible_mono {r : SourceRange} {scope scope' : ScopeStart}
    {cursor cursor' : UInt32}
    (hscope : scope.line < scope'.line ∨ scope.line = scope'.line ∧ scope.column ≤ scope'.column)
    (hcursor : cursor' ≤ cursor) (h : r.isVisible scope' cursor' = true) :
    r.isVisible scope cursor = true := by
  rw [isVisible_iff] at h ⊢
  simp only [UInt32.lt_iff_toNat_lt, UInt32.le_iff_toNat_le, ← UInt32.toNat_inj] at hscope hcursor
  omega

/-- A query from a later scope or above an earlier line selects from what the wider query selects,
in the same order and each candidate as often, and what is tracked for it is tracked for the wider
query. -/
theorem narrower_query_selects_sublist {p : Program} {scope scope' : ScopeStart}
    {cursor cursor' : UInt32}
    (hscope : scope.line < scope'.line ∨ scope.line = scope'.line ∧ scope.column ≤ scope'.column)
    (hcursor : cursor' ≤ cursor) :
    (p.candidates scope' cursor').Sublist (p.candidates scope cursor) ∧
    (∀ c ∈ p.candidates scope' cursor',
      (p.candidates scope' cursor').count c = (p.candidates scope cursor).count c) ∧
    (TrackedExpressions.ofCandidates (p.candidates scope' cursor')).expressions ⊆
      (TrackedExpressions.ofCandidates (p.candidates scope cursor)).expressions := by
  have hmono (c : Candidate) (h : c.range.isVisible scope' cursor' = true) :
      c.range.isVisible scope cursor = true := SourceRange.isVisible_mono hscope hcursor h
  have hsublist : (p.candidates scope' cursor').Sublist (p.candidates scope cursor) := by
    rw [candidates_eq, candidates_eq]
    exact List.monotone_filter_right _ hmono
  refine ⟨hsublist, fun c hc => ?_, fun expression h => ?_⟩
  · have hvisible : c.range.isVisible scope' cursor' = true := isVisible_of_mem_candidates hc
    rw [count_candidates hvisible, count_candidates (hmono c hvisible)]
  · rw [TrackedExpressions.expressions_ofCandidates, List.mem_eraseDups] at h ⊢
    exact (hsublist.map Candidate.expression).subset h

/-- A function of `x` whose body declares `y` from `x` and from a member of it. -/
def sampleFunction : Program where
  root :=
    let place (line column width : UInt32) : SourceLocation :=
      ⟨⟨line, column⟩, ⟨line, column + width⟩⟩
    .other "FunctionDeclaration" none
      [.identifier "f" (place 1 9 1), .identifier "x" (place 1 11 1),
        .other "VariableDeclarator" none
          [.identifier "y" (place 2 6 1),
            .other "BinaryExpression" none
              [.identifier "x" (place 2 10 1),
                .member (.identifier "x" (place 2 14 1)) (.identifier "k" (place 2 16 1)) false
                  (place 2 14 3)]],
        .identifier "y" (place 3 9 1)]

theorem narrower_query_selects_sublist_sample :
    (sampleFunction.candidates ⟨0, 10⟩ 3).map Candidate.expression = ["x", "y", "x", "x.k", "y"] ∧
    (sampleFunction.candidates ⟨1, 7⟩ 2).map Candidate.expression = ["x", "x.k"] ∧
    (sampleFunction.candidates ⟨1, 7⟩ 2).Sublist (sampleFunction.candidates ⟨0, 10⟩ 3) := by
  refine ⟨?wide, ?narrow, ?sublist⟩
  case wide =>
    rw [candidates_eq]
    decide
  case narrow =>
    rw [candidates_eq]
    decide
  case sublist => exact (narrower_query_selects_sublist (by decide) (by decide)).1

end ValueTrace
