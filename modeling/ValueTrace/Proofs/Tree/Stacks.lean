import ValueTrace.Proofs.Tree.Descent

/-!
# The stacks of the reader never run dry

Between two turns of its loop the reader of syntax trees has a stack of tasks and a stack of built
nodes.  A task that joins or gathers takes nodes that tasks before it have left there, and nothing
on the stacks says that they are there or that they are its own.  Here they are: what each pending
task will find is said along the tasks (`Tree.Served`), every turn keeps it, and so the operands
of a member access and the children of any other node are on top when their turn comes.  The
tasks weigh less with every turn, so the loop ends, and then one node is left.

## Main definitions

* `Tree.Stacks`, `Tree.Stacks.turn`, `Tree.turns` : the loop, one task at a time.
* `Tree.AreOperands`, `Tree.AreChildren` : the nodes that a task is to take.
* `Tree.Served` : every pending task finds the nodes that it takes.

## Main results

* `Tree.Stacks.run_eq_turn` : the reader is this loop.
* `Tree.Served.turn` : a turn keeps every pending task served.
* `Tree.stacks_never_underflow` : what is on the stacks at every turn, and at the end.
-/

namespace ValueTrace

open Json (Value findMember)

namespace Tree

/-! ### The loop -/

/-- The two stacks between two turns of the loop, what is on top first. -/
structure Stacks where
  tasks : List Task
  built : List Node

/-- The stacks before the first turn. -/
def Stacks.start (v : Value) : Stacks := ⟨[.visit v []], []⟩

/-- One turn of the loop, which does the task on top.  Without tasks the stacks stay. -/
def Stacks.turn (s : Stacks) : Except TreeError Stacks :=
  match s.tasks with
  | [] => .ok s
  | .visit v path :: tasks =>
    match visit v path with
    | .error e => .error e
    | .ok (.leaf node) => .ok ⟨tasks, node :: s.built⟩
    | .ok (.composite more) => .ok ⟨more ++ tasks, s.built⟩
  | .join members path :: tasks => do
    let built ← join members path s.built
    return ⟨tasks, built⟩
  | .gather members kind path count :: tasks => do
    let built ← gather members kind path count s.built
    return ⟨tasks, built⟩

/-- The stacks after so many turns. -/
def turns : Nat → Stacks → Except TreeError Stacks
  | 0, s => .ok s
  | n + 1, s => s.turn >>= turns n

variable {s s' : Stacks} {v : Value} {path : Path} {tasks more : List Task} {built : List Node}

/-- As long as there are tasks, the reader takes a turn and goes on. -/
theorem Stacks.run_eq_turn (h : s.tasks ≠ []) :
    run s.tasks s.built = s.turn >>= fun next => run next.tasks next.built := by
  obtain ⟨tasks, built⟩ := s
  cases tasks with
  | nil => exact absurd rfl h
  | cons task tasks =>
    cases task with
    | visit v path =>
      cases hvisit : visit v path with
      | error e =>
        rw [run_of_visit_eq_error hvisit]
        simp only [turn, hvisit]
        rfl
      | ok visited =>
        cases visited with
        | leaf node =>
          rw [run_of_visit_eq_leaf hvisit]
          simp only [turn, hvisit]
          rfl
        | composite more =>
          rw [run_of_visit_eq_composite hvisit]
          simp only [turn, hvisit]
          rfl
    | join members path =>
      rw [run]
      simp only [turn]
      cases join members path built <;> rfl
    | gather members kind path count =>
      rw [run]
      simp only [turn]
      cases gather members kind path count built <;> rfl

/-- What a turn leaves to do is done in the end with the same answer. -/
theorem Stacks.run_turn (h : s.turn = .ok s') : run s'.tasks s'.built = run s.tasks s.built := by
  cases htasks : s.tasks with
  | nil =>
    rw [turn, htasks] at h
    rw [← Except.ok.inj h, htasks]
  | cons task tasks =>
    have hne : s.tasks ≠ [] := by
      rw [htasks]
      exact List.cons_ne_nil task tasks
    rw [← htasks, run_eq_turn hne, h]
    rfl

theorem Task.weight_pos (task : Task) : 0 < task.weight := by
  cases task with
  | visit v path =>
    have hpos := v.size_pos
    rw [weight]
    omega
  | join members path => exact Nat.one_pos
  | gather members kind path count => exact Nat.one_pos

/-- The tasks weigh less after a turn. -/
theorem Stacks.weight_turn_lt (hturn : s.turn = .ok s') (htasks : s.tasks ≠ []) :
    weight s'.tasks < weight s.tasks := by
  obtain ⟨tasks, built⟩ := s
  cases tasks with
  | nil => exact absurd rfl htasks
  | cons task tasks =>
    -- Only a visit leaves tasks behind, and these weigh less than the visit.
    have hdone : s'.tasks = tasks ∨
        ∃ more, s'.tasks = more ++ tasks ∧ weight more < task.weight := by
      cases task with
      | visit v path =>
        cases hvisit : visit v path with
        | error e =>
          simp only [turn, hvisit] at hturn
          cases hturn
        | ok visited =>
          cases visited with
          | leaf node =>
            simp only [turn, hvisit] at hturn
            rw [← Except.ok.inj hturn]
            exact .inl rfl
          | composite more =>
            simp only [turn, hvisit] at hturn
            rw [← Except.ok.inj hturn]
            exact .inr ⟨more, rfl, weight_visit_lt hvisit⟩
      | join members path =>
        obtain ⟨joined, -, h⟩ := exists_ok_of_bind hturn
        rw [← Except.ok.inj h]
        exact .inl rfl
      | gather members kind path count =>
        obtain ⟨gathered, -, h⟩ := exists_ok_of_bind hturn
        rw [← Except.ok.inj h]
        exact .inl rfl
    have hpos := task.weight_pos
    rw [weight_cons]
    rcases hdone with h | ⟨more, h, hless⟩
    · rw [h]
      omega
    · rw [h, weight_append]
      omega

/-! ### What the tasks find -/

/-- The two nodes are the operands of a member access. -/
def AreOperands (members : Members) (path : Path) (object property : Node) : Prop :=
  ∃ first second, readOperands members path = .ok (first, second) ∧
    descend (path ++ [.field "object"]) first = .ok object ∧
    descend (path ++ [.field "property"]) second = .ok property

/-- The nodes are the children of a node, in document order. -/
def AreChildren (members : Members) (path : Path) (children : List Node) : Prop :=
  descendAll (typedInMembers path (searched members)) = .ok children

/-- Whatever the tasks still build, each of them finds the nodes that it takes on top of the built
ones, and one node is left after all of them. -/
def Served : List Task → List Node → Prop
  | [], built => ∃ node, built = [node]
  | .visit v path :: tasks, built =>
    ∀ node, descend path v = .ok node → Served tasks (node :: built)
  | .join members path :: tasks, built =>
    ∃ object property rest, built = property :: object :: rest ∧
      AreOperands members path object property ∧
      ∀ location, readLocation members "MemberExpression" path = .ok location →
        Served tasks (.member object property (readComputed members) location :: rest)
  | .gather members kind path count :: tasks, built =>
    ∃ children rest, built = children.reverse ++ rest ∧ children.length = count ∧
      AreChildren members path children ∧
      ∀ location, readLocation? members kind path = .ok location →
        Served tasks (.other kind location children :: rest)

theorem served_start (v : Value) : Served (Stacks.start v).tasks (Stacks.start v).built :=
  fun node _ => ⟨node, rfl⟩

/-- Visits of some values serve what needs the nodes of all these values. -/
theorem served_visits {parts : List (Value × Path)}
    (h : ∀ nodes, descendAll parts = .ok nodes → Served tasks (nodes.reverse ++ built)) :
    Served (visits parts ++ tasks) built := by
  induction parts generalizing built with
  | nil => exact h [] descendAll_nil
  | cons part rest ih =>
    obtain ⟨v, path⟩ := part
    intro node hnode
    refine ih fun nodes hnodes => ?_
    have hall : descendAll ((v, path) :: rest) = .ok (node :: nodes) := by
      rw [descendAll_cons, hnode, hnodes]
      rfl
    simpa using h (node :: nodes) hall

variable {members : Members} {kind : String}

/-- A member access is served by the visits of its operands. -/
theorem served_member {object property : Value}
    (htype : findMember "type" members = some (.string "MemberExpression"))
    (hoperands : readOperands members path = .ok (object, property))
    (h : Served (.visit (.object members) path :: tasks) built) :
    Served (.visit object (path ++ [.field "object"]) ::
      .visit property (path ++ [.field "property"]) :: .join members path :: tasks) built := by
  intro first hfirst second hsecond
  refine ⟨first, second, built, rfl, ⟨object, property, hoperands, hfirst, hsecond⟩,
    fun location hlocation => h _ ?_⟩
  rw [descend_of_operands htype hoperands, hfirst, hsecond, hlocation]
  rfl

/-- Any other node is served by the visits of its children. -/
theorem served_other (htype : findMember "type" members = some (.string kind))
    (hidentifier : kind ≠ "Identifier") (hmember : kind ≠ "MemberExpression")
    (hliteral : kind ≠ "Literal") (h : Served (.visit (.object members) path :: tasks) built) :
    Served (visits (typedInMembers path (searched members)) ++
      .gather members kind path (typedInMembers path (searched members)).length :: tasks)
      built := by
  refine served_visits fun children hchildren => ⟨children, built, rfl,
    length_of_descendAll hchildren, hchildren, fun location hlocation => h _ ?_⟩
  rw [descend_other htype hidentifier hmember hliteral, hchildren, hlocation]
  rfl

/-- A visit reads the node or finds its fault, or it schedules the operands of a member access or
the children of any other node before that. -/
theorem visit_cases (v : Value) (path : Path) :
    visit v path = (descend path v).map .leaf ∨
    (∃ members object property, v = .object members ∧
      findMember "type" members = some (.string "MemberExpression") ∧
      readOperands members path = .ok (object, property)) ∨
    ∃ members kind, v = .object members ∧ findMember "type" members = some (.string kind) ∧
      kind ≠ "Identifier" ∧ kind ≠ "MemberExpression" ∧ kind ≠ "Literal" := by
  by_cases hobject : ∃ members, v = .object members
  case neg => exact .inl (visit_plain fun members hv => hobject ⟨members, hv⟩)
  obtain ⟨members, rfl⟩ := hobject
  by_cases htyped : ∃ kind, findMember "type" members = some (.string kind)
  case neg => exact .inl (visit_untyped fun kind htype => htyped ⟨kind, htype⟩)
  obtain ⟨kind, htype⟩ := htyped
  by_cases hidentifier : kind = "Identifier"
  case pos => exact .inl (visit_identifier (hidentifier ▸ htype))
  by_cases hliteral : kind = "Literal"
  case pos => exact .inl (visit_literal (hliteral ▸ htype))
  by_cases hmember : kind = "MemberExpression"
  case neg => exact .inr (.inr ⟨members, kind, rfl, htype, hidentifier, hmember, hliteral⟩)
  subst hmember
  cases hoperands : readOperands members path with
  | error e => exact .inl (visit_incomplete htype hoperands)
  | ok operands => exact .inr (.inl ⟨members, operands.1, operands.2, rfl, htype, hoperands⟩)

/-- The turn of a visit keeps the tasks served. -/
theorem Served.visit (h : Served (.visit v path :: tasks) built)
    (hturn : Stacks.turn ⟨.visit v path :: tasks, built⟩ = .ok s') :
    Served s'.tasks s'.built := by
  rcases visit_cases v path with hread | ⟨members, object, property, rfl, htype, hoperands⟩ |
    ⟨members, kind, rfl, htype, hidentifier, hmember, hliteral⟩
  · cases hnode : descend path v with
    | error e =>
      simp only [Stacks.turn, hread, hnode] at hturn
      cases hturn
    | ok node =>
      simp only [Stacks.turn, hread, hnode] at hturn
      rw [← Except.ok.inj hturn]
      exact h node hnode
  · simp only [Stacks.turn, visit_member htype hoperands] at hturn
    rw [← Except.ok.inj hturn]
    exact served_member htype hoperands h
  · simp only [Stacks.turn, visit_other htype hidentifier hmember hliteral] at hturn
    rw [← Except.ok.inj hturn, List.append_assoc]
    exact served_other htype hidentifier hmember hliteral h

/-- A member access whose operands are on top takes them, unless its own location is faulty. -/
theorem Stacks.turn_join (object property : Node) (rest : List Node) :
    turn ⟨.join members path :: tasks, property :: object :: rest⟩ =
      (do
        let location ← readLocation members "MemberExpression" path
        return ⟨tasks, .member object property (readComputed members) location :: rest⟩) := by
  simp only [turn, join_operands]
  cases readLocation members "MemberExpression" path <;> rfl

/-- A node whose children are on top takes all of them, unless its own location is faulty. -/
theorem Stacks.turn_gather (children rest : List Node) :
    turn ⟨.gather members kind path children.length :: tasks, children.reverse ++ rest⟩ =
      (do
        let location ← readLocation? members kind path
        return ⟨tasks, .other kind location children :: rest⟩) := by
  simp only [turn, gather_children]
  cases readLocation? members kind path <;> rfl

/-- A turn keeps every pending task served. -/
theorem Served.turn (h : Served s.tasks s.built) (hturn : s.turn = .ok s') :
    Served s'.tasks s'.built := by
  obtain ⟨tasks, built⟩ := s
  cases tasks with
  | nil =>
    rw [← Except.ok.inj hturn]
    exact h
  | cons task tasks =>
    cases task with
    | visit v path => exact h.visit hturn
    | join members path =>
      obtain ⟨object, property, rest, rfl, -, hnext⟩ := h
      rw [Stacks.turn_join] at hturn
      obtain ⟨location, hlocation, hturn⟩ := exists_ok_of_bind hturn
      rw [← Except.ok.inj hturn]
      exact hnext location hlocation
    | gather members kind path count =>
      obtain ⟨children, rest, rfl, rfl, -, hnext⟩ := h
      rw [Stacks.turn_gather] at hturn
      obtain ⟨location, hlocation, hturn⟩ := exists_ok_of_bind hturn
      rw [← Except.ok.inj hturn]
      exact hnext location hlocation

/-! ### Every turn -/

/-- Every pending task is served after any number of turns, and the answer is still the same. -/
theorem Served.turns {n : Nat} (h : Served s.tasks s.built) (hturns : turns n s = .ok s') :
    Served s'.tasks s'.built ∧ run s'.tasks s'.built = run s.tasks s.built := by
  induction n generalizing s with
  | zero =>
    rw [← Except.ok.inj hturns]
    exact ⟨h, rfl⟩
  | succ n ih =>
    obtain ⟨next, hturn, hrest⟩ := exists_ok_of_bind hturns
    obtain ⟨hserved, hrun⟩ := ih (h.turn hturn) hrest
    exact ⟨hserved, hrun.trans (Stacks.run_turn hturn)⟩

/-- Served tasks come to their end in as many turns as they weigh, with one node or a fault. -/
theorem Served.turns_eq_run {n : Nat} (h : Served s.tasks s.built) (hweight : weight s.tasks ≤ n) :
    Tree.turns n s = (run s.tasks s.built).map fun node => ⟨[], [node]⟩ := by
  induction n generalizing s with
  | zero =>
    obtain ⟨tasks, built⟩ := s
    cases tasks with
    | nil =>
      obtain ⟨node, rfl⟩ := h
      rw [run]
      rfl
    | cons task tasks =>
      have hpos := task.weight_pos
      rw [weight_cons] at hweight
      omega
  | succ n ih =>
    by_cases htasks : s.tasks = []
    · obtain ⟨tasks, built⟩ := s
      subst htasks
      exact ih h (Nat.zero_le n)
    · rw [Stacks.run_eq_turn htasks, Tree.turns]
      cases hturn : s.turn with
      | error e => rfl
      | ok next =>
        have hlighter := Stacks.weight_turn_lt hturn htasks
        exact ih (h.turn hturn) (by omega)

/-- At every turn of the loop, a member access on top of the tasks finds its property on top of
the built nodes and its object below, and any other node finds all its children there, in document
order; each takes these nodes and no others, and fails only by its own location.  When no task is
left there is one node, the answer, and this is so after at most twice as many turns as the document
has parts. -/
theorem stacks_never_underflow (v : Value) :
    (∀ n s, turns n (.start v) = .ok s →
      (∀ members path tasks, s.tasks = .join members path :: tasks →
        ∃ object property rest, s.built = property :: object :: rest ∧
          AreOperands members path object property ∧
          s.turn = do
            let location ← readLocation members "MemberExpression" path
            return ⟨tasks, .member object property (readComputed members) location :: rest⟩) ∧
      (∀ members kind path count tasks, s.tasks = .gather members kind path count :: tasks →
        ∃ children rest, s.built = children.reverse ++ rest ∧ children.length = count ∧
          AreChildren members path children ∧
          s.turn = do
            let location ← readLocation? members kind path
            return ⟨tasks, .other kind location children :: rest⟩) ∧
      (s.tasks = [] → ∃ node, s.built = [node] ∧ Node.ofValue? v = .ok node) ∧
      run s.tasks s.built = Node.ofValue? v) ∧
    turns (2 * v.size) (.start v) = (Node.ofValue? v).map fun node => ⟨[], [node]⟩ := by
  refine ⟨fun n s hturns => ?_, ?_⟩
  · obtain ⟨hserved, hrun⟩ := (served_start v).turns hturns
    obtain ⟨tasks, built⟩ := s
    refine ⟨?_, ?_, ?_, hrun⟩
    · rintro members path tasks rfl
      obtain ⟨object, property, rest, rfl, hoperands, -⟩ := hserved
      exact ⟨object, property, rest, rfl, hoperands, Stacks.turn_join object property rest⟩
    · rintro members kind path count tasks rfl
      obtain ⟨children, rest, rfl, rfl, hchildren, -⟩ := hserved
      exact ⟨children, rest, rfl, rfl, hchildren, Stacks.turn_gather children rest⟩
    · rintro rfl
      obtain ⟨node, rfl⟩ := hserved
      refine ⟨node, rfl, ?_⟩
      rw [Node.ofValue?]
      exact hrun.symm.trans (by rw [run])
  · refine (served_start v).turns_eq_run ?_
    rw [Stacks.start, weight_cons, weight_nil]
    exact Nat.le_refl _

end Tree

end ValueTrace
