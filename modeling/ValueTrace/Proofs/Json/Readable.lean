import Mathlib.Data.List.Nodup
import ValueTrace.Proofs.Json.Reading

/-!
# The values that texts denote

A value that was read from a text is not just any value: its integers have 64 bits, its objects name
each member once, and its containers are nested no deeper than the reader goes.  Such a value is
that of the document which it makes (`Value.IsReadable.value?_ofValue`).

## Main definitions

* `Document.IsReadable`, `Value.IsReadable` : documents and values that are read inside so many
  containers fewer than the reader can represent.

## Main results

* `Document.isReadable_of_read` : what is read within a limit.
* `Document.IsReadable.value` : the value of what is read.
* `Value.IsReadable.value?_ofValue` : the document of a value has that value.
-/

namespace ValueTrace.Json

/-- Documents whose numbers are readable and whose containers are nested at most so deep. -/
inductive Document.IsReadable : Nat → Document → Prop
  | null {depth} : IsReadable depth .null
  | bool {depth b} : IsReadable depth (.bool b)
  | number {depth n} (h : n.IsReadable) : IsReadable depth (.number n)
  | string {depth s} : IsReadable depth (.string s)
  | array {depth items closed} (h : ∀ d ∈ items, IsReadable depth d) :
      IsReadable (depth + 1) (.array items closed)
  | object {depth members closed} (h : ∀ m ∈ members, IsReadable depth m.2) :
      IsReadable (depth + 1) (.object members closed)
  | unrepresentable {depth} : IsReadable depth .unrepresentable
  | broken {depth} : IsReadable depth .broken

/-- Values whose numbers are readable, whose objects name each member once, and whose containers are
nested at most so deep. -/
inductive Value.IsReadable : Nat → Value → Prop
  | null {depth} : IsReadable depth .null
  | bool {depth b} : IsReadable depth (.bool b)
  | number {depth n} (h : n.IsReadable) : IsReadable depth (.number n)
  | string {depth s} : IsReadable depth (.string s)
  | array {depth items} (h : ∀ v ∈ items, IsReadable depth v) :
      IsReadable (depth + 1) (.array items)
  | object {depth} {members : List (String × Value)} (hnames : (members.map Prod.fst).Nodup)
      (h : ∀ m ∈ members, IsReadable depth m.2) : IsReadable (depth + 1) (.object members)

/-- A whole document that is read within a limit is nested no deeper. -/
theorem Document.isReadable_of_read {bound : Nat} {text : String} {d : Document}
    (h : Document.read (some bound) text = (d, true)) : d.IsReadable bound := by
  have hroom {depth : Nat} (h : IsWithin (some bound) (depth + 1)) :
      bound - depth = bound - (depth + 1) + 1 := by
    have := h bound rfl
    omega
  refine Document.read_of_isHereditary (P := fun depth d => d.IsReadable (bound - depth)) ?_ h
  exact {
    null := fun _ => .null
    bool := fun _ _ => .bool
    number := fun _ _ hn => .number hn
    string := fun _ _ => .string
    unrepresentable := fun _ => .unrepresentable
    array := fun hdepth h => by rw [hroom hdepth]; exact .array h
    object := fun hdepth h => by rw [hroom hdepth]; exact .object h }

/-! ### Values of documents -/

section Members

variable {α : Type} {name : String} {a : α} {members : List (String × α)}

theorem mem_insertMember {m : String × α} (h : m ∈ insertMember name a members) :
    m = (name, a) ∨ m ∈ members := by
  induction members with
  | nil => exact Or.inl (List.mem_singleton.1 h)
  | cons first members ih =>
    rw [insertMember] at h
    split at h
    · rename_i hname
      rcases List.mem_cons.1 h with rfl | hmem
      · exact Or.inl (congrArg (·, a) hname)
      · exact Or.inr (List.mem_cons_of_mem _ hmem)
    · rcases List.mem_cons.1 h with rfl | hmem
      · exact Or.inr List.mem_cons_self
      · exact (ih hmem).imp_right (List.mem_cons_of_mem _)

/-- A name that is not there comes last. -/
theorem insertMember_of_not_mem (h : name ∉ members.map Prod.fst) :
    insertMember name a members = members ++ [(name, a)] := by
  induction members with
  | nil => rfl
  | cons first members ih =>
    rw [List.map_cons, List.mem_cons, not_or] at h
    rw [insertMember, if_neg (Ne.symm h.1), ih h.2, List.cons_append]

/-- A name that is there keeps its place. -/
theorem map_fst_insertMember_of_mem (h : name ∈ members.map Prod.fst) :
    (insertMember name a members).map Prod.fst = members.map Prod.fst := by
  induction members with
  | nil => cases h
  | cons first members ih =>
    rw [insertMember]
    split
    · rfl
    · rename_i hname
      rw [List.map_cons, List.mem_cons] at h
      rw [List.map_cons, List.map_cons, ih (h.resolve_left (Ne.symm hname))]

theorem nodup_insertMember (h : (members.map Prod.fst).Nodup) :
    ((insertMember name a members).map Prod.fst).Nodup := by
  by_cases hname : name ∈ members.map Prod.fst
  · rwa [map_fst_insertMember_of_mem hname]
  · rw [insertMember_of_not_mem hname, List.map_append, List.nodup_append]
    refine ⟨h, List.nodup_singleton _, ?_⟩
    intro other hother self hself heq
    rw [heq, List.mem_singleton.1 hself] at hother
    exact hname hother

end Members

namespace Document

theorem items?_eq_some {items : List Document} {values : List Value}
    (h : items? items = some values) {v : Value} (hv : v ∈ values) :
    ∃ d ∈ items, d.value? = some v := by
  induction items generalizing values with
  | nil =>
    obtain rfl := Option.some.inj h
    cases hv
  | cons d items ih =>
    rw [items?] at h
    cases hd : d.value? with
    | none => simp [hd] at h
    | some w =>
      simp only [hd] at h
      obtain ⟨rest, hrest, rfl⟩ := Option.map_eq_some_iff.1 h
      rcases List.mem_cons.1 hv with rfl | hmem
      · exact ⟨d, List.mem_cons_self, hd⟩
      · obtain ⟨d', hd', hv'⟩ := ih hrest hmem
        exact ⟨d', List.mem_cons_of_mem _ hd', hv'⟩

/-- Members are collected without repeating a name, and each has its value from some member. -/
theorem members?_eq_some {members : List (Option String × Document)}
    {collected values : List (String × Value)} (h : members? members collected = some values)
    (hnames : (collected.map Prod.fst).Nodup) :
    (values.map Prod.fst).Nodup ∧
      ∀ v ∈ values, v ∈ collected ∨ ∃ m ∈ members, m.2.value? = some v.2 := by
  induction members generalizing collected with
  | nil =>
    obtain rfl := Option.some.inj h
    exact ⟨hnames, fun v hv => Or.inl hv⟩
  | cons m members ih =>
    obtain ⟨_ | name, d⟩ := m
    · cases h
    rw [members?] at h
    cases hd : d.value? with
    | none => simp [hd] at h
    | some w =>
      simp only [hd] at h
      obtain ⟨hnodup, hfrom⟩ := ih h (nodup_insertMember hnames)
      refine ⟨hnodup, fun v hv => ?_⟩
      rcases hfrom v hv with hmem | ⟨m, hm, hvalue⟩
      · rcases mem_insertMember hmem with rfl | hmem
        · exact Or.inr ⟨_, List.mem_cons_self, hd⟩
        · exact Or.inl hmem
      · exact Or.inr ⟨m, List.mem_cons_of_mem _ hm, hvalue⟩

/-- The value of what is read is readable. -/
theorem IsReadable.value {depth : Nat} {d : Document} (h : d.IsReadable depth) {v : Value}
    (hv : d.value? = some v) : v.IsReadable depth := by
  induction h generalizing v with
  | null =>
    obtain rfl := Option.some.inj hv
    exact .null
  | bool =>
    obtain rfl := Option.some.inj hv
    exact .bool
  | number h =>
    obtain rfl := Option.some.inj hv
    exact .number h
  | string =>
    obtain rfl := Option.some.inj hv
    exact .string
  | @array depth items closed h ih =>
    rw [value?] at hv
    split at hv
    · obtain ⟨values, hvalues, rfl⟩ := Option.map_eq_some_iff.1 hv
      refine .array fun w hw => ?_
      obtain ⟨d, hd, hdw⟩ := items?_eq_some hvalues hw
      exact ih d hd hdw
    · cases hv
  | @object depth members closed h ih =>
    rw [value?] at hv
    split at hv
    · obtain ⟨values, hvalues, rfl⟩ := Option.map_eq_some_iff.1 hv
      obtain ⟨hnames, hfrom⟩ := members?_eq_some hvalues List.nodup_nil
      refine .object hnames fun w hw => ?_
      obtain ⟨m, hm, hmw⟩ := (hfrom w hw).resolve_left List.not_mem_nil
      exact ih m hm hmw
    · cases hv
  | unrepresentable => cases hv
  | broken => cases hv

theorem items?_ofItems {values : List Value} (h : ∀ v ∈ values, (ofValue v).value? = some v) :
    items? (ofItems values) = some values := by
  induction values with
  | nil => rfl
  | cons v values ih =>
    obtain ⟨hv, hvalues⟩ := List.forall_mem_cons.1 h
    simp [ofItems, items?, hv, ih hvalues]

/-- Members of different names are collected in their order. -/
theorem members?_ofMembers {members collected : List (String × Value)}
    (h : ∀ m ∈ members, (ofValue m.2).value? = some m.2)
    (hnames : ((collected ++ members).map Prod.fst).Nodup) :
    members? (ofMembers members) collected = some (collected ++ members) := by
  induction members generalizing collected with
  | nil => simp [ofMembers, members?]
  | cons m members ih =>
    obtain ⟨name, v⟩ := m
    obtain ⟨hv, hmembers⟩ := List.forall_mem_cons.1 h
    have hname : name ∉ collected.map Prod.fst := by
      rw [List.map_append, List.nodup_append] at hnames
      exact fun hmem => hnames.2.2 name hmem name List.mem_cons_self rfl
    have hsplit : collected ++ (name, v) :: members = collected ++ [(name, v)] ++ members :=
      List.append_cons ..
    rw [hsplit] at hnames ⊢
    simp only [ofMembers, members?, hv, insertMember_of_not_mem hname]
    exact ih hmembers hnames

end Document

/-- The document that a readable value makes has that value. -/
theorem Value.IsReadable.value?_ofValue {depth : Nat} {v : Value} (h : v.IsReadable depth) :
    (Document.ofValue v).value? = some v := by
  induction h with
  | null | bool | number | string => rfl
  | array h ih => simp [Document.ofValue, Document.value?, Document.items?_ofItems ih]
  | @object _ members hnames h ih =>
    have hmembers : Document.members? (Document.ofMembers members) [] = some members :=
      Document.members?_ofMembers ih hnames
    simp [Document.ofValue, Document.value?, hmembers]

end ValueTrace.Json
