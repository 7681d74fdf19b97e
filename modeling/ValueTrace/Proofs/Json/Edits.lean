import Mathlib.Data.List.Perm.Basic
import ValueTrace.Proofs.Json.Records

/-!
# Values that newer writers write

A writer that knows more than the reader adds members of which the reader knows nothing, and it may
list the members of an object in another order.  It may do so wherever a record is read, in fields
of fields and in items of lists, but not in data that is read as it is.  Typed data read from the
value does not change (`Edit.decode`).

## Main definitions

* `Record.Reads` : the fields of a record.
* `Edit` : one change by a newer writer, at any depth, of a value that is read with some decoder.

## Main results

* `Record.takeMembers_perm` : the order of members does not matter.
* `Edit.decode` : the same data is read after a change.
-/

namespace ValueTrace.Json

variable {α β : Type} {origin : Origin} {d d' : Document}

namespace Record

variable {r r' : Record α} {place : Nat} {name other : String} {read : Decoder β}

/-- The field at a place of a record has the given name and is read with the given decoder. -/
inductive Reads (place : Nat) (name : String) (read : Decoder β) : {γ : Type} → Record γ → Prop
  | last {γ : Type} {earlier : Record (β → γ)} {unnamed unlisted slot : Option β}
      (hplace : place = earlier.arity) :
      Reads place name read (.field earlier name read unnamed unlisted slot)
  | earlier {γ δ : Type} {r : Record (δ → γ)} {other : String} {read' : Decoder δ}
      {unnamed unlisted slot : Option δ} (hother : other ≠ name) (h : Reads place name read r) :
      Reads place name read (.field r other read' unnamed unlisted slot)

theorem Reads.lt_arity (h : Reads place name read r) : place < r.arity := by
  induction h with
  | last hplace =>
    rw [hplace, arity]
    exact Nat.lt_succ_self _
  | earlier hother h ih =>
    rw [arity]
    omega

theorem Reads.mem_names (h : Reads place name read r) : name ∈ r.names := by
  induction h with
  | last hplace => exact List.mem_cons_self
  | earlier hother h ih => exact List.mem_cons_of_mem _ ih

theorem arity_offer (h : r.offer origin name d = .ok r') : r'.arity = r.arity := by
  rw [arity_eq, arity_eq, labels, names_offer h, labels]

/-- A record that takes a member has the same fields. -/
theorem Reads.offer (h : Reads place name read r) (hoffer : r.offer origin other d = .ok r') :
    Reads place name read r' := by
  induction h with
  | last hplace =>
    rcases offer_field_eq_ok_iff.1 hoffer with ⟨-, -, b, -, rfl⟩ | ⟨-, e, he, rfl⟩
    · exact .last hplace
    · exact .last (hplace.trans (arity_offer he).symm)
  | earlier hother h ih =>
    rcases offer_field_eq_ok_iff.1 hoffer with ⟨-, -, b, -, rfl⟩ | ⟨-, e, he, rfl⟩
    · exact .earlier hother h
    · exact .earlier hother (ih he)

/-- A field takes from one document what it takes from another one that is read alike. -/
theorem Reads.offer_congr (h : Reads place name read r)
    (hread : ∀ b, read origin d = .ok b → read origin d' = .ok b)
    (hoffer : r.offer origin name d = .ok r') : r.offer origin name d' = .ok r' := by
  induction h with
  | last hplace =>
    rcases offer_field_eq_ok_iff.1 hoffer with ⟨-, hslot, b, hb, rfl⟩ | ⟨hname, -⟩
    · exact offer_field_eq_ok_iff.2 (Or.inl ⟨rfl, hslot, b, hread b hb, rfl⟩)
    · exact absurd rfl hname
  | earlier hother h ih =>
    rcases offer_field_eq_ok_iff.1 hoffer with ⟨hname, -⟩ | ⟨-, e, he, rfl⟩
    · exact absurd hname hother
    · exact offer_field_eq_ok_iff.2 (Or.inr ⟨hother, e, ih he, rfl⟩)

/-- A field takes one document only. -/
theorem not_offer_twice {r₁ r₂ : Record α} (hname : name ∈ r.names)
    (h₁ : r.offer origin name d = .ok r₁) : r₁.offer origin name d' ≠ .ok r₂ := by
  intro h₂
  induction r with
  | make value => cases hname
  | field earlier n read unnamed unlisted slot ih =>
    rcases offer_field_eq_ok_iff.1 h₁ with ⟨hn, -, b, -, rfl⟩ | ⟨hn, e₁, he₁, rfl⟩
    · rcases offer_field_eq_ok_iff.1 h₂ with ⟨-, hslot, -⟩ | ⟨hother, -⟩
      · cases hslot
      · exact hother hn
    · rcases offer_field_eq_ok_iff.1 h₂ with ⟨hself, -⟩ | ⟨-, e₂, he₂, -⟩
      · exact hn hself
      · exact ih ((List.mem_cons.1 hname).resolve_left (Ne.symm hn)) he₁ he₂

/-- Members of different names are taken in any order. -/
theorem offer_comm {r₁ r₂ : Record α} (hne : name ≠ other)
    (h₁ : r.offer origin name d = .ok r₁) (h₂ : r₁.offer origin other d' = .ok r₂) :
    ∃ r', r.offer origin other d' = .ok r' ∧ r'.offer origin name d = .ok r₂ := by
  induction r with
  | make value =>
    obtain rfl := Except.ok.inj h₁
    obtain rfl := Except.ok.inj h₂
    exact ⟨_, rfl, rfl⟩
  | field earlier n read unnamed unlisted slot ih =>
    rcases offer_field_eq_ok_iff.1 h₁ with ⟨rfl, rfl, b, hb, rfl⟩ | ⟨hname, e₁, he₁, rfl⟩
    · -- The last field takes the first member, so an earlier field takes the second one.
      rcases offer_field_eq_ok_iff.1 h₂ with ⟨hother, -⟩ | ⟨hother, e, he, rfl⟩
      · exact absurd hother hne
      · exact ⟨_, offer_field_eq_ok_iff.2 (Or.inr ⟨hother, e, he, rfl⟩),
          offer_field_eq_ok_iff.2 (Or.inl ⟨rfl, rfl, b, hb, rfl⟩)⟩
    · rcases offer_field_eq_ok_iff.1 h₂ with ⟨rfl, rfl, b, hb, rfl⟩ | ⟨hother, e₂, he₂, rfl⟩
      · exact ⟨_, offer_field_eq_ok_iff.2 (Or.inl ⟨rfl, rfl, b, hb, rfl⟩),
          offer_field_eq_ok_iff.2 (Or.inr ⟨hname, e₁, he₁, rfl⟩)⟩
      · obtain ⟨e, he, he'⟩ := ih he₁ he₂
        exact ⟨_, offer_field_eq_ok_iff.2 (Or.inr ⟨hother, e, he, rfl⟩),
          offer_field_eq_ok_iff.2 (Or.inr ⟨hname, e₂, he', rfl⟩)⟩

/-! ### Members -/

section Members

variable {members members' before after : List (Option String × Document)} {filled : Record α}

/-- A member is taken by the field of its name, or it is passed over. -/
theorem takeMembers_cons_eq_ok_iff :
    r.takeMembers origin ((some name, d) :: members) = .ok filled ↔
      name ∈ r.names ∧
          (∃ r', r.offer origin name d = .ok r' ∧ r'.takeMembers origin members = .ok filled) ∨
        name ∉ r.names ∧ d.intact = true ∧ r.takeMembers origin members = .ok filled := by
  rw [takeMembers]
  by_cases hname : name ∈ r.names
  · rw [if_pos ((declares_iff r).2 hname)]
    cases r.offer origin name d <;> simp [hname]
  · rw [if_neg (mt (declares_iff r).1 hname)]
    cases d.intact <;> simp [hname]

/-- Members are taken one after the other. -/
theorem takeMembers_append :
    r.takeMembers origin (before ++ after) = .ok filled ↔
      ∃ r', r.takeMembers origin before = .ok r' ∧ r'.takeMembers origin after = .ok filled := by
  induction before generalizing r with
  | nil => simp [takeMembers]
  | cons m before ih =>
    obtain ⟨_ | name, d⟩ := m
    · simp [takeMembers]
    · simp only [List.cons_append, takeMembers_cons_eq_ok_iff, ih]
      constructor
      · rintro (⟨hname, r', hoffer, e, he, hafter⟩ | ⟨hname, hintact, e, he, hafter⟩)
        · exact ⟨e, Or.inl ⟨hname, r', hoffer, he⟩, hafter⟩
        · exact ⟨e, Or.inr ⟨hname, hintact, he⟩, hafter⟩
      · rintro ⟨e, ⟨hname, r', hoffer, he⟩ | ⟨hname, hintact, he⟩, hafter⟩
        · exact Or.inl ⟨hname, r', hoffer, e, he, hafter⟩
        · exact Or.inr ⟨hname, hintact, e, he, hafter⟩

theorem names_takeMembers (h : r.takeMembers origin members = .ok filled) :
    filled.names = r.names := by
  induction members generalizing r with
  | nil =>
    obtain rfl := Except.ok.inj h
    rfl
  | cons m members ih =>
    obtain ⟨_ | name, d⟩ := m
    · cases h
    · rcases takeMembers_cons_eq_ok_iff.1 h with ⟨-, r', hoffer, hrest⟩ | ⟨-, -, hrest⟩
      · rw [ih hrest, names_offer hoffer]
      · exact ih hrest

theorem Reads.takeMembers (h : Reads place name read r)
    (htake : r.takeMembers origin members = .ok filled) : Reads place name read filled := by
  induction members generalizing r with
  | nil =>
    obtain rfl := Except.ok.inj htake
    exact h
  | cons m members ih =>
    obtain ⟨_ | name, d⟩ := m
    · cases htake
    · rcases takeMembers_cons_eq_ok_iff.1 htake with ⟨-, r', hoffer, hrest⟩ | ⟨-, -, hrest⟩
      · exact ih (h.offer hoffer) hrest
      · exact ih h hrest

/-- Two members are taken in any order. -/
theorem takeMembers_swap {m m' : Option String × Document}
    (h : r.takeMembers origin (m :: m' :: members) = .ok filled) :
    r.takeMembers origin (m' :: m :: members) = .ok filled := by
  obtain ⟨_ | name, d⟩ := m
  · cases h
  obtain ⟨_ | other, d'⟩ := m'
  · rcases takeMembers_cons_eq_ok_iff.1 h with ⟨-, _, -, hrest⟩ | ⟨-, -, hrest⟩ <;> cases hrest
  simp only [takeMembers_cons_eq_ok_iff] at h ⊢
  rcases h with ⟨hname, r₁, hoffer, hrest⟩ | ⟨hname, hintact, hrest⟩
  · rw [names_offer hoffer] at hrest
    rcases hrest with ⟨hother, r₂, hoffer', hrest⟩ | ⟨hother, hintact, hrest⟩
    · -- Both are fields, and not the same one, since this takes one document only.
      have hne : name ≠ other := by
        rintro rfl
        exact not_offer_twice hname hoffer hoffer'
      obtain ⟨r', hfirst, hsecond⟩ := offer_comm hne hoffer hoffer'
      refine Or.inl ⟨hother, r', hfirst, Or.inl ⟨?_, r₂, hsecond, hrest⟩⟩
      rwa [names_offer hfirst]
    · exact Or.inr ⟨hother, hintact, Or.inl ⟨hname, r₁, hoffer, hrest⟩⟩
  · rcases hrest with ⟨hother, r₂, hoffer', hrest⟩ | ⟨hother, hintact', hrest⟩
    · refine Or.inl ⟨hother, r₂, hoffer', Or.inr ⟨?_, hintact, hrest⟩⟩
      rwa [names_offer hoffer']
    · exact Or.inr ⟨hother, hintact', Or.inr ⟨hname, hintact, hrest⟩⟩

/-- The order of members does not matter. -/
theorem takeMembers_perm (hperm : members.Perm members')
    (h : r.takeMembers origin members = .ok filled) :
    r.takeMembers origin members' = .ok filled := by
  induction hperm generalizing r with
  | nil => exact h
  | cons m hperm ih =>
    rw [← List.singleton_append, takeMembers_append] at h ⊢
    obtain ⟨r', hm, hrest⟩ := h
    exact ⟨r', hm, ih hrest⟩
  | swap m m' members => exact takeMembers_swap h
  | trans _ _ ih ih' => exact ih' (ih h)

/-- What is no field is passed over wherever it stands. -/
theorem takeMembers_undeclared_iff (hname : name ∉ r.names) (hintact : d.intact = true) :
    r.takeMembers origin (before ++ (some name, d) :: after) = .ok filled ↔
      r.takeMembers origin (before ++ after) = .ok filled := by
  rw [takeMembers_append, takeMembers_append]
  refine exists_congr fun r' => and_congr_right fun hbefore => ?_
  simp [takeMembers_cons_eq_ok_iff, names_takeMembers hbefore, hname, hintact]

/-- A field takes a member that is read alike. -/
theorem Reads.takeMembers_congr (hfield : Reads place name read r)
    (hread : ∀ b, read origin d = .ok b → read origin d' = .ok b)
    (h : r.takeMembers origin (before ++ (some name, d) :: after) = .ok filled) :
    r.takeMembers origin (before ++ (some name, d') :: after) = .ok filled := by
  rw [takeMembers_append] at h ⊢
  obtain ⟨r', hbefore, htake⟩ := h
  have hfield' := hfield.takeMembers hbefore
  refine ⟨r', hbefore, ?_⟩
  rcases takeMembers_cons_eq_ok_iff.1 htake with ⟨hname, e, hoffer, hafter⟩ | ⟨hname, -⟩
  · exact takeMembers_cons_eq_ok_iff.2
      (Or.inl ⟨hname, e, hfield'.offer_congr hread hoffer, hafter⟩)
  · exact absurd hfield'.mem_names hname

/-- An object is read alike if its members are taken alike. -/
theorem decodeMembers_congr {a : α}
    (htake : ∀ filled, r.takeMembers origin members = .ok filled →
      r.takeMembers origin members' = .ok filled) {closed : Bool}
    (h : r.decodeMembers origin members closed = .ok a) :
    r.decodeMembers origin members' closed = .ok a := by
  rw [decodeMembers] at h ⊢
  split at h
  · cases h
  · rename_i hfilled
    rw [htake _ hfilled]
    exact h

end Members

/-! ### Items -/

section Items

variable {before after : List Document}

theorem offerAt_field_eq_ok_iff {earlier : Record (β → α)} {n : String}
    {unnamed unlisted slot : Option β} :
    (field earlier n read unnamed unlisted slot).offerAt origin place d = .ok r' ↔
      place = earlier.arity ∧
          (∃ b, read origin d = .ok b ∧ field earlier n read unnamed unlisted (some b) = r') ∨
        place ≠ earlier.arity ∧
          ∃ e, earlier.offerAt origin place d = .ok e ∧
            field e n read unnamed unlisted slot = r' := by
  conv_lhs => unfold offerAt
  by_cases hplace : place = earlier.arity
  · rw [if_pos hplace]
    cases read origin d <;> simp [hplace]
  · rw [if_neg hplace]
    cases earlier.offerAt origin place d <;> simp [hplace]

theorem arity_offerAt (h : r.offerAt origin place d = .ok r') : r'.arity = r.arity := by
  induction r with
  | make value =>
    obtain rfl := Except.ok.inj h
    rfl
  | field earlier n read unnamed unlisted slot ih =>
    rcases offerAt_field_eq_ok_iff.1 h with ⟨-, b, -, rfl⟩ | ⟨-, e, he, rfl⟩
    · rfl
    · rw [arity, arity, ih he]

/-- A record that takes an item has the same fields. -/
theorem Reads.offerAt {place' : Nat} (h : Reads place name read r)
    (hoffer : r.offerAt origin place' d = .ok r') : Reads place name read r' := by
  induction h with
  | last hplace =>
    rcases offerAt_field_eq_ok_iff.1 hoffer with ⟨-, b, -, rfl⟩ | ⟨-, e, he, rfl⟩
    · exact .last hplace
    · exact .last (hplace.trans (arity_offerAt he).symm)
  | earlier hother h ih =>
    rcases offerAt_field_eq_ok_iff.1 hoffer with ⟨-, b, -, rfl⟩ | ⟨-, e, he, rfl⟩
    · exact .earlier hother h
    · exact .earlier hother (ih he)

/-- A field takes from one document what it takes from another one that is read alike. -/
theorem Reads.offerAt_congr (h : Reads place name read r)
    (hread : ∀ b, read origin d = .ok b → read origin d' = .ok b)
    (hoffer : r.offerAt origin place d = .ok r') : r.offerAt origin place d' = .ok r' := by
  induction h with
  | last hplace =>
    rcases offerAt_field_eq_ok_iff.1 hoffer with ⟨-, b, hb, rfl⟩ | ⟨hother, -⟩
    · exact offerAt_field_eq_ok_iff.2 (Or.inl ⟨hplace, b, hread b hb, rfl⟩)
    · exact absurd hplace hother
  | earlier hother h ih =>
    rcases offerAt_field_eq_ok_iff.1 hoffer with ⟨hlast, -⟩ | ⟨hplace, e, he, rfl⟩
    · exact absurd hlast (Nat.ne_of_lt h.lt_arity)
    · exact offerAt_field_eq_ok_iff.2 (Or.inr ⟨hplace, e, ih he, rfl⟩)

/-- A field takes an item that is read alike. -/
theorem Reads.takeItems_congr {start : Nat} {taken : Record α × List Document}
    (hfield : Reads (start + before.length) name read r)
    (hread : ∀ b, read origin d = .ok b → read origin d' = .ok b)
    (h : r.takeItems origin (before ++ d :: after) start = .ok taken) :
    r.takeItems origin (before ++ d' :: after) start = .ok taken := by
  induction before generalizing r start with
  | nil =>
    replace hfield : Reads start name read r := hfield
    rw [List.nil_append, takeItems, if_pos hfield.lt_arity] at h ⊢
    split at h
    · rename_i hoffer
      rw [hfield.offerAt_congr hread hoffer]
      exact h
    · cases h
  | cons first before ih =>
    rw [List.length_cons] at hfield
    have hstart : start < r.arity := by
      have := hfield.lt_arity
      omega
    rw [List.cons_append, takeItems, if_pos hstart] at h ⊢
    split at h
    · rename_i hoffer
      refine ih ?_ h
      have hfield' := hfield.offerAt hoffer
      rwa [Nat.add_comm before.length, ← Nat.add_assoc] at hfield'
    · cases h

/-- An array is read alike if one of its items is. -/
theorem Reads.decodeItems_congr {kind : String} {closed : Bool} {a : α}
    (hfield : Reads before.length name read r)
    (hread : ∀ b, read origin d = .ok b → read origin d' = .ok b)
    (h : r.decodeItems kind origin (before ++ d :: after) closed = .ok a) :
    r.decodeItems kind origin (before ++ d' :: after) closed = .ok a := by
  have hlength : (before ++ d' :: after).length = (before ++ d :: after).length := by
    rw [List.length_append, List.length_append, List.length_cons, List.length_cons]
  rw [decodeItems] at h ⊢
  split at h
  · cases h
  · rename_i htake
    rw [← Nat.zero_add before.length] at hfield
    rw [hfield.takeItems_congr hread htake, hlength]
    exact h

end Items

end Record

/-! ### Lists -/

/-- A list is read alike if one of its items is. -/
theorem Decoder.items_congr {read : Decoder α} {before after : List Document} {as : List α}
    (hread : ∀ a, read origin d = .ok a → read origin d' = .ok a)
    (h : Decoder.items read origin (before ++ d :: after) = .ok as) :
    Decoder.items read origin (before ++ d' :: after) = .ok as := by
  induction before generalizing as with
  | nil =>
    rw [List.nil_append, Decoder.items] at h ⊢
    split at h
    · cases h
    · rename_i ha
      rw [hread _ ha]
      exact h
  | cons first before ih =>
    rw [List.cons_append, Decoder.items] at h ⊢
    split at h
    · cases h
    · split at h
      · cases h
      · rename_i hrest
        rw [ih hrest]
        exact h

/-! ### Edits -/

/-- A change that a newer writer makes to a value that is read with some decoder: it adds a member
which the record does not declare, changes such a member, or lists the members in another order,
here or somewhere inside. -/
inductive Edit : {γ : Type} → Decoder γ → Value → Value → Prop
  | insert {γ : Type} {r : Record γ} {kind name : String} {before after : List (String × Value)}
      {v : Value} (hname : name ∉ r.names) :
      Edit (r.decoder kind) (.object (before ++ after)) (.object (before ++ (name, v) :: after))
  | unknown {γ : Type} {r : Record γ} {kind name : String} {before after : List (String × Value)}
      {v v' : Value} (hname : name ∉ r.names) :
      Edit (r.decoder kind) (.object (before ++ (name, v) :: after))
        (.object (before ++ (name, v') :: after))
  | permute {γ : Type} {r : Record γ} {kind : String} {members members' : List (String × Value)}
      (hperm : members.Perm members') :
      Edit (r.decoder kind) (.object members) (.object members')
  | member {γ δ : Type} {r : Record γ} {kind name : String} {place : Nat} {read : Decoder δ}
      {before after : List (String × Value)} {v v' : Value} (hfield : r.Reads place name read)
      (h : Edit read v v') :
      Edit (r.decoder kind) (.object (before ++ (name, v) :: after))
        (.object (before ++ (name, v') :: after))
  | item {γ δ : Type} {r : Record γ} {kind name : String} {read : Decoder δ}
      {before after : List Value} {v v' : Value} (hfield : r.Reads before.length name read)
      (h : Edit read v v') :
      Edit (r.decoder kind) (.array (before ++ v :: after)) (.array (before ++ v' :: after))
  | optional {γ : Type} {read : Decoder γ} {v v' : Value} (h : Edit read v v') :
      Edit read.optional v v'
  | list {γ : Type} {read : Decoder γ} {before after : List Value} {v v' : Value}
      (h : Edit read v v') :
      Edit read.list (.array (before ++ v :: after)) (.array (before ++ v' :: after))

/-- Only containers are changed. -/
theorem Edit.ofValue_ne_null {read : Decoder α} {v v' : Value} (h : Edit read v v') :
    Document.ofValue v ≠ .null ∧ Document.ofValue v' ≠ .null := by
  induction h with
  | optional h ih => exact ih
  | _ => simp [Document.ofValue]

theorem Decoder.optional_eq_ok_iff {read : Decoder α} (hnull : d ≠ .null) {a : Option α} :
    read.optional origin d = .ok a ↔ ∃ b, read origin d = .ok b ∧ some b = a := by
  unfold Decoder.optional
  split
  · exact absurd rfl hnull
  · cases read origin d <;> simp

/-- What is read after a change is what was read before. -/
theorem Edit.decode {read : Decoder α} {v v' : Value} (h : Edit read v v') {a : α}
    (ha : read origin (.ofValue v) = .ok a) : read origin (.ofValue v') = .ok a := by
  induction h with
  | insert hname =>
    refine Record.decodeMembers_congr (fun filled hfilled => ?_) ha
    rw [Document.ofMembers_eq_map, List.map_append] at hfilled ⊢
    exact (Record.takeMembers_undeclared_iff hname (Document.intact_ofValue _)).2 hfilled
  | unknown hname =>
    refine Record.decodeMembers_congr (fun filled hfilled => ?_) ha
    rw [Document.ofMembers_eq_map, List.map_append, List.map_cons] at hfilled ⊢
    rw [Record.takeMembers_undeclared_iff hname (Document.intact_ofValue _)] at hfilled ⊢
    exact hfilled
  | permute hperm =>
    refine Record.decodeMembers_congr (fun filled hfilled => ?_) ha
    rw [Document.ofMembers_eq_map] at hfilled ⊢
    exact Record.takeMembers_perm (hperm.map _) hfilled
  | member hfield h ih =>
    refine Record.decodeMembers_congr (fun filled hfilled => ?_) ha
    rw [Document.ofMembers_eq_map, List.map_append, List.map_cons] at hfilled ⊢
    exact hfield.takeMembers_congr (fun _ => ih) hfilled
  | @item _ _ r kind name read before after v v' hfield h ih =>
    rw [Document.ofValue, Document.ofItems_eq_map, List.map_append, List.map_cons] at ha ⊢
    rw [← List.length_map Document.ofValue] at hfield
    exact hfield.decodeItems_congr (fun _ => ih) ha
  | optional h ih =>
    obtain ⟨hnull, hnull'⟩ := h.ofValue_ne_null
    obtain ⟨b, hb, rfl⟩ := (Decoder.optional_eq_ok_iff hnull).1 ha
    exact (Decoder.optional_eq_ok_iff hnull').2 ⟨b, ih hb, rfl⟩
  | list h ih =>
    rw [Document.ofValue, Document.ofItems_eq_map, List.map_append, List.map_cons] at ha ⊢
    unfold Decoder.list at ha ⊢
    dsimp only at ha ⊢
    split at ha
    · cases ha
    · rename_i hitems
      rw [Decoder.items_congr (fun _ => ih) hitems]
      exact ha

end ValueTrace.Json
