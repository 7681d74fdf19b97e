import Mathlib.Data.List.Basic
import ValueTrace.Json.Document

/-!
# What reading establishes

A text is read token by token, and a container is placed in its parent when its end is read.  So a
property of documents that holds of every token's value, and of a container if it holds of what the
container holds, holds of every whole document (`Document.read_of_isHereditary`).  The property may
depend on the number of containers around a document, because those nested too deep have no value.

## Main definitions

* `Number.IsReadable` : the numbers that literals denote.
* `Document.IsHereditary` : what must be known of a property.

## Main results

* `Document.read_of_isHereditary` : such a property holds of whole documents.
* `Document.intact_of_read`, `Document.intact_ofValue` : a whole document is undamaged, and so is
  the document of a value.
-/

namespace ValueTrace.Json

/-! ### Numbers -/

/-- The numbers that literals denote: integers of 64 bits, signed or not, and doubles. -/
def Number.IsReadable : Number → Prop
  | .integer n => -(Nat.pow 2 63 : Int) ≤ n ∧ n < UInt64.size
  | .float _ => True

theorem Numeral.isReadable_of_value? {literal : Numeral} {n : Number}
    (h : literal.value? = some n) : n.IsReadable := by
  unfold Numeral.value? at h
  dsimp only at h
  split at h
  · rename_i hwhole
    simp only [Bool.and_eq_true, decide_eq_true_eq] at hwhole
    have hmax : Nat.ofDigitChars 10 literal.whole 0 < UInt64.size := by
      have := hwhole.2
      simp only [Numeral.maxSignificand, UInt64.size] at this ⊢
      omega
    split at h
    · obtain rfl := Option.some.inj h
      constructor
      · have := Int.natCast_nonneg (Nat.pow 2 63)
        omega
      · exact_mod_cast hmax
    · split at h
      · rename_i hrange
        obtain rfl := Option.some.inj h
        refine ⟨by have := hrange.2; omega, ?_⟩
        have : (0 : Int) < UInt64.size := by simp [UInt64.size]
        omega
      · obtain rfl := Option.some.inj h
        trivial
  · obtain ⟨x, -, rfl⟩ := Option.map_eq_some_iff.1 h
    trivial

/-- A number that is read as a token is one that a literal denotes. -/
theorem Token.isReadable_of_scan {c : Char} {text rest : List Char} {n : Number}
    (h : Token.scan c text = some (.number (some n), rest)) : n.IsReadable := by
  unfold Token.scan at h
  split at h <;> simp at h
  obtain ⟨literal, -, hvalue⟩ := h
  exact Numeral.isReadable_of_value? hvalue

/-! ### Hereditary properties -/

/-- A limit on the depth of containers admits a depth. -/
def IsWithin (limit : Option Nat) (depth : Nat) : Prop :=
  ∀ bound, limit = some bound → depth ≤ bound

/-- A property of documents, inside so many containers, that holds of the values of tokens and of
containers whose parts have it. -/
structure Document.IsHereditary (limit : Option Nat) (P : Nat → Document → Prop) : Prop where
  null (depth : Nat) : P depth .null
  bool (depth : Nat) (b : Bool) : P depth (.bool b)
  number (depth : Nat) {n : Number} (h : n.IsReadable) : P depth (.number n)
  string (depth : Nat) (s : String) : P depth (.string s)
  unrepresentable (depth : Nat) : P depth .unrepresentable
  array {depth : Nat} {items : List Document} (hroom : IsWithin limit (depth + 1))
    (h : ∀ d ∈ items, P (depth + 1) d) : P depth (.array items true)
  object {depth : Nat} {members : List (Option String × Document)}
    (hroom : IsWithin limit (depth + 1)) (h : ∀ m ∈ members, P (depth + 1) m.2) :
    P depth (.object members true)

/-- What a container holds so far. -/
def Open.parts : Open → List Document
  | .array items => items
  | .object members | .member members _ => members.map Prod.snd

/-- All that the open containers hold so far has a property at its depth. -/
def HoldsInside (P : Nat → Document → Prop) : List Open → Prop
  | [] => True
  | o :: stack => (∀ d ∈ o.parts, P (stack.length + 1) d) ∧ HoldsInside P stack

namespace Assembler

/-- All that was read so far has a property. -/
def Has (P : Nat → Document → Prop) : Assembler → Prop
  | .reading stack _ => HoldsInside P stack
  | .done d => P 0 d

variable {a b : Assembler} {stack : List Open} {t : Token} {limit : Option Nat} {d : Document}
variable {P : Nat → Document → Prop}

theorem has_place (h : HoldsInside P stack) (hd : P stack.length d)
    (hplace : place stack d = some a) : a.Has P := by
  cases stack with
  | nil =>
    obtain rfl := Option.some.inj hplace
    exact hd
  | cons o stack =>
    obtain ⟨ho, hstack⟩ := h
    cases o with
    | object members => cases hplace
    | array items | member members name =>
      obtain rfl := Option.some.inj hplace
      exact ⟨List.forall_mem_cons.2 ⟨hd, ho⟩, hstack⟩

/-- A container that is too deep becomes a part without a value. -/
theorem has_container {depth : Nat} (hP : Document.IsHereditary limit P)
    (hd : IsWithin limit (depth + 1) → P depth d) : P depth (container limit (depth + 1) d) := by
  unfold container
  split
  · split
    · rename_i hle
      refine hd fun bound hbound => ?_
      obtain rfl := Option.some.inj hbound
      exact hle
    · exact hP.unrepresentable depth
  · exact hd fun bound hbound => nomatch hbound

theorem has_close {square : Bool} (hP : Document.IsHereditary limit P)
    (h : HoldsInside P stack) (hclose : close limit stack square = some a) : a.Has P := by
  unfold close at hclose
  split at hclose
  · obtain ⟨hitems, hstack⟩ := h
    split at hclose
    · refine has_place hstack (has_container hP fun hroom => hP.array hroom ?_) hclose
      exact fun d hd => hitems d (List.mem_reverse.1 hd)
    · cases hclose
  · obtain ⟨hmembers, hstack⟩ := h
    split at hclose
    · cases hclose
    · refine has_place hstack (has_container hP fun hroom => hP.object hroom ?_) hclose
      exact fun m hm => hmembers m.2 (List.mem_map_of_mem (List.mem_reverse.1 hm))
  · cases hclose

theorem has_value (hP : Document.IsHereditary limit P) (h : HoldsInside P stack)
    (ht : ∀ n, t = .number (some n) → n.IsReadable) (hvalue : value stack t = some a) :
    a.Has P := by
  unfold value at hvalue
  split at hvalue
  · obtain rfl := Option.some.inj hvalue
    exact ⟨by simp [Open.parts], h⟩
  · obtain rfl := Option.some.inj hvalue
    exact ⟨by simp [Open.parts], h⟩
  · exact has_place h (hP.null _) hvalue
  · exact has_place h (hP.bool _ _) hvalue
  · exact has_place h (hP.number _ (ht _ rfl)) hvalue
  · exact has_place h (hP.unrepresentable _) hvalue
  · exact has_place h (hP.string _ _) hvalue
  · exact has_place h (hP.unrepresentable _) hvalue
  · cases hvalue

theorem has_name (h : HoldsInside P stack) (hname : Assembler.name stack t = some a) :
    a.Has P := by
  unfold Assembler.name at hname
  split at hname
  · split at hname
    · obtain rfl := Option.some.inj hname
      exact h
    · cases hname
  · cases hname

theorem has_separator (hP : Document.IsHereditary limit P) (h : HoldsInside P stack)
    (hseparator : separator limit stack t = some a) : a.Has P := by
  unfold separator at hseparator
  split at hseparator
  · split at hseparator
    · obtain rfl := Option.some.inj hseparator
      exact h
    · obtain rfl := Option.some.inj hseparator
      exact h
    · cases hseparator
  · exact has_close hP h hseparator
  · exact has_close hP h hseparator
  · cases hseparator

/-- Every token keeps a hereditary property. -/
theorem Has.next (hP : Document.IsHereditary limit P) (h : a.Has P)
    (ht : ∀ n, t = .number (some n) → n.IsReadable) (hnext : a.next limit t = some b) :
    b.Has P := by
  unfold Assembler.next at hnext
  split at hnext
  · exact has_value hP h ht hnext
  · exact has_close hP h hnext
  · exact has_value hP h ht hnext
  · exact has_close hP h hnext
  · exact has_name h hnext
  · exact has_name h hnext
  · obtain rfl := Option.some.inj hnext
    exact h
  · cases hnext
  · exact has_separator hP h hnext
  · cases hnext

theorem Has.document (h : a.Has P) (hdone : a.isDone = true) : P 0 a.document := by
  cases a with
  | reading stack expects => exact Bool.noConfusion hdone
  | done d => exact h

theorem Has.run (hP : Document.IsHereditary limit P) {steps : Nat} {text : List Char}
    (h : a.Has P) (hwhole : (run limit steps text a).2 = true) :
    P 0 (run limit steps text a).1 := by
  fun_induction Assembler.run limit steps text a with
  | case1 text a => exact h.document (Bool.and_eq_true_iff.1 hwhole).2
  | case2 steps a => exact h.document hwhole
  | case3 steps c text a hblank ih => exact ih h hwhole
  | case4 | case5 => exact Bool.noConfusion hwhole
  | case6 steps c text a hblank t rest hscan b hnext ih =>
    refine ih (h.next hP (fun n hn => ?_) hnext) hwhole
    subst hn
    exact Token.isReadable_of_scan hscan

end Assembler

/-- A hereditary property holds of every whole document. -/
theorem Document.read_of_isHereditary {limit : Option Nat} {P : Nat → Document → Prop}
    (hP : Document.IsHereditary limit P) {text : String} {d : Document}
    (h : Document.read limit text = (d, true)) : P 0 d := by
  have hrun := Assembler.Has.run hP (a := .start) trivial (congrArg Prod.snd h)
  rwa [← Document.read, h] at hrun

/-! ### Undamaged documents -/

theorem Document.intactItems_iff {items : List Document} :
    Document.intactItems items = true ↔ ∀ d ∈ items, d.intact = true := by
  induction items with
  | nil => simp [Document.intactItems]
  | cons d items ih => simp [Document.intactItems, ih]

theorem Document.intactMembers_iff {members : List (Option String × Document)} :
    Document.intactMembers members = true ↔ ∀ m ∈ members, m.2.intact = true := by
  induction members with
  | nil => simp [Document.intactMembers]
  | cons m members ih => simp [Document.intactMembers, ih]

/-- A text that is a whole document is undamaged. -/
theorem Document.intact_of_read {limit : Option Nat} {text : String} {d : Document}
    (h : Document.read limit text = (d, true)) : d.intact = true := by
  refine Document.read_of_isHereditary (P := fun _ d => d.intact = true) ?_ h
  exact {
    null := fun _ => rfl
    bool := fun _ _ => rfl
    number := fun _ _ _ => rfl
    string := fun _ _ => rfl
    unrepresentable := fun _ => rfl
    array := fun _ h => by rw [intact, Bool.and_true, intactItems_iff]; exact h
    object := fun _ h => by rw [intact, Bool.and_true, intactMembers_iff]; exact h }

theorem Document.ofItems_eq_map (items : List Value) :
    Document.ofItems items = items.map .ofValue := by
  induction items with
  | nil => rfl
  | cons v items ih => rw [Document.ofItems, ih, List.map_cons]

theorem Document.ofMembers_eq_map (members : List (String × Value)) :
    Document.ofMembers members = members.map fun m => (some m.1, .ofValue m.2) := by
  induction members with
  | nil => rfl
  | cons m members ih => rw [Document.ofMembers, ih, List.map_cons]

/-- All members of a value have names. -/
theorem Document.names_ofMembers {members : List (String × Value)} {m : Option String × Document}
    (h : m ∈ Document.ofMembers members) : m.1 ≠ none := by
  rw [Document.ofMembers_eq_map] at h
  obtain ⟨_, -, rfl⟩ := List.mem_map.1 h
  simp

mutual

/-- The document of a value is undamaged. -/
theorem Document.intact_ofValue : (v : Value) → (Document.ofValue v).intact = true
  | .null | .bool _ | .number _ | .string _ => rfl
  | .array items => by
    rw [Document.ofValue, Document.intact, Document.intactItems_ofItems items, Bool.and_self]
  | .object members => by
    rw [Document.ofValue, Document.intact, Document.intactMembers_ofMembers members, Bool.and_self]

theorem Document.intactItems_ofItems : (items : List Value) →
    Document.intactItems (Document.ofItems items) = true
  | [] => rfl
  | v :: items => by
    rw [Document.ofItems, Document.intactItems, Document.intact_ofValue v,
      Document.intactItems_ofItems items, Bool.and_self]

theorem Document.intactMembers_ofMembers : (members : List (String × Value)) →
    Document.intactMembers (Document.ofMembers members) = true
  | [] => rfl
  | (_, v) :: members => by
    rw [Document.ofMembers, Document.intactMembers, Document.intact_ofValue v,
      Document.intactMembers_ofMembers members, Bool.and_self]

end

end ValueTrace.Json
