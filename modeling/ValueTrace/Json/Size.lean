import ValueTrace.Json.Basic

/-!
# The size of a JSON value

The number of values nested in a value, itself included.  Walks that keep a list of parts still to
be visited end because the total size of that list decreases.

## Main definitions

* `Value.size` : the number of values in a value.

## Main statements

* `size_add_size_le` : two members of different names are together no larger than all members.
-/

namespace ValueTrace.Json

mutual

/-- The number of values nested in a value, itself included. -/
def Value.size : Value → Nat
  | .array items => itemsSize items + 1
  | .object members => membersSize members + 1
  | _ => 1

/-- The number of values nested in the items of an array. -/
def itemsSize : List Value → Nat
  | [] => 0
  | v :: rest => v.size + itemsSize rest

/-- The number of values nested in the members of an object. -/
def membersSize : List (String × Value) → Nat
  | [] => 0
  | (_, v) :: rest => v.size + membersSize rest

end

theorem Value.size_pos (v : Value) : 0 < v.size := by
  cases v <;> simp [Value.size]

theorem membersSize_filter_le (p : String × Value → Bool) (members : List (String × Value)) :
    membersSize (members.filter p) ≤ membersSize members := by
  induction members with
  | nil => simp
  | cons m rest ih =>
    obtain ⟨n, v⟩ := m
    simp only [List.filter_cons, membersSize]
    split
    · simp only [membersSize]; omega
    · omega

theorem size_le_of_findMember {name : String} {v : Value} {members : List (String × Value)}
    (h : findMember name members = some v) : v.size ≤ membersSize members := by
  induction members with
  | nil => simp [findMember] at h
  | cons m rest ih =>
    obtain ⟨n, w⟩ := m
    simp only [findMember] at h
    simp only [membersSize]
    split at h
    · obtain rfl := Option.some.inj h; omega
    · have := ih h; omega

/-- Two members of different names are together no larger than all members. -/
theorem size_add_size_le {a b : String} {v w : Value} {members : List (String × Value)}
    (hab : a ≠ b) (hv : findMember a members = some v) (hw : findMember b members = some w) :
    v.size + w.size ≤ membersSize members := by
  induction members with
  | nil => simp [findMember] at hv
  | cons m rest ih =>
    obtain ⟨n, u⟩ := m
    simp only [findMember] at hv hw
    simp only [membersSize]
    by_cases ha : n = a
    · by_cases hb : n = b
      · exact absurd (ha.symm.trans hb) hab
      · rw [if_pos ha] at hv
        rw [if_neg hb] at hw
        obtain rfl := Option.some.inj hv
        have := size_le_of_findMember hw
        omega
    · rw [if_neg ha] at hv
      by_cases hb : n = b
      · rw [if_pos hb] at hw
        obtain rfl := Option.some.inj hw
        have := size_le_of_findMember hv
        omega
      · rw [if_neg hb] at hw
        have := ih hv hw
        omega

end ValueTrace.Json
