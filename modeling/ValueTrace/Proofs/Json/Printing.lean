import ValueTrace.Proofs.Json.Literals
import ValueTrace.Proofs.Json.Readable

/-!
# Reading what was written

The compact and the indented text of a value are read as this value (`Document.read_compact`,
`Document.read_indented`), if the value is one that texts denote, is nested no deeper than the
reader goes, and if the doubles in it are read as they are written.  The two texts differ in the
blanks between their tokens only, so both are instances of a text with any blanks there.  It is
followed token by token: each part of it takes the reader from one state to another, whatever comes
next in the text.

## Main definitions

* `Value.doubles` : the doubles in a value.
* `Spacing`, `Value.spaced` : blanks between tokens, and the text of a value with them.
* `Assembler.Reads` : reading the front of a text.
* `Value.IsRead` : the text of a value is read as this value wherever a value may stand.

## Main results

* `Value.spaced_tight`, `Value.spaced_indented` : the compact and the indented text.
* `Value.IsReadable.isRead` : the values whose texts are read as they are.
* `Document.read_compact`, `Document.read_indented` : the texts that are nothing but such a value.
-/

namespace ValueTrace.Json

mutual

/-- The doubles in a value. -/
def Value.doubles : Value → List Float
  | .number (.float x) => [x]
  | .array items => itemsDoubles items
  | .object members => membersDoubles members
  | _ => []

/-- The doubles in the items of an array. -/
def itemsDoubles : List Value → List Float
  | [] => []
  | v :: rest => v.doubles ++ itemsDoubles rest

/-- The doubles in the members of an object. -/
def membersDoubles : List (String × Value) → List Float
  | [] => []
  | (_, v) :: rest => v.doubles ++ membersDoubles rest

end

theorem mem_itemsDoubles {items : List Value} {x : Float} :
    x ∈ itemsDoubles items ↔ ∃ v ∈ items, x ∈ v.doubles := by
  induction items with
  | nil => simp [itemsDoubles]
  | cons v items ih => simp [itemsDoubles, ih]

theorem mem_membersDoubles {members : List (String × Value)} {x : Float} :
    x ∈ membersDoubles members ↔ ∃ m ∈ members, x ∈ m.2.doubles := by
  induction members with
  | nil => simp [membersDoubles]
  | cons m members ih => simp [membersDoubles, ih]

/-! ### Spacing -/

/-- What stands between tokens: before an item, a member or a closing mark inside so many
containers, and behind a colon. -/
structure Spacing where
  line : Nat → List Char
  gap : List Char
  isBlank_line (level : Nat) : ∀ c ∈ line level, isBlank c = true
  isBlank_gap : ∀ c ∈ gap, isBlank c = true

/-- Nothing between tokens. -/
def Spacing.tight : Spacing where
  line _ := []
  gap := []
  isBlank_line _ _ hc := nomatch hc
  isBlank_gap _ hc := nomatch hc

/-- A line for each item and member. -/
def Spacing.indented : Spacing where
  line := newline
  gap := [' ']
  isBlank_line level c hc := by
    rcases List.mem_cons.1 hc with rfl | hc
    · rfl
    · rw [List.eq_of_mem_replicate hc]
      rfl
  isBlank_gap c hc := by
    rw [List.mem_singleton.1 hc]
    rfl

section Spaced

variable (s : Spacing)

mutual

/-- The text of a value inside so many containers; nothing stands in empty containers. -/
def Value.spaced (level : Nat) : Value → List Char
  | .array [] => ['[', ']']
  | .array (v :: rest) =>
    '[' :: (s.line (level + 1) ++ v.spaced (level + 1) ++ spacedItems level rest)
  | .object [] => ['\x7b', '\x7d']
  | .object ((name, v) :: rest) =>
    '\x7b' :: (s.line (level + 1) ++ stringChars name ++ ':' ::
      (s.gap ++ v.spaced (level + 1) ++ spacedMembers level rest))
  | .null => ['n', 'u', 'l', 'l']
  | .bool true => ['t', 'r', 'u', 'e']
  | .bool false => ['f', 'a', 'l', 's', 'e']
  | .number n => n.chars
  | .string s => stringChars s

/-- Items after the first one and the closing bracket. -/
def spacedItems (level : Nat) : List Value → List Char
  | [] => s.line level ++ [']']
  | v :: rest =>
    ',' :: (s.line (level + 1) ++ v.spaced (level + 1) ++ spacedItems level rest)

/-- Members after the first one and the closing brace. -/
def spacedMembers (level : Nat) : List (String × Value) → List Char
  | [] => s.line level ++ ['\x7d']
  | (name, v) :: rest =>
    ',' :: (s.line (level + 1) ++ stringChars name ++ ':' ::
      (s.gap ++ v.spaced (level + 1) ++ spacedMembers level rest))

end

end Spaced

mutual

theorem Value.spaced_tight (level : Nat) : ∀ v : Value, v.spaced .tight level = v.chars
  | .array [] | .object [] | .null | .bool true | .bool false | .number _ | .string _ => rfl
  | .array (v :: rest) => by
    rw [Value.spaced, v.spaced_tight, spacedItems_tight, Value.chars, itemChars]
    rfl
  | .object ((name, v) :: rest) => by
    rw [Value.spaced, v.spaced_tight, spacedMembers_tight, Value.chars, memberChars]
    rfl

theorem spacedItems_tight (level : Nat) :
    ∀ items : List Value, spacedItems .tight level items = moreItemChars items
  | [] => rfl
  | v :: rest => by
    rw [spacedItems, v.spaced_tight, spacedItems_tight, moreItemChars]
    rfl

theorem spacedMembers_tight (level : Nat) :
    ∀ members : List (String × Value), spacedMembers .tight level members = moreMemberChars members
  | [] => rfl
  | (name, v) :: rest => by
    rw [spacedMembers, v.spaced_tight, spacedMembers_tight, moreMemberChars]
    rfl

end

mutual

theorem Value.spaced_indented (level : Nat) :
    ∀ v : Value, v.spaced .indented level = v.indentedChars level
  | .array [] | .object [] | .null | .bool true | .bool false | .number _ | .string _ => rfl
  | .array (v :: rest) => by
    rw [Value.spaced, v.spaced_indented, spacedItems_indented, Value.indentedChars]
    rfl
  | .object ((name, v) :: rest) => by
    rw [Value.spaced, v.spaced_indented, spacedMembers_indented, Value.indentedChars]
    rfl

theorem spacedItems_indented (level : Nat) :
    ∀ items : List Value, spacedItems .indented level items = indentedItems level items
  | [] => rfl
  | v :: rest => by
    rw [spacedItems, v.spaced_indented, spacedItems_indented, indentedItems]
    rfl

theorem spacedMembers_indented (level : Nat) :
    ∀ members : List (String × Value),
      spacedMembers .indented level members = indentedMembers level members
  | [] => rfl
  | (name, v) :: rest => by
    rw [spacedMembers, v.spaced_indented, spacedMembers_indented, indentedMembers]
    rfl

end

/-! ### Reading the front of a text -/

namespace Assembler

variable {limit : Option Nat} {text middle rest : List Char} {a b c : Assembler}
variable {stack : List Open} {expects : Expect} {t : Token}

/-- Reading a text from one state is reading its rest from another one. -/
def Reads (limit : Option Nat) (text : List Char) (a : Assembler) (rest : List Char)
    (b : Assembler) : Prop :=
  ∀ steps, text.length ≤ steps →
    ∃ steps', rest.length ≤ steps' ∧ run limit steps text a = run limit steps' rest b

theorem Reads.trans (h : Reads limit text a middle b) (h' : Reads limit middle b rest c) :
    Reads limit text a rest c := by
  intro steps hsteps
  obtain ⟨steps', hsteps', hrun⟩ := h steps hsteps
  obtain ⟨steps'', hsteps'', hrun'⟩ := h' steps' hsteps'
  exact ⟨steps'', hsteps'', hrun.trans hrun'⟩

/-- One token is read. -/
theorem reads_token {first : Char} (hblank : isBlank first = false)
    (hscan : Token.scan first text = some (t, rest)) (hlength : rest.length ≤ text.length)
    (hnext : a.next limit t = some b) : Reads limit (first :: text) a rest b := by
  intro steps hsteps
  cases steps with
  | zero => cases hsteps
  | succ steps =>
    rw [List.length_cons, Nat.add_le_add_iff_right] at hsteps
    exact ⟨steps, Nat.le_trans hlength hsteps, by simp [run, hblank, hscan, hnext]⟩

/-- Blanks are passed over. -/
theorem reads_blank {gap : List Char} (h : ∀ c ∈ gap, isBlank c = true) :
    Reads limit (gap ++ text) a text a := by
  induction gap with
  | nil => exact fun steps hsteps => ⟨steps, hsteps, rfl⟩
  | cons c gap ih =>
    obtain ⟨hc, hgap⟩ := List.forall_mem_cons.1 h
    intro steps hsteps
    cases steps with
    | zero => cases hsteps
    | succ steps =>
      obtain ⟨steps', hsteps', hrun⟩ := ih hgap steps (Nat.le_of_succ_le_succ hsteps)
      exact ⟨steps', hsteps', by simp [run, hc, hrun]⟩

/-- A value may stand where one is expected, also as the first item of an array. -/
def TakesValue (expects : Expect) : Prop := expects = .value ∨ expects = .firstItem

theorem next_of_takesValue (h : TakesValue expects) (ht : t ≠ .closeArray) :
    (Assembler.reading stack expects).next limit t = value stack t := by
  rcases h with rfl | rfl
  · rfl
  · cases t with
    | closeArray => exact absurd rfl ht
    | openArray | openObject | closeObject | comma | colon | null | bool | number | string => rfl

theorem container_of_isWithin {depth : Nat} {d : Document} (h : IsWithin limit depth) :
    container limit depth d = d := by
  cases limit with
  | none => rfl
  | some bound => exact if_pos (h bound rfl)

/-- The end of an array is read after an item or at once. -/
theorem reads_closeArray {items : List Document} (hroom : IsWithin limit (stack.length + 1))
    (hexpects : expects = .firstItem ∨ expects = .separator)
    (hplace : place stack (.array items.reverse true) = some b) :
    Reads limit (']' :: rest) (.reading (.array items :: stack) expects) rest b := by
  refine reads_token rfl rfl (Nat.le_refl _) ?_
  have hclose : close limit (.array items :: stack) true = some b := by
    rw [close, if_pos rfl, List.length_cons, container_of_isWithin hroom, hplace]
  rcases hexpects with rfl | rfl
  · exact hclose
  · exact hclose

/-- The end of an object is read after a member or at once. -/
theorem reads_closeObject {members : List (Option String × Document)}
    (hroom : IsWithin limit (stack.length + 1))
    (hexpects : expects = .firstName ∨ expects = .separator)
    (hplace : place stack (.object members.reverse true) = some b) :
    Reads limit ('\x7d' :: rest) (.reading (.object members :: stack) expects) rest b := by
  refine reads_token rfl rfl (Nat.le_refl _) ?_
  have hclose : close limit (.object members :: stack) false = some b := by
    rw [close, if_neg Bool.false_ne_true, List.length_cons, container_of_isWithin hroom, hplace]
  rcases hexpects with rfl | rfl
  · exact hclose
  · exact hclose

/-- The name of a member is read up to its value. -/
theorem reads_name {name : String} {members : List (Option String × Document)} {gap : List Char}
    (hgap : ∀ c ∈ gap, isBlank c = true) (hexpects : expects = .firstName ∨ expects = .name) :
    Reads limit (stringChars name ++ ':' :: (gap ++ rest))
      (.reading (.object members :: stack) expects) rest
      (.reading (.member members (some name) :: stack) .value) := by
  have hname : Reads limit (stringChars name ++ ':' :: (gap ++ rest))
      (.reading (.object members :: stack) expects) (':' :: (gap ++ rest))
      (.reading (.member members (some name) :: stack) .colon) := by
    rw [stringChars, List.cons_append, List.append_assoc]
    refine reads_token rfl (scan_stringChars name) ?_ ?_
    · simp only [List.length_append, List.length_cons, List.length_nil]
      omega
    · rcases hexpects with rfl | rfl <;> rfl
  have hcolon : Reads limit (':' :: (gap ++ rest))
      (.reading (.member members (some name) :: stack) .colon) (gap ++ rest)
      (.reading (.member members (some name) :: stack) .value) :=
    reads_token rfl rfl (Nat.le_refl _) rfl
  exact hname.trans (hcolon.trans (reads_blank hgap))

end Assembler

/-! ### Reading values -/

open Assembler (Reads TakesValue reads_blank)

variable {s : Spacing} {limit : Option Nat} {depth level : Nat} {stack : List Open}
variable {rest : List Char} {b : Assembler}

/-- The text of a value is read as this value wherever a value may stand, if the reader goes so many
containers deeper. -/
def Value.IsRead (s : Spacing) (limit : Option Nat) (depth : Nat) (v : Value) : Prop :=
  ∀ {level stack expects rest b}, TakesValue expects → IsWithin limit (stack.length + depth) →
    EndsLiteral rest → Assembler.place stack (.ofValue v) = some b →
    Reads limit (v.spaced s level ++ rest) (.reading stack expects) rest b

/-- Where there is room for a container with more inside, there is room for the container, and for
the rest inside it. -/
theorem IsWithin.container (h : IsWithin limit (stack.length + (depth + 1))) :
    IsWithin limit (stack.length + 1) := fun bound hbound => by
  have := h bound hbound
  omega

theorem IsWithin.enter {parent : Open} (h : IsWithin limit (stack.length + (depth + 1))) :
    IsWithin limit ((parent :: stack).length + depth) := by
  rwa [List.length_cons, Nat.add_assoc, Nat.add_comm 1]

/-! ### Ends of literals -/

theorem endsLiteral_nil : EndsLiteral [] := fun _ hc => nomatch hc

theorem endsLiteral_cons {c : Char} (hdigit : c.isDigit = false) (h : c ∉ ['.', 'e', 'E']) :
    EndsLiteral (c :: rest) := by
  rintro c' hc'
  obtain rfl := Option.some.inj hc'
  simpa [hdigit] using h

theorem endsLiteral_blank {gap : List Char} (hgap : ∀ c ∈ gap, isBlank c = true)
    (h : EndsLiteral rest) : EndsLiteral (gap ++ rest) := by
  cases gap with
  | nil => exact h
  | cons c gap =>
    have hc := hgap c List.mem_cons_self
    simp only [isBlank, Bool.or_eq_true, decide_eq_true_eq] at hc
    rcases hc with ((rfl | rfl) | rfl) | rfl <;> exact endsLiteral_cons rfl (by decide)

theorem endsLiteral_spacedItems (items : List Value) :
    EndsLiteral (spacedItems s level items ++ rest) := by
  cases items with
  | nil =>
    rw [spacedItems, List.append_assoc]
    exact endsLiteral_blank (s.isBlank_line level) (endsLiteral_cons rfl (by decide))
  | cons v items => exact endsLiteral_cons rfl (by decide)

theorem endsLiteral_spacedMembers (members : List (String × Value)) :
    EndsLiteral (spacedMembers s level members ++ rest) := by
  cases members with
  | nil =>
    rw [spacedMembers, List.append_assoc]
    exact endsLiteral_blank (s.isBlank_line level) (endsLiteral_cons rfl (by decide))
  | cons m members => exact endsLiteral_cons rfl (by decide)

/-! ### Literals -/

/-- A value of one token is read. -/
theorem Value.isRead_token {v : Value} {c : Char} {text : List Char} {t : Token}
    (hchars : ∀ level, v.spaced s level = c :: text) (hblank : isBlank c = false)
    (ht : t ≠ .closeArray)
    (hscan : ∀ rest, EndsLiteral rest → Token.scan c (text ++ rest) = some (t, rest))
    (hvalue : ∀ stack, Assembler.value stack t = Assembler.place stack (.ofValue v)) :
    v.IsRead s limit depth := by
  intro level stack expects rest b hexpects _ hrest hplace
  rw [hchars, List.cons_append]
  refine Assembler.reads_token hblank (hscan rest hrest) ?_ ?_
  · rw [List.length_append]
    omega
  · rw [Assembler.next_of_takesValue hexpects ht, hvalue, hplace]

theorem Value.isRead_number {n : Number} (h : n.IsLegible) :
    (Value.number n).IsRead s limit depth := by
  obtain ⟨c, text, hchars, hblank, hscan⟩ := h
  exact isRead_token (v := .number n) (fun _ => hchars) hblank (by simp) hscan fun stack => rfl

theorem Value.isRead_string (text : String) : (Value.string text).IsRead s limit depth := by
  refine isRead_token (t := .string (some text)) (fun _ => rfl) rfl (by simp) (fun rest _ => ?_)
    fun stack => rfl
  rw [List.append_assoc]
  exact scan_stringChars text

/-! ### Containers -/

/-- Items after the first one are read up to the end of the array. -/
theorem reads_spacedItems {items : List Value} (h : ∀ v ∈ items, v.IsRead s limit depth)
    {collected : List Document} (hroom : IsWithin limit (stack.length + (depth + 1)))
    (hplace : Assembler.place stack (.array (collected.reverse ++ Document.ofItems items) true) =
      some b) :
    Reads limit (spacedItems s level items ++ rest)
      (.reading (.array collected :: stack) .separator) rest b := by
  induction items generalizing collected with
  | nil =>
    rw [spacedItems, List.append_assoc]
    refine (reads_blank (s.isBlank_line level)).trans ?_
    refine Assembler.reads_closeArray hroom.container (.inr rfl) ?_
    rwa [Document.ofItems, List.append_nil] at hplace
  | cons v items ih =>
    obtain ⟨hv, hitems⟩ := List.forall_mem_cons.1 h
    have hcomma : Reads limit (spacedItems s level (v :: items) ++ rest)
        (.reading (.array collected :: stack) .separator)
        (v.spaced s (level + 1) ++ (spacedItems s level items ++ rest))
        (.reading (.array collected :: stack) .value) := by
      rw [spacedItems, List.cons_append, List.append_assoc, List.append_assoc]
      exact (Assembler.reads_token rfl rfl (Nat.le_refl _) rfl).trans
        (reads_blank (s.isBlank_line _))
    have hvalue : Reads limit (v.spaced s (level + 1) ++ (spacedItems s level items ++ rest))
        (.reading (.array collected :: stack) .value) (spacedItems s level items ++ rest)
        (.reading (.array (.ofValue v :: collected) :: stack) .separator) :=
      hv (.inl rfl) hroom.enter (endsLiteral_spacedItems items) rfl
    refine hcomma.trans (hvalue.trans (ih hitems ?_))
    rwa [List.reverse_cons, List.append_assoc]

/-- An array is read if its items are. -/
theorem Value.isRead_array {items : List Value} (h : ∀ v ∈ items, v.IsRead s limit depth) :
    (Value.array items).IsRead s limit (depth + 1) := by
  intro level stack expects rest b hexpects hroom hrest hplace
  have hopen {text : List Char} : Reads limit ('[' :: text) (.reading stack expects) text
      (.reading (.array [] :: stack) .firstItem) :=
    Assembler.reads_token rfl rfl (Nat.le_refl _)
      (Assembler.next_of_takesValue hexpects (by simp))
  cases items with
  | nil => exact hopen.trans (Assembler.reads_closeArray hroom.container (.inl rfl) hplace)
  | cons v items =>
    obtain ⟨hv, hitems⟩ := List.forall_mem_cons.1 h
    rw [spaced, List.cons_append, List.append_assoc, List.append_assoc]
    have hvalue : Reads limit (v.spaced s (level + 1) ++ (spacedItems s level items ++ rest))
        (.reading (.array [] :: stack) .firstItem) (spacedItems s level items ++ rest)
        (.reading (.array [.ofValue v] :: stack) .separator) :=
      hv (.inr rfl) hroom.enter (endsLiteral_spacedItems items) rfl
    exact hopen.trans ((reads_blank (s.isBlank_line _)).trans
      (hvalue.trans (reads_spacedItems hitems hroom hplace)))

/-- Members after the first one are read up to the end of the object. -/
theorem reads_spacedMembers {members : List (String × Value)}
    (h : ∀ m ∈ members, m.2.IsRead s limit depth) {collected : List (Option String × Document)}
    (hroom : IsWithin limit (stack.length + (depth + 1)))
    (hplace : Assembler.place stack
      (.object (collected.reverse ++ Document.ofMembers members) true) = some b) :
    Reads limit (spacedMembers s level members ++ rest)
      (.reading (.object collected :: stack) .separator) rest b := by
  induction members generalizing collected with
  | nil =>
    rw [spacedMembers, List.append_assoc]
    refine (reads_blank (s.isBlank_line level)).trans ?_
    refine Assembler.reads_closeObject hroom.container (.inr rfl) ?_
    rwa [Document.ofMembers, List.append_nil] at hplace
  | cons m members ih =>
    obtain ⟨name, v⟩ := m
    obtain ⟨hv, hmembers⟩ := List.forall_mem_cons.1 h
    have hcomma : Reads limit (spacedMembers s level ((name, v) :: members) ++ rest)
        (.reading (.object collected :: stack) .separator)
        (stringChars name ++ ':' ::
          (s.gap ++ (v.spaced s (level + 1) ++ (spacedMembers s level members ++ rest))))
        (.reading (.object collected :: stack) .name) := by
      rw [spacedMembers]
      simp only [List.cons_append, List.append_assoc]
      exact (Assembler.reads_token rfl rfl (Nat.le_refl _) rfl).trans
        (reads_blank (s.isBlank_line _))
    have hvalue : Reads limit (v.spaced s (level + 1) ++ (spacedMembers s level members ++ rest))
        (.reading (.member collected (some name) :: stack) .value)
        (spacedMembers s level members ++ rest)
        (.reading (.object ((some name, .ofValue v) :: collected) :: stack) .separator) :=
      hv (.inl rfl) hroom.enter (endsLiteral_spacedMembers members) rfl
    refine hcomma.trans ((Assembler.reads_name s.isBlank_gap (.inr rfl)).trans
      (hvalue.trans (ih hmembers ?_)))
    rwa [List.reverse_cons, List.append_assoc]

/-- An object is read if its members are. -/
theorem Value.isRead_object {members : List (String × Value)}
    (h : ∀ m ∈ members, m.2.IsRead s limit depth) :
    (Value.object members).IsRead s limit (depth + 1) := by
  intro level stack expects rest b hexpects hroom hrest hplace
  have hopen {text : List Char} : Reads limit ('\x7b' :: text) (.reading stack expects) text
      (.reading (.object [] :: stack) .firstName) :=
    Assembler.reads_token rfl rfl (Nat.le_refl _)
      (Assembler.next_of_takesValue hexpects (by simp))
  cases members with
  | nil => exact hopen.trans (Assembler.reads_closeObject hroom.container (.inl rfl) hplace)
  | cons m members =>
    obtain ⟨name, v⟩ := m
    obtain ⟨hv, hmembers⟩ := List.forall_mem_cons.1 h
    rw [spaced]
    simp only [List.cons_append, List.append_assoc]
    have hvalue : Reads limit (v.spaced s (level + 1) ++ (spacedMembers s level members ++ rest))
        (.reading (.member [] (some name) :: stack) .value) (spacedMembers s level members ++ rest)
        (.reading (.object [(some name, .ofValue v)] :: stack) .separator) :=
      hv (.inl rfl) hroom.enter (endsLiteral_spacedMembers members) rfl
    exact hopen.trans ((reads_blank (s.isBlank_line _)).trans
      ((Assembler.reads_name s.isBlank_gap (.inl rfl)).trans
        (hvalue.trans (reads_spacedMembers hmembers hroom hplace))))

/-! ### Whole texts -/

/-- A value that texts denote is read as it was written, if its doubles are. -/
theorem Value.IsReadable.isRead {v : Value} (h : v.IsReadable depth)
    (hdoubles : ∀ x ∈ v.doubles, (Number.float x).IsLegible) : v.IsRead s limit depth := by
  induction h with
  | null =>
    exact isRead_token (t := .null) (fun _ => rfl) rfl (by simp) (fun _ _ => rfl) fun _ => rfl
  | @bool _ flag =>
    cases flag with
    | true =>
      exact isRead_token (t := .bool true) (fun _ => rfl) rfl (by simp) (fun _ _ => rfl)
        fun _ => rfl
    | false =>
      exact isRead_token (t := .bool false) (fun _ => rfl) rfl (by simp) (fun _ _ => rfl)
        fun _ => rfl
  | @number _ n hn =>
    cases n with
    | integer n => exact isRead_number (Number.isLegible_integer hn)
    | float x => exact isRead_number (hdoubles x (List.mem_singleton.2 rfl))
  | string => exact isRead_string _
  | array h ih =>
    refine isRead_array fun v hv => ih v hv fun x hx => hdoubles x ?_
    exact mem_itemsDoubles.2 ⟨v, hv, hx⟩
  | object hnames h ih =>
    refine isRead_object fun m hm => ih m hm fun x hx => hdoubles x ?_
    exact mem_membersDoubles.2 ⟨m, hm, hx⟩

/-- The text that is nothing but a value, with blanks between its tokens and behind them, is read as
this value. -/
theorem Document.read_spaced {v : Value} {tail : List Char} (h : v.IsReadable depth)
    (hdoubles : ∀ x ∈ v.doubles, (Number.float x).IsLegible) (hroom : IsWithin limit depth)
    (htail : ∀ c ∈ tail, isBlank c = true) :
    Document.read limit (String.ofList (v.spaced s 0 ++ tail)) = (.ofValue v, true) := by
  have hend : EndsLiteral tail := by
    simpa using endsLiteral_blank htail endsLiteral_nil
  have hvalue : Reads limit (v.spaced s 0 ++ tail) .start tail (.done (.ofValue v)) :=
    h.isRead hdoubles (.inl rfl) (by simpa using hroom) hend rfl
  have hblank : Reads limit (tail ++ []) (.done (.ofValue v)) [] (.done (.ofValue v)) :=
    reads_blank htail
  rw [List.append_nil] at hblank
  obtain ⟨steps, -, hrun⟩ := hvalue.trans hblank _ (Nat.le_refl _)
  rw [Document.read, String.toList_ofList, hrun]
  cases steps <;> rfl

/-- The text that is nothing but a value is read as this value. -/
theorem Document.read_compact {v : Value} (h : v.IsReadable depth)
    (hdoubles : ∀ x ∈ v.doubles, (Number.float x).IsLegible) (hroom : IsWithin limit depth) :
    Document.read limit v.compact = (.ofValue v, true) := by
  have hread : Document.read limit (String.ofList (v.spaced .tight 0 ++ [])) = (.ofValue v, true) :=
    Document.read_spaced h hdoubles hroom fun _ hc => nomatch hc
  rwa [Value.spaced_tight, List.append_nil] at hread

/-- The indented text of a value is read as this value, also with blanks behind it. -/
theorem Document.read_indented {v : Value} {tail : List Char} (h : v.IsReadable depth)
    (hdoubles : ∀ x ∈ v.doubles, (Number.float x).IsLegible) (hroom : IsWithin limit depth)
    (htail : ∀ c ∈ tail, isBlank c = true) :
    Document.read limit (v.indented ++ String.ofList tail) = (.ofValue v, true) := by
  rw [Value.indented, ← String.ofList_append, ← Value.spaced_indented]
  exact Document.read_spaced h hdoubles hroom htail

end ValueTrace.Json
