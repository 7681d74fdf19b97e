import Mathlib.Data.List.Nodup
import ValueTrace.Json.Decode
import ValueTrace.Proofs.Json.Reading

/-!
# What a record is read from

A record takes the members of an object one after the other.  Here it is told from the object at
once: a field gets what the object has under its name, which must not be there twice, and a field
whose name is not there gets its default (`Record.decodeMembers_eq_ok_iff`).  Of all other members
nothing is needed but that they are undamaged, which they are in every text that is a whole document
(`Document.intact_of_read`).  An array is read like the object that names its items in the order of
the fields (`Record.decodeItems_eq_ok_iff`).

## Main definitions

* `under` : what an object has under a name.
* `Gets`, `Record.Gives` : what a field and a record are read from.
* `Holds` : what an object has for a field that may be null or missing.
* `IsObject`, `IsArray` : what a text is.
* `Record.listed` : an array as an object.

## Main results

* `Record.decodeMembers_eq_ok_iff`, `Record.decodeItems_eq_ok_iff` : the records that are read from
  objects and arrays.
* `Record.decoder_eq_ok_iff`, `Record.decodeText_decoder_iff` : the records that are read from
  documents and texts.
-/

namespace ValueTrace.Json

variable {α β : Type} {name : String} {d : Document} {members : List (Option String × Document)}
variable {origin : Origin}

/-! ### Plain data -/

namespace Decoder

theorem integer_eq_ok_iff {least greatest n : Int} {expected : String} :
    integer least greatest expected origin d = .ok n ↔
      d = .number (.integer n) ∧ least ≤ n ∧ n ≤ greatest := by
  constructor
  · intro h
    unfold integer at h
    split at h
    · split at h
      · rename_i hrange
        obtain rfl := Except.ok.inj h
        exact ⟨rfl, hrange⟩
      · cases h
    · cases h
  · rintro ⟨rfl, hrange⟩
    exact if_pos hrange

theorem value_eq_ok_iff {v : Value} : value origin d = .ok v ↔ d.value? = some v := by
  rw [value]
  cases d.value? <;> simp

end Decoder

/-! ### Fields -/

/-- Everything that an object has under a name, in order. -/
def under (name : String) (members : List (Option String × Document)) : List Document :=
  members.filterMap fun m => if m.1 = some name then some m.2 else none

@[simp] theorem under_cons_self :
    under name ((some name, d) :: members) = d :: under name members := by
  simp [under]

theorem mem_of_under (h : d ∈ under name members) : ∃ m ∈ members, m.2 = d := by
  obtain ⟨m, hm, heq⟩ := List.mem_filterMap.1 h
  split at heq
  · exact ⟨m, hm, Option.some.inj heq⟩
  · cases heq

theorem under_cons_other {other : String} (h : other ≠ name) :
    under name ((some other, d) :: members) = under name members := by
  simp [under, h]

/-- What a field gets, with what it has so far, from all that an object has under its name.  A name
that is there twice gives nothing. -/
inductive Gets (read : Document → Except DecodeError β) (unnamed slot : Option β) :
    List Document → β → Prop
  | kept {b} (hslot : slot = some b) : Gets read unnamed slot [] b
  | default {b} (hslot : slot = none) (hunnamed : unnamed = some b) : Gets read unnamed slot [] b
  | read {d b} (hslot : slot = none) (hread : read d = .ok b) : Gets read unnamed slot [d] b

/-- What an object has for a field that may be null or missing, which counts as the same. -/
inductive Holds (read : Decoder β) (name : String) (members : List (Option String × Document)) :
    Option β → Prop
  | missing (hunder : under name members = []) : Holds read name members none
  | null (hunder : under name members = [.null]) : Holds read name members none
  | value {d b} (hunder : under name members = [d]) (hnull : d ≠ .null)
      (hread : read .text d = .ok b) : Holds read name members (some b)

theorem gets_required_iff {read : Decoder β} {docs : List Document} {b : β} :
    Gets (read origin) none none docs b ↔ ∃ d, docs = [d] ∧ read origin d = .ok b := by
  constructor
  · rintro (hslot | ⟨-, hunnamed⟩ | ⟨-, hread⟩)
    · cases hslot
    · cases hunnamed
    · exact ⟨_, rfl, hread⟩
  · rintro ⟨d, rfl, hread⟩
    exact .read rfl hread

theorem gets_optional_iff {read : Decoder β} {b : Option β} :
    Gets (read.optional .text) (some none) none (under name members) b ↔
      Holds read name members b := by
  constructor
  · intro h
    generalize hunder : under name members = docs at h
    cases h with
    | kept hkept => cases hkept
    | default _ hnone =>
      obtain rfl := Option.some.inj hnone
      exact .missing hunder
    | @read d _ _ hread =>
      unfold Decoder.optional at hread
      split at hread
      · obtain rfl := Except.ok.inj hread
        exact .null hunder
      · rename_i hnull
        split at hread
        · rename_i hread'
          obtain rfl := Except.ok.inj hread
          exact .value hunder hnull hread'
        · cases hread
  · rintro (hunder | hunder | ⟨hunder, hnull, hread⟩)
    · rw [hunder]
      exact .default rfl rfl
    · rw [hunder]
      exact .read rfl rfl
    · rw [hunder]
      refine .read rfl ?_
      unfold Decoder.optional
      split
      · exact absurd rfl hnull
      · rw [hread]

/-- A text is nothing but an object with the given members, in order. -/
def IsObject (text : String) (members : List (Option String × Document)) : Prop :=
  Document.read (some depthLimit) text = (.object members true, true)

/-- A text is nothing but an array of the given items. -/
def IsArray (text : String) (items : List Document) : Prop :=
  Document.read (some depthLimit) text = (.array items true, true)

/-- What is read from a text is read from a whole document. -/
theorem decodeText_eq_ok_iff (read : Decoder α) (text : String) (a : α) :
    decodeText read text = .ok a ↔
      ∃ d, Document.read (some depthLimit) text = (d, true) ∧ read .text d = .ok a := by
  rw [decodeText]
  obtain ⟨d, whole⟩ := Document.read (some depthLimit) text
  cases hread : read .text d with
  | error e => simp [hread]
  | ok b => cases whole <;> simp [hread]

namespace Record

/-- The names of the fields, the last one first. -/
def names : {α : Type} → Record α → List String
  | _, .make _ => []
  | _, .field earlier name .. => name :: earlier.names

/-- The fields of a record get from an object what makes the given data. -/
def Gives (origin : Origin) (members : List (Option String × Document)) :
    {α : Type} → Record α → α → Prop
  | _, .make value, a => a = value
  | _, .field earlier name read unnamed _ slot, a =>
    ∃ build b, earlier.Gives origin members build ∧
      Gets (read origin) unnamed slot (under name members) b ∧ a = build b

theorem declares_iff (r : Record α) : r.declares name = true ↔ name ∈ r.names := by
  induction r with
  | make value => simp [declares, names]
  | field earlier n read unnamed unlisted slot ih =>
    rw [declares, names, Bool.or_eq_true, beq_iff_eq, ih, List.mem_cons, @eq_comm _ n]

/-- A document is taken by the last field if this has the name, and otherwise by an earlier one. -/
theorem offer_field_eq_ok_iff {earlier : Record (β → α)} {n : String} {read : Decoder β}
    {unnamed unlisted slot : Option β} {r' : Record α} :
    (field earlier n read unnamed unlisted slot).offer origin name d = .ok r' ↔
      n = name ∧ slot = none ∧
          (∃ b, read origin d = .ok b ∧ field earlier n read unnamed unlisted (some b) = r') ∨
        n ≠ name ∧
          ∃ e, earlier.offer origin name d = .ok e ∧ field e n read unnamed unlisted slot = r' := by
  conv_lhs => unfold offer
  by_cases hn : n = name
  · rw [if_pos hn]
    cases slot with
    | some b => simp [hn]
    | none => cases read origin d <;> simp [hn]
  · rw [if_neg hn]
    cases earlier.offer origin name d <;> simp [hn]

theorem names_offer {r r' : Record α} (h : r.offer origin name d = .ok r') :
    r'.names = r.names := by
  induction r with
  | make value =>
    obtain rfl := Except.ok.inj h
    rfl
  | field earlier n read unnamed unlisted slot ih =>
    rcases offer_field_eq_ok_iff.1 h with ⟨-, -, b, -, rfl⟩ | ⟨-, e, he, rfl⟩
    · rfl
    · rw [names, names, ih he]

/-- A record that is finished holds what its fields got so far. -/
theorem gives_nil (r : Record α) (a : α) : r.Gives origin [] a ↔ r.finish = .ok a := by
  induction r with
  | make value => simp [finish, Gives, eq_comm]
  | field earlier n read unnamed unlisted slot ih =>
    constructor
    · rintro ⟨build, b, hbuild, hgets, rfl⟩
      rw [finish, (ih build).1 hbuild]
      cases hgets with
      | kept hslot =>
        subst hslot
        rfl
      | default hslot hunnamed =>
        subst hslot hunnamed
        rfl
    · intro h
      unfold finish at h
      split at h
      · cases h
      · rename_i build hbuild
        split at h
        · exact ⟨build, _, (ih build).2 hbuild, .kept rfl, (Except.ok.inj h).symm⟩
        · exact ⟨build, _, (ih build).2 hbuild, .default rfl rfl, (Except.ok.inj h).symm⟩
        · cases h

/-- A member of another name gives nothing. -/
theorem gives_cons_other {r : Record α} (hname : name ∉ r.names) (a : α) :
    r.Gives origin ((some name, d) :: members) a ↔ r.Gives origin members a := by
  induction r with
  | make value => rfl
  | field earlier n read unnamed unlisted slot ih =>
    rw [names, List.mem_cons, not_or] at hname
    simp only [Gives, ih hname.2, under_cons_other hname.1]

/-- A field takes the first member of its name, and no other. -/
theorem gets_cons {read : Document → Except DecodeError β} {unnamed slot : Option β}
    {rest : List Document} {b : β} :
    Gets read unnamed slot (d :: rest) b ↔
      slot = none ∧ ∃ b', read d = .ok b' ∧ Gets read unnamed (some b') rest b := by
  constructor
  · rintro (_ | _ | ⟨hslot, hread⟩)
    exact ⟨hslot, b, hread, .kept rfl⟩
  · rintro ⟨hslot, b', hread, hrest⟩
    cases hrest with
    | kept hkept =>
      obtain rfl := Option.some.inj hkept
      exact .read hslot hread
    | default hnone => cases hnone
    | read hnone => cases hnone

/-- A member gives what the record gives that has taken it. -/
theorem gives_cons_self {r : Record α} (hnames : r.names.Nodup) (hname : name ∈ r.names) (a : α) :
    r.Gives origin ((some name, d) :: members) a ↔
      ∃ r', r.offer origin name d = .ok r' ∧ r'.Gives origin members a := by
  induction r with
  | make value => cases hname
  | field earlier n read unnamed unlisted slot ih =>
    rw [names, List.nodup_cons] at hnames
    unfold offer
    by_cases hn : n = name
    · subst hn
      simp only [Gives, gives_cons_other hnames.1, under_cons_self, gets_cons, if_true]
      cases slot with
      | some b => simp
      | none =>
        cases read origin d with
        | error e => simp
        | ok b => simp [Gives]
    · have hearlier : name ∈ earlier.names := (List.mem_cons.1 hname).resolve_left (Ne.symm hn)
      simp only [Gives, ih hnames.2 hearlier, under_cons_other (Ne.symm hn), if_neg hn]
      cases earlier.offer origin name d with
      | error e => simp
      | ok r' => simp [Gives]

/-! ### Objects -/

/-- All members of an object have names, and those that are no fields are undamaged. -/
def Fits (r : Record α) (members : List (Option String × Document)) : Prop :=
  ∀ m ∈ members, ∃ name, m.1 = some name ∧ (name ∈ r.names ∨ m.2.intact = true)

theorem fits_cons {r : Record α} : r.Fits ((some name, d) :: members) ↔
    (name ∈ r.names ∨ d.intact = true) ∧ r.Fits members := by
  simp [Fits]

/-- A record that has taken all members of an object holds what its fields get from the object. -/
theorem takeMembers_iff {r : Record α} (hnames : r.names.Nodup) (a : α) :
    (∃ filled, r.takeMembers origin members = .ok filled ∧ filled.finish = .ok a) ↔
      r.Fits members ∧ r.Gives origin members a := by
  induction members generalizing r with
  | nil => simp [takeMembers, Fits, gives_nil]
  | cons m members ih =>
    obtain ⟨_ | name, d⟩ := m
    · simp [takeMembers, Fits]
    rw [fits_cons, takeMembers]
    by_cases hname : name ∈ r.names
    · -- The member fills its field, and the rest is told by the record with that field filled.
      rw [if_pos ((declares_iff r).2 hname), gives_cons_self hnames hname]
      cases hoffer : r.offer origin name d with
      | error e => simp
      | ok r' =>
        have hnames' := names_offer hoffer
        simpa [Fits, hname, hnames'] using ih (r := r') (by rwa [hnames'])
    · rw [if_neg (mt (declares_iff r).1 hname), gives_cons_other hname]
      cases hintact : d.intact with
      | false => simp [hname]
      | true => simpa [hname] using ih hnames

/-- What is read from an object that is not damaged. -/
theorem decodeMembers_eq_ok_iff {r : Record α} (hnames : r.names.Nodup) (closed : Bool) (a : α) :
    r.decodeMembers origin members closed = .ok a ↔
      closed = true ∧ r.Fits members ∧ r.Gives origin members a := by
  rw [← takeMembers_iff hnames, decodeMembers]
  cases r.takeMembers origin members with
  | error e => simp
  | ok filled => cases closed <;> simp

/-- The members of a whole object are undamaged, so they must only have names. -/
theorem fits_of_intact {r : Record α} (h : Document.intactMembers members = true) :
    r.Fits members ↔ ∀ m ∈ members, m.1 ≠ none := by
  refine forall₂_congr fun m hm => ?_
  have hintact := Document.intactMembers_iff.1 h m hm
  cases m.1 <;> simp [hintact]

/-! ### Arrays -/

/-- The names of the fields in their order. -/
def labels (r : Record α) : List String := r.names.reverse

/-- The items of an array as members of the object that names the fields in their order. -/
def listed (labels : List String) (items : List Document) : List (Option String × Document) :=
  (labels.map some).zip items

/-- The fields of some names are empty, and the defaults of all fields are the same in objects and
in arrays. -/
def Awaits (awaited : List String) : {α : Type} → Record α → Prop
  | _, .make _ => True
  | _, .field earlier name _ unnamed unlisted slot =>
    (name ∈ awaited → slot = none) ∧ unlisted = unnamed ∧ earlier.Awaits awaited

theorem arity_eq (r : Record α) : r.arity = r.labels.length := by
  rw [labels, List.length_reverse]
  induction r with
  | make value => rfl
  | field earlier n read unnamed unlisted slot ih => rw [arity, names, List.length_cons, ih]

theorem Awaits.of_cons {r : Record α} {awaited : List String} (h : r.Awaits (name :: awaited)) :
    r.Awaits awaited := by
  induction r with
  | make value => trivial
  | field earlier n read unnamed unlisted slot ih =>
    obtain ⟨hslot, hsame, hearlier⟩ := h
    exact ⟨fun hn => hslot (List.mem_cons_of_mem name hn), hsame, ih hearlier⟩

/-- What was awaited last is awaited no more. -/
theorem Awaits.offer {r r' : Record α} {awaited : List String} (h : r.Awaits (name :: awaited))
    (hfresh : name ∉ awaited) (hoffer : r.offer origin name d = .ok r') : r'.Awaits awaited := by
  induction r with
  | make value =>
    obtain rfl := Except.ok.inj hoffer
    trivial
  | field earlier n read unnamed unlisted slot ih =>
    obtain ⟨hslot, hsame, hearlier⟩ := h
    rcases offer_field_eq_ok_iff.1 hoffer with ⟨rfl, -, b, -, rfl⟩ | ⟨-, e, he, rfl⟩
    · exact ⟨fun hmem => absurd hmem hfresh, hsame, hearlier.of_cons⟩
    · exact ⟨fun hmem => hslot (List.mem_cons_of_mem name hmem), hsame, ih hearlier he⟩

/-- An item is a member with the name of its place. -/
theorem offerAt_eq_offer {r : Record α} {place : Nat} {awaited : List String}
    (hnames : r.names.Nodup) (hplace : r.labels[place]? = some name)
    (h : r.Awaits (name :: awaited)) : r.offerAt origin place d = r.offer origin name d := by
  induction r with
  | make value => rfl
  | field earlier n read unnamed unlisted slot ih =>
    obtain ⟨hslot, -, hearlier⟩ := h
    obtain ⟨hfresh, hnames⟩ := List.nodup_cons.1 hnames
    rw [labels, names, List.reverse_cons, ← labels] at hplace
    unfold offerAt Record.offer
    by_cases hlast : place = earlier.arity
    · rw [hlast, arity_eq, List.getElem?_concat_length] at hplace
      obtain rfl := Option.some.inj hplace
      rw [hslot List.mem_cons_self, if_pos hlast, if_pos rfl]
    · have hlt : place < earlier.labels.length := by
        have hbound := (List.getElem?_eq_some_iff.1 hplace).1
        rw [List.length_append, List.length_singleton] at hbound
        rw [arity_eq] at hlast
        omega
      rw [List.getElem?_append_left hlt] at hplace
      have hne : n ≠ name := by
        rintro rfl
        exact hfresh (List.mem_reverse.1 (List.mem_of_getElem? hplace))
      rw [if_neg hlast, if_neg hne, ih hnames hplace hearlier]

/-- Nothing but the defaults tells the end of an array from the end of an object. -/
theorem finishItems_iff {r : Record α} {awaited : List String} (h : r.Awaits awaited) (a : α) :
    r.finishItems = .ok a ↔ r.finish = .ok a := by
  induction r with
  | make value => simp [finishItems, finish]
  | field earlier n read unnamed unlisted slot ih =>
    obtain ⟨-, rfl, hearlier⟩ := h
    unfold finishItems finish
    cases hbuild : earlier.finish with
    | error e =>
      cases hbuild' : earlier.finishItems with
      | error place => simp
      | ok build => rw [(ih hearlier build).1 hbuild'] at hbuild; cases hbuild
    | ok build =>
      rw [(ih hearlier build).2 hbuild]
      cases slot <;> cases unlisted <;> simp

/-- Items that are taken from a place on are members with the names from there on. -/
theorem takeItems_iff {r : Record α} {place : Nat} {awaited : List String} {items : List Document}
    (hnames : r.names.Nodup) (hawaited : r.labels.drop place = awaited) (h : r.Awaits awaited)
    (a : α) :
    (∃ filled, r.takeItems origin items place = .ok (filled, []) ∧ filled.finishItems = .ok a) ↔
      items.length ≤ awaited.length ∧
        ∃ filled, r.takeMembers origin (listed awaited items) = .ok filled ∧
          filled.finish = .ok a := by
  induction items generalizing r place awaited with
  | nil => simp [takeItems, listed, takeMembers, finishItems_iff h]
  | cons d items ih =>
    rw [takeItems, arity_eq]
    cases awaited with
    | nil =>
      have hend : ¬ place < r.labels.length := Nat.not_lt.2 (List.drop_eq_nil_iff.1 hawaited)
      simp [hend]
    | cons name awaited =>
      have hplace : r.labels[place]? = some name := by
        rw [← List.head?_drop, hawaited]
        rfl
      have hlt := (List.getElem?_eq_some_iff.1 hplace).1
      have hmem : name ∈ r.names := List.mem_reverse.1 (List.mem_of_getElem? hplace)
      have hfresh : name ∉ awaited := by
        have hnodup := (List.nodup_reverse.2 hnames).sublist (List.drop_sublist place _)
        rw [← labels, hawaited] at hnodup
        exact (List.nodup_cons.1 hnodup).1
      have hlisted : listed (name :: awaited) (d :: items) =
          (some name, d) :: listed awaited items := rfl
      rw [if_pos hlt, offerAt_eq_offer hnames hplace h, hlisted, takeMembers,
        if_pos ((declares_iff r).2 hmem), List.length_cons, List.length_cons,
        Nat.add_le_add_iff_right]
      cases hoffer : r.offer origin name d with
      | error e => simp
      | ok r' =>
        have hnames' := names_offer hoffer
        refine ih (by rwa [hnames']) ?_ (h.offer hfresh hoffer)
        rw [labels, hnames', ← labels, ← List.tail_drop, hawaited]
        rfl

/-- What is read from an array is what is read from the object that names its items in the order of
the fields.  There may be fewer items than fields, but not more. -/
theorem decodeItems_eq_ok_iff {r : Record α} (hnames : r.names.Nodup) (h : r.Awaits r.labels)
    (kind : String) (items : List Document) (a : α) :
    r.decodeItems kind .text items true = .ok a ↔
      items.length ≤ r.labels.length ∧ r.Gives .text (listed r.labels items) a := by
  have hfits : r.Fits (listed r.labels items) := by
    intro m hm
    obtain ⟨name, hname, heq⟩ := List.mem_map.1 (List.of_mem_zip hm).1
    exact ⟨name, heq.symm, Or.inl (List.mem_reverse.1 hname)⟩
  have htaken : (∃ filled, r.takeItems .text items 0 = .ok (filled, []) ∧
      filled.finishItems = .ok a) ↔ items.length ≤ r.labels.length ∧
        ∃ filled, r.takeMembers .text (listed r.labels items) = .ok filled ∧
          filled.finish = .ok a :=
    takeItems_iff hnames List.drop_zero h a
  rw [takeMembers_iff hnames, and_iff_right hfits] at htaken
  rw [← htaken, decodeItems]
  cases r.takeItems .text items 0 with
  | error e => simp
  | ok taken =>
    obtain ⟨filled, surplus⟩ := taken
    cases hfinish : filled.finishItems <;> cases surplus <;> simp [hfinish]

/-! ### Whole documents -/

/-- An undamaged document is read as a record from the members of an object by their names, or from
the items of an array in the order of the fields. -/
theorem decoder_eq_ok_iff {r : Record α} (hnames : r.names.Nodup) (h : r.Awaits r.labels)
    (kind : String) (hintact : d.intact = true) (a : α) :
    r.decoder kind .text d = .ok a ↔
      ∃ members, r.Gives .text members a ∧
        (d = .object members true ∧ (∀ m ∈ members, m.1 ≠ none) ∨
          ∃ items, d = .array items true ∧ items.length ≤ r.labels.length ∧
            members = listed r.labels items) := by
  constructor
  · intro ha
    cases d with
    | object members closed =>
      obtain ⟨hmembers, rfl⟩ := Bool.and_eq_true_iff.1 hintact
      obtain ⟨-, hfits, hgives⟩ := (decodeMembers_eq_ok_iff hnames true a).1 ha
      exact ⟨members, hgives, Or.inl ⟨rfl, (fits_of_intact hmembers).1 hfits⟩⟩
    | array items closed =>
      obtain ⟨-, rfl⟩ := Bool.and_eq_true_iff.1 hintact
      obtain ⟨hlength, hgives⟩ := (decodeItems_eq_ok_iff hnames h kind items a).1 ha
      exact ⟨_, hgives, Or.inr ⟨items, rfl, hlength, rfl⟩⟩
    | null | bool _ | number _ | string _ | unrepresentable | broken => cases ha
  · rintro ⟨members, hgives, ⟨rfl, hnamed⟩ | ⟨items, rfl, hlength, rfl⟩⟩
    · obtain ⟨hmembers, -⟩ := Bool.and_eq_true_iff.1 hintact
      exact (decodeMembers_eq_ok_iff hnames true a).2
        ⟨rfl, (fits_of_intact hmembers).2 hnamed, hgives⟩
    · exact (decodeItems_eq_ok_iff hnames h kind items a).2 ⟨hlength, hgives⟩

/-! ### Texts -/

/-- A text is read as a record from the members of an object by their names, or from the items of an
array in the order of the fields. -/
theorem decodeText_decoder_iff {r : Record α} (hnames : r.names.Nodup) (h : r.Awaits r.labels)
    (kind text : String) (a : α) :
    decodeText (r.decoder kind) text = .ok a ↔
      ∃ members, r.Gives .text members a ∧
        (IsObject text members ∧ (∀ m ∈ members, m.1 ≠ none) ∨
          ∃ items, IsArray text items ∧ items.length ≤ r.labels.length ∧
            members = listed r.labels items) := by
  rw [decodeText_eq_ok_iff]
  have hiff {d : Document} (hread : Document.read (some depthLimit) text = (d, true)) :=
    decoder_eq_ok_iff hnames h kind (Document.intact_of_read hread) a
  constructor
  · rintro ⟨d, hread, ha⟩
    obtain ⟨members, hgives, ⟨rfl, hnamed⟩ | ⟨items, rfl, hlength, rfl⟩⟩ := (hiff hread).1 ha
    · exact ⟨members, hgives, Or.inl ⟨hread, hnamed⟩⟩
    · exact ⟨_, hgives, Or.inr ⟨items, hread, hlength, rfl⟩⟩
  · rintro ⟨members, hgives, ⟨hread, hnamed⟩ | ⟨items, hread, hlength, rfl⟩⟩
    · exact ⟨_, hread, (hiff hread).2 ⟨members, hgives, Or.inl ⟨rfl, hnamed⟩⟩⟩
    · exact ⟨_, hread, (hiff hread).2 ⟨_, hgives, Or.inr ⟨items, rfl, hlength, rfl⟩⟩⟩

end Record

end ValueTrace.Json
