import ValueTrace.Proofs.Json.Printing
import ValueTrace.Proofs.Json.Records

/-!
# Data that are written and read

A decoder that reads what was written of data as these data (`Decoder.Inverts`) reads lists of them
as well.  Data are written as values without doubles, so that the compact and the indented text of
such a value are read as this value (`Value.IsWritten.read_compact`,
`Value.IsWritten.read_indented`).

## Main definitions

* `Decoder.Inverts` : a decoder reads what was written of data as these data.
* `Value.IsWritten` : values whose texts are read as they are because they have no doubles.

## Main results

* `Decoder.Inverts.list` : lists are read if their items are.
* `Record.Gives.decoder_eq` : the record that an object with only its fields gives.
* `Value.IsWritten.read_compact`, `Value.IsWritten.read_indented` : the texts of written values.
* `Value.IsWritten.valueRead_indented` : what an indented text denotes.
-/

namespace ValueTrace.Json

variable {α β : Type} {name : String} {d : Document} {members : List (Option String × Document)}
variable {origin : Origin}

/-! ### Plain data -/

/-- A decoder reads what was written of data as these data, wherever it comes from. -/
def Decoder.Inverts (read : Decoder α) (write : α → Value) : Prop :=
  ∀ origin a, read origin (.ofValue (write a)) = .ok a

namespace Decoder

theorem natural_ofNat {bits n : Nat} {expected : String} (h : n < Nat.pow 2 bits) :
    natural bits expected origin (.ofValue (.ofNat n)) = .ok n := by
  have hrange : integer 0 ((Nat.pow 2 bits : Int) - 1) expected origin (.ofValue (.ofNat n)) =
      .ok n :=
    integer_eq_ok_iff.2 ⟨rfl, Int.natCast_nonneg n, by omega⟩
  rw [natural, hrange]
  rfl

theorem uint16_ofNat (n : UInt16) : uint16 origin (.ofValue (.ofNat n.toNat)) = .ok n := by
  rw [uint16, map, natural_ofNat n.toNat_lt]
  exact congrArg Except.ok UInt16.ofNat_toNat

theorem uint32_ofNat (n : UInt32) : uint32 origin (.ofValue (.ofNat n.toNat)) = .ok n := by
  rw [uint32, map, natural_ofNat n.toNat_lt]
  exact congrArg Except.ok UInt32.ofNat_toNat

theorem uint64_ofNat (n : UInt64) : uint64 origin (.ofValue (.ofNat n.toNat)) = .ok n := by
  rw [uint64, map, natural_ofNat n.toNat_lt]
  exact congrArg Except.ok UInt64.ofNat_toNat

theorem inverts_text : text.Inverts .string := fun _ _ => rfl

/-- Lists are read if their items are. -/
theorem Inverts.list {read : Decoder α} {write : α → Value} (h : read.Inverts write) :
    read.list.Inverts fun as => .array (as.map write) := by
  intro origin as
  have hitems : read.items origin ((as.map write).map .ofValue) = .ok as := by
    induction as with
    | nil => rfl
    | cons a as ih => simp only [List.map_cons, items, h origin a, ih]
  rw [Document.ofValue, Document.ofItems_eq_map, Decoder.list]
  simp only [hitems, if_true]

end Decoder

/-! ### Records -/

namespace Record

variable {r : Record (β → α)} {build : β → α} {read : Decoder β} {absent b : β}

theorem gives_make (a : α) (origin : Origin) (members : List (Option String × Document)) :
    (make a).Gives origin members a := rfl

theorem Gives.withDefault (h : r.Gives origin members build)
    (hget : Gets (read origin) (some absent) none (under name members) b) :
    (r.withDefault name read absent).Gives origin members (build b) :=
  ⟨build, b, h, hget, rfl⟩

theorem Gives.required (h : r.Gives origin members build) (hunder : under name members = [d])
    (hread : read origin d = .ok b) : (r.required name read).Gives origin members (build b) :=
  ⟨build, b, h, hunder ▸ .read rfl hread, rfl⟩

/-- The record that an object with only its fields gives. -/
theorem Gives.decoder_eq {r : Record α} {a : α} (h : r.Gives origin members a) (kind : String)
    (hnodup : r.names.Nodup) (hnames : ∀ m ∈ members, ∃ name ∈ r.names, m.1 = some name) :
    r.decoder kind origin (.object members true) = .ok a := by
  refine (decodeMembers_eq_ok_iff hnodup true a).2 ⟨rfl, fun m hm => ?_, h⟩
  obtain ⟨name, hname, heq⟩ := hnames m hm
  exact ⟨name, heq, .inl hname⟩

end Record

/-! ### Written values -/

/-- A value whose text is read as this value because it has no doubles. -/
structure Value.IsWritten (depth : Nat) (v : Value) : Prop where
  isReadable : v.IsReadable depth
  doubles : v.doubles = []

namespace Value.IsWritten

variable {depth : Nat} {v : Value}

theorem ofNat {n : Nat} (h : n < UInt64.size) : (Value.ofNat n).IsWritten depth := by
  refine ⟨.number ⟨?_, by exact_mod_cast h⟩, rfl⟩
  have := Int.natCast_nonneg (Nat.pow 2 63)
  omega

theorem array {items : List Value} (h : ∀ v ∈ items, v.IsWritten depth) :
    (Value.array items).IsWritten (depth + 1) := by
  refine ⟨.array fun v hv => (h v hv).isReadable, List.eq_nil_iff_forall_not_mem.2 fun x hx => ?_⟩
  obtain ⟨v, hv, hmem⟩ := mem_itemsDoubles.1 hx
  rw [(h v hv).doubles] at hmem
  cases hmem

theorem object {members : List (String × Value)} (hnodup : (members.map Prod.fst).Nodup)
    (h : ∀ m ∈ members, m.2.IsWritten depth) : (Value.object members).IsWritten (depth + 1) := by
  refine ⟨.object hnodup fun m hm => (h m hm).isReadable,
    List.eq_nil_iff_forall_not_mem.2 fun x hx => ?_⟩
  obtain ⟨m, hm, hmem⟩ := mem_membersDoubles.1 hx
  rw [(h m hm).doubles] at hmem
  cases hmem

theorem halfWord (n : UInt32) : (Value.ofNat n.toNat).IsWritten depth :=
  .ofNat (Nat.lt_trans n.toNat_lt (by decide))

theorem word (n : UInt64) : (Value.ofNat n.toNat).IsWritten depth := .ofNat n.toNat_lt

theorem string (text : String) : (Value.string text).IsWritten depth := ⟨.string, rfl⟩

theorem texts (texts : List String) :
    (Value.array (texts.map .string)).IsWritten (depth + 1) := by
  refine .array fun v hv => ?_
  obtain ⟨text, -, rfl⟩ := List.mem_map.1 hv
  exact .string text

/-! ### Texts of written values -/

theorem isLegible (h : v.IsWritten depth) : ∀ x ∈ v.doubles, (Number.float x).IsLegible := by
  intro x hx
  rw [h.doubles] at hx
  cases hx

theorem isWithin (hroom : depth ≤ depthLimit) : IsWithin (some depthLimit) depth := by
  rintro bound hbound
  obtain rfl := Option.some.inj hbound
  exact hroom

/-- Written values are read from their compact texts. -/
theorem read_compact (h : v.IsWritten depth) (hroom : depth ≤ depthLimit) :
    Document.read (some depthLimit) v.compact = (.ofValue v, true) :=
  Document.read_compact h.isReadable h.isLegible (isWithin hroom)

/-- Written values are read from their indented texts, also with blanks behind these. -/
theorem read_indented (h : v.IsWritten depth) (hroom : depth ≤ depthLimit) {tail : List Char}
    (htail : ∀ c ∈ tail, isBlank c = true) :
    Document.read (some depthLimit) (v.indented ++ String.ofList tail) = (.ofValue v, true) :=
  Document.read_indented h.isReadable h.isLegible (isWithin hroom) htail

/-- What the indented text of a written value denotes, also with blanks behind it. -/
theorem valueRead_indented (h : v.IsWritten depth) {tail : List Char}
    (htail : ∀ c ∈ tail, isBlank c = true) :
    Value.read (v.indented ++ String.ofList tail) = some v := by
  have hread : Document.read none (v.indented ++ String.ofList tail) = (.ofValue v, true) :=
    Document.read_indented h.isReadable h.isLegible (fun _ hbound => nomatch hbound) htail
  rw [Value.read, hread]
  exact h.isReadable.value?_ofValue

end Value.IsWritten

end ValueTrace.Json
