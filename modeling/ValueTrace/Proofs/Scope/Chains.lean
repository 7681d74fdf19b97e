import Mathlib.Data.List.Basic
import ValueTrace.Proofs.Scope.Histories

/-!
# Access chains and their histories

Expressions that are written alike share a history, so it matters that different expressions are
written differently.  For literals and for nodes without a text this fails, but a chain of names,
dots and brackets is determined by its text, up to the places of its parts
(`access_chains_told_apart`).

A text is read from its end, where the outermost access stands: a closing bracket ends an index, and
anything else ends a name.  The index is again such a text, and in front of it stands the object and
an opening bracket.  So the induction is on the chain behind an arbitrary text, which is empty or
ends in an opening bracket (`IsAccess.eq_of_append_eq`), and no brackets need to be counted.

## Main definitions

* `Node.unplaced` : a tree without the places of its nodes.
* `IsName`, `IsAccess` : names and the chains that are built from them.

## Main results

* `IsAccess.eq_of_append_eq` : a chain is read off the end of a text.
* `access_chains_told_apart` : chains are told apart by their texts and by their histories.
-/

namespace ValueTrace

/-! ### Trees without places -/

/-- The place that is left of every place when places are forgotten. -/
def nowhere : SourceLocation := ⟨⟨0, 0⟩, ⟨0, 0⟩⟩

mutual

/-- A tree without the places of its nodes.  Two trees are the same up to source locations if they
are equal without them. -/
def Node.unplaced : Node → Node
  | .identifier name _ => .identifier name nowhere
  | .member object property computed _ =>
    .member object.unplaced property.unplaced computed nowhere
  | .literal value _ => .literal value none
  | .other kind _ children => .other kind none (unplacedAll children)

/-- Trees without the places of their nodes. -/
def unplacedAll : List Node → List Node
  | [] => []
  | n :: rest => n.unplaced :: unplacedAll rest

end

/-- A text says nothing about places. -/
theorem Node.render_unplaced (n : Node) : n.unplaced.render = n.render := by
  cases n with
  | identifier name l => rfl
  | literal value l => rfl
  | other kind l children => rfl
  | member object property computed l =>
    cases computed <;>
      simp only [unplaced, render, object.render_unplaced, property.render_unplaced]

/-! ### Access chains -/

/-- The characters that separate the names of a chain from each other. -/
def IsSeparator (c : Char) : Prop := c = '.' ∨ c = '[' ∨ c = ']'

/-- A name is not empty and has no separator. -/
structure IsName (s : String) : Prop where
  nonempty : s ≠ ""
  separator : ∀ c ∈ s.toList, ¬ IsSeparator c

/-- A name, a name after the dot behind a chain, or a chain in brackets behind a chain. -/
inductive IsAccess : Node → Prop
  | name {s l} (h : IsName s) : IsAccess (.identifier s l)
  | dotted {object s l l'} (hobject : IsAccess object) (h : IsName s) :
      IsAccess (.member object (.identifier s l) false l')
  | indexed {object property l} (hobject : IsAccess object) (hproperty : IsAccess property) :
      IsAccess (.member object property true l)

section Text

variable (front : List Char) (object property : Node) (s : String) (l l' : SourceLocation)

/-- A text that ends with a chain, with the last name of the chain apart. -/
theorem append_render_dotted :
    front ++ (Node.member object (.identifier s l) false l').render.toList =
      front ++ object.render.toList ++ ['.'] ++ s.toList := by
  simp [Node.render]

/-- A text that ends with a chain, with the last brackets of the chain apart. -/
theorem append_render_indexed :
    front ++ (Node.member object property true l).render.toList =
      front ++ object.render.toList ++ ['['] ++ property.render.toList ++ [']'] := by
  simp [Node.render]

end Text

/-! ### Reading from the end -/

variable {s s' : String} {front front' more rest : List Char}

/-- A text that ends in a separator does not end in a part of a name. -/
theorem IsName.eq_nil_of_separator (hs : IsName s) (hmore : ∀ c ∈ more, c ∈ s.toList)
    (hlast : ∀ c ∈ (front ++ more).getLast?, IsSeparator c) : more = [] := by
  by_contra hne
  have hmem : more.getLast hne ∈ (front ++ more).getLast? := by
    rw [List.getLast?_append_of_ne_nil _ hne, List.getLast?_eq_some_getLast hne]
    rfl
  exact hs.separator _ (hmore _ (List.getLast_mem hne)) (hlast _ hmem)

/-- Names behind fronts that end in separators are read off the end. -/
theorem IsName.eq_of_append_eq (hs : IsName s) (hs' : IsName s')
    (hfront : ∀ c ∈ front.getLast?, IsSeparator c) (hfront' : ∀ c ∈ front'.getLast?, IsSeparator c)
    (h : front ++ s.toList = front' ++ s'.toList) : s = s' ∧ front = front' := by
  -- What one front has more than the other is part of a name.
  rcases List.append_eq_append_iff.1 h with ⟨more, rfl, hname⟩ | ⟨more, rfl, hname⟩
  · obtain rfl := hs.eq_nil_of_separator (fun c hc => hname ▸ List.mem_append_left _ hc) hfront'
    exact ⟨String.toList_inj.1 hname, (List.append_nil front).symm⟩
  · obtain rfl := hs'.eq_nil_of_separator (fun c hc => hname ▸ List.mem_append_left _ hc) hfront
    exact ⟨(String.toList_inj.1 hname).symm, List.append_nil front'⟩

/-- No text ends in a name and in a bracket. -/
theorem IsName.append_ne_bracket (hs : IsName s) : front ++ s.toList ≠ rest ++ [']'] := by
  intro h
  have hnil : s.toList ≠ [] := fun hnil => hs.nonempty (String.toList_eq_nil_iff.1 hnil)
  have hlast : s.toList.getLast? = some ']' := by
    rw [← List.getLast?_append_of_ne_nil front hnil, h, List.getLast?_concat]
  exact hs.separator ']' (List.mem_of_getLast? hlast) (Or.inr (Or.inr rfl))

/-- What may stand in front of a chain that is read from the end: nothing, or a text that ends in an
opening bracket. -/
def IsFront (front : List Char) : Prop := ∀ c ∈ front.getLast?, c = '['

namespace IsFront

theorem nil : IsFront [] := fun _ h => absurd h (Option.not_mem_none _)

theorem bracket : IsFront (front ++ ['[']) := by
  intro c hc
  rw [List.getLast?_concat] at hc
  exact (Option.some.inj hc).symm

theorem separator (h : IsFront front) : ∀ c ∈ front.getLast?, IsSeparator c :=
  fun c hc => Or.inr (Or.inl (h c hc))

theorem ne_dot (h : IsFront front) : front ≠ rest ++ ['.'] := by
  rintro rfl
  exact absurd (h '.' (List.getLast?_concat ..)) (by decide)

end IsFront

theorem separator_dot : ∀ c ∈ (front ++ ['.']).getLast?, IsSeparator c := by
  intro c hc
  rw [List.getLast?_concat] at hc
  exact Or.inl (Option.some.inj hc).symm

/-- A chain behind a front is read off the end of a text, and the front with it. -/
theorem IsAccess.eq_of_append_eq {n m : Node} (hn : IsAccess n) (hm : IsAccess m)
    (hfront : IsFront front) (hfront' : IsFront front')
    (h : front ++ n.render.toList = front' ++ m.render.toList) :
    n.unplaced = m.unplaced ∧ front = front' := by
  -- The last character tells a bracket from a name, the one before a name a dot from a front.
  induction hn generalizing m front front' with
  | @name s l hs =>
    cases hm with
    | @name s' l' hs' =>
      obtain ⟨rfl, hfronts⟩ := hs.eq_of_append_eq hs' hfront.separator hfront'.separator h
      exact ⟨rfl, hfronts⟩
    | @dotted object' s' l' l'' hobject' hs' =>
      rw [append_render_dotted] at h
      obtain ⟨-, hfronts⟩ := hs.eq_of_append_eq hs' hfront.separator separator_dot h
      exact absurd hfronts hfront.ne_dot
    | @indexed object' property' l' hobject' hproperty' =>
      rw [append_render_indexed] at h
      exact absurd h hs.append_ne_bracket
  | @dotted object s l l' hobject hs ih =>
    rw [append_render_dotted] at h
    cases hm with
    | @name s' l'' hs' =>
      obtain ⟨-, hfronts⟩ := hs.eq_of_append_eq hs' separator_dot hfront'.separator h
      exact absurd hfronts.symm hfront'.ne_dot
    | @dotted object' s' l'' l''' hobject' hs' =>
      rw [append_render_dotted] at h
      obtain ⟨rfl, hfronts⟩ := hs.eq_of_append_eq hs' separator_dot separator_dot h
      obtain ⟨hobjects, hfronts⟩ := ih hobject' hfront hfront' (List.append_cancel_right hfronts)
      exact ⟨by simp only [Node.unplaced, hobjects], hfronts⟩
    | @indexed object' property' l'' hobject' hproperty' =>
      rw [append_render_indexed] at h
      exact absurd h hs.append_ne_bracket
  | @indexed object property l hobject hproperty ihobject ihproperty =>
    rw [append_render_indexed] at h
    cases hm with
    | @name s' l' hs' => exact absurd h.symm hs'.append_ne_bracket
    | @dotted object' s' l' l'' hobject' hs' =>
      rw [append_render_dotted] at h
      exact absurd h.symm hs'.append_ne_bracket
    | @indexed object' property' l' hobject' hproperty' =>
      rw [append_render_indexed] at h
      obtain ⟨hproperties, hfronts⟩ :=
        ihproperty hproperty' .bracket .bracket (List.append_cancel_right h)
      obtain ⟨hobjects, hfronts⟩ :=
        ihobject hobject' hfront hfront' (List.append_cancel_right hfronts)
      exact ⟨by simp only [Node.unplaced, hobjects, hproperties], hfronts⟩

/-- Access chains are written alike exactly if they are the same up to the places of their parts,
and a value that is recorded for one of them leaves the histories of all others as they are. -/
theorem access_chains_told_apart {n m : Node} (hn : IsAccess n) (hm : IsAccess m) :
    (n.render = m.render ↔ n.unplaced = m.unplaced) ∧
    ∀ (t : TrackedExpressions) (value : ValueRecord), n.unplaced ≠ m.unplaced →
      (t.record n.render value).1.history? m.render = t.history? m.render := by
  have hiff : n.render = m.render ↔ n.unplaced = m.unplaced := by
    constructor
    · intro h
      exact (hn.eq_of_append_eq hm .nil .nil (congrArg String.toList h)).1
    · intro h
      rw [← n.render_unplaced, ← m.render_unplaced, h]
  refine ⟨hiff, fun t value hne => ?_⟩
  rw [TrackedExpressions.history?_record, if_neg fun h => hne (hiff.1 h.symm)]

/-- The chain `a[b.c].d` on a line. -/
def sampleNested (line : UInt32) : Node :=
  let place : SourceLocation := ⟨⟨line, 0⟩, ⟨line, 8⟩⟩
  .member (.member (.identifier "a" place)
    (.member (.identifier "b" place) (.identifier "c" place) false place) true place)
    (.identifier "d" place) false place

/-- The chain `a[b].c.d` on a line. -/
def sampleFlat (line : UInt32) : Node :=
  let place : SourceLocation := ⟨⟨line, 0⟩, ⟨line, 8⟩⟩
  .member (.member (.member (.identifier "a" place) (.identifier "b" place) true place)
    (.identifier "c" place) false place) (.identifier "d" place) false place

theorem access_chains_told_apart_sample :
    (sampleNested 1).render = "a[b.c].d" ∧
    (sampleNested 1).render = (sampleNested 2).render ∧
    (sampleNested 1).render ≠ (sampleFlat 1).render := by
  have hname {s : String} (h : s = "a" ∨ s = "b" ∨ s = "c" ∨ s = "d") : IsName s := by
    rcases h with rfl | rfl | rfl | rfl <;> exact ⟨by decide, by simp [IsSeparator]⟩
  have hnested (line : UInt32) : IsAccess (sampleNested line) :=
    .dotted (.indexed (.name (hname (by decide))) (.dotted (.name (hname (by decide)))
      (hname (by decide)))) (hname (by decide))
  have hflat (line : UInt32) : IsAccess (sampleFlat line) :=
    .dotted (.dotted (.indexed (.name (hname (by decide))) (.name (hname (by decide))))
      (hname (by decide))) (hname (by decide))
  refine ⟨by decide, ?same, ?other⟩
  case same => exact (access_chains_told_apart (hnested 1) (hnested 2)).1.2 rfl
  case other =>
    intro h
    have hunplaced := (access_chains_told_apart (hnested 1) (hflat 1)).1.1 h
    simp [sampleNested, sampleFlat, Node.unplaced] at hunplaced

end ValueTrace
