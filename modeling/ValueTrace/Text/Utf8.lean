/-!
# UTF-8

Bytes are read as text strictly, where any ill-formed sequence is an error, or with replacement,
where the longest prefix of a character that cannot be completed becomes one replacement character.

## Main definitions

* `utf8Bytes` : the bytes of a text.
* `scanUtf8` : the character or ill-formed sequence at the front of some bytes.
* `ofUtf8?`, `ofUtf8Lossy` : strict reading and reading with replacement.
-/

namespace ValueTrace.Text

/-- The bytes of a text. -/
def utf8Bytes (text : String) : List UInt8 :=
  text.toList.flatMap String.utf8EncodeChar

/-- Whether a byte continues a character. -/
def isContinuation (b : UInt8) : Bool := 0x80 ≤ b && b ≤ 0xBF

/-- Whether a byte may be second after a leading byte. -/
def isSecond (lead b : UInt8) : Bool :=
  if lead = 0xE0 then 0xA0 ≤ b && b ≤ 0xBF
  else if lead = 0xED then 0x80 ≤ b && b ≤ 0x9F
  else if lead = 0xF0 then 0x90 ≤ b && b ≤ 0xBF
  else if lead = 0xF4 then 0x80 ≤ b && b ≤ 0x8F
  else isContinuation b

/-- The number of bytes that a leading byte announces; none for a byte that leads nothing. -/
def announced (lead : UInt8) : Option Nat :=
  if lead < 0x80 then some 1
  else if 0xC2 ≤ lead && lead ≤ 0xDF then some 2
  else if 0xE0 ≤ lead && lead ≤ 0xEF then some 3
  else if 0xF0 ≤ lead && lead ≤ 0xF4 then some 4
  else none

/-- The payload of a continuation byte. -/
def low6 (b : UInt8) : Nat := b.toNat % 64

/-- The character that begins with the given byte, or none if it cannot be completed, and the bytes
after what was used up. -/
def scanUtf8 (lead : UInt8) (rest : List UInt8) : Option Char × List UInt8 :=
  match announced lead with
  | some 1 => (some (Char.ofNat lead.toNat), rest)
  | some 2 =>
    match rest with
    | b :: rest' =>
      if isSecond lead b then (some (Char.ofNat (lead.toNat % 32 * 64 + low6 b)), rest')
      else (none, rest)
    | [] => (none, [])
  | some 3 =>
    match rest with
    | b :: c :: rest' =>
      if !isSecond lead b then (none, rest)
      else if isContinuation c then
        (some (Char.ofNat (lead.toNat % 16 * 4096 + low6 b * 64 + low6 c)), rest')
      else (none, c :: rest')
    | [b] => if isSecond lead b then (none, []) else (none, [b])
    | [] => (none, [])
  | some _ =>
    match rest with
    | b :: c :: d :: rest' =>
      if !isSecond lead b then (none, rest)
      else if !isContinuation c then (none, c :: d :: rest')
      else if isContinuation d then
        (some (Char.ofNat
          (lead.toNat % 8 * 262144 + low6 b * 4096 + low6 c * 64 + low6 d)), rest')
      else (none, d :: rest')
    | [b, c] =>
      if !isSecond lead b then (none, [b, c])
      else if isContinuation c then (none, [])
      else (none, [c])
    | [b] => if isSecond lead b then (none, []) else (none, [b])
    | [] => (none, [])
  | none => (none, rest)

/-- What is shown for an ill-formed sequence. -/
def replacement : Char := '\uFFFD'

/-! ### What is used up -/

variable {lead : UInt8}

/-- A leading byte announces at most four bytes. -/
theorem announced_cases (lead : UInt8) :
    announced lead = none ∨ announced lead = some 1 ∨ announced lead = some 2 ∨
      announced lead = some 3 ∨ announced lead = some 4 := by
  unfold announced
  split
  case isTrue => exact .inr (.inl rfl)
  split
  case isTrue => exact .inr (.inr (.inl rfl))
  split
  case isTrue => exact .inr (.inr (.inr (.inl rfl)))
  split
  case isTrue => exact .inr (.inr (.inr (.inr rfl)))
  exact .inl rfl

theorem suffix_of_announced_two (h : announced lead = some 2) (rest : List UInt8) :
    (scanUtf8 lead rest).2 <:+ rest := by
  rw [scanUtf8.eq_def, h]
  cases rest with
  | nil => exact List.suffix_refl _
  | cons b rest =>
    dsimp only
    cases isSecond lead b with
    | true => exact List.suffix_cons b rest
    | false => exact List.suffix_refl _

theorem suffix_of_announced_three (h : announced lead = some 3) (rest : List UInt8) :
    (scanUtf8 lead rest).2 <:+ rest := by
  rw [scanUtf8.eq_def, h]
  match rest with
  | [] => exact List.suffix_refl _
  | [b] =>
    dsimp only
    cases isSecond lead b with
    | true => exact List.nil_suffix
    | false => exact List.suffix_refl _
  | b :: c :: rest =>
    dsimp only
    cases isSecond lead b with
    | false => exact List.suffix_refl _
    | true =>
      cases isContinuation c with
      | true => exact ⟨[b, c], rfl⟩
      | false => exact List.suffix_cons b _

theorem suffix_of_announced_four (h : announced lead = some 4) (rest : List UInt8) :
    (scanUtf8 lead rest).2 <:+ rest := by
  rw [scanUtf8.eq_def, h]
  match rest with
  | [] => exact List.suffix_refl _
  | [b] =>
    dsimp only
    cases isSecond lead b with
    | true => exact List.nil_suffix
    | false => exact List.suffix_refl _
  | [b, c] =>
    dsimp only
    cases isSecond lead b with
    | false => exact List.suffix_refl _
    | true =>
      cases isContinuation c with
      | true => exact List.nil_suffix
      | false => exact List.suffix_cons b _
  | b :: c :: d :: rest =>
    dsimp only
    cases isSecond lead b with
    | false => exact List.suffix_refl _
    | true =>
      cases isContinuation c with
      | false => exact List.suffix_cons b _
      | true =>
        cases isContinuation d with
        | false => exact ⟨[b, c], rfl⟩
        | true => exact ⟨[b, c, d], rfl⟩

/-- What is left after a character or an ill-formed sequence is an end of the bytes. -/
theorem suffix_scanUtf8 (lead : UInt8) (rest : List UInt8) : (scanUtf8 lead rest).2 <:+ rest := by
  rcases announced_cases lead with hnone | hone | htwo | hthree | hfour
  · have hleft : (scanUtf8 lead rest).2 = rest := by simp only [scanUtf8, hnone]
    exact ⟨[], hleft⟩
  · have hleft : (scanUtf8 lead rest).2 = rest := by simp only [scanUtf8, hone]
    exact ⟨[], hleft⟩
  · exact suffix_of_announced_two htwo rest
  · exact suffix_of_announced_three hthree rest
  · exact suffix_of_announced_four hfour rest

theorem length_scanUtf8_le (lead : UInt8) (rest : List UInt8) :
    (scanUtf8 lead rest).2.length ≤ rest.length := (suffix_scanUtf8 lead rest).length_le

/-! ### Texts -/

/-- The characters of bytes, with none for every ill-formed sequence. -/
def scanAllUtf8 : List UInt8 → List (Option Char)
  | [] => []
  | lead :: rest => (scanUtf8 lead rest).1 :: scanAllUtf8 (scanUtf8 lead rest).2
termination_by bytes => bytes.length
decreasing_by
  have := length_scanUtf8_le lead rest
  simp only [List.length_cons]
  omega

/-- The text of well-formed bytes. -/
def ofUtf8? (bytes : List UInt8) : Option String :=
  ((scanAllUtf8 bytes).mapM id).map String.ofList

/-- The text of bytes with replacement characters for what is ill-formed. -/
def ofUtf8Lossy (bytes : List UInt8) : String :=
  String.ofList ((scanAllUtf8 bytes).map fun c => c.getD replacement)

end ValueTrace.Text
