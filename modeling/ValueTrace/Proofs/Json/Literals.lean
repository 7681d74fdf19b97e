import Mathlib.Data.List.Basic
import ValueTrace.Json.Document
import ValueTrace.Json.Printer
import ValueTrace.Proofs.Json.Reading

/-!
# Literals that are written and read

A string literal is read as the string it was written for, and the digits of an integer as that
integer, whatever follows (`scan_stringChars`, `Number.isLegible_integer`).  A double is read by one
multiplication or division, which need not give the double that its shortest digits stand for, so
that reading gives it back is a property of the double (`Number.ReadsBack`).  What a text that is
nothing but a number literal denotes does not change when something follows that cannot continue the
literal (`Number.ReadsBack.isLegible`).

## Main definitions

* `EndsLiteral` : what cannot continue a number literal.
* `Number.IsLegible` : a number is read as it was written, whatever follows.
* `Number.ReadsBack` : the text of a number is read as that number.

## Main results

* `scan_stringChars` : strings are read as they were written.
* `Number.isLegible_integer`, `Number.ReadsBack.isLegible` : the numbers that are legible.
-/

namespace ValueTrace.Json

variable {text rest : List Char}

/-! ### Strings -/

theorem hexValue_hexDigit {n : Nat} (h : n < 16) : hexValue (hexDigit n) = some n := by
  revert n
  decide

/-- What is read of an escaped character is the character. -/
theorem scanString_escapeChar (c : Char) :
    scanString (escapeChar c ++ text) =
      (scanString text).map fun (pieces, rest) => (.scalar c :: pieces, rest) := by
  unfold escapeChar
  split_ifs with hquote hbackslash hb hf hn hr ht hcontrol
  · subst hquote
    rfl
  · subst hbackslash
    rfl
  · subst hb
    rfl
  · subst hf
    rfl
  · subst hn
    rfl
  · subst hr
    rfl
  · subst ht
    rfl
  · -- The unit written in hexadecimal is below the surrogates.
    have hhigh := hexValue_hexDigit (n := c.toNat / 16) (by omega)
    have hlow := hexValue_hexDigit (n := c.toNat % 16) (by omega)
    have hzero : hexValue '0' = some 0 := by decide
    have hunit : (c.toNat / 16) * 16 + c.toNat % 16 = c.toNat := by omega
    have hpiece : Piece.ofUnit c.toNat = .scalar c := by
      rw [Piece.ofUnit, if_neg (by omega), Char.ofNat_toNat]
    simp [scanString, hexNumber, hzero, hhigh, hlow, hunit, hpiece]
  · simp [scanString, hbackslash, hcontrol]

/-- The body of a string literal is read as the string, up to its closing quote. -/
theorem scanString_escaped (s : List Char) :
    scanString (s.flatMap escapeChar ++ '"' :: rest) = some (s.map .scalar, rest) := by
  induction s with
  | nil => rfl
  | cons c s ih =>
    rw [List.flatMap_cons, List.append_assoc, scanString_escapeChar, ih]
    rfl

theorem joinHalves_scalars (s : List Char) : joinHalves (s.map .scalar) = some s := by
  induction s with
  | nil => rfl
  | cons c s ih => simp [joinHalves, ih]

/-- A string literal is read as the string it was written for. -/
theorem scan_stringChars (s : String) :
    Token.scan '"' (s.toList.flatMap escapeChar ++ '"' :: rest) =
      some (.string (some s), rest) := by
  simp [Token.scan, scanString_escaped, joinHalves_scalars]

/-! ### Number literals -/

/-- A text that cannot continue a number literal. -/
def EndsLiteral (text : List Char) : Prop :=
  ∀ c ∈ text.head?, c.isDigit = false ∧ c ≠ '.' ∧ c ≠ 'e' ∧ c ≠ 'E'

theorem scanDigits_append (text : List Char) (h : EndsLiteral rest) :
    scanDigits (text ++ rest) = ((scanDigits text).1, (scanDigits text).2 ++ rest) := by
  induction text with
  | nil =>
    cases rest with
    | nil => rfl
    | cons c rest => simp [scanDigits, (h c rfl).1]
  | cons c text ih =>
    simp only [scanDigits, Prod.mk.injEq] at ih
    by_cases hc : c.isDigit = true
    · simp [scanDigits, hc, ih]
    · simp [scanDigits, hc]

theorem scanWhole_of_digits {c : Char} {digits left : List Char} (hzero : c ≠ '0')
    (hsome : digits ≠ []) (hdigits : scanDigits (c :: text) = (digits, left)) :
    scanWhole (c :: text) = some (digits, left) := by
  unfold scanWhole
  split
  · rename_i heq
    exact absurd (List.cons.inj heq).1 hzero
  · rw [hdigits]
    cases digits with
    | nil => exact absurd rfl hsome
    | cons c digits => rfl

theorem scanWhole_append {digits left : List Char} (h : EndsLiteral rest)
    (hwhole : scanWhole text = some (digits, left)) :
    scanWhole (text ++ rest) = some (digits, left ++ rest) := by
  unfold scanWhole at hwhole
  split at hwhole
  · split at hwhole
    · split at hwhole
      · cases hwhole
      · rename_i hc
        obtain ⟨rfl, rfl⟩ := Prod.mk.inj (Option.some.inj hwhole)
        simp [scanWhole, hc]
    · obtain ⟨rfl, rfl⟩ := Prod.mk.inj (Option.some.inj hwhole)
      cases rest with
      | nil => rfl
      | cons c rest => simp [scanWhole, (h c rfl).1]
  · rename_i hzero
    split at hwhole
    · cases hwhole
    · rename_i hsome hdigits
      obtain ⟨rfl, rfl⟩ := Prod.mk.inj (Option.some.inj hwhole)
      cases text with
      | nil => exact absurd (congrArg Prod.fst hdigits).symm hsome
      | cons c text =>
        have happend := scanDigits_append (c :: text) h
        rw [hdigits] at happend
        exact scanWhole_of_digits (fun hc => hzero text (hc ▸ rfl)) hsome happend

theorem scanFraction_append {digits left : List Char} (h : EndsLiteral rest)
    (hfraction : scanFraction text = some (digits, left)) :
    scanFraction (text ++ rest) = some (digits, left ++ rest) := by
  unfold scanFraction at hfraction
  split at hfraction
  · split at hfraction
    · cases hfraction
    · rename_i digits left hsome hdigits
      obtain ⟨rfl, rfl⟩ := Prod.mk.inj (Option.some.inj hfraction)
      rw [List.cons_append, scanFraction, scanDigits_append _ h, hdigits]
      cases digits with
      | nil => exact absurd rfl hsome
      | cons c digits => rfl
  · rename_i hpoint
    obtain ⟨rfl, rfl⟩ := Prod.mk.inj (Option.some.inj hfraction)
    unfold scanFraction
    split
    · rename_i heq
      cases text with
      | nil => exact absurd rfl (h '.' (by rw [← List.nil_append rest, heq]; rfl)).2.1
      | cons c text => exact absurd (congrArg (· :: text) (List.cons.inj heq).1) (hpoint text)
    · rfl

theorem scanPower_cons (c : Char) (text : List Char) :
    scanPower (c :: text) =
      match scanDigits (if c = '-' ∨ c = '+' then text else c :: text) with
      | ([], _) => none
      | (digits, left) => some ((c == '-', digits), left) := by
  by_cases hminus : c = '-'
  · subst hminus
    rfl
  · by_cases hplus : c = '+'
    · subst hplus
      rfl
    · have hnegative : (c == '-') = false := beq_eq_false_iff_ne.2 hminus
      rw [if_neg (not_or.2 ⟨hminus, hplus⟩), hnegative, scanPower.eq_def]
      split
      rename_i negative body heq
      obtain ⟨rfl, rfl⟩ : negative = false ∧ c :: text = body := by
        simpa [hminus, hplus] using heq
      rfl

theorem scanPower_append {power : Bool × List Char} {left : List Char} (h : EndsLiteral rest)
    (hpower : scanPower text = some (power, left)) :
    scanPower (text ++ rest) = some (power, left ++ rest) := by
  cases text with
  | nil => cases hpower
  | cons c text =>
    have hbody : (if c = '-' ∨ c = '+' then text ++ rest else c :: (text ++ rest)) =
        (if c = '-' ∨ c = '+' then text else c :: text) ++ rest := by
      split <;> rfl
    rw [scanPower_cons] at hpower
    rw [List.cons_append, scanPower_cons, hbody, scanDigits_append _ h]
    split at hpower
    · cases hpower
    · rename_i digits left hsome hdigits
      obtain ⟨rfl, rfl⟩ := Prod.mk.inj (Option.some.inj hpower)
      rw [hdigits]
      cases digits with
      | nil => exact absurd rfl hsome
      | cons c digits => rfl

theorem scanExponent_append {exponent : Option (Bool × List Char)} {left : List Char}
    (h : EndsLiteral rest) (hexponent : scanExponent text = some (exponent, left)) :
    scanExponent (text ++ rest) = some (exponent, left ++ rest) := by
  cases text with
  | nil =>
    obtain ⟨rfl, rfl⟩ := Prod.mk.inj (Option.some.inj hexponent)
    cases rest with
    | nil => rfl
    | cons c rest => simp [scanExponent, (h c rfl).2.2]
  | cons c text =>
    rw [scanExponent] at hexponent
    rw [List.cons_append, scanExponent]
    split at hexponent
    · rename_i hc
      obtain ⟨⟨power, left⟩, hpower, heq⟩ := Option.map_eq_some_iff.1 hexponent
      obtain ⟨rfl, rfl⟩ := Prod.mk.inj heq
      rw [if_pos hc, scanPower_append h hpower]
      rfl
    · rename_i hc
      obtain ⟨rfl, rfl⟩ := Prod.mk.inj (Option.some.inj hexponent)
      rw [if_neg hc, List.cons_append]

theorem scan_of_ne_minus (h : ∀ rest, text ≠ '-' :: rest) :
    Numeral.scan text = Numeral.scanUnsigned false text := by
  unfold Numeral.scan
  split
  · exact absurd rfl (h _)
  · rfl

/-- A number literal at the front of a text stays what it is when something follows. -/
theorem scanUnsigned_append {negative : Bool} {literal : Numeral} {left : List Char}
    (h : EndsLiteral rest) (hscan : Numeral.scanUnsigned negative text = some (literal, left)) :
    Numeral.scanUnsigned negative (text ++ rest) = some (literal, left ++ rest) := by
  simp only [Numeral.scanUnsigned, Option.bind_eq_bind, Option.bind_eq_some_iff] at hscan
  obtain ⟨⟨whole, text₁⟩, hwhole, ⟨fraction, text₂⟩, hfraction, ⟨exponent, text₃⟩, hexponent,
    heq⟩ := hscan
  obtain ⟨rfl, rfl⟩ := Prod.mk.inj (Option.some.inj heq)
  simp [Numeral.scanUnsigned, scanWhole_append h hwhole, scanFraction_append h hfraction,
    scanExponent_append h hexponent]

theorem scan_append {literal : Numeral} {left : List Char} (h : EndsLiteral rest)
    (hscan : Numeral.scan text = some (literal, left)) :
    Numeral.scan (text ++ rest) = some (literal, left ++ rest) := by
  unfold Numeral.scan at hscan
  split at hscan
  · exact scanUnsigned_append h hscan
  · rename_i hminus
    rw [scan_of_ne_minus, scanUnsigned_append h hscan]
    intro rest' heq
    cases text with
    | nil => cases hscan
    | cons c text => exact hminus text (congrArg (· :: text) (List.cons.inj heq).1)

/-! ### What a number literal leaves of a text -/

theorem scanDigits_suffix (text : List Char) : (scanDigits text).2 <:+ text :=
  List.dropWhile_suffix _

theorem scanWhole_suffix {digits left : List Char} (h : scanWhole text = some (digits, left)) :
    left <:+ text := by
  unfold scanWhole at h
  split at h
  · split at h
    · split at h
      · cases h
      · obtain ⟨-, rfl⟩ := Prod.mk.inj (Option.some.inj h)
        exact List.suffix_cons _ _
    · obtain ⟨-, rfl⟩ := Prod.mk.inj (Option.some.inj h)
      exact List.nil_suffix
  · split at h
    · cases h
    · rename_i hdigits
      obtain ⟨-, rfl⟩ := Prod.mk.inj (Option.some.inj h)
      simpa [hdigits] using scanDigits_suffix text

theorem scanFraction_suffix {digits left : List Char}
    (h : scanFraction text = some (digits, left)) : left <:+ text := by
  unfold scanFraction at h
  split at h
  · rename_i text
    split at h
    · cases h
    · rename_i hdigits
      obtain ⟨-, rfl⟩ := Prod.mk.inj (Option.some.inj h)
      have hsuffix := scanDigits_suffix text
      rw [hdigits] at hsuffix
      exact hsuffix.trans (List.suffix_cons _ _)
  · obtain ⟨-, rfl⟩ := Prod.mk.inj (Option.some.inj h)
    exact List.suffix_rfl

theorem scanPower_suffix {power : Bool × List Char} {left : List Char}
    (h : scanPower text = some (power, left)) : left <:+ text := by
  cases text with
  | nil => cases h
  | cons c text =>
    have hbody : (if c = '-' ∨ c = '+' then text else c :: text) <:+ c :: text := by
      split
      · exact List.suffix_cons _ _
      · exact List.suffix_rfl
    rw [scanPower_cons] at h
    split at h
    · cases h
    · rename_i hdigits
      obtain ⟨-, rfl⟩ := Prod.mk.inj (Option.some.inj h)
      have hsuffix := scanDigits_suffix (if c = '-' ∨ c = '+' then text else c :: text)
      rw [hdigits] at hsuffix
      exact hsuffix.trans hbody

theorem scanExponent_suffix {exponent : Option (Bool × List Char)} {left : List Char}
    (h : scanExponent text = some (exponent, left)) : left <:+ text := by
  cases text with
  | nil =>
    obtain ⟨-, rfl⟩ := Prod.mk.inj (Option.some.inj h)
    exact List.suffix_rfl
  | cons c text =>
    rw [scanExponent] at h
    split at h
    · obtain ⟨⟨power, left⟩, hpower, heq⟩ := Option.map_eq_some_iff.1 h
      obtain ⟨-, rfl⟩ := Prod.mk.inj heq
      exact (scanPower_suffix hpower).trans (List.suffix_cons _ _)
    · obtain ⟨-, rfl⟩ := Prod.mk.inj (Option.some.inj h)
      exact List.suffix_rfl

theorem scanUnsigned_suffix {negative : Bool} {literal : Numeral} {left : List Char}
    (h : Numeral.scanUnsigned negative text = some (literal, left)) : left <:+ text := by
  simp only [Numeral.scanUnsigned, Option.bind_eq_bind, Option.bind_eq_some_iff] at h
  obtain ⟨⟨whole, text₁⟩, hwhole, ⟨fraction, text₂⟩, hfraction, ⟨exponent, text₃⟩, hexponent,
    heq⟩ := h
  obtain ⟨-, rfl⟩ := Prod.mk.inj (Option.some.inj heq)
  exact (scanExponent_suffix hexponent).trans
    ((scanFraction_suffix hfraction).trans (scanWhole_suffix hwhole))

theorem scan_suffix {literal : Numeral} {left : List Char}
    (h : Numeral.scan text = some (literal, left)) : left <:+ text := by
  unfold Numeral.scan at h
  split at h
  · exact (scanUnsigned_suffix h).trans (List.suffix_cons _ _)
  · exact scanUnsigned_suffix h

/-! ### Characters of number literals -/

/-- The characters of number literals. -/
def IsMark (c : Char) : Prop := c.isDigit = true ∨ c ∈ ['-', '.', 'e', '+']

theorem IsMark.isBlank_eq_false {c : Char} (h : IsMark c) : isBlank c = false := by
  rcases h with hdigit | hmark
  · rw [← Bool.not_eq_true]
    intro hblank
    simp only [isBlank, Bool.or_eq_true, decide_eq_true_eq] at hblank
    rcases hblank with ((rfl | rfl) | rfl) | rfl <;> cases hdigit
  · simp only [List.mem_cons, List.not_mem_nil, or_false] at hmark
    rcases hmark with rfl | rfl | rfl | rfl <;> rfl

/-- A token that begins with a character of number literals is a number literal. -/
theorem IsMark.scan {c : Char} (h : IsMark c) (text : List Char) :
    Token.scan c text =
      (Numeral.scan (c :: text)).map fun (n, rest) => (.number n.value?, rest) := by
  unfold Token.scan
  split <;> simp [IsMark] at h ⊢

/-- A text of characters of number literals. -/
def IsMarked (text : List Char) : Prop := ∀ c ∈ text, IsMark c

theorem IsMarked.append {first second : List Char} (h : IsMarked first) (h' : IsMarked second) :
    IsMarked (first ++ second) :=
  List.forall_mem_append.2 ⟨h, h'⟩

theorem IsMarked.cons {c : Char} (hc : c ∈ ['-', '.', 'e', '+']) (h : IsMarked text) :
    IsMarked (c :: text) :=
  List.forall_mem_cons.2 ⟨Or.inr hc, h⟩

theorem isMarked_toDigits (n : Nat) : IsMarked (Nat.toDigits 10 n) :=
  fun _ hc => Or.inl (Nat.isDigit_of_mem_toDigits (by decide) (by decide) hc)

theorem isMarked_zeros (n : Nat) : IsMarked (List.replicate n '0') := by
  intro c hc
  obtain rfl := List.eq_of_mem_replicate hc
  exact Or.inl rfl

theorem isMarked_significantDigits (n : Nat) : IsMarked (Decimal.significantDigits n) := by
  intro c hc
  have hmem := (List.dropWhile_sublist _).mem (List.mem_reverse.1 hc)
  exact isMarked_toDigits n c (List.mem_reverse.1 hmem)

theorem isMarked_positional {d : Decimal.Digits} (h : IsMarked d.digits) (wholeFraction : Bool) :
    IsMarked (d.positional wholeFraction) := by
  have hpoint {text : List Char} (h : IsMarked text) : IsMarked ('.' :: text) :=
    h.cons (by simp)
  have hzero {text : List Char} (h : IsMarked text) : IsMarked ('0' :: text) :=
    List.forall_mem_cons.2 ⟨Or.inl rfl, h⟩
  have hempty : IsMarked [] := fun c hc => nomatch hc
  unfold Decimal.Digits.positional
  dsimp only
  split
  · exact hzero (hpoint ((isMarked_zeros _).append h))
  · split
    · refine (h.append (isMarked_zeros _)).append ?_
      split
      · exact hpoint (hzero hempty)
      · exact hempty
    · refine IsMarked.append (fun c hc => h c (List.mem_of_mem_take hc)) (hpoint ?_)
      exact fun c hc => h c (List.mem_of_mem_drop hc)

theorem isMarked_scientific {d : Decimal.Digits} (h : IsMarked d.digits) :
    IsMarked d.scientific := by
  unfold Decimal.Digits.scientific
  dsimp only
  refine (IsMarked.append (fun c hc => h c (List.mem_of_mem_take hc)) ?_).append ?_
  · split
    · exact fun c hc => nomatch hc
    · exact IsMarked.cons (by simp) fun c hc => h c (List.mem_of_mem_drop hc)
  · refine IsMarked.cons (by simp) (IsMarked.cons ?_ (isMarked_toDigits _))
    split <;> simp

theorem isMarked_layout (l : Decimal.Layout) (x : Float) : IsMarked (l.chars x) := by
  have hsign : IsMarked (if Decimal.isNegative x then ['-'] else []) := by
    split
    · exact IsMarked.cons (by simp) fun c hc => nomatch hc
    · exact fun c hc => nomatch hc
  have hdigits := isMarked_significantDigits
    ((Decimal.neighbourhood (Decimal.dyadic x)).search l.tie 20
      (Decimal.magnitude (Decimal.dyadic x) + 1)).1
  unfold Decimal.Layout.chars
  dsimp only
  split
  · refine hsign.append (List.forall_mem_cons.2 ⟨Or.inl rfl, ?_⟩)
    split
    · exact IsMarked.cons (by simp) (isMarked_zeros 1)
    · exact fun c hc => nomatch hc
  · refine hsign.append ?_
    unfold Decimal.Layout.place
    split
    · exact isMarked_positional hdigits _
    · split
      · exact isMarked_positional hdigits _
      · exact isMarked_scientific hdigits

theorem isMarked_chars (n : Number) : IsMarked n.chars := by
  cases n with
  | integer n =>
    rw [Number.chars, integerChars]
    split
    · exact (isMarked_toDigits _).cons (by simp)
    · exact isMarked_toDigits _
  | float x => exact isMarked_layout _ x

/-! ### Numbers -/

/-- A number is read as it was written, whatever follows that cannot continue it. -/
def Number.IsLegible (n : Number) : Prop :=
  ∃ c text, n.chars = c :: text ∧ isBlank c = false ∧
    ∀ rest, EndsLiteral rest → Token.scan c (text ++ rest) = some (.number (some n), rest)

/-- The text of a number is read as that number. -/
def Number.ReadsBack (n : Number) : Prop := Value.read n.text = some (.number n)

theorem Number.isLegible_of_scan {n : Number} (literal : Numeral)
    (hscan : Numeral.scan n.chars = some (literal, [])) (hvalue : literal.value? = some n) :
    n.IsLegible := by
  have hmarks := isMarked_chars n
  cases hchars : n.chars with
  | nil =>
    rw [hchars] at hscan
    cases hscan
  | cons c text =>
    rw [hchars] at hscan hmarks
    have hc := hmarks c List.mem_cons_self
    refine ⟨c, text, hchars, hc.isBlank_eq_false, fun rest hrest => ?_⟩
    have happend := scan_append hrest hscan
    rw [List.cons_append, List.nil_append] at happend
    simp only [hc.scan, happend, Option.map_some, hvalue]

theorem digitChar_ne_zero : ∀ n < 10, n ≠ 0 → Nat.digitChar n ≠ '0' := by
  decide

/-- The digits of a natural number other than 0 begin with another digit. -/
theorem head_toDigits {n : Nat} (h : n ≠ 0) :
    ∃ c text, Nat.toDigits 10 n = c :: text ∧ c ≠ '0' := by
  induction n using Nat.strongRecOn with
  | ind n ih =>
    rw [Nat.toDigits_eq_if (by decide)]
    split
    · rename_i hlt
      exact ⟨_, [], rfl, digitChar_ne_zero n hlt h⟩
    · obtain ⟨c, text, hdigits, hc⟩ := ih (n / 10) (by omega) (by omega)
      exact ⟨c, text ++ [Nat.digitChar (n % 10)], by rw [hdigits, List.cons_append], hc⟩

theorem scanDigits_append_digits {digits : List Char} (h : ∀ c ∈ digits, c.isDigit = true)
    (text : List Char) :
    scanDigits (digits ++ text) = (digits ++ (scanDigits text).1, (scanDigits text).2) := by
  rw [scanDigits, List.takeWhile_append_of_pos h, List.dropWhile_append_of_pos h, scanDigits]

theorem scanDigits_toDigits (n : Nat) :
    scanDigits (Nat.toDigits 10 n) = (Nat.toDigits 10 n, []) := by
  have hdigit : ∀ c ∈ Nat.toDigits 10 n, c.isDigit = true := fun c hc =>
    Nat.isDigit_of_mem_toDigits (by decide) (by decide) hc
  have hsplit := scanDigits_append_digits hdigit []
  rw [List.append_nil] at hsplit
  rw [hsplit, scanDigits, List.takeWhile_nil, List.append_nil, List.dropWhile_nil]

/-- The digits of a natural number are a literal. -/
theorem scanUnsigned_toDigits (negative : Bool) (n : Nat) :
    Numeral.scanUnsigned negative (Nat.toDigits 10 n) =
      some (⟨negative, Nat.toDigits 10 n, [], none⟩, []) := by
  have hwhole : scanWhole (Nat.toDigits 10 n) = some (Nat.toDigits 10 n, []) := by
    by_cases hn : n = 0
    · subst hn
      rfl
    · obtain ⟨c, text, hdigits, hc⟩ := head_toDigits hn
      have hscan := scanDigits_toDigits n
      rw [hdigits] at hscan ⊢
      exact scanWhole_of_digits hc (List.cons_ne_nil _ _) hscan
  simp [Numeral.scanUnsigned, hwhole, scanFraction, scanExponent]

/-- An integer of 64 bits is read as it was written. -/
theorem Number.isLegible_integer {n : Int} (h : (Number.integer n).IsReadable) :
    (Number.integer n).IsLegible := by
  obtain ⟨hleast, hgreatest⟩ := h
  have hnatural := Nat.ofDigitChars_ten_toDigits (n := n.natAbs)
  have hsize : Numeral.maxSignificand + 1 = UInt64.size := rfl
  have hhalf : Nat.pow 2 63 < UInt64.size := by decide
  by_cases hsign : n < 0
  · refine Number.isLegible_of_scan ⟨true, Nat.toDigits 10 n.natAbs, [], none⟩ ?_ ?_
    · rw [Number.chars, integerChars, if_pos hsign, Numeral.scan, scanUnsigned_toDigits]
    · have hrange : 0 < n.natAbs ∧ n.natAbs ≤ Nat.pow 2 63 := by omega
      have hmax : n.natAbs ≤ Numeral.maxSignificand := by omega
      have hvalue : -(n.natAbs : Int) = n := by omega
      rw [Numeral.value?]
      simp only [hnatural, hvalue, hmax, hrange]
      rfl
  · refine Number.isLegible_of_scan ⟨false, Nat.toDigits 10 n.natAbs, [], none⟩ ?_ ?_
    · have hminus (text : List Char) : Nat.toDigits 10 n.natAbs ≠ '-' :: text := by
        intro heq
        have hdigit := Nat.isDigit_of_mem_toDigits (n := n.natAbs) (c := '-') (b := 10)
          (by decide) (by decide) (heq ▸ List.mem_cons_self)
        cases hdigit
      rw [Number.chars, integerChars, if_neg hsign, scan_of_ne_minus hminus, scanUnsigned_toDigits]
    · have hmax : n.natAbs ≤ Numeral.maxSignificand := by omega
      have hvalue : (n.natAbs : Int) = n := by omega
      simp [Numeral.value?, hnatural, hmax, hvalue]

/-- A whole document ends with its last token. -/
theorem Assembler.run_done {limit : Option Nat} {steps : Nat} {d d' : Document}
    (hmarks : IsMarked text) (h : Assembler.run limit steps text (.done d) = (d', true)) :
    text = [] ∧ d = d' := by
  cases text with
  | nil => cases steps <;> exact ⟨rfl, congrArg Prod.fst h⟩
  | cons c text =>
    have hc := hmarks c List.mem_cons_self
    cases steps with
    | zero => simp [Assembler.run] at h
    | succ steps =>
      simp only [Assembler.run, hc.isBlank_eq_false, Bool.false_eq_true, if_false] at h
      split at h
      · cases h
      · cases h

/-- The text of a number that is read as this number is a literal of this number. -/
theorem Number.ReadsBack.isLegible {n : Number} (h : n.ReadsBack) : n.IsLegible := by
  have hmarks := isMarked_chars n
  rw [Number.ReadsBack, Value.read] at h
  split at h
  · rename_i d hread
    rw [Document.read, Number.text, String.toList_ofList] at hread
    cases hchars : n.chars with
    | nil => simp [hchars, Assembler.run, Assembler.start, Assembler.isDone] at hread
    | cons c text =>
      rw [hchars] at hread hmarks
      have hc := hmarks c List.mem_cons_self
      simp only [List.length_cons, Assembler.run, hc.isBlank_eq_false, Bool.false_eq_true,
        if_false, hc.scan] at hread
      cases hscan : Numeral.scan (c :: text) with
      | none => simp [hscan] at hread
      | some scanned =>
        obtain ⟨literal, left⟩ := scanned
        have hleft : IsMarked left := fun c hc => hmarks c ((scan_suffix hscan).mem hc)
        simp only [hscan, Option.map_some] at hread
        cases hvalue : literal.value? with
        | none =>
          rw [hvalue] at hread
          obtain ⟨-, rfl⟩ := Assembler.run_done hleft hread
          cases h
        | some m =>
          rw [hvalue] at hread
          obtain ⟨rfl, rfl⟩ := Assembler.run_done hleft hread
          obtain rfl := Value.number.inj (Option.some.inj h)
          exact Number.isLegible_of_scan literal (hchars ▸ hscan) hvalue
  · cases h

end ValueTrace.Json
