import Mathlib.Data.List.Basic
import ValueTrace.Text.Utf8

/-!
# Reading the bytes of a text

The bytes of a text are read as this text, also when ill-formed sequences are replaced
(`Text.ofUtf8Lossy_utf8Bytes`): each character is found again at the front of its bytes, whatever
follows.  ASCII characters are one byte each, which is no byte of any other character.

## Main results

* `Text.scanUtf8_encodeChar` : a character is read from its bytes.
* `Text.ofUtf8Lossy_utf8Bytes` : a text is read from its bytes.
* `Text.utf8Bytes_replace` : an ASCII character that is replaced in a text is replaced in its bytes.
-/

namespace ValueTrace.Text

variable {l b n : Nat} {rest : List UInt8}

/-- What a leading byte announces, by its number. -/
theorem announced_ofNat (hl : l < 256) :
    announced (UInt8.ofNat l) =
      if l < 0x80 then some 1
      else if 0xC2 ≤ l ∧ l ≤ 0xDF then some 2
      else if 0xE0 ≤ l ∧ l ≤ 0xEF then some 3
      else if 0xF0 ≤ l ∧ l ≤ 0xF4 then some 4
      else none := by
  simp [announced, UInt8.lt_iff_toNat_lt, UInt8.le_iff_toNat_le, Nat.mod_eq_of_lt hl]

theorem isContinuation_ofNat (hb : b < 256) :
    isContinuation (UInt8.ofNat b) = true ↔ 0x80 ≤ b ∧ b ≤ 0xBF := by
  simp [isContinuation, UInt8.le_iff_toNat_le, Nat.mod_eq_of_lt hb]

/-- Four leading bytes admit only some of the continuations. -/
theorem isSecond_ofNat (hl : l < 256) (hb : b < 256) :
    isSecond (UInt8.ofNat l) (UInt8.ofNat b) = true ↔
      (0x80 ≤ b ∧ b ≤ 0xBF) ∧ (l = 0xE0 → 0xA0 ≤ b) ∧ (l = 0xED → b ≤ 0x9F) ∧
        (l = 0xF0 → 0x90 ≤ b) ∧ (l = 0xF4 → b ≤ 0x8F) := by
  simp only [isSecond, ← UInt8.toNat_inj]
  simp [isContinuation, UInt8.le_iff_toNat_le, Nat.mod_eq_of_lt hl, Nat.mod_eq_of_lt hb]
  split_ifs <;> omega

/-! ### Characters by the number of their bytes -/

theorem low6_ofNat (n : Nat) : low6 (UInt8.ofNat (n % 64 + 128)) = n % 64 := by
  rw [low6, UInt8.toNat_ofNat']
  omega

theorem scanUtf8_one (h : n < 0x80) :
    scanUtf8 (UInt8.ofNat n) rest = (some (Char.ofNat n), rest) := by
  have hlead : announced (UInt8.ofNat n) = some 1 := by
    rw [announced_ofNat (by omega), if_pos h]
  have hvalue : (UInt8.ofNat n).toNat = n := UInt8.toNat_ofNat_of_lt' (show n < 256 by omega)
  simp only [scanUtf8, hlead, hvalue]

theorem scanUtf8_two (hleast : 0x80 ≤ n) (h : n < 0x800) :
    scanUtf8 (UInt8.ofNat (n / 64 % 32 + 192)) (UInt8.ofNat (n % 64 + 128) :: rest) =
      (some (Char.ofNat n), rest) := by
  have hlt : n / 64 % 32 + 192 < 256 := by omega
  have hlead : announced (UInt8.ofNat (n / 64 % 32 + 192)) = some 2 := by
    rw [announced_ofNat hlt, if_neg (by omega), if_pos (by omega)]
  have hsecond : isSecond (UInt8.ofNat (n / 64 % 32 + 192)) (UInt8.ofNat (n % 64 + 128)) = true :=
    (isSecond_ofNat hlt (by omega)).2 (by omega)
  have hvalue : (UInt8.ofNat (n / 64 % 32 + 192)).toNat % 32 * 64 + n % 64 = n := by
    rw [UInt8.toNat_ofNat_of_lt' hlt]
    omega
  simp only [scanUtf8, hlead, hsecond, if_true, low6_ofNat, hvalue]

theorem scanUtf8_three (hleast : 0x800 ≤ n) (h : n < 0xD800 ∨ 0xDFFF < n ∧ n < 0x10000) :
    scanUtf8 (UInt8.ofNat (n / 4096 % 16 + 224))
        (UInt8.ofNat (n / 64 % 64 + 128) :: UInt8.ofNat (n % 64 + 128) :: rest) =
      (some (Char.ofNat n), rest) := by
  have hlt : n / 4096 % 16 + 224 < 256 := by omega
  have hlead : announced (UInt8.ofNat (n / 4096 % 16 + 224)) = some 3 := by
    rw [announced_ofNat hlt, if_neg (by omega), if_neg (by omega), if_pos (by omega)]
  have hsecond : isSecond (UInt8.ofNat (n / 4096 % 16 + 224))
      (UInt8.ofNat (n / 64 % 64 + 128)) = true :=
    (isSecond_ofNat hlt (by omega)).2 (by omega)
  have hthird : isContinuation (UInt8.ofNat (n % 64 + 128)) = true :=
    (isContinuation_ofNat (by omega)).2 (by omega)
  have hvalue : (UInt8.ofNat (n / 4096 % 16 + 224)).toNat % 16 * 4096 + n / 64 % 64 * 64 +
      n % 64 = n := by
    rw [UInt8.toNat_ofNat_of_lt' hlt]
    omega
  simp only [scanUtf8, hlead, hsecond, hthird, Bool.not_true, Bool.false_eq_true, if_false,
    if_true, low6_ofNat, hvalue]

theorem scanUtf8_four (hleast : 0x10000 ≤ n) (h : n < 0x110000) :
    scanUtf8 (UInt8.ofNat (n / 262144 % 8 + 240))
        (UInt8.ofNat (n / 4096 % 64 + 128) :: UInt8.ofNat (n / 64 % 64 + 128) ::
          UInt8.ofNat (n % 64 + 128) :: rest) =
      (some (Char.ofNat n), rest) := by
  have hlt : n / 262144 % 8 + 240 < 256 := by omega
  have hlead : announced (UInt8.ofNat (n / 262144 % 8 + 240)) = some 4 := by
    rw [announced_ofNat hlt, if_neg (by omega), if_neg (by omega), if_neg (by omega),
      if_pos (by omega)]
  have hsecond : isSecond (UInt8.ofNat (n / 262144 % 8 + 240))
      (UInt8.ofNat (n / 4096 % 64 + 128)) = true :=
    (isSecond_ofNat hlt (by omega)).2 (by omega)
  have hcontinuation (m : Nat) : isContinuation (UInt8.ofNat (m % 64 + 128)) = true :=
    (isContinuation_ofNat (by omega)).2 (by omega)
  have hvalue : (UInt8.ofNat (n / 262144 % 8 + 240)).toNat % 8 * 262144 + n / 4096 % 64 * 4096 +
      n / 64 % 64 * 64 + n % 64 = n := by
    rw [UInt8.toNat_ofNat_of_lt' hlt]
    omega
  simp only [scanUtf8, hlead, hsecond, hcontinuation, Bool.not_true, Bool.false_eq_true, if_false,
    if_true, low6_ofNat, hvalue]

/-! ### Texts -/

/-- A character is read from its bytes, whatever follows. -/
theorem scanUtf8_encodeChar (c : Char) (rest : List UInt8) :
    ∃ lead more, String.utf8EncodeChar c ++ rest = lead :: more ∧
      scanUtf8 lead more = (some c, rest) := by
  have hchar : Char.ofNat c.val.toNat = c := Char.ofNat_toNat c
  -- No character is a surrogate or lies beyond the last plane.
  have hvalid : c.val.toNat < 0xD800 ∨ 0xDFFF < c.val.toNat ∧ c.val.toNat < 0x110000 := c.valid
  rw [String.utf8EncodeChar]
  generalize c.val.toNat = n at hchar hvalid
  subst hchar
  split_ifs with h1 h2 h3
  · exact ⟨_, _, rfl, scanUtf8_one (by omega)⟩
  · exact ⟨_, _, rfl, scanUtf8_two (by omega) (by omega)⟩
  · exact ⟨_, _, rfl, scanUtf8_three (by omega) (by omega)⟩
  · exact ⟨_, _, rfl, scanUtf8_four (by omega) (by omega)⟩

theorem scanAllUtf8_flatMap (cs : List Char) :
    scanAllUtf8 (cs.flatMap String.utf8EncodeChar) = cs.map some := by
  induction cs with
  | nil => rw [List.flatMap_nil, scanAllUtf8, List.map_nil]
  | cons c cs ih =>
    obtain ⟨lead, more, hbytes, hscan⟩ :=
      scanUtf8_encodeChar c (cs.flatMap String.utf8EncodeChar)
    rw [List.flatMap_cons, hbytes, scanAllUtf8, hscan, ih, List.map_cons]

/-- A text is read from its bytes. -/
theorem ofUtf8Lossy_utf8Bytes (text : String) : ofUtf8Lossy (utf8Bytes text) = text := by
  rw [ofUtf8Lossy, utf8Bytes, scanAllUtf8_flatMap, List.map_map]
  simp [Function.comp_def]

theorem ofUtf8?_utf8Bytes (text : String) : ofUtf8? (utf8Bytes text) = some text := by
  have hall (cs : List Char) : (cs.map some).mapM id = some cs := by
    induction cs with
    | nil => rfl
    | cons c cs ih => rw [List.map_cons, List.mapM_cons, ih]; rfl
  rw [ofUtf8?, utf8Bytes, scanAllUtf8_flatMap, hall, Option.map_some, String.ofList_toList]

/-! ### ASCII characters -/

section Ascii

variable {a b c : Char} {x : UInt8}

theorem utf8EncodeChar_ascii (h : c.toNat < 0x80) :
    String.utf8EncodeChar c = [UInt8.ofNat c.toNat] :=
  if_pos (Nat.le_of_lt_succ h)

/-- No byte of another character is the byte of an ASCII character. -/
theorem ascii_not_mem_utf8EncodeChar (ha : a.toNat < 0x80) (hc : c ≠ a) :
    UInt8.ofNat a.toNat ∉ String.utf8EncodeChar c := by
  have hne : c.val.toNat ≠ a.toNat := fun h => hc (Char.ext (UInt32.toNat_inj.1 h))
  have hother {n : Nat} (h : n % 256 ≠ a.toNat) : UInt8.ofNat a.toNat ≠ UInt8.ofNat n := by
    rw [ne_eq, ← UInt8.toNat_inj, UInt8.toNat_ofNat', UInt8.toNat_ofNat']
    omega
  rw [String.utf8EncodeChar]
  generalize c.val.toNat = n at hne
  split_ifs with h1 h2 h3 <;>
    simp only [List.mem_cons, List.not_mem_nil, or_false, not_or]
  · exact hother (by omega)
  · exact ⟨hother (by omega), hother (by omega)⟩
  · exact ⟨hother (by omega), hother (by omega), hother (by omega)⟩
  · exact ⟨hother (by omega), hother (by omega), hother (by omega), hother (by omega)⟩

/-- An ASCII character that is replaced by another one in a text is replaced in its bytes. -/
theorem utf8Bytes_replace (ha : a.toNat < 0x80) (hb : b.toNat < 0x80) (text : String) :
    utf8Bytes (String.ofList (text.toList.map fun c => if c = a then b else c)) =
      (utf8Bytes text).map fun x =>
        if x = UInt8.ofNat a.toNat then UInt8.ofNat b.toNat else x := by
  rw [utf8Bytes, utf8Bytes, String.toList_ofList, List.flatMap_map, List.map_flatMap]
  refine List.flatMap_congr fun c _ => ?_
  split_ifs with hc
  · rw [hc, utf8EncodeChar_ascii ha, utf8EncodeChar_ascii hb, List.map_singleton, if_pos rfl]
  · refine (List.map_id' _).symm.trans (List.map_congr_left fun x hx => ?_)
    have hne : x ≠ UInt8.ofNat a.toNat := fun h => ascii_not_mem_utf8EncodeChar ha hc (h ▸ hx)
    rw [if_neg hne]

/-- A text begins with an ASCII character if its bytes begin with the one of the character. -/
theorem head?_utf8Bytes (ha : a.toNat < 0x80) (text : String) :
    (utf8Bytes text).head? = some (UInt8.ofNat a.toNat) ↔ text.toList.head? = some a := by
  rw [utf8Bytes]
  cases text.toList with
  | nil => simp
  | cons c cs =>
    rw [List.flatMap_cons, List.head?_append, List.head?_cons]
    by_cases hc : c = a
    · simp [hc, utf8EncodeChar_ascii ha]
    · have hnot := ascii_not_mem_utf8EncodeChar ha hc
      obtain ⟨x, xs, hx⟩ := List.exists_cons_of_ne_nil (String.utf8EncodeChar_ne_nil (c := c))
      rw [hx, List.mem_cons, not_or] at hnot
      simp [hx, hc, Ne.symm hnot.1]

end Ascii

end ValueTrace.Text
