import ValueTrace.Json.Token
import ValueTrace.Path.Url
import ValueTrace.Proofs.Path.Names
import ValueTrace.Proofs.Text.Utf8

/-!
# URLs identify files

The URL of an absolute path has one segment for each name along the path, and decoding the segments
gives the bytes of the names back (`Url.spells_ofNames`).  What a URL spells is read from its text
alone (`Url.Spells.unique`), so two absolute paths have the same URL if and only if they lead along
the same names, in whichever bytes the names are written.

A path that is not absolute always gets the URL of an absolute one: its text with a slash in front
is absolute, so that text is never taken for a URL as it is (`FilePath.url_of_not_isAbsolute`).
Only here can bytes be lost, because the path is read as a text before.

## Main definitions

* `Url.decode` : the bytes that a segment stands for.
* `Url.Spells` : a URL consists of segments that stand for names.
* `FilePath.rooted` : bytes as an absolute path.

## Main results

* `Url.decode_encode` : a segment stands for the name that it was made from.
* `Url.Spells.unique` : a URL spells at most one list of names.
* `FilePath.urls_identify_files` : URLs of absolute and of other paths.
-/

namespace ValueTrace

namespace Url

variable {b : UInt8} {c : Char} {url : String} {names names' : List (List UInt8)}
  {segments : List (List Char)}

/-! ### Segments -/

/-- The bytes that a segment stands for: a percent sign and two hexadecimal digits are one byte, any
other character stands for its own bytes. -/
def decode : List Char → List UInt8
  | '%' :: a :: b :: rest =>
    match Json.hexNumber [a, b] with
    | some n => UInt8.ofNat n :: decode rest
    | none => String.utf8EncodeChar '%' ++ decode (a :: b :: rest)
  | c :: rest => String.utf8EncodeChar c ++ decode rest
  | [] => []

/-- The characters that segments consist of: visible ASCII characters that do not end a segment. -/
def isSegmentChar (c : Char) : Bool :=
  0x20 < c.toNat && c.toNat < 0x7F && !(['/', '?', '#'].contains c)

theorem toNat_ofNat_byte (b : UInt8) : (Char.ofNat b.toNat).toNat = b.toNat := by
  have hvalid : b.toNat.isValidChar := Or.inl (b.toNat_lt.trans (by decide))
  rw [Char.toNat, Char.ofNat, dif_pos hvalid]
  rfl

/-- What stands for itself is visible, and neither ends a segment nor begins an escape. -/
theorem isSegmentChar_of_isPlain (h : isPlain b = true) :
    isSegmentChar (Char.ofNat b.toNat) = true ∧ Char.ofNat b.toNat ≠ '%' := by
  simp only [isPlain, Bool.and_eq_true, decide_eq_true_eq, Bool.not_eq_true',
    List.any_eq_false, UInt8.le_iff_toNat_le, UInt8.lt_iff_toNat_lt] at h
  obtain ⟨⟨hleast, hlt⟩, hreserved⟩ := h
  have hne (c : Char) (hc : c ∈ reserved) : Char.ofNat b.toNat ≠ c := by
    rintro rfl
    exact hreserved _ hc (toNat_ofNat_byte b)
  have hspace : b.toNat ≠ 0x20 := fun h => hreserved ' ' (by decide) h.symm
  have hends : Char.ofNat b.toNat ∉ ['/', '?', '#'] := by
    simp only [List.mem_cons, List.not_mem_nil, or_false, not_or]
    exact ⟨hne '/' (by decide), hne '?' (by decide), hne '#' (by decide)⟩
  refine ⟨?_, hne '%' (by decide)⟩
  simp only [isSegmentChar, toNat_ofNat_byte, Bool.and_eq_true, decide_eq_true_eq,
    Bool.not_eq_true', List.contains_eq_mem, decide_eq_false_iff_not]
  exact ⟨⟨Nat.lt_of_le_of_ne hleast (Ne.symm hspace), hlt⟩, hends⟩

theorem isSegmentChar_upperHex {n : Nat} (h : n < 16) : isSegmentChar (upperHex n) = true := by
  revert n
  decide

theorem hexValue_upperHex {n : Nat} (h : n < 16) : Json.hexValue (upperHex n) = some n := by
  revert n
  decide

theorem decode_encodeByte (b : UInt8) (rest : List Char) :
    decode (encodeByte b ++ rest) = b :: decode rest := by
  have hb : b.toNat < 256 := b.toNat_lt
  rw [encodeByte]
  split_ifs with hplain
  · have hbytes : String.utf8EncodeChar (Char.ofNat b.toNat) = [b] := by
      have hlt : b.toNat < 0x80 := by
        simp [isPlain, UInt8.lt_iff_toNat_lt] at hplain
        omega
      rw [Text.utf8EncodeChar_ascii (by rwa [toNat_ofNat_byte]), toNat_ofNat_byte,
        UInt8.ofNat_toNat]
    rw [List.singleton_append, decode, hbytes, List.singleton_append]
    rintro _ _ _ h -
    exact (isSegmentChar_of_isPlain hplain).2 h
  · have hnumber : Json.hexNumber [upperHex (b.toNat / 16), upperHex (b.toNat % 16)] =
        some b.toNat := by
      have hvalue : b.toNat / 16 * 16 + b.toNat % 16 = b.toNat := by omega
      simp [Json.hexNumber, hexValue_upperHex (show b.toNat / 16 < 16 by omega),
        hexValue_upperHex (show b.toNat % 16 < 16 by omega), hvalue]
    simp only [List.cons_append, List.nil_append, decode, hnumber, UInt8.ofNat_toNat]

/-- A segment stands for the name that it was made from. -/
theorem decode_encode (name : List UInt8) : decode (encode name) = name := by
  induction name with
  | nil => rfl
  | cons b name ih => rw [encode, List.flatMap_cons, decode_encodeByte, ← encode, ih]

theorem isSegmentChar_of_mem_encode {name : List UInt8} (h : c ∈ encode name) :
    isSegmentChar c = true := by
  obtain ⟨b, -, hc⟩ := List.mem_flatMap.1 h
  have hb : b.toNat < 256 := b.toNat_lt
  rw [encodeByte] at hc
  split_ifs at hc with hplain
  · rw [List.mem_singleton.1 hc]
    exact (isSegmentChar_of_isPlain hplain).1
  · simp only [List.mem_cons, List.not_mem_nil, or_false] at hc
    rcases hc with rfl | rfl | rfl
    · decide
    · exact isSegmentChar_upperHex (by omega)
    · exact isSegmentChar_upperHex (by omega)

theorem encode_ne_nil {name : List UInt8} (h : name ≠ []) : encode name ≠ [] := by
  intro hnil
  exact h (by rw [← decode_encode name, hnil, decode])

/-! ### Spelling -/

/-- A URL consists of one segment for each name, which stands for the name when it is decoded. -/
def Spells (url : String) (names : List (List UInt8)) : Prop :=
  ∃ segments : List (List Char),
    url = "file:///" ++ String.ofList (['/'].intercalate segments) ∧
      segments.map decode = names ∧
      ∀ segment ∈ segments, segment ≠ [] ∧ ∀ c ∈ segment, isSegmentChar c = true

/-- The segments are found again between the slashes. -/
theorem splitOn_intercalate_segments
    (h : ∀ segment ∈ segments, segment ≠ [] ∧ ∀ c ∈ segment, isSegmentChar c = true) :
    ((['/'].intercalate segments).splitOn '/').filter (fun segment => segment ≠ []) = segments := by
  rcases eq_or_ne segments [] with rfl | hne
  · rfl
  · have hslash : ∀ segment ∈ segments, '/' ∉ segment := fun segment hsegment hmem =>
      absurd ((h segment hsegment).2 '/' hmem) (by decide)
    rw [List.splitOn_intercalate '/' hslash hne, List.filter_eq_self]
    exact fun segment hsegment => decide_eq_true (h segment hsegment).1

/-- A URL spells at most one list of names. -/
theorem Spells.unique (h : Spells url names) (h' : Spells url names') : names = names' := by
  obtain ⟨segments, rfl, rfl, hsegments⟩ := h
  obtain ⟨segments', hurl, rfl, hsegments'⟩ := h'
  rw [String.append_right_inj, String.ofList_inj] at hurl
  rw [← splitOn_intercalate_segments hsegments, hurl, splitOn_intercalate_segments hsegments']

theorem segments_eq_intercalate (names : List (List UInt8)) :
    Url.segments names = '/' :: ['/'].intercalate (names.map encode) := by
  cases names with
  | nil => rfl
  | cons name names =>
    rw [segments]
    induction names generalizing name with
    | nil => simp
    | cons next names ih =>
      rw [List.flatMap_cons, ih, List.map_cons, List.map_cons, List.map_cons,
        List.intercalate_cons_cons]
      simp
    · simp

/-- The URL of names spells them, if none of them is empty. -/
theorem spells_ofNames (h : ∀ name ∈ names, name ≠ []) : Spells (ofNames names) names := by
  refine ⟨names.map encode, ?_, ?_, ?_⟩
  · rw [ofNames, segments_eq_intercalate, String.ofList_cons, ← String.append_assoc]
    rfl
  · rw [List.map_map, Function.comp_def]
    simp only [decode_encode, List.map_id']
  · intro segment hsegment
    obtain ⟨name, hname, rfl⟩ := List.mem_map.1 hsegment
    exact ⟨encode_ne_nil (h name hname), fun c => isSegmentChar_of_mem_encode⟩

end Url

namespace FilePath

variable {p q : FilePath}

/-- The components of an absolute path are its names. -/
theorem components_of_isAbsolute (h : p.isAbsolute = true) : p.components = p.names := by
  have hroot : p.beginsHere = false := by
    obtain ⟨bytes⟩ := p
    cases bytes with
    | nil => rfl
    | cons b bytes =>
      obtain rfl : b = slash := by simpa [isAbsolute] using h
      rfl
  rw [components, hroot, if_neg Bool.false_ne_true]

theorem ne_nil_of_mem_names {name : List UInt8} (h : name ∈ p.names) : name ≠ [] := by
  rintro rfl
  simp [names, isSilent] at h

theorem url_of_isAbsolute (h : p.isAbsolute = true) : p.url = Url.ofNames p.names := by
  rw [url, url?, if_pos h]

theorem url?_of_isAbsolute (h : p.isAbsolute = true) : p.url? = some p.url := by
  rw [url_of_isAbsolute h, url?, if_pos h]

theorem spells_url (h : p.isAbsolute = true) : Url.Spells p.url p.components := by
  rw [url_of_isAbsolute h, components_of_isAbsolute h]
  exact Url.spells_ofNames fun name => ne_nil_of_mem_names

/-! ### Paths that are not absolute -/

/-- Bytes as an absolute path: backslashes count as slashes, and a slash is put in front where none
is. -/
def rooted (bytes : List UInt8) : FilePath :=
  let slashed := bytes.map fun b => if b = 0x5C then slash else b
  ⟨if slashed.head? = some slash then slashed else slash :: slashed⟩

theorem isAbsolute_rooted (bytes : List UInt8) : (rooted bytes).isAbsolute = true := by
  rw [rooted, isAbsolute]
  split_ifs with h
  · exact decide_eq_true h
  · rfl

theorem ofText_rootedText (text : String) :
    ofText (rootedText text) = rooted (Text.utf8Bytes text) := by
  have hbytes := Text.utf8Bytes_replace (a := '\\') (b := '/') (by decide) (by decide) text
  have hhead := Text.head?_utf8Bytes (a := '/') (by decide)
    (String.ofList (text.toList.map fun c => if c = '\\' then '/' else c))
  rw [hbytes, String.toList_ofList] at hhead
  rw [ofText, rootedText, rooted]
  by_cases h : (text.toList.map fun c => if c = '\\' then '/' else c).head? = some '/'
  · rw [if_pos h, hbytes]
    exact congrArg mk (if_pos (hhead.2 h)).symm
  · rw [if_neg h]
    refine congrArg mk (.trans ?_ (if_neg (mt hhead.1 h)).symm)
    rw [Text.utf8Bytes, String.toList_ofList] at hbytes ⊢
    exact congrArg (slash :: ·) hbytes

/-- A path that is not absolute gets the URL of its rooted text. -/
theorem url_of_not_isAbsolute (h : p.isAbsolute = false) :
    p.url = (rooted (Text.utf8Bytes p.text)).url := by
  have hnone : p.url? = none := if_neg (by rw [h]; exact Bool.false_ne_true)
  rw [url, hnone, ofText_rootedText, url?_of_isAbsolute (isAbsolute_rooted _)]
  rfl

/-- The rooted text has a URL, so it is never taken as it is. -/
theorem url?_rootedText (h : p.isAbsolute = false) :
    (ofText (rootedText p.text)).url? = some p.url := by
  rw [ofText_rootedText, url?_of_isAbsolute (isAbsolute_rooted _), url_of_not_isAbsolute h]

theorem utf8Bytes_text_ofText (text : String) :
    Text.utf8Bytes (ofText text).text = (ofText text).bytes := by
  rw [FilePath.text, ofText, Text.ofUtf8Lossy_utf8Bytes]

/-- The URL of an absolute path spells its components, and two absolute paths have the same URL if
and only if they have the same components.  Any other path has no URL of its own and gets the one of
an absolute path, which is its text with slashes for backslashes and a slash in front; the text has
the bytes of the path unless these are ill-formed. -/
theorem urls_identify_files (p : FilePath) :
    (p.isAbsolute = true →
      Url.Spells p.url p.components ∧
        ∀ q : FilePath, q.isAbsolute = true → (p.url = q.url ↔ p.components = q.components)) ∧
      (p.isAbsolute = false →
        p.url? = none ∧ (ofText (rootedText p.text)).url? = some p.url ∧
          (rooted (Text.utf8Bytes p.text)).isAbsolute = true ∧
          p.url = (rooted (Text.utf8Bytes p.text)).url ∧
          ∀ text, p = ofText text → p.url = (rooted p.bytes).url) := by
  refine ⟨fun hp => ⟨spells_url hp, fun q hq => ⟨fun h => ?_, fun h => ?_⟩⟩, fun hp => ?_⟩
  · exact (h ▸ spells_url hp).unique (spells_url hq)
  · rw [url_of_isAbsolute hp, url_of_isAbsolute hq, ← components_of_isAbsolute hp, h,
      components_of_isAbsolute hq]
  · refine ⟨if_neg (by rw [hp]; exact Bool.false_ne_true), url?_rootedText hp,
      isAbsolute_rooted _, url_of_not_isAbsolute hp, ?_⟩
    rintro text rfl
    rw [url_of_not_isAbsolute hp, utf8Bytes_text_ofText]

/-- Paths written differently that lead along the same names, and one with a drive letter. -/
theorem urls_identify_files_samples :
    (ofText "/my app//./a#1.js/").url = (ofText "/my app/a#1.js").url ∧
      (ofText "C:\\work\\app.js").url = (ofText "/C:/work/app.js").url := by
  refine ⟨?_, ?_⟩
  · exact (((urls_identify_files (ofText "/my app//./a#1.js/")).1 (by decide +kernel)).2 _
      (by decide +kernel)).2 (by decide +kernel)
  · refine (((urls_identify_files (ofText "C:\\work\\app.js")).2 (by decide +kernel)).2.2.2.2 _
      rfl).trans ?_
    decide +kernel

/-- A byte that is no text is replaced in a path that is not absolute, so the URL is not that of the
path with a slash in front. -/
theorem url_illFormed_ne_rooted :
    (⟨[0xFF]⟩ : FilePath).isAbsolute = false ∧
      (⟨[0xFF]⟩ : FilePath).url = "file:///%EF%BF%BD" ∧
      (rooted [0xFF]).url = "file:///%FF" ∧
      (⟨[0xFF]⟩ : FilePath).url ≠ (rooted [0xFF]).url := by
  decide +kernel

end FilePath

end ValueTrace
