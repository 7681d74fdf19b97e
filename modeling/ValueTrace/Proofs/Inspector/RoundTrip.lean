import ValueTrace.Proofs.Inspector.Frames
import ValueTrace.Proofs.Json.Printing

/-!
# Frames that are written and read again

What is absent from a frame is written in different ways: a missing result, error or datum is left
out, and missing parameters are written as null.  All of them are read as absent, as is a null.  So
not every frame is read as it was written, but every frame that was read from some text is: no
payload in it is a null, except the parameters of a notification, and its payloads are nested no
deeper than the text was (`Inbound.IsReadable`).

The reader of doubles is not exact, so nothing is claimed of a frame with a double whose own text is
not read as this double.

## Main definitions

* `Inbound.IsReadable` : the frames that texts can be.
* `Inbound.value` : a frame as JSON.

## Main results

* `Inbound.isReadable_of_ofText?` : the frames that are read.
* `Inbound.IsReadable.ofText?_text` : they are read as they are written.
* `rereads_written_frame` : both together.
-/

namespace ValueTrace.Inspector

open Json
open Json.Record (listed)

variable {members : List (Option String × Document)} {name text : String} {m : Inbound}
variable {depth : Nat}

/-! ### Payloads -/

/-- A payload that may be absent: it is not null, and nested at most so deep. -/
def IsPayload (depth : Nat) (payload : Option Value) : Prop :=
  ∀ v, payload = some v → v ≠ .null ∧ v.IsReadable depth

theorem eq_null_of_value? {d : Document} (h : d.value? = some .null) : d = .null := by
  cases d with
  | null => rfl
  | bool | number | string | unrepresentable | broken => cases h
  | array items closed =>
    rw [Document.value?] at h
    split at h
    · simp at h
    · cases h
  | object members closed =>
    rw [Document.value?] at h
    split at h
    · simp at h
    · cases h

/-- What is read for a field is a payload. -/
theorem isPayload_of_holds {payload : Option Value} (h : Holds Decoder.value name members payload)
    (hmembers : ∀ m ∈ members, m.2.IsReadable depth) : IsPayload depth payload := by
  rintro v rfl
  cases h with
  | @value d _ hunder hnull hread =>
    obtain ⟨m, hm, rfl⟩ := mem_of_under (hunder ▸ List.mem_singleton_self d)
    have hvalue := Decoder.value_eq_ok_iff.1 hread
    refine ⟨?_, (hmembers m hm).value hvalue⟩
    rintro rfl
    exact hnull (eq_null_of_value? hvalue)

theorem ofValue_ne_null {v : Value} (h : v ≠ .null) : Document.ofValue v ≠ .null := by
  cases v with
  | null => exact absurd rfl h
  | bool | number | string | array | object => simp [Document.ofValue]

/-- A payload is read from the object that has it, or from one that has nothing in its place. -/
theorem IsPayload.holds {payload : Option Value} (h : IsPayload depth payload)
    (hunder : under name members = payload.toList.map Document.ofValue) :
    Holds Decoder.value name members payload := by
  cases payload with
  | none => exact .missing hunder
  | some v =>
    obtain ⟨hnull, hreadable⟩ := h v rfl
    exact .value hunder (ofValue_ne_null hnull) (Decoder.value_eq_ok_iff.2 hreadable.value?_ofValue)

theorem isReadable_optionalMember {payload : Option Value}
    (h : ∀ v, payload = some v → v.IsReadable depth) :
    ∀ m ∈ optionalMember name payload, m.2.IsReadable depth := by
  cases payload with
  | none => simp [optionalMember]
  | some v => simpa [optionalMember] using h v rfl

/-! ### Errors -/

/-- The errors that texts can hold. -/
structure ErrorBody.IsReadable (depth : Nat) (e : ErrorBody) : Prop where
  code : -(Nat.pow 2 63 : Int) ≤ e.code ∧ e.code ≤ (Nat.pow 2 63 : Int) - 1
  data : IsPayload depth e.data

/-- What an object has for the fields of an error. -/
structure HoldsError (members : List (Option String × Document)) (e : ErrorBody) : Prop where
  code : ∃ d, under "code" members = [d] ∧ Decoder.int64 .text d = .ok e.code
  message : ∃ d, under "message" members = [d] ∧ Decoder.text .text d = .ok e.message
  data : Holds Decoder.value "data" members e.data

/-- The fields of an error in their order. -/
def errorFieldNames : List String := ["code", "message", "data"]

/-- The documents from which an error is read. -/
theorem errorBody_decoder_iff {d : Document} (hintact : d.intact = true) (e : ErrorBody) :
    ErrorBody.decoder .text d = .ok e ↔
      ∃ members, HoldsError members e ∧
        (d = .object members true ∧ (∀ m ∈ members, m.1 ≠ none) ∨
          ∃ items, d = .array items true ∧ items.length ≤ errorFieldNames.length ∧
            members = listed errorFieldNames items) := by
  unfold ErrorBody.decoder
  rw [Record.decoder_eq_ok_iff (by decide)
    (by simp [Record.Awaits, Record.optional, Record.required]) _ hintact]
  refine exists_congr fun members => and_congr_left fun _ => ?_
  simp only [Record.optional, Record.required, Record.Gives, gets_optional_iff, gets_required_iff]
  constructor
  · rintro ⟨_, data, ⟨_, message, ⟨_, code, rfl, hcode, rfl⟩, hmessage, rfl⟩, hdata, rfl⟩
    exact ⟨hcode, hmessage, hdata⟩
  · rintro ⟨hcode, hmessage, hdata⟩
    exact ⟨_, _, ⟨_, _, ⟨_, _, rfl, hcode, rfl⟩, hmessage, rfl⟩, hdata, rfl⟩

/-- The parts of what makes a record are nested less deep. -/
theorem isReadable_of_listed {names : List String} {items : List Document}
    (h : ∀ d ∈ items, d.IsReadable depth) : ∀ m ∈ listed names items, m.2.IsReadable depth :=
  fun _ hm => h _ (List.of_mem_zip hm).2

/-- An error that is read is one that texts can hold. -/
theorem ErrorBody.isReadable_of_decoder {d : Document} {e : ErrorBody} (hintact : d.intact = true)
    (hd : d.IsReadable (depth + 1)) (h : ErrorBody.decoder .text d = .ok e) :
    e.IsReadable depth := by
  obtain ⟨members, hholds, hshape⟩ := (errorBody_decoder_iff hintact e).1 h
  have hmembers : ∀ m ∈ members, m.2.IsReadable depth := by
    rcases hshape with ⟨rfl, -⟩ | ⟨items, rfl, -, rfl⟩
    · cases hd with
      | object h => exact h
    · cases hd with
      | array h => exact isReadable_of_listed h
  obtain ⟨_, -, hcode⟩ := hholds.code
  exact ⟨(Decoder.integer_eq_ok_iff.1 hcode).2, isPayload_of_holds hholds.data hmembers⟩

theorem ErrorBody.IsReadable.value {e : ErrorBody} (h : e.IsReadable depth) :
    e.value.IsReadable (depth + 1) := by
  obtain ⟨hcode, hdata⟩ := h
  refine .object ?_ ?_
  · cases e.data <;> simp [optionalMember]
  · intro m hm
    rcases List.mem_append.1 hm with hfield | hoptional
    · simp only [List.mem_cons, List.not_mem_nil, or_false] at hfield
      rcases hfield with rfl | rfl
      · refine .number ⟨hcode.1, ?_⟩
        have hmax := hcode.2
        simp only [Nat.pow_eq, UInt64.size] at hmax ⊢
        omega
      · exact .string
    · exact isReadable_optionalMember (fun v hv => (hdata v hv).2) m hoptional

/-- An error is read as it is written. -/
theorem ErrorBody.IsReadable.decoder_value {e : ErrorBody} (h : e.IsReadable depth) :
    ErrorBody.decoder .text (.ofValue e.value) = .ok e := by
  refine (errorBody_decoder_iff (Document.intact_ofValue _) e).2
    ⟨_, ?_, Or.inl ⟨rfl, fun _ => Document.names_ofMembers⟩⟩
  have hcode : Decoder.int64 .text (.number (.integer e.code)) = .ok e.code :=
    Decoder.integer_eq_ok_iff.2 ⟨rfl, h.code⟩
  exact ⟨⟨_, by cases e.data <;> rfl, hcode⟩, ⟨_, by cases e.data <;> rfl, rfl⟩,
    h.data.holds (by cases e.data <;> rfl)⟩

/-! ### Frames -/

/-- A frame as JSON. -/
def Inbound.value : Inbound → Value
  | .response r => r.value
  | .notification n => n.value

theorem Inbound.text_eq (m : Inbound) : m.text = m.value.compact := by
  cases m <;> rfl

/-- The frames that texts can be: ids have 64 bits, results are not null, and payloads are nested at
most so deep, not counting the error or the frame that holds them. -/
inductive Inbound.IsReadable (depth : Nat) : Inbound → Prop
  | response {r : Response} (hid : r.id < UInt64.size) (hresult : IsPayload (depth + 1) r.result)
      (herror : ∀ e, r.error = some e → e.IsReadable depth) : IsReadable depth (.response r)
  | notification {n : Notification} (hparams : n.params.IsReadable (depth + 1)) :
      IsReadable depth (.notification n)

theorem requestId?_lt {id : Value} {n : RequestId} (h : requestId? id = some n) :
    n < UInt64.size := by
  obtain ⟨k, -, hk⟩ := Option.bind_eq_some_iff.1 h
  split at hk
  · rename_i hlt
    obtain rfl := Option.some.inj hk
    exact hlt
  · cases hk

theorem requestId?_ofNat {n : Nat} (h : n < UInt64.size) : requestId? (.ofNat n) = some n := by
  simp [requestId?, Value.ofNat, Value.natural?, Number.natural?, h]

/-- What an object has for the fields of a frame makes a frame that texts can be. -/
theorem FrameOf.isReadable (h : FrameOf members m)
    (hmembers : ∀ m ∈ members, m.2.IsReadable (depth + 1))
    (hintact : ∀ m ∈ members, m.2.intact = true) : m.IsReadable depth := by
  cases h with
  | @response id n method params result error h hid =>
    refine .response (requestId?_lt hid) (isPayload_of_holds h.result hmembers) ?_
    rintro e rfl
    cases h.error with
    | @value d _ hunder hnull hread =>
      obtain ⟨m, hm, rfl⟩ := mem_of_under (hunder ▸ List.mem_singleton_self d)
      exact ErrorBody.isReadable_of_decoder (hintact m hm) (hmembers m hm) hread
  | @notification method params result error h =>
    refine .notification ?_
    cases params with
    | none => exact .null
    | some v => exact (isPayload_of_holds h.params hmembers v rfl).2

/-- A frame that is read is one that texts can be. -/
theorem Inbound.isReadable_of_ofText? (h : Inbound.ofText? text = .ok m) :
    m.IsReadable (depthLimit - 2) := by
  obtain ⟨members, hframe, ⟨hobject, -⟩ | ⟨items, harray, -, rfl⟩⟩ := Inbound.ofText?_eq_ok_iff.1 h
  · have hintact := Bool.and_eq_true_iff.1 (Document.intact_of_read hobject)
    cases Document.isReadable_of_read hobject with
    | object hmembers =>
      exact hframe.isReadable hmembers (Document.intactMembers_iff.1 hintact.1)
  · have hintact := Bool.and_eq_true_iff.1 (Document.intact_of_read harray)
    cases Document.isReadable_of_read harray with
    | array hitems =>
      refine hframe.isReadable (isReadable_of_listed hitems) fun m hm => ?_
      exact Document.intactItems_iff.1 hintact.1 _ (List.of_mem_zip hm).2

/-- The fields of a response are read from the object that it makes. -/
theorem Response.holdsFields {r : Response} (hresult : IsPayload (depth + 1) r.result)
    (herror : ∀ e, r.error = some e → e.IsReadable depth) :
    HoldsFields (Document.ofMembers ([("id", .ofNat r.id)] ++ optionalMember "result" r.result
      ++ optionalMember "error" (r.error.map ErrorBody.value)))
      ⟨some (.ofNat r.id), none, none, r.result, r.error⟩ := by
  obtain ⟨id, result, error⟩ := r
  constructor
  · refine .value (d := .number (.integer id)) ?_ (by simp) rfl
    cases result <;> cases error <;> rfl
  · refine .missing ?_
    cases result <;> cases error <;> rfl
  · refine .missing ?_
    cases result <;> cases error <;> rfl
  · refine hresult.holds ?_
    cases result <;> cases error <;> rfl
  · cases error with
    | none =>
      refine .missing ?_
      cases result <;> rfl
    | some e =>
      refine .value (d := .ofValue e.value) ?_ (by simp [ErrorBody.value, Document.ofValue])
        (herror e rfl).decoder_value
      cases result <;> rfl

/-- The fields of a notification are read from the object that it makes. -/
theorem Notification.holdsFields {n : Notification} (hparams : n.params.IsReadable depth) :
    ∃ params, params.getD .null = n.params ∧
      HoldsFields (Document.ofMembers [("method", .string n.method), ("params", n.params)])
        ⟨none, some n.method, params, none, none⟩ := by
  obtain ⟨method, params⟩ := n
  have hmethod : Holds Decoder.text "method"
      (Document.ofMembers [("method", .string method), ("params", params)]) (some method) :=
    .value (d := .string method) rfl (by simp) rfl
  by_cases hnull : params = .null
  · subst hnull
    exact ⟨none, rfl, .missing rfl, hmethod, .null rfl, .missing rfl, .missing rfl⟩
  · have hread : Decoder.value .text (.ofValue params) = .ok params :=
      Decoder.value_eq_ok_iff.2 hparams.value?_ofValue
    exact ⟨some params, rfl, .missing rfl, hmethod, .value rfl (ofValue_ne_null hnull) hread,
      .missing rfl, .missing rfl⟩

/-- The frame and its error are the two containers around the datum of an error. -/
theorem Inbound.IsReadable.value (h : m.IsReadable depth) : m.value.IsReadable (depth + 2) := by
  cases h with
  | @response r hid hresult herror =>
    refine .object ?_ fun m hm => ?_
    · cases r.result <;> cases r.error <;> simp [optionalMember]
    · simp only [List.mem_append, List.mem_singleton, or_assoc] at hm
      rcases hm with rfl | hm | hm
      · refine .number ⟨?_, by exact_mod_cast hid⟩
        have := Int.natCast_nonneg (Nat.pow 2 63)
        omega
      · exact isReadable_optionalMember (fun v hv => (hresult v hv).2) m hm
      · refine isReadable_optionalMember (fun v hv => ?_) m hm
        obtain ⟨e, he, rfl⟩ := Option.map_eq_some_iff.1 hv
        exact (herror e he).value
  | @notification n hparams =>
    refine .object (by simp) fun m hm => ?_
    simp only [List.mem_cons, List.not_mem_nil, or_false] at hm
    rcases hm with rfl | rfl
    · exact .string
    · exact hparams

/-- The members of a frame make this frame again. -/
theorem Inbound.IsReadable.frameOf (h : m.IsReadable depth) :
    ∃ members, Document.ofValue m.value = .object members true ∧ (∀ m ∈ members, m.1 ≠ none) ∧
      FrameOf members m := by
  cases h with
  | response hid hresult herror =>
    exact ⟨_, rfl, fun _ => Document.names_ofMembers,
      .response (Response.holdsFields hresult herror) (requestId?_ofNat hid)⟩
  | @notification n hparams =>
    obtain ⟨params, hgetD, hfields⟩ := Notification.holdsFields hparams
    refine ⟨_, rfl, fun _ => Document.names_ofMembers, ?_⟩
    have hframe := FrameOf.notification hfields
    rwa [hgetD] at hframe

/-- A frame that texts can be is read as it is written. -/
theorem Inbound.IsReadable.ofText?_text (h : m.IsReadable (depthLimit - 2))
    (hdoubles : ∀ x ∈ m.value.doubles, (Json.Number.float x).ReadsBack) :
    Inbound.ofText? m.text = .ok m := by
  obtain ⟨members, hvalue, hnames, hframe⟩ := h.frameOf
  refine Inbound.ofText?_eq_ok_iff.2 ⟨members, hframe, Or.inl ⟨?_, hnames⟩⟩
  rw [IsObject, m.text_eq, ← hvalue]
  refine Document.read_compact h.value (fun x hx => (hdoubles x hx).isLegible) ?_
  rintro bound hbound
  obtain rfl := Option.some.inj hbound
  decide

/-- A frame that was read from some text is read again from the text it is written as, and then it
has the same outcome, provided that its doubles are read as they are written. -/
theorem rereads_written_frame (text : String) (m : Inbound) (h : Inbound.ofText? text = .ok m)
    (hdoubles : ∀ x ∈ m.value.doubles, (Json.Number.float x).ReadsBack) :
    Inbound.ofText? m.text = .ok m ∧
    ∀ r, m = .response r →
      ∃ r', Inbound.ofText? r.value.compact = .ok (.response r') ∧ r'.outcome = r.outcome := by
  have hreread := (Inbound.isReadable_of_ofText? h).ofText?_text hdoubles
  refine ⟨hreread, ?_⟩
  rintro r rfl
  exact ⟨r, hreread, rfl⟩

/-- An answer whose error comes with a double, while its result is null. -/
def sampleRefusal : String :=
  "\x7b\"result\":null, \"id\":7, \"error\":[-32000,\"no\",0.5]\x7d"

/-- The frame that the sample is. -/
def sampleRefusalFrame : Inbound :=
  .response ⟨7, none, some ⟨-32000, "no", some (.number (.float 0.5))⟩⟩

theorem value?_half : Numeral.value? ⟨false, ['0'], ['5'], none⟩ = some (.float 0.5) := by
  decide +kernel

theorem readsBack_half : (Json.Number.float 0.5).ReadsBack := by
  have hchars : (Json.Number.float 0.5).chars = ['0', '.', '5'] := by decide +kernel
  simp [Number.ReadsBack, Number.text, hchars, Value.read, Document.read, Assembler.run,
    Assembler.start, Assembler.next, Assembler.value, Assembler.place, Assembler.isDone,
    Assembler.document, isBlank, Token.scan, Numeral.scan, Numeral.scanUnsigned, scanWhole,
    scanDigits, scanFraction, scanExponent, value?_half, Document.value?]

theorem isObject_sampleRefusal :
    IsObject sampleRefusal [(some "result", .null), (some "id", .number (.integer 7)),
      (some "error", .array [.number (.integer (-32000)), .string "no", .number (.float 0.5)]
        true)] := by
  have hid : Numeral.value? ⟨false, ['7'], [], none⟩ = some (.integer 7) := by decide +kernel
  have hcode : Numeral.value? ⟨true, ['3', '2', '0', '0', '0'], [], none⟩ =
      some (.integer (-32000)) := by decide +kernel
  simp [sampleRefusal, IsObject, Document.read, Json.depthLimit, Assembler.run,
    Assembler.start, Assembler.next, Assembler.value, Assembler.name, Assembler.separator,
    Assembler.close, Assembler.place, Assembler.container, Assembler.document, Assembler.isDone,
    isBlank, Token.scan, scanString, joinHalves, dropWord, Numeral.scan, Numeral.scanUnsigned,
    scanWhole, scanDigits, scanFraction, scanExponent, value?_half, hid, hcode]

theorem rereads_written_frame_refusal :
    Inbound.ofText? sampleRefusal = .ok sampleRefusalFrame ∧
    (∀ x ∈ sampleRefusalFrame.value.doubles, (Json.Number.float x).ReadsBack) ∧
    Inbound.ofText? sampleRefusalFrame.text = .ok sampleRefusalFrame := by
  have hobject := isObject_sampleRefusal
  have hread : Inbound.ofText? sampleRefusal = .ok sampleRefusalFrame := by
    have hfields : HoldsFields [(some "result", .null), (some "id", .number (.integer 7)),
        (some "error", .array [.number (.integer (-32000)), .string "no", .number (.float 0.5)]
          true)]
        ⟨some (.number (.integer 7)), none, none, none,
          some ⟨-32000, "no", some (.number (.float 0.5))⟩⟩ :=
      ⟨.value rfl (by simp) rfl, .missing rfl, .missing rfl, .null rfl, .value rfl (by simp) rfl⟩
    exact Inbound.ofText?_eq_ok_iff.2
      ⟨_, .response hfields (requestId?_ofNat (by decide)), Or.inl ⟨hobject, by simp⟩⟩
  have hdoubles : ∀ x ∈ sampleRefusalFrame.value.doubles, (Json.Number.float x).ReadsBack := by
    intro x hx
    obtain rfl := List.mem_singleton.1 hx
    exact readsBack_half
  exact ⟨hread, hdoubles, (rereads_written_frame _ _ hread hdoubles).1⟩

end ValueTrace.Inspector
