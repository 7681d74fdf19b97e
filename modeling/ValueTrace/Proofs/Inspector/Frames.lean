import ValueTrace.Proofs.Inspector.Delivery
import ValueTrace.Proofs.Json.Records

/-!
# The texts that are frames

An object is a response if it has an id that is not null, and a notification if it has none and a
method.  All other fields may be null or missing, but what is there must be of the right kind, and
no field may be there twice.  Every other text is no frame, and leaves the pending requests alone,
with one exception: an array is taken for the object that names its items `id`, `method`, `params`,
`result` and `error` in this order, so it may answer a request although it names no id
(`array_answers_request`).

## Main definitions

* `FrameOf` : the frame that the members of an object make.
* `NamesId` : whether a text is an object with an id.

## Main results

* `Inbound.ofText?_eq_ok_iff` : the texts that are frames.
* `objects_are_frames` : which texts are frames, apart from arrays.
-/

namespace ValueTrace.Inspector

open Json
open Json.Record (listed)

variable {members : List (Option String × Document)} {text : String} {m : Inbound}

/-! ### Fields -/

/-- What an object has for the fields of a frame. -/
structure HoldsFields (members : List (Option String × Document)) (raw : RawFrame) : Prop where
  id : Holds Decoder.value "id" members raw.id
  method : Holds Decoder.text "method" members raw.method
  params : Holds Decoder.value "params" members raw.params
  result : Holds Decoder.value "result" members raw.result
  error : Holds ErrorBody.decoder "error" members raw.error

/-- The fields of a frame in their order. -/
def fieldNames : List String := ["id", "method", "params", "result", "error"]

/-- The texts from which the fields of a frame are read. -/
theorem decodeText_rawFrame_iff (raw : RawFrame) :
    Json.decodeText RawFrame.decoder text = .ok raw ↔
      ∃ members, HoldsFields members raw ∧
        (IsObject text members ∧ (∀ m ∈ members, m.1 ≠ none) ∨
          ∃ items, IsArray text items ∧ items.length ≤ fieldNames.length ∧
            members = listed fieldNames items) := by
  unfold RawFrame.decoder
  rw [Record.decodeText_decoder_iff (by decide) (by simp [Record.Awaits, Record.optional])]
  refine exists_congr fun members => and_congr_left fun _ => ?_
  simp only [Record.optional, Record.Gives, gets_optional_iff]
  constructor
  · rintro ⟨_, error, ⟨_, result, ⟨_, params, ⟨_, method, ⟨_, id, rfl, hid, rfl⟩, hmethod, rfl⟩,
      hparams, rfl⟩, hresult, rfl⟩, herror, rfl⟩
    exact ⟨hid, hmethod, hparams, hresult, herror⟩
  · rintro ⟨hid, hmethod, hparams, hresult, herror⟩
    exact ⟨_, _, ⟨_, _, ⟨_, _, ⟨_, _, ⟨_, _, rfl, hid, rfl⟩, hmethod, rfl⟩, hparams, rfl⟩,
      hresult, rfl⟩, herror, rfl⟩

/-! ### Frames -/

/-- The frame that the members of an object make: a response if there is an id, and a notification
if there is none. -/
inductive FrameOf (members : List (Option String × Document)) : Inbound → Prop
  | response {id n method params result error}
      (h : HoldsFields members ⟨some id, method, params, result, error⟩)
      (hid : requestId? id = some n) : FrameOf members (.response ⟨n, result, error⟩)
  | notification {method params result error}
      (h : HoldsFields members ⟨none, some method, params, result, error⟩) :
      FrameOf members (.notification ⟨method, params.getD .null⟩)

/-- Fields are classified as the frame that they make. -/
theorem frameOf_iff :
    FrameOf members m ↔ ∃ raw, HoldsFields members raw ∧ raw.classify = .ok m := by
  constructor
  · rintro (⟨h, hid⟩ | h)
    · exact ⟨_, h, by simp only [RawFrame.classify, hid]⟩
    · exact ⟨_, h, rfl⟩
  · rintro ⟨⟨id, method, params, result, error⟩, h, hclass⟩
    unfold RawFrame.classify at hclass
    split at hclass
    · rename_i hsome
      obtain rfl : id = some _ := hsome
      split at hclass
      · rename_i hid
        obtain rfl := Except.ok.inj hclass
        exact .response h hid
      · cases hclass
    · rename_i hnone hsome
      obtain rfl : id = none := hnone
      obtain rfl : method = some _ := hsome
      obtain rfl := Except.ok.inj hclass
      exact .notification h
    · cases hclass

/-- The frames that texts are.  A text is an object, or an array which is taken for the object that
names its items in the order of the fields. -/
theorem Inbound.ofText?_eq_ok_iff : Inbound.ofText? text = .ok m ↔
    ∃ members, FrameOf members m ∧
      (IsObject text members ∧ (∀ m ∈ members, m.1 ≠ none) ∨
        ∃ items, IsArray text items ∧ items.length ≤ fieldNames.length ∧
          members = listed fieldNames items) := by
  have hread : Inbound.ofText? text = .ok m ↔
      ∃ raw, Json.decodeText RawFrame.decoder text = .ok raw ∧ raw.classify = .ok m := by
    rw [Inbound.ofText?]
    cases Json.decodeText RawFrame.decoder text <;> simp
  simp only [hread, decodeText_rawFrame_iff, frameOf_iff]
  constructor
  · rintro ⟨raw, ⟨members, hfields, hshape⟩, hclass⟩
    exact ⟨members, ⟨raw, hfields, hclass⟩, hshape⟩
  · rintro ⟨members, ⟨raw, hfields, hclass⟩, hshape⟩
    exact ⟨raw, ⟨members, hfields, hshape⟩, hclass⟩

/-! ### Ids -/

/-- A text is an object with an id that is not null. -/
def NamesId (text : String) : Prop :=
  ∃ members, IsObject text members ∧ ∃ d ∈ under "id" members, d ≠ .null

/-- A frame of an object is a response if and only if the object has an id. -/
theorem FrameOf.isSome_id?_iff (h : FrameOf members m) :
    m.id?.isSome = true ↔ ∃ d ∈ under "id" members, d ≠ .null := by
  cases h with
  | response h =>
    refine iff_of_true rfl ?_
    cases h.id with
    | value hunder hnull =>
      rw [hunder]
      exact ⟨_, List.mem_cons_self, hnull⟩
  | notification h =>
    refine iff_of_false Bool.false_ne_true ?_
    rintro ⟨d, hd, hnull⟩
    cases h.id with
    | missing hunder =>
      rw [hunder] at hd
      cases hd
    | null hunder =>
      rw [hunder, List.mem_singleton] at hd
      exact hnull hd

/-- A text that is no response leaves the requests alone. -/
theorem receive_of_no_response (h : ∀ answer, Inbound.ofText? text ≠ .ok (.response answer))
    (c : Connection) :
    (c.receive text).registry.pending = c.registry.pending ∧ (c.receive text).calls = c.calls := by
  rw [Connection.receive]
  cases hread : Inbound.ofText? text with
  | error e => exact ⟨rfl, rfl⟩
  | ok m =>
    cases m with
    | response answer => exact absurd hread (h answer)
    | notification n =>
      exact ⟨(c.registry.pending_dispatch (.notification n)).trans
        (List.filter_eq_self.2 fun _ _ => rfl), rfl⟩

/-- Apart from arrays, a text is a frame if and only if it is an object, whose names are all proper
texts, with the fields of a frame: it is a response with the id, the result and the error of the
object if the object has an id that is not null, and otherwise a notification with its method and
its parameters.  All other texts are no frames, and a text that names no id leaves the pending
requests alone. -/
theorem objects_are_frames (text : String) (hshape : ∀ items, ¬ IsArray text items) :
    (∀ m, Inbound.ofText? text = .ok m ↔
      ∃ members, IsObject text members ∧ (∀ m ∈ members, m.1 ≠ none) ∧ FrameOf members m) ∧
    (∀ m, Inbound.ofText? text = .ok m → (m.id?.isSome = true ↔ NamesId text)) ∧
    (¬ NamesId text → ∀ c : Connection,
      (c.receive text).registry.pending = c.registry.pending ∧
        (c.receive text).calls = c.calls) := by
  have hframe (m : Inbound) : Inbound.ofText? text = .ok m ↔
      ∃ members, IsObject text members ∧ (∀ m ∈ members, m.1 ≠ none) ∧ FrameOf members m := by
    rw [Inbound.ofText?_eq_ok_iff]
    constructor
    · rintro ⟨members, hframe, ⟨hobject, hnamed⟩ | ⟨items, harray, -⟩⟩
      · exact ⟨members, hobject, hnamed, hframe⟩
      · exact absurd harray (hshape items)
    · rintro ⟨members, hobject, hnamed, hframe⟩
      exact ⟨members, hframe, Or.inl ⟨hobject, hnamed⟩⟩
  have hnames (m : Inbound) (hm : Inbound.ofText? text = .ok m) :
      m.id?.isSome = true ↔ NamesId text := by
    obtain ⟨members, hobject, -, hof⟩ := (hframe m).1 hm
    rw [hof.isSome_id?_iff]
    constructor
    · exact fun hid => ⟨members, hobject, hid⟩
    · rintro ⟨members', hobject', hid⟩
      have hsame := (congrArg Prod.fst hobject).symm.trans (congrArg Prod.fst hobject')
      obtain rfl := (Document.object.inj hsame).1
      exact hid
  refine ⟨hframe, hnames, fun hanonymous => receive_of_no_response fun answer hanswer => ?_⟩
  exact hanonymous ((hnames _ hanswer).1 rfl)

/-- An answer to the first request of a connection. -/
def sampleAnswer : String := "\x7b\"id\":1,\"result\":true\x7d"

/-- The samples are read as an object and as an array. -/
theorem isObject_sampleAnswer_and_isArray :
    IsObject sampleAnswer [(some "id", .number (.integer 1)), (some "result", .bool true)] ∧
    IsArray "[1]" [.number (.integer 1)] := by
  constructor <;>
    simp [sampleAnswer, IsObject, IsArray, Document.read, Json.depthLimit, Assembler.run,
      Assembler.start, Assembler.next, Assembler.value, Assembler.name, Assembler.separator,
      Assembler.close, Assembler.place, Assembler.container, Assembler.document, Assembler.isDone,
      isBlank, Token.scan, scanString, joinHalves, dropWord, Numeral.scan, Numeral.scanUnsigned,
      scanWhole, scanDigits, scanFraction, scanExponent, Numeral.value?, Nat.ofDigitChars,
      Numeral.maxSignificand, UInt64.size]

theorem requestId?_one : requestId? (.number (.integer 1)) = some 1 := by
  simp [requestId?, Value.natural?, Json.Number.natural?, UInt64.size]

theorem objects_are_frames_sample :
    (∀ items, ¬ IsArray sampleAnswer items) ∧ NamesId sampleAnswer ∧
    Inbound.ofText? sampleAnswer = .ok (.response ⟨1, some (.bool true), none⟩) := by
  have hobject := isObject_sampleAnswer_and_isArray.1
  have hshape (items : List Document) : ¬ IsArray sampleAnswer items := by
    intro harray
    cases (congrArg Prod.fst hobject).symm.trans (congrArg Prod.fst harray)
  obtain ⟨hobjects, hnames, -⟩ := objects_are_frames sampleAnswer hshape
  have hframe : Inbound.ofText? sampleAnswer = .ok (.response ⟨1, some (.bool true), none⟩) := by
    have hfields : HoldsFields
        [(some "id", .number (.integer 1)), (some "result", .bool true)]
        ⟨some (.number (.integer 1)), none, none, some (.bool true), none⟩ :=
      ⟨.value rfl (by simp) rfl, .missing rfl, .missing rfl, .value rfl (by simp) rfl, .missing rfl⟩
    exact (hobjects _).2 ⟨_, hobject, by simp, .response hfields requestId?_one⟩
  exact ⟨hshape, (hnames _ hframe).1 rfl, hframe⟩

/-- A connection whose first request has been sent. -/
def sampleWaiting : Connection := ((Connection.opened none).send "Debugger.enable" none).1

/-- An array is no object and names no id, and yet it answers the request whose number is its first
item. -/
theorem array_answers_request :
    IsArray "[1]" [.number (.integer 1)] ∧ ¬ NamesId "[1]" ∧
    Inbound.ofText? "[1]" = .ok (.response ⟨1, none, none⟩) ∧
    sampleWaiting.registry.pending = [⟨1, "Debugger.enable"⟩] ∧
    (sampleWaiting.receive "[1]").registry.pending = [] ∧
    ((sampleWaiting.receive "[1]").readAnswer 1).outcome? 1 = some (.ok (.object [])) := by
  have harray := isObject_sampleAnswer_and_isArray.2
  have hframe : Inbound.ofText? "[1]" = .ok (.response ⟨1, none, none⟩) := by
    have hfields : HoldsFields (listed fieldNames [.number (.integer 1)])
        ⟨some (.number (.integer 1)), none, none, none, none⟩ :=
      ⟨.value rfl (by simp) rfl, .missing rfl, .missing rfl, .missing rfl, .missing rfl⟩
    exact Inbound.ofText?_eq_ok_iff.2 ⟨_, .response hfields requestId?_one,
      Or.inr ⟨_, harray, by simp [fieldNames], rfl⟩⟩
  have hreceive :
      sampleWaiting.receive "[1]" = sampleWaiting.dispatch (.response ⟨1, none, none⟩) := by
    simp only [Connection.receive, hframe]
  refine ⟨harray, ?_, hframe, rfl, ?_, ?_⟩
  · rintro ⟨members, hobject, -⟩
    cases (congrArg Prod.fst harray).symm.trans (congrArg Prod.fst hobject)
  · rw [hreceive]
    rfl
  · rw [hreceive]
    rfl

end ValueTrace.Inspector
