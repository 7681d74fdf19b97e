import ValueTrace.Proofs.Inspector.RoundTrip
import ValueTrace.Proofs.Json.Written
import ValueTrace.Proofs.Stepping.Locality

/-!
# Undetermined values

The value recorded for a response is the mark of an undetermined value if the response leaves the
value open (`Stepping.LeavesOpen`): it is an error, cannot be read, reports an exception, or
describes the value neither by a description nor by a value, of which an explicit null is one, nor
by the name of a number that JSON cannot write.  Any other response reports a text, which is
recorded as it is (`Stepping.Reports`).  Since the mark is a text as well, a response that reports
just this text leaves the mark too, and this is the only such response
(`Stepping.mark_is_of_open_values`).

## Main definitions

* `Inspector.RemoteObject.Shows` : the text that is shown for a value.
* `Stepping.LeavesOpen`, `Stepping.Reports` : the responses without and with a text.
* `ValueRecord.Tells` : what a recorded value tells about a response.

## Main results

* `Json.Value.compact_ne_undetermined` : no literal is the mark.
* `Inspector.RemoteObject.of_members` : what is read of the members of a value.
* `Stepping.mark_is_of_open_values` : the recorded value of an evaluation that was answered.
-/

namespace ValueTrace

open Json (Value Decoder Document Gets under)

/-! ### Literals -/

/-- The text of a value that is no string is not the mark: it begins with another letter. -/
theorem Json.Value.compact_ne_undetermined {v : Value} (h : ∀ text, v ≠ .string text) :
    v.compact ≠ ValueRecord.undetermined.text := by
  intro heq
  have hhead : v.chars.head? = some 'u' := by
    rw [← String.toList_ofList (l := v.chars), ← Value.compact, heq]
    rfl
  cases v with
  | null => cases hhead
  | bool flag => cases flag <;> cases hhead
  | number n =>
    have hmark := Json.isMarked_chars n 'u' (List.mem_of_mem_head? hhead)
    simp [Json.IsMark] at hmark
  | string text => exact h text rfl
  | array items => cases hhead
  | object members => cases hhead

/-! ### Descriptions of values -/

namespace Inspector.RemoteObject

/-- The text that is shown for a value: its description, or else its primitive value, a string as it
is and anything else as a literal, or else the name of a number that JSON cannot write. -/
inductive Shows (o : RemoteObject) : String → Prop
  | description {text} (h : o.description = some text) : Shows o text
  | string {text} (hdescription : o.description = none) (h : o.value = some (.string text)) :
      Shows o text
  | literal {v} (hdescription : o.description = none) (h : o.value = some v)
      (hliteral : ∀ text, v ≠ .string text) : Shows o v.compact
  | unserializable {text} (hdescription : o.description = none) (hvalue : o.value = none)
      (h : o.unserializable = some text) : Shows o text

variable {o : RemoteObject} {text : String}

theorem shows_iff : o.Shows text ↔ o.display? = some text := by
  rw [display?]
  constructor
  · intro h
    cases h with
    | description h => simp [h]
    | string hdescription h => simp [hdescription, h]
    | @literal v hdescription h hliteral =>
      cases v with
      | string text => exact absurd rfl (hliteral text)
      | _ => simp [hdescription, h]
    | unserializable hdescription hvalue h => simp [hdescription, hvalue, h]
  · intro h
    split at h
    · rename_i hdescription
      exact .description (h ▸ hdescription)
    · rename_i hdescription hvalue
      exact .string hdescription (Option.some.inj h ▸ hvalue)
    · rename_i hliteral hdescription hvalue
      obtain rfl := Option.some.inj h
      exact .literal hdescription hvalue fun text hv => hliteral text hv
    · rename_i hdescription hvalue
      exact .unserializable hdescription hvalue h

theorem display?_eq_none_iff :
    o.display? = none ↔ o.description = none ∧ o.value = none ∧ o.unserializable = none := by
  rw [display?]
  split <;> simp_all

/-- The mark is shown as a description, as a string or as the name of a number, not as a literal. -/
theorem shows_undetermined_iff :
    o.Shows ValueRecord.undetermined.text ↔
      o.description = some ValueRecord.undetermined.text ∨
        o.description = none ∧
          (o.value = some (.string ValueRecord.undetermined.text) ∨
            o.value = none ∧ o.unserializable = some ValueRecord.undetermined.text) := by
  constructor
  · intro h
    generalize hmark : ValueRecord.undetermined.text = mark at h ⊢
    cases h with
    | description h => exact Or.inl h
    | string hdescription h => exact Or.inr ⟨hdescription, Or.inl h⟩
    | literal hdescription h hliteral =>
      exact absurd hmark.symm (Json.Value.compact_ne_undetermined hliteral)
    | unserializable hdescription hvalue h => exact Or.inr ⟨hdescription, Or.inr ⟨hvalue, h⟩⟩
  · rintro (h | ⟨hdescription, h | ⟨hvalue, h⟩⟩)
    · exact .description h
    · exact .string hdescription h
    · exact .unserializable hdescription hvalue h

/-! ### Members of descriptions -/

variable {members : List (String × Value)} {name : String}

/-- What an object has under a name begins with its member of this name. -/
theorem head?_under_ofMembers (name : String) (members : List (String × Value)) :
    (under name (Document.ofMembers members)).head? =
      ((Value.object members).member? name).map .ofValue := by
  rw [Value.member?]
  induction members with
  | nil => rfl
  | cons m members ih =>
    obtain ⟨other, v⟩ := m
    rw [Document.ofMembers, Json.findMember]
    by_cases hname : other = name
    · rw [hname, Json.under_cons_self, if_pos rfl]
      rfl
    · rw [Json.under_cons_other hname, if_neg hname, ih]

/-- A text that may be null or missing is that of the member. -/
theorem text_of_gets {origin : Json.Origin} {found : Option String}
    (h : Gets (Decoder.text.optional origin) (some none) none
      (under name (Document.ofMembers members)) found) :
    found = ((Value.object members).member? name).bind Value.text? := by
  have hhead := head?_under_ofMembers name members
  generalize under name (Document.ofMembers members) = docs at h hhead
  cases h with
  | kept hslot => cases hslot
  | default _ hunnamed =>
    obtain rfl := Option.some.inj hunnamed
    rw [Option.map_eq_none_iff.1 hhead.symm]
    rfl
  | read _ hread =>
    obtain ⟨v, hv, rfl⟩ := Option.map_eq_some_iff.1 hhead.symm
    rw [hv]
    cases v with
    | null | string _ => exact (Except.ok.inj hread).symm
    | bool _ | number _ | array _ | object _ => cases hread

/-- A value is there exactly if the member is, and null is a value. -/
theorem value_of_gets {origin : Json.Origin} {found : Option Value}
    (h : Gets (Decoder.value.map some origin) (some none) none
      (under name (Document.ofMembers members)) found) :
    (found = none ↔ (Value.object members).member? name = none) ∧
      ((Value.object members).member? name = some .null → found = some .null) := by
  have hhead := head?_under_ofMembers name members
  generalize under name (Document.ofMembers members) = docs at h hhead
  cases h with
  | kept hslot => cases hslot
  | default _ hunnamed =>
    obtain rfl := Option.some.inj hunnamed
    simp [Option.map_eq_none_iff.1 hhead.symm]
  | read _ hread =>
    obtain ⟨v, hv, rfl⟩ := Option.map_eq_some_iff.1 hhead.symm
    rw [hv]
    rw [Decoder.map] at hread
    split at hread
    · rename_i w hw
      obtain rfl := Except.ok.inj hread
      refine ⟨by simp, fun hnull => ?_⟩
      obtain rfl := Option.some.inj hnull
      exact congrArg some (Except.ok.inj hw).symm
    · cases hread

/-- What is read of the members of a value. -/
theorem of_members (h : Json.decodeValue RemoteObject.decoder (.object members) = .ok o) :
    o.description = ((Value.object members).member? "description").bind Value.text? ∧
      (o.value = none ↔ (Value.object members).member? "value" = none) ∧
      ((Value.object members).member? "value" = some .null → o.value = some .null) ∧
      o.unserializable =
        ((Value.object members).member? "unserializableValue").bind Value.text? := by
  obtain ⟨-, -, hgives⟩ := (Json.Record.decodeMembers_eq_ok_iff (by decide) true o).1 h
  obtain ⟨_, description, ⟨_, unserializable, ⟨_, value, ⟨_, className, ⟨_, subtype, ⟨_, kind, rfl,
    -, rfl⟩, -, rfl⟩, -, rfl⟩, hvalue, rfl⟩, hunserializable, rfl⟩, hdescription, rfl⟩ := hgives
  exact ⟨text_of_gets hdescription, (value_of_gets hvalue).1, (value_of_gets hvalue).2,
    text_of_gets hunserializable⟩

end Inspector.RemoteObject

/-! ### Responses -/

namespace Stepping

open Inspector

variable {r : Response} {text : String}

/-- A response leaves the value of an expression open: it is an error or cannot be read, the
evaluation has thrown, or there is nothing in the response that can be shown for the value. -/
inductive LeavesOpen (r : Response) : Prop
  | refused {body} (h : r.outcome = .error body)
  | unreadable {result error} (hresult : r.outcome = .ok result)
      (h : Json.decodeValue Evaluation.decoder result = .error error)
  | thrown {result evaluation details} (hresult : r.outcome = .ok result)
      (hread : Json.decodeValue Evaluation.decoder result = .ok evaluation)
      (h : evaluation.exception = some details)
  | bare {result evaluation} (hresult : r.outcome = .ok result)
      (hread : Json.decodeValue Evaluation.decoder result = .ok evaluation)
      (hdescription : evaluation.result.description = none)
      (hvalue : evaluation.result.value = none)
      (hunserializable : evaluation.result.unserializable = none)

/-- A response reports a text for the value of an expression. -/
inductive Reports (r : Response) (text : String) : Prop
  | intro {result evaluation} (hresult : r.outcome = .ok result)
      (hread : Json.decodeValue Evaluation.decoder result = .ok evaluation)
      (hreturned : evaluation.exception = none) (hshows : evaluation.result.Shows text)

/-- What is recorded for a response: the mark if it leaves the value open, or else the text that it
reports. -/
theorem recordOf_cases (r : Response) :
    LeavesOpen r ∧ recordOf r = .undetermined ∨ ∃ text, Reports r text ∧ recordOf r = ⟨text⟩ := by
  rw [recordOf]
  cases hresult : r.outcome with
  | error body => exact Or.inl ⟨.refused hresult, rfl⟩
  | ok result =>
    dsimp only
    cases hread : Json.decodeValue Evaluation.decoder result with
    | error error => exact Or.inl ⟨.unreadable hresult hread, rfl⟩
    | ok evaluation =>
      dsimp only
      rw [Evaluation.record]
      cases hexception : evaluation.exception with
      | some details => exact Or.inl ⟨.thrown hresult hread hexception, rfl⟩
      | none =>
        cases hshown : evaluation.result.display? with
        | none =>
          obtain ⟨hdescription, hvalue, hunserializable⟩ :=
            RemoteObject.display?_eq_none_iff.1 hshown
          exact Or.inl ⟨.bare hresult hread hdescription hvalue hunserializable, rfl⟩
        | some text =>
          exact Or.inr ⟨text, ⟨hresult, hread, hexception, RemoteObject.shows_iff.2 hshown⟩, rfl⟩

theorem LeavesOpen.recordOf_eq (h : LeavesOpen r) : recordOf r = .undetermined := by
  rw [recordOf]
  cases h with
  | refused h => simp only [h]
  | unreadable hresult h => simp only [hresult, h]
  | thrown hresult hread h => simp only [hresult, hread, Evaluation.record, h]
  | @bare _ evaluation hresult hread hdescription hvalue hunserializable =>
    have hnone := RemoteObject.display?_eq_none_iff.2 ⟨hdescription, hvalue, hunserializable⟩
    simp only [hresult, hread, Evaluation.record, hnone]
    cases evaluation.exception <;> rfl

theorem Reports.recordOf_eq (h : Reports r text) : recordOf r = ⟨text⟩ := by
  obtain ⟨hresult, hread, hreturned, hshows⟩ := h
  simp only [recordOf, hresult, hread, Evaluation.record, hreturned,
    RemoteObject.shows_iff.1 hshows]

/-- A response that reports a text does not leave the value open. -/
theorem Reports.not_leavesOpen (h : Reports r text) : ¬ LeavesOpen r := by
  obtain ⟨hresult, hread, hreturned, hshows⟩ := h
  rintro (h | ⟨hresult', h⟩ | ⟨hresult', hread', h⟩ |
    ⟨hresult', hread', hdescription, hvalue, hunserializable⟩)
  · cases hresult.symm.trans h
  · cases hresult.symm.trans hresult'
    cases hread.symm.trans h
  · cases hresult.symm.trans hresult'
    cases hread.symm.trans hread'
    cases hreturned.symm.trans h
  · cases hresult.symm.trans hresult'
    cases hread.symm.trans hread'
    have hnone := RemoteObject.display?_eq_none_iff.2 ⟨hdescription, hvalue, hunserializable⟩
    cases hnone.symm.trans (RemoteObject.shows_iff.1 hshows)

/-- What a recorded value tells about a response: it is the mark of an undetermined value exactly if
the response leaves the value open or reports the text that is the mark, and it is any text that the
response reports. -/
structure Tells (value : ValueRecord) (r : Response) : Prop where
  isUndetermined_iff : value.isUndetermined = true ↔
    LeavesOpen r ∨ Reports r ValueRecord.undetermined.text
  text : ∀ text, Reports r text → value.text = text

theorem tells_recordOf (r : Response) : Tells (recordOf r) r := by
  refine ⟨?_, fun text h => by rw [h.recordOf_eq]⟩
  rw [ValueRecord.isUndetermined, decide_eq_true_eq]
  refine ⟨fun hmark => ?_, fun h => h.elim LeavesOpen.recordOf_eq Reports.recordOf_eq⟩
  refine (recordOf_cases r).imp And.left ?_
  rintro ⟨text, hreports, htext⟩
  rw [← hmark, htext]
  exact hreports

/-- The mark of an undetermined value is recorded for the responses that leave the value open, and
for those that report just the text that is the mark.  Take any run in which a value has been asked
for and is still expected, and any response to this request.  Once the response has been read, and
unless the run fails, the history of the expression has at the place of this pause a value that
tells about the response; it tells so at the end of a run that has not failed.  A text that is the
mark can only be a description, a string or the name of a number, and of the members of a value a
null counts as a value, but not as a text. -/
theorem mark_is_of_open_values (o : Outset) {before after : List Event} {q : Request}
    (hq : q ∈ (o.run before).asked o.connection.lastRequest .evaluateOnCallFrame)
    (hexpected : (o.run before).connection.registry.isExpected q.id = true) {text : String}
    {r : Response} (ht : Inbound.ofText? text = .ok (.response r)) (hr : r.id = q.id) :
    let k := (o.run before).pauses
    let e := o.run (before ++ .frame text :: after)
    (∃ pause expression rest,
      q = ⟨q.id, Method.evaluateOnCallFrame.name,
        some (evaluationParams pause.callFrameId expression true true)⟩ ∧
      (e.point = .awaitingReply (.evaluate pause expression rest) q.id ∨ e.point.stage = .lost ∨
        ∃ value, e.session.tracked.value? expression k = some value ∧ Tells value r) ∧
      ∀ n, e.outcome? = some (.ok n) →
        ∃ value, e.session.tracked.value? expression k = some value ∧ Tells value r) ∧
    (∀ object : RemoteObject, object.Shows ValueRecord.undetermined.text ↔
      object.description = some ValueRecord.undetermined.text ∨
        object.description = none ∧
          (object.value = some (.string ValueRecord.undetermined.text) ∨
            object.value = none ∧
              object.unserializable = some ValueRecord.undetermined.text)) ∧
    ∀ members object, Json.decodeValue RemoteObject.decoder (.object members) = .ok object →
      let member := fun name => (Value.object members).member? name
      object.description = (member "description").bind Value.text? ∧
      (object.value = none ↔ member "value" = none) ∧
      (member "value" = some .null → object.value = some .null) ∧
      object.unserializable = (member "unserializableValue").bind Value.text? := by
  intro k e
  refine ⟨?_, fun object => RemoteObject.shows_undetermined_iff, fun members object h =>
    RemoteObject.of_members h⟩
  obtain ⟨pause, expression, rest, hrequest, hp⟩ := o.evaluating_of_expected before hq hexpected
  have hsince : o.connection.lastRequest < q.id := by
    have hselected := (List.mem_filter.1 hq).2
    rw [Bool.and_eq_true, decide_eq_true_eq] at hselected
    exact hselected.1
  have hread := o.value_of_frame hp hexpected hsince ht hr after
  refine ⟨pause, expression, rest, hrequest, ?_, fun n hn => ?_⟩
  · exact hread.imp_right (Or.imp_right fun h => ⟨_, h, tells_recordOf r⟩)
  · rcases hread with hawaits | hlost | hvalue
    · exact Point.noConfusion ((Engine.point_of_outcome? hn).symm.trans hawaits)
    · exact Stage.noConfusion ((Engine.stage_of_outcome? hn).symm.trans hlost)
    · exact ⟨_, hvalue, tells_recordOf r⟩

/-- An answer to the one evaluation of the sample. -/
def sampleAnswer (object : Value) : Response := ⟨7, some (.object [("result", object)]), none⟩

theorem ofText?_sampleAnswer {object : Value} (h : ∀ depth, object.IsWritten (depth + 1)) :
    Inbound.ofText? (Inbound.response (sampleAnswer object)).text =
      .ok (.response (sampleAnswer object)) := by
  have hresult (depth : Nat) : (Value.object [("result", object)]).IsWritten (depth + 2) :=
    .object (by simp) fun m hm => by rw [List.mem_singleton.1 hm]; exact h depth
  have hid : (sampleAnswer object).id < UInt64.size := (by decide : 7 < UInt64.size)
  have hframe : (Inbound.response (sampleAnswer object)).value.IsWritten 3 := by
    refine .object (by simp [sampleAnswer, optionalMember]) fun m hm => ?_
    rcases List.mem_cons.1 hm with rfl | hm
    · exact .ofNat hid
    · rw [List.mem_singleton.1 hm]
      exact hresult 0
  refine Inbound.IsReadable.ofText?_text (.response hid ?result ?error) fun x hx => ?doubles
  case result =>
    rintro v hv
    obtain rfl := Option.some.inj hv
    exact ⟨Value.noConfusion, (hresult _).isReadable⟩
  case error =>
    rintro body hbody
    cases hbody
  case doubles =>
    rw [hframe.doubles] at hx
    cases hx

/-- The value of the expression is null. -/
def sampleNull : Value := .object [("type", .string "object"), ("value", .null)]

theorem mark_is_of_open_values_null :
    (sampleAnswered (Inbound.response (sampleAnswer sampleNull)).text).outcome? = some (.ok 1) ∧
      ∃ expression value,
        (sampleAnswered (Inbound.response (sampleAnswer sampleNull)).text).session.tracked.value?
          expression 0 = some value ∧
        value.text = "null" ∧ value.isUndetermined = false := by
  have hfacts : (sampleAnswered (Inbound.response (sampleAnswer sampleNull)).text).outcome? =
        some (.ok 1) ∧
      (sample.run sampleEvaluating).pauses = 0 ∧
      (sample.run sampleEvaluating).connection.registry.isExpected 7 = true ∧
      (((sample.run sampleEvaluating).asked sample.connection.lastRequest .evaluateOnCallFrame).any
        fun q => q.id = 7) = true := by
    decide +kernel
  obtain ⟨houtcome, hpauses, hexpected, hasked⟩ := hfacts
  simp only [sampleAnswered] at houtcome ⊢
  obtain ⟨q, hq, hid⟩ := List.any_eq_true.1 hasked
  rw [decide_eq_true_eq] at hid
  have hwritten (depth : Nat) : sampleNull.IsWritten (depth + 1) := by
    refine .object (by simp) ?_
    simp only [List.mem_cons, List.not_mem_nil, or_false, forall_eq_or_imp, forall_eq]
    exact ⟨.string _, .null, rfl⟩
  obtain ⟨⟨pause, expression, rest, -, -, hend⟩, -⟩ := mark_is_of_open_values sample hq
    (by rw [hid]; exact hexpected) (ofText?_sampleAnswer hwritten) hid.symm
  obtain ⟨value, hvalue, htells⟩ := hend 1 houtcome
  have hevaluation : Json.decodeValue Evaluation.decoder (.object [("result", sampleNull)]) =
      .ok ⟨⟨"object", none, none, some .null, none, none⟩, none⟩ := rfl
  have hnull : Reports (sampleAnswer sampleNull) "null" := by
    have hshows : (⟨"object", none, none, some .null, none, none⟩ : RemoteObject).Shows
        Value.null.compact := .literal rfl rfl fun text h => by cases h
    exact .intro rfl hevaluation rfl hshows
  have htext := htells.text "null" hnull
  rw [hpauses] at hvalue
  refine ⟨houtcome, expression, value, hvalue, htext, ?_⟩
  obtain ⟨text⟩ := value
  subst htext
  decide +kernel

/-- The value of the expression is a string, which happens to be the mark. -/
def sampleMarked : Value :=
  .object [("type", .string "string"), ("value", .string "undetermined")]

/-- A string of the debuggee is recorded as the mark of an undetermined value, although the response
reports a text. -/
theorem reported_text_is_the_mark :
    let text := (Inbound.response (sampleAnswer sampleMarked)).text
    Inbound.ofText? text = .ok (.response (sampleAnswer sampleMarked)) ∧
      ¬ LeavesOpen (sampleAnswer sampleMarked) ∧
      (sampleAnswered text).outcome? = some (.ok 1) ∧
      ((sampleAnswered text).session.tracked.value? "x" 0).map ValueRecord.isUndetermined =
        some true := by
  intro text
  have hwritten (depth : Nat) : sampleMarked.IsWritten (depth + 1) := by
    refine .object (by simp) ?_
    simp only [List.mem_cons, List.not_mem_nil, or_false, forall_eq_or_imp, forall_eq]
    exact ⟨.string _, .string _⟩
  have hevaluation : Json.decodeValue Evaluation.decoder (.object [("result", sampleMarked)]) =
      .ok ⟨⟨"string", none, none, some (.string "undetermined"), none, none⟩, none⟩ := rfl
  have hreports : Reports (sampleAnswer sampleMarked) "undetermined" :=
    .intro rfl hevaluation rfl (.string rfl rfl)
  have hfacts : (sampleAnswered text).outcome? = some (.ok 1) ∧
      ((sampleAnswered text).session.tracked.value? "x" 0).map ValueRecord.isUndetermined =
        some true := by
    decide +kernel
  exact ⟨ofText?_sampleAnswer hwritten, hreports.not_leavesOpen, hfacts⟩

end Stepping

end ValueTrace
