import ValueTrace.Proofs.Json.Written
import ValueTrace.Report

/-!
# JSON reports are read again

The JSON text of a list of records or of candidates is one document and a line end, and what is read
from it as such a list is the list (`Report.json_loses_nothing`): all texts with their quotes, line
ends and control characters, and all ranges, in their order.

## Main definitions

* `Report.Preserves` : what is read from the JSON text of a list.

## Main results

* `SourceRange.inverts`, `TraceRecord.inverts`, `Candidate.inverts` : data are read as they were
  written.
* `Report.json_loses_nothing` : the JSON texts of records and candidates.
-/

namespace ValueTrace

open Json (Value Decoder Document Record)

variable {depth : Nat}

/-! ### Data of reports -/

theorem SourceRange.inverts : SourceRange.decoder.Inverts SourceRange.value := by
  intro origin r
  refine Record.Gives.decoder_eq ?_ "SourceRange" (by decide) ?_
  · exact Record.gives_make SourceRange.mk origin _
      |>.required rfl (Decoder.uint32_ofNat _)
      |>.required rfl (Decoder.uint32_ofNat _)
      |>.required rfl (Decoder.uint32_ofNat _)
      |>.required rfl (Decoder.uint32_ofNat _)
  · simp [Document.ofMembers, Json.Record.names, Json.Record.required]

theorem TraceRecord.inverts : TraceRecord.decoder.Inverts TraceRecord.value := by
  intro origin r
  refine Record.Gives.decoder_eq ?_ "TraceRecord" (by decide) ?_
  · exact Record.gives_make TraceRecord.mk origin _
      |>.required rfl (Decoder.inverts_text origin _)
      |>.required rfl (SourceRange.inverts origin _)
  · simp [Document.ofMembers, Json.Record.names, Json.Record.required]

theorem Candidate.inverts : Candidate.decoder.Inverts Candidate.value := by
  intro origin c
  refine Record.Gives.decoder_eq ?_ "Candidate" (by decide) ?_
  · exact Record.gives_make Candidate.mk origin _
      |>.required rfl (Decoder.inverts_text origin _)
      |>.required rfl (SourceRange.inverts origin _)
  · simp [Document.ofMembers, Json.Record.names, Json.Record.required]

theorem SourceRange.isWritten_value (r : SourceRange) (depth : Nat) :
    r.value.IsWritten (depth + 1) := by
  refine .object (by simp) ?_
  simp only [List.mem_cons, List.not_mem_nil, or_false, forall_eq_or_imp, forall_eq]
  exact ⟨.halfWord _, .halfWord _, .halfWord _, .halfWord _⟩

theorem TraceRecord.isWritten_value (r : TraceRecord) (depth : Nat) :
    r.value.IsWritten (depth + 2) := by
  refine .object (by simp) ?_
  simp only [List.mem_cons, List.not_mem_nil, or_false, forall_eq_or_imp, forall_eq]
  exact ⟨.string _, r.range.isWritten_value depth⟩

theorem Candidate.isWritten_value (c : Candidate) (depth : Nat) :
    c.value.IsWritten (depth + 2) := by
  refine .object (by simp) ?_
  simp only [List.mem_cons, List.not_mem_nil, or_false, forall_eq_or_imp, forall_eq]
  exact ⟨.string _, c.range.isWritten_value depth⟩

/-! ### Lists -/

namespace Report

variable {α : Type} {read : Decoder α} {write : α → Value}

/-- The JSON text of a list is one document, behind which the line ends, and the list is read from
the text, both at once and from the value that the text denotes. -/
structure Preserves (read : Decoder α) (write : α → Value) (items : List α) : Prop where
  document : ∃ document, json (items.map write) = document ++ "\n" ∧
    document.toList.getLast? = some ']' ∧
    Value.read document = some (.array (items.map write))
  text : Json.decodeText read.list (json (items.map write)) = .ok items
  value : ∃ v, Value.read (json (items.map write)) = some v ∧
    Json.decodeValue read.list v = .ok items

theorem getLast?_indentedItems (level : Nat) (items : List Value) :
    (Json.indentedItems level items).getLast? = some ']' := by
  induction items with
  | nil => rw [Json.indentedItems, List.getLast?_concat]
  | cons v items ih => simp [Json.indentedItems, List.getLast?_cons, List.getLast?_append, ih]

theorem getLast?_indented (items : List Value) :
    (Value.array items).indented.toList.getLast? = some ']' := by
  rw [Value.indented, String.toList_ofList]
  cases items with
  | nil => rfl
  | cons v items =>
    simp [Value.indentedChars, List.getLast?_cons, List.getLast?_append, getLast?_indentedItems]

/-- A list of data nested so deep is preserved if each of them is read as it was written. -/
theorem preserves (hread : read.Inverts write) (hwrite : ∀ a, (write a).IsWritten 2)
    (items : List α) : Preserves read write items := by
  have hwritten : (Value.array (items.map write)).IsWritten 3 := by
    refine .array fun v hv => ?_
    obtain ⟨a, -, rfl⟩ := List.mem_map.1 hv
    exact hwrite a
  have hblank : ∀ c ∈ ['\n'], Json.isBlank c = true := List.forall_mem_singleton.2 rfl
  have hnone : ∀ c ∈ ([] : List Char), Json.isBlank c = true := List.forall_mem_nil _
  have hdenotes := hwritten.valueRead_indented hblank
  refine ⟨⟨_, rfl, getLast?_indented _, ?_⟩, ?_, ⟨_, hdenotes, hread.list .value items⟩⟩
  · have hdocument := hwritten.valueRead_indented hnone
    rwa [String.ofList_nil, String.append_empty] at hdocument
  · exact (Json.decodeText_eq_ok_iff _ _ _).2
      ⟨_, hwritten.read_indented (by decide) hblank, hread.list .text items⟩

/-- The JSON texts of records and of candidates lose nothing. -/
theorem json_loses_nothing (records : List TraceRecord) (candidates : List Candidate) :
    Preserves TraceRecord.decoder TraceRecord.value records ∧
      Preserves Candidate.decoder Candidate.value candidates :=
  ⟨preserves TraceRecord.inverts (fun r => r.isWritten_value 0) records,
    preserves Candidate.inverts (fun c => c.isWritten_value 0) candidates⟩

end Report

end ValueTrace
