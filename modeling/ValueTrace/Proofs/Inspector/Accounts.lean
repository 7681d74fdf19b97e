import Mathlib.Data.List.Induction
import Mathlib.Data.List.Nodup
import ValueTrace.Proofs.Inspector.Requests

/-!
# The accounts of the requests

Every request of a connection has a standing: it is only numbered, or it waits, or its answer has
come, or the connection ended first, or its time was over.  The standing ties three things that
change on their own: the caller's record, the list of pending requests, and the responses that have
arrived.  Each operation keeps the standings (`Accounts.apply`), so they hold after every sequence
of operations (`accounts_run`).

## Main definitions

* `Standing` : how a request stands.
* `Accounts` : all requests stand as they should.
-/

namespace ValueTrace.Inspector

open Json (Value)

/-- Whether a request is registered and its caller has had no outcome. -/
def Progress.isUnderWay : Progress → Bool
  | .registered => true
  | .written => true
  | .abandoned => true
  | _ => false

/-! ### Standings -/

/-- How a request stands, given the bound on its time, whether the connection is closed, whether
its answer is expected, and the response that has answered it. -/
inductive Standing (bound : Option Duration) (closed expected : Bool) (reply : Option Response)
    (call : Call) : Prop
  | numbered (progress : call.progress = .numbered) (answer : call.answer = none)
      (unexpected : expected = false) (unanswered : reply = none)
  | waiting (progress : call.progress.isUnderWay = true) (answer : call.answer = none)
      (expected : expected = true) (opened : closed = false) (unanswered : reply = none)
  | answered (r : Response) (reply : reply = some r)
      (answer : call.answer = some (r.outcomeFor call.method)) (unexpected : expected = false)
      (progress : call.progress.isUnderWay = true ∨
        call.progress = .finished (r.outcomeFor call.method))
  /-- An answer came, but its text found no writer. -/
  | discarded (closed : closed = true) (unexpected : expected = false)
      (progress : call.progress = .finished (.error .closed))
  | lost (closed : closed = true) (answer : call.answer = some (.error .closed))
      (unexpected : expected = false) (unanswered : reply = none)
      (progress : call.progress.isUnderWay = true ∨ call.progress = .finished (.error .closed))
  | expired (limit : Duration) (bound : bound = some limit)
      (progress : call.progress = .finished (.error (.timeout call.method call.id limit)))
      (answer : call.answer = none) (unexpected : expected = false) (unanswered : reply = none)

namespace Standing

variable {bound : Option Duration} {closed expected : Bool} {reply : Option Response} {call : Call}

/-- Nothing has happened to a request that is only numbered. -/
theorem of_numbered (h : Standing bound closed expected reply call)
    (hp : call.progress = .numbered) :
    call.answer = none ∧ expected = false ∧ reply = none := by
  cases h with
  | numbered _ answer unexpected unanswered => exact ⟨answer, unexpected, unanswered⟩
  | waiting progress => simp [hp, Progress.isUnderWay] at progress
  | answered _ _ _ _ progress => simp [hp, Progress.isUnderWay] at progress
  | discarded _ _ progress => simp [hp] at progress
  | lost _ _ _ _ progress => simp [hp, Progress.isUnderWay] at progress
  | expired _ _ progress => simp [hp] at progress

/-- A request under way may move on without an outcome. -/
theorem move (h : Standing bound closed expected reply call)
    (hold : call.progress.isUnderWay = true) {progress : Progress}
    (hnew : progress.isUnderWay = true) :
    Standing bound closed expected reply { call with progress } := by
  cases h with
  | numbered progress => simp [progress, Progress.isUnderWay] at hold
  | waiting _ answer expected opened unanswered =>
    exact .waiting hnew answer expected opened unanswered
  | answered r reply answer unexpected _ => exact .answered r reply answer unexpected (Or.inl hnew)
  | discarded _ _ progress => simp [progress, Progress.isUnderWay] at hold
  | lost closed answer unexpected unanswered _ =>
    exact .lost closed answer unexpected unanswered (Or.inl hnew)
  | expired _ _ progress => simp [progress, Progress.isUnderWay] at hold

/-- A request under way may end with the answer that has come for it. -/
theorem finish (h : Standing bound closed expected reply call)
    (hold : call.progress.isUnderWay = true) {outcome : Except TransportError Value}
    (ha : call.answer = some outcome) :
    Standing bound closed expected reply { call with progress := .finished outcome } := by
  cases h with
  | numbered progress => simp [progress, Progress.isUnderWay] at hold
  | waiting _ answer => simp [ha] at answer
  | answered r reply answer unexpected _ =>
    obtain rfl := Option.some.inj (ha.symm.trans answer)
    exact .answered r reply ha unexpected (Or.inr rfl)
  | discarded _ _ progress => simp [progress, Progress.isUnderWay] at hold
  | lost closed answer unexpected unanswered _ =>
    obtain rfl := Option.some.inj (ha.symm.trans answer)
    exact .lost closed ha unexpected unanswered (Or.inr rfl)
  | expired _ _ progress => simp [progress, Progress.isUnderWay] at hold

/-- A request under way without an answer waits. -/
theorem of_unanswered (h : Standing bound closed expected reply call)
    (hold : call.progress.isUnderWay = true) (ha : call.answer = none) :
    expected = true ∧ closed = false ∧ reply = none := by
  cases h with
  | numbered progress => simp [progress, Progress.isUnderWay] at hold
  | waiting _ _ expected opened unanswered => exact ⟨expected, opened, unanswered⟩
  | answered _ _ answer => simp [ha] at answer
  | discarded _ _ progress => simp [progress, Progress.isUnderWay] at hold
  | lost _ answer => simp [ha] at answer
  | expired _ _ progress => simp [progress, Progress.isUnderWay] at hold

/-- Only a request that waits is expected. -/
theorem of_expected (h : Standing bound closed expected reply call) (he : expected = true) :
    call.progress.isUnderWay = true ∧ call.answer = none ∧ closed = false ∧ reply = none := by
  cases h with
  | waiting progress answer _ opened unanswered => exact ⟨progress, answer, opened, unanswered⟩
  | numbered _ _ unexpected => exact absurd he (Bool.eq_false_iff.1 unexpected)
  | answered _ _ _ unexpected => exact absurd he (Bool.eq_false_iff.1 unexpected)
  | discarded _ unexpected => exact absurd he (Bool.eq_false_iff.1 unexpected)
  | lost _ _ unexpected => exact absurd he (Bool.eq_false_iff.1 unexpected)
  | expired _ _ _ _ unexpected => exact absurd he (Bool.eq_false_iff.1 unexpected)

/-- A request that is over was answered, or lost its connection, or ran out of time. -/
theorem outcome_cases (h : Standing bound closed expected reply call)
    {outcome : Except TransportError Value} (ho : call.progress = .finished outcome) :
    (∃ r, reply = some r ∧ outcome = r.outcomeFor call.method) ∨
      (outcome = .error .closed ∧ closed = true) ∨
      ∃ limit, bound = some limit ∧ outcome = .error (.timeout call.method call.id limit) ∧
        reply = none := by
  cases h with
  | numbered progress => simp [ho] at progress
  | waiting progress => simp [ho, Progress.isUnderWay] at progress
  | answered r reply _ _ progress =>
    refine Or.inl ⟨r, reply, ?_⟩
    rcases progress with hunder | hover
    · simp [ho, Progress.isUnderWay] at hunder
    · exact Progress.finished.inj (ho.symm.trans hover)
  | discarded closed _ progress =>
    exact Or.inr (Or.inl ⟨Progress.finished.inj (ho.symm.trans progress), closed⟩)
  | lost closed _ _ _ progress =>
    refine Or.inr (Or.inl ⟨?_, closed⟩)
    rcases progress with hunder | hover
    · simp [ho, Progress.isUnderWay] at hunder
    · exact Progress.finished.inj (ho.symm.trans hover)
  | expired limit bound progress _ _ unanswered =>
    refine Or.inr (Or.inr ⟨limit, bound, ?_, unanswered⟩)
    exact Progress.finished.inj (ho.symm.trans progress)

/-- What is not expected stands on a closed connection as on an open one. -/
theorem close (h : Standing bound closed expected reply call) (he : expected = false) :
    Standing bound true false reply call := by
  cases h with
  | numbered progress answer _ unanswered => exact .numbered progress answer rfl unanswered
  | waiting _ _ expected => exact absurd expected (Bool.eq_false_iff.1 he)
  | answered r reply answer _ progress => exact .answered r reply answer rfl progress
  | discarded _ _ progress => exact .discarded rfl rfl progress
  | lost _ answer _ unanswered progress => exact .lost rfl answer rfl unanswered progress
  | expired limit bound progress answer _ unanswered =>
    exact .expired limit bound progress answer rfl unanswered

end Standing

/-- All requests of a connection are numbered from 1 and stand as they should, given the responses
that have answered them. -/
structure Accounts (c : Connection) (reply : RequestId → Option Response) : Prop where
  ids : c.calls.map Call.id = List.range' 1 c.calls.length
  last : c.lastRequest = c.calls.length
  standing : ∀ call ∈ c.calls, Standing c.requestBound c.registry.closed
    (c.registry.isExpected call.id) (reply call.id) call
  pending : ∀ p ∈ c.registry.pending, ∃ call ∈ c.calls, call.id = p.id ∧ call.method = p.method
  unissued : ∀ id, (∀ call ∈ c.calls, call.id ≠ id) → reply id = none
  written : ∀ q ∈ c.written, ∃ call ∈ c.calls,
    call.id = q.id ∧ call.method = q.method ∧ call.progress ≠ .numbered

namespace Accounts

variable {c d : Connection} {reply reply' : RequestId → Option Response}

/-- A number belongs to one request. -/
theorem eq_of_id_eq (h : Accounts c reply) {a b : Call} (ha : a ∈ c.calls) (hb : b ∈ c.calls)
    (hab : a.id = b.id) : a = b := by
  have hnodup : (c.calls.map Call.id).Nodup := by
    rw [h.ids]
    exact List.nodup_range'
  exact List.inj_on_of_nodup_map hnodup ha hb hab

theorem call?_eq_some_iff (h : Accounts c reply) {id : RequestId} {call : Call} :
    c.call? id = some call ↔ call ∈ c.calls ∧ call.id = id := by
  constructor
  · intro hcall
    exact ⟨List.mem_of_find?_eq_some hcall, by simpa using List.find?_some hcall⟩
  · rintro ⟨hmem, rfl⟩
    obtain ⟨found, hfound⟩ : ∃ found, c.call? call.id = some found := by
      rw [← Option.isSome_iff_exists, Connection.call?, List.find?_isSome]
      exact ⟨call, hmem, by simp⟩
    have hid : found.id = call.id := by simpa using List.find?_some hfound
    rw [hfound, h.eq_of_id_eq (List.mem_of_find?_eq_some hfound) hmem hid]

/-- The numbers given so far are those from 1 to the latest one. -/
theorem exists_call_iff (h : Accounts c reply) {id : RequestId} :
    (∃ call ∈ c.calls, call.id = id) ↔ 1 ≤ id ∧ id ≤ c.lastRequest := by
  have hmem : id ∈ c.calls.map Call.id ↔ 1 ≤ id ∧ id < 1 + c.calls.length := by
    rw [h.ids, List.mem_range'_1]
  rw [List.mem_map] at hmem
  rw [hmem, h.last, Nat.lt_one_add_iff]

/-- A request whose answer is expected has not been answered. -/
theorem unanswered_of_expected (h : Accounts c reply) {id : RequestId}
    (hexpected : c.registry.isExpected id = true) : reply id = none := by
  obtain ⟨p, hp, hpid⟩ := (Registry.isExpected_iff _ _).1 hexpected
  obtain ⟨call, hcall, hcid, -⟩ := h.pending p hp
  obtain rfl : call.id = id := hcid.trans hpid
  exact ((h.standing call hcall).of_expected hexpected).2.2.2

/-- Accounts are kept by a change of the requests that keeps their numbers and methods, if every
single request stands as it should afterwards. -/
theorem map (h : Accounts c reply) (change : Call → Call)
    (hcalls : d.calls = c.calls.map change) (hid : ∀ call, (change call).id = call.id)
    (hmethod : ∀ call, (change call).method = call.method)
    (hlast : d.lastRequest = c.lastRequest)
    (hstanding : ∀ call ∈ c.calls,
      Standing c.requestBound c.registry.closed (c.registry.isExpected call.id) (reply call.id)
        call →
      Standing d.requestBound d.registry.closed (d.registry.isExpected call.id) (reply' call.id)
        (change call))
    (hpending : ∀ p ∈ d.registry.pending,
      ∃ call ∈ c.calls, call.id = p.id ∧ call.method = p.method)
    (hunissued : ∀ id, (∀ call ∈ c.calls, call.id ≠ id) → reply' id = none)
    (hwritten : ∀ q ∈ d.written, ∃ call ∈ c.calls,
      call.id = q.id ∧ call.method = q.method ∧ (change call).progress ≠ .numbered) :
    Accounts d reply' where
  ids := by
    have hcomp : Call.id ∘ change = Call.id := funext hid
    rw [hcalls, List.map_map, hcomp, h.ids, List.length_map]
  last := by rw [hlast, h.last, hcalls, List.length_map]
  standing := by
    intro call hcall
    rw [hcalls, List.mem_map] at hcall
    obtain ⟨old, hold, rfl⟩ := hcall
    rw [hid]
    exact hstanding old hold (h.standing old hold)
  pending := by
    intro p hp
    obtain ⟨call, hcall, hcid, hcm⟩ := hpending p hp
    refine ⟨change call, hcalls ▸ List.mem_map_of_mem hcall, ?_, ?_⟩
    · rw [hid, hcid]
    · rw [hmethod, hcm]
  unissued := by
    intro id hne
    refine hunissued id fun call hcall => ?_
    rw [← hid call]
    exact hne _ (hcalls ▸ List.mem_map_of_mem hcall)
  written := by
    intro q hq
    obtain ⟨call, hcall, hcid, hcm, hcp⟩ := hwritten q hq
    refine ⟨change call, hcalls ▸ List.mem_map_of_mem hcall, ?_, ?_, hcp⟩
    · rw [hid, hcid]
    · rw [hmethod, hcm]

/-- Accounts are kept by a change of one request, if this request stands as it should afterwards
and the others are expected as before. -/
theorem update (h : Accounts c reply) {id : RequestId} {f : Call → Call}
    (hcalls : d.calls = (c.updateCall id f).calls) (hid : ∀ call, (f call).id = call.id)
    (hmethod : ∀ call, (f call).method = call.method)
    (hprogress : ∀ call, (f call).progress = .numbered → call.progress = .numbered)
    (hbound : d.requestBound = c.requestBound) (hclosed : d.registry.closed = c.registry.closed)
    (hlast : d.lastRequest = c.lastRequest)
    (hothers : ∀ other, other ≠ id → d.registry.isExpected other = c.registry.isExpected other)
    (hpending : ∀ p ∈ d.registry.pending,
      p ∈ c.registry.pending ∨ ∃ call ∈ c.calls, call.id = p.id ∧ call.method = p.method)
    (hwritten : ∀ q ∈ d.written, q ∈ c.written ∨ ∃ call ∈ c.calls,
      call.id = id ∧ call.request = q ∧ (f call).progress ≠ .numbered)
    (hstanding : ∀ call ∈ c.calls, call.id = id →
      Standing c.requestBound c.registry.closed (c.registry.isExpected id) (reply id) call →
      Standing c.requestBound c.registry.closed (d.registry.isExpected id) (reply id) (f call)) :
    Accounts d reply := by
  refine h.map (fun call => if call.id = id then f call else call) hcalls ?_ ?_ hlast ?_ ?_
    h.unissued ?_
  · intro call
    split_ifs
    · exact hid call
    · rfl
  · intro call
    split_ifs
    · exact hmethod call
    · rfl
  · intro call hcall hold
    rw [hbound, hclosed]
    split_ifs with heq
    · subst heq
      exact hstanding call hcall rfl hold
    · rw [hothers _ heq]
      exact hold
  · intro p hp
    rcases hpending p hp with hold | hnew
    · exact h.pending p hold
    · exact hnew
  · intro q hq
    rcases hwritten q hq with hold | ⟨call, hcall, hcid, rfl, hcp⟩
    · obtain ⟨call, hcall, hcid, hcm, hcp⟩ := h.written q hold
      refine ⟨call, hcall, hcid, hcm, ?_⟩
      split_ifs
      · exact fun hnew => hcp (hprogress call hnew)
      · exact hcp
    · exact ⟨call, hcall, rfl, rfl, by rwa [if_pos hcid]⟩

/-- Accounts are kept when an answer is left with some of the requests, if every single request
stands as it should afterwards. -/
theorem answer (h : Accounts c reply) (chosen : RequestId → Prop) [DecidablePred chosen]
    (outcome : Except TransportError Value)
    (hcalls : d.calls =
      c.calls.map fun call => if chosen call.id then call.reply outcome else call)
    (hlast : d.lastRequest = c.lastRequest) (hwritten : d.written = c.written)
    (hpending : ∀ p ∈ d.registry.pending, p ∈ c.registry.pending)
    (hunissued : ∀ id, (∀ call ∈ c.calls, call.id ≠ id) → reply' id = none)
    (hstanding : ∀ call ∈ c.calls,
      Standing c.requestBound c.registry.closed (c.registry.isExpected call.id) (reply call.id)
        call →
      Standing d.requestBound d.registry.closed (d.registry.isExpected call.id) (reply' call.id)
        (if chosen call.id then call.reply outcome else call)) :
    Accounts d reply' := by
  refine h.map _ hcalls (fun call => ?_) (fun call => ?_) hlast hstanding
    (fun p hp => h.pending p (hpending p hp)) hunissued (fun q hq => ?_)
  · split_ifs
    · exact id_reply _ call
    · rfl
  · split_ifs
    · exact method_reply _ call
    · rfl
  · obtain ⟨call, hcall, hcid, hcm, hcp⟩ := h.written q (hwritten ▸ hq)
    refine ⟨call, hcall, hcid, hcm, ?_⟩
    split_ifs
    · rwa [progress_reply]
    · exact hcp

/-- Accounts speak of nothing but the requests. -/
theorem congr (h : Accounts c reply) (hsame : SameRequests c d) : Accounts d reply := by
  refine h.map id (by rw [hsame.calls, List.map_id]) (fun _ => rfl) (fun _ => rfl)
    hsame.lastRequest.symm (fun call hcall hold => ?_)
    (fun p hp => h.pending p (hsame.pending ▸ hp)) h.unissued
    (fun q hq => h.written q (hsame.written ▸ hq))
  rw [← hsame.requestBound, ← hsame.closed, ← hsame.isExpected]
  exact hold

/-! ### The operations on requests -/

/-- A new request is numbered and nothing else. -/
theorem issue (h : Accounts c reply) (method : String) (params : Option Value) :
    Accounts (c.issue method params).1 reply := by
  have hfresh : ∀ call ∈ c.calls, call.id ≠ c.lastRequest + 1 := by
    intro call hcall heq
    have hle := (h.exists_call_iff.1 ⟨call, hcall, heq⟩).2
    exact absurd hle (Nat.not_succ_le_self _)
  constructor
  · simp only [Connection.issue, List.map_append, List.map_cons, List.map_nil, h.ids, h.last,
      List.length_append, List.length_cons, List.length_nil, Nat.zero_add, List.range'_1_concat,
      Nat.add_comm 1]
  · simp [Connection.issue, h.last]
  · intro call hcall
    rcases List.mem_append.1 hcall with hold | hnew
    · exact h.standing call hold
    · rw [List.mem_singleton.1 hnew]
      refine .numbered rfl rfl ?_ (h.unissued _ hfresh)
      rw [Bool.eq_false_iff, ne_eq, Registry.isExpected_iff]
      rintro ⟨p, hp, hpid⟩
      obtain ⟨call, hcall, hcid, -⟩ := h.pending p hp
      exact hfresh call hcall (hcid.trans hpid)
  · intro p hp
    obtain ⟨call, hcall, hrest⟩ := h.pending p hp
    exact ⟨call, List.mem_append_left _ hcall, hrest⟩
  · exact fun id hne => h.unissued id fun call hcall => hne call (List.mem_append_left _ hcall)
  · intro q hq
    obtain ⟨call, hcall, hrest⟩ := h.written q hq
    exact ⟨call, List.mem_append_left _ hcall, hrest⟩

theorem enroll (h : Accounts c reply) (id : RequestId) : Accounts (c.enroll id) reply := by
  rw [Connection.enroll]
  split
  · rename_i id' method params answer hcall
    obtain ⟨hmem, hid⟩ := h.call?_eq_some_iff.1 hcall
    obtain rfl : id' = id := hid
    split_ifs with hclosed
    · refine h.update rfl (fun _ => rfl) (fun _ => rfl) (fun _ hp => by simp at hp) rfl rfl rfl
        (fun _ _ => rfl) (fun p hp => Or.inl hp) (fun q hq => Or.inl hq) ?_
      intro call hc heq hold
      obtain rfl := h.eq_of_id_eq hc hmem heq
      exact .discarded hclosed (hold.of_numbered rfl).2.1 rfl
    · refine h.update rfl (fun _ => rfl) (fun _ => rfl) (fun _ hp => by simp at hp) rfl rfl rfl
        (fun other hne => ?_) (fun p hp => ?_) (fun q hq => Or.inl hq) ?_
      · change (c.registry.expect id' method).isExpected other = _
        simp [Registry.isExpected_expect, hne]
      · rcases List.mem_append.1 hp with hold | hnew
        · exact Or.inl (List.mem_filter.1 hold).1
        · rw [List.mem_singleton.1 hnew]
          exact Or.inr ⟨_, hmem, rfl, rfl⟩
      · intro call hc heq hold
        obtain rfl := h.eq_of_id_eq hc hmem heq
        obtain ⟨answer, -, unanswered⟩ := hold.of_numbered rfl
        have hexpected : (c.registry.expect id' method).isExpected id' = true := by
          simp [Registry.isExpected_expect]
        exact .waiting rfl answer hexpected (Bool.eq_false_iff.2 hclosed) unanswered
  · exact h

theorem write (h : Accounts c reply) (id : RequestId) : Accounts (c.write id) reply := by
  rw [Connection.write]
  split
  · rename_i call hcall
    obtain ⟨hmem, hid⟩ := h.call?_eq_some_iff.1 hcall
    split
    · rename_i hregistered
      refine h.update rfl (fun _ => rfl) (fun _ => rfl) (fun _ hp => by simp at hp) rfl rfl rfl
        (fun _ _ => rfl) (fun p hp => Or.inl hp) (fun q hq => ?_) ?_
      · rcases List.mem_append.1 hq with hold | hnew
        · exact Or.inl hold
        · exact Or.inr ⟨call, hmem, hid, (List.mem_singleton.1 hnew).symm, by simp⟩
      · intro other ho heq hold
        obtain rfl := h.eq_of_id_eq ho hmem (heq.trans hid.symm)
        exact hold.move (by rw [hregistered]; rfl) rfl
    · exact h
  · exact h

theorem refuse (h : Accounts c reply) (id : RequestId) : Accounts (c.refuse id) reply := by
  rw [Connection.refuse]
  split
  · split
    · rename_i hclosed
      refine h.update rfl (fun _ => rfl) (fun _ => rfl) (fun _ hp => by simp at hp) rfl rfl rfl
        (fun other hne => ?_) (fun p hp => Or.inl (List.mem_filter.1 hp).1)
        (fun q hq => Or.inl hq) ?_
      · change (c.registry.forget id).isExpected other = _
        simp [Registry.isExpected_forget, hne]
      · intro other ho heq hold
        have hunexpected : (c.registry.forget id).isExpected id = false := by
          simp [Registry.isExpected_forget]
        exact .discarded hclosed hunexpected rfl
    · exact h
  · exact h

/-- A caller reads an answer only while it waits, and otherwise nothing happens. -/
theorem readAnswer_cases (call : Call) :
    call.readAnswer = call ∨ ∃ outcome, call.progress = .written ∧ call.answer = some outcome ∧
      call.readAnswer = { call with progress := .finished outcome } := by
  rw [Call.readAnswer]
  split
  · rename_i outcome hp ha
    exact Or.inr ⟨outcome, hp, ha, rfl⟩
  · exact Or.inl rfl

theorem readAnswer (h : Accounts c reply) (id : RequestId) : Accounts (c.readAnswer id) reply := by
  refine h.update rfl (fun call => ?_) (fun call => ?_) (fun call hp => ?_) rfl rfl rfl
    (fun _ _ => rfl) (fun p hp => Or.inl hp) (fun q hq => Or.inl hq) ?_
  · rcases readAnswer_cases call with heq | ⟨outcome, -, -, heq⟩ <;> rw [heq]
  · rcases readAnswer_cases call with heq | ⟨outcome, -, -, heq⟩ <;> rw [heq]
  · rcases readAnswer_cases call with heq | ⟨outcome, -, -, heq⟩
    · rwa [heq] at hp
    · simp [heq] at hp
  · intro call hc heq hold
    rcases readAnswer_cases call with heq | ⟨outcome, hp, ha, heq⟩
    · rw [heq]
      exact hold
    · rw [heq]
      exact hold.finish (by rw [hp]; rfl) ha

theorem expire (h : Accounts c reply) (id : RequestId) : Accounts (c.expire id) reply := by
  rw [Connection.expire]
  split
  · rename_i limit id' method params hbound hcall
    obtain ⟨hmem, hid⟩ := h.call?_eq_some_iff.1 hcall
    obtain rfl : id' = id := hid
    refine h.update rfl (fun _ => rfl) (fun _ => rfl) (fun _ hp => by simp at hp) rfl rfl rfl
      (fun other hne => ?_) (fun p hp => Or.inl (List.mem_filter.1 hp).1)
      (fun q hq => Or.inl hq) ?_
    · change (c.registry.forget id').isExpected other = _
      simp [Registry.isExpected_forget, hne]
    · intro other ho heq hold
      obtain rfl := h.eq_of_id_eq ho hmem heq
      have hunexpected : (c.registry.forget id').isExpected id' = false := by
        simp [Registry.isExpected_forget]
      exact .expired limit hbound rfl rfl hunexpected (hold.of_unanswered rfl rfl).2.2
  · exact h.readAnswer id
  · exact h

theorem abandon (h : Accounts c reply) (id : RequestId) : Accounts (c.abandon id) reply := by
  refine h.update rfl (fun call => ?_) (fun call => ?_) (fun call hp => ?_) rfl rfl rfl
    (fun _ _ => rfl) (fun p hp => Or.inl hp) (fun q hq => Or.inl hq) ?_
  · split <;> rfl
  · split <;> rfl
  · split at hp
    · simp at hp
    · exact hp
  · intro call hc heq hold
    split
    · rename_i hwritten
      exact hold.move (by rw [hwritten]; rfl) rfl
    · exact hold

/-! ### What the other side does -/

/-- A frame that nobody expects leaves the accounts as they are. -/
theorem dispatch_of_none (h : Accounts c reply) {m : Inbound} (hr : c.registry.reply? m = none) :
    Accounts (c.dispatch m) fun id => (reply id).or (c.replyOf? id m) := by
  have hquiet := (Registry.reply?_eq_none_iff _ _).1 hr
  have hno (id : RequestId) : c.replyOf? id m = none := by
    rw [Option.eq_none_iff_forall_ne_some]
    intro r heq
    obtain ⟨rfl, hid, hexpected⟩ := Connection.replyOf?_eq_some_iff.1 heq
    rw [hquiet id (congrArg some hid)] at hexpected
    exact Bool.false_ne_true hexpected
  simp only [hno, Option.or_none]
  exact h.congr (sameRequests_dispatch hr)

/-- A response leaves its answer with the request that expects it, and touches no other request. -/
theorem dispatch_of_expected (h : Accounts c reply) {r : Response} {p : PendingRequest}
    (hp : p ∈ c.registry.pending) (hpid : p.id = r.id)
    (hcalls : (c.dispatch (.response r)).calls = c.calls.map fun call =>
      if call.id = r.id then
        call.reply (r.outcome.mapError (TransportError.ofBody p.method))
      else call) :
    Accounts (c.dispatch (.response r)) fun id => (reply id).or (c.replyOf? id (.response r)) := by
  obtain ⟨hbound, hlast, hwritten, hregistry, -⟩ := c.dispatch_eq (.response r)
  have hexpected : c.registry.isExpected r.id = true :=
    (Registry.isExpected_iff _ _).2 ⟨p, hp, hpid⟩
  obtain ⟨asked, hasked, haid, hamethod⟩ := h.pending p hp
  refine h.answer (fun id => id = r.id) _ hcalls hlast hwritten (fun q hq => ?_)
    (fun id hne => ?_) (fun call hcall hold => ?_)
  · rw [hregistry, Registry.pending_dispatch] at hq
    exact (List.mem_filter.1 hq).1
  · have hid : r.id ≠ id := fun heq => hne asked hasked (haid.trans (hpid.trans heq))
    rw [h.unissued id hne, Option.none_or]
    simp [Connection.replyOf?, hid]
  · rw [hbound, hregistry, Registry.closed_dispatch, Registry.isExpected_dispatch]
    split_ifs with hid
    · -- The request that is answered.
      obtain rfl := h.eq_of_id_eq hcall hasked (hid.trans (hpid.symm.trans haid.symm))
      rw [hid] at hold ⊢
      have hmethod : r.outcome.mapError (TransportError.ofBody p.method) =
          r.outcomeFor call.method := by rw [← hamethod]; rfl
      obtain ⟨hprogress, hanswer, -, hnone⟩ := hold.of_expected hexpected
      rw [hmethod, reply_of_unanswered hanswer]
      refine .answered r ?_ rfl ?_ (Or.inl hprogress)
      · rw [hnone, Option.none_or]
        exact Connection.replyOf?_eq_some_iff.2 ⟨rfl, rfl, hexpected⟩
      · simp [Inbound.id?]
    · have hother : c.replyOf? call.id (.response r) = none := by
        simp [Connection.replyOf?, Ne.symm hid]
      rw [hother, Option.or_none]
      simpa [Inbound.id?, Ne.symm hid] using hold

/-- A frame leaves its answer with the request that expects it. -/
theorem dispatch (h : Accounts c reply) (m : Inbound) :
    Accounts (c.dispatch m) fun id => (reply id).or (c.replyOf? id m) := by
  cases hr : c.registry.reply? m with
  | none => exact h.dispatch_of_none hr
  | some answered =>
    obtain ⟨id, outcome⟩ := answered
    obtain ⟨r, rfl, rfl, p, hp, hpid, rfl⟩ := Registry.exists_of_reply?_eq_some _ _ hr
    exact h.dispatch_of_expected hp hpid (Connection.calls_dispatch_of_some hr)

/-- The end of the connection leaves its failure with every request that still waits. -/
theorem hangUp (h : Accounts c reply) : Accounts c.hangUp reply := by
  cases hclosed : c.registry.closed with
  | true =>
    have hsame : c.hangUp = c := by simp [Connection.hangUp, Registry.close, hclosed]
    rw [hsame]
    exact h
  | false =>
    have hcontains (call : Call) :
        (c.registry.pending.map PendingRequest.id).contains call.id =
          c.registry.isExpected call.id := by
      rw [Bool.eq_iff_iff, List.contains_iff_mem, List.mem_map, Registry.isExpected_iff]
    refine h.answer (fun id => c.registry.isExpected id = true) (.error .closed) ?_ rfl rfl ?_
      h.unissued (fun call hcall hold => ?_)
    · simp only [Connection.hangUp, Registry.close, hclosed, Bool.false_eq_true, ↓reduceIte,
        hcontains]
    · simp [Connection.hangUp, Registry.close, hclosed]
    · have hbroken : c.hangUp.registry.closed = true ∧
          c.hangUp.registry.isExpected call.id = false := by
        simp [Connection.hangUp, Registry.close, hclosed, Registry.isExpected]
      rw [hbroken.1, hbroken.2]
      split_ifs with hexpected
      · obtain ⟨hprogress, hanswer, -, hnone⟩ := hold.of_expected hexpected
        rw [reply_of_unanswered hanswer]
        exact .lost rfl rfl rfl hnone (Or.inl hprogress)
      · exact hold.close (Bool.eq_false_iff.2 hexpected)

/-! ### Every operation -/

/-- Every operation keeps the accounts. -/
theorem apply (h : Accounts c reply) (operation : Connection.Operation) :
    Accounts (c.apply operation) fun id => (reply id).or (c.replyIn? id operation) := by
  have quiet (hnone : ∀ id, c.replyIn? id operation = none)
      (hkept : Accounts (c.apply operation) reply) :
      Accounts (c.apply operation) fun id => (reply id).or (c.replyIn? id operation) := by
    simpa only [hnone, Option.or_none] using hkept
  cases operation with
  | issue method params => exact quiet (fun _ => rfl) (h.issue method params)
  | enroll id => exact quiet (fun _ => rfl) (h.enroll id)
  | write id => exact quiet (fun _ => rfl) (h.write id)
  | refuse id => exact quiet (fun _ => rfl) (h.refuse id)
  | readAnswer id => exact quiet (fun _ => rfl) (h.readAnswer id)
  | expire id => exact quiet (fun _ => rfl) (h.expire id)
  | abandon id => exact quiet (fun _ => rfl) (h.abandon id)
  | subscribe accepts => exact quiet (fun _ => rfl) (h.congr (sameRequests_subscribe c accepts))
  | observe method => exact quiet (fun _ => rfl) (h.congr ⟨rfl, rfl, rfl, rfl, rfl, rfl⟩)
  | observeMalformed => exact quiet (fun _ => rfl) (h.congr ⟨rfl, rfl, rfl, rfl, rfl, rfl⟩)
  | off id => exact quiet (fun _ => rfl) (h.congr ⟨rfl, rfl, rfl, rfl, rfl, rfl⟩)
  | take id => exact quiet (fun _ => rfl) (h.congr (sameRequests_take c id))
  | hangUp => exact quiet (fun _ => rfl) h.hangUp
  | receive text =>
    cases ht : Inbound.ofText? text with
    | error e =>
      have hsame : SameRequests c (c.receive text) := by
        simp only [Connection.receive, ht]
        exact ⟨rfl, rfl, rfl, rfl, rfl, rfl⟩
      exact quiet (fun id => by simp only [Connection.replyIn?, ht]) (h.congr hsame)
    | ok m =>
      have hreceive : c.receive text = c.dispatch m := by simp only [Connection.receive, ht]
      simp only [Connection.apply, Connection.replyIn?, ht, hreceive]
      exact h.dispatch m

/-- Every sequence of operations keeps the accounts, for some responses. -/
theorem exists_run (h : Accounts c reply) (operations : List Connection.Operation) :
    ∃ reply, Accounts (c.run operations) reply := by
  induction operations generalizing c reply with
  | nil => exact ⟨reply, h⟩
  | cons operation rest ih => exact ih (h.apply operation)

/-- Operations in which no frame arrives keep the accounts as they are. -/
theorem run_silent (h : Accounts c reply) {operations : List Connection.Operation}
    (hsilent : ∀ operation ∈ operations, ∀ text, operation ≠ .receive text) :
    Accounts (c.run operations) reply := by
  induction operations generalizing c with
  | nil => exact h
  | cons operation rest ih =>
    have hnone : ∀ id, c.replyIn? id operation = none := by
      intro id
      rw [Option.eq_none_iff_forall_ne_some]
      intro r hr
      obtain ⟨text, heq, -⟩ := Connection.replyIn?_eq_some_iff.1 hr
      exact hsilent operation List.mem_cons_self text heq
    have hnext := h.apply operation
    simp only [hnone, Option.or_none] at hnext
    exact ih hnext fun other hother => hsilent other (List.mem_cons_of_mem _ hother)

end Accounts

/-- A connection that was just made has no requests. -/
theorem accounts_opened (bound : Option Duration) :
    Accounts (Connection.opened bound) fun _ => none := by
  constructor <;> simp [Connection.opened, Registry.empty]

/-- After every sequence of operations all requests stand as they should. -/
theorem accounts_run (bound : Option Duration) (operations : List Connection.Operation) :
    Accounts ((Connection.opened bound).run operations) fun id =>
      (Connection.opened bound).firstReply? id operations := by
  induction operations using List.reverseRecOn with
  | nil => exact accounts_opened bound
  | append_singleton operations operation ih =>
    simp only [Connection.run_concat, Connection.firstReply?_concat]
    exact ih.apply operation

end ValueTrace.Inspector
