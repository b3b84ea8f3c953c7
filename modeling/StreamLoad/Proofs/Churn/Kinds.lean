import StreamLoad.Proofs.Churn.Outcomes

/-! # How failures are counted

An attempt that fails before its time is up counts as a failure of the connection or as one of the
answer. It counts as one of the answer if the answer has another status than one of success, but
also if the connection breaks within the body, and if no request can be made of the address. In all
other cases it counts as one of the connection: it was refused, it was closed before the answer
began, or the body ended before the greeting (`failures_by_kind`).
-/

set_option autoImplicit false

namespace StreamLoad

/-- A request that cannot be prepared has an address that cannot be used. -/
theorem Request.unusable_of_prepare {method : Method} {accept text : String}
    {fault : RequestFault} (h : prepare method accept text = .error fault) :
    ∃ url, fault = .unusable url := by
  unfold prepare at h
  split at h
  · cases h
    exact ⟨none, rfl⟩
  · split at h
    · cases h
    · cases h
      exact ⟨_, rfl⟩

namespace ExchangeState

variable {state : ExchangeState} {request : Request} {failure : Failure}

/-- A failure is the last thing that arrives. -/
theorem isOpen_of_failure {c : Command} {arrival : Arrival} (seen : (state.act c).2 = some arrival)
    (fails : arrival.failure? request = some failure) : (state.act c).1.isOpen = false := by
  cases state with
  | finished | hungUp => rfl
  | waiting =>
      cases c with
      | send bytes | close => cases seen
      | drop => rfl
      | head status =>
          cases seen
          simp only [Arrival.failure?] at fails
          -- A head is a failure unless a body is to follow it, and else the exchange is finished.
          by_cases success : isSuccess status = true
          · by_cases empty : status = noContent
            · simp [act, empty, isOpen]
            · rw [if_pos success, if_neg empty] at fails
              cases fails
          · simp [act, success, isOpen]
  | streaming =>
      cases c with
      | head status => cases seen
      | close | drop => rfl
      | send bytes =>
          cases bytes with
          | nil => cases seen
          | cons b bytes =>
              cases seen
              cases fails

/-- So at most one failure arrives. -/
theorem findSome?_arrivals {script : List Command} {arrival : Arrival}
    (arrives : arrival ∈ state.arrivals script)
    (fails : arrival.failure? request = some failure) :
    (state.arrivals script).findSome? (Arrival.failure? request) = some failure := by
  induction script generalizing state with
  | nil => cases arrives
  | cons c script ih =>
      cases seen : (state.act c).2 with
      | none =>
          rw [arrivals_of_unseen seen] at arrives ⊢
          exact ih arrives
      | some first =>
          rw [arrivals_of_seen seen] at arrives ⊢
          cases last : first.failure? request with
          | some other =>
              -- Nothing arrives after it, so it is the one.
              rw [arrivals_of_closed (isOpen_of_failure seen last)] at arrives
              obtain rfl := List.mem_singleton.mp arrives
              rw [List.findSome?_cons, fails]
          | none =>
              rw [List.findSome?_cons, last]
              rcases List.mem_cons.mp arrives with rfl | later
              · rw [fails] at last
                cases last
              · exact ih later

end ExchangeState

/-- How a failure is counted, by what has arrived. -/
structure CountedBy (failure : Failure) (arrivals : List Arrival) : Prop where
  response : FailureKind.ofFailure failure = .response
    ↔ (∃ status, .head status ∈ arrivals ∧ isSuccess status = false) ∨ .body .cut ∈ arrivals
  connection : FailureKind.ofFailure failure = .connection
    ↔ .lost ∈ arrivals ∨ .body .close ∈ arrivals ∨ .head noContent ∈ arrivals

/-- What an arrival that is a failure may be, by how the failure is counted. -/
theorem Arrival.cases_of_failure {arrival : Arrival} {request : Request} {failure : Failure}
    (fails : arrival.failure? request = some failure) :
    FailureKind.ofFailure failure = .response
        ∧ ((∃ status, arrival = .head status ∧ isSuccess status = false) ∨ arrival = .body .cut)
      ∨ FailureKind.ofFailure failure = .connection
        ∧ (arrival = .lost ∨ arrival = .body .close ∨ arrival = .head noContent) := by
  cases arrival with
  | lost =>
      cases fails
      exact Or.inr ⟨rfl, Or.inl rfl⟩
  | body item =>
      cases item with
      | chunk bytes => cases fails
      | close =>
          cases fails
          exact Or.inr ⟨rfl, Or.inr (Or.inl rfl)⟩
      | cut =>
          cases fails
          exact Or.inl ⟨rfl, Or.inr rfl⟩
  | head status =>
      simp only [failure?] at fails
      by_cases success : isSuccess status = true
      · by_cases empty : status = noContent
        · rw [if_pos success, if_pos empty] at fails
          cases fails
          exact Or.inr ⟨rfl, Or.inr (Or.inr (congrArg head empty))⟩
        · rw [if_pos success, if_neg empty] at fails
          cases fails
      · rw [if_neg success] at fails
        cases fails
        exact Or.inl ⟨rfl, Or.inl ⟨status, rfl, eq_false_of_ne_true success⟩⟩

/-- How the failure of an attempt is counted that has sent its request. -/
theorem countedBy_of_searchEnd {request : Request} {script : List Command} {failure : Failure}
    (ends : searchEnd request (ExchangeState.waiting.arrivals script) = some (.failed failure)) :
    CountedBy failure (ExchangeState.waiting.arrivals script) := by
  have first : (ExchangeState.waiting.arrivals script).findSome? (Arrival.failure? request)
      = some failure := by
    unfold searchEnd at ends
    split at ends
    · cases ends
    · obtain ⟨other, first, same⟩ := Option.map_eq_some_iff.mp ends
      cases same
      exact first
  -- Whatever failure arrives is this one.
  have only {arrival : Arrival} {other : Failure}
      (arrives : arrival ∈ ExchangeState.waiting.arrivals script)
      (fails : arrival.failure? request = some other) : failure = other :=
    Option.some.inj (first.symm.trans (ExchangeState.findSome?_arrivals arrives fails))
  obtain ⟨arrival, arrives, fails⟩ := List.exists_of_findSome?_eq_some first
  have causes := Arrival.cases_of_failure fails
  constructor
  · constructor
    · intro counted
      rcases causes with ⟨-, ⟨status, rfl, other⟩ | rfl⟩ | ⟨differs, -⟩
      · exact Or.inl ⟨status, arrives, other⟩
      · exact Or.inr arrives
      · rw [counted] at differs
        cases differs
    · rintro (⟨status, arrives, other⟩ | arrives)
      · rw [@only _ (.unexpectedStatus status) arrives (by simp [Arrival.failure?, other])]
        rfl
      · rw [only arrives rfl]
        rfl
  · constructor
    · intro counted
      rcases causes with ⟨differs, -⟩ | ⟨-, rfl | rfl | rfl⟩
      · rw [counted] at differs
        cases differs
      · exact Or.inl arrives
      · exact Or.inr (Or.inl arrives)
      · exact Or.inr (Or.inr arrives)
    · rintro (arrives | arrives | arrives)
      · rw [only arrives rfl]
        rfl
      · rw [only arrives rfl]
        rfl
      · rw [only arrives rfl]
        rfl

namespace Churn.Session

variable {s : Session}

/-- How the failure of an attempt that was opened in the step before is counted: no request can be
made of the address, the server takes no connection, or it is by what has arrived in time. -/
inductive Blamed (s : Session) (id : Nat) (later : List Step) (failure : Failure) : Prop where
  | unusable (url : Option String)
      (unprepared : s.client.subscribe s.settings.method = .error (.unusable url))
      (counted : FailureKind.ofFailure failure = .response)
  | refused (request : Request) (prepared : s.client.subscribe s.settings.method = .ok request)
      (closed : s.server.accepting = false)
      (counted : FailureKind.ofFailure failure = .connection)
  | answered (request : Request) (number : Nat) (ends : s.EndsOnce id request number)
      (counted : CountedBy failure (ExchangeState.waiting.arrivals
        (s.commandsBefore (s.now + s.settings.attemptTimeout) number later)))

/-- An attempt fails by what its search has found, unless its time is up. -/
theorem searchEnd_of_outcome? {request : Request} {due number : Nat} {later : List Step}
    {failure : Failure} (ends : s.outcome? request due number later = some (.failed failure)) :
    searchEnd request (ExchangeState.waiting.arrivals (s.commandsBefore due number later))
      = some (.failed failure) := by
  rw [outcome?, Option.or_eq_some_iff] at ends
  rcases ends with found | ⟨-, late⟩
  · exact found
  · rw [Option.ite_none_right_eq_some] at late
    cases late.2

theorem Course.blamed {id : Nat} (course : s.Course id) {later : List Step} {failure : Failure}
    (failed : (s.run later).endingsOf id = [.failed failure]) : s.Blamed id later failure := by
  cases course with
  | refused fault unsent isOver =>
      rw [(isOver later).1] at failed
      cases failed
      rcases unsent with unprepared | ⟨request, prepared, closed, rfl⟩
      · obtain ⟨url, rfl⟩ := Request.unusable_of_prepare unprepared
        exact .unusable url unprepared rfl
      · exact .refused request prepared closed rfl
  | sent request number prepared accepting ends =>
      have outcome := ends.noted later
      rw [failed] at outcome
      have found := Option.toList_eq_singleton_iff.mp outcome.symm
      exact .answered request number ends (countedBy_of_searchEnd (searchEnd_of_outcome? found))

/-- **How failures are counted.** The failures counted of each kind are the ends of this kind. An
attempt that fails before its time is up counts as a failure of the answer if and only if a head
with another status than one of success has arrived, its body was cut, or no request could be made
of the address; it counts as a failure of the connection if and only if it was refused, the
connection was closed before the head, or the body ended, as it does with the head if it is empty.
-/
theorem failures_by_kind (settings : ChurnSettings) (probing : ProbeSettings) (goal : Nat)
    (client : Client) (accepting : Bool) (prompt : Prompt)
    (positive : 0 < settings.attemptTimeout) :
    let first := start settings probing goal client { accepting := accepting, prompt := prompt }
    (∀ steps kind, (first.run steps).ledger.metrics.failuresOf kind
      = ((first.run steps).endings.filter fun e => e.2.kind? = some kind).length)
    ∧ ∀ before step id, (first.run before).Opens step id → ∀ later failure,
      (((first.run before).step step).1.run later).endingsOf id = [.failed failure] →
      ((first.run before).step step).1.Blamed id later failure := by
  intro first
  have sound (steps : List Step) :
      (first.run steps).Sound ∧ (first.run steps).settings = settings :=
    (sound_start settings probing goal client accepting prompt).run positive steps
  refine ⟨fun steps => (sound steps).1.log.counted, fun before step id opens later failure => ?_⟩
  exact ((sound before).1.course ((sound before).2.symm ▸ positive) opens).blamed

/-- A session whose server cuts the body of its answer to the first attempt. -/
def cutting : Session := start {} {} 1 { base := "http://a" } {}

theorem failures_by_kind_cut :
    cutting.Opens .tick 0
    ∧ ((cutting.step .tick).1.run [.command 0 (.head 200), .command 0 .drop]).endingsOf 0
      = [.failed (.request .bodyCut)]
    ∧ (cutting.step .tick).1.Blamed 0 [.command 0 (.head 200), .command 0 .drop]
      (.request .bodyCut) := by
  have opens : cutting.Opens .tick 0 := by decide +kernel
  have failed : ((cutting.step .tick).1.run [.command 0 (.head 200), .command 0 .drop]).endingsOf 0
      = [.failed (.request .bodyCut)] := by decide +kernel
  exact ⟨opens, failed, (failures_by_kind {} {} 1 { base := "http://a" } true .never
    (by decide)).2 [] .tick 0 opens _ _ failed⟩

/-- A body that the server cuts after a head of success counts as a failure of the answer, and so
does an address that no request can be made of, though no answer has begun. -/
theorem failures_without_bad_answer :
    let cut := cutting.run [.tick, .command 0 (.head 200), .command 0 .drop]
    let unusable := (start {} {} 1 { base := "file:///x" } {}).run [.tick]
    cut.ledger.metrics.responseFailures = 1 ∧ cut.ledger.metrics.connectionFailures = 0
    ∧ unusable.ledger.metrics.responseFailures = 1
    ∧ unusable.ledger.metrics.connectionFailures = 0
    ∧ unusable.server.exchanges = [] := by
  decide +kernel

end Churn.Session

end StreamLoad
