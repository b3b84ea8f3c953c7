import StreamLoad.Proofs.Churn.Confluence

/-! # What the search for the greeting comes to

An attempt reads its answer piece by piece and stops at the first thing that ends the search. What
it comes to can be told from all that arrives at once: the attempt is greeted if the answer is one
of success and a greeting is among the events of its body (`Greeted`); if not, it fails by the
first arrival that is a failure (`Arrival.failure?`). What arrives after the greeting does not
count, since no failure hides a greeting that came before it (`ending?_seekAll`).
-/

set_option autoImplicit false

namespace StreamLoad

/-- Whether an arrival is the head of an answer of success. -/
def Arrival.opens : Arrival → Bool
  | .head status => isSuccess status
  | .body _ | .lost => false

/-- The piece of a body that arrives. -/
def Arrival.chunk? : Arrival → Option (List UInt8)
  | .body (.chunk bytes) => some bytes
  | _ => none

/-- The failure that an arrival is for an attempt that waits for the greeting: another status than
one of success, the end of the body, or a connection that closes too early. -/
def Arrival.failure? (request : Request) : Arrival → Option Failure
  | .head status =>
      if isSuccess status then if status = noContent then some .streamClosed else none
      else some (.unexpectedStatus status)
  | .body (.chunk _) => none
  | .body .close => some .streamClosed
  | .body .cut => some (.request .bodyCut)
  | .lost => some (.request request.lost)

/-- Arrivals that greet an attempt: the head of an answer of success, and a greeting among the
events of the body. -/
def Greeted (arrivals : List Arrival) : Prop :=
  arrivals.any Arrival.opens = true
    ∧ .welcome ∈ (({} : Scanner).feedAll (arrivals.filterMap Arrival.chunk?)).2

instance (arrivals : List Arrival) : Decidable (Greeted arrivals) :=
  inferInstanceAs (Decidable (_ ∧ _))

/-- The end that some arrivals bring an attempt, if they bring any. -/
def searchEnd (request : Request) (arrivals : List Arrival) : Option Ending :=
  if Greeted arrivals then some .greeted
  else (arrivals.findSome? (Arrival.failure? request)).map .failed

theorem searchEnd_eq_greeted {request : Request} {arrivals : List Arrival} :
    searchEnd request arrivals = some .greeted ↔ Greeted arrivals := by
  unfold searchEnd
  split
  · rename_i greeted
    exact iff_of_true rfl greeted
  · rename_i ungreeted
    refine iff_of_false (fun same => ?_) ungreeted
    obtain ⟨failure, -, other⟩ := Option.map_eq_some_iff.mp same
    cases other

namespace ExchangeState

/-- Nothing is sent on an exchange that is over. -/
theorem arrivals_of_closed {state : ExchangeState} (closed : state.isOpen = false)
    (script : List Command) : state.arrivals script = [] := by
  induction script with
  | nil => rfl
  | cons c script ih =>
      have unseen : (state.act c).2 = none := by
        cases state with
        | finished | hungUp => rfl
        | waiting | streaming => cases closed
      rw [arrivals_of_unseen unseen, ih]

end ExchangeState

namespace Churn.Session

/-- The end of the search in a body. -/
theorem ending?_seekAll_streaming (request : Request) (scanner : Scanner) (script : List Command) :
    ((Subscription.reading { scanner := scanner }).seekAll request
        (ExchangeState.streaming.arrivals script)).ending?
      = if .welcome ∈ (scanner.feedAll
          ((ExchangeState.streaming.arrivals script).filterMap Arrival.chunk?)).2 then some .greeted
        else ((ExchangeState.streaming.arrivals script).findSome? (Arrival.failure? request)).map
          .failed := by
  induction script generalizing scanner with
  | nil => rfl
  | cons c script ih =>
      cases c with
      | head status =>
          rw [ExchangeState.arrivals_of_unseen rfl]
          exact ih scanner
      | close =>
          rw [ExchangeState.arrivals_of_seen rfl, ExchangeState.arrivals_of_closed rfl,
            Subscription.seekAll, Subscription.seekWelcome_close]
          rfl
      | drop =>
          rw [ExchangeState.arrivals_of_seen rfl, ExchangeState.arrivals_of_closed rfl,
            Subscription.seekAll, Subscription.seekWelcome_cut]
          rfl
      | send bytes =>
          cases bytes with
          | nil =>
              rw [ExchangeState.arrivals_of_unseen rfl]
              exact ih scanner
          | cons b bytes =>
              rw [ExchangeState.arrivals_of_seen rfl, Subscription.seekAll,
                Subscription.seekWelcome_chunk]
              -- The events of the body are those of this chunk and those of the chunks after it.
              simp only [List.filterMap_cons, Arrival.chunk?, Scanner.feedAll, List.mem_append,
                List.findSome?_cons, Arrival.failure?]
              by_cases greeted : .welcome ∈ (scanner.feed (b :: bytes)).2
              · simp [greeted, Subscription.Search.ending?]
              · simp only [greeted, if_false, false_or]
                exact ih _

/-- **What the search comes to.** An attempt that waits for its answer ends by what arrives just as
`searchEnd` says. -/
theorem ending?_seekAll (request : Request) (script : List Command) :
    (Subscription.asked.seekAll request (ExchangeState.waiting.arrivals script)).ending?
      = searchEnd request (ExchangeState.waiting.arrivals script) := by
  induction script with
  | nil => rfl
  | cons c script ih =>
      cases c with
      | send bytes | close =>
          rw [ExchangeState.arrivals_of_unseen rfl]
          exact ih
      | drop =>
          rw [ExchangeState.arrivals_of_seen rfl, ExchangeState.arrivals_of_closed rfl]
          rfl
      | head status =>
          rw [ExchangeState.arrivals_of_seen rfl, Subscription.seekAll,
            Subscription.seekWelcome_head]
          by_cases success : isSuccess status = true
          · by_cases empty : status = noContent
            · subst empty
              have ends : (ExchangeState.waiting.act (.head noContent)).1 = .finished := by decide
              rw [ends, ExchangeState.arrivals_of_closed rfl]
              rfl
            · have opens : (ExchangeState.waiting.act (.head status)).1 = .streaming := by
                simp [ExchangeState.act, success, empty]
              rw [opens, if_pos success, if_neg empty]
              -- From here on it is a matter of what an open stream brings.
              have body := ending?_seekAll_streaming request {} script
              simp only [searchEnd, Greeted, List.any_cons, Arrival.opens, success, Bool.true_or,
                true_and, List.filterMap_cons, Arrival.chunk?, List.findSome?_cons, Arrival.failure?,
                if_true, empty, if_false]
              exact body
          · have ends : (ExchangeState.waiting.act (.head status)).1 = .finished := by
              simp [ExchangeState.act, success]
            rw [ends, ExchangeState.arrivals_of_closed rfl, if_neg success]
            simp [searchEnd, Greeted, Arrival.opens, Arrival.failure?, success,
              Subscription.Search.ending?]

/-- So does an attempt that fares by some commands. -/
theorem ending?_fare (request : Request) (script : List Command) :
    (fare request .waiting .asked script).2.ending?
      = searchEnd request (ExchangeState.waiting.arrivals script) := by
  rw [fare_eq_seekAll, ending?_seekAll]

end Churn.Session

end StreamLoad
