import StreamLoad.Proofs.Churn.Performed

/-! # The ends of attempts in the log

Every end of an attempt is noted. So the log tells which attempts have ended and how
(`Session.endings`). What is entered at once into the ledger and the log is little (`Entered`), and
by that the two agree: the failures counted are the ends in the log, kind by kind, and each attempt
that is no longer under way has ended once (`Chronicled`).
-/

set_option autoImplicit false

namespace StreamLoad

/-- The attempt whose end is noted, and how it ended. -/
def ChurnNotice.end? : ChurnNotice → Option (Nat × Ending)
  | .attemptDropped id _ => some (id, .greeted)
  | .attemptFailed id failure => some (id, .failed failure)
  | .attemptTimedOut id _ => some (id, .timedOut)
  | .started _ _ _ | .goalReached _ | .probeFailed _ | .acceptingChanged _ => none

/-- The failures of one kind. -/
def ChurnMetrics.failuresOf (m : ChurnMetrics) : FailureKind → Nat
  | .connection => m.connectionFailures
  | .response => m.responseFailures
  | .timeout => m.timeouts

/-- A failure is counted by its kind and by no other. -/
theorem ChurnMetrics.failuresOf_countFailure (m : ChurnMetrics) (kind other : FailureKind) :
    (m.countFailure kind).failuresOf other = m.failuresOf other + if kind = other then 1 else 0 := by
  cases kind <;> cases other <;> rfl

namespace ChurnLedger

/-- The end of an attempt under way is noted once. -/
theorem ends_finish {l : ChurnLedger} (orderly : l.registry.Orderly) {id : Nat}
    (underWay : id ∈ l.registry.ids) (now timeout : Nat) (ending : Ending) :
    (l.finish id now timeout ending).2.filterMap ChurnNotice.end? = [(id, ending)] := by
  cases ending with
  | greeted =>
      obtain ⟨⟨a, -, -, leaves⟩, -⟩ := finish_underWay orderly underWay now timeout .greeted
      simp only [leaver?] at leaves
      simp only [finish]
      split
      · rfl
      · rename_i released
        rw [released] at leaves
        cases leaves
  | failed failure => rfl
  | timedOut => rfl

theorem ends_tick (l : ChurnLedger) (now : Nat) :
    (l.tick now).2.2.filterMap ChurnNotice.end? = [] := by
  unfold tick
  split
  · dsimp only
    split <;> rfl
  · split <;> rfl

theorem ends_probed (l : ChurnLedger) (verdict : Verdict) :
    (l.probed verdict).2.filterMap ChurnNotice.end? = [] := by
  simp only [probed]
  split <;> rfl

/-- The end of an attempt counts as a failure of its kind, if it has one. -/
theorem failuresOf_finish (l : ChurnLedger) (id now timeout : Nat) (ending : Ending)
    (kind : FailureKind) :
    (l.finish id now timeout ending).1.metrics.failuresOf kind
      = l.metrics.failuresOf kind + if ending.kind? = some kind then 1 else 0 := by
  cases fails : ending.kind? with
  | some own =>
      rw [finish_of_kind fails]
      have counted := l.metrics.failuresOf_countFailure own kind
      simp only [Option.some.injEq]
      rw [← counted]
      cases kind <;> rfl
  | none =>
      obtain rfl := Ending.eq_greeted fails
      have uncounted : ¬ (none : Option FailureKind) = some kind := by simp
      rw [if_neg uncounted, finish_greeted]
      split <;> cases kind <;> rfl

/-- A tick counts no failure. -/
theorem failuresOf_tick (l : ChurnLedger) (now : Nat) (kind : FailureKind) :
    (l.tick now).1.metrics.failuresOf kind = l.metrics.failuresOf kind := by
  unfold tick
  split
  · rfl
  · split
    · rfl
    · cases kind <;> rfl

end ChurnLedger

namespace Churn.Session

variable {s s' : Session}

/-- The attempts whose ends are noted, the first one first. -/
def endings (s : Session) : List (Nat × Ending) := s.notices.reverse.filterMap ChurnNotice.end?

/-- The ends of one attempt that are noted. -/
def endingsOf (s : Session) (id : Nat) : List Ending :=
  (s.endings.filter (·.1 = id)).map (·.2)

theorem endings_note (s : Session) (notices : List ChurnNotice) :
    (s.note notices).endings = s.endings ++ notices.filterMap ChurnNotice.end? := by
  simp [endings, note, List.filterMap_append]

theorem endings_tick (s : Session) : s.tick.1.endings = s.endings := by
  unfold tick
  rcases ticked : s.ledger.tick s.now with ⟨ledger, outcome, notices⟩
  have silent := s.ledger.ends_tick s.now
  rw [ticked] at silent
  dsimp only at silent ⊢
  rw [endings_note, silent, List.append_nil]
  rfl

theorem endings_completeProbe (s : Session) (loop : Option Nat) (verdict : Verdict)
    {fault : List ChurnNotice} (silent : fault.filterMap ChurnNotice.end? = []) :
    (s.completeProbe loop verdict fault).endings = s.endings := by
  unfold completeProbe
  rcases probed : s.ledger.probed verdict with ⟨ledger, notices⟩
  have noted := s.ledger.ends_probed verdict
  rw [probed] at noted
  dsimp only at noted ⊢
  rw [endings_note, List.filterMap_append, silent, noted, List.append_nil, List.append_nil]
  rfl

/-- An attempt under way ends, and its end is noted. -/
theorem endings_finish {s : Session} (orderly : s.ledger.registry.Orderly) {id : Nat}
    (underWay : id ∈ s.ledger.registry.ids) (ending : Ending) :
    (s.finish id ending).endings = s.endings ++ [(id, ending)] := by
  have noted := s.ledger.ends_finish orderly underWay s.now s.settings.attemptTimeout ending
  unfold finish
  rcases finished : s.ledger.finish id s.now s.settings.attemptTimeout ending
    with ⟨ledger, notices⟩
  rw [finished] at noted
  dsimp only at noted ⊢
  rw [endings_note, noted]
  rfl

/-- An attempt that runs ends, and its end is noted. -/
theorem endings_endLink (s : Session) (server : Server) (orderly : s.ledger.registry.Orderly)
    {link : Link} (underWay : link.attempt ∈ s.ledger.registry.ids) (ending : Ending) :
    (endLink { s with server := server } link ending).endings
      = s.endings ++ [(link.attempt, ending)] :=
  @endings_finish
    { s with
      server := server.hangUp link.exchange
      links := s.links.filter (·.attempt ≠ link.attempt) }
    orderly link.attempt underWay ending

theorem endingsOf_of_append {id other : Nat} {ending : Ending}
    (ends : s'.endings = s.endings ++ [(other, ending)]) :
    s'.endingsOf id = s.endingsOf id ++ if other = id then [ending] else [] := by
  unfold endingsOf
  rw [ends, List.filter_append, List.map_append]
  by_cases same : other = id <;> simp [same]

theorem endingsOf_congr (ends : s'.endings = s.endings) (id : Nat) :
    s'.endingsOf id = s.endingsOf id := by
  unfold endingsOf
  rw [ends]

/-! ## What is entered

The ledger and the log are written at the same places of a session. `Entered` says what may be
written at once, and that the log goes on to agree with the ledger is shown of this, once for all
that can happen. -/

/-- What is entered into the ledger and the log at once: nothing that concerns the attempts, a new
attempt, or the end of one under way. -/
inductive Entered (s s' : Session) : Prop where
  | still (registry : s'.ledger.registry = s.ledger.registry)
      (failures : ∀ kind, s'.ledger.metrics.failuresOf kind = s.ledger.metrics.failuresOf kind)
      (endings : s'.endings = s.endings)
  | opens (registry : s'.ledger.registry = (s.ledger.registry.openNew s.now).1)
      (failures : ∀ kind, s'.ledger.metrics.failuresOf kind = s.ledger.metrics.failuresOf kind)
      (endings : s'.endings = s.endings)
  | ends (id : Nat) (ending : Ending) (underWay : id ∈ s.ledger.registry.ids)
      (registry : s'.ledger.registry = s.ledger.registry.erase id)
      (failures : ∀ kind, s'.ledger.metrics.failuresOf kind
        = s.ledger.metrics.failuresOf kind + if ending.kind? = some kind then 1 else 0)
      (endings : s'.endings = s.endings ++ [(id, ending)])

theorem entered_tick (s : Session) : Entered s s.tick.1 := by
  have failures := s.ledger.failuresOf_tick s.now
  rcases s.tick_cases with ⟨registry, -, -⟩ | ⟨registry, -, -⟩
  · exact .still registry failures (endings_tick s)
  · exact .opens registry failures (endings_tick s)

/-- An attempt under way ends, after something that has no part in the ledger and the log. -/
theorem entered_finish {s s₁ : Session} (ledger : s₁.ledger = s.ledger)
    (notices : s₁.notices = s.notices) (orderly : s.ledger.registry.Orderly) {id : Nat}
    (underWay : id ∈ s.ledger.registry.ids) (ending : Ending) :
    Entered s (s₁.finish id ending) := by
  have same : s₁.endings = s.endings := by rw [endings, notices, endings]
  refine .ends id ending underWay ?_ (fun kind => ?_) ?_
  · rw [← ledger]
    exact s₁.ledger.registry_finish id s₁.now s₁.settings.attemptTimeout ending
  · rw [← ledger]
    exact s₁.ledger.failuresOf_finish id s₁.now s₁.settings.attemptTimeout ending kind
  · rw [← ledger] at orderly underWay
    rw [← same]
    exact endings_finish orderly underWay ending

theorem entered_endLink {s : Session} (server : Server) (orderly : s.ledger.registry.Orderly)
    {link : Link} (underWay : link.attempt ∈ s.ledger.registry.ids) (ending : Ending) :
    Entered s (endLink { s with server := server } link ending) :=
  @entered_finish s
    { s with
      server := server.hangUp link.exchange
      links := s.links.filter (·.attempt ≠ link.attempt) }
    rfl rfl orderly link.attempt underWay ending

/-- What the log says of the attempts agrees with the ledger: the failures of each kind are the ends
of this kind, and each attempt that was opened and is no longer under way has ended once. -/
structure Chronicled (s : Session) : Prop where
  counted : ∀ kind, s.ledger.metrics.failuresOf kind
    = (s.endings.filter fun e => e.2.kind? = some kind).length
  once : ∀ id, (s.endingsOf id).length
    = if id < s.ledger.registry.opened ∧ id ∉ s.ledger.registry.ids then 1 else 0

namespace Chronicled

/-- No end is noted of an attempt that is under way. -/
theorem silent (h : s.Chronicled) {id : Nat} (underWay : id ∈ s.ledger.registry.ids) :
    s.endingsOf id = [] := by
  have once := h.once id
  rw [if_neg fun left => left.2 underWay] at once
  exact List.eq_nil_of_length_eq_zero once

/-- An attempt whose end is noted is not under way. -/
theorem gone (h : s.Chronicled) {id : Nat} {ending : Ending} (noted : s.endingsOf id = [ending]) :
    id ∉ s.ledger.registry.ids := by
  intro underWay
  rw [h.silent underWay] at noted
  cases noted

end Chronicled

/-- The log goes on to agree with the ledger. -/
theorem Entered.chronicled (entered : Entered s s') (orderly : s.ledger.registry.Orderly)
    (h : s.Chronicled) : s'.Chronicled := by
  cases entered with
  | still registry failures endings =>
      refine ⟨fun kind => ?_, fun id => ?_⟩
      · rw [endings, failures]
        exact h.counted kind
      · rw [endingsOf_congr endings, registry]
        exact h.once id
  | opens registry failures endings =>
      refine ⟨fun kind => ?_, fun id => ?_⟩
      · rw [endings, failures]
        exact h.counted kind
      · -- The new attempt is under way, and no end of it is noted.
        have same : (id < s.ledger.registry.opened + 1
              ∧ id ∉ s.ledger.registry.opened :: s.ledger.registry.ids)
            ↔ (id < s.ledger.registry.opened ∧ id ∉ s.ledger.registry.ids) := by
          simp only [List.mem_cons, not_or]
          constructor
          · rintro ⟨bound, apart, gone⟩
            exact ⟨by omega, gone⟩
          · rintro ⟨bound, gone⟩
            exact ⟨by omega, by omega, gone⟩
        rw [endingsOf_congr endings, registry, h.once id]
        exact (if_congr same rfl rfl).symm
  | ends other ending underWay registry failures endings =>
      have issued := orderly.lt_opened underWay
      refine ⟨fun kind => ?_, fun id => ?_⟩
      · rw [endings, failures, List.filter_append, List.length_append, h.counted kind]
        by_cases own : ending.kind? = some kind <;> simp [own]
      · -- The attempt that ends leaves the registry, and all others stay as they are.
        rw [endingsOf_of_append endings, List.length_append, h.once id, registry,
          Registry.ids_erase]
        by_cases same : other = id
        · subst same
          simp [underWay, issued, Registry.erase]
        · simp [same, Ne.symm same, Registry.erase]

/-- What is noted stays noted. -/
theorem Entered.noted (entered : Entered s s') (h : s.Chronicled) {id : Nat} {ending : Ending}
    (noted : s.endingsOf id = [ending]) :
    s'.endingsOf id = [ending] := by
  cases entered with
  | still registry failures endings | opens registry failures endings =>
      rw [endingsOf_congr endings, noted]
  | ends other last underWay registry failures endings =>
      -- An attempt that has ended is not under way, so it does not end again.
      have apart : other ≠ id := fun same => h.gone noted (same ▸ underWay)
      rw [endingsOf_of_append endings, noted, if_neg apart, List.append_nil]

end Churn.Session

end StreamLoad
