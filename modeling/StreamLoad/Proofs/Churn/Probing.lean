import StreamLoad.Proofs.Churn.Effects
import StreamLoad.Proofs.Churn.Pacing
import Mathlib.Data.List.Induction

/-! # Churn and probing keep apart

The churn driver and the probes share one ledger. An action sets whether the server accepts
connections exactly when it brings a probe to its end, and what the driver counts changes only by
what happens to an attempt (`Isolated`). Both are read off from what the action comes to
(`Effect.judges`, `Effect.uncounted`).
-/

set_option autoImplicit false

namespace StreamLoad

/-! ## What the ledger keeps -/

namespace ChurnLedger

/-- A tick stores no verdict and notes none. -/
theorem tick_silent (l : ChurnLedger) (now : Nat) :
    (l.tick now).1.counters.accepting = l.counters.accepting
    ∧ (l.tick now).2.2.filterMap ChurnNotice.verdict? = [] := by
  unfold tick
  split
  · split <;> exact ⟨rfl, rfl⟩
  · split <;> exact ⟨rfl, rfl⟩

theorem accepting_countDrop (l : ChurnLedger) (id : Nat) :
    (l.countDrop id).counters.accepting = l.counters.accepting := by
  have recorded : l.counters.recordDrop.1.accepting = l.counters.accepting := by
    unfold Counters.recordDrop
    split <;> rfl
  unfold countDrop
  split
  · rfl
  · split
    · rename_i counters same
      rw [same] at recorded
      exact recorded
    · rename_i counters same
      rw [same] at recorded
      exact recorded

/-- The end of an attempt stores no verdict and notes none. -/
theorem finish_silent (l : ChurnLedger) (id now timeout : Nat) (ending : Ending) :
    (l.finish id now timeout ending).1.counters.accepting = l.counters.accepting
    ∧ (l.finish id now timeout ending).2.filterMap ChurnNotice.verdict? = [] := by
  cases ending with
  | greeted =>
      have dropped : ((l.countDrop id).release id .aborted).1.counters.accepting
          = l.counters.accepting := l.accepting_countDrop id
      simp only [finish]
      split
      · rename_i ledger a released
        rw [released] at dropped
        exact ⟨dropped, rfl⟩
      · rename_i ledger released
        rw [released] at dropped
        exact ⟨dropped, rfl⟩
  | failed failure => exact ⟨rfl, rfl⟩
  | timedOut => exact ⟨rfl, rfl⟩

/-- A verdict is noted unless it says what is stored already. -/
theorem verdicts_probed (l : ChurnLedger) (verdict : Verdict) :
    (l.probed verdict).2.filterMap ChurnNotice.verdict?
      = if l.counters.accepting = some verdict.isAccepting then [] else [verdict] := by
  unfold probed
  by_cases same : l.counters.accepting = some verdict.isAccepting
  · simp [Counters.setAccepting, same]
  · simp [Counters.setAccepting, same, ChurnNotice.verdict?]

end ChurnLedger

namespace Churn.Session

/-- Whether the server accepts connections, by the probe that ended last. -/
def accepting (s : Session) : Option Bool := s.ledger.snapshot.accepting

/-- What is noted of a verdict: only one that says something else than the one before is news. -/
def news (s : Session) : Option Verdict → List Verdict
  | some verdict => if s.accepting = some verdict.isAccepting then [] else [verdict]
  | none => []

/-! ## What an action does to the ledger

Two relations say what is to be kept apart. `Judges` is about the verdict that is stored and the
verdicts that are noted, `Uncounted` about what is counted of the attempts. The lemmas go through
what actions are made of: ticks, starts and ends of attempts, starts and ends of probes. -/

/-- From one session to the next a verdict is stored, if there is one, and noted if it is news. -/
structure Judges (s : Session) (verdict? : Option Verdict) (s' : Session) : Prop where
  stored : s'.accepting = (verdict?.map Verdict.isAccepting).or s.accepting
  noted : s'.acceptances = s.acceptances ++ s.news verdict?

/-- From one session to the next nothing is counted. -/
def Uncounted (s s' : Session) : Prop :=
  s'.ledger.snapshot = { s.ledger.snapshot with accepting := s'.accepting }

/-- **What an action has to do with the probes and with the attempts.** It sets whether the server
accepts connections, and notes it, exactly as the probe says that it brings to its end. If it
churns, it does neither. If not, nothing is counted. -/
structure Isolated (s : Session) (action : Action) : Prop where
  judges : Judges s (s.completion? action) (s.perform action)
  churn : s.churns action = true → (s.perform action).accepting = s.accepting
  probing : s.churns action = false → Uncounted s (s.perform action)

theorem acceptances_note (s : Session) (notices : List ChurnNotice) :
    (s.note notices).acceptances
      = s.acceptances ++ notices.filterMap ChurnNotice.verdict? := by
  simp [note, acceptances]

variable {s s' : Session}

/-- Neither the ledger nor what is noted of verdicts changes. -/
theorem Judges.still (ledger : s'.ledger = s.ledger)
    (acceptances : s'.acceptances = s.acceptances) : Judges s none s' where
  stored := by simp [accepting, ledger]
  noted := by simp [acceptances, news]

theorem Uncounted.still (ledger : s'.ledger = s.ledger) : Uncounted s s' := by
  simp [Uncounted, accepting, ledger]

theorem judges_tick (s : Session) : Judges s none s.tick.1 := by
  obtain ⟨kept, silent⟩ := s.ledger.tick_silent s.now
  have noted := acceptances_note s (s.ledger.tick s.now).2.2
  rw [silent] at noted
  exact ⟨kept, noted⟩

/-- The end of an attempt is no verdict, whatever else changes than the ledger. -/
theorem judges_finish (t : Session) (ledger : t.ledger = s.ledger) (notices : t.notices = s.notices)
    (id : Nat) (ending : Ending) : Judges s none (t.finish id ending) := by
  obtain ⟨kept, silent⟩ := t.ledger.finish_silent id t.now t.settings.attemptTimeout ending
  have noted := acceptances_note t (t.ledger.finish id t.now t.settings.attemptTimeout ending).2
  rw [silent] at noted
  refine ⟨?_, noted.trans ?_⟩
  · exact kept.trans (congrArg (·.counters.accepting) ledger)
  · simp [acceptances, notices, news]

theorem judges_launch (s : Session) (opened : List Nat) (id : Nat) :
    Judges s none (launch { s with opened := opened } id) := by
  unfold launch
  dsimp only
  split
  · exact judges_finish (s := s) { s with opened := opened } rfl rfl id _
  · split
    · exact judges_finish (s := s) { s with opened := opened } rfl rfl id _
    · exact .still rfl rfl

/-- A probe ends: its verdict is stored, and noted if it is news. -/
theorem judges_completeProbe (t : Session) (ledger : t.ledger = s.ledger)
    (notices : t.notices = s.notices) (loop : Option Nat) (verdict : Verdict)
    {fault : List ChurnNotice} (silent : fault.filterMap ChurnNotice.verdict? = []) :
    Judges s (some verdict) (t.completeProbe loop verdict fault) := by
  have noted := acceptances_note t (fault ++ (t.ledger.probed verdict).2)
  rw [List.filterMap_append, silent, List.nil_append] at noted
  refine ⟨rfl, noted.trans ?_⟩
  have fresh : (t.ledger.probed verdict).2.filterMap ChurnNotice.verdict?
      = s.news (some verdict) := by
    rw [ledger]
    exact s.ledger.verdicts_probed verdict
  rw [fresh]
  simp [acceptances, notices]

/-- The end of an attempt is no verdict. -/
theorem judges_endLink (s : Session) (server : Server) (link : Link) (ending : Ending) :
    Judges s none (endLink { s with server := server } link ending) :=
  judges_finish (s := s)
    { s with
      server := server.hangUp link.exchange
      links := s.links.filter (·.attempt ≠ link.attempt) }
    rfl rfl link.attempt ending

/-- The end of a probe is its verdict, and counts nothing. -/
theorem judges_conclude (s : Session) (server : Server) (run : ProbeRun) (verdict : Verdict)
    {fault : List ChurnNotice} (silent : fault.filterMap ChurnNotice.verdict? = []) :
    Judges s (some verdict) (conclude { s with server := server } run verdict fault)
    ∧ Uncounted s (conclude { s with server := server } run verdict fault) := by
  let closed : Session :=
    { s with
      server := server.hangUp run.exchange
      probes := s.probes.filter (·.exchange ≠ run.exchange) }
  exact ⟨judges_completeProbe (s := s) closed rfl rfl run.loop verdict silent, rfl⟩

/-- A probe starts, and its verdict is stored if it has one at once. -/
theorem judges_startProbe (s : Session) (loop : Option Nat) :
    Judges s (s.refusal? loop) (s.startProbe loop).1 ∧ Uncounted s (s.startProbe loop).1 := by
  unfold refusal?
  rcases s.startProbe_cases loop with ⟨fault, ends⟩ | ⟨run, server, -, -, sent⟩
  · rw [ends]
    exact ⟨judges_completeProbe s rfl rfl loop .refused rfl, rfl⟩
  · rw [sent]
    exact ⟨.still rfl rfl, .still rfl⟩

/-! ## What effects have in common -/

namespace Effect

variable {churns : Bool} {verdict? : Option Verdict}

theorem judges (effect : Effect s churns verdict? s') : Judges s verdict? s' := by
  cases effect with
  | still ledger acceptances => exact .still ledger acceptances
  | ticks => exact judges_tick s
  | launches opened id => exact judges_launch s opened id
  | @ends number server touched link ending => exact judges_endLink s server link ending
  | starts loop free => exact (judges_startProbe s loop).1
  | @concludes number server touched run verdict fault silent =>
      exact (judges_conclude s server run verdict silent).1

/-- What happens to an attempt is no verdict. -/
theorem unjudged (effect : Effect s true verdict? s') : verdict? = none := by
  cases effect <;> rfl

/-- What happens to a probe counts nothing. -/
theorem uncounted (effect : Effect s false verdict? s') : Uncounted s s' := by
  cases effect with
  | still ledger => exact .still ledger
  | starts loop free => exact (judges_startProbe s loop).2
  | @concludes number server touched run verdict fault silent =>
      exact (judges_conclude s server run verdict silent).2

/-- At most one probe starts, and none of a loop that has one under way. -/
theorem probes (effect : Effect s churns verdict? s') :
    s'.probes.Sublist s.probes
    ∨ ∃ run, s'.probes = s.probes ++ [run] ∧ ∀ id, run.loop = some id → s.outstanding id = [] := by
  cases effect with
  | still ledger acceptances links probes => exact Or.inl probes
  | ticks => exact Or.inl (.refl _)
  | launches opened id =>
      refine Or.inl ?_
      rw [probes_launch]
  | ends => exact Or.inl (.refl _)
  | starts loop free =>
      rcases s.startProbe_cases loop with ⟨fault, ends⟩ | ⟨run, server, rfl, -, sent⟩
      · rw [ends]
        exact Or.inl (.refl _)
      · rw [sent]
        exact Or.inr ⟨run, rfl, free⟩
  | concludes => exact Or.inl List.filter_sublist

/-- No loop has two probes under way. -/
theorem single (effect : Effect s churns verdict? s')
    (single : ∀ id, (s.outstanding id).length ≤ 1) (id : Nat) :
    (s'.outstanding id).length ≤ 1 := by
  rcases effect.probes with fewer | ⟨run, more, free⟩
  · calc (s'.outstanding id).length
        ≤ (s.outstanding id).length := (fewer.filter _).length_le
      _ ≤ 1 := single id
  · have added : s'.outstanding id
        = s.outstanding id ++ if run.loop = some id then [run] else [] := by
      simp [outstanding, more, List.filter_append, List.filter_singleton]
    rw [added]
    by_cases own : run.loop = some id
    · simp [own, free id own]
    · simpa [own] using single id

end Effect

theorem Numbered.isolated (h : s.Numbered) (action : Action) : s.Isolated action where
  judges := (h.effect action).judges
  churn := by
    intro churns
    have effect := h.effect action
    rw [churns] at effect
    have stored := effect.judges.stored
    rw [effect.unjudged] at stored
    exact stored
  probing := by
    intro churns
    have effect := h.effect action
    rw [churns] at effect
    exact effect.uncounted

/-! ## Runs -/

/-- The probe that ended last says whether the server accepts connections. -/
theorem accepting_performAll (h : s.Numbered) (actions : List Action) :
    (s.performAll actions).accepting
      = ((s.completions actions).getLast?.map Verdict.isAccepting).or s.accepting := by
  induction actions using List.reverseRecOn with
  | nil => rfl
  | append_singleton actions action ih =>
      have last := ((h.performAll actions).isolated action).judges.stored
      rw [performAll_append, completions_concat]
      show ((s.performAll actions).perform action).accepting = _
      rw [last, ih]
      cases (s.performAll actions).completion? action with
      | none => simp
      | some verdict => simp

/-- No loop ever has two probes under way, in whatever order things happen. -/
theorem single_performAll (h : s.Numbered) (single : ∀ id, (s.outstanding id).length ≤ 1)
    (actions : List Action) (id : Nat) : ((s.performAll actions).outstanding id).length ≤ 1 := by
  induction actions generalizing s with
  | nil => exact single id
  | cons action actions ih =>
      have effect := h.effect action
      exact ih (h.apply effect) (effect.single single)

/-- **Probing and churning keep apart.** However the steps of the driver, of the attempts and of
the probes are mixed: the server counts as accepting by the probe that ended last, and neither a
probe that starts nor the churn changes that; it is noted exactly when a probe ends otherwise than
the one before; what the driver counts does not depend on the probes; and no loop has two probes
under way. The steps that a session is taken by are such mixtures. -/
theorem probes_keep_apart (settings : ChurnSettings) (probing : ProbeSettings) (goal : Nat)
    (client : Client) (server : Server) :
    (∀ actions : List Action, ∀ s : Session,
      (start settings probing goal client server).performAll actions = s →
      s.accepting = ((start settings probing goal client server).completions actions).getLast?.map
          Verdict.isAccepting
      ∧ (∀ action, s.Isolated action) ∧ ∀ id, (s.outstanding id).length ≤ 1)
    ∧ ∀ steps : List Step, ∃ actions,
      (start settings probing goal client server).performAll actions
        = (start settings probing goal client server).run steps := by
  have paced := oneByOne_start settings probing goal client server
  have numbered := Numbered.start settings probing goal client server
  refine ⟨?_, exists_performAll_eq_run settings probing goal client server⟩
  rintro actions _ rfl
  refine ⟨?_, (numbered.performAll actions).isolated, ?_⟩
  · rw [accepting_performAll numbered actions]
    exact Option.or_none
  · exact single_performAll numbered paced.single actions

/-- A probe under way says nothing; its alarm does, and the next answer says otherwise. -/
example :
    let s := start {} {} 1 { base := "http://a" } {}
    (s.performAll [.probe, .tick]).accepting = none
    ∧ (s.performAll [.probe, .tick, .alarm (.probe 0), .probe, .launch 0]).accepting = some false
    ∧ (s.performAll [.probe, .tick, .alarm (.probe 0), .probe, .launch 0,
        .command 1 (.head 500)]).acceptances = [.timedOut, .responded] := by
  decide +kernel

end Churn.Session

end StreamLoad
