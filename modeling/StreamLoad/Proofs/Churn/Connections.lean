import StreamLoad.Proofs.Churn.Deadlines
import StreamLoad.Proofs.Churn.Wiring

/-! # No leaked connections

A session that has settled has one open stream at the server for each attempt under way, and each
of these attempts was opened less than the time allowed ago (`Connected`). So when no attempt is
opened any more, the attempts of a state are gone once that time has passed, and their streams
with them.
-/

set_option autoImplicit false

namespace StreamLoad.Churn.Session

open ChurnLedger (Operation)

/-! ## What settled sessions keep

The first three parts of `Settled` are kept by every move, and the last two are brought about by
settling: no attempt waits to start, and none has run out of time. A step ends by settling, so all
of them hold again after it. -/

/-- What holds of a session each time it has settled. -/
structure Settled (s : Session) : Prop where
  matched : s.Matched
  wired : s.Wired
  timed : s.Timed
  opened : s.opened = []
  fresh : s.Fresh

/-- A session starts without attempts at a server without exchanges. -/
theorem settled_start (settings : ChurnSettings) (probing : ProbeSettings) (goal : Nat)
    (client : Client) (accepting : Bool) (prompt : Prompt) :
    (start settings probing goal client { accepting := accepting, prompt := prompt }).Settled where
  matched := matched_start settings probing goal client _
  wired := ⟨List.nodup_nil, by simp [start], by simp [start], by simp [start]⟩
  timed := by
    refine ⟨?_, ?_, ?_⟩ <;> intro a ha <;> cases ha
  opened := rfl
  fresh := by
    intro link hl
    cases hl

namespace Settled

variable {s : Session}

theorem step (h : s.Settled) (positive : 0 < s.settings.attemptTimeout) (step : Step) :
    (s.step step).1.Settled ∧ (s.step step).1.settings = s.settings
    ∧ (s.step step).1.now = s.now + step.time := by
  obtain ⟨ops, moves⟩ := leads_step s step
  obtain ⟨settings, -, now⟩ := moves.frame
  -- The time of the step passes while no attempt waits to start.
  have matched : ({ s with now := s.now + step.time } : Session).Matched :=
    h.matched.congr rfl rfl rfl
  have wired : ({ s with now := s.now + step.time } : Session).Wired :=
    h.wired.congr rfl rfl rfl rfl fun _ hr => hr
  have timed : ({ s with now := s.now + step.time } : Session).Timed := by
    refine ⟨fun a ha => ?_, fun a _ waits => ?_, h.timed.running⟩
    · exact Nat.le_add_right_of_le (h.timed.past a ha)
    · dsimp only at waits
      rw [h.opened] at waits
      cases waits
  -- What a step ends with settles the session, whatever came before in the step.
  obtain ⟨y, settles⟩ := exists_settle s step
  have opened : (s.step step).1.opened = [] := by
    rw [settles]
    exact opened_settle y
  have fresh : (s.step step).1.Fresh := by
    obtain ⟨later, after⟩ := leads_settle y
    have same : y.settings = s.settings := by
      rw [← after.frame.1, ← settles]
      exact settings
    rw [settles]
    exact fresh_settle (same ▸ positive)
  exact ⟨⟨moves.matched matched, moves.wired wired matched, moves.timed timed matched, opened,
    fresh⟩, settings, now⟩

theorem run (h : s.Settled) (positive : 0 < s.settings.attemptTimeout) (steps : List Step) :
    (s.run steps).Settled ∧ (s.run steps).settings = s.settings := by
  induction steps generalizing s with
  | nil => exact ⟨h, rfl⟩
  | cons step steps ih =>
      obtain ⟨settled, settings, -⟩ := h.step positive step
      obtain ⟨last, same⟩ := ih settled (settings.symm ▸ positive)
      exact ⟨last, same.trans settings⟩

/-- Every attempt under way runs. -/
theorem attempts (h : s.Settled) : (s.links.map (·.attempt)).Perm s.ledger.registry.ids := by
  have attempts := h.matched.attempts
  rwa [h.opened, List.nil_append] at attempts

/-- Every attempt under way was opened less than the time allowed ago. -/
theorem recent (h : s.Settled) {a : Attempt} (ha : a ∈ s.ledger.registry.attempts) :
    a.openedAt ≤ s.now ∧ s.now < a.openedAt + s.settings.attemptTimeout := by
  have named : a.id ∈ s.links.map (·.attempt) :=
    h.attempts.mem_iff.mpr (List.mem_map_of_mem ha)
  obtain ⟨link, hl, same⟩ := List.mem_map.mp named
  refine ⟨h.timed.past a ha, ?_⟩
  calc s.now < link.alarm.due := h.fresh link hl
    _ = a.openedAt + s.settings.attemptTimeout := h.timed.running link hl a ha same.symm

end Settled

/-! ## Attempts and connections -/

/-- The attempts under way and the open streams at the server belong together one to one, by the
links of the session, and the attempts are recent. -/
structure Connected (s : Session) : Prop where
  attempts : (s.links.map (·.attempt)).Perm s.ledger.registry.ids
  attempts_nodup : s.ledger.registry.ids.Nodup
  streams : (s.links.map (·.exchange)).Perm s.server.openStreams
  streams_nodup : s.server.openStreams.Nodup
  /-- The requests for a stream are those that the client subscribes with. -/
  subscribed : ∀ e ∈ s.server.exchanges, e.request.asksStream = true →
    s.client.subscribe s.settings.method = .ok e.request
  recent : ∀ a ∈ s.ledger.registry.attempts,
    a.openedAt ≤ s.now ∧ s.now < a.openedAt + s.settings.attemptTimeout

theorem Settled.connected {s : Session} (h : s.Settled) : s.Connected where
  attempts := h.attempts
  attempts_nodup := h.matched.orderly.nodup
  streams := h.wired.perm_openStreams
  streams_nodup := Server.nodup_numbersWhere _ _
  subscribed := by
    intro e he asks
    obtain ⟨number, found⟩ := List.mem_iff_getElem?.mp he
    exact (h.wired.streams number e found asks).1
  recent := fun _ ha => h.recent ha

/-- Attempts that were opened the time allowed ago, or earlier, are gone. -/
theorem Settled.drained {s : Session} (h : s.Settled) (positive : 0 < s.settings.attemptTimeout)
    (later : List Step)
    (closed : (s.run later).ledger.registry.opened = s.ledger.registry.opened)
    (passed : s.now + s.settings.attemptTimeout ≤ (s.run later).now) :
    (s.run later).ledger.registry.attempts = [] := by
  obtain ⟨settled, settings⟩ := h.run positive later
  obtain ⟨ops, performs⟩ := exists_performs s later
  obtain ⟨-, ledger, -⟩ := performs.legal h.matched
  -- An attempt left over is one of the old ones, and too old to have time left.
  refine List.eq_nil_iff_forall_not_mem.mpr fun a ha => ?_
  have issued : a.id < s.ledger.registry.opened := by
    rw [← closed]
    exact settled.matched.orderly.issued a ha
  have time := (settled.recent ha).2
  rw [ledger] at ha
  have past := h.timed.past a (s.ledger.attempts_run ops ha issued)
  rw [settings] at time
  omega

/-- **No connection is leaked.** Each time a session has settled, the streams open at the server
are those of the attempts under way, one for one, and each attempt was opened less than the time
allowed ago. Hence, when no attempt is opened any more and that time has passed, no attempt is
under way and no stream is open. -/
theorem connections_follow_attempts (settings : ChurnSettings) (probing : ProbeSettings)
    (goal : Nat) (client : Client) (accepting : Bool) (prompt : Prompt)
    (positive : 0 < settings.attemptTimeout) (steps later : List Step) :
    let s := (start settings probing goal client
      { accepting := accepting, prompt := prompt }).run steps
    s.Connected
    ∧ ((s.run later).ledger.registry.opened = s.ledger.registry.opened →
      s.now + settings.attemptTimeout ≤ (s.run later).now →
      (s.run later).ledger.registry.inFlight = 0 ∧ (s.run later).server.openStreams = []) := by
  intro s
  obtain ⟨settled, same⟩ : s.Settled ∧ s.settings = settings :=
    (settled_start settings probing goal client accepting prompt).run positive steps
  refine ⟨settled.connected, fun closed passed => ?_⟩
  rw [← same] at positive passed
  have none := settled.drained positive later closed passed
  have connected := (settled.run positive later).1.connected
  have ids : (s.run later).ledger.registry.ids = [] := by rw [Registry.ids, none, List.map_nil]
  have links : (s.run later).links = [] := by
    have attempts := connected.attempts
    rw [ids] at attempts
    exact List.map_eq_nil_iff.mp attempts.eq_nil
  have streams := connected.streams
  rw [links, List.map_nil] at streams
  refine ⟨?_, streams.symm.eq_nil⟩
  rw [← Registry.length_ids, ids, List.length_nil]

/-- Two attempts of different age, at a server that does not answer them. -/
def stalled : Session :=
  (start { attemptTimeout := 5 } {} 1 { base := "http://a" } {}).run [.tick, .advance 2, .tick]

theorem connections_follow_attempts_stalled :
    stalled.server.openStreams = [0, 1]
    ∧ stalled.Connected
    ∧ (stalled.run [.advance 3, .advance 4]).ledger.registry.opened = stalled.ledger.registry.opened
    ∧ stalled.now + 5 ≤ (stalled.run [.advance 3, .advance 4]).now
    ∧ (stalled.run [.advance 3, .advance 4]).ledger.registry.inFlight = 0
    ∧ (stalled.run [.advance 3, .advance 4]).server.openStreams = [] := by
  obtain ⟨connected, drained⟩ := connections_follow_attempts { attemptTimeout := 5 } {} 1
    { base := "http://a" } true .never (by decide) [.tick, .advance 2, .tick]
    [.advance 3, .advance 4]
  have closed : (stalled.run [.advance 3, .advance 4]).ledger.registry.opened
    = stalled.ledger.registry.opened := by decide +kernel
  have passed : stalled.now + 5 ≤ (stalled.run [.advance 3, .advance 4]).now := by decide +kernel
  exact ⟨by decide +kernel, connected, closed, passed, drained closed passed⟩

end StreamLoad.Churn.Session
