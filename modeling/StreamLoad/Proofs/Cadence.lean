import StreamLoad.Status
import StreamLoad.Proofs.Benchmark.Cadence
import StreamLoad.Proofs.Churn.Cadence

/-! # The pace of tickers and of the loops that wait for them

A ticker keeps to the grid that its creation and its period span (`KeepsGrid`), whatever the
instants of its polls. A loop runs its body once for each tick that it takes, so every loop of the
program, whether it churns, probes, publishes or reports, runs its body no more often than this
grid has instants since the loop began (`loops_keep_pace`).
-/

set_option autoImplicit false

namespace StreamLoad

open Ticker (Pace)

/-! ## Tickers -/

/-- A ticker keeps to the grid of the instant of its creation and its period. -/
structure Ticker.KeepsGrid (t : Ticker) (period created : Nat) : Prop where
  /-- After any polls the deadline is on the grid, and a poll completes a tick just if the deadline
  has come. If it is missed by more than the tolerance, the next one is ahead, by a period at
  most. -/
  deadline : ∀ polls, ∃ steps deadline, deadline = created + steps * period
    ∧ (t.pollAll polls).deadline? = some deadline
    ∧ (∀ now, (((t.pollAll polls).tick? now).isSome ↔ deadline ≤ now))
    ∧ ∀ now, deadline + tolerance < now → ∃ next,
        ((t.pollAll polls).poll now).deadline? = some next ∧ now < next ∧ next ≤ now + period
  /-- The deadlines of the ticks that are completed increase. -/
  increasing : ∀ polls, (t.completed polls).Pairwise fun a b => a.due < b.due
  /-- The tick of an ordinal is due at the instant of the grid of this ordinal or at a later one,
  and it is not taken before it is due. -/
  behind : ∀ polls index tick, (t.completed polls)[index]? = some tick →
    (∃ steps, index ≤ steps ∧ tick.due = created + steps * period) ∧ tick.due ≤ tick.taken
  /-- As long as some time has not passed since the creation, no more ticks are taken than the grid
  has instants. -/
  bounded : ∀ polls span, ((t.completed polls).filter fun tick => tick.taken ≤ created + span).length
    ≤ span / period + 1

theorem Ticker.keepsGrid_create {period : Nat} (positive : 0 < period) (created : Nat) :
    (create period created).KeepsGrid period created := by
  have paced := paced_create positive created
  have behind : ∀ polls index tick,
      ((create period created).completed polls)[index]? = some tick →
      (∃ steps, index ≤ steps ∧ tick.due = created + steps * period)
        ∧ tick.due ≤ tick.taken := by
    intro polls index tick found
    simpa using paced.tick_of_getElem? found
  refine ⟨fun polls => ?_, fun polls => ?_, behind, fun polls span => ?_⟩
  · obtain ⟨_, steps, -, at_⟩ := paced.pollAll polls
    rw [at_]
    refine ⟨steps, _, rfl, rfl, fun now => isSome_tick?_every, fun now late => ?_⟩
    rw [poll_of_due (by omega)]
    exact ⟨_, rfl, nextDeadline_of_late positive late⟩
  · rw [create, dif_pos positive]
    exact pairwise_due positive polls
  · refine length_filter_le_of_grid positive fun index tick found => ?_
    obtain ⟨⟨steps, fits, grid⟩, order⟩ := behind polls index tick found
    have := Nat.mul_le_mul_right period fits
    omega

/-! ## Reports -/

namespace Status.Report

/-- The report after it has been let run at some instants. -/
def settleAll (r : Report) (render : Nat → String) (instants : List Nat) : Report :=
  instants.foldl (fun r now => (r.settle render now).1) r

/-- A report that runs keeps to the grid of its ticker, and has not rendered more often than the
grid has instants up to the latest one. -/
def OnPace (r : Report) (period began latest : Nat) : Prop :=
  ∃ t, r.ticker = some t ∧ Pace 0 period began r.renders latest [(0, t)]

theorem OnPace.settle {r : Report} {period began latest now : Nat}
    (h : r.OnPace period began latest) (render : Nat → String) (past : now ≤ latest) :
    (r.settle render now).1.OnPace period began latest := by
  obtain ⟨t, runs, pace⟩ := h
  obtain ⟨paced, bounded⟩ := t.takes_takeDue now period began r.renders (pace.paced t (by simp))
  refine ⟨(t.takeDue now).2, by rw [Report.settle, runs]; rfl, ?_⟩
  have renders : (r.settle render now).1.renders = r.renders + (t.takeDue now).1 := by
    rw [Report.settle, runs]
    rfl
  rw [renders]
  refine ⟨fun t' member => ?_, ?_⟩
  · obtain rfl : t' = (t.takeDue now).2 := by simpa using member
    exact paced
  · rcases bounded with none | behind
    · rw [none]
      exact pace.bounded
    · exact Or.inr (by omega)

theorem OnPace.settleAll {period began latest : Nat} (render : Nat → String) {instants : List Nat}
    (past : ∀ now ∈ instants, now ≤ latest) {r : Report} (h : r.OnPace period began latest) :
    (r.settleAll render instants).OnPace period began latest := by
  induction instants generalizing r with
  | nil => exact h
  | cons now instants ih =>
      refine ih (fun later member => past later (List.mem_cons_of_mem now member)) ?_
      exact h.settle render (past now List.mem_cons_self)

/-- A report renders no more often than its ticker has ticks from its first instant. -/
theorem renders_settleAll {r : Report} (new : r.ticker = none) (none : r.renders = 0)
    (positive : 0 < r.interval) (render : Nat → String) {began latest : Nat} {later : List Nat}
    (past : ∀ now ∈ began :: later, now ≤ latest) :
    (r.settleAll render (began :: later)).renders ≤ (latest - began) / r.interval + 1 := by
  let running : Report := { r with ticker := some (.create r.interval began) }
  have begins : running.OnPace r.interval began latest := by
    refine ⟨_, rfl, ?_⟩
    rw [show running.renders = 0 from none]
    refine Pace.mono ?_ (past began List.mem_cons_self) fun _ member => member
    exact Pace.begins positive fun _ => List.not_mem_nil
  -- The report begins to run when it is let run for the first time.
  have same : r.settleAll render (began :: later) = running.settleAll render (began :: later) := by
    simp only [Report.settleAll, List.foldl_cons, Report.settle, running, new, Option.getD]
  obtain ⟨_, -, pace⟩ := begins.settleAll render past
  rw [same]
  exact pace.le positive

end Status.Report

/-! ## The pace of every loop

Churn sessions, benchmarks and status reports have loops, and of each of them it is shown elsewhere
that a run of a body takes a tick of the loop's own ticker. With the grid of the ticker the same
bound comes out for all. -/

/-- A ticker keeps to its grid. So in every session each loop that drives attempts, probes or
drives a benchmark runs its body at most once for each instant of the grid since it began, and a
report renders at most once for each, whenever they are let run. The turns of the loops are the
ticks and the probes that a session carries out, but for those that it is told one by one. -/
theorem loops_keep_pace (period : Nat) (positive : 0 < period) :
    (∀ created, (Ticker.create period created).KeepsGrid period created)
    ∧ (∀ (settings : ChurnSettings) (probing : ProbeSettings) (goal : Nat) (client : Client)
        (server : Server) (before later : List Churn.Session.Step) (began ends : Churn.Session),
        (Churn.Session.start settings probing goal client server).run before = began →
        (settings.interval = period → began.run (.run :: later) = ends →
          (began.turns (.run :: later)).count (.driver began.loops)
            ≤ (ends.now - began.now) / period + 1)
        ∧ (probing.interval = period → began.run (.probeRun :: later) = ends →
          (began.turns (.probeRun :: later)).count (.prober began.loops)
            ≤ (ends.now - began.now) / period + 1)
        ∧ ∀ steps, Churn.Session.Carried began (began.turns steps)
          (steps.filter Churn.Session.Step.isBody) (began.run steps))
    ∧ (∀ (settings : BenchmarkSettings) (client : Client) (server : Server)
        (before later : List Benchmark.Session.Step) (began ends : Benchmark.Session),
        (Benchmark.Session.start settings client server).run before = began →
        (settings.interval = period → began.run (.run :: later) = ends →
          (began.turns (.run :: later)).count began.loopsStarted
            ≤ (ends.now - began.now) / period + 1)
        ∧ ∀ steps, Benchmark.Session.Carried began (began.turns steps)
          (steps.filter Benchmark.Session.Step.isTick) (began.run steps))
    ∧ ∀ (closesAfter : Option Nat) (render : Nat → String) (began ends : Nat) (later : List Nat),
        (∀ now ∈ began :: later, now ≤ ends) →
        (Status.Report.settleAll { interval := period, closesAfter := closesAfter } render
          (began :: later)).renders ≤ (ends - began) / period + 1 := by
  refine ⟨Ticker.keepsGrid_create positive, ?_, ?_, ?_⟩
  · rintro settings probing goal client server before later began ends reached
    obtain ⟨named, same, probes⟩ :=
      Churn.Session.named_run settings probing goal client server before
    have carried := Churn.Session.carried_run settings probing goal client server before
    rw [reached] at named same probes carried
    subst same probes
    refine ⟨?_, ?_, carried⟩
    · rintro rfl rfl
      exact named.driver_rounds positive later
    · rintro rfl rfl
      exact named.prober_rounds positive later
  · rintro settings client server before later began ends reached
    obtain ⟨named, same⟩ := Benchmark.Session.named_run settings client server before
    have carried := Benchmark.Session.carried_run settings client server before
    rw [reached] at named same carried
    refine ⟨?_, carried⟩
    rintro rfl rfl
    rw [← same] at positive ⊢
    exact named.rounds positive later
  · intro closesAfter render began ends later past
    exact Status.Report.renders_settleAll rfl rfl positive render past

/-- Loops of ten milliseconds that are let go on after twenty-five: the driver and the report skip
a tick. -/
theorem loops_keep_pace_delayed :
    let churn := Churn.Session.start { interval := Duration.ofMillis 10 }
      { interval := Duration.ofMillis 10 } 1 { base := "http://a" } {}
    let bench := Benchmark.Session.start { interval := Duration.ofMillis 10 } { base := "http://a" } {}
    let report : Status.Report := { interval := Duration.ofMillis 10, closesAfter := some 1 }
    let late := Duration.ofMillis 25
    (Ticker.create (Duration.ofMillis 10) 0).KeepsGrid (Duration.ofMillis 10) 0
    ∧ (churn.turns [.run, .advance late]).count (.driver 0) = 2
    ∧ (churn.turns [.run, .advance late]).count (.driver 0) ≤ late / Duration.ofMillis 10 + 1
    ∧ (churn.turns [.probeRun, .advance late]).count (.prober 0) ≤ late / Duration.ofMillis 10 + 1
    ∧ (bench.turns [.run, .advance late]).count 0
      ≤ ((bench.run [.run, .advance late]).now - bench.now) / Duration.ofMillis 10 + 1
    ∧ (report.settleAll (fun _ => "") [0, late]).renders = 2
    ∧ (report.settleAll (fun _ => "") [0, late]).renders ≤ late / Duration.ofMillis 10 + 1 := by
  intro churn bench report late
  obtain ⟨grid, churns, benchmarks, reports⟩ := loops_keep_pace (Duration.ofMillis 10) (by decide)
  obtain ⟨drives, -⟩ := churns _ _ 1 { base := "http://a" } {} [] [.advance late] churn
    (churn.run [.run, .advance late]) rfl
  obtain ⟨-, probes, -⟩ := churns _ _ 1 { base := "http://a" } {} [] [.advance late] churn
    (churn.run [.probeRun, .advance late]) rfl
  have drives := drives rfl rfl
  have probes := probes rfl rfl
  have driven : (churn.run [.run, .advance late]).now = late := by decide +kernel
  have probed : (churn.run [.probeRun, .advance late]).now = late := by decide +kernel
  rw [driven, show churn.now = 0 from rfl, Nat.sub_zero] at drives
  rw [probed, show churn.now = 0 from rfl, Nat.sub_zero] at probes
  refine ⟨grid 0, by decide +kernel, drives, probes, ?_, by decide +kernel, ?_⟩
  · exact (benchmarks _ { base := "http://a" } {} [] [.advance late] bench _ rfl).1 rfl rfl
  · have renders := reports (some 1) (fun _ => "") 0 late [late] (by simp)
    rwa [Nat.sub_zero] at renders

end StreamLoad
