import StreamLoad.Proofs.Benchmark.Delivery
import StreamLoad.Proofs.Benchmark.Phases
import StreamLoad.Proofs.Benchmark.Sessions
import StreamLoad.Proofs.Churn.Accounting

/-! # Metrics that agree with what is counted

The metrics are a second account of a session. They are kept beside the counters, the registry and
the phase machine, each at a place and under a condition of its own, and listed by name. Every
operation keeps both accounts together (`Mirrored`), so that what is listed is what the snapshot
shows (`metrics_agree`).
-/

set_option autoImplicit false

namespace StreamLoad

/-! ## Looking up metrics

Metrics are listed by name, and counters once for each of their labels. To read off what a list says
of a metric is to go through names and compare them, which these lemmas do once for every kind of
entry. -/

namespace MetricList

/-- The reading listed under a name. -/
def reading? (list : MetricList) (name : String) : Option Reading := list.lookup name

/-- The name of a metric without its labels. -/
def unlabelled (name : String) : String :=
  String.ofList (name.toList.takeWhile (· ≠ Char.ofNat 0x7B))

/-- The sum of a counter over all of its labels. A counter that is not listed is at zero. -/
def total : MetricList → String → Nat
  | [], _ => 0
  | (name, .count n) :: rest, metric =>
      (if unlabelled name = metric then n else 0) + total rest metric
  | (_, .time _) :: rest, metric => total rest metric

variable {name metric : String}

theorem total_append (list more : MetricList) (metric : String) :
    total (list ++ more) metric = list.total metric + total more metric := by
  induction list with
  | nil => exact (Nat.zero_add _).symm
  | cons entry list ih =>
      obtain ⟨name, reading⟩ := entry
      cases reading with
      | count n =>
          show _ + total (list ++ more) metric = _ + total list metric + total more metric
          rw [ih, Nat.add_assoc]
      | time length => exact ih

theorem total_counter (name metric : String) (n : Nat) :
    (counter name n).total metric = if unlabelled name = metric then n else 0 := by
  by_cases h : n = 0 <;> simp [counter, total, h]

theorem total_gauge (other : unlabelled name ≠ metric) (value : Option Nat) :
    (gauge name value).total metric = 0 := by
  cases value <;> simp [gauge, total, other]

theorem total_timeGauge (name metric : String) (length : Option Nat) :
    (timeGauge name length).total metric = 0 := by
  cases length <;> rfl

/-- A label begins with a brace, which no name holds. -/
theorem unlabelled_append {name label : String} (plain : Char.ofNat 0x7B ∉ name.toList)
    (marked : label.toList.head? = some (Char.ofNat 0x7B)) : unlabelled (name ++ label) = name := by
  obtain ⟨rest, marked⟩ := List.head?_eq_some_iff.mp marked
  have before : ∀ c ∈ name.toList, decide (c ≠ Char.ofNat 0x7B) = true := by
    intro c hc
    rw [decide_eq_true_iff]
    rintro rfl
    exact plain hc
  rw [unlabelled, String.toList_append, marked, List.takeWhile_append_of_pos before,
    List.takeWhile_cons_of_neg (by decide), List.append_nil, String.ofList_toList]

theorem reading?_append (list more : MetricList) (name : String) :
    reading? (list ++ more) name = (list.reading? name).or (reading? more name) :=
  List.lookup_append

theorem reading?_singleton (name metric : String) (reading : Reading) :
    reading? [(name, reading)] metric = if metric = name then some reading else none := by
  by_cases h : metric = name
  · subst h
    simp [reading?]
  · have other : (metric == name) = false := by simpa using h
    simp [reading?, List.lookup_cons, other, h]

theorem reading?_counter (other : metric ≠ name) (n : Nat) :
    (counter name n).reading? metric = none := by
  unfold counter
  split
  · rfl
  · rw [reading?_singleton, if_neg other]

theorem reading?_gauge (name metric : String) (value : Option Nat) :
    (gauge name value).reading? metric
      = if metric = name then value.map Reading.count else none := by
  cases value with
  | none => simp [gauge, reading?]
  | some n => exact reading?_singleton name metric _

theorem reading?_timeGauge (name metric : String) (length : Option Nat) :
    (timeGauge name length).reading? metric
      = if metric = name then length.map Reading.time else none := by
  cases length with
  | none => simp [timeGauge, reading?]
  | some n => exact reading?_singleton name metric _

end MetricList

open MetricList

namespace ChurnMetrics

/-- Failures of all kinds have one name, each with its kind for a label. -/
theorem unlabelled_failuresName (kind : String) :
    unlabelled (failuresName kind) = "sseload_churn_failures_total" := by
  have split : failuresName kind
      = "sseload_churn_failures_total" ++ ("\x7bkind=\x22" ++ kind ++ "\x22\x7d") := by
    rw [← String.append_assoc, ← String.append_assoc]
    rfl
  rw [split]
  refine unlabelled_append (by decide) ?_
  rw [String.append_assoc, String.toList_append]
  rfl

/-- What the counters among the metrics of churning add up to. -/
theorem total_list (m : ChurnMetrics) {metric : String}
    (counts : metric ∉ ["sseload_churn_in_flight", "sseload_probe_accepting"]) :
    m.list.total metric
      = (if "sseload_churn_attempts_total" = metric then m.attempts else 0)
        + (if "sseload_churn_dropped_total" = metric then m.dropped else 0)
        + (if "sseload_churn_failures_total" = metric then m.failures else 0) := by
  have plain : ∀ name ∈ ["sseload_churn_attempts_total", "sseload_churn_dropped_total",
      "sseload_churn_in_flight", "sseload_probe_accepting"], unlabelled name = name := by
    decide
  simp only [List.forall_mem_cons] at plain
  obtain ⟨attempts, dropped, inFlight, accepting, -⟩ := plain
  simp only [List.mem_cons, List.not_mem_nil, or_false, not_or] at counts
  rw [list]
  simp only [total_append, total_counter, unlabelled_failuresName, attempts, dropped]
  rw [total_gauge (by rw [inFlight]; exact Ne.symm counts.1),
    total_gauge (by rw [accepting]; exact Ne.symm counts.2), failures]
  by_cases failed : "sseload_churn_failures_total" = metric
  · simp only [if_pos failed]
    omega
  · simp only [if_neg failed, Nat.add_zero]

theorem total_attempts (m : ChurnMetrics) :
    m.list.total "sseload_churn_attempts_total" = m.attempts := by
  rw [total_list m (by decide)]
  simp

theorem total_dropped (m : ChurnMetrics) :
    m.list.total "sseload_churn_dropped_total" = m.dropped := by
  rw [total_list m (by decide)]
  simp

theorem total_failures (m : ChurnMetrics) :
    m.list.total "sseload_churn_failures_total" = m.failures := by
  rw [total_list m (by decide)]
  simp

theorem reading?_inFlight (m : ChurnMetrics) :
    m.list.reading? "sseload_churn_in_flight" = m.inFlight.map Reading.count := by
  simp +decide [list, reading?_append, reading?_counter, reading?_gauge]

end ChurnMetrics

namespace BenchmarkMetrics

theorem total_cycles (m : BenchmarkMetrics) :
    m.list.total "sseload_bench_cycles_total" = m.cycles := by
  simp +decide [list, total_append, total_counter, total_gauge, total_timeGauge]

theorem reading?_connected (m : BenchmarkMetrics) :
    m.list.reading? "sseload_bench_connected" = m.connected.map Reading.count := by
  simp +decide [list, reading?_append, reading?_counter, reading?_gauge, reading?_timeGauge]

theorem reading?_connectionTime (m : BenchmarkMetrics) :
    m.list.reading? "sseload_bench_connection_ms" = m.connectionTime.map Reading.time := by
  simp +decide [list, reading?_append, reading?_counter, reading?_gauge, reading?_timeGauge]

theorem reading?_broadcastTime (m : BenchmarkMetrics) :
    m.list.reading? "sseload_bench_broadcast_ms" = m.broadcastTime.map Reading.time := by
  simp +decide [list, reading?_append, reading?_counter, reading?_gauge, reading?_timeGauge]

end BenchmarkMetrics

/-! ## Both accounts of a churn session

Gauges are set at certain moments and keep their values in between, counters are raised where
something is counted. `Mirrored` says what each of them shows between any two operations, and the
conditions under which a gauge is listed at all. -/

namespace ChurnLedger

/-- The metrics of a ledger say what its registry and its counters hold. -/
structure Mirrored (l : ChurnLedger) : Prop where
  attempts : l.metrics.attempts = l.registry.opened
  dropped : l.metrics.dropped = l.counters.dropped
  failures : l.metrics.failures = l.counters.failed
  /-- The gauge is set with the first attempt. -/
  inFlight : l.metrics.inFlight
    = if l.registry.opened = 0 then none else some l.registry.inFlight

theorem mirrored_empty (goal maxInFlight : Nat) : (empty goal maxInFlight).Mirrored :=
  ⟨rfl, rfl, rfl, rfl⟩

/-- A failure is counted by its kind and by no other. -/
theorem failures_countFailure (m : ChurnMetrics) (kind : FailureKind) :
    (m.countFailure kind).failures = m.failures + 1 := by
  cases kind <;> simp only [ChurnMetrics.countFailure, ChurnMetrics.failures] <;> omega

namespace Mirrored

variable {l : ChurnLedger}

theorem tick (h : l.Mirrored) (now : Nat) : (l.tick now).1.Mirrored := by
  rcases l.tick_cases now with ⟨-, same, -⟩ | ⟨-, -, same, -⟩ | ⟨short, room, -⟩
  · rw [same]
    exact ⟨h.attempts, h.dropped, h.failures, h.inFlight⟩
  · rw [same]
    exact h
  · rw [tick_of_open short room now]
    exact ⟨congrArg (· + 1) h.attempts, h.dropped, h.failures, rfl⟩

/-- An attempt under way ends. -/
theorem finish (h : l.Mirrored) (opened : 0 < l.registry.opened) (id now timeout : Nat)
    (ending : Ending) : (l.finish id now timeout ending).1.Mirrored := by
  have set : some (l.registry.erase id).inFlight
      = if (l.registry.erase id).opened = 0 then none else some (l.registry.erase id).inFlight :=
    (if_neg (Nat.ne_of_gt opened)).symm
  cases fails : ending.kind? with
  | some kind =>
      rw [finish_of_kind fails]
      have counted := failures_countFailure l.metrics kind
      cases kind <;>
        exact ⟨h.attempts, h.dropped, counted.trans (congrArg (· + 1) h.failures), set⟩
  | none =>
      obtain rfl : ending = .greeted := Ending.eq_greeted fails
      rw [finish_greeted]
      split
      · exact ⟨h.attempts, congrArg (· + 1) h.dropped, h.failures, set⟩
      · exact ⟨h.attempts, h.dropped, h.failures, set⟩

theorem apply (h : l.Mirrored) (orderly : l.registry.Orderly) {op : Operation}
    (possible : op.Possible l) : (l.apply op).Mirrored := by
  cases op with
  | tick now => exact h.tick now
  | finish id now timeout ending =>
      have issued := orderly.lt_opened (possible id rfl)
      exact h.finish (Nat.zero_lt_of_lt issued) id now timeout ending
  | probed verdict => exact ⟨h.attempts, h.dropped, h.failures, h.inFlight⟩

theorem run {goal maxInFlight : Nat} {ended : List Attempt} {ops : List Operation}
    (h : l.Mirrored) (kept : Kept goal maxInFlight l ended) (legal : l.Legal ops) :
    (l.run ops).Mirrored := by
  induction ops generalizing l ended with
  | nil => exact h
  | cons op ops ih => exact ih (h.apply kept.orderly legal.1) (kept.apply legal.1) legal.2

end Mirrored

/-- The metrics that a churn session lists agree with its snapshot. -/
structure Agrees (metrics : MetricList) (snapshot : ChurnSnapshot) : Prop where
  attempts : metrics.total "sseload_churn_attempts_total" = snapshot.attempts
  dropped : metrics.total "sseload_churn_dropped_total" = snapshot.dropped
  failures : metrics.total "sseload_churn_failures_total" = snapshot.failed
  /-- The gauge is listed once an attempt has been opened. -/
  inFlight : metrics.reading? "sseload_churn_in_flight"
    = if snapshot.attempts = 0 then none else some (.count snapshot.inFlight)

theorem Mirrored.agrees {l : ChurnLedger} (h : l.Mirrored) : Agrees l.metrics.list l.snapshot where
  attempts := l.metrics.total_attempts.trans h.attempts
  dropped := l.metrics.total_dropped.trans h.dropped
  failures := l.metrics.total_failures.trans h.failures
  inFlight := by
    rw [ChurnMetrics.reading?_inFlight, h.inFlight]
    show _ = if l.registry.opened = 0 then none else some (Reading.count l.registry.inFlight)
    split <;> rfl

end ChurnLedger

/-! ## The times and cycles of a tick -/

/-- A stopwatch keeps the last interval unless it measures a new one. -/
theorem Stopwatch.last_stop (w : Stopwatch) (now : Nat) :
    (w.stop now).1.last.or w.last = (w.stop now).1.last := by
  rw [last_stop_eq, Option.or_assoc, Option.or_self]

namespace PhaseMachine

variable {m : PhaseMachine}

/-- The time of the connecting changes only with the tick that publishes the first cycle, and is
not lost then. -/
theorem connectionTime_tick (h : m.Consistent) (now : Nat) :
    (m.tick now).machine.connectionTime.or m.connectionTime = (m.tick now).machine.connectionTime
    ∧ ((m.tick now).publish ≠ some 1 →
      (m.tick now).machine.connectionTime = m.connectionTime) := by
  rcases m.tick_cases now with ⟨-, same, -⟩ | ⟨-, done, -⟩ | ⟨due, -, -⟩
  · rw [same]
    exact ⟨Option.or_self, fun _ => rfl⟩
  · rw [done]
    exact ⟨Option.or_self, fun _ => rfl⟩
  · obtain ⟨next, publish⟩ := tick_of_isDue due now
    have time : (m.tick now).machine.connectionTime
        = (if m.phase = .connecting then (m.connection.stop now).1 else m.connection).last := by
      rw [next]
      split <;> rfl
    rw [time, publish]
    by_cases connecting : m.phase = .connecting
    · rw [if_pos connecting, (h.connecting connecting).1]
      exact ⟨m.connection.last_stop now, fun later => absurd rfl later⟩
    · rw [if_neg connecting]
      exact ⟨Option.or_self, fun _ => rfl⟩

/-- A tick completes one cycle at most, and the time of the last one changes only with it. -/
theorem cyclesCompleted_tick (h : m.Consistent) (now : Nat) :
    ((m.tick now).machine.cyclesCompleted = m.cyclesCompleted
      ∧ (m.tick now).machine.broadcastTime = m.broadcastTime)
    ∨ ((m.tick now).machine.cyclesCompleted = m.cyclesCompleted + 1
      ∧ (m.tick now).machine.broadcastTime.or m.broadcastTime
        = (m.tick now).machine.broadcastTime) := by
  rcases m.tick_cases now with ⟨-, same, -⟩ | ⟨⟨waits, -⟩, done, -⟩ | ⟨due, -, -⟩
  · exact Or.inl (by simp [same])
  · right
    rw [done]
    have completed := m.broadcast.completed_stop now
    rw [(h.waiting waits).2] at completed
    exact ⟨completed, m.broadcast.last_stop now⟩
  · rw [(tick_of_isDue due now).1]
    split
    · have completed := (m.broadcast.start now).completed_stop now
      exact Or.inr ⟨completed, (m.broadcast.start now).last_stop now⟩
    · exact Or.inl ⟨rfl, rfl⟩

end PhaseMachine

/-! ## Both accounts of a benchmark -/

namespace BenchmarkLedger

/-- The metrics of a ledger say what its phase machine holds. -/
structure Mirrored (l : BenchmarkLedger) : Prop where
  consistent : l.machine.Consistent
  cycles : l.metrics.cycles = l.machine.cyclesCompleted
  /-- The gauge is set with the first greeting. -/
  connected : l.metrics.connected
    = if l.machine.connected = 0 then none else some l.machine.connected
  connectionTime : l.metrics.connectionTime = l.machine.connectionTime
  broadcastTime : l.metrics.broadcastTime = l.machine.broadcastTime

theorem mirrored_empty (message : String) (size : Nat) : (empty message size).Mirrored :=
  ⟨PhaseMachine.consistent_fresh size, rfl, rfl, rfl, rfl⟩

/-- What a tick leaves in each of the metrics. -/
theorem metricsAfter_eq (m : BenchmarkMetrics) (before after : PhaseMachine)
    (publish : Option Nat) :
    (metricsAfter m before after publish).cycles
        = (if before.cyclesCompleted < after.cyclesCompleted then m.cycles + 1 else m.cycles)
      ∧ (metricsAfter m before after publish).connected = m.connected
      ∧ (metricsAfter m before after publish).connectionTime
        = (if publish = some 1 then after.connectionTime.or m.connectionTime
          else m.connectionTime)
      ∧ (metricsAfter m before after publish).broadcastTime
        = (if before.cyclesCompleted < after.cyclesCompleted
          then after.broadcastTime.or m.broadcastTime else m.broadcastTime) := by
  by_cases more : before.cyclesCompleted < after.cyclesCompleted <;>
    by_cases first : publish = some 1 <;> simp [metricsAfter, more, first]

namespace Mirrored

variable {l : BenchmarkLedger}

theorem tick (h : l.Mirrored) (now : Nat) : (l.tick now).1.Mirrored := by
  obtain ⟨kept, unchanged⟩ := PhaseMachine.connectionTime_tick h.consistent now
  obtain ⟨cycles, connected, connectionTime, broadcastTime⟩ := metricsAfter_eq l.metrics l.machine
    (l.machine.tick now).machine (l.machine.tick now).publish
  have greeted : (l.tick now).1.machine.connected = l.machine.connected :=
    l.machine.connected_tick now
  have completed := PhaseMachine.cyclesCompleted_tick h.consistent now
  refine ⟨h.consistent.tick now, cycles.trans ?_, connected.trans ?_, connectionTime.trans ?_,
    broadcastTime.trans ?_⟩
  · show _ = (l.machine.tick now).machine.cyclesCompleted
    rw [h.cycles]
    rcases completed with ⟨same, -⟩ | ⟨more, -⟩
    · rw [if_neg (by omega), same]
    · rw [if_pos (by omega), more]
  · simp only [greeted]
    exact h.connected
  · show _ = (l.machine.tick now).machine.connectionTime
    rw [h.connectionTime, kept]
    split
    · rfl
    · next later => exact (unchanged later).symm
  · show _ = (l.machine.tick now).machine.broadcastTime
    rw [h.broadcastTime]
    rcases completed with ⟨same, time⟩ | ⟨more, time⟩
    · rw [if_neg (by omega), time]
    · rw [if_pos (by omega), time]

/-- A greeting sets the gauge to the count of members that it is counted in. -/
theorem welcome (h : l.Mirrored) (id : Nat) : (l.welcome id).Mirrored := by
  rw [welcome_eq]
  split
  · exact ⟨h.consistent.apply .connect, h.cycles, rfl, h.connectionTime, h.broadcastTime⟩
  · exact h

theorem deliver (h : l.Mirrored) (id cycle : Nat) : (l.deliver id cycle).Mirrored := by
  rw [deliver_eq]
  split
  · next due =>
      have waits := h.consistent.waiting due.1
      have consistent : PhaseMachine.Consistent
          { l.machine with messages := l.machine.messages + 1 } :=
        ⟨fun hp => absurd (due.1.symm.trans hp) (by decide),
          fun hp => absurd (due.1.symm.trans hp) (by decide), fun _ => waits⟩
      exact ⟨consistent, h.cycles, h.connected, h.connectionTime, h.broadcastTime⟩
  · exact h

theorem apply {size : Nat} (h : l.Mirrored) (op : Operation size) : (l.apply op).Mirrored := by
  cases op with
  | start now =>
      -- The start of the timing is no time yet.
      have time : (l.machine.start now).connectionTime = l.machine.connectionTime := by
        unfold PhaseMachine.start
        split <;> rfl
      have others : (l.machine.start now).connected = l.machine.connected
          ∧ (l.machine.start now).broadcast = l.machine.broadcast := by
        unfold PhaseMachine.start
        split <;> exact ⟨rfl, rfl⟩
      refine ⟨h.consistent.apply (.start now), ?_, ?_, h.connectionTime.trans time.symm, ?_⟩
      · exact h.cycles.trans (congrArg Stopwatch.completed others.2).symm
      · simp only [BenchmarkLedger.apply, BenchmarkLedger.start, others.1]
        exact h.connected
      · exact h.broadcastTime.trans (congrArg Stopwatch.last others.2).symm
  | tick now => exact h.tick now
  | receive id event =>
      cases event with
      | welcome => exact h.welcome id
      | ping => exact h
      | data payload =>
          simp only [BenchmarkLedger.apply, receive]
          split
          · exact h.deliver id _
          · exact h
  | refuse id failure =>
      exact ⟨h.consistent, h.cycles, h.connected, h.connectionTime, h.broadcastTime⟩
  | lose id failure =>
      simp only [BenchmarkLedger.apply, lose]
      split
      · exact h
      · exact ⟨h.consistent, h.cycles, h.connected, h.connectionTime, h.broadcastTime⟩

theorem run {size : Nat} (h : l.Mirrored) (ops : List (Operation size)) : (l.run ops).Mirrored := by
  induction ops generalizing l with
  | nil => exact h
  | cons op ops ih => exact ih (h.apply op)

end Mirrored

/-- The metrics that a benchmark lists agree with its phase machine and its snapshot. -/
structure Agrees (metrics : MetricList) (machine : PhaseMachine) (snapshot : BenchmarkSnapshot) :
    Prop where
  cycles : metrics.total "sseload_bench_cycles_total" = snapshot.cyclesCompleted
  /-- The gauge is listed once a member has seen its greeting. -/
  connected : metrics.reading? "sseload_bench_connected"
    = if snapshot.connected = 0 then none else some (.count snapshot.connected)
  connectionTime : metrics.reading? "sseload_bench_connection_ms"
    = machine.connectionTime.map Reading.time
  connectionMillis : snapshot.connectionMillis = machine.connectionTime.map Duration.millis64
  broadcastTime : metrics.reading? "sseload_bench_broadcast_ms"
    = machine.broadcastTime.map Reading.time
  broadcastMillis : snapshot.broadcastMillis = machine.broadcastTime.map Duration.millis64

theorem Mirrored.agrees {l : BenchmarkLedger} (h : l.Mirrored) :
    Agrees l.metrics.list l.machine l.snapshot where
  cycles := l.metrics.total_cycles.trans h.cycles
  connected := by
    rw [BenchmarkMetrics.reading?_connected, h.connected]
    show _ = if l.machine.connected = 0 then none else some (Reading.count l.machine.connected)
    split <;> rfl
  connectionTime := by rw [BenchmarkMetrics.reading?_connectionTime, h.connectionTime]
  connectionMillis := rfl
  broadcastTime := by rw [BenchmarkMetrics.reading?_broadcastTime, h.broadcastTime]
  broadcastMillis := rfl

end BenchmarkLedger

/-! ## The metrics of a session -/

/-- **The metrics agree with the snapshot.** In every state of a churn session and of a benchmark,
and of the ledger of either in whatever order its tasks act, each metric that is listed says what
the snapshot shows, and one that is not listed yet stands for a count of zero or for a time not
yet measured. -/
theorem metrics_agree :
    (∀ (goal maxInFlight : Nat) (ops : List ChurnLedger.Operation),
      (ChurnLedger.empty goal maxInFlight).Legal ops →
      let l := (ChurnLedger.empty goal maxInFlight).run ops
      ChurnLedger.Agrees l.metrics.list l.snapshot)
    ∧ (∀ (settings : ChurnSettings) (probing : ProbeSettings) (goal : Nat) (client : Client)
        (server : Server) (steps : List Churn.Session.Step),
      let l := ((Churn.Session.start settings probing goal client server).run steps).ledger
      ChurnLedger.Agrees l.metrics.list l.snapshot)
    ∧ (∀ (message : String) (size : Nat) (ops : List (BenchmarkLedger.Operation size)),
      let l := (BenchmarkLedger.empty message size).run ops
      BenchmarkLedger.Agrees l.metrics.list l.machine l.snapshot)
    ∧ ∀ (settings : BenchmarkSettings) (client : Client) (server : Server)
        (steps : List Benchmark.Session.Step),
      let l := ((Benchmark.Session.start settings client server).run steps).ledger
      BenchmarkLedger.Agrees l.metrics.list l.machine l.snapshot := by
  have churn (goal maxInFlight : Nat) {ops : List ChurnLedger.Operation}
      (legal : (ChurnLedger.empty goal maxInFlight).Legal ops) :
      ((ChurnLedger.empty goal maxInFlight).run ops).Mirrored :=
    (ChurnLedger.mirrored_empty goal maxInFlight).run (ChurnLedger.kept_empty goal maxInFlight)
      legal
  have benchmark (message : String) (size : Nat) (ops : List (BenchmarkLedger.Operation size)) :
      ((BenchmarkLedger.empty message size).run ops).Mirrored :=
    (BenchmarkLedger.mirrored_empty message size).run ops
  refine ⟨fun goal maxInFlight ops legal => (churn goal maxInFlight legal).agrees,
    fun settings probing goal client server steps => ?_,
    fun message size ops => (benchmark message size ops).agrees,
    fun settings client server steps => ?_⟩
  · obtain ⟨ops, performs⟩ := Churn.Session.exists_performs
      (Churn.Session.start settings probing goal client server) steps
    obtain ⟨legal, ledger, -⟩ := performs.legal
      (Churn.Session.matched_start settings probing goal client server)
    intro l
    have same : l = (ChurnLedger.empty goal settings.maxInFlight).run ops := ledger
    rw [same]
    exact (churn goal settings.maxInFlight legal).agrees
  · obtain ⟨ops, ledger⟩ := Benchmark.Session.exists_run_eq settings client server steps
    intro l
    have same : l = (BenchmarkLedger.empty settings.message settings.poolSize).run ops := ledger
    rw [same]
    exact (benchmark settings.message settings.poolSize ops).agrees

/-- Two attempts of which one is greeted too late: the metrics show two attempts and one drop. -/
theorem metrics_agree_late :
    let l := (ChurnLedger.empty 1 2).run ChurnLedger.lateGreeting
    (ChurnLedger.empty 1 2).Legal ChurnLedger.lateGreeting
    ∧ ChurnLedger.Agrees l.metrics.list l.snapshot
    ∧ l.snapshot.attempts = 2 ∧ l.snapshot.dropped = 1 := by
  have legal : (ChurnLedger.empty 1 2).Legal ChurnLedger.lateGreeting := by decide
  exact ⟨legal, metrics_agree.1 1 2 ChurnLedger.lateGreeting legal, by decide, by decide⟩

end StreamLoad
