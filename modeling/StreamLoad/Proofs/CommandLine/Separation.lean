import StreamLoad.Launch
import StreamLoad.Proofs.CommandLine.Layering

/-! # The modes keep out of each other's way

Each mode has variables that set only what the other mode does not use. Whatever they hold, a run
of the other mode is checked with the same result and has the same settings in everything that it
uses. Two environments that differ in nothing else are told apart neither by the checks nor by
the settings that are left.
-/

set_option autoImplicit false

namespace StreamLoad.CommandLine

/-- The variables of settings that only the other mode uses. -/
def Mode.foreignVariables : Mode → List String
  | .drain => ["SSELOAD_POOL_SIZE", "SSELOAD_MESSAGE", "SSELOAD_BENCH_INTERVAL_MS"]
  | .bench =>
      ["SSELOAD_DROP_GOAL", "SSELOAD_METHOD", "SSELOAD_CHURN_INTERVAL_MS",
        "SSELOAD_MAX_IN_FLIGHT", "SSELOAD_ATTEMPT_TIMEOUT_MS", "SSELOAD_PROBE_INTERVAL_MS",
        "SSELOAD_PROBE_TIMEOUT_MS"]

/-- Two environments differ at most in variables that a mode does not use. -/
def Mode.SameFor (mode : Mode) (env env' : Environment) : Prop :=
  ∀ name, name ∉ mode.foreignVariables → env'.bindings.lookup name = env.bindings.lookup name

/-- Two settings agree in all that a mode uses. -/
structure Agreeing (mode : Mode) (s s' : Settings) : Prop where
  target : s'.target = s.target
  statusInterval : s'.statusInterval = s.statusInterval
  metricsAddress : s'.metricsAddress = s.metricsAddress
  churn : mode = .drain → s'.churn = s.churn
  probe : mode = .drain → s'.probe = s.probe
  benchmark : mode = .bench → s'.benchmark = s.benchmark

/-- Whether a mode uses a field. -/
def Field.usedBy (mode : Mode) : Field → Bool
  | host | port | statusInterval | metricsAddress => true
  | dropGoal | method | churnInterval | maxInFlight | attemptTimeout | probeInterval
  | probeTimeout => mode = .drain
  | poolSize | message | benchmarkInterval => mode = .bench

/-- The variables that a mode does not use are those of the fields that it does not use. -/
theorem Mode.foreignVariables_eq (mode : Mode) :
    mode.foreignVariables
      = (Field.all.filter fun f => !f.usedBy mode).map Field.variableName := by
  cases mode <;> rfl

/-- The variable of a field that a mode uses is none of the other mode. -/
theorem Field.variableName_not_mem {mode : Mode} {f : Field} (used : f.usedBy mode = true) :
    f.variableName ∉ mode.foreignVariables := by
  rw [Mode.foreignVariables_eq]
  intro foreign
  obtain ⟨f', hf', same⟩ := List.mem_map.mp foreign
  have unused : f'.usedBy mode = false := by simpa using (List.mem_filter.mp hf').2
  rw [variableName_injective same, used] at unused
  cases unused

namespace Agreeing

variable {mode : Mode} {s s' : Settings}

/-- Settings that agree field by field agree. -/
theorem of_fields (same : ∀ f : Field, f.usedBy mode = true → f.get s' = f.get s) :
    Agreeing mode s s' := by
  refine ⟨?_, same .statusInterval rfl, same .metricsAddress rfl, ?_, ?_, ?_⟩
  · calc s'.target = { host := Field.host.get s', port := Field.port.get s' } := rfl
      _ = { host := Field.host.get s, port := Field.port.get s } := by
        rw [same .host rfl, same .port rfl]
      _ = s.target := rfl
  · rintro rfl
    calc s'.churn
        = { dropGoal := Field.dropGoal.get s'
            method := Field.method.get s'
            interval := Field.churnInterval.get s'
            maxInFlight := Field.maxInFlight.get s'
            attemptTimeout := Field.attemptTimeout.get s' } := rfl
      _ = { dropGoal := Field.dropGoal.get s
            method := Field.method.get s
            interval := Field.churnInterval.get s
            maxInFlight := Field.maxInFlight.get s
            attemptTimeout := Field.attemptTimeout.get s } := by
        rw [same .dropGoal rfl, same .method rfl, same .churnInterval rfl, same .maxInFlight rfl,
          same .attemptTimeout rfl]
      _ = s.churn := rfl
  · rintro rfl
    calc s'.probe
        = { interval := Field.probeInterval.get s', timeout := Field.probeTimeout.get s' } := rfl
      _ = { interval := Field.probeInterval.get s, timeout := Field.probeTimeout.get s } := by
        rw [same .probeInterval rfl, same .probeTimeout rfl]
      _ = s.probe := rfl
  · rintro rfl
    calc s'.benchmark
        = { poolSize := Field.poolSize.get s'
            message := Field.message.get s'
            interval := Field.benchmarkInterval.get s' } := rfl
      _ = { poolSize := Field.poolSize.get s
            message := Field.message.get s
            interval := Field.benchmarkInterval.get s } := by
        rw [same .poolSize rfl, same .message rfl, same .benchmarkInterval rfl]
      _ = s.benchmark := rfl

/-- What both modes check is the same. -/
theorem checkCommon (h : Agreeing mode s s') : s'.checkCommon = s.checkCommon := by
  rw [Settings.checkCommon, Settings.checkCommon, h.target, h.statusInterval]

/-- The check of a mode looks at what the mode uses. -/
theorem check {i : Invocation} (h : Agreeing i.mode s s') : i.check s' = i.check s := by
  unfold Invocation.check
  cases mode : i.mode with
  | drain =>
      show s'.checkChurn = s.checkChurn
      rw [Settings.checkChurn, Settings.checkChurn, h.checkCommon, h.churn mode, h.probe mode]
  | bench =>
      show s'.checkBenchmark = s.checkBenchmark
      rw [Settings.checkBenchmark, Settings.checkBenchmark, h.checkCommon, h.benchmark mode]

end Agreeing

/-- An invocation leads to settings that agree in all that its mode uses. -/
theorem Invocation.agreeing_settings (i : Invocation) {env env' : Environment}
    (same : i.mode.SameFor env env') : Agreeing i.mode (i.settings env) (i.settings env') := by
  refine Agreeing.of_fields fun f used => ?_
  have bytes := same f.variableName (Field.variableName_not_mem used)
  rw [Field.get_settings, Field.get_settings, f.inEnvironment?_congr bytes]

/-- **The modes keep apart.** A command line that is carried out, in two environments that differ
only in what the other mode uses, has the same outcome of its check and settings that agree in all
that its mode uses; and a run fails to start for the same reason or in neither. -/
theorem Invocation.modes_apart {words : List (List UInt8)} {i : Invocation}
    (accepted : ofWords words = .ok i) {env env' : Environment}
    (same : i.mode.SameFor env env') :
    i.check (i.settings env') = i.check (i.settings env)
      ∧ Agreeing i.mode (i.settings env) (i.settings env')
      ∧ ∀ fault : LaunchFault,
        Launch.ofWords words env' = .error fault ↔ Launch.ofWords words env = .error fault := by
  have agreeing := i.agreeing_settings same
  refine ⟨agreeing.check, agreeing, fun fault => ?_⟩
  simp only [Launch.ofWords, accepted, agreeing.check]
  cases i.check (i.settings env) with
  | error fault' => rfl
  | ok => simp

/-- An environment with a pool of no members and a message that is no segment of an address, and
with a time that is no text. -/
def unfitForBenchmark : Environment :=
  { bindings :=
      [("SSELOAD_POOL_SIZE", Text.utf8 "0"), ("SSELOAD_MESSAGE", Text.utf8 "a/b"),
        ("SSELOAD_BENCH_INTERVAL_MS", [0xFF])] }

/-- Churning starts where the benchmark does not. -/
theorem Invocation.modes_apart_unfit :
    ∃ i, ofWords (["drain"].map Text.utf8) = .ok i ∧ i.mode.SameFor {} unfitForBenchmark
      ∧ i.check (i.settings {}) = .ok () ∧ i.check (i.settings unfitForBenchmark) = .ok ()
      ∧ Launch.ofWords (["bench"].map Text.utf8) unfitForBenchmark
        = .error (.unfit .zeroPoolSize) := by
  have accepted : ofWords (["drain"].map Text.utf8)
      = .ok { mode := .drain, jsonLogs := false, overrides := [] } := by
    decide +kernel
  have same : Mode.drain.SameFor {} unfitForBenchmark := by
    intro name other
    simp only [Mode.foreignVariables, List.mem_cons, List.not_mem_nil, or_false, not_or] at other
    obtain ⟨pool, message, interval⟩ := other
    simp [unfitForBenchmark, List.lookup_cons, beq_false_of_ne pool, beq_false_of_ne message,
      beq_false_of_ne interval]
  obtain ⟨checks, -, -⟩ := modes_apart accepted same
  have fit : Invocation.check { mode := .drain, jsonLogs := false, overrides := [] }
      (Invocation.settings { mode := .drain, jsonLogs := false, overrides := [] } {}) = .ok () := by
    decide +kernel
  exact ⟨_, accepted, same, fit, checks.trans fit, rfl⟩

end StreamLoad.CommandLine
