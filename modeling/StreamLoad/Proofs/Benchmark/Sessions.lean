import StreamLoad.Benchmark.Session
import StreamLoad.Proofs.Benchmark.Operations

/-! # Sessions act on the ledger by operations

Whatever a benchmark session is told to do, its ledger changes by operations of its tasks and in
no other way: `Session.exists_run_eq` finds the run of operations behind any list of steps.
-/

set_option autoImplicit false

namespace StreamLoad.BenchmarkLedger

variable {size : Nat}

theorem size_pool_apply (l : BenchmarkLedger) (op : Operation size) :
    (l.apply op).pool.size = l.pool.size := by
  cases op with
  | start now => rfl
  | tick now => rfl
  | refuse id failure => exact l.pool.size_advance id .failed
  | lose id failure =>
      simp only [apply, lose]
      split
      · rfl
      · exact l.pool.size_advance id .failed
  | receive id event =>
      cases event with
      | ping => rfl
      | welcome =>
          have kept := l.pool.size_advance id .connected
          simp only [apply, receive, welcome]
          split
          · rfl
          · rename_i moved
            rw [← kept]
            exact congrArg (fun p => p.1.size) moved.symm
      | data payload =>
          simp only [apply, receive]
          split
          · unfold deliver
            split
            · split <;> rfl
            · rfl
          · rfl

theorem size_pool_run (l : BenchmarkLedger) (ops : List (Operation size)) :
    (l.run ops).pool.size = l.pool.size := by
  induction ops generalizing l with
  | nil => rfl
  | cons op ops ih => exact (ih (l.apply op)).trans (size_pool_apply l op)

end StreamLoad.BenchmarkLedger

namespace StreamLoad.Benchmark.Session

open BenchmarkLedger (Operation)

/-- The session after some steps. -/
def run (s : Session) (steps : List Step) : Session :=
  steps.foldl (fun s step => (s.step step).1) s

/-- All that runs or is about to run for a member runs for a member of the pool. -/
structure Manned (size : Nat) (s : Session) : Prop where
  pool : s.ledger.pool.size = size
  members : ∀ m ∈ s.members, m.id < size
  tasks : ∀ id, .subscribe id ∈ s.tasks → id < size

/-- Operations on the ledger lead from one session to another. -/
def Leads (size : Nat) (s s' : Session) : Prop :=
  Manned size s → Manned size s' ∧ ∃ ops : List (Operation size), s'.ledger = s.ledger.run ops

namespace Leads

variable {size : Nat} {s s' s'' : Session}

theorem refl (s : Session) : Leads size s s := fun h => ⟨h, [], rfl⟩

theorem trans (first : Leads size s s') (second : Leads size s' s'') : Leads size s s'' := by
  intro h
  obtain ⟨h', ops, hops⟩ := first h
  obtain ⟨h'', later, hlater⟩ := second h'
  exact ⟨h'', ops ++ later, by rw [hlater, hops, BenchmarkLedger.run_append]⟩

/-- Some operations, after which no one runs who did not run before. -/
theorem of_run (ops : List (Operation size)) (ledger : s'.ledger = s.ledger.run ops)
    (members : ∀ m ∈ s'.members, ∃ m' ∈ s.members, m.id = m'.id)
    (tasks : ∀ id, .subscribe id ∈ s'.tasks → .subscribe id ∈ s.tasks) : Leads size s s' := by
  intro h
  refine ⟨⟨?_, ?_, fun id hid => h.tasks id (tasks id hid)⟩, ops, ledger⟩
  · rw [ledger, BenchmarkLedger.size_pool_run, h.pool]
  · intro m hm
    obtain ⟨m', hm', same⟩ := members m hm
    exact same ▸ h.members m' hm'

/-- What changes neither the ledger nor who runs. -/
theorem of_eq (ledger : s'.ledger = s.ledger) (members : s'.members = s.members)
    (tasks : s'.tasks = s.tasks) : Leads size s s' :=
  of_run [] ledger (fun m hm => ⟨m, members ▸ hm, rfl⟩) (fun _ hid => tasks ▸ hid)

theorem foldl {α : Type} {f : Session → α → Session} {xs : List α}
    (h : ∀ x ∈ xs, ∀ s, Leads size s (f s x)) (s : Session) : Leads size s (xs.foldl f s) := by
  induction xs generalizing s with
  | nil => exact refl s
  | cons x xs ih =>
      exact (h x (by simp) s).trans (ih (fun y hy => h y (by simp [hy])) (f s x))

end Leads

variable {size : Nat}

/-! ## Members and publications

Operations are on members of the pool, whose ordinals are below its size, and the session goes by
bare numbers. That the two fit together is the part of `Manned`: all members that run, and all tasks
that wait, are of the pool. -/

theorem leads_refuseMember (s : Session) {id : Nat} (h : id < size) (failure : Failure) :
    Leads size s (s.refuseMember id failure) :=
  .of_run [.refuse ⟨id, h⟩ failure] rfl (fun m hm => ⟨m, (List.mem_filter.mp hm).1, rfl⟩)
    (fun _ hid => hid)

theorem leads_loseMember (s : Session) {id : Nat} (h : id < size) (failure : Failure) :
    Leads size s (s.loseMember id failure) :=
  .of_run [.lose ⟨id, h⟩ failure] rfl (fun m hm => ⟨m, (List.mem_filter.mp hm).1, rfl⟩)
    (fun _ hid => hid)

theorem leads_subscribe (s : Session) {id : Nat} (h : id < size) :
    Leads size s (s.subscribe id) := by
  unfold subscribe
  split
  · exact leads_refuseMember s h _
  · split
    · exact leads_refuseMember s h _
    · intro manned
      refine ⟨⟨manned.pool, ?_, manned.tasks⟩, [], rfl⟩
      intro m hm
      rcases List.mem_append.mp hm with old | new
      · exact manned.members m old
      · rw [List.mem_singleton.mp new]
        exact h

/-- A member reads events one after another. -/
theorem foldl_receive (l : BenchmarkLedger) (id : Fin size) (events : List Event) :
    events.foldl (fun l event => l.receive id event) l = l.run (events.map (.receive id)) := by
  induction events generalizing l with
  | nil => rfl
  | cons event events ih => exact ih (l.receive id event)

theorem leads_memberArrival (s : Session) {member : Member} (h : member.id < size)
    (arrival : Arrival) : Leads size s (s.memberArrival member arrival) := by
  unfold memberArrival
  generalize member.subscription.seekEvents member.request arrival = harvest
  -- The events are read in any case; what comes after them is the fault that ends the stream.
  have read : Leads size s
      { s with
        members := s.members.map fun m =>
          if m.id = member.id then { m with subscription := harvest.subscription } else m
        ledger := harvest.events.foldl (fun l event => l.receive member.id event) s.ledger } := by
    refine .of_run (harvest.events.map (.receive ⟨member.id, h⟩))
      (foldl_receive s.ledger ⟨member.id, h⟩ harvest.events) ?_ (fun _ hid => hid)
    intro m hm
    obtain ⟨m', hm', rfl⟩ := List.mem_map.mp hm
    refine ⟨m', hm', ?_⟩
    split <;> rfl
  dsimp only
  split
  · exact read
  · split
    · exact read.trans (leads_refuseMember _ h _)
    · exact read.trans (leads_loseMember _ h _)

theorem leads_publicationArrival (s : Session) (p : Publication) (arrival : Arrival) :
    Leads size s (s.publicationArrival p arrival) := by
  cases arrival with
  | head status =>
      simp only [publicationArrival]
      split <;> exact .of_eq rfl rfl rfl
  | body item => exact .refl s
  | lost => exact .of_eq rfl rfl rfl

theorem leads_command (s : Session) (number : Nat) (c : Command) :
    Leads size s (s.command number c) := by
  intro manned
  unfold command
  split
  · exact Leads.of_eq rfl rfl rfl manned
  · rename_i server arrival _
    have acted : Leads size s { s with server := server } := .of_eq rfl rfl rfl
    dsimp only
    split
    · rename_i member found
      have h := manned.members member (List.mem_of_find?_eq_some found)
      exact acted.trans (leads_memberArrival _ h _) manned
    · split
      · exact acted.trans (leads_publicationArrival _ _ _) manned
      · exact acted manned

theorem leads_publish (s : Session) (payload : String) : Leads size s (s.publish payload) := by
  unfold publish
  split
  · exact .of_eq rfl rfl rfl
  · split
    · exact .of_eq rfl rfl rfl
    · refine Leads.trans ?_ (Leads.foldl (fun c _ s => leads_command s _ c) _)
      exact .of_eq rfl rfl rfl

/-! ## Tasks and ticks -/

theorem leads_runTask (s : Session) {task : Task} (h : ∀ id, task = .subscribe id → id < size) :
    Leads size s (s.runTask task) := by
  cases task with
  | subscribe id =>
      simp only [runTask]
      exact leads_subscribe s (h id rfl)
  | publish payload =>
      simp only [runTask]
      exact leads_publish s payload

theorem leads_launchAll (s : Session) : Leads size s s.launchAll := by
  intro manned
  -- The tasks are taken off the list before they run, and those that they add wait in turn.
  have cleared : Leads size s { s with tasks := [] } :=
    .of_run [] rfl (fun m hm => ⟨m, hm, rfl⟩) (fun _ hid => by cases hid)
  have runs : ∀ task ∈ s.tasks, ∀ s', Leads size s' (runTask s' task) := fun task ht s' =>
    leads_runTask s' fun id hid => manned.tasks id (hid ▸ ht)
  exact cleared.trans (Leads.foldl runs { s with tasks := [] }) manned

theorem leads_tick (s : Session) : Leads size s s.tick.1 := by
  refine .of_run [.tick s.now] rfl (fun m hm => ⟨m, hm, rfl⟩) ?_
  intro id hid
  simp only [tick, note] at hid
  split at hid
  · simpa using hid
  · exact hid

theorem leads_ticks (count : Nat) (s : Session) : Leads size s (ticks count s) := by
  induction count generalizing s with
  | zero => exact .refl s
  | succ count ih => exact (leads_tick s).trans (ih s.tick.1)

theorem leads_startSubscribers (s : Session) : Leads size s s.startSubscribers := by
  unfold startSubscribers
  split
  · exact .refl s
  · intro manned
    refine ⟨⟨manned.pool, manned.members, ?_⟩, [.start s.now], rfl⟩
    intro id hid
    rcases List.mem_append.mp hid with old | new
    · exact manned.tasks id old
    · obtain ⟨id', hid', same⟩ := List.mem_map.mp new
      cases same
      rw [← manned.pool]
      exact List.mem_range.mp hid'

theorem leads_resumeLoop (s : Session) (id : Nat) : Leads size s (s.resumeLoop id) := by
  unfold resumeLoop
  split
  · exact .refl s
  · refine Leads.trans ?_ (leads_ticks _ _)
    exact .of_eq rfl rfl rfl

theorem leads_startLoop (s : Session) : Leads size s s.startLoop := by
  have started : Leads size s s.startSubscribers := leads_startSubscribers s
  unfold startLoop
  dsimp only
  split
  · refine started.trans ?_
    exact .of_eq rfl rfl rfl
  · refine started.trans (Leads.trans ?_ (leads_resumeLoop _ _))
    exact .of_eq rfl rfl rfl

theorem leads_spin (count : Nat) (s : Session) : Leads size s (spin count s) := by
  induction count generalizing s with
  | zero => exact .refl s
  | succ count ih =>
      unfold spin
      dsimp only
      split
      · exact .refl s
      · exact ((leads_tick s).trans (leads_launchAll _)).trans (ih _)

theorem leads_settle (s : Session) : Leads size s s.settle := by
  have rung : Leads size s s.ringAll := Leads.foldl (fun id _ s => leads_resumeLoop s id) s
  have launched := rung.trans (leads_launchAll s.ringAll)
  exact launched.trans (Leads.foldl (fun _ _ s => leads_spin spinLimit s) _)

theorem leads_stop (s : Session) : Leads size s s.stop := .of_eq rfl rfl rfl

theorem leads_step (s : Session) (step : Step) : Leads size s (s.step step).1 := by
  cases step with
  | start => exact (leads_startSubscribers s).trans (leads_settle _)
  | tick => exact (leads_tick s).trans (leads_settle _)
  | run => exact (leads_startLoop s).trans (leads_settle _)
  | stop => exact (leads_stop s).trans (leads_settle _)
  | advance time =>
      have waited : Leads size s { s with now := s.now + time } := .of_eq rfl rfl rfl
      exact waited.trans (leads_settle _)
  | command number c => exact (leads_command s number c).trans (leads_settle _)
  | commandAll c =>
      refine Leads.trans (Leads.foldl (fun number _ s => ?_) s) (leads_settle _)
      exact (leads_command s number c).trans (leads_settle _)
  | shutDown =>
      have closed : Leads size s { s with server := s.server.shutDown } := .of_eq rfl rfl rfl
      exact closed.trans (leads_settle _)

/-- The ledger of a session is what some run of operations makes of the empty ledger. -/
theorem exists_run_eq (settings : BenchmarkSettings) (client : Client) (server : Server)
    (steps : List Step) :
    ∃ ops : List (Operation settings.poolSize),
      (run (start settings client server) steps).ledger
        = (BenchmarkLedger.empty settings.message settings.poolSize).run ops := by
  have manned : Manned settings.poolSize (start settings client server) := by
    refine ⟨?_, by simp [start], by simp [start]⟩
    simp [start, BenchmarkLedger.empty, Pool.ofSize, Pool.size]
  exact (Leads.foldl (fun step _ s => leads_step s step) _ manned).2

end StreamLoad.Benchmark.Session
