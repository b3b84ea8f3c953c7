import StreamLoad.Proofs.Benchmark.Actions
import StreamLoad.Proofs.Histories
import StreamLoad.Proofs.Lists
import StreamLoad.Proofs.Server

/-! # What is published

A tick that publishes a cycle starts a task, and the task makes the request when it begins to run,
which may be much later. So the payloads of a run show three times: in the tasks that its actions
start (`published`), in those that begin to run (`begun`), and in what comes of each of these at the
server and in the notices (`Requested`). Nothing is lost or made twice on the way: what has begun
and what still waits are together what was published (`issued`).
-/

set_option autoImplicit false

namespace StreamLoad.Benchmark

/-- The payload that a task is to publish. -/
def Task.payload? : Task → Option String
  | .subscribe _ => none
  | .publish payload => some payload

namespace Session

variable {s : Session}

/-- The payloads whose tasks do not run yet. -/
def unpublished (s : Session) : List String := s.tasks.filterMap Task.payload?

/-- The payloads whose tasks an action starts. -/
def queued (s : Session) (action : Action) : List String :=
  ((s.perform action).tasks.drop s.tasks.length).filterMap Task.payload?

/-- The payloads that a run sets out to publish, in the order in which their tasks are started. -/
def published (s : Session) (actions : List Action) : List String :=
  answers perform queued s actions

theorem published_cons (s : Session) (action : Action) (actions : List Action) :
    s.published (action :: actions) = s.queued action ++ (s.perform action).published actions := rfl

theorem published_append (s : Session) (actions later : List Action) :
    s.published (actions ++ later)
      = s.published actions ++ (s.performAll actions).published later :=
  answers_append ..

theorem published_concat (s : Session) (actions : List Action) (action : Action) :
    s.published (actions ++ [action])
      = s.published actions ++ (s.performAll actions).queued action :=
  answers_concat ..

/-- The payload whose task begins to run. -/
def begins (s : Session) : Action → List String
  | .launch index => (s.tasks[index]?.bind Task.payload?).toList
  | _ => []

/-- The payloads whose tasks begin to run in a run, in the order in which they do. -/
def begun (s : Session) (actions : List Action) : List String :=
  answers perform begins s actions

theorem begun_cons (s : Session) (action : Action) (actions : List Action) :
    s.begun (action :: actions) = s.begins action ++ (s.perform action).begun actions := rfl

/-! ## What an action does to the tasks

Tasks are added at the end and may be taken from anywhere. Only a tick adds one that publishes, and
only a task that begins to run is taken. That the rest leaves the tasks alone is known already, as
the session acts in the same way whatever tasks wait. -/

theorem tasks_command (s : Session) (number : Nat) (c : Command) :
    (s.command number c).tasks = s.tasks := by
  have same := congrArg tasks (command_withTasks s s.tasks number c)
  exact same

theorem tasks_launch {index : Nat} {task : Task} (next : s.tasks[index]? = some task) :
    (s.perform (.launch index)).tasks = s.tasks.eraseIdx index := by
  simp only [perform, next]
  exact congrArg tasks (runTask_withTasks s (s.tasks.eraseIdx index) task)

theorem tasks_tick (s : Session) :
    (s.perform .tick).tasks
      = s.tasks ++ (s.tick.2.map fun n => .publish (Cycle.payload s.settings.message n)).toList := by
  show s.tick.1.tasks = _
  simp only [tick, note]
  cases (s.ledger.tick s.now).2.1 with
  | none => exact (List.append_nil _).symm
  | some n => rfl

/-- Tasks that an action adds at the end are what it queues. -/
theorem queued_of_tasks {action : Action} {added : List Task}
    (tasks : (s.perform action).tasks = s.tasks ++ added) :
    s.queued action = added.filterMap Task.payload?
      ∧ (s.perform action).unpublished = s.unpublished ++ s.queued action := by
  have queued : s.queued action = added.filterMap Task.payload? := by
    rw [Session.queued, tasks, List.drop_left]
  refine ⟨queued, ?_⟩
  rw [queued, unpublished, unpublished, tasks, List.filterMap_append]

theorem queued_tick (s : Session) :
    s.queued .tick = (s.tick.2.map (Cycle.payload s.settings.message)).toList := by
  rw [(queued_of_tasks s.tasks_tick).1]
  cases s.tick.2 <;> rfl

/-- The tasks of the subscribers publish nothing. -/
theorem exists_tasks_start (s : Session) :
    ∃ added, (s.perform .start).tasks = s.tasks ++ added
      ∧ added.filterMap Task.payload? = [] := by
  simp only [perform, startSubscribers]
  split
  · exact ⟨[], (List.append_nil _).symm, rfl⟩
  · refine ⟨_, rfl, ?_⟩
    rw [List.filterMap_map]
    exact List.filterMap_eq_nil_iff.mpr fun id _ => rfl

/-- What leaves the tasks as they are queues nothing. -/
theorem queued_of_same {action : Action} (same : (s.perform action).tasks = s.tasks) :
    s.queued action = [] :=
  (queued_of_tasks (same.trans (List.append_nil _).symm)).1

/-- Only a tick queues anything. -/
theorem queued_of_ne_tick {action : Action} (tickless : action ≠ .tick) : s.queued action = [] := by
  cases action with
  | tick => exact absurd rfl tickless
  | start =>
      obtain ⟨added, tasks, none⟩ := s.exists_tasks_start
      rw [(queued_of_tasks tasks).1, none]
  | launch index =>
      cases next : s.tasks[index]? with
      | none =>
          exact queued_of_same (congrArg tasks (perform_launch_of_none next))
      | some task =>
          have fewer : (s.tasks.eraseIdx index).length ≤ s.tasks.length :=
            (List.eraseIdx_sublist ..).length_le
          rw [queued, tasks_launch next, List.drop_of_length_le fewer]
          rfl
  | wait time => exact queued_of_same rfl
  | command number c => exact queued_of_same (s.tasks_command number c)
  | shutDown => exact queued_of_same rfl
  | arrange loops loopsStarted alarms stoppable => exact queued_of_same rfl

/-! ## Nothing is lost on the way

Whatever task is taken next, the payloads that have begun and those that wait are together what was
queued. They keep the order of the queue, too, as long as the first task is always the next. -/

theorem payloads_cons (task : Task) (tasks : List Task) :
    (task :: tasks).filterMap Task.payload?
      = task.payload?.toList ++ tasks.filterMap Task.payload? := by
  rw [List.filterMap_cons]
  cases task.payload? <;> rfl

theorem begins_of_others {action : Action} (others : ∀ index, action ≠ .launch index) :
    s.begins action = [] := by
  cases action with
  | launch index => exact absurd rfl (others index)
  | _ => rfl

/-- An action that takes no task leaves those that wait in front of what it queues. -/
theorem unpublished_perform {action : Action} (others : ∀ index, action ≠ .launch index) :
    (s.perform action).unpublished = s.unpublished ++ s.queued action := by
  have grows : ∃ added, (s.perform action).tasks = s.tasks ++ added := by
    cases action with
    | launch index => exact absurd rfl (others index)
    | tick => exact ⟨_, s.tasks_tick⟩
    | start =>
        obtain ⟨added, tasks, -⟩ := s.exists_tasks_start
        exact ⟨added, tasks⟩
    | command number c => exact ⟨[], (s.tasks_command number c).trans (List.append_nil _).symm⟩
    | wait time | shutDown | arrange loops loopsStarted alarms stoppable =>
        exact ⟨[], (List.append_nil _).symm⟩
  obtain ⟨added, tasks⟩ := grows
  exact (queued_of_tasks tasks).2

/-- The payloads that have begun and those that wait, after an action. -/
theorem begins_perform (s : Session) (action : Action) :
    (s.begins action ++ (s.perform action).unpublished).Perm
      (s.unpublished ++ s.queued action) := by
  by_cases takes : ∃ index, action = .launch index
  · obtain ⟨index, rfl⟩ := takes
    have quiet : s.queued (.launch index) = [] := queued_of_ne_tick Action.noConfusion
    rw [quiet, List.append_nil]
    cases next : s.tasks[index]? with
    | none =>
        rw [begins, next, perform_launch_of_none next]
        exact List.Perm.refl _
    | some task =>
        obtain ⟨front, back, split, rest⟩ := exists_append_of_getElem? next
        rw [begins, next, unpublished, unpublished, tasks_launch next, rest, split,
          List.filterMap_append, List.filterMap_append, payloads_cons]
        exact List.perm_append_comm_assoc ..
  · have others : ∀ index, action ≠ .launch index := fun index same => takes ⟨index, same⟩
    rw [unpublished_perform others, begins_of_others others]
    exact List.Perm.refl _

theorem begins_perform_of_first {action : Action}
    (first : ∀ index, action = .launch index → index = 0) :
    s.begins action ++ (s.perform action).unpublished = s.unpublished ++ s.queued action := by
  by_cases takes : ∃ index, action = .launch index
  · obtain ⟨index, rfl⟩ := takes
    obtain rfl := first index rfl
    have quiet : s.queued (.launch 0) = [] := queued_of_ne_tick Action.noConfusion
    rw [quiet, List.append_nil]
    cases waiting : s.tasks with
    | nil =>
        have none : s.tasks[0]? = none := by rw [waiting]; rfl
        rw [begins, none, perform_launch_of_none none]
        rfl
    | cons task rest =>
        have next : s.tasks[0]? = some task := by rw [waiting]; rfl
        rw [begins, next, unpublished, unpublished, tasks_launch next, waiting, payloads_cons]
        rfl
  · have others : ∀ index, action ≠ .launch index := fun index same => takes ⟨index, same⟩
    rw [unpublished_perform others, begins_of_others others]
    rfl

/-- What has begun in a run and what still waits are together what the run has published. -/
theorem begun_perm (s : Session) (actions : List Action) :
    (s.begun actions ++ (s.performAll actions).unpublished).Perm
      (s.unpublished ++ s.published actions) := by
  induction actions generalizing s with
  | nil => exact List.perm_append_comm
  | cons action actions ih =>
      have now := (s.begins_perform action).append_right ((s.perform action).published actions)
      have rest := (ih (s.perform action)).append_left (s.begins action)
      rw [List.append_assoc, List.append_assoc] at now
      rw [begun_cons, published_cons, performAll_cons, List.append_assoc]
      exact rest.trans now

/-- They come in the same order if tasks begin in the order in which they were started. -/
theorem begun_eq_of_first {actions : List Action}
    (first : ∀ index, .launch index ∈ actions → index = 0) :
    s.begun actions ++ (s.performAll actions).unpublished
      = s.unpublished ++ s.published actions := by
  induction actions generalizing s with
  | nil => exact (List.append_nil _).symm
  | cons action actions ih =>
      have now := s.begins_perform_of_first fun index same =>
        first index (same ▸ List.mem_cons_self)
      have rest := ih (s := s.perform action) fun index later =>
        first index (List.mem_cons_of_mem _ later)
      calc s.begun (action :: actions) ++ (s.performAll (action :: actions)).unpublished
          = s.begins action ++ ((s.perform action).begun actions
              ++ ((s.perform action).performAll actions).unpublished) := List.append_assoc ..
        _ = s.begins action ++ (s.perform action).unpublished
              ++ (s.perform action).published actions := by rw [rest, List.append_assoc]
        _ = s.unpublished ++ s.published (action :: actions) := by
            rw [now, published_cons, List.append_assoc]

/-! ## What comes of a task

A task that begins to run makes its request, whatever comes of that. Later commands answer the
request and leave the list of requests alone. -/

/-- The request to publish a payload is made from one state of a session to the next. -/
inductive Requested (client : Client) (payload : String) (s s' : Session) : Prop where
  /-- The server takes it. -/
  | taken (request : Request) (made : client.publish payload = .ok request)
      (accepts : s.server.accepting = true)
      (requests : s'.server.requests = s.server.requests ++ [request])
  /-- The server accepts no connection. -/
  | refused (request : Request) (made : client.publish payload = .ok request)
      (refuses : s.server.accepting = false) (requests : s'.server.requests = s.server.requests)
      (noted : s'.notices = .publishFailed payload (.request request.lost) :: s.notices)
  /-- Its address cannot be asked for. -/
  | unsendable (fault : RequestFault) (unmade : client.publish payload = .error fault)
      (requests : s'.server.requests = s.server.requests)
      (noted : s'.notices = .publishFailed payload (.request fault) :: s.notices)

theorem client_memberArrival (s : Session) (member : Member) (arrival : Arrival) :
    (s.memberArrival member arrival).client = s.client
      ∧ (s.memberArrival member arrival).server = s.server := by
  unfold memberArrival
  dsimp only
  split
  · exact ⟨rfl, rfl⟩
  · split <;> exact ⟨rfl, rfl⟩

theorem client_publicationArrival (s : Session) (p : Publication) (arrival : Arrival) :
    (s.publicationArrival p arrival).client = s.client
      ∧ (s.publicationArrival p arrival).server = s.server := by
  cases arrival with
  | head status =>
      simp only [publicationArrival]
      split <;> exact ⟨rfl, rfl⟩
  | body item => exact ⟨rfl, rfl⟩
  | lost => exact ⟨rfl, rfl⟩

/-- The server acts on an exchange as it is told, whoever sees it. -/
theorem client_command (s : Session) (number : Nat) (c : Command) :
    (s.command number c).client = s.client
      ∧ (s.command number c).server = (s.server.act number c).1 := by
  unfold command
  rcases s.server.act number c with ⟨server, _ | arrival⟩
  · exact ⟨rfl, rfl⟩
  · dsimp only
    split
    · exact client_memberArrival { s with server := server } _ arrival
    · split
      · exact client_publicationArrival { s with server := server } _ arrival
      · exact ⟨rfl, rfl⟩

theorem client_foldl_command (s : Session) (number : Nat) (commands : List Command) :
    (commands.foldl (fun s c => s.command number c) s).client = s.client
      ∧ (commands.foldl (fun s c => s.command number c) s).server.requests = s.server.requests := by
  induction commands generalizing s with
  | nil => exact ⟨rfl, rfl⟩
  | cons c commands ih =>
      obtain ⟨client, server⟩ := s.client_command number c
      obtain ⟨later, rest⟩ := ih (s.command number c)
      refine ⟨later.trans client, rest.trans ?_⟩
      rw [server]
      exact (Server.touched_act s.server number c).requests

theorem client_runTask (s : Session) (task : Task) : (s.runTask task).client = s.client := by
  cases task with
  | subscribe id =>
      simp only [runTask, subscribe]
      split
      · rfl
      · split <;> rfl
  | publish payload =>
      simp only [runTask, publish]
      split
      · rfl
      · split
        · rfl
        · exact (client_foldl_command ..).1

/-- The client stays the one that the session was started with. -/
theorem client_perform (s : Session) (action : Action) : (s.perform action).client = s.client := by
  cases action with
  | start =>
      simp only [perform, startSubscribers]
      split <;> rfl
  | launch index =>
      simp only [perform]
      split
      · exact client_runTask ..
      · rfl
  | command number c => exact (s.client_command number c).1
  | wait time | tick | shutDown | arrange loops loopsStarted alarms stoppable => rfl

theorem client_performAll (s : Session) (actions : List Action) :
    (s.performAll actions).client = s.client := by
  induction actions generalizing s with
  | nil => rfl
  | cons action actions ih => exact (ih (s.perform action)).trans (s.client_perform action)

theorem requested_publish (s : Session) (payload : String) (tasks : List Task) :
    Requested s.client payload s ((s.publish payload).withTasks tasks) := by
  unfold publish
  split
  · rename_i fault unmade
    exact .unsendable fault unmade rfl rfl
  · rename_i request made
    split
    · exact .refused request made (Server.refuses_of_receive ‹_›) rfl rfl
    · rename_i server number received
      let p : Publication := { payload := payload, exchange := number, request := request }
      let asked := { s with server := server, publications := s.publications ++ [p] }
      refine .taken request made (Server.accepting_of_receive received).1 ?_
      refine (asked.client_foldl_command number (server.promptCommands request)).2.trans ?_
      show server.requests = _
      rw [Server.requests, (Server.receive_eq_some received).1, List.map_append]
      rfl

/-- A task to publish that begins to run makes its request. -/
theorem requested_launch {index : Nat} {payload : String}
    (next : s.tasks[index]? = some (.publish payload)) :
    Requested s.client payload s (s.perform (.launch index)) := by
  have runs : s.perform (.launch index)
      = (s.publish payload).withTasks (s.tasks.eraseIdx index) := by
    rw [← publish_withTasks]
    simp only [perform, next]
    rfl
  rw [runs]
  exact s.requested_publish payload _

/-! ## Whole runs

A run may end before all its tasks have begun, and a scheduler may take them in any order. What is
certain then is in `Issued`. -/

/-- What becomes of the payloads that a run sets out to publish. -/
structure Issued (s : Session) (actions : List Action) (payloads : List String) : Prop where
  /-- Each of them has a task that waits or has begun, and nothing else is published. -/
  carried : (s.begun actions ++ (s.performAll actions).unpublished).Perm payloads
  /-- Tasks that begin in the order in which they were started publish in this order. -/
  ordered : (∀ index, .launch index ∈ actions → index = 0) →
    s.begun actions ++ (s.performAll actions).unpublished = payloads
  /-- Whenever such a task begins, its request is made. -/
  requested : ∀ before index after payload, actions = before ++ .launch index :: after →
    (s.performAll before).tasks[index]? = some (.publish payload) →
    Requested s.client payload (s.performAll before) (s.performAll (before ++ [.launch index]))

/-- What a run publishes is carried out. -/
theorem issued (none : s.unpublished = []) (actions : List Action) :
    Issued s actions (s.published actions) where
  carried := by
    have perm := s.begun_perm actions
    rwa [none, List.nil_append] at perm
  ordered first := by
    have same := begun_eq_of_first (s := s) first
    rwa [none, List.nil_append] at same
  requested before index after payload _ next := by
    rw [performAll_concat, ← s.client_performAll before]
    exact requested_launch next

end Session

end StreamLoad.Benchmark
