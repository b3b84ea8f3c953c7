import StreamLoad.Proofs.Benchmark.Sessions

/-! # Tasks that run in any order

The steps of a session end with all that can happen while the clock stands still, in one fixed
order. Its tasks are not bound to that order. An `Action` is what happens between two pauses of the
tasks: a tick, a task that begins to run, something of an answer that arrives. Actions may come in
any order and at any time, so that a list of actions is a run under some scheduler. Whatever tasks
wait, an action other than the start of one does the same (`runTask_withTasks`).
-/

set_option autoImplicit false

namespace StreamLoad.Benchmark.Session

/-- What happens in a session between two pauses of its tasks. -/
inductive Action where
  /-- The subscribers are started. -/
  | start
  /-- The clock goes on. -/
  | wait (time : Nat)
  | tick
  /-- One of the tasks begins to run that do not run yet. -/
  | launch (index : Nat)
  /-- The server acts on one exchange. -/
  | command (number : Nat) (command : Command)
  /-- The server accepts no more connections. -/
  | shutDown
  /-- The loops change in some way. When a loop takes a tick is not said here: ticks may come at
  any time. -/
  | arrange (loops : List TickLoop) (loopsStarted alarms : Nat) (stoppable : Option Nat)

/-- Whether an action is a tick. -/
def Action.isTick : Action → Bool
  | .tick => true
  | _ => false

theorem Action.ne_tick {action : Action} (h : action.isTick = false) : action ≠ .tick := by
  rintro rfl
  cases h

/-- The session after an action. -/
def perform (s : Session) : Action → Session
  | .start => s.startSubscribers
  | .wait time => { s with now := s.now + time }
  | .tick => s.tick.1
  | .launch index =>
      match s.tasks[index]? with
      | some task => runTask { s with tasks := s.tasks.eraseIdx index } task
      | none => s
  | .command number command => s.command number command
  | .shutDown => { s with server := s.server.shutDown }
  | .arrange loops loopsStarted alarms stoppable =>
      { s with
        loops := loops
        loopsStarted := loopsStarted
        alarms := alarms
        stoppable := stoppable }

/-- Where no task waits, none begins to run. -/
theorem perform_launch_of_none {s : Session} {index : Nat} (none : s.tasks[index]? = none) :
    s.perform (.launch index) = s := by
  simp only [perform, none]

/-- The session after some actions, one after another. -/
def performAll (s : Session) (actions : List Action) : Session := actions.foldl perform s

@[simp] theorem performAll_nil (s : Session) : s.performAll [] = s := rfl

@[simp] theorem performAll_cons (s : Session) (action : Action) (actions : List Action) :
    s.performAll (action :: actions) = (s.perform action).performAll actions := rfl

theorem performAll_append (s : Session) (actions later : List Action) :
    s.performAll (actions ++ later) = (s.performAll actions).performAll later :=
  List.foldl_append

theorem performAll_concat (s : Session) (actions : List Action) (action : Action) :
    s.performAll (actions ++ [action]) = (s.performAll actions).perform action :=
  s.performAll_append actions [action]

/-! ## Tasks that wait

In a session all tasks begin to run at once, the first one first, while in a run of actions one of
them begins and the others wait. Both do the same, as no task looks at those that wait. The lemmas
say so of each part of a session that a task may run into. -/

/-- A session with other tasks waiting. -/
def withTasks (s : Session) (tasks : List Task) : Session := { s with tasks := tasks }

/-- Members do not depend on the tasks that wait. -/
theorem memberArrival_withTasks (s : Session) (tasks : List Task) (member : Member)
    (arrival : Arrival) :
    (s.withTasks tasks).memberArrival member arrival
      = (s.memberArrival member arrival).withTasks tasks := by
  unfold memberArrival
  dsimp only [withTasks]
  split
  · rfl
  · split <;> rfl

theorem publicationArrival_withTasks (s : Session) (tasks : List Task) (p : Publication)
    (arrival : Arrival) :
    (s.withTasks tasks).publicationArrival p arrival
      = (s.publicationArrival p arrival).withTasks tasks := by
  cases arrival with
  | head status =>
      simp only [publicationArrival]
      split <;> rfl
  | body item => rfl
  | lost => rfl

theorem command_withTasks (s : Session) (tasks : List Task) (number : Nat) (c : Command) :
    (s.withTasks tasks).command number c = (s.command number c).withTasks tasks := by
  unfold command
  dsimp only [withTasks]
  split
  · rfl
  · rename_i server arrival _
    split
    · exact memberArrival_withTasks { s with server := server } tasks _ arrival
    · split
      · exact publicationArrival_withTasks { s with server := server } tasks _ arrival
      · rfl

theorem subscribe_withTasks (s : Session) (tasks : List Task) (id : Nat) :
    (s.withTasks tasks).subscribe id = (s.subscribe id).withTasks tasks := by
  unfold subscribe
  dsimp only [withTasks]
  split
  · rfl
  · split <;> rfl

theorem foldl_command_withTasks (s : Session) (tasks : List Task) (number : Nat)
    (commands : List Command) :
    commands.foldl (fun s c => s.command number c) (s.withTasks tasks)
      = (commands.foldl (fun s c => s.command number c) s).withTasks tasks := by
  induction commands generalizing s with
  | nil => rfl
  | cons c commands ih => rw [List.foldl_cons, List.foldl_cons, command_withTasks, ih]

theorem publish_withTasks (s : Session) (tasks : List Task) (payload : String) :
    (s.withTasks tasks).publish payload = (s.publish payload).withTasks tasks := by
  unfold publish
  dsimp only [withTasks]
  split
  · rfl
  · split
    · rfl
    · rename_i request _ _ server number _
      let p : Publication := { payload := payload, exchange := number, request := request }
      exact foldl_command_withTasks
        { s with server := server, publications := s.publications ++ [p] } tasks number
        (server.promptCommands request)

/-- A task runs in the same way whatever other tasks wait. -/
theorem runTask_withTasks (s : Session) (tasks : List Task) (task : Task) :
    (s.withTasks tasks).runTask task = (s.runTask task).withTasks tasks := by
  cases task with
  | subscribe id => exact subscribe_withTasks s tasks id
  | publish payload => exact publish_withTasks s tasks payload

end StreamLoad.Benchmark.Session
