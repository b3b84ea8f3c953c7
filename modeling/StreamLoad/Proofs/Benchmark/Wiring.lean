import StreamLoad.Proofs.Benchmark.Actions
import StreamLoad.Proofs.Benchmark.Members

/-! # What each action does to the members

Whatever an action is, all that it does to members and ledger is one `Crowd.Change`, and the members
go on attending to their exchanges (`change_perform`). So nothing that is said of members and ledger
later has to look at the server or at the requests to publish. A tick, which goes by the phase
machine, stands apart (`crowd_tick`).
-/

set_option autoImplicit false

namespace StreamLoad.Benchmark

namespace Session

open Crowd (Change Sound)

variable {size : Nat} {s : Session}

/-- Whether the stream of a member is open. -/
def isReading (m : Member) : Bool :=
  match m.subscription with
  | .asked => false
  | .reading _ => true

/-- The member that an action brings bytes of its stream, and the bytes. -/
def hearing? (s : Session) : Action → Option (Nat × List UInt8)
  | .command number (.send (b :: bytes)) =>
      (s.members.find? (·.exchange = number)).bind fun m =>
        if isReading m then some (m.id, b :: bytes) else none
  | _ => none

/-- Members and ledger are sound, and the members attend to their exchanges. -/
structure Wired (size : Nat) (s : Session) : Prop where
  sound : s.crowd.Sound size
  attended : Attended s.server s.members

theorem wired_start (settings : BenchmarkSettings) (client : Client) (server : Server) :
    Wired settings.poolSize (start settings client server) where
  sound :=
    { pool := by simp [crowd, start, BenchmarkLedger.empty, Pool.ofSize, Pool.size]
      nodup := List.nodup_nil
      bound := by simp [crowd, start]
      unstarted := fun _ => ⟨rfl, rfl⟩ }
  attended := .nil server

/-! ## An exchange of no member

The requests to publish have exchanges as well, and what is answered to them ends in a notice at
most. No member is concerned, and since a publish may be answered at once, this is shown for whole
lists of commands, too. -/

/-- What the server does on an exchange of no member has to do with none. -/
theorem command_of_free {number : Nat} (free : ∀ m ∈ s.members, m.exchange ≠ number)
    (c : Command) :
    (s.command number c).crowd = s.crowd
      ∧ Server.Touched number s.server (s.command number c).server := by
  have touched := Server.touched_act s.server number c
  have nobody : s.members.find? (·.exchange = number) = none :=
    List.find?_eq_none.mpr (by simpa using free)
  unfold command
  rcases acted : s.server.act number c with ⟨server, _ | arrival⟩
  · rw [acted] at touched
    exact ⟨rfl, touched⟩
  · rw [acted] at touched
    simp only [nobody]
    split
    · cases arrival with
      | head status =>
          simp only [publicationArrival]
          split <;> exact ⟨rfl, touched⟩
      | body item => exact ⟨rfl, touched⟩
      | lost => exact ⟨rfl, touched⟩
    · exact ⟨rfl, touched⟩

theorem foldl_command_of_free {number : Nat} (free : ∀ m ∈ s.members, m.exchange ≠ number)
    (commands : List Command) :
    (commands.foldl (fun s c => s.command number c) s).crowd = s.crowd
      ∧ Server.Touched number s.server
          (commands.foldl (fun s c => s.command number c) s).server := by
  induction commands generalizing s with
  | nil => exact ⟨rfl, .refl number s.server⟩
  | cons c commands ih =>
      obtain ⟨same, touched⟩ := command_of_free free c
      have members : (s.command number c).members = s.members := congrArg Crowd.members same
      obtain ⟨later, rest⟩ := ih (s := s.command number c) (members ▸ free)
      exact ⟨later.trans same, touched.trans rest⟩

/-- A publish, with what the server answers at once, has to do with no member. -/
theorem publish_kept (attended : Attended s.server s.members) (payload : String) :
    (s.publish payload).crowd = s.crowd
      ∧ Attended (s.publish payload).server (s.publish payload).members := by
  unfold publish
  split
  · exact ⟨rfl, attended⟩
  · split
    · exact ⟨rfl, attended⟩
    · rename_i request _ _ server number received
      obtain ⟨others, free⟩ := attended.receive received
      let p : Publication := { payload := payload, exchange := number, request := request }
      let asked : Session := { s with server := server, publications := s.publications ++ [p] }
      obtain ⟨same, touched⟩ := foldl_command_of_free (s := asked) free
        (server.promptCommands request)
      have members : ((server.promptCommands request).foldl (fun s c => s.command number c)
          asked).members = s.members := congrArg Crowd.members same
      refine ⟨same, ?_⟩
      show Attended _ ((server.promptCommands request).foldl (fun s c => s.command number c)
        asked).members
      rw [members]
      exact others.touch touched free

/-! ## The exchange of a member

A member waits for its answer or reads an open stream. In each of these states a command does one of
few things: the client sees nothing, the member reads on, its stream ends, or it does not get one.
Each of them is a `Change`, and the member and the server agree afterwards. -/

/-- What the client sees on the exchange of a member, the member sees. -/
theorem command_of_member (attended : Attended s.server s.members) {m : Member}
    (runs : m ∈ s.members) {c : Command} {server : Server} {arrival : Arrival}
    (acted : s.server.act m.exchange c = (server, some arrival)) :
    s.command m.exchange c = memberArrival { s with server := server } m arrival := by
  simp only [command, acted, find?_of_nodup_map attended.nodup runs]

/-- A member reads on, and nothing ends its stream. -/
theorem memberArrival_of_read {m : Member} {arrival : Arrival} {subscription : Subscription}
    {events : List Event}
    (read : m.subscription.seekEvents m.request arrival
      = { subscription := subscription, events := events }) :
    s.memberArrival m arrival
      = { s with
          members := setSubscription s.members m.id subscription
          ledger := events.foldl (fun l event => l.receive m.id event) s.ledger } := by
  simp only [memberArrival, read]
  rfl

/-- A piece of its stream is all that a member reads, if it has read what came before. -/
theorem seekEvents_chunk (request : Request) (scanner : Scanner) (bytes : List UInt8) :
    (Subscription.reading { scanner := scanner }).seekEvents request (.body (.chunk bytes))
      = { subscription := .reading { scanner := (scanner.feed bytes).1 }
          events := (scanner.feed bytes).2 } := by
  simp [Subscription.seekEvents, Subscription.receive, Reader.receive, Subscription.readAll]

/-- The stream of a member ends, and nothing was left to read. -/
theorem crowd_memberArrival_of_lost {m : Member} {arrival : Arrival} {reader : Reader}
    {failure : Failure}
    (read : m.subscription.seekEvents m.request arrival
      = { subscription := .reading reader, failure := some failure }) :
    (s.memberArrival m arrival).crowd
        = { s.crowd with
            members := s.members.filter (·.id ≠ m.id)
            ledger := (s.ledger.lose m.id failure).1 }
      ∧ (s.memberArrival m arrival).server = s.server
      ∧ (s.memberArrival m arrival).members = s.members.filter (·.id ≠ m.id) := by
  have left := filter_setSubscription s.members m.id (.reading reader)
  simp only [memberArrival, read, List.foldl_nil, loseMember]
  refine ⟨?_, rfl, left⟩
  rw [← left]
  rfl

/-- A member does not get its stream. -/
theorem crowd_memberArrival_of_refused {m : Member} {arrival : Arrival} {failure : Failure}
    (read : m.subscription.seekEvents m.request arrival
      = { subscription := .asked, failure := some failure }) :
    (s.memberArrival m arrival).crowd
        = { s.crowd with
            members := s.members.filter (·.id ≠ m.id)
            ledger := (s.ledger.refuse m.id failure).1 }
      ∧ (s.memberArrival m arrival).server = s.server
      ∧ (s.memberArrival m arrival).members = s.members.filter (·.id ≠ m.id) := by
  have left := filter_setSubscription s.members m.id .asked
  simp only [memberArrival, read, List.foldl_nil, refuseMember]
  refine ⟨?_, rfl, left⟩
  rw [← left]
  rfl

section Seen

variable {m : Member} {c : Command} {server : Server} {arrival : Arrival}

theorem change_of_unseen (wired : Wired size s) (number : Nat)
    (unseen : (s.server.act number c).2 = none) :
    Change s.crowd none (s.command number c).crowd
      ∧ Attended (s.command number c).server (s.command number c).members := by
  have same := Server.act_of_unseen unseen
  rcases acted : s.server.act number c with ⟨server, _ | arrival⟩
  · rw [acted] at same
    simp only [command, acted]
    exact ⟨.still, wired.attended.congr same⟩
  · rw [acted] at unseen
    cases unseen

theorem change_of_lost (wired : Wired size s) (runs : m ∈ s.members)
    (acted : s.server.act m.exchange c = (server, some arrival)) (reader : Reader)
    (failure : Failure)
    (read : m.subscription.seekEvents m.request arrival
      = { subscription := .reading reader, failure := some failure }) :
    Change s.crowd none (s.command m.exchange c).crowd
      ∧ Attended (s.command m.exchange c).server (s.command m.exchange c).members := by
  have touched := Server.touched_act s.server m.exchange c
  obtain ⟨crowd, same, members⟩ :=
    crowd_memberArrival_of_lost (s := { s with server := server }) read
  rw [acted] at touched
  rw [command_of_member wired.attended runs acted, crowd, same, members]
  exact ⟨.loses failure runs, wired.attended.leave runs touched⟩

theorem change_of_refused (wired : Wired size s) (runs : m ∈ s.members)
    (acted : s.server.act m.exchange c = (server, some arrival)) (asked : m.subscription = .asked)
    (failure : Failure)
    (read : m.subscription.seekEvents m.request arrival
      = { subscription := .asked, failure := some failure }) :
    Change s.crowd none (s.command m.exchange c).crowd
      ∧ Attended (s.command m.exchange c).server (s.command m.exchange c).members := by
  have touched := Server.touched_act s.server m.exchange c
  obtain ⟨crowd, same, members⟩ :=
    crowd_memberArrival_of_refused (s := { s with server := server }) read
  rw [acted] at touched
  rw [command_of_member wired.attended runs acted, crowd, same, members]
  exact ⟨.refuses failure runs asked, wired.attended.leave runs touched⟩

/-- A member that reads on attends to its exchange if the server goes on, too. -/
theorem attended_of_read (wired : Wired size s) (runs : m ∈ s.members)
    (acted : s.server.act m.exchange c = (server, some arrival)) {e : Exchange}
    (found : server.exchanges[m.exchange]? = some e) {subscription : Subscription}
    (attends : Attends subscription e.state) :
    Attended server (setSubscription s.members m.id subscription) := by
  have touched := Server.touched_act s.server m.exchange c
  rw [acted] at touched
  exact wired.attended.goOn wired.sound.nodup_ids runs touched found attends

end Seen

/-- What the server does on the exchange of a member that waits for its answer. -/
theorem change_command_of_asked (wired : Wired size s) {m : Member} (runs : m ∈ s.members)
    (asked : m.subscription = .asked) {e : Exchange}
    (found : s.server.exchanges[m.exchange]? = some e) (waiting : e.state = .waiting)
    (c : Command) :
    Change s.crowd none (s.command m.exchange c).crowd
      ∧ Attended (s.command m.exchange c).server (s.command m.exchange c).members := by
  have acted := Server.act_of_found found c
  rw [waiting] at acted
  cases c with
  | head status =>
      by_cases success : isSuccess status = true
      · by_cases empty : status = noContent
        · -- The answer has no body, so the stream ends as it opens.
          refine change_of_lost wired runs acted { inbox := [.close] } .streamClosed ?_
          rw [asked, empty]
          rfl
        · have opened : (ExchangeState.waiting.act (.head status)).1 = .streaming := by
            simp [ExchangeState.act, success, empty]
          have read : m.subscription.seekEvents m.request (.head status)
              = { subscription := .reading {} } := by
            rw [asked]
            simp [Subscription.seekEvents, Subscription.receive, Subscription.readAll, success,
              empty]
          rw [command_of_member wired.attended runs acted, memberArrival_of_read read]
          refine ⟨.opens runs asked, attended_of_read wired runs acted
            (Server.getElem?_setState found _) (Or.inr ⟨{}, rfl, opened⟩)⟩
      · refine change_of_refused wired runs acted asked (.unexpectedStatus status) ?_
        rw [asked]
        simp [Subscription.seekEvents, Subscription.receive, success]
  | drop =>
      refine change_of_refused wired runs acted asked (.request m.request.lost) ?_
      rw [asked]
      rfl
  | send bytes => exact change_of_unseen wired m.exchange (by rw [acted]; rfl)
  | close => exact change_of_unseen wired m.exchange (by rw [acted]; rfl)

/-- What the server does on the exchange of a member whose stream is open. -/
theorem change_command_of_reading (wired : Wired size s) {m : Member} (runs : m ∈ s.members)
    {scanner : Scanner} (reading : m.subscription = .reading { scanner := scanner }) {e : Exchange}
    (found : s.server.exchanges[m.exchange]? = some e) (streaming : e.state = .streaming)
    (c : Command) :
    Change s.crowd (s.hearing? (.command m.exchange c)) (s.command m.exchange c).crowd
      ∧ Attended (s.command m.exchange c).server (s.command m.exchange c).members := by
  have acted := Server.act_of_found found c
  rw [streaming] at acted
  cases c with
  | head status => exact change_of_unseen wired m.exchange (by rw [acted]; rfl)
  | send bytes =>
      cases bytes with
      | nil => exact change_of_unseen wired m.exchange (by rw [acted]; rfl)
      | cons b bytes =>
          have heard : s.hearing? (.command m.exchange (.send (b :: bytes)))
              = some (m.id, b :: bytes) := by
            simp [hearing?, find?_of_nodup_map wired.attended.nodup runs, isReading, reading]
          have read := seekEvents_chunk m.request scanner (b :: bytes)
          rw [← reading] at read
          rw [heard, command_of_member wired.attended runs acted, memberArrival_of_read read]
          exact ⟨.reads _ runs reading, attended_of_read wired runs acted
            (Server.getElem?_setState found _) (Or.inr ⟨_, rfl, rfl⟩)⟩
  | close =>
      refine change_of_lost wired runs acted { scanner := scanner, inbox := [.close] }
        .streamClosed ?_
      rw [reading]
      rfl
  | drop =>
      refine change_of_lost wired runs acted { scanner := scanner, inbox := [.close] }
        (.request .bodyCut) ?_
      rw [reading]
      rfl

/-- Nobody hears what comes for a member whose stream is not open, or for no member. -/
theorem hearing?_of_deaf {number : Nat}
    (deaf : ∀ m, s.members.find? (·.exchange = number) = some m → isReading m = false)
    (c : Command) : s.hearing? (.command number c) = none := by
  unfold hearing?
  split
  · rename_i same
    cases same
    cases found : s.members.find? (·.exchange = number) with
    | none => rfl
    | some m => simp [deaf m found]
  · rfl

/-- What the server does on an exchange. -/
theorem change_command (wired : Wired size s) (number : Nat) (c : Command) :
    Change s.crowd (s.hearing? (.command number c)) (s.command number c).crowd
      ∧ Attended (s.command number c).server (s.command number c).members := by
  by_cases mine : ∃ m ∈ s.members, m.exchange = number
  · obtain ⟨m, runs, rfl⟩ := mine
    obtain ⟨e, found, ⟨asked, waiting⟩ | ⟨scanner, reading, streaming⟩⟩ :=
      wired.attended.attends m runs
    · have silent : s.hearing? (.command m.exchange c) = none := by
        refine hearing?_of_deaf (fun m' first => ?_) c
        rw [find?_of_nodup_map wired.attended.nodup runs] at first
        cases first
        simp [isReading, asked]
      rw [silent]
      exact change_command_of_asked wired runs asked found waiting c
    · exact change_command_of_reading wired runs reading found streaming c
  · -- No member has the exchange: it is that of a request to publish, or there is none.
    have free : ∀ m ∈ s.members, m.exchange ≠ number := fun m hm same => mine ⟨m, hm, same⟩
    have nobody : s.members.find? (·.exchange = number) = none :=
      List.find?_eq_none.mpr (by simpa using free)
    have silent : s.hearing? (.command number c) = none :=
      hearing?_of_deaf (by simp [nobody]) c
    obtain ⟨same, touched⟩ := command_of_free free c
    have members : (s.command number c).members = s.members := congrArg Crowd.members same
    rw [silent, same, members]
    exact ⟨.still, wired.attended.touch touched free⟩

/-! ## Tasks -/

theorem subscribers_append (front back : List Task) :
    (front ++ back).filterMap Task.subscriber?
      = front.filterMap Task.subscriber? ++ back.filterMap Task.subscriber? :=
  List.filterMap_append

/-- The member of a task that begins to run is no longer waited for. -/
theorem crowd_of_subscribe {index id : Nat} (next : s.tasks[index]? = some (.subscribe id))
    (sound : s.crowd.Sound size) :
    id ∈ s.crowd.awaited
      ∧ crowd (s.withTasks (s.tasks.eraseIdx index))
        = { s.crowd with awaited := s.crowd.awaited.erase id } := by
  obtain ⟨front, back, split, rest⟩ := exists_append_of_getElem? next
  have waited : s.crowd.awaited
      = front.filterMap Task.subscriber? ++ id :: back.filterMap Task.subscriber? := by
    show s.tasks.filterMap Task.subscriber? = _
    rw [split, subscribers_append, List.filterMap_cons]
    rfl
  have apart : id ∉ front.filterMap Task.subscriber? := by
    have once := List.Nodup.of_append_left sound.nodup
    rw [waited] at once
    exact fun early => (List.nodup_append.mp once).2.2 id early id List.mem_cons_self rfl
  refine ⟨by rw [waited]; exact List.mem_append_right _ List.mem_cons_self, ?_⟩
  rw [waited, List.erase_append_right _ apart, List.erase_cons_head, ← subscribers_append, ← rest]
  rfl

theorem crowd_of_publish {index : Nat} {payload : String}
    (next : s.tasks[index]? = some (.publish payload)) :
    crowd (s.withTasks (s.tasks.eraseIdx index)) = s.crowd := by
  obtain ⟨front, back, split, rest⟩ := exists_append_of_getElem? next
  have waited : (s.tasks.eraseIdx index).filterMap Task.subscriber?
      = s.tasks.filterMap Task.subscriber? := by
    rw [rest, split, subscribers_append, subscribers_append, List.filterMap_cons]
    rfl
  simp only [crowd, withTasks, waited]

/-- The task of a member begins to run. -/
theorem change_subscribe (wired : Wired size s) {id : Nat} (waits : id ∈ s.crowd.awaited)
    {tasks : List Task}
    (erased : crowd (s.withTasks tasks) = { s.crowd with awaited := s.crowd.awaited.erase id }) :
    Change s.crowd none ((s.withTasks tasks).subscribe id).crowd
      ∧ Attended ((s.withTasks tasks).subscribe id).server
          ((s.withTasks tasks).subscribe id).members := by
  have awaited : tasks.filterMap Task.subscriber? = s.crowd.awaited.erase id :=
    congrArg Crowd.awaited erased
  -- A member whose request is not sent has not run, so that nobody leaves.
  have refused (failure : Failure) :
      Change s.crowd none ((s.withTasks tasks).refuseMember id failure).crowd
        ∧ Attended ((s.withTasks tasks).refuseMember id failure).server
            ((s.withTasks tasks).refuseMember id failure).members := by
    have nobody : s.members.filter (·.id ≠ id) = s.members :=
      List.filter_eq_self.mpr fun m hm => by
        simpa using wired.sound.ne_of_awaited waits hm
    have members : ((s.withTasks tasks).refuseMember id failure).members = s.members := nobody
    have same : ((s.withTasks tasks).refuseMember id failure).crowd
        = { s.crowd with
            awaited := s.crowd.awaited.erase id
            ledger := (s.crowd.ledger.refuse id failure).1 } := by
      rw [← awaited]
      show Crowd.mk _ _ _ ((s.withTasks tasks).refuseMember id failure).members _ = _
      rw [members]
      rfl
    rw [same, members]
    exact ⟨.refused failure waits, wired.attended⟩
  unfold subscribe
  split
  · exact refused _
  · split
    · exact refused _
    · rename_i request _ _ server number received
      refine ⟨?_, wired.attended.join id received⟩
      have asked := Change.asked (c := s.crowd) number request waits
      rw [← awaited] at asked
      exact asked

/-- A task begins to run. -/
theorem change_launch (wired : Wired size s) (index : Nat) :
    Change s.crowd none (s.perform (.launch index)).crowd
      ∧ Attended (s.perform (.launch index)).server (s.perform (.launch index)).members := by
  cases next : s.tasks[index]? with
  | none =>
      rw [perform_launch_of_none next]
      exact ⟨.still, wired.attended⟩
  | some task =>
      have runs : s.perform (.launch index)
          = (s.withTasks (s.tasks.eraseIdx index)).runTask task := by
        simp only [perform, next]
        rfl
      rw [runs]
      cases task with
      | subscribe id =>
          obtain ⟨waits, erased⟩ := crowd_of_subscribe next wired.sound
          simp only [runTask]
          exact change_subscribe wired waits erased
      | publish payload =>
          obtain ⟨same, attended⟩ :=
            publish_kept (s := s.withTasks (s.tasks.eraseIdx index)) wired.attended payload
          simp only [runTask]
          refine ⟨?_, attended⟩
          rw [same.trans (crowd_of_publish next)]
          exact .still

/-! ## Every action -/

/-- The subscribers are started. -/
theorem change_startSubscribers (s : Session) : Change s.crowd none s.startSubscribers.crowd := by
  by_cases started : s.started = true
  · have same : s.startSubscribers = s := if_pos started
    rw [same]
    exact .still
  · have awaited : (s.tasks ++ (List.range s.ledger.pool.size).map Task.subscribe).filterMap
        Task.subscriber? = s.crowd.awaited ++ List.range s.ledger.pool.size := by
      rw [subscribers_append, List.filterMap_map]
      exact congrArg _ List.filterMap_some
    have next : s.startSubscribers.crowd
        = { s.crowd with
            started := true
            awaited := s.crowd.awaited ++ List.range s.ledger.pool.size
            ledger := s.ledger.start s.now } := by
      rw [startSubscribers, if_neg started, ← awaited]
      rfl
    rw [next]
    exact .start s.now (Bool.not_eq_true _ ▸ started)

theorem members_startSubscribers (s : Session) :
    s.startSubscribers.members = s.members ∧ s.startSubscribers.server = s.server := by
  unfold startSubscribers
  split <;> exact ⟨rfl, rfl⟩

/-- What an action other than a tick does to the members and the ledger. -/
theorem change_perform (wired : Wired size s) {action : Action} (tickless : action ≠ .tick) :
    Change s.crowd (s.hearing? action) (s.perform action).crowd
      ∧ Attended (s.perform action).server (s.perform action).members := by
  cases action with
  | tick => exact absurd rfl tickless
  | start =>
      obtain ⟨members, server⟩ := members_startSubscribers s
      refine ⟨change_startSubscribers s, ?_⟩
      simp only [perform]
      rw [members, server]
      exact wired.attended
  | wait time => exact ⟨.still, wired.attended⟩
  | launch index => exact change_launch wired index
  | command number c => exact change_command wired number c
  | shutDown => exact ⟨.still, wired.attended.congr rfl⟩
  | arrange loops loopsStarted alarms stoppable => exact ⟨.still, wired.attended⟩

/-- What a tick does to the members and the ledger. -/
theorem crowd_tick (s : Session) :
    s.tick.1.crowd = { s.crowd with ledger := (s.ledger.tick s.now).1 } := by
  have tasks : s.tick.1.tasks.filterMap Task.subscriber? = s.crowd.awaited := by
    simp only [tick, note]
    split
    · rw [subscribers_append]
      exact List.append_nil _
    · rfl
  show Crowd.mk _ _ (s.tick.1.tasks.filterMap Task.subscriber?) _ _ = _
  rw [tasks]
  rfl

namespace Wired

theorem tick (wired : Wired size s) : Wired size s.tick.1 := by
  refine ⟨?_, wired.attended⟩
  rw [crowd_tick]
  exact wired.sound.tick s.now

/-- Every action keeps members and server together. -/
theorem perform (wired : Wired size s) (action : Action) : Wired size (s.perform action) := by
  by_cases ticks : action = .tick
  · rw [ticks]
    exact wired.tick
  · obtain ⟨changed, attended⟩ := change_perform wired ticks
    exact ⟨wired.sound.change changed, attended⟩

theorem performAll (wired : Wired size s) (actions : List Action) :
    Wired size (s.performAll actions) := by
  induction actions generalizing s with
  | nil => exact wired
  | cons action actions ih => exact ih (wired.perform action)

end Wired

end Session

end StreamLoad.Benchmark
