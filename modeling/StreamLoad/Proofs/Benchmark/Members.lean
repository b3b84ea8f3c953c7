import StreamLoad.Proofs.Benchmark.Sessions
import StreamLoad.Proofs.Lists
import StreamLoad.Proofs.Server

/-! # Members and their streams

Each member of the pool asks for a stream once. Until then its task waits; from then on it has an
exchange of its own at the server, and agrees with the server on how far the answer has come
(`Attended`). What happens to members and ledger is then one of a few things: `Crowd.Change` has one
constructor for each way in which the part of a member goes on, and none of them brings in a member
twice (`Crowd.Sound`).
-/

set_option autoImplicit false

namespace StreamLoad.Benchmark

/-! ## Members and the server

What a member has seen and where its exchange stands can get apart only by what is still under way,
and nothing is: a member reads all that arrives as it arrives. So `Attends` allows two states only,
a member that waits while its answer has not begun, and one that has read all of an open stream. -/

/-- A member agrees with the server on how far its answer has come: it has not begun, or all of it
that was sent is read. -/
def Attends (subscription : Subscription) (state : ExchangeState) : Prop :=
  (subscription = .asked ∧ state = .waiting)
    ∨ ∃ scanner : Scanner, subscription = .reading { scanner := scanner } ∧ state = .streaming

/-- Each member has an exchange of its own, and attends to it. -/
structure Attended (server : Server) (members : List Member) : Prop where
  nodup : (members.map (·.exchange)).Nodup
  attends : ∀ m ∈ members, ∃ e, server.exchanges[m.exchange]? = some e
    ∧ Attends m.subscription e.state

/-- Members of which one has another subscription. -/
def setSubscription (members : List Member) (id : Nat) (subscription : Subscription) :
    List Member :=
  members.map fun m => if m.id = id then { m with subscription := subscription } else m

/-- How far the answer of a member has come has no part in what else is known of it. -/
theorem map_setSubscription {β : Type} {f : Member → β}
    (blind : ∀ (m : Member) (subscription : Subscription),
      f { m with subscription := subscription } = f m)
    (members : List Member) (id : Nat) (subscription : Subscription) :
    (setSubscription members id subscription).map f = members.map f := by
  rw [setSubscription, List.map_map]
  refine List.map_congr_left fun m _ => ?_
  rw [Function.comp_apply]
  split
  · exact blind m subscription
  · rfl

theorem mem_setSubscription {members : List Member} {id : Nat} {subscription : Subscription}
    {m : Member} (hm : m ∈ setSubscription members id subscription) :
    (m ∈ members ∧ m.id ≠ id)
      ∨ ∃ old ∈ members, old.id = id ∧ m = { old with subscription := subscription } := by
  obtain ⟨old, hold, rfl⟩ := List.mem_map.mp hm
  split
  · exact Or.inr ⟨old, hold, ‹_›, rfl⟩
  · exact Or.inl ⟨hold, ‹_›⟩

/-- Who leaves takes the subscription along. -/
theorem filter_setSubscription (members : List Member) (id : Nat) (subscription : Subscription) :
    (setSubscription members id subscription).filter (·.id ≠ id)
      = members.filter (·.id ≠ id) := by
  rw [setSubscription]
  induction members with
  | nil => rfl
  | cons m members ih =>
      by_cases hm : m.id = id
      · simpa [hm] using ih
      · simpa [hm] using ih

namespace Attended

variable {server server' : Server} {members : List Member}

theorem nil (server : Server) : Attended server [] := ⟨List.nodup_nil, by simp⟩

theorem eq_of_exchange (h : Attended server members) {m m' : Member} (hm : m ∈ members)
    (hm' : m' ∈ members) (same : m.exchange = m'.exchange) : m = m' :=
  List.inj_on_of_nodup_map h.nodup hm hm' same

theorem congr (h : Attended server members) (same : server'.exchanges = server.exchanges) :
    Attended server' members :=
  ⟨h.nodup, same ▸ h.attends⟩

/-- An exchange changes that belongs to no member. -/
theorem touch (h : Attended server members) {number : Nat}
    (touched : Server.Touched number server server')
    (free : ∀ m ∈ members, m.exchange ≠ number) : Attended server' members := by
  refine ⟨h.nodup, fun m hm => ?_⟩
  rw [touched.other (free m hm)]
  exact h.attends m hm

/-- A member leaves, and its exchange changes. -/
theorem leave (h : Attended server members) {m : Member} (hm : m ∈ members)
    (touched : Server.Touched m.exchange server server') :
    Attended server' (members.filter (·.id ≠ m.id)) := by
  refine ⟨h.nodup.sublist (List.filter_sublist.map _), fun x hx => ?_⟩
  obtain ⟨old, apart⟩ := List.mem_filter.mp hx
  have other : x.exchange ≠ m.exchange := by
    intro same
    rw [h.eq_of_exchange old hm same] at apart
    simp at apart
  rw [touched.other other]
  exact h.attends x old

/-- A member goes on as the server does. -/
theorem goOn (h : Attended server members) (ids : (members.map (·.id)).Nodup) {m : Member}
    (hm : m ∈ members) (touched : Server.Touched m.exchange server server')
    {subscription : Subscription} {e : Exchange}
    (found : server'.exchanges[m.exchange]? = some e) (attends : Attends subscription e.state) :
    Attended server' (setSubscription members m.id subscription) := by
  have exchanges : (setSubscription members m.id subscription).map (·.exchange)
      = members.map (·.exchange) := map_setSubscription (fun _ _ => rfl) _ _ _
  refine ⟨exchanges.symm ▸ h.nodup, fun x hx => ?_⟩
  rcases mem_setSubscription hx with ⟨old, apart⟩ | ⟨old, hold, same, rfl⟩
  · have other : x.exchange ≠ m.exchange := fun same =>
      apart (congrArg Member.id (h.eq_of_exchange old hm same))
    rw [touched.other other]
    exact h.attends x old
  · obtain rfl : old = m := List.inj_on_of_nodup_map ids hold hm same
    exact ⟨e, found, attends⟩

section Received

variable {request : Request} {number : Nat}

/-- Another request comes to the server. -/
theorem receive (h : Attended server members)
    (received : server.receive request = (server', some number)) :
    Attended server' members ∧ ∀ m ∈ members, m.exchange ≠ number := by
  refine ⟨⟨h.nodup, fun m hm => ?_⟩, fun m hm => ?_⟩
  · obtain ⟨e, found, attends⟩ := h.attends m hm
    exact ⟨e, (Server.getElem?_receive_of_some received found).1, attends⟩
  · obtain ⟨e, found, -⟩ := h.attends m hm
    exact (Server.getElem?_receive_of_some received found).2

/-- A member asks for its stream. -/
theorem join (h : Attended server members) (id : Nat)
    (received : server.receive request = (server', some number)) :
    Attended server' (members ++ [{ id := id, exchange := number, request := request }]) := by
  obtain ⟨others, free⟩ := h.receive received
  refine ⟨?_, fun m hm => ?_⟩
  · rw [List.map_append, List.map_singleton, List.nodup_append]
    refine ⟨h.nodup, List.nodup_singleton _, fun x hx y hy => ?_⟩
    obtain ⟨m, hm, rfl⟩ := List.mem_map.mp hx
    rw [List.mem_singleton.mp hy]
    exact free m hm
  · rcases List.mem_append.mp hm with old | new
    · exact others.attends m old
    · rw [List.mem_singleton.mp new]
      exact ⟨_, Server.getElem?_receive received, Or.inl ⟨rfl, rfl⟩⟩

end Received

end Attended

/-! ## What happens to members

A session has many parts, and only three of them matter for what becomes of the members: who still
waits to subscribe, who runs, and the ledger. `Crowd` is these three. The constructors of `Change`
are the ways in which one member goes on, with the bytes it is brought, so that later modules need
neither server nor tasks. -/

/-- The member that a waiting task is to subscribe. -/
def Task.subscriber? : Task → Option Nat
  | .subscribe id => some id
  | .publish _ => none

/-- The part of a session that the members and the ledger are. -/
structure Crowd where
  settings : BenchmarkSettings
  started : Bool
  /-- The members whose task does not run yet. -/
  awaited : List Nat
  members : List Member
  ledger : BenchmarkLedger

/-- The members and the ledger of a session. -/
def Session.crowd (s : Session) : Crowd :=
  { settings := s.settings
    started := s.started
    awaited := s.tasks.filterMap Task.subscriber?
    members := s.members
    ledger := s.ledger }

namespace Crowd

/-- What an action other than a tick does to members and ledger; the bytes that it brings a member,
if any, stand beside it. -/
inductive Change (c : Crowd) : Option (Nat × List UInt8) → Crowd → Prop where
  | still : Change c none c
  | start (now : Nat) (unstarted : c.started = false) :
      Change c none
        { c with
          started := true
          awaited := c.awaited ++ List.range c.ledger.pool.size
          ledger := c.ledger.start now }
  /-- The request of a member cannot be sent. -/
  | refused {id : Nat} (failure : Failure) (waits : id ∈ c.awaited) :
      Change c none
        { c with awaited := c.awaited.erase id, ledger := (c.ledger.refuse id failure).1 }
  | asked {id : Nat} (exchange : Nat) (request : Request) (waits : id ∈ c.awaited) :
      Change c none
        { c with
          awaited := c.awaited.erase id
          members := c.members ++ [{ id := id, exchange := exchange, request := request }] }
  /-- The stream of a member opens. -/
  | opens {m : Member} (runs : m ∈ c.members) (asked : m.subscription = .asked) :
      Change c none { c with members := setSubscription c.members m.id (.reading {}) }
  | reads {m : Member} {scanner : Scanner} (bytes : List UInt8) (runs : m ∈ c.members)
      (reading : m.subscription = .reading { scanner := scanner }) :
      Change c (some (m.id, bytes))
        { c with
          members :=
            setSubscription c.members m.id (.reading { scanner := (scanner.feed bytes).1 })
          ledger :=
            (scanner.feed bytes).2.foldl (fun l event => l.receive m.id event) c.ledger }
  /-- A member does not get its stream. -/
  | refuses {m : Member} (failure : Failure) (runs : m ∈ c.members)
      (asked : m.subscription = .asked) :
      Change c none
        { c with
          members := c.members.filter (·.id ≠ m.id)
          ledger := (c.ledger.refuse m.id failure).1 }
  /-- The stream of a member ends. -/
  | loses {m : Member} (failure : Failure) (runs : m ∈ c.members) :
      Change c none
        { c with
          members := c.members.filter (·.id ≠ m.id)
          ledger := (c.ledger.lose m.id failure).1 }

/-- Each member is waited for or runs once at most, and nobody before the subscribers are
started. -/
structure Sound (size : Nat) (c : Crowd) : Prop where
  pool : c.ledger.pool.size = size
  nodup : (c.awaited ++ c.members.map (·.id)).Nodup
  bound : ∀ id ∈ c.awaited ++ c.members.map (·.id), id < size
  unstarted : c.started = false → c.awaited = [] ∧ c.members = []

namespace Sound

variable {size : Nat} {c c' : Crowd}

theorem nodup_ids (h : c.Sound size) : (c.members.map (·.id)).Nodup :=
  List.Nodup.of_append_right h.nodup

theorem lt_of_awaited (h : c.Sound size) {id : Nat} (waits : id ∈ c.awaited) : id < size :=
  h.bound id (List.mem_append_left _ waits)

theorem lt_of_member (h : c.Sound size) {m : Member} (runs : m ∈ c.members) : m.id < size :=
  h.bound m.id (List.mem_append_right _ (List.mem_map_of_mem runs))

/-- Nobody who is waited for runs. -/
theorem ne_of_awaited (h : c.Sound size) {id : Nat} (waits : id ∈ c.awaited) {m : Member}
    (runs : m ∈ c.members) : m.id ≠ id := by
  intro same
  have apart := (List.nodup_append.mp h.nodup).2.2
  exact apart id waits m.id (List.mem_map_of_mem runs) same.symm

theorem started_of_awaited (h : c.Sound size) {id : Nat} (waits : id ∈ c.awaited) :
    c.started = true := by
  by_contra unstarted
  rw [(h.unstarted (Bool.not_eq_true _ ▸ unstarted)).1] at waits
  cases waits

theorem started_of_member (h : c.Sound size) {m : Member} (runs : m ∈ c.members) :
    c.started = true := by
  by_contra unstarted
  rw [(h.unstarted (Bool.not_eq_true _ ▸ unstarted)).2] at runs
  cases runs

/-- Nobody comes in who was not there before. -/
theorem of_subset (h : c.Sound size) (pool : c'.ledger.pool.size = c.ledger.pool.size)
    (nodup : (c'.awaited ++ c'.members.map (·.id)).Nodup)
    (subset : c'.awaited ++ c'.members.map (·.id) ⊆ c.awaited ++ c.members.map (·.id))
    (started : c'.started = c.started) : c'.Sound size := by
  refine ⟨pool.trans h.pool, nodup, fun id hid => h.bound id (subset hid), fun unstarted => ?_⟩
  obtain ⟨none, nobody⟩ := h.unstarted (started ▸ unstarted)
  rw [none, nobody] at subset
  have empty := List.append_eq_nil_iff.mp (List.subset_nil.mp subset)
  exact ⟨empty.1, List.map_eq_nil_iff.mp empty.2⟩

theorem tick (h : c.Sound size) (now : Nat) :
    Sound size { c with ledger := (c.ledger.tick now).1 } :=
  h.of_subset rfl h.nodup (fun _ hid => hid) rfl

/-- What an action does to members and ledger keeps them sound. -/
theorem change (h : c.Sound size) {heard : Option (Nat × List UInt8)}
    (changed : Change c heard c') : c'.Sound size := by
  -- Whoever is refused or lost is taken out of one of the two lists, and nobody is added.
  have erased (id : Nat) :
      (c.awaited.erase id ++ c.members.map (·.id)).Sublist (c.awaited ++ c.members.map (·.id)) :=
    List.erase_sublist.append (List.Sublist.refl _)
  have left (id : Nat) : (c.awaited ++ (c.members.filter (·.id ≠ id)).map (·.id)).Sublist
      (c.awaited ++ c.members.map (·.id)) :=
    (List.Sublist.refl _).append (List.filter_sublist.map _)
  cases changed with
  | still => exact h
  | start now unstarted =>
      obtain ⟨none, nobody⟩ := h.unstarted unstarted
      refine ⟨h.pool, ?_, fun id hid => ?_, nofun⟩
      · simpa [none, nobody] using List.nodup_range
      · rw [← h.pool]
        simpa [none, nobody] using hid
  | @refused id failure waits =>
      refine h.of_subset ?_ (h.nodup.sublist (erased id)) (erased id).subset rfl
      exact BenchmarkLedger.size_pool_apply c.ledger (.refuse ⟨id, h.lt_of_awaited waits⟩ failure)
  | @asked id exchange request waits =>
      -- The member goes from those who are waited for to those who run.
      have moved : (c.awaited.erase id ++ (c.members.map (·.id) ++ [id])).Perm
          (c.awaited ++ c.members.map (·.id)) := by
        rw [← List.append_assoc]
        exact (List.perm_append_singleton id _).trans
          ((List.perm_cons_erase waits).symm.append_right _)
      refine h.of_subset rfl ?_ ?_ rfl
      · rw [List.map_append]
        exact moved.nodup_iff.mpr h.nodup
      · rw [List.map_append]
        exact moved.subset
  | opens runs asked =>
      refine h.of_subset rfl ?_ ?_ rfl
      · rw [map_setSubscription fun _ _ => rfl]
        exact h.nodup
      · rw [map_setSubscription fun _ _ => rfl]
        exact fun _ hid => hid
  | @reads m scanner bytes runs reading =>
      have pool := Session.foldl_receive c.ledger ⟨m.id, h.lt_of_member runs⟩
        (scanner.feed bytes).2
      refine h.of_subset ?_ ?_ ?_ rfl
      · rw [pool]
        exact BenchmarkLedger.size_pool_run _ _
      · rw [map_setSubscription fun _ _ => rfl]
        exact h.nodup
      · rw [map_setSubscription fun _ _ => rfl]
        exact fun _ hid => hid
  | @refuses m failure runs asked =>
      refine h.of_subset ?_ (h.nodup.sublist (left m.id)) (left m.id).subset rfl
      exact BenchmarkLedger.size_pool_apply c.ledger (.refuse ⟨m.id, h.lt_of_member runs⟩ failure)
  | @loses m failure runs =>
      refine h.of_subset ?_ (h.nodup.sublist (left m.id)) (left m.id).subset rfl
      exact BenchmarkLedger.size_pool_apply c.ledger (.lose ⟨m.id, h.lt_of_member runs⟩ failure)

end Sound

end Crowd

end StreamLoad.Benchmark
