import StreamLoad.Proofs.Benchmark.Wiring
import StreamLoad.Proofs.Event.Short
import StreamLoad.Proofs.Histories

/-! # What members have heard

The bytes that a run brings a member are its `stream`, from the opening of the stream on. A member
has read all of them: as long as no line of the stream is too long, its scanner holds the line under
way and nothing else (`Followed`). So the scanner of a member can be told from the bytes alone, and
the chunks they came in are forgotten.
-/

set_option autoImplicit false

namespace StreamLoad.Benchmark

/-- The bytes that one member is brought among those of all members. -/
def bytesTo (id : Nat) (heard : List (Nat × List UInt8)) : List UInt8 :=
  (heard.filter (·.1 = id)).flatMap (·.2)

@[simp] theorem bytesTo_nil (id : Nat) : bytesTo id [] = [] := rfl

theorem bytesTo_append (id : Nat) (heard later : List (Nat × List UInt8)) :
    bytesTo id (heard ++ later) = bytesTo id heard ++ bytesTo id later := by
  rw [bytesTo, List.filter_append, List.flatMap_append, bytesTo, bytesTo]

theorem bytesTo_cons (id : Nat) (x : Nat × List UInt8) (heard : List (Nat × List UInt8)) :
    bytesTo id (x :: heard) = (if x.1 = id then x.2 else []) ++ bytesTo id heard := by
  by_cases h : x.1 = id
  · simp [bytesTo, h]
  · simp [bytesTo, h]

theorem bytesTo_of_not_mem {id : Nat} {heard : List (Nat × List UInt8)}
    (h : ∀ x ∈ heard, x.1 ≠ id) : bytesTo id heard = [] := by
  have none : heard.filter (·.1 = id) = [] := List.filter_eq_nil_iff.mpr (by simpa using h)
  rw [bytesTo, none, List.flatMap_nil]

namespace Session

/-- What the members hear in a run, chunk by chunk. -/
def heard (s : Session) (actions : List Action) : List (Nat × List UInt8) :=
  answers perform (fun s action => (s.hearing? action).toList) s actions

/-- The bytes of its stream that a run brings a member. -/
def stream (s : Session) (id : Nat) (actions : List Action) : List UInt8 :=
  bytesTo id (s.heard actions)

@[simp] theorem stream_nil (s : Session) (id : Nat) : s.stream id [] = [] := rfl

/-- The bytes of a run are those of its first action and those of the rest. -/
theorem stream_cons (s : Session) (id : Nat) (action : Action) (actions : List Action) :
    s.stream id (action :: actions)
      = bytesTo id (s.hearing? action).toList ++ (s.perform action).stream id actions :=
  bytesTo_append id _ _

theorem stream_append (s : Session) (id : Nat) (actions later : List Action) :
    s.stream id (actions ++ later)
      = s.stream id actions ++ (s.performAll actions).stream id later := by
  rw [stream, heard, answers_append, bytesTo_append]
  rfl

theorem stream_concat (s : Session) (id : Nat) (actions : List Action) (action : Action) :
    s.stream id (actions ++ [action])
      = s.stream id actions ++ bytesTo id ((s.performAll actions).hearing? action).toList := by
  rw [stream, heard, answers_concat, bytesTo_append]
  rfl

end Session

/-! ## Scanners

`history` says what each member has heard before. A member whose stream is short never has a line
given up, so its scanner holds just the line under way (`reverse_held_scan`), whatever chunks the
bytes came in. -/

namespace Crowd

/-- What members have made of the bytes that they have heard so far. -/
structure Followed (history : Nat → List UInt8) (c : Crowd) : Prop where
  unstarted : c.started = false → ∀ id, history id = []
  awaited : ∀ id ∈ c.awaited, history id = []
  asked : ∀ m ∈ c.members, m.subscription = .asked → history m.id = []
  /-- The scanner of a member whose stream is short holds the line under way. -/
  reading : ∀ m ∈ c.members, ∀ scanner : Scanner,
    m.subscription = .reading { scanner := scanner } → IsShort (history m.id) →
      scanner = Scanner.after (history m.id)

namespace Followed

variable {size : Nat} {history : Nat → List UInt8} {c c' : Crowd}

/-- Nobody comes in, and nobody hears anything. -/
theorem of_subset (h : Followed history c) (started : c'.started = c.started)
    (awaited : c'.awaited ⊆ c.awaited) (members : c'.members ⊆ c.members) :
    Followed history c' where
  unstarted := started ▸ h.unstarted
  awaited id waits := h.awaited id (awaited waits)
  asked m runs := h.asked m (members runs)
  reading m runs := h.reading m (members runs)

/-- A member hears a chunk, and the others hear nothing. -/
theorem reads (h : Followed history c) (sound : c.Sound size) {m : Member} {scanner : Scanner}
    (bytes : List UInt8) (runs : m ∈ c.members)
    (reading : m.subscription = .reading { scanner := scanner }) {ledger : BenchmarkLedger} :
    Followed (fun id => history id ++ bytesTo id [(m.id, bytes)])
      { c with
        members := setSubscription c.members m.id (.reading { scanner := (scanner.feed bytes).1 })
        ledger := ledger } := by
  have others {id : Nat} (apart : id ≠ m.id) :
      history id ++ bytesTo id [(m.id, bytes)] = history id := by
    simp [bytesTo_cons, apart.symm]
  have mine : history m.id ++ bytesTo m.id [(m.id, bytes)] = history m.id ++ bytes := by
    simp [bytesTo_cons]
  refine ⟨fun unstarted => ?_, fun id waits => ?_, fun x hx asked => ?_, fun x hx => ?_⟩
  · exact absurd (sound.started_of_member runs) (by simpa using unstarted)
  · rw [others (sound.ne_of_awaited waits runs).symm]
    exact h.awaited id waits
  · rcases mem_setSubscription hx with ⟨old, apart⟩ | ⟨old, hold, same, rfl⟩
    · rw [others apart]
      exact h.asked x old asked
    · cases asked
  · rcases mem_setSubscription hx with ⟨old, apart⟩ | ⟨old, hold, same, rfl⟩
    · rw [others apart]
      exact h.reading x old
    · -- What was held is the line under way, so what is held now is the line under way after it.
      intro next goesOn short
      obtain rfl : (scanner.feed bytes).1 = next := by simpa using goesOn
      dsimp only at short ⊢
      rw [same, mine] at short ⊢
      rw [h.reading m runs scanner reading short.of_append, Scanner.feed_after short]

/-- What an action does to the members keeps them in step with what they hear. -/
theorem change (h : Followed history c) (sound : c.Sound size)
    {heard : Option (Nat × List UInt8)} (changed : Change c heard c') :
    Followed (fun id => history id ++ bytesTo id heard.toList) c' := by
  have silent : (fun id => history id ++ bytesTo id (none : Option (Nat × List UInt8)).toList)
      = history := by simp
  cases changed with
  | reads bytes runs reading => exact h.reads sound bytes runs reading
  | still =>
      rw [silent]
      exact h
  | start now unstarted =>
      obtain ⟨-, nobody⟩ := sound.unstarted unstarted
      rw [silent]
      have empty (m : Member) : m ∉ c.members := by simp [nobody]
      exact ⟨nofun, fun id _ => h.unstarted unstarted id, fun m runs => absurd runs (empty m),
        fun m runs => absurd runs (empty m)⟩
  | refused failure waits =>
      rw [silent]
      exact h.of_subset rfl List.erase_subset (List.Subset.refl _)
  | asked exchange request waits =>
      rw [silent]
      refine ⟨h.unstarted, fun id hid => h.awaited id (List.erase_subset hid), ?_, ?_⟩
      · intro m runs asked
        rcases List.mem_append.mp runs with old | new
        · exact h.asked m old asked
        · rw [List.mem_singleton.mp new]
          exact h.awaited _ waits
      · intro m runs scanner reading
        rcases List.mem_append.mp runs with old | new
        · exact h.reading m old scanner reading
        · rw [List.mem_singleton.mp new] at reading
          cases reading
  | @opens m runs asked =>
      rw [silent]
      refine ⟨h.unstarted, h.awaited, ?_, ?_⟩
      · intro x hx waits
        rcases mem_setSubscription hx with ⟨old, -⟩ | ⟨old, hold, same, rfl⟩
        · exact h.asked x old waits
        · cases waits
      · intro x hx scanner reading short
        rcases mem_setSubscription hx with ⟨old, -⟩ | ⟨old, hold, same, rfl⟩
        · exact h.reading x old scanner reading short
        · -- The stream has just opened, so nothing has been heard of it.
          obtain rfl : ({} : Scanner) = scanner := by simpa using reading
          have none : history old.id = [] := by
            rw [same]
            exact h.asked m runs asked
          dsimp only
          rw [none, Scanner.after_nil]
  | refuses failure runs asked =>
      rw [silent]
      exact h.of_subset rfl (List.Subset.refl _) List.filter_sublist.subset
  | loses failure runs =>
      rw [silent]
      exact h.of_subset rfl (List.Subset.refl _) List.filter_sublist.subset

end Followed

end Crowd

namespace Session

open Crowd (Followed)

theorem followed_start (settings : BenchmarkSettings) (client : Client) (server : Server) :
    Followed (fun _ => []) (start settings client server).crowd where
  unstarted _ _ := rfl
  awaited _ _ := rfl
  asked := by simp [crowd, start]
  reading := by simp [crowd, start]

/-- Every action keeps the members in step with what they hear. -/
theorem followed_perform {size : Nat} {s : Session} (wired : Wired size s)
    {history : Nat → List UInt8} (h : Followed history s.crowd) (action : Action) :
    Followed (fun id => history id ++ bytesTo id (s.hearing? action).toList)
      (s.perform action).crowd := by
  by_cases ticks : action = .tick
  · have silent : (fun id => history id ++ bytesTo id (s.hearing? action).toList) = history := by
      simp [ticks, hearing?]
    have ticked : (s.perform action).crowd
        = { s.crowd with ledger := (s.ledger.tick s.now).1 } := by
      rw [ticks]
      exact crowd_tick s
    rw [silent, ticked]
    exact h.of_subset rfl (List.Subset.refl _) (List.Subset.refl _)
  · exact h.change wired.sound (change_perform wired ticks).1

/-- After any run, the members are in step with what they have heard in it. -/
theorem followed_performAll (settings : BenchmarkSettings) (client : Client) (server : Server)
    (actions : List Action) :
    Followed (fun id => (start settings client server).stream id actions)
      ((start settings client server).performAll actions).crowd := by
  have initial := wired_start settings client server
  have begun := followed_start settings client server
  generalize start settings client server = s at initial begun
  induction actions using List.reverseRecOn with
  | nil => exact begun
  | append_singleton actions action ih =>
      have next := followed_perform (initial.performAll actions) ih action
      simp only [stream_concat, performAll_concat]
      exact next

end Session

end StreamLoad.Benchmark
