import StreamLoad.Proofs.Event.Short
import StreamLoad.Proofs.Server

/-! # The search for the greeting

An attempt reads its answer up to the greeting. What has arrived is read at once, so that only
bytes of a line under way are held between two arrivals (`Subscription.IsPlain`). Whether and how
the search ends depends on the bytes that arrive and not on how they are cut into chunks, as long
as no line exceeds the limit: it is the same if every byte arrives alone (`seekAll_letters`).
-/

set_option autoImplicit false

namespace StreamLoad

open Event (lineFeed)

/-! ## What is held between chunks

`scan` cuts nothing off, so what is held after a chunk is the line under way of all bytes since the
last line feed. As long as lines are short, `feed` does not cut anything off either. -/

namespace Scanner

theorem not_mem_held_feed {s : Scanner} (free : lineFeed ∉ s.held) (bytes : List UInt8) :
    lineFeed ∉ (s.feed bytes).1.held := by
  rw [feed_eq]
  unfold trim
  split
  · exact List.not_mem_nil
  · exact not_mem_held_scan free bytes

/-- What is held after some bytes is the line under way of all of them. -/
theorem reverse_held_scan {s : Scanner} (free : lineFeed ∉ s.held) (bytes : List UInt8) :
    (s.scan bytes).1.held.reverse = unfinished (s.held.reverse ++ bytes) := by
  by_cases h : lineFeed ∈ bytes
  · rw [scan_fst_of_mem h, unfinished_append_of_mem _ h, List.reverse_reverse]
  · have whole : lineFeed ∉ s.held.reverse ++ bytes := by simp [free, h]
    rw [scan_of_not_mem h, unfinished_of_not_mem whole]
    simp

/-- Nothing is given up of short lines. -/
theorem feed_of_isShort {s : Scanner} (free : lineFeed ∉ s.held) {bytes : List UInt8}
    (short : IsShort (s.held.reverse ++ bytes)) : s.feed bytes = s.scan bytes := by
  have within : (s.scan bytes).1.buffered ≤ lineLimit := by
    rw [buffered, ← List.length_reverse, reverse_held_scan free]
    exact short.length_unfinished_le
  rw [feed_eq, trim_of_le within]

/-- The line under way and what comes later are short if all of the stream is. -/
theorem isShort_scan {s : Scanner} {bytes later : List UInt8}
    (short : IsShort (s.held.reverse ++ (bytes ++ later))) :
    IsShort ((s.scan bytes).1.held.reverse ++ later) := by
  rw [← List.append_assoc] at short
  by_cases h : lineFeed ∈ bytes
  · obtain ⟨front, rest, rfl, last⟩ := exists_last_of_mem h
    rw [scan_fst_of_mem h, unfinished_append_cons, unfinished_of_not_mem last,
      List.reverse_reverse]
    have split : s.held.reverse ++ (front ++ lineFeed :: rest) ++ later
        = (s.held.reverse ++ front ++ [lineFeed]) ++ (rest ++ later) := by simp
    rw [split] at short
    exact short.of_append_right
  · rw [scan_of_not_mem h]
    simpa using short

end Scanner

namespace Reader

theorem afterWelcome?_eq_none {events : List Event} :
    afterWelcome? events = none ↔ .welcome ∉ events := by
  induction events with
  | nil => simp [afterWelcome?]
  | cons event events ih => cases event <;> simp [afterWelcome?, ih]

end Reader

/-! ## One arrival -/

namespace Subscription

/-- What is held of a line under way. -/
def held : Subscription → List UInt8
  | asked => []
  | reading reader => reader.scanner.held.reverse

/-- All that has arrived is read, and no greeting was among it. -/
inductive IsPlain : Subscription → Prop where
  | asked : IsPlain asked
  | reading {scanner : Scanner} (free : lineFeed ∉ scanner.held) :
      IsPlain (reading { scanner := scanner })

theorem seekWelcome_head (request : Request) (status : Nat) :
    asked.seekWelcome request (.head status) =
      if isSuccess status then
        if status = noContent then .failed .streamClosed else .goesOn (reading {})
      else .failed (.unexpectedStatus status) := by
  by_cases success : isSuccess status = true
  · by_cases empty : status = noContent
    · subst empty
      rfl
    · simp only [seekWelcome, receive, if_pos success, if_neg empty]
      rfl
  · simp only [seekWelcome, receive, if_neg success]

/-- A stream that is opened has brought nothing yet. -/
theorem goesOn_head {request : Request} {status : Nat} {next : Subscription}
    (goes : asked.seekWelcome request (.head status) = .goesOn next) : next = reading {} := by
  rw [seekWelcome_head] at goes
  split at goes
  · split at goes
    · cases goes
    · cases goes
      rfl
  · cases goes

/-- A chunk ends the search if a greeting is among its events. -/
theorem seekWelcome_chunk (request : Request) (scanner : Scanner) (bytes : List UInt8) :
    (reading { scanner := scanner }).seekWelcome request (.body (.chunk bytes)) =
      if .welcome ∈ (scanner.feed bytes).2 then .found
      else .goesOn (reading { scanner := (scanner.feed bytes).1 }) := by
  have awaits : (Reader.receive { scanner := scanner } (.chunk bytes)).awaitWelcome
      = Reader.pullWelcome scanner [.chunk bytes] := rfl
  by_cases greeted : .welcome ∈ (scanner.feed bytes).2
  · obtain ⟨ready, after⟩ := Option.ne_none_iff_exists'.mp
      (mt Reader.afterWelcome?_eq_none.mp (not_not.mpr greeted))
    simp [seekWelcome, receive, awaits, Reader.pullWelcome, after, greeted]
  · have after := Reader.afterWelcome?_eq_none.mpr greeted
    simp [seekWelcome, receive, awaits, Reader.pullWelcome, after, greeted]

/-- The end of a body ends the search. -/
theorem seekWelcome_close (request : Request) (scanner : Scanner) :
    (reading { scanner := scanner }).seekWelcome request (.body .close)
      = .failed .streamClosed := rfl

theorem seekWelcome_cut (request : Request) (scanner : Scanner) :
    (reading { scanner := scanner }).seekWelcome request (.body .cut)
      = .failed (.request .bodyCut) := rfl

/-- What is read on from is read completely. -/
theorem IsPlain.goesOn {request : Request} {subscription next : Subscription} {arrival : Arrival}
    (h : subscription.IsPlain) (goes : subscription.seekWelcome request arrival = .goesOn next) :
    next.IsPlain := by
  cases h with
  | asked =>
      cases arrival with
      | head status =>
          rw [goesOn_head goes]
          exact .reading List.not_mem_nil
      | body item =>
          cases goes
          exact .asked
      | lost => cases goes
  | @reading scanner free =>
      cases arrival with
      | head status =>
          cases goes
          exact .reading free
      | lost =>
          cases goes
          exact .reading free
      | body item =>
          cases item with
          | chunk bytes =>
              rw [seekWelcome_chunk] at goes
              split at goes
              · cases goes
              · cases goes
                exact .reading (Scanner.not_mem_held_feed free bytes)
          | close => cases goes
          | cut => cases goes

end Subscription

/-! ## All arrivals

The search is compared with one in which every byte arrives alone. Both find the greeting in the
same line, the one as soon as the line feed comes, the other with the chunk that brings it. The
search is over then, so what stands behind the greeting has no part in what it comes to. -/

/-- The bytes of a body that arrive. -/
def Arrival.bytes : Arrival → List UInt8
  | .body (.chunk bytes) => bytes
  | _ => []

/-- An arrival with each byte of a chunk alone. -/
def Arrival.letters : Arrival → List Arrival
  | .body (.chunk bytes) => bytes.map fun b => .body (.chunk [b])
  | arrival => [arrival]

theorem Arrival.flatMap_bytes_letters (arrivals : List Arrival) :
    (arrivals.flatMap letters).flatMap bytes = arrivals.flatMap bytes := by
  induction arrivals with
  | nil => rfl
  | cons arrival arrivals ih =>
      rw [List.flatMap_cons, List.flatMap_cons, List.flatMap_append, ih]
      congr 1
      match arrival with
      | .head _ | .lost | .body .close | .body .cut => rfl
      | .body (.chunk chunk) => simp [letters, bytes, List.flatMap_map]

namespace Subscription

/-- Reads on in search of the greeting, after some arrivals. What arrives after the end of the
search is not read. -/
def seekAll (request : Request) (subscription : Subscription) : List Arrival → Search
  | [] => .goesOn subscription
  | arrival :: arrivals =>
      match subscription.seekWelcome request arrival with
      | .goesOn next => next.seekAll request arrivals
      | .found => .found
      | .failed failure => .failed failure

/-- No piece of a body is read before the head. -/
theorem seekAll_early (request : Request) (bytes : List UInt8) (rest : List Arrival) :
    asked.seekAll request ((bytes.map fun b => .body (.chunk [b])) ++ rest)
      = asked.seekAll request rest := by
  induction bytes with
  | nil => rfl
  | cons b bytes ih => exact ih

/-- Bytes of a short stream that arrive alone do what they do in one chunk. -/
theorem seekAll_singles (request : Request) {scanner : Scanner} (free : lineFeed ∉ scanner.held)
    {bytes : List UInt8} (short : IsShort (scanner.held.reverse ++ bytes)) (rest : List Arrival) :
    (reading { scanner := scanner }).seekAll request
        ((bytes.map fun b => .body (.chunk [b])) ++ rest) =
      if .welcome ∈ (scanner.scan bytes).2 then .found
      else (reading { scanner := (scanner.scan bytes).1 }).seekAll request rest := by
  induction bytes generalizing scanner with
  | nil => rfl
  | cons b bytes ih =>
      have whole : scanner.scan (b :: bytes) = (((scanner.scan [b]).1.scan bytes).1,
          (scanner.scan [b]).2 ++ ((scanner.scan [b]).1.scan bytes).2) :=
        scanner.scan_append [b] bytes
      have first : IsShort ((scanner.held.reverse ++ [b]) ++ bytes) := by simpa using short
      have one : scanner.feed [b] = scanner.scan [b] := Scanner.feed_of_isShort free first.of_append
      have after : IsShort ((scanner.scan [b]).1.held.reverse ++ bytes) :=
        Scanner.isShort_scan short
      have later := ih (Scanner.not_mem_held_scan free [b]) after
      rw [whole, List.map_cons, List.cons_append, seekAll, seekWelcome_chunk, one]
      by_cases greeted : .welcome ∈ (scanner.scan [b]).2
      · simp [greeted]
      · simp only [greeted, if_false, later, List.mem_append, false_or]

/-- **Chunks do not matter.** As long as no line exceeds the limit, the search for the greeting
comes to the same if each byte arrives alone. -/
theorem seekAll_letters (request : Request) {subscription : Subscription}
    (plain : subscription.IsPlain) {arrivals : List Arrival}
    (short : IsShort (subscription.held ++ arrivals.flatMap Arrival.bytes)) :
    subscription.seekAll request (arrivals.flatMap Arrival.letters)
      = subscription.seekAll request arrivals := by
  induction arrivals generalizing subscription with
  | nil => rfl
  | cons arrival arrivals ih =>
      rw [List.flatMap_cons] at short ⊢
      cases plain with
      | asked =>
          cases arrival with
          | head status =>
              show asked.seekAll request (.head status :: _) = _
              simp only [seekAll]
              cases sought : asked.seekWelcome request (.head status) with
              | found => rfl
              | failed failure => rfl
              | goesOn next =>
                  obtain rfl := goesOn_head sought
                  exact ih (.reading List.not_mem_nil) short
          | lost => rfl
          | body item =>
              cases item with
              | chunk bytes =>
                  rw [Arrival.letters, seekAll_early]
                  have short : IsShort (bytes ++ arrivals.flatMap Arrival.bytes) := short
                  exact ih .asked short.of_append_right
              | close => exact ih .asked short
              | cut => exact ih .asked short
      | @reading scanner free =>
          cases arrival with
          | head status => exact ih (.reading free) short
          | lost => exact ih (.reading free) short
          | body item =>
              cases item with
              | chunk bytes =>
                  -- What is held has no line feed, so the bytes come to what the chunk comes to.
                  have whole : IsShort ((scanner.held.reverse ++ bytes)
                      ++ arrivals.flatMap Arrival.bytes) := by
                    rw [List.append_assoc]
                    exact short
                  have before : IsShort (scanner.held.reverse ++ bytes) := whole.of_append
                  rw [Arrival.letters, seekAll_singles request free before, seekAll,
                    seekWelcome_chunk, Scanner.feed_of_isShort free before]
                  split
                  · rfl
                  · exact ih (.reading (Scanner.not_mem_held_scan free bytes))
                      (Scanner.isShort_scan short)
              | close => rfl
              | cut => rfl

end Subscription

end StreamLoad
