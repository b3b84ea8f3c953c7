import StreamLoad.Event.Scanner
import StreamLoad.Proofs.Lists

/-! # What a scanner does with a chunk

`feed` sweeps over a chunk and then looks at what is left of it. `scan` is the sweep alone, byte by
byte in order, and the lemmas here say what it makes of bytes without a line feed, of a line feed,
and of two runs of bytes one after another. Feeding is scanning and then giving up a line that has
outgrown the limit (`feed_eq`), so that nothing else has to look into `feed`.
-/

set_option autoImplicit false

namespace StreamLoad

open Event (lineFeed)

/-! ## The line under way -/

/-- The bytes of a stream after its last line feed: the line under way. -/
def unfinished (bytes : List UInt8) : List UInt8 := (bytes.splitOn lineFeed).getLast?.getD []

theorem unfinished_of_not_mem {bytes : List UInt8} (h : lineFeed ∉ bytes) :
    unfinished bytes = bytes := by
  simp [unfinished, List.splitOn_eq_singleton h]

/-- What comes after a line feed alone decides which line is under way. -/
theorem unfinished_append_cons (front rest : List UInt8) :
    unfinished (front ++ lineFeed :: rest) = unfinished rest := by
  rw [unfinished, List.splitOn_append_cons_self, List.getLast?_append,
    List.getLast?_eq_some_getLast (List.splitOn_ne_nil _ rest), Option.some_or, unfinished,
    List.getLast?_eq_some_getLast (List.splitOn_ne_nil _ rest)]

theorem not_mem_unfinished (bytes : List UInt8) : lineFeed ∉ unfinished bytes := by
  by_cases h : lineFeed ∈ bytes
  · obtain ⟨front, rest, rfl, last⟩ := exists_last_of_mem h
    rw [unfinished_append_cons, unfinished_of_not_mem last]
    exact last
  · rw [unfinished_of_not_mem h]
    exact h

/-- A chunk without a line feed goes on with the line under way. -/
theorem unfinished_append_of_not_mem (bytes : List UInt8) {chunk : List UInt8}
    (h : lineFeed ∉ chunk) : unfinished (bytes ++ chunk) = unfinished bytes ++ chunk := by
  by_cases hb : lineFeed ∈ bytes
  · obtain ⟨front, rest, rfl, last⟩ := exists_last_of_mem hb
    have both : lineFeed ∉ rest ++ chunk := by simp [last, h]
    rw [List.append_assoc, List.cons_append, unfinished_append_cons, unfinished_append_cons,
      unfinished_of_not_mem both, unfinished_of_not_mem last]
  · have both : lineFeed ∉ bytes ++ chunk := by simp [hb, h]
    rw [unfinished_of_not_mem both, unfinished_of_not_mem hb]

/-- A chunk with a line feed leaves a line of its own under way. -/
theorem unfinished_append_of_mem (bytes : List UInt8) {chunk : List UInt8}
    (h : lineFeed ∈ chunk) : unfinished (bytes ++ chunk) = unfinished chunk := by
  obtain ⟨front, rest, rfl, -⟩ := exists_last_of_mem h
  rw [← List.append_assoc, unfinished_append_cons, unfinished_append_cons]

theorem length_unfinished_le (bytes : List UInt8) : (unfinished bytes).length ≤ bytes.length := by
  by_cases h : lineFeed ∈ bytes
  · obtain ⟨front, rest, rfl, last⟩ := exists_last_of_mem h
    rw [unfinished_append_cons, unfinished_of_not_mem last]
    simp
    omega
  · exact Nat.le_of_eq (congrArg List.length (unfinished_of_not_mem h))

namespace Scanner

/-! ## Sweeping over bytes

A chunk is either free of line feeds, and then all of it is held, or it has a last one, and then
only what comes after that is held. These two cases are all that later proofs distinguish. -/

/-- Takes bytes one after another: what is held after them, and the events they complete, in
order. -/
def scan (s : Scanner) : List UInt8 → Scanner × List Event
  | [] => (s, [])
  | b :: bytes =>
      let (last, later) := (s.push b).1.scan bytes
      (last, (s.push b).2.toList ++ later)

theorem foldl_sweep (bytes : List UInt8) (s : Scanner) (found : List Event) :
    bytes.foldl sweep (s, found) = ((s.scan bytes).1, (s.scan bytes).2.reverse ++ found) := by
  induction bytes generalizing s found with
  | nil => rfl
  | cons b bytes ih =>
      have step : sweep (s, found) b = ((s.push b).1, (s.push b).2.toList ++ found) := by
        unfold sweep
        rcases s.push b with ⟨next, _ | event⟩ <;> rfl
      rw [List.foldl_cons, step, ih]
      cases event : (s.push b).2 <;> simp [scan, event]

/-- Feeding a chunk is scanning it and then giving up a line that has outgrown the limit. -/
theorem feed_eq (s : Scanner) (chunk : List UInt8) :
    s.feed chunk = ((s.scan chunk).1.trim, (s.scan chunk).2) := by
  simp [feed, foldl_sweep]

theorem scan_append (s : Scanner) (bytes later : List UInt8) :
    s.scan (bytes ++ later)
      = (((s.scan bytes).1.scan later).1, (s.scan bytes).2 ++ ((s.scan bytes).1.scan later).2) := by
  induction bytes generalizing s with
  | nil => rfl
  | cons b bytes ih => simp [scan, ih]

/-- Bytes without a line feed are held, and no event comes of them. -/
theorem scan_of_not_mem {bytes : List UInt8} (h : lineFeed ∉ bytes) (s : Scanner) :
    s.scan bytes = ({ s with held := bytes.reverse ++ s.held }, []) := by
  induction bytes generalizing s with
  | nil => rfl
  | cons b bytes ih =>
      have other : b ≠ lineFeed := fun heq => h (by simp [heq])
      have rest : lineFeed ∉ bytes := fun hb => h (by simp [hb])
      simp [scan, push, other, ih rest]

/-- A line feed completes the line under way, and what follows is scanned afresh. -/
theorem scan_lineFeed (s : Scanner) (rest : List UInt8) :
    s.scan (lineFeed :: rest)
      = ((({} : Scanner).scan rest).1, s.lineEvent?.toList ++ (({} : Scanner).scan rest).2) := by
  simp [scan, push]

/-- After a chunk with a line feed, only the line that it leaves under way is held. -/
theorem scan_fst_of_mem {chunk : List UInt8} (h : lineFeed ∈ chunk) (s : Scanner) :
    (s.scan chunk).1 = { held := (unfinished chunk).reverse } := by
  obtain ⟨front, rest, rfl, last⟩ := exists_last_of_mem h
  rw [scan_append, scan_lineFeed, scan_of_not_mem last, unfinished_append_cons,
    unfinished_of_not_mem last]
  simp

/-- A sweep leaves no line feed behind. -/
theorem not_mem_held_scan {s : Scanner} (free : lineFeed ∉ s.held) (bytes : List UInt8) :
    lineFeed ∉ (s.scan bytes).1.held := by
  by_cases h : lineFeed ∈ bytes
  · rw [scan_fst_of_mem h, List.mem_reverse]
    exact not_mem_unfinished bytes
  · rw [scan_of_not_mem h, List.mem_append, List.mem_reverse]
    exact not_or.mpr ⟨h, free⟩

/-! ## Giving up a line -/

theorem discarding_trim (s : Scanner) :
    s.trim.discarding = (s.discarding || decide (lineLimit < s.buffered)) := by
  by_cases h : lineLimit < s.buffered <;> simp [trim, h]

theorem trim_of_le {s : Scanner} (h : s.buffered ≤ lineLimit) : s.trim = s := by
  simp [trim, Nat.not_lt.mpr h]

/-! ## Chunks one after another -/

theorem feedAll_append (s : Scanner) (chunks later : List (List UInt8)) :
    s.feedAll (chunks ++ later)
      = (((s.feedAll chunks).1.feedAll later).1,
        (s.feedAll chunks).2 ++ ((s.feedAll chunks).1.feedAll later).2) := by
  induction chunks generalizing s with
  | nil => rfl
  | cons chunk chunks ih => simp [feedAll, ih]

theorem feedAll_concat (s : Scanner) (chunks : List (List UInt8)) (chunk : List UInt8) :
    s.feedAll (chunks ++ [chunk])
      = (((s.feedAll chunks).1.feed chunk).1,
        (s.feedAll chunks).2 ++ ((s.feedAll chunks).1.feed chunk).2) := by
  simp [feedAll_append, feedAll]

end Scanner

end StreamLoad
