import StreamLoad.Proofs.Event.Scanner
import Mathlib.Data.List.Induction

/-! # Starting afresh at a line feed

A scanner goes through long lines and bytes that are no text, and still holds nothing but bytes of
the line under way, and no more of them than the limit (`Bounded`, which every chunk keeps). Nor
does it remember anything beyond a line feed: what comes after one is scanned as by a new scanner,
whatever was being discarded before it. `lines_start_afresh` says this of every scanner that has
been fed some chunks.
-/

set_option autoImplicit false

namespace StreamLoad

open Event (lineFeed)

namespace Scanner

variable {s : Scanner}

/-! ## What is held -/

/-- Whether a part of one line is held, and no more of it than the limit. -/
structure Bounded (s : Scanner) : Prop where
  free : lineFeed ∉ s.held
  small : s.buffered ≤ lineLimit

theorem bounded_empty : ({} : Scanner).Bounded := ⟨List.not_mem_nil, Nat.zero_le _⟩

/-- Giving up a line that has outgrown the limit leaves nothing of it, and else nothing changes. -/
theorem bounded_trim (free : lineFeed ∉ s.held) : s.trim.Bounded := by
  by_cases long : s.buffered > lineLimit
  · have dropped : s.trim = { held := [], discarding := true } := if_pos long
    rw [dropped]
    exact ⟨List.not_mem_nil, Nat.zero_le _⟩
  · have short := Nat.not_lt.mp long
    rw [trim_of_le short]
    exact ⟨free, short⟩

theorem Bounded.feed (h : s.Bounded) (chunk : List UInt8) : (s.feed chunk).1.Bounded := by
  rw [feed_eq]
  exact bounded_trim (not_mem_held_scan h.free chunk)

theorem bounded_feedAll (chunks : List (List UInt8)) :
    (({} : Scanner).feedAll chunks).1.Bounded := by
  induction chunks using List.reverseRecOn with
  | nil => exact bounded_empty
  | append_singleton chunks chunk ih =>
      rw [feedAll_concat]
      exact ih.feed chunk

/-! ## What a line feed leaves

A line feed completes the line under way or ends one that is being discarded, and in both cases the
scanner behind it is a new one. A chunk is thus the same as two, one up to its line feed and one
from there on. -/

/-- After bytes that end in a line feed, what comes next is scanned as by a new scanner. -/
theorem scan_append_lineFeed (s : Scanner) (front rest : List UInt8) :
    s.scan (front ++ lineFeed :: rest)
      = ((({} : Scanner).scan rest).1,
        (s.scan (front ++ [lineFeed])).2 ++ (({} : Scanner).scan rest).2) := by
  -- A line feed leaves nothing behind, not even that a line was being discarded.
  have ended : (s.scan (front ++ [lineFeed])).1 = {} := by
    rw [scan_append, scan_lineFeed]
    rfl
  have split : front ++ lineFeed :: rest = (front ++ [lineFeed]) ++ rest := by simp
  rw [split, scan_append, ended]

/-- A chunk is fed like its part up to a line feed, and then its rest to a new scanner. -/
theorem feed_append_lineFeed (s : Scanner) (front rest : List UInt8) :
    s.feed (front ++ lineFeed :: rest)
      = ((({} : Scanner).feed rest).1,
        (s.feed (front ++ [lineFeed])).2 ++ (({} : Scanner).feed rest).2) := by
  rw [feed_eq, feed_eq, feed_eq, scan_append_lineFeed]

/-- So are the chunks after it. -/
theorem feedAll_append_lineFeed (s : Scanner) (front rest : List UInt8)
    (later : List (List UInt8)) :
    s.feedAll ((front ++ lineFeed :: rest) :: later)
      = ((({} : Scanner).feedAll (rest :: later)).1,
        (s.feed (front ++ [lineFeed])).2 ++ (({} : Scanner).feedAll (rest :: later)).2) := by
  simp only [feedAll, feed_append_lineFeed s front rest, List.append_assoc]

end Scanner

/-! ## Any scanner that has been fed -/

/-- What a scanner has of its past, and what it makes of a chunk with a line feed. -/
structure Scanner.Resumes (s : Scanner) : Prop extends s.Bounded where
  /-- A chunk with a line feed yields the events of its part up to there and those of a new scanner
  on its rest, and leaves behind what the new scanner is left with. -/
  afresh : ∀ front rest, s.feed (front ++ lineFeed :: rest)
    = ((({} : Scanner).feed rest).1,
      (s.feed (front ++ [lineFeed])).2 ++ (({} : Scanner).feed rest).2)
  /-- Nothing of the past shows in later chunks, either. -/
  onward : ∀ front rest later, s.feedAll ((front ++ lineFeed :: rest) :: later)
    = ((({} : Scanner).feedAll (rest :: later)).1,
      (s.feed (front ++ [lineFeed])).2 ++ (({} : Scanner).feedAll (rest :: later)).2)

/-- **Lines start afresh.** Whatever a scanner has been fed, lines of any length and bytes of any
kind: it holds no line feed and no more bytes than the limit, and from any line feed on it is as
good as new, in the events it finds and in all that it holds. -/
theorem lines_start_afresh (chunks : List (List UInt8)) :
    (({} : Scanner).feedAll chunks).1.Resumes where
  toBounded := Scanner.bounded_feedAll chunks
  afresh := Scanner.feed_append_lineFeed _
  onward := Scanner.feedAll_append_lineFeed _

end StreamLoad
