import StreamLoad.Proofs.Event.Scanner
import Mathlib.Data.List.Infix

/-! # The events of a stream, line by line

What a scanner finds, said without one: the bytes of the stream are split at line feeds, and each
complete line carries its event, unless it has outgrown the limit, that is, unless some chunk ended
inside it with more than `lineLimit` of its bytes received (`lineEvents`). `events_follow_lines`
says that a new scanner finds exactly these events, however the bytes are cut into chunks, and that
nothing outside a line decides about its event.

The proof goes from the last chunk backwards: `Follows` is what a scanner holds after some chunks,
in terms of the line under way, and `scan_snd` is what the next chunk completes.
-/

set_option autoImplicit false

namespace StreamLoad

open Event (lineFeed)

/-! ## Lines -/

/-- A line of a stream, less its line feed. -/
structure Line where
  /-- The number of bytes of the stream before the line. -/
  start : Nat
  bytes : List UInt8
deriving DecidableEq, Repr

/-- The number of bytes of the stream before the line feed of a line. -/
def Line.finish (line : Line) : Nat := line.start + line.bytes.length

/-- Pieces of a stream that begins at `start`, with a line feed between each two, as lines. -/
def placed (start : Nat) : List (List UInt8) → List Line
  | [] => []
  | piece :: rest => ⟨start, piece⟩ :: placed (start + piece.length + 1) rest

/-- The lines of a stream, from `start` on, that a line feed ends. -/
def completeLines (start : Nat) (bytes : List UInt8) : List Line :=
  placed start (bytes.splitOn lineFeed).dropLast

/-- Whether a chunk ends after `n` bytes of the stream that the chunks make; zero counts, too. -/
def EndsAt (chunks : List (List UInt8)) (n : Nat) : Prop :=
  ∃ fed, fed <+: chunks ∧ fed.flatten.length = n

/-- Whether a chunk ends inside a line, before its line feed, with more of its bytes received than
are held from one chunk to the next. -/
def Line.isOutgrown (chunks : List (List UInt8)) (line : Line) : Bool :=
  chunks.inits.any fun fed =>
    line.start + lineLimit < fed.flatten.length && fed.flatten.length ≤ line.finish

/-- The event that a line carries, unless it has outgrown the limit. -/
def Line.event? (chunks : List (List UInt8)) (line : Line) : Option Event :=
  if line.isOutgrown chunks then none else Event.ofLine? line.bytes

/-- The events of the complete lines of a stream that comes in chunks. -/
def lineEvents (chunks : List (List UInt8)) : List Event :=
  (completeLines 0 chunks.flatten).filterMap (Line.event? chunks)

theorem Line.isOutgrown_iff {chunks : List (List UInt8)} {line : Line} :
    line.isOutgrown chunks = true ↔
      ∃ n, EndsAt chunks n ∧ line.start + lineLimit < n ∧ n ≤ line.finish := by
  simp [isOutgrown, List.mem_inits, EndsAt]

/-! ## Where chunks end

Chunks matter only by where they end, and a place in a stream does not change when more chunks come.
So whether a line was outgrown can be said of places in the stream, without any scanner. -/

theorem EndsAt.le {chunks : List (List UInt8)} {n : Nat} (h : EndsAt chunks n) :
    n ≤ chunks.flatten.length := by
  obtain ⟨fed, hfed, rfl⟩ := h
  exact hfed.flatten.length_le

theorem endsAt_nil {n : Nat} : EndsAt [] n ↔ n = 0 := by
  simp [EndsAt, eq_comm]

theorem endsAt_concat {chunks : List (List UInt8)} {chunk : List UInt8} {n : Nat} :
    EndsAt (chunks ++ [chunk]) n ↔ EndsAt chunks n ∨ n = (chunks.flatten ++ chunk).length := by
  constructor
  · rintro ⟨fed, hfed, rfl⟩
    rcases List.prefix_concat_iff.mp hfed with rfl | earlier
    · exact Or.inr (by simp)
    · exact Or.inl ⟨fed, earlier, rfl⟩
  · rintro (⟨fed, hfed, rfl⟩ | rfl)
    · exact ⟨fed, hfed.trans (List.prefix_append _ _), rfl⟩
    · exact ⟨chunks ++ [chunk], List.prefix_rfl, by simp⟩

/-- Chunks without bytes end where others do. -/
theorem endsAt_filter {chunks : List (List UInt8)} {n : Nat} :
    EndsAt (chunks.filter (!·.isEmpty)) n ↔ EndsAt chunks n := by
  constructor
  · rintro ⟨fed, ⟨rest, whole⟩, rfl⟩
    obtain ⟨front, back, rfl, rfl, -⟩ := List.filter_eq_append_iff.mp whole.symm
    exact ⟨front, List.prefix_append _ _, by rw [List.flatten_filter_not_isEmpty]⟩
  · rintro ⟨fed, hfed, rfl⟩
    exact ⟨fed.filter (!·.isEmpty), hfed.filter _, by rw [List.flatten_filter_not_isEmpty]⟩

/-! ## The complete lines of longer streams -/

theorem completeLines_of_not_mem {bytes : List UInt8} (h : lineFeed ∉ bytes) (start : Nat) :
    completeLines start bytes = [] := by
  simp [completeLines, List.splitOn_eq_singleton h, placed]

theorem completeLines_cons {line : List UInt8} (h : lineFeed ∉ line) (start : Nat)
    (rest : List UInt8) :
    completeLines start (line ++ lineFeed :: rest)
      = ⟨start, line⟩ :: completeLines (start + line.length + 1) rest := by
  rw [completeLines, List.splitOn_append_cons_self_of_not_mem h,
    List.dropLast_cons_of_ne_nil (List.splitOn_ne_nil _ rest)]
  rfl

/-- A stream has no complete line, or it begins with one. -/
theorem completeLines_cases (bytes : List UInt8) :
    lineFeed ∉ bytes
      ∨ ∃ line rest, bytes = line ++ lineFeed :: rest ∧ lineFeed ∉ line
        ∧ rest.length < bytes.length := by
  by_cases h : lineFeed ∈ bytes
  · obtain ⟨line, rest, rfl, first⟩ := List.eq_append_cons_of_mem h
    refine Or.inr ⟨line, rest, rfl, first, ?_⟩
    simp
    omega
  · exact Or.inl h

/-- The number of bytes of a stream before the line under way. -/
def lineStart (bytes : List UInt8) : Nat := bytes.length - (unfinished bytes).length

theorem lineStart_add (bytes : List UInt8) :
    lineStart bytes + (unfinished bytes).length = bytes.length := by
  have := length_unfinished_le bytes
  simp only [lineStart]
  omega

/-- More bytes go on with the line under way and leave the complete lines alone. -/
theorem completeLines_append (start : Nat) (bytes chunk : List UInt8) :
    completeLines start (bytes ++ chunk)
      = completeLines start bytes
        ++ completeLines (start + lineStart bytes) (unfinished bytes ++ chunk) := by
  rcases completeLines_cases bytes with h | ⟨line, rest, rfl, h, shorter⟩
  · simp [completeLines_of_not_mem h, lineStart, unfinished_of_not_mem h]
  · have begins : start + lineStart (line ++ lineFeed :: rest)
        = start + line.length + 1 + lineStart rest := by
      have := length_unfinished_le rest
      simp only [lineStart, unfinished_append_cons, List.length_append, List.length_cons]
      omega
    rw [List.append_assoc, List.cons_append, completeLines_cons h, completeLines_cons h,
      completeLines_append (start + line.length + 1) rest chunk, begins, unfinished_append_cons,
      List.cons_append]
termination_by bytes.length

/-- The complete lines of a stream lie within it. -/
theorem bounds_of_mem_completeLines {start : Nat} {bytes : List UInt8} {line : Line}
    (h : line ∈ completeLines start bytes) :
    start ≤ line.start ∧ line.finish < start + bytes.length := by
  rcases completeLines_cases bytes with none | ⟨first, rest, rfl, free, shorter⟩
  · rw [completeLines_of_not_mem none] at h
    cases h
  · rw [completeLines_cons free] at h
    simp only [List.length_append, List.length_cons]
    rcases List.mem_cons.mp h with rfl | later
    · simp only [Line.finish]
      omega
    · have := bounds_of_mem_completeLines later
      omega
termination_by bytes.length

/-- The first complete line is longer than what was under way, and the others come after it. -/
theorem start_of_mem_completeLines {start : Nat} {held chunk : List UInt8} (free : lineFeed ∉ held)
    {line : Line} (h : line ∈ completeLines start (held ++ chunk)) :
    (line.start = start ∧ start + held.length ≤ line.finish)
      ∨ start + held.length < line.start := by
  rcases completeLines_cases chunk with none | ⟨front, rest, rfl, first, -⟩
  · have both : lineFeed ∉ held ++ chunk := by simp [free, none]
    rw [completeLines_of_not_mem both] at h
    cases h
  · have both : lineFeed ∉ held ++ front := by simp [free, first]
    rw [← List.append_assoc, completeLines_cons both] at h
    rcases List.mem_cons.mp h with rfl | later
    · refine Or.inl ⟨rfl, ?_⟩
      simp [Line.finish]
    · have := (bounds_of_mem_completeLines later).1
      rw [List.length_append] at this
      omega

/-! ## What a scanner holds and finds

A scanner holds the line under way or has given it up, and `Follows` says which, in terms of the
places where chunks have ended. The next chunk completes that line first, so it is the only one
whose past has to be known. -/

/-- The events that a scan finds are those of the lines that it completes, of which the first is
passed over if it is being discarded. -/
theorem Scanner.scan_snd (start : Nat) {held : List UInt8} (free : lineFeed ∉ held) {s : Scanner}
    (holds : s.discarding = false → s.held = held.reverse) (bytes : List UInt8) :
    (s.scan bytes).2
      = (completeLines start (held ++ bytes)).filterMap fun line =>
          if s.discarding = true ∧ line.start = start then none else Event.ofLine? line.bytes := by
  rcases completeLines_cases bytes with none | ⟨line, rest, rfl, first, shorter⟩
  · have both : lineFeed ∉ held ++ bytes := by simp [free, none]
    simp [scan_of_not_mem none, completeLines_of_not_mem both]
  · have both : lineFeed ∉ held ++ line := by simp [free, first]
    have carried : ({ s with held := line.reverse ++ s.held } : Scanner).lineEvent?
        = if s.discarding = true then none else Event.ofLine? (held ++ line) := by
      cases discarding : s.discarding with
      | true => simp [lineEvent?]
      | false => simp [lineEvent?, holds discarding]
    -- The lines after the first begin later, so that none of them is passed over.
    have later : (({} : Scanner).scan rest).2
        = (completeLines (start + (held ++ line).length + 1) rest).filterMap fun line =>
            if s.discarding = true ∧ line.start = start then none
            else Event.ofLine? line.bytes := by
      rw [Scanner.scan_snd (start + (held ++ line).length + 1) List.not_mem_nil (fun _ => rfl) rest,
        List.nil_append]
      refine List.filterMap_congr fun other hother => ?_
      have beyond := (bounds_of_mem_completeLines hother).1
      have apart : other.start ≠ start := by
        rw [List.length_append] at beyond
        omega
      simp [apart]
    have whole : held ++ (line ++ lineFeed :: rest) = (held ++ line) ++ lineFeed :: rest := by simp
    rw [scan_append, scan_of_not_mem first, scan_lineFeed, later, carried, whole,
      completeLines_cons both, List.filterMap_cons]
    by_cases discarding : s.discarding = true
    · simp [discarding]
    · cases Event.ofLine? (held ++ line) <;> simp [discarding]
termination_by bytes.length

/-- What a scanner holds after some chunks: the line under way, unless that has outgrown the
limit. -/
structure Follows (chunks : List (List UInt8)) (s : Scanner) : Prop where
  held : s.discarding = false → s.held = (unfinished chunks.flatten).reverse
  discarding_iff : s.discarding = true ↔
    ∃ n, EndsAt chunks n ∧ lineStart chunks.flatten + lineLimit < n

namespace Follows

variable {chunks : List (List UInt8)} {s : Scanner}

theorem empty : Follows [] {} := by
  refine ⟨fun _ => by simp [unfinished], ⟨nofun, ?_⟩⟩
  rintro ⟨n, ends, beyond⟩
  rw [endsAt_nil.mp ends] at beyond
  cases beyond

/-- How the scan of a chunk leaves the line under way. -/
theorem scan (h : Follows chunks s) (chunk : List UInt8) :
    ((s.scan chunk).1.discarding = false →
        (s.scan chunk).1.held = (unfinished (chunks.flatten ++ chunk)).reverse)
      ∧ ((s.scan chunk).1.discarding = true ↔
        ∃ n, EndsAt chunks n ∧ lineStart (chunks.flatten ++ chunk) + lineLimit < n) := by
  by_cases hc : lineFeed ∈ chunk
  · -- The line under way has begun in this chunk, and no earlier chunk ended inside it.
    rw [Scanner.scan_fst_of_mem hc, unfinished_append_of_mem _ hc]
    refine ⟨fun _ => rfl, ⟨nofun, ?_⟩⟩
    rintro ⟨n, ends, beyond⟩
    have within := ends.le
    have small := length_unfinished_le chunk
    simp only [lineStart, unfinished_append_of_mem _ hc, List.length_append] at beyond
    omega
  · have same : lineStart (chunks.flatten ++ chunk) = lineStart chunks.flatten := by
      simp only [lineStart, unfinished_append_of_not_mem _ hc, List.length_append]
      omega
    rw [Scanner.scan_of_not_mem hc, same, unfinished_append_of_not_mem _ hc]
    refine ⟨fun kept => ?_, h.discarding_iff⟩
    rw [List.reverse_append, ← h.held kept]

theorem feed (h : Follows chunks s) (chunk : List UInt8) :
    Follows (chunks ++ [chunk]) (s.feed chunk).1 := by
  obtain ⟨held, discarding_iff⟩ := h.scan chunk
  have flat : (chunks ++ [chunk]).flatten = chunks.flatten ++ chunk := by simp
  rw [Scanner.feed_eq]
  generalize (s.scan chunk).1 = after at held discarding_iff
  refine ⟨fun kept => ?_, ?_⟩
  · rw [Scanner.discarding_trim, Bool.or_eq_false_iff] at kept
    obtain ⟨keeps, small⟩ := kept
    rw [Scanner.trim_of_le (Nat.not_lt.mp (of_decide_eq_false small)), flat]
    exact held keeps
  · -- The chunk itself is the one more chunk that can end too far inside the line.
    have total := lineStart_add (chunks.flatten ++ chunk)
    have buffered (keeps : after.discarding = false) :
        after.buffered = (unfinished (chunks.flatten ++ chunk)).length := by
      rw [Scanner.buffered, held keeps, List.length_reverse]
    rw [Scanner.discarding_trim, Bool.or_eq_true, decide_eq_true_iff, flat]
    cases old : after.discarding with
    | true =>
        obtain ⟨n, ends, beyond⟩ := discarding_iff.mp old
        exact iff_of_true (Or.inl rfl) ⟨n, endsAt_concat.mpr (Or.inl ends), beyond⟩
    | false =>
        rw [buffered old]
        constructor
        · intro given
          have long := given.resolve_left (by simp)
          exact ⟨_, endsAt_concat.mpr (Or.inr rfl), by omega⟩
        · rintro ⟨n, ends, beyond⟩
          rcases endsAt_concat.mp ends with earlier | rfl
          · have discards := discarding_iff.mpr ⟨n, earlier, beyond⟩
            rw [old] at discards
            cases discards
          · exact Or.inr (by omega)

theorem feedAll (chunks : List (List UInt8)) :
    Follows chunks (({} : Scanner).feedAll chunks).1 := by
  induction chunks using List.reverseRecOn with
  | nil => exact empty
  | append_singleton chunks chunk ih =>
      rw [Scanner.feedAll_concat]
      exact ih.feed chunk

/-- A line that the next chunk completes has outgrown the limit exactly if it was under way before
and is being discarded. -/
theorem isOutgrown_iff (h : Follows chunks s) {chunk : List UInt8} {line : Line}
    (hl : line ∈ completeLines (lineStart chunks.flatten) (unfinished chunks.flatten ++ chunk)) :
    line.isOutgrown chunks = true
      ↔ s.discarding = true ∧ line.start = lineStart chunks.flatten := by
  have total := lineStart_add chunks.flatten
  rw [Line.isOutgrown_iff, h.discarding_iff]
  rcases start_of_mem_completeLines (not_mem_unfinished _) hl with ⟨first, long⟩ | later
  · constructor
    · rintro ⟨n, ends, beyond, -⟩
      exact ⟨⟨n, ends, first ▸ beyond⟩, first⟩
    · rintro ⟨⟨n, ends, beyond⟩, -⟩
      have within := ends.le
      exact ⟨n, ends, first ▸ beyond, by omega⟩
  · constructor
    · rintro ⟨n, ends, beyond, -⟩
      have within := ends.le
      omega
    · rintro ⟨-, first⟩
      omega

end Follows

/-! ## Events are those of the lines -/

/-- Another chunk does not change whether a line that is complete has outgrown the limit. -/
theorem Line.isOutgrown_concat {chunks : List (List UInt8)} {chunk : List UInt8} {line : Line}
    (complete : line.finish < (chunks.flatten ++ chunk).length) :
    line.isOutgrown (chunks ++ [chunk]) = line.isOutgrown chunks := by
  rw [Bool.eq_iff_iff, Line.isOutgrown_iff, Line.isOutgrown_iff]
  constructor
  · rintro ⟨n, ends, beyond, within⟩
    rcases endsAt_concat.mp ends with earlier | rfl
    · exact ⟨n, earlier, beyond, within⟩
    · omega
  · rintro ⟨n, ends, bounds⟩
    exact ⟨n, endsAt_concat.mpr (Or.inl ends), bounds⟩

/-- A new scanner finds the events of the complete lines, however the stream is cut. -/
theorem events_eq_lineEvents (chunks : List (List UInt8)) :
    (({} : Scanner).feedAll chunks).2 = lineEvents chunks := by
  induction chunks using List.reverseRecOn with
  | nil => simp [Scanner.feedAll, lineEvents, completeLines_of_not_mem]
  | append_singleton chunks chunk ih =>
      have follows := Follows.feedAll chunks
      rw [Scanner.feedAll_concat, ih, Scanner.feed_eq]
      generalize (({} : Scanner).feedAll chunks).1 = s at follows
      have flat : (chunks ++ [chunk]).flatten = chunks.flatten ++ chunk := by simp
      have split := completeLines_append 0 chunks.flatten chunk
      rw [Nat.zero_add] at split
      -- Every line of the longer stream is complete before its end.
      have outgrown : ∀ line ∈ completeLines 0 (chunks.flatten ++ chunk),
          line.isOutgrown (chunks ++ [chunk]) = line.isOutgrown chunks := by
        intro line hl
        have := (bounds_of_mem_completeLines hl).2
        exact Line.isOutgrown_concat (by omega)
      rw [split] at outgrown
      show lineEvents chunks ++ (s.scan chunk).2 = lineEvents (chunks ++ [chunk])
      rw [lineEvents, lineEvents, flat, split, List.filterMap_append]
      congr 1
      · refine List.filterMap_congr fun line hl => ?_
        rw [Line.event?, Line.event?, outgrown line (List.mem_append_left _ hl)]
      · rw [Scanner.scan_snd (lineStart chunks.flatten) (not_mem_unfinished _) follows.held chunk]
        refine List.filterMap_congr fun line hl => ?_
        rw [Line.event?, outgrown line (List.mem_append_right _ hl)]
        simp only [follows.isOutgrown_iff hl]

/-- Lines of the same bytes carry the same event, wherever they stand and whatever stands around
them, if the same chunks end inside them beyond the limit. -/
theorem Line.event?_congr {chunks others : List (List UInt8)} {line other : Line}
    (same : line.bytes = other.bytes)
    (ends : ∀ offset, lineLimit < offset → offset ≤ line.bytes.length →
      (EndsAt chunks (line.start + offset) ↔ EndsAt others (other.start + offset))) :
    line.event? chunks = other.event? others := by
  have outgrown : line.isOutgrown chunks = other.isOutgrown others := by
    rw [Bool.eq_iff_iff, Line.isOutgrown_iff, Line.isOutgrown_iff]
    have long : other.bytes.length = line.bytes.length := by rw [same]
    simp only [Line.finish]
    constructor
    · rintro ⟨n, hn, beyond, within⟩
      obtain ⟨offset, rfl⟩ := Nat.exists_eq_add_of_le (show line.start ≤ n by omega)
      exact ⟨_, (ends offset (by omega) (by omega)).mp hn, by omega, by omega⟩
    · rintro ⟨n, hn, beyond, within⟩
      obtain ⟨offset, rfl⟩ := Nat.exists_eq_add_of_le (show other.start ≤ n by omega)
      exact ⟨_, (ends offset (by omega) (by omega)).mpr hn, by omega, by omega⟩
  rw [Line.event?, Line.event?, outgrown, same]

/-- **Events follow the lines.** A new scanner finds the events of the complete lines of a stream,
in order, less those of the lines that have outgrown the limit. Whether a line has depends on
nothing but the chunks that end inside it beyond the limit: not on where other chunks end, not on
chunks without bytes, and not on the lines before it. -/
theorem events_follow_lines :
    (∀ chunks : List (List UInt8), (({} : Scanner).feedAll chunks).2 = lineEvents chunks)
    ∧ (∀ (chunks others : List (List UInt8)) (line other : Line), line.bytes = other.bytes →
        (∀ offset, lineLimit < offset → offset ≤ line.bytes.length →
          (EndsAt chunks (line.start + offset) ↔ EndsAt others (other.start + offset))) →
        line.event? chunks = other.event? others)
    ∧ ∀ chunks : List (List UInt8),
        (({} : Scanner).feedAll (chunks.filter (!·.isEmpty))).2
          = (({} : Scanner).feedAll chunks).2 := by
  refine ⟨events_eq_lineEvents, fun _ _ _ _ same ends => Line.event?_congr same ends, ?_⟩
  intro chunks
  rw [events_eq_lineEvents, events_eq_lineEvents, lineEvents, lineEvents,
    List.flatten_filter_not_isEmpty]
  exact List.filterMap_congr fun line _ => Line.event?_congr rfl fun _ _ _ => endsAt_filter

end StreamLoad
