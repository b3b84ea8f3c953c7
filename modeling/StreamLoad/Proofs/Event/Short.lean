import StreamLoad.Proofs.Event.Lines

/-! # Streams of short lines

As long as no line of a stream exceeds the limit (`IsShort`), a scanner gives nothing up, and what
it holds is the line under way (`Scanner.after`). A chunk then yields the events of the lines that
it completes (`Scanner.feed_after`), and the lines completed by two runs of bytes are those
completed by one after the other (`completed_append`), so that nothing depends on where chunks end.
-/

set_option autoImplicit false

namespace StreamLoad

open Event (lineFeed)

/-- No line of a stream exceeds the limit, the one under way included. -/
def IsShort (bytes : List UInt8) : Prop :=
  ∀ line ∈ bytes.splitOn lineFeed, line.length ≤ lineLimit

instance (bytes : List UInt8) : Decidable (IsShort bytes) :=
  inferInstanceAs (Decidable (∀ line ∈ bytes.splitOn lineFeed, line.length ≤ lineLimit))

/-- The lines that `more` bytes complete of a stream. -/
def completed (before more : List UInt8) : List (List UInt8) :=
  ((unfinished before ++ more).splitOn lineFeed).dropLast

/-! ## Lines of longer streams

A stream is taken apart where a chunk ends. The line under way there goes on in the later part, and
all other lines lie on one side. -/

@[simp] theorem unfinished_nil : unfinished [] = [] := unfinished_of_not_mem List.not_mem_nil

/-- Only the line under way counts for what is under way later. -/
theorem unfinished_unfinished_append (before more : List UInt8) :
    unfinished (unfinished before ++ more) = unfinished (before ++ more) := by
  by_cases h : lineFeed ∈ more
  · rw [unfinished_append_of_mem _ h, unfinished_append_of_mem _ h]
  · rw [unfinished_append_of_not_mem _ h, unfinished_append_of_not_mem _ h,
      unfinished_of_not_mem (not_mem_unfinished before)]

theorem map_bytes_placed (start : Nat) (pieces : List (List UInt8)) :
    (placed start pieces).map Line.bytes = pieces := by
  induction pieces generalizing start with
  | nil => rfl
  | cons piece pieces ih => exact congrArg (piece :: ·) (ih (start + piece.length + 1))

theorem map_bytes_completeLines (start : Nat) (before more : List UInt8) :
    (completeLines start (unfinished before ++ more)).map Line.bytes = completed before more :=
  map_bytes_placed start _

/-- The lines completed by two runs of bytes are completed by one after the other. -/
theorem completed_append (before more later : List UInt8) :
    completed before (more ++ later)
      = completed before more ++ completed (before ++ more) later := by
  have split := completeLines_append 0 (unfinished before ++ more) later
  rw [unfinished_unfinished_append, List.append_assoc] at split
  have bytes := congrArg (List.map Line.bytes) split
  rwa [List.map_append, map_bytes_completeLines, map_bytes_completeLines,
    map_bytes_completeLines] at bytes

theorem completed_nil (before : List UInt8) : completed before [] = [] := by
  rw [completed, List.append_nil, List.splitOn_eq_singleton (not_mem_unfinished before)]
  rfl

/-- The lines of a stream are the complete ones and the one under way. -/
theorem splitOn_eq (bytes : List UInt8) :
    bytes.splitOn lineFeed = completed [] bytes ++ [unfinished bytes] := by
  have last := List.getLast?_eq_some_getLast (List.splitOn_ne_nil lineFeed bytes)
  rw [completed, unfinished_nil, List.nil_append, unfinished, last, Option.getD_some,
    List.dropLast_append_getLast]

/-! ## Short streams -/

/-- The line under way of a short stream is within the limit. -/
theorem IsShort.length_unfinished_le {bytes : List UInt8} (h : IsShort bytes) :
    (unfinished bytes).length ≤ lineLimit :=
  h _ (by rw [splitOn_eq]; exact List.mem_append_right _ List.mem_cons_self)

/-- What comes before in a short stream is short. -/
theorem IsShort.of_append {before more : List UInt8} (h : IsShort (before ++ more)) :
    IsShort before := by
  have lines := completed_append [] before more
  intro line hl
  rw [splitOn_eq] at hl
  rcases List.mem_append.mp hl with complete | rest
  · refine h line ?_
    rw [splitOn_eq, lines]
    exact List.mem_append_left _ (List.mem_append_left _ complete)
  · -- The line under way goes on, so that it is only longer later.
    rw [List.mem_singleton.mp rest]
    rcases completeLines_cases more with none | ⟨front, later, rfl, free, -⟩
    · have longer := h.length_unfinished_le
      rw [unfinished_append_of_not_mem before none, List.length_append] at longer
      omega
    · have ends : unfinished before ++ front ∈ (before ++ (front ++ lineFeed :: later)).splitOn
          lineFeed := by
        have apart : lineFeed ∉ unfinished before ++ front := by
          simp [not_mem_unfinished, free]
        have first : unfinished before ++ front
            ∈ completed before (front ++ lineFeed :: later) := by
          rw [completed, ← List.append_assoc, List.splitOn_append_cons_self_of_not_mem apart,
            List.dropLast_cons_of_ne_nil (List.splitOn_ne_nil _ later)]
          exact List.mem_cons_self
        rw [splitOn_eq, lines]
        exact List.mem_append_left _ (List.mem_append_right _ first)
      have longer := h _ ends
      rw [List.length_append] at longer
      omega

/-- What comes later in a short stream is short. -/
theorem IsShort.of_append_right {before more : List UInt8} (h : IsShort (before ++ more)) :
    IsShort more := by
  induction before with
  | nil => exact h
  | cons b before ih =>
      refine ih fun line hl => ?_
      -- Its lines are those of the stream, the first of which may have lost a byte.
      rw [IsShort, List.cons_append, List.splitOn_cons_eq_if_modifyHead] at h
      split at h
      · exact h line (List.mem_cons_of_mem _ hl)
      · cases split : (before ++ more).splitOn lineFeed with
        | nil => exact absurd split (List.splitOn_ne_nil lineFeed _)
        | cons first rest =>
            rw [split] at hl h
            rw [List.modifyHead_cons] at h
            rcases List.mem_cons.mp hl with rfl | later
            · have longer := h _ List.mem_cons_self
              rw [List.length_cons] at longer
              omega
            · exact h line (List.mem_cons_of_mem _ later)

/-! ## What a scanner holds -/

namespace Scanner

/-- A scanner that has taken the bytes of a stream, as long as its lines are short. -/
def after (bytes : List UInt8) : Scanner := { held := (unfinished bytes).reverse }

@[simp] theorem after_nil : after [] = {} := by simp [after]

theorem scan_after (before chunk : List UInt8) :
    (after before).scan chunk
      = (after (before ++ chunk), (completed before chunk).filterMap Event.ofLine?) := by
  refine Prod.ext ?_ ?_
  · by_cases h : lineFeed ∈ chunk
    · rw [scan_fst_of_mem h, after, unfinished_append_of_mem before h]
    · rw [scan_of_not_mem h, after, after, unfinished_append_of_not_mem before h,
        List.reverse_append]
  · rw [scan_snd 0 (not_mem_unfinished before) (fun _ => rfl) chunk,
      ← map_bytes_completeLines 0, List.filterMap_map]
    exact List.filterMap_congr fun line _ => by simp [after]

/-- A chunk of a short stream goes on with the line under way, and its events are those of the
lines that it completes. -/
theorem feed_after {before chunk : List UInt8} (h : IsShort (before ++ chunk)) :
    (after before).feed chunk
      = (after (before ++ chunk), (completed before chunk).filterMap Event.ofLine?) := by
  have within : (after (before ++ chunk)).buffered ≤ lineLimit := by
    rw [buffered, after, List.length_reverse]
    exact h.length_unfinished_le
  rw [feed_eq, scan_after, trim_of_le within]

end Scanner

end StreamLoad
