import StreamLoad.Proofs.Event.Lines
import StreamLoad.Proofs.Event.Written

/-! # One stream, cut in two ways

A stream may arrive in chunks of any length, of up to `lineLimit` bytes each. A line of at most
`lineLimit` bytes is found however it is cut, and one of twice as many bytes or more outgrows the
limit however it is cut, since some chunk ends in the part of it that is too much. Between the two
the cutting decides: a chunk that ends where the limit is reached may be followed by one that takes
the line across the limit and to its end at once, and then nothing is left over that could be too
long. `cuttings_agree_iff` says that these lines are the only reason for two cuttings to differ.
-/

set_option autoImplicit false

namespace StreamLoad

open Event (lineFeed)

/-- Whether chunks are a way to cut a stream, of no more bytes each than a line may have. -/
def IsCutting (bytes : List UInt8) (chunks : List (List UInt8)) : Prop :=
  chunks.flatten = bytes ∧ ∀ chunk ∈ chunks, chunk.length ≤ lineLimit

/-! ## Where the chunks of a cutting end -/

theorem endsAt_flatten_length (chunks : List (List UInt8)) :
    EndsAt chunks chunks.flatten.length :=
  ⟨chunks, List.prefix_rfl, rfl⟩

/-- Short chunks end close before every byte. -/
theorem exists_endsAt {limit : Nat} {chunks : List (List UInt8)}
    (small : ∀ chunk ∈ chunks, chunk.length ≤ limit) {e : Nat} (he : e < chunks.flatten.length) :
    ∃ n, EndsAt chunks n ∧ n ≤ e ∧ e < n + limit := by
  induction chunks using List.reverseRecOn with
  | nil => cases he
  | append_singleton chunks chunk ih =>
      rw [List.flatten_concat, List.length_append] at he
      by_cases before : e < chunks.flatten.length
      · obtain ⟨n, ends, near⟩ := ih (fun c hc => small c (by simp [hc])) before
        exact ⟨n, endsAt_concat.mpr (Or.inl ends), near⟩
      · have := small chunk (by simp)
        exact ⟨_, endsAt_concat.mpr (Or.inl (endsAt_flatten_length chunks)), by omega, by omega⟩

/-- No chunk ends inside another. -/
theorem EndsAt.outside {before after : List (List UInt8)} {chunk : List UInt8} {n : Nat}
    (h : EndsAt (before ++ chunk :: after) n) :
    n ≤ before.flatten.length ∨ before.flatten.length + chunk.length ≤ n := by
  obtain ⟨fed, ⟨rest, whole⟩, rfl⟩ := h
  rcases List.append_eq_append_iff.mp whole with ⟨more, rfl, -⟩ | ⟨more, rfl, split⟩
  · exact Or.inl (by simp)
  · cases more with
    | nil => exact Or.inl (by simp)
    | cons head more =>
        obtain rfl := (List.cons.inj split).1
        refine Or.inr ?_
        simp

/-- Every byte in a chunk of its own. -/
def singles (bytes : List UInt8) : List (List UInt8) := bytes.map ([·])

theorem flatten_singles (bytes : List UInt8) : (singles bytes).flatten = bytes :=
  List.flatMap_singleton' bytes

/-- Byte by byte, chunks end everywhere. -/
theorem endsAt_singles {bytes : List UInt8} {n : Nat} (h : n ≤ bytes.length) :
    EndsAt (singles bytes) n :=
  ⟨singles (bytes.take n), (List.take_prefix n bytes).map _, by simp [flatten_singles, h]⟩

/-! ## What a cutting makes of a line

A line is lost if some chunk ends inside it beyond the limit. Chunks are no longer than the limit,
so in a line of twice the limit there is no room to leap over its second half, and one of them does
end there. -/

section Lines

variable {bytes : List UInt8} {chunks : List (List UInt8)} {line : Line}

/-- A line within the limit never outgrows it. -/
theorem Line.isOutgrown_of_le (h : line.bytes.length ≤ lineLimit) :
    line.isOutgrown chunks = false := by
  rw [Bool.eq_false_iff, ne_eq, Line.isOutgrown_iff]
  rintro ⟨n, -, beyond, within⟩
  simp only [Line.finish] at within
  omega

/-- Some chunk ends in the second half of a line of twice the limit. -/
theorem IsCutting.isOutgrown (h : IsCutting bytes chunks) (hl : line ∈ completeLines 0 bytes)
    (long : 2 * lineLimit ≤ line.bytes.length) : line.isOutgrown chunks = true := by
  have inside := (bounds_of_mem_completeLines hl).2
  rw [Nat.zero_add, ← h.1] at inside
  obtain ⟨n, ends, within, near⟩ := exists_endsAt h.2 inside
  refine Line.isOutgrown_iff.mpr ⟨n, ends, ?_, within⟩
  simp only [Line.finish] at near
  omega

/-- Where the cutting does not decide, a line within the limit is found and a longer one is not. -/
theorem IsCutting.event? (h : IsCutting bytes chunks) (hl : line ∈ completeLines 0 bytes)
    (clear : lineLimit < line.bytes.length → line.bytes.length < 2 * lineLimit →
      Event.ofLine? line.bytes = none) :
    line.event? chunks
      = if line.bytes.length ≤ lineLimit then Event.ofLine? line.bytes else none := by
  unfold Line.event?
  by_cases short : line.bytes.length ≤ lineLimit
  · simp [Line.isOutgrown_of_le short, short]
  · rw [if_neg short]
    by_cases long : 2 * lineLimit ≤ line.bytes.length
    · simp [h.isOutgrown hl long]
    · rw [clear (Nat.not_le.mp short) (Nat.not_le.mp long), ite_self]

end Lines

/-! ## Cuttings that differ

For a line between the limit and twice the limit there are two cuttings that disagree. Byte by byte
it is lost; if one chunk leaps from within the limit over the end of the line, it is found. All
other chunks can be single bytes in both. -/

theorem isCutting_singles (bytes : List UInt8) : IsCutting bytes (singles bytes) := by
  refine ⟨flatten_singles bytes, fun chunk hc => ?_⟩
  obtain ⟨b, -, rfl⟩ := List.mem_map.mp hc
  simp [lineLimit]

/-- Every byte in a chunk of its own, but for `width` of them after the first `start`, which come
in one chunk. -/
def leaping (start width : Nat) (bytes : List UInt8) : List (List UInt8) :=
  singles (bytes.take start)
    ++ (bytes.drop start).take width :: singles ((bytes.drop start).drop width)

theorem isCutting_leaping {width : Nat} (h : width ≤ lineLimit) (start : Nat)
    (bytes : List UInt8) : IsCutting bytes (leaping start width bytes) := by
  constructor
  · rw [leaping, List.flatten_append, List.flatten_cons, flatten_singles,
      flatten_singles, List.take_append_drop, List.take_append_drop]
  · intro chunk hc
    rw [leaping, List.mem_append, List.mem_cons] at hc
    rcases hc with single | rfl | single
    · exact (isCutting_singles _).2 chunk single
    · exact Nat.le_trans (List.length_take_le _ _) h
    · exact (isCutting_singles _).2 chunk single

/-- A leap ends nowhere between its two sides. -/
theorem not_endsAt_leaping {start width n : Nat} {bytes : List UInt8}
    (fits : start + width ≤ bytes.length) (above : start < n) (below : n < start + width) :
    ¬ EndsAt (leaping start width bytes) n := by
  intro ends
  have sides := ends.outside
  rw [flatten_singles, List.length_take, List.length_take, List.length_drop] at sides
  omega

/-- A line that carries an event is found if the chunk that takes it across the limit takes it to
its end, line feed and all. -/
theorem event?_leaping {bytes : List UInt8} {line : Line} (hl : line ∈ completeLines 0 bytes)
    (long : lineLimit < line.bytes.length) :
    line.event? (leaping (line.start + lineLimit) (line.bytes.length + 1 - lineLimit) bytes)
      = Event.ofLine? line.bytes := by
  have inside := (bounds_of_mem_completeLines hl).2
  simp only [Line.finish] at inside
  have kept : line.isOutgrown
      (leaping (line.start + lineLimit) (line.bytes.length + 1 - lineLimit) bytes) = false := by
    rw [Bool.eq_false_iff, ne_eq, Line.isOutgrown_iff]
    rintro ⟨n, ends, beyond, within⟩
    simp only [Line.finish] at within
    exact not_endsAt_leaping (by omega) beyond (by omega) ends
  rw [Line.event?, kept]
  rfl

/-- A longer line is not found byte by byte. -/
theorem event?_singles {bytes : List UInt8} {line : Line} (hl : line ∈ completeLines 0 bytes)
    (long : lineLimit < line.bytes.length) : line.event? (singles bytes) = none := by
  have inside := (bounds_of_mem_completeLines hl).2
  have outgrown : line.isOutgrown (singles bytes) = true :=
    Line.isOutgrown_iff.mpr ⟨line.finish, endsAt_singles (by omega),
      by simp only [Line.finish]; omega, Nat.le_refl _⟩
  rw [Line.event?, outgrown]
  rfl

/-- What is found byte by byte is found in every cutting. -/
theorem event?_of_singles {bytes : List UInt8} {chunks : List (List UInt8)}
    (h : IsCutting bytes chunks) {line : Line}
    (found : (line.event? (singles bytes)).isSome) : (line.event? chunks).isSome := by
  by_cases outgrown : line.isOutgrown chunks = true
  · obtain ⟨n, ends, bounds⟩ := Line.isOutgrown_iff.mp outgrown
    have single : line.isOutgrown (singles bytes) = true :=
      Line.isOutgrown_iff.mpr ⟨n, endsAt_singles (h.1 ▸ ends.le), bounds⟩
    simp [Line.event?, single] at found
  · rw [Line.event?] at found ⊢
    rw [if_neg outgrown]
    split at found
    · cases found
    · exact found

/-- A line between the limit and twice the limit that carries an event is found in one cutting and
not in another. -/
theorem exists_cuttings_ne {bytes : List UInt8} {line : Line} (hl : line ∈ completeLines 0 bytes)
    (long : lineLimit < line.bytes.length) (short : line.bytes.length < 2 * lineLimit)
    (carries : (Event.ofLine? line.bytes).isSome) :
    ∃ one other, IsCutting bytes one ∧ IsCutting bytes other
      ∧ (({} : Scanner).feedAll one).2 ≠ (({} : Scanner).feedAll other).2 := by
  have leap : IsCutting bytes
      (leaping (line.start + lineLimit) (line.bytes.length + 1 - lineLimit) bytes) :=
    isCutting_leaping (by omega) _ bytes
  refine ⟨_, _, isCutting_singles bytes, leap, fun same => ?_⟩
  rw [events_eq_lineEvents, events_eq_lineEvents, lineEvents, lineEvents, leap.1,
    (isCutting_singles bytes).1] at same
  have more : ∀ other ∈ completeLines 0 bytes, (other.event? (singles bytes)).isSome →
      (other.event? _).isSome := fun _ _ => event?_of_singles leap
  have fewer := length_filterMap_lt more hl (event?_singles hl long)
    (event?_leaping hl long ▸ carries)
  rw [same] at fewer
  exact Nat.lt_irrefl _ fewer

/-- **Where the cutting matters.** All cuttings of a stream yield the same events exactly if no line
of it carries an event that is longer than the limit and shorter than twice the limit. -/
theorem cuttings_agree_iff (bytes : List UInt8) :
    (∀ one other, IsCutting bytes one → IsCutting bytes other →
        (({} : Scanner).feedAll one).2 = (({} : Scanner).feedAll other).2)
      ↔ ∀ line ∈ completeLines 0 bytes, lineLimit < line.bytes.length →
          line.bytes.length < 2 * lineLimit → Event.ofLine? line.bytes = none := by
  constructor
  · intro agree line hl long short
    by_contra carries
    obtain ⟨one, other, hone, hother, apart⟩ :=
      exists_cuttings_ne hl long short (Option.isSome_iff_ne_none.mpr carries)
    exact apart (agree one other hone hother)
  · intro clear one other hone hother
    rw [events_eq_lineEvents, events_eq_lineEvents, lineEvents, lineEvents, hone.1, hother.1]
    refine List.filterMap_congr fun line hl => ?_
    rw [hone.event? hl (clear line hl), hother.event? hl (clear line hl)]

/-! ## A line of one byte too many

The shortest line that is too long, cut where the limit is reached. Whether its last byte comes
together with the line feed or before it decides whether its event is found. -/

/-- What comes of chunks that make one line. -/
theorem events_of_line {line : List UInt8} (free : lineFeed ∉ line) {chunks : List (List UInt8)}
    (whole : chunks.flatten = line ++ [lineFeed]) :
    (({} : Scanner).feedAll chunks).2 = ((⟨0, line⟩ : Line).event? chunks).toList := by
  rw [events_eq_lineEvents, lineEvents, whole, completeLines_cons free,
    completeLines_of_not_mem (by simp), List.filterMap_cons]
  cases (⟨0, line⟩ : Line).event? chunks <;> rfl

section OneTooMany

variable {line : List UInt8}

theorem length_take_lineLimit (length : line.length = lineLimit + 1) :
    (line.take lineLimit).length = lineLimit := by
  rw [List.length_take, length]
  omega

theorem length_drop_lineLimit (length : line.length = lineLimit + 1) :
    (line.drop lineLimit).length = 1 := by
  rw [List.length_drop, length]
  omega

/-- The line feed comes together with the byte that is too much. -/
theorem isCutting_together (length : line.length = lineLimit + 1) :
    IsCutting (line ++ [lineFeed]) [line.take lineLimit, line.drop lineLimit ++ [lineFeed]] := by
  refine ⟨by simp [← List.append_assoc], fun chunk hc => ?_⟩
  rcases List.mem_pair.mp hc with rfl | rfl
  · exact Nat.le_of_eq (length_take_lineLimit length)
  · rw [List.length_append, length_drop_lineLimit length]
    decide

/-- The line feed comes after the byte that is too much. -/
theorem isCutting_apart (length : line.length = lineLimit + 1) :
    IsCutting (line ++ [lineFeed]) [line.take lineLimit, line.drop lineLimit, [lineFeed]] := by
  refine ⟨by simp [← List.append_assoc], fun chunk hc => ?_⟩
  rw [List.mem_cons, List.mem_pair] at hc
  rcases hc with rfl | rfl | rfl
  · exact Nat.le_of_eq (length_take_lineLimit length)
  · rw [length_drop_lineLimit length]
    decide
  · decide

theorem events_together (free : lineFeed ∉ line) (length : line.length = lineLimit + 1) :
    (({} : Scanner).feedAll [line.take lineLimit, line.drop lineLimit ++ [lineFeed]]).2
      = (Event.ofLine? line).toList := by
  have kept : (⟨0, line⟩ : Line).isOutgrown
      [line.take lineLimit, line.drop lineLimit ++ [lineFeed]] = false := by
    rw [Bool.eq_false_iff, ne_eq, Line.isOutgrown_iff]
    rintro ⟨n, ends, beyond, within⟩
    have around : EndsAt ([line.take lineLimit] ++ [line.drop lineLimit ++ [lineFeed]]) n := ends
    have sides := around.outside
    rw [List.flatten_singleton, length_take_lineLimit length, List.length_append,
      length_drop_lineLimit length, List.length_singleton] at sides
    simp only [Line.finish, length] at within beyond
    omega
  rw [events_of_line free (isCutting_together length).1, Line.event?, kept]
  rfl

theorem events_apart (free : lineFeed ∉ line) (length : line.length = lineLimit + 1) :
    (({} : Scanner).feedAll [line.take lineLimit, line.drop lineLimit, [lineFeed]]).2 = [] := by
  have ends : EndsAt [line.take lineLimit, line.drop lineLimit, [lineFeed]] (lineLimit + 1) := by
    refine ⟨[line.take lineLimit, line.drop lineLimit], ⟨[[lineFeed]], rfl⟩, ?_⟩
    rw [List.flatten_cons, List.flatten_singleton, List.take_append_drop, length]
  have outgrown : (⟨0, line⟩ : Line).isOutgrown
      [line.take lineLimit, line.drop lineLimit, [lineFeed]] = true :=
    Line.isOutgrown_iff.mpr ⟨_, ends, by simp, by simp [Line.finish, length]⟩
  rw [events_of_line free (isCutting_apart length).1, Line.event?, outgrown]
  rfl

end OneTooMany

/-- The line of a payload of so many times the letter `x`, less its line feed. -/
def filled (n : Nat) : List UInt8 := Event.written (String.ofList (List.replicate n 'x'))

theorem length_filled (n : Nat) : (filled n).length = n + 6 := by
  have one : (String.utf8EncodeChar 'x').length = 1 := by decide
  rw [filled, Event.written_eq, Text.utf8_ofList, List.length_append, List.length_flatMap,
    List.map_replicate, one, List.sum_replicate_nat]
  simp
  omega

theorem lineFeed_not_mem_filled (n : Nat) : lineFeed ∉ filled n :=
  Event.lineFeed_not_mem_written (by simp)

/-- A long payload is neither the greeting nor one that keeps a stream alive. -/
theorem ofLine?_filled {n : Nat} (h : 9 < n) :
    Event.ofLine? (filled n) = some (.data (String.ofList (List.replicate n 'x'))) := by
  have length : (String.ofList (List.replicate n 'x')).length = n := by simp
  have last : (String.ofList (List.replicate n 'x')).toList.getLast? ≠ some '\r' := by
    rw [String.toList_ofList, List.getLast?_replicate]
    split <;> decide
  have welcome : String.ofList (List.replicate n 'x') ≠ Event.welcomePayload := by
    intro same
    rw [same] at length
    exact absurd h (Nat.not_lt.mpr (length ▸ by decide))
  have ping : String.ofList (List.replicate n 'x') ≠ Event.pingPayload := by
    intro same
    rw [same] at length
    exact absurd h (Nat.not_lt.mpr (length ▸ by decide))
  rw [filled, Event.ofLine?_written last, Event.ofPayload, if_neg welcome, if_neg ping]

/-- One stream, of a line of one byte more than the limit, in chunks that break off where the limit
is reached: its event is found if the line feed comes together with the byte that is too much, and
is not found if it comes after that byte. -/
theorem overlong_line_found_in_one_cutting :
    IsCutting (filled 65531 ++ [lineFeed])
        [(filled 65531).take lineLimit, (filled 65531).drop lineLimit ++ [lineFeed]]
    ∧ IsCutting (filled 65531 ++ [lineFeed])
        [(filled 65531).take lineLimit, (filled 65531).drop lineLimit, [lineFeed]]
    ∧ (({} : Scanner).feedAll
        [(filled 65531).take lineLimit, (filled 65531).drop lineLimit ++ [lineFeed]]).2
          = [Event.data (String.ofList (List.replicate 65531 'x'))]
    ∧ (({} : Scanner).feedAll
        [(filled 65531).take lineLimit, (filled 65531).drop lineLimit, [lineFeed]]).2 = [] := by
  have free := lineFeed_not_mem_filled 65531
  have length : (filled 65531).length = lineLimit + 1 := length_filled 65531
  have found := events_together free length
  rw [ofLine?_filled (by decide)] at found
  exact ⟨isCutting_together length, isCutting_apart length, found, events_apart free length⟩

end StreamLoad
