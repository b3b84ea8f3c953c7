import StreamLoad.Net.UrlPath

/-! # Segments of a path

What a text makes of the path of an address that is not a file's. A segment is ordinary if it
stands for no other place and holds nothing that addresses drop. A path of ordinary segments is
kept as it is (`text_ofText`); and whatever segments come before an ordinary one, a path ends in
what its last segment writes (`exists_text_ofText`).
-/

set_option autoImplicit false

namespace StreamLoad.UrlPath

/-- Whether a segment is kept as it is. -/
structure IsOrdinary (segment : List Char) : Prop where
  kept : ∀ c ∈ segment, isDropped c = false
  dot : isDot segment = false
  doubleDot : isDoubleDot segment = false

theorem clean_eq_self {cs : List Char} (h : ∀ c ∈ cs, isDropped c = false) : clean cs = cs := by
  refine List.filter_eq_self.mpr fun c hc => ?_
  rw [h c hc]
  rfl

/-- No spelling of a dot segment holds a hyphen. -/
theorem isOrdinary_of_mem {segment : List Char} (hyphen : '-' ∈ segment)
    (kept : ∀ c ∈ segment, isDropped c = false) : IsOrdinary segment := by
  have lower : '-' ∈ segment.map Char.toLower := List.mem_map.mpr ⟨'-', hyphen, by decide⟩
  have other (dots : List Char) (hd : '-' ∉ dots) : segment.map Char.toLower ≠ dots :=
    fun same => hd (same ▸ lower)
  refine ⟨kept, ?_, ?_⟩
  · simp only [isDot, other ['.'] (by decide), other ['%', '2', 'e'] (by decide), decide_false,
      Bool.or_false]
  · rw [isDoubleDot, Bool.eq_false_iff, ne_eq, List.contains_iff_mem]
    intro dots
    have free : ∀ dots ∈ [['.', '.'], ['.', '%', '2', 'e'], ['%', '2', 'e', '.'],
        ['%', '2', 'e', '%', '2', 'e']], '-' ∉ dots := by decide
    exact free _ dots lower

namespace Walk

theorem segments_down (w : Walk) (segment : List Char) :
    (w.down segment).segments = w.segments ++ [Percent.encode Percent.inPathSet segment] := by
  simp [segments, down]

/-- An ordinary segment leads to a place of its own. -/
theorem along_of_isOrdinary {segment : List Char} (h : IsOrdinary segment) (isLast : Bool)
    (w : Walk) : w.along false isLast segment = w.down segment := by
  simp [along, clean_eq_self h.kept, h.dot, h.doubleDot]

/-- A walk along ordinary segments goes down at each of them. -/
theorem segments_walk {parts : List (List Char)} (h : ∀ part ∈ parts, IsOrdinary part) (w : Walk) :
    (walk false w parts).segments = w.segments ++ parts.map (Percent.encode Percent.inPathSet) := by
  induction parts generalizing w with
  | nil => simp [walk]
  | cons part parts ih =>
      rw [walk, along_of_isOrdinary (h part List.mem_cons_self),
        ih fun other hp => h other (List.mem_cons_of_mem part hp), segments_down, List.append_assoc,
        List.singleton_append, List.map_cons]

/-- The last step of a walk is along its last segment. -/
theorem walk_concat (isFile : Bool) (w : Walk) (parts : List (List Char)) (last : List Char) :
    ∃ place, walk isFile w (parts ++ [last]) = along isFile true place last := by
  induction parts generalizing w with
  | nil => exact ⟨w, rfl⟩
  | cons part parts ih => exact ih _

end Walk

/-- The text of a path is its segments, each after a slash. -/
theorem toList_text_ofSegments (parts : List (List Char)) :
    (ofSegments parts).text.toList = parts.flatMap fun part => '/' :: part := by
  simp only [ofSegments, text, String.toList_join, List.map_map, List.flatMap_map]
  congr 1
  funext part
  simp

/-- A path of ordinary segments is kept as it is, but for what has to be encoded. -/
theorem text_ofText {special : Bool} {cs : List Char}
    (h : ∀ part ∈ cs.splitOnP (isSlash special), IsOrdinary part) :
    (ofText special cs).text.toList
      = (cs.splitOnP (isSlash special)).flatMap fun part =>
          '/' :: Percent.encode Percent.inPathSet part := by
  rw [ofText, Walk.segments_walk h, toList_text_ofSegments]
  simp [Walk.segments, List.flatMap_map]

/-- A path ends in what its last segment writes, if that is an ordinary one. -/
theorem exists_text_ofText {special : Bool} {slash : Char} (hs : isSlash special slash = true)
    {last : List Char} (one : ∀ c ∈ last, isSlash special c = false) (ordinary : IsOrdinary last)
    (front : List Char) :
    ∃ before, (ofText special (front ++ slash :: last)).text.toList
      = before ++ '/' :: Percent.encode Percent.inPathSet last := by
  rw [ofText, List.splitOnP_append_cons _ _ hs, List.splitOnP_eq_singleton one]
  obtain ⟨place, walked⟩ := Walk.walk_concat false {} (front.splitOnP (isSlash special)) last
  rw [walked, Walk.along_of_isOrdinary ordinary, Walk.segments_down, toList_text_ofSegments,
    List.flatMap_append, List.flatMap_singleton]
  exact ⟨_, rfl⟩

end StreamLoad.UrlPath
