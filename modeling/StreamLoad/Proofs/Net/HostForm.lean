import StreamLoad.Proofs.Net.Url

/-! # What hosts read as

Whatever a text reads as, as the host of an address, the result is again the text of one host: it
holds nothing that an address drops, that ends a host or that begins another part of the address
(`Host.isWhole_of_special?`). For a name this is because the form of it in ASCII holds its own
characters, none of which is forbidden, and else only letters, digits, hyphens and dots.
-/

set_option autoImplicit false

namespace StreamLoad

/-! ## Labels written in ASCII

A label beyond ASCII is written as its own ASCII characters and numbers, and numbers are made of
letters and digits. This is followed through the insertions one by one, with what was written so far
as an accumulator. -/

namespace Domain

open Host (isPlainChar)

namespace Punycode

theorem isPlainChar_digit {value : Nat} (h : value < base) : isPlainChar (digit value) = true := by
  have all : ∀ value < base, isPlainChar (digit value) = true := by decide
  exact all value h

/-- Numbers are written with letters and digits. -/
theorem isPlainChar_of_mem_writeNumber {bias place number : Nat} {c : Char}
    (h : c ∈ writeNumber bias place number) : isPlainChar c = true := by
  fun_induction writeNumber bias place number with
  | case1 place number t small =>
      obtain rfl := List.mem_singleton.mp h
      have := threshold_le bias place
      exact isPlainChar_digit (Nat.lt_of_lt_of_le small (by simp only [t, base]; omega))
  | case2 place number t large ih =>
      have := threshold_le bias place
      rcases List.mem_cons.mp h with rfl | later
      · refine isPlainChar_digit ?_
        have := Nat.mod_lt (number - t) (y := base - t) (by simp only [t, base]; omega)
        simp only [t, base] at *
        omega
      · exact ih later

/-- What is written of insertions so far are letters and digits. -/
def Progress.IsPlain (p : Progress) : Prop := ∀ c ∈ p.written, isPlainChar c = true

theorem Progress.IsPlain.pass {p : Progress} (h : p.IsPlain) (point : Nat) (c : Char) :
    (p.pass point c).IsPlain := by
  unfold Progress.pass
  split
  · exact h
  · split
    · intro d hd
      rcases List.mem_append.mp hd with new | old
      · exact isPlainChar_of_mem_writeNumber (List.mem_reverse.mp new)
      · exact h d old
    · exact h

theorem Progress.IsPlain.passAll {p : Progress} (h : p.IsPlain) (point : Nat) (text : List Char) :
    (text.foldl (Progress.pass point) p).IsPlain := by
  induction text generalizing p with
  | nil => exact h
  | cons c text ih => exact ih (h.pass point c)

theorem isPlainChar_of_mem_writeInsertions {text : List Char} {before : Nat} {p : Progress}
    (plain : p.IsPlain) {points : List Nat} {c : Char}
    (h : c ∈ writeInsertions text before p points) : isPlainChar c = true := by
  induction points generalizing before p with
  | nil => exact plain c (List.mem_reverse.mp h)
  | cons point points ih =>
      have start : Progress.IsPlain
          { p with number := p.number + (point - before) * (p.length + 1) } := plain
      refine ih ?_ h
      exact start.passAll point text

/-- A label is written with its own characters, and with letters, digits and a hyphen. -/
theorem mem_encode {text : List Char} {c : Char} (h : c ∈ encode text) :
    c ∈ text ∨ isPlainChar c = true := by
  rcases List.mem_append.mp h with ahead | number
  · split at ahead
    · cases ahead
    · rcases List.mem_append.mp ahead with own | hyphen
      · exact Or.inl (List.mem_filter.mp own).1
      · obtain rfl := List.mem_singleton.mp hyphen
        exact Or.inr (by decide)
  · exact Or.inr (isPlainChar_of_mem_writeInsertions (fun _ none => by cases none) number)

end Punycode

theorem mem_ascii_of_label? {piece : List Char} {label : Label} (h : label? piece = some label)
    {c : Char} (hc : c ∈ label.ascii) : c ∈ piece ∨ isPlainChar c = true := by
  unfold label? at h
  split at h
  · split at h
    · obtain ⟨text, -, h⟩ := Option.bind_eq_some_iff.mp h
      split at h
      · cases h
        exact Or.inl hc
      · cases h
    · cases h
  · split at h
    · cases h
      exact Or.inl hc
    · split at h
      · cases h
        rcases List.mem_append.mp hc with mark | own
        · have plain : ∀ c ∈ labelMark, isPlainChar c = true := List.all_eq_true.mp (by decide)
          exact Or.inr (plain c mark)
        · exact Punycode.mem_encode own
      · cases h

theorem mem_ascii_of_mapM_label? {pieces : List (List Char)} {labels : List Label}
    (h : pieces.mapM label? = some labels) {label : Label} (hl : label ∈ labels) {c : Char}
    (hc : c ∈ label.ascii) : (∃ piece ∈ pieces, c ∈ piece) ∨ isPlainChar c = true := by
  induction pieces generalizing labels with
  | nil =>
      cases h
      cases hl
  | cons piece pieces ih =>
      rw [List.mapM_cons] at h
      obtain ⟨first, read, h⟩ := Option.bind_eq_some_iff.mp h
      obtain ⟨others, rest, h⟩ := Option.bind_eq_some_iff.mp h
      cases h
      rcases List.mem_cons.mp hl with rfl | later
      · exact (mem_ascii_of_label? read hc).imp_left fun own =>
          ⟨piece, List.mem_cons_self, own⟩
      · exact (ih rest later).imp_left fun ⟨other, ho, own⟩ =>
          ⟨other, List.mem_cons_of_mem piece ho, own⟩

/-- No character that is forbidden stands in the form of a name in ASCII. -/
theorem allowed_of_mem_ascii? {isForbidden : Char → Bool} {name form : List Char}
    (h : ascii? isForbidden name = some form) {c : Char} (hc : c ∈ form) :
    isForbidden c = false ∨ isPlainChar c = true := by
  obtain ⟨spelling, -, h⟩ := Option.bind_eq_some_iff.mp h
  split at h
  · cases h
  · rename_i allowed
    obtain ⟨labels, read, h⟩ := Option.bind_eq_some_iff.mp h
    split at h
    · cases h
      rcases mem_of_mem_intercalate hc with dot | ⟨piece, hp, own⟩
      · obtain rfl := List.mem_singleton.mp dot
        exact Or.inr (by decide)
      · obtain ⟨label, hl, rfl⟩ := List.mem_map.mp hp
        refine (mem_ascii_of_mapM_label? read hl own).imp_left fun ⟨part, ht, held⟩ => ?_
        rw [Bool.eq_false_iff]
        intro forbidden
        exact allowed (List.any_eq_true.mpr ⟨c, mem_of_mem_splitOn ht held, forbidden⟩)
    · cases h

end Domain

/-! ## Texts of addresses in numbers -/

namespace Ipv6

open Host (isPlainChar)

theorem isPlainChar_of_mem_toDigits {n : Nat} {c : Char} (h : c ∈ Nat.toDigits 16 n) :
    isPlainChar c = true := by
  have digit : ∀ d < 16, isPlainChar (Nat.digitChar d) = true := by decide
  induction n using Nat.strongRecOn with
  | _ n ih =>
      by_cases small : n < 16
      · rw [Nat.toDigits_of_lt_base small] at h
        rw [List.mem_singleton.mp h]
        exact digit n small
      · rw [Nat.toDigits_of_base_le (by decide) (Nat.not_lt.mp small)] at h
        rcases List.mem_append.mp h with front | last
        · exact ih (n / 16) (by omega) front
        · rw [List.mem_singleton.mp last]
          exact digit _ (Nat.mod_lt _ (by decide))

theorem mem_groupsText {groups : List Nat} {c : Char} (h : c ∈ (groupsText groups).toList) :
    isPlainChar c = true ∨ c = ':' := by
  rw [groupsText, String.toList_intercalate] at h
  rcases mem_of_mem_intercalate h with colon | ⟨group, hg, digit⟩
  · exact Or.inr (List.mem_singleton.mp colon)
  · obtain ⟨text, ht, rfl⟩ := List.mem_map.mp hg
    obtain ⟨n, -, rfl⟩ := List.mem_map.mp ht
    rw [groupText, String.toList_ofList] at digit
    exact Or.inl (isPlainChar_of_mem_toDigits digit)

theorem mem_compressed {groups : List Nat} {c : Char} (h : c ∈ (compressed groups).toList) :
    isPlainChar c = true ∨ c = ':' := by
  unfold compressed at h
  split at h
  split at h
  · rw [String.toList_append, String.toList_append, List.mem_append, List.mem_append] at h
    rcases h with (before | colons) | after
    · exact mem_groupsText before
    · exact Or.inr (by simpa using colons)
    · exact mem_groupsText after
  · exact mem_groupsText h

end Ipv6

/-! ## The texts that hosts read as

There are three kinds of hosts: addresses of version 6 in brackets, addresses of version 4, and
names. The first may hold colons, but only between brackets, and the other two hold nothing that
ends a host. -/

namespace Host

open Url (IsWhole isInside splitHost)

/-- What may stand in a name neither ends a host nor stands before one. -/
theorem isInside_of_allowed {c : Char} (h : isForbiddenInName c = false) :
    isInside c = true ∧ c ≠ ':' ∧ c ≠ '[' := by
  have ne (mark : Char) (forbidden : isForbiddenInName mark = true) : c ≠ mark := by
    rintro rfl
    rw [forbidden] at h
    cases h
  have above : ¬ c.toNat ≤ 0x20 := by
    simp [isForbiddenInName, isForbidden, Percent.isOneOf] at h
    omega
  refine ⟨?_, ne ':' (by decide), ne '[' (by decide)⟩
  simp [isInside, Url.isClear, Url.isPadding, UrlPath.isSlash, above, ne '#' (by decide),
    ne '?' (by decide), ne '/' (by decide), ne '\x5c' (by decide), ne '@' (by decide)]

/-- A text with no character that is forbidden in a name is one host. -/
theorem isWhole_of_allowed {cs : List Char} (h : ∀ c ∈ cs, isForbiddenInName c = false) :
    IsWhole cs where
  inside := fun c hc => (isInside_of_allowed (h c hc)).1
  split := Url.splitHost_of_not_mem (fun hc => (isInside_of_allowed (h _ hc)).2.1 rfl)
    (fun hc => (isInside_of_allowed (h _ hc)).2.2 rfl)

/-- Within brackets, a host goes on up to the closing one. -/
theorem splitHost_bracket {inner : List Char} (free : ']' ∉ inner) (rest : List Char) :
    splitHost true (inner ++ ']' :: ':' :: rest) = (inner ++ [']'], ':' :: rest) := by
  induction inner with
  | nil => simp [splitHost]
  | cons c inner ih =>
      rw [List.mem_cons, not_or] at free
      rw [List.cons_append, splitHost]
      simp [Ne.symm free.1, ih free.2]

/-- An address of version 6 in brackets is one host. -/
theorem isWhole_bracketed {inner : List Char}
    (h : ∀ c ∈ inner, isPlainChar c = true ∨ c = ':') : IsWhole ('[' :: (inner ++ [']'])) where
  inside := by
    intro c hc
    rw [List.mem_cons, List.mem_append, List.mem_singleton] at hc
    rcases hc with rfl | held | rfl
    · decide
    · rcases h c held with plain | rfl
      · exact Url.isInside_of_isPlainChar plain
      · decide
    · decide
  split := by
    intro rest
    have free : ']' ∉ inner := by
      intro held
      rcases h _ held with plain | colon
      · exact absurd plain (by decide)
      · exact absurd colon (by decide)
    rw [List.cons_append, List.append_assoc, splitHost]
    simp [splitHost_bracket free]

theorem isWhole_of_bracketed? {cs : List Char} {host : String} (h : bracketed? cs = some host) :
    IsWhole host.toList := by
  unfold bracketed? at h
  split at h
  · obtain ⟨⟨ip, rest⟩, -, h⟩ := Option.bind_eq_some_iff.mp h
    dsimp only at h
    split at h
    · cases h
      have chars : ("[" ++ Ipv6.compressed ip.groups ++ "]").toList
          = '[' :: ((Ipv6.compressed ip.groups).toList ++ [']']) := by simp
      rw [chars]
      exact isWhole_bracketed fun c hc => Ipv6.mem_compressed hc
    · cases h
  · cases h

theorem isWhole_of_name? {cs : List Char} {host : String} (h : name? cs = some host) :
    IsWhole host.toList := by
  obtain ⟨decoded, -, h⟩ := Option.bind_eq_some_iff.mp h
  obtain ⟨name, form, h⟩ := Option.bind_eq_some_iff.mp h
  split at h
  · cases h
  · split at h
    · obtain ⟨ip, -, rfl⟩ := Option.map_eq_some_iff.mp h
      exact Url.isWhole_of_plain fun c hc => isPlainChar_of_mem_text hc
    · cases h
      rw [String.toList_ofList]
      refine isWhole_of_allowed fun c hc => ?_
      have plain (c : Char) (hp : isPlainChar c = true) : (!isForbiddenInName c) = true :=
        forall_isPlainChar (p := fun c => !isForbiddenInName c) (by decide) hp
      rcases Domain.allowed_of_mem_ascii? form hc with allowed | letter
      · exact allowed
      · simpa using plain c letter

/-- **What a text reads as is the text of one host.** -/
theorem isWhole_of_special? {cs : List Char} {host : String} (h : special? cs = some host) :
    IsWhole host.toList := by
  unfold special? at h
  split at h
  · exact isWhole_of_bracketed? h
  · exact isWhole_of_name? h

end Host

end StreamLoad
