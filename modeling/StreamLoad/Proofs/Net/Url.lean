import StreamLoad.Net.Url
import StreamLoad.Proofs.Net.Host
import StreamLoad.Proofs.Net.UrlPath

/-! # Reading the address of a host

`parse?_whole` reads an address of the form `http://host:port/…` symbolically, whatever follows the
port, as long as nothing in it is cut off, dropped or the mark of a query or a fragment, and the
host ends at the colon of the port (`IsWhole`). The lemmas before it do so part by part, in the
order in which an address is taken apart.
-/

set_option autoImplicit false

namespace StreamLoad

namespace Url

open UrlPath (clean isDropped isSlash)

/-! ## Characters that no reading drops or cuts at -/

/-- Whether a character stays where it is in an address, and begins neither a query nor a
fragment. -/
def isClear (c : Char) : Bool := !isPadding c && c ≠ '#' && c ≠ '?'

theorem isPadding_of_isClear {c : Char} (h : isClear c = true) : isPadding c = false := by
  simp only [isClear, Bool.and_eq_true, Bool.not_eq_true'] at h
  exact h.1.1

theorem isDropped_of_isClear {c : Char} (h : isClear c = true) : isDropped c = false := by
  have above := isPadding_of_isClear h
  simp only [isPadding, decide_eq_false_iff_not] at above
  simp only [isDropped, Percent.isOneOf, List.contains_eq_mem, decide_eq_false_iff_not,
    List.mem_cons, List.not_mem_nil, or_false]
  omega

/-! ## Taking a text apart

A text is first trimmed and cut at the marks of a fragment, a query and a scheme. If its characters
are clear, none of this changes anything or finds a mark that is not meant. -/

section Parts

variable {cs : List Char}

theorem dropWhile_isPadding (h : ∀ c ∈ cs, isClear c = true) : cs.dropWhile isPadding = cs := by
  refine List.dropWhile_eq_self_iff.mpr fun hl => ?_
  rw [isPadding_of_isClear (h _ (List.getElem_mem hl))]
  decide

theorem trimmed_eq_self (h : ∀ c ∈ cs, isClear c = true) : trimmed cs = cs := by
  rw [trimmed, dropWhile_isPadding h,
    dropWhile_isPadding fun c hc => h c (List.mem_reverse.mp hc), List.reverse_reverse]

theorem clean_of_isClear (h : ∀ c ∈ cs, isClear c = true) : clean cs = cs :=
  UrlPath.clean_eq_self fun c hc => isDropped_of_isClear (h c hc)

theorem cutAt_append_cons {mark : Char} (h : mark ∉ cs) (rest : List Char) :
    cutAt mark (cs ++ mark :: rest) = (cs, some rest) := by
  have before : ∀ c ∈ cs, decide (c ≠ mark) = true :=
    fun c hc => decide_eq_true fun same => h (same ▸ hc)
  rw [cutAt, span_append_cons before (by simp)]

theorem cutAt_of_not_mem {mark : Char} (h : mark ∉ cs) : cutAt mark cs = (cs, none) := by
  have before : ∀ c ∈ cs, decide (c ≠ mark) = true :=
    fun c hc => decide_eq_true fun same => h (same ▸ hc)
  rw [cutAt, span_of_forall before]

end Parts

theorem splitLogin_of_not_mem {cs : List Char} (h : '@' ∉ cs) : splitLogin cs = (none, cs) := by
  rw [splitLogin, cutAt_of_not_mem fun hc => h (List.mem_reverse.mp hc)]

/-! ## Host, port and path

`IsWhole` is what a host needs so that the text around it does not matter: no slash or padding
inside, no at sign, and a colon only within brackets. Everything else about the host is left to how
it reads. -/

/-- The authority of a host and a port, with the port left out if it is the usual one. -/
def plainAuthority (name : String) (port : Nat) : Authority :=
  { host := name, port := (some port).filter fun n => usualPort? "http" ≠ some n }

/-- The address on a host and a port of a path, given without its first slash. -/
def plain (name : String) (port : Nat) (path : List Char) : Url :=
  { scheme := "http"
    login := none
    host := some name
    port := (plainAuthority name port).port
    path := UrlPath.ofText true path
    query := none
    fragment := none }

/-- Whether a character stays where it is in an address and ends no host. -/
def isInside (c : Char) : Bool := isClear c && !isSlash true c && c ≠ '@'

/-- Whether a text stands in an address as one host: the host neither begins later nor ends before
the colon of the port. -/
structure IsWhole (host : List Char) : Prop where
  inside : ∀ c ∈ host, isInside c = true
  split : ∀ rest, splitHost false (host ++ ':' :: rest) = (host, ':' :: rest)

theorem splitHost_of_not_mem {host : List Char} (colon : ':' ∉ host) (bracket : '[' ∉ host)
    (rest : List Char) : splitHost false (host ++ ':' :: rest) = (host, ':' :: rest) := by
  induction host with
  | nil => rfl
  | cons c host ih =>
      rw [List.mem_cons, not_or] at colon bracket
      rw [List.cons_append, splitHost]
      simp [Ne.symm colon.1, Ne.symm bracket.1, ih colon.2 bracket.2]

theorem isInside_of_isPlainChar {c : Char} (h : Host.isPlainChar c = true) : isInside c = true :=
  Host.forall_isPlainChar (p := isInside) (by decide) h

/-- A plain text is one host. -/
theorem isWhole_of_plain {host : List Char} (plain : ∀ c ∈ host, Host.isPlainChar c = true) :
    IsWhole host where
  inside := fun c hc => isInside_of_isPlainChar (plain c hc)
  split := splitHost_of_not_mem (fun hc => absurd (plain _ hc) (by decide))
    (fun hc => absurd (plain _ hc) (by decide))

theorem port?_digits {port : Nat} (h : port ≤ Decimal.limit16) :
    port? (':' :: Decimal.digits port) = some (some port, []) := by
  have digits : ∀ c ∈ Decimal.digits port, c.isDigit = true := fun c hc => Decimal.digits_isDigit hc
  have given : (Decimal.digits port).isEmpty = false := by
    rw [List.isEmpty_eq_false_iff]
    exact Decimal.digits_ne_nil port
  simp only [port?, span_of_forall digits, given, Decimal.readDigits?_digits h]
  rfl

section Whole

variable {host : List Char}

theorem IsWhole.inside_port (whole : IsWhole host) (port : Nat) :
    ∀ c ∈ host ++ ':' :: Decimal.digits port, isInside c = true := by
  intro c hc
  rw [List.mem_append, List.mem_cons] at hc
  rcases hc with name | rfl | digit
  · exact whole.inside c name
  · decide
  · exact isInside_of_isPlainChar (Host.isPlainChar_of_isDigit (Decimal.digits_isDigit digit))

/-- What the host reads as is the host of the authority. -/
theorem authority?_whole (whole : IsWhole host) {port : Nat} (hp : port ≤ Decimal.limit16) :
    authority? "http" (host ++ ':' :: Decimal.digits port)
      = (Host.special? host).map fun name => (plainAuthority name port, []) := by
  have noLogin : '@' ∉ host ++ ':' :: Decimal.digits port :=
    fun hc => absurd (whole.inside_port port _ hc) (by decide)
  have special : isSpecial "http" = true := by decide
  rw [authority?, splitLogin_of_not_mem noLogin]
  simp only [whole.split, special]
  by_cases given : host = []
  · subst given
    rw [Host.special?_nil]
    rfl
  · cases Host.special? host <;> simp [given, port?_digits hp, plainAuthority]

/-- The host, the port and the path of an address. -/
theorem special?_whole (whole : IsWhole host) {port : Nat} (hp : port ≤ Decimal.limit16)
    (rest : List Char) :
    special? "http" ('/' :: '/' :: (host ++ ':' :: Decimal.digits port ++ '/' :: rest))
      = (Host.special? host).map fun name =>
          (plainAuthority name port, UrlPath.ofText true rest) := by
  have inside : ∀ c ∈ host ++ ':' :: Decimal.digits port, (!isSlash true c) = true := by
    intro c hc
    have h := whole.inside_port port c hc
    simp only [isInside, Bool.and_eq_true] at h
    exact h.1.2
  have slashes : ('/' :: '/' :: (host ++ ':' :: Decimal.digits port ++ '/' :: rest)).dropWhile
      (isSlash true) = host ++ ':' :: Decimal.digits port ++ '/' :: rest := by
    rw [List.dropWhile_cons_of_pos (by decide), List.dropWhile_cons_of_pos (by decide)]
    refine List.dropWhile_eq_self_iff.mpr fun hl => ?_
    have first := inside _ (List.getElem_mem (l := host ++ ':' :: Decimal.digits port) (n := 0)
      (by simp))
    rw [List.getElem_append_left (by simp)]
    simpa using first
  rw [special?, slashes, span_append_cons inside (by decide)]
  simp only [authority?_whole whole hp]
  cases Host.special? host <;> simp

theorem isClear_whole (whole : IsWhole host) (port : Nat) {rest : List Char}
    (clear : ∀ c ∈ rest, isClear c = true) :
    ∀ c ∈ '/' :: '/' :: (host ++ ':' :: Decimal.digits port ++ '/' :: rest), isClear c = true := by
  have ahead (c : Char) (hc : c ∈ host ++ ':' :: Decimal.digits port) : isClear c = true := by
    have h := whole.inside_port port c hc
    simp only [isInside, Bool.and_eq_true] at h
    exact h.1.1
  intro c hc
  rw [List.mem_cons, List.mem_cons, List.mem_append, List.mem_cons] at hc
  rcases hc with rfl | rfl | before | rfl | after
  · decide
  · decide
  · exact ahead c before
  · decide
  · exact clear c after

theorem hierarchy?_whole (whole : IsWhole host) {port : Nat} (hp : port ≤ Decimal.limit16)
    {rest : List Char} (clear : ∀ c ∈ rest, isClear c = true) :
    hierarchy? "http" ('/' :: '/' :: (host ++ ':' :: Decimal.digits port ++ '/' :: rest))
      = (Host.special? host).map fun name =>
          (some (plainAuthority name port), UrlPath.ofText true rest) := by
  rw [hierarchy?, if_neg (by decide), if_pos (by decide),
    clean_of_isClear (isClear_whole whole port clear), special?_whole whole hp, Option.map_map]
  rfl

/-- **The address of one host.** It reads as it is written, in the normal form of its host, with the
path that comes after the port; if the host is none, there is no address. -/
theorem parse?_whole (whole : IsWhole host) {port : Nat} (hp : port ≤ Decimal.limit16)
    {rest : List Char} (clear : ∀ c ∈ rest, isClear c = true) {text : String}
    (written : text.toList = "http".toList
      ++ ':' :: '/' :: '/' :: (host ++ ':' :: Decimal.digits port ++ '/' :: rest)) :
    parse? text = (Host.special? host).map fun name => Url.plain name port rest := by
  have all : ∀ c ∈ text.toList, isClear c = true := by
    intro c hc
    rw [written, List.mem_append, List.mem_cons] at hc
    rcases hc with scheme | rfl | after
    · have letters : "http".toList.all isClear = true := by decide
      exact List.all_eq_true.mp letters c scheme
    · decide
    · exact isClear_whole whole port clear c after
  have absent (mark : Char) (h : isClear mark = false) : mark ∉ text.toList :=
    fun hc => absurd (all mark hc) (h ▸ by decide)
  have scheme : scheme? "http".toList = some "http" := by decide
  rw [parse?, trimmed_eq_self all, cutAt_of_not_mem (absent '#' (by decide))]
  simp only [cutAt_of_not_mem (absent '?' (by decide))]
  rw [written, cutAt_append_cons (by decide)]
  simp only [Option.bind_eq_bind, Option.bind_some, scheme, hierarchy?_whole whole hp clear]
  cases Host.special? host <;> rfl

end Whole

end Url

end StreamLoad
