import StreamLoad.Proofs.Net.HostForm
import StreamLoad.Proofs.Net.Publish

/-! # Reaching the target

The settings name a host and a port, and the address of the server is made by writing the one
after the other. The check of the settings looks at the host only so far as to refuse none at all,
and the address is read when a request is made of it, not before. `target_reached_iff` says which
hosts are asked as they are named: those that are in the normal form of a host. Any other text
makes an address that does not read, or one of another host, port or path.
-/

set_option autoImplicit false

namespace StreamLoad

open Settings (IsFit)

/-! ## Addresses on the target

The address of the server is put together from texts and only then read. If the host is the text of
one host, nothing of it runs over into the port or the path, and the reading can be followed
symbolically. -/

theorem Client.trimSlashes_eq_self {text : String} (h : text.toList.getLast? ≠ some '/') :
    trimSlashes text = text := by
  have last : text.toList.reverse.dropWhile (· = '/') = text.toList.reverse := by
    cases chars : text.toList.reverse with
    | nil => rfl
    | cons c rest =>
        rw [List.getLast?_eq_head?_reverse, chars, List.head?_cons, ne_eq, Option.some_inj] at h
        exact List.dropWhile_cons_of_neg (by simpa using h)
  rw [trimSlashes, last, List.reverse_reverse, String.ofList_toList]

/-- What ends in a number ends in a digit. -/
theorem Decimal.exists_getLast?_append (front : List Char) (n : Nat) :
    ∃ d, d.isDigit = true ∧ (front ++ digits n).getLast? = some d := by
  refine ⟨(digits n).getLast (digits_ne_nil n), digits_isDigit (List.getLast_mem _), ?_⟩
  rw [List.getLast?_append, List.getLast?_eq_some_getLast (digits_ne_nil n), Option.some_or]

section Addresses

variable {s : Settings}

/-- The address of the server ends in its port, so that there are no slashes to leave out. -/
theorem toList_base (s : Settings) :
    (Client.ofSettings s).base.toList
      = "http".toList ++ ':' :: '/' :: '/' ::
          (s.target.host.toList ++ ':' :: Decimal.digits s.target.port) := by
  have chars : s.baseUrl.toList
      = ("http://" ++ s.target.host ++ ":").toList ++ Decimal.digits s.target.port := by
    simp [Settings.baseUrl, Decimal.text]
  have last : s.baseUrl.toList.getLast? ≠ some '/' := by
    obtain ⟨d, digit, ends⟩ := Decimal.exists_getLast?_append
      ("http://" ++ s.target.host ++ ":").toList s.target.port
    rw [chars, ends, ne_eq, Option.some_inj]
    rintro rfl
    exact absurd digit (by decide)
  rw [Client.ofSettings, Client.ofUrl, Client.trimSlashes_eq_self last, chars]
  simp

/-- How an address on the target reads, if the host is the text of one. -/
theorem parse?_target (whole : Url.IsWhole s.target.host.toList)
    (hp : s.target.port ≤ Decimal.limit16) {rest : List Char}
    (clear : ∀ c ∈ rest, Url.isClear c = true) {text : String}
    (written : text.toList = (Client.ofSettings s).base.toList ++ '/' :: rest) :
    Url.parse? text = (Host.special? s.target.host.toList).map fun name =>
      Url.plain name s.target.port rest := by
  refine Url.parse?_whole whole hp clear ?_
  rw [written, toList_base]
  simp

end Addresses

/-! ## The host of an address -/

namespace Url

/-- The host of an authority of the web is what some text reads as. -/
theorem exists_special?_of_authority? {cs rest : List Char} {authority : Authority}
    (h : authority? "http" cs = some (authority, rest)) :
    ∃ host, Host.special? host = some authority.host := by
  unfold authority? at h
  dsimp only at h
  split at h
  · cases h
  · rw [if_pos (by decide : isSpecial "http" = true)] at h
    obtain ⟨name, read, h⟩ := Option.bind_eq_some_iff.mp h
    obtain ⟨⟨port, after⟩, -, h⟩ := Option.bind_eq_some_iff.mp h
    cases h
    exact ⟨_, read⟩

/-- The host of an address of the web is what some text reads as. -/
theorem exists_special? {text : String} {url : Url} (h : parse? text = some url)
    (scheme : url.scheme = "http") :
    ∃ cs host, Host.special? cs = some host ∧ url.host = some host := by
  obtain ⟨rest, -, h⟩ := Option.bind_eq_some_iff.mp h
  obtain ⟨name, -, h⟩ := Option.bind_eq_some_iff.mp h
  obtain ⟨⟨authority, path⟩, read, h⟩ := Option.bind_eq_some_iff.mp h
  cases h
  obtain rfl : name = "http" := scheme
  rw [hierarchy?, if_neg (by decide), if_pos (by decide)] at read
  obtain ⟨⟨found, way⟩, special, same⟩ := Option.map_eq_some_iff.mp read
  cases same
  obtain ⟨⟨_, after⟩, held, same⟩ := Option.bind_eq_some_iff.mp special
  cases same
  obtain ⟨cs, read⟩ := exists_special?_of_authority? held
  exact ⟨cs, found.host, read, rfl⟩

end Url

/-! ## Asking the target

A host in normal form reads as itself, and any host that is read has a normal form, which need not
be the text that was set. So the target is asked as it is named exactly if the two are the same. -/

/-- Whether the address of the events reads as one of the web on the host and the port as they are
set, with the path that is meant. -/
def Settings.ReachesTarget (s : Settings) : Prop :=
  ∃ url : Url,
    Url.parse? ((Client.ofSettings s).base ++ "/events") = some url
    ∧ url.scheme = "http"
    ∧ url.host = some s.target.host
    ∧ url.port.or (Url.usualPort? url.scheme) = some s.target.port
    ∧ url.path.text = "/events"

/-- Whether a path of the target can be asked for: its host reads as one that can stand on a request
line, and the address is not too long. The path is given without its first slash. -/
def Settings.IsAskable (s : Settings) (path : List Char) : Prop :=
  ∃ name, Host.special? s.target.host.toList = some name
    ∧ (∀ c ∈ name.toList, Request.isHostChar c = true)
    ∧ (Url.plain name s.target.port path).text.utf8ByteSize ≤ Request.addressLimit

/-- Whether a host is written as it reads. -/
def Host.IsNormal (host : String) : Prop := Host.special? host.toList = some host

theorem Host.IsNormal.isWhole {host : String} (normal : IsNormal host) :
    Url.IsWhole host.toList := isWhole_of_special? normal

/-- The port that an address of the web leaves out is the usual one. -/
theorem Url.port_plain (name : String) (port : Nat) (path : List Char) :
    (plain name port path).port.or (usualPort? "http") = some port := by
  show ((some port).filter fun n => decide (usualPort? "http" ≠ some n)).or (some 80) = some port
  by_cases usual : port = 80
  · subst usual
    rfl
  · have kept : decide (usualPort? "http" ≠ some port) = true :=
      decide_eq_true fun same => usual (Option.some_inj.mp same).symm
    rw [Option.filter_some_pos (p := fun n => decide (usualPort? "http" ≠ some n)) kept,
      Option.some_or]

section Asking

variable {s : Settings}

theorem events_clear : ∀ c ∈ "events".toList, Url.isClear c = true :=
  List.all_eq_true.mp (by decide)

/-- The address of the events, on a host that is the text of one. -/
theorem parse?_events (whole : Url.IsWhole s.target.host.toList)
    (hp : s.target.port ≤ Decimal.limit16) :
    Url.parse? ((Client.ofSettings s).base ++ "/events")
      = (Host.special? s.target.host.toList).map fun name =>
          Url.plain name s.target.port "events".toList :=
  parse?_target whole hp events_clear (by simp)

/-- Hosts in normal form are the ones that are asked as they are named. -/
theorem reachesTarget_iff (hp : s.target.port ≤ Decimal.limit16) :
    s.ReachesTarget ↔ Host.IsNormal s.target.host := by
  constructor
  · rintro ⟨url, parsed, scheme, host, -⟩
    obtain ⟨cs, name, read, same⟩ := Url.exists_special? parsed scheme
    obtain rfl : name = s.target.host := Option.some_inj.mp (same.symm.trans host)
    -- The host of the address is the text of one, and so it can be read a second time.
    have whole := Host.isWhole_of_special? read
    rw [parse?_events whole hp] at parsed
    obtain ⟨again, reads, rfl⟩ := Option.map_eq_some_iff.mp parsed
    exact reads.trans host
  · intro normal
    have parsed := parse?_events normal.isWhole hp
    rw [normal, Option.map_some] at parsed
    have path : (UrlPath.ofText true "events".toList).text = "/events" := by decide
    exact ⟨_, parsed, rfl, rfl, Url.port_plain .., path⟩

/-- A path of the target is asked for if it can be. -/
theorem exists_prepare_iff (whole : Url.IsWhole s.target.host.toList)
    (hp : s.target.port ≤ Decimal.limit16) {path : List Char}
    (clear : ∀ c ∈ path, Url.isClear c = true) {text : String}
    (written : text.toList = (Client.ofSettings s).base.toList ++ '/' :: path)
    (method : Method) (accept : String) :
    (∃ r, Request.prepare method accept text = .ok r) ↔ s.IsAskable path := by
  have parsed := parse?_target whole hp clear written
  unfold Settings.IsAskable
  cases read : Host.special? s.target.host.toList with
  | none =>
      rw [read, Option.map_none] at parsed
      simp [Request.prepare, parsed]
  | some name =>
      rw [read, Option.map_some] at parsed
      have sendable := Request.isSendable_plain name s.target.port path
      rw [Request.prepare_of_parse? parsed rfl]
      simp only [Option.some_inj, exists_eq_left', ← sendable]
      cases Request.isSendable (Url.plain name s.target.port path) <;> simp

/-- The checks of the settings refuse no host but the empty one. -/
theorem check_host {host : String} (given : s.target.host ≠ "") (other : host ≠ "") :
    ({ s with target.host := host } : Settings).checkChurn = s.checkChurn
    ∧ ({ s with target.host := host } : Settings).checkBenchmark = s.checkBenchmark := by
  have same : ({ s with target.host := host } : Settings).checkCommon = s.checkCommon := by
    rw [Settings.checkCommon, Settings.checkCommon, String.isEmpty_eq_false_iff.mpr given,
      String.isEmpty_eq_false_iff.mpr other]
  constructor
  · rw [Settings.checkChurn, Settings.checkChurn, same]
  · rw [Settings.checkBenchmark, Settings.checkBenchmark, same]

end Asking

/-- **Which targets are reached.** A host is asked as it is named exactly if it is in normal form.
If it is the text of one host, it is asked in its normal form, and whether streams are opened, the
probe is sent and payloads are published depends on this form: none of it is ever done if the host
reads as none. The checks pass all hosts alike, except for the empty one. -/
theorem target_reached_iff (s : Settings) (hp : s.target.port ≤ Decimal.limit16) :
    (s.ReachesTarget ↔ Host.IsNormal s.target.host)
    ∧ (s.ReachesTarget → Url.IsWhole s.target.host.toList)
    ∧ (Url.IsWhole s.target.host.toList →
        Url.parse? ((Client.ofSettings s).base ++ "/events")
          = ((Host.special? s.target.host.toList).map fun name =>
            Url.plain name s.target.port "events".toList)
        ∧ (∀ method, (∃ r, (Client.ofSettings s).subscribe method = .ok r)
          ↔ s.IsAskable "events".toList)
        ∧ ((∃ r, (Client.ofSettings s).probe = .ok r) ↔ s.IsAskable [])
        ∧ ∀ payload : String, IsFit payload.toList →
            ((∃ r, (Client.ofSettings s).publish payload = .ok r)
              ↔ s.IsAskable ("broadcast".toList ++ '/' :: payload.toList)))
    ∧ (s.target.host ≠ "" → ∀ host ≠ "",
        ({ s with target.host := host } : Settings).checkChurn = s.checkChurn
        ∧ ({ s with target.host := host } : Settings).checkBenchmark = s.checkBenchmark) := by
  refine ⟨reachesTarget_iff hp, ?_, ?_, ?_⟩
  · intro reached
    exact ((reachesTarget_iff hp).mp reached).isWhole
  · intro whole
    refine ⟨parse?_events whole hp, ?_, ?_, ?_⟩
    · intro method
      exact exists_prepare_iff whole hp events_clear (by simp) method _
    · exact exists_prepare_iff whole hp (by simp) (by simp) .get _
    · intro payload fit
      exact exists_prepare_iff whole hp (broadcast_clear fit) (by simp) .get _
  · intro given host other
    exact check_host given other

/-- The server on the same machine is reached. -/
theorem target_reached_localhost :
    ({ target.host := "localhost" } : Settings).ReachesTarget
    ∧ ∃ r, (Client.ofSettings { target.host := "localhost" }).subscribe .post = .ok r := by
  obtain ⟨reached, whole, asked, -⟩ :=
    target_reached_iff { target.host := "localhost" } (by decide)
  have normal : Host.IsNormal "localhost" := Host.special?_localhost
  have there := reached.mpr normal
  refine ⟨there, ((asked (whole there)).2.1 .post).mpr ⟨"localhost", normal, ?_, by decide⟩⟩
  exact List.all_eq_true.mp (by decide)

/-- A host with a blank in it passes the checks of both modes, and no request can be made of it. -/
theorem unreadable_target_passes :
    ({ target.host := "a b" } : Settings).checkChurn = .ok ()
    ∧ ({ target.host := "a b" } : Settings).checkBenchmark = .ok ()
    ∧ ¬ ({ target.host := "a b" } : Settings).ReachesTarget
    ∧ (∀ method, (Client.ofSettings { target.host := "a b" }).subscribe method
        = .error (.unusable none))
    ∧ (Client.ofSettings { target.host := "a b" }).probe = .error (.unusable none)
    ∧ (Client.ofSettings { target.host := "a b" }).publish "msg-1" = .error (.unusable none) := by
  have unread : Url.parse? ((Client.ofSettings { target.host := "a b" }).base ++ "/events")
      = none := by
    decide +kernel
  refine ⟨by decide, by decide, ?_, ?_, by decide +kernel, by decide +kernel⟩
  · rintro ⟨url, parsed, -⟩
    rw [unread] at parsed
    cases parsed
  · intro method
    rw [Client.subscribe, Request.prepare, unread]
    rfl

/-- A host with a slash in it passes the checks as well, and another server is asked for another
path. -/
example :
    ({ target.host := "localhost:9/x" } : Settings).checkChurn = .ok ()
    ∧ ((Client.ofSettings { target.host := "localhost:9/x" }).subscribe .post).map
        (fun r => (r.url.host, r.url.port, r.url.path.text))
      = .ok (some "localhost", some 9, "/x:8080/events") := by
  decide +kernel

end StreamLoad
