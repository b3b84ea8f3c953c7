import StreamLoad.Cycle
import StreamLoad.Net.Request
import StreamLoad.Settings.Check
import StreamLoad.Proofs.Net.Url

/-! # Publishing as one segment

A payload is published by asking for `/broadcast/` and the payload, so that it arrives as it is only
if it is one segment of the path. The check of a message refuses what would end the segment or
change it, with one exception: in addresses of the web a backslash separates segments as a slash
does, and the check lets it pass. `publish_one_segment_iff` says that the backslash is all that it
misses.

A message may hold `.` and `..`, but the payload of a cycle ends in a hyphen and a number, so that
the part of it that comes last is no dot segment, whatever stands before it.
-/

set_option autoImplicit false

namespace StreamLoad

/-! ## Messages that are accepted

The check goes through the characters of a message one by one. What it gives in return is collected
here: a fit character ends no part of an address, is not dropped, and is no percent sign. -/

namespace Settings

theorem refuseIf_eq_ok {condition : Bool} {fault : SettingsFault}
    (h : refuseIf condition fault = .ok ()) : condition = false := by
  cases condition with
  | false => rfl
  | true => cases h

theorem of_bind_eq_ok {check : Except SettingsFault Unit} {rest : Unit → Except SettingsFault Unit}
    (h : check >>= rest = .ok ()) : check = .ok () ∧ rest () = .ok () := by
  cases check with
  | error fault => cases h
  | ok => exact ⟨rfl, h⟩

/-- Whether all characters of a text are fit for a message. -/
def IsFit (cs : List Char) : Prop := ∀ c ∈ cs, isFitForMessage c = true

theorem isFit_of_checkBenchmark {s : Settings} (h : s.checkBenchmark = .ok ()) :
    IsFit s.benchmark.message.toList := by
  obtain ⟨-, h⟩ := of_bind_eq_ok h
  obtain ⟨-, h⟩ := of_bind_eq_ok h
  obtain ⟨-, h⟩ := of_bind_eq_ok h
  obtain ⟨-, h⟩ := of_bind_eq_ok h
  have all := refuseIf_eq_ok h
  rw [Bool.not_eq_false'] at all
  exact List.all_eq_true.mp all

theorem isFitForMessage_of_isDigit {c : Char} (h : c.isDigit = true) : isFitForMessage c = true :=
  Host.forall_isPlainChar (p := isFitForMessage) (by decide) (Host.isPlainChar_of_isDigit h)

/-- A fit character has no meaning in an address. -/
theorem isClear_of_isFitForMessage {c : Char} (h : isFitForMessage c = true) :
    Url.isClear c = true ∧ c ≠ '/' ∧ c ≠ '%' := by
  simp only [isFitForMessage, Bool.not_eq_true', Bool.or_eq_false_iff, decide_eq_false_iff_not] at h
  obtain ⟨⟨⟨⟨⟨slash, question⟩, number⟩, percent⟩, blank⟩, control⟩ := h
  have above : ¬ c.toNat ≤ 0x20 := by
    simp [Text.isBlank, Text.isControl, Text.inRanges, Text.blankRanges, Text.controlRanges]
      at blank control
    omega
  refine ⟨?_, slash, percent⟩
  simp [Url.isClear, Url.isPadding, above, question, number]

namespace IsFit

open UrlPath (isDropped isSlash IsOrdinary)

variable {cs : List Char}

theorem isClear (h : IsFit cs) : ∀ c ∈ cs, Url.isClear c = true :=
  fun c hc => (isClear_of_isFitForMessage (h c hc)).1

theorem slash_not_mem (h : IsFit cs) : '/' ∉ cs :=
  fun hc => (isClear_of_isFitForMessage (h _ hc)).2.1 rfl

theorem percent_not_mem (h : IsFit cs) : '%' ∉ cs :=
  fun hc => (isClear_of_isFitForMessage (h _ hc)).2.2 rfl

theorem isDropped (h : IsFit cs) : ∀ c ∈ cs, isDropped c = false :=
  fun c hc => Url.isDropped_of_isClear (h.isClear c hc)

/-- Without backslashes, nothing separates segments. -/
theorem isSlash (h : IsFit cs) (free : '\x5c' ∉ cs) : ∀ c ∈ cs, isSlash true c = false := by
  intro c hc
  have slash : c ≠ '/' := fun same => h.slash_not_mem (same ▸ hc)
  have backslash : c ≠ '\x5c' := fun same => free (same ▸ hc)
  simp [UrlPath.isSlash, slash, backslash]

theorem isOrdinary (h : IsFit cs) (hyphen : '-' ∈ cs) : IsOrdinary cs :=
  UrlPath.isOrdinary_of_mem hyphen h.isDropped

end IsFit

end Settings

open Settings (IsFit)

/-- The payload of a cycle is as fit to be sent as the message. -/
theorem Cycle.isFit_payload {message : String} (h : IsFit message.toList) (cycle : Nat) :
    IsFit (payload message cycle).toList := by
  intro c hc
  simp only [payload, Decimal.text, String.toList_append, String.toList_ofList, List.mem_append,
    List.append_assoc] at hc
  rcases hc with message | hyphen | digit
  · exact h c message
  · obtain rfl := List.mem_singleton.mp hyphen
    decide
  · exact Settings.isFitForMessage_of_isDigit (Decimal.digits_isDigit digit)

/-! ## Paths below `/broadcast`

Two things may keep a payload from being one segment: a separator inside it, and a dot segment. The
latter is excluded by the hyphen, so a backslash is all that is left. With one, the path ends in
what follows the last backslash, and that is not the payload. -/

/-- Whether a path is that of a payload, as one segment below `/broadcast`, without a query. -/
def OneSegment (path payload : String) : Prop :=
  ∃ segment : String, path = "/broadcast/" ++ segment ∧ '/' ∉ segment.toList
    ∧ '?' ∉ segment.toList ∧ Percent.decode (Text.utf8 segment) = Text.utf8 payload

theorem isFit_broadcast : IsFit "broadcast".toList := List.all_eq_true.mp (by decide)

/-- Nothing in the path of a fit payload ends it. -/
theorem broadcast_clear {payload : String} (fit : IsFit payload.toList) :
    ∀ c ∈ "broadcast".toList ++ '/' :: payload.toList, Url.isClear c = true := by
  intro c hc
  rw [List.mem_append, List.mem_cons] at hc
  rcases hc with name | rfl | inside
  · exact isFit_broadcast.isClear c name
  · decide
  · exact fit.isClear c inside

/-- A fit text without backslashes is one segment. -/
theorem text_broadcast {cs : List Char} (fit : IsFit cs) (hyphen : '-' ∈ cs) (free : '\x5c' ∉ cs) :
    (UrlPath.ofText true ("broadcast".toList ++ '/' :: cs)).text.toList
      = "/broadcast/".toList ++ Percent.encode Percent.inPathSet cs := by
  have split : ("broadcast".toList ++ '/' :: cs).splitOnP (UrlPath.isSlash true)
      = ["broadcast".toList, cs] := by
    rw [List.splitOnP_append_cons_of_forall_mem (isFit_broadcast.isSlash (by decide)) _ (by decide),
      List.splitOnP_eq_singleton (fit.isSlash free)]
  have ordinary : ∀ part ∈ ["broadcast".toList, cs], UrlPath.IsOrdinary part := by
    intro part hp
    rcases List.mem_pair.mp hp with rfl | rfl
    · exact ⟨isFit_broadcast.isDropped, by decide, by decide⟩
    · exact fit.isOrdinary hyphen
  have name : Percent.encode Percent.inPathSet "broadcast".toList = "broadcast".toList := by decide
  rw [UrlPath.text_ofText (split ▸ ordinary), split, List.flatMap_cons, List.flatMap_singleton,
    name]
  rfl

theorem slash_not_mem_encode {cs : List Char} (fit : IsFit cs) :
    '/' ∉ Percent.encode Percent.inPathSet cs :=
  Percent.not_mem_encode (Or.inl fit.slash_not_mem) (by decide) (by decide)

/-- A fit text without backslashes is asked for as one segment. -/
theorem oneSegment_of_free {payload : String} (fit : IsFit payload.toList)
    (hyphen : '-' ∈ payload.toList) (free : '\x5c' ∉ payload.toList) :
    OneSegment (UrlPath.ofText true ("broadcast".toList ++ '/' :: payload.toList)).text payload := by
  refine ⟨String.ofList (Percent.encode Percent.inPathSet payload.toList), ?_, ?_, ?_, ?_⟩
  · rw [← String.toList_inj, text_broadcast fit hyphen free]
    simp
  · rw [String.toList_ofList]
    exact slash_not_mem_encode fit
  · rw [String.toList_ofList]
    exact Percent.not_mem_encode (Or.inr (by decide)) (by decide) (by decide)
  · rw [Percent.decode_encode _ fit.percent_not_mem, String.ofList_toList]

/-- A fit text with a backslash is not asked for as one segment: the path ends in the part after the
last backslash, and goes no further back than to a slash. -/
theorem not_oneSegment {front last : List Char} {payload : String}
    (split : payload.toList = front ++ '\x5c' :: last) (fit : IsFit payload.toList)
    (hyphen : '-' ∈ last) (free : '\x5c' ∉ last) :
    ¬ OneSegment (UrlPath.ofText true ("broadcast".toList ++ '/' :: payload.toList)).text
      payload := by
  rintro ⟨segment, path, noSlash, -, decoded⟩
  have fitLast : IsFit last := fun c hc => fit c (by simp [split, hc])
  have separates : UrlPath.isSlash true '\x5c' = true := by decide
  obtain ⟨before, written⟩ := UrlPath.exists_text_ofText separates (fitLast.isSlash free)
    (fitLast.isOrdinary hyphen) ("broadcast".toList ++ '/' :: front)
  have whole : "broadcast".toList ++ '/' :: payload.toList
      = ("broadcast".toList ++ '/' :: front) ++ '\x5c' :: last := by
    rw [split, List.append_assoc, List.cons_append]
  have tails : "/broadcast".toList ++ '/' :: segment.toList
      = before ++ '/' :: Percent.encode Percent.inPathSet last := by
    rw [← written, ← whole, path, String.toList_append]
    rfl
  have same : segment.toList = Percent.encode Percent.inPathSet last :=
    eq_of_append_cons_eq tails noSlash (slash_not_mem_encode fitLast)
  -- What it decodes to is shorter than the payload.
  rw [← String.ofList_toList (s := segment), same,
    Percent.decode_encode _ fitLast.percent_not_mem] at decoded
  have short := congrArg (fun text => text.toList.length) (Text.utf8_injective decoded)
  simp only [String.toList_ofList, split, List.length_append, List.length_cons] at short
  omega

/-! ## Requests to publish -/

/-- A request for an address without a login is made if the address can be asked for. -/
theorem Request.prepare_of_parse? {text : String} {url : Url} (parsed : Url.parse? text = some url)
    (login : url.login = none) (method : Method) (accept : String) :
    prepare method accept text =
      if isSendable url then .ok { method := method, url := url, accept := accept }
      else .error (.unusable (some url.text)) := by
  have same : url.withoutLogin = url := by simp [Url.withoutLogin, login]
  rw [prepare, parsed, Option.map_some, same]

/-- The address of a host can be asked for unless it is too long, or a character of the host cannot
stand on a request line. -/
theorem Request.isSendable_plain (name : String) (port : Nat) (path : List Char) :
    isSendable (Url.plain name port path) = true
      ↔ (∀ c ∈ name.toList, isHostChar c = true)
        ∧ (Url.plain name port path).text.utf8ByteSize ≤ addressLimit := by
  have scheme : (Url.plain name port path).scheme = "http" := rfl
  have host : (Url.plain name port path).host = some name := rfl
  simp [isSendable, scheme, host, and_comm]

/-- The address that a payload is published at, on a host and a port. -/
def broadcastUrl (name : String) (port : Nat) (payload : String) : Url :=
  Url.plain name port ("broadcast".toList ++ '/' :: payload.toList)

section Client

variable {host name payload : String} {port : Nat} {client : Client}

/-- What is asked for to publish reads as that address. -/
theorem parse?_broadcast (plain : Host.IsPlain host) (read : Host.special? host.toList = some name)
    (hp : port ≤ Decimal.limit16)
    (base : client.base = "http://" ++ host ++ ":" ++ Decimal.text port)
    (fit : IsFit payload.toList) :
    Url.parse? (client.base ++ "/broadcast/" ++ payload) = some (broadcastUrl name port payload) := by
  have written : (client.base ++ "/broadcast/" ++ payload).toList
      = "http".toList ++ ':' :: '/' :: '/' :: (host.toList ++ ':' :: Decimal.digits port
        ++ '/' :: ("broadcast".toList ++ '/' :: payload.toList)) := by
    simp [base, Decimal.text]
  rw [Url.parse?_whole (Url.isWhole_of_plain plain.chars) hp (broadcast_clear fit) written, read]
  rfl

/-- A payload is published by a request for its address, unless that is too long. -/
theorem Client.publish_plain (plain : Host.IsPlain host)
    (read : Host.special? host.toList = some name) (hp : port ≤ Decimal.limit16)
    (base : client.base = "http://" ++ host ++ ":" ++ Decimal.text port)
    (fit : IsFit payload.toList) :
    client.publish payload =
      if (broadcastUrl name port payload).text.utf8ByteSize ≤ Request.addressLimit then
        .ok { method := .get, url := broadcastUrl name port payload, accept := "*/*" }
      else .error (.unusable (some (broadcastUrl name port payload).text)) := by
  have hosts : ∀ c ∈ name.toList, Request.isHostChar c = true := fun c hc =>
    Host.forall_isPlainChar (p := Request.isHostChar) (by decide)
      (Host.special?_isPlainChar plain.chars read c hc)
  have sendable := Request.isSendable_plain name port ("broadcast".toList ++ '/' :: payload.toList)
  rw [Client.publish, Request.prepare_of_parse? (parse?_broadcast plain read hp base fit) rfl]
  refine if_congr (sendable.trans ?_) rfl rfl
  exact and_iff_right hosts

end Client

/-- The path that is asked for has no query. -/
theorem requestPath_broadcastUrl (name : String) (port : Nat) (payload : String) :
    (broadcastUrl name port payload).requestPath
      = (UrlPath.ofText true ("broadcast".toList ++ '/' :: payload.toList)).text := by
  simp [broadcastUrl, Url.plain, Url.requestPath, Url.marked]

/-- The payload of a cycle is one segment exactly if the message holds no backslash. -/
theorem oneSegment_broadcastUrl_iff {message : String}
    (fitMessage : IsFit message.toList) (cycle : Nat) (name : String) (port : Nat) :
    OneSegment (broadcastUrl name port (Cycle.payload message cycle)).requestPath
        (Cycle.payload message cycle)
      ↔ '\x5c' ∉ message.toList := by
  have fit := Cycle.isFit_payload fitMessage cycle
  have chars : (Cycle.payload message cycle).toList
      = message.toList ++ '-' :: Decimal.digits cycle := by
    simp [Cycle.payload, Decimal.text]
  have number : '\x5c' ∉ '-' :: Decimal.digits cycle := by
    rw [List.mem_cons, not_or]
    exact ⟨by decide, fun hc => absurd (Decimal.digits_isDigit hc) (by decide)⟩
  rw [requestPath_broadcastUrl]
  constructor
  · intro one held
    obtain ⟨front, tail, split, last⟩ := exists_last_of_mem held
    -- The part after the last backslash goes on to the end of the payload, with the number.
    have whole : (Cycle.payload message cycle).toList
        = front ++ '\x5c' :: (tail ++ '-' :: Decimal.digits cycle) := by
      rw [chars, split, List.append_assoc, List.cons_append]
    refine not_oneSegment whole fit (by simp) ?_ one
    rw [List.mem_append, not_or]
    exact ⟨last, number⟩
  · intro free
    refine oneSegment_of_free fit (by simp [chars]) ?_
    rw [chars, List.mem_append, not_or]
    exact ⟨free, number⟩

/-- **Publishing as one segment.** For an accepted message and the server on a plain host, a payload
is published without a query, by a request for its address unless that is too long; and it is one
segment of the path exactly if the message holds no backslash. -/
theorem publish_one_segment_iff {s : Settings} (accepted : s.checkBenchmark = .ok ())
    {host : String} (plain : Host.IsPlain host) {port : Nat} (hp : port ≤ Decimal.limit16)
    {client : Client} (base : client.base = "http://" ++ host ++ ":" ++ Decimal.text port)
    (cycle : Nat) :
    ∃ url : Url,
      Url.parse? (client.base ++ "/broadcast/" ++ Cycle.payload s.benchmark.message cycle)
          = some url
      ∧ client.publish (Cycle.payload s.benchmark.message cycle) =
        (if url.text.utf8ByteSize ≤ Request.addressLimit then
          .ok { method := .get, url := url, accept := "*/*" }
        else .error (.unusable (some url.text)))
      ∧ url.query = none
      ∧ (OneSegment url.requestPath (Cycle.payload s.benchmark.message cycle)
          ↔ '\x5c' ∉ s.benchmark.message.toList) := by
  have fitMessage := Settings.isFit_of_checkBenchmark accepted
  have fit := Cycle.isFit_payload fitMessage cycle
  obtain ⟨name, read⟩ := Option.isSome_iff_exists.mp plain.isHost
  exact ⟨broadcastUrl name port (Cycle.payload s.benchmark.message cycle),
    parse?_broadcast plain read hp base fit, Client.publish_plain plain read hp base fit, rfl,
    oneSegment_broadcastUrl_iff fitMessage cycle name port⟩

/-- A message beyond ASCII for a server on the same machine. -/
theorem publish_one_segment_iff_localhost :
    ({ benchmark := { message := "grüße" } } : Settings).checkBenchmark = .ok ()
    ∧ ∃ url : Url,
        Url.parse? ("http://localhost:8080" ++ "/broadcast/" ++ Cycle.payload "grüße" 7) = some url
        ∧ (Client.mk "http://localhost:8080").publish (Cycle.payload "grüße" 7) =
          (if url.text.utf8ByteSize ≤ Request.addressLimit then
            .ok { method := .get, url := url, accept := "*/*" }
          else .error (.unusable (some url.text)))
        ∧ url.query = none
        ∧ (OneSegment url.requestPath (Cycle.payload "grüße" 7) ↔ '\x5c' ∉ "grüße".toList) := by
  have accepted : ({ benchmark := { message := "grüße" } } : Settings).checkBenchmark = .ok () := by
    decide
  have port : 8080 ≤ Decimal.limit16 := by decide
  have base : (Client.mk "http://localhost:8080").base
      = "http://" ++ "localhost" ++ ":" ++ Decimal.text 8080 := by decide
  exact ⟨accepted, publish_one_segment_iff accepted Host.isPlain_localhost port base 7⟩

/-- A message that is accepted, and published as two segments. -/
theorem backslash_divides_payload :
    ({ benchmark := { message := "a\x5cb" } } : Settings).checkBenchmark = .ok ()
    ∧ ∃ url : Url,
        (Client.mk "http://localhost:8080").publish (Cycle.payload "a\x5cb" 1)
          = .ok { method := .get, url := url, accept := "*/*" }
        ∧ url.requestPath = "/broadcast/a/b-1"
        ∧ ¬ OneSegment url.requestPath (Cycle.payload "a\x5cb" 1) := by
  have accepted : ({ benchmark := { message := "a\x5cb" } } : Settings).checkBenchmark = .ok () := by
    decide
  have base : (Client.mk "http://localhost:8080").base
      = "http://" ++ "localhost" ++ ":" ++ Decimal.text 8080 := by decide
  have fit := Settings.isFit_of_checkBenchmark accepted
  have published := Client.publish_plain Host.isPlain_localhost Host.special?_localhost (by decide)
    base (Cycle.isFit_payload fit 1)
  rw [if_pos (by decide)] at published
  refine ⟨accepted, _, published, by decide, ?_⟩
  rw [oneSegment_broadcastUrl_iff fit]
  decide

end StreamLoad
