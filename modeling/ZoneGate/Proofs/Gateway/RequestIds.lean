import ZoneGate.Proofs.Gateway.Layers
import ZoneGate.Proofs.Provider.Redirects
import ZoneGate.Provider.Wire

/-!
# The id of every answer

Whatever becomes of a request, its answer carries one id, in one header, and it is the id that the
log shows of the request: the caller's own where that is plain, and a fresh one otherwise.
-/
namespace ZoneGate

open Text

namespace Gateway

/-! ## What answers hold -/

/-- A result whose content type can be sent. -/
def Sends (result : Except Error (Nat × Http.Content)) : Prop :=
  ∀ value, (tell result).1.2.contentType = some value →
    ∀ b ∈ value, Http.Header.isValueByte b = true

lemma sends_json (status : Nat) (v : Json.Value) : Sends (.ok (status, .json v)) := by
  rintro value ⟨⟩
  exact List.all_eq_true.1 (by decide)

lemma sends_text (status : Nat) (s : String) : Sends (.ok (status, .text s)) := by
  rintro value ⟨⟩
  exact List.all_eq_true.1 (by decide)

lemma sends_nothing (status : Nat) : Sends (.ok (status, .nothing)) := by rintro value ⟨⟩

lemma sends_error (e : Error) : Sends (.error e) := by
  rintro value ⟨⟩
  exact List.all_eq_true.1 (by decide)

lemma sends_bind {α : Type} {x : Except Error α} {f : α → Except Error (Nat × Http.Content)}
    (h : ∀ a, Sends (f a)) : Sends (x >>= f) := by
  cases x with
  | error e => exact sends_error e
  | ok a => exact h a

/-- The content types of a provider's answers can be sent. -/
def Sendable (provider : Provider) : Prop :=
  ∀ o reply value, provider o = .answered reply → reply.contentType = some value →
    ∀ b ∈ value, Http.Header.isValueByte b = true

lemma isValueByte_of_answer {sent : Provider.Sent} {ended : Bool} {input : List UInt8}
    {received : Provider.Received} (h : sent.answer ended input = .complete received)
    {value : List UInt8} (htype : received.contentType = some value) :
    ∀ b ∈ value, Http.Header.isValueByte b = true := by
  unfold Provider.Sent.answer at h
  split at h
  · cases h
  obtain ⟨status, -, h⟩ := Http.Wire.Arrival.bind_eq_complete.1 h
  obtain ⟨⟨headers, rest⟩, hheaders, h⟩ := Http.Wire.Arrival.bind_eq_complete.1 h
  obtain ⟨framing, -, h⟩ := Http.Wire.Arrival.bind_eq_complete.1 h
  obtain ⟨body, -, h⟩ := Http.Wire.Arrival.bind_eq_complete.1 h
  obtain rfl := Http.Wire.Arrival.complete.inj h
  obtain ⟨header, hfind, rfl⟩ := Option.map_eq_some_iff.1 htype
  exact Http.Wire.isValueByte_of_headers hheaders header (List.mem_of_find?_eq_some hfind)

/-- So they can where the answers come off the wire. -/
theorem sendable_deliver (c : Provider.Client) {network : Provider.Network Id}
    (hnetwork : ∀ n sent received, network n sent = some received →
      ∃ ended input, sent.answer ended input = .complete received) :
    Sendable fun o => (c.deliver network o).2 := by
  intro o reply value hreply htype
  simp only [Provider.Client.deliver] at hreply
  rcases hfirst : c.first? o with _ | first
  · rw [hfirst] at hreply
    cases hreply
  rw [hfirst] at hreply
  have htrail := Provider.Client.exchange_trail network (Nat.le_refl _) first
  rw [hreply] at htrail
  -- the answer to the last request is the one that is relayed
  generalize (Provider.Client.exchange network Provider.Client.maxVisits first).1 = sent at htrail
  rcases List.eq_nil_or_concat sent with rfl | ⟨before, last, rfl⟩
  · rcases htrail.nothing rfl with ⟨-, hfailed⟩ | ⟨-, hfailed⟩ <;> cases hfailed
  obtain ⟨received, hreceived, hcloses⟩ := htrail.last before.length last (by simp) (by simp)
  obtain ⟨ended, input, hanswer⟩ := hnetwork _ _ _ hreceived
  cases hcloses
  exact isValueByte_of_answer hanswer htype

variable {g : Gateway} {m : Moment} {provider : Provider} {r : Http.Request}

lemma sends_withBody {next : Handled} (h : Sends next.result) :
    Sends (g.withBody r next).result := by
  unfold withBody
  split
  · exact sends_text _ _
  · exact h

lemma sends_withSegment {segment : String} {next : String → Handled}
    (h : ∀ id, Sends (next id).result) : Sends (g.withSegment segment next).result := by
  unfold withSegment
  split
  · exact sends_text _ _
  · exact h _

lemma sends_createToken : Sends (g.createToken m r).result := by
  unfold createToken
  split
  · exact sends_error _
  split
  · exact sends_error _
  split
  · exact sends_error _
  · exact sends_json _ _

lemma sends_deleteToken (id : String) : Sends (g.deleteToken m r id).result := by
  unfold deleteToken
  split
  · exact sends_error _
  split
  · exact sends_error _
  split
  · exact sends_error _
  · exact sends_nothing _

lemma sends_setLogLevel : Sends (g.setLogLevel r).result := by
  unfold setLogLevel
  split
  · exact sends_error _
  split
  · exact sends_error _
  split
  · exact sends_error _
  split
  · exact sends_error _
  · exact sends_json _ _

lemma sends_relay (hprovider : Sendable provider) (o : Outbound) : Sends (relay (provider o)) := by
  rcases hdelivery : provider o with reply | cause | _
  · exact fun value => hprovider o reply value hdelivery
  · exact sends_error _
  · exact sends_nothing _

lemma sends_forward (hprovider : Sendable provider) : Sends (g.forward provider r).result := by
  unfold forward
  split
  · exact sends_error _
  split
  · exact sends_error _
  split
  · exact sends_error _
  · exact sends_relay hprovider _

theorem sends_perform (hprovider : Sendable provider) (task : Task) :
    Sends (g.perform m provider r task).result := by
  cases task with
  | health => exact sends_json _ _
  | ready =>
    simp only [perform, ready]
    split <;> exact sends_json _ _
  | createToken => exact sends_withBody sends_createToken
  | listTokens => exact sends_bind fun _ => sends_json _ _
  | showToken segment =>
    exact sends_withSegment fun _ => sends_bind fun _ => sends_bind fun _ =>
      sends_bind fun _ => sends_json _ _
  | deleteToken segment => exact sends_withSegment sends_deleteToken
  | whoami => exact sends_bind fun _ => sends_json _ _
  | setLogLevel => exact sends_withBody sends_setLogLevel
  | forward => exact sends_withBody (sends_forward hprovider)
  | refuse methods => exact sends_nothing _

/-! ## Their headers -/

lemma mem_of_refuse {methods : String} (h : r.task = .refuse methods) :
    methods ∈ ["GET,HEAD", "GET,HEAD,POST", "GET,HEAD,DELETE", "POST"] := by
  rw [Http.Request.task] at h
  cases hroute : Route.ofPath r.target.path <;> grind [Route.task]

lemma contentType_handle : (g.handle m provider r).response.contentType =
    (tell (g.perform m provider r r.task).result).1.2.contentType := rfl

lemma allow_handle : (g.handle m provider r).response.allow =
    match r.task with
    | .refuse methods => some methods
    | _ => none := rfl

lemma refuse_of_allow {methods : String}
    (h : (g.handle m provider r).response.allow = some methods) : r.task = .refuse methods := by
  rw [allow_handle] at h
  split at h
  · rename_i refused htask
    rwa [← Option.some.inj h]
  · cases h

/-- Every header of an answer can be sent as it is. -/
theorem sendable_headers (hprovider : Sendable provider)
    (hid : Http.RequestId.Plain (bytes (g.handle m provider r).response.requestId)) :
    ∀ h ∈ (g.handle m provider r).response.headers, h.Sendable := by
  have hnames : ∀ name ∈ ["content-type", "allow", Http.RequestId.headerName],
      Http.Header.isName name = true := by decide
  have hmethods : ∀ methods ∈ ["GET,HEAD", "GET,HEAD,POST", "GET,HEAD,DELETE", "POST"],
      (bytes methods).all Http.Header.isValueByte = true := by decide
  intro h hmem
  simp only [Http.Response.headers, List.mem_append, List.mem_map, Option.mem_toList,
    List.mem_singleton] at hmem
  rcases hmem with (⟨value, htype, rfl⟩ | ⟨methods, hallow, rfl⟩) | rfl
  · exact ⟨hnames _ (by simp), sends_perform hprovider r.task value (contentType_handle ▸ htype)⟩
  · exact ⟨hnames _ (by simp),
      List.all_eq_true.1 (hmethods _ (mem_of_refuse (refuse_of_allow hallow)))⟩
  · exact ⟨hnames _ (by simp),
      fun b hb => Http.Header.isValueByte_of_isTextByte (hid.isTextByte b hb)⟩

end Gateway

namespace Http

/-- The headers of an answer that tell its id. -/
lemma filter_headers (r : Response) :
    r.headers.filter (·.name = RequestId.headerName) =
      [⟨RequestId.headerName, bytes r.requestId⟩] := by
  have htype : "content-type" ≠ RequestId.headerName := by decide
  have hallow : "allow" ≠ RequestId.headerName := by decide
  simp only [Response.headers, List.filter_append]
  cases r.contentType <;> cases r.allow <;> simp [htype, hallow]

/-- The same headers as they are read off the wire. -/
lemma filter_received (asked : Method) {r : Response} (hid : RequestId.Plain (bytes r.requestId)) :
    ((r.headers ++ Wire.framingHeaders asked r).map Wire.received).filter
      (·.name = RequestId.headerName) = [⟨RequestId.headerName, bytes r.requestId⟩] := by
  have hname : (fun h : Header => decide (h.name = RequestId.headerName)) ∘ Wire.received =
      fun h => decide (h.name = RequestId.headerName) := rfl
  have hframing : (Wire.framingHeaders asked r).filter (·.name = RequestId.headerName) = [] := by
    have hlength : "content-length" ≠ RequestId.headerName := by decide
    have hconnection : "connection" ≠ RequestId.headerName := by decide
    unfold Wire.framingHeaders
    split <;> simp [hlength, hconnection]
  rw [List.filter_map, hname, List.filter_append, filter_headers, hframing]
  simp only [List.append_nil, List.map_cons, List.map_nil, Wire.received, hid.trimmed_eq]

end Http

/-! ## The id of an answer -/

namespace Gateway

/-- What the id of an answer is, and where it stands. -/
structure Tagged (g : Gateway) (m : Moment) (provider : Provider) (r : Http.Request) : Prop where
  plain : Http.RequestId.Plain (bytes (g.handle m provider r).response.requestId)
  /-- The answer tells its id once. -/
  single : (g.handle m provider r).response.headers.filter
      (·.name = Http.RequestId.headerName) =
    [⟨Http.RequestId.headerName, bytes (g.handle m provider r).response.requestId⟩]
  /-- That is the first id of the request just if this one is plain. -/
  kept : ∀ id, Http.firstHeader? r.headers Http.RequestId.headerName = some id →
    (bytes (g.handle m provider r).response.requestId = id ↔ Http.RequestId.Plain id)
  /-- Otherwise it is the fresh one. -/
  replaced : (∀ id, Http.firstHeader? r.headers Http.RequestId.headerName = some id →
      ¬ Http.RequestId.Plain id) →
    (g.handle m provider r).response.requestId = m.requestId
  fresh : Http.RequestId.IsUuid m.requestId
  /-- The log shows the request by the same id. -/
  span : ∀ span, (g.handle m provider r).span = some span →
    span.fields.filter (·.name = "request_id") =
      [⟨"request_id", (g.handle m provider r).response.requestId, true⟩]
  /-- The handlers get and give no id but through the layers around them. -/
  layers : ((g.served m provider).echoed.numbered m.requestId).screened r =
    ((g.handle m provider r).response.headers, (g.handle m provider r).consequence)
  /-- Whoever reads the answer off the wire finds the one id. -/
  written : Sendable provider → ∃ first rest headers body,
    Http.Wire.line? (Http.Wire.answer r.method (g.handle m provider r).response) =
      some (first, rest) ∧
    Http.Wire.headers rest = .complete (headers, body) ∧
    headers.filter (·.name = Http.RequestId.headerName) =
      [⟨Http.RequestId.headerName, bytes (g.handle m provider r).response.requestId⟩]

/-- Every answer has a plain id: the caller's if that is plain, and a new UUID otherwise. -/
theorem tagged (g : Gateway) (m : Moment) (provider : Provider) (r : Http.Request)
    {random : List UInt8} (hsize : random.length = Http.RequestId.size)
    (hfresh : m.requestId = Http.RequestId.ofRandom random) : g.Tagged m provider r := by
  have huuid : Http.RequestId.IsUuid m.requestId :=
    hfresh ▸ Http.RequestId.isUuid_ofRandom hsize
  have hplain : Http.RequestId.Plain (bytes (g.handle m provider r).response.requestId) :=
    Http.RequestId.plain_choose huuid.plain
  refine ⟨hplain, Http.filter_headers _, fun id hfirst => ⟨?_, ?_⟩, ?_, huuid, ?_,
    layered g provider r huuid.plain, fun hprovider => ?_⟩
  · rintro rfl
    exact hplain
  · exact Http.RequestId.choose_of_plain hfirst
  · exact Http.RequestId.choose_of_not_plain
  · intro span hspan
    rw [span_handle, entered] at hspan
    split at hspan
    · obtain rfl := Option.some.inj hspan
      rfl
    · cases hspan
  · obtain ⟨first, rest, body, hline, hheaders⟩ :=
      Http.Wire.headers_answer r.method (sendable_headers hprovider hplain)
    exact ⟨first, rest, _, body, hline, hheaders, Http.filter_received r.method hplain⟩

/-- A forwarded request whose id has a byte that is not plain, and a plain one after it. -/
theorem tagged_sample :
    (adminSample "key" "secret").Tagged
      ⟨default, "none", Http.RequestId.ofRandom (List.replicate 16 0xA7), none⟩
      (fun _ => .answered ⟨404, some (bytes "text/html"), bytes "no such zone"⟩)
      ⟨.get, ⟨"/dnszone/12", "/dnszone/12"⟩, [⟨"accesskey", bytes "secret"⟩,
        ⟨"x-request-id", [0x69, 0x64, 0xFF]⟩, ⟨"x-request-id", bytes "plain.id"⟩], []⟩ :=
  tagged _ _ _ _ (by decide) rfl

end Gateway

end ZoneGate
