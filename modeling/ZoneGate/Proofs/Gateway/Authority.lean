import ZoneGate.Proofs.Gateway.Effects
import ZoneGate.Proofs.Gateway.Recognition
import ZoneGate.Proofs.Session.Outcomes

/-!
# Authority

Whether a caller administers is asked in three places: where it is told who it is, before tokens or
the log level are managed, and before a request is handed on. In every state that calls have led to
the three agree, because a caller that is recognised there is stored as it was recognised. Only what
is too large to be read at all is turned away before anybody asks.
-/
namespace ZoneGate

/-! ## Three ways to ask -/

namespace Identity

/-- Why a caller is refused that does not administer. -/
def denial : Identity → Denial
  | master => .masterKeyLocked
  | token _ => .forbidden

/-- Whether a caller is stored just as it was recognised. -/
def Current (caller : Identity) (r : Registry) : Prop := caller.refresh r = .ok caller

variable {caller : Identity} {r : Registry}

lemma Current.stored {t : Token} (h : Current (.token t) r) : r.tokens.get? t.id = some t := by
  rcases hget : r.tokens.get? t.id with _ | stored
  · simp [Current, refresh, hget] at h
  · simpa [Current, refresh, hget] using h

theorem Current.accepts (h : caller.Current r) (hadmin : caller.isAdmin (Bootstrap.of r) = true) :
    r.Accepts caller caller := by
  cases caller with
  | master => exact .master (by simpa [isAdmin, Admin.decide_unconfigured] using hadmin)
  | token t => exact .admin h.stored hadmin

theorem Current.refuses (h : caller.Current r) (hadmin : caller.isAdmin (Bootstrap.of r) = false) :
    r.Refuses caller (.denied caller.denial) := by
  cases caller with
  | master => exact .locked (by simpa [isAdmin, Admin.decide_unconfigured] using hadmin)
  | token t => exact .forbidden h.stored hadmin

end Identity

lemma Registry.Refuses.not_accepts {r : Registry} {caller current : Identity} {e : Error}
    (h : r.Refuses caller e) : ¬ r.Accepts caller current := by
  intro haccepts
  have hrefused := Admin.authorize_of_refuses h
  rw [Admin.authorize_of_accepts haccepts] at hrefused
  cases hrefused

/-- What is not open to scoped tokens is open to administrators only. -/
theorem Decision.check_of_isAdminOnly {d : Descriptor} (h : d.action.isAdminOnly = true)
    (caller : Identity) (state : Bootstrap) :
    check caller state d = if caller.isAdmin state then .allow else .deny caller.denial := by
  cases caller with
  | master => cases state <;> rfl
  | token t =>
    cases hadmin : t.isAdmin <;> simp [check, Identity.isAdmin, Identity.denial, h, hadmin]

theorem Registry.Keyed.current {g : Gateway} {r : Http.Request} {caller : Identity}
    (h : g.vault.registry.Keyed) (hknown : g.authenticate r = .ok caller) :
    caller.Current g.vault.registry := by
  cases caller with
  | master => rfl
  | token t =>
    obtain ⟨id, hget⟩ := Registry.mem_list.1 (Gateway.mem_list_of_authenticate hknown)
    have hown := h id t hget
    rw [← hown] at hget
    simp only [Identity.Current, Identity.refresh, hget]

namespace Admin

/-- Who administers is refused for other reasons only. -/
lemma Creates.status_ne_of_accepts {hasher : Hasher} {v : Vault} {caller current : Identity}
    {grant : Grant} {secret : String} {now : Timestamp} {fault : Option Directory.Fault} {e : Error}
    {r : Registry} (h : Creates hasher v caller grant secret now fault (.error e) r)
    (haccepts : v.registry.Accepts caller current) : e.status ≠ 403 := by
  cases h with
  | refused refused => exact (refused.not_accepts haccepts).elim
  | noAdminYet | invalid | unwritten => simp [Error.status]

lemma Deletes.status_ne_of_accepts {v : Vault} {caller current : Identity} {id : TokenId}
    {fault : Option Directory.Fault} {e : Error} {r : Registry}
    (h : Deletes v caller id fault (.error e) r) (haccepts : v.registry.Accepts caller current) :
    e.status ≠ 403 := by
  cases h with
  | refused refused => exact (refused.not_accepts haccepts).elim
  | missing | lastAdmin | unwritten => simp [Error.status]

end Admin

/-! ## What takes an administrator -/

/-- A request that only an administrator may make. -/
inductive Http.Request.NeedsAdmin (r : Http.Request) : Prop
  | level {change : LevelChange} (method : r.method = .post)
      (path : r.target.path = "/admin/api/loglevel")
      (body : LevelChange.format.parse r.body = .ok change) : NeedsAdmin r
  | create {grant : Grant} (method : r.method = .post)
      (path : r.target.path = "/admin/api/tokens")
      (body : Grant.format.parse r.body = .ok grant) : NeedsAdmin r
  | delete {segment text : String} {n : Nat} (method : r.method = .delete)
      (path : r.target.path = "/admin/api/tokens/" ++ segment) (whole : '/' ∉ segment.toList)
      (decoded : decodeSegment? segment = some text)
      (numeric : Text.plusDecimal? (Text.bytes text) = some n) : NeedsAdmin r
  | forward {d : Descriptor} (path : Route.ofPath r.target.path = .provider)
      (clear : Endpoint.classify r.method r.target.path r.body = .ok d)
      (adminOnly : d.action.isAdminOnly = true) : NeedsAdmin r

/-- A request with too much in it, and the status that tells so: a body longer than what is read,
or a number that no token has as its id. -/
inductive Gateway.Exceeds (g : Gateway) (r : Http.Request) : Nat → Prop
  | body (read : r.task = .setLogLevel ∨ r.task = .createToken ∨ r.task = .forward)
      (long : g.maxBodyBytes.toNat < r.body.length) : Exceeds g r 413
  | number {segment text : String} {n : Nat} (task : r.task = .deleteToken segment)
      (decoded : decodeSegment? segment = some text)
      (numeric : Text.plusDecimal? (Text.bytes text) = some n) (large : UInt64.size ≤ n) :
      Exceeds g r 400

/-- Refused by the gateway itself for want of authority. -/
def Exchange.Refused (x : Exchange) : Prop := x.response.status = 403 ∧ x.outbound = none

namespace Gateway

variable {g : Gateway} {m : Moment} {provider : Provider} {r : Http.Request} {caller : Identity}

/-- How handling a request comes out that takes an administrator. -/
structure Judges (g : Gateway) (caller : Identity) (x : Handled) : Prop where
  passed : caller.isAdmin (Bootstrap.of g.vault.registry) = true →
    x.reply.status ≠ 403 ∨ x.outbound.isSome
  refused : caller.isAdmin (Bootstrap.of g.vault.registry) = false →
    x.reply = Verdict.refusal 403 caller.denial.message ∧ x.outbound = none ∧ x.gateway = g

namespace Judges

/-- What comes to another status than 403 lets an administrator pass. -/
lemma of_isAdmin {x : Handled} (hadmin : caller.isAdmin (Bootstrap.of g.vault.registry) = true)
    (h : x.reply.status ≠ 403 ∨ x.outbound.isSome) : g.Judges caller x :=
  ⟨fun _ => h, fun hnone => by simp [hadmin] at hnone⟩

lemma of_denied {x : Handled} (hadmin : caller.isAdmin (Bootstrap.of g.vault.registry) = false)
    (h : x.result = .error (.denied caller.denial)) (houtbound : x.outbound = none)
    (hgateway : x.gateway = g) : g.Judges caller x := by
  refine ⟨fun hsome => by simp [hadmin] at hsome, fun _ => ⟨?_, houtbound, hgateway⟩⟩
  simp only [Handled.reply, h]
  rfl

end Judges

lemma setLogLevel_judges (hknown : g.authenticate r = .ok caller)
    (hcurrent : caller.Current g.vault.registry) : g.Judges caller (g.setLogLevel r) := by
  cases hadmin : caller.isAdmin (Bootstrap.of g.vault.registry)
  · refine .of_denied hadmin ?_ ?_ ?_ <;>
      simp only [setLogLevel, hknown, Admin.authorize_of_refuses (hcurrent.refuses hadmin), answer]
  · refine .of_isAdmin hadmin (.inl ?_)
    simp only [setLogLevel, hknown, Admin.authorize_of_accepts (hcurrent.accepts hadmin)]
    split
    · simp [answer, Handled.reply, tell, Error.status]
    split <;> simp [answer, Handled.reply, tell, Error.status]

lemma createToken_judges {grant : Grant} (hknown : g.authenticate r = .ok caller)
    (hcurrent : caller.Current g.vault.registry) (hgrant : Grant.format.parse r.body = .ok grant) :
    g.Judges caller (g.createToken m r) := by
  cases hadmin : caller.isAdmin (Bootstrap.of g.vault.registry)
  -- authority is looked at before the grant, so that it is refused whatever the grant holds
  · have hcreate : Admin.create g.access.hasher g.vault caller grant m.secret m.now m.fault =
        (.error (.denied caller.denial), g.vault) := by
      simp only [Admin.create, Admin.approve_of_refuses (hcurrent.refuses hadmin)]
    refine .of_denied hadmin ?_ ?_ ?_ <;>
      simp only [createToken, hknown, hgrant, hcreate, answer]
  · refine .of_isAdmin hadmin (.inl ?_)
    rcases hcreate : Admin.create g.access.hasher g.vault caller grant m.secret m.now m.fault
      with ⟨e | issued, v⟩
    · have houtcome := Admin.creates_iff.2 ⟨congrArg Prod.fst hcreate, rfl⟩
      simp only [createToken, hknown, hgrant, hcreate]
      exact houtcome.status_ne_of_accepts (hcurrent.accepts hadmin)
    · simp [createToken, hknown, hgrant, hcreate, Handled.reply, tell]

lemma deleteToken_judges {text : String} {id : TokenId} (hknown : g.authenticate r = .ok caller)
    (hcurrent : caller.Current g.vault.registry) (hid : tokenId text = .ok id) :
    g.Judges caller (g.deleteToken m r text) := by
  cases hadmin : caller.isAdmin (Bootstrap.of g.vault.registry)
  · have hdelete : Admin.delete g.vault caller id m.fault =
        (.error (.denied caller.denial), g.vault) := by
      simp only [Admin.delete, Admin.authorize_of_refuses (hcurrent.refuses hadmin)]
    refine .of_denied hadmin ?_ ?_ ?_ <;>
      simp only [deleteToken, hknown, hid, hdelete, answer]
  · refine .of_isAdmin hadmin (.inl ?_)
    rcases hdelete : Admin.delete g.vault caller id m.fault with ⟨e | revoked, v⟩
    · have houtcome := Admin.deletes_iff.2 ⟨congrArg Prod.fst hdelete, rfl⟩
      simp only [deleteToken, hknown, hid, hdelete]
      exact houtcome.status_ne_of_accepts (hcurrent.accepts hadmin)
    · simp [deleteToken, hknown, hid, hdelete, Handled.reply, tell]

lemma forward_judges {d : Descriptor} (hknown : g.authenticate r = .ok caller)
    (hclear : Endpoint.classify r.method r.target.path r.body = .ok d)
    (honly : d.action.isAdminOnly = true) : g.Judges caller (g.forward provider r) := by
  have hcheck := Decision.check_of_isAdminOnly honly caller (Bootstrap.of g.vault.registry)
  cases hadmin : caller.isAdmin (Bootstrap.of g.vault.registry)
  · rw [hadmin] at hcheck
    refine .of_denied hadmin ?_ ?_ ?_ <;> simp [forward, hknown, hclear, hcheck]
  · rw [hadmin] at hcheck
    refine .of_isAdmin hadmin (.inr ?_)
    simp [forward, hknown, hclear, hcheck]

lemma tokenId_of_numeric {text : String} {n : Nat}
    (hnumeric : Text.plusDecimal? (Text.bytes text) = some n) :
    tokenId text =
      if n < UInt64.size then .ok (UInt64.ofNat n) else .error (.badTokenId text) := by
  by_cases hsmall : n < UInt64.size <;>
    simp only [tokenId, TokenId.parse?, hnumeric, Option.bind_some, hsmall, if_true, if_false]

lemma eq_deleteToken_of_numeric {segment text : String} {n : Nat} (hmethod : r.method = .delete)
    (hpath : r.target.path = "/admin/api/tokens/" ++ segment) (hwhole : '/' ∉ segment.toList)
    (hdecoded : decodeSegment? segment = some text)
    (hnumeric : Text.plusDecimal? (Text.bytes text) = some n) : r.task = .deleteToken segment := by
  refine Task.eq_deleteToken_iff.2 ⟨hmethod, hpath, ?_, hwhole⟩
  -- a number has a digit
  rintro rfl
  rw [show decodeSegment? "" = some "" by decide +kernel] at hdecoded
  cases hdecoded
  cases hnumeric

/-- Who administers, and nobody else, gets past the gateway's own objections. -/
theorem perform_judges (hknown : g.authenticate r = .ok caller)
    (hcurrent : caller.Current g.vault.registry) (hneeds : r.NeedsAdmin)
    (hfits : ∀ status, ¬ g.Exceeds r status) :
    g.Judges caller (g.perform m provider r r.task) := by
  have hbody (hread : r.task = .setLogLevel ∨ r.task = .createToken ∨ r.task = .forward) :
      r.body.length ≤ g.maxBodyBytes.toNat :=
    Nat.not_lt.1 fun hlong => hfits 413 (.body hread hlong)
  cases hneeds with
  | level method path body =>
    have htask := Task.eq_setLogLevel_iff.2 ⟨method, path⟩
    rw [htask, perform, withBody_of_fits _ (hbody (.inl htask))]
    exact setLogLevel_judges hknown hcurrent
  | create method path body =>
    have htask := Task.eq_createToken_iff.2 ⟨method, path⟩
    rw [htask, perform, withBody_of_fits _ (hbody (.inr (.inl htask)))]
    exact createToken_judges hknown hcurrent body
  | @delete segment text n method path whole decoded numeric =>
    have htask := eq_deleteToken_of_numeric method path whole decoded numeric
    have hsmall : n < UInt64.size :=
      Nat.not_le.1 fun hlarge => hfits 400 (.number htask decoded numeric hlarge)
    simp only [htask, perform, withSegment, decoded]
    exact deleteToken_judges hknown hcurrent (by rw [tokenId_of_numeric numeric, if_pos hsmall])
  | forward path clear adminOnly =>
    have htask : r.task = .forward := by rw [Http.Request.task, path, Route.task]
    rw [htask, perform, withBody_of_fits _ (hbody (.inr (.inr htask)))]
    exact forward_judges hknown clear adminOnly

/-- What is too large is turned away whoever sends it. -/
theorem perform_exceeds (m : Moment) (provider : Provider) {status : Nat}
    (hknown : g.authenticate r = .ok caller) (h : g.Exceeds r status) :
    (g.perform m provider r r.task).reply.status = status ∧
      (g.perform m provider r r.task).outbound = none ∧
      (g.perform m provider r r.task).gateway = g := by
  cases h with
  | body read long =>
    rcases read with htask | htask | htask <;> rw [htask, perform, withBody, if_pos long] <;>
      exact ⟨rfl, rfl, rfl⟩
  | number task decoded numeric large =>
    have hid := tokenId_of_numeric numeric
    rw [if_neg (Nat.not_lt.2 large)] at hid
    simp only [task, perform, withSegment, decoded, deleteToken, hknown, hid]
    exact ⟨rfl, rfl, rfl⟩

lemma reply_handle_of_needsAdmin (h : r.NeedsAdmin) :
    (g.handle m provider r).reply = (g.perform m provider r r.task).reply := by
  have hhead (hmethod : r.method ≠ .head) :
      (g.handle m provider r).reply = (g.perform m provider r r.task).reply := by
    simp [handle, Exchange.reply, Handled.reply, Http.Request.task, hmethod]
  cases h with
  | level method | create method | delete method => exact hhead (by rw [method]; decide)
  | forward path =>
    rw [(handle_provider g m provider path).1, Http.Request.task, path, Route.task, perform]

end Gateway

/-! ## What a caller is told of itself -/

/-- What a caller learns when it asks who it is. -/
def Identity.profile (caller : Identity) (state : Bootstrap) : List (String × Json.Value) :=
  [("is_master_key", .bool caller.isMaster), ("is_admin", .bool (caller.isAdmin state)),
    ("bootstrap_state", state.toJson)] ++
    match caller.token? with
    | none => []
    | some t => [("token", .object t.details)]

namespace Gateway

variable {g : Gateway} {r : Http.Request} {caller : Identity}

theorem reply_whoami (m : Moment) (provider : Provider) (hknown : g.authenticate r = .ok caller)
    (hmethod : r.method = .get) (hpath : r.target.path = "/admin/api/whoami") :
    (g.handle m provider r).reply = ⟨200, some (Text.bytes "application/json"),
      Text.bytes (Json.Value.object (caller.profile (Bootstrap.of g.vault.registry))).text⟩ := by
  have hroute : Route.ofPath r.target.path = .whoami := by rw [hpath]; rfl
  have htask : r.task = .whoami := by rw [Http.Request.task, hroute, hmethod]; rfl
  rw [reply_handle m provider (by rw [hroute]; simp), htask, hmethod, perform, whoami, hknown]
  rfl

/-! ## All of it together -/

/-- How the authority of a caller shows, whatever it asks for. -/
structure Agrees (g : Gateway) (m : Moment) (provider : Provider) (key : Option String)
    (caller : Identity) : Prop where
  /-- What takes an administrator is refused exactly to callers who are told that they are none. -/
  refused : ∀ r, credential r.headers = .ok key → r.NeedsAdmin → (∀ status, ¬ g.Exceeds r status) →
    ((g.handle m provider r).Refused ↔ caller.isAdmin (Bootstrap.of g.vault.registry) = false)
  /-- They are all refused in the same words, and nothing happens. -/
  alike : ∀ r, credential r.headers = .ok key → r.NeedsAdmin → (∀ status, ¬ g.Exceeds r status) →
    caller.isAdmin (Bootstrap.of g.vault.registry) = false →
      (g.handle m provider r).reply = Verdict.refusal 403 (match caller with
        | .master => "master_key_locked"
        | .token _ => "permission denied") ∧ (g.handle m provider r).gateway = g
  /-- What is too large is turned away, by whomever it comes. -/
  exceeded : ∀ r status, credential r.headers = .ok key → g.Exceeds r status →
    (g.handle m provider r).response.status = status ∧ (g.handle m provider r).outbound = none ∧
      (g.handle m provider r).gateway = g

/-- A caller that is recognised is told whether it administers, and in a state that calls have led
to everything that it may be refused bears that out. -/
theorem authority (g : Gateway) (m : Moment) (provider : Provider) {key : Option String}
    {caller : Identity} (hknown : g.access.resolve g.vault.registry key = .ok caller) :
    (∀ r, credential r.headers = .ok key → r.method = .get →
        r.target.path = "/admin/api/whoami" →
        (g.handle m provider r).reply = ⟨200, some (Text.bytes "application/json"),
          Text.bytes (Json.Value.object (caller.profile (Bootstrap.of g.vault.registry))).text⟩) ∧
      ∀ s : Session, s.Reached g.access → s.vault = g.vault → g.Agrees m provider key caller := by
  have hauthenticate {r : Http.Request} (hkey : credential r.headers = .ok key) :
      g.authenticate r = .ok caller := by simp only [authenticate_eq, hkey, hknown]
  refine ⟨fun r hkey => reply_whoami m provider (hauthenticate hkey), fun s hs hvault => ?_⟩
  -- callers are looked up again by their ids, which are their keys in every state reached
  have hkeyed : g.vault.registry.Keyed := fun id t hget =>
    hs.traced.1.id_of_get? (hvault ▸ hget)
  have hjudges {r : Http.Request} (hkey : credential r.headers = .ok key) (hneeds : r.NeedsAdmin)
      (hfits : ∀ status, ¬ g.Exceeds r status) :
      g.Judges caller (g.perform m provider r r.task) :=
    perform_judges (hauthenticate hkey) (hkeyed.current (hauthenticate hkey)) hneeds hfits
  refine ⟨fun r hkey hneeds hfits => ⟨?_, ?_⟩, fun r hkey hneeds hfits hadmin => ?_, ?_⟩
  · rintro ⟨hstatus, houtbound⟩
    refine Bool.eq_false_iff.2 fun hadmin => ?_
    rcases (hjudges hkey hneeds hfits).passed hadmin with hother | hsome
    · exact hother hstatus
    · exact absurd houtbound (Option.isSome_iff_ne_none.1 hsome)
  · intro hadmin
    obtain ⟨hreply, houtbound, -⟩ := (hjudges hkey hneeds hfits).refused hadmin
    exact ⟨congrArg Reply.status hreply, houtbound⟩
  · obtain ⟨hreply, -, hgateway⟩ := (hjudges hkey hneeds hfits).refused hadmin
    refine ⟨?_, hgateway⟩
    rw [reply_handle_of_needsAdmin hneeds, hreply]
    cases caller <;> rfl
  · intro r status hkey hexceeds
    exact perform_exceeds m provider (hauthenticate hkey) hexceeds

end Gateway

namespace Session

/-- The headers of a caller with the token for one zone that the sample makes. -/
def scopedSample : List Http.Header :=
  [⟨"accesskey", Text.bytes (Secret.ofRandom (List.replicate 32 2))⟩]

lemma credential_scopedSample :
    Gateway.credential scopedSample = .ok (some (Secret.ofRandom (List.replicate 32 2))) :=
  Gateway.credential_of_accessKey rfl (by decide +kernel) (by decide +kernel)

lemma resolve_scopedSample : ∃ t : Token, t.isAdmin = false ∧
    Access.sample.resolve sample.vault.registry (some (Secret.ofRandom (List.replicate 32 2))) =
      .ok (.token t) := by
  obtain ⟨before, e, i, hsplit, hmade, hsecret, hgrant⟩ := exists_issue_sample
  have hresolve := reached_sample.resolve_of_untouched distinctKeys_sample hsplit hmade
    (by simp [Issue.RevokedIn]) (by simp [Issue.ReplacedIn])
  rw [hsecret] at hresolve
  have hi : i ∈ Event.issues sample.history := by simp [hsplit, Event.issues_split hmade]
  obtain ⟨name, hvalidate⟩ := (reached_sample.traced.1.made hi).validated
  have hadmin := (Grant.validate_ok hvalidate).1
  rw [hgrant] at hadmin
  exact ⟨_, hadmin, hresolve⟩

/-- A request of that caller with blanks behind its body. -/
def askSample (path body : String) (blanks : Nat) : Http.Request :=
  ⟨.post, ⟨path, path⟩, scopedSample,
    Text.bytes body ++ List.replicate blanks (Text.byte ' ')⟩

/-- To change the log level. -/
def levelSample : Nat → Http.Request :=
  askSample "/admin/api/loglevel" "\x7b\"level\": \"debug\"\x7d"

/-- To make an administrator. -/
def createSample : Nat → Http.Request :=
  askSample "/admin/api/tokens" "\x7b\"name\": \"ops\", \"is_admin\": true\x7d"

/-- To have the provider make a zone. -/
def zoneSample : Nat → Http.Request := askSample "/dnszone" ""

/-- To delete the token of a number. -/
def deleteSample (number : String) : Http.Request :=
  ⟨.delete, ⟨"/admin/api/tokens/" ++ number, "/admin/api/tokens/" ++ number⟩, scopedSample, []⟩

lemma needsAdmin_levelSample {blanks : Nat}
    (h : (LevelChange.format.parse (levelSample blanks).body).toOption.isSome) :
    (levelSample blanks).NeedsAdmin := by
  rcases hparse : LevelChange.format.parse (levelSample blanks).body with e | change
  · simp [hparse, Except.toOption] at h
  · exact .level rfl rfl hparse

lemma needsAdmin_createSample {blanks : Nat}
    (h : (Grant.format.parse (createSample blanks).body).toOption.isSome) :
    (createSample blanks).NeedsAdmin := by
  rcases hparse : Grant.format.parse (createSample blanks).body with e | grant
  · simp [hparse, Except.toOption] at h
  · exact .create rfl rfl hparse

/-- The token for one zone is refused to change the log level. -/
theorem authority_sample :
    ((sample.gateway .sample 1024 none).handle ⟨default, "", "", none⟩ (fun _ => .silent)
      (levelSample 0)).Refused := by
  obtain ⟨t, hscoped, hresolve⟩ := resolve_scopedSample
  have h := Gateway.authority (sample.gateway .sample 1024 none) ⟨default, "", "", none⟩
    (fun _ => .silent) hresolve
  have hagrees := h.2 sample reached_sample rfl
  refine (hagrees.refused _ credential_scopedSample (needsAdmin_levelSample (by decide +kernel))
    fun status hexceeds => ?_).2 hscoped
  cases hexceeds with
  | body _ long => revert long; decide +kernel
  | number task => cases task

/-- A number beyond every id and bodies beyond the limit are not refused for want of authority,
though their caller administers nothing. -/
theorem exceeds_unrefused :
    let g := sample.gateway .sample 32 none
    let answer := g.handle ⟨default, "", "", none⟩ (fun _ => .silent)
    let number := deleteSample "18446744073709551616"
    (∃ caller : Identity, g.access.resolve g.vault.registry
        (some (Secret.ofRandom (List.replicate 32 2))) = .ok caller ∧
        caller.isAdmin (Bootstrap.of g.vault.registry) = false) ∧
      (number.NeedsAdmin ∧ (answer number).response.status = 400 ∧ ¬ (answer number).Refused) ∧
      ∀ long ∈ [levelSample 33, createSample 33, zoneSample 33],
        long.NeedsAdmin ∧ (answer long).response.status = 413 ∧ ¬ (answer long).Refused := by
  intro g answer number
  obtain ⟨t, hscoped, hresolve⟩ := resolve_scopedSample
  have hknown (r : Http.Request) (hheaders : r.headers = scopedSample) :
      g.authenticate r = .ok (.token t) := by
    rw [Gateway.authenticate_eq, hheaders]
    simp only [credential_scopedSample]
    exact hresolve
  have hstatus {r : Http.Request} {status : Nat} (hheaders : r.headers = scopedSample)
      (hexceeds : g.Exceeds r status) (hne : status ≠ 403) :
      (answer r).response.status = status ∧ ¬ (answer r).Refused := by
    have hanswer := (Gateway.perform_exceeds ⟨default, "", "", none⟩ (fun _ => .silent)
      (hknown r hheaders) hexceeds).1
    exact ⟨hanswer, fun hrefused => hne (hanswer.symm.trans hrefused.1)⟩
  have hdecoded : decodeSegment? "18446744073709551616" = some "18446744073709551616" := by
    decide +kernel
  have hnumeric : Text.plusDecimal? (Text.bytes "18446744073709551616") = some UInt64.size := by
    decide +kernel
  have htask : number.task = .deleteToken "18446744073709551616" :=
    Gateway.eq_deleteToken_of_numeric rfl rfl (by decide) hdecoded hnumeric
  have hzone : Endpoint.classify .post "/dnszone" (zoneSample 33).body =
      .ok ⟨.createZone, none, none⟩ := rfl
  refine ⟨⟨_, hresolve, hscoped⟩, ⟨.delete rfl rfl (by decide) hdecoded hnumeric,
    hstatus rfl (.number htask hdecoded hnumeric (Nat.le_refl _)) (by decide)⟩, ?_⟩
  intro long hlong
  simp only [List.mem_cons, List.not_mem_nil, or_false] at hlong
  rcases hlong with rfl | rfl | rfl
  · exact ⟨needsAdmin_levelSample (by decide +kernel),
      hstatus rfl (.body (.inl rfl) (by decide +kernel)) (by decide)⟩
  · exact ⟨needsAdmin_createSample (by decide +kernel),
      hstatus rfl (.body (.inr (.inl rfl)) (by decide +kernel)) (by decide)⟩
  · exact ⟨.forward rfl hzone rfl,
      hstatus rfl (.body (.inr (.inr rfl)) (by decide +kernel)) (by decide)⟩

end Session

end ZoneGate
