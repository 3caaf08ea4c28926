import ZoneGate.Proofs.Gateway.Mediation
import ZoneGate.Proofs.Gateway.Routing
import ZoneGate.Proofs.Vault.Alike

/-!
# What nobody can tell

Two gateways whose tokens differ only in their digests cannot be told apart: to the same request,
by callers that are recognised alike, they give the same answer, they log the same and hand on the
same, and they stay alike. Only a new token shows a secret, its own, in the answer to whoever asked
for it.
-/
namespace ZoneGate

/-- Gateways that differ at most in digests. Their keys may be different ones, as only digests
depend on them. -/
structure Gateway.Alike (g g' : Gateway) : Prop where
  maxBodyBytes : g.maxBodyBytes = g'.maxBodyBytes
  vault : g.vault.Alike g'.vault
  filter : g.filter = g'.filter

/-- Recognised alike: by the master key, as the tokens that stand under the same id, or rejected in
the same way. Of an unknown key only the masked form counts. -/
inductive Gateway.SameOutcome (g g' : Gateway) :
    Except Error Identity → Except Error Identity → Prop
  | master : SameOutcome g g' (.ok .master) (.ok .master)
  | token {id : TokenId} {t t' : Token} (stored : g.vault.registry.tokens.get? id = some t)
      (stored' : g'.vault.registry.tokens.get? id = some t') :
      SameOutcome g g' (.ok (.token t)) (.ok (.token t'))
  | missing : SameOutcome g g' (.error .missingKey) (.error .missingKey)
  | unreadable : SameOutcome g g' (.error .unreadableKey) (.error .unreadableKey)
  | unknown (masked : String) :
      SameOutcome g g' (.error (.unknownKey masked)) (.error (.unknownKey masked))

/-- A header that holds a key. -/
def Http.Header.isCredential (h : Http.Header) : Bool :=
  h.name = "accesskey" || h.name = "authorization"

/-- Headers that are the same but for the keys. -/
def Http.SameButKeys (headers headers' : List Http.Header) : Prop :=
  headers.filter (!·.isCredential) = headers'.filter (!·.isCredential)

lemma Http.SameButKeys.firstHeader?_eq {headers headers' : List Http.Header}
    (h : SameButKeys headers headers') (name : String) (haccess : name ≠ "accesskey")
    (hauthorization : name ≠ "authorization") :
    firstHeader? headers name = firstHeader? headers' name := by
  have hfilter (hs : List Http.Header) :
      firstHeader? (hs.filter (!·.isCredential)) name = firstHeader? hs name := by
    have hsame (h : Header) :
        decide ((!h.isCredential) = true ∧ decide (h.name = name) = true) =
          decide (h.name = name) := by
      by_cases hname : h.name = name
      · simp [Header.isCredential, hname, haccess, hauthorization]
      · simp [hname]
    simp only [firstHeader?, List.find?_filter, hsame]
  rw [← hfilter headers, h, hfilter]

/-- Results that tell the same, except that where a token was made each tells its secret. -/
inductive Told (secret secret' : String) :
    Task → Except Error (Nat × Http.Content) → Except Error (Nat × Http.Content) → Prop
  | same {task : Task} (result : Except Error (Nat × Http.Content)) :
      Told secret secret' task result result
  | created (members : List (String × Json.Value)) :
      Told secret secret' .createToken
        (.ok (201, .json (.object (members ++ [("token", .string secret)]))))
        (.ok (201, .json (.object (members ++ [("token", .string secret')]))))

/-- A secret is told in the body of an answer only. -/
lemma Told.tell_eq {secret secret' : String} {task : Task}
    {result result' : Except Error (Nat × Http.Content)}
    (h : Told secret secret' task result result') :
    (Gateway.tell result).1.1 = (Gateway.tell result').1.1 ∧
      (Gateway.tell result).1.2.contentType = (Gateway.tell result').1.2.contentType ∧
      (Gateway.tell result).2 = (Gateway.tell result').2 := by
  cases h <;> exact ⟨rfl, rfl, rfl⟩

/-- It is told where a token was made, as the last member. -/
lemma Told.body_eq_or {secret secret' : String} {task : Task}
    {result result' : Except Error (Nat × Http.Content)}
    (h : Told secret secret' task result result') :
    (Gateway.tell result).1.2.body = (Gateway.tell result').1.2.body ∨
      task = .createToken ∧ (Gateway.tell result).1.1 = 201 ∧
        ∃ members : List (String × Json.Value),
          (Gateway.tell result).1.2.body = Text.bytes (Json.Value.object
            (members ++ [("token", .string secret)])).text ∧
          (Gateway.tell result').1.2.body = Text.bytes (Json.Value.object
            (members ++ [("token", .string secret')])).text := by
  cases h with
  | same => exact .inl rfl
  | created members => exact .inr ⟨rfl, rfl, members, rfl, rfl⟩

/-- Two ways to handle a request that cannot be told apart. -/
structure Handled.Alike (secret secret' : String) (task : Task) (x x' : Handled) : Prop where
  result : Told secret secret' task x.result x'.result
  gateway : x.gateway.Alike x'.gateway
  events : x.events = x'.events
  outbound : x.outbound = x'.outbound

namespace Gateway

variable {g g' : Gateway} {secret secret' : String}

/-- Who is recognised alike is the same caller up to digests. -/
theorem SameOutcome.agree {known known' : Except Error Identity}
    (h : g.SameOutcome g' known known') (hvault : g.vault.Alike g'.vault) :
    Agree (fun caller caller' => caller.blinded = caller'.blinded) known known' := by
  cases h with
  | master => exact .ok rfl
  | @token id t t' stored stored' =>
    have hfound : (g.vault.registry.tokens.get? id).map Token.blinded =
        (g'.vault.registry.tokens.get? id).map Token.blinded := by
      rw [← Registry.get?_blinded, ← Registry.get?_blinded, hvault.registry]
    rw [stored, stored'] at hfound
    exact .ok (congrArg Identity.token (Option.some.inj hfound))
  | missing => exact .error _
  | unreadable => exact .error _
  | unknown masked => exact .error _

section Handlers

variable (h : g.Alike g') {r : Http.Request} {headers' : List Http.Header}
  (hcaller : Agree (fun caller caller' => caller.blinded = caller'.blinded)
    (g.authenticate r) (g'.authenticate { r with headers := headers' }))
  (m : Moment) (provider : Provider)

include h

lemma answer_alike (task : Task) (result : Except Error (Nat × Http.Content)) :
    Handled.Alike secret secret' task (g.answer result) (g'.answer result) :=
  ⟨.same result, h, rfl, rfl⟩

lemma withVault_alike {vault vault' : Vault} (hvault : vault.Alike vault') :
    Alike { g with vault } { g' with vault := vault' } := ⟨h.maxBodyBytes, hvault, h.filter⟩

lemma ready_alike (task : Task) : Handled.Alike secret secret' task g.ready g'.ready := by
  simp only [ready, ← h.vault.ready_eq]
  split
  · exact answer_alike h _ _
  · exact ⟨.same _, h, rfl, rfl⟩

include hcaller

/-- Handlers that recognise the caller first need to be compared for callers that are. -/
lemma recognise_alike {task : Task} {next next' : Identity → Handled}
    (hnext : ∀ caller caller', caller.blinded = caller'.blinded →
      Handled.Alike secret secret' task (next caller) (next' caller')) :
    Handled.Alike secret secret' task
      (match g.authenticate r with
        | .error e => g.answer (.error e)
        | .ok caller => next caller)
      (match g'.authenticate { r with headers := headers' } with
        | .error e => g'.answer (.error e)
        | .ok caller => next' caller) := by
  generalize g.authenticate r = known at hcaller
  generalize g'.authenticate { r with headers := headers' } = known' at hcaller
  cases hcaller with
  | error e => exact answer_alike h _ _
  | ok hblinded => exact hnext _ _ hblinded

/-- The same for those that only look something up. -/
lemma answer_bind_alike (task : Task) {next next' : Identity → Except Error (Nat × Http.Content)}
    (hnext : ∀ caller caller', caller.blinded = caller'.blinded → next caller = next' caller') :
    Handled.Alike secret secret' task (g.answer (g.authenticate r >>= next))
      (g'.answer (g'.authenticate { r with headers := headers' } >>= next')) := by
  have hbind : g.authenticate r >>= next =
      g'.authenticate { r with headers := headers' } >>= next' := by
    generalize g.authenticate r = known at hcaller
    generalize g'.authenticate { r with headers := headers' } = known' at hcaller
    cases hcaller with
    | error e => rfl
    | ok hblinded => exact hnext _ _ hblinded
  rw [hbind]
  exact answer_alike h _ _

lemma createToken_alike : Handled.Alike m.secret secret' .createToken (g.createToken m r)
    (g'.createToken { m with secret := secret' } { r with headers := headers' }) := by
  refine recognise_alike h hcaller fun caller caller' hblinded => ?_
  simp only
  split
  · exact answer_alike h _ _
  rename_i grant _
  have hcreate := h.vault.adminCreate hblinded m.fault g.access.hasher g'.access.hasher grant
    m.secret secret' m.now
  generalize Admin.create g.access.hasher g.vault caller grant m.secret m.now m.fault = made
    at hcreate
  generalize Admin.create g'.access.hasher g'.vault caller' grant secret' m.now m.fault = made'
    at hcreate
  cases hcreate with
  | error e hleft => exact answer_alike (withVault_alike h hleft) _ _
  | @ok issued issued' _ _ hissued hmade =>
    have hdetails : issued.token.details = issued'.token.details := by
      simpa using congrArg Token.details hissued.token
    refine ⟨?_, withVault_alike h hmade, hissued.events_eq, rfl⟩
    simp only [hdetails, hissued.secret, hissued.secret']
    exact .created _

lemma deleteToken_alike (task : Task) (id : String) :
    Handled.Alike secret secret' task (g.deleteToken m r id)
      (g'.deleteToken { m with secret := secret' } { r with headers := headers' } id) := by
  refine recognise_alike h hcaller fun caller caller' hblinded => ?_
  simp only
  split
  · exact answer_alike h _ _
  rename_i id _
  have hdelete := h.vault.adminDelete hblinded m.fault id
  generalize Admin.delete g.vault caller id m.fault = deleted at hdelete
  generalize Admin.delete g'.vault caller' id m.fault = deleted' at hdelete
  cases hdelete with
  | error e hleft => exact answer_alike (withVault_alike h hleft) _ _
  | ok hrevoked hdeleted => exact ⟨.same _, withVault_alike h hdeleted, hrevoked.events_eq, rfl⟩

lemma setLogLevel_alike (task : Task) :
    Handled.Alike secret secret' task (g.setLogLevel r)
      (g'.setLogLevel { r with headers := headers' }) := by
  refine recognise_alike h hcaller fun caller caller' hblinded => ?_
  have hauthorize := h.vault.authorize hblinded
  have htext : caller.text = caller'.text := by simpa using congrArg Identity.text hblinded
  generalize Admin.authorize g.vault.registry caller = authorized at hauthorize
  generalize Admin.authorize g'.vault.registry caller' = authorized' at hauthorize
  cases hauthorize with
  | error e => exact answer_alike h _ _
  | ok =>
    simp only [← h.filter, htext]
    split
    · exact answer_alike h _ _
    split
    · exact answer_alike h _ _
    · exact ⟨.same _, ⟨h.maxBodyBytes, h.vault, rfl⟩, rfl, rfl⟩

lemma listTokens_alike (task : Task) :
    Handled.Alike secret secret' task (g.listTokens r)
      (g'.listTokens { r with headers := headers' }) := by
  have htokens := congrArg Registry.list h.vault.registry
  rw [Registry.list_blinded, Registry.list_blinded] at htokens
  have hsummaries : g.vault.registry.list.map (fun t => Json.Value.object t.summary) =
      g'.vault.registry.list.map (fun t => Json.Value.object t.summary) := by
    simpa [Function.comp_def] using
      congrArg (List.map fun t : Token => Json.Value.object t.summary) htokens
  exact answer_bind_alike h hcaller task fun _ _ _ => by rw [hsummaries]

lemma showToken_alike (task : Task) (id : String) :
    Handled.Alike secret secret' task (g.showToken r id)
      (g'.showToken { r with headers := headers' } id) := by
  refine answer_bind_alike h hcaller task fun _ _ _ => ?_
  cases tokenId id with
  | error e => rfl
  | ok id =>
    have hget : Agree (fun t t' : Token => t.blinded = t'.blinded) (g.vault.registry.get id)
        (g'.vault.registry.get id) := by
      refine .of_map_eq ?_
      rw [← Registry.get_blinded, ← Registry.get_blinded, h.vault.registry]
    simp only [bind, Except.bind]
    generalize g.vault.registry.get id = found at hget
    generalize g'.vault.registry.get id = found' at hget
    cases hget with
    | error e => rfl
    | @ok t t' hblinded =>
      have hdetails : t.details = t'.details := by simpa using congrArg Token.details hblinded
      simp only [hdetails]

lemma whoami_alike (task : Task) :
    Handled.Alike secret secret' task (g.whoami r)
      (g'.whoami { r with headers := headers' }) := by
  refine answer_bind_alike h hcaller task fun caller caller' hblinded => ?_
  have hmaster : caller.isMaster = caller'.isMaster := by
    simpa using congrArg Identity.isMaster hblinded
  have hadmin (state : Bootstrap) : caller.isAdmin state = caller'.isAdmin state := by
    simpa using congrArg (Identity.isAdmin · state) hblinded
  have hdetails : caller.token?.map Token.details = caller'.token?.map Token.details := by
    simpa [Function.comp_def] using
      congrArg (fun caller : Identity => caller.token?.map Token.details) hblinded
  simp only [h.vault.bootstrap_eq, hmaster, hadmin]
  cases htoken : caller.token? <;> cases htoken' : caller'.token? <;>
    simp_all

lemma forward_alike (hsame : Http.SameButKeys r.headers headers') (task : Task) :
    Handled.Alike secret secret' task (g.forward provider r)
      (g'.forward provider { r with headers := headers' }) := by
  have houtbound : outbound { r with headers := headers' } = outbound r := by
    simp only [outbound, hsame.firstHeader?_eq "content-type" (by decide) (by decide)]
  refine recognise_alike h hcaller fun caller caller' hblinded => ?_
  have htext : caller.text = caller'.text := by simpa using congrArg Identity.text hblinded
  have hcheck (d : Descriptor) :
      Decision.check caller (Bootstrap.of g.vault.registry) d =
        Decision.check caller' (Bootstrap.of g'.vault.registry) d := by
    simpa [h.vault.bootstrap_eq] using
      congrArg (fun caller => Decision.check caller (Bootstrap.of g.vault.registry) d) hblinded
  simp only [houtbound, denialEvent, hcheck, htext]
  split
  · exact answer_alike h _ _
  split <;> exact ⟨.same _, h, rfl, rfl⟩

end Handlers

/-- Each task is handled alike. -/
theorem perform_alike (h : g.Alike g') {r : Http.Request} {headers' : List Http.Header}
    (hsame : Http.SameButKeys r.headers headers')
    (hcaller : Agree (fun caller caller' => caller.blinded = caller'.blinded)
      (g.authenticate r) (g'.authenticate { r with headers := headers' }))
    (m : Moment) (secret' : String) (provider : Provider) (task : Task) :
    Handled.Alike m.secret secret' task (g.perform m provider r task)
      (g'.perform { m with secret := secret' } provider { r with headers := headers' } task) := by
  have hbody {task : Task} {x x' : Handled} (hx : Handled.Alike m.secret secret' task x x') :
      Handled.Alike m.secret secret' task (g.withBody r x)
        (g'.withBody { r with headers := headers' } x') := by
    simp only [withBody, ← h.maxBodyBytes]
    split
    · exact answer_alike h _ _
    · exact hx
  have hsegment {task : Task} {next next' : String → Handled} (segment : String)
      (hnext : ∀ id, Handled.Alike m.secret secret' task (next id) (next' id)) :
      Handled.Alike m.secret secret' task (g.withSegment segment next)
        (g'.withSegment segment next') := by
    simp only [withSegment]
    split
    · exact answer_alike h _ _
    · exact hnext _
  cases task with
  | health => exact answer_alike h _ _
  | ready => exact ready_alike h _
  | createToken => exact hbody (createToken_alike h hcaller m)
  | listTokens => exact listTokens_alike h hcaller _
  | showToken segment => exact hsegment segment fun id => showToken_alike h hcaller _ id
  | deleteToken segment => exact hsegment segment fun id => deleteToken_alike h hcaller m _ id
  | whoami => exact whoami_alike h hcaller _
  | setLogLevel => exact hbody (setLogLevel_alike h hcaller _)
  | forward => exact hbody (forward_alike h hcaller provider hsame _)
  | refuse methods => exact answer_alike h _ _

end Gateway

/-- What can be told of two exchanges: nothing, but for the secret of a token that was made. -/
structure Exchange.Alike (r : Http.Request) (secret secret' : String) (x x' : Exchange) :
    Prop where
  status : x.response.status = x'.response.status
  contentType : x.response.contentType = x'.response.contentType
  allow : x.response.allow = x'.response.allow
  requestId : x.response.requestId = x'.response.requestId
  body : x.response.body = x'.response.body ∨
    r.method = .post ∧ r.target.path = "/admin/api/tokens" ∧ x.response.status = 201 ∧
      ∃ members : List (String × Json.Value),
        x.response.body = Text.bytes (Json.Value.object
          (members ++ [("token", .string secret)])).text ∧
        x'.response.body = Text.bytes (Json.Value.object
          (members ++ [("token", .string secret')])).text
  span : x.span = x'.span
  events : x.events = x'.events
  outbound : x.outbound = x'.outbound
  gateway : x.gateway.Alike x'.gateway

namespace Gateway

/-- The span of a request, where the filter lets it in. -/
def entered (filter : Option Log.Filter) (span : Log.Span) : Option Log.Span :=
  if filter.any (·.enters span) then some span else none

variable (g : Gateway) (m : Moment) (provider : Provider) (r : Http.Request)

lemma span_handle : (g.handle m provider r).span =
    entered g.filter (requestSpan r (Http.RequestId.choose r.headers m.requestId)) := rfl

lemma events_handle : (g.handle m provider r).events =
    Log.visible (g.perform m provider r r.task).gateway.filter (g.handle m provider r).span
      ((g.perform m provider r r.task).events ++
        (tell (g.perform m provider r r.task).result).2) := rfl

lemma body_handle : (g.handle m provider r).response.body =
    if r.method = .head && Route.ofPath r.target.path ≠ .provider then []
    else (tell (g.perform m provider r r.task).result).1.2.body := rfl

variable {g} {g' : Gateway}

/-- Gateways that differ in digests cannot be told apart by requests that differ in keys, as long as
the keys are recognised alike. -/
theorem alike (h : g.Alike g') (secret' : String) (headers' : List Http.Header)
    (hsame : Http.SameButKeys r.headers headers')
    (hknown : g.SameOutcome g' (g.authenticate r)
      (g'.authenticate { r with headers := headers' })) :
    Exchange.Alike r m.secret secret' (g.handle m provider r)
      (g'.handle { m with secret := secret' } provider { r with headers := headers' }) := by
  obtain ⟨hresult, hgateway, hevents, houtbound⟩ :=
    perform_alike h hsame (hknown.agree h.vault) m secret' provider r.task
  obtain ⟨hstatus, hcontentType, hfailure⟩ := hresult.tell_eq
  have hid : Http.RequestId.choose r.headers m.requestId =
      Http.RequestId.choose headers' m.requestId := by
    simp only [Http.RequestId.choose,
      hsame.firstHeader?_eq Http.RequestId.headerName (by decide) (by decide)]
  have hspan : (g.handle m provider r).span =
      (g'.handle { m with secret := secret' } provider { r with headers := headers' }).span := by
    rw [span_handle, span_handle, h.filter, hid]
    rfl
  refine ⟨hstatus, hcontentType, rfl, hid, ?_, hspan, ?_, houtbound, hgateway⟩
  · rw [body_handle, body_handle]
    by_cases hhead : (r.method = .head && Route.ofPath r.target.path ≠ .provider) = true
    · exact .inl (by rw [if_pos hhead, if_pos hhead])
    · rw [if_neg hhead, if_neg hhead]
      rcases hresult.body_eq_or with hsame | ⟨htask, hmade, hmembers⟩
      · exact .inl hsame
      · obtain ⟨hmethod, hpath⟩ := Task.eq_createToken_iff.1 htask
        exact .inr ⟨hmethod, hpath, hmade, hmembers⟩
  · rw [events_handle, events_handle, hspan, hgateway.filter, hevents, hfailure]
    rfl

/-- An administrator whose secret is digested under a hash key. -/
def adminTokenSample (hashKey secret : String) : Token :=
  ⟨1, "ops", true, default, [], (Hasher.ofKey hashKey).digest secret⟩

/-- The gateway with this hash key and this administrator. -/
def adminSample (hashKey secret : String) : Gateway :=
  ⟨.ofMasterKey (.ofKey hashKey) "master key", 1024,
    ⟨⟨1, true, TokenMap.empty.insert 1 (adminTokenSample hashKey secret)⟩, none⟩, none⟩

lemma alike_adminSample (hashKey secret hashKey' secret' : String) :
    (adminSample hashKey secret).Alike (adminSample hashKey' secret') := by
  have htoken : (adminTokenSample hashKey secret).blinded =
      (adminTokenSample hashKey' secret').blinded := by
    simp only [Token.blinded, adminTokenSample]
  refine ⟨rfl, ⟨?_, .none⟩, rfl⟩
  simp only [adminSample, Registry.blinded, TokenMap.insert_blinded, htoken]

lemma get?_adminSample (hashKey secret : String) :
    (adminSample hashKey secret).vault.registry.tokens.get? 1 =
      some (adminTokenSample hashKey secret) := rfl

/-- A request to make another administrator. -/
def deputySample (headers : List Http.Header) : Http.Request :=
  ⟨.post, ⟨"/admin/api/tokens", "/admin/api/tokens"⟩, headers,
    Text.bytes "\x7b\"name\": \"deputy\", \"is_admin\": true\x7d"⟩

theorem alike_sample :
    Exchange.Alike (deputySample [⟨"accesskey", Text.bytes "secret one"⟩]) "fresh one" "fresh two"
      ((adminSample "key one" "secret one").handle ⟨default, "fresh one", "id", none⟩
        (fun _ => .silent) (deputySample [⟨"accesskey", Text.bytes "secret one"⟩]))
      ((adminSample "key two" "secret two").handle ⟨default, "fresh two", "id", none⟩
        (fun _ => .silent) (deputySample [⟨"authorization", Text.bytes "Bearer secret two"⟩])) := by
  have hknown : (adminSample "key one" "secret one").authenticate
      (deputySample [⟨"accesskey", Text.bytes "secret one"⟩]) =
        .ok (.token (adminTokenSample "key one" "secret one")) :=
    ok_of_toOption (by decide +kernel)
  have hknown' : (adminSample "key two" "secret two").authenticate
      (deputySample [⟨"authorization", Text.bytes "Bearer secret two"⟩]) =
        .ok (.token (adminTokenSample "key two" "secret two")) :=
    ok_of_toOption (by decide +kernel)
  have houtcome : (adminSample "key one" "secret one").SameOutcome
      (adminSample "key two" "secret two")
      ((adminSample "key one" "secret one").authenticate
        (deputySample [⟨"accesskey", Text.bytes "secret one"⟩]))
      ((adminSample "key two" "secret two").authenticate
        (deputySample [⟨"authorization", Text.bytes "Bearer secret two"⟩])) := by
    rw [hknown, hknown']
    exact .token (get?_adminSample _ _) (get?_adminSample _ _)
  have hheaders : Http.SameButKeys [⟨"accesskey", Text.bytes "secret one"⟩]
      [⟨"authorization", Text.bytes "Bearer secret two"⟩] := by
    unfold Http.SameButKeys
    decide +kernel
  exact alike ⟨default, "fresh one", "id", none⟩ _ _ (alike_adminSample _ _ _ _) "fresh two" _
    hheaders houtcome

end Gateway

end ZoneGate
