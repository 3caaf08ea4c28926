import ZoneGate.Proofs.Gateway.Forwarding
import ZoneGate.Proofs.Gateway.Routing
import ZoneGate.Proofs.Vault.Mirror

/-!
# What requests change

A request makes a token, deletes one, changes the log filter, is handed on to the provider, or does
nothing. The first three take an administrator and a single kind of request each, and tell by their
status that they were done. In every other case the tokens, their file and the filter stay as they
were, even where the disk failed in the middle.
-/
namespace ZoneGate

/-! ## One request -/

/-- A task that only reads. -/
def Task.Reads : Task → Prop
  | createToken | deleteToken _ | setLogLevel | forward => False
  | health | ready | listTokens | showToken _ | whoami | refuse _ => True

theorem Error.le_status (e : Error) : 400 ≤ e.status := by cases e <;> simp [status]

namespace Admin

lemma isSome_file_create {hasher : Hasher} {v v' : Vault} {caller : Identity} {g : Grant}
    {secret : String} {now : Timestamp} {fault : Option Directory.Fault}
    {result : Except Error Issued}
    (h : create hasher v caller g secret now fault = (result, v')) :
    v'.file.isSome = v.file.isSome := by
  unfold create at h
  split at h
  · rw [(Prod.mk.inj h).2]
  · rename_i t _
    have hcreate := v.isSome_file_create t (hasher.digest secret) now fault
    split at h <;> simp_all

lemma isSome_file_delete {v v' : Vault} {caller : Identity} {id : TokenId}
    {fault : Option Directory.Fault} {result : Except Error Revoked}
    (h : delete v caller id fault = (result, v')) : v'.file.isSome = v.file.isSome := by
  unfold delete at h
  split at h
  · rw [(Prod.mk.inj h).2]
  · have hdelete := v.isSome_file_delete id fault
    split at h <;> simp_all

end Admin

namespace Gateway

variable {g : Gateway} {m : Moment} {provider : Provider} {r : Http.Request}

/-- What handling a request comes to. -/
inductive Does (g : Gateway) (m : Moment) (provider : Provider) (r : Http.Request) :
    Task → Handled → Prop
  | created {caller : Identity} {grant : Grant} {issued : Issued} {vault : Vault}
      {content : Http.Content} {events : List Log.Event} (known : g.authenticate r = .ok caller)
      (created : Admin.create g.access.hasher g.vault caller grant m.secret m.now m.fault =
        (.ok issued, vault)) :
      Does g m provider r .createToken ⟨.ok (201, content), { g with vault }, events, none⟩
  | deleted {caller : Identity} {segment text : String} {id : TokenId} {revoked : Revoked}
      {vault : Vault} {events : List Log.Event} (known : g.authenticate r = .ok caller)
      (decoded : decodeSegment? segment = some text) (parsed : TokenId.parse? text = some id)
      (deleted : Admin.delete g.vault caller id m.fault = (.ok revoked, vault)) :
      Does g m provider r (.deleteToken segment)
        ⟨.ok (204, .nothing), { g with vault }, events, none⟩
  | levelled {caller current : Identity} {filter : Option Log.Filter} {content : Http.Content}
      {events : List Log.Event} (known : g.authenticate r = .ok caller)
      (authorized : Admin.authorize g.vault.registry caller = .ok current) :
      Does g m provider r .setLogLevel ⟨.ok (200, content), { g with filter }, events, none⟩
  | forwarded {caller : Identity} {d : Descriptor} (known : g.authenticate r = .ok caller)
      (clear : Endpoint.classify r.method r.target.path r.body = .ok d)
      (allowed : Decision.check caller (Bootstrap.of g.vault.registry) d = .allow) :
      Does g m provider r .forward ⟨relay (provider (outbound r)), g, [], some (outbound r)⟩
  | read {task : Task} {result : Except Error (Nat × Http.Content)} {events : List Log.Event}
      (reads : task.Reads) : Does g m provider r task ⟨result, g, events, none⟩
  | refused {task : Task} {result : Except Error (Nat × Http.Content)} {vault : Vault}
      {events : List Log.Event}
      (kept : g.vault.Synced →
        vault.registry = g.vault.registry ∧ vault.content? = g.vault.content?)
      (status : 400 ≤ (tell result).1.1) :
      Does g m provider r task ⟨result, { g with vault }, events, none⟩

namespace Does

/-- An error changes nothing. -/
lemma of_error (e : Error) (task : Task) : Does g m provider r task (g.answer (.error e)) :=
  .refused (fun _ => ⟨rfl, rfl⟩) e.le_status

end Does

lemma withBody_does {task : Task} {next : Handled} (h : Does g m provider r task next) :
    Does g m provider r task (g.withBody r next) := by
  unfold withBody
  split
  · exact .refused (fun _ => ⟨rfl, rfl⟩) (by decide)
  · exact h

lemma withSegment_does {task : Task} {segment : String} {next : String → Handled}
    (h : ∀ text, decodeSegment? segment = some text → Does g m provider r task (next text)) :
    Does g m provider r task (g.withSegment segment next) := by
  unfold withSegment
  split
  · exact .refused (fun _ => ⟨rfl, rfl⟩) (by decide)
  · rename_i text hdecoded
    exact h text hdecoded

lemma createToken_does : Does g m provider r .createToken (g.createToken m r) := by
  rcases hknown : g.authenticate r with e | caller
  · simp only [createToken, hknown]
    exact .of_error e _
  rcases hgrant : Grant.format.parse r.body with e | grant
  · simp only [createToken, hknown, hgrant]
    exact .of_error _ _
  rcases hcreate : Admin.create g.access.hasher g.vault caller grant m.secret m.now m.fault
    with ⟨e | issued, vault⟩
  · simp only [createToken, hknown, hgrant, hcreate]
    exact .refused (fun _ => Admin.create_error hcreate) e.le_status
  · simp only [createToken, hknown, hgrant, hcreate]
    exact .created hknown hcreate

lemma tokenId_ok {text : String} {id : TokenId} (h : tokenId text = .ok id) :
    TokenId.parse? text = some id := by
  unfold tokenId at h
  split at h
  · rw [← Except.ok.inj h]
    assumption
  · cases h

lemma deleteToken_does {segment text : String}
    (hdecoded : decodeSegment? segment = some text) :
    Does g m provider r (.deleteToken segment) (g.deleteToken m r text) := by
  rcases hknown : g.authenticate r with e | caller
  · simp only [deleteToken, hknown]
    exact .of_error e _
  rcases hid : tokenId text with e | id
  · simp only [deleteToken, hknown, hid]
    exact .of_error e _
  rcases hdelete : Admin.delete g.vault caller id m.fault with ⟨e | revoked, vault⟩
  · simp only [deleteToken, hknown, hid, hdelete]
    exact .refused (fun _ => Admin.delete_error hdelete) e.le_status
  · simp only [deleteToken, hknown, hid, hdelete]
    exact .deleted hknown hdecoded (tokenId_ok hid) hdelete

lemma setLogLevel_does : Does g m provider r .setLogLevel (g.setLogLevel r) := by
  rcases hknown : g.authenticate r with e | caller
  · simp only [setLogLevel, hknown]
    exact .of_error e _
  rcases hauthorize : Admin.authorize g.vault.registry caller with e | current
  · simp only [setLogLevel, hknown, hauthorize]
    exact .of_error e _
  rcases hchange : LevelChange.format.parse r.body with e | change
  · simp only [setLogLevel, hknown, hauthorize, hchange]
    exact .of_error _ _
  rcases hfilter : g.filter with _ | filter
  · simp only [setLogLevel, hknown, hauthorize, hchange, hfilter]
    exact .of_error _ _
  · simp only [setLogLevel, hknown, hauthorize, hchange, hfilter]
    exact .levelled hknown hauthorize

lemma forward_does : Does g m provider r .forward (g.forward provider r) := by
  rcases hknown : g.authenticate r with e | caller
  · simp only [forward, hknown]
    exact .of_error e _
  rcases hclear : Endpoint.classify r.method r.target.path r.body with e | d
  · simp only [forward, hknown, hclear]
    exact .of_error _ _
  rcases hcheck : Decision.check caller (Bootstrap.of g.vault.registry) d with _ | reason
  · simp only [forward, hknown, hclear, hcheck]
    exact .forwarded hknown hclear hcheck
  · simp only [forward, hknown, hclear, hcheck]
    exact .refused (fun _ => ⟨rfl, rfl⟩) (Error.denied reason).le_status

/-- Whatever a request wants done, it does no more than one of these. -/
theorem perform_does (g : Gateway) (m : Moment) (provider : Provider) (r : Http.Request)
    (task : Task) : Does g m provider r task (g.perform m provider r task) := by
  cases task with
  | health => exact .read trivial
  | ready =>
    simp only [perform, ready]
    split <;> exact .read trivial
  | createToken => exact withBody_does createToken_does
  | listTokens => exact .read trivial
  | showToken segment =>
    refine withSegment_does fun text _ => ?_
    exact .read trivial
  | deleteToken segment => exact withSegment_does fun text => deleteToken_does
  | whoami => exact .read trivial
  | setLogLevel => exact withBody_does setLogLevel_does
  | forward => exact withBody_does forward_does
  | refuse methods => exact .read trivial

end Gateway

/-! ## In a state that calls have led to -/

/-- Whether a caller administers: by a stored token, or by the master key as long as no
administrator was ever made. -/
def Registry.AdministeredBy (r : Registry) : Identity → Prop
  | .master => r.adminEverCreated = false
  | .token t => t ∈ r.list ∧ t.isAdmin

namespace Gateway

lemma mem_list_of_authenticate {g : Gateway} {r : Http.Request} {t : Token}
    (h : g.authenticate r = .ok (.token t)) : t ∈ g.vault.registry.list := by
  rw [authenticate_eq] at h
  split at h
  · cases h
  rw [Access.resolve] at h
  split at h
  · cases h
  split at h
  · cases h
  split at h
  · rename_i hfind
    cases h
    exact List.mem_of_find?_eq_some hfind
  · cases h

/-- A caller that passes as an administrator is stored as one. -/
lemma administeredBy_of_authorize {access : Access} {history : List Event} {g : Gateway}
    {r : Http.Request} {caller current : Identity} (traced : Traced access g.vault.registry history)
    (hknown : g.authenticate r = .ok caller)
    (hauthorize : Admin.authorize g.vault.registry caller = .ok current) :
    g.vault.registry.AdministeredBy caller := by
  rcases Admin.authorize_ok hauthorize with ⟨rfl, -, hflag⟩ | ⟨t, stored, rfl, -, hget, hadmin⟩
  · exact hflag
  · have hmem := mem_list_of_authenticate hknown
    obtain ⟨id, hid⟩ := Registry.mem_list.1 hmem
    -- the token is stored under its own id, where it is looked up once more
    rw [traced.id_of_get? hid, hid] at hget
    cases hget
    exact ⟨hmem, hadmin⟩

end Gateway

namespace Registry

/-- A token is put into a registry under the next id. -/
structure Gains (r : Registry) (t : Token) (r' : Registry) : Prop where
  id : t.id = r.nextId + 1
  nextId : r'.nextId = t.id
  adminEverCreated : r'.adminEverCreated = (r.adminEverCreated || t.isAdmin)
  tokens : r'.tokens = r.tokens.insert t.id t

theorem gains_of_create {r r' : Registry} {t : NewToken} {digest : Digest} {now : Timestamp}
    {token : Token} (h : r.create t digest now = (token, r')) : r.Gains token r' := by
  obtain ⟨htoken, rfl⟩ := create_eq h
  exact ⟨by rw [htoken], rfl, rfl, rfl⟩

/-- Exactly one token goes from a registry. -/
structure Loses (r : Registry) (t : Token) (r' : Registry) : Prop where
  mem : t ∈ r.list
  list : r'.list = r.list.filter (· ≠ t)
  nextId : r'.nextId = r.nextId
  adminEverCreated : r'.adminEverCreated = r.adminEverCreated

end Registry

namespace Traced

variable {access : Access} {r r' : Registry} {history : List Event}

/-- A new token comes last, as long as the ids have not come round. -/
theorem list_of_gains (h : Traced access r history)
    (hsize : (Event.issues history).length + 1 < UInt64.size) {t : Token} (hgains : r.Gains t r') :
    r'.list = r.list ++ [t] := by
  have hkeys : ∀ entry ∈ r.tokens.entries, entry.1 < t.id := by
    intro entry hentry
    obtain ⟨hmem, hid⟩ := h.kept.mem_tokens_of_get? (TokenMap.mem_entries.1 hentry)
    have hbound : (Change.tokens (Event.changes history)).length + 1 < UInt64.size := by
      simpa [Event.tokens_changes] using hsize
    rw [← hid, hgains.id]
    exact h.kept.lt_next hbound hmem
  have hentries : r'.tokens.entries = r.tokens.entries ++ [(t.id, t)] := by
    rw [hgains.tokens]
    exact TokenMap.insertEntry_of_lt hkeys t
  rw [Registry.list, TokenMap.tokens, hentries, List.map_append]
  rfl

theorem loses_of_delete (h : Traced access r history) {id : TokenId} {t : Token}
    (hdelete : r.delete id = .ok (t, r')) : r.Loses t r' ∧ t.id = id := by
  obtain ⟨hget, -, rfl⟩ := Registry.delete_ok hdelete
  have hown := h.id_of_get? hget
  refine ⟨⟨Registry.mem_list.2 ⟨id, hget⟩, ?_, rfl, rfl⟩, hown⟩
  change (r.tokens.entries.filter (·.1 ≠ id)).map (·.2) = (r.tokens.entries.map (·.2)).filter _
  rw [List.filter_map]
  refine congrArg _ (List.filter_congr fun entry hentry => ?_)
  have hfound := TokenMap.mem_entries.1 hentry
  -- an entry has the id of the token exactly if it holds the token
  have hiff : entry.1 = id ↔ entry.2 = t := by
    constructor
    · intro hkey
      rw [hkey, hget] at hfound
      exact (Option.some.inj hfound).symm
    · intro htoken
      rw [← h.id_of_get? hfound, htoken, hown]
  simp [hiff]

end Traced

namespace Session

/-- What a request changes, with the method, path and status that tell it. -/
inductive Turns (s : Session) (g : Gateway) (r : Http.Request) (status : Nat) : Gateway → Prop
  | created {caller : Identity} {t : Token} {vault : Vault} (success : status = 201)
      (method : r.method = .post) (path : r.target.path = "/admin/api/tokens")
      (known : g.authenticate r = .ok caller)
      (administers : s.vault.registry.AdministeredBy caller)
      (gains : s.vault.registry.Gains t vault.registry)
      (last : (Event.issues s.history).length + 1 < UInt64.size →
        vault.registry.list = s.vault.registry.list ++ [t])
      (file : vault.content? = s.vault.content?.map fun _ => .ok vault.registry.encode) :
      Turns s g r status { g with vault }
  | deleted {caller : Identity} {segment text : String} {t : Token} {vault : Vault}
      (success : status = 204) (method : r.method = .delete)
      (path : r.target.path = "/admin/api/tokens/" ++ segment)
      (decoded : decodeSegment? segment = some text) (parsed : TokenId.parse? text = some t.id)
      (known : g.authenticate r = .ok caller)
      (administers : s.vault.registry.AdministeredBy caller)
      (loses : s.vault.registry.Loses t vault.registry)
      (file : vault.content? = s.vault.content?.map fun _ => .ok vault.registry.encode) :
      Turns s g r status { g with vault }
  | levelled {caller : Identity} {filter : Option Log.Filter} (success : status = 200)
      (method : r.method = .post) (path : r.target.path = "/admin/api/loglevel")
      (known : g.authenticate r = .ok caller)
      (administers : s.vault.registry.AdministeredBy caller) : Turns s g r status { g with filter }
  | kept {vault : Vault} (registry : vault.registry = s.vault.registry)
      (file : vault.content? = s.vault.content?)
      (notCreated : r.method = .post → r.target.path = "/admin/api/tokens" → status ≠ 201)
      (notDeleted : r.method = .delete → ∀ segment, segment ≠ "" → '/' ∉ segment.toList →
        r.target.path = "/admin/api/tokens/" ++ segment → status ≠ 204)
      (notLevelled : r.method = .post → r.target.path = "/admin/api/loglevel" → status ≠ 200) :
      Turns s g r status { g with vault }

/-- A request keeps everything where it does not tell that it did one of the three. -/
lemma Turns.of_task {s : Session} {g : Gateway} {r : Http.Request} {status : Nat} {vault : Vault}
    (registry : vault.registry = s.vault.registry) (file : vault.content? = s.vault.content?)
    (notCreated : r.task = .createToken → status ≠ 201)
    (notDeleted : ∀ segment, r.task = .deleteToken segment → status ≠ 204)
    (notLevelled : r.task = .setLogLevel → status ≠ 200) :
    s.Turns g r status { g with vault } :=
  .kept registry file (fun hmethod hpath => notCreated (Task.eq_createToken_iff.2 ⟨hmethod, hpath⟩))
    (fun hmethod segment hempty hslash hpath =>
      notDeleted segment (Task.eq_deleteToken_iff.2 ⟨hmethod, hpath, hempty, hslash⟩))
    (fun hmethod hpath => notLevelled (Task.eq_setLogLevel_iff.2 ⟨hmethod, hpath⟩))

/-- Only administrators change anything, and only by requests that ask for it. -/
theorem Reached.turns {access : Access} {s : Session} (h : s.Reached access)
    (maxBodyBytes : UInt64) (filter : Option Log.Filter) (m : Moment) (provider : Provider)
    (r : Http.Request) :
    let g := s.gateway access maxBodyBytes filter
    let x := g.handle m provider r
    s.Turns g r x.response.status x.gateway := by
  intro g x
  obtain ⟨traced, hsynced⟩ := h.traced
  have hdoes := g.perform_does m provider r r.task
  change s.Turns g r (g.perform m provider r r.task).reply.status
    (g.perform m provider r r.task).gateway
  generalize htask : r.task = task at hdoes
  generalize g.perform m provider r task = handled at hdoes ⊢
  cases hdoes with
  | @created caller grant issued vault _ _ known created =>
    obtain ⟨hmethod, hpath⟩ := Task.eq_createToken_iff.1 htask
    obtain ⟨current, t, happrove, -, hcreate, hafter⟩ := Admin.create_ok created
    obtain ⟨hauthorize, -, -⟩ := Admin.approve_ok happrove
    have hgains := Registry.gains_of_create hcreate
    exact .created rfl hmethod hpath known
      (Gateway.administeredBy_of_authorize traced known hauthorize) hgains
      (fun hsize => traced.list_of_gains hsize hgains)
      (hafter.content?_eq (Admin.isSome_file_create created))
  | @deleted caller segment text id revoked vault _ known decoded parsed deleted =>
    obtain ⟨hmethod, hpath, -⟩ := Task.eq_deleteToken_iff.1 htask
    obtain ⟨current, hauthorize, hdelete, hafter⟩ := Admin.delete_ok deleted
    obtain ⟨hloses, rfl⟩ := traced.loses_of_delete hdelete
    exact .deleted rfl hmethod hpath decoded parsed known
      (Gateway.administeredBy_of_authorize traced known hauthorize) hloses
      (hafter.content?_eq (Admin.isSome_file_delete deleted))
  | levelled known authorized =>
    obtain ⟨hmethod, hpath⟩ := Task.eq_setLogLevel_iff.1 htask
    exact .levelled rfl hmethod hpath known
      (Gateway.administeredBy_of_authorize traced known authorized)
  | forwarded =>
    exact .of_task rfl rfl (by simp [htask]) (by simp [htask]) (by simp [htask])
  | read reads =>
    refine .of_task rfl rfl (fun htask' => ?_) (fun segment htask' => ?_) (fun htask' => ?_)
    all_goals
      rw [← htask, htask'] at reads
      exact reads.elim
  | @refused _ result _ _ kept status =>
    obtain ⟨hregistry, hfile⟩ := kept hsynced
    have hstatus (success : Nat) (hlt : success < 400) : (Gateway.tell result).1.1 ≠ success := by
      omega
    exact .of_task hregistry hfile (fun _ => hstatus _ (by decide))
      (fun _ _ => hstatus _ (by decide)) (fun _ => hstatus _ (by decide))

/-- The master key makes the first administrator. -/
theorem turns_sample :
    let s : Session := ⟨.inMemory, []⟩
    let g := s.gateway .sample 1024 none
    let r : Http.Request := ⟨.post, ⟨"/admin/api/tokens", "/admin/api/tokens"⟩,
      [⟨"accesskey", Text.bytes "master key"⟩],
      Text.bytes "\x7b\"name\": \"ops\", \"is_admin\": true\x7d"⟩
    let x := g.handle ⟨default, "fresh secret", "", none⟩ (fun _ => .silent) r
    (x.response.status, x.gateway.vault.registry.list.length) = (201, 1) ∧
      s.Turns g r x.response.status x.gateway :=
  ⟨by decide +kernel, (Reached.start .inMemory).turns _ _ _ _ _⟩

end Session

end ZoneGate
