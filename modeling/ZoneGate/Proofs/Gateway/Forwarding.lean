import ZoneGate.Proofs.Access.Grants
import ZoneGate.Proofs.Gateway.Mediation
import ZoneGate.Proofs.Session.Keys

/-!
# What a grant is worth at the gateway

A token stands between a grant and the provider. As long as it is not deleted, a request with its
secret is handed on exactly where the grant allows what the request asks for. Afterwards the secret
opens nothing.
-/
namespace ZoneGate

namespace Session

/-- The gateway that serves the vault of a session. -/
def gateway (s : Session) (access : Access) (maxBodyBytes : UInt64) (filter : Option Log.Filter) :
    Gateway := ⟨access, maxBodyBytes, s.vault, filter⟩

variable {hasher : Hasher} {masterKey : String} {s : Session} {before after : List Event}
  {e : Event} {i : Issue}

/-- A token that is neither deleted nor replaced is recognised by its secret. -/
theorem Reached.resolve_of_untouched (h : s.Reached (.ofMasterKey hasher masterKey))
    (hkeys : DistinctKeys hasher masterKey s.history)
    (hsplit : s.history = before ++ e :: after) (hmade : e.issue? = some i)
    (hkept : ¬ i.RevokedIn after) (hown : ¬ i.ReplacedIn after) :
    (Access.ofMasterKey hasher masterKey).resolve s.vault.registry (some i.issued.secret) =
      .ok (.token i.issued.token) := by
  have hstanding : Event.standing i.issued.token.id s.history = some i := by
    rw [hsplit, Event.standing_of_untouched hmade hkept hown]
  exact h.traced.1.resolve_of_standing hkeys hstanding

/-- The secret of a deleted token is not recognised. -/
theorem Reached.resolve_of_revoked (h : s.Reached (.ofMasterKey hasher masterKey))
    (hkeys : DistinctKeys hasher masterKey s.history)
    (hsplit : s.history = before ++ e :: after) (hmade : e.issue? = some i)
    (hrevoked : i.RevokedIn after) :
    (Access.ofMasterKey hasher masterKey).resolve s.vault.registry (some i.issued.secret) =
      .error (.unknownKey (Secret.mask i.issued.secret)) := by
  have hi : i ∈ Event.issues s.history := by simp [hsplit, Event.issues_split hmade]
  refine h.traced.1.resolve_of_not_standing hkeys hi fun hstanding => ?_
  rw [hsplit] at hkeys hstanding
  exact hkeys.not_mem_after hmade (Event.mem_of_standing_of_revoked hrevoked hstanding)

/-- Grants mean what they say until their token is deleted, or until so many tokens were made that
its id is given to another one. -/
theorem Reached.forwarded_iff_allows (h : s.Reached (.ofMasterKey hasher masterKey))
    (hkeys : DistinctKeys hasher masterKey s.history)
    (hsplit : s.history = before ++ e :: after) (hmade : e.issue? = some i)
    (hscoped : i.grant.isAdmin = false) (maxBodyBytes : UInt64) (filter : Option Log.Filter)
    (m : Moment) (provider : Provider) (r : Http.Request)
    (hroute : Route.ofPath r.target.path = .provider)
    (hcredential : Gateway.credential r.headers = .ok (some i.issued.secret))
    (hfits : r.body.length ≤ maxBodyBytes.toNat) :
    let x := (s.gateway (.ofMasterKey hasher masterKey) maxBodyBytes filter).handle m provider r
    (¬ i.RevokedIn after → ¬ i.ReplacedIn after →
        (x.outbound.isSome ↔
          ∃ d, Endpoint.classify r.method r.target.path r.body = .ok d ∧ i.grant.Allows d)) ∧
      (i.RevokedIn after → x.response.status = 401 ∧ x.outbound = none) ∧
      (i.ReplacedIn after → UInt64.size < (Event.issues s.history).length) := by
  intro x
  have hauthenticate :
      (s.gateway (.ofMasterKey hasher masterKey) maxBodyBytes filter).authenticate r =
        (Access.ofMasterKey hasher masterKey).resolve s.vault.registry
          (some i.issued.secret) := by
    rw [Gateway.authenticate_eq, hcredential]
    rfl
  refine ⟨?_, ?_, fun hreplaced => ?_⟩
  · intro hkept hown
    rw [h.resolve_of_untouched hkeys hsplit hmade hkept hown] at hauthenticate
    have hi : i ∈ Event.issues s.history := by simp [hsplit, Event.issues_split hmade]
    obtain ⟨name, hvalidate⟩ := (h.traced.1.made hi).validated
    rw [Gateway.isSome_outbound_iff hroute]
    constructor
    · rintro ⟨-, caller, d, hknown, hclassify, hcheck⟩
      rw [hauthenticate] at hknown
      cases hknown
      exact ⟨d, hclassify, (Decision.check_iff_allows hscoped hvalidate hclassify _).1 hcheck⟩
    · rintro ⟨d, hclassify, hallows⟩
      exact ⟨hfits, _, d, hauthenticate, hclassify,
        (Decision.check_iff_allows hscoped hvalidate hclassify _).2 hallows⟩
  · intro hrevoked
    rw [h.resolve_of_revoked hkeys hsplit hmade hrevoked] at hauthenticate
    have hdecides : Decides (s.gateway (.ofMasterKey hasher masterKey) maxBodyBytes filter) r
        (.unrecognised _) := .unrecognised hfits hauthenticate
    obtain ⟨hreply, houtbound, -⟩ := Gateway.handle_provider
      (s.gateway (.ofMasterKey hasher masterKey) maxBodyBytes filter) m provider hroute
    obtain ⟨hreply', houtbound', -⟩ := Gateway.withBody_forward provider hdecides
    exact ⟨congrArg Reply.status (hreply.trans hreply'), houtbound.trans houtbound'⟩
  · have traced := h.traced.1
    rw [hsplit] at traced ⊢
    exact traced.size_lt_of_replacedIn hmade hreplaced

/-- The token for one zone that the sample makes. -/
theorem exists_issue_sample : ∃ (before : List Event) (e : Event) (i : Issue),
    sample.history = before ++ [e] ∧ e.issue? = some i ∧
      i.issued.secret = Secret.ofRandom (List.replicate 32 2) ∧
      i.grant = ⟨"dns", false, [⟨7, by decide⟩], [.listRecords], [.a]⟩ :=
  ⟨sample.history.take 1, _, _, rfl, rfl, rfl, rfl⟩

theorem forwarded_sample :
    ((sample.gateway .sample 1024 none).handle ⟨default, "", "", none⟩ (fun _ => .silent)
        ⟨.get, ⟨"/dnszone/7/records", "/dnszone/7/records"⟩,
          [⟨"accesskey", Text.bytes (Secret.ofRandom (List.replicate 32 2))⟩], []⟩
      ).outbound.isSome := by
  obtain ⟨before, e, i, hsplit, hmade, hsecret, hgrant⟩ := exists_issue_sample
  have hcredential : Gateway.credential
      [⟨"accesskey", Text.bytes (Secret.ofRandom (List.replicate 32 2))⟩] =
        .ok (some i.issued.secret) := by
    rw [hsecret]
    exact Gateway.credential_of_accessKey rfl (by decide +kernel) (by decide +kernel)
  have hclassify : Endpoint.classify .get "/dnszone/7/records" [] =
      .ok ⟨.listRecords, some ⟨7, by decide⟩, none⟩ := rfl
  have h := reached_sample.forwarded_iff_allows distinctKeys_sample hsplit hmade
    (by rw [hgrant]) 1024 none ⟨default, "", "", none⟩ (fun _ => .silent)
    ⟨.get, ⟨"/dnszone/7/records", "/dnszone/7/records"⟩, _, []⟩ (by decide +kernel) hcredential
    (by decide)
  refine (h.1 (by simp [Issue.RevokedIn]) (by simp [Issue.ReplacedIn])).2 ⟨_, hclassify, ?_⟩
  rw [hgrant]
  exact ⟨by decide, .inr ⟨_, rfl, by decide⟩, by decide⟩

end Session

end ZoneGate
