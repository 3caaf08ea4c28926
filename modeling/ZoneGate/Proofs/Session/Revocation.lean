import ZoneGate.Proofs.Session.Keys

/-!
# What a deletion takes away

The secrets that are recognised are those of the tokens that were made and not deleted since, and a
caller that was recognised earlier acts with what is stored of it now. So a deletion that succeeds
revokes the secret of its token and the authority of every caller known by it, at once and for good;
one that fails revokes nothing, just as a failed creation issues nothing.
-/
namespace ZoneGate

theorem Identity.refresh_token {r : Registry} {t u : Token} (h : t.id = u.id) :
    refresh r (.token t) = refresh r (.token u) := by
  simp only [refresh, h]

/-- A caller is refused under whose id nothing is stored. -/
theorem Admin.authorize_missing {r : Registry} {t : Token} (h : r.tokens.get? t.id = none) :
    authorize r (.token t) = .error .revokedCaller := by
  simp [authorize, Identity.refresh, h]

namespace Session

variable {hasher : Hasher} {masterKey : String} {access : Access} {s : Session}

/-- A key is that of a token exactly where the token is live, as far as distinct keys have distinct
digests. An id is given to a second token only after all the others were given out. -/
theorem Reached.resolve_iff_live (h : s.Reached (.ofMasterKey hasher masterKey)) {c : String}
    (hempty : c ≠ "") (htrim : Text.trim c = c) (hmaster : c ≠ masterKey)
    (hsecrets : (secrets s.history).Nodup)
    (hdigests : DistinctDigests hasher (c :: keys masterKey s.history)) :
    (∀ t, (Access.ofMasterKey hasher masterKey).resolve s.vault.registry (some c) =
          .ok (.token t) ↔
        ∃ i : Issue, i.LiveIn s.history ∧ i.issued.secret = c ∧ i.issued.token = t) ∧
      ((¬ ∃ i : Issue, i.LiveIn s.history ∧ i.issued.secret = c) →
        (Access.ofMasterKey hasher masterKey).resolve s.vault.registry (some c) =
          .error (.unknownKey (Secret.mask c))) ∧
      (∀ before e after i, s.history = before ++ e :: after → e.issue? = some i →
        i.ReplacedIn after → UInt64.size < (Event.issues s.history).length) := by
  have traced := h.traced.1
  have hne : hasher.digest c ≠ hasher.digest masterKey := fun hdigest =>
    hmaster (hdigests _ List.mem_cons_self _ (by simp [keys]) hdigest)
  have hfresh := hdigests.mono (List.cons_subset_cons c (List.subset_cons_self masterKey _))
  rw [Access.resolve_trimmed hempty htrim hne]
  refine ⟨fun t => ?_, fun hnone => ?_, fun before e after i hsplit hissue hreplaced => ?_⟩
  · rw [← traced.find?_digest_eq_some_iff hsecrets hfresh]
    cases s.vault.registry.find? (hasher.digest c) <;> simp
  · rw [(traced.find?_digest_eq_none_iff hsecrets hfresh).2 hnone]
  · rw [hsplit] at traced ⊢
    exact traced.size_lt_of_replacedIn hissue hreplaced

/-- The token for one zone that the sample makes is recognised by its secret. -/
theorem resolve_live_sample : ∃ t : Token, t.name = "dns" ∧
    Access.sample.resolve sample.vault.registry (some (Secret.ofRandom (List.replicate 32 2))) =
      .ok (.token t) := by
  have hmem : Secret.ofRandom (List.replicate 32 2) ∈ secrets sample.history :=
    .tail _ (.head _)
  have h := reached_sample.resolve_iff_live (c := Secret.ofRandom (List.replicate 32 2))
    (by decide +kernel) (Secret.trim_ofRandom _) (by decide +kernel)
    distinctKeys_sample.nodup_secrets
    (distinctKeys_sample.distinctDigests.mono
      (List.cons_subset.2 ⟨List.mem_cons_of_mem _ hmem, List.Subset.refl _⟩))
  exact ⟨_, rfl, (h.1 _).2 ⟨_, ⟨sample.history.take 1, _, [], rfl, rfl, by simp [Issue.DeletedIn],
    by simp [Issue.ReplacedIn]⟩, rfl, rfl⟩⟩

/-- Who acts is decided by what is stored: a caller whose id was deleted is refused everything,
whatever else it claims to be, and callers with the same id come to the same. -/
theorem Reached.acts_as_stored (h : s.Reached access)
    (hsize : (Event.issues s.history).length < UInt64.size) :
    (∀ e ∈ s.history, ∀ t : Token, e.deleted? = some t.id →
        ∀ c : Call, c.caller? = some (.token t) →
          s.vault.perform access c = (.error .revokedCaller, s.vault)) ∧
      ∀ t u : Token, t.id = u.id → ∀ c : Call,
        s.vault.perform access (c.withCaller (.token t)) =
          s.vault.perform access (c.withCaller (.token u)) := by
  refine ⟨fun e he t hdeleted c hc => ?_, fun t u hid c => ?_⟩
  · have hgone := h.traced.1.get?_of_deleted hsize he hdeleted
    exact Vault.perform_refused hc (Admin.authorize_missing hgone)
  · exact Vault.perform_withCaller (Identity.refresh_token hid) c

/-- The sample after its administrator has deleted the token for one zone. -/
def revokedSample : Session :=
  sample.run .sample [.delete (.token ⟨1, "ops", true, default, [], default⟩) 2 none]

theorem reached_revokedSample : revokedSample.Reached .sample := reached_sample.run _

/-- A caller with the id of the deleted token makes no token though it claims to administer, and
the administrator may act under any name. -/
theorem acts_as_stored_sample :
    revokedSample.vault.perform .sample
        (.create (.token ⟨2, "forged", true, default, [], default⟩) ⟨"more", true, [], [], []⟩
          (Vector.replicate _ 3) default none) =
      (.error .revokedCaller, revokedSample.vault) ∧
    revokedSample.vault.perform .sample
        (.requireAdmin (.token ⟨1, "forged", false, default, [], default⟩)) =
      revokedSample.vault.perform .sample
        (.requireAdmin (.token ⟨1, "ops", true, default, [], default⟩)) := by
  have hdeleted : ∃ e ∈ revokedSample.history, e.deleted? = some 2 :=
    ⟨_, List.mem_append_right sample.history List.mem_cons_self, rfl⟩
  obtain ⟨e, he, hid⟩ := hdeleted
  have h := reached_revokedSample.acts_as_stored (by decide)
  exact ⟨h.1 e he _ hid _ rfl, h.2 _ _ rfl (.requireAdmin .master)⟩

end Session

end ZoneGate
