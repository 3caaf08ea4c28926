import ZoneGate.Access
import ZoneGate.Proofs.Session.Bootstrap
import ZoneGate.Proofs.Session.Keys

/-!
# Who administers

At every moment either the master key administers and there is no token at all, or the master key is
locked and there is an administrator token whose secret works. Creating keeps administrators because
new ids are free, deleting because the last one is refused, and a failing disk because nothing
unwritten is served.
-/
namespace ZoneGate

namespace Traced

variable {access : Access} {r : Registry} {history : List Event}

/-- The next id is free, as long as the counter has not come round. -/
theorem get?_next (h : Traced access r history)
    (hsize : (Event.issues history).length + 1 < UInt64.size) :
    r.tokens.get? (r.nextId + 1) = none := by
  rw [h.get?_eq]
  rcases hstanding : Event.standing (r.nextId + 1) history with _ | i
  · rfl
  · obtain ⟨hi, hid⟩ := Event.mem_of_standing hstanding
    exact absurd hid (h.id_ne_next hsize hi)

/-- Once an administrator was made there always is one. -/
theorem exists_admin (h : Traced access r history)
    (hsize : (Event.issues history).length < UInt64.size) (hflag : r.adminEverCreated = true) :
    ∃ id t, r.tokens.get? id = some t ∧ t.isAdmin := by
  induction h with
  | start => cases hflag
  | @step r r' history e traced effect ih =>
    rw [Event.issues_concat, List.length_append] at hsize
    cases effect with
    | @issue _ _ _ _ _ _ issued _ _ _ _ created =>
      obtain ⟨htoken, rfl⟩ := Registry.create_eq created
      cases hadmin : issued.token.isAdmin
      -- the new token takes a free id, so that it replaces no administrator
      · have hbefore : r.adminEverCreated = true := by simpa [hadmin] using hflag
        obtain ⟨id, t, hget, ht⟩ := ih (by omega) hbefore
        have hfree := traced.get?_next (by simpa [Event.issue?] using hsize)
        have hne : id ≠ issued.token.id := by
          rintro rfl
          rw [htoken, hfree] at hget
          cases hget
        exact ⟨id, t, by rw [TokenMap.get?_insert_of_ne hne, hget], ht⟩
      · exact ⟨_, _, TokenMap.get?_insert_self _ _ _, hadmin⟩
    | @revoke _ _ key _ revoked _ _ deleted =>
      obtain ⟨hget, hlast, rfl⟩ := Registry.delete_ok deleted
      cases hadmin : revoked.token.isAdmin
      -- the administrator from before is another token, or the deletion left another one
      · obtain ⟨id, t, hid, ht⟩ := ih (by omega) hflag
        have hne : id ≠ key := by
          rintro rfl
          rw [hget] at hid
          cases hid
          simp [hadmin] at ht
        exact ⟨id, t, by rw [TokenMap.get?_erase_of_ne hne, hid], ht⟩
      · obtain ⟨id, t, hne, hid, ht⟩ := TokenMap.exists_other_of_countP (hlast hadmin) key
        exact ⟨id, t, by rw [TokenMap.get?_erase_of_ne hne, hid], ht⟩
    | keep => exact ih (by omega) hflag

end Traced

namespace Session

/-- There is no token, and the master key may do everything. -/
structure MasterAdministers (access : Access) (s : Session) : Prop where
  state : Bootstrap.of s.vault.registry = .unconfigured
  noToken : s.vault.registry.list = []
  nextId : s.vault.registry.nextId = 0
  passes : s.vault.perform access (.requireAdmin .master) = (.ok (.passed .master), s.vault)
  allowed : ∀ d, Decision.check .master (Bootstrap.of s.vault.registry) d = .allow

/-- Some stored token administers and its secret is recognised, and the master key may do
nothing. -/
structure TokensAdminister (access : Access) (s : Session) : Prop where
  state : Bootstrap.of s.vault.registry = .configured
  administrator : ∃ i ∈ Event.issues s.history,
    i.issued.token ∈ s.vault.registry.list ∧ i.issued.token.isAdmin ∧
    s.vault.perform access (.authenticate (some i.issued.secret)) =
      (.ok (.recognised (.token i.issued.token)), s.vault) ∧
    s.vault.perform access (.requireAdmin (.token i.issued.token)) =
      (.ok (.passed (.token i.issued.token)), s.vault)
  refused : ∀ c, c.caller? = some .master →
    s.vault.perform access c = (.error (.denied .masterKeyLocked), s.vault)
  denied : ∀ d,
    Decision.check .master (Bootstrap.of s.vault.registry) d = .deny .masterKeyLocked

variable {s : Session}

theorem Reached.masterAdministers {access : Access} (h : s.Reached access)
    (hnone : Event.issues s.history = []) : s.MasterAdministers access := by
  obtain ⟨hnext, hflag, hempty⟩ := h.traced.1.of_issues_eq_nil hnone
  have hstate : Bootstrap.of s.vault.registry = .unconfigured := by simp [Bootstrap.of, hflag]
  refine ⟨hstate, ?_, hnext, ?_, fun d => by rw [hstate]; rfl⟩
  · refine List.eq_nil_iff_forall_not_mem.2 fun t ht => ?_
    obtain ⟨id, hid⟩ := Registry.mem_list.1 ht
    simp [hempty] at hid
  · simp [Vault.perform, Admin.authorize, Identity.refresh, Identity.requireAdmin, hstate,
      Except.map]

theorem Reached.tokensAdminister {hasher : Hasher} {masterKey : String}
    (h : s.Reached (.ofMasterKey hasher masterKey))
    (hkeys : DistinctKeys hasher masterKey s.history)
    (hsize : (Event.issues s.history).length < UInt64.size)
    (hsome : Event.issues s.history ≠ []) :
    s.TokensAdminister (.ofMasterKey hasher masterKey) := by
  have traced := h.traced.1
  have hflag := traced.adminEverCreated_of_issues hsome
  have hstate := Bootstrap.of_eq_configured.2 hflag
  refine ⟨hstate, ?_, fun c hc => Vault.perform_master hflag hc, fun d => by rw [hstate]; rfl⟩
  obtain ⟨id, t, hget, hadmin⟩ := traced.exists_admin hsize hflag
  obtain ⟨i, hi, hstanding, rfl, -⟩ := traced.exists_issue hget
  have hid := (Event.mem_of_standing hstanding).2
  refine ⟨i, hi, Registry.mem_list.2 ⟨id, hget⟩, hadmin, ?_, ?_⟩
  · simp [Vault.perform, traced.resolve_of_standing hkeys hstanding, Except.map]
  · simp [Vault.perform, Admin.authorize, Identity.refresh, Identity.requireAdmin, hid, hget,
      hadmin, Except.map]

/-- Administration is never lost and never doubled. -/
theorem Reached.administration {hasher : Hasher} {masterKey : String}
    (h : s.Reached (.ofMasterKey hasher masterKey))
    (hkeys : DistinctKeys hasher masterKey s.history)
    (hsize : (Event.issues s.history).length < UInt64.size) :
    (s.MasterAdministers (.ofMasterKey hasher masterKey) ∨
        s.TokensAdminister (.ofMasterKey hasher masterKey)) ∧
      ¬ (s.MasterAdministers (.ofMasterKey hasher masterKey) ∧
        s.TokensAdminister (.ofMasterKey hasher masterKey)) := by
  constructor
  · by_cases hnone : Event.issues s.history = []
    · exact .inl (h.masterAdministers hnone)
    · exact .inr (h.tokensAdminister hkeys hsize hnone)
  · rintro ⟨hmaster, htokens⟩
    have hstate := hmaster.state.symm.trans htokens.state
    cases hstate

theorem administration_sample :
    (sample.MasterAdministers .sample ∨ sample.TokensAdminister .sample) ∧
      ¬ (sample.MasterAdministers .sample ∧ sample.TokensAdminister .sample) :=
  reached_sample.administration distinctKeys_sample (by decide)

end Session

end ZoneGate
