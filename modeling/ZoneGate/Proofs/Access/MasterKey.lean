import Mathlib.Data.List.TakeWhile
import ZoneGate.Proofs.Gateway.Effects
import ZoneGate.Proofs.Session.Bootstrap
import ZoneGate.Proofs.Session.Outcomes

/-!
# The configured master key

A credential is trimmed before it is compared with the master key, and the key is not. So the key
of a configuration is recognised if there are no blanks around it, and then it makes the first
administrator; of a key with blanks around it nothing is recognised but what happens to share its
digest.
-/
namespace ZoneGate

namespace Text

lemma trimList_eq_nil_iff {cs : List Char} : trimList cs = [] ↔ ∀ c ∈ cs, isBlank c = true := by
  rw [trimList, List.reverse_eq_nil_iff, List.dropWhile_eq_nil_iff]
  constructor
  · intro h
    rw [← List.dropWhile_eq_nil_iff]
    -- what is left would begin with a character that is not blank
    by_contra hne
    have hhead := List.head_dropWhile_not isBlank hne
    rw [h _ (List.mem_reverse.2 (List.head_mem hne))] at hhead
    cases hhead
  · intro h c hc
    exact h c ((List.dropWhile_sublist _).subset (List.mem_reverse.1 hc))

/-- Nothing is left of a text exactly if all of it is blank. -/
theorem isEmpty_trim (s : String) : (trim s).isEmpty = allBlank s := by
  rw [Bool.eq_iff_iff, allBlank, List.all_eq_true, ← trimList_eq_nil_iff, trim]
  simp

end Text

namespace Config

/-- A configuration that was checked, by itself or as it was read. -/
inductive Usable (c : Config) : Prop
  | validated (valid : c.validate = .ok ())
  | loaded {content : Except FileError (List UInt8)} {environment : Option String}
      (loaded : load content environment = .ok c)

variable {c : Config}

lemma validate_of_load {content : Except FileError (List UInt8)} {environment : Option String}
    (h : load content environment = .ok c) : c.validate = .ok () := by
  unfold load at h
  split at h
  · cases h
  · cases h
  · split at h
    · cases h
    · rename_i read _
      rcases hvalid : (read.withEnvironment environment).validate with e | u
      · simp [hvalid, Except.map] at h
      · simp only [hvalid, Except.map, Except.ok.injEq] at h
        rw [← h, hvalid]

lemma Usable.allBlank_masterKey (h : c.Usable) : Text.allBlank c.masterKey = false := by
  have hvalid : c.validate = .ok () := by
    cases h with
    | validated valid => exact valid
    | loaded loaded => exact validate_of_load loaded
  cases hblank : Text.allBlank c.masterKey
  · rfl
  · simp [validate, fault?, hblank] at hvalid

end Config

namespace Access

/-- What is recognised as the master key: all that has its digest, trimmed. -/
theorem resolve_eq_master_iff {hasher : Hasher} {masterKey credential : String} {r : Registry} :
    (ofMasterKey hasher masterKey).resolve r (some credential) = .ok .master ↔
      Text.allBlank credential = false ∧
        hasher.digest (Text.trim credential) = hasher.digest masterKey := by
  simp only [resolve, Option.getD_some, Text.isEmpty_trim]
  cases Text.allBlank credential
  · by_cases hdigest : hasher.digest (Text.trim credential) = hasher.digest masterKey
    · simp [isMasterKey, ofMasterKey, hdigest]
    · simp only [isMasterKey, ofMasterKey, hdigest, Bool.false_eq_true, if_false, decide_false,
        and_false, iff_false]
      split <;> simp
  · simp

end Access

namespace Gateway

/-- How a gateway receives the master key of its configuration. -/
structure KnowsMaster (g : Gateway) (c : Config) : Prop where
  /-- What is recognised as the key is what has its digest once it is trimmed. -/
  resolve_iff : ∀ (r : Registry) (credential : String),
    g.access.resolve r (some credential) = .ok .master ↔
      Text.allBlank credential = false ∧
        c.hasher.digest (Text.trim credential) = c.hasher.digest c.masterKey
  /-- The key itself is recognised, whatever is stored, unless it has blanks around it. -/
  resolve : Text.trim c.masterKey = c.masterKey →
    ∀ r : Registry, g.access.resolve r (some c.masterKey) = .ok .master
  /-- Then it makes the first administrator, if the disk does not fail. -/
  first : Text.trim c.masterKey = c.masterKey → g.vault.registry.adminEverCreated = false →
    ∀ (m : Moment) (provider : Provider) (r : Http.Request) (grant : Grant) (t : NewToken),
      r.method = .post → r.target.path = "/admin/api/tokens" →
      credential r.headers = .ok (some c.masterKey) → r.body.length ≤ c.maxBodyBytes.toNat →
      Grant.format.parse r.body = .ok grant → grant.validate = .ok t → grant.isAdmin = true →
      let made := grant.token g.vault.registry t.permissions (c.hasher.digest m.secret) m.now
      g.vault.saveError? m.fault (g.vault.registry.adding made) = none →
        (g.handle m provider r).response.status = 201 ∧
          (g.handle m provider r).gateway.vault.registry = g.vault.registry.adding made ∧
          Bootstrap.of (g.handle m provider r).gateway.vault.registry = .configured

/-- The master key makes an administrator where there was none. -/
lemma perform_first {g : Gateway} (m : Moment) (provider : Provider) {r : Http.Request}
    {grant : Grant} {t : NewToken} (hknown : g.authenticate r = .ok .master)
    (hunmade : g.vault.registry.adminEverCreated = false) (hmethod : r.method = .post)
    (hpath : r.target.path = "/admin/api/tokens") (hfits : r.body.length ≤ g.maxBodyBytes.toNat)
    (hgrant : Grant.format.parse r.body = .ok grant) (hvalid : grant.validate = .ok t)
    (hadmin : grant.isAdmin = true)
    (hsaved : g.vault.saveError? m.fault (g.vault.registry.adding (grant.token g.vault.registry
      t.permissions (g.access.hasher.digest m.secret) m.now)) = none) :
    (g.perform m provider r r.task).reply.status = 201 ∧
      (g.perform m provider r r.task).gateway.vault.registry = g.vault.registry.adding
        (grant.token g.vault.registry t.permissions (g.access.hasher.digest m.secret) m.now) := by
  have htask := Task.eq_createToken_iff.2 ⟨hmethod, hpath⟩
  have houtcome : Admin.Creates g.access.hasher g.vault .master grant m.secret m.now m.fault _ _ :=
    .made (.master hunmade) (.inr hadmin) hvalid hsaved
  obtain ⟨v, hcreate, hregistry⟩ := houtcome.create_eq
  simp only [htask, perform, withBody_of_fits _ hfits, createToken, hknown, hgrant, hcreate]
  exact ⟨rfl, hregistry⟩

/-- Whatever configuration was checked, a gateway that serves it knows its master key. -/
theorem knowsMaster {c : Config} (h : c.Usable) (vault : Vault) (filter : Log.Filter) :
    (ofConfig c vault filter).KnowsMaster c := by
  have hresolve (hbare : Text.trim c.masterKey = c.masterKey) (r : Registry) :
      (ofConfig c vault filter).access.resolve r (some c.masterKey) = .ok .master :=
    Access.resolve_eq_master_iff.2 ⟨h.allBlank_masterKey, by rw [hbare]⟩
  refine ⟨fun r credential => Access.resolve_eq_master_iff, hresolve, ?_⟩
  intro hbare hunmade m provider r grant t hmethod hpath hkey hfits hgrant hvalid hadmin made hsaved
  have hknown : (ofConfig c vault filter).authenticate r = .ok .master := by
    simp only [authenticate_eq, hkey]
    exact hresolve hbare _
  obtain ⟨hstatus, hregistry⟩ := perform_first m provider hknown hunmade hmethod hpath hfits
    hgrant hvalid hadmin hsaved
  refine ⟨hstatus, hregistry, Bootstrap.of_eq_configured.2 ?_⟩
  refine (congrArg Registry.adminEverCreated hregistry).trans ?_
  simp [Registry.adding, Grant.token, hadmin]

end Gateway

/-- A configuration with a given master key. -/
def Config.sample (masterKey : String) : Config :=
  { Config.blank with masterKey, hashKey := "hash key" }

lemma Config.validate_sample {masterKey : String} (h : Text.allBlank masterKey = false) :
    (Config.sample masterKey).validate = .ok () := by
  have hhash : Text.allBlank "hash key" = false := by decide
  have hurl : Text.startsWith "https://" "https://api.bunny.net" = true := by decide
  simp [validate, fault?, sample, blank, h, hhash, hurl]

namespace Gateway

/-- Blanks within a key do no harm. -/
theorem knowsMaster_sample :
    (ofConfig (.sample "master key") .inMemory (.ofLevel .info)).access.resolve .empty
      (some "master key") = .ok .master :=
  (knowsMaster (.validated (Config.validate_sample (by decide))) .inMemory (.ofLevel .info)).resolve
    (by decide +kernel) .empty

/-- With blanks around it a key is not recognised by itself, though its configuration is checked
without complaint. -/
theorem spaced_unrecognised :
    let c := Config.sample " key "
    c.validate = .ok () ∧
      (ofConfig c .inMemory (.ofLevel .info)).access.resolve .empty (some c.masterKey) =
        .error (.unknownKey (Secret.mask "key")) := by
  intro c
  have htrim : Text.trim c.masterKey = "key" := by decide +kernel
  have hdigest : c.hasher.digest "key" ≠ c.hasher.digest c.masterKey := by decide +kernel
  have hnot : (ofConfig c .inMemory (.ofLevel .info)).access.isMasterKey "key" = false :=
    decide_eq_false hdigest
  refine ⟨Config.validate_sample (by decide), ?_⟩
  simp only [Access.resolve, Option.getD_some, htrim, hnot]
  rfl

end Gateway

end ZoneGate
