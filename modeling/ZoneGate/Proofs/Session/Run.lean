import Mathlib.Tactic.Lemma
import ZoneGate.Admin
import ZoneGate.Proofs.Vault.Written

/-!
# Runs of calls

Callers are recognised in one call and act in a later one, in any order and any number of them,
while the disk may fail and the file may be opened anew. A call names its caller by an identity,
which may be one that was recognised long ago or even one that never was. A session is the vault
after a run of calls together with what every call came to.
-/
namespace ZoneGate

/-- A call on the service. -/
inductive Call where
  | authenticate (credential : Option String)
  | create (caller : Identity) (grant : Grant) (seed : Vector UInt8 Secret.size) (now : Timestamp)
      (fault : Option Directory.Fault)
  | delete (caller : Identity) (id : TokenId) (fault : Option Directory.Fault)
  | requireAdmin (caller : Identity)
  | reopen (fault : Option Directory.Fault)

namespace Call

/-- The identity that a call acts for, if it acts for one. -/
def caller? : Call → Option Identity
  | create caller _ _ _ _ => some caller
  | delete caller _ _ => some caller
  | requireAdmin caller => some caller
  | authenticate _ => none
  | reopen _ => none

/-- The same call for another caller, where a call acts for one. -/
def withCaller (caller : Identity) : Call → Call
  | create _ grant seed now fault => create caller grant seed now fault
  | delete _ id fault => delete caller id fault
  | requireAdmin _ => requireAdmin caller
  | authenticate credential => authenticate credential
  | reopen fault => reopen fault

end Call

/-- What a call that succeeds comes to. -/
inductive Answer where
  | recognised (caller : Identity)
  | issued (issued : Issued)
  | revoked (revoked : Revoked)
  | passed (caller : Identity)
  | reopened

/-- A call with what it came to. -/
structure Event where
  call : Call
  result : Except Error Answer

/-- A token that was made, with the call that asked for it. -/
structure Issue where
  caller : Identity
  grant : Grant
  issued : Issued

namespace Event

def issue? : Event → Option Issue
  | ⟨.create caller grant _ _ _, .ok (.issued issued)⟩ => some ⟨caller, grant, issued⟩
  | _ => none

def revoked? : Event → Option Revoked
  | ⟨.delete _ _ _, .ok (.revoked revoked)⟩ => some revoked
  | _ => none

/-- The tokens that were made in a history, in the order in which they were made. -/
def issues (history : List Event) : List Issue := history.filterMap issue?

end Event

namespace Vault

/-- Answers a call. A vault without a file has nothing to open anew. -/
def perform (access : Access) (v : Vault) : Call → Except Error Answer × Vault
  | .authenticate credential => ((access.resolve v.registry credential).map .recognised, v)
  | .create caller grant seed now fault =>
    let done := Admin.create access.hasher v caller grant (Secret.ofRandom seed.toList) now fault
    (done.1.map .issued, done.2)
  | .delete caller id fault =>
    let done := Admin.delete v caller id fault
    (done.1.map .revoked, done.2)
  | .requireAdmin caller => ((Admin.authorize v.registry caller).map .passed, v)
  | .reopen fault =>
    match v.file with
    | none => (.ok .reopened, v)
    | some f =>
      let done := v.reload f fault
      (done.1.map fun _ => .reopened, done.2)

end Vault

/-- The keys of a small service. -/
abbrev Access.sample : Access := .ofMasterKey (.ofKey "hash key") "master key"

structure Session where
  vault : Vault
  /-- The latest event is the last one. -/
  history : List Event

namespace Session

def step (access : Access) (s : Session) (c : Call) : Session :=
  let done := s.vault.perform access c
  ⟨done.2, s.history ++ [⟨c, done.1⟩]⟩

def run (access : Access) (s : Session) (calls : List Call) : Session :=
  calls.foldl (step access) s

/-- The sessions that calls lead to from a vault in which nothing has been kept yet. -/
inductive Reached (access : Access) : Session → Prop
  | start {v : Vault} (fresh : v.Fresh) : Reached access ⟨v, []⟩
  | step {s : Session} (reached : Reached access s) (c : Call) : Reached access (s.step access c)

theorem Reached.run {access : Access} {s : Session} (h : s.Reached access) (calls : List Call) :
    (s.run access calls).Reached access := by
  unfold Session.run
  induction calls generalizing s with
  | nil => exact h
  | cons c calls ih => exact ih (h.step c)

/-- A short run: the master key makes an administrator, which makes a token for one zone. -/
def sample : Session :=
  run .sample ⟨.inMemory, []⟩
    [.create .master ⟨"ops", true, [], [], []⟩ (Vector.replicate _ 1) default none,
     .create (.token ⟨1, "ops", true, default, [], default⟩)
      ⟨"dns", false, [⟨7, by decide⟩], [.listRecords], [.a]⟩ (Vector.replicate _ 2) default none]

theorem reached_sample : sample.Reached .sample := (Reached.start .inMemory).run _

end Session

/-! ## What a call does -/

namespace Admin

theorem authorize_ok {r : Registry} {caller current : Identity}
    (h : authorize r caller = .ok current) :
    (caller = .master ∧ current = .master ∧ r.adminEverCreated = false) ∨
      ∃ t stored, caller = .token t ∧ current = .token stored ∧
        r.tokens.get? t.id = some stored ∧ stored.isAdmin := by
  unfold authorize at h
  cases caller with
  | master =>
    cases hflag : r.adminEverCreated
    · have hcurrent : Identity.master = current := by
        simpa [Identity.refresh, Identity.requireAdmin, Bootstrap.of, hflag] using h
      exact .inl ⟨rfl, hcurrent.symm, rfl⟩
    · simp [Identity.refresh, Identity.requireAdmin, Bootstrap.of, hflag] at h
  | token t =>
    rcases hget : r.tokens.get? t.id with _ | stored
    · simp [Identity.refresh, hget] at h
    · cases hadmin : stored.isAdmin
      · simp [Identity.refresh, Identity.requireAdmin, hget, hadmin] at h
      · have hcurrent : Identity.token stored = current := by
          simpa [Identity.refresh, Identity.requireAdmin, hget, hadmin] using h
        exact .inr ⟨t, stored, rfl, hcurrent.symm, hget, hadmin⟩

/-- The master key is locked out of everything once an administrator was made. -/
theorem authorize_master {r : Registry} (h : r.adminEverCreated = true) :
    authorize r .master = .error (.denied .masterKeyLocked) := by
  simp [authorize, Identity.refresh, Identity.requireAdmin, Bootstrap.of, h]

theorem approve_ok {r : Registry} {caller current : Identity} {g : Grant} {t : NewToken}
    (h : approve r caller g = .ok (current, t)) :
    authorize r caller = .ok current ∧ g.validate = .ok t ∧
      (r.adminEverCreated = false → g.isAdmin) := by
  unfold approve at h
  rcases hauthorize : authorize r caller with e | found
  · simp [hauthorize] at h
  simp only [hauthorize] at h
  split at h
  · simp at h
  rename_i hbootstrap
  rcases hvalidate : g.validate with fault | t'
  · simp [hvalidate] at h
  simp only [hvalidate, Except.ok.injEq, Prod.mk.injEq] at h
  obtain ⟨rfl, rfl⟩ := h
  refine ⟨rfl, rfl, fun hflag => ?_⟩
  simpa [Bootstrap.of, hflag] using hbootstrap

theorem create_ok {hasher : Hasher} {v v' : Vault} {caller : Identity} {g : Grant}
    {secret : String} {now : Timestamp} {fault : Option Directory.Fault} {issued : Issued}
    (h : create hasher v caller g secret now fault = (.ok issued, v')) :
    ∃ current t, approve v.registry caller g = .ok (current, t) ∧ issued.secret = secret ∧
      v.registry.create t (hasher.digest secret) now = (issued.token, v'.registry) ∧
      v'.Synced := by
  unfold create at h
  split at h
  · simp at h
  rename_i current t happrove
  split at h
  · simp at h
  rename_i hcreate
  obtain ⟨hissued, rfl⟩ := Prod.mk.inj h
  obtain ⟨hregistry, hsynced⟩ := Vault.create_ok hcreate
  rw [← Except.ok.inj hissued]
  exact ⟨current, t, happrove, rfl, hregistry, hsynced⟩

theorem create_error {hasher : Hasher} {v v' : Vault} {caller : Identity} {g : Grant}
    {secret : String} {now : Timestamp} {fault : Option Directory.Fault} {e : Error}
    (h : create hasher v caller g secret now fault = (.error e, v')) :
    v'.registry = v.registry ∧ v'.content? = v.content? := by
  unfold create at h
  split at h
  · obtain ⟨-, rfl⟩ := Prod.mk.inj h
    exact ⟨rfl, rfl⟩
  split at h
  · rename_i hcreate
    obtain ⟨-, rfl⟩ := Prod.mk.inj h
    exact Vault.create_error hcreate
  · simp at h

theorem delete_ok {v v' : Vault} {caller : Identity} {id : TokenId}
    {fault : Option Directory.Fault} {revoked : Revoked}
    (h : delete v caller id fault = (.ok revoked, v')) :
    ∃ current, authorize v.registry caller = .ok current ∧
      v.registry.delete id = .ok (revoked.token, v'.registry) ∧ v'.Synced := by
  unfold delete at h
  split at h
  · simp at h
  rename_i current hauthorize
  split at h
  · simp at h
  rename_i hdelete
  obtain ⟨hrevoked, rfl⟩ := Prod.mk.inj h
  obtain ⟨hregistry, hsynced⟩ := Vault.delete_ok hdelete
  rw [← Except.ok.inj hrevoked]
  exact ⟨current, hauthorize, hregistry, hsynced⟩

theorem delete_error {v v' : Vault} {caller : Identity} {id : TokenId}
    {fault : Option Directory.Fault} {e : Error}
    (h : delete v caller id fault = (.error e, v')) :
    v'.registry = v.registry ∧ v'.content? = v.content? := by
  unfold delete at h
  split at h
  · obtain ⟨-, rfl⟩ := Prod.mk.inj h
    exact ⟨rfl, rfl⟩
  split at h
  · rename_i hdelete
    obtain ⟨-, rfl⟩ := Prod.mk.inj h
    exact Vault.delete_error hdelete
  · simp at h

end Admin

/-- A call whose caller is refused does nothing. -/
theorem Vault.perform_refused {access : Access} {v : Vault} {c : Call} {caller : Identity}
    {e : Error} (hc : c.caller? = some caller)
    (h : Admin.authorize v.registry caller = .error e) : v.perform access c = (.error e, v) := by
  cases c with
  | authenticate => cases hc
  | create _ g seed now fault =>
    cases hc
    simp [Vault.perform, Admin.create, Admin.approve, h, Except.map]
  | delete _ id fault =>
    cases hc
    simp [Vault.perform, Admin.delete, h, Except.map]
  | requireAdmin _ =>
    cases hc
    simp [Vault.perform, h, Except.map]
  | reopen => cases hc

/-- Of a caller only what is stored of it matters. -/
theorem Vault.perform_withCaller {access : Access} {v : Vault} {caller other : Identity}
    (h : caller.refresh v.registry = other.refresh v.registry) (c : Call) :
    v.perform access (c.withCaller caller) = v.perform access (c.withCaller other) := by
  have hauthorize : Admin.authorize v.registry caller = Admin.authorize v.registry other := by
    simp only [Admin.authorize, h]
  cases c with
  | authenticate => rfl
  | create _ g seed now fault =>
    simp only [Call.withCaller, Vault.perform, Admin.create, Admin.approve, hauthorize]
  | delete _ id fault => simp only [Call.withCaller, Vault.perform, Admin.delete, hauthorize]
  | requireAdmin _ => simp only [Call.withCaller, Vault.perform, hauthorize]
  | reopen => rfl

/-- What a call does to the registry: it makes a token, deletes one, or changes nothing. -/
inductive Effect (access : Access) (r : Registry) : Event → Registry → Prop
  | issue {caller current : Identity} {g : Grant} {seed : Vector UInt8 Secret.size}
      {now : Timestamp} {fault : Option Directory.Fault} {issued : Issued} {t : NewToken}
      {r' : Registry} (approved : Admin.approve r caller g = .ok (current, t))
      (secret : issued.secret = Secret.ofRandom seed.toList)
      (created : r.create t (access.hasher.digest issued.secret) now = (issued.token, r')) :
      Effect access r ⟨.create caller g seed now fault, .ok (.issued issued)⟩ r'
  | revoke {caller current : Identity} {id : TokenId} {fault : Option Directory.Fault}
      {revoked : Revoked} {r' : Registry} (authorized : Admin.authorize r caller = .ok current)
      (deleted : r.delete id = .ok (revoked.token, r')) :
      Effect access r ⟨.delete caller id fault, .ok (.revoked revoked)⟩ r'
  | keep {e : Event} (noIssue : e.issue? = none) (noneRevoked : e.revoked? = none) :
      Effect access r e r

/-- What a call makes of a vault: it leaves the registry and the content of the file alone, or
writes the new registry to the file. -/
def Vault.Leads (v v' : Vault) : Prop :=
  (v'.registry = v.registry ∧ v'.content? = v.content?) ∨ v'.Synced

namespace Vault

variable {v v' : Vault}

lemma Leads.refl (v : Vault) : v.Leads v := .inl ⟨rfl, rfl⟩

theorem Leads.synced (h : v.Leads v') (hv : v.Synced) : v'.Synced :=
  h.elim (fun hsame => hv.of_eq hsame.1 hsame.2) id

theorem Leads.faithful (h : v.Leads v') (hv : v.Faithful) : v'.Faithful :=
  h.elim (fun hsame => hv.of_eq hsame.1 hsame.2) Synced.faithful

/-- Calls have no other effects, and the file follows the registry. -/
theorem perform_effect (access : Access) (hv : v.Faithful) (c : Call) :
    Effect access v.registry ⟨c, (v.perform access c).1⟩ (v.perform access c).2.registry ∧
      v.Leads (v.perform access c).2 := by
  cases c with
  | authenticate credential => exact ⟨.keep rfl rfl, .refl v⟩
  | create caller g seed now fault =>
    rcases hdone : Admin.create access.hasher v caller g (Secret.ofRandom seed.toList) now fault
      with ⟨e | issued, v'⟩
    · have hsame := Admin.create_error hdone
      simp only [perform, hdone, Except.map, hsame.1]
      exact ⟨.keep rfl rfl, .inl hsame⟩
    · obtain ⟨current, t, happrove, hsecret, hcreate, hsynced⟩ := Admin.create_ok hdone
      simp only [perform, hdone, Except.map]
      exact ⟨.issue happrove hsecret (hsecret ▸ hcreate), .inr hsynced⟩
  | delete caller id fault =>
    rcases hdone : Admin.delete v caller id fault with ⟨e | revoked, v'⟩
    · have hsame := Admin.delete_error hdone
      simp only [perform, hdone, Except.map, hsame.1]
      exact ⟨.keep rfl rfl, .inl hsame⟩
    · obtain ⟨current, hauthorize, hdelete, hsynced⟩ := Admin.delete_ok hdone
      simp only [perform, hdone, Except.map]
      exact ⟨.revoke hauthorize hdelete, .inr hsynced⟩
  | requireAdmin caller => exact ⟨.keep rfl rfl, .refl v⟩
  | reopen fault =>
    rcases hfile : v.file with _ | f
    · simp only [perform, hfile]
      exact ⟨.keep rfl rfl, .refl v⟩
    · simp only [perform, hfile, hv.reload hfile]
      exact ⟨.keep rfl rfl, .refl v⟩

end Vault

/-- The registries that effects lead to, with the history of what happened. -/
inductive Traced (access : Access) : Registry → List Event → Prop
  | start : Traced access .empty []
  | step {r r' : Registry} {history : List Event} {e : Event} (traced : Traced access r history)
      (effect : Effect access r e r') : Traced access r' (history ++ [e])

/-- A run is a sequence of effects on the registry, whatever the disk does meanwhile. -/
theorem Session.Reached.traced {access : Access} {s : Session} (h : s.Reached access) :
    Traced access s.vault.registry s.history ∧ s.vault.Synced := by
  induction h with
  | start fresh =>
    obtain ⟨hregistry, hsynced⟩ := fresh.registry_synced
    exact ⟨hregistry ▸ .start, hsynced⟩
  | step _ c ih =>
    obtain ⟨htraced, hsynced⟩ := ih
    obtain ⟨heffect, hafter⟩ := Vault.perform_effect access hsynced.faithful c
    exact ⟨htraced.step heffect, hafter.synced hsynced⟩

end ZoneGate
