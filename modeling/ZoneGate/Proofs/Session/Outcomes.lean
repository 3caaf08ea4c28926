import ZoneGate.Proofs.Access.Grants
import ZoneGate.Proofs.Session.Run
import ZoneGate.Proofs.Vault.Mirror

/-!
# How managing tokens comes out

Making and deleting a token can each come out in a few ways only. Which one it is follows from what
is stored and what is asked for, looked at in a fixed order: the caller, the request, and the disk.
Whatever does not succeed leaves everything as it was, and what succeeds changes one token.
-/
namespace ZoneGate

/-! ## Who may ask -/

namespace Registry

/-- How a caller is refused by what is stored now. -/
inductive Refuses (r : Registry) : Identity → Error → Prop
  | revoked {t : Token} (missing : r.tokens.get? t.id = none) :
      Refuses r (.token t) .revokedCaller
  | locked (made : r.adminEverCreated = true) : Refuses r .master (.denied .masterKeyLocked)
  | forbidden {t stored : Token} (found : r.tokens.get? t.id = some stored)
      (noAdmin : stored.isAdmin = false) : Refuses r (.token t) (.denied .forbidden)

/-- As whom a caller administers by what is stored now. -/
inductive Accepts (r : Registry) : Identity → Identity → Prop
  | master (unmade : r.adminEverCreated = false) : Accepts r .master .master
  | admin {t stored : Token} (found : r.tokens.get? t.id = some stored)
      (admin : stored.isAdmin = true) : Accepts r (.token t) (.token stored)

theorem exists_refuses_or_accepts (r : Registry) (caller : Identity) :
    (∃ e, r.Refuses caller e) ∨ ∃ current, r.Accepts caller current := by
  cases caller with
  | master =>
    cases hflag : r.adminEverCreated
    · exact .inr ⟨_, .master hflag⟩
    · exact .inl ⟨_, .locked hflag⟩
  | token t =>
    rcases hget : r.tokens.get? t.id with _ | stored
    · exact .inl ⟨_, .revoked hget⟩
    cases hadmin : stored.isAdmin
    · exact .inl ⟨_, .forbidden hget hadmin⟩
    · exact .inr ⟨_, .admin hget hadmin⟩

end Registry

namespace Admin

variable {r : Registry} {caller current : Identity} {e : Error}

lemma decide_unconfigured (r : Registry) :
    decide (Bootstrap.of r = .unconfigured) = !r.adminEverCreated := by
  unfold Bootstrap.of
  cases r.adminEverCreated <;> rfl

theorem authorize_of_refuses (h : r.Refuses caller e) : authorize r caller = .error e := by
  cases h with
  | revoked missing => simp [authorize, Identity.refresh, missing]
  | locked made => exact authorize_master made
  | forbidden found noAdmin =>
    simp [authorize, Identity.refresh, Identity.requireAdmin, found, noAdmin]

theorem authorize_of_accepts (h : r.Accepts caller current) :
    authorize r caller = .ok current := by
  cases h with
  | master unmade => simp [authorize, Identity.refresh, Identity.requireAdmin, Bootstrap.of, unmade]
  | admin found admin => simp [authorize, Identity.refresh, Identity.requireAdmin, found, admin]

end Admin

/-! ## Making a token -/

/-- Before there is an administrator only one can be asked for. -/
def Grant.Timely (g : Grant) (r : Registry) : Prop := r.adminEverCreated = true ∨ g.isAdmin = true

/-- The token that a grant is worth as the next one of a registry. -/
def Grant.token (g : Grant) (r : Registry) (permissions : List Permission) (digest : Digest)
    (now : Timestamp) : Token :=
  ⟨r.nextId + 1, Text.trim g.name, g.isAdmin, now, permissions, digest⟩

lemma Grant.create_eq {g : Grant} {t : NewToken} (h : g.validate = .ok t) (r : Registry)
    (digest : Digest) (now : Timestamp) :
    r.create t digest now =
      (g.token r t.permissions digest now, r.adding (g.token r t.permissions digest now)) := by
  simp only [Registry.create, Grant.token, Registry.adding, Grant.name_of_validate h,
    (Grant.validate_ok h).1]

namespace Admin

/-- How making a token for a grant comes out, with the registry that is served then. -/
inductive Creates (hasher : Hasher) (v : Vault) (caller : Identity) (g : Grant) (secret : String)
    (now : Timestamp) (fault : Option Directory.Fault) : Except Error Issued → Registry → Prop
  | refused {e : Error} (refused : v.registry.Refuses caller e) :
      Creates hasher v caller g secret now fault (.error e) v.registry
  | noAdminYet {current : Identity} (accepted : v.registry.Accepts caller current)
      (early : ¬ g.Timely v.registry) :
      Creates hasher v caller g secret now fault (.error .noAdminYet) v.registry
  | invalid {current : Identity} {rule : Grant.Fault}
      (accepted : v.registry.Accepts caller current) (timely : g.Timely v.registry)
      (broken : g.validate = .error rule) :
      Creates hasher v caller g secret now fault (.error (.invalidGrant rule)) v.registry
  | unwritten {current : Identity} {t : NewToken} {e : FileError}
      (accepted : v.registry.Accepts caller current) (timely : g.Timely v.registry)
      (valid : g.validate = .ok t)
      (unwritten : v.saveError? fault (v.registry.adding
        (g.token v.registry t.permissions (hasher.digest secret) now)) = some e) :
      Creates hasher v caller g secret now fault (.error (.file e)) v.registry
  | made {current : Identity} {t : NewToken} (accepted : v.registry.Accepts caller current)
      (timely : g.Timely v.registry) (valid : g.validate = .ok t)
      (written : v.saveError? fault (v.registry.adding
        (g.token v.registry t.permissions (hasher.digest secret) now)) = none) :
      Creates hasher v caller g secret now fault
        (.ok ⟨g.token v.registry t.permissions (hasher.digest secret) now, secret, current,
          !v.registry.adminEverCreated⟩)
        (v.registry.adding (g.token v.registry t.permissions (hasher.digest secret) now))

section

variable {hasher : Hasher} {v : Vault} {caller current : Identity} {g : Grant} {secret : String}
  {now : Timestamp} {fault : Option Directory.Fault}

lemma approve_of_refuses {r : Registry} {e : Error} (h : r.Refuses caller e) (g : Grant) :
    approve r caller g = .error e := by
  simp only [approve, authorize_of_refuses h]

lemma approve_of_early {r : Registry} (h : r.Accepts caller current) (hearly : ¬ g.Timely r) :
    approve r caller g = .error .noAdminYet := by
  simp only [approve, authorize_of_accepts h, decide_unconfigured]
  rw [if_pos (by simpa [Grant.Timely] using hearly)]

lemma approve_of_timely {r : Registry} (h : r.Accepts caller current) (htimely : g.Timely r) :
    approve r caller g =
      match g.validate with
      | .error rule => .error (.invalidGrant rule)
      | .ok t => .ok (current, t) := by
  have hlate : ¬ (!r.adminEverCreated && !g.isAdmin) = true := by
    simpa [Grant.Timely, or_iff_not_imp_left] using htimely
  simp only [approve, authorize_of_accepts h, decide_unconfigured]
  cases g.validate <;> exact if_neg hlate

namespace Creates

theorem exists_outcome (hasher : Hasher) (v : Vault) (caller : Identity) (g : Grant)
    (secret : String) (now : Timestamp) (fault : Option Directory.Fault) :
    ∃ result r', Creates hasher v caller g secret now fault result r' := by
  rcases v.registry.exists_refuses_or_accepts caller with ⟨e, hrefused⟩ | ⟨current, haccepted⟩
  · exact ⟨_, _, .refused hrefused⟩
  by_cases htimely : g.Timely v.registry
  swap
  · exact ⟨_, _, .noAdminYet haccepted htimely⟩
  rcases hvalidate : g.validate with rule | t
  · exact ⟨_, _, .invalid haccepted htimely hvalidate⟩
  rcases hsave : v.saveError? fault (v.registry.adding
    (g.token v.registry t.permissions (hasher.digest secret) now)) with _ | e
  · exact ⟨_, _, .made haccepted htimely hvalidate hsave⟩
  · exact ⟨_, _, .unwritten haccepted htimely hvalidate hsave⟩

/-- An outcome that fits is the one that comes. -/
theorem create_eq {result : Except Error Issued} {r' : Registry}
    (h : Creates hasher v caller g secret now fault result r') :
    ∃ v', create hasher v caller g secret now fault = (result, v') ∧ v'.registry = r' := by
  cases h with
  | refused refused =>
    exact ⟨v, by simp only [create, approve_of_refuses refused], rfl⟩
  | noAdminYet accepted early =>
    exact ⟨v, by simp only [create, approve_of_early accepted early], rfl⟩
  | invalid accepted timely broken =>
    refine ⟨v, ?_, rfl⟩
    simp only [create, approve_of_timely accepted timely, broken]
  | unwritten accepted timely valid unwritten =>
    obtain ⟨v', hcommit, hregistry⟩ := Vault.commit_of_unsaved unwritten
    refine ⟨v', ?_, hregistry⟩
    simp only [create, approve_of_timely accepted timely, valid, Vault.create,
      Grant.create_eq valid, hcommit]
  | made accepted timely valid written =>
    obtain ⟨v', hcommit, hregistry⟩ := Vault.commit_of_saved written
    refine ⟨v', ?_, hregistry⟩
    simp only [create, approve_of_timely accepted timely, valid, Vault.create,
      Grant.create_eq valid, hcommit, decide_unconfigured]

end Creates

/-! ## Deleting one -/

/-- How deleting a token comes out, with the registry that is served then. -/
inductive Deletes (v : Vault) (caller : Identity) (id : TokenId)
    (fault : Option Directory.Fault) : Except Error Revoked → Registry → Prop
  | refused {e : Error} (refused : v.registry.Refuses caller e) :
      Deletes v caller id fault (.error e) v.registry
  | missing {current : Identity} (accepted : v.registry.Accepts caller current)
      (missing : v.registry.tokens.get? id = none) :
      Deletes v caller id fault (.error (.tokenNotFound id)) v.registry
  | lastAdmin {current : Identity} {t : Token} (accepted : v.registry.Accepts caller current)
      (found : v.registry.tokens.get? id = some t) (last : v.registry.OnlyAdmin id t) :
      Deletes v caller id fault (.error .lastAdmin) v.registry
  | unwritten {current : Identity} {t : Token} {e : FileError}
      (accepted : v.registry.Accepts caller current)
      (found : v.registry.tokens.get? id = some t) (notLast : ¬ v.registry.OnlyAdmin id t)
      (unwritten : v.saveError? fault (v.registry.removing id) = some e) :
      Deletes v caller id fault (.error (.file e)) v.registry
  | deleted {current : Identity} {t : Token} (accepted : v.registry.Accepts caller current)
      (found : v.registry.tokens.get? id = some t) (notLast : ¬ v.registry.OnlyAdmin id t)
      (written : v.saveError? fault (v.registry.removing id) = none) :
      Deletes v caller id fault (.ok ⟨t, current⟩) (v.registry.removing id)

namespace Deletes

theorem exists_outcome (v : Vault) (caller : Identity) (id : TokenId)
    (fault : Option Directory.Fault) : ∃ result r', Deletes v caller id fault result r' := by
  rcases v.registry.exists_refuses_or_accepts caller with ⟨e, hrefused⟩ | ⟨current, haccepted⟩
  · exact ⟨_, _, .refused hrefused⟩
  rcases hget : v.registry.tokens.get? id with _ | t
  · exact ⟨_, _, .missing haccepted hget⟩
  by_cases hlast : v.registry.OnlyAdmin id t
  · exact ⟨_, _, .lastAdmin haccepted hget hlast⟩
  rcases hsave : v.saveError? fault (v.registry.removing id) with _ | e
  · exact ⟨_, _, .deleted haccepted hget hlast hsave⟩
  · exact ⟨_, _, .unwritten haccepted hget hlast hsave⟩

/-- An outcome that fits is the one that comes. -/
theorem delete_eq {v : Vault} {caller : Identity} {id : TokenId}
    {fault : Option Directory.Fault} {result : Except Error Revoked} {r' : Registry}
    (h : Deletes v caller id fault result r') :
    ∃ v', delete v caller id fault = (result, v') ∧ v'.registry = r' := by
  cases h with
  | refused refused =>
    exact ⟨v, by simp only [delete, authorize_of_refuses refused], rfl⟩
  | missing accepted missing =>
    refine ⟨v, ?_, rfl⟩
    simp only [delete, authorize_of_accepts accepted, Vault.delete, Registry.delete, missing]
  | lastAdmin accepted found last =>
    refine ⟨v, ?_, rfl⟩
    simp only [delete, authorize_of_accepts accepted, Vault.delete, Registry.delete, found,
      if_pos ((Registry.onlyAdmin_iff found).1 last)]
  | unwritten accepted found notLast unwritten =>
    obtain ⟨v', hcommit, hregistry⟩ := Vault.commit_of_unsaved unwritten
    refine ⟨v', ?_, hregistry⟩
    rw [Registry.removing] at hcommit
    simp only [delete, authorize_of_accepts accepted, Vault.delete, Registry.delete, found,
      if_neg (mt (Registry.onlyAdmin_iff found).2 notLast), hcommit]
  | deleted accepted found notLast written =>
    obtain ⟨v', hcommit, hregistry⟩ := Vault.commit_of_saved written
    refine ⟨v', ?_, hregistry⟩
    rw [Registry.removing] at hcommit
    simp only [delete, authorize_of_accepts accepted, Vault.delete, Registry.delete, found,
      if_neg (mt (Registry.onlyAdmin_iff found).2 notLast), hcommit]

end Deletes

/-! ## Both together -/

theorem creates_iff {result : Except Error Issued} {r' : Registry} :
    Creates hasher v caller g secret now fault result r' ↔
      (create hasher v caller g secret now fault).1 = result ∧
        (create hasher v caller g secret now fault).2.registry = r' := by
  constructor
  · intro h
    obtain ⟨v', hcreate, hregistry⟩ := h.create_eq
    rw [hcreate]
    exact ⟨rfl, hregistry⟩
  · obtain ⟨found, r, h⟩ := Creates.exists_outcome hasher v caller g secret now fault
    obtain ⟨v', hcreate, hregistry⟩ := h.create_eq
    rw [hcreate]
    rintro ⟨rfl, rfl⟩
    rwa [hregistry]

theorem deletes_iff {id : TokenId} {result : Except Error Revoked} {r' : Registry} :
    Deletes v caller id fault result r' ↔
      (delete v caller id fault).1 = result ∧ (delete v caller id fault).2.registry = r' := by
  constructor
  · intro h
    obtain ⟨v', hdelete, hregistry⟩ := h.delete_eq
    rw [hdelete]
    exact ⟨rfl, hregistry⟩
  · obtain ⟨found, r, h⟩ := Deletes.exists_outcome v caller id fault
    obtain ⟨v', hdelete, hregistry⟩ := h.delete_eq
    rw [hdelete]
    rintro ⟨rfl, rfl⟩
    rwa [hregistry]

/-- What managing tokens comes to in a vault, for a caller and with a disk that may fail. -/
structure Outcomes (v : Vault) (caller : Identity) (fault : Option Directory.Fault) : Prop where
  /-- Of the ways in which making a token can come out exactly one fits, and that is the one. -/
  creates : ∀ hasher g secret now result r',
    Creates hasher v caller g secret now fault result r' ↔
      (create hasher v caller g secret now fault).1 = result ∧
        (create hasher v caller g secret now fault).2.registry = r'
  deletes : ∀ id result r', Deletes v caller id fault result r' ↔
    (delete v caller id fault).1 = result ∧ (delete v caller id fault).2.registry = r'
  /-- An error leaves everything as it was, in memory and in the file. -/
  notCreated : ∀ hasher g secret now e,
    (create hasher v caller g secret now fault).1 = .error e →
      (create hasher v caller g secret now fault).2.registry = v.registry ∧
        (create hasher v caller g secret now fault).2.content? = v.content?
  notDeleted : ∀ id e, (delete v caller id fault).1 = .error e →
    (delete v caller id fault).2.registry = v.registry ∧
      (delete v caller id fault).2.content? = v.content?
  /-- A token that is made takes the next id, and nothing changes under any other. -/
  created : ∀ hasher g secret now issued,
    (create hasher v caller g secret now fault).1 = .ok issued →
      let r' := (create hasher v caller g secret now fault).2.registry
      issued.token.id = v.registry.nextId + 1 ∧ r'.nextId = v.registry.nextId + 1 ∧
        r'.adminEverCreated = (v.registry.adminEverCreated || g.isAdmin) ∧
        v.registry.Differs r' issued.token.id (some issued.token) ∧
        (v.registry.Keyed → r'.Keyed)
  /-- A token that is deleted was there, and nothing else goes. -/
  deleted : ∀ id revoked, (delete v caller id fault).1 = .ok revoked →
    let r' := (delete v caller id fault).2.registry
    v.registry.tokens.get? id = some revoked.token ∧ r'.nextId = v.registry.nextId ∧
      r'.adminEverCreated = v.registry.adminEverCreated ∧ v.registry.Differs r' id none ∧
      (v.registry.Keyed → revoked.token.id = id ∧ r'.Keyed)
  /-- An administrator may delete its own token while there is another one. -/
  own : ∀ t stored other u, caller = .token t → v.registry.tokens.get? t.id = some stored →
    stored.isAdmin = true → v.registry.tokens.get? other = some u → u.isAdmin = true →
    other ≠ t.id → v.saveError? fault (v.registry.removing t.id) = none →
      (delete v caller t.id fault).1 = .ok ⟨stored, .token stored⟩

/-- Every request to manage tokens comes out in one way, told by what is stored, and changes one
token or nothing. -/
theorem outcomes (v : Vault) (caller : Identity) (fault : Option Directory.Fault) :
    Outcomes v caller fault where
  creates _ _ _ _ _ _ := creates_iff
  deletes _ _ _ := deletes_iff
  notCreated _ _ _ _ _ h := create_error (Prod.ext h rfl)
  notDeleted _ _ h := delete_error (Prod.ext h rfl)
  created hasher g secret now issued hok := by
    have h := creates_iff.2 ⟨hok, rfl⟩
    generalize (create hasher v caller g secret now fault).2.registry = r' at h ⊢
    cases h with
    | made => exact ⟨rfl, rfl, rfl, v.registry.differs_adding _, fun hkeyed => hkeyed.adding _⟩
  deleted id revoked hok := by
    have h := deletes_iff.2 ⟨hok, rfl⟩
    generalize (delete v caller id fault).2.registry = r' at h ⊢
    cases h with
    | deleted _ found =>
      exact ⟨found, rfl, rfl, v.registry.differs_removing id,
        fun hkeyed => ⟨hkeyed id _ found, hkeyed.removing id⟩⟩
  own t stored other u hcaller hstored hadmin hother hu hne hwritten := by
    subst hcaller
    refine (deletes_iff.1 (.deleted (.admin hstored hadmin) hstored (fun hlast => ?_) hwritten)).1
    exact hne (hlast.alone other u hother hu)

end

end Admin

end ZoneGate
