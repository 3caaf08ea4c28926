import Mathlib.Data.List.Forall2
import ZoneGate.Proofs.Registry.Blinded

/-!
# Vaults that differ in digests

Two vaults are alike if they differ at most in the digests of their tokens, in memory and in what
their files hold. What is made or deleted in both, with the disk failing at the same point, succeeds
or fails alike and leaves them alike.
-/
namespace ZoneGate

/-- Results that fail with the same error or succeed with related values. -/
inductive Agree {ε α β : Type} (R : α → β → Prop) : Except ε α → Except ε β → Prop
  | error (e : ε) : Agree R (.error e) (.error e)
  | ok {a : α} {b : β} (related : R a b) : Agree R (.ok a) (.ok b)

/-- The same for results that come with a state. -/
inductive AgreeIn {ε α β σ : Type} (S : σ → σ → Prop) (R : α → β → Prop) :
    Except ε α × σ → Except ε β × σ → Prop
  | error (e : ε) {s s' : σ} (states : S s s') : AgreeIn S R (.error e, s) (.error e, s')
  | ok {a : α} {b : β} {s s' : σ} (related : R a b) (states : S s s') :
      AgreeIn S R (.ok a, s) (.ok b, s')

/-- Results that are equal under a map agree up to that map. -/
theorem Agree.of_map_eq {ε α β : Type} {f : α → β} {x y : Except ε α} (h : x.map f = y.map f) :
    Agree (fun a b => f a = f b) x y := by
  cases x <;> cases y <;> simp only [Except.map, Except.error.injEq, Except.ok.injEq,
    reduceCtorEq] at h
  · exact h ▸ .error _
  · exact .ok h

/-! ## Files -/

/-- Contents that differ at most in digests: the same bytes, or as much of two registries that
differ in digests. -/
inductive Registry.WrittenAlike : List UInt8 → List UInt8 → Prop
  | same (content : List UInt8) : WrittenAlike content content
  | encoded {r r' : Registry} (blinded : r.blinded = r'.blinded) (length : Nat) :
      WrittenAlike (r.encode.take length) (r'.encode.take length)

theorem Registry.WrittenAlike.encode {r r' : Registry} (h : r.blinded = r'.blinded) :
    WrittenAlike r.encode r'.encode := by
  have hencoded := WrittenAlike.encoded h (max r.encode.length r'.encode.length)
  rwa [List.take_of_length_le (Nat.le_max_left _ _), List.take_of_length_le (Nat.le_max_right _ _)]
    at hencoded

inductive Entry.Alike : Entry → Entry → Prop
  | folder : Alike .folder .folder
  | file {content content' : List UInt8} (written : Registry.WrittenAlike content content') :
      Alike (.file content) (.file content')

namespace Directory

/-- The same names, with entries that are alike. -/
def Alike (d d' : Directory) : Prop :=
  Option.Rel (List.Forall₂ fun e e' => e.1 = e'.1 ∧ e.2.Alike e'.2) d.entries? d'.entries?

lemma lookup_alike {entries entries' : List (String × Entry)}
    (h : List.Forall₂ (fun e e' => e.1 = e'.1 ∧ e.2.Alike e'.2) entries entries') (name : String) :
    Option.Rel Entry.Alike (entries.lookup name) (entries'.lookup name) := by
  induction h with
  | nil => exact .none
  | @cons e e' rest rest' hhead _ ih =>
    obtain ⟨hname, halike⟩ := hhead
    rw [List.lookup_cons, List.lookup_cons, ← hname]
    cases name == e.1
    · exact ih
    · exact .some halike

namespace Alike

variable {d d' : Directory} (h : d.Alike d') (name : String)

include h

theorem find? : Option.Rel Entry.Alike (d.find? name) (d'.find? name) := by
  obtain ⟨entries⟩ := d
  obtain ⟨entries'⟩ := d'
  cases h with
  | none => exact .none
  | some hentries => exact lookup_alike hentries name

theorem has_eq : d.has name = d'.has name := by
  have hfind := h.find? name
  unfold has
  generalize d.find? name = found at hfind
  generalize d'.find? name = found' at hfind
  cases hfind <;> rfl

theorem set {entry entry' : Option Entry} (hentry : Option.Rel Entry.Alike entry entry') :
    (d.set name entry).Alike (d'.set name entry') := by
  obtain ⟨entries⟩ := d
  obtain ⟨entries'⟩ := d'
  cases h with
  | none => exact .none
  | some hentries =>
    have hothers := List.rel_filter (p := (·.1 ≠ name)) (q := (·.1 ≠ name))
      (fun _ _ hsame => by simp [hsame.1]) hentries
    cases hentry with
    | none => exact .some hothers
    | some halike => exact .some (.cons ⟨rfl, halike⟩ hothers)

theorem create : Agree Alike (d.create name) (d'.create name) := by
  have hfind := h.find? name
  have hset := h.set name (.some (.file (.same [])))
  obtain ⟨entries⟩ := d
  obtain ⟨entries'⟩ := d'
  cases h with
  | none => exact .error _
  | @some entries entries' hentries =>
    simp only [Directory.create]
    generalize Directory.find? ⟨some entries⟩ name = found at hfind
    generalize Directory.find? ⟨some entries'⟩ name = found' at hfind
    cases hfind with
    | none => exact .ok hset
    | some halike =>
      cases halike with
      | folder => exact .error _
      | file => exact .ok hset

theorem removeFile : (d.removeFile name).Alike (d'.removeFile name) := by
  have hfind := h.find? name
  simp only [Directory.removeFile]
  generalize d.find? name = found at hfind
  generalize d'.find? name = found' at hfind
  cases hfind with
  | none => exact h
  | some halike =>
    cases halike with
    | folder => exact h
    | file => exact h.set name .none

theorem rename (target : String) : Agree Alike (d.rename name target) (d'.rename name target) := by
  have hfind := h.find? name
  have htarget := h.find? target
  simp only [Directory.rename]
  generalize d.find? name = found at hfind
  generalize d'.find? name = found' at hfind
  generalize d.find? target = there at htarget
  generalize d'.find? target = there' at htarget
  cases hfind with
  | none => exact .error _
  | some hentry =>
    have hmoved := (h.set name .none).set target (.some hentry)
    cases htarget with
    | none =>
      simp only
      split
      · exact .error _
      · exact .ok hmoved
    | some hthere =>
      cases hthere with
      | folder => exact .error _
      | file =>
        simp only
        split
        · exact .error _
        · exact .ok hmoved

variable {r r' : Registry} (hr : r.blinded = r'.blinded) (fault : Option Fault)

include hr

theorem write_encode : (d.write name r.encode).Alike (d'.write name r'.encode) :=
  h.set name (.some (.file (.encode hr)))

theorem stage :
    AgreeIn Alike Eq (d.stage name r.encode fault) (d'.stage name r'.encode fault) := by
  have hcreate := h.create name
  simp only [Directory.stage]
  split
  · exact .error _ h
  generalize d.create name = created at hcreate
  generalize d'.create name = created' at hcreate
  cases hcreate with
  | error e => exact .error e h
  | ok hcreated =>
    simp only
    split
    · rename_i written _
      exact .error _ (hcreated.set name (.some (.file (.encoded hr written))))
    · exact .error _ (hcreated.write_encode name hr)
    · exact .ok rfl (hcreated.write_encode name hr)

theorem replace :
    AgreeIn Alike Eq (d.replace name r.encode fault) (d'.replace name r'.encode fault) := by
  have hstage := h.stage (stagingName name) hr fault
  simp only [Directory.replace]
  generalize d.stage (stagingName name) r.encode fault = staged at hstage
  generalize d'.stage (stagingName name) r'.encode fault = staged' at hstage
  cases hstage with
  | error e hleft => exact .error e (hleft.removeFile _)
  | @ok _ _ d d' _ hstaged =>
    simp only
    split
    · exact .error _ hstaged
    · have hrename := hstaged.rename (stagingName name) name
      generalize d.rename (stagingName name) name = renamed at hrename
      generalize d'.rename (stagingName name) name = renamed' at hrename
      cases hrename with
      | error e => exact .error e hstaged
      | ok hrenamed => exact .ok rfl hrenamed

end Alike

end Directory

/-! ## Vaults -/

/-- The same file in directories that are alike. -/
structure StateFile.Alike (f f' : StateFile) : Prop where
  name : f.name = f'.name
  directory : f.directory.Alike f'.directory

namespace Vault

/-- Vaults that differ at most in digests. -/
structure Alike (v v' : Vault) : Prop where
  registry : v.registry.blinded = v'.registry.blinded
  file : Option.Rel StateFile.Alike v.file v'.file

theorem save_alike {f f' : StateFile} (h : f.Alike f') {r r' : Registry}
    (hr : r.blinded = r'.blinded) (fault : Option Directory.Fault) :
    AgreeIn StateFile.Alike Eq (save f r fault) (save f' r' fault) := by
  obtain ⟨hname, hdirectory⟩ := h
  have hreplace := hdirectory.replace f.name hr fault
  simp only [save, ← hname]
  generalize f.directory.replace f.name r.encode fault = replaced at hreplace
  generalize f'.directory.replace f.name r'.encode fault = replaced' at hreplace
  cases hreplace with
  | error e hleft => exact .error e ⟨rfl, hleft⟩
  | ok hresult hreplaced => exact .ok hresult ⟨rfl, hreplaced⟩

namespace Alike

variable {v v' : Vault} (h : v.Alike v') (fault : Option Directory.Fault)

include h

theorem ready_eq : v.ready = v'.ready := by
  obtain ⟨registry, file⟩ := v
  obtain ⟨registry', file'⟩ := v'
  cases h.file with
  | none => rfl
  | some hfile => simp only [ready, hfile.name, hfile.directory.has_eq]

theorem commit {r r' : Registry} (hr : r.blinded = r'.blinded) :
    AgreeIn Alike Eq (v.commit r fault) (v'.commit r' fault) := by
  obtain ⟨registry, file⟩ := v
  obtain ⟨registry', file'⟩ := v'
  cases h.file with
  | none => exact .ok rfl ⟨hr, .none⟩
  | @some f f' hfile =>
    have hsave := save_alike hfile hr fault
    simp only [Vault.commit]
    generalize save f r fault = saved at hsave
    generalize save f' r' fault = saved' at hsave
    cases hsave with
    | error e hleft => exact .error _ ⟨h.registry, .some hleft⟩
    | ok _ hsaved => exact .ok rfl ⟨hr, .some hsaved⟩

theorem create (t : NewToken) (digest digest' : Digest) (now : Timestamp) :
    AgreeIn Alike (fun made made' : Token => made.blinded = made'.blinded)
      (v.create t digest now fault) (v'.create t digest' now fault) := by
  have hmade := (v.registry.create_blinded t digest now).symm.trans
    ((congrArg (fun r : Registry => r.create t default now) h.registry).trans
      (v'.registry.create_blinded t digest' now))
  obtain ⟨htoken, hregistry⟩ := Prod.mk.inj hmade
  have hcommit := h.commit fault hregistry
  simp only [Vault.create]
  generalize v.commit _ fault = done at hcommit
  generalize v'.commit _ fault = done' at hcommit
  cases hcommit with
  | error e hleft => exact .error e hleft
  | ok _ hcommitted => exact .ok htoken hcommitted

theorem delete (id : TokenId) :
    AgreeIn Alike (fun deleted deleted' : Token => deleted.blinded = deleted'.blinded)
      (v.delete id fault) (v'.delete id fault) := by
  have hdelete := (v.registry.delete_blinded id).symm.trans
    ((congrArg (fun r : Registry => r.delete id) h.registry).trans
      (v'.registry.delete_blinded id))
  have hagree := Agree.of_map_eq hdelete
  simp only [Vault.delete]
  generalize v.registry.delete id = deleted at hagree
  generalize v'.registry.delete id = deleted' at hagree
  cases hagree with
  | error e => exact .error e h
  | @ok done done' hrelated =>
    obtain ⟨htoken, hregistry⟩ := Prod.mk.inj hrelated
    have hcommit := h.commit fault hregistry
    simp only
    generalize v.commit _ fault = done at hcommit
    generalize v'.commit _ fault = done' at hcommit
    cases hcommit with
    | error e hleft => exact .error e hleft
    | ok _ hcommitted => exact .ok htoken hcommitted

end Alike

end Vault

/-! ## What administrators do -/

/-- Tokens that were made alike, each with a secret of its own. -/
structure Issued.Alike (secret secret' : String) (issued issued' : Issued) : Prop where
  secret : issued.secret = secret
  secret' : issued'.secret = secret'
  token : issued.token.blinded = issued'.token.blinded
  issuer : issued.issuer.blinded = issued'.issuer.blinded
  isFirst : issued.isFirst = issued'.isFirst

structure Revoked.Alike (revoked revoked' : Revoked) : Prop where
  token : revoked.token.blinded = revoked'.token.blinded
  issuer : revoked.issuer.blinded = revoked'.issuer.blinded

@[simp] theorem Admin.tokenText_blinded (t : Token) : tokenText t.blinded = tokenText t := rfl

theorem Issued.Alike.events_eq {secret secret' : String} {issued issued' : Issued}
    (h : Alike secret secret' issued issued') :
    issued.events = issued'.events := by
  have hadmin : issued.token.isAdmin = issued'.token.isAdmin := by
    simpa using congrArg Token.isAdmin h.token
  have htoken : Admin.tokenText issued.token = Admin.tokenText issued'.token := by
    simpa using congrArg Admin.tokenText h.token
  have hissuer : issued.issuer.text = issued'.issuer.text := by
    simpa using congrArg Identity.text h.issuer
  simp only [Issued.events, hadmin, htoken, hissuer, h.isFirst]

theorem Revoked.Alike.events_eq {revoked revoked' : Revoked} (h : revoked.Alike revoked') :
    revoked.events = revoked'.events := by
  have htoken : Admin.tokenText revoked.token = Admin.tokenText revoked'.token := by
    simpa using congrArg Admin.tokenText h.token
  have hissuer : revoked.issuer.text = revoked'.issuer.text := by
    simpa using congrArg Identity.text h.issuer
  simp only [Revoked.events, htoken, hissuer]

namespace Vault.Alike

variable {v v' : Vault} (h : v.Alike v') {caller caller' : Identity}
  (hcaller : caller.blinded = caller'.blinded) (fault : Option Directory.Fault)

include h

theorem bootstrap_eq : Bootstrap.of v.registry = Bootstrap.of v'.registry := by
  simpa using congrArg Bootstrap.of h.registry

include hcaller

theorem authorize : Agree (fun current current' => current.blinded = current'.blinded)
    (Admin.authorize v.registry caller) (Admin.authorize v'.registry caller') := by
  refine .of_map_eq ?_
  rw [← Admin.authorize_blinded, ← Admin.authorize_blinded, h.registry, hcaller]

theorem adminCreate (hasher hasher' : Hasher) (g : Grant) (secret secret' : String)
    (now : Timestamp) :
    AgreeIn Alike (Issued.Alike secret secret') (Admin.create hasher v caller g secret now fault)
      (Admin.create hasher' v' caller' g secret' now fault) := by
  have happrove : Agree (fun done done' => (done.1.blinded, done.2) = (done'.1.blinded, done'.2))
      (Admin.approve v.registry caller g) (Admin.approve v'.registry caller' g) := by
    refine .of_map_eq ?_
    rw [← Admin.approve_blinded, ← Admin.approve_blinded, h.registry, hcaller]
  simp only [Admin.create, ← h.bootstrap_eq]
  generalize Admin.approve v.registry caller g = approved at happrove
  generalize Admin.approve v'.registry caller' g = approved' at happrove
  cases happrove with
  | error e => exact .error e h
  | @ok done done' hrelated =>
    obtain ⟨current, t⟩ := done
    obtain ⟨current', t'⟩ := done'
    obtain ⟨hcurrent, rfl⟩ := Prod.mk.inj hrelated
    have hcreate := h.create fault t (hasher.digest secret) (hasher'.digest secret') now
    simp only
    generalize v.create t (hasher.digest secret) now fault = made at hcreate
    generalize v'.create t (hasher'.digest secret') now fault = made' at hcreate
    cases hcreate with
    | error e hleft => exact .error e hleft
    | ok htoken hmade => exact .ok ⟨rfl, rfl, htoken, hcurrent, rfl⟩ hmade

theorem adminDelete (id : TokenId) :
    AgreeIn Alike Revoked.Alike (Admin.delete v caller id fault)
      (Admin.delete v' caller' id fault) := by
  have hauthorize := h.authorize hcaller
  simp only [Admin.delete]
  generalize Admin.authorize v.registry caller = authorized at hauthorize
  generalize Admin.authorize v'.registry caller' = authorized' at hauthorize
  cases hauthorize with
  | error e => exact .error e h
  | ok hcurrent =>
    have hdelete := h.delete fault id
    simp only
    generalize v.delete id fault = deleted at hdelete
    generalize v'.delete id fault = deleted' at hdelete
    cases hdelete with
    | error e hleft => exact .error e hleft
    | ok htoken hdeleted => exact .ok ⟨htoken, hcurrent⟩ hdeleted

end Vault.Alike

end ZoneGate
