import ZoneGate.Proofs.Registry.Ledger
import ZoneGate.Proofs.Vault.Written

/-!
# A vault on disk beside a registry in memory

A vault with a state file answers every operation as a registry in memory does that takes the same
operations except those whose write fails. Such an operation fails in the vault and changes neither
what is served nor what the file holds. As the file always holds what is served, the vault can be
closed and opened again at any time.
-/
namespace ZoneGate

/-- An operation on the stored tokens. -/
inductive Operation where
  | create (t : NewToken) (digest : Digest) (now : Timestamp)
  | delete (id : TokenId)
  | get (id : TokenId)
  | list
  | find (digest : Digest)
  | adminEverCreated

/-- What an operation that succeeds gives. -/
inductive Outcome where
  | token (t : Token)
  | tokens (ts : List Token)
  | found (t : Option Token)
  | flag (b : Bool)

/-- The change that an operation makes by what it came to, if it makes one. -/
def Operation.change? : Operation → Except Error Outcome → Option Change
  | .create _ _ _, .ok (.token t) => some (.made t)
  | .delete id, .ok (.token t) => some (.deleted id t)
  | _, _ => none

namespace Registry

/-- Takes an operation in memory. -/
def take (r : Registry) : Operation → Except Error Outcome × Registry
  | .create t digest now =>
    let made := r.create t digest now
    (.ok (.token made.1), made.2)
  | .delete id =>
    match r.delete id with
    | .ok (t, r') => (.ok (.token t), r')
    | .error e => (.error e, r)
  | .get id => ((r.get id).map .token, r)
  | .list => (.ok (.tokens r.list), r)
  | .find digest => (.ok (.found (r.find? digest)), r)
  | .adminEverCreated => (.ok (.flag r.adminEverCreated), r)

/-- The registry that is to be written for an operation, if one is. -/
def pending? (r : Registry) : Operation → Option Registry
  | .create t digest now => some (r.create t digest now).2
  | .delete id => (r.delete id).toOption.map (·.2)
  | _ => none

end Registry

namespace Vault

/-- Takes an operation, during which the disk may fail. -/
def take (v : Vault) (fault : Option Directory.Fault) : Operation → Except Error Outcome × Vault
  | .create t digest now =>
    let done := v.create t digest now fault
    (done.1.map .token, done.2)
  | .delete id =>
    let done := v.delete id fault
    (done.1.map .token, done.2)
  | .get id => ((v.registry.get id).map .token, v)
  | .list => (.ok (.tokens v.registry.list), v)
  | .find digest => (.ok (.found (v.registry.find? digest)), v)
  | .adminEverCreated => (.ok (.flag v.registry.adminEverCreated), v)

/-- How the disk fails to write a registry, if it does. -/
def saveError? (v : Vault) (fault : Option Directory.Fault) (r : Registry) : Option FileError :=
  v.file.bind fun f =>
    match (save f r fault).1 with
    | .ok () => none
    | .error e => some e

/-- How the write of an operation fails, if it takes one and that fails. -/
def writeError? (v : Vault) (fault : Option Directory.Fault) (op : Operation) : Option FileError :=
  (v.registry.pending? op).bind (v.saveError? fault)

/-- A change that is written is served. -/
theorem commit_of_saved {v : Vault} {fault : Option Directory.Fault} {r : Registry}
    (h : v.saveError? fault r = none) :
    ∃ v', v.commit r fault = (.ok (), v') ∧ v'.registry = r := by
  rcases hfile : v.file with _ | f
  · exact ⟨⟨r, none⟩, by simp only [commit, hfile], rfl⟩
  rcases hsave : save f r fault with ⟨e | _, saved⟩
  · simp [saveError?, hfile, hsave] at h
  · exact ⟨⟨r, some saved⟩, by simp only [commit, hfile, hsave], rfl⟩

/-- One that is not is refused for it. -/
theorem commit_of_unsaved {v : Vault} {fault : Option Directory.Fault} {r : Registry}
    {e : FileError} (h : v.saveError? fault r = some e) :
    ∃ v', v.commit r fault = (.error (.file e), v') ∧ v'.registry = v.registry := by
  rcases hfile : v.file with _ | f
  · simp [saveError?, hfile] at h
  rcases hsave : save f r fault with ⟨e' | _, left⟩
  · have he : e' = e := by simpa [saveError?, hfile, hsave] using h
    exact ⟨⟨v.registry, some left⟩, by simp only [commit, hfile, hsave, he], rfl⟩
  · simp [saveError?, hfile, hsave] at h

/-! ## One operation -/

/-- The vault serves the registry out of the state file of a name, which holds it. -/
def Serves (v : Vault) (name : String) (r : Registry) : Prop :=
  ∃ d : Directory, v = ⟨r, some ⟨name, d⟩⟩ ∧ d.read name = .ok r.encode

namespace Serves

variable {v : Vault} {name : String} {r : Registry}

theorem registry_eq (h : v.Serves name r) : v.registry = r := by
  obtain ⟨d, rfl, -⟩ := h
  rfl

theorem content?_eq (h : v.Serves name r) : v.content? = some (.ok r.encode) := by
  obtain ⟨d, rfl, hread⟩ := h
  exact congrArg some hread

theorem synced (h : v.Serves name r) : v.Synced := by
  obtain ⟨d, rfl, hread⟩ := h
  exact synced_of_file hread

theorem of_save {d : Directory} {fault : Option Directory.Fault} {saved : StateFile}
    (h : save ⟨name, d⟩ r fault = (.ok (), saved)) : Serves ⟨r, some saved⟩ name r := by
  have hread := save_ok h
  obtain ⟨-, rfl⟩ := Prod.mk.inj h
  exact ⟨_, rfl, hread⟩

/-- A change is served from then on where it is written. -/
theorem commit_written (h : v.Serves name r) {fault : Option Directory.Fault} {r' : Registry}
    (hsave : v.saveError? fault r' = none) :
    ∃ v', v.commit r' fault = (.ok (), v') ∧ v'.Serves name r' := by
  obtain ⟨d, rfl, -⟩ := h
  rcases hsaved : save ⟨name, d⟩ r' fault with ⟨_ | _, saved⟩
  · simp [saveError?, hsaved] at hsave
  · exact ⟨⟨r', some saved⟩, by simp only [commit, hsaved], of_save hsaved⟩

/-- Otherwise it is refused, and what was served stays. -/
theorem commit_unwritten (h : v.Serves name r) {fault : Option Directory.Fault} {r' : Registry}
    {e : FileError} (hsave : v.saveError? fault r' = some e) :
    ∃ v', v.commit r' fault = (.error (.file e), v') ∧ v'.Serves name r := by
  obtain ⟨d, rfl, hbefore⟩ := h
  rcases hsaved : save ⟨name, d⟩ r' fault with ⟨e' | _, saved⟩
  · have hread := save_error hsaved
    obtain ⟨-, rfl⟩ := Prod.mk.inj hsaved
    have he : e' = e := by simpa [saveError?, hsaved] using hsave
    exact ⟨_, by simp only [commit, hsaved, he], _, rfl, hread.trans hbefore⟩
  · simp [saveError?, hsaved] at hsave

/-- An operation whose write does not fail comes to what it comes to in memory. -/
theorem take_written (h : v.Serves name r) {fault : Option Directory.Fault} {op : Operation}
    (hwrite : v.writeError? fault op = none) :
    (v.take fault op).1 = (r.take op).1 ∧ (v.take fault op).2.Serves name (r.take op).2 := by
  rw [writeError?, h.registry_eq] at hwrite
  cases op with
  | create t digest now =>
    obtain ⟨v', hcommit, hserves⟩ := h.commit_written hwrite
    simp only [Vault.take, Vault.create, Registry.take, h.registry_eq, hcommit]
    exact ⟨rfl, hserves⟩
  | delete id =>
    rcases hdelete : r.delete id with e | ⟨t, r'⟩
    · simp only [Vault.take, Vault.delete, Registry.take, h.registry_eq, hdelete]
      exact ⟨rfl, h⟩
    · rw [Registry.pending?, hdelete] at hwrite
      obtain ⟨v', hcommit, hserves⟩ := h.commit_written hwrite
      simp only [Vault.take, Vault.delete, Registry.take, h.registry_eq, hdelete, hcommit]
      exact ⟨rfl, hserves⟩
  | get => exact ⟨by rw [Vault.take, h.registry_eq]; rfl, h⟩
  | list => exact ⟨by rw [Vault.take, h.registry_eq]; rfl, h⟩
  | find => exact ⟨by rw [Vault.take, h.registry_eq]; rfl, h⟩
  | adminEverCreated => exact ⟨by rw [Vault.take, h.registry_eq]; rfl, h⟩

/-- An operation whose write fails is refused for it, and everything stays. -/
theorem take_unwritten (h : v.Serves name r) {fault : Option Directory.Fault} {op : Operation}
    {e : FileError} (hwrite : v.writeError? fault op = some e) :
    (v.take fault op).1 = .error (.file e) ∧ (v.take fault op).2.Serves name r := by
  obtain ⟨r', hpending, hsave⟩ := Option.bind_eq_some_iff.1 hwrite
  obtain ⟨v', hcommit, hserves⟩ := h.commit_unwritten hsave
  rw [h.registry_eq] at hpending
  -- only making and deleting have something to write
  cases op with
  | create t digest now =>
    cases hpending
    simp only [Vault.take, Vault.create, h.registry_eq, hcommit]
    exact ⟨rfl, hserves⟩
  | delete id =>
    rcases hdelete : r.delete id with e | ⟨t, r''⟩
    · simp [Registry.pending?, hdelete, Except.toOption] at hpending
    · have hr : r'' = r' := by
        simpa [Registry.pending?, hdelete, Except.toOption] using hpending
      subst hr
      simp only [Vault.take, Vault.delete, h.registry_eq, hdelete, hcommit]
      exact ⟨rfl, hserves⟩
  | get => cases hpending
  | list => cases hpending
  | find => cases hpending
  | adminEverCreated => cases hpending

end Serves

/-! ## Any number of operations -/

/-- A vault that was opened where no state file was, after any operations, with the disk failing
in any of them, the vault opened anew at any time and the directory changed in any way that leaves
the state file alone; beside it the registry in memory that took the same operations except those
whose write failed. -/
inductive Mirrored (name : String) : Vault → Registry → Prop
  | opened {d : Directory} {fault : Option Directory.Fault} {v : Vault}
      (missing : d.read name = .error .notFound) (opened : openFile ⟨name, d⟩ fault = .ok v) :
      Mirrored name v .empty
  | take {v : Vault} {r : Registry} (mirrored : Mirrored name v r)
      (fault : Option Directory.Fault) (op : Operation) :
      Mirrored name (v.take fault op).2
        (if (v.writeError? fault op).isSome then r else (r.take op).2)
  | reopen {v v' : Vault} {r : Registry} {f : StateFile} (mirrored : Mirrored name v r)
      (file : v.file = some f) (fault : Option Directory.Fault)
      (opened : openFile f fault = .ok v') : Mirrored name v' r
  | disturb {v : Vault} {r : Registry} {f : StateFile} (mirrored : Mirrored name v r)
      (file : v.file = some f) (d : Directory) (same : d.read f.name = f.directory.read f.name) :
      Mirrored name { v with file := some { f with directory := d } } r

/-- However far the two have come, the vault serves the registry in memory. -/
theorem Mirrored.serves {name : String} {v : Vault} {r : Registry} (h : Mirrored name v r) :
    v.Serves name r := by
  induction h with
  | opened missing opened =>
    obtain ⟨saved, hsaved, rfl⟩ := exists_save_of_missing missing opened
    exact .of_save hsaved
  | take _ fault op ih =>
    rcases hwrite : (Vault.writeError? _ fault op) with _ | e
    · exact (ih.take_written hwrite).2
    · exact (ih.take_unwritten hwrite).2
  | reopen _ file fault opened ih =>
    -- what is read back is the very registry that was served
    rw [ih.synced.faithful.openFile file] at opened
    cases opened
    exact ih
  | disturb _ file d same ih =>
    obtain ⟨d', rfl, hread⟩ := ih
    cases file
    exact ⟨d, rfl, same.trans hread⟩

/-- A vault in a directory that was empty, as it is opened first. -/
def sample : Vault :=
  ⟨.empty, some ⟨"tokens.json", ⟨some [("tokens.json", .file Registry.empty.encode)]⟩⟩⟩

end Vault

end ZoneGate
