import Mathlib.Tactic.Lemma
import ZoneGate.Proofs.Registry.Contents
import ZoneGate.Proofs.Registry.WrittenForm
import ZoneGate.Vault

/-!
# What a vault has written

Replacing a file leaves it with the new content or with what it held, at whichever step the disk
fails. The registry that a vault serves is therefore always the one in its file, and opening the
file again brings back the same registry.
-/
namespace ZoneGate

namespace Directory

theorem find?_set_of_ne {name other : String} (h : other ≠ name) (d : Directory)
    (entry : Option Entry) : (d.set name entry).find? other = d.find? other := by
  obtain ⟨_ | entries⟩ := d
  · rfl
  have hothers := lookup_filter_of_ne h entries
  cases entry with
  | none => exact hothers
  | some entry =>
    have hhead : (other == name) = false := by simpa using h
    simpa [find?, set, List.lookup_cons, hhead] using hothers

theorem find?_set_some {d : Directory} (h : d.entries?.isSome) (name : String) (entry : Entry) :
    (d.set name (some entry)).find? name = some entry := by
  obtain ⟨entries, hentries⟩ := Option.isSome_iff_exists.1 h
  simp [find?, set, hentries]

/-- Only a directory that is there takes entries. -/
@[simp] theorem isSome_entries?_set (d : Directory) (name : String) (entry : Option Entry) :
    (d.set name entry).entries?.isSome = d.entries?.isSome := by simp [set]

lemma isSome_entries?_of_find? {d : Directory} {name : String} {entry : Entry}
    (h : d.find? name = some entry) : d.entries?.isSome := by
  obtain ⟨entries, hentries, -⟩ := Option.bind_eq_some_iff.1 h
  simp [hentries]

/-- A file can be made wherever no folder is in the way. -/
theorem create_of_room {d : Directory} {name : String} (hd : d.entries?.isSome)
    (h : d.find? name ≠ some .folder) : d.create name = .ok (d.set name (some (.file []))) := by
  obtain ⟨entries, hentries⟩ := Option.isSome_iff_exists.1 hd
  rcases hfound : d.find? name with _ | _ | _
  · simp only [create, hentries, hfound]
  · simp only [create, hentries, hfound]
  · exact absurd hfound h

theorem create_ok {d created : Directory} {name : String} (h : d.create name = .ok created) :
    d.entries?.isSome ∧ created = d.set name (some (.file [])) := by
  unfold create at h
  split at h
  · cases h
  · cases h
  · rename_i hentries _
    exact ⟨by simp [hentries], by simpa using h.symm⟩

lemma removeFile_eq_or (d : Directory) (name : String) :
    d.removeFile name = d ∨ d.removeFile name = d.set name none := by
  unfold removeFile
  split
  · exact .inr rfl
  · exact .inl rfl

theorem find?_removeFile_of_ne {name other : String} (h : other ≠ name) (d : Directory) :
    (d.removeFile name).find? other = d.find? other := by
  rcases removeFile_eq_or d name with he | he
  · rw [he]
  · rw [he, find?_set_of_ne h]

/-- Preparing a file does not touch any other one. -/
theorem find?_stage_of_ne {name other : String} (h : other ≠ name) (d : Directory)
    (content : List UInt8) (fault : Option Fault) :
    (d.stage name content fault).2.find? other = d.find? other := by
  have hwrite : ∀ {created : Directory} (bytes : List UInt8), d.create name = .ok created →
      (created.write name bytes).find? other = d.find? other := by
    intro created bytes hcreate
    rw [write, find?_set_of_ne h, (create_ok hcreate).2, find?_set_of_ne h]
  simp only [stage]
  split
  · rfl
  split
  · rfl
  · rename_i hcreate
    split
    · exact hwrite _ hcreate
    · exact hwrite _ hcreate
    · exact hwrite _ hcreate

theorem find?_stage_ok {d staged : Directory} {name : String} {content : List UInt8}
    {fault : Option Fault} (h : d.stage name content fault = (.ok (), staged)) :
    staged.find? name = some (.file content) := by
  simp only [stage] at h
  split at h
  · simp at h
  split at h
  · simp at h
  · rename_i hcreate
    obtain ⟨hentries, rfl⟩ := create_ok hcreate
    split at h
    · simp at h
    · simp at h
    · obtain ⟨-, rfl⟩ := Prod.mk.inj h
      exact find?_set_some (by simpa using hentries) name _

theorem find?_rename_ok {d renamed : Directory} {source target : String} {entry : Entry}
    (hsource : d.find? source = some entry) (h : d.rename source target = .ok renamed) :
    renamed.find? target = some entry := by
  have hrenamed : renamed = (d.set source none).set target (some entry) := by
    rcases htarget : d.find? target with _ | _ | _ <;>
      simp only [rename, hsource, htarget, reduceCtorEq] at h
    all_goals
      split at h
      · cases h
      · exact (Except.ok.inj h).symm
  rw [hrenamed]
  exact find?_set_some (by simpa using isSome_entries?_of_find? hsource) target entry

/-- A file is never prepared under its own name. -/
theorem ne_stagingName (name : String) : name ≠ stagingName name := by
  intro h
  have hlength := congrArg String.length h
  unfold stagingName at hlength
  split at hlength
  · rename_i hempty
    rw [String.isEmpty_iff.1 hempty] at hlength
    exact absurd hlength (by decide)
  · rw [String.length_append] at hlength
    have : ".tmp".length = 4 := rfl
    omega

/-- A file is replaced where the disk does not fail and no folder is in the way. -/
theorem exists_replace_of_room {d : Directory} {name : String} (hd : d.entries?.isSome)
    (hname : name ≠ "") (hfile : d.find? name ≠ some .folder)
    (hstaging : d.find? (stagingName name) ≠ some .folder) (content : List UInt8) :
    ∃ replaced, d.replace name content none = (.ok (), replaced) := by
  have hcreate := create_of_room hd hstaging
  obtain ⟨staged, hstage⟩ : ∃ staged, d.stage (stagingName name) content none = (.ok (), staged) :=
    ⟨_, by simp only [stage, hcreate]; rfl⟩
  have hsource := find?_stage_ok hstage
  have htarget : staged.find? name ≠ some .folder := by
    have hother := find?_stage_of_ne (ne_stagingName name) d content none
    rw [hstage] at hother
    rwa [hother]
  have hempty : name.isEmpty = false := by simpa using hname
  simp only [replace, hstage, rename, hsource, hempty]
  rcases hfound : staged.find? name with _ | _ | _
  · simp
  · simp
  · exact absurd hfound htarget

/-- Replacing a file that succeeds gives it the content. -/
theorem read_replace_ok {d replaced : Directory} {name : String} {content : List UInt8}
    {fault : Option Fault} (h : d.replace name content fault = (.ok (), replaced)) :
    replaced.read name = .ok content := by
  unfold replace at h
  split at h
  · simp at h
  rename_i hstage
  split at h
  · simp at h
  split at h
  · simp at h
  rename_i hrename
  obtain ⟨-, rfl⟩ := Prod.mk.inj h
  rw [read, find?_rename_ok (find?_stage_ok hstage) hrename]

/-- Replacing a file that fails leaves it as it was, wherever the fault struck. -/
theorem read_replace_error {d left : Directory} {name : String} {content : List UInt8}
    {fault : Option Fault} {e : FileError} (h : d.replace name content fault = (.error e, left)) :
    left.read name = d.read name := by
  have hstaged := find?_stage_of_ne (ne_stagingName name) d content fault
  unfold replace at h
  split at h
  · rename_i hstage
    obtain ⟨-, rfl⟩ := Prod.mk.inj h
    rw [hstage] at hstaged
    rw [read, read, find?_removeFile_of_ne (ne_stagingName name), hstaged]
  · rename_i hstage
    rw [hstage] at hstaged
    split at h
    · obtain ⟨-, rfl⟩ := Prod.mk.inj h
      rw [read, read, hstaged]
    split at h
    · obtain ⟨-, rfl⟩ := Prod.mk.inj h
      rw [read, read, hstaged]
    · simp at h

end Directory

namespace Vault

/-- The state file, where there is one, holds the registry that is served. -/
def Synced (v : Vault) : Prop :=
  ∀ f, v.file = some f → f.directory.read f.name = .ok v.registry.encode

/-- What the state file reads as, if there is one. -/
def content? (v : Vault) : Option (Except FileError (List UInt8)) :=
  v.file.map fun f => f.directory.read f.name

/-- The state file, where there is one, reads as the registry that is served, however it spells
it. -/
def Faithful (v : Vault) : Prop :=
  ∀ read, v.content? = some read → ∃ content, read = .ok content ∧
    Registry.decode content = .ok v.registry

theorem synced_of_file {r : Registry} {f : StateFile}
    (h : f.directory.read f.name = .ok r.encode) : Synced ⟨r, some f⟩ := by
  intro g hg
  cases hg
  exact h

theorem save_ok {f saved : StateFile} {r : Registry} {fault : Option Directory.Fault}
    (h : save f r fault = (.ok (), saved)) : saved.directory.read saved.name = .ok r.encode := by
  obtain ⟨hresult, rfl⟩ := Prod.mk.inj h
  exact Directory.read_replace_ok (Prod.ext hresult rfl)

theorem save_error {f left : StateFile} {r : Registry} {fault : Option Directory.Fault}
    {e : FileError} (h : save f r fault = (.error e, left)) :
    left.directory.read left.name = f.directory.read f.name := by
  obtain ⟨hresult, rfl⟩ := Prod.mk.inj h
  exact Directory.read_replace_error (Prod.ext hresult rfl)

/-- A registry that is committed is the one that is served and the one in the file. -/
theorem commit_ok {v v' : Vault} {r : Registry} {fault : Option Directory.Fault}
    (h : v.commit r fault = (.ok (), v')) : v'.registry = r ∧ v'.Synced := by
  unfold commit at h
  split at h
  · rename_i hfile
    obtain ⟨-, rfl⟩ := Prod.mk.inj h
    exact ⟨rfl, fun f hf => by simp [hfile] at hf⟩
  split at h
  · rename_i hsave
    obtain ⟨-, rfl⟩ := Prod.mk.inj h
    exact ⟨rfl, synced_of_file (save_ok hsave)⟩
  · simp at h

/-- A commit that fails changes neither what is served nor what the file holds. -/
theorem commit_error {v v' : Vault} {r : Registry} {fault : Option Directory.Fault} {e : Error}
    (h : v.commit r fault = (.error e, v')) :
    v'.registry = v.registry ∧ v'.content? = v.content? := by
  unfold commit at h
  split at h
  · simp at h
  rename_i f hfile
  split at h
  · simp at h
  · rename_i hsave
    obtain ⟨-, rfl⟩ := Prod.mk.inj h
    refine ⟨rfl, ?_⟩
    simp only [content?, hfile, Option.map_some, save_error hsave]

theorem create_ok {v v' : Vault} {t : NewToken} {digest : Digest} {now : Timestamp}
    {fault : Option Directory.Fault} {token : Token}
    (h : v.create t digest now fault = (.ok token, v')) :
    v.registry.create t digest now = (token, v'.registry) ∧ v'.Synced := by
  simp only [create] at h
  split at h
  · rename_i hcommit
    obtain ⟨htoken, rfl⟩ := Prod.mk.inj h
    obtain ⟨hregistry, hsynced⟩ := commit_ok hcommit
    exact ⟨Prod.ext (Except.ok.inj htoken) hregistry.symm, hsynced⟩
  · simp at h

theorem create_error {v v' : Vault} {t : NewToken} {digest : Digest} {now : Timestamp}
    {fault : Option Directory.Fault} {e : Error}
    (h : v.create t digest now fault = (.error e, v')) :
    v'.registry = v.registry ∧ v'.content? = v.content? := by
  simp only [create] at h
  split at h
  · simp at h
  · rename_i hcommit
    obtain ⟨-, rfl⟩ := Prod.mk.inj h
    exact commit_error hcommit

theorem delete_ok {v v' : Vault} {id : TokenId} {fault : Option Directory.Fault} {token : Token}
    (h : v.delete id fault = (.ok token, v')) :
    v.registry.delete id = .ok (token, v'.registry) ∧ v'.Synced := by
  unfold delete at h
  split at h
  · simp at h
  rename_i hdelete
  split at h
  · rename_i hcommit
    obtain ⟨htoken, rfl⟩ := Prod.mk.inj h
    obtain ⟨hregistry, hsynced⟩ := commit_ok hcommit
    exact ⟨by rw [hdelete, Except.ok.inj htoken, hregistry], hsynced⟩
  · simp at h

theorem delete_error {v v' : Vault} {id : TokenId} {fault : Option Directory.Fault} {e : Error}
    (h : v.delete id fault = (.error e, v')) :
    v'.registry = v.registry ∧ v'.content? = v.content? := by
  unfold delete at h
  split at h
  · obtain ⟨-, rfl⟩ := Prod.mk.inj h
    exact ⟨rfl, rfl⟩
  split at h
  · simp at h
  · rename_i hcommit
    obtain ⟨-, rfl⟩ := Prod.mk.inj h
    exact commit_error hcommit

/-! A state file neither appears nor vanishes, whether or not it can be written. -/

@[simp] theorem isSome_file_commit (v : Vault) (r : Registry) (fault : Option Directory.Fault) :
    (v.commit r fault).2.file.isSome = v.file.isSome := by
  rcases hfile : v.file with _ | f
  · simp [commit, hfile]
  · simp only [commit, hfile]
    split <;> rfl

@[simp] theorem isSome_file_create (v : Vault) (t : NewToken) (digest : Digest) (now : Timestamp)
    (fault : Option Directory.Fault) :
    (v.create t digest now fault).2.file.isSome = v.file.isSome := by
  have hcommit := isSome_file_commit v (v.registry.create t digest now).2 fault
  simp only [create]
  split <;> simp_all

@[simp] theorem isSome_file_delete (v : Vault) (id : TokenId) (fault : Option Directory.Fault) :
    (v.delete id fault).2.file.isSome = v.file.isSome := by
  rcases hdelete : v.registry.delete id with e | ⟨t, r⟩
  · simp [delete, hdelete]
  · have hcommit := isSome_file_commit v r fault
    simp only [delete, hdelete]
    split <;> simp_all

namespace Synced

variable {v v' : Vault}

/-- The file holds what is served, if it is there at all. -/
theorem content?_eq (h' : v'.Synced) (hfile : v'.file.isSome = v.file.isSome) :
    v'.content? = v.content?.map fun _ => .ok v'.registry.encode := by
  rcases hv : v.file with _ | f <;> rcases hv' : v'.file with _ | f' <;> simp [hv, hv'] at hfile
  · simp [content?, hv, hv']
  · simp [content?, hv, hv', h' f' hv']

theorem faithful (h : v.Synced) : v.Faithful := by
  intro read hread
  rw [h.content?_eq rfl] at hread
  obtain ⟨_, -, hencode⟩ := Option.map_eq_some_iff.1 hread
  exact ⟨_, hencode.symm, v.registry.decode_encode⟩

theorem of_eq (h : v.Synced) (hregistry : v'.registry = v.registry)
    (hcontent : v'.content? = v.content?) : v'.Synced := by
  intro f hf
  have hread : v.content? = some (f.directory.read f.name) := by rw [← hcontent, content?, hf]; rfl
  rw [h.content?_eq rfl] at hread
  obtain ⟨_, -, hencode⟩ := Option.map_eq_some_iff.1 hread
  rw [hregistry, hencode]

end Synced

namespace Faithful

variable {v v' : Vault} {f : StateFile}

theorem of_eq (h : v.Faithful) (hregistry : v'.registry = v.registry)
    (hcontent : v'.content? = v.content?) : v'.Faithful := by
  intro read hread
  rw [hcontent] at hread
  rw [hregistry]
  exact h read hread

lemma load (h : v.Faithful) (hf : v.file = some f) (fault : Option Directory.Fault) :
    Vault.load f fault = (.ok v.registry, f) := by
  obtain ⟨content, hread, hdecode⟩ := h (f.directory.read f.name) (by simp [content?, hf])
  simp only [Vault.load, hread, hdecode]

/-- Opening the file of a vault anew gives the same vault. -/
theorem openFile (h : v.Faithful) (hf : v.file = some f) (fault : Option Directory.Fault) :
    Vault.openFile f fault = .ok v := by simp only [Vault.openFile, h.load hf, ← hf]

theorem reload (h : v.Faithful) (hf : v.file = some f) (fault : Option Directory.Fault) :
    v.reload f fault = (.ok (), v) := by simp only [Vault.reload, h.load hf, ← hf]

end Faithful

/-- A state file that is missing is made anew, with nothing in it. -/
theorem exists_save_of_missing {f : StateFile} {fault : Option Directory.Fault} {v : Vault}
    (missing : f.directory.read f.name = .error .notFound) (opened : openFile f fault = .ok v) :
    ∃ saved, save f .empty fault = (.ok (), saved) ∧ v = ⟨.empty, some saved⟩ := by
  rw [openFile, load, missing] at opened
  rcases hsave : save f .empty fault with ⟨_ | _, saved⟩
  · simp [hsave] at opened
  · simp only [hsave, Except.ok.injEq] at opened
    exact ⟨saved, rfl, opened.symm⟩

/-- A vault as it is when nothing has been kept yet: without a file, or with one that was missing
and had to be made. -/
inductive Fresh : Vault → Prop
  | inMemory : Fresh inMemory
  | onFile {f : StateFile} {fault : Option Directory.Fault} {v : Vault}
      (missing : f.directory.read f.name = .error .notFound) (opened : openFile f fault = .ok v) :
      Fresh v

theorem Fresh.registry_synced {v : Vault} (h : Fresh v) : v.registry = .empty ∧ v.Synced := by
  cases h with
  | inMemory => exact ⟨rfl, fun f hf => by cases hf⟩
  | onFile missing opened =>
    obtain ⟨saved, hsave, rfl⟩ := exists_save_of_missing missing opened
    exact ⟨rfl, synced_of_file (save_ok hsave)⟩

end Vault

end ZoneGate
