import ZoneGate.Registry

/-!
# The kept registry

A vault serves a registry and, where it has a state file, keeps the file up to date: a change is
served only after it has been written, so that a failed write leaves everything as it was.
-/
namespace ZoneGate

/-- The state file: its name and the directory it is in. -/
structure StateFile where
  name : String
  directory : Directory
  deriving DecidableEq

structure Vault where
  registry : Registry
  file : Option StateFile
  deriving DecidableEq

namespace Vault

/-- A vault without a file. -/
def inMemory : Vault := ⟨.empty, none⟩

/-- Writes a registry to the state file. -/
def save (f : StateFile) (r : Registry) (fault : Option Directory.Fault) :
    Except FileError Unit × StateFile :=
  let (result, directory) := f.directory.replace f.name r.encode fault
  (result, { f with directory })

/-- Opens a state file. A missing one is written anew with the empty registry. -/
def load (f : StateFile) (fault : Option Directory.Fault) : Except Error Registry × StateFile :=
  match f.directory.read f.name with
  | .ok content =>
    match Registry.decode content with
    | .ok r => (.ok r, f)
    | .error e => (.error (.invalidJson e), f)
  | .error .notFound =>
    match save f .empty fault with
    | (.ok (), f) => (.ok .empty, f)
    | (.error e, f) => (.error (.file e), f)
  | .error e => (.error (.file e), f)

/-- Opens the vault of a state file, or gives back the directory as it was left. -/
def openFile (f : StateFile) (fault : Option Directory.Fault) : Except Error Vault :=
  match load f fault with
  | (.ok r, f) => .ok ⟨r, some f⟩
  | (.error e, _) => .error e

/-- Opens the state file again. Where that fails, the registry that was served stays. -/
def reload (v : Vault) (f : StateFile) (fault : Option Directory.Fault) :
    Except Error Unit × Vault :=
  match load f fault with
  | (.ok r, f) => (.ok (), ⟨r, some f⟩)
  | (.error e, f) => (.error e, { v with file := some f })

/-- Serves a registry once it is written. -/
def commit (v : Vault) (r : Registry) (fault : Option Directory.Fault) :
    Except Error Unit × Vault :=
  match v.file with
  | none => (.ok (), { v with registry := r })
  | some f =>
    match save f r fault with
    | (.ok (), f) => (.ok (), ⟨r, some f⟩)
    | (.error e, f) => (.error (.file e), { v with file := some f })

/-- Makes a token and keeps it. -/
def create (v : Vault) (t : NewToken) (digest : Digest) (now : Timestamp)
    (fault : Option Directory.Fault) : Except Error Token × Vault :=
  let (token, r) := v.registry.create t digest now
  match v.commit r fault with
  | (.ok (), v) => (.ok token, v)
  | (.error e, v) => (.error e, v)

/-- Deletes a token for good. -/
def delete (v : Vault) (id : TokenId) (fault : Option Directory.Fault) :
    Except Error Token × Vault :=
  match v.registry.delete id with
  | .error e => (.error e, v)
  | .ok (token, r) =>
    match v.commit r fault with
    | (.ok (), v) => (.ok token, v)
    | (.error e, v) => (.error e, v)

/-- Whether the state file, if there is one, is in its place. -/
def ready (v : Vault) : Except Error Unit :=
  match v.file with
  | none => .ok ()
  | some f => if f.directory.has f.name then .ok () else .error (.file .notFound)

end Vault

end ZoneGate
