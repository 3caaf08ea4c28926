/-!
# The directory of the state file

A directory holds named files and folders, or is itself missing. Writing a file anew goes through
single steps (create, write, sync, rename), each of which may fail; a step that fails changes
nothing.
-/
namespace ZoneGate

/-- Why a step on a file fails. -/
inductive FileError where
  | notFound
  | isDirectory
  /-- A failure of the disk itself. -/
  | disk (reason : String)
  deriving DecidableEq, Repr

def FileError.message : FileError → String
  | notFound => "No such file or directory (os error 2)"
  | isDirectory => "Is a directory (os error 21)"
  | disk reason => reason

inductive Entry where
  | file (content : List UInt8)
  | folder
  deriving DecidableEq

/-- The entries by name, or nothing where the directory is missing. -/
structure Directory where
  entries? : Option (List (String × Entry))
  deriving DecidableEq

namespace Directory

def missing : Directory := ⟨none⟩

def empty : Directory := ⟨some []⟩

def find? (d : Directory) (name : String) : Option Entry :=
  d.entries?.bind fun entries => entries.lookup name

/-- Sets or, with `none`, removes the entry of a name. A missing directory stays missing. -/
def set (d : Directory) (name : String) (entry : Option Entry) : Directory :=
  ⟨d.entries?.map fun entries =>
    let others := entries.filter fun e => e.1 ≠ name
    match entry with
    | none => others
    | some e => (name, e) :: others⟩

/-- Whether anything of that name is there. -/
def has (d : Directory) (name : String) : Bool := (d.find? name).isSome

def read (d : Directory) (name : String) : Except FileError (List UInt8) :=
  match d.find? name with
  | none => .error .notFound
  | some .folder => .error .isDirectory
  | some (.file content) => .ok content

/-- Makes an empty file, or empties the file that is there. -/
def create (d : Directory) (name : String) : Except FileError Directory :=
  match d.entries?, d.find? name with
  | none, _ => .error .notFound
  | some _, some .folder => .error .isDirectory
  | some _, _ => .ok (d.set name (some (.file [])))

/-- Gives a file its content. -/
def write (d : Directory) (name : String) (content : List UInt8) : Directory :=
  d.set name (some (.file content))

/-- Removes a file; a folder or a missing file is left as it is. -/
def removeFile (d : Directory) (name : String) : Directory :=
  match d.find? name with
  | some (.file _) => d.set name none
  | _ => d

/-- Moves a file over another one in a single step. Nothing can be moved to the empty name. -/
def rename (d : Directory) (source target : String) : Except FileError Directory :=
  match d.find? source, d.find? target with
  | none, _ => .error .notFound
  | some _, some .folder => .error .isDirectory
  | some entry, _ =>
    if target.isEmpty then .error .notFound
    else .ok ((d.set source none).set target (some entry))

/-- A step in which the disk fails. -/
inductive FailingStep where
  | create
  /-- After that many bytes of the content. -/
  | write (written : Nat)
  | sync
  | rename
  deriving DecidableEq

structure Fault where
  step : FailingStep
  reason : String
  deriving DecidableEq

/-- The name under which a file is prepared before it takes its place. -/
def stagingName (name : String) : String :=
  (if name.isEmpty then "tokens" else name) ++ ".tmp"

/-- Prepares the content under the staging name, up to the point where a fault strikes. -/
def stage (d : Directory) (name : String) (content : List UInt8) (fault : Option Fault) :
    Except FileError Unit × Directory :=
  let failing : Option FailingStep := fault.map (·.step)
  let reason := (fault.map (·.reason)).getD ""
  if failing = some .create then (.error (.disk reason), d)
  else
    match d.create name with
    | .error e => (.error e, d)
    | .ok created =>
      match failing with
      | some (.write written) => (.error (.disk reason), created.write name (content.take written))
      | some .sync => (.error (.disk reason), created.write name content)
      | _ => (.ok (), created.write name content)

/-- Replaces a file as a whole. The new content is prepared next to it and then renamed over it, so
that the file holds either its old or its new content. Where preparing fails, what it has left is
removed as far as possible. -/
def replace (d : Directory) (name : String) (content : List UInt8) (fault : Option Fault) :
    Except FileError Unit × Directory :=
  match d.stage (stagingName name) content fault with
  | (.error e, d) => (.error e, d.removeFile (stagingName name))
  | (.ok (), d) =>
    match fault with
    | some ⟨.rename, reason⟩ => (.error (.disk reason), d)
    | _ =>
      match d.rename (stagingName name) name with
      | .error e => (.error e, d)
      | .ok d => (.ok (), d)

end Directory

end ZoneGate
