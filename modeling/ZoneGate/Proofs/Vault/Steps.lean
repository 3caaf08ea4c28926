import Mathlib.Logic.Relation
import ZoneGate.Proofs.Vault.Written

/-!
# Replacing a file step by step

The replacement of a file goes through single steps on the directory, and the process may die
between any two of them. The file holds its old content up to the last step and the new content
from then on, however much has been prepared next to it.
-/
namespace ZoneGate

namespace Directory

/-- How far the replacement of a file has come. -/
inductive Progress where
  | begun
  /-- That many bytes of the content are written under the staging name. -/
  | writing (written : Nat)
  | synced
  /-- Preparing has failed; what it has left is still there. -/
  | failed (e : FileError)
  | finished (result : Except FileError Unit)

/-- One step in the replacement of a file. Whatever the disk is asked for may fail, for any reason,
and so may the removal of what was prepared. -/
inductive Step (name : String) (content : List UInt8) :
    Progress × Directory → Progress × Directory → Prop
  | create {d created : Directory} (made : d.create (stagingName name) = .ok created) :
      Step name content (.begun, d) (.writing 0, created)
  | createFails {d : Directory} (e : FileError) : Step name content (.begun, d) (.failed e, d)
  | write {d : Directory} {written : Nat} (more : written < content.length) :
      Step name content (.writing written, d)
        (.writing (written + 1), d.write (stagingName name) (content.take (written + 1)))
  | sync {d : Directory} : Step name content (.writing content.length, d) (.synced, d)
  | writeFails {d : Directory} {written : Nat} (e : FileError) :
      Step name content (.writing written, d) (.failed e, d)
  | rename {d renamed : Directory} (moved : d.rename (stagingName name) name = .ok renamed) :
      Step name content (.synced, d) (.finished (.ok ()), renamed)
  | renameFails {d : Directory} (e : FileError) :
      Step name content (.synced, d) (.finished (.error e), d)
  | clean {d : Directory} {e : FileError} :
      Step name content (.failed e, d) (.finished (.error e), d.removeFile (stagingName name))
  | cleanFails {d : Directory} {e : FileError} :
      Step name content (.failed e, d) (.finished (.error e), d)

/-- Any number of steps. -/
abbrev Runs (name : String) (content : List UInt8) :
    Progress × Directory → Progress × Directory → Prop :=
  Relation.ReflTransGen (Step name content)

/-- The directories that are there at some moment while a file is replaced. -/
def Passes (d : Directory) (name : String) (content : List UInt8) (left : Directory) : Prop :=
  ∃ p, Runs name content (.begun, d) (p, left)

/-! ## What replacing does is such steps -/

section Runs

variable {d created : Directory} {name : String} {content : List UInt8}

end Runs

/-! ## What a file holds meanwhile -/

theorem read_congr {d d' : Directory} {name : String} (h : d.find? name = d'.find? name) :
    d.read name = d'.read name := by rw [read, read, h]

theorem read_eq_ok {d : Directory} {name : String} {content : List UInt8}
    (h : d.find? name = some (.file content)) : d.read name = .ok content := by rw [read, h]

/-- What holds at every moment: the file is as it was until the last step, and what is prepared is
a beginning of the content. -/
def Keeps (before : Directory) (name : String) (content : List UInt8) :
    Progress × Directory → Prop
  | (.writing written, d) => d.read name = before.read name ∧
      d.find? (stagingName name) = some (.file (content.take written))
  | (.synced, d) => d.read name = before.read name ∧
      d.find? (stagingName name) = some (.file content)
  | (.finished (.ok ()), d) => d.read name = .ok content
  | (_, d) => d.read name = before.read name

variable {before : Directory} {name : String} {content : List UInt8}

theorem Step.keeps {s s' : Progress × Directory} (h : Step name content s s')
    (hs : Keeps before name content s) : Keeps before name content s' := by
  have hne := ne_stagingName name
  cases h with
  | create made =>
    obtain ⟨hentries, rfl⟩ := create_ok made
    exact ⟨(read_congr (find?_set_of_ne hne _ _)).trans hs, find?_set_some hentries _ _⟩
  | createFails => exact hs
  | write =>
    obtain ⟨hread, hstaged⟩ := hs
    exact ⟨(read_congr (find?_set_of_ne hne _ _)).trans hread,
      find?_set_some (isSome_entries?_of_find? hstaged) _ _⟩
  | sync =>
    obtain ⟨hread, hstaged⟩ := hs
    rw [List.take_length] at hstaged
    exact ⟨hread, hstaged⟩
  | writeFails => exact hs.1
  | rename moved => exact read_eq_ok (find?_rename_ok hs.2 moved)
  | renameFails => exact hs.1
  | clean => exact (read_congr (find?_removeFile_of_ne hne _)).trans hs
  | cleanFails => exact hs

theorem Runs.keeps {s s' : Progress × Directory} (h : Runs name content s s')
    (hs : Keeps before name content s) : Keeps before name content s' := by
  induction h with
  | refl => exact hs
  | tail _ step ih => exact step.keeps ih

/-- At every moment a file that is replaced holds its old content or the new one. -/
theorem Passes.read_eq_or {left : Directory} (h : Passes before name content left) :
    left.read name = before.read name ∨ left.read name = .ok content := by
  obtain ⟨p, hruns⟩ := h
  have hkeeps : Keeps before name content (p, left) := Runs.keeps hruns rfl
  match p with
  | .begun => exact .inl hkeeps
  | .writing _ => exact .inl hkeeps.1
  | .synced => exact .inl hkeeps.1
  | .failed _ => exact .inl hkeeps
  | .finished (.ok ()) => exact .inr hkeeps
  | .finished (.error _) => exact .inl hkeeps

end Directory

end ZoneGate
