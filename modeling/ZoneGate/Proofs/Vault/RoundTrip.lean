import ZoneGate.Proofs.Vault.Written

/-!
# Writing a registry and reading it back

Whatever a registry holds, its state file reads back as that registry. So a file that was read, in
any of the spellings that reading allows, is written anew without loss: what changes is its
spelling and not what it says.
-/
namespace ZoneGate

/-- There is room for the state file: its directory is there, and no folder has its name or the one
under which it is prepared. -/
structure StateFile.Writable (f : StateFile) : Prop where
  directory : f.directory.entries?.isSome
  named : f.name ≠ ""
  file : f.directory.find? f.name ≠ some .folder
  staging : f.directory.find? (Directory.stagingName f.name) ≠ some .folder

instance (f : StateFile) : Decidable f.Writable :=
  decidable_of_iff
    (f.directory.entries?.isSome ∧ f.name ≠ "" ∧ f.directory.find? f.name ≠ some .folder ∧
      f.directory.find? (Directory.stagingName f.name) ≠ some .folder)
    ⟨fun ⟨a, b, c, d⟩ => ⟨a, b, c, d⟩, fun ⟨a, b, c, d⟩ => ⟨a, b, c, d⟩⟩

namespace Vault

theorem exists_save {f : StateFile} (hf : f.Writable) (r : Registry) :
    ∃ saved, save f r none = (.ok (), saved) := by
  obtain ⟨replaced, hreplace⟩ :=
    Directory.exists_replace_of_room hf.directory hf.named hf.file hf.staging r.encode
  exact ⟨{ f with directory := replaced }, by simp only [save, hreplace]⟩

/-- A file that was saved opens as what was saved in it. -/
theorem openFile_save {f saved : StateFile} {r : Registry} {fault : Option Directory.Fault}
    (h : save f r fault = (.ok (), saved)) (later : Option Directory.Fault) :
    openFile saved later = .ok ⟨r, some saved⟩ :=
  (synced_of_file (save_ok h)).faithful.openFile rfl later

/-- A file that is there opens as the registry it reads as. -/
theorem openFile_of_read {f : StateFile} {content : List UInt8}
    (hread : f.directory.read f.name = .ok content) (fault : Option Directory.Fault) :
    openFile f fault = match Registry.decode content with
      | .ok r => .ok ⟨r, some f⟩
      | .error e => .error (.invalidJson e) := by
  simp only [openFile, load, hread]
  cases Registry.decode content <;> rfl

/-- Every registry reads back from what is written of it; in particular one that was read from a
file does, however that file spelt it. -/
theorem round_trip {f : StateFile} (hf : f.Writable) :
    (∀ r : Registry, Registry.decode r.encode = .ok r ∧
      ∃ saved, save f r none = (.ok (), saved) ∧ saved.directory.read saved.name = .ok r.encode ∧
        ∀ fault, openFile saved fault = .ok ⟨r, some saved⟩) ∧
    ∀ content fault v, f.directory.read f.name = .ok content → openFile f fault = .ok v →
      Registry.decode content = .ok v.registry ∧
      ∃ saved, save f v.registry none = (.ok (), saved) ∧
        ∀ later, openFile saved later = .ok ⟨v.registry, some saved⟩ := by
  have hwritten (r : Registry) : ∃ saved, save f r none = (.ok (), saved) ∧
      saved.directory.read saved.name = .ok r.encode ∧
        ∀ fault, openFile saved fault = .ok ⟨r, some saved⟩ := by
    obtain ⟨saved, hsave⟩ := exists_save hf r
    exact ⟨saved, hsave, save_ok hsave, openFile_save hsave⟩
  refine ⟨fun r => ⟨r.decode_encode, hwritten r⟩, fun content fault v hread hopen => ?_⟩
  obtain ⟨saved, hsave, -, hreopen⟩ := hwritten v.registry
  refine ⟨?_, saved, hsave, hreopen⟩
  rw [openFile_of_read hread] at hopen
  rcases hdecode : Registry.decode content with e | r
  · simp [hdecode] at hopen
  · simp only [hdecode, Except.ok.injEq] at hopen
    rw [← hopen]

/-- A state file in an unusual spelling: a record as the list of its fields, a leap second, a code
for a name, members of sets twice and hex digits in capitals. -/
def unusualText : List UInt8 := Text.bytes
  "[1, true, \x7b\"1\": \x7b\"id\": 1, \"name\": \"\\u00e9\", \"is_admin\": false,
    \"created_at\": \"2024-02-29t23:59:60.5z\",
    \"permissions\": [[7, [\"get_zone\", \"get_zone\"], [3, \"txt\"]]],
    \"secret_digest\": \"ABCDEF0123456789ABCDEF0123456789ABCDEF0123456789ABCDEF0123456789\"
  \x7d\x7d]"

theorem isSome_decode_unusualText : (Registry.decode unusualText).toOption.isSome := by
  decide +kernel

def unusual : StateFile := ⟨"tokens.json", ⟨some [("tokens.json", .file unusualText)]⟩⟩

theorem exists_openFile_unusual : ∃ v, openFile unusual none = .ok v := by
  have hreadable := isSome_decode_unusualText
  rw [openFile_of_read (show unusual.directory.read unusual.name = .ok unusualText from rfl)]
  generalize Registry.decode unusualText = decoded at hreadable ⊢
  cases decoded with
  | error e => simp [Except.toOption] at hreadable
  | ok r => exact ⟨_, rfl⟩

theorem round_trip_unusual : ∃ v saved, openFile unusual none = .ok v ∧
    save unusual v.registry none = (.ok (), saved) ∧
      openFile saved none = .ok ⟨v.registry, some saved⟩ := by
  have hwritable : unusual.Writable := by decide +kernel
  obtain ⟨v, hopen⟩ := exists_openFile_unusual
  obtain ⟨-, saved, hsave, hreopen⟩ := (round_trip hwritable).2 unusualText none v rfl hopen
  exact ⟨v, saved, hopen, hsave, hreopen none⟩

end Vault

end ZoneGate
