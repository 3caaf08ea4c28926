import ZoneGate.Proofs.Session.History
import ZoneGate.Proofs.Vault.Mirror

/-!
# The ledger of a vault

Tokens are made and deleted by calls of the service and by operations on the vault itself, in any
order, while writes fail and the file is opened anew. What the vault lists is the ledger of all
this: the very tokens that were given back when they were made, without the deleted ones.
-/
namespace ZoneGate

/-- A call on the service or an operation on its vault, with what it came to. -/
inductive Record where
  | call (event : Event)
  | operation (op : Operation) (result : Except Error Outcome)

namespace Record

/-- The change that was made, if one was. -/
def change? : Record → Option Change
  | call event => event.change?
  | operation op result => op.change? result

def changes (records : List Record) : List Change := records.filterMap change?

/-- The tokens that were given back when they were made. -/
def made (records : List Record) : List Token := Change.tokens (changes records)

/-- Those of them whose id no deletion named that succeeded. -/
def remaining (records : List Record) : List Token := Change.remaining (changes records)

end Record

/-! ## One operation -/

theorem Registry.Settles.of_take {r r' : Registry} {op : Operation}
    {result : Except Error Outcome} (h : r.take op = (result, r')) :
    r.Settles (op.change? result) r' := by
  obtain ⟨rfl, rfl⟩ := Prod.mk.inj h
  cases op with
  | create t digest now => exact .changed (.made rfl)
  | delete id =>
    rcases hdelete : r.delete id with e | ⟨t, r'⟩
    · simp only [hdelete]
      exact .unchanged
    · simp only [hdelete]
      exact .changed (.deleted hdelete)
  | get => exact .unchanged
  | list => exact .unchanged
  | find => exact .unchanged
  | adminEverCreated => exact .unchanged

namespace Vault

theorem take_settles {v : Vault} (hv : v.Synced) (fault : Option Directory.Fault)
    (op : Operation) :
    v.registry.Settles (op.change? (v.take fault op).1) (v.take fault op).2.registry ∧
      (v.take fault op).2.Synced := by
  cases op with
  | create t digest now =>
    rcases hdone : v.create t digest now fault with ⟨e | token, v'⟩
    · obtain ⟨hregistry, hcontent⟩ := create_error hdone
      simp only [take, hdone, Except.map, hregistry]
      exact ⟨.unchanged, hv.of_eq hregistry hcontent⟩
    · obtain ⟨hcreate, hsynced⟩ := create_ok hdone
      simp only [take, hdone, Except.map]
      exact ⟨.changed (.made hcreate), hsynced⟩
  | delete id =>
    rcases hdone : v.delete id fault with ⟨e | token, v'⟩
    · obtain ⟨hregistry, hcontent⟩ := delete_error hdone
      simp only [take, hdone, Except.map, hregistry]
      exact ⟨.unchanged, hv.of_eq hregistry hcontent⟩
    · obtain ⟨hdelete, hsynced⟩ := delete_ok hdone
      simp only [take, hdone, Except.map]
      exact ⟨.changed (.deleted hdelete), hsynced⟩
  | get => exact ⟨.unchanged, hv⟩
  | list => exact ⟨.unchanged, hv⟩
  | find => exact ⟨.unchanged, hv⟩
  | adminEverCreated => exact ⟨.unchanged, hv⟩

/-! ## Any number of them -/

/-- A vault in which nothing was kept at first, after calls and operations in any order, with the
disk failing in any of them, the vault opened anew at any time and the directory changed in any way
that leaves the state file alone. -/
inductive Recorded (access : Access) : Vault → List Record → Prop
  | start {v : Vault} (fresh : v.Fresh) : Recorded access v []
  | call {v : Vault} {records : List Record} (recorded : Recorded access v records) (c : Call) :
      Recorded access (v.perform access c).2 (records ++ [.call ⟨c, (v.perform access c).1⟩])
  | operation {v : Vault} {records : List Record} (recorded : Recorded access v records)
      (fault : Option Directory.Fault) (op : Operation) :
      Recorded access (v.take fault op).2 (records ++ [.operation op (v.take fault op).1])
  | reopen {v v' : Vault} {records : List Record} {f : StateFile}
      (recorded : Recorded access v records) (file : v.file = some f)
      (fault : Option Directory.Fault) (opened : openFile f fault = .ok v') :
      Recorded access v' records
  | disturb {v : Vault} {records : List Record} {f : StateFile}
      (recorded : Recorded access v records) (file : v.file = some f) (d : Directory)
      (same : d.read f.name = f.directory.read f.name) :
      Recorded access { v with file := some { f with directory := d } } records

namespace Recorded

variable {access : Access} {v : Vault} {records : List Record}

/-- The changes on record lead to the registry that is served. -/
theorem kept_synced (h : Recorded access v records) :
    Kept (Record.changes records) v.registry ∧ v.Synced := by
  induction h with
  | start fresh =>
    obtain ⟨hregistry, hsynced⟩ := fresh.registry_synced
    exact ⟨hregistry ▸ .start, hsynced⟩
  | call _ c ih =>
    obtain ⟨hkept, hsynced⟩ := ih
    obtain ⟨heffect, hafter⟩ := perform_effect access hsynced.faithful c
    rw [Record.changes, filterMap_concat]
    exact ⟨hkept.settle heffect.settles, hafter.synced hsynced⟩
  | operation _ fault op ih =>
    obtain ⟨hkept, hsynced⟩ := ih
    obtain ⟨hsettles, hafter⟩ := take_settles hsynced fault op
    rw [Record.changes, filterMap_concat]
    exact ⟨hkept.settle hsettles, hafter⟩
  | reopen _ file fault opened ih =>
    rw [ih.2.faithful.openFile file] at opened
    cases opened
    exact ih
  | disturb _ file d same ih =>
    exact ⟨ih.1, synced_of_file (same.trans (ih.2 _ file))⟩

/-- What was deleted is the token of that id among those remaining until then. -/
theorem deleted (h : Recorded access v records) (hsize : (Record.made records).length < UInt64.size)
    {before after : List Record} {record : Record} (hrecords : records = before ++ record :: after)
    {id : TokenId} {t : Token} (hchange : record.change? = some (.deleted id t)) :
    t ∈ Record.remaining before ∧ t.id = id := by
  subst hrecords
  have hkept := h.kept_synced.1
  have hsplit : Record.changes (before ++ record :: after) =
      Record.changes before ++ .deleted id t :: Record.changes after := by
    rw [Record.changes, List.filterMap_append, List.filterMap_cons_some hchange]
    rfl
  rw [hsplit] at hkept
  have hbefore : (Change.tokens (Record.changes before)).length < UInt64.size := by
    rw [Record.made, hsplit, Change.tokens, List.filterMap_append, List.length_append] at hsize
    exact Nat.lt_of_le_of_lt (Nat.le_add_right _ _) hsize
  obtain ⟨r₁, r₂, hr₁, hturns⟩ := hkept.exists_turns
  cases hturns with
  | deleted deleted =>
    obtain ⟨hget, -, -⟩ := Registry.delete_ok deleted
    exact (hr₁.get?_eq_some_iff hbefore).1 hget

end Recorded

/-- What it means that a vault is the ledger of what was recorded. -/
structure Ledger (v : Vault) (records : List Record) : Prop where
  /-- Tokens are numbered from one in the order in which they are made. -/
  numbered : ∀ k t, (Record.made records)[k]? = some t → t.id.toNat = k + 1
  /-- Each token that is listed is the one that was given back when it was made. -/
  listed : v.registry.list = Record.remaining records
  ascending : v.registry.list.Pairwise (·.id < ·.id)
  found : ∀ id t, v.registry.get id = .ok t ↔ t ∈ v.registry.list ∧ t.id = id
  missing : ∀ id, (∀ t ∈ v.registry.list, t.id ≠ id) →
    v.registry.get id = .error (.tokenNotFound id)
  /-- A deletion gives back the token of that id among those remaining until then. -/
  deleted : ∀ before record after, records = before ++ record :: after →
    ∀ id t, record.change? = some (.deleted id t) → t ∈ Record.remaining before ∧ t.id = id

/-- As long as the ids have not come round, a vault is the ledger of what was recorded, whatever
the disk does. -/
theorem Recorded.ledger {access : Access} {v : Vault} {records : List Record}
    (h : Recorded access v records) (hsize : (Record.made records).length < UInt64.size) :
    Ledger v records := by
  obtain ⟨hkept, -⟩ := h.kept_synced
  have hlist : v.registry.list = Record.remaining records := hkept.list_eq hsize
  have hget : ∀ id t, v.registry.tokens.get? id = some t ↔ t ∈ v.registry.list ∧ t.id = id := by
    intro id t
    rw [hlist]
    exact hkept.get?_eq_some_iff hsize
  exact {
    numbered := fun k t ht => hkept.toNat_id_of_getElem? hsize ht
    listed := hlist
    ascending := hlist ▸ (hkept.ascending hsize).filter _
    found := fun id t => Registry.get_eq_ok_iff.trans (hget id t)
    missing := fun id hnone => by
      refine Registry.get_eq_error_iff.2 (Option.eq_none_iff_forall_ne_some.2 fun t hfound => ?_)
      obtain ⟨ht, hid⟩ := (hget id t).1 hfound
      exact hnone t ht hid
    deleted := fun before record after hrecords id t => h.deleted hsize hrecords }

/-- The sample makes an administrator and another token, fails to save a third one, is opened anew
and deletes the second. -/
theorem ledger_sample : ∃ v records, Recorded .sample v records ∧
    (Record.made records).map (·.name) = ["ops", "dns"] ∧
      v.registry.list.map (·.name) = ["ops"] ∧ Ledger v records := by
  have opened : openFile ⟨"tokens.json", .empty⟩ none = .ok sample := rfl
  have hfresh : Recorded .sample sample [] := .start (.onFile rfl opened)
  have hmade := hfresh.operation none (.create ⟨"ops", true, []⟩ default default)
  have hscoped := hmade.operation none (.create ⟨"dns", false, []⟩ default default)
  have hfailed := hscoped.operation (some ⟨.sync, "No space left on device (os error 28)"⟩)
    (.create ⟨"more", true, []⟩ default default)
  have hopened := hfailed.reopen rfl none (hfailed.kept_synced.2.faithful.openFile rfl none)
  have hdeleted := hopened.operation none (.delete 2)
  have hsize : 2 < UInt64.size := by decide
  exact ⟨_, _, hdeleted, rfl, rfl, hdeleted.ledger hsize⟩

end Vault

end ZoneGate
