import Mathlib.Data.List.Sort
import ZoneGate.Proofs.Access.Grants
import ZoneGate.Proofs.Registry.WrittenForm

/-!
# Which grants are valid

A grant is accepted exactly if it breaks no rule, and is refused by the first of the rules that it
breaks. What an accepted grant comes to depends on its lists as sets only: one permission for each
zone, in ascending order, all of them with the same actions and record types.
-/
namespace ZoneGate

/-- Sets with the same members are the same. -/
theorem Choice.eq_of_mem_iff {α : Type} [Listed α] [DecidableEq α] {s t : Choice α}
    (h : ∀ a, a ∈ s ↔ a ∈ t) : s = t := by
  rw [← Choice.ofList_toList s, ← Choice.ofList_toList t]
  simp [Choice.ofList, h]

namespace Grant

/-! ## The rules -/

/-- A grant of nothing by itself, as an administrator takes it. -/
structure Bare (g : Grant) : Prop where
  zones : g.zones = []
  actions : g.actions = []
  recordTypes : g.recordTypes = []

/-- What a grant must be like. -/
inductive Valid (g : Grant) : Prop
  | admin (named : Text.trim g.name ≠ "") (admin : g.isAdmin = true) (bare : g.Bare)
  | zoned (named : Text.trim g.name ≠ "") (noAdmin : g.isAdmin = false) (zones : g.zones ≠ [])
      (actions : g.actions ≠ []) (recordTypes : g.recordTypes ≠ [])
      (grantable : ∀ action ∈ g.actions, action.isAdminOnly = false)

/-- Which rules a grant breaks, each seen by itself. An action that may not be granted is reported
where it stands first. -/
inductive Breaks (g : Grant) : Fault → Prop
  | blankName (blank : Text.trim g.name = "") : g.Breaks .blankName
  | adminWithGrants (admin : g.isAdmin = true) (granted : ¬ g.Bare) : g.Breaks .adminWithGrants
  | noZones (noAdmin : g.isAdmin = false) (missing : g.zones = []) : g.Breaks .noZones
  | noActions (noAdmin : g.isAdmin = false) (missing : g.actions = []) : g.Breaks .noActions
  | noRecordTypes (noAdmin : g.isAdmin = false) (missing : g.recordTypes = []) :
      g.Breaks .noRecordTypes
  | adminOnlyAction {before after : List Action} {action : Action} (noAdmin : g.isAdmin = false)
      (split : g.actions = before ++ action :: after)
      (grantable : ∀ a ∈ before, a.isAdminOnly = false) (only : action.isAdminOnly = true) :
      g.Breaks (.adminOnlyAction action)

/-- The turn at which a rule is looked at. -/
def Fault.turn : Fault → Nat
  | blankName => 0
  | adminWithGrants => 1
  | noZones => 2
  | noActions => 3
  | noRecordTypes => 4
  | adminOnlyAction _ => 5

/-- The first rule that a grant breaks. -/
structure FirstBroken (g : Grant) (fault : Fault) : Prop where
  broken : g.Breaks fault
  first : ∀ other, g.Breaks other → fault.turn ≤ other.turn

variable {g : Grant} {t : NewToken} {fault other : Fault}

lemma bare_iff : g.Bare ↔ (g.zones.isEmpty && g.actions.isEmpty && g.recordTypes.isEmpty) := by
  simp only [Bool.and_eq_true, List.isEmpty_iff]
  exact ⟨fun h => ⟨⟨h.zones, h.actions⟩, h.recordTypes⟩, fun h => ⟨h.1.1, h.1.2, h.2⟩⟩

theorem Valid.not_breaks (h : g.Valid) : ¬ g.Breaks fault := by
  intro hbreaks
  cases h with
  | admin named admin bare => cases hbreaks <;> simp_all
  | zoned named noAdmin zones actions recordTypes grantable =>
    cases hbreaks with
    | adminOnlyAction _ split _ only =>
      have hgrantable := grantable _ (split ▸ List.mem_append_right _ List.mem_cons_self)
      rw [only] at hgrantable
      cases hgrantable
    | _ => simp_all

/-- At one turn there is one rule, which is broken in one way. -/
lemma Breaks.eq_of_turn_eq (h : g.Breaks fault) (h' : g.Breaks other)
    (hturn : fault.turn = other.turn) : fault = other := by
  cases h with
  | adminOnlyAction _ split grantable only =>
    cases h' with
    | adminOnlyAction _ split' grantable' only' =>
      have hfind := List.find?_eq_some_iff_append.2 ⟨only, _, _, split, by simpa using grantable⟩
      have hfind' :=
        List.find?_eq_some_iff_append.2 ⟨only', _, _, split', by simpa using grantable'⟩
      rw [hfind] at hfind'
      rw [Option.some.inj hfind']
    | _ => cases hturn
  | _ => cases h' <;> simp_all [Fault.turn]

theorem FirstBroken.unique (h : g.FirstBroken fault) (h' : g.FirstBroken other) :
    fault = other :=
  h.broken.eq_of_turn_eq h'.broken
    (Nat.le_antisymm (h.first _ h'.broken) (h'.first _ h.broken))

/-! ## What an accepted grant comes to -/

theorem pairwise_insertZone {zone : ZoneId} {zones : List ZoneId}
    (h : zones.Pairwise (·.val < ·.val)) :
    (insertZone zone zones).Pairwise (·.val < ·.val) := by
  induction zones with
  | nil => simp [insertZone]
  | cons head rest ih =>
    obtain ⟨hhead, hrest⟩ := List.pairwise_cons.1 h
    rw [insertZone]
    split
    · rename_i hlt
      refine List.pairwise_cons.2 ⟨fun z hz => ?_, h⟩
      rcases List.mem_cons.1 hz with rfl | hz
      · exact hlt
      · exact UInt64.lt_trans hlt (hhead z hz)
    split
    · exact h
    · rename_i hnlt hne
      refine List.pairwise_cons.2 ⟨fun z hz => ?_, ih hrest⟩
      rcases mem_insertZone.1 hz with rfl | hz
      · refine UInt64.lt_of_le_of_ne (UInt64.not_lt.1 hnlt) fun he => hne ?_
        cases head
        cases z
        simp_all
      · exact hhead z hz

/-- The zones of a grant come out in ascending order, each of them once. -/
theorem pairwise_distinctZones (zones : List ZoneId) :
    (distinctZones zones).Pairwise (·.val < ·.val) := by
  unfold distinctZones
  induction zones with
  | nil => simp
  | cons head rest ih => exact pairwise_insertZone ih

/-- What a grant comes to: as an administrator nothing but the name, and otherwise a permission for
each of its zones. -/
structure Expands (g : Grant) (t : NewToken) : Prop where
  name : t.name = Text.trim g.name
  isAdmin : t.isAdmin = g.isAdmin
  bare : g.isAdmin = true → t.permissions = []
  /-- No zone has two permissions. -/
  ascending : t.permissions.Pairwise (·.zone.val < ·.zone.val)
  zones : ∀ zone, (∃ p ∈ t.permissions, p.zone = zone) ↔ zone ∈ g.zones
  actions : ∀ p ∈ t.permissions, ∀ action, action ∈ p.actions ↔ action ∈ g.actions
  recordTypes : ∀ p ∈ t.permissions, ∀ ty, ty ∈ p.recordTypes ↔ ty ∈ g.recordTypes

lemma expands_bare (hadmin : g.isAdmin = true) (hbare : g.Bare) :
    g.Expands ⟨Text.trim g.name, true, []⟩ :=
  ⟨rfl, hadmin.symm, fun _ => rfl, .nil, by simp [hbare.zones], by simp, by simp⟩

lemma expands_scoped (hscoped : g.isAdmin = false) :
    g.Expands ⟨Text.trim g.name, false, g.permissions⟩ where
  name := rfl
  isAdmin := hscoped.symm
  bare hadmin := by simp [hscoped] at hadmin
  ascending := List.pairwise_map.2 (pairwise_distinctZones g.zones)
  zones zone := by simp [mem_permissions, permission]
  actions p hp action := by
    obtain ⟨zone, -, rfl⟩ := mem_permissions.1 hp
    simp [permission]
  recordTypes p hp ty := by
    obtain ⟨zone, -, rfl⟩ := mem_permissions.1 hp
    simp [permission]

/-- A token that a grant comes to is the only one. -/
theorem Expands.unique {u : NewToken} (h : g.Expands t) (h' : g.Expands u) : t = u := by
  have hpermission {p q : Permission} (hp : p ∈ t.permissions) (hq : q ∈ u.permissions)
      (hzone : p.zone = q.zone) : p = q := by
    have hactions : p.actions = q.actions :=
      Choice.eq_of_mem_iff fun a => (h.actions p hp a).trans (h'.actions q hq a).symm
    have htypes : p.recordTypes = q.recordTypes :=
      Choice.eq_of_mem_iff fun ty => (h.recordTypes p hp ty).trans (h'.recordTypes q hq ty).symm
    cases p
    cases q
    simp_all
  have hmem (p : Permission) : p ∈ t.permissions ↔ p ∈ u.permissions := by
    constructor
    · intro hp
      obtain ⟨q, hq, hzone⟩ := (h'.zones p.zone).2 ((h.zones p.zone).1 ⟨p, hp, rfl⟩)
      rwa [hpermission hp hq hzone.symm]
    · intro hp
      obtain ⟨q, hq, hzone⟩ := (h.zones p.zone).2 ((h'.zones p.zone).1 ⟨p, hp, rfl⟩)
      rwa [← hpermission hq hp hzone]
  have : Std.Irrefl fun p q : Permission => p.zone.val < q.zone.val :=
    ⟨fun p => UInt64.lt_irrefl _⟩
  have : Std.Antisymm fun p q : Permission => p.zone.val < q.zone.val :=
    ⟨fun p q hpq hqp => absurd hqp (UInt64.not_lt.2 (UInt64.le_of_lt hpq))⟩
  have hpermissions := h.ascending.eq_of_mem_iff h'.ascending hmem
  have hname := h.name.trans h'.name.symm
  have hadmin := h.isAdmin.trans h'.isAdmin.symm
  cases t
  cases u
  simp_all

/-! ## Checking -/

lemma valid_of_validate (h : g.validate = .ok t) : g.Valid ∧ g.Expands t := by
  simp only [validate] at h
  split at h
  · cases h
  rename_i hnamed
  have hnamed : Text.trim g.name ≠ "" := by simpa using hnamed
  split at h
  · rename_i hadmin
    split at h
    · rename_i hbare
      cases h
      exact ⟨.admin hnamed hadmin (bare_iff.2 hbare), expands_bare hadmin (bare_iff.2 hbare)⟩
    · cases h
  rename_i hscoped
  have hscoped : g.isAdmin = false := by simpa using hscoped
  split at h
  · cases h
  rename_i hzones
  split at h
  · cases h
  rename_i hactions
  split at h
  · cases h
  rename_i htypes
  split at h
  · cases h
  rename_i hnone
  cases h
  refine ⟨.zoned hnamed hscoped (by simpa using hzones) (by simpa using hactions)
    (by simpa using htypes) fun action haction => ?_, expands_scoped hscoped⟩
  simpa using List.find?_eq_none.1 hnone action haction

lemma firstBroken_of_validate (h : g.validate = .error fault) : g.FirstBroken fault := by
  simp only [validate] at h
  split at h
  · rename_i hblank
    cases h
    exact ⟨.blankName (by simpa using hblank), fun _ _ => Nat.zero_le _⟩
  rename_i hnamed
  have hnamed : Text.trim g.name ≠ "" := by simpa using hnamed
  split at h
  · rename_i hadmin
    split at h
    · cases h
    rename_i hgranted
    cases h
    refine ⟨.adminWithGrants hadmin (mt bare_iff.1 hgranted), fun other hother => ?_⟩
    cases hother <;> simp_all [Fault.turn]
  rename_i hscoped
  have hscoped : g.isAdmin = false := by simpa using hscoped
  split at h
  · rename_i hzones
    cases h
    refine ⟨.noZones hscoped (by simpa using hzones), fun other hother => ?_⟩
    cases hother <;> simp_all [Fault.turn]
  split at h
  · rename_i hactions
    cases h
    refine ⟨.noActions hscoped (by simpa using hactions), fun other hother => ?_⟩
    cases hother <;> simp_all [Fault.turn]
  split at h
  · rename_i htypes
    cases h
    refine ⟨.noRecordTypes hscoped (by simpa using htypes), fun other hother => ?_⟩
    cases hother <;> simp_all [Fault.turn]
  split at h
  · rename_i hfind
    cases h
    obtain ⟨honly, before, after, hsplit, hbefore⟩ := List.find?_eq_some_iff_append.1 hfind
    refine ⟨.adminOnlyAction hscoped hsplit (by simpa using hbefore) honly,
      fun other hother => ?_⟩
    cases hother <;> simp_all [Fault.turn]
  · cases h

/-- Grants that say the same: the order of their lists does not matter, nor how often something is
repeated, nor blanks around the name. -/
structure Alike (g g' : Grant) : Prop where
  name : Text.trim g.name = Text.trim g'.name
  isAdmin : g.isAdmin = g'.isAdmin
  zones : ∀ zone, zone ∈ g.zones ↔ zone ∈ g'.zones
  actions : ∀ action, action ∈ g.actions ↔ action ∈ g'.actions
  recordTypes : ∀ ty, ty ∈ g.recordTypes ↔ ty ∈ g'.recordTypes

lemma eq_nil_congr {α : Type} {xs ys : List α} (h : ∀ a, a ∈ xs ↔ a ∈ ys) : xs = [] ↔ ys = [] := by
  simp [List.eq_nil_iff_forall_not_mem, h]

namespace Alike

variable {g' : Grant}

theorem symm (h : g.Alike g') : g'.Alike g :=
  ⟨h.name.symm, h.isAdmin.symm, fun z => (h.zones z).symm, fun a => (h.actions a).symm,
    fun ty => (h.recordTypes ty).symm⟩

theorem valid (h : g.Alike g') (hvalid : g.Valid) : g'.Valid := by
  have hzones := eq_nil_congr h.zones
  have hactions := eq_nil_congr h.actions
  have htypes := eq_nil_congr h.recordTypes
  cases hvalid with
  | admin named admin bare =>
    exact .admin (h.name ▸ named) (h.isAdmin ▸ admin)
      ⟨hzones.1 bare.zones, hactions.1 bare.actions, htypes.1 bare.recordTypes⟩
  | zoned named noAdmin zones actions recordTypes grantable =>
    exact .zoned (h.name ▸ named) (h.isAdmin ▸ noAdmin) (mt hzones.2 zones) (mt hactions.2 actions)
      (mt htypes.2 recordTypes) fun action haction =>
        grantable action ((h.actions action).2 haction)

theorem expands (h : g.Alike g') (hexpands : g.Expands t) : g'.Expands t where
  name := hexpands.name.trans h.name
  isAdmin := hexpands.isAdmin.trans h.isAdmin
  bare hadmin := hexpands.bare (h.isAdmin.trans hadmin)
  ascending := hexpands.ascending
  zones zone := (hexpands.zones zone).trans (h.zones zone)
  actions p hp action := (hexpands.actions p hp action).trans (h.actions action)
  recordTypes p hp ty := (hexpands.recordTypes p hp ty).trans (h.recordTypes ty)

end Alike

/-- How a grant is checked. -/
structure Checked (g : Grant) : Prop where
  /-- It is accepted if it is as it must be, and only then. -/
  accepted_iff : (∃ t, g.validate = .ok t) ↔ g.Valid
  /-- It comes to the one token that has a permission for each of its zones. -/
  token_iff : ∀ t, g.validate = .ok t ↔ g.Valid ∧ g.Expands t
  /-- It is refused by the first rule that it breaks. -/
  fault_iff : ∀ fault, g.validate = .error fault ↔ g.FirstBroken fault
  /-- Grants that say the same are refused together or come to the same token. -/
  alike : ∀ g', g.Alike g' →
    (∃ t, g.validate = .ok t ∧ g'.validate = .ok t) ∨
      ∃ fault fault', g.validate = .error fault ∧ g'.validate = .error fault'

lemma validate_eq_ok_iff : g.validate = .ok t ↔ g.Valid ∧ g.Expands t := by
  refine ⟨valid_of_validate, fun ⟨hvalid, hexpands⟩ => ?_⟩
  rcases hresult : g.validate with fault | u
  · exact absurd (firstBroken_of_validate hresult).broken hvalid.not_breaks
  · rw [hexpands.unique (valid_of_validate hresult).2]

lemma validate_eq_error_iff : g.validate = .error fault ↔ g.FirstBroken fault := by
  refine ⟨firstBroken_of_validate, fun hfirst => ?_⟩
  rcases hresult : g.validate with other | t
  · rw [hfirst.unique (firstBroken_of_validate hresult)]
  · exact absurd hfirst.broken (valid_of_validate hresult).1.not_breaks

lemma exists_validate_iff : (∃ t, g.validate = .ok t) ↔ g.Valid := by
  refine ⟨fun ⟨t, h⟩ => (valid_of_validate h).1, fun hvalid => ?_⟩
  rcases hresult : g.validate with fault | t
  · exact absurd (firstBroken_of_validate hresult).broken hvalid.not_breaks
  · exact ⟨t, rfl⟩

theorem checked (g : Grant) : g.Checked where
  accepted_iff := exists_validate_iff
  token_iff _ := validate_eq_ok_iff
  fault_iff _ := validate_eq_error_iff
  alike g' h := by
    rcases hresult : g.validate with fault | t
    · rcases hresult' : g'.validate with fault' | t'
      · exact .inr ⟨fault, fault', rfl, rfl⟩
      -- whatever is accepted of the one is accepted of the other
      · have hvalid := h.symm.valid (valid_of_validate hresult').1
        exact absurd (firstBroken_of_validate hresult).broken hvalid.not_breaks
    · obtain ⟨hvalid, hexpands⟩ := valid_of_validate hresult
      exact .inl ⟨t, rfl, validate_eq_ok_iff.2 ⟨h.valid hvalid, h.expands hexpands⟩⟩

end Grant

end ZoneGate
