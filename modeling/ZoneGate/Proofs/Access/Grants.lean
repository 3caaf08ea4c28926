import Mathlib.Tactic.Lemma
import ZoneGate.Access

/-!
# What a grant allows

A grant stands for a set of descriptors. The token that is made for it may ask for exactly those,
whatever the order of the grant's lists and however often they repeat something.
-/
namespace ZoneGate

namespace Grant

/-- What a grant allows by its own words: an action that it lists, in a zone that it lists unless
the zones themselves are asked for, and with a record type that it lists where one is written. -/
structure Allows (g : Grant) (d : Descriptor) : Prop where
  action : d.action ∈ g.actions
  zone : d.action = .listZones ∨ ∃ zone, d.zone = some zone ∧ zone ∈ g.zones
  recordType : d.action = .addRecord ∨ d.action = .updateRecord →
    ∃ t, d.recordType = some t ∧ t ∈ g.recordTypes

/-! ## Checking a grant -/

theorem mem_insertZone {zone z : ZoneId} {zones : List ZoneId} :
    z ∈ insertZone zone zones ↔ z = zone ∨ z ∈ zones := by
  induction zones with
  | nil => simp [insertZone]
  | cons head rest ih =>
    rw [insertZone]
    split
    · simp
    split
    · rename_i heq
      simp [heq]
    · simp only [List.mem_cons, ih]
      exact or_left_comm

/-- Sorting the zones neither adds nor loses one. -/
@[simp] theorem mem_distinctZones {zone : ZoneId} {zones : List ZoneId} :
    zone ∈ distinctZones zones ↔ zone ∈ zones := by
  unfold distinctZones
  induction zones with
  | nil => simp
  | cons head rest ih => rw [List.foldr_cons, mem_insertZone, ih, List.mem_cons]

/-- The permission of a grant for one of its zones. -/
def permission (g : Grant) (zone : ZoneId) : Permission :=
  ⟨zone, .ofList g.actions, .ofList g.recordTypes⟩

theorem mem_permissions {g : Grant} {p : Permission} :
    p ∈ g.permissions ↔ ∃ zone ∈ g.zones, g.permission zone = p := by
  simp [permissions, permission]

theorem find?_permissions (g : Grant) (zone : ZoneId) :
    (g.permissions.find? fun p => p.zone = zone) =
      if zone ∈ g.zones then some (g.permission zone) else none := by
  cases hfind : g.permissions.find? fun p => p.zone = zone with
  | none =>
    rw [if_neg]
    intro hzone
    have hnone := List.find?_eq_none.1 hfind _ (mem_permissions.2 ⟨zone, hzone, rfl⟩)
    simp [permission] at hnone
  | some p =>
    obtain ⟨z, hz, rfl⟩ := mem_permissions.1 (List.mem_of_find?_eq_some hfind)
    have hzone : (g.permission z).zone = zone := by simpa using List.find?_some hfind
    change z = zone at hzone
    rw [← hzone, if_pos hz]

/-- What an accepted grant comes to. A scoped one names zones and actions, none of them for
administrators alone. -/
theorem validate_ok {g : Grant} {t : NewToken} (h : g.validate = .ok t) :
    t.isAdmin = g.isAdmin ∧
      (g.isAdmin = false → t.permissions = g.permissions ∧ g.zones ≠ [] ∧
        ∀ action ∈ g.actions, action.isAdminOnly = false) := by
  simp only [validate] at h
  split at h
  · cases h
  cases hadmin : g.isAdmin
  · simp only [hadmin, Bool.false_eq_true, if_false] at h
    split at h
    · cases h
    rename_i hzones
    split at h
    · cases h
    split at h
    · cases h
    split at h
    · cases h
    · rename_i hnone
      cases h
      refine ⟨rfl, fun _ => ⟨rfl, by simpa using hzones, fun action haction => ?_⟩⟩
      simpa using List.find?_eq_none.1 hnone action haction
  · simp only [hadmin, if_true] at h
    split at h
    · cases h
      exact ⟨rfl, by simp⟩
    · cases h

/-- The blanks around a name are dropped. -/
theorem name_of_validate {g : Grant} {t : NewToken} (h : g.validate = .ok t) :
    t.name = Text.trim g.name := by
  simp only [validate] at h
  grind

end Grant

/-! ## What a request asks for -/

namespace Endpoint

/-- A path names a zone exactly where the endpoint has a place for it. -/
theorem isSome_of_matchPath {parts : List PathPart} {segments : List String}
    {zone : Option ZoneId} (h : matchPath parts segments = some zone) :
    zone.isSome = decide (.zone ∈ parts) := by
  induction parts generalizing segments with
  | nil =>
    cases segments with
    | nil =>
      have hzone : none = zone := by simpa [matchPath] using h
      rw [← hzone]
      rfl
    | cons segment segments => simp [matchPath] at h
  | cons part parts ih =>
    cases segments with
    | nil => cases part <;> simp [matchPath] at h
    | cons segment segments =>
      cases part with
      | word text =>
        simp only [matchPath] at h
        split at h
        · rw [ih h]
          simp
        · cases h
      | zone =>
        simp only [matchPath, Option.bind_eq_bind, Option.bind_eq_some_iff] at h
        obtain ⟨z, -, -, -, hz⟩ := h
        cases hz
        simp
      | record =>
        simp only [matchPath, Option.bind_eq_bind, Option.bind_eq_some_iff] at h
        obtain ⟨-, -, hrest⟩ := h
        rw [ih hrest]
        simp

lemma zone_mem_path : ∀ e ∈ table,
    (e.action = .listZones → .zone ∉ e.path) ∧
      (.zone ∉ e.path → e.action = .listZones ∨ e.action.isAdminOnly) := by decide

theorem exists_endpoint_of_find? {method : Http.Method} {path : String} {action : Action}
    {zone : Option ZoneId} (h : find? method path = some (action, zone)) :
    ∃ e ∈ table, ∃ segments, e.action = action ∧ matchPath e.path segments = some zone := by
  obtain ⟨segments, -, hfind⟩ := Option.bind_eq_some_iff.1 h
  obtain ⟨e, he, hmatch⟩ := List.exists_of_findSome?_eq_some hfind
  split at hmatch
  · obtain ⟨z, hz, hpair⟩ := Option.map_eq_some_iff.1 hmatch
    cases hpair
    exact ⟨e, he, segments, rfl, hz⟩
  · cases hmatch

/-- Of the actions that may be granted, listing the zones is the only one that names no zone. -/
theorem zone_of_classify {method : Http.Method} {path : String} {body : List UInt8}
    {d : Descriptor} (h : classify method path body = .ok d) :
    (d.action = .listZones → d.zone = none) ∧
      (d.zone = none → d.action = .listZones ∨ d.action.isAdminOnly) := by
  unfold classify at h
  split at h
  · cases h
  rename_i action zone hfind
  rcases htype : recordType action body with e | t
  · simp [htype, Except.map] at h
  simp only [htype, Except.map, Except.ok.injEq] at h
  subst h
  obtain ⟨e, he, segments, rfl, hmatch⟩ := exists_endpoint_of_find? hfind
  obtain ⟨hlist, hother⟩ := zone_mem_path e he
  have hzone := isSome_of_matchPath hmatch
  constructor
  · intro haction
    have hnot : .zone ∉ e.path := hlist haction
    simpa [hnot] using hzone
  · rintro rfl
    exact hother (by simpa using hzone)

end Endpoint

/-! ## What a token may do -/

namespace Decision

theorem check_scoped {t : Token} (h : t.isAdmin = false) (state : Bootstrap) (d : Descriptor) :
    check (.token t) state d = .allow ↔ d.action.isAdminOnly = false ∧ covers t d := by
  simp [check, h]

lemma writesRecord_iff (action : Action) :
    action.writesRecord ↔ action = .addRecord ∨ action = .updateRecord := by
  cases action <;> simp [Action.writesRecord]

theorem permits_iff {p : Permission} {action : Action} {recordType : Option RecordType} :
    p.permits action recordType ↔
      action ∈ p.actions ∧ (action = .addRecord ∨ action = .updateRecord →
        ∃ t, recordType = some t ∧ t ∈ p.recordTypes) := by
  rw [← writesRecord_iff]
  cases hwrites : action.writesRecord <;> cases recordType <;>
    simp [Permission.permits, Permission.allows, hwrites]

theorem permits_permission {g : Grant} {zone : ZoneId} {action : Action}
    {recordType : Option RecordType} :
    (g.permission zone).permits action recordType ↔
      action ∈ g.actions ∧ (action = .addRecord ∨ action = .updateRecord →
        ∃ t, recordType = some t ∧ t ∈ g.recordTypes) := by
  rw [permits_iff]
  simp [Grant.permission]

/-- The permissions of a grant cover what the grant allows. -/
theorem covers_iff {g : Grant} {t : Token} (hpermissions : t.permissions = g.permissions)
    (hzones : g.zones ≠ []) {d : Descriptor} (hlist : d.action = .listZones → d.zone = none)
    (hnone : d.zone = none → d.action = .listZones ∨ d.action.isAdminOnly)
    (hgrantable : d.action.isAdminOnly = false) : covers t d ↔ g.Allows d := by
  rcases hzone : d.zone with _ | zone
  · have haction : d.action = .listZones := by simpa [hgrantable] using hnone hzone
    obtain ⟨z, rest, hcons⟩ := List.exists_cons_of_ne_nil hzones
    have hany : covers t d ↔ d.action ∈ g.actions := by
      simp only [covers, hzone, hpermissions, List.any_eq_true, Grant.mem_permissions]
      constructor
      · rintro ⟨p, ⟨z, -, rfl⟩, hp⟩
        simpa [Permission.allows, Grant.permission] using hp
      · intro hmem
        exact ⟨_, ⟨z, by simp [hcons], rfl⟩, by simpa [Permission.allows, Grant.permission]⟩
    rw [hany]
    exact ⟨fun h => ⟨h, .inl haction, by simp [haction]⟩, fun h => h.action⟩
  · have hne : d.action ≠ .listZones := fun haction => by simp [hlist haction] at hzone
    simp only [covers, hzone, Token.permission?, hpermissions, Grant.find?_permissions]
    by_cases hmem : zone ∈ g.zones
    · simp only [hmem, if_true, permits_permission]
      exact ⟨fun h => ⟨h.1, .inr ⟨zone, hzone, hmem⟩, h.2⟩, fun h => ⟨h.action, h.recordType⟩⟩
    · simp only [hmem, if_false, Bool.false_eq_true, false_iff]
      intro h
      rcases h.zone with haction | ⟨z, hz, hz'⟩
      · exact hne haction
      · rw [hzone] at hz
        cases hz
        exact hmem hz'

/-- A token made for a scoped grant may ask for exactly what the grant allows. -/
theorem check_iff_allows {g : Grant} {t : Token} {name : String} (hscoped : g.isAdmin = false)
    (hvalidate : g.validate = .ok ⟨name, t.isAdmin, t.permissions⟩) {method : Http.Method}
    {path : String} {body : List UInt8} {d : Descriptor}
    (hclassify : Endpoint.classify method path body = .ok d) (state : Bootstrap) :
    check (.token t) state d = .allow ↔ g.Allows d := by
  obtain ⟨hadmin, hrest⟩ := Grant.validate_ok hvalidate
  obtain ⟨hpermissions, hzones, hgrantable⟩ := hrest hscoped
  obtain ⟨hlist, hnone⟩ := Endpoint.zone_of_classify hclassify
  rw [check_scoped (hadmin.trans hscoped)]
  cases honly : d.action.isAdminOnly
  · rw [covers_iff hpermissions hzones hlist hnone honly]
    simp
  · have hnot : ¬ g.Allows d := fun h => by simp [hgrantable _ h.action] at honly
    simp [hnot]

end Decision

end ZoneGate
