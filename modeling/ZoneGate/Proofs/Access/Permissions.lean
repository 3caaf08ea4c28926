import Mathlib.Data.List.Nodup
import ZoneGate.Proofs.Access.Grants

/-!
# What permissions allow

A scoped token may hold any list of permissions: several for one zone, some with actions that nobody
may grant, some with none. Whatever it is allowed is granted by one of them, and all else is
refused. Where no zone has two, everything that one of them grants is allowed, so that neither their
order matters nor those that have no action.
-/
namespace ZoneGate

namespace Permission

/-- Whether a permission grants what a descriptor asks for: it has the action, is for the zone
unless the zones themselves are asked for, and has the type of a record that is written. -/
structure Allows (p : Permission) (d : Descriptor) : Prop where
  action : d.action ∈ p.actions
  zone : d.action = .listZones ∨ d.zone = some p.zone
  recordType : d.action = .addRecord ∨ d.action = .updateRecord →
    ∃ t, d.recordType = some t ∧ t ∈ p.recordTypes

/-- No two permissions are for one zone. -/
def DistinctZones (ps : List Permission) : Prop := (ps.map (·.zone)).Nodup

instance (ps : List Permission) : Decidable (DistinctZones ps) :=
  inferInstanceAs (Decidable (List.Nodup _))

/-- Whether a permission has any action at all. -/
def HasAction (p : Permission) : Prop := p.actions.toList ≠ []

instance : DecidablePred HasAction := fun p => inferInstanceAs (Decidable (p.actions.toList ≠ []))

theorem Allows.hasAction {p : Permission} {d : Descriptor} (h : p.Allows d) : p.HasAction :=
  List.ne_nil_of_mem h.action

/-- Where no zone has two permissions, each is the one that is found for its zone. -/
theorem find?_of_distinctZones {ps : List Permission} (h : DistinctZones ps) {p : Permission}
    (hp : p ∈ ps) : ps.find? (fun q => q.zone = p.zone) = some p := by
  rcases hfind : (ps.find? fun q => q.zone = p.zone) with _ | q
  · have hnone := List.find?_eq_none.1 hfind p hp
    simp at hnone
  · have hzone : q.zone = p.zone := by simpa using List.find?_some hfind
    rw [hfind, List.inj_on_of_nodup_map h (List.mem_of_find?_eq_some hfind) hp hzone]

end Permission

namespace Decision

variable {t u : Token} {d : Descriptor} {state : Bootstrap}

/-- What is covered is granted by some permission. Without a zone every permission counts, which is
safe as only listing the zones has none. -/
theorem exists_allows_of_covers (hnone : d.zone = none → d.action = .listZones)
    (h : covers t d) : ∃ p ∈ t.permissions, p.Allows d := by
  rcases hzone : d.zone with _ | zone
  · have hlist := hnone hzone
    simp only [covers, hzone, List.any_eq_true] at h
    obtain ⟨p, hp, hallows⟩ := h
    exact ⟨p, hp, by simpa [Permission.allows] using hallows, .inl hlist, by simp [hlist]⟩
  · simp only [covers, hzone] at h
    split at h
    · rename_i p hfind
      obtain ⟨haction, htype⟩ := permits_iff.1 h
      have hp : p.zone = zone := by simpa using List.find?_some hfind
      exact ⟨p, List.mem_of_find?_eq_some hfind, haction, .inr (by rw [hzone, hp]), htype⟩
    · cases h

/-- Where no zone has two permissions, what one of them grants is covered. -/
theorem covers_of_allows (hlist : d.action = .listZones → d.zone = none)
    (hzones : Permission.DistinctZones t.permissions) {p : Permission} (hp : p ∈ t.permissions)
    (h : p.Allows d) : covers t d := by
  rcases h.zone with haction | hzone
  · simp only [covers, hlist haction, List.any_eq_true]
    exact ⟨p, hp, by simpa [Permission.allows] using h.action⟩
  · simp only [covers, hzone, Token.permission?, Permission.find?_of_distinctZones hzones hp]
    exact permits_iff.2 ⟨h.action, h.recordType⟩

/-- Of two permissions for a zone the second one is not looked at. -/
example : check (.token ⟨1, "dns", false, default,
    [⟨⟨4, by decide⟩, .ofList [], .ofList []⟩, ⟨⟨4, by decide⟩, .ofList [.getZone], .ofList []⟩],
    default⟩) .configured ⟨.getZone, some ⟨4, by decide⟩, none⟩ = .deny .forbidden := by decide

theorem check_scoped_eq (ht : t.isAdmin = false) (state : Bootstrap) (d : Descriptor) :
    check (.token t) state d = .allow ∨ check (.token t) state d = .deny .forbidden := by
  simp only [check, ht, Bool.false_or]
  split
  · exact .inl rfl
  · exact .inr rfl

theorem check_admin (ht : t.isAdmin = true) (state : Bootstrap) (d : Descriptor) :
    check (.token t) state d = .allow := by simp [check, ht]

theorem exists_allows_of_check (ht : t.isAdmin = false)
    (hnone : d.zone = none → d.action = .listZones ∨ d.action.isAdminOnly)
    (h : check (.token t) state d = .allow) :
    d.action.isAdminOnly = false ∧ ∃ p ∈ t.permissions, p.Allows d := by
  obtain ⟨hgrantable, hcovers⟩ := (check_scoped ht state d).1 h
  refine ⟨hgrantable, exists_allows_of_covers (fun hzone => ?_) hcovers⟩
  simpa [hgrantable] using hnone hzone

theorem check_of_allows (ht : t.isAdmin = false)
    (hlist : d.action = .listZones → d.zone = none)
    (hzones : Permission.DistinctZones t.permissions) (hgrantable : d.action.isAdminOnly = false)
    (h : ∃ p ∈ t.permissions, p.Allows d) : check (.token t) state d = .allow := by
  obtain ⟨p, hp, hallows⟩ := h
  exact (check_scoped ht state d).2 ⟨hgrantable, covers_of_allows hlist hzones hp hallows⟩

theorem check_eq_of_allow_iff (ht : t.isAdmin = false) (hu : u.isAdmin = false)
    (h : check (.token u) state d = .allow ↔ check (.token t) state d = .allow) :
    check (.token u) state d = check (.token t) state d := by
  rcases check_scoped_eq ht state d with hallow | hdeny
  · rw [hallow, h.2 hallow]
  · have hrefused : check (.token u) state d ≠ .allow := fun hallow => by
      rw [h.1 hallow] at hdeny
      cases hdeny
    rw [hdeny, (check_scoped_eq hu state d).resolve_left hrefused]

/-- A permission that grants something is among those that have an action. -/
lemma exists_allows_of_perm
    (h : (u.permissions.filter (·.HasAction)).Perm (t.permissions.filter (·.HasAction)))
    (hu : ∃ p ∈ u.permissions, p.Allows d) : ∃ p ∈ t.permissions, p.Allows d := by
  obtain ⟨p, hp, hallows⟩ := hu
  have hmem := h.mem_iff.1 (List.mem_filter.2 ⟨hp, by simpa using hallows.hasAction⟩)
  exact ⟨p, (List.mem_filter.1 hmem).1, hallows⟩

/-- What a scoped token is allowed by its permissions. -/
structure Judged (t : Token) (state : Bootstrap) (d : Descriptor) : Prop where
  /-- Nothing is allowed that no permission grants. -/
  sound : check (.token t) state d = .allow →
    d.action.isAdminOnly = false ∧ ∃ p ∈ t.permissions, p.Allows d
  /-- All else is refused. -/
  closed : check (.token t) state d = .allow ∨ check (.token t) state d = .deny .forbidden
  complete : Permission.DistinctZones t.permissions → d.action.isAdminOnly = false →
    (∃ p ∈ t.permissions, p.Allows d) → check (.token t) state d = .allow
  /-- Neither the order of the permissions matters nor those without an action. -/
  stable : Permission.DistinctZones t.permissions → ∀ u : Token, u.isAdmin = false →
    Permission.DistinctZones u.permissions →
    (u.permissions.filter (·.HasAction)).Perm (t.permissions.filter (·.HasAction)) →
    check (.token u) state d = check (.token t) state d

theorem judged_of_zone (ht : t.isAdmin = false) (hlist : d.action = .listZones → d.zone = none)
    (hnone : d.zone = none → d.action = .listZones ∨ d.action.isAdminOnly) (state : Bootstrap) :
    Judged t state d where
  sound := exists_allows_of_check ht hnone
  closed := check_scoped_eq ht state d
  complete := check_of_allows ht hlist
  stable hzones u hu hzones' hperm := by
    refine check_eq_of_allow_iff ht hu ⟨fun h => ?_, fun h => ?_⟩
    · obtain ⟨hgrantable, hsome⟩ := exists_allows_of_check hu hnone h
      exact check_of_allows ht hlist hzones hgrantable (exists_allows_of_perm hperm hsome)
    · obtain ⟨hgrantable, hsome⟩ := exists_allows_of_check ht hnone h
      exact check_of_allows hu hlist hzones' hgrantable (exists_allows_of_perm hperm.symm hsome)

/-- Whatever a request asks for, administrators may do it, and scoped tokens as far as their
permissions grant it. Only listing the zones is decided without a zone. -/
theorem check_classified {method : Http.Method} {path : String} {body : List UInt8}
    (h : Endpoint.classify method path body = .ok d) (state : Bootstrap) :
    (d.action.isAdminOnly = false → (d.zone = none ↔ d.action = .listZones)) ∧
      (∀ t : Token, t.isAdmin = true → check (.token t) state d = .allow) ∧
      ∀ t : Token, t.isAdmin = false → Judged t state d := by
  obtain ⟨hlist, hnone⟩ := Endpoint.zone_of_classify h
  refine ⟨fun hgrantable => ⟨fun hzone => ?_, hlist⟩, fun t ht => check_admin ht state d,
    fun t ht => judged_of_zone ht hlist hnone state⟩
  simpa [hgrantable] using hnone hzone

/-- A token that may add texts to zone 4. It also names an action that is for administrators only,
and zone 9 without any action. -/
def sampleToken : Token :=
  ⟨1, "dns", false, default,
    [⟨⟨9, by decide⟩, .ofList [], .ofList [.txt]⟩,
     ⟨⟨4, by decide⟩, .ofList [.addRecord, .createZone], .ofList [.txt]⟩], default⟩

theorem check_classified_sample :
    Endpoint.classify .post "/dnszone/4/records" (Text.bytes "\x7b\"Type\": \"txt\"\x7d") =
        .ok ⟨.addRecord, some ⟨4, by decide⟩, some .txt⟩ ∧
      check (.token sampleToken) .configured ⟨.addRecord, some ⟨4, by decide⟩, some .txt⟩ =
        .allow := by
  have hclassify : Endpoint.classify .post "/dnszone/4/records"
      (Text.bytes "\x7b\"Type\": \"txt\"\x7d") =
        .ok ⟨.addRecord, some ⟨4, by decide⟩, some .txt⟩ := by rfl
  obtain ⟨-, -, hscoped⟩ := check_classified hclassify .configured
  have hallows : Permission.Allows
      ⟨⟨4, by decide⟩, .ofList [.addRecord, .createZone], .ofList [.txt]⟩
      ⟨.addRecord, some ⟨4, by decide⟩, some .txt⟩ :=
    ⟨by decide, .inr rfl, fun _ => ⟨.txt, rfl, by decide⟩⟩
  exact ⟨hclassify, (hscoped sampleToken rfl).complete (by decide) rfl ⟨_, by decide, hallows⟩⟩

end Decision

end ZoneGate
