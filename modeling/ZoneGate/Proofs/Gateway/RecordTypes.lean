import ZoneGate.Proofs.Gateway.Effects
import ZoneGate.Proofs.Json.Members

/-!
# The record types of forwarded bodies

A scoped token writes records of the types that its permission names. What is held against them is
the last member `Type` of a body, while the body is handed on as it was written. A body in which the
member stands once is therefore of a permitted type, but one that repeats it may name another type
first.
-/
namespace ZoneGate

namespace Endpoint

lemma bodyRecordType_of_recordType {action : Action} {body : List UInt8} {t : RecordType}
    (h : recordType action body = .ok (some t)) : bodyRecordType body = .ok (some t) := by
  unfold recordType at h
  split at h
  · split at h
    · cases h
    · split at h <;> cases h
    · rename_i hbody
      rw [hbody, Except.ok.inj h]
  · cases h

/-- The type of a body is that of the last member `Type` that is written in it. -/
theorem exists_member_of_bodyRecordType {body : List UInt8} {t : RecordType}
    (h : bodyRecordType body = .ok (some t)) :
    ∃ v, (Json.writtenMembers body).reverse.lookup "Type" = some v ∧
      RecordType.format.ofValue v = .ok t := by
  unfold bodyRecordType at h
  split at h
  · cases h
  rename_i document hparse
  rw [Json.member?_of_parse hparse] at h
  split at h
  · cases h
  · cases h
  rename_i v _ hlookup
  split at h
  · cases h
  rename_i found hvalue
  obtain rfl := Option.some.inj (Except.ok.inj h)
  exact ⟨v, hlookup, hvalue⟩

/-- What a request asks for is what its method and path ask for, with the type of its body. -/
lemma classify_of_find? {method : Http.Method} {path : String} {body : List UInt8} {d : Descriptor}
    {action : Action} {zone : Option ZoneId} (hfind : find? method path = some (action, zone))
    (h : classify method path body = .ok d) :
    d.action = action ∧ d.zone = zone ∧ recordType action body = .ok d.recordType := by
  unfold classify at h
  rw [hfind] at h
  simp only at h
  rcases htype : recordType action body with e | t
  · simp [htype, Except.map] at h
  · simp only [htype, Except.map, Except.ok.injEq] at h
    subst h
    exact ⟨rfl, rfl, rfl⟩

end Endpoint

/-- Whether a value names a type of record that a permission has. -/
def Permission.Names (p : Permission) (v : Json.Value) : Prop :=
  ∃ t, RecordType.format.ofValue v = .ok t ∧ t ∈ p.recordTypes

/-- A key that occurs once has one value. -/
lemma eq_of_lookup_reverse {α β : Type} [DecidableEq α] {key : α} {v w : β} {members : List (α × β)}
    (honce : members.countP (·.1 = key) ≤ 1) (hv : (key, v) ∈ members)
    (hw : members.reverse.lookup key = some w) : v = w := by
  have hmem : (key, w) ∈ members := by
    obtain ⟨before, after, hsplit, -⟩ := List.lookup_eq_some_iff.1 hw
    rw [← List.mem_reverse, hsplit]
    simp
  have hfilter {x : β} (hx : (key, x) ∈ members) : (key, x) ∈ members.filter (·.1 = key) :=
    List.mem_filter.2 ⟨hx, by simp⟩
  rw [List.countP_eq_length_filter] at honce
  rcases hfound : members.filter (·.1 = key) with _ | ⟨entry, _ | ⟨other, rest⟩⟩
  · have hnil := hfilter hv
    rw [hfound] at hnil
    cases hnil
  · rw [hfound] at hfilter
    have heq := (List.mem_singleton.1 (hfilter hv)).trans (List.mem_singleton.1 (hfilter hmem)).symm
    exact congrArg Prod.snd heq
  · simp [hfound] at honce

/-- What is made sure of about a body that writes a record. -/
structure Permission.Covers (p : Permission) (body : List UInt8) : Prop where
  /-- The last member `Type` names a permitted type. -/
  last : ∃ v, (Json.writtenMembers body).reverse.lookup "Type" = some v ∧ p.Names v
  /-- Every member `Type` does, where there is only one. -/
  once : (Json.writtenMembers body).countP (·.1 = "Type") ≤ 1 →
    ∀ v, ("Type", v) ∈ Json.writtenMembers body → p.Names v

namespace Permission

theorem covers_of_last {p : Permission} {body : List UInt8} {v : Json.Value}
    (hlast : (Json.writtenMembers body).reverse.lookup "Type" = some v) (hnames : p.Names v) :
    p.Covers body :=
  ⟨⟨v, hlast, hnames⟩, fun honce _ hmem => eq_of_lookup_reverse honce hmem hlast ▸ hnames⟩

end Permission

namespace Gateway

/-- Only requests on the provider's paths are handed on, those of callers who may. -/
theorem exists_allow_of_outbound {g : Gateway} {m : Moment} {provider : Provider}
    {r : Http.Request} {o : Outbound} (h : (g.handle m provider r).outbound = some o) :
    o = outbound r ∧ ∃ caller d, g.authenticate r = .ok caller ∧
      Endpoint.classify r.method r.target.path r.body = .ok d ∧
      Decision.check caller (Bootstrap.of g.vault.registry) d = .allow := by
  have hdoes := g.perform_does m provider r r.task
  change (g.perform m provider r r.task).outbound = some o at h
  generalize g.perform m provider r r.task = handled at hdoes h
  generalize r.task = task at hdoes
  cases hdoes with
  | forwarded known clear allowed =>
    obtain rfl := Option.some.inj h
    exact ⟨rfl, _, _, known, clear, allowed⟩
  | _ => cases h

/-- A body that is handed on for a scoped token has a permitted type, as far as its last member
`Type` tells. -/
theorem covers_of_forwarded {g : Gateway} {m : Moment} {provider : Provider} {r : Http.Request}
    {o : Outbound} {t : Token} {action : Action} {zone : Option ZoneId}
    (hknown : g.authenticate r = .ok (.token t)) (hscoped : t.isAdmin = false)
    (hasks : Endpoint.find? r.method r.target.path = some (action, zone))
    (hwrites : action = .addRecord ∨ action = .updateRecord)
    (hforwarded : (g.handle m provider r).outbound = some o) :
    o.body = r.body ∧
      ∃ z p, zone = some z ∧ t.permission? z = some p ∧ action ∈ p.actions ∧ p.Covers o.body := by
  obtain ⟨rfl, caller, d, hcaller, hclassify, hcheck⟩ := exists_allow_of_outbound hforwarded
  rw [hknown] at hcaller
  cases hcaller
  obtain ⟨haction, hzone, htype⟩ := Endpoint.classify_of_find? hasks hclassify
  obtain ⟨hgrantable, hcovers⟩ := (Decision.check_scoped hscoped _ d).1 hcheck
  refine ⟨rfl, ?_⟩
  rcases zone with _ | z
  -- an action that may be granted and has no zone lists the zones
  · rcases (Endpoint.zone_of_classify hclassify).2 hzone with hlist | honly
    · rw [haction] at hlist
      rcases hwrites with rfl | rfl <;> cases hlist
    · simp [honly] at hgrantable
  simp only [Decision.covers, hzone] at hcovers
  split at hcovers
  · rename_i p hp
    obtain ⟨hallowed, hrecord⟩ := Decision.permits_iff.1 hcovers
    rw [haction] at hallowed hrecord
    obtain ⟨ty, hty, hmem⟩ := hrecord hwrites
    rw [hty] at htype
    obtain ⟨v, hlast, hvalue⟩ :=
      Endpoint.exists_member_of_bodyRecordType (Endpoint.bodyRecordType_of_recordType htype)
    exact ⟨z, p, rfl, hp, hallowed, Permission.covers_of_last hlast ⟨ty, hvalue, hmem⟩⟩
  · cases hcovers

/-- A token that may add texts to zone 12. -/
def writerSample : Token :=
  ⟨1, "acme", false, default, [⟨⟨12, by decide⟩, .ofList [.addRecord], .ofList [.txt]⟩],
    Access.sample.hasher.digest "secret"⟩

/-- The gateway that serves this token alone. -/
def recordSample : Gateway :=
  ⟨.sample, 1024, ⟨⟨1, true, TokenMap.empty.insert 1 writerSample⟩, none⟩, none⟩

/-- A request to add a record. -/
def addingSample (body : String) : Http.Request :=
  ⟨.post, ⟨"/dnszone/12/records", "/dnszone/12/records"⟩, [⟨"accesskey", Text.bytes "secret"⟩],
    Text.bytes body⟩

lemma authenticate_addingSample (body : String) :
    recordSample.authenticate (addingSample body) = .ok (.token writerSample) := by
  change recordSample.authenticate (addingSample "") = _
  exact ok_of_toOption (by decide +kernel)

lemma outbound_addingSample (body : String) (hfits : (Text.bytes body).length ≤ 1024)
    (hclassify : Endpoint.classify .post "/dnszone/12/records" (Text.bytes body) =
      .ok ⟨.addRecord, some ⟨12, by decide⟩, some .txt⟩) :
    (recordSample.handle ⟨default, "", "", none⟩ (fun _ => .silent) (addingSample body)).outbound =
      some (outbound (addingSample body)) := by
  have hroute : Route.ofPath (addingSample body).target.path = .provider := by
    change Route.ofPath "/dnszone/12/records" = _
    decide +kernel
  have hdecides : Decides recordSample (addingSample body) (.forwarded _) :=
    .forwarded hfits (authenticate_addingSample body) hclassify rfl
  exact (handle_provider recordSample _ _ hroute).2.1.trans (withBody_forward _ hdecides).2.1

theorem covers_of_forwarded_sample :
    ∃ p, writerSample.permission? ⟨12, by decide⟩ = some p ∧
      p.Covers (Text.bytes "\x7b\"Type\": 3\x7d") := by
  have hforwarded := outbound_addingSample "\x7b\"Type\": 3\x7d" (by decide) rfl
  have hasks : Endpoint.find? .post "/dnszone/12/records" =
      some (.addRecord, some ⟨12, by decide⟩) := by decide +kernel
  obtain ⟨-, z, p, hz, hp, -, hcovers⟩ :=
    covers_of_forwarded (authenticate_addingSample _) rfl hasks (.inl rfl) hforwarded
  cases hz
  exact ⟨p, hp, hcovers⟩

/-- A body that names two types of record. -/
def repeatedSample : String := "\x7b\"Type\": \"NS\", \"Type\": \"TXT\"\x7d"

/-- What an earlier member names is not looked at. -/
theorem forwards_repeated_type :
    ∃ o p, (recordSample.handle ⟨default, "", "", none⟩ (fun _ => .silent)
        (addingSample repeatedSample)).outbound = some o ∧
      writerSample.permission? ⟨12, by decide⟩ = some p ∧
      ("Type", .string "NS") ∈ Json.writtenMembers o.body ∧ ¬ p.Names (.string "NS") := by
  have hforwarded := outbound_addingSample repeatedSample (by decide) rfl
  have hwritten : Json.writtenMembers (Text.bytes repeatedSample) =
      [("Type", .string "NS"), ("Type", .string "TXT")] := by rfl
  refine ⟨_, _, hforwarded, rfl, ?_, ?_⟩
  · change _ ∈ Json.writtenMembers (Text.bytes repeatedSample)
    rw [hwritten]
    exact List.mem_cons_self
  · rintro ⟨t, hvalue, hmem⟩
    have hns : RecordType.format.ofValue (.string "NS") = .ok .ns := rfl
    rw [hns] at hvalue
    cases hvalue
    revert hmem
    decide

end Gateway

end ZoneGate
