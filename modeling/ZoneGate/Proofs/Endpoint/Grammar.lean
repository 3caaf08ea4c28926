import Mathlib.Data.List.Basic
import Mathlib.Data.List.Pairwise
import ZoneGate.Endpoint
import ZoneGate.Proofs.Text.Digits
import ZoneGate.Proofs.Text.Split

/-!
# The grammar of endpoints

The endpoints as they are documented, each with its method and the segments of its path, and the
ways in which a path spells them: a slash before each segment, perhaps one more at the end, and ids
in plain digits. A request is recognised exactly where a documented endpoint is spelt, and then by
one endpoint only.
-/
namespace ZoneGate

/-! ## Ids -/

/-- An id in a path: digits, leading zeros allowed, with a value that is positive and of 64 bits. -/
structure SpellsId (text : String) (n : Nat) : Prop where
  nonempty : text ≠ ""
  digits : ∀ c ∈ text.toList, c.isDigit = true
  value : Nat.ofDigitChars 10 text.toList 0 = n
  positive : 0 < n
  bounded : n < UInt64.size

namespace ZoneId

/-- Every positive number of 64 bits is the value of an id. -/
lemma exists_toNat_eq {n : Nat} (hpos : 0 < n) (hlt : n < UInt64.size) :
    ∃ zone : ZoneId, zone.val.toNat = n := by
  have htoNat : (UInt64.ofNat n).toNat = n := UInt64.toNat_ofNat_of_lt' hlt
  refine ⟨⟨UInt64.ofNat n, fun h => ?_⟩, htoNat⟩
  rw [h] at htoNat
  exact Nat.ne_of_lt hpos htoNat

theorem ofNat?_toNat (zone : ZoneId) : ofNat? zone.val.toNat = some zone := by
  have hlt : zone.val.toNat < UInt64.size := zone.val.toNat_lt
  rw [ofNat?, if_pos hlt, UInt64.ofNat_toNat, ofUInt64?, dif_pos zone.val_ne_zero]

theorem ofNat?_eq_some_iff {n : Nat} {zone : ZoneId} :
    ofNat? n = some zone ↔ 0 < n ∧ n < UInt64.size ∧ n = zone.val.toNat := by
  constructor
  · intro h
    have hlt : n < UInt64.size := by
      by_contra hge
      simp [ofNat?, hge] at h
    have hpos : 0 < n := Nat.pos_of_ne_zero fun hzero => by
      rw [hzero] at h
      cases h
    obtain ⟨other, rfl⟩ := exists_toNat_eq hpos hlt
    rw [ofNat?_toNat, Option.some_inj] at h
    exact ⟨hpos, hlt, by rw [h]⟩
  · rintro ⟨-, -, rfl⟩
    exact ofNat?_toNat zone

/-- An id is read exactly from its spellings. -/
theorem parse?_eq_some_iff {text : String} {zone : ZoneId} :
    parse? text = some zone ↔ SpellsId text zone.val.toNat := by
  rw [parse?, Option.bind_eq_some_iff]
  constructor
  · rintro ⟨n, hn, hzone⟩
    obtain ⟨hnonempty, hdigits, hvalue⟩ := Text.decimal?_bytes_eq_some_iff.1 hn
    obtain ⟨hpos, hlt, rfl⟩ := ofNat?_eq_some_iff.1 hzone
    exact ⟨hnonempty, hdigits, hvalue, hpos, hlt⟩
  · rintro ⟨hnonempty, hdigits, hvalue, hpos, hlt⟩
    exact ⟨_, Text.decimal?_bytes_eq_some_iff.2 ⟨hnonempty, hdigits, hvalue⟩,
      ofNat?_eq_some_iff.2 ⟨hpos, hlt, rfl⟩⟩

theorem exists_parse?_of_spellsId {text : String} {n : Nat} (h : SpellsId text n) :
    ∃ zone, parse? text = some zone := by
  obtain ⟨zone, rfl⟩ := exists_toNat_eq h.positive h.bounded
  exact ⟨zone, parse?_eq_some_iff.2 h⟩

end ZoneId

theorem SpellsId.slash_not_mem {text : String} {n : Nat} (h : SpellsId text n) :
    '/' ∉ text.toList := fun hslash => by
  have hdigit := h.digits _ hslash
  revert hdigit
  decide

namespace Endpoint

/-! ## Paths and their segments -/

/-- The path with a slash before each segment. -/
def spelling (segments : List String) : String := String.join (segments.map ("/" ++ ·))

lemma toList_spelling (segments : List String) :
    (spelling segments).toList = (segments.map String.toList).flatMap ('/' :: ·) := by
  simp [spelling, List.flatMap_map]

/-- Segments that a path can spell: at least one, none of them empty, and no slash in any. -/
structure Spellable (segments : List String) : Prop where
  ne_nil : segments ≠ []
  plain : ∀ s ∈ segments, s ≠ "" ∧ '/' ∉ s.toList

/-- A path without a further slash at its end does not end in one. -/
lemma Spellable.getLast?_ne {segments : List String} (h : Spellable segments) {inner : List Char}
    (hinner : '/' :: inner = (spelling segments).toList) : inner.getLast? ≠ some '/' := by
  intro hslash
  obtain ⟨front, last, rfl⟩ := segments.eq_nil_or_concat.resolve_left h.ne_nil
  obtain ⟨hnonempty, hplain⟩ := h.plain last (by simp)
  have hne : last.toList ≠ [] := by simpa using hnonempty
  -- the last character of the path is that of the last segment
  have hends := congrArg List.getLast? hinner
  rw [toList_spelling] at hends
  simp only [List.concat_eq_append, List.map_append, List.map_cons, List.map_nil,
    List.flatMap_append, List.flatMap_cons, List.flatMap_nil, List.append_nil,
    List.getLast?_append, List.getLast?_cons, hslash, List.getLast?_eq_some_getLast hne,
    Option.getD_some, Option.some_or, Option.some.injEq] at hends
  exact hplain (hends ▸ List.getLast_mem hne)

lemma spelling_splitAt (inner : List Char) :
    (spelling ((Text.splitAt '/' inner).map String.ofList)).toList = '/' :: inner := by
  rw [toList_spelling, ← (Text.flatMap_splitAt '/' inner).1]
  simp [Function.comp_def]

theorem spellable_of_segments? {path : String} {segments : List String}
    (h : segments? path = some segments) :
    Spellable segments ∧ (path = spelling segments ∨ path = spelling segments ++ "/") := by
  unfold segments? at h
  split at h
  · rename_i rest hpath
    generalize hinner : (if rest.getLast? = some '/' then rest.dropLast else rest) = inner at h
    have hspelling := spelling_splitAt inner
    simp only at h
    split at h
    · cases h
    rename_i hfull
    obtain rfl := Option.some.inj h
    refine ⟨⟨fun hnil => ?_, fun s hs => ?_⟩, ?_⟩
    · simp [hnil, spelling] at hspelling
    · obtain ⟨part, hpart, rfl⟩ := List.mem_map.1 hs
      refine ⟨fun hempty => ?_, by simpa using (Text.flatMap_splitAt '/' inner).2 part hpart⟩
      exact hfull (List.any_eq_true.2 ⟨part, hpart, by simpa using hempty⟩)
    · rw [← String.toList_inj, ← String.toList_inj, String.toList_append, hspelling, hpath,
        ← hinner]
      split
      · rename_i hlast
        exact .inr (by simpa using (List.dropLast_append_getLast? _ hlast).symm)
      · exact .inl rfl
  · cases h

theorem segments?_of_spellable {path : String} {segments : List String} (h : Spellable segments)
    (hpath : path = spelling segments ∨ path = spelling segments ++ "/") :
    segments? path = some segments := by
  obtain ⟨s, rest, rfl⟩ := List.exists_cons_of_ne_nil h.ne_nil
  obtain ⟨inner, hinner⟩ : ∃ inner, '/' :: inner = (spelling (s :: rest)).toList :=
    ⟨_, by rw [toList_spelling, List.map_cons, List.flatMap_cons, List.cons_append]⟩
  have hsplit : Text.splitAt '/' inner = (s :: rest).map String.toList := by
    rw [Text.splitAt_eq_iff, hinner, toList_spelling]
    exact ⟨rfl, List.forall_mem_map.2 fun s hs => (h.plain s hs).2⟩
  have hfull : ((s :: rest).map String.toList).any List.isEmpty = false := by
    simpa using fun s hs => (h.plain s hs).1
  rcases hpath with rfl | rfl
  · simp only [segments?, ← hinner, if_neg (h.getLast?_ne hinner), hsplit, hfull]
    simp
  · have hslash : "/".toList = ['/'] := rfl
    simp only [segments?, String.toList_append, ← hinner, hslash, List.cons_append,
      List.getLast?_concat, List.dropLast_concat, if_true, hsplit, hfull]
    simp

/-! ## The table -/

section matchPath

variable {parts : List PathPart} {segments : List String} {zone : Option ZoneId}

@[simp] theorem matchPath_nil :
    matchPath [] segments = some zone ↔ segments = [] ∧ zone = none := by
  cases segments <;> simp [matchPath, eq_comm]

@[simp] theorem matchPath_word {text : String} :
    matchPath (.word text :: parts) segments = some zone ↔
      ∃ rest, segments = text :: rest ∧ matchPath parts rest = some zone := by
  cases segments with
  | nil => simp [matchPath]
  | cons segment rest => by_cases h : segment = text <;> simp [matchPath, h]

@[simp] theorem matchPath_zone :
    matchPath (.zone :: parts) segments = some zone ↔
      ∃ id rest z, segments = id :: rest ∧ SpellsId id z.val.toNat ∧
        (∃ inner, matchPath parts rest = some inner) ∧ zone = some z := by
  cases segments with
  | nil => simp [matchPath]
  | cons segment rest =>
    simp only [matchPath, Option.bind_eq_bind, Option.bind_eq_some_iff, ZoneId.parse?_eq_some_iff]
    constructor
    · rintro ⟨z, hz, inner, hinner, hzone⟩
      exact ⟨segment, rest, z, rfl, hz, ⟨inner, hinner⟩, (Option.some.inj hzone).symm⟩
    · rintro ⟨id, others, z, hsegments, hz, ⟨inner, hinner⟩, rfl⟩
      cases hsegments
      exact ⟨z, hz, inner, hinner, rfl⟩

@[simp] theorem matchPath_record :
    matchPath (.record :: parts) segments = some zone ↔
      ∃ id rest, segments = id :: rest ∧ (∃ n, SpellsId id n) ∧
        matchPath parts rest = some zone := by
  cases segments with
  | nil => simp [matchPath]
  | cons segment rest =>
    simp only [matchPath, Option.bind_eq_bind, Option.bind_eq_some_iff]
    constructor
    · rintro ⟨z, hz, hrest⟩
      exact ⟨segment, rest, rfl, ⟨_, ZoneId.parse?_eq_some_iff.1 hz⟩, hrest⟩
    · rintro ⟨id, others, hsegments, ⟨n, hn⟩, hrest⟩
      cases hsegments
      obtain ⟨z, hz⟩ := ZoneId.exists_parse?_of_spellsId hn
      exact ⟨z, hz, hrest⟩

end matchPath

/-- The endpoints by their method and the segments of their path. -/
inductive Documented : Http.Method → List String → Action → Option ZoneId → Prop
  | listZones : Documented .get ["dnszone"] .listZones none
  | createZone : Documented .post ["dnszone"] .createZone none
  | checkAvailability :
    Documented .post ["dnszone", "checkavailability"] .checkAvailability none
  | triggerScan : Documented .post ["dnszone", "records", "scan"] .triggerScan none
  | getZone {id : String} {zone : ZoneId} (hid : SpellsId id zone.val.toNat) :
    Documented .get ["dnszone", id] .getZone (some zone)
  | updateZone {id : String} {zone : ZoneId} (hid : SpellsId id zone.val.toNat) :
    Documented .post ["dnszone", id] .updateZone (some zone)
  | listRecords {id : String} {zone : ZoneId} (hid : SpellsId id zone.val.toNat) :
    Documented .get ["dnszone", id, "records"] .listRecords (some zone)
  | addRecord {id : String} {zone : ZoneId} (hid : SpellsId id zone.val.toNat) :
    Documented .post ["dnszone", id, "records"] .addRecord (some zone)
  | getScanResult {id : String} {zone : ZoneId} (hid : SpellsId id zone.val.toNat) :
    Documented .get ["dnszone", id, "records", "scan"] .getScanResult (some zone)
  | updateRecord {id record : String} {zone : ZoneId} (hid : SpellsId id zone.val.toNat)
    (hrecord : ∃ n, SpellsId record n) :
    Documented .post ["dnszone", id, "records", record] .updateRecord (some zone)
  | deleteRecord {id record : String} {zone : ZoneId} (hid : SpellsId id zone.val.toNat)
    (hrecord : ∃ n, SpellsId record n) :
    Documented .delete ["dnszone", id, "records", record] .deleteRecord (some zone)
  | importRecords {id : String} {zone : ZoneId} (hid : SpellsId id zone.val.toNat) :
    Documented .post ["dnszone", id, "import"] .importRecords (some zone)
  | exportRecords {id : String} {zone : ZoneId} (hid : SpellsId id zone.val.toNat) :
    Documented .get ["dnszone", id, "export"] .exportRecords (some zone)
  | enableDnssec {id : String} {zone : ZoneId} (hid : SpellsId id zone.val.toNat) :
    Documented .post ["dnszone", id, "dnssec"] .enableDnssec (some zone)
  | disableDnssec {id : String} {zone : ZoneId} (hid : SpellsId id zone.val.toNat) :
    Documented .delete ["dnszone", id, "dnssec"] .disableDnssec (some zone)
  | getStatistics {id : String} {zone : ZoneId} (hid : SpellsId id zone.val.toNat) :
    Documented .get ["dnszone", id, "statistics"] .getStatistics (some zone)
  | issueCertificate {id : String} {zone : ZoneId} (hid : SpellsId id zone.val.toNat) :
    Documented .post ["dnszone", id, "certificate", "issue"] .issueCertificate (some zone)

section

variable {method : Http.Method} {segments : List String} {action : Action} {zone : Option ZoneId}

/-- The table holds the documented endpoints. -/
theorem documented_iff : Documented method segments action zone ↔
    ∃ e ∈ table, e.method = method ∧ e.action = action ∧ matchPath e.path segments = some zone := by
  constructor
  · intro h
    cases h
    -- the action tells which row of the table it is
    all_goals
      simp only [table, List.mem_cons, List.not_mem_nil, exists_eq_or_imp, reduceCtorEq, false_and,
        and_false, or_false, false_or, exists_eq_left, true_and]
      simp [*]
  · rintro ⟨e, he, rfl, rfl, hmatch⟩
    simp only [table, List.mem_cons, List.not_mem_nil, or_false] at he
    rcases he with rfl | rfl | rfl | rfl | rfl | rfl | rfl | rfl | rfl | rfl | rfl | rfl | rfl |
      rfl | rfl | rfl | rfl
    all_goals
      simp only [matchPath_word, matchPath_zone, matchPath_record, matchPath_nil, ↓existsAndEq,
        true_and, and_true, exists_eq_right, exists_and_left] at hmatch
    · obtain ⟨rfl, rfl⟩ := hmatch
      exact .listZones
    · obtain ⟨rfl, rfl⟩ := hmatch
      exact .createZone
    · obtain ⟨rfl, rfl⟩ := hmatch
      exact .checkAvailability
    · obtain ⟨rfl, rfl⟩ := hmatch
      exact .triggerScan
    · obtain ⟨id, rfl, z, hid, rfl⟩ := hmatch
      exact .getZone hid
    · obtain ⟨id, rfl, z, hid, rfl⟩ := hmatch
      exact .updateZone hid
    · obtain ⟨id, rfl, z, hid, rfl⟩ := hmatch
      exact .listRecords hid
    · obtain ⟨id, rfl, z, hid, rfl⟩ := hmatch
      exact .addRecord hid
    · obtain ⟨id, rfl, z, hid, rfl⟩ := hmatch
      exact .getScanResult hid
    · obtain ⟨id, z, record, rfl, hid, hrecord, rfl⟩ := hmatch
      exact .updateRecord hid hrecord
    · obtain ⟨id, z, record, rfl, hid, hrecord, rfl⟩ := hmatch
      exact .deleteRecord hid hrecord
    · obtain ⟨id, rfl, z, hid, rfl⟩ := hmatch
      exact .importRecords hid
    · obtain ⟨id, rfl, z, hid, rfl⟩ := hmatch
      exact .exportRecords hid
    · obtain ⟨id, rfl, z, hid, rfl⟩ := hmatch
      exact .enableDnssec hid
    · obtain ⟨id, rfl, z, hid, rfl⟩ := hmatch
      exact .disableDnssec hid
    · obtain ⟨id, rfl, z, hid, rfl⟩ := hmatch
      exact .getStatistics hid
    · obtain ⟨id, rfl, z, hid, rfl⟩ := hmatch
      exact .issueCertificate hid

end

/-! ## No two endpoints for one request -/

/-- Whether some segment fits two parts of paths. -/
def partsMeet : PathPart → PathPart → Bool
  | .word s, .word t => s = t
  | .word s, _ => (ZoneId.parse? s).isSome
  | _, .word t => (ZoneId.parse? t).isSome
  | _, _ => true

/-- Whether some segments match two paths. -/
def pathsMeet : List PathPart → List PathPart → Bool
  | [], [] => true
  | p :: ps, q :: qs => partsMeet p q && pathsMeet ps qs
  | _, _ => false

/-- The first part of a path that matches is the first segment itself or takes it for an id. -/
lemma matchPath_cons {part : PathPart} {parts : List PathPart} {segments : List String}
    {zone : Option ZoneId} (h : matchPath (part :: parts) segments = some zone) :
    ∃ segment rest inner, segments = segment :: rest ∧ matchPath parts rest = some inner ∧
      (part = .word segment ∨ ((∀ t, part ≠ .word t) ∧ (ZoneId.parse? segment).isSome)) := by
  cases part with
  | word text =>
    obtain ⟨rest, rfl, hrest⟩ := matchPath_word.1 h
    exact ⟨text, rest, zone, rfl, hrest, .inl rfl⟩
  | zone =>
    obtain ⟨id, rest, z, rfl, hid, ⟨inner, hinner⟩, -⟩ := matchPath_zone.1 h
    exact ⟨id, rest, inner, rfl, hinner,
      .inr ⟨by simp, by simp [ZoneId.parse?_eq_some_iff.2 hid]⟩⟩
  | record =>
    obtain ⟨id, rest, rfl, ⟨n, hid⟩, hrest⟩ := matchPath_record.1 h
    obtain ⟨z, hz⟩ := ZoneId.exists_parse?_of_spellsId hid
    exact ⟨id, rest, zone, rfl, hrest, .inr ⟨by simp, by simp [hz]⟩⟩

theorem pathsMeet_of_matchPath {ps qs : List PathPart} {segments : List String}
    {zone zone' : Option ZoneId} (hp : matchPath ps segments = some zone)
    (hq : matchPath qs segments = some zone') : pathsMeet ps qs = true := by
  induction ps generalizing qs segments zone zone' with
  | nil =>
    obtain ⟨rfl, -⟩ := matchPath_nil.1 hp
    cases qs with
    | nil => rfl
    | cons q qs =>
      obtain ⟨s, rest, -, hsegments, -⟩ := matchPath_cons hq
      cases hsegments
  | cons p ps ih =>
    obtain ⟨s, rest, inner, rfl, hrest, hfirst⟩ := matchPath_cons hp
    cases qs with
    | nil =>
      obtain ⟨hsegments, -⟩ := matchPath_nil.1 hq
      cases hsegments
    | cons q qs =>
      obtain ⟨s', rest', inner', hsegments, hrest', hfirst'⟩ := matchPath_cons hq
      cases hsegments
      rw [pathsMeet, ih hrest hrest', Bool.and_true]
      rcases hfirst with rfl | ⟨hp, hid⟩
      · rcases hfirst' with rfl | ⟨hq, hid'⟩
        · simp [partsMeet]
        · cases q <;> simp_all [partsMeet]
      · rcases hfirst' with rfl | ⟨hq, hid'⟩
        · cases p <;> simp_all [partsMeet]
        · cases p <;> cases q <;> simp_all [partsMeet]

theorem table_pairwise : table.Pairwise fun e f =>
    e.method = f.method → pathsMeet e.path f.path = false := by decide +kernel

/-- Whether no request fits both of two endpoints. -/
def Apart (e f : Endpoint) : Prop :=
  e.method = f.method → ∀ segments zone zone',
    ¬ (matchPath e.path segments = some zone ∧ matchPath f.path segments = some zone')

instance : Std.Symm Apart where
  symm _ _ h hmethod segments zone zone' hboth := h hmethod.symm segments zone' zone hboth.symm

/-- A request fits one endpoint at most. -/
theorem eq_of_matchPath {e f : Endpoint} (he : e ∈ table) (hf : f ∈ table)
    (hmethod : e.method = f.method) {segments : List String} {zone zone' : Option ZoneId}
    (hmatch : matchPath e.path segments = some zone)
    (hmatch' : matchPath f.path segments = some zone') : e = f := by
  have hapart : table.Pairwise Apart :=
    table_pairwise.imp fun hmeet hmethod segments zone zone' hboth => by
      simpa [hmeet hmethod] using pathsMeet_of_matchPath hboth.1 hboth.2
  by_contra hne
  exact hapart.forall he hf hne hmethod _ _ _ ⟨hmatch, hmatch'⟩

/-! ## What is recognised -/

/-- Whether a word can be a segment. -/
def PlainPart : PathPart → Prop
  | .word text => text ≠ "" ∧ '/' ∉ text.toList
  | _ => True

instance : DecidablePred PlainPart
  | .word text => inferInstanceAs (Decidable (text ≠ "" ∧ '/' ∉ text.toList))
  | .zone => inferInstanceAs (Decidable True)
  | .record => inferInstanceAs (Decidable True)

lemma table_plain : ∀ e ∈ table, e.path ≠ [] ∧ ∀ part ∈ e.path, PlainPart part := by decide

lemma plain_of_matchPath {parts : List PathPart} {segments : List String} {zone : Option ZoneId}
    (hparts : ∀ part ∈ parts, PlainPart part) (h : matchPath parts segments = some zone) :
    ∀ s ∈ segments, s ≠ "" ∧ '/' ∉ s.toList := by
  induction parts generalizing segments zone with
  | nil =>
    obtain ⟨rfl, -⟩ := matchPath_nil.1 h
    simp
  | cons part parts ih =>
    obtain ⟨hpart, hothers⟩ := List.forall_mem_cons.1 hparts
    obtain ⟨s, rest, inner, rfl, hrest, hfirst⟩ := matchPath_cons h
    refine List.forall_mem_cons.2 ⟨?_, ih hothers hrest⟩
    rcases hfirst with rfl | ⟨-, hid⟩
    · exact hpart
    · obtain ⟨z, hz⟩ := Option.isSome_iff_exists.1 hid
      have hspells := ZoneId.parse?_eq_some_iff.1 hz
      exact ⟨hspells.nonempty, hspells.slash_not_mem⟩

/-- Whether a request is spelt as a documented endpoint. -/
def Accepts (method : Http.Method) (path : String) (action : Action) (zone : Option ZoneId) :
    Prop :=
  ∃ segments, Documented method segments action zone ∧
    (path = spelling segments ∨ path = spelling segments ++ "/")

section

variable {method : Http.Method} {path : String} {segments : List String}
  {action action' : Action} {zone zone' : Option ZoneId}

theorem Documented.unique (h : Documented method segments action zone)
    (h' : Documented method segments action' zone') : action = action' ∧ zone = zone' := by
  obtain ⟨e, he, rfl, rfl, hmatch⟩ := documented_iff.1 h
  obtain ⟨f, hf, hmethod, rfl, hmatch'⟩ := documented_iff.1 h'
  obtain rfl := eq_of_matchPath he hf hmethod.symm hmatch hmatch'
  exact ⟨rfl, Option.some.inj (hmatch.symm.trans hmatch')⟩

theorem Documented.spellable (h : Documented method segments action zone) :
    Spellable segments := by
  obtain ⟨e, he, -, -, hmatch⟩ := documented_iff.1 h
  obtain ⟨hpath, hparts⟩ := table_plain e he
  refine ⟨?_, plain_of_matchPath hparts hmatch⟩
  rintro rfl
  obtain ⟨part, parts, hcons⟩ := List.exists_cons_of_ne_nil hpath
  rw [hcons] at hmatch
  obtain ⟨s, rest, inner, hnil, -⟩ := matchPath_cons hmatch
  cases hnil

/-- What an endpoint makes of a request, if it fits. -/
def fit? (method : Http.Method) (segments : List String) (e : Endpoint) :
    Option (Action × Option ZoneId) :=
  if e.method = method then (matchPath e.path segments).map fun zone => (e.action, zone) else none

theorem fit?_eq_some_iff {e : Endpoint} : fit? method segments e = some (action, zone) ↔
    e.method = method ∧ e.action = action ∧ matchPath e.path segments = some zone := by
  by_cases hmethod : e.method = method
  · rw [fit?, if_pos hmethod, Option.map_eq_some_iff]
    constructor
    · rintro ⟨z, hmatch, heq⟩
      obtain ⟨haction, rfl⟩ := Prod.mk.inj heq
      exact ⟨hmethod, haction, hmatch⟩
    · rintro ⟨-, rfl, hmatch⟩
      exact ⟨zone, hmatch, rfl⟩
  · simp [fit?, hmethod]

theorem findSome?_fit?_eq_some_iff :
    table.findSome? (fit? method segments) = some (action, zone) ↔
      Documented method segments action zone := by
  have hsound {r : Action × Option ZoneId} (h : table.findSome? (fit? method segments) = some r) :
      Documented method segments r.1 r.2 := by
    obtain ⟨e, he, hfits⟩ := List.exists_of_findSome?_eq_some h
    exact documented_iff.2 ⟨e, he, fit?_eq_some_iff.1 hfits⟩
  refine ⟨fun h => hsound h, fun h => ?_⟩
  obtain ⟨e, he, hfits⟩ := documented_iff.1 h
  obtain ⟨r, hr⟩ := Option.isSome_iff_exists.1 (List.findSome?_isSome_iff.2
    ⟨e, he, Option.isSome_iff_exists.2 ⟨_, fit?_eq_some_iff.2 hfits⟩⟩)
  -- the first endpoint that fits is the only one
  obtain ⟨haction, hzone⟩ := h.unique (hsound hr)
  rw [hr, haction, hzone]

theorem find?_eq_some_iff :
    find? method path = some (action, zone) ↔ Accepts method path action zone := by
  have hfind : find? method path =
      (segments? path).bind fun segments => table.findSome? (fit? method segments) := rfl
  simp only [hfind, Option.bind_eq_some_iff, findSome?_fit?_eq_some_iff]
  constructor
  · rintro ⟨segments, hsegments, hdocumented⟩
    exact ⟨segments, hdocumented, (spellable_of_segments? hsegments).2⟩
  · rintro ⟨segments, hdocumented, hpath⟩
    exact ⟨segments, segments?_of_spellable hdocumented.spellable hpath, hdocumented⟩

/-- The actions on the whole account. -/
def accountActions : List Action := [.listZones, .createZone, .checkAvailability, .triggerScan]

theorem Accepts.zone_eq_none_iff (h : Accepts method path action zone) :
    zone = none ↔ action ∈ accountActions := by
  obtain ⟨segments, hdocumented, -⟩ := h
  cases hdocumented <;> simp [accountActions]

/-- How a request is classified by its method and path. -/
structure Recognised (method : Http.Method) (path : String) : Prop where
  found : ∀ action zone, find? method path = some (action, zone) ↔
    Accepts method path action zone
  unique : ∀ action zone action' zone', Accepts method path action zone →
    Accepts method path action' zone' → action = action' ∧ zone = zone'
  account : ∀ action zone, Accepts method path action zone →
    (zone = none ↔ action ∈ accountActions)
  others : (¬ ∃ action zone, Accepts method path action zone) →
    ∀ body, classify method path body = .error (.unrecognized method path)
  accepted : ∀ action zone, Accepts method path action zone → ∀ body,
    (∀ method' path', classify method path body ≠ .error (.unrecognized method' path')) ∧
      ∀ d, classify method path body = .ok d → d.action = action ∧ d.zone = zone
  /-- The body matters only where a record is written. -/
  bodiless : ∀ action zone, Accepts method path action zone → action ≠ .addRecord →
    action ≠ .updateRecord → ∀ body, classify method path body = .ok ⟨action, zone, none⟩

theorem classify_of_accepts (h : Accepts method path action zone) (body : List UInt8) :
    classify method path body = (recordType action body).map fun t => ⟨action, zone, t⟩ := by
  simp only [classify, find?_eq_some_iff.2 h]

lemma bodyRecordType_ne_unrecognized (body : List UInt8) (method : Http.Method) (path : String) :
    bodyRecordType body ≠ .error (.unrecognized method path) := by
  unfold bodyRecordType
  split
  · simp
  split
  · simp
  · simp
  split
  · simp
  · simp

lemma recordType_ne_unrecognized (action : Action) (body : List UInt8) (method : Http.Method)
    (path : String) : recordType action body ≠ .error (.unrecognized method path) := by
  unfold recordType
  split
  · split
    · rename_i e he
      rintro ⟨⟩
      exact bodyRecordType_ne_unrecognized body method path he
    · split <;> simp
    · simp
  · simp

/-- Exactly the documented endpoints are recognised. -/
theorem recognised (method : Http.Method) (path : String) : Recognised method path where
  found action zone := find?_eq_some_iff
  unique action zone action' zone' h h' := by
    have heq := (find?_eq_some_iff.2 h).symm.trans (find?_eq_some_iff.2 h')
    exact Prod.mk.inj (Option.some.inj heq)
  account action zone h := h.zone_eq_none_iff
  others hnone body := by
    have hfind : find? method path = none := by
      refine Option.eq_none_iff_forall_ne_some.2 fun r hr => hnone ⟨r.1, r.2, ?_⟩
      exact find?_eq_some_iff.1 hr
    simp only [classify, hfind]
  accepted action zone h body := by
    rw [classify_of_accepts h]
    rcases htype : recordType action body with e | t
    · refine ⟨fun method' path' heq => ?_, fun d => nofun⟩
      obtain rfl := Except.error.inj heq
      exact recordType_ne_unrecognized _ _ _ _ htype
    · refine ⟨fun method' path' => nofun, fun d hd => ?_⟩
      cases hd
      exact ⟨rfl, rfl⟩
  bodiless action zone h hadd hupdate body := by
    have hwrites : action.writesRecord = false := by cases action <;> trivial
    simp [classify_of_accepts h, recordType, hwrites, Except.map]

end

end Endpoint

end ZoneGate
