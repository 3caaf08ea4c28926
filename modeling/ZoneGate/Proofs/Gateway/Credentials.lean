import ZoneGate.Proofs.Access.MasterKey

/-!
# Who a request comes from

Two headers can name the caller of a request, and each of them can be missing, repeated, blank or
no text. Which credential they come to is said case by case here, and so is whom a credential stands
for: the master key before any token, and of the tokens with its digest the first.
-/
namespace ZoneGate

namespace Http

/-! ## Headers -/

/-- How a header is read, of which only the first of its name counts. -/
inductive Reads (headers : List Header) (name : String) : Except Error (Option String) → Prop
  | absent (missing : ∀ h ∈ headers, h.name ≠ name) : Reads headers name (.ok none)
  | text {before after : List Header} {s : String}
      (first : headers = before ++ ⟨name, Text.bytes s⟩ :: after)
      (missing : ∀ h ∈ before, h.name ≠ name)
      (text : ∀ b ∈ Text.bytes s, Header.isTextByte b = true) : Reads headers name (.ok (some s))
  | unreadable {before after : List Header} {value : List UInt8} {b : UInt8}
      (first : headers = before ++ ⟨name, value⟩ :: after)
      (missing : ∀ h ∈ before, h.name ≠ name) (mem : b ∈ value)
      (noText : Header.isTextByte b = false) : Reads headers name (.error .unreadableKey)

variable {headers before after : List Header} {name s : String} {value : List UInt8}

lemma firstHeader?_of_first (first : headers = before ++ ⟨name, value⟩ :: after)
    (missing : ∀ h ∈ before, h.name ≠ name) : firstHeader? headers name = some value := by
  have hfind : headers.find? (fun h => h.name = name) = some ⟨name, value⟩ :=
    List.find?_eq_some_iff_append.2
      ⟨by simp, before, after, first, fun h hmem => by simpa using missing h hmem⟩
  rw [firstHeader?, hfind, Option.map_some]

lemma toNat_lt_of_isTextByte {b : UInt8} (h : Header.isTextByte b = true) : b.toNat < 128 := by
  simp only [Header.isTextByte, Bool.or_eq_true, Bool.and_eq_true, decide_eq_true_eq] at h
  rcases h with ⟨-, hlt⟩ | rfl
  · have hlt := UInt8.lt_iff_toNat_lt.1 hlt
    change b.toNat < 127 at hlt
    omega
  · decide

/-- Bytes that are text are the bytes of some text. -/
lemma exists_bytes_eq (h : ∀ b ∈ value, Header.isTextByte b = true) :
    ∃ s, Text.bytes s = value := by
  have hchar : ∀ b ∈ value, (Char.ofNat b.toNat).toNat = b.toNat := by
    intro b hb
    have hlt := toNat_lt_of_isTextByte (h b hb)
    rw [Char.ofNat, dif_pos (.inl (by omega))]
    rfl
  have hascii : ∀ b ∈ value, (Char.ofNat b.toNat).toNat < 128 := by
    intro b hb
    rw [hchar b hb]
    exact toNat_lt_of_isTextByte (h b hb)
  refine ⟨String.ofList (value.map fun b => Char.ofNat b.toNat), ?_⟩
  rw [Text.bytes_ofList, Text.utf8_of_ascii (by simpa using hascii), List.map_map]
  refine (List.map_congr_left fun b hb => ?_).trans (List.map_id value)
  exact UInt8.toNat_inj.1 ((Text.toNat_byte (hascii b hb)).trans (hchar b hb))

lemma headerText?_bytes (h : ∀ b ∈ Text.bytes s, Header.isTextByte b = true) :
    headerText? (Text.bytes s) = some s := by
  rw [headerText?, if_pos (List.all_eq_true.2 h), Text.ofBytes?_bytes]

lemma headerText?_eq_none {b : UInt8} (hmem : b ∈ value) (h : Header.isTextByte b = false) :
    headerText? value = none := by
  refine if_neg fun hall => ?_
  have hb := List.all_eq_true.1 hall b hmem
  rw [h] at hb
  cases hb

namespace Reads

theorem exists_outcome (headers : List Header) (name : String) :
    ∃ result, Reads headers name result := by
  rcases hfind : headers.find? fun h => h.name = name with _ | ⟨found, value⟩
  · exact ⟨_, .absent fun h hmem => by simpa using List.find?_eq_none.1 hfind h hmem⟩
  obtain ⟨hname, before, after, hfirst, hbefore⟩ := List.find?_eq_some_iff_append.1 hfind
  have hname : found = name := by simpa using hname
  have hmissing : ∀ h ∈ before, h.name ≠ name := fun h hmem => by simpa using hbefore h hmem
  subst hname
  by_cases htext : ∀ b ∈ value, Header.isTextByte b = true
  · obtain ⟨s, rfl⟩ := exists_bytes_eq htext
    exact ⟨_, .text hfirst hmissing htext⟩
  · obtain ⟨b, hnot⟩ := not_forall.1 htext
    obtain ⟨hmem, hnot⟩ := Classical.not_imp.1 hnot
    exact ⟨_, .unreadable hfirst hmissing hmem (by simpa using hnot)⟩

theorem readHeader_eq {result : Except Error (Option String)} (h : Reads headers name result) :
    Gateway.readHeader headers name = result := by
  cases h with
  | absent missing =>
    have hfind : headers.find? (fun h => h.name = name) = none :=
      List.find?_eq_none.2 fun h hmem => by simpa using missing h hmem
    simp [Gateway.readHeader, firstHeader?, hfind]
  | text first missing text =>
    simp [Gateway.readHeader, firstHeader?_of_first first missing, headerText?_bytes text]
  | unreadable first missing mem noText =>
    simp [Gateway.readHeader, firstHeader?_of_first first missing, headerText?_eq_none mem noText]

end Reads

end Http

namespace Gateway

open Http (Reads)

/-! ## The credential -/

/-- Whether the key's own header leaves the choice to the other one. -/
def Keyless (headers : List Http.Header) : Prop :=
  Reads headers "accesskey" (.ok none) ∨
    ∃ s, Reads headers "accesskey" (.ok (some s)) ∧ Text.allBlank s = true

/-- Which credential the headers of a request present. -/
inductive Presents (headers : List Http.Header) : Except Error (Option String) → Prop
  | unreadable {e : Error} (key : Reads headers "accesskey" (.error e)) :
      Presents headers (.error e)
  | key {s : String} (key : Reads headers "accesskey" (.ok (some s)))
      (filled : Text.allBlank s = false) : Presents headers (.ok (some s))
  | unreadableBearer {e : Error} (keyless : Keyless headers)
      (bearer : Reads headers "authorization" (.error e)) : Presents headers (.error e)
  | noBearer (keyless : Keyless headers) (bearer : Reads headers "authorization" (.ok none)) :
      Presents headers (.ok none)
  | otherScheme {value : String} (keyless : Keyless headers)
      (bearer : Reads headers "authorization" (.ok (some value)))
      (other : ∀ s, value ≠ "Bearer " ++ s) : Presents headers (.ok none)
  | bearer {s : String} (keyless : Keyless headers)
      (bearer : Reads headers "authorization" (.ok (some ("Bearer " ++ s)))) :
      Presents headers (.ok (some s))

namespace Presents

variable {headers : List Http.Header} {presented : Except Error (Option String)}

theorem exists_outcome (headers : List Http.Header) : ∃ presented, Presents headers presented := by
  have hbearer (keyless : Keyless headers) : ∃ presented, Presents headers presented := by
    obtain ⟨e | _ | value, hread⟩ := Reads.exists_outcome headers "authorization"
    · exact ⟨_, .unreadableBearer keyless hread⟩
    · exact ⟨_, .noBearer keyless hread⟩
    by_cases hscheme : ∃ s, value = "Bearer " ++ s
    · obtain ⟨s, rfl⟩ := hscheme
      exact ⟨_, .bearer keyless hread⟩
    · exact ⟨_, .otherScheme keyless hread (not_exists.1 hscheme)⟩
  obtain ⟨e | _ | s, hread⟩ := Reads.exists_outcome headers "accesskey"
  · exact ⟨_, .unreadable hread⟩
  · exact hbearer (.inl hread)
  cases hblank : Text.allBlank s
  · exact ⟨_, .key hread hblank⟩
  · exact hbearer (.inr ⟨s, hread, hblank⟩)

/-- Where the key's own header says nothing, the bearer header does. -/
lemma credential_of_keyless (h : Keyless headers) :
    credential headers =
      (readHeader headers "authorization").map (·.bind (Text.dropStart? "Bearer ")) := by
  rcases h with hread | ⟨s, hread, hblank⟩
  · simp only [credential, hread.readHeader_eq, bind, Except.bind]
    cases readHeader headers "authorization" <;> rfl
  · simp only [credential, hread.readHeader_eq, hblank, bind, Except.bind]
    cases readHeader headers "authorization" <;> rfl

/-- What fits is what the headers come to. -/
theorem credential_eq (h : Presents headers presented) : credential headers = presented := by
  cases h with
  | unreadable key => simp only [credential, key.readHeader_eq, bind, Except.bind]
  | key key filled => simp [credential, key.readHeader_eq, filled, bind, Except.bind, pure,
      Except.pure]
  | unreadableBearer keyless bearer =>
    rw [credential_of_keyless keyless, bearer.readHeader_eq]
    rfl
  | noBearer keyless bearer =>
    rw [credential_of_keyless keyless, bearer.readHeader_eq]
    rfl
  | @otherScheme value keyless bearer other =>
    have hdrop : Text.dropStart? "Bearer " value = none := by
      refine Option.eq_none_iff_forall_ne_some.2 fun s hs => other s ?_
      exact Text.dropStart?_eq_some_iff.1 hs
    simp [credential_of_keyless keyless, bearer.readHeader_eq, Except.map, hdrop]
  | @bearer s keyless bearer =>
    have hdrop : Text.dropStart? "Bearer " ("Bearer " ++ s) = some s :=
      Text.dropStart?_eq_some_iff.2 rfl
    simp [credential_of_keyless keyless, bearer.readHeader_eq, Except.map, hdrop]

end Presents

end Gateway

/-! ## Its owner -/

namespace Registry

/-- A token that is the first with a digest, under its id. -/
structure First (r : Registry) (digest : Digest) (id : TokenId) (t : Token) : Prop where
  found : r.tokens.get? id = some t
  digest_eq : t.digest = digest
  least : ∀ other u, r.tokens.get? other = some u → u.digest = digest → id ≤ other

variable {r : Registry} {digest : Digest} {id other : TokenId} {t u : Token}

theorem First.unique (h : r.First digest id t) (h' : r.First digest other u) : t = u := by
  have hid : id = other := UInt64.le_antisymm (h.least _ _ h'.found h'.digest_eq)
    (h'.least _ _ h.found h.digest_eq)
  have hfound := h.found
  rw [hid, h'.found] at hfound
  exact (Option.some.inj hfound).symm

/-- All tokens are looked at, in ascending order of their ids, and the first that fits is taken. -/
lemma exists_first_of_find? (h : r.find? digest = some t) : ∃ id, r.First digest id t := by
  have hentries : r.find? digest =
      (r.tokens.entries.find? fun e => e.2.digest = digest).map (·.2) := List.find?_map
  rw [hentries] at h
  obtain ⟨⟨id, found⟩, hfind, rfl⟩ := Option.map_eq_some_iff.1 h
  obtain ⟨hdigest, before, after, hsplit, hbefore⟩ := List.find?_eq_some_iff_append.1 hfind
  have hascending := r.tokens.ascending
  rw [hsplit] at hascending
  have hafter := (List.pairwise_cons.1 (List.pairwise_append.1 hascending).2.1).1
  refine ⟨id, TokenMap.mem_entries.1 (List.mem_of_find?_eq_some hfind), by simpa using hdigest,
    fun other u hget hu => ?_⟩
  have hmem := TokenMap.mem_entries.2 hget
  rw [hsplit] at hmem
  rcases List.mem_append.1 hmem with hmem | hmem
  -- those before it have other digests
  · have hother := hbefore _ hmem
    simp [hu] at hother
  rcases List.mem_cons.1 hmem with heq | hmem
  · exact UInt64.le_of_eq (congrArg Prod.fst heq).symm
  · exact UInt64.le_of_lt (hafter _ hmem)

theorem find?_eq_some_iff : r.find? digest = some t ↔ ∃ id, r.First digest id t := by
  refine ⟨exists_first_of_find?, fun ⟨id, hfirst⟩ => ?_⟩
  rcases hfind : r.find? digest with _ | u
  · have hnone := List.find?_eq_none.1 hfind t (mem_list.2 ⟨id, hfirst.found⟩)
    simp [hfirst.digest_eq] at hnone
  · obtain ⟨other, hother⟩ := exists_first_of_find? hfind
    rw [hother.unique hfirst]

end Registry

namespace Access

/-- Whom a credential stands for, if there is one. -/
inductive Recognises (access : Access) (r : Registry) :
    Option String → Except Error Identity → Prop
  | none : Recognises access r none (.error .missingKey)
  | blank {s : String} (blank : Text.allBlank s = true) :
      Recognises access r (some s) (.error .missingKey)
  | master {s : String} (filled : Text.allBlank s = false)
      (key : access.hasher.digest (Text.trim s) = access.masterDigest) :
      Recognises access r (some s) (.ok .master)
  | token {s : String} {id : TokenId} {t : Token} (filled : Text.allBlank s = false)
      (noMaster : access.hasher.digest (Text.trim s) ≠ access.masterDigest)
      (first : r.First (access.hasher.digest (Text.trim s)) id t) :
      Recognises access r (some s) (.ok (.token t))
  | unknown {s : String} (filled : Text.allBlank s = false)
      (noMaster : access.hasher.digest (Text.trim s) ≠ access.masterDigest)
      (none : ∀ id t, r.tokens.get? id = some t →
        t.digest ≠ access.hasher.digest (Text.trim s)) :
      Recognises access r (some s) (.error (.unknownKey (Secret.mask (Text.trim s))))

namespace Recognises

variable {access : Access} {r : Registry} {credential : Option String}
  {result : Except Error Identity}

theorem exists_outcome (access : Access) (r : Registry) (credential : Option String) :
    ∃ result, Recognises access r credential result := by
  rcases credential with _ | s
  · exact ⟨_, .none⟩
  cases hblank : Text.allBlank s
  swap
  · exact ⟨_, .blank hblank⟩
  by_cases hkey : access.hasher.digest (Text.trim s) = access.masterDigest
  · exact ⟨_, .master hblank hkey⟩
  by_cases hfirst : ∃ t id, r.First (access.hasher.digest (Text.trim s)) id t
  · obtain ⟨t, id, hfirst⟩ := hfirst
    exact ⟨_, .token hblank hkey hfirst⟩
  · refine ⟨_, .unknown hblank hkey fun id t hget hdigest => ?_⟩
    -- a token with the digest would let the first one be found
    rcases hfind : r.find? (access.hasher.digest (Text.trim s)) with _ | u
    · have hnone := List.find?_eq_none.1 hfind t (Registry.mem_list.2 ⟨id, hget⟩)
      simp [hdigest] at hnone
    · exact hfirst ⟨u, Registry.exists_first_of_find? hfind⟩

theorem resolve_eq (h : Recognises access r credential result) :
    access.resolve r credential = result := by
  cases h with
  | none => rfl
  | blank blank => simp [resolve, Text.isEmpty_trim, blank]
  | master filled key => simp [resolve, Text.isEmpty_trim, filled, isMasterKey, key]
  | token filled noMaster first =>
    have hfind := Registry.find?_eq_some_iff.2 ⟨_, first⟩
    simp [resolve, Text.isEmpty_trim, filled, isMasterKey, noMaster, hfind]
  | unknown filled noMaster none =>
    have hfind := Registry.find?_eq_none none
    simp [resolve, Text.isEmpty_trim, filled, isMasterKey, noMaster, hfind]

end Recognises

end Access

/-! ## Both together -/

namespace Gateway

/-- Whom a request comes from. -/
inductive Identifies (g : Gateway) (r : Http.Request) : Except Error Identity → Prop
  | unreadable {e : Error} (presented : Presents r.headers (.error e)) :
      Identifies g r (.error e)
  | presented {credential : Option String} {result : Except Error Identity}
      (presented : Presents r.headers (.ok credential))
      (recognised : g.access.Recognises g.vault.registry credential result) :
      Identifies g r result

/-- How the caller of a request is told. -/
structure Identified (g : Gateway) (r : Http.Request) : Prop where
  /-- By the cases above, of which exactly one fits. -/
  identifies_iff : ∀ result, Identifies g r result ↔ g.authenticate r = result
  /-- Where tokens stand under their own ids, no other one with the digest has a lower id. -/
  least : g.vault.registry.Keyed → ∀ t, g.authenticate r = .ok (.token t) →
    ∀ u ∈ g.vault.registry.list, u.digest = t.digest → t.id ≤ u.id
  /-- The two ways not to be recognised. -/
  unrecognised : ∀ e, g.authenticate r = .error e →
    e.status = 401 ∧ (e = .missingKey ∨ e.message = "invalid API key")

lemma Identifies.authenticate_eq {g : Gateway} {r : Http.Request}
    {result : Except Error Identity} (h : Identifies g r result) : g.authenticate r = result := by
  rw [Gateway.authenticate_eq]
  cases h with
  | unreadable presented => simp only [presented.credential_eq]
  | presented presented recognised => simp only [presented.credential_eq, recognised.resolve_eq]

lemma Identifies.exists_outcome (g : Gateway) (r : Http.Request) :
    ∃ result, Identifies g r result := by
  obtain ⟨e | credential, hpresented⟩ := Presents.exists_outcome r.headers
  · exact ⟨_, .unreadable hpresented⟩
  · obtain ⟨result, hrecognised⟩ :=
      Access.Recognises.exists_outcome g.access g.vault.registry credential
    exact ⟨result, .presented hpresented hrecognised⟩

theorem identified (g : Gateway) (r : Http.Request) : Identified g r := by
  have hiff (result : Except Error Identity) :
      Identifies g r result ↔ g.authenticate r = result := by
    refine ⟨Identifies.authenticate_eq, ?_⟩
    rintro rfl
    obtain ⟨result, h⟩ := Identifies.exists_outcome g r
    rwa [h.authenticate_eq]
  refine ⟨hiff, ?_, ?_⟩
  · intro hkeyed t hknown u hu hdigest
    obtain ⟨other, hother⟩ := Registry.mem_list.1 hu
    cases (hiff _).2 hknown with
    | presented _ recognised =>
      cases recognised with
      | token _ _ first =>
        rw [hkeyed _ _ first.found, hkeyed _ _ hother]
        exact first.least _ _ hother (hdigest.trans first.digest_eq)
  · intro e hunknown
    refine ⟨status_of_authenticate hunknown, ?_⟩
    cases (hiff _).2 hunknown with
    | unreadable presented =>
      rw [credential_error presented.credential_eq]
      exact .inr rfl
    | presented _ recognised =>
      cases recognised with
      | none => exact .inl rfl
      | blank => exact .inl rfl
      | unknown => exact .inr rfl

end Gateway

end ZoneGate
