import Mathlib.Data.List.Nodup
import ZoneGate.Access
import ZoneGate.Proofs.Session.History

/-!
# The keys that were given out

Among the keys of a run, the master key and every secret ever shown, a secret is recognised as long
as its token stands and as nobody's afterwards, provided that no two of these keys have the same
digest. What is recognised at all are the secrets of tokens that stand.
-/
namespace ZoneGate

/-! ## Random secrets -/

namespace Secret

lemma isBlank_digit : ∀ n < 16, Text.isBlank (Text.Hex.digit n) = false := by decide

lemma isBlank_of_mem_pairs {bytes : List UInt8} {c : Char} (h : c ∈ bytes.flatMap Text.Hex.pair) :
    Text.isBlank c = false := by
  obtain ⟨b, -, hc⟩ := List.mem_flatMap.1 h
  have hb := b.toNat_lt
  simp only [Text.Hex.pair, List.mem_cons, List.not_mem_nil, or_false] at hc
  rcases hc with rfl | rfl
  · exact isBlank_digit _ (by omega)
  · exact isBlank_digit _ (by omega)

lemma trimList_of_no_blank {cs : List Char} (h : ∀ c ∈ cs, Text.isBlank c = false) :
    Text.trimList cs = cs := by
  have hdrop : ∀ {ds : List Char}, (∀ c ∈ ds, Text.isBlank c = false) →
      ds.dropWhile Text.isBlank = ds := by
    intro ds hds
    cases ds with
    | nil => rfl
    | cons d ds => rw [List.dropWhile_cons, hds d (by simp)]; simp
  rw [Text.trimList, hdrop h, hdrop fun c hc => h c (List.mem_reverse.1 hc), List.reverse_reverse]

/-- Nothing is lost of a secret where credentials are trimmed. -/
@[simp] theorem trim_ofRandom (bytes : List UInt8) :
    Text.trim (ofRandom bytes) = ofRandom bytes := by
  rw [Text.trim, ofRandom, Text.Hex.encode, String.toList_ofList,
    trimList_of_no_blank fun _ => isBlank_of_mem_pairs]

theorem isEmpty_ofRandom (seed : Vector UInt8 size) : (ofRandom seed.toList).isEmpty = false := by
  obtain ⟨b, rest, hcons⟩ := List.exists_cons_of_length_pos
    (show 0 < seed.toList.length by rw [Vector.length_toList]; decide)
  rw [hcons, ofRandom, Text.Hex.encode, List.flatMap_cons, Text.Hex.pair]
  simp

end Secret

namespace Access

/-- How a credential is looked up that needs no trimming and is not the master key. -/
theorem resolve_trimmed {hasher : Hasher} {masterKey c : String} {r : Registry} (hempty : c ≠ "")
    (htrim : Text.trim c = c) (hmaster : hasher.digest c ≠ hasher.digest masterKey) :
    (ofMasterKey hasher masterKey).resolve r (some c) =
      match r.find? (hasher.digest c) with
      | some t => .ok (.token t)
      | none => .error (.unknownKey (Secret.mask c)) := by
  have hnonempty : c.isEmpty = false := by simpa using hempty
  have hnot : (ofMasterKey hasher masterKey).isMasterKey c = false := decide_eq_false hmaster
  simp only [resolve, Option.getD_some, htrim, hnonempty, hnot, Bool.false_eq_true, if_false]
  rfl

end Access

/-! ## Distinct keys -/

/-- No two of the secrets have the same digest. -/
def DistinctDigests (hasher : Hasher) (secrets : List String) : Prop :=
  ∀ a ∈ secrets, ∀ b ∈ secrets, hasher.digest a = hasher.digest b → a = b

theorem DistinctDigests.mono {hasher : Hasher} {some all : List String}
    (h : DistinctDigests hasher all) (hsub : some ⊆ all) : DistinctDigests hasher some :=
  fun a ha b hb => h a (hsub ha) b (hsub hb)

/-- The secrets of the tokens that were made. -/
def secrets (history : List Event) : List String :=
  (Event.issues history).map (·.issued.secret)

theorem mem_secrets {history : List Event} {i : Issue} (hi : i ∈ Event.issues history) :
    i.issued.secret ∈ secrets history := List.mem_map_of_mem hi

/-- The master key and the secrets of all tokens that were ever made. -/
def keys (masterKey : String) (history : List Event) : List String :=
  masterKey :: (Event.issues history).map (·.issued.secret)

/-- No two of the keys that were given out have the same digest: the secrets differ from each other
and from the master key, and so do their digests. -/
def DistinctKeys (hasher : Hasher) (masterKey : String) (history : List Event) : Prop :=
  ((keys masterKey history).map hasher.digest).Nodup

instance (hasher : Hasher) (masterKey : String) (history : List Event) :
    Decidable (DistinctKeys hasher masterKey history) :=
  inferInstanceAs (Decidable (List.Nodup _))

namespace DistinctKeys

variable {hasher : Hasher} {masterKey : String} {history : List Event}

theorem nodup_secrets (h : DistinctKeys hasher masterKey history) : (secrets history).Nodup :=
  List.Nodup.of_map _ (List.nodup_cons.1 h).2

theorem distinctDigests (h : DistinctKeys hasher masterKey history) :
    DistinctDigests hasher (keys masterKey history) :=
  fun _ ha _ hb => List.inj_on_of_nodup_map h ha hb

theorem distinctDigests_cons (h : DistinctKeys hasher masterKey history) {i : Issue}
    (hi : i ∈ Event.issues history) :
    DistinctDigests hasher (i.issued.secret :: secrets history) :=
  h.distinctDigests.mono
    (List.cons_subset.2 ⟨List.mem_cons_of_mem _ (mem_secrets hi), List.subset_cons_self _ _⟩)

theorem ne_masterDigest (h : DistinctKeys hasher masterKey history) {i : Issue}
    (hi : i ∈ Event.issues history) :
    hasher.digest i.issued.secret ≠ hasher.digest masterKey := by
  intro hdigest
  refine (List.nodup_cons.1 h).1 ?_
  rw [← hdigest, List.map_map]
  exact List.mem_map.2 ⟨i, hi, rfl⟩

/-- Nothing is made twice. -/
theorem not_mem_after {before after : List Event} {e : Event} {i : Issue}
    (h : DistinctKeys hasher masterKey (before ++ e :: after)) (he : e.issue? = some i) :
    i ∉ Event.issues after := by
  intro hmem
  have hnodup : (Event.issues (before ++ e :: after)).Nodup := List.Nodup.of_map _ h.nodup_secrets
  rw [Event.issues_split he] at hnodup
  have hlater := (List.nodup_append.1 hnodup).2.1
  exact (List.nodup_cons.1 hlater).1 hmem

end DistinctKeys

theorem distinctKeys_sample :
    DistinctKeys (.ofKey "hash key") "master key" Session.sample.history := by decide +kernel

namespace Traced

variable {hasher : Hasher} {masterKey : String} {r : Registry} {history : List Event}

/-- How a secret that was once given out is looked up. -/
theorem resolve_secret (h : Traced (.ofMasterKey hasher masterKey) r history)
    (hkeys : DistinctKeys hasher masterKey history) {i : Issue} (hi : i ∈ Event.issues history) :
    (Access.ofMasterKey hasher masterKey).resolve r (some i.issued.secret) =
      match r.find? (hasher.digest i.issued.secret) with
      | some t => .ok (.token t)
      | none => .error (.unknownKey (Secret.mask i.issued.secret)) := by
  obtain ⟨seed, hseed⟩ := (h.made hi).random
  refine Access.resolve_trimmed ?_ ?_ (hkeys.ne_masterDigest hi)
  · have hempty := Secret.isEmpty_ofRandom seed
    rintro hnone
    simp [← hseed, hnone] at hempty
  · rw [hseed, Secret.trim_ofRandom]

/-- A stored token is what stands of some issue. -/
theorem exists_issue (h : Traced (.ofMasterKey hasher masterKey) r history) {id : TokenId}
    {t : Token} (hget : r.tokens.get? id = some t) :
    ∃ i ∈ Event.issues history, Event.standing id history = some i ∧ i.issued.token = t ∧
      t.digest = hasher.digest i.issued.secret := by
  rw [h.get?_eq] at hget
  obtain ⟨i, hstanding, rfl⟩ := Option.map_eq_some_iff.1 hget
  have hi := (Event.mem_of_standing hstanding).1
  exact ⟨i, hi, hstanding, rfl, (h.made hi).digest⟩

/-- A digest finds the token of the live issue with that secret, and no other. -/
theorem find?_digest_eq_some_iff (h : Traced (.ofMasterKey hasher masterKey) r history)
    {c : String} (hsecrets : (secrets history).Nodup)
    (hdigests : DistinctDigests hasher (c :: secrets history)) {t : Token} :
    r.find? (hasher.digest c) = some t ↔
      ∃ i : Issue, i.LiveIn history ∧ i.issued.secret = c ∧ i.issued.token = t := by
  have hmem {i : Issue} (hi : i ∈ Event.issues history) : i.issued.secret ∈ c :: secrets history :=
    List.mem_cons_of_mem _ (mem_secrets hi)
  constructor
  · intro hfind
    obtain ⟨id, hget⟩ := Registry.mem_list.1 (List.mem_of_find?_eq_some hfind)
    have hdigest : t.digest = hasher.digest c := by simpa using List.find?_some hfind
    obtain ⟨i, hi, hstanding, rfl, hmade⟩ := h.exists_issue hget
    rw [← (Event.mem_of_standing hstanding).2] at hstanding
    have hsecret : i.issued.secret = c :=
      hdigests _ (hmem hi) _ List.mem_cons_self (hmade.symm.trans hdigest)
    exact ⟨i, h.standing_eq_some_iff.1 hstanding, hsecret, rfl⟩
  · rintro ⟨i, hlive, rfl, rfl⟩
    have hstanding := h.standing_eq_some_iff.2 hlive
    have hi := (Event.mem_of_standing hstanding).1
    have hget : r.tokens.get? i.issued.token.id = some i.issued.token := by
      rw [h.get?_eq, hstanding]
      rfl
    have hdigest : i.issued.token.digest = hasher.digest i.issued.secret := (h.made hi).digest
    rw [← hdigest]
    refine Registry.find?_eq_some hget fun other u hother hu => ?_
    -- another token with this digest would come from an issue with the same secret
    obtain ⟨j, hj, -, rfl, hjdigest⟩ := h.exists_issue hother
    have hsecret : j.issued.secret = i.issued.secret :=
      hdigests _ (hmem hj) _ (hmem hi) (by rw [← hjdigest, hu, hdigest])
    rw [List.inj_on_of_nodup_map hsecrets hj hi hsecret]

theorem find?_digest_eq_none_iff (h : Traced (.ofMasterKey hasher masterKey) r history)
    {c : String} (hsecrets : (secrets history).Nodup)
    (hdigests : DistinctDigests hasher (c :: secrets history)) :
    r.find? (hasher.digest c) = none ↔
      ¬ ∃ i : Issue, i.LiveIn history ∧ i.issued.secret = c := by
  simp only [Option.eq_none_iff_forall_ne_some, ne_eq,
    h.find?_digest_eq_some_iff hsecrets hdigests]
  constructor
  · rintro hnone ⟨i, hlive, hsecret⟩
    exact hnone _ ⟨i, hlive, hsecret, rfl⟩
  · rintro hnone t ⟨i, hlive, hsecret, -⟩
    exact hnone ⟨i, hlive, hsecret⟩

/-- The secret of a token that stands is recognised as this token's. -/
theorem resolve_of_standing (h : Traced (.ofMasterKey hasher masterKey) r history)
    (hkeys : DistinctKeys hasher masterKey history) {id : TokenId} {i : Issue}
    (hstanding : Event.standing id history = some i) :
    (Access.ofMasterKey hasher masterKey).resolve r (some i.issued.secret) =
      .ok (.token i.issued.token) := by
  obtain ⟨hi, rfl⟩ := Event.mem_of_standing hstanding
  have hfind := (h.find?_digest_eq_some_iff hkeys.nodup_secrets (hkeys.distinctDigests_cons hi)).2
    ⟨i, h.standing_eq_some_iff.1 hstanding, rfl, rfl⟩
  rw [h.resolve_secret hkeys hi, hfind]

/-- The secret of a token that does not stand any more is nobody's. -/
theorem resolve_of_not_standing (h : Traced (.ofMasterKey hasher masterKey) r history)
    (hkeys : DistinctKeys hasher masterKey history) {i : Issue} (hi : i ∈ Event.issues history)
    (hgone : Event.standing i.issued.token.id history ≠ some i) :
    (Access.ofMasterKey hasher masterKey).resolve r (some i.issued.secret) =
      .error (.unknownKey (Secret.mask i.issued.secret)) := by
  have hfind : r.find? (hasher.digest i.issued.secret) = none := by
    rw [h.find?_digest_eq_none_iff hkeys.nodup_secrets (hkeys.distinctDigests_cons hi)]
    rintro ⟨j, hlive, hsecret⟩
    have hstanding := h.standing_eq_some_iff.2 hlive
    have hj := (Event.mem_of_standing hstanding).1
    rw [List.inj_on_of_nodup_map hkeys.nodup_secrets hj hi hsecret] at hstanding
    exact hgone hstanding
  rw [h.resolve_secret hkeys hi, hfind]

end Traced

end ZoneGate
