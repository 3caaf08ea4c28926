import Mathlib.Data.List.Induction
import ZoneGate.Proofs.Registry.Ledger
import ZoneGate.Proofs.Session.Run

/-!
# What the history tells

The history of a run decides what the registry holds: under each id the token that was last made
with it and not deleted since, the number of tokens made as the latest id, and whether one of them
was an administrator.
-/
namespace ZoneGate

namespace Event

@[simp] theorem issues_nil : issues [] = [] := rfl

@[simp] theorem issues_append (before after : List Event) :
    issues (before ++ after) = issues before ++ issues after := List.filterMap_append

theorem issues_concat (history : List Event) (e : Event) :
    issues (history ++ [e]) = issues history ++ e.issue?.toList := filterMap_concat issue? history e

theorem issues_split {e : Event} {i : Issue} (h : e.issue? = some i) (before after : List Event) :
    issues (before ++ e :: after) = issues before ++ i :: issues after := by
  rw [issues_append, issues, issues, List.filterMap_cons_some h]
  rfl

theorem mem_issues {i : Issue} {history : List Event} :
    i ∈ issues history ↔ ∃ e ∈ history, e.issue? = some i := List.mem_filterMap

/-- No event both makes a token and deletes one. -/
theorem issue?_or_revoked?_eq_none (e : Event) : e.issue? = none ∨ e.revoked? = none := by
  obtain ⟨_ | _ | _ | _ | _, _ | _ | _ | _ | _ | _⟩ := e <;> simp [issue?, revoked?]

/-- The id that a deletion names which succeeds. -/
def deleted? (e : Event) : Option TokenId :=
  match e.call, e.revoked? with
  | .delete _ id _, some _ => some id
  | _, _ => none

/-- The change that a call makes, if it makes one. -/
def change? : Event → Option Change
  | ⟨.create _ _ _ _ _, .ok (.issued issued)⟩ => some (.made issued.token)
  | ⟨.delete _ id _, .ok (.revoked revoked)⟩ => some (.deleted id revoked.token)
  | _ => none

def changes (history : List Event) : List Change := history.filterMap change?

theorem tokens_changes (history : List Event) :
    Change.tokens (changes history) = (issues history).map (·.issued.token) := by
  rw [Change.tokens, changes, issues, List.filterMap_filterMap, List.map_filterMap]
  refine congrArg (List.filterMap · history) (funext fun e => ?_)
  obtain ⟨_ | _ | _ | _ | _, _ | _ | _ | _ | _ | _⟩ := e <;> rfl

theorem deletedIds_changes (history : List Event) :
    Change.deletedIds (changes history) = history.filterMap deleted? := by
  rw [Change.deletedIds, changes, List.filterMap_filterMap]
  refine congrArg (List.filterMap · history) (funext fun e => ?_)
  obtain ⟨_ | _ | _ | _ | _, _ | _ | _ | _ | _ | _⟩ := e <;> rfl

/-- What stands under an id after one more event. -/
def settle (id : TokenId) (held : Option Issue) (e : Event) : Option Issue :=
  match e.issue?, e.revoked? with
  | some i, _ => if i.issued.token.id = id then some i else held
  | none, some r => if r.token.id = id then none else held
  | none, none => held

/-- The token that stands under an id: the latest one made with it, unless it was deleted since. -/
def standing (id : TokenId) (history : List Event) : Option Issue :=
  history.foldl (settle id) none

theorem standing_concat (id : TokenId) (history : List Event) (e : Event) :
    standing id (history ++ [e]) = settle id (standing id history) e := by simp [standing]

theorem settle_of_issue {id : TokenId} {held : Option Issue} {e : Event} {i : Issue}
    (h : e.issue? = some i) :
    settle id held e = if i.issued.token.id = id then some i else held := by simp [settle, h]

theorem settle_of_revoked {id : TokenId} {held : Option Issue} {e : Event} {r : Revoked}
    (hissue : e.issue? = none) (hrevoked : e.revoked? = some r) :
    settle id held e = if r.token.id = id then none else held := by simp [settle, hissue, hrevoked]

theorem settle_of_none {id : TokenId} {held : Option Issue} {e : Event}
    (hissue : e.issue? = none) (hrevoked : e.revoked? = none) : settle id held e = held := by
  simp [settle, hissue, hrevoked]

/-- What an event leaves standing stood before, or was made in it. -/
theorem settle_eq_some {id : TokenId} {held : Option Issue} {e : Event} {i : Issue}
    (h : settle id held e = some i) :
    held = some i ∨ (e.issue? = some i ∧ i.issued.token.id = id) := by
  unfold settle at h
  split at h
  · rename_i hissue
    split at h
    · rename_i hid
      cases h
      exact .inr ⟨hissue, hid⟩
    · exact .inl h
  · split at h
    · cases h
    · exact .inl h
  · exact .inl h

theorem foldl_settle_eq_some {id : TokenId} {held : Option Issue} {history : List Event}
    {i : Issue} (h : history.foldl (settle id) held = some i) :
    held = some i ∨ (i ∈ issues history ∧ i.issued.token.id = id) := by
  induction history generalizing held with
  | nil => exact .inl h
  | cons e history ih =>
    rcases ih h with hheld | ⟨hmem, hid⟩
    · rcases settle_eq_some hheld with hheld | ⟨hissue, hid⟩
      · exact .inl hheld
      · exact .inr ⟨mem_issues.2 ⟨e, by simp, hissue⟩, hid⟩
    · obtain ⟨e', he', hissue⟩ := mem_issues.1 hmem
      exact .inr ⟨mem_issues.2 ⟨e', by simp [he'], hissue⟩, hid⟩

theorem mem_of_standing {id : TokenId} {history : List Event} {i : Issue}
    (h : standing id history = some i) : i ∈ issues history ∧ i.issued.token.id = id := by
  rcases foldl_settle_eq_some h with hheld | hmade
  · cases hheld
  · exact hmade

end Event

namespace Issue

/-- Whether the token of an issue is deleted in one of the events. -/
def RevokedIn (i : Issue) (events : List Event) : Prop :=
  ∃ e ∈ events, ∃ r, e.revoked? = some r ∧ r.token.id = i.issued.token.id

/-- Whether the id of an issue is given to another token in one of the events. -/
def ReplacedIn (i : Issue) (events : List Event) : Prop :=
  ∃ j ∈ Event.issues events, j.issued.token.id = i.issued.token.id

/-- Whether a deletion in one of the events names the id of an issue. -/
def DeletedIn (i : Issue) (events : List Event) : Prop :=
  ∃ e ∈ events, e.deleted? = some i.issued.token.id

/-- Whether the token of an issue is there after a history: it was made, and since then its id was
neither named by a deletion nor given to another token. -/
def LiveIn (i : Issue) (history : List Event) : Prop :=
  ∃ before e after, history = before ++ e :: after ∧ e.issue? = some i ∧
    ¬ i.DeletedIn after ∧ ¬ i.ReplacedIn after

theorem revokedIn_append {i : Issue} {before after : List Event} :
    i.RevokedIn (before ++ after) ↔ i.RevokedIn before ∨ i.RevokedIn after := by
  simp [RevokedIn, or_and_right, exists_or]

theorem replacedIn_append {i : Issue} {before after : List Event} :
    i.ReplacedIn (before ++ after) ↔ i.ReplacedIn before ∨ i.ReplacedIn after := by
  simp [ReplacedIn, or_and_right, exists_or]

theorem revokedIn_singleton {i : Issue} {e : Event} :
    i.RevokedIn [e] ↔ ∃ r, e.revoked? = some r ∧ r.token.id = i.issued.token.id := by
  simp [RevokedIn]

theorem replacedIn_singleton {i : Issue} {e : Event} :
    i.ReplacedIn [e] ↔ ∃ j, e.issue? = some j ∧ j.issued.token.id = i.issued.token.id := by
  rcases h : e.issue? with _ | j <;> simp [ReplacedIn, Event.issues, h]

end Issue

namespace Event

/-- A token stands until it is deleted or its id is given out again. -/
theorem standing_of_untouched {before after : List Event} {e : Event} {i : Issue}
    (hissue : e.issue? = some i) (hrevoked : ¬ i.RevokedIn after)
    (hreplaced : ¬ i.ReplacedIn after) :
    standing i.issued.token.id (before ++ e :: after) = some i := by
  have hmade : standing i.issued.token.id (before ++ [e]) = some i := by
    rw [standing_concat, settle_of_issue hissue, if_pos rfl]
  have hkept : ∀ events, events ⊆ after →
      events.foldl (settle i.issued.token.id) (some i) = some i := by
    intro events hsub
    induction events with
    | nil => rfl
    | cons e' events ih =>
      have hmem : e' ∈ after := hsub (by simp)
      have hsettle : settle i.issued.token.id (some i) e' = some i := by
        rcases hissue' : e'.issue? with _ | j
        · rcases hrevoked' : e'.revoked? with _ | r
          · exact settle_of_none hissue' hrevoked'
          · rw [settle_of_revoked hissue' hrevoked', if_neg]
            exact fun hid => hrevoked ⟨e', hmem, r, hrevoked', hid⟩
        · rw [settle_of_issue hissue', if_neg]
          exact fun hid => hreplaced ⟨j, mem_issues.2 ⟨e', hmem, hissue'⟩, hid⟩
      rw [List.foldl_cons, hsettle]
      exact ih fun x hx => hsub (by simp [hx])
  rw [List.append_cons, standing, List.foldl_append, ← standing, hmade]
  exact hkept after fun _ h => h

/-- What stands after an event was made in it, or stood before and was left alone by it. -/
theorem settle_eq_some_untouched {held : Option Issue} {e : Event} {i : Issue}
    (h : settle i.issued.token.id held e = some i) :
    e.issue? = some i ∨ (held = some i ∧ ¬ i.RevokedIn [e] ∧ ¬ i.ReplacedIn [e]) := by
  rw [Issue.revokedIn_singleton, Issue.replacedIn_singleton]
  rcases hissue : e.issue? with _ | j
  · rcases hrevoked : e.revoked? with _ | r
    · rw [settle_of_none hissue hrevoked] at h
      exact .inr ⟨h, by simp, by simp⟩
    · rw [settle_of_revoked hissue hrevoked] at h
      split at h
      · cases h
      · rename_i hid
        exact .inr ⟨h, by simpa using hid, by simp⟩
  · have hrevoked : e.revoked? = none :=
      (issue?_or_revoked?_eq_none e).resolve_left (by simp [hissue])
    rw [settle_of_issue hissue] at h
    split at h
    · exact .inl h
    · rename_i hid
      exact .inr ⟨h, by simp [hrevoked], by simpa using hid⟩

/-- A token that stands was made, and neither deleted nor replaced since. -/
theorem exists_issue_of_standing {history : List Event} {i : Issue}
    (h : standing i.issued.token.id history = some i) : ∃ before e after,
      history = before ++ e :: after ∧ e.issue? = some i ∧ ¬ i.RevokedIn after ∧
        ¬ i.ReplacedIn after := by
  induction history using List.reverseRecOn with
  | nil => cases h
  | append_singleton history e ih =>
    rw [standing_concat] at h
    rcases settle_eq_some_untouched h with hissue | ⟨hheld, hrevoked, hreplaced⟩
    · exact ⟨history, e, [], rfl, hissue, by simp [Issue.RevokedIn], by simp [Issue.ReplacedIn]⟩
    · obtain ⟨before, e', after, rfl, hissue, hkept, hown⟩ := ih hheld
      refine ⟨before, e', after ++ [e], by simp, hissue, ?_, ?_⟩
      · rw [Issue.revokedIn_append]
        exact not_or.2 ⟨hkept, hrevoked⟩
      · rw [Issue.replacedIn_append]
        exact not_or.2 ⟨hown, hreplaced⟩

/-- A token that was deleted can only stand again where it was made again. -/
theorem mem_of_standing_of_revoked {before after : List Event} {e : Event} {i : Issue}
    (hrevoked : i.RevokedIn after)
    (h : standing i.issued.token.id (before ++ e :: after) = some i) : i ∈ issues after := by
  obtain ⟨d, hd, r, hr, hid⟩ := hrevoked
  obtain ⟨early, late, rfl⟩ := List.append_of_mem hd
  have hnoIssue : d.issue? = none :=
    (issue?_or_revoked?_eq_none d).resolve_right (by simp [hr])
  -- nothing stands right after the deletion, so what stands at the end was made later
  have hgone : standing i.issued.token.id ((before ++ e :: early) ++ [d]) = none := by
    rw [standing_concat, settle_of_revoked hnoIssue hr, if_pos hid]
  have hlate : late.foldl (settle i.issued.token.id) none = some i := by
    rw [← hgone, standing, ← List.foldl_append, ← h, standing]
    simp
  rcases foldl_settle_eq_some hlate with hheld | ⟨hmem, -⟩
  · cases hheld
  · rw [List.append_cons, issues_append]
    exact List.mem_append_right _ hmem

end Event

/-! ## The registry by its history -/

theorem Effect.settles {access : Access} {r r' : Registry} {e : Event} (h : Effect access r e r') :
    r.Settles e.change? r' := by
  cases h with
  | issue _ _ created => exact .changed (.made created)
  | revoke _ deleted => exact .changed (.deleted deleted)
  | keep noIssue noneRevoked =>
    have hnone : e.change? = none := by
      obtain ⟨_ | _ | _ | _ | _, _ | _ | _ | _ | _ | _⟩ := e <;>
        simp_all [Event.change?, Event.issue?, Event.revoked?]
    rw [hnone]
    exact .unchanged

theorem Traced.kept {access : Access} {r : Registry} {history : List Event}
    (h : Traced access r history) : Kept (Event.changes history) r := by
  induction h with
  | start => exact .start
  | @step r r' history e _ effect ih =>
    rw [Event.changes, filterMap_concat]
    exact ih.settle effect.settles

namespace Traced

variable {access : Access} {r : Registry} {history : List Event}

/-- A registry holds what stands by its history, and nothing else. -/
theorem get?_eq (h : Traced access r history) (id : TokenId) :
    r.tokens.get? id = (Event.standing id history).map (·.issued.token) := by
  induction h generalizing id with
  | start => rfl
  | @step r r' history e _ effect ih =>
    rw [Event.standing_concat]
    cases effect with
    | @issue caller _ g _ _ _ issued _ _ _ _ created =>
      obtain ⟨-, rfl⟩ := Registry.create_eq created
      rw [Event.settle_of_issue (i := ⟨caller, g, issued⟩) rfl]
      by_cases hid : issued.token.id = id
      · rw [if_pos hid, ← hid, TokenMap.get?_insert_self]
        rfl
      · rw [if_neg hid, TokenMap.get?_insert_of_ne (Ne.symm hid), ih]
    | @revoke _ _ key _ revoked _ _ deleted =>
      obtain ⟨hget, -, rfl⟩ := Registry.delete_ok deleted
      rw [ih] at hget
      obtain ⟨i, hstanding, htoken⟩ := Option.map_eq_some_iff.1 hget
      -- a token stands under its own id, so the deleted one had the id that was asked for
      have hkey : revoked.token.id = key := by
        rw [← htoken]
        exact (Event.mem_of_standing hstanding).2
      rw [Event.settle_of_revoked (r := revoked) rfl rfl, hkey]
      by_cases hid : key = id
      · rw [if_pos hid, ← hid, TokenMap.get?_erase_self]
        rfl
      · rw [if_neg hid, TokenMap.get?_erase_of_ne (Ne.symm hid), ih]
    | keep noIssue noneRevoked => rw [Event.settle_of_none noIssue noneRevoked, ih]

/-- A token is under its own id. -/
theorem id_of_get? (h : Traced access r history) {id : TokenId} {t : Token}
    (hget : r.tokens.get? id = some t) : t.id = id := by
  rw [h.get?_eq] at hget
  obtain ⟨i, hstanding, rfl⟩ := Option.map_eq_some_iff.1 hget
  exact (Event.mem_of_standing hstanding).2

/-- A deletion gives back the token whose id it names. -/
theorem deleted?_eq (h : Traced access r history) {e : Event} (he : e ∈ history) :
    e.deleted? = e.revoked?.map (·.token.id) := by
  induction h with
  | start => cases he
  | @step r r' history last traced effect ih =>
    rcases List.mem_append.1 he with he | he
    · exact ih he
    rw [List.mem_singleton.1 he]
    cases effect with
    | issue => rfl
    | revoke _ deleted =>
      obtain ⟨hget, -, -⟩ := Registry.delete_ok deleted
      simp [Event.deleted?, Event.revoked?, traced.id_of_get? hget]
    | keep _ noneRevoked => simp [Event.deleted?, noneRevoked]

theorem deletedIn_iff (h : Traced access r history) {i : Issue} {events : List Event}
    (hsub : events ⊆ history) : i.DeletedIn events ↔ i.RevokedIn events := by
  refine exists_congr fun e => and_congr_right fun he => ?_
  rw [h.deleted?_eq (hsub he), Option.map_eq_some_iff]

/-- The tokens that stand are the live ones. -/
theorem standing_eq_some_iff (h : Traced access r history) {i : Issue} :
    Event.standing i.issued.token.id history = some i ↔ i.LiveIn history := by
  constructor
  · intro hstanding
    obtain ⟨before, e, after, rfl, hissue, hkept, hown⟩ := Event.exists_issue_of_standing hstanding
    refine ⟨before, e, after, rfl, hissue, fun hdeleted => hkept ?_, hown⟩
    exact (h.deletedIn_iff fun d hd => by simp [hd]).1 hdeleted
  · rintro ⟨before, e, after, rfl, hissue, hkept, hown⟩
    refine Event.standing_of_untouched hissue (fun hrevoked => hkept ?_) hown
    exact (h.deletedIn_iff fun d hd => by simp [hd]).2 hrevoked

/-- The latest id counts the tokens that were made. -/
theorem nextId_eq (h : Traced access r history) :
    r.nextId = UInt64.ofNat (Event.issues history).length := by
  rw [h.kept.nextId_eq, Event.tokens_changes, List.length_map]

/-- Tokens are numbered from one in the order in which they are made. -/
theorem id_of_getElem? (h : Traced access r history) {k : Nat} {i : Issue}
    (hi : (Event.issues history)[k]? = some i) : i.issued.token.id = UInt64.ofNat (k + 1) :=
  h.kept.id_of_getElem? (by rw [Event.tokens_changes, List.getElem?_map, hi, Option.map_some])

lemma mod_eq_of_ofNat_eq {a b : Nat} (h : UInt64.ofNat a = UInt64.ofNat b) :
    a % UInt64.size = b % UInt64.size := by simpa using congrArg UInt64.toNat h

/-- The next id is new, as long as the counter has not come round. -/
theorem id_ne_next (h : Traced access r history)
    (hsize : (Event.issues history).length + 1 < UInt64.size) {i : Issue}
    (hi : i ∈ Event.issues history) : i.issued.token.id ≠ r.nextId + 1 := by
  have hmade : i.issued.token ∈ Change.tokens (Event.changes history) := by
    rw [Event.tokens_changes]
    exact List.mem_map_of_mem hi
  refine UInt64.ne_of_lt (h.kept.lt_next ?_ hmade)
  rwa [Event.tokens_changes, List.length_map]

/-- Nothing is ever again under an id that was deleted. -/
theorem get?_of_deleted (h : Traced access r history)
    (hsize : (Event.issues history).length < UInt64.size) {e : Event} (he : e ∈ history)
    {id : TokenId} (hdeleted : e.deleted? = some id) : r.tokens.get? id = none := by
  refine h.kept.get?_of_deleted ?_ ?_
  · rwa [Event.tokens_changes, List.length_map]
  · rw [Event.deletedIds_changes]
    exact List.mem_filterMap.2 ⟨e, he, hdeleted⟩

/-- An id is given out again only after all the others were. -/
theorem size_lt_of_replacedIn {before after : List Event} {e : Event} {i : Issue}
    (h : Traced access r (before ++ e :: after)) (he : e.issue? = some i)
    (hreplaced : i.ReplacedIn after) :
    UInt64.size < (Event.issues (before ++ e :: after)).length := by
  obtain ⟨j, hj, hid⟩ := hreplaced
  obtain ⟨k, hk, hjk⟩ := List.getElem_of_mem hj
  have hissues := Event.issues_split he before after
  have hfirst := h.id_of_getElem? (k := (Event.issues before).length) (i := i) (by
    rw [hissues, List.getElem?_append_right (Nat.le_refl _), Nat.sub_self]
    rfl)
  have hsecond := h.id_of_getElem? (k := (Event.issues before).length + (k + 1)) (i := j) (by
    rw [hissues, List.getElem?_append_right (by omega), Nat.add_sub_cancel_left,
      List.getElem?_cons_succ, List.getElem?_eq_getElem hk, hjk])
  have hmod := mod_eq_of_ofNat_eq (hfirst.symm.trans (hid.symm.trans hsecond))
  rw [hissues, List.length_append, List.length_cons]
  simp only [UInt64.size] at hmod ⊢
  omega

/-- The flag tells whether an administrator was ever made. -/
theorem adminEverCreated_eq (h : Traced access r history) :
    r.adminEverCreated = (Event.issues history).any (·.issued.token.isAdmin) := by
  induction h with
  | start => rfl
  | @step r r' history e _ effect ih =>
    rw [Event.issues_concat, List.any_append]
    cases effect with
    | issue _ _ created =>
      obtain ⟨-, rfl⟩ := Registry.create_eq created
      rw [ih]
      simp [Event.issue?]
    | revoke _ deleted =>
      obtain ⟨-, -, rfl⟩ := Registry.delete_ok deleted
      simpa [Event.issue?] using ih
    | keep noIssue _ => rw [noIssue, ih]; simp

end Traced

/-- How a token comes about: its grant was checked, and it keeps what the check gave together with
the digest of a random secret. -/
structure Issue.Made (access : Access) (i : Issue) : Prop where
  validated : ∃ name, i.grant.validate =
    .ok ⟨name, i.issued.token.isAdmin, i.issued.token.permissions⟩
  digest : i.issued.token.digest = access.hasher.digest i.issued.secret
  random : ∃ seed : Vector UInt8 Secret.size, i.issued.secret = Secret.ofRandom seed.toList

theorem Traced.made {access : Access} {r : Registry} {history : List Event}
    (h : Traced access r history) {i : Issue} (hi : i ∈ Event.issues history) : i.Made access := by
  induction h with
  | start => simp at hi
  | @step r r' history e _ effect ih =>
    rw [Event.issues_concat] at hi
    rcases List.mem_append.1 hi with hi | hi
    · exact ih hi
    cases effect with
    | issue approved secret created =>
      obtain ⟨htoken, -⟩ := Registry.create_eq created
      obtain ⟨-, hvalidate, -⟩ := Admin.approve_ok approved
      rw [Event.issue?, Option.toList_some, List.mem_singleton] at hi
      subst hi
      exact ⟨⟨_, by rw [hvalidate, htoken]⟩, by rw [htoken], ⟨_, secret⟩⟩
    | revoke => simp [Event.issue?] at hi
    | keep noIssue _ => simp [noIssue] at hi

end ZoneGate
