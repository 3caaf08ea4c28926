import Mathlib.Data.List.Induction
import ZoneGate.Proofs.Registry.Contents

/-!
# The registry as a ledger

A registry comes about by tokens being made and deleted. As long as the ids have not come round, it
is the ledger of these changes: it lists the tokens in the order in which they were made, without
those whose id was named by a deletion.
-/
namespace ZoneGate

lemma filterMap_concat {α β : Type} (f : α → Option β) (xs : List α) (x : α) :
    (xs ++ [x]).filterMap f = xs.filterMap f ++ (f x).toList := by
  cases h : f x <;> simp [h]

/-- A change of a registry. -/
inductive Change where
  | made (t : Token)
  /-- The id that a deletion names, and the token that it gives back. -/
  | deleted (id : TokenId) (t : Token)

namespace Change

def made? : Change → Option Token
  | made t => some t
  | deleted _ _ => none

def deletedId? : Change → Option TokenId
  | made _ => none
  | deleted id _ => some id

/-- The tokens that were made, in the order in which they were made. -/
def tokens (changes : List Change) : List Token := changes.filterMap made?

/-- The ids that deletions named. -/
def deletedIds (changes : List Change) : List TokenId := changes.filterMap deletedId?

/-- The tokens that were made and not deleted. -/
def remaining (changes : List Change) : List Token :=
  (tokens changes).filter fun t => t.id ∉ deletedIds changes

variable (changes : List Change)

@[simp] theorem tokens_made (t : Token) :
    tokens (changes ++ [made t]) = tokens changes ++ [t] := by simp [tokens, made?]

@[simp] theorem tokens_deleted (id : TokenId) (t : Token) :
    tokens (changes ++ [deleted id t]) = tokens changes := by simp [tokens, made?]

@[simp] theorem deletedIds_made (t : Token) :
    deletedIds (changes ++ [made t]) = deletedIds changes := by simp [deletedIds, deletedId?]

@[simp] theorem deletedIds_deleted (id : TokenId) (t : Token) :
    deletedIds (changes ++ [deleted id t]) = deletedIds changes ++ [id] := by
  simp [deletedIds, deletedId?]

theorem remaining_made {t : Token} (h : t.id ∉ deletedIds changes) :
    remaining (changes ++ [made t]) = remaining changes ++ [t] := by
  simp [remaining, h]

theorem remaining_deleted (id : TokenId) (t : Token) :
    remaining (changes ++ [deleted id t]) = (remaining changes).filter (·.id ≠ id) := by
  rw [remaining, remaining, tokens_deleted, deletedIds_deleted, List.filter_filter]
  exact List.filter_congr fun u _ => by simp [and_comm]

end Change

open Change

/-- What a change turns a registry into. -/
inductive Registry.Turns (r : Registry) : Change → Registry → Prop
  | made {t : NewToken} {digest : Digest} {now : Timestamp} {token : Token} {r' : Registry}
      (created : r.create t digest now = (token, r')) : Turns r (.made token) r'
  | deleted {id : TokenId} {t : Token} {r' : Registry} (deleted : r.delete id = .ok (t, r')) :
      Turns r (.deleted id t) r'

/-- The registries that changes lead to from the empty one. -/
inductive Kept : List Change → Registry → Prop
  | start : Kept [] .empty
  | turn {changes : List Change} {r r' : Registry} {change : Change} (kept : Kept changes r)
      (turns : r.Turns change r') : Kept (changes ++ [change]) r'

/-- What comes of a registry where a change may have been made. -/
inductive Registry.Settles (r : Registry) : Option Change → Registry → Prop
  | unchanged : Settles r none r
  | changed {change : Change} {r' : Registry} (turns : r.Turns change r') :
      Settles r (some change) r'

namespace Kept

variable {changes : List Change} {r : Registry}

theorem settle (h : Kept changes r) {change? : Option Change} {r' : Registry}
    (settles : r.Settles change? r') : Kept (changes ++ change?.toList) r' := by
  cases settles with
  | unchanged => simpa using h
  | changed turns => exact h.turn turns

/-- The latest id counts the tokens that were made. -/
theorem nextId_eq (h : Kept changes r) : r.nextId = UInt64.ofNat (tokens changes).length := by
  induction h with
  | start => rfl
  | turn _ turns ih =>
    cases turns with
    | made created =>
      obtain ⟨htoken, rfl⟩ := Registry.create_eq created
      rw [tokens_made, List.length_append, htoken, ih]
      exact (UInt64.ofNat_add _ _).symm
    | deleted deleted =>
      obtain ⟨-, -, rfl⟩ := Registry.delete_ok deleted
      rw [tokens_deleted]
      exact ih

/-- Tokens are numbered from one in the order in which they are made. -/
theorem id_of_getElem? (h : Kept changes r) {k : Nat} {t : Token}
    (ht : (tokens changes)[k]? = some t) : t.id = UInt64.ofNat (k + 1) := by
  induction h with
  | start => simp [tokens] at ht
  | @turn changes r r' change kept turns ih =>
    cases turns with
    | @made _ _ _ token _ created =>
      rw [tokens_made] at ht
      rcases Nat.lt_trichotomy k (tokens changes).length with hk | hk | hk
      · rw [List.getElem?_append_left hk] at ht
        exact ih ht
      · obtain ⟨htoken, -⟩ := Registry.create_eq created
        rw [hk, List.getElem?_concat_length, Option.some.injEq] at ht
        rw [← ht, htoken, kept.nextId_eq, hk]
        exact (UInt64.ofNat_add _ _).symm
      · have hlength : (tokens changes ++ [token]).length ≤ k := by simpa [Nat.succ_le_iff] using hk
        rw [List.getElem?_eq_none hlength] at ht
        cases ht
    | deleted =>
      rw [tokens_deleted] at ht
      exact ih ht

/-- What is under an id was made with it. -/
theorem mem_tokens_of_get? (h : Kept changes r) {id : TokenId} {t : Token}
    (hget : r.tokens.get? id = some t) : t ∈ tokens changes ∧ t.id = id := by
  induction h with
  | start => cases hget
  | turn _ turns ih =>
    cases turns with
    | @made _ _ _ token _ created =>
      obtain ⟨-, rfl⟩ := Registry.create_eq created
      rw [tokens_made]
      by_cases hid : id = token.id
      · rw [hid, TokenMap.get?_insert_self, Option.some.injEq] at hget
        exact ⟨by simp [hget], by rw [hid, hget]⟩
      · rw [TokenMap.get?_insert_of_ne hid] at hget
        obtain ⟨hmem, hown⟩ := ih hget
        exact ⟨List.mem_append_left _ hmem, hown⟩
    | @deleted key _ _ deleted =>
      obtain ⟨-, -, rfl⟩ := Registry.delete_ok deleted
      rw [tokens_deleted]
      by_cases hid : id = key
      · rw [hid, TokenMap.get?_erase_self] at hget
        cases hget
      · rw [TokenMap.get?_erase_of_ne hid] at hget
        exact ih hget

/-- Deletions only name ids of tokens that were made. -/
theorem exists_token_of_deleted (h : Kept changes r) {id : TokenId}
    (hid : id ∈ deletedIds changes) : ∃ t ∈ tokens changes, t.id = id := by
  induction h with
  | start => simp [deletedIds] at hid
  | turn kept turns ih =>
    cases turns with
    | made =>
      rw [deletedIds_made] at hid
      obtain ⟨t, ht, hown⟩ := ih hid
      exact ⟨t, by simp [ht], hown⟩
    | @deleted key t _ deleted =>
      rw [deletedIds_deleted, List.mem_append, List.mem_singleton] at hid
      rw [tokens_deleted]
      rcases hid with hid | rfl
      · exact ih hid
      · obtain ⟨hget, -, -⟩ := Registry.delete_ok deleted
        exact ⟨t, kept.mem_tokens_of_get? hget⟩

/-- What stood before a change, and what the change did. -/
theorem exists_turns {before after : List Change} {change : Change}
    (h : Kept (before ++ change :: after) r) :
    ∃ r₁ r₂, Kept before r₁ ∧ r₁.Turns change r₂ := by
  induction after using List.reverseRecOn generalizing r with
  | nil =>
    generalize hchanges : before ++ [change] = changes at h
    cases h with
    | start => simp at hchanges
    | turn kept turns =>
      obtain ⟨rfl, hchange⟩ := List.append_inj' hchanges rfl
      cases hchange
      exact ⟨_, _, kept, turns⟩
  | append_singleton after last ih =>
    generalize hchanges : before ++ change :: (after ++ [last]) = changes at h
    cases h with
    | start => simp at hchanges
    | turn kept turns =>
      rw [← List.cons_append, ← List.append_assoc] at hchanges
      obtain ⟨rfl, -⟩ := List.append_inj' hchanges rfl
      exact ih kept

/-! ## As long as the ids have not come round -/

theorem toNat_id_of_getElem? (h : Kept changes r) (hsize : (tokens changes).length < UInt64.size)
    {k : Nat} {t : Token} (ht : (tokens changes)[k]? = some t) : t.id.toNat = k + 1 := by
  obtain ⟨hk, -⟩ := List.getElem?_eq_some_iff.1 ht
  rw [h.id_of_getElem? ht]
  exact UInt64.toNat_ofNat_of_lt' (by omega)

theorem toNat_id_le (h : Kept changes r) (hsize : (tokens changes).length < UInt64.size)
    {t : Token} (ht : t ∈ tokens changes) : t.id.toNat ≤ (tokens changes).length := by
  obtain ⟨k, hk, hkt⟩ := List.getElem_of_mem ht
  rw [h.toNat_id_of_getElem? hsize (List.getElem?_eq_some_iff.2 ⟨hk, hkt⟩)]
  exact hk

/-- Later tokens have greater ids. -/
theorem ascending (h : Kept changes r) (hsize : (tokens changes).length < UInt64.size) :
    (tokens changes).Pairwise (·.id < ·.id) := by
  refine List.pairwise_iff_getElem.2 fun i j hi hj hij => ?_
  have hfirst := h.toNat_id_of_getElem? hsize (List.getElem?_eq_getElem hi)
  have hsecond := h.toNat_id_of_getElem? hsize (List.getElem?_eq_getElem hj)
  rw [UInt64.lt_iff_toNat_lt, hfirst, hsecond]
  omega

/-- The next token comes after all the others. -/
theorem lt_next (h : Kept changes r) (hsize : (tokens changes).length + 1 < UInt64.size)
    {t : Token} (ht : t ∈ tokens changes) : t.id < r.nextId + 1 := by
  have hle := h.toNat_id_le (by omega) ht
  have hnext : r.nextId + 1 = UInt64.ofNat ((tokens changes).length + 1) := by
    rw [h.nextId_eq]
    exact (UInt64.ofNat_add _ _).symm
  rw [UInt64.lt_iff_toNat_lt, hnext, UInt64.toNat_ofNat_of_lt' hsize]
  omega

/-- The registry has the remaining tokens, each under its id, and nothing else. -/
theorem entries_eq (h : Kept changes r) (hsize : (tokens changes).length < UInt64.size) :
    r.tokens.entries = (remaining changes).map fun t => (t.id, t) := by
  induction h with
  | start => rfl
  | @turn changes r r' change kept turns ih =>
    cases turns with
    | @made _ _ _ token _ created =>
      rw [tokens_made, List.length_append, List.length_singleton] at hsize
      obtain ⟨htoken, rfl⟩ := Registry.create_eq created
      have hlast : ∀ u ∈ tokens changes, u.id < token.id := by
        intro u hu
        rw [htoken]
        exact kept.lt_next hsize hu
      have hnew : token.id ∉ deletedIds changes := by
        intro hdeleted
        obtain ⟨u, hu, hid⟩ := kept.exists_token_of_deleted hdeleted
        exact UInt64.lt_irrefl _ (hid ▸ hlast u hu)
      have hend : ∀ e ∈ r.tokens.entries, e.1 < token.id := by
        intro e he
        rw [ih (by omega), List.mem_map] at he
        obtain ⟨u, hu, rfl⟩ := he
        exact hlast u (List.mem_filter.1 hu).1
      calc (r.tokens.insert token.id token).entries
          = r.tokens.entries ++ [(token.id, token)] := TokenMap.insertEntry_of_lt hend token
        _ = (remaining (changes ++ [.made token])).map fun t => (t.id, t) := by
          rw [ih (by omega), remaining_made changes hnew, List.map_append]
          rfl
    | @deleted key t _ deleted =>
      rw [tokens_deleted] at hsize
      obtain ⟨-, -, rfl⟩ := Registry.delete_ok deleted
      rw [remaining_deleted]
      change r.tokens.entries.filter (·.1 ≠ key) = _
      rw [ih hsize, List.filter_map]
      rfl

theorem list_eq (h : Kept changes r) (hsize : (tokens changes).length < UInt64.size) :
    r.list = remaining changes := by
  rw [Registry.list, TokenMap.tokens, h.entries_eq hsize, List.map_map]
  exact List.map_id _

/-- Looking up an id finds the remaining token that has it. -/
theorem get?_eq_some_iff (h : Kept changes r) (hsize : (tokens changes).length < UInt64.size)
    {id : TokenId} {t : Token} :
    r.tokens.get? id = some t ↔ t ∈ remaining changes ∧ t.id = id := by
  rw [← TokenMap.mem_entries, h.entries_eq hsize, List.mem_map]
  constructor
  · rintro ⟨u, hu, hpair⟩
    obtain ⟨rfl, rfl⟩ := Prod.mk.inj hpair
    exact ⟨hu, rfl⟩
  · rintro ⟨ht, rfl⟩
    exact ⟨t, ht, rfl⟩

/-- Nothing is ever again under an id that was deleted. -/
theorem get?_of_deleted (h : Kept changes r) (hsize : (tokens changes).length < UInt64.size)
    {id : TokenId} (hid : id ∈ deletedIds changes) : r.tokens.get? id = none := by
  refine Option.eq_none_iff_forall_ne_some.2 fun t hget => ?_
  obtain ⟨ht, rfl⟩ := (h.get?_eq_some_iff hsize).1 hget
  have hkept := (List.mem_filter.1 ht).2
  simp [hid] at hkept

end Kept

end ZoneGate
