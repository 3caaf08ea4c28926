import Mathlib.Tactic.Lemma
import ZoneGate.Registry

/-!
# What a registry holds

Looking up an id gives the token that was last put under it, unless it has been erased since. A
registry in which an administrator may be deleted holds another one.
-/
namespace ZoneGate

/-- Taking out the entries of one key does not affect the others. -/
lemma lookup_filter_of_ne {α β : Type} [DecidableEq α] {key other : α} (h : other ≠ key)
    (entries : List (α × β)) :
    (entries.filter (·.1 ≠ key)).lookup other = entries.lookup other := by
  induction entries with
  | nil => rfl
  | cons entry rest ih =>
    by_cases hkey : entry.1 = key
    · have hother : (other == entry.1) = false := by simpa [hkey] using h
      rw [List.filter_cons_of_neg (by simpa using hkey), List.lookup_cons, hother, ih]
    · rw [List.filter_cons_of_pos (by simpa using hkey), List.lookup_cons, List.lookup_cons, ih]

namespace TokenMap

lemma lookup_insertEntry_self (id : TokenId) (t : Token) (entries : List (TokenId × Token)) :
    (insertEntry id t entries).lookup id = some t := by
  induction entries with
  | nil => simp [insertEntry]
  | cons entry rest ih =>
    rw [insertEntry]
    split
    · simp
    split
    · simp
    · rename_i hne
      have hhead : (id == entry.1) = false := by simpa using hne
      rw [List.lookup_cons, hhead, ih]

lemma lookup_insertEntry_of_ne {id other : TokenId} (h : other ≠ id) (t : Token)
    (entries : List (TokenId × Token)) :
    (insertEntry id t entries).lookup other = entries.lookup other := by
  have hnew : (other == id) = false := by simpa using h
  induction entries with
  | nil => simp [insertEntry, List.lookup_cons, hnew]
  | cons entry rest ih =>
    rw [insertEntry]
    split
    · rw [List.lookup_cons, hnew]
    split
    · rename_i heq
      rw [List.lookup_cons, hnew, List.lookup_cons, ← heq, hnew]
    · rw [List.lookup_cons, List.lookup_cons, ih]

lemma lookup_filter_self (id : TokenId) (entries : List (TokenId × Token)) :
    (entries.filter (·.1 ≠ id)).lookup id = none := by
  rw [List.lookup_eq_none_iff]
  intro entry hentry
  have hne : entry.1 ≠ id := by simpa using (List.mem_filter.1 hentry).2
  simpa using hne.symm

/-- An entry beyond the greatest key goes to the end. -/
theorem insertEntry_of_lt {id : TokenId} {entries : List (TokenId × Token)}
    (h : ∀ e ∈ entries, e.1 < id) (t : Token) :
    insertEntry id t entries = entries ++ [(id, t)] := by
  induction entries with
  | nil => rfl
  | cons e entries ih =>
    have he := h e (by simp)
    have hnot : ¬ id < e.1 := UInt64.lt_asymm he
    have hne : ¬ id = e.1 := fun heq => UInt64.lt_irrefl _ (heq ▸ he)
    rw [insertEntry, if_neg hnot, if_neg hne, ih fun d hd => h d (by simp [hd]),
      List.cons_append]

@[simp] theorem get?_insert_self (id : TokenId) (t : Token) (m : TokenMap) :
    (m.insert id t).get? id = some t := lookup_insertEntry_self id t m.entries

theorem get?_insert_of_ne {id other : TokenId} (h : other ≠ id) (t : Token) (m : TokenMap) :
    (m.insert id t).get? other = m.get? other := lookup_insertEntry_of_ne h t m.entries

@[simp] theorem get?_erase_self (id : TokenId) (m : TokenMap) : (m.erase id).get? id = none :=
  lookup_filter_self id m.entries

theorem get?_erase_of_ne {id other : TokenId} (h : other ≠ id) (m : TokenMap) :
    (m.erase id).get? other = m.get? other := lookup_filter_of_ne h m.entries

/-- As no key occurs twice, the entries are exactly what look-ups find. -/
theorem mem_entries {m : TokenMap} {id : TokenId} {t : Token} :
    (id, t) ∈ m.entries ↔ m.get? id = some t := by
  obtain ⟨entries, hascending⟩ := m
  change (id, t) ∈ entries ↔ entries.lookup id = some t
  induction entries with
  | nil => simp
  | cons entry rest ih =>
    obtain ⟨hhead, hrest⟩ := List.pairwise_cons.1 hascending
    obtain ⟨key, token⟩ := entry
    rw [List.mem_cons, List.lookup_cons]
    by_cases hkey : id = key
    · have hnot : (id, t) ∉ rest := fun hmem =>
        UInt64.lt_irrefl key (by simpa [hkey] using hhead _ hmem)
      simp [hkey, hkey ▸ hnot, eq_comm]
    · have hbeq : (id == key) = false := by simpa using hkey
      simp [hbeq, hkey, ih hrest]

theorem mem_tokens {m : TokenMap} {t : Token} : t ∈ m.tokens ↔ ∃ id, m.get? id = some t := by
  simp only [tokens, List.mem_map, ← mem_entries]
  constructor
  · rintro ⟨⟨id, token⟩, hmem, rfl⟩
    exact ⟨id, hmem⟩
  · rintro ⟨id, hmem⟩
    exact ⟨(id, t), hmem, rfl⟩

/-- Of two tokens that satisfy a condition one is under another key than a given one. -/
theorem exists_other_of_countP {m : TokenMap} {p : Token → Bool} (h : 1 < m.tokens.countP p)
    (id : TokenId) : ∃ other t, other ≠ id ∧ m.get? other = some t ∧ p t := by
  have hlength : 1 < (m.entries.filter fun e => p e.2).length := by
    rwa [tokens, List.countP_map, List.countP_eq_length_filter] at h
  have hsub : ((m.entries.filter fun e => p e.2)).Sublist m.entries := List.filter_sublist
  have hascending := m.ascending.sublist hsub
  rcases hfound : m.entries.filter fun e => p e.2 with _ | ⟨first, _ | ⟨second, rest⟩⟩
  · simp [hfound] at hlength
  · simp [hfound] at hlength
  rw [hfound] at hascending
  have hlt : first.1 < second.1 := (List.pairwise_cons.1 hascending).1 second (by simp)
  have hmem : ∀ e ∈ [first, second], e ∈ m.entries ∧ p e.2 := by
    intro e he
    have hfilter : e ∈ m.entries.filter fun e => p e.2 := by
      rw [hfound]
      simp only [List.mem_cons, List.not_mem_nil, or_false] at he ⊢
      rcases he with he | he <;> simp [he]
    simpa using hfilter
  by_cases hfirst : first.1 = id
  · obtain ⟨hentry, hp⟩ := hmem second (by simp)
    refine ⟨second.1, second.2, fun heq => ?_, mem_entries.1 hentry, hp⟩
    rw [hfirst, heq] at hlt
    exact UInt64.lt_irrefl _ hlt
  · obtain ⟨hentry, hp⟩ := hmem first (by simp)
    exact ⟨first.1, first.2, hfirst, mem_entries.1 hentry, hp⟩

/-- Where no two tokens satisfy a condition, those that do are under one key. -/
theorem eq_of_countP_le_one {m : TokenMap} {p : Token → Bool} (h : m.tokens.countP p ≤ 1)
    {id other : TokenId} {t u : Token} (hid : m.get? id = some t) (ht : p t)
    (hother : m.get? other = some u) (hu : p u) : other = id := by
  have hlength : (m.entries.filter fun e => p e.2).length ≤ 1 := by
    rwa [tokens, List.countP_map, List.countP_eq_length_filter] at h
  have hmem : (id, t) ∈ m.entries.filter fun e => p e.2 :=
    List.mem_filter.2 ⟨mem_entries.2 hid, ht⟩
  have hmem' : (other, u) ∈ m.entries.filter fun e => p e.2 :=
    List.mem_filter.2 ⟨mem_entries.2 hother, hu⟩
  rcases hfound : m.entries.filter fun e => p e.2 with _ | ⟨first, _ | ⟨second, rest⟩⟩
  · simp [hfound] at hmem
  · rw [hfound, List.mem_singleton] at hmem hmem'
    rw [show other = first.1 from congrArg Prod.fst hmem', ← hmem]
  · simp [hfound] at hlength

end TokenMap

namespace Registry

theorem mem_list {r : Registry} {t : Token} : t ∈ r.list ↔ ∃ id, r.tokens.get? id = some t :=
  TokenMap.mem_tokens

theorem get_eq_ok_iff {r : Registry} {id : TokenId} {t : Token} :
    r.get id = .ok t ↔ r.tokens.get? id = some t := by
  rw [get]
  cases r.tokens.get? id <;> simp

theorem get_eq_error_iff {r : Registry} {id : TokenId} :
    r.get id = .error (.tokenNotFound id) ↔ r.tokens.get? id = none := by
  rw [get]
  cases r.tokens.get? id <;> simp

/-- A new token has the next id and what was asked for, and is put under its id. -/
theorem create_eq {r r' : Registry} {t : NewToken} {digest : Digest} {now : Timestamp}
    {token : Token} (h : r.create t digest now = (token, r')) :
    token = ⟨r.nextId + 1, t.name, t.isAdmin, now, t.permissions, digest⟩ ∧
      r' = ⟨token.id, r.adminEverCreated || token.isAdmin, r.tokens.insert token.id token⟩ := by
  obtain ⟨rfl, rfl⟩ := Prod.mk.inj h
  exact ⟨rfl, rfl⟩

/-- The registry with a token put under its id, which is the latest one then. -/
def adding (r : Registry) (t : Token) : Registry :=
  ⟨t.id, r.adminEverCreated || t.isAdmin, r.tokens.insert t.id t⟩

/-- The registry without what is under an id. -/
def removing (r : Registry) (id : TokenId) : Registry := { r with tokens := r.tokens.erase id }

/-- Two registries that hold the same except under one id, and what the second holds there. -/
structure Differs (r r' : Registry) (id : TokenId) (held : Option Token) : Prop where
  here : r'.tokens.get? id = held
  elsewhere : ∀ other, other ≠ id → r'.tokens.get? other = r.tokens.get? other

theorem differs_adding (r : Registry) (t : Token) : r.Differs (r.adding t) t.id (some t) :=
  ⟨TokenMap.get?_insert_self _ _ _, fun _ hne => TokenMap.get?_insert_of_ne hne _ _⟩

theorem differs_removing (r : Registry) (id : TokenId) : r.Differs (r.removing id) id none :=
  ⟨TokenMap.get?_erase_self _ _, fun _ hne => TokenMap.get?_erase_of_ne hne _⟩

/-- Every token stands under its own id. -/
def Keyed (r : Registry) : Prop := ∀ id t, r.tokens.get? id = some t → t.id = id

theorem Keyed.adding {r : Registry} (h : r.Keyed) (t : Token) : (r.adding t).Keyed := by
  intro id u hget
  by_cases hid : id = t.id
  · rw [hid, (r.differs_adding t).here] at hget
    rw [hid, Option.some.inj hget]
  · rw [(r.differs_adding t).elsewhere id hid] at hget
    exact h id u hget

theorem Keyed.removing {r : Registry} (h : r.Keyed) (id : TokenId) : (r.removing id).Keyed := by
  intro other u hget
  by_cases hother : other = id
  · rw [hother, (r.differs_removing id).here] at hget
    cases hget
  · rw [(r.differs_removing id).elsewhere other hother] at hget
    exact h other u hget

/-- Whether a token is an administrator under an id, and all others are none. -/
structure OnlyAdmin (r : Registry) (id : TokenId) (t : Token) : Prop where
  admin : t.isAdmin = true
  alone : ∀ other u, r.tokens.get? other = some u → u.isAdmin = true → other = id

/-- The count of administrators tells whether there are others than one. -/
theorem onlyAdmin_iff {r : Registry} {id : TokenId} {t : Token} (h : r.tokens.get? id = some t) :
    r.OnlyAdmin id t ↔ (t.isAdmin && r.adminCount ≤ 1) = true := by
  rw [Bool.and_eq_true, decide_eq_true_eq]
  constructor
  · rintro ⟨hadmin, halone⟩
    refine ⟨hadmin, Nat.le_of_not_lt fun hcount => ?_⟩
    obtain ⟨other, u, hne, hother, hu⟩ := TokenMap.exists_other_of_countP hcount id
    exact hne (halone other u hother hu)
  · rintro ⟨hadmin, hcount⟩
    exact ⟨hadmin, fun _ _ hother hu => TokenMap.eq_of_countP_le_one hcount h hadmin hother hu⟩

/-- A deleted token was there, and was not the only administrator. -/
theorem delete_ok {r r' : Registry} {id : TokenId} {t : Token} (h : r.delete id = .ok (t, r')) :
    r.tokens.get? id = some t ∧ (t.isAdmin → 1 < r.adminCount) ∧
      r' = { r with tokens := r.tokens.erase id } := by
  unfold delete at h
  split at h
  · cases h
  rename_i token hget
  split at h
  · cases h
  rename_i hlast
  obtain ⟨rfl, rfl⟩ := Prod.mk.inj (Except.ok.inj h)
  refine ⟨hget, fun hadmin => ?_, rfl⟩
  simpa [hadmin] using hlast

/-- A digest finds the token that alone has it. -/
theorem find?_eq_some {r : Registry} {id : TokenId} {t : Token}
    (hget : r.tokens.get? id = some t)
    (hunique : ∀ other u, r.tokens.get? other = some u → u.digest = t.digest → u = t) :
    r.find? t.digest = some t := by
  have hmem : t ∈ r.list := mem_list.2 ⟨id, hget⟩
  rcases hfind : r.find? t.digest with _ | u
  · have hnone := List.find?_eq_none.1 hfind t hmem
    simp at hnone
  · obtain ⟨other, hother⟩ := mem_list.1 (List.mem_of_find?_eq_some hfind)
    have hdigest : u.digest = t.digest := by simpa using List.find?_some hfind
    rw [hunique other u hother hdigest]

theorem find?_eq_none {r : Registry} {digest : Digest}
    (h : ∀ id t, r.tokens.get? id = some t → t.digest ≠ digest) : r.find? digest = none := by
  refine List.find?_eq_none.2 fun t ht => ?_
  obtain ⟨id, hid⟩ := mem_list.1 ht
  simpa using h id t hid

end Registry

end ZoneGate
