import ZoneGate.Token

/-!
# Tokens by id

The tokens of a registry, each under a key, in strictly ascending order of the keys. The key is
what finds a token; it is the token's own id wherever this library put the token in.
-/
namespace ZoneGate

structure TokenMap where
  entries : List (TokenId × Token)
  ascending : entries.Pairwise (·.1 < ·.1)

namespace TokenMap

def empty : TokenMap := ⟨[], .nil⟩

instance : Inhabited TokenMap := ⟨empty⟩

/-- Puts an entry in its place and replaces one that has its key. -/
def insertEntry (id : TokenId) (t : Token) : List (TokenId × Token) → List (TokenId × Token)
  | [] => [(id, t)]
  | entry :: rest =>
    if id < entry.1 then (id, t) :: entry :: rest
    else if id = entry.1 then (id, t) :: rest
    else entry :: insertEntry id t rest

theorem mem_insertEntry {id : TokenId} {t : Token} {entry : TokenId × Token}
    {entries : List (TokenId × Token)} (h : entry ∈ insertEntry id t entries) :
    entry = (id, t) ∨ entry ∈ entries := by
  induction entries with
  | nil => simpa [insertEntry] using h
  | cons head rest ih =>
    rw [insertEntry] at h
    split at h
    · simpa using h
    split at h
    · rcases List.mem_cons.1 h with h | h <;> simp [h]
    · rcases List.mem_cons.1 h with h | h
      · simp [h]
      · rcases ih h with h | h <;> simp [h]

theorem pairwise_insertEntry {id : TokenId} {t : Token} {entries : List (TokenId × Token)}
    (h : entries.Pairwise (·.1 < ·.1)) : (insertEntry id t entries).Pairwise (·.1 < ·.1) := by
  induction entries with
  | nil => simp [insertEntry]
  | cons head rest ih =>
    obtain ⟨hhead, hrest⟩ := List.pairwise_cons.1 h
    rw [insertEntry]
    split
    · rename_i hlt
      refine List.pairwise_cons.2 ⟨fun entry hentry => ?_, h⟩
      rcases List.mem_cons.1 hentry with rfl | hentry
      · exact hlt
      · exact UInt64.lt_trans hlt (hhead entry hentry)
    split
    · rename_i heq
      exact List.pairwise_cons.2 ⟨fun entry hentry => heq ▸ hhead entry hentry, hrest⟩
    · rename_i hnlt hne
      refine List.pairwise_cons.2 ⟨fun entry hentry => ?_, ih hrest⟩
      rcases mem_insertEntry hentry with rfl | hentry
      · exact UInt64.lt_of_le_of_ne (UInt64.not_lt.1 hnlt) fun he => hne he.symm
      · exact hhead entry hentry

def insert (id : TokenId) (t : Token) (m : TokenMap) : TokenMap :=
  ⟨insertEntry id t m.entries, pairwise_insertEntry m.ascending⟩

def erase (id : TokenId) (m : TokenMap) : TokenMap :=
  ⟨m.entries.filter (·.1 ≠ id), m.ascending.filter _⟩

def get? (m : TokenMap) (id : TokenId) : Option Token := m.entries.lookup id

/-- The tokens by ascending key. -/
def tokens (m : TokenMap) : List Token := m.entries.map (·.2)

@[ext] theorem ext {m n : TokenMap} (h : m.entries = n.entries) : m = n := by
  cases m
  cases n
  simp_all

instance : DecidableEq TokenMap := fun m n =>
  decidable_of_iff (m.entries = n.entries) ⟨ext, fun h => h ▸ rfl⟩

end TokenMap

end ZoneGate
