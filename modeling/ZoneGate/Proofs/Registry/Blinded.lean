import Mathlib.Tactic.Lemma
import ZoneGate.Access
import ZoneGate.Admin
import ZoneGate.Gateway

/-!
# Tokens without their digests

Blinding a token takes its digest away. Everything that is done with tokens apart from recognising
their secrets comes to the same before and after blinding, so that none of it depends on a digest.
-/
namespace ZoneGate

namespace Token

/-- A token without its digest. -/
def blinded (t : Token) : Token := { t with digest := default }

@[simp] theorem id_blinded (t : Token) : t.blinded.id = t.id := rfl

@[simp] theorem isAdmin_blinded (t : Token) : t.blinded.isAdmin = t.isAdmin := rfl

@[simp] theorem summary_blinded (t : Token) : t.blinded.summary = t.summary := rfl

@[simp] theorem details_blinded (t : Token) : t.blinded.details = t.details := rfl

end Token

lemma lookup_map_snd {α β γ : Type} [BEq α] (f : β → γ) (key : α) (entries : List (α × β)) :
    (entries.map fun e => (e.1, f e.2)).lookup key = (entries.lookup key).map f := by
  induction entries with
  | nil => rfl
  | cons entry rest ih =>
    obtain ⟨other, value⟩ := entry
    simp only [List.map_cons, List.lookup_cons]
    cases key == other <;> simp [ih]

namespace TokenMap

def blinded (m : TokenMap) : TokenMap :=
  ⟨m.entries.map fun e => (e.1, e.2.blinded), List.pairwise_map.2 m.ascending⟩

@[simp] theorem get?_blinded (m : TokenMap) (id : TokenId) :
    m.blinded.get? id = (m.get? id).map Token.blinded := lookup_map_snd _ id m.entries

@[simp] theorem tokens_blinded (m : TokenMap) : m.blinded.tokens = m.tokens.map Token.blinded := by
  simp [blinded, tokens, Function.comp_def]

lemma map_insertEntry (id : TokenId) (t : Token) (entries : List (TokenId × Token)) :
    (insertEntry id t entries).map (fun e => (e.1, e.2.blinded)) =
      insertEntry id t.blinded (entries.map fun e => (e.1, e.2.blinded)) := by
  induction entries with
  | nil => rfl
  | cons entry rest ih =>
    simp only [insertEntry, List.map_cons]
    split
    · rfl
    split
    · rfl
    · rw [List.map_cons, ih]

@[simp] theorem insert_blinded (id : TokenId) (t : Token) (m : TokenMap) :
    (m.insert id t).blinded = m.blinded.insert id t.blinded :=
  TokenMap.ext (map_insertEntry id t m.entries)

@[simp] theorem erase_blinded (id : TokenId) (m : TokenMap) :
    (m.erase id).blinded = m.blinded.erase id := by
  ext1
  simp [erase, blinded, List.filter_map, Function.comp_def]

end TokenMap

namespace Registry

variable (r : Registry)

/-- A registry without the digests of its tokens. -/
def blinded : Registry := { r with tokens := r.tokens.blinded }

@[simp] theorem get?_blinded (id : TokenId) :
    r.blinded.tokens.get? id = (r.tokens.get? id).map Token.blinded := TokenMap.get?_blinded _ id

@[simp] theorem get_blinded (id : TokenId) :
    r.blinded.get id = (r.get id).map Token.blinded := by
  cases hget : r.tokens.get? id <;> simp [get, hget, Except.map]

@[simp] theorem list_blinded : r.blinded.list = r.list.map Token.blinded :=
  TokenMap.tokens_blinded _

@[simp] theorem adminCount_blinded : r.blinded.adminCount = r.adminCount := by
  simp [adminCount, List.countP_map, Function.comp_def]

@[simp] theorem bootstrap_blinded : Bootstrap.of r.blinded = Bootstrap.of r := rfl

theorem create_blinded (t : NewToken) (digest : Digest) (now : Timestamp) :
    r.blinded.create t default now =
      ((r.create t digest now).1.blinded, (r.create t digest now).2.blinded) := by
  simp [create, blinded, Token.blinded]

theorem delete_blinded (id : TokenId) :
    r.blinded.delete id = (r.delete id).map fun done => (done.1.blinded, done.2.blinded) := by
  rcases hget : r.tokens.get? id with _ | t
  · simp [delete, hget, Except.map]
  · simp only [delete, get?_blinded, hget, Option.map_some, Token.isAdmin_blinded,
      adminCount_blinded]
    split
    · rfl
    · simp [Except.map, blinded]

end Registry

namespace Identity

def blinded : Identity → Identity
  | master => master
  | token t => token t.blinded

variable (caller : Identity)

@[simp] theorem text_blinded : caller.blinded.text = caller.text := by cases caller <;> rfl

@[simp] theorem isMaster_blinded : caller.blinded.isMaster = caller.isMaster := by
  cases caller <;> rfl

@[simp] theorem isAdmin_blinded (state : Bootstrap) :
    caller.blinded.isAdmin state = caller.isAdmin state := by cases caller <;> rfl

@[simp] theorem token?_blinded : caller.blinded.token? = caller.token?.map Token.blinded := by
  cases caller <;> rfl

@[simp] theorem requireAdmin_blinded (state : Bootstrap) :
    caller.blinded.requireAdmin state = caller.requireAdmin state := by
  cases caller <;> cases state <;> rfl

@[simp] theorem refresh_blinded (r : Registry) :
    caller.blinded.refresh r.blinded = (caller.refresh r).map blinded := by
  cases caller with
  | master => rfl
  | token t => cases hget : r.tokens.get? t.id <;> simp [refresh, blinded, hget, Except.map]

end Identity

@[simp] theorem Decision.check_blinded (caller : Identity) (state : Bootstrap) (d : Descriptor) :
    Decision.check caller.blinded state d = Decision.check caller state d := by
  cases caller <;> cases state <;> rfl

namespace Admin

variable (r : Registry) (caller : Identity)

@[simp] theorem authorize_blinded :
    authorize r.blinded caller.blinded = (authorize r caller).map Identity.blinded := by
  rcases hrefresh : caller.refresh r with e | current
  · simp [authorize, hrefresh, Except.map]
  · cases hrequire : current.requireAdmin (Bootstrap.of r) <;>
      simp [authorize, hrefresh, hrequire, Except.map]

@[simp] theorem approve_blinded (g : Grant) :
    approve r.blinded caller.blinded g =
      (approve r caller g).map fun done => (done.1.blinded, done.2) := by
  have hstate : Bootstrap.of r.blinded = Bootstrap.of r := rfl
  rcases hauthorize : authorize r caller with e | current
  · simp [approve, hauthorize, Except.map]
  · cases hvalidate : g.validate <;> cases hadmin : g.isAdmin <;> cases hof : Bootstrap.of r <;>
      simp [approve, hauthorize, hstate, hvalidate, hadmin, hof, Except.map]

end Admin

end ZoneGate
