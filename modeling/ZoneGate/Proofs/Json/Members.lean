import Mathlib.Data.List.Induction
import Mathlib.Tactic.Lemma
import ZoneGate.Json.Reader

/-!
# The members of a document as they are written

A free-form document keeps one member of each key. Its text may hold several: keys may be repeated,
and spelled with escapes. What the document keeps of them is the last one.
-/
namespace ZoneGate.Json

namespace Value

/-- The members of an object; other values have none. -/
def members : Value → List (String × Value)
  | object members => members
  | _ => []

theorem member?_eq (key : String) (v : Value) : v.member? key = v.members.lookup key := by
  cases v <;> rfl

end Value

/-! ## Sorted members -/

lemma lookup_insertMember_self (key : String) (value : Value) (members : List (String × Value)) :
    (insertMember key value members).lookup key = some value := by
  induction members with
  | nil => simp [insertMember]
  | cons member rest ih =>
    rw [insertMember]
    split
    · simp
    split
    · simp
    · rename_i hne
      have hhead : (key == member.1) = false := by simpa using hne
      rw [List.lookup_cons, hhead, ih]

lemma lookup_insertMember_of_ne {key other : String} (h : other ≠ key) (value : Value)
    (members : List (String × Value)) :
    (insertMember key value members).lookup other = members.lookup other := by
  have hnew : (other == key) = false := by simpa using h
  induction members with
  | nil => simp [insertMember, List.lookup_cons, hnew]
  | cons member rest ih =>
    rw [insertMember]
    split
    · rw [List.lookup_cons, hnew]
    split
    · rename_i heq
      rw [List.lookup_cons, hnew, List.lookup_cons, ← heq, hnew]
    · rw [List.lookup_cons, List.lookup_cons, ih]

/-- What a document keeps of members that are read one after the other. -/
def sorted (members : List (String × Value)) : List (String × Value) :=
  members.foldl (fun kept member => insertMember member.1 member.2 kept) []

@[simp] theorem sorted_concat (members : List (String × Value)) (key : String) (value : Value) :
    sorted (members ++ [(key, value)]) = insertMember key value (sorted members) := by
  simp [sorted]

/-- Of members with one key the last counts. -/
theorem lookup_sorted (key : String) (members : List (String × Value)) :
    (sorted members).lookup key = members.reverse.lookup key := by
  induction members using List.reverseRecOn with
  | nil => rfl
  | append_singleton members member ih =>
    obtain ⟨other, value⟩ := member
    rw [sorted_concat, List.reverse_append, List.reverse_singleton, List.singleton_append]
    by_cases hkey : key = other
    · rw [hkey, lookup_insertMember_self, List.lookup_cons_self]
    · have hbeq : (key == other) = false := by simpa using hkey
      rw [lookup_insertMember_of_ne hkey, List.lookup_cons, hbeq, ih]

/-! ## Reading members in order -/

namespace Reader

/-- Where one way to fold members mirrors another at every member, it does so at every object. -/
lemma members_map {σ τ : Type} {f : σ → τ} {member : σ → Reader σ} {mirror : τ → Reader τ}
    (h : ∀ s, mirror (f s) = f <$> member s) (bound : List UInt8) (first : Bool) (s : σ) :
    members mirror bound first (f s) = f <$> members member bound first s := by
  induction bound generalizing first s with
  | nil => rfl
  | cons _ bound ih =>
    simp only [members, map_bind]
    refine bind_congr fun more => ?_
    cases more with
    | false => simp
    | true => simp [h, ih]

lemma object_map {σ τ : Type} {f : σ → τ} {member : σ → Reader σ} {mirror : τ → Reader τ}
    (h : ∀ s, mirror (f s) = f <$> member s) (s : σ) :
    object mirror (f s) = f <$> object member s := by
  simp only [object, members_map h, map_bind]

/-- Reads a member and puts it after those before it, whatever their keys are. -/
def append (depth : Nat) (members : List (String × Value)) : Reader (List (String × Value)) := do
  let key ← key
  colon
  return members ++ [(key, ← value depth)]

/-- The members of an object in the order in which they are written. Values of other kinds have
none. -/
def written : Nat → Reader (List (String × Value))
  | 0 => do
    let _ ← value 0
    return []
  | depth + 1 => do
    match ← opening with
    | .scalar _ => return []
    | .array =>
      let _ ← list (value depth)
      return []
    | .object => object (append depth) []

/-- Members that are kept in order of their keys are those that were read, sorted. -/
lemma object_sorted (depth : Nat) :
    (object (fun members => do
        let key ← key
        colon
        return insertMember key (← value depth) members) []) =
      sorted <$> object (append depth) [] := by
  change object _ (sorted []) = _
  refine object_map (f := sorted) (fun members => ?_) []
  simp [append]

/-- What is kept of a text are the members that are written in it. -/
lemma members_value (depth : Nat) :
    Value.members <$> value depth = sorted <$> written depth := by
  cases depth with
  | zero =>
    simp only [value, written, map_bind, bind_assoc]
    refine bind_congr fun found => ?_
    cases found <;> rfl
  | succ depth =>
    simp only [value, written, map_bind]
    refine bind_congr fun found => ?_
    cases found with
    | scalar => rfl
    | array =>
      simp only [map_bind]
      rfl
    | object =>
      rw [object_sorted]
      simp [Value.members]

lemma run_map {α β : Type} (f : α → β) (r : Reader α) (input : List UInt8) :
    (f <$> r).run input = (r.run input).map f := by
  have hmap : (f <$> r) input = (r input).map fun p => (f p.1, p.2) := rfl
  rw [run, run, hmap]
  rcases r input with e | ⟨a, rest⟩
  · rfl
  · simp only [Except.map]
    split <;> rfl

end Reader

/-- The members that are written in a text, if it is a document and an object at all. -/
def writtenMembers (input : List UInt8) : List (String × Value) :=
  match (Reader.written maxDepth).run input with
  | .ok members => members
  | .error _ => []

/-- A document and the members that are written in its text fail alike or hold the same. -/
lemma map_members_parse (input : List UInt8) :
    (Value.parse input).map Value.members =
      ((Reader.written maxDepth).run input).map sorted := by
  rw [← Reader.run_map, ← Reader.members_value, Reader.run_map]
  rfl

theorem member?_of_parse {input : List UInt8} {document : Value}
    (h : Value.parse input = .ok document) (key : String) :
    document.member? key = (writtenMembers input).reverse.lookup key := by
  have hkept := map_members_parse input
  rw [h] at hkept
  rw [Value.member?_eq, ← lookup_sorted, writtenMembers]
  split
  · rename_i members hmembers
    rw [hmembers] at hkept
    rw [Except.ok.inj hkept]
  · rename_i hmembers
    rw [hmembers] at hkept
    cases hkept

/-- A key is the same whether or not it is spelled with escapes. -/
example : (writtenMembers (Text.bytes "\x7b\"Type\": 12, \"T\\u0079pe\": 3\x7d")).map (·.1) =
    ["Type", "Type"] := by rfl

end ZoneGate.Json
