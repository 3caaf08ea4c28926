/-!
# Sets of a listed type

A type with few values lists them once, in the order in which sets of them are written. A set is
then a sublist of that listing, so that two sets with the same members are the same list.
-/
namespace ZoneGate

/-- A type with a listing of all its values, each once. -/
class Listed (α : Type) where
  all : List α
  mem_all : ∀ a, a ∈ all
  nodup_all : all.Nodup

/-- A set of values of a listed type. -/
structure Choice (α : Type) [Listed α] where
  toList : List α
  sublist : toList.Sublist Listed.all

namespace Choice

variable {α : Type} [Listed α]

instance : Membership α (Choice α) := ⟨fun s a => a ∈ s.toList⟩

@[simp] theorem mem_toList {a : α} {s : Choice α} : a ∈ s.toList ↔ a ∈ s := Iff.rfl

theorem nodup_toList (s : Choice α) : s.toList.Nodup := s.sublist.nodup Listed.nodup_all

variable [DecidableEq α]

instance (a : α) (s : Choice α) : Decidable (a ∈ s) := inferInstanceAs (Decidable (a ∈ s.toList))

instance : DecidableEq (Choice α) := fun s t =>
  decidable_of_iff (s.toList = t.toList) (by cases s; cases t; simp)

/-- The set of the values in a list, which may be in any order and repeat some. -/
def ofList (xs : List α) : Choice α :=
  ⟨Listed.all.filter (· ∈ xs), List.filter_sublist⟩

@[simp] theorem mem_ofList {a : α} {xs : List α} : a ∈ ofList xs ↔ a ∈ xs := by
  change a ∈ Listed.all.filter (· ∈ xs) ↔ a ∈ xs
  simp [Listed.mem_all a]

end Choice

end ZoneGate
