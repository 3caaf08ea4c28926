import ZoneGate.Text.Ascii

/-!
# Splitting at a separator

The parts between separators are those lists without a separator that give back the whole when a
separator is put before each of them.
-/
namespace ZoneGate.Text

variable {α : Type} [BEq α] [LawfulBEq α] {separator : α}

theorem splitAt_of_not_mem {part : List α} (h : separator ∉ part) :
    splitAt separator part = [part] := by
  induction part with
  | nil => rfl
  | cons c rest ih =>
    have hne : (c == separator) = false := by simpa using Ne.symm (List.ne_of_not_mem_cons h)
    rw [splitAt, hne, ih (List.not_mem_of_not_mem_cons h)]
    rfl

theorem splitAt_append {part : List α} (h : separator ∉ part) (rest : List α) :
    splitAt separator (part ++ separator :: rest) = part :: splitAt separator rest := by
  induction part with
  | nil => simp [splitAt]
  | cons c part ih =>
    have hne : (c == separator) = false := by simpa using Ne.symm (List.ne_of_not_mem_cons h)
    rw [List.cons_append, splitAt, hne, ih (List.not_mem_of_not_mem_cons h)]
    rfl

/-- The last part ends as the whole does. -/
theorem getLast?_splitAt_concat {c : α} (hc : c ≠ separator) (cs : List α) :
    ∃ part, (splitAt separator (cs ++ [c])).getLast? = some (part ++ [c]) := by
  induction cs with
  | nil =>
    have hmem : separator ∉ [c] := by simpa using Ne.symm hc
    exact ⟨[], by rw [List.nil_append, splitAt_of_not_mem hmem]; rfl⟩
  | cons d cs ih =>
    obtain ⟨part, hpart⟩ := ih
    rw [List.cons_append, splitAt]
    split
    · exact ⟨part, by rw [List.getLast?_cons, hpart]; rfl⟩
    · cases hsplit : splitAt separator (cs ++ [c]) with
      | nil => simp [hsplit] at hpart
      | cons first parts =>
        rw [hsplit] at hpart
        cases parts with
        | nil =>
          obtain rfl : first = part ++ [c] := by simpa using hpart
          exact ⟨d :: part, rfl⟩
        | cons next others => exact ⟨part, by simpa using hpart⟩

/-- Splitting loses nothing but the separators, and leaves none of them. -/
theorem flatMap_splitAt (separator : α) (cs : List α) :
    (splitAt separator cs).flatMap (separator :: ·) = separator :: cs ∧
      ∀ part ∈ splitAt separator cs, separator ∉ part := by
  induction cs with
  | nil => simp [splitAt]
  | cons c rest ih =>
    obtain ⟨hjoined, hparts⟩ := ih
    rw [splitAt]
    split
    · rename_i hc
      rw [eq_of_beq hc]
      simpa [hjoined] using hparts
    · rename_i hc
      have hne : separator ≠ c := fun he => hc (by simp [he])
      cases hsplit : splitAt separator rest with
      | nil => simp [hsplit] at hjoined
      | cons part parts =>
        rw [hsplit] at hjoined hparts
        obtain ⟨hpart, hothers⟩ := List.forall_mem_cons.1 hparts
        refine ⟨by simpa using hjoined, List.forall_mem_cons.2 ⟨?_, hothers⟩⟩
        exact List.not_mem_cons_of_ne_of_not_mem hne hpart

theorem splitAt_eq_iff {cs : List α} {parts : List (List α)} :
    splitAt separator cs = parts ↔
      separator :: cs = parts.flatMap (separator :: ·) ∧ ∀ part ∈ parts, separator ∉ part := by
  constructor
  · rintro rfl
    obtain ⟨hjoined, hparts⟩ := flatMap_splitAt separator cs
    exact ⟨hjoined.symm, hparts⟩
  · rintro ⟨hjoined, hparts⟩
    induction parts generalizing cs with
    | nil => simp at hjoined
    | cons part parts ih =>
      obtain ⟨hpart, hothers⟩ := List.forall_mem_cons.1 hparts
      have hcs : cs = part ++ parts.flatMap (separator :: ·) := by simpa using hjoined
      cases parts with
      | nil => rw [hcs, List.flatMap_nil, List.append_nil, splitAt_of_not_mem hpart]
      | cons next others =>
        have hrest : splitAt separator (next ++ others.flatMap (separator :: ·)) = next :: others :=
          ih (by simp) hothers
        rw [hcs, List.flatMap_cons, List.cons_append, splitAt_append hpart, hrest]

end ZoneGate.Text
