import ZoneGate.Proofs.Json.Restored
import ZoneGate.Proofs.Registry.Contents
import ZoneGate.Proofs.Time.WrittenForm
import ZoneGate.Registry

/-!
# The written form of a registry

What is kept in the state file reads back as the registry that was written, whatever it holds: any
names, any sets, any digests, any timestamps and any keys.
-/
namespace ZoneGate

open Json

/-! ## Parts of a token -/

theorem Digest.ofText_text (d : Digest) : Digest.ofText d.text = .ok d := by
  have h := Text.Hex.decode_encode d.bytes
  rw [d.length_bytes] at h
  simp only [Digest.ofText, Digest.text, h, dif_pos d.length_bytes]

theorem Digest.restores (d : Digest) : Digest.format.Restores d.toJson d :=
  Format.restores_ofText d.ofText_text

theorem Timestamp.restores (t : Timestamp) : Timestamp.format.Restores (.string t.text) t :=
  Format.restores_ofText (by simp only [Timestamp.parse_text])

theorem ZoneId.restores (zone : ZoneId) : ZoneId.format.Restores zone.toJson zone := by
  refine Format.restores_scalar (reads_opening_unsigned zone.val) ?_
  simp only [ZoneId.ofScalar, ZoneId.ofUInt64?, ne_eq, zone.val_ne_zero, not_false_eq_true, dif_pos]

theorem Action.restores (action : Action) : Action.format.Restores action.toJson action :=
  Format.restores_choice (by cases action <;> rfl)

theorem RecordType.restores (t : RecordType) : RecordType.format.Restores t.toJson t :=
  Format.restores_scalar (reads_opening_string t.name) (by cases t <;> rfl)

lemma filter_mem_of_sublist {α : Type} [DecidableEq α] {xs ys : List α} (h : xs.Sublist ys)
    (hy : ys.Nodup) : ys.filter (· ∈ xs) = xs := by
  induction h with
  | slnil => rfl
  | @cons xs ys y hsub ih =>
    rw [List.nodup_cons] at hy
    have hnot : y ∉ xs := fun hmem => hy.1 (hsub.subset hmem)
    rw [List.filter_cons_of_neg (by simpa using hnot), ih hy.2]
  | @cons_cons xs ys y hsub ih =>
    rw [List.nodup_cons] at hy
    rw [List.filter_cons_of_pos (by simp)]
    congr 1
    have hrest : ∀ z ∈ ys, decide (z ∈ y :: xs) = decide (z ∈ xs) := by
      intro z hz
      have hne : z ≠ y := fun he => hy.1 (he ▸ hz)
      simp [hne]
    rw [List.filter_congr hrest, ih hy.2]

/-- A set is given by the list of its members. -/
theorem Choice.ofList_toList {α : Type} [Listed α] [DecidableEq α] (s : Choice α) :
    Choice.ofList s.toList = s := by
  cases s with
  | mk xs h =>
    have hf := filter_mem_of_sublist h Listed.nodup_all
    simp only [Choice.ofList, hf]

theorem Permission.setOf_restores {α : Type} [Listed α] [DecidableEq α] {format : Format α}
    {write : α → Value} (h : ∀ a, format.Restores (write a) a) (s : Choice α) :
    (Permission.setOf format).Restores (.array (s.toList.map write)) s := by
  have hs := Format.restores_map (Format.restores_list fun a (_ : a ∈ s.toList) => h a)
    (Choice.ofList (α := α))
  rwa [Choice.ofList_toList] at hs

theorem Permission.restores (p : Permission) : Permission.format.Restores p.toJson p :=
  Permission.shape.restores (by decide)
    (.cons (Format.restores_map p.zone.restores _)
      (.cons (Format.restores_map (setOf_restores Action.restores p.actions) _)
        (.cons (Format.restores_map (setOf_restores RecordType.restores p.recordTypes) _)
          (.nil _))))

theorem Token.restores (t : Token) : Token.format.Restores t.toJson t :=
  Token.shape.restores (by decide)
    (.cons (Format.restores_map (Format.restores_unsigned _ t.id) _)
      (.cons (Format.restores_map (Format.restores_string t.name) _)
        (.cons (Format.restores_map (Format.restores_bool t.isAdmin) _)
          (.cons (Format.restores_map t.createdAt.restores _)
            (.cons (Format.restores_map
                (Format.restores_list fun p (_ : p ∈ t.permissions) => p.restores) _)
              (.cons (Format.restores_map t.digest.restores _) (.nil _)))))))

/-! ## The map of tokens -/

namespace TokenMap

/-- Ascending entries put in one after another give their own list. -/
theorem foldl_insert_entries {entries : List (TokenId × Token)}
    (h : entries.Pairwise (·.1 < ·.1)) :
    (entries.foldl (fun m e => insert e.1 e.2 m) empty).entries = entries := by
  have fold (before : TokenMap) (hb : (before.entries ++ entries).Pairwise (·.1 < ·.1)) :
      (entries.foldl (fun m e => insert e.1 e.2 m) before).entries = before.entries ++ entries := by
    clear h
    induction entries generalizing before with
    | nil => simp
    | cons e entries ih =>
      have hlast : (insert e.1 e.2 before).entries = before.entries ++ [e] :=
        insertEntry_of_lt (fun d hd => (List.pairwise_append.1 hb).2.2 d hd e (by simp)) e.2
      rw [List.foldl_cons, ih _ (by rw [hlast]; simpa using hb), hlast]
      simp
  exact fold empty h

end TokenMap

namespace Registry

theorem restores (r : Registry) : Registry.format.Restores r.toJson r := by
  have htokens : r.tokens.entries.foldl (fun m e => TokenMap.insert e.1 e.2 m) .empty = r.tokens :=
    TokenMap.ext (TokenMap.foldl_insert_entries r.tokens.ascending)
  have hmap := Format.restores_numericMap "u64" TokenMap.insert .empty
    fun e (_ : e ∈ r.tokens.entries) => e.2.restores
  rw [htokens] at hmap
  exact Registry.shape.restores (by decide)
    (.cons (Format.restores_map (Format.restores_unsigned _ r.nextId) _)
      (.cons (Format.restores_map (Format.restores_bool r.adminEverCreated) _)
        (.cons (Format.restores_map hmap _) (.nil _))))

/-- A registry reads back from what is written of it. -/
theorem decode_encode (r : Registry) : decode r.encode = .ok r := r.restores.parse

end Registry

end ZoneGate
