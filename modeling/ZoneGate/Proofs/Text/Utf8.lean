import Mathlib.Tactic.Lemma
import ZoneGate.Text.Ascii

/-!
# Characters as bytes

What a list of characters is in UTF-8, character by character. An ASCII character is one byte of
its own, and no other character has a byte below 128, so that a reader that looks for ASCII bytes
never finds one inside another character.
-/
namespace ZoneGate.Text

/-- The bytes of a list of characters. -/
def utf8 (cs : List Char) : List UInt8 := cs.flatMap String.utf8EncodeChar

@[simp] theorem utf8_nil : utf8 [] = [] := rfl

@[simp] theorem utf8_append (cs ds : List Char) : utf8 (cs ++ ds) = utf8 cs ++ utf8 ds := by
  simp [utf8]

theorem utf8_cons (c : Char) (cs : List Char) :
    utf8 (c :: cs) = String.utf8EncodeChar c ++ utf8 cs := by
  simp [utf8]

@[simp] theorem bytes_ofList (cs : List Char) : bytes (String.ofList cs) = utf8 cs := by
  simp [bytes, List.utf8Encode, utf8]

@[simp] theorem ofBytes?_bytes (s : String) : ofBytes? (bytes s) = some s := by
  have h : (⟨(bytes s).toArray⟩ : ByteArray) = s.toByteArray := by simp [bytes]
  rw [ofBytes?, h, String.fromUTF8?, dif_pos s.isValidUTF8]
  rfl

theorem ofBytes?_utf8 (cs : List Char) : ofBytes? (utf8 cs) = some (String.ofList cs) := by
  rw [← bytes_ofList, ofBytes?_bytes]

/-! ## ASCII -/

/-- The letters and digits by their numbers. -/
theorem isAlphanum_iff {c : Char} : c.isAlphanum = true ↔
    48 ≤ c.toNat ∧ c.toNat ≤ 57 ∨ 97 ≤ c.toNat ∧ c.toNat ≤ 122 ∨ 65 ≤ c.toNat ∧ c.toNat ≤ 90 := by
  have hranges : c.isAlphanum = (decide (65 ≤ c.val ∧ c.val ≤ 90) ||
      (97 ≤ c.val && c.val ≤ 122) || (48 ≤ c.val && c.val ≤ 57)) := rfl
  simp only [hranges, Bool.or_eq_true, Bool.and_eq_true, decide_eq_true_eq,
    UInt32.le_iff_toNat_le]
  change ((65 ≤ c.toNat ∧ c.toNat ≤ 90) ∨ (97 ≤ c.toNat ∧ c.toNat ≤ 122)) ∨
    (48 ≤ c.toNat ∧ c.toNat ≤ 57) ↔ _
  omega

theorem encode_of_ascii {c : Char} (h : c.toNat < 128) : String.utf8EncodeChar c = [byte c] := by
  have hv : c.val.toNat ≤ 0x7f := Nat.le_of_lt_succ h
  rw [String.utf8EncodeChar, if_pos hv, byte, UInt8.ofNat_uInt32ToNat]

theorem utf8_cons_of_ascii {c : Char} (h : c.toNat < 128) (cs : List Char) :
    utf8 (c :: cs) = byte c :: utf8 cs := by
  rw [utf8_cons, encode_of_ascii h, List.singleton_append]

theorem utf8_of_ascii {cs : List Char} (h : ∀ c ∈ cs, c.toNat < 128) : utf8 cs = cs.map byte := by
  induction cs with
  | nil => rfl
  | cons c cs ih =>
    rw [utf8_cons_of_ascii (h c (by simp)), ih fun d hd => h d (by simp [hd]), List.map_cons]

theorem toNat_byte {c : Char} (h : c.toNat < 128) : (byte c).toNat = c.toNat := by
  rw [byte, UInt32.toNat_toUInt8]
  exact Nat.mod_eq_of_lt (by change c.toNat < 256; omega)

theorem byte_inj {c d : Char} (hc : c.toNat < 128) (hd : d.toNat < 128) :
    byte c = byte d ↔ c = d := by
  refine ⟨fun h => ?_, fun h => h ▸ rfl⟩
  have hn := congrArg UInt8.toNat h
  rw [toNat_byte hc, toNat_byte hd] at hn
  exact Char.toNat_inj.1 hn

/-- Beyond ASCII every byte of a character is above 127. -/
theorem le_of_mem_encode {c : Char} (h : 128 ≤ c.toNat) {b : UInt8}
    (hb : b ∈ String.utf8EncodeChar c) : 128 ≤ b.toNat := by
  have hv : ¬ c.val.toNat ≤ 0x7f := by change ¬ c.toNat ≤ 127; omega
  simp only [String.utf8EncodeChar, if_neg hv] at hb
  -- each byte is a remainder plus a mark of at least 128, which stays below 256
  have mark (n k m : Nat) (hk : 128 ≤ m) (hm : k + m ≤ 256) (hn : n < k) :
      128 ≤ (UInt8.ofNat (n + m)).toNat := by
    rw [UInt8.toNat_ofNat', Nat.mod_eq_of_lt (by omega)]
    omega
  have tail (n : Nat) : 128 ≤ (UInt8.ofNat (n % 0x40 + 0x80)).toNat :=
    mark _ 0x40 _ (by omega) (by omega) (Nat.mod_lt _ (by omega))
  split at hb
  · rcases List.mem_cons.1 hb with rfl | hb
    · exact mark _ 0x20 _ (by omega) (by omega) (Nat.mod_lt _ (by omega))
    · rw [List.mem_singleton.1 hb]
      exact tail _
  split at hb
  · rcases List.mem_cons.1 hb with rfl | hb
    · exact mark _ 0x10 _ (by omega) (by omega) (Nat.mod_lt _ (by omega))
    · simp only [List.mem_cons, List.not_mem_nil, or_false] at hb
      rcases hb with rfl | rfl <;> exact tail _
  · rcases List.mem_cons.1 hb with rfl | hb
    · exact mark _ 0x08 _ (by omega) (by omega) (Nat.mod_lt _ (by omega))
    · simp only [List.mem_cons, List.not_mem_nil, or_false] at hb
      rcases hb with rfl | rfl | rfl <;> exact tail _

end ZoneGate.Text
