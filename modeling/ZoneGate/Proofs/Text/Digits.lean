import Mathlib.Data.List.Induction
import ZoneGate.Proofs.Text.Utf8
import ZoneGate.Text.Hex

/-!
# Digits read back

A number written in decimal digits reads back as the same number, and bytes written as pairs of
hexadecimal digits read back as the same bytes.
-/
namespace ZoneGate.Text

lemma ascii_of_isDigit {c : Char} (h : c.isDigit = true) : c.toNat < 128 := by
  simp only [Char.isDigit, Bool.and_eq_true, decide_eq_true_eq] at h
  have hc : c.val.toNat ≤ 57 := h.2
  change c.val.toNat < 128
  omega

lemma isDigit_byte {c : Char} (h : c.isDigit = true) : isDigit (byte c) = true := by
  have hn := toNat_byte (ascii_of_isDigit h)
  simp only [Char.isDigit, Bool.and_eq_true, decide_eq_true_eq] at h
  have h0 : 48 ≤ c.toNat := h.1
  have h9 : c.toNat ≤ 57 := h.2
  simp only [isDigit, Bool.and_eq_true, decide_eq_true_eq, UInt8.le_iff_toNat_le, hn]
  exact ⟨h0, h9⟩

/-- A run of digits ends where the next byte is none. -/
lemma takeWhile_isDigit {digits rest : List UInt8} (hd : ∀ b ∈ digits, isDigit b = true)
    (hr : ∀ b ∈ rest.head?, isDigit b = false) :
    (digits ++ rest).takeWhile isDigit = digits ∧ (digits ++ rest).dropWhile isDigit = rest := by
  rw [List.takeWhile_append_of_pos hd, List.dropWhile_append_of_pos hd]
  cases rest with
  | nil => simp
  | cons b rest => simp [hr b rfl]

lemma digitValue_digitChar : ∀ d < 10, digitValue (byte d.digitChar) = d := by decide

/-- The bytes of a number in decimal digits. -/
def decimalText (n : Nat) : List UInt8 := utf8 (Nat.toDigits 10 n)

lemma decimalText_eq_map (n : Nat) : decimalText n = (Nat.toDigits 10 n).map byte :=
  utf8_of_ascii fun _ hc => ascii_of_isDigit (Nat.isDigit_of_mem_toDigits (by omega) (by omega) hc)

theorem isDigit_of_mem_decimalText {n : Nat} {b : UInt8} (h : b ∈ decimalText n) :
    isDigit b = true := by
  rw [decimalText_eq_map] at h
  obtain ⟨c, hc, rfl⟩ := List.mem_map.1 h
  exact isDigit_byte (Nat.isDigit_of_mem_toDigits (by omega) (by omega) hc)

theorem decimalText_ne_nil (n : Nat) : decimalText n ≠ [] := by
  rw [decimalText_eq_map]
  simp [Nat.toDigits_ne_nil]

lemma decimal_concat (bs : List UInt8) (b : UInt8) :
    decimal (bs ++ [b]) = 10 * decimal bs + digitValue b := by
  simp [decimal, List.foldl_append]

lemma decimalText_of_lt {n : Nat} (h : n < 10) : decimalText n = [byte n.digitChar] := by
  rw [decimalText_eq_map, Nat.toDigits_of_lt_base h, List.map_singleton]

lemma decimalText_of_ge {n : Nat} (h : 10 ≤ n) :
    decimalText n = decimalText (n / 10) ++ [byte (n % 10).digitChar] := by
  rw [decimalText_eq_map, Nat.toDigits_of_base_le (by omega) h, List.map_append,
    ← decimalText_eq_map, List.map_singleton]

@[simp] theorem decimal_decimalText (n : Nat) : decimal (decimalText n) = n := by
  induction n using Nat.strongRecOn with
  | ind n ih =>
    by_cases h : n < 10
    · simp [decimalText_of_lt h, decimal, digitValue_digitChar n h]
    · have hge : 10 ≤ n := by omega
      rw [decimalText_of_ge hge, decimal_concat, ih (n / 10) (by omega),
        digitValue_digitChar _ (Nat.mod_lt _ (by omega))]
      omega

/-- Only zero is written with a leading zero. -/
theorem head_decimalText {n : Nat} (h : (decimalText n).head? = some (byte '0')) :
    (decimalText n).length = 1 := by
  induction n using Nat.strongRecOn with
  | ind n ih =>
    by_cases hlt : n < 10
    · simp [decimalText_of_lt hlt]
    · have hge : 10 ≤ n := by omega
      obtain ⟨b, bs, hcons⟩ := List.exists_cons_of_ne_nil (decimalText_ne_nil (n / 10))
      have hb : b = byte '0' := by simpa [decimalText_of_ge hge, hcons] using h
      -- the digits before the last one would be those of a number that is not zero
      have hone := ih (n / 10) (by omega) (by rw [hcons, hb]; rfl)
      have hbs : bs = [] := by simpa [hcons] using hone
      have hn := decimal_decimalText (n / 10)
      rw [hcons, hbs, hb] at hn
      have hz : decimal [byte '0'] = 0 := by decide
      omega

lemma isDigit_of_isDigit_byte {c : Char} (hc : c.toNat < 128) (h : isDigit (byte c) = true) :
    c.isDigit = true := by
  have hn := toNat_byte hc
  simp only [isDigit, Bool.and_eq_true, decide_eq_true_eq, UInt8.le_iff_toNat_le, hn] at h
  simp only [Char.isDigit, Bool.and_eq_true, decide_eq_true_eq, UInt32.le_iff_toNat_le]
  exact h

/-- A character that is no digit has no digit among its bytes. -/
theorem isDigit_of_mem_encode {c : Char} {b : UInt8} (hb : b ∈ String.utf8EncodeChar c)
    (h : isDigit b = true) : c.isDigit = true := by
  by_cases hc : c.toNat < 128
  · rw [encode_of_ascii hc, List.mem_singleton] at hb
    exact isDigit_of_isDigit_byte hc (hb ▸ h)
  · have hge := le_of_mem_encode (Nat.le_of_not_lt hc) hb
    simp only [isDigit, Bool.and_eq_true, decide_eq_true_eq, UInt8.le_iff_toNat_le] at h
    have h9 : b.toNat ≤ 57 := h.2
    omega

lemma exists_mem_encode (c : Char) : ∃ b, b ∈ String.utf8EncodeChar c :=
  List.exists_mem_of_ne_nil _ (by simp)

theorem forall_isDigit_utf8 {cs : List Char} :
    (∀ b ∈ utf8 cs, isDigit b = true) ↔ ∀ c ∈ cs, c.isDigit = true := by
  constructor
  · intro h c hc
    obtain ⟨b, hb⟩ := exists_mem_encode c
    exact isDigit_of_mem_encode hb (h b (List.mem_flatMap.2 ⟨c, hc, hb⟩))
  · intro h b hb
    obtain ⟨c, hc, hb⟩ := List.mem_flatMap.1 hb
    rw [encode_of_ascii (ascii_of_isDigit (h c hc)), List.mem_singleton] at hb
    rw [hb]
    exact isDigit_byte (h c hc)

theorem decimal_utf8 {cs : List Char} (h : ∀ c ∈ cs, c.isDigit = true) :
    decimal (utf8 cs) = Nat.ofDigitChars 10 cs 0 := by
  have hfold : ∀ n, (cs.map byte).foldl (fun n b => 10 * n + digitValue b) n =
      Nat.ofDigitChars 10 cs n := by
    induction cs with
    | nil => intro n; simp
    | cons c cs ih =>
      intro n
      have hvalue : digitValue (byte c) = c.toNat - '0'.toNat := by
        rw [digitValue, toNat_byte (ascii_of_isDigit (h c (by simp)))]
        rfl
      rw [List.map_cons, List.foldl_cons, hvalue, Nat.ofDigitChars_cons,
        ih fun d hd => h d (by simp [hd])]
  rw [decimal, utf8_of_ascii fun c hc => ascii_of_isDigit (h c hc), hfold]

/-- What is read as a number: digits and nothing else, at least one of them. -/
theorem decimal?_bytes_eq_some_iff {s : String} {n : Nat} :
    decimal? (bytes s) = some n ↔
      s ≠ "" ∧ (∀ c ∈ s.toList, c.isDigit = true) ∧ Nat.ofDigitChars 10 s.toList 0 = n := by
  have hbytes : bytes s = utf8 s.toList := by rw [← bytes_ofList, String.ofList_toList]
  rw [hbytes]
  by_cases hempty : s = ""
  · simp [hempty, decimal?]
  by_cases hdigits : ∀ c ∈ s.toList, c.isDigit = true
  · have hall : (utf8 s.toList).all isDigit = true :=
      List.all_eq_true.2 (forall_isDigit_utf8.2 hdigits)
    have hne : (utf8 s.toList).isEmpty = false := by
      obtain ⟨c, hc⟩ := List.exists_mem_of_ne_nil s.toList (by simpa using hempty)
      obtain ⟨b, hb⟩ := exists_mem_encode c
      exact List.isEmpty_eq_false_iff.2 (List.ne_nil_of_mem (List.mem_flatMap.2 ⟨c, hc, hb⟩))
    simp only [decimal?, hall, hne, decimal_utf8 hdigits]
    simpa [hempty] using fun _ => hdigits
  · have hnot : (utf8 s.toList).all isDigit = false :=
      Bool.eq_false_iff.2 fun h => hdigits (forall_isDigit_utf8.1 (List.all_eq_true.1 h))
    simp [decimal?, hnot, hdigits]

/-! ## Hexadecimal -/

namespace Hex

lemma digit?_digit : ∀ n < 16, digit? (byte (digit n)) = some n := by decide

lemma ascii_digit : ∀ n < 16, (digit n).toNat < 128 := by decide

lemma ascii_pair {b : UInt8} {c : Char} (h : c ∈ pair b) : c.toNat < 128 := by
  have hb := b.toNat_lt
  simp only [pair, List.mem_cons, List.not_mem_nil, or_false] at h
  rcases h with rfl | rfl
  · exact ascii_digit _ (by omega)
  · exact ascii_digit _ (by omega)

lemma utf8_pair (b : UInt8) :
    utf8 (pair b) = [byte (digit (b.toNat / 16)), byte (digit (b.toNat % 16))] := by
  rw [utf8_of_ascii fun _ => ascii_pair, pair]
  rfl

theorem length_utf8_pairs (bs : List UInt8) : (utf8 (bs.flatMap pair)).length = 2 * bs.length := by
  induction bs with
  | nil => rfl
  | cons b bs ih =>
    rw [List.flatMap_cons, utf8_append, List.length_append, ih, utf8_pair]
    simp only [List.length_cons, List.length_nil]
    omega

theorem decodeFrom_pairs (bs : List UInt8) (position : Nat) :
    decodeFrom position (utf8 (bs.flatMap pair)) = .ok bs := by
  induction bs generalizing position with
  | nil => rfl
  | cons b bs ih =>
    have hb := b.toNat_lt
    have hhalves : 16 * (b.toNat / 16) + b.toNat % 16 = b.toNat := by omega
    rw [List.flatMap_cons, utf8_append, utf8_pair]
    simp only [List.cons_append, List.nil_append, decodeFrom,
      digit?_digit _ (show b.toNat / 16 < 16 by omega),
      digit?_digit _ (show b.toNat % 16 < 16 by omega), ih, Except.map, hhalves, UInt8.ofNat_toNat]

theorem decode_encode (bs : List UInt8) : decode bs.length (bytes (encode bs)) = .ok bs := by
  rw [encode, bytes_ofList, decode, length_utf8_pairs, if_neg (by omega), if_neg (by omega),
    decodeFrom_pairs]

end Hex

end ZoneGate.Text
