import ZoneGate.Proofs.Http.WrittenForm

/-!
# Ids of requests

An id that a caller chooses is kept if it is plain, and a fresh one is a random UUID, which is plain
as well. So whatever the headers of a request hold, its id can stand in a header and in the log.
-/
namespace ZoneGate.Http

open Text

namespace RequestId

/-- One to 128 letters, digits, dots, underscores and hyphens. -/
structure Plain (id : List UInt8) : Prop where
  filled : 1 ≤ id.length
  short : id.length ≤ 128
  plain : ∀ b ∈ id, ∃ c : Char, b = byte c ∧ (c.isAlphanum = true ∨ c ∈ ['.', '_', '-'])

/-- The text of a random UUID: groups of hexadecimal digits, of which one tells the version and
another one the variant. -/
def IsUuid (s : String) : Prop :=
  ∃ (a b c d e : List Char) (v : Char),
    s.toList = a ++ '-' :: b ++ '-' :: '4' :: c ++ '-' :: v :: d ++ '-' :: e ∧
      [a, b, c, d, e].map List.length = [8, 4, 3, 3, 12] ∧
      (∀ x ∈ a ++ b ++ c ++ d ++ e, x ∈ "0123456789abcdef".toList) ∧ v ∈ "89ab".toList

/-! ## Plain ids -/

lemma isAlphanumeric_iff {b : UInt8} : isAlphanumeric b = true ↔
    48 ≤ b.toNat ∧ b.toNat ≤ 57 ∨ 97 ≤ b.toNat ∧ b.toNat ≤ 122 ∨
      65 ≤ b.toNat ∧ b.toNat ≤ 90 := by
  simp only [isAlphanumeric, isDigit, isLower, isUpper, Bool.or_eq_true, Bool.and_eq_true,
    decide_eq_true_eq, UInt8.le_iff_toNat_le]
  change ((48 ≤ b.toNat ∧ b.toNat ≤ 57) ∨ (97 ≤ b.toNat ∧ b.toNat ≤ 122)) ∨
    (65 ≤ b.toNat ∧ b.toNat ≤ 90) ↔ _
  omega

lemma isPlainByte_iff {b : UInt8} : isPlainByte b = true ↔
    ∃ c : Char, b = byte c ∧ (c.isAlphanum = true ∨ c ∈ ['.', '_', '-']) := by
  simp only [isPlainByte, Bool.or_eq_true, decide_eq_true_eq]
  constructor
  · rintro (((halnum | rfl) | rfl) | rfl)
    · have hrange := isAlphanumeric_iff.1 halnum
      have hchar : (Char.ofNat b.toNat).toNat = b.toNat := by
        rw [Char.ofNat, dif_pos (.inl (by omega))]
        rfl
      refine ⟨Char.ofNat b.toNat, ?_, .inl (isAlphanum_iff.2 (by rw [hchar]; exact hrange))⟩
      exact UInt8.toNat_inj.1 ((toNat_byte (by omega)).trans hchar).symm
    · exact ⟨'-', rfl, .inr (by decide)⟩
    · exact ⟨'_', rfl, .inr (by decide)⟩
    · exact ⟨'.', rfl, .inr (by decide)⟩
  · rintro ⟨c, rfl, halnum | hmark⟩
    · have hrange := isAlphanum_iff.1 halnum
      have hbyte := toNat_byte (c := c) (by omega)
      exact .inl (.inl (.inl (isAlphanumeric_iff.2 (by rw [hbyte]; exact hrange))))
    · simp only [List.mem_cons, List.not_mem_nil, or_false] at hmark
      rcases hmark with rfl | rfl | rfl <;> simp

theorem isValid_iff {id : List UInt8} : isValid id = true ↔ Plain id := by
  simp only [isValid, Bool.and_eq_true, Bool.not_eq_true', List.isEmpty_eq_false_iff,
    decide_eq_true_eq, List.all_eq_true, isPlainByte_iff, ← List.length_pos_iff]
  exact ⟨fun ⟨⟨hfilled, hshort⟩, hplain⟩ => ⟨hfilled, hshort, hplain⟩,
    fun h => ⟨⟨h.filled, h.short⟩, h.plain⟩⟩

lemma Plain.toNat_mem {id : List UInt8} (h : Plain id) {b : UInt8} (hb : b ∈ id) :
    45 ≤ b.toNat ∧ b.toNat ≤ 122 := by
  obtain ⟨c, rfl, halnum | hmark⟩ := h.plain b hb
  · have hrange := isAlphanum_iff.1 halnum
    rw [toNat_byte (by omega)]
    omega
  · simp only [List.mem_cons, List.not_mem_nil, or_false] at hmark
    rcases hmark with rfl | rfl | rfl <;> decide

lemma Plain.isTextByte {id : List UInt8} (h : Plain id) :
    ∀ b ∈ id, Header.isTextByte b = true := by
  intro b hb
  have hrange := h.toNat_mem hb
  exact Header.isTextByte_of_toNat (by omega)

/-- Nothing is lost of a plain id where blanks are trimmed. -/
lemma Plain.trimmed_eq {id : List UInt8} (h : Plain id) : Wire.trimmed id = id := by
  refine Wire.trimmed_eq_self fun b hb => ?_
  have hrange := h.toNat_mem hb
  have hspace : b ≠ byte ' ' := fun heq => by
    rw [heq] at hrange
    revert hrange
    decide
  have htab : b ≠ byte '\t' := fun heq => by
    rw [heq] at hrange
    revert hrange
    decide
  simp [Wire.isBlank, hspace, htab]

/-! ## Fresh ids -/

lemma digit_mem : ∀ n < 16, Hex.digit n ∈ "0123456789abcdef".toList := by decide

lemma mem_pair {b : UInt8} {x : Char} (h : x ∈ Hex.pair b) : x ∈ "0123456789abcdef".toList := by
  have hb := b.toNat_lt
  simp only [Hex.pair, List.mem_cons, List.not_mem_nil, or_false] at h
  rcases h with rfl | rfl
  · exact digit_mem _ (by omega)
  · exact digit_mem _ (by omega)

lemma version_half : ∀ n < 256, (UInt8.ofNat n &&& 0x0F ||| 0x40).toNat / 16 = 4 := by
  decide +kernel

lemma variant_half : ∀ n < 256, 8 ≤ (UInt8.ofNat n &&& 0x3F ||| 0x80).toNat / 16 ∧
    (UInt8.ofNat n &&& 0x3F ||| 0x80).toNat / 16 < 12 := by
  decide +kernel

lemma variantDigit_mem : ∀ n < 12, 8 ≤ n → Hex.digit n ∈ "89ab".toList := by decide

/-- The first digit of the byte with the version is fixed. -/
lemma pair_version (b : UInt8) : ∃ x ∈ "0123456789abcdef".toList,
    Hex.pair (b &&& 0x0F ||| 0x40) = ['4', x] := by
  have hhalf := version_half b.toNat b.toNat_lt
  rw [UInt8.ofNat_toNat] at hhalf
  exact ⟨_, digit_mem _ (Nat.mod_lt _ (by omega)), by rw [Hex.pair, hhalf]; rfl⟩

/-- That of the byte with the variant is one of four. -/
lemma pair_variant (b : UInt8) : ∃ v ∈ "89ab".toList, ∃ x ∈ "0123456789abcdef".toList,
    Hex.pair (b &&& 0x3F ||| 0x80) = [v, x] := by
  have hhalf := variant_half b.toNat b.toNat_lt
  rw [UInt8.ofNat_toNat] at hhalf
  exact ⟨_, variantDigit_mem _ hhalf.2 hhalf.1, _, digit_mem _ (Nat.mod_lt _ (by omega)), rfl⟩

lemma mem_pairs {bs : List UInt8} {x : Char} (h : x ∈ bs.flatMap Hex.pair) :
    x ∈ "0123456789abcdef".toList := by
  obtain ⟨b, -, hx⟩ := List.mem_flatMap.1 h
  exact mem_pair hx

theorem isUuid_ofRandom {random : List UInt8} (h : random.length = size) :
    IsUuid (ofRandom random) := by
  obtain ⟨b0, b1, b2, b3, b4, b5, b6, b7, b8, b9, b10, b11, b12, b13, b14, b15, rfl⟩ :
      ∃ b0 b1 b2 b3 b4 b5 b6 b7 b8 b9 b10 b11 b12 b13 b14 b15,
        random = [b0, b1, b2, b3, b4, b5, b6, b7, b8, b9, b10, b11, b12, b13, b14, b15] := by
    match random, h with
    | [b0, b1, b2, b3, b4, b5, b6, b7, b8, b9, b10, b11, b12, b13, b14, b15], _ =>
      exact ⟨b0, b1, b2, b3, b4, b5, b6, b7, b8, b9, b10, b11, b12, b13, b14, b15, rfl⟩
  obtain ⟨x, hx, hversion⟩ := pair_version b6
  obtain ⟨v, hv, y, hy, hvariant⟩ := pair_variant b8
  have htext : (ofRandom
      [b0, b1, b2, b3, b4, b5, b6, b7, b8, b9, b10, b11, b12, b13, b14, b15]).toList =
    [b0, b1, b2, b3].flatMap Hex.pair ++ '-' :: [b4, b5].flatMap Hex.pair ++ '-' ::
      (Hex.pair (b6 &&& 0x0F ||| 0x40) ++ Hex.pair b7) ++ '-' ::
      (Hex.pair (b8 &&& 0x3F ||| 0x80) ++ Hex.pair b9) ++
      '-' :: [b10, b11, b12, b13, b14, b15].flatMap Hex.pair := by
    simp [ofRandom, Hex.encode]
  refine ⟨[b0, b1, b2, b3].flatMap Hex.pair, [b4, b5].flatMap Hex.pair, x :: Hex.pair b7,
    y :: Hex.pair b9, [b10, b11, b12, b13, b14, b15].flatMap Hex.pair, v, ?_, ?_, ?_, hv⟩
  · rw [htext, hversion, hvariant]
    simp
  · simp [Hex.pair]
  · intro z hz
    simp only [List.mem_append, List.mem_cons] at hz
    rcases hz with (((hz | hz) | rfl | hz) | rfl | hz) | hz
    · exact mem_pairs hz
    · exact mem_pairs hz
    · exact hx
    · exact mem_pair hz
    · exact hy
    · exact mem_pair hz
    · exact mem_pairs hz

/-- A UUID is plain. -/
theorem IsUuid.plain {s : String} (h : IsUuid s) : Plain (bytes s) := by
  obtain ⟨a, b, c, d, e, v, htext, hlengths, hdigits, hvariant⟩ := h
  have hvdigit : v ∈ "0123456789abcdef".toList :=
    (show "89ab".toList ⊆ "0123456789abcdef".toList by decide) hvariant
  have hmem : ∀ x ∈ s.toList, x ∈ "-0123456789abcdef".toList := by
    intro x hx
    rw [htext] at hx
    grind
  have hplain : ∀ x ∈ "-0123456789abcdef".toList,
      x.toNat < 128 ∧ (x.isAlphanum = true ∨ x ∈ ['.', '_', '-']) :=
    List.all_iff_forall_prop.1 (by decide)
  have hbytes : bytes s = s.toList.map byte := by
    rw [← String.ofList_toList (s := s), bytes_ofList, String.toList_ofList,
      utf8_of_ascii fun x hx => (hplain x (hmem x hx)).1]
  have hlength : (bytes s).length = 36 := by
    simp only [List.map_cons, List.map_nil, List.cons.injEq, and_true] at hlengths
    rw [hbytes, List.length_map, htext]
    simp only [List.length_append, List.length_cons]
    omega
  refine ⟨by omega, by omega, fun y hy => ?_⟩
  obtain ⟨x, hx, rfl⟩ := List.mem_map.1 (hbytes ▸ hy)
  exact ⟨x, rfl, (hplain x (hmem x hx)).2⟩

end RequestId

end ZoneGate.Http
