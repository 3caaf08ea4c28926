import ZoneGate.Proofs.Text.Digits
import ZoneGate.Time.Timestamp

/-!
# The written form of a timestamp

Every timestamp reads back from its own text: each part from its fixed number of digits, the
fraction from its digits without the zeros at the end, and the offset from its sign.
-/
namespace ZoneGate.Timestamp

open Text

lemma digitChar_isDigit : ∀ d < 10, d.digitChar.isDigit = true := by decide

lemma isDigit_of_mem_padded {width n : Nat} {c : Char} (h : c ∈ padded width n) :
    c.isDigit = true := by
  induction width generalizing n with
  | zero => simp [padded] at h
  | succ width ih =>
    rcases List.mem_append.1 h with h | h
    · exact ih h
    · rw [List.mem_singleton.1 h]
      exact digitChar_isDigit _ (Nat.mod_lt _ (by omega))

lemma length_padded (width n : Nat) : (padded width n).length = width := by
  induction width generalizing n with
  | zero => rfl
  | succ width ih => simp [padded, ih]

lemma utf8_padded (width n : Nat) : utf8 (padded width n) = (padded width n).map byte :=
  utf8_of_ascii fun _ hc => ascii_of_isDigit (isDigit_of_mem_padded hc)

lemma all_isDigit_padded (width n : Nat) : (utf8 (padded width n)).all isDigit = true := by
  rw [utf8_padded, List.all_map, List.all_eq_true]
  exact fun c hc => isDigit_byte (isDigit_of_mem_padded hc)

theorem decimal_padded {width n : Nat} (h : n < Nat.pow 10 width) :
    decimal (utf8 (padded width n)) = n := by
  induction width generalizing n with
  | zero =>
    have hn : n < 1 := h
    have : n = 0 := by omega
    simp [padded, decimal, this]
  | succ width ih =>
    have hn : n < Nat.pow 10 width * 10 := h
    have hd : n % 10 < 10 := Nat.mod_lt _ (by omega)
    rw [padded, utf8_append, utf8_cons_of_ascii (ascii_of_isDigit (digitChar_isDigit _ hd)),
      utf8_nil, decimal_concat, ih (by omega), digitValue_digitChar _ hd]
    omega

theorem fixed_padded (name : String) {width n : Nat} (h : n < Nat.pow 10 width)
    (rest : List UInt8) : fixed name width (utf8 (padded width n) ++ rest) = .ok (n, rest) := by
  have hl : (utf8 (padded width n)).length = width := by
    rw [utf8_padded, List.length_map, length_padded]
  simp only [fixed, List.take_left' hl, List.drop_left' hl, hl, all_isDigit_padded,
    decimal_padded h]
  rfl

@[simp] theorem literal_byte (c : Char) (rest : List UInt8) :
    literal c (byte c :: rest) = .ok rest := by
  simp [literal]

/-! ## The fraction of a second -/

/-- The digits of a fraction that are written. -/
def significant (nanosecond : Nat) : List Char :=
  ((padded 9 nanosecond).reverse.dropWhile (· = '0')).reverse

/-- What is left out are zeros. -/
lemma padded_eq_significant (nanosecond : Nat) :
    ∃ zeros, padded 9 nanosecond = significant nanosecond ++ List.replicate zeros '0' := by
  let digits := (padded 9 nanosecond).reverse
  have hzeros : digits.takeWhile (· = '0') =
      List.replicate (digits.takeWhile (· = '0')).length '0' :=
    List.eq_replicate_of_mem fun c hc => by
      simpa using List.all_eq_true.1 (List.all_takeWhile (p := (· = '0')) (l := digits)) c hc
  refine ⟨(digits.takeWhile (· = '0')).length, ?_⟩
  calc padded 9 nanosecond
    _ = digits.reverse := by simp [digits]
    _ = (digits.takeWhile (· = '0') ++ digits.dropWhile (· = '0')).reverse := by
      rw [List.takeWhile_append_dropWhile]
    _ = significant nanosecond ++ (digits.takeWhile (· = '0')).reverse := by
      rw [List.reverse_append, significant]
    _ = significant nanosecond ++ List.replicate (digits.takeWhile (· = '0')).length '0' := by
      rw [hzeros]
      simp

lemma decimal_append_zeros (bs : List UInt8) (zeros : Nat) :
    decimal (bs ++ List.replicate zeros (byte '0')) = decimal bs * Nat.pow 10 zeros := by
  induction zeros with
  | zero => simp
  | succ zeros ih =>
    have hz : digitValue (byte '0') = 0 := by decide
    have hp : Nat.pow 10 (zeros + 1) = Nat.pow 10 zeros * 10 := rfl
    rw [List.replicate_succ', ← List.append_assoc, decimal_concat, ih, hz, hp, Nat.add_zero,
      Nat.mul_comm 10, Nat.mul_assoc]

lemma nanoseconds_significant {nanosecond : Nat} (h : nanosecond < perSecond) :
    nanoseconds (utf8 (significant nanosecond)) = nanosecond := by
  obtain ⟨zeros, hpad⟩ := padded_eq_significant nanosecond
  have hzeros : utf8 (List.replicate zeros '0') = List.replicate zeros (byte '0') := by
    rw [utf8_of_ascii (fun c hc => by rw [List.eq_of_mem_replicate hc]; decide), List.map_replicate]
  have hutf := congrArg utf8 hpad
  rw [utf8_append, hzeros] at hutf
  have hl := congrArg List.length hutf
  simp only [utf8_padded, List.length_map, length_padded, List.length_append,
    List.length_replicate] at hl
  have hzeros' : 9 - (utf8 (significant nanosecond)).length = zeros := by omega
  rw [nanoseconds, List.take_of_length_le (by omega), hzeros', ← decimal_append_zeros, ← hutf]
  exact decimal_padded h

lemma significant_ne_nil {nanosecond : Nat} (h : nanosecond < perSecond) (hn : nanosecond ≠ 0) :
    utf8 (significant nanosecond) ≠ [] := by
  intro hnil
  have hs := nanoseconds_significant h
  rw [hnil] at hs
  exact hn hs.symm

lemma isDigit_of_mem_significant {nanosecond : Nat} {b : UInt8}
    (h : b ∈ utf8 (significant nanosecond)) : isDigit b = true := by
  obtain ⟨zeros, hpad⟩ := padded_eq_significant nanosecond
  have hall := all_isDigit_padded 9 nanosecond
  rw [hpad, utf8_append, List.all_append, Bool.and_eq_true] at hall
  exact List.all_eq_true.1 hall.1 b h

/-- What follows a fraction: neither a point nor a digit. -/
def EndsFraction (rest : List UInt8) : Prop :=
  ∀ b ∈ rest.head?, b ≠ byte '.' ∧ isDigit b = false

theorem fraction_fractionText {nanosecond : Nat} (h : nanosecond < perSecond) {rest : List UInt8}
    (hr : EndsFraction rest) :
    fraction (utf8 (fractionText nanosecond) ++ rest) = .ok (nanosecond, rest) := by
  by_cases hn : nanosecond = 0
  · subst hn
    cases rest with
    | nil => rfl
    | cons b rest =>
      have hb := (hr b rfl).1
      simp [fractionText, fraction, hb]
  · have hdigits : ∀ b ∈ utf8 (significant nanosecond), isDigit b = true :=
      fun b => isDigit_of_mem_significant
    have hrest : ∀ b ∈ rest.head?, isDigit b = false := fun b hb => (hr b hb).2
    obtain ⟨htake, hdrop⟩ := takeWhile_isDigit hdigits hrest
    obtain ⟨b, bs, hcons⟩ := List.exists_cons_of_ne_nil (significant_ne_nil h hn)
    have hnano := nanoseconds_significant h
    rw [fractionText, if_neg hn, utf8_cons_of_ascii (by decide), List.cons_append]
    change fraction (byte '.' :: (utf8 (significant nanosecond) ++ rest)) = _
    rw [hcons] at hnano htake hdrop
    simp only [fraction, hcons, htake, hdrop, hnano]
    rfl

/-! ## The offset -/

lemma offset_signed {sign : Char} (hs : sign = '-' ∨ sign = '+') {hour minute : Nat}
    (hh : hour ≤ 23) (hm : minute ≤ 59) :
    offset (utf8 (sign :: (padded 2 hour ++ ':' :: padded 2 minute))) =
      .ok (if sign = '-' then -(60 * hour + minute : Int) else 60 * hour + minute, []) := by
  have hhour : hour < Nat.pow 10 2 := by change hour < 100; omega
  have hminute : minute < Nat.pow 10 2 := by change minute < 100; omega
  have hread := fixed_padded "offset minute" hminute []
  rw [List.append_nil] at hread
  rcases hs with rfl | rfl
  all_goals
    rw [utf8_cons_of_ascii (by decide), utf8_append, utf8_cons_of_ascii (by decide)]
    simp only [offset, fixed_padded _ hhour, literal_byte, hread, bind, Except.bind,
      if_neg (show ¬ 23 < hour by omega), if_neg (show ¬ 59 < minute by omega), pure, Except.pure]
    rfl

theorem offset_offsetText {minutes : Int} (h : minutes.natAbs < 1440) :
    offset (utf8 (offsetText minutes)) = .ok (minutes, []) := by
  by_cases hz : minutes = 0
  · subst hz
    rfl
  have hh : minutes.natAbs / 60 ≤ 23 := by omega
  have hm : minutes.natAbs % 60 ≤ 59 := by omega
  by_cases hneg : minutes < 0
  · rw [offsetText, if_neg hz, if_pos hneg, offset_signed (.inl rfl) hh hm, if_pos rfl]
    congr 2
    omega
  · rw [offsetText, if_neg hz, if_neg hneg, offset_signed (.inr rfl) hh hm, if_neg (by decide)]
    congr 2
    omega

lemma endsFraction_cons {c : Char} (h : c = 'Z' ∨ c = '-' ∨ c = '+') (cs : List Char) :
    EndsFraction (utf8 (c :: cs)) := by
  intro b hb
  rcases h with rfl | rfl | rfl
  all_goals
    rw [utf8_cons_of_ascii (by decide)] at hb
    obtain rfl := Option.some.inj hb
    decide

lemma endsFraction_offsetText (minutes : Int) : EndsFraction (utf8 (offsetText minutes)) := by
  rw [offsetText]
  split
  · exact endsFraction_cons (by simp) _
  · split
    · exact endsFraction_cons (by simp) _
    · exact endsFraction_cons (by simp) _

/-! ## The whole text -/

theorem daysIn_le (year month : Nat) : daysIn year month ≤ 31 := by
  unfold daysIn
  split
  · split <;> omega
  · split <;> omega

theorem scan_chars {p : Parts} (h : p.Valid) : scan (utf8 p.chars) = .ok p := by
  have hday := daysIn_le p.year p.month
  obtain ⟨hyear, ⟨hm1, hm2⟩, ⟨_, hd2⟩, hhour, hminute, hsecond, hnano, hoffset⟩ := h
  have two {n : Nat} (hn : n < 100) : n < Nat.pow 10 2 := hn
  have four : p.year < Nat.pow 10 4 := by change p.year < 10000; omega
  have hmonth : ¬ p.month = 0 := by omega
  simp only [Parts.chars, utf8_append, List.append_assoc, utf8_cons_of_ascii (c := '-') (by decide),
    utf8_cons_of_ascii (c := ':') (by decide), utf8_cons_of_ascii (c := 'T') (by decide),
    List.cons_append]
  simp only [scan, bind, Except.bind, fixed_padded _ four, literal_byte,
    fixed_padded _ (two (show p.month < 100 by omega)), if_neg hmonth, pure, Except.pure,
    fixed_padded _ (two (show p.day < 100 by omega)), List.isEmpty_cons, Bool.false_eq_true,
    if_false, List.drop_succ_cons, List.drop_zero,
    fixed_padded _ (two (show p.hour < 100 by omega)),
    fixed_padded _ (two (show p.minute < 100 by omega)),
    fixed_padded _ (two (show p.second < 100 by omega)),
    fraction_fractionText hnano (endsFraction_offsetText p.offset), offset_offsetText hoffset,
    List.isEmpty_nil, Bool.not_true]

theorem outOfRange?_of_valid {p : Parts} (h : p.Valid) : p.outOfRange? = none := by
  obtain ⟨_, ⟨_, hm2⟩, ⟨hd1, hd2⟩, hhour, hminute, hsecond, _, _⟩ := h
  have hday : (decide (p.day = 0) || decide (daysIn p.year p.month < p.day)) = false := by
    simp
    omega
  have hleap : (decide (60 < p.second) || decide (p.second = 60) && !p.endsMonth) = false := by
    have h60 : ¬ p.second = 60 := by omega
    simp [h60]
    omega
  simp only [Parts.outOfRange?, if_neg (show ¬ 12 < p.month by omega), hday, hleap,
    if_neg (show ¬ 23 < p.hour by omega), if_neg (show ¬ 59 < p.minute by omega),
    Bool.false_eq_true, if_false]

theorem parse_text (t : Timestamp) : parse (bytes t.text) = .ok t := by
  have hleap : t.parts.withoutLeap = t.parts := by
    have h60 := t.valid.second
    rw [Parts.withoutLeap, if_neg (by omega)]
  simp only [parse, text, bytes_ofList, scan_chars t.valid, bind, Except.bind,
    outOfRange?_of_valid t.valid, hleap, dif_pos t.valid, pure, Except.pure]

end ZoneGate.Timestamp
