import ZoneGate.Json.Printer
import ZoneGate.Json.Reader
import ZoneGate.Proofs.Text.Digits

/-!
# Written scalars read back

What a reader takes from the text of a scalar is that scalar, whatever blanks stand before it and
whatever follows it. Only a numeral has to know where it ends: no digit, point or exponent may
follow.
-/
namespace ZoneGate.Json

open Text

/-- What may follow a value: nothing that a numeral could go on with. -/
def Ends (rest : List UInt8) : Prop :=
  ∀ b ∈ rest.head?, isDigit b = false ∧ b ≠ byte '.' ∧ b ≠ byte 'e' ∧ b ≠ byte 'E'

theorem ends_nil : Ends [] := by simp [Ends]

lemma not_in_numeral : ∀ c ∈ [',', '\n', ']', '\x7d', '"'], isDigit (byte c) = false ∧
    byte c ≠ byte '.' ∧ byte c ≠ byte 'e' ∧ byte c ≠ byte 'E' := by
  intro c hc
  simp only [List.mem_cons, List.not_mem_nil, or_false] at hc
  rcases hc with rfl | rfl | rfl | rfl | rfl <;> decide

/-- The characters that follow values are no part of a numeral. -/
theorem ends_cons {c : Char} (h : c ∈ [',', '\n', ']', '\x7d', '"']) (rest : List UInt8) :
    Ends (byte c :: rest) := by
  intro b hb
  obtain rfl := Option.some.inj hb
  exact not_in_numeral c h

/-- How the text of a value begins: with a character that is neither blank nor closes a list. -/
def Starts (cs : List Char) : Prop :=
  ∃ c tail, cs = c :: tail ∧ c.toNat < 128 ∧ isSpace (byte c) = false ∧ byte c ≠ byte ']'

/-- A reader takes a value from a text, after any blanks and before anything that ends it. -/
structure Reads {α : Type} (r : Reader α) (cs : List Char) (a : α) : Prop where
  starts : Starts cs
  takes : ∀ blanks rest, (∀ b ∈ blanks, isSpace b = true) → Ends rest →
    r (blanks ++ (utf8 cs ++ rest)) = .ok (a, rest)

namespace Reader

theorem bind_eq {α β : Type} {r : Reader α} {f : α → Reader β} {input rest : List UInt8} {a : α}
    (h : r input = .ok (a, rest)) : (r >>= f) input = f a rest := by
  change (r input >>= fun p => f p.1 p.2) = _
  rw [h]
  rfl

@[simp] theorem skip_cons (b : UInt8) (rest : List UInt8) : skip (b :: rest) = .ok ((), rest) := rfl

theorem peek_blanks {blanks : List UInt8} (hb : ∀ b ∈ blanks, isSpace b = true) {b : UInt8}
    (h : isSpace b = false) (rest : List UInt8) :
    peek (blanks ++ b :: rest) = .ok (some b, b :: rest) := by
  have hdrop : (blanks ++ b :: rest).dropWhile isSpace = b :: rest := by
    rw [List.dropWhile_append_of_pos hb, List.dropWhile_cons_of_neg (by simp [h])]
  change Except.ok (((blanks ++ b :: rest).dropWhile isSpace).head?,
    (blanks ++ b :: rest).dropWhile isSpace) = _
  rw [hdrop]
  rfl

theorem peek_cons {b : UInt8} (h : isSpace b = false) (rest : List UInt8) :
    peek (b :: rest) = .ok (some b, b :: rest) := peek_blanks (List.forall_mem_nil _) h rest

/-! ## Strings -/

/-- Bytes that stand for themselves inside a string. -/
def isPlain (b : UInt8) : Bool := b ≠ byte '"' && b ≠ byte '\\' && !(b < 0x20)

lemma stringBody_plain {bs : List UInt8} (h : ∀ b ∈ bs, isPlain b = true) {bound : List UInt8}
    (hl : bs.length ≤ bound.length) (done rest : List UInt8) :
    stringBody bound done (bs ++ rest) =
      stringBody (bound.drop bs.length) (bs.reverse ++ done) rest := by
  induction bs generalizing bound done with
  | nil => rfl
  | cons b bs ih =>
    obtain ⟨x, bound, rfl⟩ := List.exists_cons_of_length_pos (show 0 < bound.length by
      simp only [List.length_cons] at hl; omega)
    have hb := h b (by simp)
    simp only [isPlain, ne_eq, Bool.and_eq_true, decide_eq_true_eq, Bool.not_eq_true',
      decide_eq_false_iff_not] at hb
    obtain ⟨⟨hquote, hslash⟩, hcontrol⟩ := hb
    rw [List.cons_append, stringBody, if_neg hquote, if_neg hslash, if_neg hcontrol,
      ih (fun d hd => h d (by simp [hd])) (by simpa using hl)]
    simp

/-- A character that is written as it is. -/
def standsForItself (c : Char) : Bool := c ≠ '"' && c ≠ '\\' && !(c.toNat < 0x20)

lemma isPlain_of_mem_encode {c : Char} (h : standsForItself c = true) {b : UInt8}
    (hb : b ∈ String.utf8EncodeChar c) : isPlain b = true := by
  simp only [standsForItself, ne_eq, Bool.and_eq_true, decide_eq_true_eq, Bool.not_eq_true',
    decide_eq_false_iff_not] at h
  obtain ⟨⟨hquote, hslash⟩, hcontrol⟩ := h
  by_cases hc : c.toNat < 128
  · rw [encode_of_ascii hc] at hb
    obtain rfl := List.mem_singleton.1 hb
    have hb' : ¬ byte c < 0x20 := by
      rw [UInt8.lt_iff_toNat_lt, toNat_byte hc]
      exact hcontrol
    simp [isPlain, byte_inj hc (d := '"') (by decide), byte_inj hc (d := '\\') (by decide), hquote,
      hslash, hb']
  · have hle := le_of_mem_encode (by omega) hb
    have hne (d : Char) (hd : d.toNat < 128) : b ≠ byte d := by
      rintro rfl
      rw [toNat_byte hd] at hle
      omega
    have hb' : ¬ b < 0x20 := by
      rw [UInt8.lt_iff_toNat_lt]
      change ¬ b.toNat < 32
      omega
    simp [isPlain, hne '"' (by decide), hne '\\' (by decide), hb']

lemma escape_eq_singleton {c : Char} (h : standsForItself c = true) : Printer.escape c = [c] := by
  simp only [standsForItself, ne_eq, Bool.and_eq_true, decide_eq_true_eq, Bool.not_eq_true',
    decide_eq_false_iff_not] at h
  obtain ⟨⟨hquote, hslash⟩, hcontrol⟩ := h
  have hne (d : Char) (hd : d.toNat < 0x20) : c ≠ d := by
    rintro rfl
    exact hcontrol hd
  rw [Printer.escape, if_neg hquote, if_neg hslash, if_neg (hne _ (by decide)),
    if_neg (hne _ (by decide)), if_neg (hne _ (by decide)), if_neg (hne _ (by decide)),
    if_neg (hne _ (by decide)), if_neg hcontrol]

lemma codeUnit_control {c : Char} (h : c.toNat < 0x20) (rest : List UInt8) :
    codeUnit (byte '0' :: byte '0' :: (utf8 (Hex.pair (UInt8.ofNat c.toNat)) ++ rest)) =
      .ok (c.toNat, rest) := by
  have hn : (UInt8.ofNat c.toNat).toNat = c.toNat := by
    rw [UInt8.toNat_ofNat', Nat.mod_eq_of_lt (by omega)]
  have hz : Hex.digit? (byte '0') = some 0 := by decide
  have hhigh := Hex.digit?_digit (c.toNat / 16) (by omega)
  have hlow := Hex.digit?_digit (c.toNat % 16) (by omega)
  have hsum : ((0 * 16 + 0) * 16 + c.toNat / 16) * 16 + c.toNat % 16 = c.toNat := by omega
  rw [Hex.utf8_pair, hn]
  simp only [List.cons_append, List.nil_append, codeUnit, hz, hhigh, hlow, hsum]

lemma escape_control {c : Char} (h : c.toNat < 0x20) (rest : List UInt8) :
    escape (byte 'u' :: byte '0' :: byte '0' ::
      (utf8 (Hex.pair (UInt8.ofNat c.toNat)) ++ rest)) = .ok (c, rest) := by
  have hs : shortEscape? (byte 'u') = none := by decide
  have hsurrogate : (decide (0xDC00 ≤ c.toNat) && decide (c.toNat ≤ 0xDFFF)) = false := by
    simp
    omega
  have hbasic : (decide (c.toNat < 0xD800) || decide (0xDBFF < c.toNat)) = true := by
    simp
    omega
  simp only [escape, hs, if_true, unicodeEscape, codeUnit_control h, bind, Except.bind, hsurrogate,
    hbasic, Bool.false_eq_true, if_false, pure, Except.pure, Char.ofNat_toNat]

/-- Every other character is written as a backslash and an escape that reads back. -/
lemma exists_escape {c : Char} (h : standsForItself c = false) :
    ∃ body, utf8 (Printer.escape c) = byte '\\' :: body ∧
      ∀ rest, escape (body ++ rest) = .ok (c, rest) := by
  by_cases hshort : ∃ d, d.toNat < 128 ∧ Printer.escape c = ['\\', d] ∧
      shortEscape? (byte d) = some c
  · obtain ⟨d, hd, hp, hs⟩ := hshort
    refine ⟨[byte d], ?_, fun rest => ?_⟩
    · rw [hp, utf8_cons_of_ascii (by decide), utf8_cons_of_ascii hd, utf8_nil]
    · simp only [List.cons_append, List.nil_append, escape, hs]
  · have hne (d e : Char) (hd : e.toNat < 128) (hp : Printer.escape d = ['\\', e])
        (hs : shortEscape? (byte e) = some d) : c ≠ d := by
      rintro rfl
      exact hshort ⟨e, hd, hp, hs⟩
    have hcontrol : c.toNat < 0x20 := by
      simpa [standsForItself, hne '"' '"' (by decide) (by decide) (by decide),
        hne '\\' '\\' (by decide) (by decide) (by decide)] using h
    refine ⟨byte 'u' :: byte '0' :: byte '0' :: utf8 (Hex.pair (UInt8.ofNat c.toNat)), ?_,
      fun rest => escape_control hcontrol rest⟩
    rw [Printer.escape, if_neg (hne '"' '"' (by decide) (by decide) (by decide)),
      if_neg (hne '\\' '\\' (by decide) (by decide) (by decide)),
      if_neg (hne '\x08' 'b' (by decide) (by decide) (by decide)),
      if_neg (hne '\x0c' 'f' (by decide) (by decide) (by decide)),
      if_neg (hne '\n' 'n' (by decide) (by decide) (by decide)),
      if_neg (hne '\r' 'r' (by decide) (by decide) (by decide)),
      if_neg (hne '\t' 't' (by decide) (by decide) (by decide)), if_pos hcontrol, utf8_append]
    rfl

theorem stringBody_escaped (cs : List Char) {bound : List UInt8}
    (hl : (utf8 (cs.flatMap Printer.escape)).length < bound.length) (done rest : List UInt8) :
    stringBody bound done (utf8 (cs.flatMap Printer.escape) ++ byte '"' :: rest) =
      .ok (done.reverse ++ utf8 cs, rest) := by
  induction cs generalizing bound done with
  | nil =>
    obtain ⟨x, bound, rfl⟩ := List.exists_cons_of_length_pos (Nat.zero_lt_of_lt hl)
    simp [stringBody]
  | cons c cs ih =>
    rw [List.flatMap_cons, utf8_append, List.length_append] at hl
    rw [List.flatMap_cons, utf8_append, List.append_assoc]
    cases hc : standsForItself c with
    | true =>
      have hutf : utf8 [c] = String.utf8EncodeChar c := by simp [utf8]
      rw [escape_eq_singleton hc, hutf] at hl ⊢
      rw [stringBody_plain (fun b => isPlain_of_mem_encode hc) (by omega),
        ih (by rw [List.length_drop]; omega), utf8_cons]
      simp
    | false =>
      obtain ⟨body, hbody, hescape⟩ := exists_escape hc
      rw [hbody, List.length_cons] at hl
      obtain ⟨x, bound, rfl⟩ := List.exists_cons_of_length_pos (Nat.zero_lt_of_lt hl)
      rw [List.length_cons] at hl
      rw [hbody, List.cons_append, stringBody, if_neg (by decide), if_pos rfl, hescape]
      simp only
      rw [ih (by omega), utf8_cons]
      simp

/-- A string reads back from what follows its opening quote. -/
theorem string_escaped (s : String) (rest : List UInt8) :
    string (utf8 (s.toList.flatMap Printer.escape) ++ byte '"' :: rest) = .ok (s, rest) := by
  have hlong : (utf8 (s.toList.flatMap Printer.escape)).length <
      (utf8 (s.toList.flatMap Printer.escape) ++ byte '"' :: rest).length := by simp
  have hbody := stringBody_escaped s.toList hlong [] rest
  have hstep : ofStep (fun input => stringBody input [] input)
      (utf8 (s.toList.flatMap Printer.escape) ++ byte '"' :: rest) =
        .ok (utf8 s.toList, rest) := by simpa [ofStep] using hbody
  rw [string, bind_eq hstep, ofBytes?_utf8, String.ofList_toList]
  rfl

end Reader

/-! ## Whole numbers -/

namespace Numeral

lemma foldl_ge (run : List UInt8) (start : Nat) :
    start ≤ run.foldl (fun n b => 10 * n + digitValue b) start := by
  induction run generalizing start with
  | nil => simp
  | cons b run ih => exact Nat.le_trans (by omega) (ih (10 * start + digitValue b))

/-- Digits of a number below `2 ^ 64` all fit. -/
theorem ofWhole_of_lt {run : List UInt8} (h : decimal run < UInt64.size) :
    Scaled.ofWhole run = ⟨decimal run, 0⟩ := by
  have fold (start : Nat)
      (hs : run.foldl (fun n b => 10 * n + digitValue b) start < UInt64.size) :
      run.foldl (fun s b =>
        if s.power = 0 && 10 * s.significand + digitValue b < UInt64.size then
          ⟨10 * s.significand + digitValue b, 0⟩
        else ⟨s.significand, s.power + 1⟩) (⟨start, 0⟩ : Scaled) =
      ⟨run.foldl (fun n b => 10 * n + digitValue b) start, 0⟩ := by
    clear h
    induction run generalizing start with
    | nil => rfl
    | cons b run ih =>
      have hfit : 10 * start + digitValue b < UInt64.size := Nat.lt_of_le_of_lt (foldl_ge run _) hs
      simp only [List.foldl_cons, decide_true, hfit, Bool.and_self, if_true]
      exact ih _ hs
  exact fold 0 h

lemma digits_append (atEnd : Error) {run rest : List UInt8} (hne : run ≠ [])
    (hd : ∀ b ∈ run, isDigit b = true) (hr : Ends rest) :
    digits atEnd (run ++ rest) = .ok (run, rest) := by
  obtain ⟨htake, hdrop⟩ := takeWhile_isDigit hd fun b hb => (hr b hb).1
  obtain ⟨b, bs, rfl⟩ := List.exists_cons_of_ne_nil hne
  rw [List.cons_append] at htake hdrop ⊢
  simp only [digits, hd b (by simp), if_true, htake, hdrop]

lemma fractionPart_of_ends (atEnd : Error) {rest : List UInt8} (h : Ends rest) :
    fractionPart atEnd rest = .ok (none, rest) := by
  cases rest with
  | nil => rfl
  | cons b rest => simp only [fractionPart, if_neg (h b rfl).2.1]

lemma exponentPart_of_ends (atEnd : Error) {rest : List UInt8} (h : Ends rest) :
    exponentPart atEnd rest = .ok (none, rest) := by
  cases rest with
  | nil => rfl
  | cons b rest =>
    obtain ⟨_, _, hlower, hupper⟩ := h b rfl
    simp [exponentPart, hlower, hupper]

lemma head_append_decimalText (n : Nat) (rest : List UInt8) :
    ∃ b, (decimalText n ++ rest).head? = some b ∧ isDigit b = true := by
  obtain ⟨b, bs, hcons⟩ := List.exists_cons_of_ne_nil (decimalText_ne_nil n)
  exact ⟨b, by simp [hcons], isDigit_of_mem_decimalText (n := n) (by simp [hcons])⟩

theorem scan_decimalText (atEnd : Error) (n : Nat) {rest : List UInt8} (h : Ends rest) :
    scan atEnd (decimalText n ++ rest) = .ok (⟨false, decimalText n, none, none⟩, rest) := by
  obtain ⟨b, hhead, hb⟩ := head_append_decimalText n rest
  have hminus : ¬ b = byte '-' := by
    rintro rfl
    revert hb
    decide
  have hwhole : wholePart atEnd (decimalText n ++ rest) = .ok (decimalText n, rest) := by
    have hzero :
        ((decimalText n).head? = some (byte '0') && (decimalText n).length ≠ 1) = false := by
      by_cases hz : (decimalText n).head? = some (byte '0')
      · simp [head_decimalText hz]
      · simp [hz]
    simp only [wholePart, digits_append atEnd (decimalText_ne_nil n)
      (fun b => isDigit_of_mem_decimalText) h, bind, Except.bind]
    rw [hzero]
    rfl
  simp [scan, hhead, hminus, hwhole, fractionPart_of_ends atEnd h, exponentPart_of_ends atEnd h,
    bind, Except.bind, pure, Except.pure]

theorem value_decimalText {n : Nat} (h : n < UInt64.size) :
    value ⟨false, decimalText n, none, none⟩ = .ok (.unsigned (UInt64.ofNat n)) := by
  have hlt : decimal (decimalText n) < UInt64.size := by simpa using h
  simp [value, ofWhole_of_lt hlt]

end Numeral

theorem Reader.number_decimalText (n : UInt64) {rest : List UInt8} (h : Ends rest) :
    Reader.number (decimalText n.toNat ++ rest) = .ok (.unsigned n, rest) := by
  have hscan := Numeral.scan_decimalText .endInValue n.toNat h
  rw [Reader.number, Reader.bind_eq (by simpa [Reader.ofStep] using hscan),
    Numeral.value_decimalText n.toNat_lt_size, UInt64.ofNat_toNat]
  rfl

/-! ## Openings -/

lemma starts_string (s : String) : Starts (Printer.string s) :=
  ⟨'"', _, rfl, by decide, by decide, by decide⟩

lemma starts_digits (n : Nat) : Starts (Nat.toDigits 10 n) := by
  obtain ⟨c, tail, hcons⟩ := List.exists_cons_of_ne_nil (Nat.toDigits_ne_nil (n := n) (b := 10))
  have hc : c.isDigit = true :=
    Nat.isDigit_of_mem_toDigits (b := 10) (n := n) (by omega) (by omega) (by simp [hcons])
  have hdigit := isDigit_byte hc
  have hne (b : UInt8) (hb : isDigit b = false) : byte c ≠ b := by
    rintro rfl
    rw [hdigit] at hb
    contradiction
  refine ⟨c, tail, hcons, ascii_of_isDigit hc, ?_, hne _ (by decide)⟩
  simp [isSpace, hne 0x20 (by decide), hne 0x09 (by decide), hne 0x0A (by decide),
    hne 0x0D (by decide)]

/-- A text that starts a value is not empty and its first byte is no blank. -/
lemma Starts.exists_cons {cs : List Char} (h : Starts cs) (rest : List UInt8) :
    ∃ b tail, utf8 cs ++ rest = b :: tail ∧ isSpace b = false ∧ b ≠ byte ']' := by
  obtain ⟨c, tail, rfl, hascii, hspace, hclose⟩ := h
  exact ⟨byte c, utf8 tail ++ rest, by rw [utf8_cons_of_ascii hascii, List.cons_append], hspace,
    hclose⟩

lemma utf8_string (s : String) (rest : List UInt8) :
    utf8 (Printer.string s) ++ rest =
      byte '"' :: (utf8 (s.toList.flatMap Printer.escape) ++ byte '"' :: rest) := by
  rw [Printer.string, utf8_append, utf8_cons_of_ascii (by decide), utf8_cons_of_ascii (by decide)]
  simp

theorem reads_opening_string (s : String) :
    Reads Reader.opening (Printer.string s) (.scalar (.string s)) := by
  refine ⟨starts_string s, fun blanks rest hb _ => ?_⟩
  rw [utf8_string, Reader.opening, Reader.bind_eq (Reader.peek_blanks hb (by decide) _)]
  simp only [if_true]
  rw [Reader.bind_eq (Reader.skip_cons _ _), Reader.bind_eq (Reader.string_escaped s rest)]
  rfl

theorem reads_opening_unsigned (n : UInt64) :
    Reads Reader.opening (Printer.scalar (.number (.unsigned n)))
      (.scalar (.number (.unsigned n))) := by
  refine ⟨starts_digits n.toNat, fun blanks rest hb hends => ?_⟩
  obtain ⟨b, tail, hcons, hspace, -⟩ := (starts_digits n.toNat).exists_cons rest
  have hdigit : isDigit b = true := by
    obtain ⟨d, hd, hdigit⟩ := Numeral.head_append_decimalText n.toNat rest
    rw [decimalText, hcons] at hd
    obtain rfl := Option.some.inj hd
    exact hdigit
  have hquote : ¬ b = byte '"' := by
    rintro rfl
    revert hdigit
    decide
  have hnumber := Reader.number_decimalText n hends
  rw [decimalText, hcons] at hnumber
  have hprinted : Printer.scalar (.number (.unsigned n)) = Nat.toDigits 10 n.toNat := rfl
  rw [hprinted, hcons, Reader.opening, Reader.bind_eq (Reader.peek_blanks hb hspace _)]
  simp only [if_neg hquote, hdigit, Bool.or_true, if_true]
  rw [Reader.bind_eq hnumber]
  rfl

lemma word_append (cs : List Char) (h : cs.all (fun c => c.toNat < 128) = true)
    (rest : List UInt8) :
    Reader.word cs (utf8 cs ++ rest) = .ok ((), rest) := by
  induction cs with
  | nil => rfl
  | cons c cs ih =>
    rw [List.all_cons, Bool.and_eq_true] at h
    rw [utf8_cons_of_ascii (of_decide_eq_true h.1), List.cons_append, Reader.word,
      Reader.bind_eq (a := byte c :: (utf8 cs ++ rest)) rfl]
    simp only [ne_eq, not_true_eq_false, if_false]
    exact ih h.2

theorem reads_opening_bool (b : Bool) :
    Reads Reader.opening (Printer.scalar (.bool b)) (.scalar (.bool b)) := by
  cases b with
  | true =>
    refine ⟨⟨'t', _, rfl, by decide, by decide, by decide⟩, fun blanks rest hb _ => ?_⟩
    have hword := word_append "true".toList (by decide) rest
    change Reader.word _ (byte 't' :: _) = _ at hword
    change Reader.opening (blanks ++ byte 't' :: _) = _
    rw [Reader.opening, Reader.bind_eq (Reader.peek_blanks hb (by decide) _)]
    exact Reader.bind_eq hword
  | false =>
    refine ⟨⟨'f', _, rfl, by decide, by decide, by decide⟩, fun blanks rest hb _ => ?_⟩
    have hword := word_append "false".toList (by decide) rest
    change Reader.word _ (byte 'f' :: _) = _ at hword
    change Reader.opening (blanks ++ byte 'f' :: _) = _
    rw [Reader.opening, Reader.bind_eq (Reader.peek_blanks hb (by decide) _)]
    exact Reader.bind_eq hword

theorem opening_array {blanks : List UInt8} (hb : ∀ b ∈ blanks, isSpace b = true)
    (rest : List UInt8) :
    Reader.opening (blanks ++ byte '[' :: rest) = .ok (.array, byte '[' :: rest) := by
  rw [Reader.opening, Reader.bind_eq (Reader.peek_blanks hb (by decide) _)]
  rfl

theorem opening_object {blanks : List UInt8} (hb : ∀ b ∈ blanks, isSpace b = true)
    (rest : List UInt8) :
    Reader.opening (blanks ++ openBrace :: rest) = .ok (.object, openBrace :: rest) := by
  rw [Reader.opening, Reader.bind_eq (Reader.peek_blanks hb (by decide) _)]
  rfl

end ZoneGate.Json
