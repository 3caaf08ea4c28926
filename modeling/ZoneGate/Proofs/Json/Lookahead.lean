import ZoneGate.Json.Reader
import ZoneGate.Proofs.Json.Tokens

/-!
# Readers look one byte ahead

What a reader takes from the front of a text depends on nothing behind it except the next byte, so
what follows a value can be exchanged. Loops run along the text as it is when they start, which is
always long enough for them.
-/
namespace ZoneGate.Json

open Text

namespace Reader

variable {α β σ : Type}

/-- A reader takes the same from all texts that begin with what it takes and have the same byte
next. -/
def Local (r : Reader α) : Prop :=
  ∀ ⦃input a rest⦄, r input = .ok (a, rest) → ∃ used, input = used ++ rest ∧
    ∀ rest', rest'.head? = rest.head? → r (used ++ rest') = .ok (a, rest')

/-- A reader takes at least one byte. -/
def Takes (r : Reader α) : Prop :=
  ∀ ⦃input a rest⦄, r input = .ok (a, rest) → rest.length < input.length

lemma exists_of_bind {r : Reader α} {f : α → Reader β} {input rest : List UInt8} {b : β}
    (h : (r >>= f) input = .ok (b, rest)) :
    ∃ a middle, r input = .ok (a, middle) ∧ f a middle = .ok (b, rest) := by
  change (r input >>= fun p => f p.1 p.2) = _ at h
  rcases hr : r input with e | ⟨a, middle⟩
  · rw [hr] at h
    cases h
  · rw [hr] at h
    exact ⟨a, middle, rfl, h⟩

lemma bind_eq_of_eq {r : Reader α} (f : α → Reader β) {input input' : List UInt8}
    (h : r input = r input') : (r >>= f) input = (r >>= f) input' := by
  change (r input >>= fun p => f p.1 p.2) = (r input' >>= fun p => f p.1 p.2)
  rw [h]

namespace Local

theorem pure (a : α) : Local (pure a) := by
  intro input b rest h
  obtain ⟨rfl, rfl⟩ := Prod.mk.inj (Except.ok.inj h)
  exact ⟨[], rfl, fun _ _ => rfl⟩

theorem throw (e : Error) : Local (throw e : Reader α) := by
  intro input a rest h
  cases h

theorem bind {r : Reader α} {f : α → Reader β} (hr : Local r) (hf : ∀ a, Local (f a)) :
    Local (r >>= f) := by
  intro input b rest h
  obtain ⟨a, middle, hfirst, hthen⟩ := exists_of_bind h
  obtain ⟨used, rfl, hframe⟩ := hr hfirst
  obtain ⟨used', rfl, hframe'⟩ := hf a hthen
  refine ⟨used ++ used', by simp, fun rest' hhead => ?_⟩
  have hnext : (used' ++ rest').head? = (used' ++ rest).head? := by
    rw [List.head?_append, List.head?_append, hhead]
  rw [List.append_assoc, bind_eq (hframe _ hnext)]
  exact hframe' rest' hhead

theorem ite {p : Prop} [Decidable p] {r s : Reader α} (hr : Local r) (hs : Local s) :
    Local (if p then r else s) := by
  split
  · exact hr
  · exact hs

theorem length_le {r : Reader α} (hr : Local r) {input rest : List UInt8} {a : α}
    (h : r input = .ok (a, rest)) : rest.length ≤ input.length := by
  obtain ⟨used, rfl, -⟩ := hr h
  simp

/-- A loop that runs along the text that is left is local where its bound does not matter. -/
theorem of_bound {r : List UInt8 → Reader α} (hlocal : ∀ bound, Local (r bound))
    (hbound : ∀ {bound bound' input : List UInt8}, input.length ≤ bound.length →
      input.length ≤ bound'.length → r bound input = r bound' input) :
    Local (remaining >>= r) := by
  intro input a rest h
  obtain ⟨used, rfl, -⟩ := hlocal _ h
  refine ⟨used, rfl, fun rest' hhead => ?_⟩
  -- a bound that is long enough for both texts
  let bound := used ++ rest ++ rest'
  have hlong : r bound (used ++ rest) = .ok (a, rest) :=
    (hbound (by simp [bound]) (Nat.le_refl _)).trans h
  obtain ⟨used', hsame, hframe⟩ := hlocal bound hlong
  obtain rfl := List.append_cancel_right hsame
  exact (hbound (Nat.le_refl _) (by simp [bound])).trans (hframe rest' hhead)

end Local

namespace Takes

theorem bind_left {r : Reader α} {f : α → Reader β} (hr : Takes r) (hf : ∀ a, Local (f a)) :
    Takes (r >>= f) := by
  intro input b rest h
  obtain ⟨a, middle, hfirst, hthen⟩ := exists_of_bind h
  exact Nat.lt_of_le_of_lt ((hf a).length_le hthen) (hr hfirst)

theorem bind_right {r : Reader α} {f : α → Reader β} (hr : Local r) (hf : ∀ a, Takes (f a)) :
    Takes (r >>= f) := by
  intro input b rest h
  obtain ⟨a, middle, hfirst, hthen⟩ := exists_of_bind h
  exact Nat.lt_of_lt_of_le (hf a hthen) (hr.length_le hfirst)

end Takes

/-! ## Single bytes and words -/

lemma dropWhile_isSpace {rest : List UInt8} (h : ∀ b ∈ rest.head?, isSpace b = false) :
    rest.dropWhile isSpace = rest := by
  cases rest with
  | nil => rfl
  | cons b rest => rw [List.dropWhile_cons_of_neg (by simp [h b rfl])]

/-- What is left by a peek begins with the byte that was seen, which is no blank. -/
lemma peek_eq_ok_iff {input rest : List UInt8} {b : Option UInt8} :
    peek input = .ok (b, rest) ↔
      (∃ blanks, (∀ c ∈ blanks, isSpace c = true) ∧ input = blanks ++ rest) ∧ rest.head? = b ∧
        ∀ c ∈ b, isSpace c = false := by
  have hpeek : peek input =
      .ok ((input.dropWhile isSpace).head?, input.dropWhile isSpace) := rfl
  rw [hpeek, Except.ok.injEq, Prod.mk.injEq]
  constructor
  · rintro ⟨rfl, rfl⟩
    refine ⟨⟨input.takeWhile isSpace, fun c hc => ?_, List.takeWhile_append_dropWhile.symm⟩, rfl,
      fun c hc => ?_⟩
    · exact List.all_eq_true.1 List.all_takeWhile c hc
    · have := List.head?_dropWhile_not isSpace input
      rw [Option.mem_def.1 hc] at this
      simpa using this
  · rintro ⟨⟨blanks, hblanks, rfl⟩, rfl, hhead⟩
    rw [List.dropWhile_append_of_pos hblanks, dropWhile_isSpace hhead]
    exact ⟨rfl, rfl⟩

lemma peek_append {blanks : List UInt8} (hb : ∀ b ∈ blanks, isSpace b = true)
    (rest : List UInt8) : peek (blanks ++ rest) = peek rest := by
  have hpeek (input : List UInt8) : peek input =
      .ok ((input.dropWhile isSpace).head?, input.dropWhile isSpace) := rfl
  rw [hpeek, hpeek, List.dropWhile_append_of_pos hb]

theorem local_peek : Local peek := by
  intro input b rest h
  obtain ⟨⟨blanks, hblanks, rfl⟩, hhead, hnot⟩ := peek_eq_ok_iff.1 h
  exact ⟨blanks, rfl, fun rest' hsame =>
    peek_eq_ok_iff.2 ⟨⟨blanks, hblanks, rfl⟩, hsame.trans hhead, hnot⟩⟩

theorem local_skip : Local skip := by
  intro input u rest h
  obtain ⟨-, rfl⟩ := Prod.mk.inj (Except.ok.inj h)
  cases input with
  | nil =>
    refine ⟨[], rfl, fun rest' hhead => ?_⟩
    obtain rfl : rest' = [] := by simpa using hhead
    rfl
  | cons b input => exact ⟨[b], rfl, fun _ _ => rfl⟩

lemma word_eq_ok_iff {cs : List Char} {input rest : List UInt8} :
    word cs input = .ok ((), rest) ↔ input = cs.map byte ++ rest := by
  induction cs generalizing input with
  | nil =>
    constructor
    · intro h
      exact (Prod.mk.inj (Except.ok.inj h)).2
    · rintro rfl
      rfl
  | cons c cs ih =>
    cases input with
    | nil =>
      constructor
      · intro h
        cases h
      · intro h
        cases h
    | cons b input =>
      have hword : word (c :: cs) (b :: input) =
          if b ≠ byte c then .error .expectedIdent else word cs input := by
        rw [word, bind_eq (a := b :: input) rfl]
        simp only
        split <;> rfl
      rw [hword, List.map_cons, List.cons_append, List.cons.injEq]
      by_cases heq : b = byte c
      · rw [if_neg (not_not_intro heq), ih]
        exact ⟨fun h => ⟨heq, h⟩, fun h => h.2⟩
      · rw [if_pos heq]
        constructor
        · intro h
          cases h
        · intro h
          exact absurd h.1 heq

theorem local_word (cs : List Char) : Local (word cs) := by
  intro input u rest h
  obtain rfl := word_eq_ok_iff.1 h
  exact ⟨cs.map byte, rfl, fun rest' _ => word_eq_ok_iff.2 rfl⟩

theorem local_nextElement (first : Bool) : Local (nextElement first) := by
  refine local_peek.bind fun b => ?_
  cases b with
  | none => exact .throw _
  | some b =>
    refine .ite (.pure _) (.ite (.pure _) (.ite (local_skip.bind fun _ => ?_) (.throw _)))
    refine local_peek.bind fun c => ?_
    cases c with
    | none => exact .throw _
    | some c => exact .ite (.throw _) (.pure _)

theorem local_nextMember (first : Bool) : Local (nextMember first) := by
  refine local_peek.bind fun b => ?_
  cases b with
  | none => exact .throw _
  | some b =>
    refine .ite (.pure _) (.ite (.ite (.pure _) (.throw _))
      (.ite (local_skip.bind fun _ => ?_) (.throw _)))
    refine local_peek.bind fun c => ?_
    cases c with
    | none => exact .throw _
    | some c => exact .ite (.pure _) (.ite (.throw _) (.throw _))

theorem local_colon : Local colon := by
  refine local_peek.bind fun b => ?_
  cases b with
  | none => exact .throw _
  | some b => exact .ite local_skip (.throw _)

/-! ## Strings -/

theorem local_codeUnit : Local (ofStep codeUnit) := by
  intro input n rest h
  unfold ofStep codeUnit at h
  split at h
  · rename_i a b c d input
    split at h
    · rename_i ha hb hc hd
      obtain ⟨rfl, rfl⟩ := Prod.mk.inj (Except.ok.inj h)
      exact ⟨[a, b, c, d], rfl, fun rest' _ => by simp [ofStep, codeUnit, ha, hb, hc, hd]⟩
    · cases h
  · cases h

/-- Reads one byte of an escape. -/
def expect (c : Char) : Reader Unit :=
  ofStep fun input => (expectInEscape c input).map fun rest => ((), rest)

theorem local_expect (c : Char) : Local (expect c) := by
  intro input u rest h
  unfold expect ofStep expectInEscape at h
  cases input with
  | nil => cases h
  | cons b input =>
    simp only at h
    split at h
    · rename_i hb
      obtain ⟨-, rfl⟩ := Prod.mk.inj (Except.ok.inj h)
      exact ⟨[b], rfl, fun rest' _ => by simp [expect, ofStep, expectInEscape, hb, Except.map]⟩
    · cases h

lemma expect_bind (c : Char) (f : Unit → Reader α) (input : List UInt8) :
    (expect c >>= f) input = expectInEscape c input >>= f () := by
  change (expectInEscape c input).map (fun rest => ((), rest)) >>= _ = _
  cases expectInEscape c input <;> rfl

lemma unicodeEscape_eq : ofStep unicodeEscape = (do
    let high ← ofStep codeUnit
    if 0xDC00 ≤ high && high ≤ 0xDFFF then throw .loneSurrogate
    else if high < 0xD800 || 0xDBFF < high then return Char.ofNat high
    else
      expect '\\'
      expect 'u'
      let low ← ofStep codeUnit
      if low < 0xDC00 || 0xDFFF < low then throw .loneSurrogate
      else return Char.ofNat (0x10000 + (high - 0xD800) * 0x400 + (low - 0xDC00))) := by
  funext input
  change unicodeEscape input = (codeUnit input >>= fun p => _)
  unfold unicodeEscape
  refine bind_congr fun ⟨high, rest⟩ => ?_
  simp only
  split
  · rfl
  split
  · rfl
  rw [expect_bind]
  refine bind_congr fun rest => ?_
  rw [expect_bind]
  refine bind_congr fun rest => ?_
  change _ = codeUnit rest >>= _
  refine bind_congr fun ⟨low, rest⟩ => ?_
  change _ = (if _ then (throw Error.loneSurrogate : Reader Char) else pure _) rest
  split
  · rfl
  · rfl

theorem local_unicodeEscape : Local (ofStep unicodeEscape) := by
  rw [unicodeEscape_eq]
  refine local_codeUnit.bind fun high => .ite (.throw _) (.ite (.pure _) ?_)
  refine (local_expect _).bind fun _ => (local_expect _).bind fun _ =>
    local_codeUnit.bind fun low => ?_
  exact .ite (.throw _) (.pure _)

theorem local_escape : Local (ofStep escape) := by
  intro input c rest h
  cases input with
  | nil => cases h
  | cons b input =>
    unfold ofStep escape at h
    simp only at h
    split at h
    · rename_i hshort
      obtain ⟨rfl, rfl⟩ := Prod.mk.inj (Except.ok.inj h)
      exact ⟨[b], rfl, fun rest' _ => by simp [ofStep, escape, hshort]⟩
    · rename_i hshort
      split at h
      · rename_i hb
        obtain ⟨used, rfl, hframe⟩ := local_unicodeEscape h
        refine ⟨b :: used, rfl, fun rest' hhead => ?_⟩
        have hrest := hframe rest' hhead
        rw [ofStep] at hrest ⊢
        rw [List.cons_append, escape, hshort]
        simp only
        rw [if_pos hb, hrest]
      · cases h

/-- A string ends at a quote, and what stands behind that does not matter. -/
lemma exists_stringBody {bound done input rest bs : List UInt8}
    (h : stringBody bound done input = .ok (bs, rest)) :
    ∃ used, input = used ++ rest ∧ used ≠ [] ∧ ∀ rest', rest'.head? = rest.head? →
      stringBody bound done (used ++ rest') = .ok (bs, rest') := by
  induction bound generalizing done input with
  | nil => cases h
  | cons x bound ih =>
    cases input with
    | nil => cases h
    | cons b input =>
      rw [stringBody] at h
      by_cases hquote : b = byte '"'
      · rw [if_pos hquote] at h
        obtain ⟨rfl, rfl⟩ := Prod.mk.inj (Except.ok.inj h)
        refine ⟨[b], rfl, by simp, fun rest' _ => ?_⟩
        rw [List.singleton_append, stringBody, if_pos hquote]
      rw [if_neg hquote] at h
      by_cases hslash : b = byte '\\'
      · rw [if_pos hslash] at h
        rcases hescape : escape input with e | ⟨c, middle⟩
        · rw [hescape] at h
          cases h
        rw [hescape] at h
        obtain ⟨used, rfl, hframe⟩ := local_escape hescape
        obtain ⟨used', rfl, -, hframe'⟩ := ih h
        refine ⟨b :: (used ++ used'), by simp, by simp, fun rest' hhead => ?_⟩
        have hnext : (used' ++ rest').head? = (used' ++ rest).head? := by
          rw [List.head?_append, List.head?_append, hhead]
        have hescape' : escape (used ++ (used' ++ rest')) = .ok (c, used' ++ rest') :=
          hframe _ hnext
        rw [List.cons_append, stringBody, if_neg hquote, if_pos hslash, List.append_assoc, hescape']
        exact hframe' rest' hhead
      rw [if_neg hslash] at h
      by_cases hcontrol : b < 0x20
      · rw [if_pos hcontrol] at h
        cases h
      rw [if_neg hcontrol] at h
      obtain ⟨used, rfl, -, hframe⟩ := ih h
      refine ⟨b :: used, rfl, by simp, fun rest' hhead => ?_⟩
      rw [List.cons_append, stringBody, if_neg hquote, if_neg hslash, if_neg hcontrol]
      exact hframe rest' hhead

/-- A bound as long as the text does not matter. -/
lemma stringBody_bound {bound bound' input : List UInt8} (hl : input.length ≤ bound.length)
    (hl' : input.length ≤ bound'.length) (done : List UInt8) :
    stringBody bound done input = stringBody bound' done input := by
  induction bound generalizing bound' done input with
  | nil =>
    obtain rfl := List.eq_nil_of_length_eq_zero (Nat.le_zero.1 hl)
    cases bound' <;> rfl
  | cons x bound ih =>
    cases input with
    | nil => cases bound' <;> rfl
    | cons b input =>
      obtain ⟨y, bound', rfl⟩ := List.exists_cons_of_length_pos (Nat.zero_lt_of_lt hl')
      simp only [List.length_cons, Nat.add_le_add_iff_right] at hl hl'
      rw [stringBody, stringBody, ih hl hl']
      rcases hescape : escape input with e | ⟨c, rest⟩
      · rfl
      · have hshort : rest.length ≤ input.length := local_escape.length_le hescape
        simp only [ih (Nat.le_trans hshort hl) (Nat.le_trans hshort hl')]

theorem local_stringBody : Local (ofStep fun input => stringBody input [] input) :=
  .of_bound (r := fun bound => ofStep (stringBody bound []))
    (fun _ _ _ _ h =>
      have ⟨used, hinput, _, hframe⟩ := exists_stringBody h
      ⟨used, hinput, hframe⟩)
    (fun hl hl' => stringBody_bound hl hl' [])

theorem local_string : Local string := by
  refine local_stringBody.bind fun body => ?_
  cases ofBytes? body with
  | none => exact .throw _
  | some s => exact .pure _

theorem takes_string : Takes string := by
  refine .bind_left (fun input body rest h => ?_) fun body => ?_
  · obtain ⟨used, rfl, hne, -⟩ := exists_stringBody h
    have := List.length_pos_iff.2 hne
    simp only [List.length_append]
    omega
  · cases ofBytes? body with
    | none => exact .throw _
    | some s => exact .pure _

theorem local_key : Local key := local_skip.bind fun _ => local_string

theorem takes_key : Takes key := .bind_right local_skip fun _ => takes_string

end Reader

end ZoneGate.Json
