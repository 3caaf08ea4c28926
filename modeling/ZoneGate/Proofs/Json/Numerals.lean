import Mathlib.Data.List.Induction
import ZoneGate.Proofs.Json.Lookahead

/-!
# Numerals and what they stand for

A numeral ends where no digit, point or exponent follows. Whole numbers of 64 bits are those that
are written with digits alone, without a leading zero, a sign, a point or an exponent.
-/
namespace ZoneGate.Json

open Text

namespace Numeral

open Reader

variable {atEnd : Error} {input run rest : List UInt8}

lemma digits_eq_ok_iff : digits atEnd input = .ok (run, rest) ↔
    run ≠ [] ∧ (∀ b ∈ run, isDigit b = true) ∧ (∀ b ∈ rest.head?, isDigit b = false) ∧
      input = run ++ rest := by
  constructor
  · intro h
    unfold digits at h
    split at h
    · cases h
    rename_i b input
    split at h
    · rename_i hb
      obtain ⟨rfl, rfl⟩ := Prod.mk.inj (Except.ok.inj h)
      refine ⟨by simp [hb], fun c hc => List.all_eq_true.1 List.all_takeWhile c hc, fun c hc => ?_,
        List.takeWhile_append_dropWhile.symm⟩
      have := List.head?_dropWhile_not isDigit (b :: input)
      rw [Option.mem_def.1 hc] at this
      simpa using this
    · cases h
  · rintro ⟨hne, hdigits, hstop, rfl⟩
    obtain ⟨htake, hdrop⟩ := takeWhile_isDigit hdigits hstop
    obtain ⟨b, bs, rfl⟩ := List.exists_cons_of_ne_nil hne
    rw [List.cons_append] at htake hdrop ⊢
    simp only [digits, hdigits b (by simp), if_true, htake, hdrop]

lemma local_digits (atEnd : Error) : Local (ofStep (digits atEnd)) := by
  intro input run rest h
  obtain ⟨hne, hdigits, hstop, rfl⟩ := digits_eq_ok_iff.1 h
  exact ⟨run, rfl, fun rest' hhead =>
    digits_eq_ok_iff.2 ⟨hne, hdigits, by rwa [hhead], rfl⟩⟩

lemma wholePart_eq (atEnd : Error) : ofStep (wholePart atEnd) = (do
    let run ← ofStep (digits atEnd)
    if run.head? = some (byte '0') && run.length ≠ 1 then throw .invalidNumber
    else return run) := by
  funext input
  change wholePart atEnd input = digits atEnd input >>= _
  unfold wholePart
  refine bind_congr fun ⟨run, rest⟩ => ?_
  change _ = (if _ then (throw Error.invalidNumber : Reader (List UInt8)) else pure _) rest
  simp only
  split
  · rfl
  · rfl

lemma local_wholePart (atEnd : Error) : Local (ofStep (wholePart atEnd)) := by
  rw [wholePart_eq]
  exact (local_digits atEnd).bind fun _ => .ite (.throw _) (.pure _)

lemma takes_wholePart (atEnd : Error) : Takes (ofStep (wholePart atEnd)) := by
  rw [wholePart_eq]
  refine .bind_left (fun input run rest h => ?_) fun _ => .ite (.throw _) (.pure _)
  obtain ⟨hne, -, -, rfl⟩ := digits_eq_ok_iff.1 h
  have := List.length_pos_iff.2 hne
  simp only [List.length_append]
  omega

/-- A reader that takes nothing where a byte does not stand next. -/
lemma local_of_head {α : Type} {r : Reader (Option α)} {p : UInt8 → Prop}
    (hother : ∀ input, (∀ b ∈ input.head?, ¬ p b) → r input = .ok (none, input))
    (hbyte : ∀ {b input a rest}, p b → r (b :: input) = .ok (a, rest) → ∃ used,
      input = used ++ rest ∧ ∀ rest', rest'.head? = rest.head? →
        r (b :: (used ++ rest')) = .ok (a, rest')) : Local r := by
  intro input a rest h
  by_cases hp : ∃ b ∈ input.head?, p b
  · obtain ⟨b, hhead, hb⟩ := hp
    obtain ⟨input, rfl⟩ := List.head?_eq_some_iff.1 hhead
    obtain ⟨used, rfl, hframe⟩ := hbyte hb h
    exact ⟨b :: used, rfl, hframe⟩
  · have hp : ∀ b ∈ input.head?, ¬ p b := fun b hb hpb => hp ⟨b, hb, hpb⟩
    rw [hother input hp] at h
    obtain ⟨rfl, rfl⟩ := Prod.mk.inj (Except.ok.inj h)
    exact ⟨[], rfl, fun rest' hhead => hother rest' (by rwa [hhead])⟩

lemma local_fractionPart (atEnd : Error) : Local (ofStep (fractionPart atEnd)) := by
  refine local_of_head (p := (· = byte '.')) (fun input hother => ?_)
    fun {b input a rest} hb h => ?_
  · cases input with
    | nil => rfl
    | cons b input => exact if_neg (hother b rfl)
  · have hpoint (input : List UInt8) : fractionPart atEnd (b :: input) =
        (digits atEnd input).map fun p => (some p.1, p.2) := if_pos hb
    rw [ofStep, hpoint] at h
    rcases hdigits : digits atEnd input with e | ⟨run, middle⟩
    · rw [hdigits] at h
      cases h
    rw [hdigits] at h
    obtain ⟨rfl, rfl⟩ := Prod.mk.inj (Except.ok.inj h)
    obtain ⟨used, rfl, hframe⟩ := local_digits atEnd hdigits
    refine ⟨used, rfl, fun rest' hhead => ?_⟩
    have hrest : digits atEnd (used ++ rest') = .ok (run, rest') := hframe rest' hhead
    rw [ofStep, hpoint, hrest]
    rfl

lemma local_signPart : Local (ofStep fun input => .ok (signPart input)) := by
  intro input minus rest h
  have hsign : signPart input = (minus, rest) := Except.ok.inj h
  cases input with
  | nil =>
    obtain ⟨rfl, rfl⟩ := Prod.mk.inj hsign
    refine ⟨[], rfl, fun rest' hhead => ?_⟩
    obtain rfl : rest' = [] := by simpa using hhead
    rfl
  | cons b input =>
    rw [signPart] at hsign
    by_cases hminus : b = byte '-'
    · rw [if_pos hminus] at hsign
      obtain ⟨rfl, rfl⟩ := Prod.mk.inj hsign
      exact ⟨[b], rfl, fun rest' _ => congrArg Except.ok (if_pos hminus)⟩
    rw [if_neg hminus] at hsign
    by_cases hplus : b = byte '+'
    · rw [if_pos hplus] at hsign
      obtain ⟨rfl, rfl⟩ := Prod.mk.inj hsign
      exact ⟨[b], rfl, fun rest' _ => congrArg Except.ok ((if_neg hminus).trans (if_pos hplus))⟩
    rw [if_neg hplus] at hsign
    obtain ⟨rfl, rfl⟩ := Prod.mk.inj hsign
    refine ⟨[], rfl, fun rest' hhead => ?_⟩
    obtain ⟨rest', rfl⟩ := List.head?_eq_some_iff.1 hhead
    exact congrArg Except.ok ((if_neg hminus).trans (if_neg hplus))

lemma local_exponentPart (atEnd : Error) : Local (ofStep (exponentPart atEnd)) := by
  refine local_of_head (p := fun b => b = byte 'e' ∨ b = byte 'E') (fun input hother => ?_)
    fun {b input a rest} hb h => ?_
  · cases input with
    | nil => rfl
    | cons b input => exact if_neg (by simpa using hother b rfl)
  · -- behind the letter stand a sign and digits
    have hletter (input : List UInt8) : exponentPart atEnd (b :: input) =
        ((ofStep fun input => .ok (signPart input)) >>= fun minus =>
          ofStep (digits atEnd) >>= fun run => pure (some (minus, run)) : Reader _) input := by
      rw [exponentPart, if_pos (by simpa using hb)]
      change (digits atEnd (signPart input).2).map _ = digits atEnd (signPart input).2 >>= _
      cases digits atEnd (signPart input).2 <;> rfl
    have hlocal := local_signPart.bind fun minus =>
      (local_digits atEnd).bind fun run => .pure (some (minus, run))
    rw [ofStep, hletter] at h
    obtain ⟨used, rfl, hframe⟩ := hlocal h
    exact ⟨used, rfl, fun rest' hhead => (hletter _).trans (hframe rest' hhead)⟩

/-- The sign of a numeral, of which only minus is allowed. -/
def minusPart : Reader Bool :=
  ofStep fun input => .ok (if input.head? = some (byte '-') then (true, input.drop 1)
    else (false, input))

lemma local_minusPart : Local minusPart := by
  intro input minus rest h
  have hminus := Except.ok.inj h
  by_cases hhead : input.head? = some (byte '-')
  · obtain ⟨input, rfl⟩ := List.head?_eq_some_iff.1 hhead
    obtain ⟨rfl, rfl⟩ := Prod.mk.inj hminus
    exact ⟨[byte '-'], rfl, fun _ _ => rfl⟩
  · simp only [if_neg hhead] at hminus
    obtain ⟨rfl, rfl⟩ := Prod.mk.inj hminus
    exact ⟨[], rfl, fun rest' hsame => congrArg Except.ok (if_neg (hsame ▸ hhead))⟩

lemma scan_eq (atEnd : Error) : ofStep (scan atEnd) = (do
    let minus ← minusPart
    let whole ← ofStep (wholePart atEnd)
    let fraction ← ofStep (fractionPart atEnd)
    let exponent ← ofStep (exponentPart atEnd)
    return ⟨minus, whole, fraction, exponent⟩) := by
  funext input
  by_cases hhead : input.head? = some (byte '-')
  · have hminus : minusPart input = .ok (true, input.drop 1) := congrArg Except.ok (if_pos hhead)
    rw [bind_eq hminus, ofStep, scan]
    simp only [hhead, decide_true, if_true]
    rfl
  · have hminus : minusPart input = .ok (false, input) := congrArg Except.ok (if_neg hhead)
    rw [bind_eq hminus, ofStep, scan]
    simp only [hhead, decide_false, if_false]
    rfl

theorem local_scan (atEnd : Error) : Local (ofStep (scan atEnd)) := by
  rw [scan_eq]
  exact local_minusPart.bind fun _ => (local_wholePart atEnd).bind fun _ =>
    (local_fractionPart atEnd).bind fun _ => (local_exponentPart atEnd).bind fun _ => .pure _

theorem takes_scan (atEnd : Error) : Takes (ofStep (scan atEnd)) := by
  rw [scan_eq]
  refine .bind_right local_minusPart fun _ => .bind_left (takes_wholePart atEnd) fun _ => ?_
  exact (local_fractionPart atEnd).bind fun _ => (local_exponentPart atEnd).bind fun _ => .pure _

/-! ## Whole numbers of 64 bits -/

end Numeral

end ZoneGate.Json
