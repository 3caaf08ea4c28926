import ZoneGate.Json.Format
import ZoneGate.Proofs.Json.Tokens

/-!
# Written lists and objects read back

The layout with one item a line is read item by item. A format restores a value from its text if it
does so at every level of nesting; lists, records and maps restore what they hold as soon as the
formats of their parts do.
-/
namespace ZoneGate.Json

open Text

namespace Printer

lemma prettyItems_eq_map (level : Nat) (items : List Value) :
    prettyItems level items = items.map (pretty level) := by
  induction items with
  | nil => rfl
  | cons v items ih => simp [prettyItems, ih]

/-- The text of one member of an object. -/
def memberText (level : Nat) (m : String × Value) : List Char :=
  string m.1 ++ ':' :: ' ' :: pretty level m.2

lemma prettyMembers_eq_map (level : Nat) (members : List (String × Value)) :
    prettyMembers level members = members.map (memberText level) := by
  induction members with
  | nil => rfl
  | cons m members ih => simp [prettyMembers, memberText, ih]

/-- Further lines, each after a comma. -/
def following (level : Nat) (texts : List (List Char)) : List Char :=
  texts.flatMap fun text => ',' :: (newline level ++ text)

lemma joined_cons (text : List Char) (texts : List (List Char)) :
    joined (text :: texts) = text ++ texts.flatMap (',' :: ·) := by
  induction texts generalizing text with
  | nil => simp [joined]
  | cons t texts ih =>
    rw [joined, ih t, List.flatMap_cons, List.cons_append]
    simp

lemma bracketed_cons (level : Nat) (start stop : Char) (text : List Char)
    (texts : List (List Char)) :
    bracketed level start stop (text :: texts) =
      start :: (newline (level + 1) ++ (text ++
        (following (level + 1) texts ++ (newline level ++ [stop])))) := by
  simp [bracketed, joined_cons, following, List.flatMap_map]

lemma isSpace_of_mem_newline {level : Nat} {b : UInt8} (h : b ∈ utf8 (newline level)) :
    isSpace b = true := by
  rw [newline, utf8_cons_of_ascii (by decide),
    utf8_of_ascii (fun c hc => by rw [List.eq_of_mem_replicate hc]; decide),
    List.map_replicate, List.mem_cons] at h
  rcases h with rfl | h
  · decide
  · rw [List.eq_of_mem_replicate h]
    decide

lemma ends_newline (level : Nat) (rest : List UInt8) : Ends (utf8 (newline level) ++ rest) := by
  rw [newline, utf8_cons_of_ascii (by decide)]
  exact ends_cons (by simp) _

lemma ends_following (level : Nat) (texts : List (List Char)) {rest : List UInt8}
    (h : Ends rest) : Ends (utf8 (following level texts) ++ rest) := by
  cases texts with
  | nil => exact h
  | cons text texts =>
    rw [following, List.flatMap_cons, List.cons_append, utf8_cons_of_ascii (by decide)]
    exact ends_cons (by simp) _

lemma length_le_following (level : Nat) (texts : List (List Char)) :
    texts.length ≤ (utf8 (following level texts)).length := by
  induction texts with
  | nil => exact Nat.zero_le _
  | cons text texts ih =>
    rw [following, List.flatMap_cons, List.cons_append, utf8_cons_of_ascii (by decide),
      utf8_append, ← following]
    simp only [List.length_cons, List.length_append]
    omega

lemma utf8_following_cons (level : Nat) (text : List Char) (texts : List (List Char))
    (rest : List UInt8) :
    utf8 (following level (text :: texts)) ++ rest = byte ',' ::
      (utf8 (newline level) ++ (utf8 text ++ (utf8 (following level texts) ++ rest))) := by
  rw [following, List.flatMap_cons, List.cons_append, utf8_cons_of_ascii (by decide), utf8_append,
    utf8_append, ← following]
  simp

lemma utf8_bracketed_cons (level : Nat) {start stop : Char} (hstart : start.toNat < 128)
    (hstop : stop.toNat < 128) (text : List Char) (texts : List (List Char)) (rest : List UInt8) :
    utf8 (bracketed level start stop (text :: texts)) ++ rest =
      byte start :: (utf8 (newline (level + 1)) ++ (utf8 text ++
        (utf8 (following (level + 1) texts) ++ (utf8 (newline level) ++ byte stop :: rest)))) := by
  rw [bracketed_cons, utf8_cons_of_ascii hstart]
  simp only [utf8_append, utf8_cons_of_ascii hstop, utf8_nil, List.cons_append, List.append_assoc,
    List.nil_append]

/-- What stands between brackets is longer than there are items in it. -/
lemma exists_rounds (level : Nat) (text : List Char) (texts : List (List Char)) (stop : UInt8)
    (rest : List UInt8) :
    ∃ b bound, utf8 (newline (level + 1)) ++ (utf8 text ++ (utf8 (following (level + 1) texts) ++
      (utf8 (newline level) ++ stop :: rest))) = b :: bound ∧ texts.length < bound.length := by
  have hle := length_le_following (level + 1) texts
  refine ⟨byte '\n', _, by rw [newline, utf8_cons_of_ascii (by decide), List.cons_append], ?_⟩
  simp only [List.length_append, List.length_cons]
  omega

end Printer

open Printer

/-! ## Lists -/

namespace Reader

lemma nextElement_stop (first : Bool) {blanks : List UInt8} (hb : ∀ b ∈ blanks, isSpace b = true)
    (rest : List UInt8) :
    nextElement first (blanks ++ byte ']' :: rest) = .ok (false, byte ']' :: rest) := by
  rw [nextElement, bind_eq (peek_blanks hb (by decide) _)]
  rfl

lemma nextElement_first {cs : List Char} (h : Starts cs) {blanks : List UInt8}
    (hb : ∀ b ∈ blanks, isSpace b = true) (rest : List UInt8) :
    nextElement true (blanks ++ (utf8 cs ++ rest)) = .ok (true, utf8 cs ++ rest) := by
  obtain ⟨b, tail, hcons, hspace, hclose⟩ := h.exists_cons rest
  rw [hcons, nextElement, bind_eq (peek_blanks hb hspace _)]
  simp only [if_neg hclose, if_true]
  rfl

lemma nextElement_comma {cs : List Char} (h : Starts cs) {blanks : List UInt8}
    (hb : ∀ b ∈ blanks, isSpace b = true) (rest : List UInt8) :
    nextElement false (byte ',' :: (blanks ++ (utf8 cs ++ rest))) =
      .ok (true, utf8 cs ++ rest) := by
  obtain ⟨b, tail, hcons, hspace, hclose⟩ := h.exists_cons rest
  rw [hcons, nextElement, bind_eq (peek_cons (by decide) _)]
  simp only [show ¬ byte ',' = byte ']' by decide, if_false, Bool.false_eq_true, if_true]
  rw [bind_eq (skip_cons _ _), bind_eq (peek_blanks hb hspace _)]
  simp only [if_neg hclose]
  rfl

variable {α : Type} {element : Reader α} {text : α → List Char}

/-- The elements after the first one, up to the closing bracket. -/
lemma elements_following (level : Nat) {as : List α} (h : ∀ a ∈ as, Reads element (text a) a)
    {bound : List UInt8} (hl : as.length < bound.length) {done : List α} (hd : done ≠ [])
    (rest : List UInt8) :
    elements element bound done (utf8 (following (level + 1) (as.map text)) ++
      (utf8 (newline level) ++ byte ']' :: rest)) = .ok (done.reverse ++ as, rest) := by
  have hempty : done.isEmpty = false := by simpa using hd
  induction as generalizing bound done with
  | nil =>
    obtain ⟨x, bound, rfl⟩ := List.exists_cons_of_length_pos (Nat.zero_lt_of_lt hl)
    rw [elements, hempty, List.map_nil]
    change (nextElement false >>= _) (utf8 (newline level) ++ _) = _
    rw [bind_eq (nextElement_stop false (fun b => isSpace_of_mem_newline) rest)]
    change (skip >>= _) (byte ']' :: rest) = _
    rw [bind_eq (skip_cons (byte ']') rest), List.append_nil]
    rfl
  | cons a as ih =>
    obtain ⟨x, bound, rfl⟩ := List.exists_cons_of_length_pos (Nat.zero_lt_of_lt hl)
    simp only [List.length_cons] at hl
    have ha := h a (by simp)
    have htake := ha.takes [] _ (by simp) (ends_following (level + 1) (as.map text)
      (ends_newline level (byte ']' :: rest)))
    rw [List.nil_append] at htake
    rw [elements, hempty, List.map_cons, utf8_following_cons,
      bind_eq (nextElement_comma ha.starts (fun b => isSpace_of_mem_newline) _)]
    simp only [if_true]
    rw [bind_eq htake, ih (fun d hd => h d (by simp [hd])) (by omega) (by simp) rfl]
    simp

theorem list_bracketed (level : Nat) {as : List α} (h : ∀ a ∈ as, Reads element (text a) a)
    (rest : List UInt8) :
    list element (utf8 (bracketed level '[' ']' (as.map text)) ++ rest) = .ok (as, rest) := by
  cases as with
  | nil =>
    have hstop : nextElement true (byte ']' :: rest) = .ok (false, byte ']' :: rest) :=
      nextElement_stop true (List.forall_mem_nil _) rest
    change (skip >>= _) (byte '[' :: byte ']' :: rest) = _
    rw [bind_eq (skip_cons _ _), bind_eq (a := byte ']' :: rest) rfl, elements]
    exact bind_eq hstop
  | cons a as =>
    have ha := h a (by simp)
    have htake := ha.takes [] _ (by simp) (ends_following (level + 1) (as.map text)
      (ends_newline level (byte ']' :: rest)))
    rw [List.nil_append] at htake
    obtain ⟨x, bound, hbound, hlong⟩ :=
      exists_rounds level (text a) (as.map text) (byte ']') rest
    rw [List.length_map] at hlong
    rw [List.map_cons, utf8_bracketed_cons _ (by decide) (by decide), list,
      bind_eq (skip_cons _ _), bind_eq (r := remaining) rfl, hbound, elements, ← hbound]
    change (nextElement true >>= _) _ = _
    rw [bind_eq (nextElement_first ha.starts (fun b => isSpace_of_mem_newline) _)]
    simp only [if_true]
    rw [bind_eq htake, elements_following level (fun d hd => h d (by simp [hd])) hlong (by simp)]
    simp

end Reader

/-! ## Objects -/

/-- Members read one after another, each from its key on, take a state to another. -/
inductive Folds {σ : Type} (member : σ → Reader σ) : σ → List (List Char) → σ → Prop where
  | nil (s : σ) : Folds member s [] s
  | cons {s t u : σ} {text : List Char} {texts : List (List Char)}
      (quoted : text.head? = some '"')
      (takes : ∀ rest, Ends rest → member s (utf8 text ++ rest) = .ok (t, rest))
      (more : Folds member t texts u) : Folds member s (text :: texts) u

namespace Reader

lemma exists_quote {text : List Char} (h : text.head? = some '"') (rest : List UInt8) :
    ∃ tail, utf8 text ++ rest = byte '"' :: tail := by
  obtain ⟨tail, rfl⟩ := List.head?_eq_some_iff.1 h
  exact ⟨_, by rw [utf8_cons_of_ascii (by decide), List.cons_append]⟩

lemma nextMember_stop (first : Bool) {blanks : List UInt8} (hb : ∀ b ∈ blanks, isSpace b = true)
    (rest : List UInt8) :
    nextMember first (blanks ++ closeBrace :: rest) = .ok (false, closeBrace :: rest) := by
  rw [nextMember, bind_eq (peek_blanks hb (by decide) _)]
  rfl

lemma nextMember_first {text : List Char} (h : text.head? = some '"') {blanks : List UInt8}
    (hb : ∀ b ∈ blanks, isSpace b = true) (rest : List UInt8) :
    nextMember true (blanks ++ (utf8 text ++ rest)) = .ok (true, utf8 text ++ rest) := by
  obtain ⟨tail, hcons⟩ := exists_quote h rest
  rw [hcons, nextMember, bind_eq (peek_blanks hb (by decide) _)]
  rfl

lemma nextMember_comma {text : List Char} (h : text.head? = some '"') {blanks : List UInt8}
    (hb : ∀ b ∈ blanks, isSpace b = true) (rest : List UInt8) :
    nextMember false (byte ',' :: (blanks ++ (utf8 text ++ rest))) =
      .ok (true, utf8 text ++ rest) := by
  obtain ⟨tail, hcons⟩ := exists_quote h rest
  rw [hcons, nextMember, bind_eq (peek_cons (by decide) _)]
  simp only [show ¬ byte ',' = closeBrace by decide, if_false, Bool.false_eq_true, if_true]
  rw [bind_eq (skip_cons _ _), bind_eq (peek_blanks hb (by decide) _)]
  rfl

variable {σ : Type} {member : σ → Reader σ}

/-- The members after the first one, up to the closing brace. -/
lemma members_following (level : Nat) {texts : List (List Char)} {s t : σ}
    (h : Folds member s texts t) {bound : List UInt8} (hl : texts.length < bound.length)
    (rest : List UInt8) :
    members member bound false s (utf8 (following (level + 1) texts) ++
      (utf8 (newline level) ++ closeBrace :: rest)) = .ok (t, rest) := by
  induction h generalizing bound with
  | nil s =>
    obtain ⟨x, bound, rfl⟩ := List.exists_cons_of_length_pos (Nat.zero_lt_of_lt hl)
    rw [members]
    change (nextMember false >>= _) (utf8 (newline level) ++ _) = _
    rw [bind_eq (nextMember_stop false (fun b => isSpace_of_mem_newline) rest)]
    rfl
  | cons quoted takes more ih =>
    obtain ⟨x, bound, rfl⟩ := List.exists_cons_of_length_pos (Nat.zero_lt_of_lt hl)
    simp only [List.length_cons] at hl
    rw [members, utf8_following_cons,
      bind_eq (nextMember_comma quoted (fun b => isSpace_of_mem_newline) _)]
    simp only [if_true]
    rw [bind_eq (takes _ (ends_following _ _ (ends_newline level _)))]
    exact ih (by omega)

theorem object_bracketed (level : Nat) {texts : List (List Char)} {s t : σ}
    (h : Folds member s texts t) (rest : List UInt8) :
    object member s (utf8 (bracketed level '\x7b' '\x7d' texts) ++ rest) = .ok (t, rest) := by
  cases h with
  | nil =>
    have hstop : nextMember true (closeBrace :: rest) = .ok (false, closeBrace :: rest) :=
      nextMember_stop true (List.forall_mem_nil _) rest
    change (skip >>= _) (openBrace :: closeBrace :: rest) = _
    rw [bind_eq (skip_cons _ _), bind_eq (a := closeBrace :: rest) rfl, members]
    exact bind_eq hstop
  | @cons _ u _ text texts quoted takes more =>
    obtain ⟨x, bound, hbound, hlong⟩ := exists_rounds level text texts closeBrace rest
    rw [utf8_bracketed_cons _ (by decide) (by decide), object, bind_eq (skip_cons _ _),
      bind_eq (r := remaining) rfl]
    change members member (_ ++ (_ ++ (_ ++ (_ ++ closeBrace :: rest)))) true s
      (_ ++ (_ ++ (_ ++ (_ ++ closeBrace :: rest)))) = _
    rw [hbound, members, ← hbound,
      bind_eq (nextMember_first quoted (fun b => isSpace_of_mem_newline) _)]
    simp only [if_true]
    rw [bind_eq (takes _ (ends_following _ _ (ends_newline level _)))]
    exact members_following level more hlong rest

end Reader

end ZoneGate.Json
