import ZoneGate.Json.Reader
import ZoneGate.Proofs.Json.Numerals

/-!
# How far a value reaches

Lists and objects are read in rounds, each of which takes at least one byte. So the length of the
text is bound enough for them, and a value is read in the same way from every text that begins with
it and goes on with the same byte.
-/
namespace ZoneGate.Json

open Text

namespace Reader

variable {α σ : Type}

lemma local_settled (numeral : Numeral) :
    Local (match numeral.value with
      | .ok n => (return n : Reader Number)
      | .error e => throw e) := by
  cases numeral.value with
  | error e => exact .throw _
  | ok n => exact .pure _

theorem local_number : Local number := (Numeral.local_scan _).bind local_settled

theorem takes_number : Takes number := .bind_left (Numeral.takes_scan _) local_settled

theorem local_opening : Local opening := by
  refine local_peek.bind fun b => ?_
  cases b with
  | none => exact .throw _
  | some b =>
    refine .ite (local_skip.bind fun _ => local_string.bind fun _ => .pure _)
      (.ite (local_number.bind fun _ => .pure _) ?_)
    refine .ite ((local_word _).bind fun _ => .pure _) (.ite ((local_word _).bind fun _ => .pure _)
      (.ite ((local_word _).bind fun _ => .pure _) ?_))
    exact .ite (.pure _) (.ite (.pure _) (.throw _))

lemma takes_word (cs : List Char) (h : cs ≠ []) : Takes (word cs) := by
  intro input u rest hword
  obtain rfl := word_eq_ok_iff.1 hword
  have := List.length_pos_iff.2 h
  simp only [List.length_append, List.length_map]
  omega

/-- The words of the format and what they stand for. -/
def words : List (List Char × Scalar) :=
  [("null".toList, .null), ("true".toList, .bool true), ("false".toList, .bool false)]

/-- How a text without leading blanks opens, and what is left of it then. -/
inductive Opens : List UInt8 → Opening → List UInt8 → Prop where
  | string {tail rest : List UInt8} {s : String} (h : Reader.string tail = .ok (s, rest)) :
      Opens (byte '"' :: tail) (.scalar (.string s)) rest
  | number {front rest : List UInt8} {n : Number} (h : Reader.number front = .ok (n, rest)) :
      Opens front (.scalar (.number n)) rest
  | word {front rest : List UInt8} {cs : List Char} {s : Scalar} (hmem : (cs, s) ∈ words)
      (h : Reader.word cs front = .ok ((), rest)) : Opens front (.scalar s) rest
  | array {tail : List UInt8} : Opens (byte '[' :: tail) .array (byte '[' :: tail)
  | object {tail : List UInt8} : Opens (openBrace :: tail) .object (openBrace :: tail)

theorem exists_opens {input rest : List UInt8} {o : Opening} (h : opening input = .ok (o, rest)) :
    ∃ blanks front, (∀ b ∈ blanks, isSpace b = true) ∧ input = blanks ++ front ∧
      Opens front o rest := by
  obtain ⟨b, middle, hpeek, hthen⟩ := exists_of_bind h
  obtain ⟨⟨blanks, hblanks, rfl⟩, hhead, -⟩ := peek_eq_ok_iff.1 hpeek
  refine ⟨blanks, middle, hblanks, rfl, ?_⟩
  cases b with
  | none => cases hthen
  | some b =>
    obtain ⟨tail, rfl⟩ := List.head?_eq_some_iff.1 hhead
    have hwords {cs : List Char} {s : Scalar} (hmem : (cs, s) ∈ words)
        (hword : (Reader.word cs >>= fun _ => pure (.scalar s) : Reader Opening) (b :: tail) =
          .ok (o, rest)) : Opens (b :: tail) o rest := by
      obtain ⟨_, middle, htaken, hend⟩ := exists_of_bind hword
      obtain ⟨rfl, rfl⟩ := Prod.mk.inj (Except.ok.inj hend)
      exact .word hmem htaken
    simp only at hthen
    split at hthen
    · rename_i hquote
      subst hquote
      rw [bind_eq (skip_cons _ tail)] at hthen
      obtain ⟨s, middle, hstring, hend⟩ := exists_of_bind hthen
      obtain ⟨rfl, rfl⟩ := Prod.mk.inj (Except.ok.inj hend)
      exact .string hstring
    split at hthen
    · obtain ⟨n, middle, hnumber, hend⟩ := exists_of_bind hthen
      obtain ⟨rfl, rfl⟩ := Prod.mk.inj (Except.ok.inj hend)
      exact .number hnumber
    split at hthen
    · exact hwords (.head _) hthen
    split at hthen
    · exact hwords (.tail _ (.head _)) hthen
    split at hthen
    · exact hwords (.tail _ (.tail _ (.head _))) hthen
    split at hthen
    · rename_i hbracket
      subst hbracket
      obtain ⟨rfl, rfl⟩ := Prod.mk.inj (Except.ok.inj hthen)
      exact .array
    split at hthen
    · rename_i hbrace
      subst hbrace
      obtain ⟨rfl, rfl⟩ := Prod.mk.inj (Except.ok.inj hthen)
      exact .object
    · cases hthen

/-- A scalar takes a byte. A bracket is not taken, but it is there. -/
lemma opening_takes {input rest : List UInt8} {o : Opening} (h : opening input = .ok (o, rest)) :
    rest.length < input.length ∨ (∀ s, o ≠ .scalar s) ∧ rest ≠ [] := by
  obtain ⟨blanks, front, -, rfl, hopens⟩ := exists_opens h
  rw [List.length_append]
  cases hopens with
  | string hstring =>
    have := takes_string hstring
    rw [List.length_cons]
    exact .inl (by omega)
  | number hnumber =>
    have := takes_number hnumber
    exact .inl (by omega)
  | word hmem hword =>
    have hne : ∀ w ∈ words, w.1 ≠ [] := by simp [words]
    have := takes_word _ (hne _ hmem) hword
    exact .inl (by omega)
  | array => exact .inr ⟨fun _ => by simp, by simp⟩
  | object => exact .inr ⟨fun _ => by simp, by simp⟩

lemma bind_congr_of_ok {β : Type} {r : Reader α} {f g : α → Reader β} {input : List UInt8}
    (h : ∀ a middle, r input = .ok (a, middle) → f a middle = g a middle) :
    (r >>= f) input = (r >>= g) input := by
  change r input >>= _ = r input >>= _
  rcases hr : r input with e | ⟨a, middle⟩
  · rfl
  · exact h a middle hr

section Loops

variable {element : Reader α} {member : σ → Reader σ} {bound bound' input : List UInt8}

/-- A list has at most as many elements as there are bytes. -/
lemma elements_bound (helement : Takes element) (hl : input.length ≤ bound.length)
    (hl' : input.length ≤ bound'.length) (done : List α) :
    elements element bound done input = elements element bound' done input := by
  induction bound generalizing bound' done input with
  | nil =>
    obtain rfl := List.eq_nil_of_length_eq_zero (Nat.le_zero.1 hl)
    cases bound' <;> rfl
  | cons x bound ih =>
    cases input with
    | nil => cases bound' <;> rfl
    | cons b input =>
      obtain ⟨y, bound', rfl⟩ := List.exists_cons_of_length_pos (Nat.zero_lt_of_lt hl')
      rw [elements, elements]
      refine bind_congr_of_ok fun more middle hmore => ?_
      have hle := (local_nextElement _).length_le hmore
      cases more with
      | false => rfl
      | true =>
        refine bind_congr_of_ok fun a rest ha => ?_
        have hlt := helement ha
        simp only [List.length_cons] at hl hl' hle
        exact ih (by omega) (by omega) _

/-- An object has at most as many members as there are bytes. -/
lemma members_bound (hmember : ∀ s, Takes (member s)) (hl : input.length ≤ bound.length)
    (hl' : input.length ≤ bound'.length) (first : Bool) (s : σ) :
    members member bound first s input = members member bound' first s input := by
  induction bound generalizing bound' first s input with
  | nil =>
    obtain rfl := List.eq_nil_of_length_eq_zero (Nat.le_zero.1 hl)
    cases bound' <;> rfl
  | cons x bound ih =>
    cases input with
    | nil => cases bound' <;> rfl
    | cons b input =>
      obtain ⟨y, bound', rfl⟩ := List.exists_cons_of_length_pos (Nat.zero_lt_of_lt hl')
      rw [members, members]
      refine bind_congr_of_ok fun more middle hmore => ?_
      have hle := (local_nextMember _).length_le hmore
      cases more with
      | false => rfl
      | true =>
        refine bind_congr_of_ok fun t rest ht => ?_
        have hlt := hmember s ht
        simp only [List.length_cons] at hl hl' hle
        exact ih (by omega) (by omega) _ _

lemma local_elements (helement : Local element) (bound : List UInt8) (done : List α) :
    Local (elements element bound done) := by
  induction bound generalizing done with
  | nil => exact .throw _
  | cons x bound ih =>
    refine (local_nextElement _).bind fun more => ?_
    cases more with
    | false => exact local_skip.bind fun _ => .pure _
    | true => exact helement.bind fun a => ih (a :: done)

lemma local_members (hmember : ∀ s, Local (member s)) (bound : List UInt8) (first : Bool) (s : σ) :
    Local (members member bound first s) := by
  induction bound generalizing first s with
  | nil => exact .throw _
  | cons x bound ih =>
    refine (local_nextMember _).bind fun more => ?_
    cases more with
    | false => exact local_skip.bind fun _ => .pure _
    | true => exact (hmember s).bind fun t => ih false t

/-- A bracket is passed over before what it holds is read. -/
lemma length_lt_of_skip {r : Reader α} (hr : Local r) {rest : List UInt8} {a : α}
    (hne : input ≠ []) (h : (skip >>= fun _ => r) input = .ok (a, rest)) :
    rest.length < input.length := by
  obtain ⟨b, tail, rfl⟩ := List.exists_cons_of_ne_nil hne
  rw [bind_eq (skip_cons b tail)] at h
  have := hr.length_le h
  rw [List.length_cons]
  omega

lemma local_rounds (helement : Local element) (htakes : Takes element) :
    Local (remaining >>= fun bound => elements element bound []) :=
  .of_bound (fun bound => local_elements helement bound [])
    fun hl hl' => elements_bound htakes hl hl' []

lemma local_memberRounds (hmember : ∀ s, Local (member s)) (htakes : ∀ s, Takes (member s))
    (s : σ) : Local (remaining >>= fun bound => members member bound true s) :=
  .of_bound (fun bound => local_members hmember bound true s)
    fun hl hl' => members_bound htakes hl hl' true s

end Loops

/-- What begins with an opening takes at least one byte if it takes brackets that stand there. -/
lemma local_takes_of_opening {f : Opening → Reader α} (hlocal : ∀ o, Local (f o))
    (hbracket : ∀ o, (∀ s, o ≠ .scalar s) → ∀ ⦃input a rest⦄, input ≠ [] →
      f o input = .ok (a, rest) → rest.length < input.length) :
    Local (opening >>= f) ∧ Takes (opening >>= f) := by
  refine ⟨local_opening.bind hlocal, fun input a rest h => ?_⟩
  obtain ⟨o, middle, hopening, hthen⟩ := exists_of_bind h
  have hle := local_opening.length_le hopening
  rcases opening_takes hopening with hlt | ⟨hbrackets, hne⟩
  · exact Nat.lt_of_le_of_lt ((hlocal o).length_le hthen) hlt
  · exact Nat.lt_of_lt_of_le (hbracket o hbrackets hne hthen) hle

section Member

variable {r : Reader Value} {f : String → Value → Reader σ}

lemma local_member (hr : Local r) (hf : ∀ key v, Local (f key v)) :
    Local (key >>= fun k => colon >>= fun _ => r >>= f k) :=
  local_key.bind fun _ => local_colon.bind fun _ => hr.bind (hf _)

lemma takes_member (hr : Local r) (hf : ∀ key v, Local (f key v)) :
    Takes (key >>= fun k => colon >>= fun _ => r >>= f k) :=
  takes_key.bind_left fun _ => local_colon.bind fun _ => hr.bind (hf _)

end Member

/-- Values are read with one byte of lookahead, and each takes at least one. -/
theorem value_local_takes (depth : Nat) : Local (value depth) ∧ Takes (value depth) := by
  induction depth with
  | zero =>
    apply local_takes_of_opening
    · intro o
      cases o with
      | scalar s => exact .pure _
      | array => exact .throw _
      | object => exact .throw _
    · intro o ho input v rest _ h
      cases o with
      | scalar s => exact absurd rfl (ho s)
      | array => cases h
      | object => cases h
  | succ depth ih =>
    obtain ⟨hlocal, htakes⟩ := ih
    have hlist := local_rounds hlocal htakes
    have hobject := local_memberRounds
      (fun s => local_member hlocal fun key v => .pure (insertMember key v s))
      (fun s => takes_member hlocal fun key v => .pure (insertMember key v s)) []
    apply local_takes_of_opening
    · intro o
      cases o with
      | scalar s => exact .pure _
      | array => exact (local_skip.bind fun _ => hlist).bind fun _ => .pure _
      | object => exact (local_skip.bind fun _ => hobject).bind fun _ => .pure _
    · intro o ho input v rest hne h
      cases o with
      | scalar s => exact absurd rfl (ho s)
      | array =>
        obtain ⟨items, middle, hitems, hend⟩ := exists_of_bind h
        obtain ⟨-, rfl⟩ := Prod.mk.inj (Except.ok.inj hend)
        exact length_lt_of_skip hlist hne hitems
      | object =>
        obtain ⟨kept, middle, hkept, hend⟩ := exists_of_bind h
        obtain ⟨-, rfl⟩ := Prod.mk.inj (Except.ok.inj hend)
        exact length_lt_of_skip hobject hne hkept

theorem local_value (depth : Nat) : Local (value depth) := (value_local_takes depth).1

section Scalars

variable {depth : Nat} {s : Scalar} {input rest : List UInt8}

end Scalars

end Reader

end ZoneGate.Json
