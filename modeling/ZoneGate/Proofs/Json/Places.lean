import ZoneGate.Proofs.Json.Members
import ZoneGate.Proofs.Json.Rounds

/-!
# Where the values of members are written

The value of a member has a place in the text of a document. Another value can be written there, and
then all other members stay what they were.
-/
namespace ZoneGate.Json

open Text

namespace Reader

variable {depth : Nat} {key : String} {first : Bool} {input rest post : List UInt8}

/-- Blanks before a value do not matter. -/
lemma value_append {blanks : List UInt8} (hb : ∀ b ∈ blanks, isSpace b = true)
    (rest : List UInt8) : value depth (blanks ++ rest) = value depth rest := by
  have hopening : opening (blanks ++ rest) = opening rest := bind_eq_of_eq _ (peek_append hb rest)
  cases depth with
  | zero => exact bind_eq_of_eq _ hopening
  | succ depth => exact bind_eq_of_eq _ hopening

lemma colon_eq_ok (h : colon input = .ok ((), rest)) :
    ∃ blanks, (∀ b ∈ blanks, isSpace b = true) ∧ input = blanks ++ byte ':' :: rest := by
  obtain ⟨b, middle, hpeek, hthen⟩ := exists_of_bind h
  obtain ⟨⟨blanks, hblanks, rfl⟩, hhead, -⟩ := peek_eq_ok_iff.1 hpeek
  cases b with
  | none => cases hthen
  | some b =>
    obtain ⟨tail, rfl⟩ := List.head?_eq_some_iff.1 hhead
    simp only at hthen
    split at hthen
    · rename_i hb
      rw [skip_cons] at hthen
      obtain ⟨-, rfl⟩ := Prod.mk.inj (Except.ok.inj hthen)
      exact ⟨blanks, hblanks, by rw [hb]⟩
    · cases hthen

lemma colon_append {blanks : List UInt8} (hb : ∀ b ∈ blanks, isSpace b = true)
    (rest : List UInt8) : colon (blanks ++ byte ':' :: rest) = .ok ((), rest) := by
  rw [colon, bind_eq (peek_blanks hb (by decide) rest)]
  rfl

/-- What is left of an object begins with a key and its colon, and `start` stands behind that. -/
inductive Heads (first : Bool) (key : String) (input start : List UInt8) : Prop where
  | intro {quoted named : List UInt8} (hmore : nextMember first input = .ok (true, quoted))
      (hkey : Reader.key quoted = .ok (key, named)) (hcolon : colon named = .ok ((), start))

/-- From where an object is read on, the value of a member `key` is reached where `rest` is left. -/
inductive Within (depth : Nat) (key : String) : Bool → List UInt8 → List UInt8 → Prop where
  | here {first : Bool} {input blanks rest : List UInt8}
      (hhead : Heads first key input (blanks ++ rest))
      (hblanks : ∀ b ∈ blanks, isSpace b = true) : Within depth key first input rest
  | later {first : Bool} {input start middle rest : List UInt8} {k : String} {v : Value}
      (hhead : Heads first k input start) (hvalue : value depth start = .ok (v, middle))
      (hlater : Within depth key false middle rest) : Within depth key first input rest

/-- A key can stand before anything. -/
lemma Heads.exists_frame {start : List UInt8} (h : Heads first key input start) :
    ∃ used, used ≠ [] ∧ input = used ++ start ∧
      ∀ start', Heads first key (used ++ start') start' := by
  obtain ⟨hmore, hkey, hcolon⟩ := h
  obtain ⟨blanks, hblanks, rfl⟩ := colon_eq_ok hcolon
  obtain ⟨usedKey, rfl, hframeKey⟩ := local_key hkey
  obtain ⟨usedMore, rfl, hframeMore⟩ := local_nextMember first hmore
  refine ⟨usedMore ++ (usedKey ++ (blanks ++ [byte ':'])), by simp, by simp, fun start' => ?_⟩
  -- what follows the key begins with a blank or the colon
  have hnext : (blanks ++ byte ':' :: start').head? = (blanks ++ byte ':' :: start).head? := by
    cases blanks <;> rfl
  have hkey' := hframeKey _ hnext
  have hmore' : nextMember first (usedMore ++ (usedKey ++ (blanks ++ byte ':' :: start'))) =
      .ok (true, usedKey ++ (blanks ++ byte ':' :: start')) := by
    apply hframeMore
    rw [List.head?_append, hnext, ← List.head?_append]
  have hinput : usedMore ++ (usedKey ++ (blanks ++ [byte ':'])) ++ start' =
      usedMore ++ (usedKey ++ (blanks ++ byte ':' :: start')) := by simp
  rw [hinput]
  exact ⟨hmore', hkey', colon_append hblanks start'⟩

lemma takes_append (depth : Nat) (acc : List (String × Value)) : Takes (append depth acc) :=
  takes_member (local_value depth) fun key v => .pure (acc ++ [(key, v)])

/-- Reads the members that are left of an object. -/
def rounds (depth : Nat) (first : Bool) (acc : List (String × Value)) :
    Reader (List (String × Value)) := do
  members (append depth) (← remaining) first acc

/-- One member is read, and then the others. -/
lemma rounds_eq {acc : List (String × Value)} {start : List UInt8} {v : Value}
    (hhead : Heads first key input start) (hvalue : value depth start = .ok (v, post)) :
    rounds depth first acc input = rounds depth false (acc ++ [(key, v)]) post := by
  obtain ⟨hmore, hkey, hcolon⟩ := hhead
  rename_i quoted named
  have happend : append depth acc quoted = .ok (acc ++ [(key, v)], post) := by
    rw [append, bind_eq hkey, bind_eq hcolon, bind_eq hvalue]
    rfl
  have hlt := takes_append depth acc happend
  have hle := (local_nextMember first).length_le hmore
  obtain ⟨b, tail, rfl⟩ := List.exists_cons_of_length_pos (show 0 < input.length by omega)
  rw [List.length_cons] at hle
  change members _ (b :: tail) first acc (b :: tail) = members _ post false _ post
  rw [members, bind_eq hmore, if_pos rfl, bind_eq happend]
  exact members_bound (takes_append depth) (by omega) (Nat.le_refl _) _ _

/-- What is read before a value does not depend on it. -/
theorem Within.exists_frame (h : Within depth key first input rest) :
    ∃ used before, used ≠ [] ∧ input = used ++ rest ∧
      ∀ rest' v post acc, value depth rest' = .ok (v, post) →
        rounds depth first acc (used ++ rest') =
          rounds depth false (acc ++ (before ++ [(key, v)])) post := by
  induction h with
  | @here first input blanks rest hhead hblanks =>
    obtain ⟨used, hne, rfl, hframe⟩ := hhead.exists_frame
    refine ⟨used ++ blanks, [], by simp [hne], by simp, fun rest' v post acc hvalue => ?_⟩
    rw [← value_append hblanks] at hvalue
    rw [List.append_assoc]
    exact rounds_eq (hframe (blanks ++ rest')) hvalue
  | @later first input start middle rest k v hhead hvalue hlater ih =>
    obtain ⟨used, before, hne, rfl, hrounds⟩ := ih
    obtain ⟨usedValue, rfl, hframeValue⟩ := local_value depth hvalue
    obtain ⟨usedHead, hneHead, rfl, hframeHead⟩ := hhead.exists_frame
    refine ⟨usedHead ++ (usedValue ++ used), (k, v) :: before, by simp [hneHead], by simp,
      fun rest' w post acc hw => ?_⟩
    -- the byte behind the earlier value is one of those that stand before the later one
    have hvalue' : value depth (usedValue ++ (used ++ rest')) = .ok (v, used ++ rest') := by
      apply hframeValue
      cases used with
      | nil => exact absurd rfl hne
      | cons b used => rfl
    have hinput : usedHead ++ (usedValue ++ used) ++ rest' =
        usedHead ++ (usedValue ++ (used ++ rest')) := by simp
    rw [hinput, rounds_eq (hframeHead _) hvalue', hrounds rest' w post _ hw]
    simp

/-- Members that have been read before stay in front. -/
lemma rounds_append (acc : List (String × Value)) :
    rounds depth first acc input = ((acc ++ ·) <$> rounds depth first []) input := by
  have happend (s : List (String × Value)) :
      append depth (acc ++ s) = (acc ++ ·) <$> append depth s := by simp [append]
  have hmap := members_map happend input first []
  rw [List.append_nil] at hmap
  exact congrFun hmap input

lemma written_eq {start : List UInt8} (h : opening input = .ok (.object, openBrace :: start)) :
    written (depth + 1) input = rounds depth true [] start := by
  rw [written, bind_eq h]
  rfl

end Reader

/-- How deep the values of members may nest. -/
def memberDepth : Nat := 126

/-- The value of a member `key` of a document is written behind `before`. -/
def Holds (key : String) (before rest : List UInt8) : Prop :=
  ∃ inside, Reader.opening (before ++ rest) = .ok (.object, openBrace :: inside) ∧
    Reader.Within memberDepth key true inside rest

open Reader in
/-- What stands before the value of a member settles what is read before it, and what follows the
value settles what is read after it. -/
theorem Holds.exists_members {key : String} {before rest : List UInt8} (h : Holds key before rest) :
    ∃ earlier, ∀ rest' v post, value memberDepth rest' = .ok (v, post) →
      (written maxDepth).run (before ++ rest') =
        ((rounds memberDepth false []).run post).map fun later =>
          earlier ++ (key, v) :: later := by
  obtain ⟨inside, hopening, hwithin⟩ := h
  obtain ⟨used, earlier, hne, rfl, hrounds⟩ := hwithin.exists_frame
  obtain ⟨usedBrace, hsplit, hframe⟩ := local_opening hopening
  have hbefore : before = usedBrace ++ openBrace :: used := by
    have hsame : before ++ rest = (usedBrace ++ openBrace :: used) ++ rest := by simpa using hsplit
    exact List.append_cancel_right hsame
  refine ⟨earlier, fun rest' v post hvalue => ?_⟩
  have hopening' : opening (before ++ rest') = .ok (.object, openBrace :: (used ++ rest')) := by
    rw [hbefore, List.append_assoc]
    exact hframe _ rfl
  have hread : written maxDepth (before ++ rest') =
      ((earlier ++ [(key, v)] ++ ·) <$> rounds memberDepth false []) post := by
    rw [← rounds_append, maxDepth, written_eq hopening']
    exact hrounds rest' v post [] hvalue
  have hrun : (written maxDepth).run (before ++ rest') =
      ((earlier ++ [(key, v)] ++ ·) <$> rounds memberDepth false []).run post := by
    rw [run, run, hread]
  rw [hrun, run_map]
  simp

lemma parse_of_run_error {body : List UInt8} {e : Error}
    (h : (Reader.written maxDepth).run body = .error e) : Value.parse body = .error e := by
  have hmap := map_members_parse body
  rw [h] at hmap
  rcases hparse : Value.parse body with e' | document
  · rw [hparse] at hmap
    exact congrArg Except.error (Except.error.inj hmap)
  · rw [hparse] at hmap
    cases hmap

lemma parse_of_run_ok {body : List UInt8} {members : List (String × Value)}
    (h : (Reader.written maxDepth).run body = .ok members) :
    (∃ document, Value.parse body = .ok document) ∧ writtenMembers body = members := by
  have hmap := map_members_parse body
  rw [h] at hmap
  refine ⟨?_, by rw [writtenMembers, h]⟩
  rcases hparse : Value.parse body with e | document
  · rw [hparse] at hmap
    cases hmap
  · exact ⟨document, rfl⟩

/-- Two texts that differ in the value of one member are no documents for the same reason, or they
have the same other members. -/
theorem Holds.exchanged {key : String} {before rest rest' post : List UInt8} {v w : Value}
    (h : Holds key before rest) (hv : Reader.value memberDepth rest = .ok (v, post))
    (hw : Reader.value memberDepth rest' = .ok (w, post)) :
    (∃ e, Value.parse (before ++ rest) = .error e ∧ Value.parse (before ++ rest') = .error e) ∨
      ∃ document document' earlier later, Value.parse (before ++ rest) = .ok document ∧
        Value.parse (before ++ rest') = .ok document' ∧
        writtenMembers (before ++ rest) = earlier ++ (key, v) :: later ∧
        writtenMembers (before ++ rest') = earlier ++ (key, w) :: later := by
  obtain ⟨earlier, hmembers⟩ := h.exists_members
  have hrest := hmembers rest v post hv
  have hrest' := hmembers rest' w post hw
  rcases hlater : (Reader.rounds memberDepth false []).run post with e | later
  · rw [hlater] at hrest hrest'
    exact .inl ⟨e, parse_of_run_error hrest, parse_of_run_error hrest'⟩
  · rw [hlater] at hrest hrest'
    obtain ⟨⟨document, hparse⟩, hwritten⟩ := parse_of_run_ok hrest
    obtain ⟨⟨document', hparse'⟩, hwritten'⟩ := parse_of_run_ok hrest'
    exact .inr ⟨document, document', earlier, later, hparse, hparse', hwritten, hwritten'⟩

end ZoneGate.Json
