import ZoneGate.Proofs.Json.Layout

/-!
# Formats that restore what was written

A format restores a value from a JSON value if it reads it from that value's text at every level of
nesting. The lemmas follow the way formats are put together.
-/
namespace ZoneGate.Json

open Text Printer

/-- The format reads `a` from the text of `v`, wherever that stands. -/
def Format.Restores {α : Type} (f : Format α) (v : Value) (a : α) : Prop :=
  ∀ level, Reads f.read (pretty level v) a

/-- A whole text is read back. -/
theorem Format.Restores.parse {α : Type} {f : Format α} {v : Value} {a : α}
    (h : f.Restores v a) : f.parse (bytes v.prettyText) = .ok a := by
  have hread := (h 0).takes [] [] (by simp) ends_nil
  rw [List.nil_append, List.append_nil] at hread
  rw [Value.prettyText, bytes_ofList, Format.parse, Reader.run, hread]
  rfl

namespace Format

variable {α β : Type}

/-! ## Scalars -/

theorem restores_scalar {expected : String} {take : Scalar → Except Misfit α} {s : Scalar} {a : α}
    (h : Reads Reader.opening (Printer.scalar s) (.scalar s)) (ht : take s = .ok a) :
    (scalar expected take).Restores (.scalar s) a := by
  intro level
  refine ⟨h.starts, fun blanks rest hb hr => ?_⟩
  simp only [scalar, pretty]
  rw [Reader.bind_eq (h.takes blanks rest hb hr)]
  simp only [fit, ht]
  rfl

theorem restores_map {format : Format α} {v : Value} {a : α} (h : format.Restores v a)
    (f : α → β) : (format.map f).Restores v (f a) := by
  intro level
  refine ⟨(h level).starts, fun blanks rest hb hr => ?_⟩
  exact Reader.bind_eq ((h level).takes blanks rest hb hr)

theorem restores_unsigned (expected : String) (n : UInt64) :
    (unsigned expected).Restores (.unsigned n) n :=
  restores_scalar (reads_opening_unsigned n) rfl

theorem restores_bool (b : Bool) : bool.Restores (.bool b) b :=
  restores_scalar (reads_opening_bool b) rfl

theorem restores_ofText {expected : String} {take : String → Except String α} {s : String} {a : α}
    (h : take s = .ok a) : (ofText expected take).Restores (.string s) a :=
  restores_scalar (reads_opening_string s) (by simp only [h])

theorem restores_string (s : String) : string.Restores (.string s) s := restores_ofText rfl

theorem key_string (s : String) (rest : List UInt8) :
    Reader.key (utf8 (Printer.string s) ++ rest) = .ok (s, rest) := by
  rw [utf8_string, Reader.key, Reader.bind_eq (Reader.skip_cons _ _)]
  exact Reader.string_escaped s rest

theorem restores_choice {options : List (String × α)} {name : String} {a : α}
    (h : pick options name = .ok a) : (choice options).Restores (.string name) a := by
  intro level
  refine ⟨starts_string name, fun blanks rest hb _ => ?_⟩
  have hkey := key_string name rest
  rw [utf8_string] at hkey
  change (choice options).read (blanks ++ (utf8 (Printer.string name) ++ rest)) = _
  rw [utf8_string]
  simp only [choice]
  rw [Reader.bind_eq (Reader.peek_blanks hb (by decide) _)]
  simp only [if_true]
  rw [Reader.bind_eq hkey, h]
  rfl

/-! ## Lists -/

theorem restores_list {format : Format α} {write : α → Value} {as : List α}
    (h : ∀ a ∈ as, format.Restores (write a) a) :
    format.list.Restores (.array (as.map write)) as := by
  intro level
  have htext : pretty level (.array (as.map write)) =
      bracketed level '[' ']' (as.map fun a => pretty (level + 1) (write a)) := by
    rw [pretty, prettyItems_eq_map, List.map_map]
    rfl
  have hread := Reader.list_bracketed level fun a ha => h a ha (level + 1)
  have hcons : ∃ tail, bracketed level '[' ']' (as.map fun a => pretty (level + 1) (write a)) =
      '[' :: tail := by
    cases as with
    | nil => exact ⟨_, rfl⟩
    | cons a as => exact ⟨_, by rw [List.map_cons, bracketed_cons]⟩
  obtain ⟨tail, hcons⟩ := hcons
  rw [htext]
  refine ⟨⟨'[', tail, hcons, by decide, by decide, by decide⟩, fun blanks rest hb _ => ?_⟩
  have hr := hread rest
  rw [hcons, utf8_cons_of_ascii (by decide), List.cons_append] at hr ⊢
  simp only [list]
  rw [Reader.bind_eq (opening_array hb _)]
  exact hr

end Format

/-! ## Records -/

/-- An object opens with a brace, after which its members are folded into a state. -/
lemma reads_object {σ α : Type} {member : σ → Reader σ} {s t : σ} {members : List (String × Value)}
    {level : Nat} {r : Reader α} {a : α}
    (h : Folds member s (members.map (memberText (level + 1))) t)
    (hr : ∀ blanks input rest, (∀ b ∈ blanks, isSpace b = true) →
      Reader.object member s (openBrace :: input) = .ok (t, rest) →
      r (blanks ++ openBrace :: input) = .ok (a, rest)) :
    Reads r (pretty level (.object members)) a := by
  have htext : pretty level (.object members) =
      bracketed level '\x7b' '\x7d' (members.map (memberText (level + 1))) := by
    rw [pretty, prettyMembers_eq_map]
  have hread := Reader.object_bracketed level h
  have hcons : ∃ tail, bracketed level '\x7b' '\x7d' (members.map (memberText (level + 1))) =
      '\x7b' :: tail := by
    cases members with
    | nil => exact ⟨_, rfl⟩
    | cons m members => exact ⟨_, by rw [List.map_cons, bracketed_cons]⟩
  obtain ⟨tail, hcons⟩ := hcons
  rw [htext]
  refine ⟨⟨'\x7b', tail, hcons, by decide, by decide, by decide⟩, fun blanks rest hb _ => ?_⟩
  have hobject := hread rest
  rw [hcons, utf8_cons_of_ascii (by decide), List.cons_append] at hobject ⊢
  exact hr blanks _ rest hb hobject

lemma colon_cons (rest : List UInt8) : Reader.colon (byte ':' :: rest) = .ok ((), rest) := by
  rw [Reader.colon, Reader.bind_eq (Reader.peek_cons (by decide) _)]
  rfl

lemma utf8_memberText (level : Nat) (m : String × Value) (rest : List UInt8) :
    utf8 (memberText level m) ++ rest =
      utf8 (Printer.string m.1) ++ (byte ':' :: byte ' ' :: (utf8 (pretty level m.2) ++ rest)) := by
  rw [memberText, utf8_append, utf8_cons_of_ascii (by decide), utf8_cons_of_ascii (by decide)]
  simp

lemma Format.Restores.takes_after_colon {α : Type} {f : Format α} {v : Value} {a : α}
    (h : f.Restores v a) (level : Nat) {rest : List UInt8} (hr : Ends rest) :
    f.read (byte ' ' :: (utf8 (pretty level v) ++ rest)) = .ok (a, rest) :=
  (h level).takes [byte ' '] rest (fun b hb => by rw [List.mem_singleton.1 hb]; rfl) hr

/-- Members that give the fields of a record one after another, from one record to another. -/
inductive Fills {ρ : Type} : List (Field ρ) → List (String × Value) → ρ → ρ → Prop where
  | nil (a : ρ) : Fills [] [] a a
  | cons {field : Field ρ} {fields : List (Field ρ)} {v : Value}
      {members : List (String × Value)} {set : ρ → ρ} {a b : ρ}
      (restores : field.format.Restores v set) (more : Fills fields members (set a) b) :
      Fills (field :: fields) ((field.name, v) :: members) a b

namespace Shape

variable {ρ : Type} (shape : Shape ρ)

/-- The field of a name. -/
def field? (name : String) : Option (Field ρ) :=
  shape.fields.find? fun field => field.name = name

lemma find?_of_nodup {fields : List (Field ρ)} (h : (fields.map (·.name)).Nodup)
    {field : Field ρ} (hf : field ∈ fields) :
    fields.find? (fun f => f.name = field.name) = some field := by
  induction fields with
  | nil => simp at hf
  | cons f fields ih =>
    rw [List.map_cons, List.nodup_cons] at h
    rcases List.mem_cons.1 hf with rfl | hf
    · simp
    · have hne : f.name ≠ field.name := fun he =>
        h.1 (he ▸ List.mem_map_of_mem (f := (·.name)) hf)
      rw [List.find?_cons_of_neg (by simpa using hne)]
      exact ih h.2 hf

lemma readMember_memberText {field : Field ρ} (hf : shape.field? field.name = some field)
    {v : Value} {set : ρ → ρ} (h : field.format.Restores v set) {seen : List String}
    (hseen : field.name ∉ seen) (record : ρ) (level : Nat) {rest : List UInt8} (hr : Ends rest) :
    shape.readMember ⟨seen, record⟩ (utf8 (memberText level (field.name, v)) ++ rest) =
      .ok (⟨field.name :: seen, set record⟩, rest) := by
  have hcontains : seen.contains field.name = false := by simpa using hseen
  rw [utf8_memberText, readMember, Reader.bind_eq (Format.key_string _ _)]
  simp only [show shape.fields.find? (fun f => f.name = field.name) = some field from hf,
    hcontains, Bool.false_eq_true, if_false]
  rw [Reader.bind_eq (colon_cons _), Reader.bind_eq (h.takes_after_colon level hr)]
  rfl

lemma folds_of_fills (level : Nat) {fields : List (Field ρ)} {members : List (String × Value)}
    {a b : ρ} (h : Fills fields members a b)
    (hfields : ∀ field ∈ fields, shape.field? field.name = some field)
    (hnodup : (fields.map (·.name)).Nodup) {seen : List String}
    (hseen : ∀ field ∈ fields, field.name ∉ seen) :
    Folds shape.readMember ⟨seen, a⟩ (members.map (memberText level))
      ⟨(fields.map (·.name)).reverse ++ seen, b⟩ := by
  induction h generalizing seen with
  | nil a => exact .nil _
  | @cons field fields v members set a b restores more ih =>
    rw [List.map_cons, List.nodup_cons] at hnodup
    have hrest : ∀ f ∈ fields, f.name ∉ field.name :: seen := by
      intro f hf hmem
      rcases List.mem_cons.1 hmem with he | hmem
      · exact hnodup.1 (he ▸ List.mem_map_of_mem (f := (·.name)) hf)
      · exact hseen f (by simp [hf]) hmem
    have htail := ih (fun f hf => hfields f (by simp [hf])) hnodup.2 hrest
    have hstate : ((field :: fields).map (·.name)).reverse ++ seen =
        (fields.map (·.name)).reverse ++ field.name :: seen := by simp
    rw [hstate]
    exact .cons rfl (fun rest hr => shape.readMember_memberText (hfields field (by simp)) restores
      (hseen field (by simp)) a level hr) htail

/-- A record is restored from an object that gives all of its fields. -/
theorem restores {members : List (String × Value)} {a : ρ}
    (hnodup : (shape.fields.map (·.name)).Nodup)
    (h : Fills shape.fields members shape.blank a) :
    shape.format.Restores (.object members) a := by
  intro level
  have hfolds := shape.folds_of_fills (level + 1) h (fun f => find?_of_nodup hnodup) hnodup
    fun _ _ => List.not_mem_nil
  have hfinish : shape.finish ⟨(shape.fields.map (·.name)).reverse ++ [], a⟩ = .ok a := by
    have hnone : shape.fields.find? (fun field : Field ρ => field.fallback = .required &&
        !((shape.fields.map fun f : Field ρ => f.name).reverse ++ []).contains field.name) =
          none := by
      rw [List.find?_eq_none]
      intro field hf
      have hmem : field.name ∈ shape.fields.map fun f : Field ρ => f.name :=
        List.mem_map_of_mem hf
      simp only [List.append_nil, List.contains_reverse, List.contains_iff_mem.2 hmem]
      simp
    simp only [finish, hnone]
  refine reads_object hfolds fun blanks input rest hb hobject => ?_
  simp only [format]
  rw [Reader.bind_eq (opening_object hb _)]
  simp only
  rw [Reader.bind_eq hobject, hfinish]
  rfl

end Shape

/-! ## Maps -/

namespace Format

lemma standsForItself_of_isDigit {c : Char} (h : c.isDigit = true) :
    Reader.standsForItself c = true := by
  have hne (d : Char) (hd : d.isDigit = false) : c ≠ d := by
    rintro rfl
    rw [h] at hd
    contradiction
  simp only [Char.isDigit, Bool.and_eq_true, decide_eq_true_eq] at h
  have h0 : 48 ≤ c.toNat := h.1
  have hcontrol : ¬ c.toNat < 0x20 := by omega
  simp [Reader.standsForItself, hne '"' (by decide), hne '\\' (by decide), hcontrol]

lemma utf8_string_digits (n : Nat) (rest : List UInt8) :
    utf8 (Printer.string (toString n)) ++ rest =
      byte '"' :: (decimalText n ++ byte '"' :: rest) := by
  have hescape : (Nat.toDigits 10 n).flatMap Printer.escape = Nat.toDigits 10 n := by
    have hall : ∀ c ∈ Nat.toDigits 10 n, Printer.escape c = [c] := fun c hc =>
      Reader.escape_eq_singleton (standsForItself_of_isDigit
        (Nat.isDigit_of_mem_toDigits (by omega) (by omega) hc))
    rw [List.flatMap_def, List.map_congr_left hall, ← List.flatMap_def, List.flatMap_singleton']
  rw [utf8_string, Nat.toString_eq_ofList_toDigits, String.toList_ofList, hescape]
  rfl

lemma readNumericKey_digits (expected : String) (n : UInt64) (rest : List UInt8) :
    readNumericKey expected (utf8 (Printer.string (toString n.toNat)) ++ rest) =
      .ok (n, rest) := by
  obtain ⟨b, hhead, hdigit⟩ := Numeral.head_append_decimalText n.toNat (byte '"' :: rest)
  have hread := (restores_unsigned expected n 0).takes [] (byte '"' :: rest) (by simp)
    (ends_cons (by simp) _)
  rw [utf8_string_digits, readNumericKey, Reader.bind_eq (Reader.skip_cons _ _),
    Reader.bind_eq (r := get) rfl]
  simp only [hhead, hdigit, Bool.or_true, Bool.not_true, Bool.false_eq_true, if_false]
  change (unsigned expected).read (decimalText n.toNat ++ byte '"' :: rest) = _ at hread
  rw [Reader.bind_eq hread]
  rfl

/-- A map is restored entry by entry. -/
theorem restores_numericMap {α σ : Type} (expected : String) {format : Format α}
    {write : α → Value} (insert : UInt64 → α → σ → σ) (empty : σ) {entries : List (UInt64 × α)}
    (h : ∀ e ∈ entries, format.Restores (write e.2) e.2) :
    (numericMap expected format insert empty).Restores
      (.object (entries.map fun e => (toString e.1.toNat, write e.2)))
      (entries.foldl (fun s e => insert e.1 e.2 s) empty) := by
  intro level
  have hfolds (s : σ) : Folds (fun s => do
        let key ← readNumericKey expected
        Reader.colon
        return insert key (← format.read) s) s
      ((entries.map fun e => (toString e.1.toNat, write e.2)).map (memberText (level + 1)))
      (entries.foldl (fun s e => insert e.1 e.2 s) s) := by
    induction entries generalizing s with
    | nil => exact .nil _
    | cons e entries ih =>
      refine .cons rfl (fun rest hr => ?_) (ih (fun d hd => h d (by simp [hd])) _)
      rw [utf8_memberText, Reader.bind_eq (readNumericKey_digits expected e.1 _),
        Reader.bind_eq (colon_cons _),
        Reader.bind_eq ((h e (by simp)).takes_after_colon (level + 1) hr)]
      rfl
  refine reads_object (hfolds empty) fun blanks input rest hb hobject => ?_
  simp only [numericMap]
  rw [Reader.bind_eq (opening_object hb _)]
  exact hobject

end Format

end ZoneGate.Json
