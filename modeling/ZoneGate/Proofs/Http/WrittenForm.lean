import Mathlib.Data.Bool.AllAny
import ZoneGate.Http.Message
import ZoneGate.Http.Wire
import ZoneGate.Proofs.Text.Digits

/-!
# Answers read back

The headers of an answer come off the wire as they were put on it, without the blanks around their
values. No value can end its line early, so no header is read that was not written. What is read as
a value can be sent as one.
-/
namespace ZoneGate.Http

open Text

/-! ## Names and values -/

namespace Header

/-- A name that may stand before a value, in small letters. -/
def isName (name : String) : Bool :=
  !name.isEmpty && name.length ≤ maxNameLength && name.toList.all isNameChar &&
    name.toList.map lowerChar == name.toList

/-- A header that can be sent as it is. -/
def Sendable (h : Header) : Prop :=
  isName h.name = true ∧ ∀ b ∈ h.value, isValueByte b = true

lemma toNat_of_isNameChar {c : Char} (h : isNameChar c = true) :
    c.toNat < 128 ∧ c.toNat ≠ 10 ∧ c.toNat ≠ 58 := by
  simp only [isNameChar, Bool.or_eq_true, List.contains_iff_mem] at h
  rcases h with halnum | hmark
  · have hrange := isAlphanum_iff.1 halnum
    omega
  · have hmarks : ∀ d ∈ "!\"#$%&'*+-.^_`|~".toList,
        d.toNat < 128 ∧ d.toNat ≠ 10 ∧ d.toNat ≠ 58 := List.all_iff_forall_prop.1 (by decide)
    exact hmarks c hmark

/-- A name neither ends its line nor itself. -/
lemma ne_of_mem_name {name : String} (h : isName name = true) {b : UInt8}
    (hb : b ∈ bytes name) : b ≠ Wire.lineFeed ∧ b ≠ byte ':' := by
  simp only [isName, Bool.and_eq_true, List.all_eq_true] at h
  have hchar : ∀ c ∈ name.toList, c.toNat < 128 ∧ c.toNat ≠ 10 ∧ c.toNat ≠ 58 :=
    fun c hc => toNat_of_isNameChar (h.1.2 c hc)
  rw [← String.ofList_toList (s := name), bytes_ofList,
    utf8_of_ascii fun c hc => (hchar c hc).1] at hb
  obtain ⟨c, hc, rfl⟩ := List.mem_map.1 hb
  obtain ⟨hascii, hline, hcolon⟩ := hchar c hc
  have hbyte := toNat_byte hascii
  constructor
  · intro heq
    rw [heq] at hbyte
    exact hline hbyte.symm
  · intro heq
    rw [heq] at hbyte
    exact hcolon hbyte.symm

/-- Visible ASCII and the space may stand in any value, and are text. -/
lemma isTextByte_of_toNat {b : UInt8} (h : 32 ≤ b.toNat ∧ b.toNat < 127) :
    isTextByte b = true := by
  have hspace : (0x20 : UInt8) ≤ b := UInt8.le_iff_toNat_le.2 h.1
  have hdelete : b < (0x7F : UInt8) := UInt8.lt_iff_toNat_lt.2 h.2
  simp [isTextByte, hspace, hdelete]

lemma isValueByte_of_isTextByte {b : UInt8} (h : isTextByte b = true) : isValueByte b = true := by
  simp only [isTextByte, isValueByte, Bool.or_eq_true, Bool.and_eq_true, decide_eq_true_eq] at h ⊢
  exact h.imp_left fun ⟨hspace, hdelete⟩ => ⟨hspace, UInt8.ne_of_lt hdelete⟩

lemma of?_eq {name : String} {value : List UInt8} (h : Sendable ⟨name, value⟩) :
    of? name value = some ⟨name, value⟩ := by
  obtain ⟨hname, hvalue⟩ := h
  simp only [isName, Bool.and_eq_true, Bool.not_eq_true', decide_eq_true_eq, beq_iff_eq] at hname
  obtain ⟨⟨⟨hfilled, hlength⟩, hchars⟩, hlower⟩ := hname
  have hlong : ¬ maxNameLength < name.length := Nat.not_lt.2 hlength
  have hbytes : value.all isValueByte = true := List.all_eq_true.2 hvalue
  simp only [of?, hfilled, hlong, hchars, hbytes, hlower, String.ofList_toList, decide_false,
    Bool.not_true, Bool.or_false, Bool.false_eq_true, if_false]

end Header

/-! ## Lines -/

namespace Wire

lemma mem_of_mem_trimmed {value : List UInt8} {b : UInt8} (h : b ∈ trimmed value) : b ∈ value := by
  have hfront := (List.dropWhile_suffix isBlank).subset (List.mem_reverse.1 h)
  exact (List.dropWhile_suffix isBlank).subset (List.mem_reverse.1 hfront)

lemma trimmed_eq_self {value : List UInt8} (h : ∀ b ∈ value, isBlank b = false) :
    trimmed value = value := by
  have hkeep {bs : List UInt8} (hbs : ∀ b ∈ bs, isBlank b = false) :
      bs.dropWhile isBlank = bs := by
    cases bs with
    | nil => rfl
    | cons b bs => simp [hbs b (by simp)]
  rw [trimmed, hkeep h, hkeep fun b hb => h b (List.mem_reverse.1 hb), List.reverse_reverse]

/-- A header as it is read. -/
def received (h : Header) : Header := ⟨h.name, trimmed h.value⟩

/-- The line of a header without its end. -/
def line (h : Header) : List UInt8 := bytes h.name ++ bytes ": " ++ h.value

variable {h : Header}

lemma lineFeed_notMem_line (hsend : h.Sendable) : lineFeed ∉ line h := by
  intro hmem
  rcases List.mem_append.1 hmem with hmem | hmem
  · rcases List.mem_append.1 hmem with hmem | hmem
    · exact (Header.ne_of_mem_name hsend.1 hmem).1 rfl
    · revert hmem
      decide
  · have hvalue := hsend.2 _ hmem
    revert hvalue
    decide

lemma header?_line (hsend : h.Sendable) : header? (line h) = some (received h) := by
  have hname : ∀ b ∈ bytes h.name, decide (b ≠ byte ':') = true :=
    fun b hb => decide_eq_true (Header.ne_of_mem_name hsend.1 hb).2
  have hline : line h = bytes h.name ++ byte ':' :: byte ' ' :: h.value := by
    simp [line, show bytes ": " = [byte ':', byte ' '] from rfl]
  have hblank : trimmed (byte ' ' :: h.value) = trimmed h.value := by
    rw [trimmed, List.dropWhile_cons_of_pos (by decide)]
    rfl
  have htrimmed : Header.of? h.name (trimmed h.value) = some (received h) :=
    Header.of?_eq ⟨hsend.1, fun b hb => hsend.2 b (mem_of_mem_trimmed hb)⟩
  rw [header?, hline, List.takeWhile_append_of_pos hname, List.dropWhile_append_of_pos hname]
  simp [hblank, htrimmed]

/-- Headers are read up to the empty line after them, one line each. -/
theorem headers_lines {hs : List Header} (hsend : ∀ h ∈ hs, h.Sendable) (body : List UInt8) :
    headers (hs.flatMap (fun h => line h ++ newLine) ++ newLine ++ body) =
      .complete (hs.map received, body) := by
  induction hs with
  | nil =>
    have hline : line? (newLine ++ body) = some ([], body) :=
      line?_append_newLine (List.not_mem_nil) body
    rw [List.flatMap_nil, List.nil_append, headers]
    split <;> simp_all
  | cons h hs ih =>
    obtain ⟨hfirst, hothers⟩ := List.forall_mem_cons.1 hsend
    have hline : line? ((h :: hs).flatMap (fun h => line h ++ newLine) ++ newLine ++ body) =
        some (line h, hs.flatMap (fun h => line h ++ newLine) ++ newLine ++ body) := by
      rw [List.flatMap_cons]
      simpa using line?_append_newLine (lineFeed_notMem_line hfirst)
        (hs.flatMap (fun h => line h ++ newLine) ++ newLine ++ body)
    have hne : line h ≠ [] := by simp [line, show bytes ": " = [byte ':', byte ' '] from rfl]
    rw [headers]
    split
    · simp_all
    · simp_all
    · rename_i first rest _ heq
      rw [hline] at heq
      obtain ⟨rfl, rfl⟩ := Prod.mk.inj (Option.some.inj heq)
      rw [header?_line hfirst, ih hothers]
      rfl

end Wire

namespace Wire

/-! ## Values off the wire -/

lemma Arrival.bind_eq_complete {α β : Type} {a : Arrival α} {f : α → Arrival β} {value : β} :
    a.bind f = .complete value ↔ ∃ x, a = .complete x ∧ f x = .complete value := by
  cases a <;> simp [Arrival.bind]

lemma Arrival.ofOption_eq_complete {α : Type} {o : Option α} {value : α} :
    Arrival.ofOption o = .complete value ↔ o = some value := by
  cases o <;> simp [Arrival.ofOption]

/-- A value that is read can be sent again. -/
lemma isValueByte_of_header? {line : List UInt8} {h : Header} (hread : header? line = some h) :
    ∀ b ∈ h.value, Header.isValueByte b = true := by
  unfold header? at hread
  obtain ⟨name, -, hread⟩ := Option.bind_eq_some_iff.1 hread
  split at hread
  · cases hread
  · unfold Header.of? at hread
    split at hread
    · cases hread
    · rename_i hvalid
      obtain rfl := Option.some.inj hread
      simp only [Bool.or_eq_true, not_or, Bool.not_eq_true, Bool.not_eq_false'] at hvalid
      exact List.all_eq_true.1 hvalid.2

theorem isValueByte_of_headers {input body : List UInt8} {hs : List Header}
    (hread : headers input = .complete (hs, body)) :
    ∀ h ∈ hs, ∀ b ∈ h.value, Header.isValueByte b = true := by
  induction input using headers.induct generalizing hs body with
  | case1 input hline =>
    rw [headers] at hread
    split at hread <;> simp_all
  | case2 input rest hline =>
    rw [headers] at hread
    split at hread
    · simp_all
    · obtain ⟨rfl, -⟩ := Prod.mk.inj (Arrival.complete.inj hread)
      simp
    · simp_all
  | case3 input line rest hne hline ih =>
    rw [headers] at hread
    split at hread
    · simp_all
    · simp_all
    · rename_i first after _ heq
      obtain ⟨rfl, rfl⟩ := Prod.mk.inj (Option.some.inj (hline.symm.trans heq))
      obtain ⟨h, hfirst, hread⟩ := Arrival.bind_eq_complete.1 hread
      obtain ⟨⟨more, rest⟩, hmore, hread⟩ := Arrival.bind_eq_complete.1 hread
      obtain ⟨rfl, rfl⟩ := Prod.mk.inj (Arrival.complete.inj hread)
      exact List.forall_mem_cons.2
        ⟨isValueByte_of_header? (Arrival.ofOption_eq_complete.1 hfirst), ih hmore⟩

end Wire

/-! ## Answers -/

/-- The headers of a response. -/
def Response.headers (r : Response) : List Header :=
  r.contentType.toList.map (⟨"content-type", ·⟩) ++
    (r.allow.toList.map fun methods => ⟨"allow", bytes methods⟩) ++
      [⟨RequestId.headerName, bytes r.requestId⟩]

namespace Wire

/-- The headers that tell where an answer ends. -/
def framingHeaders (asked : Method) (r : Response) : List Header :=
  (if isBodiless asked r.status then []
    else [⟨"content-length", bytes (toString r.body.length)⟩]) ++
    [⟨"connection", bytes "close"⟩]

lemma answer_eq (asked : Method) (r : Response) :
    answer asked r = bytes ("HTTP/1.1 " ++ toString r.status ++ " ") ++ newLine ++
      ((r.headers ++ framingHeaders asked r).flatMap (fun h => line h ++ newLine) ++ newLine ++
        if isBodiless asked r.status then [] else r.body) := by
  have hline (h : Header) : headerLine h.name h.value = line h ++ newLine := by
    simp [headerLine, line]
  simp only [answer, message, Response.headers, framingHeaders, ← hline, RequestId.headerName]
  cases r.contentType <;> cases r.allow <;> cases isBodiless asked r.status <;>
    simp [List.flatMap]

lemma isTextByte_of_isDigit {b : UInt8} (h : isDigit b = true) : Header.isTextByte b = true := by
  simp only [isDigit, Bool.and_eq_true, decide_eq_true_eq, UInt8.le_iff_toNat_le] at h
  change 48 ≤ b.toNat ∧ b.toNat ≤ 57 at h
  exact Header.isTextByte_of_toNat (by omega)

lemma bytes_toString (n : Nat) : bytes (toString n) = decimalText n := by
  rw [Nat.toString_eq_ofList_toDigits, bytes_ofList, decimalText]

lemma sendable_framingHeaders (asked : Method) (r : Response) :
    ∀ h ∈ framingHeaders asked r, h.Sendable := by
  have hclose : Header.Sendable ⟨"connection", bytes "close"⟩ :=
    ⟨by decide, List.all_eq_true.1 (by decide)⟩
  have hname : Header.isName "content-length" = true := by decide
  have hlength : Header.Sendable ⟨"content-length", bytes (toString r.body.length)⟩ :=
    ⟨hname, fun b hb => Header.isValueByte_of_isTextByte (isTextByte_of_isDigit
      (isDigit_of_mem_decimalText (bytes_toString _ ▸ hb)))⟩
  intro h hmem
  unfold framingHeaders at hmem
  split at hmem
  · obtain rfl : h = _ := by simpa using hmem
    exact hclose
  · rcases List.mem_cons.1 hmem with rfl | hmem
    · exact hlength
    · obtain rfl : h = _ := by simpa using hmem
      exact hclose

/-- An answer is read back with the headers of the response, and those that frame it. -/
theorem headers_answer (asked : Method) {r : Response} (hsend : ∀ h ∈ r.headers, h.Sendable) :
    ∃ first rest body, line? (answer asked r) = some (first, rest) ∧
      headers rest = .complete ((r.headers ++ framingHeaders asked r).map received, body) := by
  have hall : ∀ h ∈ r.headers ++ framingHeaders asked r, h.Sendable := by
    intro h hmem
    rcases List.mem_append.1 hmem with hmem | hmem
    · exact hsend h hmem
    · exact sendable_framingHeaders asked r h hmem
  have hfirst : lineFeed ∉ bytes ("HTTP/1.1 " ++ toString r.status ++ " ") := by
    rw [← String.ofList_toList (s := "HTTP/1.1 " ++ _ ++ " "), bytes_ofList]
    simp only [String.toList_append, utf8_append, List.mem_append, not_or,
      Nat.toString_eq_ofList_toDigits, String.toList_ofList]
    refine ⟨⟨by decide, fun hmem => ?_⟩, by decide⟩
    have hdigit := isDigit_of_mem_decimalText hmem
    revert hdigit
    decide
  rw [answer_eq]
  exact ⟨_, _, _, line?_append_newLine hfirst _, headers_lines hall _⟩

end Wire

end ZoneGate.Http
