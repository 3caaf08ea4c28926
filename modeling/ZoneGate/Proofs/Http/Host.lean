import Mathlib.Data.Bool.AllAny
import Mathlib.Data.List.DropRight
import Mathlib.Data.Option.Basic
import ZoneGate.Http.Url
import ZoneGate.Proofs.Text.Split
import ZoneGate.Proofs.Text.Utf8

/-!
# The host of an address

Which host an address names is told by what stands between its first slashes and the next one. More
text at the end of an address does not change that as long as there is such a host at all; where
there is none, the host is taken from the text that follows.
-/
namespace ZoneGate.Http.Url

/-! ## Ends of lists -/

section Ends

variable {α : Type} {p : α → Bool}

lemma rdropWhile_append_cons {c : α} (hc : p c = false) (front back : List α) :
    (front ++ c :: back).rdropWhile p = front ++ c :: back.rdropWhile p := by
  have hback : (back.reverse ++ c :: front.reverse).dropWhile p =
      back.reverse.dropWhile p ++ c :: front.reverse := by
    rw [List.dropWhile_append]
    split
    · rename_i hempty
      rw [List.isEmpty_iff.1 hempty, List.dropWhile_cons_of_neg (by simp [hc]), List.nil_append]
    · rfl
  simp [List.rdropWhile, hback]

lemma rdropWhile_append_of_ne_nil {back : List α} (hback : back.rdropWhile p ≠ [])
    (front : List α) : (front ++ back).rdropWhile p = front ++ back.rdropWhile p := by
  have hne : back.reverse.dropWhile p ≠ [] := fun hnil => hback (by rw [List.rdropWhile, hnil]; rfl)
  rw [List.rdropWhile, List.reverse_append, List.dropWhile_append, if_neg (by simpa using hne),
    List.reverse_append, List.reverse_reverse, List.rdropWhile]

end Ends

/-! ## What counts in an address -/

/-- A control or a space, which does not count at the two ends. -/
def isEdge (c : Char) : Bool := c.toNat ≤ 0x20

/-- Neither a line break nor a tab, which do not count anywhere. -/
def isKept (c : Char) : Bool := c ≠ '\t' && c ≠ '\n' && c ≠ '\r'

/-- What ends an authority. -/
def isEnd (c : Char) : Bool := isSlash c || c = '?' || c = '#'

/-- A text without what does not count at its end and within it. -/
def kept (cs : List Char) : List Char := (cs.rdropWhile isEdge).filter isKept

/-- The text of a host behind slashes. -/
def behind (cs : List Char) : List Char := (cs.dropWhile isSlash).takeWhile (!isEnd ·)

/-- The text of the host in an address, given what follows the colon after the scheme. -/
def hostText (cs : List Char) : List Char := behind (kept cs)

/-- The scheme of an address of the web with the colon after it. -/
def webScheme (secure : Bool) : List Char := (if secure then "https:" else "http:").toList

lemma clean_eq (cs : List Char) : clean cs = kept (cs.dropWhile isEdge) := rfl

lemma kept_append_cons {c : Char} (hc : isEdge c = false) (hkept : isKept c = true)
    (cs ds : List Char) : kept (cs ++ c :: ds) = cs.filter isKept ++ c :: kept ds := by
  rw [kept, rdropWhile_append_cons hc, List.filter_append, List.filter_cons_of_pos hkept, kept]

lemma kept_cons_slash (cs : List Char) : kept ('/' :: cs) = '/' :: kept cs :=
  kept_append_cons (by decide) (by decide) [] cs

lemma clean_webScheme (secure : Bool) (cs : List Char) :
    clean (webScheme secure ++ cs) = webScheme secure ++ kept cs := by
  have hcolon (scheme : List Char) (hscheme : scheme.filter isKept = scheme) :
      kept (scheme ++ ':' :: cs) = scheme ++ ':' :: kept cs := by
    rw [kept_append_cons (by decide) (by decide), hscheme]
  have hbegins : (webScheme secure ++ cs).dropWhile isEdge = webScheme secure ++ cs := by
    cases secure <;> rfl
  rw [clean_eq, hbegins]
  cases secure with
  | true => exact hcolon "https".toList (by decide)
  | false => exact hcolon "http".toList (by decide)

lemma scheme?_webScheme (secure : Bool) (cs : List Char) :
    scheme? (webScheme secure ++ cs) = some (if secure then "https" else "http", cs) := by
  cases secure <;> rfl

/-- An address of the web is read from its host on. -/
theorem parse?_webScheme (secure : Bool) (cs : List Char) :
    parse? (String.ofList (webScheme secure ++ cs)) =
      afterSlashes? secure ((kept cs).dropWhile isSlash) := by
  have hsecure : secure? (if secure then "https" else "http") = some secure := by
    cases secure <;> rfl
  rw [parse?, String.toList_ofList, clean_webScheme, scheme?_webScheme]
  simp [hsecure]

/-! ## Hosts -/

lemma authority_of_afterSlashes? {secure : Bool} {cs : List Char} {u : Url}
    (h : afterSlashes? secure cs = some u) :
    u.secure = secure ∧ authority? secure (cs.takeWhile (!isEnd ·)) = some u.authority := by
  obtain ⟨authority, hauthority, h⟩ := Option.bind_eq_some_iff.1 h
  obtain rfl := Option.some.inj h
  exact ⟨rfl, hauthority⟩

lemma exists_afterSlashes? {secure : Bool} {cs : List Char} {authority : String}
    (h : authority? secure (cs.takeWhile (!isEnd ·)) = some authority) :
    ∃ u, afterSlashes? secure cs = some u :=
  ⟨_, Option.bind_eq_some_iff.2 ⟨authority, h, rfl⟩⟩

lemma toLower_of_isEdge {c : Char} (h : isEdge c = true) : c.toLower = c := by
  have hlow : c.toNat ≤ 32 := of_decide_eq_true h
  refine dif_neg fun hupper => ?_
  have hcapital := UInt32.le_iff_toNat_le.1 hupper.1
  change 65 ≤ c.toNat at hcapital
  omega

lemma isHost_concat {c : Char} (hc : isEdge c = true) (cs : List Char) :
    isHost (cs ++ [c]) = false := by
  have hlow : c.toNat ≤ 32 := of_decide_eq_true hc
  have hmarks : ∀ d ∈ ']' :: "-._~!$&'()*+,;=".toList, 32 < d.toNat :=
    List.all_iff_forall_prop.1 (by decide)
  have hchar : ¬ isHostChar c = true := by
    simp only [isHostChar, Bool.or_eq_true, Text.isAlphanum_iff, List.contains_iff_mem]
    rintro (hrange | hmark)
    · omega
    · exact absurd (hmarks c (List.mem_cons_of_mem _ hmark)) (by omega)
  unfold isHost
  split
  · rename_i rest hrest
    have hlast : rest.getLast? ≠ some ']' := by
      intro hbracket
      have hends := congrArg List.getLast? hrest
      rw [List.getLast?_concat, List.getLast?_cons, hbracket] at hends
      obtain rfl : c = ']' := Option.some.inj hends
      exact absurd hlow (by decide)
    simp [hlast]
  · simp [hchar]

/-- No host ends in a control or a space. -/
lemma authority?_concat {c : Char} (hc : isEdge c = true) (secure : Bool) (cs : List Char) :
    authority? secure (cs ++ [c]) = none := by
  have hlow : c.toNat ≤ 32 := of_decide_eq_true hc
  have hne {d : Char} (hd : 32 < d.toNat) : c ≠ d := by
    rintro rfl
    omega
  have hdigit : c.isDigit = false := by
    refine Bool.eq_false_iff.2 fun hdigit => ?_
    have hrange := Text.isAlphanum_iff.1 (show c.isAlphanum = true by
      simp [Char.isAlphanum, hdigit])
    omega
  obtain ⟨part, hsplit⟩ := Text.getLast?_splitAt_concat (hne (by decide : 32 < '@'.toNat)) cs
  have hisHost := isHost_concat hc (part.map Char.toLower)
  simp [authority?, hsplit, toLower_of_isEdge hc, hdigit, hne (by decide : 32 < ':'.toNat), hisHost]

lemma authority?_nil (secure : Bool) : authority? secure [] = none := by
  cases secure <;> rfl

section Read

variable {secure : Bool} {cs : List Char} {u : Url}
  (h : parse? (String.ofList (webScheme secure ++ cs)) = some u)

include h

lemma authority?_of_parse? :
    u.secure = secure ∧ authority? secure (hostText cs) = some u.authority := by
  rw [parse?_webScheme] at h
  exact authority_of_afterSlashes? h

lemma hostText_ne_nil : hostText cs ≠ [] := by
  intro hnil
  have hauthority := (authority?_of_parse? h).2
  rw [hnil, authority?_nil] at hauthority
  cases hauthority

end Read

/-- How many slashes follow the scheme does not matter. -/
lemma parse?_cons_slash (secure : Bool) (cs : List Char) :
    parse? (String.ofList (webScheme secure ++ '/' :: cs)) =
      parse? (String.ofList (webScheme secure ++ cs)) := by
  rw [parse?_webScheme, parse?_webScheme, kept_cons_slash, List.dropWhile_cons_of_pos (by decide)]

/-! ## Text behind a host -/

/-- Text behind a slash is not looked at, and blanks before it are. -/
lemma behind_append {cs blanks : List Char} (hcs : cs.dropWhile isSlash ≠ [])
    (hblanks : ∀ c ∈ blanks, isEnd c = false) (rest : List Char) :
    behind (cs ++ blanks ++ '/' :: rest) = behind cs ∨
      behind (cs ++ blanks ++ '/' :: rest) = behind cs ++ blanks := by
  have hends : (blanks ++ '/' :: rest).takeWhile (!isEnd ·) = blanks := by
    rw [List.takeWhile_append_of_pos fun c hc => by simp [hblanks c hc],
      List.takeWhile_cons_of_neg (by decide), List.append_nil]
  rw [behind, List.append_assoc, List.dropWhile_append, if_neg (by simpa using hcs),
    List.takeWhile_append, hends]
  split
  · rename_i hwhole
    right
    rw [behind, (List.takeWhile_prefix _).eq_of_length hwhole]
  · exact .inl rfl

lemma behind_append_slash {cs : List Char} (hcs : cs.dropWhile isSlash ≠ []) (rest : List Char) :
    behind (cs ++ '/' :: rest) = behind cs := by
  have hnone : ∀ c ∈ ([] : List Char), isEnd c = false := by simp
  simpa using behind_append hcs hnone rest

lemma isEnd_of_isEdge {c : Char} (h : isEdge c = true) : isEnd c = false := by
  have hmarks : ∀ d ∈ ['/', '\\', '?', '#'], isEdge d = false :=
    List.all_iff_forall_prop.1 (by decide)
  have hne {d : Char} (hd : d ∈ ['/', '\\', '?', '#']) : c ≠ d := by
    rintro rfl
    simp [hmarks c hd] at h
  simp [isEnd, isSlash, hne]

section Join

variable {secure : Bool} {front slashes : List Char} (hslashes : ∀ c ∈ slashes, c = '/')

include hslashes

/-- Where slashes at the end give way to a slash and more text, the text of the host stays, but for
blanks that were at the end of the address. -/
theorem hostText_join (hhost : hostText (front ++ slashes) ≠ []) (rest : List Char) :
    ∃ blanks, hostText (front ++ '/' :: rest) = hostText (front ++ slashes) ++ blanks ∧
      (∀ c ∈ blanks, isEdge c = true) ∧
      (blanks ≠ [] → ∃ c, (front ++ slashes).getLast? = some c ∧ isEdge c = true) := by
  have hslash (cs : List Char) :
      hostText (front ++ '/' :: cs) = behind (front.filter isKept ++ '/' :: kept cs) := by
    rw [hostText, kept_append_cons (by decide) (by decide)]
  have hmeets {cs : List Char} (h : behind cs ≠ []) : cs.dropWhile isSlash ≠ [] :=
    fun hnil => h (by rw [behind, hnil]; rfl)
  rw [hslash]
  cases slashes with
  | nil =>
    rw [List.append_nil] at hhost ⊢
    have hfront : front.filter isKept =
        kept front ++ (front.rtakeWhile isEdge).filter isKept := by
      rw [kept, ← List.filter_append, List.rdropWhile_append_rtakeWhile]
    have hedges : ∀ c ∈ (front.rtakeWhile isEdge).filter isKept, isEdge c = true :=
      fun c hc => List.mem_rtakeWhile_imp (List.mem_of_mem_filter hc)
    rw [hfront]
    rcases behind_append (hmeets hhost) (fun c hc => isEnd_of_isEdge (hedges c hc)) (kept rest)
      with hsame | hmore
    · exact ⟨[], by rw [hsame, List.append_nil]; rfl, by simp, by simp⟩
    · refine ⟨_, hmore, hedges, fun hne => ?_⟩
      have hends : front.rtakeWhile isEdge ≠ [] := fun hnil => hne (by rw [hnil]; rfl)
      obtain ⟨hfilled, hlast⟩ := not_forall.1 fun h => hends (List.rtakeWhile_eq_nil_iff.2 h)
      exact ⟨_, List.getLast?_eq_some_getLast hfilled, by simpa using hlast⟩
  | cons slash more =>
    obtain ⟨rfl, hmore⟩ := List.forall_mem_cons.1 hslashes
    rw [hslash] at hhost ⊢
    have hfront : (front.filter isKept).dropWhile isSlash ≠ [] := by
      intro hnil
      refine hmeets hhost (List.dropWhile_eq_nil_iff.2 fun c hc => ?_)
      rcases List.mem_append.1 hc with hc | hc
      · exact List.dropWhile_eq_nil_iff.1 hnil c hc
      rcases List.mem_cons.1 hc with rfl | hc
      · decide
      · have hmem : c ∈ more := (List.rdropWhile_prefix isEdge more).subset
          (List.mem_of_mem_filter hc)
        rw [hmore c hmem]
        decide
    exact ⟨[], by rw [behind_append_slash hfront, behind_append_slash hfront, List.append_nil],
      by simp, by simp⟩

/-- An address that names a host names the same one with text behind it. -/
theorem authority_join {u v : Url} {rest : List Char}
    (hbase : parse? (String.ofList (webScheme secure ++ (front ++ slashes))) = some u)
    (haddress : parse? (String.ofList (webScheme secure ++ (front ++ '/' :: rest))) = some v) :
    v.secure = u.secure ∧ v.authority = u.authority := by
  obtain ⟨hu, hbefore⟩ := authority?_of_parse? hbase
  obtain ⟨hv, hafter⟩ := authority?_of_parse? haddress
  obtain ⟨blanks, hjoin, hedges, -⟩ := hostText_join hslashes (hostText_ne_nil hbase) rest
  refine ⟨by rw [hv, hu], ?_⟩
  rcases List.eq_nil_or_concat blanks with rfl | ⟨before, c, rfl⟩
  · rw [hjoin, List.append_nil, hbefore] at hafter
    exact (Option.some.inj hafter).symm
  -- otherwise there is no host any more
  · rw [List.concat_eq_append, ← List.append_assoc] at hjoin
    rw [hjoin, authority?_concat (hedges c (by simp))] at hafter
    cases hafter

/-- There is one unless the address ended in blanks. -/
theorem exists_parse?_join {u : Url}
    (hbase : parse? (String.ofList (webScheme secure ++ (front ++ slashes))) = some u)
    (hends : ∀ c, (front ++ slashes).getLast? = some c → isEdge c = false) (rest : List Char) :
    ∃ v, parse? (String.ofList (webScheme secure ++ (front ++ '/' :: rest))) = some v := by
  obtain ⟨blanks, hjoin, -, hblanks⟩ := hostText_join hslashes (hostText_ne_nil hbase) rest
  obtain rfl : blanks = [] := by
    by_contra hne
    obtain ⟨c, hlast, hc⟩ := hblanks hne
    rw [hends c hlast] at hc
    cases hc
  have hauthority : authority? secure (hostText (front ++ '/' :: rest)) = some u.authority := by
    rw [hjoin, List.append_nil]
    exact (authority?_of_parse? hbase).2
  rw [parse?_webScheme]
  exact exists_afterSlashes? hauthority

end Join

end ZoneGate.Http.Url
