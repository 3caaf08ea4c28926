import ZoneGate.Proofs.Access.MasterKey
import ZoneGate.Proofs.Endpoint.Grammar
import ZoneGate.Proofs.Http.Host
import ZoneGate.Proofs.Provider.Redirects

/-!
# The address of the provider

A request goes to the configured address without the slashes at its end, followed by the path. That
is an address at the configured host if there is one. Only the scheme of an address is checked,
though, and where nothing follows it but slashes, the path is taken for the host.
-/
namespace ZoneGate

/-! ## Paths -/

namespace Http.Target

lemma ofPath?_path {cs : List Char} {t : Target} (h : ofPath? cs = some t) {rest : List Char}
    (hpath : t.path.toList = '/' :: rest) :
    ∃ query, t.pathAndQuery.toList = '/' :: rest ++ query := by
  simp only [ofPath?, Option.ite_none_left_eq_some, Option.some.injEq] at h
  obtain ⟨-, rfl⟩ := h
  generalize (upTo (fun c => c = '?' || c = '#') cs).1 = path at hpath ⊢
  cases path with
  | nil =>
    obtain rfl : rest = [] := by simpa using hpath.symm
    exact ⟨_, by simp; rfl⟩
  | cons c path =>
    obtain ⟨rfl, rfl⟩ : c = '/' ∧ path = rest := by simpa using hpath
    exact ⟨_, by simp; rfl⟩

/-- What is handed on of a target is its path, and the query. -/
lemma pathAndQuery_of_parse? {s : String} {t : Target} (h : parse? s = some t) {rest : List Char}
    (hpath : t.path.toList = '/' :: rest) :
    ∃ query, t.pathAndQuery.toList = '/' :: rest ++ query := by
  unfold parse? at h
  simp only at h
  split at h
  · cases h
  split at h
  · obtain rfl := Option.some.inj h
    simp at hpath
  split at h
  · exact ofPath?_path h hpath
  split at h
  · split at h
    · obtain rfl := Option.some.inj h
      simp at hpath
    · cases h
  · split at h
    · cases h
    split at h
    · cases h
    · exact ofPath?_path h hpath

end Http.Target

namespace Endpoint

lemma Spellable.exists_toList {segments : List String} (h : Spellable segments) :
    ∃ c rest, (spelling segments).toList = '/' :: c :: rest ∧ c ≠ '/' := by
  obtain ⟨s, others, rfl⟩ := List.exists_cons_of_ne_nil h.ne_nil
  obtain ⟨hfilled, hplain⟩ := h.plain s (by simp)
  obtain ⟨c, cs, hs⟩ := List.exists_cons_of_ne_nil (show s.toList ≠ [] by simpa using hfilled)
  refine ⟨c, _, by rw [toList_spelling, List.map_cons, List.flatMap_cons, hs]; rfl, ?_⟩
  rintro rfl
  exact hplain (by simp [hs])

/-- A path that is recognised begins with one slash. -/
lemma exists_toList_of_classify {method : Http.Method} {path : String} {body : List UInt8}
    {d : Descriptor} (h : classify method path body = .ok d) :
    ∃ c rest, path.toList = '/' :: c :: rest ∧ c ≠ '/' := by
  unfold classify at h
  split at h
  · cases h
  rename_i action zone hfind
  obtain ⟨segments, hdocumented, rfl | rfl⟩ := find?_eq_some_iff.1 hfind
  · exact hdocumented.spellable.exists_toList
  · obtain ⟨c, rest, hspelling, hc⟩ := hdocumented.spellable.exists_toList
    exact ⟨c, rest ++ ['/'], by rw [String.toList_append, hspelling]; rfl, hc⟩

end Endpoint

/-! ## Addresses -/

namespace Provider

open Http

/-- An address by its text: a scheme of the web, what stands before the next mark, and the rest. -/
structure Spells (address scheme authority rest : String) : Prop where
  whole : address = scheme ++ authority ++ rest
  web : scheme ∈ ["http://", "https://"]
  plain : ∀ c ∈ authority.toList, c ∉ ['/', '?', '#']
  ends : ∀ c, rest.toList.head? = some c → c ∈ ['/', '?', '#']

lemma exists_webScheme {scheme : String} (h : scheme ∈ ["http://", "https://"]) :
    ∃ secure, scheme.toList = Url.webScheme secure ++ ['/', '/'] := by
  simp only [List.mem_cons, List.not_mem_nil, or_false] at h
  rcases h with rfl | rfl
  · exact ⟨false, by decide⟩
  · exact ⟨true, by decide⟩

/-- The text of an address is in parts if its scheme is one of the web. -/
lemma exists_spells {scheme address : String} (hscheme : scheme ∈ ["http://", "https://"])
    (h : Text.startsWith scheme address = true) :
    ∃ authority rest, Spells address scheme authority rest := by
  obtain ⟨cs, hcs⟩ := List.isPrefixOf_iff_prefix.1 h
  let plain (c : Char) : Bool := decide (c ∉ ['/', '?', '#'])
  refine ⟨String.ofList (cs.takeWhile plain), String.ofList (cs.dropWhile plain), ?_, hscheme,
    ?_, ?_⟩
  · rw [← String.toList_inj, String.toList_append, String.toList_append, String.toList_ofList,
      String.toList_ofList, List.append_assoc, List.takeWhile_append_dropWhile, hcs]
  · intro c hc
    rw [String.toList_ofList] at hc
    have hplain : plain c = true := List.mem_takeWhile_imp hc
    exact of_decide_eq_true hplain
  · intro c hc
    rw [String.toList_ofList] at hc
    have hends := List.head?_dropWhile_not plain cs
    rw [hc] at hends
    exact not_not.1 (of_decide_eq_false hends)

theorem exists_spells_of_validate {c : Config} (h : c.validate = .ok ()) :
    ∃ scheme authority rest, Spells c.baseUrl scheme authority rest := by
  have hbegins : Text.startsWith "https://" c.baseUrl = true ∨
      Text.startsWith "http://" c.baseUrl = true := by
    by_contra hneither
    obtain ⟨hsecure, hplain⟩ := not_or.1 hneither
    have hfault : c.fault? ≠ none := by
      simp only [Config.fault?, Bool.eq_false_iff.2 hsecure, Bool.eq_false_iff.2 hplain]
      split
      · simp
      · split <;> simp
    obtain ⟨fault, hfault⟩ := Option.ne_none_iff_exists'.1 hfault
    simp [Config.validate, hfault] at h
  rcases hbegins with hscheme | hscheme
  · exact ⟨_, exists_spells (by simp) hscheme⟩
  · exact ⟨_, exists_spells (by simp) hscheme⟩

lemma rdropWhile_webScheme (secure : Bool) (cs : List Char) :
    (Url.webScheme secure ++ cs).rdropWhile (· = '/') =
      Url.webScheme secure ++ cs.rdropWhile (· = '/') := by
  cases secure with
  | true => exact Url.rdropWhile_append_cons (c := ':') (by decide) "https".toList cs
  | false => exact Url.rdropWhile_append_cons (c := ':') (by decide) "http".toList cs

namespace Spells

variable {base scheme authority rest : String}

/-- Only slashes of the rest are left out if there is more than slashes. -/
lemma rdropWhile_eq (h : Spells base scheme authority rest)
    (hmore : ¬ (authority = "" ∧ ∀ c ∈ rest.toList, c = '/')) :
    base.toList.rdropWhile (· = '/') =
      scheme.toList ++ authority.toList ++ rest.toList.rdropWhile (· = '/') := by
  rw [h.whole, String.toList_append, String.toList_append]
  by_cases hrest : rest.toList.rdropWhile (· = '/') = []
  · have hslashes : ∀ c ∈ rest.toList, c = '/' := by
      simpa using List.rdropWhile_eq_nil_iff.1 hrest
    have hauthority : authority.toList ≠ [] := fun hnil =>
      hmore ⟨by simpa using hnil, hslashes⟩
    obtain ⟨front, c, hfront⟩ := (List.eq_nil_or_concat authority.toList).resolve_left hauthority
    have hc : c ≠ '/' := by
      have hplain := h.plain c (by simp [hfront])
      simp only [List.mem_cons, not_or] at hplain
      exact hplain.1
    rw [hfront]
    simpa using Url.rdropWhile_append_cons (p := (· = '/')) (decide_eq_false hc)
      (scheme.toList ++ front) rest.toList
  · exact Url.rdropWhile_append_of_ne_nil hrest _

/-- Otherwise no more than the scheme is left. -/
lemma rdropWhile_eq_webScheme (h : Spells base scheme "" rest)
    (hslashes : ∀ c ∈ rest.toList, c = '/') :
    ∃ secure, scheme.toList = Url.webScheme secure ++ ['/', '/'] ∧
      base.toList.rdropWhile (· = '/') = Url.webScheme secure := by
  obtain ⟨secure, hsecure⟩ := exists_webScheme h.web
  refine ⟨secure, hsecure, ?_⟩
  have hall : ('/' :: '/' :: rest.toList).rdropWhile (· = '/') = [] :=
    List.rdropWhile_eq_nil_iff.2 (by simpa using hslashes)
  have hbase : base.toList = Url.webScheme secure ++ '/' :: '/' :: rest.toList := by
    rw [h.whole, String.toList_append, String.toList_append, hsecure]
    simp
  rw [hbase, rdropWhile_webScheme, hall, List.append_nil]

end Spells

/-! ## Requests -/

namespace Client

/-- Two addresses at one host. -/
def SameHost (u v : Url) : Prop := v.secure = u.secure ∧ v.authority = u.authority

lemma redirected_url (sent : Sent) (status : Nat) (url : Url) :
    (redirected sent status url).url = url := by
  unfold redirected
  split <;> rfl

/-- What the address of a request has in common with the configured one. -/
structure Addressed (base accountKey : String) (c : Client) (pathAndQuery : String) : Prop where
  /-- One slash stands between the configured address, without those at its end, and the path. -/
  joins : ∃ front slashes tail, base.toList = front ++ slashes ∧ (∀ x ∈ slashes, x = '/') ∧
    front.getLast? ≠ some '/' ∧ pathAndQuery.toList = '/' :: tail ∧ tail.head? ≠ some '/' ∧
      (c.address pathAndQuery).toList = front ++ '/' :: tail
  begins : ∃ scheme authority rest, Spells base scheme authority rest
  /-- Scheme and authority stay, unless there is nothing but slashes behind the scheme. -/
  spelled : ∀ scheme authority rest, Spells base scheme authority rest →
    ((∃ rest', Spells (c.address pathAndQuery) scheme authority rest') ↔
      ¬ (authority = "" ∧ ∀ x ∈ rest.toList, x = '/'))
  /-- If so, the text of the path is read as an authority. -/
  swallowed : ∀ scheme rest tail, Spells base scheme "" rest → (∀ x ∈ rest.toList, x = '/') →
    pathAndQuery = "/" ++ tail →
      Url.parse? (c.address pathAndQuery) = Url.parse? (scheme ++ tail)
  /-- An address with a host keeps it. -/
  host : ∀ u v, Url.parse? base = some u → Url.parse? (c.address pathAndQuery) = some v →
    SameHost u v
  /-- It stays an address if it did not end in blanks. -/
  reached : ∀ u, Url.parse? base = some u →
    (∀ x, base.toList.getLast? = some x → Url.isEdge x = false) →
      ∃ v, Url.parse? (c.address pathAndQuery) = some v
  /-- So the first request takes the account key to the configured host, answered or not. -/
  first : ∀ u o s, Url.parse? base = some u → o.pathAndQuery = pathAndQuery →
    c.first? o = some s → s.accountKey = Text.bytes accountKey ∧ SameHost u s.url
  /-- Of all that are answered, one goes elsewhere only where the answer before asks for it. -/
  sent : ∀ u (network : Network Id) o, Url.parse? base = some u → o.pathAndQuery = pathAndQuery →
    ∀ i s, (c.deliver network o).1[i]? = some s → s.accountKey = Text.bytes accountKey ∧
      (SameHost u s.url ∨ ∃ j t received, i = j + 1 ∧ (c.deliver network o).1[j]? = some t ∧
        network j t = some received ∧ Asks t received (.url s.url))

section

variable {base accountKey pathAndQuery : String} {c : Client} {tail : List Char}
  (hclient : of? base accountKey = .ok c) (hpath : pathAndQuery.toList = '/' :: tail)

include hclient hpath

lemma toList_address : (c.address pathAndQuery).toList =
    base.toList.rdropWhile (· = '/') ++ '/' :: tail := by
  rw [eq_of_of? hclient, address, withoutSlashes, String.toList_append, String.toList_ofList, hpath]
  rfl

/-- The configured address and that of a request, each from its scheme on. -/
lemma exists_front {scheme authority rest : String} (h : Spells base scheme authority rest) :
    ∃ secure front slashes, base = String.ofList (Url.webScheme secure ++ (front ++ slashes)) ∧
      (∀ x ∈ slashes, x = '/') ∧
      c.address pathAndQuery = String.ofList (Url.webScheme secure ++ (front ++ '/' :: tail)) := by
  obtain ⟨secure, hsecure⟩ := exists_webScheme h.web
  let cs : List Char := '/' :: '/' :: (authority.toList ++ rest.toList)
  have hbase : base.toList = Url.webScheme secure ++ cs := by
    rw [h.whole, String.toList_append, String.toList_append, hsecure]
    simp [cs]
  have hcs : cs.rdropWhile (· = '/') ++ cs.rtakeWhile (· = '/') = cs :=
    List.rdropWhile_append_rtakeWhile
  refine ⟨secure, cs.rdropWhile (· = '/'), cs.rtakeWhile (· = '/'), ?_, ?_, ?_⟩
  · rw [hcs, ← hbase, String.ofList_toList]
  · intro x hx
    simpa using List.mem_rtakeWhile_imp hx
  · rw [← String.toList_inj, toList_address hclient hpath, hbase, rdropWhile_webScheme,
      String.toList_ofList, List.append_assoc]

lemma host_address (hbegins : ∃ scheme authority rest, Spells base scheme authority rest)
    {u v : Url} (hbase : Url.parse? base = some u)
    (haddress : Url.parse? (c.address pathAndQuery) = some v) : SameHost u v := by
  obtain ⟨scheme, authority, rest, hspells⟩ := hbegins
  obtain ⟨secure, front, slashes, rfl, hslashes, hjoined⟩ := exists_front hclient hpath hspells
  rw [hjoined] at haddress
  exact Url.authority_join hslashes hbase haddress

lemma reached_address (hbegins : ∃ scheme authority rest, Spells base scheme authority rest)
    {u : Url} (hbase : Url.parse? base = some u)
    (hends : ∀ x, base.toList.getLast? = some x → Url.isEdge x = false) :
    ∃ v, Url.parse? (c.address pathAndQuery) = some v := by
  obtain ⟨scheme, authority, rest, hspells⟩ := hbegins
  obtain ⟨secure, front, slashes, rfl, hslashes, hjoined⟩ := exists_front hclient hpath hspells
  rw [hjoined]
  refine Url.exists_parse?_join hslashes hbase (fun x hx => hends x ?_) tail
  rw [String.toList_ofList, List.getLast?_append, hx, Option.some_or]

lemma swallowed_address {scheme rest : String} (h : Spells base scheme "" rest)
    (hslashes : ∀ x ∈ rest.toList, x = '/') :
    Url.parse? (c.address pathAndQuery) = Url.parse? (scheme ++ String.ofList tail) := by
  obtain ⟨secure, hsecure, hbase⟩ := h.rdropWhile_eq_webScheme hslashes
  have haddress : c.address pathAndQuery = String.ofList (Url.webScheme secure ++ '/' :: tail) := by
    rw [← String.toList_inj, toList_address hclient hpath, hbase, String.toList_ofList]
  have hwhole : scheme ++ String.ofList tail =
      String.ofList (Url.webScheme secure ++ '/' :: '/' :: tail) := by
    rw [← String.toList_inj, String.toList_append, hsecure, String.toList_ofList,
      String.toList_ofList, List.append_assoc]
    rfl
  rw [haddress, hwhole, Url.parse?_cons_slash secure ('/' :: tail)]

lemma spells_address_iff (htail : tail.head? ≠ some '/') {scheme authority rest : String}
    (h : Spells base scheme authority rest) :
    (∃ rest', Spells (c.address pathAndQuery) scheme authority rest') ↔
      ¬ (authority = "" ∧ ∀ x ∈ rest.toList, x = '/') := by
  constructor
  · rintro ⟨rest', haddress⟩ ⟨rfl, hslashes⟩
    obtain ⟨secure, hsecure, hbase⟩ := h.rdropWhile_eq_webScheme hslashes
    have hlist := toList_address hclient hpath
    rw [haddress.whole, hbase, String.toList_append, String.toList_append, hsecure] at hlist
    obtain rfl : '/' :: rest'.toList = tail := by simpa using hlist
    exact htail rfl
  · intro hmore
    refine ⟨String.ofList (rest.toList.rdropWhile (· = '/') ++ '/' :: tail), ?_, h.web, h.plain, ?_⟩
    · rw [← String.toList_inj, toList_address hclient hpath, h.rdropWhile_eq hmore]
      simp
    · intro x hx
      rw [String.toList_ofList] at hx
      cases hkept : rest.toList.rdropWhile (· = '/') with
      | nil =>
        rw [hkept] at hx
        obtain rfl : '/' = x := Option.some.inj hx
        simp
      | cons y ys =>
        rw [hkept] at hx
        obtain rfl : y = x := Option.some.inj hx
        refine h.ends y ?_
        obtain ⟨more, hmore⟩ := List.rdropWhile_prefix (fun x => decide (x = '/')) rest.toList
        rw [← hmore, hkept]
        rfl

lemma first_address (hbegins : ∃ scheme authority rest, Spells base scheme authority rest)
    {u : Url} (hbase : Url.parse? base = some u) {o : Outbound}
    (ho : o.pathAndQuery = pathAndQuery) {s : Sent} (hs : c.first? o = some s) :
    s.accountKey = Text.bytes accountKey ∧ SameHost u s.url := by
  obtain ⟨v, hv, rfl⟩ := Option.map_eq_some_iff.1 hs
  rw [ho] at hv
  exact ⟨by rw [eq_of_of? hclient], host_address hclient hpath hbegins hbase hv⟩

lemma sent_address (hbegins : ∃ scheme authority rest, Spells base scheme authority rest)
    {u : Url} (hbase : Url.parse? base = some u) (network : Network Id) {o : Outbound}
    (ho : o.pathAndQuery = pathAndQuery) {i : Nat} {s : Sent}
    (hs : (c.deliver network o).1[i]? = some s) : s.accountKey = Text.bytes accountKey ∧
      (SameHost u s.url ∨ ∃ j t received, i = j + 1 ∧ (c.deliver network o).1[j]? = some t ∧
        network j t = some received ∧ Asks t received (.url s.url)) := by
  rcases hfirst : c.first? o with _ | first
  · simp only [deliver, hfirst] at hs
    cases hs
  obtain ⟨hkey, hhost⟩ := first_address hclient hpath hbegins hbase ho hfirst
  simp only [deliver, hfirst] at hs ⊢
  have htrail := exchange_trail network (Nat.le_refl _) first
  generalize exchange network maxVisits _ = exchanged at hs htrail ⊢
  refine ⟨(htrail.key s (List.mem_of_getElem? hs)).trans hkey, ?_⟩
  cases i with
  | zero =>
    obtain rfl := htrail.begins s (by rw [List.head?_eq_getElem?, hs])
    exact .inl hhost
  | succ j =>
    -- the request before this one has been answered
    obtain ⟨hlt, -⟩ := List.getElem?_eq_some_iff.1 hs
    obtain ⟨received, url, hreceived, hasks, rfl⟩ :=
      htrail.onward j _ s (List.getElem?_eq_getElem (by omega)) hs
    rw [Nat.sub_self, Nat.zero_add] at hreceived
    exact .inr ⟨j, _, received, rfl, List.getElem?_eq_getElem (by omega), hreceived,
      by rwa [redirected_url]⟩

/-- Whatever is configured, an address has this in common with it. -/
lemma addressed_of (htail : tail.head? ≠ some '/')
    (hbegins : ∃ scheme authority rest, Spells base scheme authority rest) :
    Addressed base accountKey c pathAndQuery where
  joins := by
    obtain ⟨slashes, hbase, hslashes, hlast⟩ := withoutSlashes_spec base
    refine ⟨_, slashes, tail, hbase, hslashes, hlast, hpath, htail, ?_⟩
    rw [eq_of_of? hclient, address, String.toList_append, hpath]
  begins := hbegins
  spelled scheme authority rest h := spells_address_iff hclient hpath htail h
  swallowed scheme rest t h hslashes ht := by
    obtain rfl : t = String.ofList tail := by
      rw [← String.toList_inj, String.toList_ofList]
      simpa [ht] using hpath
    exact swallowed_address hclient hpath h hslashes
  host u v := host_address hclient hpath hbegins
  reached u := reached_address hclient hpath hbegins
  first u o s hbase ho := first_address hclient hpath hbegins hbase ho
  sent u network o hbase ho i s := sent_address hclient hpath hbegins hbase network ho

end

/-- The address of every request that is recognised has this in common with the configured one. -/
theorem addressed {cfg : Config} {c : Client} {s : String} {r : Http.Request} {d : Descriptor}
    (hvalid : cfg.validate = .ok ()) (hclient : of? cfg.baseUrl cfg.masterKey = .ok c)
    (htarget : Http.Target.parse? s = some r.target)
    (hclear : Endpoint.classify r.method r.target.path r.body = .ok d) :
    Addressed cfg.baseUrl cfg.masterKey c r.target.pathAndQuery := by
  obtain ⟨x, rest, hpath, hx⟩ := Endpoint.exists_toList_of_classify hclear
  obtain ⟨query, hquery⟩ := Target.pathAndQuery_of_parse? htarget hpath
  have htail : (x :: rest ++ query).head? ≠ some '/' := by simpa using hx
  exact addressed_of hclient hquery htail (exists_spells_of_validate hvalid)

/-- A configuration with a given address of the provider. -/
def hostedSample (baseUrl : String) : Config := { Config.sample "key" with baseUrl }

lemma validate_hostedSample {baseUrl : String} (h : Text.startsWith "https://" baseUrl = true) :
    (hostedSample baseUrl).validate = .ok () := by
  have hkey : Text.allBlank "key" = false := by decide
  have hhash : Text.allBlank "hash key" = false := by decide
  simp [Config.validate, Config.fault?, hostedSample, Config.sample, hkey, hhash, h]

/-- A request for a page of the zones. -/
def pageSample : Http.Request := ⟨.get, ⟨"/dnszone", "/dnszone?page=2"⟩, [], []⟩

lemma classify_pageSample :
    Endpoint.classify .get "/dnszone" [] = .ok ⟨.listZones, none, none⟩ :=
  Endpoint.classify_of_accepts ⟨["dnszone"], .listZones, .inl (by decide)⟩ []

theorem addressed_sample :
    Addressed "https://api.bunny.net//" "key" sample "/dnszone?page=2" := by
  have hvalid : (hostedSample "https://api.bunny.net//").validate = .ok () :=
    validate_hostedSample (by decide)
  have htarget : Target.parse? "/dnszone?page=2" = some pageSample.target := by decide +kernel
  exact addressed hvalid rfl htarget classify_pageSample

/-- An address without a host is accepted, and then the request goes to a host that its own path
names, with the account key. -/
theorem path_becomes_host :
    (hostedSample "https://").validate = .ok () ∧
      of? "https://" "key" = .ok ⟨"https:", Text.bytes "key"⟩ ∧
      Endpoint.classify .get "/dnszone" [] = .ok ⟨.listZones, none, none⟩ ∧
      (Client.mk "https:" (Text.bytes "key")).address "/dnszone" = "https:/dnszone" ∧
      (Client.mk "https:" (Text.bytes "key")).first? zonesSample =
        some ⟨⟨true, "dnszone", [""], none⟩, .get, Text.bytes "key", none, []⟩ := by
  refine ⟨validate_hostedSample (by decide), rfl, classify_pageSample, by decide, ?_⟩
  decide +kernel

end Client

end Provider

end ZoneGate
