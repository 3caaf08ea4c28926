import Mathlib.Data.List.TakeWhile
import ZoneGate.Provider

/-!
# Redirects of the provider

A request goes to the provider with the account key, and its own answer comes back unless that asks
for another address. Then the request goes there too, with the same key, and what comes back is the
answer from there.
-/
namespace ZoneGate.Provider

namespace Client

/-- An answer asks for an address. -/
def Asks (sent : Sent) (received : Received) (there : Http.Url.Referent) : Prop :=
  received.status ∈ [301, 302, 303, 307, 308] ∧
    ∃ location, received.location = some location ∧ sent.url.resolve location = there

/-- An answer asks for no address that there is. -/
def Settles (sent : Sent) (received : Received) : Prop :=
  ∀ there, Asks sent received there → there = .nothing

lemma isRedirect_iff {status : Nat} :
    isRedirect status = true ↔ status ∈ [301, 302, 303, 307, 308] := by
  rw [isRedirect, List.contains_iff_mem]

section Next

variable {sent : Sent} {received : Received} {there : Http.Url.Referent}

lemma Asks.next_eq (h : Asks sent received there) : next sent received = there := by
  obtain ⟨hstatus, location, hlocation, hresolve⟩ := h
  unfold next
  rw [isRedirect_iff.2 hstatus, hlocation]
  exact hresolve

/-- What sends a request on is what an answer asks for. -/
lemma asks_of_next (h : next sent received = there) (hthere : there ≠ .nothing) :
    Asks sent received there := by
  unfold next at h
  split at h
  · rename_i location hstatus hlocation
    exact ⟨isRedirect_iff.1 hstatus, location, hlocation, h⟩
  · exact absurd h.symm hthere

lemma next_eq_nothing_iff : next sent received = .nothing ↔ Settles sent received := by
  constructor
  · intro hnext there hasks
    rw [← hasks.next_eq, hnext]
  · intro hsettles
    by_contra hnext
    exact hnext (hsettles _ (asks_of_next rfl hnext))

end Next

@[simp]
lemma redirected_accountKey (sent : Sent) (status : Nat) (url : Http.Url) :
    (redirected sent status url).accountKey = sent.accountKey := by
  unfold redirected
  split <;> rfl

/-- How an exchange ends with the answer to its `n`-th request. -/
inductive Closes (network : Network Id) (n : Nat) (sent : Sent) (received : Received) :
    Delivery → Prop where
  | settled (h : Settles sent received) :
      Closes network n sent received (.answered (reply sent received))
  | foreign (h : Asks sent received .foreign) :
      Closes network n sent received (.failed "URL scheme is not allowed")
  | exhausted {url : Http.Url} (h : Asks sent received (.url url)) (hn : n + 1 = maxVisits) :
      Closes network n sent received (.failed "too many redirects")
  | unreached {url : Http.Url} (h : Asks sent received (.url url))
      (hnone : network (n + 1) (redirected sent received.status url) = none) :
      Closes network n sent received (.failed "error trying to connect")

/-- The answered requests of an exchange that begins with its `n`-th one, and what comes of it. -/
structure Trail (network : Network Id) (n : Nat) (first : Sent) (sent : List Sent)
    (delivery : Delivery) : Prop where
  begins : ∀ s, sent.head? = some s → s = first
  /-- Each later request goes where the answer to the one before asks for. -/
  onward : ∀ i s t, sent[i]? = some s → sent[i + 1]? = some t → ∃ received url,
    network (n + i) s = some received ∧ Asks s received (.url url) ∧
      t = redirected s received.status url
  key : ∀ s ∈ sent, s.accountKey = first.accountKey
  few : n + sent.length ≤ maxVisits
  nothing : sent = [] → n = maxVisits ∧ delivery = .failed "too many redirects" ∨
    network n first = none ∧ delivery = .failed "error trying to connect"
  /-- What comes of it is settled by the answer to the last request. -/
  last : ∀ i s, sent.length = i + 1 → sent[i]? = some s → ∃ received,
    network (n + i) s = some received ∧ Closes network (n + i) s received delivery

namespace Trail

variable {network : Network Id} {n : Nat} {first : Sent} {received : Received}

/-- No request is answered. -/
lemma empty {delivery : Delivery} (hn : n ≤ maxVisits)
    (h : n = maxVisits ∧ delivery = .failed "too many redirects" ∨
      network n first = none ∧ delivery = .failed "error trying to connect") :
    Trail network n first [] delivery where
  begins := by simp
  onward := by simp
  key := by simp
  few := by simpa using hn
  nothing _ := h
  last := by simp

/-- One request is answered. -/
lemma single {delivery : Delivery} (hn : n < maxVisits)
    (hreceived : network n first = some received)
    (hcloses : Closes network n first received delivery) :
    Trail network n first [first] delivery where
  begins := by simp
  onward := by simp
  key := by simp
  few := hn
  nothing := by simp
  last i s hlength hs := by
    obtain rfl : i = 0 := by simpa using hlength.symm
    obtain rfl : first = s := by simpa using hs
    exact ⟨received, hreceived, hcloses⟩

/-- A request is sent on. -/
lemma cons {url : Http.Url} {more : List Sent} {delivery : Delivery}
    (hreceived : network n first = some received) (hasks : Asks first received (.url url))
    (h : Trail network (n + 1) (redirected first received.status url) more delivery) :
    Trail network n first (first :: more) delivery where
  begins := by simp
  onward i s t hs ht := by
    rcases i with _ | i
    · obtain rfl : first = s := by simpa using hs
      have ht : more.head? = some t := by simpa [List.head?_eq_getElem?] using ht
      exact ⟨received, url, hreceived, hasks, h.begins t ht⟩
    · rw [Nat.add_comm i, ← Nat.add_assoc]
      exact h.onward i s t (by simpa using hs) (by simpa using ht)
  key s hs := by
    rcases List.mem_cons.1 hs with rfl | hs
    · rfl
    · rw [h.key s hs, redirected_accountKey]
  few := by
    have := h.few
    rw [List.length_cons]
    omega
  nothing hnil := by cases hnil
  last i s hlength hs := by
    rcases i with _ | i
    -- the request is the last one if the next one is not sent
    · obtain rfl : first = s := by simpa using hs
      have hnil : more = [] := by simpa using hlength
      refine ⟨received, hreceived, ?_⟩
      rcases h.nothing hnil with ⟨hn, rfl⟩ | ⟨hnone, rfl⟩
      · exact .exhausted hasks hn
      · exact .unreached hasks hnone
    · rw [Nat.add_comm i, ← Nat.add_assoc]
      exact h.last i s (by simpa using hlength) (by simpa using hs)

end Trail

section Exchange

variable {network : Network Id} {visits : Nat} {sent : Sent} {received : Received}

lemma exchange_succ :
    exchange network (visits + 1) sent =
      match network (maxVisits - (visits + 1)) sent with
      | none => ([], .failed "error trying to connect")
      | some received =>
        match next sent received with
        | .nothing => ([sent], .answered (reply sent received))
        | .foreign => ([sent], .failed "URL scheme is not allowed")
        | .url url =>
          (sent :: (exchange network visits (redirected sent received.status url)).1,
            (exchange network visits (redirected sent received.status url)).2) := rfl

lemma exchange_unreached (hreceived : network (maxVisits - (visits + 1)) sent = none) :
    exchange network (visits + 1) sent = ([], .failed "error trying to connect") := by
  simp [exchange_succ, hreceived]

lemma exchange_relayed (hreceived : network (maxVisits - (visits + 1)) sent = some received)
    (hnext : next sent received = .nothing) :
    exchange network (visits + 1) sent = ([sent], .answered (reply sent received)) := by
  simp [exchange_succ, hreceived, hnext]

lemma exchange_foreign (hreceived : network (maxVisits - (visits + 1)) sent = some received)
    (hnext : next sent received = .foreign) :
    exchange network (visits + 1) sent = ([sent], .failed "URL scheme is not allowed") := by
  simp [exchange_succ, hreceived, hnext]

lemma exchange_onward {url : Http.Url}
    (hreceived : network (maxVisits - (visits + 1)) sent = some received)
    (hnext : next sent received = .url url) :
    exchange network (visits + 1) sent =
      (sent :: (exchange network visits (redirected sent received.status url)).1,
        (exchange network visits (redirected sent received.status url)).2) := by
  simp [exchange_succ, hreceived, hnext]

end Exchange

/-- Whatever the network answers, an exchange leaves a trail. -/
theorem exchange_trail (network : Network Id) {visits : Nat} (hvisits : visits ≤ maxVisits)
    (first : Sent) :
    Trail network (maxVisits - visits) first (exchange network visits first).1
      (exchange network visits first).2 := by
  induction visits generalizing first with
  | zero => exact .empty (Nat.sub_le _ _) (.inl ⟨rfl, rfl⟩)
  | succ visits ih =>
    have hn : maxVisits - (visits + 1) < maxVisits := by omega
    rcases hreceived : network (maxVisits - (visits + 1)) first with _ | received
    · rw [exchange_unreached hreceived]
      exact .empty (Nat.sub_le _ _) (.inr ⟨hreceived, rfl⟩)
    rcases hnext : next first received with url | _ | _
    · rw [exchange_onward hreceived hnext]
      have hmore := ih (by omega) (redirected first received.status url)
      rw [show maxVisits - visits = maxVisits - (visits + 1) + 1 by omega] at hmore
      exact .cons hreceived (asks_of_next hnext (by simp)) hmore
    · rw [exchange_foreign hreceived hnext]
      exact .single hn hreceived (.foreign (asks_of_next hnext (by simp)))
    · rw [exchange_relayed hreceived hnext]
      exact .single hn hreceived (.settled (next_eq_nothing_iff.1 hnext))

/-- What a client of a base address and account key does with a request. -/
structure Delivers (base accountKey : String) (c : Client) (network : Network Id) (o : Outbound) :
    Prop where
  /-- The address of the request follows on the base without its slashes. -/
  base : ∃ slashes, base.toList = c.base.toList ++ slashes ∧ (∀ x ∈ slashes, x = '/') ∧
    c.base.toList.getLast? ≠ some '/'
  /-- Nothing is sent for what is no address. -/
  unsent : Http.Url.parse? (c.base ++ o.pathAndQuery) = none →
    c.deliver network o = ([], .failed "builder error")
  /-- The first request asks for what the client does, and carries the account key. Its answer comes
  back where it asks for no other address. -/
  relayed : ∀ url received, Http.Url.parse? (c.base ++ o.pathAndQuery) = some url →
    let first : Sent := ⟨url, o.method, Text.bytes accountKey, o.contentType, o.body⟩
    network 0 first = some received → Settles first received →
      c.deliver network o = ([first], .answered ⟨received.status, received.contentType,
        if o.method = .head ∨ received.status ∈ [204, 304] then [] else received.body⟩)
  /-- All requests carry the account key, wherever the answers send them. -/
  trail : ∀ url, Http.Url.parse? (c.base ++ o.pathAndQuery) = some url →
    Trail network 0 ⟨url, o.method, Text.bytes accountKey, o.contentType, o.body⟩
      (c.deliver network o).1 (c.deliver network o).2

/-- Only the slashes at the end are left out. -/
lemma withoutSlashes_spec (s : String) : ∃ slashes,
    s.toList = (withoutSlashes s).toList ++ slashes ∧ (∀ x ∈ slashes, x = '/') ∧
      (withoutSlashes s).toList.getLast? ≠ some '/' := by
  refine ⟨(s.toList.reverse.takeWhile (· = '/')).reverse, ?_, ?_, ?_⟩
  · rw [withoutSlashes, String.toList_ofList, ← List.reverse_append,
      List.takeWhile_append_dropWhile, List.reverse_reverse]
  · intro x hx
    simpa using List.mem_takeWhile_imp (List.mem_reverse.1 hx)
  · rw [withoutSlashes, String.toList_ofList, List.getLast?_reverse]
    intro hlast
    have hkept := List.head?_dropWhile_not (fun x : Char => decide (x = '/')) s.toList.reverse
    rw [hlast] at hkept
    simp at hkept

lemma eq_of_of? {base accountKey : String} {c : Client} (h : of? base accountKey = .ok c) :
    c = ⟨withoutSlashes base, Text.bytes accountKey⟩ := by
  simp only [of?] at h
  split at h
  · exact (Except.ok.inj h).symm
  · cases h

/-- A request is handed on once and its answer relayed, up to redirects. -/
theorem delivers {base accountKey : String} {c : Client} (hc : of? base accountKey = .ok c)
    (network : Network Id) (o : Outbound) : Delivers base accountKey c network o := by
  have hclient := eq_of_of? hc
  have hkey : c.accountKey = Text.bytes accountKey := by rw [hclient]
  have hdeliver {url : Http.Url} (hurl : Http.Url.parse? (c.base ++ o.pathAndQuery) = some url) :
      c.deliver network o = exchange network maxVisits
        ⟨url, o.method, Text.bytes accountKey, o.contentType, o.body⟩ := by
    simp [deliver, first?, address, hurl, hkey]
  constructor
  case base =>
    rw [hclient]
    exact withoutSlashes_spec base
  case unsent =>
    intro hurl
    simp only [deliver, first?, address, hurl, Option.map_none]
    rfl
  case relayed =>
    intro url received hurl first hreceived hsettles
    rw [hdeliver hurl]
    refine (exchange_relayed hreceived (next_eq_nothing_iff.2 hsettles)).trans ?_
    simp [reply, first]
  case trail =>
    intro url hurl
    rw [hdeliver hurl]
    exact exchange_trail network (Nat.le_refl _) _

/-- A client of the usual address. -/
def sample : Client := ⟨"https://api.bunny.net", Text.bytes "key"⟩

lemma of?_sample : of? "https://api.bunny.net/" "key" = .ok sample := rfl

/-- A request for the zones. -/
def zonesSample : Outbound := ⟨.get, "/dnszone", none, []⟩

/-- The request as the client sends it, to a place at the provider. -/
def sentSample (segment : String) : Sent :=
  ⟨⟨true, "api.bunny.net", [segment], none⟩, .get, Text.bytes "key", none, []⟩

lemma parse?_sample :
    Http.Url.parse? (sample.base ++ zonesSample.pathAndQuery) =
      some (sentSample "dnszone").url := by
  decide +kernel

/-- A network that answers every request. -/
def answering : Network Id := fun _ _ => some ⟨200, none, none, Text.bytes "zones"⟩

theorem delivers_sample :
    sample.deliver answering zonesSample =
      ([sentSample "dnszone"], Delivery.answered ⟨200, none, Text.bytes "zones"⟩) :=
  (delivers of?_sample answering zonesSample).relayed _ _ parse?_sample rfl
    (by simp [Settles, Asks])

/-- A network that sends the first request elsewhere and answers the next. -/
def redirecting (location : String) : Network Id
  | 0, _ => some ⟨302, none, some location, Text.bytes "gone"⟩
  | _, _ => some ⟨200, none, none, Text.bytes "other"⟩

/-- A redirect is not relayed. The request is sent again with the account key, also to another
host, and it is the answer to the second one that comes back. -/
theorem redirects_followed :
    Id.run (sample.deliver (redirecting "/moved") zonesSample) =
        ([sentSample "dnszone", sentSample "moved"], .answered ⟨200, none, Text.bytes "other"⟩) ∧
      Id.run (sample.deliver (redirecting "https://example.org/") zonesSample) =
        ([sentSample "dnszone",
            { sentSample "dnszone" with url := ⟨true, "example.org", [""], none⟩ }],
          .answered ⟨200, none, Text.bytes "other"⟩) := by
  decide +kernel

end Client

end ZoneGate.Provider
