import Mathlib.Tactic.Lemma
import ZoneGate.Gateway

/-!
# The stages of a request for the provider

Every request on a path that is not the gateway's own passes four stages in a fixed order: the
length of its body, its caller, what it asks for, and whether the caller may. The first stage that
objects decides the answer, and only a request to which none objects reaches the provider.
-/
namespace ZoneGate

/-- What becomes of a request for the provider. -/
inductive Verdict where
  | tooLong
  | unrecognised (cause : Error)
  | unclassified (cause : Endpoint.Error)
  | denied (reason : Denial)
  | forwarded (request : Outbound)

namespace Verdict

/-- The answer that tells an error. -/
def refusal (status : Nat) (message : String) : Reply :=
  let content := Http.Content.json (.object [("error", .string message)])
  ⟨status, content.contentType, content.body⟩

/-- What the client gets: status, content type and body. -/
def reply (provider : Provider) : Verdict → Reply
  | tooLong =>
    let content := Http.Content.text "Failed to buffer the request body: length limit exceeded"
    ⟨413, content.contentType, content.body⟩
  | unrecognised cause => refusal 401 cause.message
  | unclassified cause => refusal 400 cause.message
  | denied .forbidden => refusal 403 "permission denied"
  | denied .masterKeyLocked => refusal 403 "master_key_locked"
  | forwarded request =>
    match provider request with
    | .answered reply => reply
    | .failed _ => refusal 502 "upstream request failed"
    | .silent => ⟨408, none, []⟩

/-- What the provider gets. -/
def outbound : Verdict → Option Outbound
  | forwarded request => some request
  | _ => none

end Verdict

/-- The stages and their verdicts. A stage is reached only where none before it objects. -/
inductive Decides (g : Gateway) (r : Http.Request) : Verdict → Prop
  | tooLong (long : g.maxBodyBytes.toNat < r.body.length) : Decides g r .tooLong
  | unrecognised {e : Error} (fits : r.body.length ≤ g.maxBodyBytes.toNat)
      (unknown : g.authenticate r = .error e) : Decides g r (.unrecognised e)
  | unclassified {caller : Identity} {e : Endpoint.Error}
      (fits : r.body.length ≤ g.maxBodyBytes.toNat) (known : g.authenticate r = .ok caller)
      (unclear : Endpoint.classify r.method r.target.path r.body = .error e) :
      Decides g r (.unclassified e)
  | denied {caller : Identity} {d : Descriptor} {reason : Denial}
      (fits : r.body.length ≤ g.maxBodyBytes.toNat) (known : g.authenticate r = .ok caller)
      (clear : Endpoint.classify r.method r.target.path r.body = .ok d)
      (refused : Decision.check caller (Bootstrap.of g.vault.registry) d = .deny reason) :
      Decides g r (.denied reason)
  | forwarded {caller : Identity} {d : Descriptor}
      (fits : r.body.length ≤ g.maxBodyBytes.toNat) (known : g.authenticate r = .ok caller)
      (clear : Endpoint.classify r.method r.target.path r.body = .ok d)
      (allowed : Decision.check caller (Bootstrap.of g.vault.registry) d = .allow) :
      Decides g r (.forwarded
        ⟨r.method, r.target.pathAndQuery, Http.firstHeader? r.headers "content-type", r.body⟩)

namespace Decides

variable {g : Gateway} {r : Http.Request}

theorem exists_verdict (g : Gateway) (r : Http.Request) : ∃ verdict, Decides g r verdict := by
  rcases Nat.lt_or_ge g.maxBodyBytes.toNat r.body.length with hlong | hfits
  · exact ⟨_, .tooLong hlong⟩
  rcases hknown : g.authenticate r with e | caller
  · exact ⟨_, .unrecognised hfits hknown⟩
  rcases hclear : Endpoint.classify r.method r.target.path r.body with e | d
  · exact ⟨_, .unclassified hfits hknown hclear⟩
  rcases hcheck : Decision.check caller (Bootstrap.of g.vault.registry) d with _ | reason
  · exact ⟨_, .forwarded hfits hknown hclear hcheck⟩
  · exact ⟨_, .denied hfits hknown hclear hcheck⟩

theorem unique {first second : Verdict} (hfirst : Decides g r first)
    (hsecond : Decides g r second) : first = second := by
  -- whatever the first verdict rests on, the second one found as well
  cases hfirst <;> cases hsecond <;> grind

end Decides

namespace Gateway

lemma readHeader_error {headers : List Http.Header} {name : String} {e : Error}
    (h : readHeader headers name = .error e) : e = .unreadableKey := by
  unfold readHeader at h
  split at h
  · cases h
  · split at h
    · cases h
    · exact (Except.error.inj h).symm

lemma error_of_bind {α β : Type} {x : Except Error α} {f : α → Except Error β} {e : Error}
    (h : (x >>= f) = .error e) : x = .error e ∨ ∃ a, f a = .error e := by
  cases x with
  | error e' => exact .inl (congrArg Except.error (Except.error.inj h))
  | ok a => exact .inr ⟨a, h⟩

lemma credential_error {headers : List Http.Header} {e : Error}
    (h : credential headers = .error e) : e = .unreadableKey := by
  have hbearer : ∀ {f : Option String → Option String},
      (readHeader headers "authorization" >>= fun value => pure (f value)) = .error e →
        e = .unreadableKey := by
    intro f hf
    rcases error_of_bind hf with hread | ⟨value, hpure⟩
    · exact readHeader_error hread
    · cases hpure
  unfold credential at h
  rcases error_of_bind h with hread | ⟨key, hrest⟩
  · exact readHeader_error hread
  cases key with
  | none => exact hbearer hrest
  | some key =>
    simp only at hrest
    split at hrest
    · cases hrest
    · exact hbearer hrest

/-- A key header that is a text and not blank is the credential, whatever else is there. -/
theorem credential_of_accessKey {headers : List Http.Header} {value : List UInt8} {key : String}
    (hfirst : Http.firstHeader? headers "accesskey" = some value)
    (htext : Http.headerText? value = some key) (hblank : Text.allBlank key = false) :
    credential headers = .ok (some key) := by
  simp [credential, readHeader, hfirst, htext, hblank, bind, Except.bind, pure, Except.pure]

lemma ok_of_toOption {α : Type} {x : Except Error α} {a : α} (h : x.toOption = some a) :
    x = .ok a := by
  cases x with
  | error e => cases h
  | ok b => rw [Option.some.inj h]

lemma authenticate_eq (g : Gateway) (r : Http.Request) :
    g.authenticate r =
      match credential r.headers with
      | .error e => .error e
      | .ok key => g.access.resolve g.vault.registry key := by
  simp only [authenticate, bind, Except.bind]
  cases credential r.headers <;> rfl

/-- Whoever is not recognised is told so with one status. -/
theorem status_of_authenticate {g : Gateway} {r : Http.Request} {e : Error}
    (h : g.authenticate r = .error e) : e.status = 401 := by
  rw [authenticate_eq] at h
  rcases hcredential : credential r.headers with e' | key
  · simp only [hcredential, Except.error.injEq] at h
    rw [← h, credential_error hcredential]
    rfl
  · simp only [hcredential, Access.resolve] at h
    split at h
    · rw [← Except.error.inj h]
      rfl
    split at h
    · cases h
    split at h
    · cases h
    · rw [← Except.error.inj h]
      rfl

end Gateway

/-- What the client gets of an exchange. -/
def Exchange.reply (x : Exchange) : Reply :=
  ⟨x.response.status, x.response.contentType, x.response.body⟩

/-- What the client would get of what handling came to. -/
def Handled.reply (x : Handled) : Reply :=
  let content := (Gateway.tell x.result).1
  ⟨content.1, content.2.contentType, content.2.body⟩

namespace Gateway

/-- A path that is not the gateway's own is forwarded with any method, and its answer is told in
full. -/
theorem handle_provider (g : Gateway) (m : Moment) (provider : Provider) {r : Http.Request}
    (hroute : Route.ofPath r.target.path = .provider) :
    (g.handle m provider r).reply = (g.withBody r (g.forward provider r)).reply ∧
      (g.handle m provider r).outbound = (g.withBody r (g.forward provider r)).outbound ∧
      (g.handle m provider r).gateway = (g.withBody r (g.forward provider r)).gateway := by
  simp only [handle, hroute, Route.task, perform, Exchange.reply, Handled.reply]
  -- only the gateway's own paths lose the body of their answer to `HEAD`
  simp

lemma withBody_of_fits {g : Gateway} {r : Http.Request} (next : Handled)
    (h : r.body.length ≤ g.maxBodyBytes.toNat) : g.withBody r next = next :=
  if_neg (Nat.not_lt.2 h)

/-- The verdict on a request decides everything that comes of it. -/
theorem withBody_forward (provider : Provider) {g : Gateway} {r : Http.Request}
    {verdict : Verdict} (h : Decides g r verdict) :
    (g.withBody r (g.forward provider r)).reply = verdict.reply provider ∧
      (g.withBody r (g.forward provider r)).outbound = verdict.outbound ∧
      (g.withBody r (g.forward provider r)).gateway = g := by
  cases h with
  | tooLong long =>
    rw [withBody, if_pos long]
    exact ⟨rfl, rfl, rfl⟩
  | @unrecognised e fits unknown =>
    have hforward : g.forward provider r = g.answer (.error e) := by simp only [forward, unknown]
    rw [withBody_of_fits _ fits, hforward]
    refine ⟨?_, rfl, rfl⟩
    simp only [answer, Handled.reply, tell, status_of_authenticate unknown]
    rfl
  | @unclassified _ e fits known unclear =>
    have hforward : g.forward provider r = g.answer (.error (.unclassified e)) := by
      simp only [forward, known, unclear]
    rw [withBody_of_fits _ fits, hforward]
    exact ⟨rfl, rfl, rfl⟩
  | @denied caller d reason fits known clear refused =>
    have hforward : g.forward provider r =
        ⟨.error (.denied reason), g, [denialEvent caller d reason], none⟩ := by
      simp only [forward, known, clear, refused]
    rw [withBody_of_fits _ fits, hforward]
    cases reason <;> exact ⟨rfl, rfl, rfl⟩
  | forwarded fits known clear allowed =>
    have hforward : g.forward provider r =
        ⟨relay (provider (outbound r)), g, [], some (outbound r)⟩ := by
      simp only [forward, known, clear, allowed]
    rw [withBody_of_fits _ fits, hforward]
    refine ⟨?_, rfl, rfl⟩
    simp only [Handled.reply, Verdict.reply, outbound]
    cases provider ⟨r.method, r.target.pathAndQuery, Http.firstHeader? r.headers "content-type",
      r.body⟩ <;> rfl

/-- The provider gets exactly the requests to which no stage objects. -/
theorem isSome_outbound_iff {g : Gateway} {m : Moment} {provider : Provider} {r : Http.Request}
    (hroute : Route.ofPath r.target.path = .provider) :
    (g.handle m provider r).outbound.isSome ↔
      r.body.length ≤ g.maxBodyBytes.toNat ∧ ∃ caller d, g.authenticate r = .ok caller ∧
        Endpoint.classify r.method r.target.path r.body = .ok d ∧
        Decision.check caller (Bootstrap.of g.vault.registry) d = .allow := by
  obtain ⟨verdict, hdecides⟩ := Decides.exists_verdict g r
  rw [(handle_provider g m provider hroute).2.1, (withBody_forward provider hdecides).2.1]
  constructor
  · intro hsome
    cases hdecides with
    | forwarded fits known clear allowed => exact ⟨fits, _, _, known, clear, allowed⟩
    | _ => cases hsome
  · rintro ⟨fits, caller, d, known, clear, allowed⟩
    rw [hdecides.unique (.forwarded fits known clear allowed)]
    rfl

/-- How a request for the provider is dealt with. -/
structure Mediated (g : Gateway) (m : Moment) (provider : Provider) (r : Http.Request) :
    Prop where
  /-- One verdict applies; it decides the answer and what the provider gets, and the gateway stays
  as it is. -/
  stages : ∃ verdict, Decides g r verdict ∧ (∀ other, Decides g r other → other = verdict) ∧
    (g.handle m provider r).reply = verdict.reply provider ∧
    (g.handle m provider r).outbound = verdict.outbound ∧
    (g.handle m provider r).gateway = g
  /-- A caller who is not recognised learns nothing of what was asked for. -/
  blind : ∀ e, g.authenticate r = .error e → r.body.length ≤ g.maxBodyBytes.toNat →
    ∀ (m' : Moment) (provider' : Provider) (r' : Http.Request),
      Route.ofPath r'.target.path = .provider → r'.headers = r.headers →
      r'.body.length ≤ g.maxBodyBytes.toNat →
      (g.handle m' provider' r').reply = (g.handle m provider r).reply

/-- Nothing reaches the provider unchecked, and the stages come in their order. -/
theorem mediated (g : Gateway) (m : Moment) (provider : Provider) (r : Http.Request)
    (hroute : Route.ofPath r.target.path = .provider) : Mediated g m provider r where
  stages := by
    obtain ⟨hreply, houtbound, hgateway⟩ := handle_provider g m provider hroute
    obtain ⟨verdict, hdecides⟩ := Decides.exists_verdict g r
    obtain ⟨hreply', houtbound', hgateway'⟩ := withBody_forward provider hdecides
    exact ⟨verdict, hdecides, fun other hother => hother.unique hdecides,
      hreply.trans hreply', houtbound.trans houtbound', hgateway.trans hgateway'⟩
  blind e hunknown hfits m' provider' r' hroute' hheaders hfits' := by
    have hunknown' : g.authenticate r' = .error e := by
      rw [authenticate_eq, hheaders, ← authenticate_eq, hunknown]
    rw [(handle_provider g m' provider' hroute').1,
      (withBody_forward provider' (.unrecognised hfits' hunknown')).1,
      (handle_provider g m provider hroute).1,
      (withBody_forward provider (.unrecognised hfits hunknown)).1]
    rfl

theorem mediated_listing :
    Route.ofPath "/dnszone" = .provider ∧
      Mediated ⟨.ofMasterKey (.ofKey "hash key") "master key", 1024, .inMemory, none⟩
        ⟨default, "", "", none⟩ (fun _ => .silent)
        ⟨.get, ⟨"/dnszone", "/dnszone?page=2"⟩, [⟨"accesskey", Text.bytes "master key"⟩], []⟩ :=
  ⟨by decide +kernel, mediated _ _ _ _ (by decide +kernel)⟩

end Gateway

end ZoneGate
