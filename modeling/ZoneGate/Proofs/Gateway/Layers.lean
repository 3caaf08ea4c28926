import ZoneGate.Proofs.Gateway.Secrecy
import ZoneGate.Proofs.Gateway.Credentials
import ZoneGate.Proofs.Http.Identifier

/-!
# The layers around the handlers

Three layers see to the id of a request. The outermost drops ids that are not plain, the next one
gives an id to a request without one, and the third copies the id of the request to the answer.
What a gateway does with a request is what its handlers do behind these layers, whose work no
handler can tell.
-/
namespace ZoneGate

open Text

namespace Http

/-! ## Headers on their way through the layers -/

namespace RequestId

/-- Drops the ids of a request whose first one is not plain. -/
def screen (headers : List Header) : List Header :=
  match firstHeader? headers headerName with
  | none => headers
  | some id => if isValid id then headers else headers.filter (·.name ≠ headerName)

/-- Gives a request an id if it has none. -/
def assign (fresh : String) (headers : List Header) : List Header :=
  match firstHeader? headers headerName with
  | none => headers ++ [⟨headerName, bytes fresh⟩]
  | some _ => headers

/-- Copies the id of a request to an answer without one. -/
def echo (asked answered : List Header) : List Header :=
  match firstHeader? answered headerName, firstHeader? asked headerName with
  | none, some id => answered ++ [⟨headerName, id⟩]
  | _, _ => answered

/-- The id that the log shows of a request. -/
def shown (headers : List Header) : String :=
  ((firstHeader? headers headerName).bind headerText?).getD "-"

end RequestId

variable {headers : List Header} {name : String}

lemma firstHeader?_append (front back : List Header) :
    firstHeader? (front ++ back) name = (firstHeader? front name).or (firstHeader? back name) := by
  simp only [firstHeader?, List.find?_append, Option.map_or]

lemma firstHeader?_singleton (h : Header) :
    firstHeader? [h] name = if h.name = name then some h.value else none := by
  by_cases hname : h.name = name <;> simp [firstHeader?, hname]

lemma firstHeader?_filter_self :
    firstHeader? (headers.filter (·.name ≠ name)) name = none := by
  rw [firstHeader?, Option.map_eq_none_iff, List.find?_eq_none]
  intro h hmem
  simpa using (List.mem_filter.1 hmem).2

lemma firstHeader?_filter {other : String} (hne : name ≠ other) :
    firstHeader? (headers.filter (·.name ≠ other)) name = firstHeader? headers name := by
  have hsame (h : Header) :
      decide (decide (h.name ≠ other) = true ∧ decide (h.name = name) = true) =
        decide (h.name = name) := by
    by_cases hname : h.name = name
    · simp [hname, hne]
    · simp [hname]
  simp only [firstHeader?, List.find?_filter, hsame]

namespace RequestId

variable {fresh : String} {id : List UInt8}

lemma headerText?_of_plain (h : Plain id) : ∃ s, headerText? id = some s ∧ bytes s = id := by
  obtain ⟨s, rfl⟩ := exists_bytes_eq h.isTextByte
  exact ⟨s, headerText?_bytes h.isTextByte, rfl⟩

/-- A plain id is kept. -/
lemma choose_of_plain (hfirst : firstHeader? headers headerName = some id) (hplain : Plain id) :
    bytes (choose headers fresh) = id := by
  obtain ⟨s, htext, hs⟩ := headerText?_of_plain hplain
  simp only [choose, hfirst, isValid_iff.2 hplain, if_true, htext, Option.getD_some, hs]

/-- Any other one is replaced. -/
lemma choose_of_not_plain (h : ∀ id, firstHeader? headers headerName = some id → ¬ Plain id) :
    choose headers fresh = fresh := by
  unfold choose
  split
  · rfl
  · rename_i id hfirst
    rw [if_neg fun hvalid => h id hfirst (isValid_iff.1 hvalid)]

lemma plain_choose (hfresh : Plain (bytes fresh)) : Plain (bytes (choose headers fresh)) := by
  by_cases hkept : ∃ id, firstHeader? headers headerName = some id ∧ Plain id
  · obtain ⟨id, hfirst, hplain⟩ := hkept
    rwa [choose_of_plain hfirst hplain]
  · rwa [choose_of_not_plain fun id hfirst hplain => hkept ⟨id, hfirst, hplain⟩]

/-- Behind the first two layers a request has the id that is chosen for it. -/
theorem firstHeader?_assign_screen (headers : List Header) (fresh : String) :
    firstHeader? (assign fresh (screen headers)) headerName =
      some (bytes (choose headers fresh)) := by
  have hassigned {hs : List Header} (hnone : firstHeader? hs headerName = none) :
      firstHeader? (assign fresh hs) headerName = some (bytes fresh) := by
    simp [assign, hnone, firstHeader?_append, firstHeader?_singleton]
  rcases hfirst : firstHeader? headers headerName with _ | id
  · rw [choose_of_not_plain (by simp [hfirst])]
    simp only [screen, hfirst]
    exact hassigned hfirst
  by_cases hplain : Plain id
  · rw [choose_of_plain hfirst hplain]
    simp only [screen, hfirst, isValid_iff.2 hplain, if_true, assign]
  · rw [choose_of_not_plain (by simpa [hfirst] using hplain)]
    simp only [screen, hfirst, if_neg fun hvalid => hplain (isValid_iff.1 hvalid)]
    exact hassigned firstHeader?_filter_self

/-- An answer without an id gets that of the request. -/
lemma echo_eq {asked answered : List Header} (hanswered : firstHeader? answered headerName = none)
    (hasked : firstHeader? asked headerName = some id) :
    echo asked answered = answered ++ [⟨headerName, id⟩] := by
  simp only [echo, hanswered, hasked]

/-- They leave all other headers as they are. -/
theorem firstHeader?_assign_screen_of_ne (headers : List Header) (fresh : String)
    (hne : name ≠ headerName) :
    firstHeader? (assign fresh (screen headers)) name = firstHeader? headers name := by
  have hscreen : firstHeader? (screen headers) name = firstHeader? headers name := by
    unfold screen
    split
    · rfl
    split
    · rfl
    · exact firstHeader?_filter hne
  rw [← hscreen, assign]
  split
  · simp [firstHeader?_append, firstHeader?_singleton, Ne.symm hne]
  · rfl

lemma shown_assign_screen (hfresh : Plain (bytes fresh)) :
    shown (assign fresh (screen headers)) = choose headers fresh := by
  rw [shown, firstHeader?_assign_screen, Option.bind_some,
    headerText?_bytes (plain_choose hfresh).isTextByte, Option.getD_some]

end RequestId

end Http

/-! ## Handlers -/

namespace Gateway

variable {g : Gateway} {m : Moment} {provider : Provider} {r : Http.Request}
  {headers : List Http.Header}
  (hsame : ∀ name, name ≠ Http.RequestId.headerName →
    Http.firstHeader? headers name = Http.firstHeader? r.headers name)

include hsame

lemma authenticate_of_same : g.authenticate { r with headers } = g.authenticate r := by
  have hread (name : String) (hne : name ≠ Http.RequestId.headerName) :
      readHeader headers name = readHeader r.headers name := by
    simp only [readHeader, hsame name hne]
  have hcredential : credential headers = credential r.headers := by
    simp only [credential, hread "accesskey" (by decide), hread "authorization" (by decide)]
  simp only [authenticate_eq, hcredential]

/-- The handlers do not look at the id of a request. -/
theorem perform_of_same (task : Task) :
    g.perform m provider { r with headers } task = g.perform m provider r task := by
  have hknown : g.authenticate { r with headers } = g.authenticate r := authenticate_of_same hsame
  have houtbound : outbound { r with headers } = outbound r := by
    simp only [outbound, hsame "content-type" (by decide)]
  cases task <;> simp only [perform, withBody, withSegment, createToken, listTokens, showToken,
    deleteToken, whoami, setLogLevel, forward, hknown, houtbound]

end Gateway

/-- What comes of a request but for the headers of its answer. -/
structure Consequence where
  status : Nat
  body : List UInt8
  gateway : Gateway
  span : Option Log.Span
  events : List Log.Event
  outbound : Option Outbound

def Exchange.consequence (x : Exchange) : Consequence :=
  ⟨x.response.status, x.response.body, x.gateway, x.span, x.events, x.outbound⟩

/-- Something that answers requests: the headers of the answer, and what else comes of it. -/
abbrev Service := Http.Request → List Http.Header × Consequence

namespace Service

def screened (inner : Service) : Service := fun r =>
  inner { r with headers := Http.RequestId.screen r.headers }

def numbered (fresh : String) (inner : Service) : Service := fun r =>
  inner { r with headers := Http.RequestId.assign fresh r.headers }

def echoed (inner : Service) : Service := fun r =>
  let (headers, consequence) := inner r
  (Http.RequestId.echo r.headers headers, consequence)

end Service

namespace Gateway

/-- The handlers of a gateway with the log span around them. -/
def served (g : Gateway) (m : Moment) (provider : Provider) : Service := fun r =>
  let handled := g.perform m provider r r.task
  let ((status, content), failure) := tell handled.result
  let allow := match r.task with
    | .refuse methods => some methods
    | _ => none
  let body :=
    if r.method = .head && Route.ofPath r.target.path ≠ .provider then [] else content.body
  let span := entered g.filter (requestSpan r (Http.RequestId.shown r.headers))
  (content.contentType.toList.map (⟨"content-type", ·⟩) ++
      allow.toList.map fun methods => ⟨"allow", bytes methods⟩,
    { status, body, span
      gateway := handled.gateway
      events := Log.visible handled.gateway.filter span (handled.events ++ failure)
      outbound := handled.outbound })

/-- The handlers set no id themselves. -/
lemma firstHeader?_served (g : Gateway) (m : Moment) (provider : Provider) (r : Http.Request) :
    Http.firstHeader? (g.served m provider r).1 Http.RequestId.headerName = none := by
  have hother {α : Type} (o : Option α) {name : String} (value : α → List UInt8)
      (hne : name ≠ Http.RequestId.headerName) :
      Http.firstHeader? (o.toList.map fun a => ⟨name, value a⟩) Http.RequestId.headerName =
        none := by
    cases o <;> simp [Http.firstHeader?, hne]
  simp only [served, Http.firstHeader?_append, hother _ _ (show "content-type" ≠ _ by decide),
    hother _ _ (show "allow" ≠ _ by decide), Option.or_none]

/-- What a gateway does with a request is what its handlers do behind the layers. -/
theorem layered (g : Gateway) {m : Moment} (provider : Provider) (r : Http.Request)
    (hfresh : Http.RequestId.Plain (bytes m.requestId)) :
    ((g.served m provider).echoed.numbered m.requestId).screened r =
      ((g.handle m provider r).response.headers, (g.handle m provider r).consequence) := by
  -- the request as the handlers meet it
  let behind : Http.Request :=
    { r with headers := Http.RequestId.assign m.requestId (Http.RequestId.screen r.headers) }
  have hperform : g.perform m provider behind behind.task = g.perform m provider r r.task :=
    perform_of_same
      (fun _ => Http.RequestId.firstHeader?_assign_screen_of_ne r.headers m.requestId) r.task
  have hshown : Http.RequestId.shown behind.headers =
      Http.RequestId.choose r.headers m.requestId := Http.RequestId.shown_assign_screen hfresh
  have hheaders : (g.served m provider behind).1 ++
      [⟨Http.RequestId.headerName, bytes (Http.RequestId.choose r.headers m.requestId)⟩] =
        (g.handle m provider r).response.headers := by
    simp only [served, hperform]
    rfl
  have hconsequence : (g.served m provider behind).2 = (g.handle m provider r).consequence := by
    simp only [served, hperform, hshown]
    rfl
  have hecho := Http.RequestId.echo_eq (firstHeader?_served g m provider behind)
    (Http.RequestId.firstHeader?_assign_screen r.headers m.requestId)
  exact Prod.ext (hecho.trans hheaders) hconsequence

end Gateway

end ZoneGate
