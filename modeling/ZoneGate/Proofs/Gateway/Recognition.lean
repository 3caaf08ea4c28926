import ZoneGate.Proofs.Gateway.Forwarding
import ZoneGate.Proofs.Gateway.Routing

/-!
# Requests to manage tokens, by whom

On the paths for administration a caller is recognised before the id or the body that it sends is
looked at. A caller that is not recognised gets one answer, whatever it asked for. There is one
exception: a segment that is no text is refused before anybody is recognised.
-/
namespace ZoneGate

/-- A route on which tokens or the log level are managed. -/
def Route.IsAdmin : Route → Prop
  | tokens | token _ | whoami | logLevel => True
  | health | ready | provider => False

/-- Whether the segment that names a token, if there is one, is a text. -/
def Http.Request.Legible (r : Http.Request) : Prop :=
  ∀ segment, Route.ofPath r.target.path = .token segment → (decodeSegment? segment).isSome

/-- A request to manage tokens or the log level, with a method that its path has and a body that is
not too long. -/
structure Gateway.Admits (g : Gateway) (r : Http.Request) : Prop where
  route : (Route.ofPath r.target.path).IsAdmin
  method : ∀ methods, r.task ≠ .refuse methods
  fits : r.body.length ≤ g.maxBodyBytes.toNat

/-- What the client gets: `HEAD` asks for everything but the body. -/
def Reply.for (method : Http.Method) (reply : Reply) : Reply :=
  if method = .head then { reply with body := [] } else reply

@[simp] theorem Reply.status_for (method : Http.Method) (reply : Reply) :
    (reply.for method).status = reply.status := by
  unfold Reply.for
  split <;> rfl

/-- The answer to a segment that is no text. -/
def Reply.illegible : Reply :=
  let content := Http.Content.text "Invalid URL: Invalid UTF-8 in `id`"
  ⟨400, content.contentType, content.body⟩

namespace Gateway

variable {g : Gateway} {r : Http.Request} (m : Moment) (provider : Provider)

lemma reply_handle (hroute : Route.ofPath r.target.path ≠ .provider) :
    (g.handle m provider r).reply = (g.perform m provider r r.task).reply.for r.method := by
  by_cases hhead : r.method = .head
  · simp [handle, Exchange.reply, Handled.reply, Reply.for, Http.Request.task, hhead, hroute]
  · simp [handle, Exchange.reply, Handled.reply, Reply.for, Http.Request.task, hhead]

/-- What a request wants done on the paths for administration. -/
inductive Admits.Wants (r : Http.Request) : Task → Prop
  | createToken : Wants r .createToken
  | listTokens : Wants r .listTokens
  | showToken {segment : String} (path : Route.ofPath r.target.path = .token segment) :
      Wants r (.showToken segment)
  | deleteToken {segment : String} (path : Route.ofPath r.target.path = .token segment) :
      Wants r (.deleteToken segment)
  | whoami : Wants r .whoami
  | setLogLevel : Wants r .setLogLevel

namespace Admits

lemma wants (h : g.Admits r) : Wants r r.task := by
  obtain ⟨hadmin, haccepted, -⟩ := h
  have hroute {route : Route} (h : r.task.route? = some route) : route.IsAdmin :=
    Task.ofPath_of_route? h ▸ hadmin
  rcases htask : r.task with _ | _ | _ | _ | segment | segment | _ | _ | _ | methods <;>
    rw [htask] at hroute
  case health => exact (hroute rfl).elim
  case ready => exact (hroute rfl).elim
  case createToken => exact .createToken
  case listTokens => exact .listTokens
  case showToken => exact .showToken (Task.ofPath_of_route? (by rw [htask]; rfl))
  case deleteToken => exact .deleteToken (Task.ofPath_of_route? (by rw [htask]; rfl))
  case whoami => exact .whoami
  case setLogLevel => exact .setLogLevel
  case forward => exact (hroute rfl).elim
  case refuse => exact (haccepted methods htask).elim

end Admits

/-- A caller that is not recognised is told so before its id or body is looked at. -/
lemma perform_unrecognised (h : g.Admits r) (hlegible : r.Legible) {e : Error}
    (hunknown : g.authenticate r = .error e) :
    g.perform m provider r r.task = g.answer (.error e) := by
  have hsegment {segment : String} {next : String → Handled}
      (hpath : Route.ofPath r.target.path = .token segment)
      (hnext : ∀ text, next text = g.answer (.error e)) :
      g.withSegment segment next = g.answer (.error e) := by
    obtain ⟨text, htext⟩ := Option.isSome_iff_exists.1 (hlegible segment hpath)
    simp only [withSegment, htext, hnext]
  generalize htask : r.task = task
  cases htask ▸ h.wants with
  | createToken => simp only [perform, withBody_of_fits _ h.fits, createToken, hunknown]
  | listTokens => simp only [perform, listTokens, hunknown]; rfl
  | showToken path =>
    refine hsegment path fun text => ?_
    simp only [showToken, hunknown]
    rfl
  | deleteToken path =>
    refine hsegment path fun text => ?_
    simp only [deleteToken, hunknown]
  | whoami => simp only [perform, whoami, hunknown]; rfl
  | setLogLevel => simp only [perform, withBody_of_fits _ h.fits, setLogLevel, hunknown]

/-- A segment that is no text is refused whoever sends it. -/
lemma perform_illegible (h : g.Admits r) (hillegible : ¬ r.Legible) :
    (g.perform m provider r r.task).reply = Reply.illegible := by
  simp only [Http.Request.Legible, not_forall, Option.not_isSome_iff_eq_none] at hillegible
  obtain ⟨segment, hpath, hnone⟩ := hillegible
  have hroute {route : Route} (hroute : r.task.route? = some route) : .token segment = route :=
    hpath.symm.trans (Task.ofPath_of_route? hroute)
  have hsegment (next : String → Handled) :
      (g.withSegment segment next).reply = Reply.illegible := by
    simp only [withSegment, hnone]
    rfl
  generalize htask : r.task = task at hroute
  cases htask ▸ h.wants with
  | showToken =>
    cases hroute rfl
    exact hsegment _
  | deleteToken =>
    cases hroute rfl
    exact hsegment _
  | createToken | listTokens | whoami | setLogLevel => cases hroute rfl

/-- How a request to manage tokens is received. -/
structure Receives (g : Gateway) (m : Moment) (provider : Provider) (r : Http.Request) :
    Prop where
  /-- A caller that is not recognised is told why. -/
  refused : r.Legible → ∀ e, g.authenticate r = .error e →
    (g.handle m provider r).reply = (Verdict.refusal 401 e.message).for r.method
  /-- It is told nothing else, whichever token it names and whatever its body is. -/
  blind : r.Legible → ∀ e, g.authenticate r = .error e →
    ∀ (m' : Moment) (provider' : Provider) (r' : Http.Request), g.Admits r' → r'.Legible →
      r'.headers = r.headers → (r'.method = .head ↔ r.method = .head) →
      (g.handle m' provider' r').reply = (g.handle m provider r).reply
  /-- A request is found fault with only where its caller is recognised. -/
  judged : r.Legible → (g.handle m provider r).response.status = 400 →
    ∃ caller, g.authenticate r = .ok caller
  /-- The exception: a segment that is no text is refused whoever sends it. -/
  illegible : ¬ r.Legible → (g.handle m provider r).reply = Reply.illegible.for r.method

lemma Admits.route_ne (h : g.Admits r) : Route.ofPath r.target.path ≠ .provider := by
  intro hroute
  have hadmin := h.route
  rw [hroute] at hadmin
  exact hadmin

lemma reply_unrecognised (h : g.Admits r) (hlegible : r.Legible) {e : Error}
    (hunknown : g.authenticate r = .error e) :
    (g.handle m provider r).reply = (Verdict.refusal 401 e.message).for r.method := by
  have hanswer : (g.answer (.error e)).reply = Verdict.refusal 401 e.message := by
    simp only [answer, Handled.reply, tell, status_of_authenticate hunknown]
    rfl
  rw [reply_handle m provider h.route_ne, perform_unrecognised m provider h hlegible hunknown,
    hanswer]

lemma reply_illegible (h : g.Admits r) (hillegible : ¬ r.Legible) :
    (g.handle m provider r).reply = Reply.illegible.for r.method := by
  rw [reply_handle m provider h.route_ne, perform_illegible m provider h hillegible]

/-- Callers are recognised before anything that they send is looked at, except that a segment must
be a text. -/
theorem receives (h : g.Admits r) : g.Receives m provider r where
  refused hlegible _ hunknown := reply_unrecognised m provider h hlegible hunknown
  blind hlegible e hunknown m' provider' r' h' hlegible' hheaders hhead := by
    have hunknown' : g.authenticate r' = .error e := by
      rw [authenticate_eq, hheaders, ← authenticate_eq, hunknown]
    rw [reply_unrecognised m' provider' h' hlegible' hunknown',
      reply_unrecognised m provider h hlegible hunknown]
    simp only [Reply.for, hhead]
  judged hlegible hstatus := by
    rcases hknown : g.authenticate r with e | caller
    · have hreply := congrArg Reply.status (reply_unrecognised m provider h hlegible hknown)
      rw [Reply.status_for] at hreply
      have hne : 400 = 401 := hstatus.symm.trans hreply
      cases hne
    · exact ⟨caller, rfl⟩
  illegible hillegible := reply_illegible m provider h hillegible

/-- A gateway without tokens. -/
def vacantSample : Gateway := ⟨.sample, 1024, .inMemory, none⟩

/-- A request to see a token, without a key. -/
def strangerSample (segment : String) : Http.Request :=
  ⟨.get, ⟨"/admin/api/tokens/" ++ segment, "/admin/api/tokens/" ++ segment⟩, [], []⟩

lemma ofPath_strangerSample {segment : String} (hempty : segment ≠ "")
    (hslash : '/' ∉ segment.toList) :
    Route.ofPath (strangerSample segment).target.path = .token segment :=
  Route.ofPath_eq_token_iff.2 ⟨rfl, hempty, hslash⟩

lemma admits_strangerSample {segment : String} (hempty : segment ≠ "")
    (hslash : '/' ∉ segment.toList) : vacantSample.Admits (strangerSample segment) := by
  have hroute := ofPath_strangerSample hempty hslash
  refine ⟨by rw [hroute]; trivial, fun methods => ?_, Nat.zero_le _⟩
  rw [Http.Request.task, hroute]
  exact Task.noConfusion

/-- Who names a token that cannot be is told that the key is missing. -/
theorem receives_stranger :
    (vacantSample.handle ⟨default, "", "", none⟩ (fun _ => .silent)
      (strangerSample "nothing")).reply = Verdict.refusal 401 "missing API key" := by
  have hadmits : vacantSample.Admits (strangerSample "nothing") :=
    admits_strangerSample (by decide) (by decide)
  have hlegible : (strangerSample "nothing").Legible := by
    intro segment hsegment
    rw [ofPath_strangerSample (by decide) (by decide)] at hsegment
    cases hsegment
    decide +kernel
  exact (receives _ _ hadmits).refused hlegible .missingKey rfl

/-- A segment that is no text is found fault with though nobody has been recognised. -/
theorem illegible_unrecognised :
    vacantSample.Admits (strangerSample "%FF") ∧
      vacantSample.authenticate (strangerSample "%FF") = .error .missingKey ∧
      (vacantSample.handle ⟨default, "", "", none⟩ (fun _ => .silent)
        (strangerSample "%FF")).response.status = 400 := by
  have hadmits : vacantSample.Admits (strangerSample "%FF") :=
    admits_strangerSample (by decide) (by decide)
  have hillegible : ¬ (strangerSample "%FF").Legible := by
    intro hlegible
    have hsome := hlegible "%FF" (ofPath_strangerSample (by decide) (by decide))
    revert hsome
    decide +kernel
  exact ⟨hadmits, rfl, congrArg Reply.status (reply_illegible _ _ hadmits hillegible)⟩

end Gateway

end ZoneGate
