import Mathlib.Tactic.Lemma
import ZoneGate.Gateway

/-!
# Which requests mean what

The path of a request alone decides where it leads, and its method what is done there. Tokens are
made, shown and deleted under two kinds of path only, and the log level is changed under one.
-/
namespace ZoneGate

lemma Text.dropStart?_eq_some_iff {start s rest : String} :
    Text.dropStart? start s = some rest ↔ s = start ++ rest := by
  unfold Text.dropStart? Text.startsWith
  constructor
  · intro h
    split at h
    · rename_i hprefix
      obtain ⟨tail, htail⟩ := List.isPrefixOf_iff_prefix.1 hprefix
      rw [← htail, List.drop_left' String.length_toList] at h
      rw [← Option.some.inj h, ← String.toList_inj, ← htail]
      simp
    · cases h
  · rintro rfl
    simp [List.drop_left' String.length_toList]

namespace Route

/-- The path of one of the gateway's own routes. -/
def path? : Route → Option String
  | health => some "/healthcheck"
  | ready => some "/ready"
  | tokens => some "/admin/api/tokens"
  | token segment => some ("/admin/api/tokens/" ++ segment)
  | whoami => some "/admin/api/whoami"
  | logLevel => some "/admin/api/loglevel"
  | provider => none

lemma path?_ofPath (path : String) : (ofPath path).path? = some path ∨ ofPath path = .provider := by
  unfold ofPath
  repeat (split; · rename_i hpath; rw [hpath]; exact .inl rfl)
  split
  · rename_i segment hsegment
    split
    · exact .inr rfl
    · rw [Text.dropStart?_eq_some_iff.1 hsegment]
      exact .inl rfl
  · exact .inr rfl

lemma path?_of_ofPath {path : String} {route : Route} (h : ofPath path = route)
    (hown : route ≠ .provider) : route.path? = some path := by
  rw [← h] at hown ⊢
  exact (path?_ofPath path).resolve_right hown

theorem ofPath_eq_tokens_iff {path : String} :
    ofPath path = .tokens ↔ path = "/admin/api/tokens" :=
  ⟨fun h => (Option.some.inj (path?_of_ofPath h (by simp))).symm, fun h => h ▸ rfl⟩

theorem ofPath_eq_logLevel_iff {path : String} :
    ofPath path = .logLevel ↔ path = "/admin/api/loglevel" :=
  ⟨fun h => (Option.some.inj (path?_of_ofPath h (by simp))).symm, fun h => h ▸ rfl⟩

/-- The path of one token ends in a segment that names it. -/
theorem ofPath_eq_token_iff {path segment : String} :
    ofPath path = .token segment ↔
      path = "/admin/api/tokens/" ++ segment ∧ segment ≠ "" ∧ '/' ∉ segment.toList := by
  constructor
  · intro h
    have hpath := (Option.some.inj (path?_of_ofPath h (by simp))).symm
    unfold ofPath at h
    repeat (split at h; · cases h)
    split at h
    · split at h
      · cases h
      · rename_i hsegment
        cases h
        exact ⟨hpath, by simpa using hsegment⟩
    · cases h
  · rintro ⟨hpath, hempty, hslash⟩
    have hdrop := Text.dropStart?_eq_some_iff.2 hpath
    have hne {other : String} (hother : Text.dropStart? "/admin/api/tokens/" other = none) :
        path ≠ other := by
      rintro rfl
      rw [hdrop] at hother
      cases hother
    rw [ofPath, if_neg (hne rfl), if_neg (hne rfl), if_neg (hne rfl), if_neg (hne rfl),
      if_neg (hne rfl)]
    simp only [hdrop]
    rw [if_neg (by simpa using ⟨hempty, hslash⟩)]

end Route

/-- What a request wants done. -/
def Http.Request.task (r : Http.Request) : Task := (Route.ofPath r.target.path).task r.method

namespace Task

/-- The route of a task; refusals may come from any. -/
def route? : Task → Option Route
  | health => some .health
  | ready => some .ready
  | createToken => some .tokens
  | listTokens => some .tokens
  | showToken segment => some (.token segment)
  | deleteToken segment => some (.token segment)
  | whoami => some .whoami
  | setLogLevel => some .logLevel
  | forward => some .provider
  | refuse _ => none

variable {r : Http.Request}

lemma ofPath_of_route? {route : Route} (h : r.task.route? = some route) :
    Route.ofPath r.target.path = route := by
  rw [Http.Request.task] at h
  cases hroute : Route.ofPath r.target.path <;> grind [Route.task, route?]

/-- A task that a single method of its route asks for. -/
lemma eq_iff {task : Task} {route : Route} {method : Http.Method}
    (hroute : task.route? = some route) (hasks : route.task method = task)
    (honly : ∀ m, route.task m = task → m = method) :
    r.task = task ↔ r.method = method ∧ Route.ofPath r.target.path = route := by
  constructor
  · intro h
    have hpath := ofPath_of_route? (h ▸ hroute)
    rw [Http.Request.task, hpath] at h
    exact ⟨honly _ h, hpath⟩
  · rintro ⟨hmethod, hpath⟩
    rw [Http.Request.task, hmethod, hpath, hasks]

theorem eq_createToken_iff :
    r.task = .createToken ↔ r.method = .post ∧ r.target.path = "/admin/api/tokens" := by
  rw [← Route.ofPath_eq_tokens_iff]
  exact eq_iff rfl rfl fun m h => by grind [Route.task]

theorem eq_deleteToken_iff {segment : String} :
    r.task = .deleteToken segment ↔ r.method = .delete ∧
      r.target.path = "/admin/api/tokens/" ++ segment ∧ segment ≠ "" ∧ '/' ∉ segment.toList := by
  rw [← Route.ofPath_eq_token_iff]
  exact eq_iff rfl rfl fun m h => by grind [Route.task]

theorem eq_setLogLevel_iff :
    r.task = .setLogLevel ↔ r.method = .post ∧ r.target.path = "/admin/api/loglevel" := by
  rw [← Route.ofPath_eq_logLevel_iff]
  exact eq_iff rfl rfl fun m h => by grind [Route.task]

end Task

end ZoneGate
