import ZoneGate.Proofs.Access.Grants
import ZoneGate.Proofs.Session.History

/-!
# The master key's one use

The master key makes the first administrator token and nothing after it. Who is allowed to act is
decided when a call acts and not when its caller was recognised, so the order of calls, failures of
the disk and opening the file again do not matter.
-/
namespace ZoneGate

@[simp] theorem Bootstrap.of_eq_configured {r : Registry} :
    Bootstrap.of r = .configured ↔ r.adminEverCreated = true := by
  cases h : r.adminEverCreated <;> simp [Bootstrap.of, h]

namespace Traced

variable {access : Access} {r : Registry} {history : List Event}

/-- Before a token was made the registry is as empty as at the start. -/
theorem of_issues_eq_nil (h : Traced access r history) (hnone : Event.issues history = []) :
    r.nextId = 0 ∧ r.adminEverCreated = false ∧ ∀ id, r.tokens.get? id = none := by
  refine ⟨?_, ?_, fun id => ?_⟩
  · rw [h.nextId_eq, hnone]
    rfl
  · rw [h.adminEverCreated_eq, hnone]
    rfl
  · rw [h.get?_eq]
    rcases hstanding : Event.standing id history with _ | i
    · rfl
    · have hmem := (Event.mem_of_standing hstanding).1
      simp [hnone] at hmem

/-- The first token is an administrator that the master key asked for. -/
theorem head?_issues (h : Traced access r history) {i : Issue}
    (hi : (Event.issues history).head? = some i) :
    i.caller = .master ∧ i.issued.token.isAdmin ∧ i.issued.token.id = 1 := by
  induction h with
  | start => cases hi
  | @step r r' history e traced effect ih =>
    rcases hissues : Event.issues history with _ | ⟨j, rest⟩
    · obtain ⟨hnext, hflag, hempty⟩ := traced.of_issues_eq_nil hissues
      rw [Event.issues_concat, hissues] at hi
      cases effect with
      | issue approved _ created =>
        simp only [Event.issue?, Option.toList_some, List.nil_append, List.head?_cons,
          Option.some.injEq] at hi
        subst hi
        obtain ⟨hauthorize, hvalidate, hadmin⟩ := Admin.approve_ok approved
        obtain ⟨htoken, -⟩ := Registry.create_eq created
        refine ⟨?_, ?_, by rw [htoken, hnext]; rfl⟩
        -- no stored token can vouch for a caller yet
        · rcases Admin.authorize_ok hauthorize with ⟨hmaster, -⟩ | ⟨t, stored, -, -, hget, -⟩
          · exact hmaster
          · simp [hempty] at hget
        · rw [htoken]
          exact (Grant.validate_ok hvalidate).1.trans (hadmin hflag)
      | revoke => simp [Event.issue?] at hi
      | keep noIssue _ => simp [noIssue] at hi
    · rw [Event.issues_concat, hissues, List.cons_append, List.head?_cons] at hi
      rw [hissues] at ih
      exact ih hi

theorem adminEverCreated_of_issues (h : Traced access r history)
    (hsome : Event.issues history ≠ []) : r.adminEverCreated = true := by
  obtain ⟨i, rest, hcons⟩ := List.exists_cons_of_ne_nil hsome
  obtain ⟨-, hadmin, -⟩ := h.head?_issues (i := i) (by rw [hcons, List.head?_cons])
  rw [h.adminEverCreated_eq, hcons, List.any_cons, hadmin, Bool.true_or]

/-- No token but the first was asked for by the master key. -/
theorem not_master_of_mem_tail (h : Traced access r history) {i : Issue}
    (hi : i ∈ (Event.issues history).tail) : i.caller ≠ .master := by
  induction h with
  | start => simp at hi
  | @step r r' history e traced effect ih =>
    rcases hissues : Event.issues history with _ | ⟨j, rest⟩
    · rw [Event.issues_concat, hissues] at hi
      cases he : e.issue? <;> simp [he] at hi
    · have hflag := traced.adminEverCreated_of_issues (by simp [hissues])
      rw [Event.issues_concat, hissues, List.cons_append, List.tail_cons] at hi
      rw [hissues, List.tail_cons] at ih
      rcases List.mem_append.1 hi with hi | hi
      · exact ih hi
      cases effect with
      | issue approved =>
        simp only [Event.issue?, Option.toList_some, List.mem_singleton] at hi
        subst hi
        rintro rfl
        have hauthorize := (Admin.approve_ok approved).1
        simp [Admin.authorize_master hflag] at hauthorize
      | revoke => simp [Event.issue?] at hi
      | keep noIssue _ => simp [noIssue] at hi

end Traced

/-- Once an administrator was made, calls by the master key are refused and do nothing. -/
theorem Vault.perform_master {access : Access} {v : Vault} (h : v.registry.adminEverCreated = true)
    {c : Call} (hc : c.caller? = some .master) :
    v.perform access c = (.error (.denied .masterKeyLocked), v) :=
  Vault.perform_refused hc (Admin.authorize_master h)

namespace Session

variable {access : Access} {s : Session}

/-- A run only adds to the history. -/
theorem exists_history_run (access : Access) (s : Session) (calls : List Call) :
    ∃ more, (s.run access calls).history = s.history ++ more := by
  unfold run
  induction calls generalizing s with
  | nil => exact ⟨[], by simp⟩
  | cons c calls ih =>
    obtain ⟨more, hmore⟩ := ih (s.step access c)
    exact ⟨_, by rw [List.foldl_cons, hmore, step, List.append_assoc]⟩

theorem Reached.adminEverCreated_run (h : s.Reached access)
    (hflag : s.vault.registry.adminEverCreated = true) (calls : List Call) :
    (s.run access calls).vault.registry.adminEverCreated = true := by
  obtain ⟨more, hmore⟩ := exists_history_run access s calls
  rw [h.traced.1.adminEverCreated_eq] at hflag
  rw [(h.run calls).traced.1.adminEverCreated_eq, hmore, Event.issues_append, List.any_append,
    hflag, Bool.true_or]

/-- What the master key is told once a token was made. -/
theorem Reached.result_of_master (h : s.Reached access) {before after : List Event} {e e' : Event}
    (hsplit : s.history = before ++ e :: after) (he : e.issue?.isSome) (he' : e' ∈ after)
    (hmaster : e'.call.caller? = some .master) :
    e'.result = .error (.denied .masterKeyLocked) := by
  induction h generalizing before after with
  | start => simp at hsplit
  | @step s reached c ih =>
    obtain ⟨early, last, rfl⟩ :=
      (List.eq_nil_or_concat after).resolve_left (List.ne_nil_of_mem he')
    rw [List.concat_eq_append] at hsplit he'
    have hparts : s.history ++ [⟨c, (s.vault.perform access c).1⟩] =
        (before ++ e :: early) ++ [last] := by
      simpa [Session.step] using hsplit
    obtain ⟨hhistory, hlast⟩ := List.append_inj' hparts rfl
    rcases List.mem_append.1 he' with hearly | hlate
    · exact ih hhistory hearly
    rw [List.mem_singleton.1 hlate, ← List.singleton_inj.1 hlast] at hmaster ⊢
    have hissues : Event.issues s.history ≠ [] := by
      obtain ⟨i, hi⟩ := Option.isSome_iff_exists.1 he
      rw [hhistory, Event.issues_split hi]
      simp
    have hflag := reached.traced.1.adminEverCreated_of_issues hissues
    rw [Vault.perform_master hflag hmaster]

/-- How every run passes from the master key to administrator tokens. -/
structure OneWay (access : Access) (s : Session) : Prop where
  permanent : Bootstrap.of s.vault.registry = .configured →
    ∀ calls, Bootstrap.of (s.run access calls).vault.registry = .configured
  /-- The master key makes at most one token. -/
  once : (Event.issues s.history).countP (·.caller.isMaster) ≤ 1
  first : ∀ i, (Event.issues s.history).head? = some i →
    i.caller = .master ∧ i.issued.token.isAdmin ∧ i.issued.token.id = 1
  refused : ∀ before e after, s.history = before ++ e :: after → e.issue?.isSome →
    ∀ e' ∈ after, e'.call.caller? = some .master →
      e'.result = .error (.denied .masterKeyLocked)
  /-- A refused call leaves the registry, the file and its directory as they are. -/
  unchanged : Event.issues s.history ≠ [] → ∀ c, c.caller? = some .master →
    s.vault.perform access c = (.error (.denied .masterKeyLocked), s.vault)

theorem Reached.oneWay (h : s.Reached access) : OneWay access s where
  permanent hconfigured calls := by
    have hflag := Bootstrap.of_eq_configured.1 hconfigured
    exact Bootstrap.of_eq_configured.2 (h.adminEverCreated_run hflag calls)
  once := by
    rcases hissues : Event.issues s.history with _ | ⟨i, rest⟩
    · simp
    · have hrest : rest.countP (·.caller.isMaster) = 0 := by
        refine List.countP_eq_zero.2 fun j hj => ?_
        have hne := h.traced.1.not_master_of_mem_tail (i := j) (by rwa [hissues])
        cases hcaller : j.caller
        · exact absurd hcaller hne
        · simp [Identity.isMaster]
      rw [List.countP_cons, hrest]
      split <;> omega
  first i := h.traced.1.head?_issues
  refused before e after hsplit he e' he' hmaster := h.result_of_master hsplit he he' hmaster
  unchanged hissues c hc :=
    Vault.perform_master (h.traced.1.adminEverCreated_of_issues hissues) hc

theorem oneWay_sample :
    (Event.issues sample.history).length = 2 ∧ OneWay .sample sample :=
  ⟨rfl, reached_sample.oneWay⟩

end Session

end ZoneGate
