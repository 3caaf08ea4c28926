import ZoneGate.Proofs.Vault.Ledger
import ZoneGate.Proofs.Vault.Steps

/-!
# What a crash leaves

The process that serves a vault may die at any moment, also while its state file is being replaced,
and the file is opened again afterwards. The state file is a whole document all along. It holds what
the acknowledged operations led to, where the one that was under way when the process died has
happened as a whole or not at all.
-/
namespace ZoneGate

/-- What was tried on a state file. -/
inductive Attempt where
  | opened
  | answered (op : Operation) (result : Except Error Outcome)
  /-- The process died before it had answered. -/
  | interrupted (op : Operation)

namespace Attempt

/-- What an attempt leaves of a registry. -/
inductive Leaves (r : Registry) : Attempt → Registry → Prop
  | opened : Leaves r .opened r
  | done {op : Operation} {outcome : Outcome} {r' : Registry}
      (taken : r.take op = (.ok outcome, r')) : Leaves r (.answered op (.ok outcome)) r'
  | refused {op : Operation} {e : Error} : Leaves r (.answered op (.error e)) r
  | lost {op : Operation} : Leaves r (.interrupted op) r
  | kept {op : Operation} {outcome : Outcome} {r' : Registry}
      (taken : r.take op = (.ok outcome, r')) : Leaves r (.interrupted op) r'

/-- The id that an attempt has deleted or may have deleted. -/
def deletes? : Attempt → Option TokenId
  | answered (.delete id) (.ok _) => some id
  | interrupted (.delete id) => some id
  | _ => none

/-- Whether an attempt has made a token or may have made one. -/
def creates : Attempt → Bool
  | answered (.create _ _ _) (.ok _) => true
  | interrupted (.create _ _ _) => true
  | _ => false

/-- The changes that an attempt may have made. -/
inductive Makes : Attempt → Option Change → Prop
  | opened : Makes .opened none
  | answered {op : Operation} {result : Except Error Outcome} {change? : Option Change}
      (change : op.change? result = change?) : Makes (.answered op result) change?
  | lost {op : Operation} : Makes (.interrupted op) none
  | kept {op : Operation} {outcome : Outcome} {change? : Option Change}
      (change : op.change? (.ok outcome) = change?) : Makes (.interrupted op) change?

end Attempt

/-- The registries that a history of attempts can have led to. -/
inductive Accounts : List Attempt → Registry → Prop
  | start : Accounts [] .empty
  | step {history : List Attempt} {r r' : Registry} {attempt : Attempt}
      (accounts : Accounts history r) (leaves : attempt.Leaves r r') :
      Accounts (history ++ [attempt]) r'

theorem Registry.exists_take_of_pending {r next : Registry} {op : Operation}
    (h : r.pending? op = some next) : ∃ outcome, r.take op = (.ok outcome, next) := by
  cases op with
  | create t digest now =>
    cases h
    exact ⟨_, rfl⟩
  | delete id =>
    rcases hdelete : r.delete id with e | ⟨t, r'⟩
    · simp [pending?, hdelete, Except.toOption] at h
    · have hnext : r' = next := by simpa [pending?, hdelete, Except.toOption] using h
      exact ⟨.token t, by simp only [take, hdelete, hnext]⟩
  | get => cases h
  | list => cases h
  | find => cases h
  | adminEverCreated => cases h

/-! ## The changes in a history -/

namespace Operation

variable {op : Operation} {result : Except Error Outcome} {t : Token}

theorem change?_eq_made (h : op.change? result = some (.made t)) :
    ∃ asked digest now, op = .create asked digest now ∧ result = .ok (.token t) := by
  unfold change? at h
  split at h
  · cases h
    exact ⟨_, _, _, rfl, rfl⟩
  · cases h
  · cases h

theorem change?_eq_deleted {id : TokenId} (h : op.change? result = some (.deleted id t)) :
    op = .delete id ∧ result = .ok (.token t) := by
  unfold change? at h
  split at h
  · cases h
  · cases h
    exact ⟨rfl, rfl⟩
  · cases h

@[simp] theorem change?_error (op : Operation) (e : Error) : op.change? (.error e) = none := by
  cases op <;> rfl

end Operation

namespace Attempt

variable {a : Attempt} {t : Token}

theorem Makes.creates (h : a.Makes (some (.made t))) : a.creates := by
  cases h with
  | answered change =>
    obtain ⟨_, _, _, rfl, rfl⟩ := Operation.change?_eq_made change
    rfl
  | kept change =>
    obtain ⟨_, _, _, rfl, -⟩ := Operation.change?_eq_made change
    rfl

theorem Makes.deletes {id : TokenId} (h : a.Makes (some (.deleted id t))) :
    a.deletes? = some id := by
  cases h with
  | answered change =>
    obtain ⟨rfl, rfl⟩ := Operation.change?_eq_deleted change
    rfl
  | kept change =>
    obtain ⟨rfl, -⟩ := Operation.change?_eq_deleted change
    rfl

/-- What an attempt leaves comes about by a change that it may have made. -/
theorem Leaves.exists_settles {r r' : Registry} (h : a.Leaves r r') :
    ∃ change?, a.Makes change? ∧ r.Settles change? r' := by
  cases h with
  | opened => exact ⟨none, .opened, .unchanged⟩
  | done taken => exact ⟨_, .answered rfl, .of_take taken⟩
  | refused => exact ⟨none, .answered (Operation.change?_error _ _), .unchanged⟩
  | lost => exact ⟨none, .lost, .unchanged⟩
  | kept taken => exact ⟨_, .kept rfl, .of_take taken⟩

/-- An acknowledged change is among those that were made. -/
theorem mem_changes {log : List (Attempt × Option Change)}
    (h : ∀ entry ∈ log, entry.1.Makes entry.2) {op : Operation} {result : Except Error Outcome}
    (hanswered : .answered op result ∈ log.map (·.1)) {change : Change}
    (hchange : op.change? result = some change) : change ∈ log.filterMap (·.2) := by
  obtain ⟨⟨attempt, change?⟩, hentry, rfl⟩ := List.mem_map.1 hanswered
  refine List.mem_filterMap.2 ⟨_, hentry, ?_⟩
  cases h _ hentry with
  | answered made => exact made.symm.trans hchange

/-- No more tokens are made than there are attempts that may have made one. -/
theorem length_tokens_le {log : List (Attempt × Option Change)}
    (h : ∀ entry ∈ log, entry.1.Makes entry.2) :
    (Change.tokens (log.filterMap (·.2))).length ≤ (log.map (·.1)).countP creates := by
  rw [Change.tokens, List.filterMap_filterMap, List.length_filterMap_eq_countP, List.countP_map]
  refine List.countP_mono_left fun entry hentry hsome => ?_
  have hmakes := h entry hentry
  rcases hchange : entry.2 with _ | _ | _
  · simp [hchange] at hsome
  · rw [hchange] at hmakes
    exact hmakes.creates
  · simp [hchange, Change.made?] at hsome

end Attempt

namespace Accounts

variable {history : List Attempt} {r : Registry}

/-- A history is a ledger once it is known what became of each interrupted operation. -/
theorem exists_kept (h : Accounts history r) :
    ∃ log : List (Attempt × Option Change), log.map (·.1) = history ∧
      (∀ entry ∈ log, entry.1.Makes entry.2) ∧ Kept (log.filterMap (·.2)) r := by
  induction h with
  | start => exact ⟨[], rfl, by simp, .start⟩
  | @step _ _ _ attempt _ leaves ih =>
    obtain ⟨log, rfl, hmakes, hkept⟩ := ih
    obtain ⟨change?, hmade, hsettles⟩ := leaves.exists_settles
    refine ⟨log ++ [(attempt, change?)], by simp, ?_, ?_⟩
    · intro entry hentry
      rcases List.mem_append.1 hentry with hentry | hentry
      · exact hmakes entry hentry
      · rw [List.mem_singleton.1 hentry]
        exact hmade
    · rw [filterMap_concat]
      exact hkept.settle hsettles

/-- An acknowledged token is there unless its deletion was asked for. -/
theorem mem_list (h : Accounts history r) (hsize : history.countP Attempt.creates < UInt64.size)
    {asked : NewToken} {digest : Digest} {now : Timestamp} {t : Token}
    (hmade : .answered (.create asked digest now) (.ok (.token t)) ∈ history)
    (hkept : ∀ a ∈ history, a.deletes? ≠ some t.id) : t ∈ r.list := by
  obtain ⟨log, rfl, hmakes, hlog⟩ := h.exists_kept
  have hroom := Nat.lt_of_le_of_lt (Attempt.length_tokens_le hmakes) hsize
  rw [hlog.list_eq hroom, Change.remaining, List.mem_filter]
  refine ⟨?_, ?_⟩
  · exact List.mem_filterMap.2 ⟨.made t, Attempt.mem_changes hmakes hmade rfl, rfl⟩
  · rw [decide_eq_true_eq, Change.deletedIds, List.mem_filterMap]
    rintro ⟨change, hchange, hid⟩
    obtain ⟨entry, hentry, hentryChange⟩ := List.mem_filterMap.1 hchange
    cases change with
    | made => cases hid
    | deleted id u =>
      have hdeletes := (hentryChange ▸ hmakes entry hentry).deletes
      rw [Change.deletedId?] at hid
      exact hkept entry.1 (List.mem_map_of_mem hentry) (hdeletes.trans hid)

end Accounts

/-! ## Any number of crashes -/

/-- The directory of a state file at some moment, and what a process serves from the file if one
runs. -/
structure Snapshot where
  served : Option Registry
  directory : Directory

namespace Vault

open Directory (Passes Runs)

/-- The moments that a state file of some name goes through. It is missing at first, whatever else
the directory holds. The disk may fail at any time; the process may die at any moment, which leaves
the directory as it is then; and the directory may change in any way that leaves the state file
alone. -/
inductive Endures (name : String) : Snapshot → List Attempt → Prop
  | start {d : Directory} (missing : d.read name = .error .notFound) : Endures name ⟨none, d⟩ []
  | opens {s : Snapshot} {history : List Attempt} {r : Registry} {d : Directory}
      (endures : Endures name s history) (fault : Option Directory.Fault)
      (opened : openFile ⟨name, s.directory⟩ fault = .ok ⟨r, some ⟨name, d⟩⟩) :
      Endures name ⟨some r, d⟩ (history ++ [.opened])
  | opensNot {s : Snapshot} {history : List Attempt} {e : Error} {f : StateFile}
      (endures : Endures name s history) (fault : Option Directory.Fault)
      (failed : load ⟨name, s.directory⟩ fault = (.error e, f)) :
      Endures name ⟨none, f.directory⟩ history
  | answers {history : List Attempt} {r r' : Registry} {d d' : Directory}
      {result : Except Error Outcome} (endures : Endures name ⟨some r, d⟩ history)
      (fault : Option Directory.Fault) (op : Operation)
      (taken : take ⟨r, some ⟨name, d⟩⟩ fault op = (result, ⟨r', some ⟨name, d'⟩⟩)) :
      Endures name ⟨some r', d'⟩ (history ++ [.answered op result])
  | diesOpening {s : Snapshot} {history : List Attempt} {d : Directory}
      (endures : Endures name s history) (missing : s.directory.read name = .error .notFound)
      (passes : Passes s.directory name Registry.empty.encode d) : Endures name ⟨none, d⟩ history
  | diesWriting {history : List Attempt} {r next : Registry} {d left : Directory}
      (endures : Endures name ⟨some r, d⟩ history) (op : Operation)
      (pending : r.pending? op = some next) (passes : Passes d name next.encode left) :
      Endures name ⟨none, left⟩ (history ++ [.interrupted op])
  | dies {s : Snapshot} {history : List Attempt} (endures : Endures name s history) :
      Endures name ⟨none, s.directory⟩ history
  | disturbed {s : Snapshot} {history : List Attempt} (endures : Endures name s history)
      (d : Directory) (same : d.read name = s.directory.read name) :
      Endures name ⟨s.served, d⟩ history

/-- What the file is like: missing as long as it was never opened, and else the whole of a registry
that the history accounts for, which is served if any is. -/
inductive Sound (name : String) : Snapshot → List Attempt → Prop
  | missing {d : Directory} (missing : d.read name = .error .notFound) : Sound name ⟨none, d⟩ []
  | written {s : Snapshot} {history : List Attempt} {r : Registry}
      (reads : s.directory.read name = .ok r.encode) (serves : ∀ r', s.served = some r' → r' = r)
      (accounts : Accounts history r) : Sound name s history

/-- An operation that is answered leaves what it should, in the file as well. -/
theorem Serves.exists_leaves {v : Vault} {name : String} {r : Registry} (h : v.Serves name r)
    (fault : Option Directory.Fault) (op : Operation) :
    ∃ r', (v.take fault op).2.Serves name r' ∧
      (Attempt.answered op (v.take fault op).1).Leaves r r' := by
  rcases hwrite : v.writeError? fault op with _ | e
  · obtain ⟨hresult, hserves⟩ := h.take_written hwrite
    refine ⟨_, hserves, ?_⟩
    rw [hresult]
    rcases htake : r.take op with ⟨e | outcome, r'⟩
    · have hsettles := Registry.Settles.of_take htake
      rw [Operation.change?_error] at hsettles
      cases hsettles
      exact .refused
    · exact .done htake
  · obtain ⟨hresult, hserves⟩ := h.take_unwritten hwrite
    rw [hresult]
    exact ⟨r, hserves, .refused⟩

theorem Endures.sound {name : String} {s : Snapshot} {history : List Attempt}
    (h : Endures name s history) : Sound name s history := by
  induction h with
  | start missing => exact .missing missing
  | opens _ fault opened ih =>
    cases ih with
    | missing missing =>
      obtain ⟨saved, hsave, hv⟩ := exists_save_of_missing missing opened
      cases hv
      exact .written (save_ok hsave) (by simp) (.step .start .opened)
    | written reads _ accounts =>
      rw [(synced_of_file reads).faithful.openFile rfl] at opened
      cases opened
      exact .written reads (by simp) (accounts.step .opened)
  | opensNot _ fault failed ih =>
    cases ih with
    | missing missing =>
      simp only [load, missing] at failed
      split at failed
      · simp at failed
      · rename_i hsave
        have hread := save_error hsave
        obtain ⟨-, rfl⟩ := Prod.mk.inj failed
        obtain ⟨-, rfl⟩ := Prod.mk.inj hsave
        exact .missing (hread.trans missing)
    | written reads _ _ =>
      rw [(synced_of_file reads).faithful.load rfl] at failed
      cases failed
  | @answers _ r r' d d' result _ fault op taken ih =>
    cases ih with
    | written reads serves accounts =>
      cases serves r rfl
      have hserves : Serves ⟨r, some ⟨name, d⟩⟩ name r := ⟨d, rfl, reads⟩
      obtain ⟨r'', hafter, hleaves⟩ := hserves.exists_leaves fault op
      rw [taken] at hafter hleaves
      obtain ⟨_, hv, hread⟩ := hafter
      cases hv
      exact .written hread (by simp) (accounts.step hleaves)
  | diesOpening _ missing passes ih =>
    cases ih with
    | missing _ =>
      rcases passes.read_eq_or with hread | hread
      · exact .missing (hread.trans missing)
      · exact .written hread (by simp) .start
    | written reads _ _ =>
      rw [reads] at missing
      cases missing
  | @diesWriting _ r _ _ _ _ op pending passes ih =>
    cases ih with
    | written reads serves accounts =>
      cases serves r rfl
      rcases passes.read_eq_or with hread | hread
      · exact .written (hread.trans reads) (by simp) (accounts.step .lost)
      · obtain ⟨_, htake⟩ := Registry.exists_take_of_pending pending
        exact .written hread (by simp) (accounts.step (.kept htake))
  | dies _ ih =>
    cases ih with
    | missing missing => exact .missing missing
    | written reads _ accounts => exact .written reads (by simp) accounts
  | disturbed _ d same ih =>
    cases ih with
    | missing missing => exact .missing (same.trans missing)
    | written reads serves accounts => exact .written (same.trans reads) serves accounts

end Vault

end ZoneGate
