import ZoneGate.Proofs.Session.Bootstrap
import ZoneGate.Proofs.Session.Outcomes
import ZoneGate.Proofs.Vault.RoundTrip

/-!
# What operations rely on

New ids are free because no token stands beyond the latest id, and the master key is locked because
it is known that there was an administrator. Every operation keeps this up, but reading a state file
does not look for it: a file is opened whatever registry it holds. So all of it hangs on what the
file says in the first place.
-/
namespace ZoneGate

namespace Registry

/-- What the operations on a registry rely on. -/
structure Consistent (r : Registry) : Prop where
  keyed : r.Keyed
  /-- No token stands beyond the latest id. -/
  bounded : ∀ id t, r.tokens.get? id = some t → id ≤ r.nextId
  /-- Where there is an administrator, it is known that one was made. -/
  flagged : ∀ id t, r.tokens.get? id = some t → t.isAdmin = true → r.adminEverCreated = true

variable {r r' : Registry}

theorem consistent_iff : r.Consistent ↔ ∀ entry ∈ r.tokens.entries,
    entry.2.id = entry.1 ∧ entry.1 ≤ r.nextId ∧
      (entry.2.isAdmin = true → r.adminEverCreated = true) := by
  constructor
  · intro h entry hentry
    have hget := TokenMap.mem_entries.1 hentry
    exact ⟨h.keyed _ _ hget, h.bounded _ _ hget, h.flagged _ _ hget⟩
  · intro h
    exact ⟨fun _ _ hget => (h _ (TokenMap.mem_entries.2 hget)).1,
      fun _ _ hget => (h _ (TokenMap.mem_entries.2 hget)).2.1,
      fun _ _ hget => (h _ (TokenMap.mem_entries.2 hget)).2.2⟩

instance (r : Registry) : Decidable r.Consistent := decidable_of_iff _ consistent_iff.symm

namespace Consistent

/-- The next id is free, as long as the counter does not come round. -/
theorem get?_next (h : r.Consistent) (hroom : r.nextId.toNat + 1 < UInt64.size) :
    r.tokens.get? (r.nextId + 1) = none := by
  rcases hget : r.tokens.get? (r.nextId + 1) with _ | t
  · rfl
  · have hle := UInt64.le_iff_toNat_le.1 (h.bounded _ _ hget)
    rw [UInt64.toNat_add, UInt64.toNat_one, Nat.mod_eq_of_lt hroom] at hle
    omega

theorem adding (h : r.Consistent) (hroom : r.nextId.toNat + 1 < UInt64.size) {t : Token}
    (hid : t.id = r.nextId + 1) : (r.adding t).Consistent where
  keyed := h.keyed.adding t
  bounded id u hget := by
    by_cases hne : id = t.id
    · exact UInt64.le_of_eq hne
    · rw [(r.differs_adding t).elsewhere id hne] at hget
      have hle := UInt64.le_iff_toNat_le.1 (h.bounded id u hget)
      change id ≤ t.id
      rw [hid, UInt64.le_iff_toNat_le, UInt64.toNat_add, UInt64.toNat_one, Nat.mod_eq_of_lt hroom]
      omega
  flagged id u hget hadmin := by
    change (r.adminEverCreated || t.isAdmin) = true
    by_cases hne : id = t.id
    · rw [hne, (r.differs_adding t).here] at hget
      rw [Option.some.inj hget, hadmin, Bool.or_true]
    · rw [(r.differs_adding t).elsewhere id hne] at hget
      rw [h.flagged id u hget hadmin, Bool.true_or]

theorem removing (h : r.Consistent) (id : TokenId) : (r.removing id).Consistent := by
  have hbefore {other : TokenId} {u : Token} (hget : (r.removing id).tokens.get? other = some u) :
      r.tokens.get? other = some u := by
    by_cases hne : other = id
    · rw [hne, (r.differs_removing id).here] at hget
      cases hget
    · rwa [(r.differs_removing id).elsewhere other hne] at hget
  exact ⟨h.keyed.removing id, fun other u hget => h.bounded other u (hbefore hget),
    fun other u hget => h.flagged other u (hbefore hget)⟩

end Consistent

end Registry

/-! ## One operation -/

namespace Effect

variable {access : Access} {r r' : Registry} {e : Event}

/-- The counter counts the tokens that are made. -/
theorem toNat_nextId (h : Effect access r e r')
    (hroom : r.nextId.toNat + e.issue?.toList.length < UInt64.size) :
    r'.nextId.toNat = r.nextId.toNat + e.issue?.toList.length := by
  cases h with
  | issue _ _ created =>
    obtain ⟨htoken, rfl⟩ := Registry.create_eq created
    rw [htoken]
    exact (UInt64.toNat_add _ _).trans (Nat.mod_eq_of_lt hroom)
  | revoke _ deleted =>
    obtain ⟨-, -, rfl⟩ := Registry.delete_ok deleted
    rfl
  | keep noIssue => simp [noIssue]

/-- What operations rely on they keep up. -/
theorem consistent (h : Effect access r e r') (hr : r.Consistent)
    (hroom : r.nextId.toNat + e.issue?.toList.length < UInt64.size) : r'.Consistent := by
  cases h with
  | issue _ _ created =>
    obtain ⟨htoken, rfl⟩ := Registry.create_eq created
    exact hr.adding hroom (by rw [htoken])
  | @revoke _ _ id _ _ _ _ deleted =>
    obtain ⟨-, -, rfl⟩ := Registry.delete_ok deleted
    exact hr.removing id
  | keep => exact hr

end Effect

namespace Vault

section

variable {v : Vault} {t : NewToken} {digest : Digest} {now : Timestamp}
  {fault : Option Directory.Fault}

lemma id_of_create {token : Token} (h : (v.create t digest now fault).1 = .ok token) :
    token.id = v.registry.nextId + 1 := by
  obtain ⟨hcreate, -⟩ := create_ok (Prod.ext h rfl)
  rw [(Registry.create_eq hcreate).1]

/-- Making a token touches no other than the one under the next id. -/
theorem get?_create_of_ne {id : TokenId} (hne : id ≠ v.registry.nextId + 1) :
    (v.create t digest now fault).2.registry.tokens.get? id = v.registry.tokens.get? id := by
  rcases hdone : v.create t digest now fault with ⟨e | token, v'⟩
  · rw [(create_error hdone).1]
  · obtain ⟨htoken, hregistry⟩ := Registry.create_eq (create_ok hdone).1
    have hother : id ≠ token.id := by rwa [htoken]
    rw [hregistry, TokenMap.get?_insert_of_ne hother]

end

/-- What can be relied on in a vault. -/
structure Reliable (access : Access) (v : Vault) : Prop where
  consistent : v.registry.Consistent
  /-- A token that is made takes a free id, and no other one is touched, as long as the counter does
  not come round. -/
  created : ∀ t digest now fault, v.registry.nextId.toNat + 1 < UInt64.size →
    (∀ token, (v.create t digest now fault).1 = .ok token →
      v.registry.tokens.get? token.id = none) ∧
    ∀ id u, v.registry.tokens.get? id = some u →
      (v.create t digest now fault).2.registry.tokens.get? id = some u
  /-- The master key is refused everything where there is an administrator. -/
  locked : ∀ id t, v.registry.tokens.get? id = some t → t.isAdmin = true →
    (∀ c, c.caller? = some .master →
      v.perform access c = (.error (.denied .masterKeyLocked), v)) ∧
    ∀ d, Decision.check .master (Bootstrap.of v.registry) d = .deny .masterKeyLocked

/-- Where a registry is consistent, no more is needed. -/
theorem reliable_of_consistent {access : Access} {v : Vault} (h : v.registry.Consistent) :
    v.Reliable access where
  consistent := h
  created t digest now fault hroom := by
    have hfree := h.get?_next hroom
    refine ⟨fun token htoken => by rw [id_of_create htoken, hfree], fun id u hget => ?_⟩
    have hne : id ≠ v.registry.nextId + 1 := by
      rintro rfl
      rw [hfree] at hget
      cases hget
    rw [get?_create_of_ne hne, hget]
  locked id t hget hadmin := by
    have hflag := h.flagged id t hget hadmin
    refine ⟨fun c hc => perform_master hflag hc, fun d => ?_⟩
    rw [Bootstrap.of_eq_configured.2 hflag]
    rfl

end Vault

/-! ## A run from a state file -/

namespace Session

variable {access : Access} {v : Vault}

/-- What holds of a vault that was opened, and of the counter, after any run. -/
theorem consistent_run (hv : v.Faithful) (hr : v.registry.Consistent) (calls : List Call)
    (hroom : v.registry.nextId.toNat +
      (Event.issues (run access ⟨v, []⟩ calls).history).length < UInt64.size) :
    (run access ⟨v, []⟩ calls).vault.Faithful ∧
      (run access ⟨v, []⟩ calls).vault.registry.Consistent ∧
      (run access ⟨v, []⟩ calls).vault.registry.nextId.toNat = v.registry.nextId.toNat +
        (Event.issues (run access ⟨v, []⟩ calls).history).length := by
  -- from the end: how much room is left is told by the history before the last call
  induction calls using List.reverseRecOn with
  | nil => exact ⟨hv, hr, rfl⟩
  | append_singleton calls c ih =>
    have hrun : run access ⟨v, []⟩ (calls ++ [c]) = (run access ⟨v, []⟩ calls).step access c := by
      simp only [run, List.foldl_append, List.foldl_cons, List.foldl_nil]
    rw [hrun] at hroom ⊢
    generalize run access ⟨v, []⟩ calls = s at ih hroom ⊢
    simp only [step, Event.issues_concat, List.length_append] at hroom ⊢
    obtain ⟨hfaithful, hconsistent, hcount⟩ := ih (by omega)
    obtain ⟨heffect, hleads⟩ := Vault.perform_effect access hfaithful c
    rw [← Nat.add_assoc, ← hcount] at hroom ⊢
    exact ⟨hleads.faithful hfaithful, heffect.consistent hconsistent hroom,
      heffect.toNat_nextId hroom⟩

end Session

namespace Vault

/-- What a vault is worth that was opened from a file with some content. -/
structure Opened (v : Vault) (f : StateFile) (content : List UInt8) : Prop where
  file : v.file = some f
  /-- The file is served as it reads. -/
  decoded : Registry.decode content = .ok v.registry
  /-- Whatever it says, a token that is made can take the place of one only, that under the next
  id. -/
  spared : ∀ t digest now fault id, id ≠ v.registry.nextId + 1 →
    (v.create t digest now fault).2.registry.tokens.get? id = v.registry.tokens.get? id
  /-- The master key is accepted where it does not say that there was an administrator. -/
  accepted_iff : ∀ access, v.perform access (.requireAdmin .master) = (.ok (.passed .master), v) ↔
    v.registry.adminEverCreated = false
  /-- Where what it says is consistent, everything can be relied on from then on. -/
  reliable : v.registry.Consistent → ∀ (access : Access) (calls : List Call),
    let s := Session.run access ⟨v, []⟩ calls
    v.registry.nextId.toNat + (Event.issues s.history).length < UInt64.size →
      s.vault.Reliable access

theorem perform_requireAdmin_master_iff {access : Access} {v : Vault} :
    v.perform access (.requireAdmin .master) = (.ok (.passed .master), v) ↔
      v.registry.adminEverCreated = false := by
  constructor
  · intro h
    refine Bool.eq_false_iff.2 fun hflag => ?_
    rw [perform_master hflag rfl] at h
    cases congrArg Prod.fst h
  · intro hflag
    simp only [perform, Admin.authorize_of_accepts (.master hflag)]
    rfl

/-- A file that is opened is served as it reads, and what can be relied on follows from that. -/
theorem opened_reliable {f : StateFile} {content : List UInt8} {fault : Option Directory.Fault}
    {v : Vault} (hread : f.directory.read f.name = .ok content)
    (hopen : openFile f fault = .ok v) : v.Opened f content := by
  rw [openFile_of_read hread] at hopen
  rcases hdecode : Registry.decode content with e | r
  · simp [hdecode] at hopen
  simp only [hdecode, Except.ok.injEq] at hopen
  subst hopen
  have hfaithful : Faithful ⟨r, some f⟩ := by
    intro read hcontent
    have heq : read = .ok content := by simpa [content?, hread] using hcontent.symm
    exact ⟨content, heq, hdecode⟩
  refine ⟨rfl, hdecode, fun _ _ _ _ _ => get?_create_of_ne,
    fun _ => perform_requireAdmin_master_iff, ?_⟩
  intro hconsistent access calls s hroom
  exact reliable_of_consistent (Session.consistent_run hfaithful hconsistent calls hroom).2.1

lemma decode_unusualText :
    (Registry.decode unusualText).toOption.any (fun r => decide r.Consistent) = true := by
  decide +kernel

lemma consistent_unusual {r : Registry} (h : Registry.decode unusualText = .ok r) :
    r.Consistent := by
  have hdecoded := decode_unusualText
  rw [h] at hdecoded
  exact of_decide_eq_true hdecoded

/-- A file in an unusual spelling is consistent all the same. -/
theorem reliable_unusual : ∃ v, openFile unusual none = .ok v ∧ v.Reliable .sample := by
  have hread : unusual.directory.read unusual.name = .ok unusualText := rfl
  obtain ⟨v, hopen⟩ := exists_openFile_unusual
  have hopened := opened_reliable hread hopen
  exact ⟨v, hopen, hopened.reliable (consistent_unusual hopened.decoded) .sample []
    v.registry.nextId.toNat_lt⟩

/-- A state file that was put together by hand: an administrator stands under another id than its
own, that id is yet to be given out, and it is not known that there was an administrator. -/
def strayText : List UInt8 := Text.bytes
  "\x7b\"next_id\": 0, \"admin_ever_created\": false, \"tokens\": \x7b\"1\": \x7b
    \"id\": 5, \"name\": \"ops\", \"is_admin\": true,
    \"created_at\": \"2024-01-01T00:00:00Z\", \"permissions\": [],
    \"secret_digest\": \"0000000000000000000000000000000000000000000000000000000000000000\"
  \x7d\x7d\x7d"

def stray : StateFile := ⟨"tokens.json", ⟨some [("tokens.json", .file strayText)]⟩⟩

lemma decode_strayText : (Registry.decode strayText).toOption.any (fun r => r.nextId = 0 ∧
    r.adminEverCreated = false ∧ (r.tokens.get? 1).any fun t => t.id = 5 ∧ t.isAdmin) = true := by
  decide +kernel

lemma exists_decode_strayText : ∃ r t, Registry.decode strayText = .ok r ∧ r.nextId = 0 ∧
    r.adminEverCreated = false ∧ r.tokens.get? 1 = some t ∧ t.id = 5 ∧ t.isAdmin = true := by
  have hdecoded := decode_strayText
  generalize Registry.decode strayText = decoded at hdecoded ⊢
  rcases decoded with e | r
  · simp [Except.toOption] at hdecoded
  · rcases hget : r.tokens.get? 1 with _ | t
    · simp [hget, Except.toOption] at hdecoded
    · simp only [hget, Except.toOption, Option.any_some, decide_eq_true_eq] at hdecoded
      exact ⟨r, t, rfl, hdecoded.1, hdecoded.2.1, hget, hdecoded.2.2⟩

/-- It is opened: the master key is accepted though there is an administrator, and the next token
takes the administrator's place. -/
theorem opened_stray : ∃ v t, openFile stray none = .ok v ∧ ¬ v.registry.Consistent ∧
    v.registry.tokens.get? 1 = some t ∧ t.isAdmin = true ∧ t.id ≠ 1 ∧
    v.perform .sample (.requireAdmin .master) = (.ok (.passed .master), v) ∧
    ∃ token, (v.create ⟨"new", true, []⟩ default default none).1 = .ok token ∧ token ≠ t ∧
      (v.create ⟨"new", true, []⟩ default default none).2.registry.tokens.get? 1 = some token := by
  obtain ⟨r, t, hdecode, hnext, hflag, hget, hid, hadmin⟩ := exists_decode_strayText
  have hread : stray.directory.read stray.name = .ok strayText := rfl
  have hopen : openFile stray none = .ok ⟨r, some stray⟩ := by
    simp only [openFile_of_read hread, hdecode]
  refine ⟨⟨r, some stray⟩, t, hopen, fun h => ?_, hget, hadmin, by rw [hid]; decide, ?_, ?_⟩
  · have hmade := h.flagged 1 t hget hadmin
    rw [hflag] at hmade
    cases hmade
  · exact perform_requireAdmin_master_iff.2 hflag
  · obtain ⟨saved, hsave⟩ := exists_save (show stray.Writable by decide +kernel)
      (r.create ⟨"new", true, []⟩ default default).2
    have hsaved : saveError? ⟨r, some stray⟩ none
        (r.create ⟨"new", true, []⟩ default default).2 = none := by
      simp only [saveError?, Option.bind_some, hsave]
    obtain ⟨v', hcommit, hregistry⟩ := commit_of_saved hsaved
    simp only [create, hcommit]
    refine ⟨_, rfl, fun heq => ?_, ?_⟩
    · have hsame := congrArg Token.id heq
      rw [hid] at hsame
      simp [Registry.create, hnext] at hsame
    · rw [hregistry]
      simp [Registry.create, hnext]

end Vault

end ZoneGate
