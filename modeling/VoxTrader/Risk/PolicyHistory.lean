import VoxTrader.Lib.Transactions
import VoxTrader.Risk.ApprovalBounds
import VoxTrader.Risk.Store

/-!
# The history of a policy

A policy is replaced by comparing the revision that is stored with the one the caller expects, and
the same transaction appends a row to the audit of the account. The audit is then the history of the
policy: every row starts at the revision the row before it ended with, and the last one holds the
policy that is in force.

## Main definitions

* `PolicyStore` — the risk store with the audit of its policies.
* `PolicyStore.putPolicy` — replace a policy and append to the audit, in one transaction.
* `PolicyStore.history` — the audit rows of an account.

## Main results

* `PolicyStore.policy_history_chain` — the history of every account is a chain that ends with the
  policy in force, and calls that expect the same revision do not both succeed.
-/

namespace VoxTrader.Risk

open Transactions (run_rel run_append run_nil after_of_ok)

/-- A row of the audit. -/
structure PolicyAuditRow where
  eventId : String
  accountId : String
  oldRevision : Option ℕ
  newRevision : ℕ
  reason : String
  payload : RiskPolicySet
  observedAtUnixMs : I64
deriving DecidableEq

/-- The risk store with the audit of its policies, oldest row first. -/
structure PolicyStore where
  db : RiskDb
  audit : List PolicyAuditRow
  eventIds : Rows.Unique PolicyAuditRow.eventId audit

/-- The arguments of a call, and the id the audit row gets. -/
structure PolicyCall where
  accountId : String
  expectedRevision : Option ℕ
  policy : RiskPolicySet
  reason : String
  nowUnixMs : I64
  eventId : String

namespace PolicyStore

/-- The store before anything was written to it. -/
def empty : PolicyStore := ⟨.empty, [], List.nodup_nil⟩

/-- The policy in force. -/
def policy (store : PolicyStore) (accountId : String) : Option RiskPolicySet :=
  store.db.policy accountId

/-- The revision in force, below all others when there is none. -/
def revision (store : PolicyStore) (accountId : String) : WithBot ℕ :=
  match store.policy accountId with
  | none => ⊥
  | some policy => policy.revision

/-- The audit rows of an account. -/
def history (store : PolicyStore) (accountId : String) : List PolicyAuditRow :=
  store.audit.filter (·.accountId = accountId)

/-- The row a call appends. -/
def auditRow (store : PolicyStore) (call : PolicyCall) : PolicyAuditRow where
  eventId := call.eventId
  accountId := call.accountId
  oldRevision := (store.policy call.accountId).map (·.revision)
  newRevision := call.policy.revision
  reason := call.reason
  payload := call.policy
  observedAtUnixMs := call.nowUnixMs

/-- **Replace a policy and append to the audit.** An event id that is taken violates a
constraint. -/
def putPolicy (store : PolicyStore) (call : PolicyCall) :
    Except RiskStoreError (RiskPolicySet × PolicyStore) := do
  let result ← store.db.putPolicy call.accountId call.expectedRevision call.policy call.reason
  if h : Rows.select PolicyAuditRow.eventId call.eventId store.audit = none then
    .ok (result.1, ⟨result.2, store.audit ++ [store.auditRow call], store.eventIds.append h⟩)
  else .error .sqlite

/-- The store after a history of calls. -/
def afterCalls (calls : List PolicyCall) : PolicyStore := Transactions.run putPolicy empty calls

/-! ## One call -/

variable {store store' : PolicyStore} {call : PolicyCall} {result : RiskPolicySet}

/-- **What a call that succeeds has checked and written.** -/
lemma putPolicy_eq_ok (h : store.putPolicy call = .ok (result, store')) :
    (store.policy call.accountId).map (·.revision) = call.expectedRevision ∧
      store.revision call.accountId < call.policy.revision ∧
      (∀ accountId, store'.policy accountId =
        if accountId = call.accountId then some call.policy else store.policy accountId) ∧
      store'.audit = store.audit ++ [store.auditRow call] := by
  simp only [putPolicy, Except.seq_eq_ok] at h
  obtain ⟨result, hput, h⟩ := h
  split_ifs at h with hid
  cases h
  obtain ⟨hexpected, hhigher, hpolicy⟩ := RiskDb.putPolicy_eq_ok hput
  refine ⟨hexpected, ?_, hpolicy, rfl⟩
  unfold revision
  rcases hcurrent : store.policy call.accountId with _ | current
  · exact WithBot.bot_lt_coe _
  · exact WithBot.coe_lt_coe.mpr (hhigher current hcurrent)

/-- The history of an account after a row was appended. -/
lemma history_append {row : PolicyAuditRow} (h : store'.audit = store.audit ++ [row])
    (accountId : String) : store'.history accountId =
      if row.accountId = accountId then store.history accountId ++ [row]
      else store.history accountId := by
  rw [history, h, List.filter_append, history]
  split_ifs with haccount <;> simp [haccount]

/-- A call never lowers a revision. -/
lemma revision_mono (h : store.putPolicy call = .ok (result, store')) (accountId : String) :
    store.revision accountId ≤ store'.revision accountId := by
  obtain ⟨-, hhigher, hpolicy, -⟩ := putPolicy_eq_ok h
  by_cases haccount : accountId = call.accountId
  · subst haccount
    have hnew : store'.revision call.accountId = call.policy.revision := by
      rw [revision, hpolicy, if_pos rfl]
    rw [hnew]
    exact hhigher.le
  · rw [revision, revision, hpolicy, if_neg haccount]

/-! ## Histories -/

/-- **The history of an account is a chain**: it starts without a policy, every row starts where the
one before it ended and ends higher, and the last one holds the policy in force. -/
structure Recorded (accountId : String) (store : PolicyStore) : Prop where
  current : store.policy accountId = (store.history accountId).getLast?.map (·.payload)
  first : ∀ row ∈ (store.history accountId).head?, row.oldRevision = none
  linked : (store.history accountId).IsChain fun row next =>
    next.oldRevision = some row.newRevision ∧ row.newRevision < next.newRevision
  named : ∀ row ∈ store.history accountId, row.newRevision = row.payload.revision

/-- A call keeps the history of every account a chain. -/
lemma Recorded.step {accountId : String} (hrecorded : Recorded accountId store)
    (h : store.putPolicy call = .ok (result, store')) : Recorded accountId store' := by
  obtain ⟨-, hhigher, hpolicy, haudit⟩ := putPolicy_eq_ok h
  have hhistory := history_append haudit accountId
  by_cases haccount : accountId = call.accountId
  · subst haccount
    rw [if_pos (show (store.auditRow call).accountId = call.accountId from rfl)] at hhistory
    -- what the new row starts with is what the last row ended with
    have hlast : ∀ row ∈ (store.history call.accountId).getLast?,
        store.policy call.accountId = some row.payload ∧
          row.newRevision = row.payload.revision := by
      intro row hrow
      refine ⟨?_, hrecorded.named row (List.mem_of_getLast? hrow)⟩
      rw [hrecorded.current, Option.mem_def.mp hrow, Option.map_some]
    refine ⟨?_, ?_, ?_, ?_⟩
    · rw [hpolicy, if_pos rfl, hhistory, List.getLast?_concat, Option.map_some]
      rfl
    · rw [hhistory]
      rcases hempty : store.history call.accountId with _ | ⟨head, tail⟩
      · rintro row ⟨⟩
        simp only [auditRow, hrecorded.current, hempty, List.getLast?_nil, Option.map_none]
      · intro row hrow
        exact hrecorded.first row (by rw [hempty]; exact hrow)
    · rw [hhistory]
      refine hrecorded.linked.append (List.isChain_singleton _) fun row hrow next hnext => ?_
      cases hnext
      obtain ⟨hcurrent, hnamed⟩ := hlast row hrow
      rw [revision, hcurrent] at hhigher
      refine ⟨?_, hnamed ▸ WithBot.coe_lt_coe.mp hhigher⟩
      simp only [auditRow, hcurrent, Option.map_some, hnamed]
    · rw [hhistory]
      intro row hrow
      rcases List.mem_append.mp hrow with hold | hnew
      · exact hrecorded.named row hold
      · rw [List.mem_singleton.mp hnew]
        rfl
  · rw [if_neg fun heq => haccount heq.symm] at hhistory
    have hsame : store'.policy accountId = store.policy accountId := by
      rw [hpolicy, if_neg haccount]
    refine ⟨?_, ?_, ?_, ?_⟩
    · rw [hsame, hhistory]
      exact hrecorded.current
    · rw [hhistory]
      exact hrecorded.first
    · rw [hhistory]
      exact hrecorded.linked
    · rw [hhistory]
      exact hrecorded.named

/-- After any calls, every history is a chain. -/
lemma recorded_afterCalls (accountId : String) (calls : List PolicyCall) :
    Recorded accountId (afterCalls calls) := by
  refine Transactions.run_invariant
    (fun store call result store' hrecorded h => hrecorded.step h) ?_
    calls
  exact ⟨rfl, fun row hrow => (Option.not_mem_none row hrow).elim, List.isChain_nil,
    fun row hrow => (List.not_mem_nil hrow).elim⟩

/-- Calls never lower a revision. -/
lemma revision_run (store : PolicyStore) (calls : List PolicyCall) (accountId : String) :
    store.revision accountId ≤ (Transactions.run putPolicy store calls).revision accountId :=
  run_rel (R := fun s s' => s.revision accountId ≤ s'.revision accountId)
    (fun _ => le_rfl) (fun _ _ _ => le_trans)
    (fun _ _ _ _ h => revision_mono h accountId) store calls

/-- The store after some calls, one more, and others. -/
lemma afterCalls_append (calls : List PolicyCall) (call : PolicyCall)
    (later : List PolicyCall) : afterCalls (calls ++ call :: later) =
      Transactions.run putPolicy (Transactions.after putPolicy (afterCalls calls) call) later :=
  run_append empty calls (call :: later)

/-- A call that succeeds finds the revision it expects and leaves a higher one. -/
lemma revision_of_ok (h : store.putPolicy call = .ok (result, store')) :
    store.revision call.accountId = call.expectedRevision.elim ⊥ (↑·) ∧
      store.revision call.accountId < store'.revision call.accountId := by
  obtain ⟨hexpected, hhigher, hpolicy, -⟩ := putPolicy_eq_ok h
  constructor
  · rw [← hexpected, revision]
    rcases store.policy call.accountId with _ | policy
    all_goals rfl
  · have hnew : store'.revision call.accountId = call.policy.revision := by
      rw [revision, hpolicy, if_pos rfl]
    rw [hnew]
    exact hhigher

/-- **The history of every account is a chain, whatever calls are made**: a call that fails changes
nothing, one that succeeds raises the revision, and of two that expect the same revision of an
account only one succeeds. -/
theorem policy_history_chain : (∀ calls accountId, Recorded accountId (afterCalls calls)) ∧
      (∀ calls call e, (afterCalls calls).putPolicy call = .error e →
        afterCalls (calls ++ [call]) = afterCalls calls) ∧
      (∀ calls call result, (afterCalls calls).putPolicy call = .ok result →
        (afterCalls calls).revision call.accountId <
          (afterCalls (calls ++ [call])).revision call.accountId) ∧
      ∀ calls call between other result result', call.accountId = other.accountId →
        (afterCalls calls).putPolicy call = .ok result →
        (afterCalls (calls ++ call :: between)).putPolicy other = .ok result' →
        call.expectedRevision ≠ other.expectedRevision := by
  refine ⟨fun calls accountId => recorded_afterCalls accountId calls, fun calls call e he => ?_,
    fun calls call result hok => ?_,
    fun calls call between other result result' haccount hok hok' => ?_⟩
  · rw [afterCalls_append, Transactions.after_of_error he, run_nil]
  · obtain ⟨result, store'⟩ := result
    rw [afterCalls_append, after_of_ok hok, run_nil]
    exact (revision_of_ok hok).2
  · obtain ⟨result, store'⟩ := result
    obtain ⟨result', store''⟩ := result'
    intro hexpected
    obtain ⟨hbefore, hraised⟩ := revision_of_ok hok
    obtain ⟨hlater, -⟩ := revision_of_ok hok'
    have hmono := revision_run store' between call.accountId
    -- the first call raised the revision above the one the second call has to find
    rw [afterCalls_append, after_of_ok hok, ← haccount, ← hexpected] at hlater
    rw [hlater, ← hbefore] at hmono
    exact absurd (hraised.trans_le hmono) (lt_irrefl _)

/-- A call that gives an account a revision of its policy. -/
def fixtureCall (expectedRevision : Option ℕ) (revision : ℕ) (eventId : String) : PolicyCall :=
  ⟨"account-1", expectedRevision, { fixturePolicy with revision := revision }, "change", .lit 1,
    eventId⟩

/-- Two calls that are recorded, the second of which expects what the first has written, and one
that comes too late. -/
theorem two_revisions_recorded :
    Recorded "account-1"
        (afterCalls [fixtureCall none 1 "event-1", fixtureCall (some 1) 3 "event-2"]) ∧
      (afterCalls [fixtureCall none 1 "event-1"]).revision "account-1" <
        (afterCalls ([fixtureCall none 1 "event-1"] ++ [fixtureCall (some 1) 3 "event-2"])).revision
          "account-1" ∧
      afterCalls ([fixtureCall none 1 "event-1"] ++ [fixtureCall none 2 "event-3"]) =
        afterCalls [fixtureCall none 1 "event-1"] ∧
      (fixtureCall none 1 "event-1").expectedRevision ≠
        (fixtureCall (some 1) 3 "event-2").expectedRevision := by
  have hfirst :
      ((afterCalls []).putPolicy (fixtureCall none 1 "event-1")).toOption.isSome = true := by
    decide +kernel
  have hsecond : ((afterCalls ([] ++ fixtureCall none 1 "event-1" :: [])).putPolicy
      (fixtureCall (some 1) 3 "event-2")).toOption.isSome = true := by
    decide +kernel
  have hlate : ((afterCalls [fixtureCall none 1 "event-1"]).putPolicy
      (fixtureCall none 2 "event-3")).toOption.isSome = false := by
    decide +kernel
  obtain ⟨result, hfirst⟩ := Option.isSome_iff_exists.mp hfirst
  obtain ⟨result', hsecond⟩ := Option.isSome_iff_exists.mp hsecond
  rcases hcall : (afterCalls [fixtureCall none 1 "event-1"]).putPolicy
    (fixtureCall none 2 "event-3")
    with e | result''
  · exact ⟨policy_history_chain.1 _ _,
      policy_history_chain.2.2.1 _ _ _ (Except.toOption_eq_some.mp hsecond),
      policy_history_chain.2.1 _ _ e hcall,
      policy_history_chain.2.2.2 _ _ _ _ _ _ rfl (Except.toOption_eq_some.mp hfirst)
        (Except.toOption_eq_some.mp hsecond)⟩
  · rw [hcall] at hlate
    cases hlate

end PolicyStore

end VoxTrader.Risk
