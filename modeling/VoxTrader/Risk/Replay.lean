import VoxTrader.Lib.Transactions
import VoxTrader.Risk.Lifecycle

/-!
# Looking an approval up again

A request that comes back is to get the approval it was given before. The lookup reads the
reservation of the request and then its decision, in two reads that are not one transaction, and
takes a decision without a reservation for a broken store. Decisions are written in two ways:
together with a reservation, or alone, when the request was denied or needs no reservation. So the
lookup fails for every request whose decision stands alone, and for a request that is approved
between the two reads.

## Main definitions

* `ApprovalCall` — the two calls that write decisions, each one transaction.
* `ApprovalCall.after`, `ApprovalCall.returned` — what a call leaves behind and what it returns.
* `returnedApprovals` — the approvals a history of calls has returned.
* `replayLookup` — the lookup, with calls between its two reads.
* `Decides` — a call writes the decision of a request.

## Main results

* `replay_lookup_exact` — the lookup returns exactly the approval that was returned, in every
  history that writes no decision of the request alone and none between the two reads.
* `denied_request_not_replayed` — a denied request, a request approved without a reservation, and a
  request approved between the two reads, for which the lookup fails.
-/

namespace VoxTrader.Risk

/-! ## Histories of calls -/

/-- The calls that write decisions. -/
inductive ApprovalCall
  | putDecision (decision : RiskDecision)
  | persistApproval (decision : RiskDecision) (reservation : RiskReservation)
      (capacity : ReservationCapacity)

namespace ApprovalCall

/-- The result of a call: an error, or the approval it returns and the next database. -/
def outcome (db : RiskDb) :
    ApprovalCall → Except RiskStoreError (Option PersistedRiskApproval × RiskDb)
  | .putDecision decision => (db.putDecision decision).map fun db' => (none, db')
  | .persistApproval decision reservation capacity =>
    (db.persistApprovalAtomic decision reservation capacity).map fun result =>
      (some result.1, result.2)

/-- The database after a call. -/
def after (db : RiskDb) (call : ApprovalCall) : RiskDb := Transactions.after outcome db call

/-- The approval a call returns. -/
def returned (db : RiskDb) (call : ApprovalCall) : Option PersistedRiskApproval :=
  (Transactions.returned outcome db call).join

end ApprovalCall

/-- The database after a history of calls. -/
def afterCalls (db : RiskDb) (calls : List ApprovalCall) : RiskDb :=
  Transactions.run ApprovalCall.outcome db calls

/-- The approvals the calls of a history have returned. -/
def returnedApprovals (db : RiskDb) : List ApprovalCall → List PersistedRiskApproval
  | [] => []
  | call :: calls => (call.returned db).toList ++ returnedApprovals (call.after db) calls

section Request

variable (accountId requestId : String)

/-- The lookup of a request: it reads the reservation, other calls happen, it reads the decision. -/
def replayLookup (db : RiskDb) (between : List ApprovalCall) :
    Except RiskStoreError (Option PersistedRiskApproval) :=
  RiskDb.approvalForRequest (db.reservationForRequest accountId requestId)
    ((afterCalls db between).decisionForRequest accountId requestId)

/-- The call writes the decision of the request. -/
def Decides (db : RiskDb) (call : ApprovalCall) : Prop :=
  db.decisionForRequest accountId requestId = none ∧
    (call.after db).decisionForRequest accountId requestId ≠ none

/-- No call of the history writes the decision of the request, of the calls that `p` is about. -/
def NeverDecides (p : ApprovalCall → Prop) : RiskDb → List ApprovalCall → Prop
  | _, [] => True
  | db, call :: calls =>
    (p call → ¬ Decides accountId requestId db call) ∧ NeverDecides p (call.after db) calls

/-- The call writes a decision alone. -/
def ApprovalCall.Lone : ApprovalCall → Prop
  | .putDecision _ => True
  | .persistApproval _ _ _ => False

/-- The approval is one of the request. -/
def PersistedRiskApproval.IsFor (approval : PersistedRiskApproval) : Prop :=
  approval.decision.request = (accountId, requestId)

/-- **What a call does to the rows of a request**: nothing, and it returns at most the approval that
is there; or it writes the decision alone; or it writes decision and reservation and returns
them. -/
inductive RequestStep (db : RiskDb) (call : ApprovalCall) : Prop
  | same (decision : (call.after db).decisionForRequest accountId requestId =
        db.decisionForRequest accountId requestId)
      (reservation : (call.after db).reservationForRequest accountId requestId =
        db.reservationForRequest accountId requestId)
      (returned : ∀ approval, call.returned db = some approval →
        approval.IsFor accountId requestId →
        db.decisionForRequest accountId requestId = some approval.decision ∧
          db.reservationForRequest accountId requestId = some approval.reservation)
  | lone (lone : call.Lone) (d : RiskDecision)
      (before : db.decisionForRequest accountId requestId = none)
      (decision : (call.after db).decisionForRequest accountId requestId = some d)
      (reservation : (call.after db).reservationForRequest accountId requestId =
        db.reservationForRequest accountId requestId)
      (returned : call.returned db = none)
  | approved (approval : PersistedRiskApproval)
      (before : db.decisionForRequest accountId requestId = none)
      (reservationBefore : db.reservationForRequest accountId requestId = none)
      (link : RiskDb.validateApprovalLink approval.decision approval.reservation = .ok ())
      (decision : (call.after db).decisionForRequest accountId requestId = some approval.decision)
      (reservation : (call.after db).reservationForRequest accountId requestId =
        some approval.reservation)
      (returned : call.returned db = some approval)

/-! ## One call -/

variable {accountId requestId}

variable {db db' : RiskDb} {call : ApprovalCall} {d : RiskDecision} {r : RiskReservation}
  {calls : List ApprovalCall}

/-- What a call that succeeds leaves behind and returns. -/
lemma ApprovalCall.of_ok {approval : Option PersistedRiskApproval}
    (h : call.outcome db = .ok (approval, db')) :
    call.after db = db' ∧ call.returned db = approval := by
  rw [ApprovalCall.after, ApprovalCall.returned, Transactions.after_of_ok h,
    Transactions.returned_of_ok h]
  exact ⟨rfl, rfl⟩

/-- A call that fails does nothing. -/
lemma RequestStep.of_error {e : RiskStoreError} (h : call.outcome db = .error e) :
    RequestStep accountId requestId db call := by
  have hafter : call.after db = db := Transactions.after_of_error h
  have hreturned : call.returned db = none := by
    rw [ApprovalCall.returned, Transactions.returned_of_error h]
    rfl
  refine .same (by rw [hafter]) (by rw [hafter]) fun approval hsome => ?_
  cases hreturned.symm.trans hsome

/-- The decision of a request after another decision was appended. -/
lemma decisionForRequest_append (h : db'.decisions = db.decisions ++ [d]) :
    db'.decisionForRequest accountId requestId = (db.decisionForRequest accountId requestId).or
        (if d.request = (accountId, requestId) then some d else none) := by
  rw [RiskDb.decisionForRequest, h, Rows.select_append, RiskDb.decisionForRequest]

/-- The reservation of a request after another reservation was appended. -/
lemma reservationForRequest_append (h : db'.reservations = db.reservations ++ [r]) :
    db'.reservationForRequest accountId requestId =
      (db.reservationForRequest accountId requestId).or
        (if r.request = (accountId, requestId) then some r else none) := by
  rw [RiskDb.reservationForRequest, h, Rows.select_append, RiskDb.reservationForRequest]

/-- A decision and a reservation that are linked are about the same request. -/
lemma request_eq_of_link (h : RiskDb.validateApprovalLink d r = .ok ()) :
    r.request = d.request := by
  simp only [RiskDb.validateApprovalLink, Except.stopIf_eq_ok, not_or, not_not] at h
  exact (Prod.ext h.1 h.2.1).symm

/-- Recording a decision writes it alone, or nothing. -/
lemma requestStep_putDecision (db : RiskDb) (d : RiskDecision) :
    RequestStep accountId requestId db (.putDecision d) := by
  rcases h : db.putDecision d with e | db'
  · exact .of_error (by rw [ApprovalCall.outcome, h]; rfl)
  have hok : (ApprovalCall.putDecision d).outcome db = .ok (none, db') := by
    rw [ApprovalCall.outcome, h]
    rfl
  obtain ⟨hafter, hreturned⟩ := ApprovalCall.of_ok hok
  have hnone : ∀ approval, (ApprovalCall.putDecision d).returned db = some approval →
      approval.IsFor accountId requestId →
      db.decisionForRequest accountId requestId = some approval.decision ∧
        db.reservationForRequest accountId requestId = some approval.reservation := by
    intro approval hsome
    cases hreturned.symm.trans hsome
  rcases RiskDb.putDecision_cases h with rfl | h
  · exact .same (by rw [hafter]) (by rw [hafter]) hnone
  · obtain ⟨hdecisions, hreservations, -, -, hfresh⟩ := RiskDb.insertDecision_eq_ok h
    have hreservation : db'.reservationForRequest accountId requestId =
        db.reservationForRequest accountId requestId := by
      rw [RiskDb.reservationForRequest, hreservations, RiskDb.reservationForRequest]
    by_cases hrequest : d.request = (accountId, requestId)
    · rw [hrequest] at hfresh
      refine .lone trivial d hfresh ?_ (by rw [hafter, hreservation]) hreturned
      rw [hafter, decisionForRequest_append hdecisions, if_pos hrequest,
        show db.decisionForRequest accountId requestId = none from hfresh, Option.none_or]
    · refine .same ?_ (by rw [hafter, hreservation]) hnone
      rw [hafter, decisionForRequest_append hdecisions, if_neg hrequest, Option.or_none]

/-- Persisting an approval writes both rows, or nothing. -/
lemma requestStep_persistApproval (db : RiskDb) (d : RiskDecision) (r : RiskReservation)
    (capacity : ReservationCapacity) :
    RequestStep accountId requestId db (.persistApproval d r capacity) := by
  rcases h : db.persistApprovalAtomic d r capacity with e | ⟨approval, db'⟩
  · exact .of_error (by rw [ApprovalCall.outcome, h]; rfl)
  have hok : (ApprovalCall.persistApproval d r capacity).outcome db = .ok (some approval, db') := by
    rw [ApprovalCall.outcome, h]
    rfl
  obtain ⟨hafter, hreturned⟩ := ApprovalCall.of_ok hok
  obtain ⟨hlink, -, ⟨hr, hd, rfl⟩ | ⟨hr, -, rfl, hreservations, hdecisions, -⟩⟩ :=
    RiskDb.persistApprovalAtomic_cases h
  · refine .same (by rw [hafter]) (by rw [hafter]) fun a hsome hfor => ?_
    cases hreturned.symm.trans hsome
    -- what was found is about the request of the call, so that is the request looked at
    have hrequest : d.request = (accountId, requestId) :=
      ((Rows.select_eq_some db'.decisionRequests).mp hd).2.symm.trans hfor
    cases hrequest
    obtain ⟨haccount, hid⟩ := Prod.mk.inj (request_eq_of_link hlink)
    rw [haccount, hid] at hr
    exact ⟨hd, hr⟩
  · have hfresh : Rows.select RiskDecision.request d.request db.decisions = none :=
      (hdecisions ▸ db'.decisionRequests).select_eq_none_of_append
    by_cases hrequest : d.request = (accountId, requestId)
    · have hreservation : r.request = (accountId, requestId) :=
        (request_eq_of_link hlink).trans hrequest
      rw [hrequest] at hfresh
      obtain ⟨rfl, rfl⟩ := Prod.mk.inj hreservation
      refine .approved ⟨d, r⟩ hfresh hr hlink ?_ ?_ hreturned
      · rw [hafter, decisionForRequest_append hdecisions, if_pos hrequest,
          show db.decisionForRequest _ _ = none from hfresh, Option.none_or]
      · rw [hafter, reservationForRequest_append hreservations, if_pos hreservation, hr,
          Option.none_or]
    · have hreservation : r.request ≠ (accountId, requestId) := fun heq =>
        hrequest ((request_eq_of_link hlink).symm.trans heq)
      refine .same ?_ ?_ fun a hsome hfor => ?_
      · rw [hafter, decisionForRequest_append hdecisions, if_neg hrequest, Option.or_none]
      · rw [hafter, reservationForRequest_append hreservations, if_neg hreservation, Option.or_none]
      · cases hreturned.symm.trans hsome
        exact absurd hfor hrequest

/-- **What a call does to the rows of a request.** -/
lemma requestStep (db : RiskDb) (call : ApprovalCall) :
    RequestStep accountId requestId db call := by
  rcases call with d | ⟨d, r, capacity⟩
  · exact requestStep_putDecision db d
  · exact requestStep_persistApproval db d r capacity

/-! ## Histories -/

/-- The reservation of the request has its decision, and they are linked. -/
def Linked (accountId requestId : String) (db : RiskDb) : Prop :=
  ∀ r, db.reservationForRequest accountId requestId = some r →
    ∃ d, db.decisionForRequest accountId requestId = some d ∧
      RiskDb.validateApprovalLink d r = .ok ()

/-- The two rows of the request are those of an approval. -/
def Held (accountId requestId : String) (db : RiskDb) (approval : PersistedRiskApproval) : Prop :=
  db.decisionForRequest accountId requestId = some approval.decision ∧
    db.reservationForRequest accountId requestId = some approval.reservation

/-- The decision of the request stands alone. -/
def LoneDecision (accountId requestId : String) (db : RiskDb) : Prop :=
  db.decisionForRequest accountId requestId ≠ none ∧
    db.reservationForRequest accountId requestId = none

section

variable (h : Linked accountId requestId db)

include h

/-- Without a decision there is no reservation. -/
lemma Linked.reservation_none
    (hd : db.decisionForRequest accountId requestId = none) :
    db.reservationForRequest accountId requestId = none := by
  rcases hr : db.reservationForRequest accountId requestId with _ | r
  · rfl
  · obtain ⟨d, hsome, -⟩ := h r hr
    cases hd.symm.trans hsome

/-- A call keeps the rows linked. -/
lemma Linked.after (call : ApprovalCall) :
    Linked accountId requestId (call.after db) := by
  intro r hr
  rcases requestStep db call with ⟨hd, hr', -⟩ | ⟨-, d, hbefore, -, hr', -⟩ |
    ⟨approval, -, -, hlink, hd, hr', -⟩
  · rw [hr'] at hr
    rw [hd]
    exact h r hr
  · rw [hr', h.reservation_none hbefore] at hr
    cases hr
  · cases hr'.symm.trans hr
    exact ⟨approval.decision, hd, hlink⟩

/-- **The approval of a request after a call** is the one it had, or the one the call returns. -/
lemma held_after (call : ApprovalCall)
    (a : PersistedRiskApproval) : Held accountId requestId (call.after db) a ↔
      Held accountId requestId db a ∨ call.returned db = some a ∧ a.IsFor accountId requestId := by
  rcases requestStep db call with ⟨hd, hr, hreturned⟩ | ⟨-, d, hbefore, -, hr, hreturned⟩ |
    ⟨approval, hbefore, -, -, hd, hr, hreturned⟩
  · rw [Held, hd, hr]
    exact ⟨.inl, fun hor => hor.elim id fun hret => hreturned a hret.1 hret.2⟩
  · rw [Held, hr, h.reservation_none hbefore, Held, hbefore, hreturned]
    simp
  · have hfor : approval.IsFor accountId requestId :=
      ((Rows.select_eq_some (call.after db).decisionRequests).mp hd).2
    rw [Held, hd, hr, Held, hbefore, hreturned]
    constructor
    · rintro ⟨hdecision, hreservation⟩
      have heq : approval = a := congrArg₂ PersistedRiskApproval.mk (Option.some.inj hdecision)
        (Option.some.inj hreservation)
      exact .inr ⟨congrArg some heq, heq ▸ hfor⟩
    · rintro (⟨hnone, -⟩ | ⟨hsome, -⟩)
      · cases hnone
      · cases hsome
        exact ⟨rfl, rfl⟩

/-- **The approval of a request after a history** is the one it had, or one that was returned. -/
lemma held_afterCalls (calls : List ApprovalCall)
    (a : PersistedRiskApproval) :
    Held accountId requestId (afterCalls db calls) a ↔ Held accountId requestId db a ∨
      a ∈ returnedApprovals db calls ∧ a.IsFor accountId requestId := by
  induction calls generalizing db with
  | nil => simp [afterCalls, returnedApprovals]
  | cons call calls ih =>
    rw [afterCalls, Transactions.run_cons]
    rw [← afterCalls, ← ApprovalCall.after, ih (h.after call), held_after h call a,
      returnedApprovals, List.mem_append, Option.mem_toList, or_assoc, ← or_and_right]

/-- A history keeps the rows linked. -/
lemma Linked.afterCalls (calls : List ApprovalCall) :
    Linked accountId requestId (afterCalls db calls) := by
  refine Transactions.run_invariant (fun db call r db' hlinked hok => ?_) h calls
  rw [← Transactions.after_of_ok hok]
  exact hlinked.after call

end

/-- No decision comes to stand alone, unless one is written alone. -/
lemma notLone_afterCalls (h : ¬ LoneDecision accountId requestId db)
    (hnever : NeverDecides accountId requestId ApprovalCall.Lone db calls) :
    ¬ LoneDecision accountId requestId (afterCalls db calls) := by
  induction calls generalizing db with
  | nil => exact h
  | cons call calls ih =>
    suffices hstep : ¬ LoneDecision accountId requestId (call.after db) from ih hstep hnever.2
    rcases requestStep db call with ⟨hd, hr, -⟩ | ⟨hlone, d, hbefore, hd, -, -⟩ |
      ⟨approval, -, -, -, -, hr, -⟩
    · rwa [LoneDecision, hd, hr]
    · exact absurd ⟨hbefore, by rw [hd]; exact Option.some_ne_none d⟩ (hnever.1 hlone)
    · rintro ⟨-, hnone⟩
      cases hr.symm.trans hnone

/-- The decision of a request stays as it is while no call writes it. -/
lemma decision_afterCalls (hnever : NeverDecides accountId requestId (fun _ => True) db calls) :
    (afterCalls db calls).decisionForRequest accountId requestId =
      db.decisionForRequest accountId requestId := by
  induction calls generalizing db with
  | nil => rfl
  | cons call calls ih =>
    refine (ih hnever.2).trans ?_
    rcases requestStep db call with ⟨hd, -⟩ | ⟨-, d, hbefore, hd, -⟩ |
      ⟨approval, hbefore, -, -, hd, -⟩
    · exact hd
    all_goals exact absurd ⟨hbefore, by rw [hd]; exact Option.some_ne_none _⟩ (hnever.1 trivial)

/-- The empty store has no rows of any request. -/
lemma linked_empty : Linked accountId requestId .empty := by
  intro r hr
  cases hr

/-- **The lookup returns exactly the approval that was returned**: in every history of calls that
writes no decision of the request alone, with any calls between the two reads of which none writes
its decision, the lookup succeeds, and finds an approval exactly when the history has returned it
for this request. -/
theorem replay_lookup_exact (accountId requestId : String) (before between : List ApprovalCall)
    (hlone : NeverDecides accountId requestId ApprovalCall.Lone .empty before)
    (hbetween : NeverDecides accountId requestId (fun _ => True)
      (afterCalls .empty before) between) :
    ∃ found, replayLookup accountId requestId (afterCalls .empty before) between = .ok found ∧
      ∀ approval, found = some approval ↔
        approval ∈ returnedApprovals .empty before ∧ approval.IsFor accountId requestId := by
  have hheld : ∀ approval, Held accountId requestId (afterCalls .empty before) approval ↔
      approval ∈ returnedApprovals .empty before ∧ approval.IsFor accountId requestId := by
    intro approval
    rw [held_afterCalls linked_empty before approval, or_iff_right]
    rintro ⟨hnone, -⟩
    cases hnone
  have hnotLone := notLone_afterCalls (fun h => h.1 rfl) hlone
  rw [replayLookup, decision_afterCalls hbetween]
  simp only [← hheld]
  rcases hr : (afterCalls .empty before).reservationForRequest accountId requestId with _ | r
  · have hd : (afterCalls .empty before).decisionForRequest accountId requestId = none := by
      by_contra hsome
      exact hnotLone ⟨hsome, hr⟩
    refine ⟨none, by rw [hd]; rfl, fun approval => ?_⟩
    rw [Held, hr]
    simp
  · obtain ⟨d, hd, hlink⟩ := linked_empty.afterCalls before r hr
    refine ⟨some ⟨d, r⟩, ?_, fun approval => ?_⟩
    · rw [hd, RiskDb.approvalForRequest, hlink]
      rfl
    · rw [Held, hd, hr]
      constructor
      · rintro ⟨⟩
        exact ⟨rfl, rfl⟩
      · rintro ⟨hdecision, hreservation⟩
        exact congrArg some (congrArg₂ PersistedRiskApproval.mk (Option.some.inj hdecision)
          (Option.some.inj hreservation))

end Request

/-- A decision on the request of the fixture. -/
def fixtureDecision (action : RiskActionKind) (outcome : RiskOutcome) (approved : I64)
    (reservationId : Option String) : RiskDecision where
  decisionId := "risk-decision:1"
  requestId := "request-1"
  policyRevision := 1
  accountId := "account-1"
  action := action
  requestedDeltaLots := approved
  approvedDeltaLots := approved
  outcome := outcome
  reasons := []
  reservationId := reservationId
  expiresAtUnixMs := none
  validity := ⟨1, 1, 1, 1, none, 1, 1, 1⟩

/-- An approval of ten lots, with its reservation. -/
def approveTenLots : ApprovalCall :=
  .persistApproval (fixtureDecision .directionalOrder .approve (.lit 10)
    (some "risk-reservation:1"))
    fixtureReservation ⟨none, none⟩

/-- A denial. -/
def denyOrder : ApprovalCall :=
  .putDecision (fixtureDecision .directionalOrder .reject (.lit 0) none)

/-- An approved cancellation, which needs no reservation. -/
def approveCancel : ApprovalCall :=
  .putDecision (fixtureDecision .cancelOrder .approve (.lit 0) none)

/-- **Lookups that fail although no approval was committed before them**: after a denial, after an
approved cancellation, and with an approval committed between the two reads. -/
theorem denied_request_not_replayed :
    (∀ call ∈ [denyOrder, approveCancel], returnedApprovals .empty [call] = [] ∧
      replayLookup "account-1" "request-1" (afterCalls .empty [call]) [] =
        .error (.approvalInvariantViolation "risk request has incomplete persisted approval")) ∧
      replayLookup "account-1" "request-1" .empty [approveTenLots] =
        .error (.approvalInvariantViolation "risk request has incomplete persisted approval") := by
  refine ⟨fun call hcall => ?_, by decide +kernel⟩
  rcases List.mem_pair.mp hcall with rfl | rfl
  all_goals exact ⟨by decide +kernel, by decide +kernel⟩

/-- An approval that is found again, while it is persisted once more between the reads. -/
theorem approved_request_replayed :
    ∃ found, replayLookup "account-1" "request-1" (afterCalls .empty [approveTenLots])
        [approveTenLots] = .ok found ∧
      ∀ approval, found = some approval ↔ approval ∈ returnedApprovals .empty [approveTenLots] ∧
        approval.IsFor "account-1" "request-1" := by
  refine replay_lookup_exact "account-1" "request-1" [approveTenLots] [approveTenLots]
    ⟨fun hlone => hlone.elim, trivial⟩ ⟨fun _ hdecides => ?_, trivial⟩
  exact absurd hdecides.1 (by decide +kernel)

end VoxTrader.Risk
