import VoxTrader.Lib.Check
import VoxTrader.Lib.Process

/-!
# Recovery of mutations

The evidence about a mutation is stored under the id of the client before the mutation is sent: a
process first claims the id, which stores the evidence with an unknown outcome, and only then
dispatches. A later authoritative outcome replaces the unknown one. The store is shared by any
number of processes; its three operations are atomic, and a process can be gone before it learns of
their effect.

The id a piece of evidence is stored under is part of its type, so what is loaded under an id is
evidence about that id.

## Main definitions

* `MutationEvidence`, `StoredEvidence` — what is stored about a mutation.
* `evidenceIo` — the operations of the store, and the transport.
* `decision`, `persistBeforeDispatch`, `persistAuthoritativeOutcome`, `resolveOrderAccepted` — the
  calls of the recovery.
* `executeWithId` — the dispatch of a mutation through the recovery.
-/

namespace VoxTrader.Domain

/-! ## Evidence -/

/-- What is known of a mutation. -/
inductive MutationOutcome
  | notDispatched
  | accepted
  | rejected
  | unknown
deriving DecidableEq

/-- The outcome as it is written in messages. -/
def MutationOutcome.text : MutationOutcome → String
  | .notDispatched => "NotDispatched"
  | .accepted => "Accepted"
  | .rejected => "Rejected"
  | .unknown => "Unknown"

/-- What the broker or the exchange said of a mutation. -/
inductive AuthoritativeMutationOutcome
  | accepted
  | rejected
deriving DecidableEq

/-- The outcome that was said. -/
def AuthoritativeMutationOutcome.intoOutcome : AuthoritativeMutationOutcome → MutationOutcome
  | .accepted => .accepted
  | .rejected => .rejected

/-- The evidence about a mutation. -/
structure MutationEvidence where
  clientRequestId : String
  outcome : MutationOutcome
  brokerOrderId : Option String
  brokerStopOrderId : Option String
  exchangeOrderId : Option String
  providerOperationId : Option String
  correlationId : Option String
deriving DecidableEq

/-- Evidence that is stored under an id is about it. -/
abbrev StoredEvidence (id : String) : Type := { e : MutationEvidence // e.clientRequestId = id }

/-- The evidence before anything was sent. -/
def MutationEvidence.prepared (clientRequestId : String) : MutationEvidence :=
  ⟨clientRequestId, .notDispatched, none, none, none, none, none⟩

/-- The evidence from the moment something may have been sent. -/
def MutationEvidence.dispatchedUnknown (evidence : MutationEvidence)
    (correlationId : Option String) :
    MutationEvidence :=
  { evidence with outcome := .unknown, correlationId := correlationId }

/-- An error of the store. -/
structure StoreError where
  message : String
deriving DecidableEq

/-! ## Operations -/

/-- The id in a response of the broker. -/
inductive ResponseIdentity
  | order (value : String)
  | stopOrder (value : String)
  | operation (value : Option String)
  | absent
deriving DecidableEq

/-- What came of sending: a response, a rejection by the broker, or neither. -/
inductive DispatchAnswer
  | response (identity : ResponseIdentity)
  | rejection
  | failure
deriving DecidableEq

/-- The operations of the store, and the transport. -/
inductive EvidenceOp
  | load (id : String)
  | claimDispatch (evidence : MutationEvidence)
  | resolveUnknown (expected resolved : MutationEvidence)
  | dispatch (id : String)
deriving DecidableEq

/-- The operations with their results. -/
abbrev evidenceIo : Interface where
  Op := EvidenceOp
  Res
    | .load id => Except StoreError (Option (StoredEvidence id))
    | .claimDispatch _ => Except StoreError Bool
    | .resolveUnknown _ _ => Except StoreError Bool
    | .dispatch _ => DispatchAnswer

/-- A call that may fail with an error of the store. -/
abbrev Recovery (α : Type) : Type := ExceptT StoreError (Process evidenceIo) α

/-- The evidence under an id. -/
def load (id : String) : Recovery (Option (StoredEvidence id)) :=
  ExceptT.mk (Process.perform (I := evidenceIo) (.load id))

/-- Store the evidence under its id, if nothing was sent for it yet. -/
def claimDispatch (evidence : MutationEvidence) : Recovery Bool :=
  ExceptT.mk (Process.perform (I := evidenceIo) (.claimDispatch evidence))

/-- Replace the evidence, if it is the expected one. -/
def resolveUnknown (expected resolved : MutationEvidence) : Recovery Bool :=
  ExceptT.mk (Process.perform (I := evidenceIo) (.resolveUnknown expected resolved))

/-! ## The recovery -/

/-- What to do with a mutation. -/
inductive MutationDecision
  | submit
  | reconcile
  | doNotSubmit
deriving DecidableEq

/-- What to do with a mutation, by its evidence. -/
def decisionOf (evidence : Option MutationEvidence) : MutationDecision :=
  match evidence with
  | none => .submit
  | some evidence =>
    match evidence.outcome with
    | .notDispatched => .submit
    | .unknown => .reconcile
    | .accepted | .rejected => .doNotSubmit

/-- Decide what to do with a mutation. -/
def decision (id : String) : Recovery MutationDecision := do
  let stored ← load id
  return decisionOf (stored.map Subtype.val)

/-- Claim an id: store that its mutation may have been sent, before it is sent. -/
def persistBeforeDispatch (id : String) (correlationId : Option String) :
    Recovery MutationEvidence := do
  let evidence := (MutationEvidence.prepared id).dispatchedUnknown correlationId
  if ← claimDispatch evidence then return evidence
  else throw ⟨"mutation identity already dispatched; reconcile instead of resubmitting"⟩

/-- Store an authoritative outcome in place of an unknown one. -/
def persistAuthoritativeOutcome (evidence : MutationEvidence)
    (authoritativeOutcome : AuthoritativeMutationOutcome) : Recovery MutationEvidence := do
  let outcome := authoritativeOutcome.intoOutcome
  match ← load evidence.clientRequestId with
  | none => throw ⟨"mutation dispatch evidence is not persisted"⟩
  | some stored =>
    if stored.val.outcome = .accepted ∨ stored.val.outcome = .rejected then
      if stored.val = evidence ∧ stored.val.outcome = outcome then return stored.val
      else throw ⟨"terminal mutation evidence is immutable"⟩
    else if stored.val.outcome ≠ .unknown then
      throw ⟨"authoritative outcome cannot resolve " ++ stored.val.outcome.text ++ " evidence"⟩
    else
      let resolved := { evidence with outcome := outcome }
      if ← resolveUnknown stored.val resolved then return resolved
      else throw ⟨"mutation evidence changed during authoritative reconciliation"⟩

/-- Store that the broker has the order of a mutation. -/
def resolveOrderAccepted (clientRequestId brokerOrderId : String) : Recovery MutationEvidence := do
  match ← load clientRequestId with
  | none => throw ⟨"mutation dispatch evidence is not persisted"⟩
  | some stored =>
    if stored.val.outcome ≠ .unknown then
      throw ⟨"authoritative order readback cannot resolve " ++
        stored.val.outcome.text ++ " evidence"⟩
    else
      persistAuthoritativeOutcome { stored.val with brokerOrderId := some brokerOrderId } .accepted

/-! ## Dispatch -/

/-- Add the id of a response to the evidence; a blank one says nothing. -/
def attach (evidence : MutationEvidence) : ResponseIdentity → MutationEvidence
  | .order value =>
    if Text.isBlank value then evidence else { evidence with brokerOrderId := some value }
  | .stopOrder value =>
    if Text.isBlank value then evidence else { evidence with brokerStopOrderId := some value }
  | .operation (some value) =>
    if Text.isBlank value then evidence else { evidence with providerOperationId := some value }
  | .operation none | .absent => evidence

/-- The errors of a dispatch. -/
inductive ExecutionDispatchError
  | environmentMismatch
  | reconciliationRequired
  | identity
  | store (error : StoreError)
  | rejected (evidence : MutationEvidence)
  | unknownAfterDispatch (evidence : MutationEvidence)
deriving DecidableEq

/-- A dispatch. -/
abbrev Dispatch (α : Type) : Type := ExceptT ExecutionDispatchError (Process evidenceIo) α

/-- A call of the recovery as part of a dispatch. -/
def recover {α : Type} (call : Recovery α) : Dispatch α := Process.orFail .store call.run

/-- Send the mutation. -/
def dispatch (id : String) : Dispatch DispatchAnswer :=
  liftM (Process.perform (I := evidenceIo) (.dispatch id))

/-- **Dispatch a mutation**: decide, claim, send, store what came of it. -/
def executeWithId (environmentsAgree : Bool) (logicalId : String) : Dispatch MutationEvidence := do
  if !environmentsAgree then throw .environmentMismatch
  if (← recover (decision logicalId)) ≠ .submit then throw .reconciliationRequired
  let evidence ← recover (persistBeforeDispatch logicalId none)
  match ← dispatch logicalId with
  | .response identity =>
    recover (persistAuthoritativeOutcome (attach evidence identity) .accepted)
  | .rejection => do
    let evidence ← recover (persistAuthoritativeOutcome evidence .rejected)
    throw (.rejected evidence)
  | .failure => throw (.unknownAfterDispatch evidence)

/-- Dispatch a mutation whose id comes from its request. -/
def execute (environmentsAgree : Bool) (logicalId : String) : Dispatch MutationEvidence :=
  if Text.isBlank logicalId then throw .identity else executeWithId environmentsAgree logicalId

/-- Store that the broker has the order of a mutation that needs reconciliation. -/
def reconcileOrderAccepted (clientRequestId brokerOrderId : String) :
    Recovery MutationEvidence := do
  if (← decision clientRequestId) ≠ .reconcile then
    throw ⟨"mutation evidence does not require reconciliation"⟩
  resolveOrderAccepted clientRequestId brokerOrderId

end VoxTrader.Domain
