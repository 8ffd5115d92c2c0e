import VoxTrader.Domain.MutationRecovery
import VoxTrader.Lib.Trace
import Mathlib.Data.List.Count

/-!
# At most one submission

Any number of processes share one store of evidence, each in the middle of some call of the recovery
or of a dispatch, in any interleaving; a process can be gone at any moment, and a failing store may
or may not have done what it was asked to. Whatever happens, an id is claimed at most once and sent
at most once, because a claim needs an id that was never claimed, and a dispatch needs a claim of
its own.

## Main definitions

* `EvidenceDb` — the evidence under each id.
* `RecoveryCall` — the calls a process can be in the middle of.
* `recoverySystem` — the processes on the shared store.
* `claims`, `sends` — how often an id was claimed, and sent.
* `Moves` — how the evidence under an id may change.

## Main results

* `recovery_submits_once` — an id is claimed and sent at most once, no process is told to submit
  after a claim, and the evidence goes from nothing to unknown to one final outcome.
-/

namespace VoxTrader.Domain

open System

/-! ## The system -/

/-- The evidence under each id. -/
abbrev EvidenceDb : Type := (id : String) → Option (StoredEvidence id)

/-- Store evidence under its id. -/
def EvidenceDb.write (db : EvidenceDb) (evidence : MutationEvidence) : EvidenceDb := fun id =>
  if h : evidence.clientRequestId = id then some ⟨evidence, h⟩ else db id

/-- Nothing was sent for the id yet, as far as the store knows. -/
def EvidenceDb.claimable (db : EvidenceDb) (id : String) : Bool :=
  (db id).all (·.val.outcome = .notDispatched)

/-- What the environment decides: whether the store fails, with its work done or not, and what the
broker answers. -/
structure RecoveryChoice where
  fault : Option Bool
  answer : DispatchAnswer

/-- Perform a write of the store that succeeds when `possible`. -/
def performWrite (choice : RecoveryChoice) (possible : Bool) (evidence : MutationEvidence)
    (db : EvidenceDb) : EvidenceDb × Except StoreError Bool :=
  match choice.fault with
  | none => (if possible then db.write evidence else db, .ok possible)
  | some committed =>
    (if committed && possible then db.write evidence else db, .error ⟨"store unavailable"⟩)

/-- Perform an operation. -/
def execEvidence (choice : RecoveryChoice) (db : EvidenceDb) :
    (op : EvidenceOp) → EvidenceDb × evidenceIo.Res op
  | .load id => (db, if choice.fault.isSome then .error ⟨"store unavailable"⟩ else .ok (db id))
  | .claimDispatch evidence =>
    performWrite choice (db.claimable evidence.clientRequestId) evidence db
  | .resolveUnknown expected resolved =>
    performWrite choice (db expected.clientRequestId = some ⟨expected, rfl⟩) resolved db
  | .dispatch _ => (db, choice.answer)

/-- The calls a process can be in the middle of. -/
inductive RecoveryCall
  | decision (id : String)
  | claim (id : String) (correlationId : Option String)
  | resolve (evidence : MutationEvidence) (outcome : AuthoritativeMutationOutcome)
  | resolveOrderAccepted (id brokerOrderId : String)
  | reconcileOrderAccepted (id brokerOrderId : String)
  | executeWithId (environmentsAgree : Bool) (id : String)
  | execute (environmentsAgree : Bool) (id : String)

/-- The program of a call. -/
def RecoveryCall.program : RecoveryCall → Process evidenceIo Unit
  | .decision id => do let _ ← (Domain.decision id).run
  | .claim id correlationId => do let _ ← (persistBeforeDispatch id correlationId).run
  | .resolve evidence outcome => do let _ ← (persistAuthoritativeOutcome evidence outcome).run
  | .resolveOrderAccepted id brokerOrderId => do
    let _ ← (Domain.resolveOrderAccepted id brokerOrderId).run
  | .reconcileOrderAccepted id brokerOrderId => do
    let _ ← (Domain.reconcileOrderAccepted id brokerOrderId).run
  | .executeWithId environmentsAgree id => do
    let _ ← (Domain.executeWithId environmentsAgree id).run
  | .execute environmentsAgree id => do let _ ← (Domain.execute environmentsAgree id).run

/-- **Processes of the recovery on one store.** A request that is on its way may still be sent when
its process has gone away. -/
abbrev recoverySystem : System evidenceIo where
  State := EvidenceDb
  Site := RecoveryCall
  Job := RecoveryCall
  Choice := RecoveryChoice
  Event := Empty
  start call db := some (db, call, call.program)
  exec op _ _ choice db := some (execEvidence choice db op)
  leave _ _ db := db
  detached
    | .dispatch _ => true
    | _ => false
  event e _ := nomatch e

/-- Nothing is stored and nothing was started. -/
def recoveryStart : recoverySystem.traced.Config := ⟨⟨fun _ => none, []⟩, []⟩

/-! ## What happened -/

/-- The id an operation has claimed. -/
def claimedBy : (op : EvidenceOp) → evidenceIo.Res op → Option String
  | .claimDispatch evidence, .ok true => some evidence.clientRequestId
  | _, _ => none

/-- The id an operation has sent. -/
def sentBy : EvidenceOp → Option String
  | .dispatch id => some id
  | _ => none

/-- The id an operation has read as one to submit. -/
def submittableBy : (op : EvidenceOp) → evidenceIo.Res op → Option String
  | .load id, .ok stored => if decisionOf (stored.map Subtype.val) = .submit then some id else none
  | _, _ => none

/-- How often an id was claimed. -/
def claims (id : String) (trace : List recoverySystem.Performed) : ℕ :=
  trace.countP fun e => claimedBy e.op e.res = some id

/-- How often an id was sent. -/
def sends (id : String) (trace : List recoverySystem.Performed) : ℕ :=
  trace.countP fun e => sentBy e.op = some id

/-- **How the evidence under an id may change**: not at all, from nothing to an unknown outcome, or
from an unknown outcome to a final one. -/
inductive Moves {id : String} : Option (StoredEvidence id) → Option (StoredEvidence id) → Prop
  | same (stored : Option (StoredEvidence id)) : Moves stored stored
  | claimed (e : StoredEvidence id) (h : e.val.outcome = .unknown) : Moves none (some e)
  | resolved (e e' : StoredEvidence id) (h : e.val.outcome = .unknown)
      (h' : e'.val.outcome = .accepted ∨ e'.val.outcome = .rejected) : Moves (some e) (some e')

/-! ## The rule all calls follow -/

/-- The rule: a claim stores an unknown outcome, a resolution replaces an unknown outcome by a final
one, and an id is dispatched by a process that has claimed it, once for each claim. -/
def recoveryRule : Discipline evidenceIo (Option String) where
  pre
    | .load _, _ => True
    | .claimDispatch evidence, _ => evidence.outcome = .unknown
    | .resolveUnknown expected resolved, _ => expected.outcome = .unknown ∧
      (resolved.outcome = .accepted ∨ resolved.outcome = .rejected) ∧
      expected.clientRequestId = resolved.clientRequestId
    | .dispatch id, g => g = some id
  next
    | .claimDispatch evidence, .ok true, _ => some evidence.clientRequestId
    | .dispatch _, _, _ => none
    | _, _, g => g

section Rule

open Process

variable {P : Option String → Prop}

lemma keeps_load (id : String) : Keeps recoveryRule P (load id).run :=
  fun _ hg => ⟨trivial, fun _ => hg⟩

lemma keeps_decision (id : String) : Keeps recoveryRule P (decision id).run :=
  (keeps_load id).bindExcept fun _ => keeps_pure

lemma keeps_persistAuthoritativeOutcome (evidence : MutationEvidence)
    (outcome : AuthoritativeMutationOutcome) :
    Keeps recoveryRule P (persistAuthoritativeOutcome evidence outcome).run := by
  refine (keeps_load _).bindExcept fun stored => ?_
  rcases stored with _ | stored
  · exact keeps_throw
  · simp only
    split_ifs with hterminal hsame hunknown
    · exact keeps_pure
    · exact keeps_throw
    · exact keeps_throw
    · -- the outcome that is written is final, and the evidence is about the id that was loaded
      have hfinal : outcome.intoOutcome = .accepted ∨ outcome.intoOutcome = .rejected := by
        cases outcome
        · exact .inl rfl
        · exact .inr rfl
      have hresolve : Keeps recoveryRule P (resolveUnknown stored.val
          { evidence with outcome := outcome.intoOutcome }).run :=
        fun _ hg => ⟨⟨not_not.mp hunknown, hfinal, stored.property⟩, fun _ => hg⟩
      refine hresolve.bindExcept fun done => ?_
      split_ifs
      · exact keeps_pure
      · exact keeps_throw

lemma keeps_resolveOrderAccepted (id brokerOrderId : String) :
    Keeps recoveryRule P (resolveOrderAccepted id brokerOrderId).run := by
  refine (keeps_load _).bindExcept fun stored => ?_
  rcases stored with _ | stored
  · exact keeps_throw
  · simp only
    split_ifs with hunknown
    · exact keeps_throw
    · exact keeps_persistAuthoritativeOutcome _ _

lemma keeps_reconcileOrderAccepted (id brokerOrderId : String) :
    Keeps recoveryRule P (reconcileOrderAccepted id brokerOrderId).run := by
  refine (keeps_decision _).bindExcept fun decided => ?_
  split_ifs with hreconcile
  · exact keeps_throw
  · exact keeps_resolveOrderAccepted _ _

/-- A claim that is returned is the claim of the process. -/
lemma follows_persistBeforeDispatch (id : String) (correlation : Option String)
    (g : Option String) :
    Follows recoveryRule (fun result g' => ∀ evidence, result = .ok evidence → g' = some id)
      (persistBeforeDispatch id correlation).run g := by
  refine follows_bindExcept ⟨rfl, fun r => ?_⟩
  rcases r with e | _ | _
  · intro evidence herror
    cases herror
  · intro evidence herror
    cases herror
  · intro evidence hok
    rfl

lemma follows_recover {α : Type} {Q : Except ExecutionDispatchError α → Option String → Prop}
    {call : Recovery α} {g : Option String}
    (h : Follows recoveryRule (fun r g' => Q (r.mapError .store) g') call.run g) :
    Follows recoveryRule Q (recover call).run g :=
  follows_orFail.mpr h

/-- A dispatch claims the id before it is sent. -/
lemma follows_executeWithId (environmentsAgree : Bool) (id : String) :
    Follows recoveryRule (fun _ _ => True) (executeWithId environmentsAgree id).run none := by
  rcases environmentsAgree with _ | _
  · exact trivial
  refine follows_bindExcept (follows_recover
    ((keeps_decision (P := fun _ => True) id none trivial).mono fun decided g _ => ?_))
  rcases decided with e | decided
  · exact trivial
  by_cases hsubmit : decided = .submit
  · subst hsubmit
    refine follows_bindExcept (follows_recover ((follows_persistBeforeDispatch id none g).mono
      fun claimed g' hclaimed => ?_))
    rcases claimed with e | evidence
    · exact trivial
    -- the process holds a claim of the id when it sends it
    obtain rfl := hclaimed evidence rfl
    refine follows_bindExcept (follows_liftExcept.mpr ⟨rfl, fun answer => ?_⟩)
    rcases answer with identity | _ | _
    · exact follows_recover ((keeps_persistAuthoritativeOutcome (P := fun _ => True) _ _ _
        trivial).mono fun _ _ _ => trivial)
    · refine follows_bindExcept (follows_recover ((keeps_persistAuthoritativeOutcome
        (P := fun _ => True) _ _ _ trivial).mono fun result g _ => ?_))
      rcases result with e | evidence
      all_goals exact trivial
    · exact trivial
  · simp only [Except.mapError, ne_eq, hsubmit, not_false_eq_true, if_true]
    exact trivial

/-- Every call follows the rule. -/
lemma follows_program (call : RecoveryCall) :
    Follows recoveryRule (fun _ _ => True) call.program none := by
  have hkept : ∀ {ε α : Type} {x : ExceptT ε (Process evidenceIo) α},
      Keeps recoveryRule (fun _ => True) x.run →
      Follows recoveryRule (fun _ _ => True) (x.run >>= fun _ => pure ()) none :=
    fun hx => follows_bind.mpr ((hx none trivial).mono fun _ _ _ => trivial)
  have hfollowed : ∀ {ε α : Type} {x : ExceptT ε (Process evidenceIo) α},
      Follows recoveryRule (fun _ _ => True) x.run none →
      Follows recoveryRule (fun _ _ => True) (x.run >>= fun _ => pure ()) none :=
    fun hx => follows_bind.mpr (hx.mono fun _ _ _ => trivial)
  cases call with
  | decision id => exact hkept (keeps_decision id)
  | claim id correlationId =>
    exact hfollowed ((follows_persistBeforeDispatch id correlationId none).mono
      fun _ _ _ => trivial)
  | resolve evidence outcome => exact hkept (keeps_persistAuthoritativeOutcome evidence outcome)
  | resolveOrderAccepted id brokerOrderId =>
    exact hkept (keeps_resolveOrderAccepted id brokerOrderId)
  | reconcileOrderAccepted id brokerOrderId =>
    exact hkept (keeps_reconcileOrderAccepted id brokerOrderId)
  | executeWithId environmentsAgree id =>
    exact hfollowed (follows_executeWithId environmentsAgree id)
  | execute environmentsAgree id =>
    refine hfollowed ?_
    unfold Domain.execute
    split_ifs with hblank
    · exact trivial
    · exact follows_executeWithId environmentsAgree id

end Rule

/-! ## One operation -/

/-- **What an operation does to the store**: nothing, and then it has claimed nothing and has read
what is there; or it stores evidence under an id that could be claimed; or it replaces the evidence
it expects. -/
inductive Executed (db : EvidenceDb) : (op : EvidenceOp) → evidenceIo.Res op → EvidenceDb → Prop
  | idle {op : EvidenceOp} {r : evidenceIo.Res op} (claimed : claimedBy op r = none)
      (submittable : ∀ id, submittableBy op r = some id → db.claimable id = true) :
      Executed db op r db
  | claim (evidence : MutationEvidence) (r : Except StoreError Bool)
      (claimable : db.claimable evidence.clientRequestId = true) :
      Executed db (.claimDispatch evidence) r (db.write evidence)
  | resolve (expected resolved : MutationEvidence) (r : Except StoreError Bool)
      (found : db expected.clientRequestId = some ⟨expected, rfl⟩) :
      Executed db (.resolveUnknown expected resolved) r (db.write resolved)

/-- A write that is performed was possible, and one that says it was performed was. -/
lemma performWrite_cases (choice : RecoveryChoice) (possible : Bool)
    (evidence : MutationEvidence) (db : EvidenceDb) :
    (possible = true ∧ (performWrite choice possible evidence db).1 = db.write evidence) ∨
      ((performWrite choice possible evidence db).1 = db ∧
        (performWrite choice possible evidence db).2 ≠ .ok true) := by
  obtain ⟨fault, answer⟩ := choice
  rcases possible with _ | _ <;> rcases fault with _ | _ | _ <;> simp [performWrite]

/-- Every operation does one of these. -/
lemma executed (choice : RecoveryChoice) (db : EvidenceDb) (op : EvidenceOp) :
    Executed db op (execEvidence choice db op).2 (execEvidence choice db op).1 := by
  cases op with
  | load id =>
    refine .idle rfl fun other hother => ?_
    simp only [execEvidence] at hother
    split_ifs at hother with hfault
    · cases hother
    · simp only [submittableBy] at hother
      split_ifs at hother with hsubmit
      cases hother
      unfold EvidenceDb.claimable
      rcases hstored : db id with _ | stored
      · rfl
      · rw [hstored] at hsubmit
        simp only [Option.map_some, decisionOf] at hsubmit
        rcases houtcome : stored.val.outcome with _ | _ | _ | _ <;> rw [houtcome] at hsubmit
        · simp [houtcome]
        all_goals cases hsubmit
  | claimDispatch evidence =>
    rcases performWrite_cases choice (db.claimable evidence.clientRequestId) evidence db with
      ⟨hpossible, hdb⟩ | ⟨hdb, hr⟩
    · rw [show (execEvidence choice db (.claimDispatch evidence)).1 = db.write evidence from hdb]
      exact .claim evidence _ hpossible
    · rw [show (execEvidence choice db (.claimDispatch evidence)).1 = db from hdb]
      refine .idle ?_ nofun
      change claimedBy (.claimDispatch evidence)
        (performWrite choice (db.claimable evidence.clientRequestId) evidence db).2 = none
      rcases hresult : (performWrite choice (db.claimable evidence.clientRequestId) evidence db).2
        with e | _ | _
      · rfl
      · rfl
      · exact absurd hresult hr
  | resolveUnknown expected resolved =>
    rcases performWrite_cases choice (db expected.clientRequestId = some ⟨expected, rfl⟩)
      resolved db
      with ⟨hpossible, hdb⟩ | ⟨hdb, -⟩
    · rw [show (execEvidence choice db (.resolveUnknown expected resolved)).1 = db.write resolved
        from hdb]
      exact .resolve expected resolved _ (of_decide_eq_true hpossible)
    · rw [show (execEvidence choice db (.resolveUnknown expected resolved)).1 = db from hdb]
      exact .idle rfl nofun
  | dispatch => exact .idle rfl nofun

variable {evidence : MutationEvidence} {db : EvidenceDb} {op : EvidenceOp} {id : String}
  {db' : EvidenceDb} {r : evidenceIo.Res op} {s : recoverySystem.Recorded}

/-- Under another id nothing changes. -/
lemma write_of_ne (h : evidence.clientRequestId ≠ id) : db.write evidence id = db id :=
  dif_neg h

/-- Under its own id the evidence is stored. -/
lemma write_self : db.write evidence evidence.clientRequestId = some ⟨evidence, rfl⟩ :=
  dif_pos rfl

/-- **How an operation moves the evidence under an id**, when nothing is stored as not
dispatched. -/
lemma moves_of_executed {g : Option String} (h : Executed db op r db')
    (hpre : recoveryRule.pre op g)
    (hdispatched : ∀ stored, db id = some stored → stored.val.outcome ≠ .notDispatched) :
    Moves (db id) (db' id) := by
  cases h with
  | idle => exact .same (db id)
  | claim evidence r claimable =>
    by_cases hid : evidence.clientRequestId = id
    · subst hid
      rw [write_self]
      rcases hstored : db evidence.clientRequestId with _ | stored
      · exact .claimed _ hpre
      · -- what is there was dispatched, so it could not be claimed
        rw [EvidenceDb.claimable, hstored, Option.all_some, decide_eq_true_eq] at claimable
        exact absurd claimable (hdispatched stored hstored)
    · rw [write_of_ne hid]
      exact .same (db id)
  | resolve expected resolved r found =>
    obtain ⟨hunknown, hfinal, hsame⟩ := hpre
    by_cases hid : resolved.clientRequestId = id
    · subst hid
      obtain ⟨e, hfound, he⟩ : ∃ e : StoredEvidence resolved.clientRequestId,
          db resolved.clientRequestId = some e ∧ e.val = expected := by
        rw [← hsame]
        exact ⟨_, found, rfl⟩
      rw [write_self, hfound]
      exact .resolved e _ (he ▸ hunknown) hfinal
    · rw [write_of_ne hid]
      exact .same (db id)

/-! ## All interleavings -/

/-- The id a process has claimed and not yet sent. -/
def holds (who : ℕ) (trace : List recoverySystem.Performed) : Option String :=
  ghostAt recoveryRule none who trace

/-- **What holds of an id at all times.** -/
structure SafeId (id : String) (s : recoverySystem.Recorded) : Prop where
  dispatched : ∀ stored, s.state id = some stored → stored.val.outcome ≠ .notDispatched
  unclaimed : s.state id = none → claims id s.trace = 0
  claimedOnce : claims id s.trace ≤ 1
  sentClaimed : sends id s.trace ≤ claims id s.trace
  unsent : ∀ who, holds who s.trace = some id → claims id s.trace = 1 ∧ sends id s.trace = 0
  oneHolder : ∀ who who', holds who s.trace = some id → holds who' s.trace = some id → who = who'
  noSubmit : ∀ newer e older, s.trace = newer ++ e :: older →
    submittableBy e.op e.res = some id → claims id older = 0

section Counting

variable {id : String} {who : ℕ} {site : RecoveryCall} {op : EvidenceOp} {r : evidenceIo.Res op}
  {trace : List recoverySystem.Performed}

lemma claims_cons : claims id (⟨who, site, op, r⟩ :: trace) =
    claims id trace + if claimedBy op r = some id then 1 else 0 := by
  rw [claims, List.countP_cons, claims]
  simp only [decide_eq_true_eq]

lemma sends_cons : sends id (⟨who, site, op, r⟩ :: trace) =
    sends id trace + if sentBy op = some id then 1 else 0 := by
  rw [sends, List.countP_cons, sends]
  simp only [decide_eq_true_eq]

lemma holds_cons_self : holds who (⟨who, site, op, r⟩ :: trace) =
    recoveryRule.next op r (holds who trace) :=
  ghostAt_cons_self

lemma holds_cons_of_ne {who' : ℕ} (h : who ≠ who') :
    holds who' (⟨who, site, op, r⟩ :: trace) = holds who' trace :=
  ghostAt_cons_of_ne h

/-- A process comes to hold an id only by claiming it. -/
lemma holds_cons {who' : ℕ} (h : holds who' (⟨who, site, op, r⟩ :: trace) = some id) :
    (who' = who ∧ claimedBy op r = some id) ∨
      (holds who' trace = some id ∧ (who' = who → sentBy op = none)) := by
  by_cases hwho : who = who'
  · subst hwho
    rw [holds_cons_self] at h
    cases op with
    | load _ | resolveUnknown _ _ => exact .inr ⟨h, fun _ => rfl⟩
    | dispatch => cases h
    | claimDispatch =>
      rcases r with e | _ | _
      · exact .inr ⟨h, fun _ => rfl⟩
      · exact .inr ⟨h, fun _ => rfl⟩
      · exact .inl ⟨rfl, h⟩
  · rw [holds_cons_of_ne hwho] at h
    exact .inr ⟨h, fun heq => absurd heq.symm hwho⟩

/-- The history of submissions, one operation longer. -/
lemma noSubmit_cons {s : recoverySystem.Recorded} (hsafe : SafeId id s) (who : ℕ)
    (site : RecoveryCall) (hnow : submittableBy op r = some id → claims id s.trace = 0) :
    ∀ newer e older, ⟨who, site, op, r⟩ :: s.trace = newer ++ e :: older →
      submittableBy e.op e.res = some id → claims id older = 0 := by
  intro newer e older htrace hsubmit
  rcases newer with _ | ⟨e', newer⟩
  · cases htrace
    exact hnow hsubmit
  · exact hsafe.noSubmit newer e older (List.cons.inj htrace).2 hsubmit

end Counting

/-- An id that can be claimed was not. -/
lemma SafeId.claims_of_claimable (h : SafeId id s)
    (hclaimable : EvidenceDb.claimable s.state id = true) :
    s.state id = none ∧ claims id s.trace = 0 := by
  have hnone : s.state id = none := by
    rcases hstored : s.state id with _ | stored
    · rfl
    · rw [EvidenceDb.claimable, hstored, Option.all_some, decide_eq_true_eq] at hclaimable
      exact absurd hclaimable (h.dispatched stored hstored)
  exact ⟨hnone, h.unclaimed hnone⟩

/-- What is stored after an operation was dispatched, and something is stored after a claim. -/
lemma stored_of_moves {before after : Option (StoredEvidence id)} (h : Moves before after)
    (hbefore : ∀ stored, before = some stored → stored.val.outcome ≠ .notDispatched) :
    (∀ stored, after = some stored → stored.val.outcome ≠ .notDispatched) ∧
      (after = none → before = none) := by
  cases h with
  | same => exact ⟨hbefore, fun hnone => hnone⟩
  | claimed e hunknown =>
    refine ⟨?_, nofun⟩
    rintro _ ⟨⟩
    rw [hunknown]
    decide
  | resolved e e' hunknown hfinal =>
    refine ⟨?_, nofun⟩
    rintro _ ⟨⟩
    rcases hfinal with h | h <;> rw [h] <;> decide

/-- **An operation that follows the rule keeps every id safe.** -/
lemma SafeId.exec (hsafe : SafeId id s) {who : ℕ} {site : RecoveryCall}
    (hexec : Executed s.state op r db') (hpre : recoveryRule.pre op (holds who s.trace)) :
    SafeId id ⟨db', ⟨who, site, op, r⟩ :: s.trace⟩ := by
  obtain ⟨hdispatched, hkept⟩ :=
    stored_of_moves (moves_of_executed hexec hpre hsafe.dispatched) hsafe.dispatched
  have hsubmit : submittableBy op r = some id → claims id s.trace = 0 := by
    intro hsubmit
    cases hexec with
    | idle _ submittable => exact (hsafe.claims_of_claimable (submittable id hsubmit)).2
    | claim _ _ _ | resolve _ _ _ _ => cases hsubmit
  have hnoSubmit := noSubmit_cons hsafe who site hsubmit
  by_cases hclaim : claimedBy op r = some id
  · -- the id is claimed: nothing was stored under it, so nobody held it and it was not sent
    obtain ⟨hzero, hunsent, hsome⟩ : claims id s.trace = 0 ∧ sentBy op = none ∧ db' id ≠ none := by
      cases hexec with
      | idle claimed => exact absurd (claimed.symm.trans hclaim) (by simp)
      | resolve => cases hclaim
      | claim evidence r claimable =>
        rcases r with e | _ | _
        · cases hclaim
        · cases hclaim
        · cases hclaim
          refine ⟨(hsafe.claims_of_claimable claimable).2, rfl, ?_⟩
          rw [write_self]
          exact Option.some_ne_none _
    have hclaims : claims id (⟨who, site, op, r⟩ :: s.trace) = 1 := by
      rw [claims_cons, hzero, if_pos hclaim]
    have hsends : sends id (⟨who, site, op, r⟩ :: s.trace) = 0 := by
      have hle := hsafe.sentClaimed
      rw [sends_cons, hunsent, if_neg (by simp)]
      omega
    have hholder : ∀ who', holds who' (⟨who, site, op, r⟩ :: s.trace) = some id → who' = who := by
      intro who' hwho'
      rcases holds_cons hwho' with ⟨heq, -⟩ | ⟨hheld, -⟩
      · exact heq
      · have := (hsafe.unsent who' hheld).1
        omega
    exact ⟨hdispatched, fun hnone => absurd hnone hsome, Nat.le_of_eq hclaims,
      by rw [hsends]; exact Nat.zero_le _, fun _ _ => ⟨hclaims, hsends⟩,
      fun who₁ who₂ h₁ h₂ => (hholder who₁ h₁).trans (hholder who₂ h₂).symm, hnoSubmit⟩
  · have hclaims : claims id (⟨who, site, op, r⟩ :: s.trace) = claims id s.trace := by
      rw [claims_cons, if_neg hclaim, Nat.add_zero]
    have hheld : ∀ who', holds who' (⟨who, site, op, r⟩ :: s.trace) = some id →
        holds who' s.trace = some id ∧ (who' = who → sentBy op = none) := fun who' hwho' =>
      (holds_cons hwho').resolve_left fun h => hclaim h.2
    have hunclaimed : db' id = none → claims id (⟨who, site, op, r⟩ :: s.trace) = 0 :=
      fun hnone => by
      rw [hclaims]
      exact hsafe.unclaimed (hkept hnone)
    have honeHolder : ∀ who₁ who₂, holds who₁ (⟨who, site, op, r⟩ :: s.trace) = some id →
        holds who₂ (⟨who, site, op, r⟩ :: s.trace) = some id → who₁ = who₂ := fun who₁ who₂ h₁ h₂ =>
      hsafe.oneHolder who₁ who₂ (hheld who₁ h₁).1 (hheld who₂ h₂).1
    by_cases hsend : sentBy op = some id
    · -- the id is sent, by the one process that holds it, which then holds it no more
      have hholds : holds who s.trace = some id := by
        cases op with
        | dispatch =>
          cases hsend
          exact hpre
        | load _ | claimDispatch _ | resolveUnknown _ _ => cases hsend
      obtain ⟨hone, hzero⟩ := hsafe.unsent who hholds
      have hsends : sends id (⟨who, site, op, r⟩ :: s.trace) = 1 := by
        rw [sends_cons, hzero, if_pos hsend]
      refine ⟨hdispatched, hunclaimed, by rw [hclaims]; exact hsafe.claimedOnce,
        Nat.le_of_eq (by rw [hsends, hclaims, hone]), fun who' hwho' => ?_, honeHolder, hnoSubmit⟩
      obtain ⟨hbefore, hself⟩ := hheld who' hwho'
      exact absurd ((hself (hsafe.oneHolder who' who hbefore hholds)).symm.trans hsend) (by simp)
    · have hsends : sends id (⟨who, site, op, r⟩ :: s.trace) = sends id s.trace := by
        rw [sends_cons, if_neg hsend, Nat.add_zero]
      refine ⟨hdispatched, hunclaimed, by rw [hclaims]; exact hsafe.claimedOnce,
        by rw [hsends, hclaims]; exact hsafe.sentClaimed, fun who' hwho' => ?_, honeHolder,
        hnoSubmit⟩
      rw [hclaims, hsends]
      exact hsafe.unsent who' (hheld who' hwho').1

/-- **Every id is safe in every run.** -/
lemma safe_reach {c : recoverySystem.traced.Config} (h : Reach (fun _ _ => True) recoveryStart c) :
    Disciplined recoveryRule (fun _ => none) c ∧ ∀ id, SafeId id c.state := by
  have hjobs : recoverySystem.Starts recoveryRule (fun _ => none) fun _ => True := by
    intro call db db' site program hstart
    obtain ⟨-, hrest⟩ := Option.pair_inj hstart
    cases hrest
    exact follows_program call
  have hinv : ∀ id, SafeId id recoveryStart.state := by
    intro id
    refine ⟨?_, fun _ => rfl, Nat.zero_le _, Nat.le_refl _, ?_, ?_, ?_⟩
    · intro _ hstored
      cases hstored
    · intro _ hholds
      cases hholds
    · intro _ _ hholds
      cases hholds
    · intro newer e older htrace
      exact absurd htrace.symm (by simp [recoveryStart])
  have hstep : ∀ {c c' : recoverySystem.traced.Config} {label : recoverySystem.traced.Label},
      Disciplined recoveryRule (fun _ => none) c → (∀ id, SafeId id c.state) → True →
      TracedStep c label c' → ∀ id, SafeId id c'.state := by
    intro c c' label hdisciplined hsafe _ hstep id
    cases hstep with
    | start hstart =>
      cases hstart
      exact hsafe id
    | kill hthread | abandon hthread hdetached => exact hsafe id
    | @event e => exact e.elim
    | @run who choice site op next state r hthread hexec =>
      obtain ⟨rfl, rfl⟩ := Option.pair_inj hexec
      exact (hsafe id).exec (executed choice c.state.state op) (hdisciplined.follows hthread).1
  exact Disciplined.reach hjobs hstep (.of_nil rfl rfl) hinv h

/-- **An id is submitted at most once, in every run of any number of processes**: it is claimed at
most once and sent at most once, no process reads it as one to submit after it was claimed, and
every step moves the evidence from nothing to an unknown outcome, from there to a final one, or not
at all. -/
theorem recovery_submits_once {c : recoverySystem.traced.Config}
    (h : Reach (fun _ _ => True) recoveryStart c) :
    (∀ id, claims id c.state.trace ≤ 1 ∧ sends id c.state.trace ≤ 1) ∧
      (∀ id newer e older, c.state.trace = newer ++ e :: older →
        submittableBy e.op e.res = some id → claims id older = 0) ∧
      ∀ label c', c.step label = some c' → ∀ id, Moves (c.state.state id) (c'.state.state id) := by
  obtain ⟨hdisciplined, hsafe⟩ := safe_reach h
  refine ⟨fun id => ⟨(hsafe id).claimedOnce,
      Nat.le_trans (hsafe id).sentClaimed (hsafe id).claimedOnce⟩, fun id => (hsafe id).noSubmit,
      fun label c' hstep id => ?_⟩
  cases tracedStep_of_step hstep with
  | start hstart =>
    cases hstart
    exact .same _
  | kill hthread | abandon hthread hdetached => exact .same _
  | @event e => exact e.elim
  | @run who choice site op next state r hthread hexec =>
    obtain ⟨rfl, rfl⟩ := Option.pair_inj hexec
    exact moves_of_executed (executed choice c.state.state op) (hdisciplined.follows hthread).1
      (hsafe id).dispatched

/-- Two dispatches of one id that both decide to submit: one of them claims it, sends it and stores
the outcome. -/
def twoDispatches : List recoverySystem.traced.Label :=
  [.start (.executeWithId true "request-1"), .start (.executeWithId true "request-1"),
    .run 0 answered, .run 1 answered, .run 0 answered, .run 1 answered, .run 0 answered,
    .run 0 answered, .run 0 answered]
where
  answered : RecoveryChoice := ⟨none, .response (.order "broker-order-1")⟩

/-- The two dispatches send the id once, and leave it accepted. -/
theorem two_dispatches_submit_once :
    ∃ c, recoveryStart.run twoDispatches = some c ∧ sends "request-1" c.state.trace = 1 ∧
      (c.state.state "request-1").map (·.val.outcome) = some .accepted ∧
      (∀ id, claims id c.state.trace ≤ 1 ∧ sends id c.state.trace ≤ 1) := by
  obtain ⟨c, hc, hsends, houtcome⟩ : ∃ c, recoveryStart.run twoDispatches = some c ∧
      sends "request-1" c.state.trace = 1 ∧
      (c.state.state "request-1").map (·.val.outcome) = some .accepted := by
    decide +kernel
  exact ⟨c, hc, hsends, houtcome, (recovery_submits_once (System.Config.reach_of_run hc)).1⟩

end VoxTrader.Domain
