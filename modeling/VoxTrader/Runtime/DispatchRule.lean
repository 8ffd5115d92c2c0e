import VoxTrader.Runtime.Parts

/-!
# A rule for dispatching

What one has to show about a discipline in order that a dispatch follows it. A call goes through
stages: it is idle, then admitted, then the risk port has had a last look, then it holds the fenced
record of its command, then has the broker's answer, files it and settles the command. The rule asks
for one condition per operation that leads from stage to stage or reports to the risk port;
everything else a dispatch does is handled once, here.

## Main definitions

* `PartsKeep` — the programs of a dispatch that every part performs keep a property.
* `DispatchCourse` — the conditions, stage by stage.

## Main results

* `DispatchCourse.follows_gate`, `DispatchCourse.follows` — a dispatch follows a discipline that
  meets them.
-/

namespace VoxTrader.Runtime

open Process

/-- The journal state an answer of the broker leads to. -/
def ExecutionResult.journalState : ExecutionResult → JournalState
  | acknowledged _ _ => .acknowledged
  | rejected _ => .rejected
  | unknownAfterDispatch _ => .unknownAfterDispatch

variable {epoch : ℕ}

/-- A prepared record is for its request and not dispatched. -/
lemma prepared_eq_ok {scope : RuntimeScope} {id : String} {kind : MutationKind}
    {evidence : MutationEvidence} {correlationId : String} {now : I64}
    {record : MutationRecord}
    (h : MutationRecord.prepared scope id kind evidence correlationId epoch now = .ok record) :
    record.logicalRequestId = id ∧ record.state = .notDispatched ∧ record.scopeKey = scope.key := by
  simp only [MutationRecord.prepared, Except.seq_eq_ok] at h
  obtain ⟨_, _, _, _, _, _, _, _, _, _, h⟩ := h
  cases h
  exact ⟨rfl, rfl, rfl⟩

variable {detail : String}

/-- A store call that failed stays failed, whether or not the runtime could be halted. -/
lemma requireStore_error {scope : RuntimeScope} {α : Type} {error : StoreError} :
    (requireStore (α := α) scope (.error error) detail).run.Returns fun r => ∃ e, r = .error e := by
  cases error with
  | duplicateMutation => exact ⟨_, rfl⟩
  | _ =>
    refine returns_bind.mpr (returns_of_forall fun r => ?_)
    cases r with
    | ok _ => exact ⟨_, rfl⟩
    | error e => exact ⟨e, rfl⟩

section Lifts

variable {R : Interface} {G ε α : Type} {D : Discipline (full R) G} {P : G → Prop} {g : G}

variable {Q : Except ε α → G → Prop} {x : ExceptT ε (Process base) α}

/-- A program of the risk port, as part of a dispatch. -/
lemma follows_risk {x : Process (withRisk R) α} :
    Follows D Q (liftM x : ExceptT ε (Process (full R)) α).run g ↔
      Follows D.left.left (fun a g' => Q (.ok a) g') x g :=
  follows_lift.trans (follows_lift.trans follows_liftExcept)

/-- A program of the operations every part performs, as part of a dispatch. -/
lemma follows_ofBase : Follows D Q (liftM x : ExceptT ε (Process (full R)) α).run g ↔
      Follows D.left.left.left Q x.run g :=
  follows_lift.trans (follows_lift.trans follows_lift)

/-- Such a program keeps what it keeps alone. -/
lemma follows_of_keeps (hx : Keeps D.left.left.left P x.run) (hg : P g)
    (hQ : ∀ r g', P g' → Q r g') :
    Follows D Q (liftM x : ExceptT ε (Process (full R)) α).run g :=
  follows_ofBase.mpr ((hx g hg).mono hQ)

/-- The same for a program that cannot fail. -/
lemma follows_of_keepsProcess {x : Process base α} (hx : Keeps D.left.left.left P x) (hg : P g)
    (hQ : ∀ a g', P g' → Q (.ok a) g') :
    Follows D Q (liftM x : ExceptT ε (Process (full R)) α).run g :=
  follows_ofBase.mpr (follows_liftExcept.mpr ((hx g hg).mono hQ))

end Lifts

/-! ## The rule -/

/-- The programs a dispatch is made of, as far as every part performs them, keep the property: it
moves the state away from `READY`, reads its epoch and the clock, and takes and gives back a
slot. -/
structure PartsKeep {G : Type} (D : Discipline base G) (scope : RuntimeScope) (P : G → Prop) :
    Prop where
  transition : ∀ target, target ≠ .ready → ∀ {reasonCode detail},
    Keeps D P (transition scope target reasonCode detail).run
  epoch : Keeps D P currentEpoch.run
  clock : Keeps D P nowUnixMsStore
  slot : Keeps D P (volatile .tryAcquireSlot)
  release : Keeps D P (volatile .releaseSlot)

namespace PartsKeep

variable {G α : Type} {D : Discipline base G} {scope : RuntimeScope} {P : G → Prop}

/-- What every operation keeps is kept. -/
lemma of_closed (h : D.Closed P) : PartsKeep D scope P :=
  ⟨fun _ _ => keeps_of_closed h, keeps_of_closed h, keeps_of_closed h, keeps_of_closed h,
    keeps_of_closed h⟩

variable (h : PartsKeep D scope P)

include h

lemma requireStore (result : Except StoreError α) :
    Keeps D P (requireStore scope result detail).run := by
  rcases result with e | a
  · cases e with
    | duplicateMutation => exact keeps_throw
    | _ => exact (h.transition .halted nofun).except.bindExcept fun _ => keeps_throw
  · exact keeps_pure

lemma persistLinks {links : BrokerIdentityLinks}
    (hstore : Keeps D P (storeCall (.upsertIdentityLinks links epoch))) :
    Keeps D P (persistLinks scope links epoch).run := by
  refine h.clock.except.bindExcept fun clock => ?_
  cases clock with
  | error e => exact h.requireStore (.error e)
  | ok => exact hstore.except.bindExcept fun linked => h.requireStore linked

variable (hask : ∀ question, question ≠ .nextSignal → Keeps D P (ask question))

include hask

lemma resolveCredentials (haudit : Keeps D P (storeCall (.appendAudit epoch))) :
    Keeps D P (resolveCredentials scope epoch).run := by
  refine (hask .resolveCredentials nofun).except.bindExcept fun resolution => ?_
  rcases resolution with e | authorized
  · exact (h.transition .halted nofun).bindExcept fun _ => keeps_throw
  cases authorized with
  | true => exact keeps_pure
  | false => exact h.clock.orFail.bindExcept fun _ => haudit.orFail

/-- **Shutting down.** -/
lemma shutdown (hcalm : ∀ op : Volatile, op.calm = true → Keeps D P (volatile op))
    (hflag : Keeps D P (volatile (.storeConnected false)))
    (hrelease : ∀ epoch, Keeps D P (storeCall (.releaseOwnership epoch))) :
    Keeps D P (shutdown scope).run := by
  have hclose : Keeps D P (closeDown scope).run := by
    refine (hask .disconnectStreams nofun).except.bindExcept fun _ => ?_
    refine (hcalm (.storeSender false) rfl).except.bindExcept fun _ => ?_
    refine (hcalm (.abort .streamWorker) rfl).except.bindExcept fun _ => ?_
    refine (hcalm (.abort .coalescedReconciliation) rfl).except.bindExcept fun _ => ?_
    refine hflag.except.bindExcept fun _ => (h.transition .stopped nofun).bindExcept fun _ => ?_
    exact h.epoch.bindExcept fun epoch => h.clock.orFail.bindExcept fun _ => (hrelease epoch).orFail
  refine (h.transition .stopping nofun).bindExcept fun _ => ?_
  refine (hcalm .drainSlots rfl).except.bindExcept fun drained => ?_
  refine keeps_holding keeps_pure hclose ?_
  cases drained with
  | true => exact hcalm .restoreSlots rfl
  | false => exact keeps_pure

end PartsKeep

/-- The fence of a command. -/
def claimOp (id : String) (epoch : ℕ) (now : I64) : DispatchOp :=
  .transitionMutation id [.notDispatched] .unknownAfterDispatch none epoch now

/-- The write of a broker's answer. -/
def finishOp (id : String) (result : ExecutionResult) (evidence : Option String) (epoch : ℕ)
    (now : I64) : DispatchOp :=
  .transitionMutation id [.unknownAfterDispatch] result.journalState evidence epoch now

/-- The command that is sent when a command was admitted. -/
structure Granted (command : RuntimeExecutionCommand) (admission : RiskAdmission)
    (approved : RuntimeExecutionCommand) : Prop where
  complete : incompleteApproval command admission = false
  applied : applyRiskApproval command admission.approvedDeltaLots = .ok approved

/-- The conditions under which a dispatch follows a discipline, by the stage it is in: `idle`,
`admitted`, `validated` by the last look, `fenced`, `answered` by the broker, `filed` when the
answer can be written to the journal, `settled` when it was, and `over` at any time. -/
structure DispatchCourse {R : Interface} {G : Type} (D : Discipline (full R) G) (port : RiskPort R)
    (scope : RuntimeScope) (purpose : RuntimeExecutionPurpose) (command : RuntimeExecutionCommand)
    (id : String) (idle : G → Prop) (admitted : RiskAdmission → G → Prop)
    (validated : RuntimeExecutionCommand → RiskAdmission → G → Prop)
    (fenced : RiskAdmission → MutationRecord → G → Prop)
    (answered : Except BrokerPortError ExecutionResult → G → Prop)
    (filed settled : ExecutionResult → G → Prop) (past : G → Prop) : Prop where
  admitted_base : ∀ admission, PartsKeep D.left.left.left scope (admitted admission)
  validated_base : ∀ approved admission, PartsKeep D.left.left.left scope
    (validated approved admission)
  lost_base : ∀ reply, replyOutcome reply = .unknownAfterDispatch →
    PartsKeep D.left.left.left scope (answered reply)
  filed_base : ∀ result, PartsKeep D.left.left.left scope (filed result)
  settled_base : ∀ result, PartsKeep D.left.left.left scope (settled result)
  over_base : PartsKeep D.left.left.left scope past
  idle_over : ∀ g, idle g → past g := by intros; trivial
  admitted_over : ∀ admission g, admitted admission g → past g := by intros; trivial
  validated_admitted : ∀ approved admission g, validated approved admission g → admitted admission g
  answered_over : ∀ reply g, answered reply g → past g := by intros; trivial
  filed_over : ∀ result g, filed result g → past g := by intros; trivial
  settled_over : ∀ result g, settled result g → past g := by intros; trivial
  admitCommand : ∀ g, idle g → Follows D.left.left (fun r g' =>
      match r with
      | .ok admission => admitted admission g'
      | .error _ => past g') (port.admitCommand purpose command id).run g
  validate : ∀ approved admission g, admitted admission g → Follows D.left.left (fun r g' =>
      match r with
      | .ok _ => validated approved admission g'
      | .error _ => admitted admission g')
    (port.validateBeforeDispatch purpose approved id admission).run g
  insert : ∀ approved admission record g, validated approved admission g →
    record.logicalRequestId = id → record.state = .notDispatched →
    D.pre (.inr (.insertMutation record)) g ∧
      ∀ r, validated approved admission (D.next (.inr (.insertMutation record)) r g)
  claim : ∀ approved admission epoch now g, validated approved admission g →
    Granted command admission approved → D.pre (.inr (claimOp id epoch now)) g ∧
    (∀ record, fenced admission record (D.next (.inr (claimOp id epoch now)) (.ok record) g)) ∧
    ∀ e, admitted admission (D.next (.inr (claimOp id epoch now)) (.error e) g)
  send : ∀ admission approved record g, fenced admission record g →
    Granted command admission approved → D.pre (.inr (.dispatchOnce purpose approved record)) g ∧
      ∀ r, answered r (D.next (.inr (.dispatchOnce purpose approved record)) r g)
  link : ∀ evidence links epoch g, answered (.ok (.acknowledged evidence links)) g →
    Follows D.left.left.left (fun r g' =>
      match r with
      | .ok _ => filed (.acknowledged evidence links) g'
      | .error _ => past g') (persistLinks scope links epoch).run g
  file : ∀ result g, answered (.ok result) g →
    (∀ evidence links, result ≠ .acknowledged evidence links) → filed result g
  finish : ∀ result evidence epoch now g, filed result g →
    D.pre (.inr (finishOp id result evidence epoch now)) g ∧
      ∀ r, settled result (D.next (.inr (finishOp id result evidence epoch now)) r g)
  refuse : ∀ admission g, admitted admission g → Follows D.left.left (fun _ g' => past g')
    (port.recordDispatchOutcome id .rejected).run g
  report : ∀ result g, settled result g → Follows D.left.left (fun _ g' => past g')
    (port.recordDispatchOutcome id (replyOutcome (.ok result))).run g
  lost : ∀ reply g, answered reply g → replyOutcome reply = .unknownAfterDispatch →
    Follows D.left.left (fun _ g' => past g')
      (port.recordDispatchOutcome id .unknownAfterDispatch).run g

namespace DispatchCourse

variable {R : Interface} {G α : Type} {D : Discipline (full R) G} {port : RiskPort R}
  {scope : RuntimeScope} {purpose : RuntimeExecutionPurpose} {command : RuntimeExecutionCommand}
  {id : String} {idle : G → Prop} {admitted : RiskAdmission → G → Prop}
  {validated : RuntimeExecutionCommand → RiskAdmission → G → Prop}
  {fenced : RiskAdmission → MutationRecord → G → Prop}
  {answered : Except BrokerPortError ExecutionResult → G → Prop}
  {filed settled : ExecutionResult → G → Prop} {past : G → Prop} {admission : RiskAdmission} {g : G}

/-- **A course with one stage**: a property holds all the time. -/
lemma constant {P : G → Prop} (hbase : PartsKeep D.left.left.left scope P)
    (hdispatch : ∀ op g, P g → D.pre (.inr op) g ∧ ∀ r, P (D.next (.inr op) r g))
    (hlinks : ∀ links epoch, Keeps D.left.left.left P (persistLinks scope links epoch).run)
    (hadmission : Keeps D.left.left P (port.admitCommand purpose command id).run)
    (hvalidate : ∀ approved admission, Keeps D.left.left P
      (port.validateBeforeDispatch purpose approved id admission).run)
    (hreport : ∀ outcome, Keeps D.left.left P (port.recordDispatchOutcome id outcome).run) :
    DispatchCourse D port scope purpose command id P (fun _ => P) (fun _ _ => P) (fun _ _ => P)
      (fun _ => P) (fun _ => P) (fun _ => P) P where
  admitted_base _ := hbase
  validated_base _ _ := hbase
  lost_base _ _ := hbase
  filed_base _ := hbase
  settled_base _ := hbase
  over_base := hbase
  validated_admitted _ _ _ hg := hg
  admitCommand g hg := (hadmission g hg).mono fun r _ hg' => by cases r <;> exact hg'
  validate approved admission g hg := (hvalidate approved admission g hg).mono fun r _ hg' => by
    cases r <;> exact hg'
  insert _ _ record g hg _ _ := hdispatch (.insertMutation record) g hg
  claim _ _ epoch now g hg _ :=
    have hclaim := hdispatch (claimOp id epoch now) g hg
    ⟨hclaim.1, fun record => hclaim.2 (.ok record), fun e => hclaim.2 (.error e)⟩
  send _ approved record g hg _ := hdispatch (.dispatchOnce purpose approved record) g hg
  link _ links epoch g hg := (hlinks links epoch g hg).mono fun r _ hg' => by cases r <;> exact hg'
  file _ _ hg _ := hg
  finish result evidence epoch now := hdispatch (finishOp id result evidence epoch now)
  refuse _ := hreport .rejected
  report result := hreport (replyOutcome (.ok result))
  lost _ g hg _ := hreport .unknownAfterDispatch g hg

/-- Halting over a command whose fate is not known. -/
lemma follows_haltUnknown {P : G → Prop} {error : RuntimeError}
    (hP : PartsKeep D.left.left.left scope P) (hover : ∀ g, P g → past g)
    (hreport : ∀ g, P g → Follows D.left.left (fun _ g' => past g')
      (port.recordDispatchOutcome id .unknownAfterDispatch).run g) (hg : P g) :
    Follows D (fun _ g' => past g') (haltUnknown (α := α) port scope id detail error).run g :=
  (follows_ofBase.mpr (hP.transition .halted nofun g hg)).bindExcept (fun _ => hover)
    fun _ g' hg' =>
    follows_bindExcept (follows_risk.mpr ((hreport g' hg').mono fun _ _ h => h))

section

variable (hD : DispatchCourse D port scope purpose command id idle admitted validated
  fenced answered filed settled past)

include hD

/-- Reporting an outcome comes last, so only the report itself matters. -/
lemma follows_report {outcome : RiskDispatchOutcome} (h : Follows D.left.left (fun _ g' => past g')
      (port.recordDispatchOutcome id outcome).run g) :
    Follows D (fun _ g' => past g') (recordRiskDispatchOutcome port scope id outcome).run g := by
  refine follows_bindExcept (follows_risk.mpr (h.mono fun recorded g' hg' => ?_))
  cases recorded with
  | ok => exact hg'
  | error =>
    exact (follows_ofBase.mpr (hD.over_base.transition .halted nofun g' hg')).bindExcept
      (fun _ _ h => h) fun _ _ h => h

/-- Giving an admitted command up ends the dispatch with an error. -/
lemma follows_refuse {error : RuntimeError} (hg : admitted admission g) :
    Follows D (fun r g' => (∃ e, r = .error e) ∧ past g')
      (Runtime.refuse (α := α) port scope id error).run g := by
  exact (hD.follows_report (hD.refuse admission g hg)).bindExcept (fun e _ hg' => ⟨⟨e, rfl⟩, hg'⟩)
    fun _ _ hg' => ⟨⟨error, rfl⟩, hg'⟩

variable {β : Type} {rest : α → ExceptT RuntimeError (Process (full R)) β}
  {approved : RuntimeExecutionCommand} {correlationId : String}

/-- A step that may give the command up. -/
lemma follows_orRefuse (admission : RiskAdmission)
    {step : ExceptT RuntimeError (Process (full R)) α}
    (h : Follows D (fun r g' =>
      match r with
      | .ok a => Follows D (fun _ g'' => past g'') (rest a).run g'
      | .error _ => admitted admission g') step.run g) :
    Follows D (fun _ g' => past g') (orRefuse port scope id step >>= rest).run g := by
  refine follows_bindExcept (follows_bindExcept (follows_liftExcept.mpr (h.mono fun r g' hr => ?_)))
  cases r with
  | ok => exact hr
  | error =>
    refine (hD.follows_refuse hr).mono fun r g'' hr' => ?_
    obtain ⟨⟨e', rfl⟩, hg''⟩ := hr'
    exact hg''

/-- A step of operations every part performs, which may give the command up. -/
lemma follows_orRefuseBase {step : ExceptT RuntimeError (Process Runtime.base) α}
    (hstep : Keeps D.left.left.left (validated approved admission) step.run)
    (hg : validated approved admission g)
    (h : ∀ a g', validated approved admission g' →
      Follows D (fun _ g'' => past g'') (rest a).run g') : Follows D (fun _ g' => past g')
      (orRefuse port scope id (liftM step) >>= rest).run g := by
  refine hD.follows_orRefuse admission (follows_of_keeps hstep hg fun r g' hg' => ?_)
  cases r with
  | ok a => exact h a g' hg'
  | error => exact hD.validated_admitted approved admission g' hg'

/-- A step that computes its result, and may give the command up. -/
lemma follows_orRefusePure {result : Except RuntimeError α} (hg : admitted admission g)
    (h : ∀ a, result = .ok a → Follows D (fun _ g' => past g') (rest a).run g) :
    Follows D (fun _ g' => past g')
      (orRefuse port scope id (ExceptT.mk (pure result)) >>= rest).run g := by
  refine hD.follows_orRefuse admission ?_
  cases result with
  | ok a => exact h a rfl
  | error => exact hg

/-- Writing the broker's answer settles the command, whether or not that goes well. -/
lemma follows_finish {result : ExecutionResult} {evidence : Option String} (hg : filed result g) :
    Follows D (fun r g' =>
      match r with
      | .ok _ => settled result g'
      | .error _ => past g')
      (finishMutation (R := R) scope id result.journalState evidence).run g := by
  refine (follows_ofBase.mpr ((hD.filed_base result).epoch g hg)).bindExcept
    (fun _ => hD.filed_over result) fun epoch g₁ hg₁ => ?_
  refine follows_bindExcept (follows_of_keepsProcess (hD.filed_base result).clock hg₁
    fun clock g₂ hg₂ => ?_)
  cases clock with
  | error e =>
    refine follows_bindExcept (follows_ofBase.mpr
      ((((hD.filed_base result).requireStore (.error e)) g₂ hg₂).and_returns requireStore_error
        |>.mono fun r g₃ h => ?_))
    obtain ⟨hg₃, e, rfl⟩ := h
    exact hD.filed_over result g₃ hg₃
  | ok now =>
    obtain ⟨hpre, hnext⟩ := hD.finish result evidence epoch now g₂ hg₂
    refine follows_bindExcept (follows_liftExcept.mpr ⟨hpre, fun r => ?_⟩)
    refine follows_of_keeps ((hD.settled_base result).requireStore r) (hnext r)
      fun r' g₃ hg₃ => ?_
    cases r' with
    | ok => exact hg₃
    | error => exact hD.settled_over result g₃ hg₃

/-- A filed answer is written first, and the outcome reported when that went well. -/
lemma follows_settled (result : ExecutionResult) (evidence : Option String)
    {rest : MutationRecord → ExceptT RuntimeError (Process (full R)) β} (hg : filed result g)
    (hrest : ∀ record g', settled result g' →
      Follows D (fun _ g'' => past g'') (rest record).run g') : Follows D (fun _ g' => past g')
      (finishMutation scope id result.journalState evidence >>= rest).run g :=
  (hD.follows_finish hg).bindExcept (fun _ _ h => h) hrest

/-- What follows from the broker's answer. -/
lemma follows_settle {reply : Except BrokerPortError ExecutionResult} (hg : answered reply g) :
    Follows D (fun _ g' => past g') (settleDispatch port scope id epoch reply).run g := by
  have hreported : ∀ (result : ExecutionResult) (record : MutationRecord) (g' : G),
      settled result g' → Follows D (fun _ g'' => past g'')
        (do recordRiskDispatchOutcome port scope id (replyOutcome (.ok result))
            return receipt record :
              ExceptT RuntimeError (Process (full R)) DispatchReceipt).run g' :=
    fun result record g' hg' => (hD.follows_report (hD.report result g' hg')).bindExcept
      (fun _ _ h => h) fun _ _ h => h
  rcases reply with e | (⟨evidence, links⟩ | evidence | evidence)
  · exact follows_haltUnknown (hD.lost_base _ rfl) (hD.answered_over _)
      (fun g hg => hD.lost _ g hg rfl) hg
  · exact (follows_ofBase.mpr (hD.link evidence links epoch g hg)).bindExcept (fun _ _ h => h)
      fun _ g₁ hg₁ => hD.follows_settled (.acknowledged evidence links) (some evidence) hg₁
        (hreported (.acknowledged evidence links))
  · have hfiled := hD.file (.rejected evidence) g hg nofun
    exact hD.follows_settled (.rejected evidence) (some evidence) hfiled
      (hreported (.rejected evidence))
  · cases evidence with
    | none =>
      exact follows_haltUnknown (hD.lost_base _ rfl) (hD.answered_over _)
        (fun g hg => hD.lost _ g hg rfl) hg
    | some evidence =>
      have hfiled := hD.file (.unknownAfterDispatch (some evidence)) g hg nofun
      exact hD.follows_settled (.unknownAfterDispatch (some evidence)) (some evidence) hfiled
        fun record g' hg' => follows_haltUnknown
          (hD.settled_base (.unknownAfterDispatch (some evidence))) (hD.settled_over _)
          (hD.report (.unknownAfterDispatch (some evidence))) hg'

/-- Journalling, fencing and sending. -/
lemma follows_withPermit (hg : validated approved admission g)
    (hgranted : Granted command admission approved) : Follows D (fun _ g' => past g')
      (dispatchWithPermit port scope purpose approved id correlationId).run g := by
  have hbase := hD.validated_base approved admission
  refine hD.follows_orRefuseBase hbase.epoch hg fun epoch g₁ hg₁ => hD.follows_orRefuseBase
    hbase.clock.orFail hg₁ fun now g₂ hg₂ =>
      hD.follows_orRefusePure (hD.validated_admitted approved admission g₂ hg₂)
        fun record hprepared => hD.follows_orRefuse admission ?_
  obtain ⟨hid, hstate, -⟩ := prepared_eq_ok (Except.mapError_eq_ok.mp hprepared)
  obtain ⟨hpre, hinserted⟩ := hD.insert approved admission record g₂ hg₂ hid hstate
  refine follows_bindExcept (follows_liftExcept.mpr ⟨hpre, fun inserted => ?_⟩)
  refine follows_of_keeps (hbase.requireStore inserted) (hinserted inserted) fun r g₃ hg₃ => ?_
  cases r with
  | error => exact hD.validated_admitted approved admission g₃ hg₃
  | ok =>
    refine hD.follows_orRefuse admission ?_
    obtain ⟨hpre, hok, herror⟩ := hD.claim approved admission epoch now g₃ hg₃ hgranted
    refine follows_bindExcept (follows_liftExcept.mpr ⟨hpre, fun claimed => ?_⟩)
    cases claimed with
    | error e =>
      refine follows_ofBase.mpr ((((hD.admitted_base admission).requireStore (.error e)) _
        (herror e)).and_returns requireStore_error |>.mono fun r g₄ h => ?_)
      obtain ⟨hg₄, e', rfl⟩ := h
      exact hg₄
    | ok record =>
      obtain ⟨hpre, hsent⟩ := hD.send admission approved record _ (hok record) hgranted
      exact follows_bindExcept (follows_liftExcept.mpr ⟨hpre, fun reply =>
        hD.follows_settle (hsent reply)⟩)

/-- The same after the risk port had a last look. -/
lemma follows_validate (hg : admitted admission g) (hgranted : Granted command admission approved) :
    Follows D (fun _ g' => past g')
      (validateAndDispatch port scope purpose approved id correlationId admission).run g := by
  refine hD.follows_orRefuse admission (follows_orFail.mpr (follows_lift.mpr
    (follows_lift.mpr ((hD.validate approved admission g hg).mono fun r g' hg' => ?_))))
  cases r with
  | ok => exact hD.follows_withPermit hg' hgranted
  | error => exact hg'

/-- An admitted command. -/
lemma follows_admitted (hg : admitted admission g)
    (hcomplete : incompleteApproval command admission = false) : Follows D (fun _ g' => past g')
      (dispatchAdmitted port scope purpose command id correlationId admission).run g := by
  refine hD.follows_orRefusePure hg fun approved happroved => ?_
  refine follows_bindExcept (follows_of_keepsProcess (hD.admitted_base admission).slot hg
    fun (slot : Bool) g₁ hg₁ => ?_)
  cases slot with
  | false => exact (hD.follows_refuse hg₁).mono fun _ _ h => h.2
  | true =>
    refine follows_bind.mpr (follows_bind.mpr
      ((hD.follows_validate hg₁ ⟨hcomplete, happroved⟩).mono fun r g₂ hg₂ =>
        follows_bind.mpr ?_))
    exact follows_lift.mpr (follows_lift.mpr (follows_lift.mpr
      ((hD.over_base.release.bind fun _ => keeps_pure) g₂ hg₂)))

/-- **A dispatch follows every discipline that meets the rule**, from the gate on. -/
theorem follows_gate (hgate : Follows D.left.left.left (fun r g' =>
      match r with
      | .ok _ => idle g'
      | .error _ => past g') (ensureExecutionAllowed scope purpose command).run g) :
    Follows D (fun _ g' => past g')
      (dispatchForPurpose port scope purpose command id correlationId).run g := by
  refine (follows_ofBase.mpr hgate).bindExcept (fun _ _ h => h) fun _ g₁ hg₁ => ?_
  split_ifs
  · exact hD.idle_over g₁ hg₁
  · exact hD.idle_over g₁ hg₁
  refine follows_bindExcept (follows_orFail.mpr (follows_lift.mpr
    (follows_lift.mpr ((hD.admitCommand g₁ hg₁).mono fun r g₂ hg₂ => ?_))))
  cases r with
  | error => exact hg₂
  | ok admission =>
    dsimp only [Except.mapError]
    split_ifs with hincomplete
    · unfold dispatchIncomplete
      split_ifs
      · exact (hD.follows_refuse hg₂).mono fun _ _ h => h.2
      · exact hD.admitted_over admission g₂ hg₂
    · exact hD.follows_admitted hg₂ (Bool.eq_false_iff.mpr hincomplete)

/-- The same when the gate does not matter. -/
theorem follows (hidle : D.left.left.left.Closed idle) (hg : idle g) :
    Follows D (fun _ g' => past g')
      (dispatchForPurpose port scope purpose command id correlationId).run g :=
  hD.follows_gate ((keeps_of_closed hidle g hg).mono fun r g' hg' => by
    cases r with
    | ok => exact hg'
    | error => exact hD.idle_over g' hg')

end

end DispatchCourse

end VoxTrader.Runtime
