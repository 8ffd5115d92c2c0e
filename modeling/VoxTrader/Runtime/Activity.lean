import VoxTrader.Runtime.DispatchRule
import VoxTrader.Runtime.System

/-!
# What a process does with the memory of its coordinator

The gate of a coordinator is made of a state machine behind a lock, three flags and an epoch, and
every job of the coordinator works on these. This module says once what a process has done so far
with them, its *activity*, and what it may do next; the invariants about the gate are all derived
from this.

## Main definitions

* `LockStage` — how far a process has come in a transition of the state machine.
* `Role` — what a process may do because of the job it has.
* `Activity` — both, with the last epoch it read, whether it has begun a reconciliation whose
  report it has not applied yet, and how much of the gate it has seen open.
* `activityDiscipline` — what the operations require of the activity, and do to it.

## Main results

* `follows_transition` — a transition leads to `READY` only with a report that was not applied.
* `follows_gateOpen` — a command that is let through has seen the gate open.
* `follows_requestCoalescedReconciliation` — a refresh is claimed before its loop is spawned.
-/

namespace VoxTrader.Runtime

open Process

/-! ## Activities -/

/-- How far a process has come in a transition of the state machine. -/
inductive LockStage
  | away
  | held
  /-- It has moved the state to the target and has not recorded that. -/
  | moved (target : RuntimeState)
  /-- It has recorded the state, given up recording it, or was refused. -/
  | settled
deriving DecidableEq

/-- What a process may do because of its job. -/
inductive Role
  /-- A start that has done nothing yet. -/
  | fresh
  /-- The start that has begun. -/
  | starter
  /-- It has acquired the scope with an epoch. -/
  | acquired (epoch : ℕ)
  /-- It has published that epoch and has not handed the streams to a worker. -/
  | owner
  | worker
  /-- A call that asks for a refresh and does nothing else. -/
  | caller
  /-- It has claimed the refresh, and goes back to what it was when it has spawned the loop. It may
  have moved the state away from `READY` for that. -/
  | refreshing (back : Role) (moved : Bool)
  /-- A refresh loop with the claim. The state may be moved away from `READY` for it. -/
  | loop (moved : Bool)
  /-- A refresh loop that has let go of the claim. -/
  | released
  | plain
deriving DecidableEq

namespace Role

/-- Those who leave the state alone, because they have no claim on the refresh. -/
def unclaimed : Role → Bool
  | caller | released => true
  | _ => false

/-- A start that has not published its epoch. -/
def early : Role → Bool
  | fresh | starter | acquired _ => true
  | _ => false

/-- What a process is after it has moved the state. -/
def settle : Role → RuntimeState → Role
  | refreshing role _, target => refreshing role (target ≠ .ready)
  | loop _, target => loop (target ≠ .ready)
  | role, _ => role

/-- Those who may run transitions to anything but `READY`, and stay what they are. -/
def acts : Role → Bool
  | fresh | starter | acquired _ | caller | released => false
  | refreshing _ moved | loop moved => moved
  | owner | worker | plain => true

/-- Those who may ask for a refresh. -/
def asks : Role → Bool
  | worker | caller | released => true
  | _ => false

/-- Those who have a claim on the refresh. -/
def claims : Role → Bool
  | refreshing _ _ | loop _ => true
  | _ => false

/-- What a process is after it has claimed the refresh. -/
def claim : Role → Role
  | released => loop false
  | role => refreshing role false

/-- What it is after it has spawned the loop. -/
def back : Role → Role
  | refreshing role _ => role
  | role => role

lemma claims_settle {role : Role} {target : RuntimeState} :
    (role.settle target).claims = role.claims := by cases role <;> rfl

section

variable {role : Role} (h : role.acts = true)

include h

lemma unclaimed_of_acts : role.unclaimed = false := by
  cases role with
  | caller | released => cases h
  | _ => rfl

lemma early_of_acts : role.early = false := by
  cases role with
  | fresh | starter | acquired _ => cases h
  | _ => rfl

lemma settle_of_acts {target : RuntimeState} (htarget : target ≠ .ready) :
    role.settle target = role := by
  cases role with
  | refreshing role moved | loop moved =>
    obtain rfl : moved = true := h
    simp only [settle, decide_eq_true htarget]
  | _ => rfl

end

end Role

/-- What a process has done so far. -/
structure Activity where
  role : Role
  /-- It dispatches a command that can add exposure. -/
  exposing : Bool
  /-- The epoch it read last. -/
  epoch : Option ℕ
  lock : LockStage
  /-- It has begun a reconciliation whose report it has not applied. -/
  inside : Bool
  /-- How many of the gate's four conditions it has seen hold, in their order. -/
  gate : ℕ
deriving DecidableEq

/-- What a process has done that has done nothing. -/
def Activity.none : Activity := ⟨.plain, false, Option.none, .away, false, 0⟩

/-- What a process has done when its job begins. -/
def firstActivity : Job → Activity
  | .start => { Activity.none with role := .fresh }
  | .task .streamWorker _ => { Activity.none with role := .worker }
  | .task .coalescedReconciliation _ => { Activity.none with role := .loop true }
  | .requestCoalescedReconciliation _ _ => { Activity.none with role := .caller }
  | .dispatch _ command _ _ => { Activity.none with exposing := command.exposureBearing }
  | _ => Activity.none

/-! ## What operations require and do -/

/-- What an operation on the memory requires. -/
def Volatile.before : Volatile → Activity → Prop
  | casStarted, a => a.role = .fresh
  | loadEpoch, a => a.role.early = false
  | storeEpoch epoch, a => a.role = .acquired epoch
  | storeConnected value, a => value = true → a.role = .owner ∨ a.role = .worker
  | storeDirty value, a => value = false → a.role = .loop true
  | storeRunning value, a => value = false ∧ ∃ moved, a.role = .loop moved
  | casRunning, a => a.role.asks = true
  | spawn .streamWorker, a => a.role = .owner
  | spawn .coalescedReconciliation, a => ∃ role, a.role = .refreshing role true
  | lockReconciliation, a => a.role.unclaimed = false
  | lockState, a => a.lock = .away
  -- only a report that was not applied yet makes the runtime ready
  | moveState target, a => a.lock = .held ∧ (target = .ready → a.inside = true) ∧
    (a.epoch = Option.none → target = .halted) ∧ a.role.unclaimed = false
  | unlockState, a => a.lock = .held ∨ a.lock = .settled
  | _, _ => True

/-- What it does to the activity. -/
def Volatile.after : (op : Volatile) → op.Res → Activity → Activity
  | casStarted, (claimed : Bool), a => { a with role := if claimed then .starter else .plain }
  | loadEpoch, (epoch : ℕ), a => { a with epoch := some epoch }
  | storeEpoch _, _, a => { a with role := .owner }
  | readState, (state : RuntimeState), a => { a with gate := if state = .ready then 1 else 0 }
  | loadConnected, (value : Bool), a => { a with gate := if value ∧ a.gate = 1 then 2 else 0 }
  | loadDirty, (value : Bool), a => { a with gate := if ¬ value ∧ a.gate = 2 then 3 else 0 }
  | loadRunning, (value : Bool), a => { a with gate := if ¬ value ∧ a.gate = 3 then 4 else 0 }
  | storeConnected _, _, a => { a with inside := false }
  -- a refresh that begins again drops the report it has
  | storeDirty value, _, a => { a with inside := a.inside && value }
  | storeRunning _, _, a => { a with role := .released, inside := false }
  | casRunning, (claimed : Bool), a =>
    { a with role := if claimed then a.role.claim else a.role }
  | spawn .streamWorker, _, a => { a with role := .plain }
  | spawn .coalescedReconciliation, _, a => { a with role := a.role.back, inside := false }
  | lockReconciliation, _, a => { a with inside := true }
  | lockState, _, a => { a with lock := .held }
  | moveState target, (result : Except TransitionError RuntimeState), a =>
    { a with
      role := if result.toBool then a.role.settle target else a.role
      inside := false
      -- without an epoch nothing is recorded
      lock := if result.toBool ∧ a.epoch.any (0 < ·) then .moved target else .settled }
  | unlockState, _, a => { a with lock := .away }
  | _, _, a => a

/-- What a store operation requires. -/
def StoreOp.before : StoreOp → Activity → Prop
  | recordTransition transition, a => a.lock = .moved transition.target
  | _, _ => True

/-- What it does to the activity. -/
def StoreOp.after : (op : StoreOp) → Except StoreError op.Value → Activity → Activity
  | recordTransition _, _, a => { a with lock := .settled }
  | acquireOwnership _, (.ok (epoch : ℕ)), a =>
    if a.role = .starter then { a with role := .acquired epoch } else a
  | _, _, a => a

/-- What an answer from outside does to the activity: without a clock nothing is recorded. -/
def External.after : (question : External) → question.Res → Activity → Activity
  | now, (answer : Option I64), a =>
    if answer = Option.none ∧ a.lock ≠ .away then { a with lock := .settled } else a
  | _, _, a => a

/-- What the operations every part performs require and do. -/
def activityBase : Discipline base Activity where
  pre
    | .external _, _ => True
    | .volatile op, a => op.before a
    | .store op, a => op.before a
  next
    | .external question, r, a => question.after r a
    | .volatile op, r, a => op.after r a
    | .store op, r, a => op.after r a

/-- What the operations of a dispatch require: new exposure is fenced after the gate was seen
open. -/
def DispatchOp.before : DispatchOp → Activity → Prop
  | transitionMutation _ expected _ _ _ _, a =>
    expected = [.notDispatched] → a.exposing = true → a.gate = 4
  | _, _ => True

/-- What they do: behind the fence the gate does not matter any more. -/
def DispatchOp.after : (op : DispatchOp) → op.Res → Activity → Activity
  | transitionMutation _ expected _ _ _ _, (result : Except StoreError MutationRecord), a =>
    if expected = [.notDispatched] ∧ result.toBool then { a with gate := 0 } else a
  | _, _, a => a

lemma DispatchOp.after_transitionMutation (id : String) (expected : List JournalState)
    (target : JournalState) (evidence : Option String) (epoch : ℕ) (now : I64)
    (result : Except StoreError MutationRecord) (a : Activity) :
    (transitionMutation id expected target evidence epoch now).after result a =
      if expected = [.notDispatched] ∧ result.toBool then { a with gate := 0 } else a := rfl

/-- **The discipline of activities.** -/
def activityDiscipline (R : Interface) : Discipline (full R) Activity where
  pre
    | .inl (.inl (.inl op)), a => activityBase.pre op a
    | .inr op, a => op.before a
    | _, _ => True
  next
    | .inl (.inl (.inl op)), r, a => activityBase.next op r a
    | .inr op, r, a => op.after r a
    | .inl (.inl (.inr _)), _, a => a
    | .inl (.inr _), _, a => a

/-- What operations outside of the memory leave of an activity. -/
structure Activity.Beside (a a' : Activity) : Prop where
  exposing : a'.exposing = a.exposing
  epoch : a'.epoch = a.epoch
  inside : a'.inside = a.inside
  gate : a'.gate ≤ a.gate
  lock : a'.lock = a.lock ∨ a'.lock = .settled
  role : a'.role = a.role ∨ a.role = .starter ∧ ∃ epoch, a'.role = .acquired epoch

variable {a : Activity} {R : Interface} {op : (full R).Op} {r : (full R).Res op}

/-- **An operation outside of the memory** ends a transition or acquires the scope at most, or is a
fence. -/
lemma activity_beside (hop : ∀ op', op ≠ .inl (.inl (.inl (.volatile op')))) :
    a.Beside ((activityDiscipline R).next op r a) := by
  have hsame : a.Beside a := ⟨rfl, rfl, rfl, le_rfl, .inl rfl, .inl rfl⟩
  have hsettled : a.Beside { a with lock := .settled } :=
    ⟨rfl, rfl, rfl, le_rfl, .inr rfl, .inl rfl⟩
  rcases op with ((op | op) | op) | op
  · cases op with
    | external question =>
      cases question with
      | now =>
        change Option I64 at r
        change a.Beside (if r = none ∧ a.lock ≠ .away then { a with lock := .settled } else a)
        split_ifs
        · exact hsettled
        · exact hsame
      | _ => exact hsame
    | volatile op => exact absurd rfl (hop op)
    | store op =>
      cases op with
      | recordTransition => exact hsettled
      | acquireOwnership =>
        cases r with
        | error => exact hsame
        | ok epoch =>
          change a.Beside (if a.role = .starter then { a with role := .acquired epoch } else a)
          split_ifs with h
          · exact ⟨rfl, rfl, rfl, le_rfl, .inl rfl, .inr ⟨h, epoch, rfl⟩⟩
          · exact hsame
      | _ => exact hsame
  · exact hsame
  · exact hsame
  · cases op with
    | transitionMutation id expected target evidence epoch now =>
      have hafter := DispatchOp.after_transitionMutation id expected target evidence epoch now r a
      change a.Beside (DispatchOp.after (.transitionMutation id expected target evidence epoch now)
        r a)
      rw [hafter]
      split_ifs
      · exact ⟨rfl, rfl, rfl, Nat.zero_le _, .inl rfl, .inl rfl⟩
      · exact hsame
    | _ => exact hsame

/-- No operation changes whether the command can add exposure. -/
lemma activity_exposing : ((activityDiscipline R).next op r a).exposing = a.exposing := by
  rcases volatile_or_beside op with ⟨op, rfl⟩ | hother
  · cases op with
    | spawn task => cases task <;> rfl
    | _ => rfl
  · exact (activity_beside hother).exposing

/-! ## Single operations -/

/-- The process is outside of any transition. It may have begun a reconciliation, and it may have
seen the gate open, if that matters to its command. -/
structure Resting (role : Role) (inside passed : Bool) (a : Activity) : Prop where
  role : a.role = role
  lock : a.lock = .away
  inside : inside = true → a.inside = true
  passed : passed = true → a.exposing = true → a.gate = 4

section Base

variable {role : Role} {inside passed : Bool} {a : Activity}

/-- Nothing has to be remembered. -/
lemma Resting.forget (h : Resting role inside passed a) : Resting role false passed a :=
  ⟨h.role, h.lock, nofun, h.passed⟩

lemma keeps_ask (question : External) :
    Keeps activityBase (Resting role inside passed) (ask question) := by
  refine fun a ha => ⟨trivial, fun r => ?_⟩
  cases question with
  | now =>
    have hsame : External.now.after r a = a := if_neg fun h => h.2 ha.lock
    exact (congrArg (Resting role inside passed) hsame).mpr ha
  | _ => exact ha

/-- The form in which the parts of a coordinator ask for it. -/
lemma keeps_askOther (question : External) (_ : question ≠ .nextSignal) :
    Keeps activityBase (Resting role inside passed) (ask question) :=
  keeps_ask question

lemma keeps_storeAside (op : StoreOp) (h : op.aside = true) :
    Keeps activityBase (Resting role inside passed) (storeCall op) := by
  refine fun a ha => ?_
  cases op with
  | acquireOwnership _ | releaseOwnership _ | recordTransition _ => cases h
  | _ => exact ⟨trivial, fun _ => ha⟩

lemma keeps_calm (op : Volatile) (h : op.calm = true) :
    Keeps activityBase (Resting role inside passed) (volatile op) := by
  refine fun a ha => ?_
  cases op with
  | unlockReconciliation | tryAcquireSlot | releaseSlot | drainSlots | restoreSlots | loadSender
  | storeSender _ | abort _ => exact ⟨trivial, fun _ => ha⟩
  | _ => cases h

lemma keeps_loadEpoch (hrole : role.early = false) :
    Keeps activityBase (Resting role inside passed) (volatile .loadEpoch) :=
  fun _ ha => ⟨(congrArg Role.early ha.role).trans hrole,
    fun _ => ⟨ha.role, ha.lock, ha.inside, ha.passed⟩⟩

lemma keeps_epoch (hrole : role.early = false) :
    Keeps activityBase (Resting role inside passed) currentEpoch.run :=
  keeps_currentEpoch (keeps_loadEpoch hrole)

/-- The flag of the connection is raised by those who connect. -/
lemma keeps_storeConnected {value : Bool} (hrole : value = true → role = .owner ∨ role = .worker) :
    Keeps activityBase (Resting role false passed) (volatile (.storeConnected value)) :=
  fun _ ha => ⟨fun h => by rw [ha.role]; exact hrole h,
    fun _ => ⟨ha.role, ha.lock, nofun, ha.passed⟩⟩

/-! ## Transitions -/

/-- In a transition after the state was moved, until it is settled. -/
structure Moving (role : Role) (passed : Bool) (target : RuntimeState) (a : Activity) :
    Prop where
  role : a.role = role
  lock : a.lock = .moved target
  passed : passed = true → a.exposing = true → a.gate = 4

/-- The end of a transition. -/
structure Settled (role : Role) (passed : Bool) (a : Activity) : Prop where
  role : a.role = role
  lock : a.lock = .settled
  passed : passed = true → a.exposing = true → a.gate = 4

/-- What is recorded is the state that was moved to. -/
lemma follows_record {transition : StateTransition} (h : Moving role passed transition.target a) :
    Follows activityBase (fun _ a' => Settled role passed a') (do
        let _ ← nowUnixMs
        coordinatorStore (.recordTransition transition) :
          ExceptT RuntimeError (Process base) Unit).run a := by
  have hclock : Follows activityBase (fun now a' => match now with
      | .ok _ => Moving role passed transition.target a'
      | .error _ => Settled role passed a') nowUnixMs.run a := by
    refine follows_orFail.mpr (follows_bind.mpr ⟨trivial, fun now => ?_⟩)
    change Option I64 at now
    change Follows _ _ _ (if now = Option.none ∧ a.lock ≠ .away then _ else a)
    cases now with
    | none =>
      rw [if_pos ⟨rfl, by rw [h.lock]; exact nofun⟩]
      exact ⟨h.role, rfl, h.passed⟩
    | some =>
      rw [if_neg fun h => by cases h.1]
      exact h
  exact hclock.bindExcept (fun _ _ h => h) fun _ _ ha' =>
    follows_orFail.mpr ⟨ha'.lock, fun _ => ⟨ha'.role, rfl, ha'.passed⟩⟩

variable {scope : RuntimeScope} {target : RuntimeState} {reasonCode : ReasonCode} {detail : String}
  {command : RuntimeExecutionCommand}

/-- A transition leaves the lock again, after the state was moved, or refused to. Only a report that
is not applied yet leads to `READY`. -/
lemma follows_transition_any (hearly : role.early = false) (hclaim : role.unclaimed = false)
    (ha : Resting role inside passed a) (hready : target = .ready → inside = true) :
    Follows activityBase (fun r a' => Resting (role.settle target) false passed a' ∨
        r.toBool = false ∧ Resting role false passed a')
      (transition scope target reasonCode detail).run a := by
  refine follows_bindExcept (follows_liftExcept.mpr
    ⟨(congrArg Role.early ha.role).trans hearly, fun epoch => ?_⟩)
  change ℕ at epoch
  refine follows_bind.mpr ⟨ha.lock, fun _ => follows_bind.mpr ?_⟩
  -- the end: the lock is given back
  have hunlock : ∀ (r : Except RuntimeError Unit) a',
      (Settled (role.settle target) passed a' ∨ r.toBool = false ∧ Settled role passed a') →
      Follows activityBase (fun r a'' => Resting (role.settle target) false passed a'' ∨
          r.toBool = false ∧ Resting role false passed a'')
        (do volatile .unlockState; return r) a' := by
    rintro r a' (h | ⟨hr, h⟩)
    · exact ⟨.inr h.lock, fun _ => .inl ⟨h.role, rfl, nofun, h.passed⟩⟩
    · exact ⟨.inr h.lock, fun _ => .inr ⟨hr, h.role, rfl, nofun, h.passed⟩⟩
  refine Follows.mono hunlock (follows_bindExcept (follows_orFail.mpr
    ⟨⟨rfl, fun h => ha.inside (hready h), nofun,
      (congrArg Role.unclaimed ha.role).trans hclaim⟩, fun moved => ?_⟩))
  cases moved with
  | error => exact .inr ⟨rfl, ha.role, rfl, ha.passed⟩
  | ok =>
    have hrole : a.role.settle target = role.settle target := by rw [ha.role]
    by_cases hepoch : 0 < epoch
    · refine (congrArg (fun x => Follows activityBase _ (ExceptT.run x) _)
        (if_pos hepoch)).mpr (Follows.mono (fun _ _ h => .inl h) ?_)
      refine follows_record ⟨hrole, ?_, ha.passed⟩
      exact if_pos ⟨rfl, decide_eq_true hepoch⟩
    · refine (congrArg (fun x => Follows activityBase _ (ExceptT.run x) _)
        (if_neg hepoch)).mpr (.inl ⟨hrole, ?_, ha.passed⟩)
      exact if_neg fun h => hepoch (of_decide_eq_true h.2)

/-- **A transition** of a process that stays what it is. -/
lemma follows_transition (hrole : role.acts = true) (hsettle : role.settle target = role)
    (ha : Resting role inside passed a) (hready : target = .ready → inside = true) :
    Follows activityBase (fun _ a' => Resting role false passed a')
      (transition scope target reasonCode detail).run a := by
  refine (follows_transition_any (Role.early_of_acts hrole) (Role.unclaimed_of_acts hrole) ha
    hready).mono fun r a' h => ?_
  rw [hsettle] at h
  exact h.elim id fun h => h.2

/-- A transition to anything but `READY`. -/
lemma keeps_transition (hrole : role.acts = true) (htarget : target ≠ .ready) :
    Keeps activityBase (Resting role false passed)
      (transition scope target reasonCode detail).run :=
  fun _ ha => follows_transition hrole (Role.settle_of_acts hrole htarget) ha
    fun h => absurd h htarget

/-- What a dispatch is made of, for a process at rest. -/
lemma resting_handy (hrole : role.acts = true) :
    PartsKeep activityBase scope (Resting role false passed) where
  transition _ htarget := keeps_transition hrole htarget
  epoch := keeps_epoch (Role.early_of_acts hrole)
  clock := keeps_nowUnixMsStore keeps_askOther
  slot := keeps_calm .tryAcquireSlot rfl
  release := keeps_calm .releaseSlot rfl

/-! ## The gate -/

/-- **The gate**: when it is open for a command that is not a clean-up, its four conditions were
seen to hold, one after the other. -/
lemma follows_gateOpen (hcommand : a.exposing = true → command.cleanup = false)
    (ha : Resting role false false a) :
    Follows activityBase (fun opened a' => Resting role false opened a') (gateOpen command) a := by
  have hrest : ∀ gate, Resting role false false { a with gate := gate } := fun _ =>
    ⟨ha.role, ha.lock, nofun, nofun⟩
  refine follows_bind.mpr ⟨trivial, fun state => follows_bind.mpr ⟨trivial, fun connected => ?_⟩⟩
  cases connected with
  | false => exact hrest _
  | true =>
    by_cases hcleanup : command.cleanup = true
    · refine (congrArg (fun x => Follows activityBase _ x _) (if_pos hcleanup)).mpr
        ⟨ha.role, ha.lock, nofun, fun _ hexposing => ?_⟩
      exact absurd ((hcommand hexposing).symm.trans hcleanup) (by decide)
    refine (congrArg (fun x => Follows activityBase _ x _) (if_neg hcleanup)).mpr ?_
    by_cases hstate : state = .ready
    · subst hstate
      refine follows_bind.mpr ⟨trivial, fun dirty => ?_⟩
      cases dirty with
      | true => exact hrest _
      | false =>
        refine follows_bind.mpr ⟨trivial, fun running => ?_⟩
        cases running with
        | true => exact hrest _
        | false => exact ⟨ha.role, ha.lock, nofun, fun _ _ => rfl⟩
    · exact (congrArg (fun x => Follows activityBase _ x _) (if_pos hstate)).mpr (hrest _)

/-- A command that is let through has seen the gate open. -/
lemma follows_ensureExecutionAllowed {purpose : RuntimeExecutionPurpose} (hrole : role.acts = true)
    (hcommand : a.exposing = true → command.cleanup = false) (ha : Resting role false false a) :
    Follows activityBase (fun r a' => Resting role false r.toBool a')
      (ensureExecutionAllowed scope purpose command).run a := by
  refine follows_bindExcept (follows_liftExcept.mpr
    ((follows_gateOpen hcommand ha).mono fun opened a₁ ha₁ => ?_))
  cases opened with
  | false => exact ha₁
  | true =>
    have hkeeps : Keeps activityBase (Resting role false true) (do
        let _ : Unit ← orFail (fun _ => RuntimeError.executionGateClosed)
          (ask (.authorizeExecution purpose))
        let epoch ← currentEpoch
        let verified : Except StoreError Unit ← liftM (storeCall (.verifyEpoch epoch))
        requireStore scope verified "runtime ownership/epoch verification failed" :
          ExceptT RuntimeError (Process base) Unit).run := by
      refine (keeps_ask _).orFail.bindExcept fun _ =>
        (keeps_epoch (Role.early_of_acts hrole)).bindExcept fun epoch => ?_
      exact (keeps_storeAside (.verifyEpoch epoch) rfl).except.bindExcept fun verified =>
        (resting_handy hrole).requireStore verified
    refine (hkeeps a₁ ha₁).mono fun r a₂ ha₂ => ?_
    exact ⟨ha₂.role, ha₂.lock, ha₂.inside, fun _ => ha₂.passed rfl⟩

/-! ## Following the streams -/

/-- **Asking for a refresh**: a call that has claimed it moves the state and spawns the loop; when
that fails, nobody else gets the claim. -/
lemma follows_requestCoalescedReconciliation (hrole : role = .worker ∨ role = .caller)
    (ha : Resting role false passed a) :
    Follows activityBase (fun r a' => r.toBool = true → Resting role false passed a')
      (requestCoalescedReconciliation scope reasonCode detail).run a := by
  refine follows_bindExcept (follows_liftExcept.mpr ⟨nofun, fun _ => ?_⟩)
  refine follows_bindExcept (follows_liftExcept.mpr ⟨?_, fun claimed => ?_⟩)
  · change a.role.asks = true
    rw [ha.role]
    rcases hrole with rfl | rfl <;> rfl
  cases claimed with
  | false => exact fun _ => ⟨ha.role, ha.lock, nofun, ha.passed⟩
  | true =>
    have hclaim : role.claim = .refreshing role false := by rcases hrole with rfl | rfl <;> rfl
    have hclaimed : Resting (.refreshing role false) false passed
        { a with inside := a.inside && true, role := a.role.claim } :=
      ⟨by rw [ha.role, hclaim], ha.lock, fun h => (by cases h), ha.passed⟩
    refine (follows_transition_any rfl rfl hclaimed fun h => by cases h).bindExcept
      (fun _ _ _ => nofun) fun _ a' ha' => ?_
    have hmoved := ha'.resolve_right fun h => by cases h.1
    refine follows_liftExcept.mpr ⟨⟨role, hmoved.role⟩, fun _ _ => ?_⟩
    refine ⟨?_, hmoved.lock, nofun, hmoved.passed⟩
    change a'.role.back = role
    rw [hmoved.role]
    rfl

lemma Role.acts_of_connects (hrole : role = .owner ∨ role = .worker) : role.acts = true := by
  rcases hrole with rfl | rfl <;> rfl

lemma keeps_connectStreams (hrole : role = .owner ∨ role = .worker) :
    Keeps activityBase (Resting role false passed) connectStreams.run :=
  (keeps_epoch (Role.early_of_acts (Role.acts_of_connects hrole))).bindExcept fun epoch =>
    keeps_connectAttempts keeps_askOther (keeps_storeConnected fun _ => hrole) epoch 3

end Base

end VoxTrader.Runtime
