import VoxTrader.Runtime.OneCoordinator

/-!
# The state in memory and the state on record

A transition moves the state in memory first and writes its record afterwards, under one lock. The
gate reads the state in memory. So when a transition is broken off between the two, because the
clock cannot be read, the record is refused or the call is dropped, the gate sees a state nobody has
recorded, `READY` included.

## Main definitions

* `recordedState` — the target of the last transition a coordinator has recorded.
* `transitionsKept` — no transition is broken off after its move, except one to `HALTED` or to the
  state on record.

## Main results

* `state_follows_record` — then the state in memory is the one on record, or `HALTED`, or a
  transition to it is still on its way under the lock.
* `ready_without_record` — otherwise a failed transition may leave the gate open.
-/

namespace VoxTrader.Runtime

open Option (pair_inj)

section

variable {R : Interface} {side : RiskSide R} {scope : RuntimeScope} {port : RiskPort R}

/-! ## The record -/

/-- The state a coordinator has recorded with an operation. -/
def recordOf (k : ℕ) : (runtimeSystem side scope port).Performed → Option RuntimeState
  | ⟨_, site, .inl (.inl (.inl (.store (.recordTransition transition)))),
      (result : Except StoreError Unit)⟩ =>
    if site.coordinator = k ∧ result.toBool then some transition.target else none
  | _ => none

/-- The state a coordinator has recorded last; `initial` says what was on record before. -/
def recordedState (initial : ℕ → RuntimeState) (k : ℕ) :
    List (runtimeSystem side scope port).Performed → RuntimeState
  | [] => initial k
  | e :: older => (recordOf k e).getD (recordedState initial k older)

/-- The state of a coordinator is the one on record, or `HALTED`. -/
def stateOnRecord (initial : ℕ → RuntimeState) (c : (Timeline side scope port).Config) (k : ℕ) :
    Bool :=
  c.state.state.coordinators[k]?.all fun i =>
    i.state = .halted || i.state = recordedState initial k c.state.trace

/-- A process is in a transition of its coordinator. -/
def inTransition (c : (Timeline side scope port).Config) (k who : ℕ) : Bool :=
  c.state.state.coordinators[k]?.any (·.stateLock = some who)

/-- **No transition is broken off after its move**, unless the state is on record, or `HALTED`: its
clock answers, its record is accepted, it is not dropped, and it has an epoch to record it under. -/
def transitionsKept (initial : ℕ → RuntimeState) (c : (Timeline side scope port).Config) :
    (Timeline side scope port).Label → Bool
  | .run who choice =>
    match c.threads[who]? with
    | some (site, .call (.inl (.inl (.inl (.external .now)))) _) =>
      (choice.answer .now).isSome || !inTransition c site.coordinator who ||
        stateOnRecord initial c site.coordinator
    | some (site, .call (.inl (.inl (.inl (.store (.recordTransition transition))))) _) =>
      (choice.storeFault.isNone && (c.state.state.db.recordTransition transition).toBool) ||
        stateOnRecord initial c site.coordinator
    | some (site, .call (.inl (.inl (.inl (.volatile (.moveState target))))) _) =>
      (activityAt who site c.state.trace).epoch ≠ some 0 || target = .halted ||
        target = recordedState initial site.coordinator c.state.trace ||
        c.state.state.coordinators[site.coordinator]?.all fun i =>
          !(i.state.transition target).toBool
    | _ => true
  | .kill who => c.threads[who]?.all fun thread =>
    !inTransition c thread.1.coordinator who || stateOnRecord initial c thread.1.coordinator
  | .abandon who => c.threads[who]?.all fun thread => !inTransition c thread.1.coordinator who
  | _ => true

/-! ## What an operation does to the lock -/

/-- What an operation of a process does to the state of its coordinator, to the lock on it, and to
how far the process has come in a transition. -/
inductive Locking (who : ℕ) (i i' : Instance) (a a' : Activity) :
    (op : (full R).Op) → (full R).Res op → Prop
  | lock {r : Volatile.lockState.Res} (hfree : i.stateLock = none) (hstate : i'.state = i.state)
      (hheld : i'.stateLock = some who) (hlock : a'.lock = .held) :
      Locking who i i' a a' (.inl (.inl (.inl (.volatile .lockState)))) r
  | move {target : RuntimeState} {r : (Volatile.moveState target).Res}
      (haccepted : (i.state.transition target).toBool = true) (hstate : i'.state = target)
      (hheld : i'.stateLock = i.stateLock)
      (hlock : a'.lock = if a.epoch.any (0 < ·) then .moved target else .settled) :
      Locking who i i' a a' (.inl (.inl (.inl (.volatile (.moveState target))))) r
  | refuse {target : RuntimeState} {r : (Volatile.moveState target).Res}
      (hstate : i'.state = i.state) (hheld : i'.stateLock = i.stateLock)
      (hlock : a'.lock = .settled) :
      Locking who i i' a a' (.inl (.inl (.inl (.volatile (.moveState target))))) r
  | unlock {r : Volatile.unlockState.Res} (hstate : i'.state = i.state)
      (hheld : i'.stateLock = none) (hlock : a'.lock = .away) :
      Locking who i i' a a' (.inl (.inl (.inl (.volatile .unlockState)))) r
  | clock {r : External.now.Res} (hstate : i'.state = i.state) (hheld : i'.stateLock = i.stateLock)
      (hr : r = none) (haway : a.lock ≠ .away) (hlock : a'.lock = .settled) :
      Locking who i i' a a' (.inl (.inl (.inl (.external .now)))) r
  | record {transition : StateTransition} {r : Except StoreError Unit}
      (hstate : i'.state = i.state) (hheld : i'.stateLock = i.stateLock)
      (hlock : a'.lock = .settled) :
      Locking who i i' a a' (.inl (.inl (.inl (.store (.recordTransition transition))))) r
  | other {op : (full R).Op} {r : (full R).Res op} (hstate : i'.state = i.state)
      (hheld : i'.stateLock = i.stateLock) (hlock : a'.lock = a.lock)
      (hop : ∀ transition, op ≠ .inl (.inl (.inl (.store (.recordTransition transition))))) :
      Locking who i i' a a' op r

/-- **Every operation does one of these.** -/
lemma locking_of_effect {who : ℕ} {giveUp : Bool} {op : (full R).Op} {r : (full R).Res op}
    {i i' : Instance} {a : Activity} (h : Effect who giveUp op r i i') :
    Locking who i i' a ((activityDiscipline R).next op r a) op r := by
  cases h with
  | @memory op r i i' hexec =>
    cases op with
    | lockState =>
      simp only [Volatile.exec] at hexec
      split_ifs at hexec with hfree
      cases hexec
      exact .lock hfree rfl rfl rfl
    | unlockState =>
      cases hexec
      exact .unlock rfl rfl rfl
    | moveState target =>
      simp only [Volatile.exec] at hexec
      split at hexec
      · rename_i result haccepted
        cases hexec
        refine .move (by rw [haccepted]; rfl) rfl rfl ?_
        change (if (true = true) ∧ a.epoch.any (0 < ·) = true then LockStage.moved target
          else .settled) = _
        simp only [true_and]
      · cases hexec
        refine .refuse rfl rfl ?_
        change (if (false = true) ∧ a.epoch.any (0 < ·) = true then LockStage.moved target
          else .settled) = _
        exact if_neg fun h => by cases h.1
    | spawn task =>
      obtain rfl := Volatile.exec_memory hexec
      cases task <;> exact .other rfl rfl rfl fun _ h => by cases h
    | _ =>
      obtain rfl := Volatile.exec_memory hexec
      exact .other rfl rfl rfl fun _ h => by cases h
  | nothing hop =>
    rcases op with ((op | op) | op) | op
    · cases op with
      | external question =>
        cases question with
        | now =>
          by_cases hr : r = none ∧ a.lock ≠ .away
          · exact .clock rfl rfl hr.1 hr.2 (congrArg Activity.lock (if_pos hr))
          · exact .other rfl rfl (congrArg Activity.lock (if_neg hr)) fun _ h => by cases h
        | _ => exact .other rfl rfl rfl fun _ h => by cases h
      | volatile op => exact absurd rfl (hop op)
      | store op =>
        cases op with
        | recordTransition => exact .record rfl rfl rfl
        | acquireOwnership =>
          refine .other rfl rfl ?_ fun _ h => by cases h
          cases r with
          | error => rfl
          | ok epoch =>
            change (if a.role = .starter then { a with role := .acquired epoch } else a).lock =
              a.lock
            split_ifs <;> rfl
        | _ => exact .other rfl rfl rfl fun _ h => by cases h
    · exact .other rfl rfl rfl fun _ h => by cases h
    · exact .other rfl rfl rfl fun _ h => by cases h
    · refine .other rfl rfl ?_ fun _ h => by cases h
      cases op with
      | transitionMutation id expected target evidence epoch now =>
        have hafter := DispatchOp.after_transitionMutation id expected target evidence epoch now r a
        change (DispatchOp.after (.transitionMutation id expected target evidence epoch now)
          r a).lock = a.lock
        rw [hafter]
        split_ifs <;> rfl
      | _ => rfl

/-! ## The lock -/

section

variable {who : ℕ} {i i' : Instance} {a a' : Activity} {op : (full R).Op} {r : (full R).Res op}

/-- A process keeps the lock while it is in a transition. -/
lemma Locking.self_holds (h : Locking who i i' a a' op r)
    (hpre : (activityDiscipline R).pre op a) (hholds : a.lock ≠ .away → i.stateLock = some who)
    (haway : a'.lock ≠ .away) : i'.stateLock = some who := by
  cases h with
  | lock _ _ hheld => exact hheld
  | move _ _ hheld _ | refuse _ hheld _ => exact hheld.trans (hholds (by
      rw [hpre.1]; exact nofun))
  | unlock _ _ hlock => exact absurd hlock haway
  | clock _ hheld _ hbefore => exact hheld.trans (hholds hbefore)
  | @record transition _ _ hheld _ =>
    replace hpre : a.lock = .moved transition.target := hpre
    exact hheld.trans (hholds (by rw [hpre]; exact nofun))
  | other _ hheld hlock => exact hheld.trans (hholds (by rw [← hlock]; exact haway))

/-- The state a process has moved to stays in memory. -/
lemma Locking.self_moved {target : RuntimeState} (h : Locking who i i' a a' op r)
    (hmoved : a.lock = .moved target → i.state = target) (htarget : a'.lock = .moved target) :
    i'.state = target := by
  cases h with
  | lock _ _ _ hlock | refuse _ _ hlock | unlock _ _ hlock | clock _ _ _ _ hlock
  | record _ _ hlock => rw [hlock] at htarget; cases htarget
  | move _ hstate _ hlock =>
    rw [hlock] at htarget
    split_ifs at htarget
    · exact hstate.trans (LockStage.moved.inj htarget)
  | other hstate _ hlock => exact hstate.trans (hmoved (by rw [← hlock]; exact htarget))

/-- Nobody takes the lock, or moves the state, of another process in a transition. -/
lemma Locking.other_holds {other : ℕ} (h : Locking who i i' a a' op r)
    (hpre : (activityDiscipline R).pre op a) (hholds : a.lock ≠ .away → i.stateLock = some who)
    (hother : i.stateLock = some other) (hne : other ≠ who) :
    i'.stateLock = some other ∧ i'.state = i.state := by
  have hout : a.lock = .away := by
    by_contra haway
    exact hne (Option.some.inj (hother.symm.trans (hholds haway)))
  cases h with
  | lock hfree => rw [hother] at hfree; cases hfree
  | move _ _ _ _ | refuse _ _ _ => rw [hpre.1] at hout; cases hout
  | unlock => rcases hpre with h | h <;> rw [h] at hout <;> cases hout
  | clock _ _ _ haway => exact absurd hout haway
  | @record transition _ _ _ _ =>
    replace hpre : a.lock = .moved transition.target := hpre
    cases hpre.symm.trans hout
  | other hstate hheld => exact ⟨hheld.trans hother, hstate⟩

end

/-! ## The record of one coordinator -/

/-- The state that was recorded with an operation. -/
def Deed.records : Deed R → Option RuntimeState
  | ⟨_, .inl (.inl (.inl (.store (.recordTransition transition)))),
      (result : Except StoreError Unit)⟩ =>
    if result.toBool then some transition.target else none
  | _ => none

/-- The state that was recorded last, after `first`. -/
def lastRecord (first : RuntimeState) : List (Deed R) → RuntimeState
  | [] => first
  | deed :: older => deed.records.getD (lastRecord first older)

/-- A coordinator has recorded what its processes have. -/
lemma recordedState_eq (initial : ℕ → RuntimeState) (k : ℕ)
    (trace : List (runtimeSystem side scope port).Performed) :
    recordedState initial k trace = lastRecord (initial k) (deedsAt k trace) := by
  induction trace with
  | nil => rfl
  | cons e older ih =>
    obtain ⟨who, site, op, r⟩ := e
    have hrecord : recordOf k (⟨who, site, op, r⟩ : (runtimeSystem side scope port).Performed) =
        if site.coordinator = k then Deed.records ⟨who, op, r⟩ else none := by
      rcases op with ((op | op) | op) | op
      · cases op with
        | store op =>
          cases op with
          | recordTransition => by_cases hk : site.coordinator = k <;>
              simp [recordOf, Deed.records, hk]
          | _ => exact (ite_self none).symm
        | _ => exact (ite_self none).symm
      all_goals exact (ite_self none).symm
    rw [recordedState, hrecord, ih]
    by_cases hk : site.coordinator = k
    · rw [if_pos hk, deedsAt_of_own hk]
      rfl
    · rw [if_neg hk, deedsAt_of_other hk]
      rfl

variable {first : RuntimeState} {v v' : View R} {action : Action R} {who : ℕ} {m : Member}

/-- The state in memory is the one on record, or `HALTED`. -/
def View.OnRecord (first : RuntimeState) (v : View R) : Prop :=
  v.memory.state = .halted ∨ v.memory.state = lastRecord first v.history

/-- The step breaks no transition off after its move, or the state is on record. -/
def Unbroken (first : RuntimeState) (v v' : View R) : Action R → Prop
  | .perform ⟨who, .inl (.inl (.inl (.external .now))), (r : Option I64)⟩ =>
    r = none → v.memory.stateLock = some who → v.OnRecord first
  | .perform ⟨_, .inl (.inl (.inl (.store (.recordTransition _)))), (r : Except StoreError Unit)⟩ =>
    r.toBool = false → v.OnRecord first
  | .perform ⟨who, .inl (.inl (.inl (.volatile (.moveState target)))), _⟩ =>
    ∀ m, v.members who = some m → m.activity.epoch = some 0 →
      (v.memory.state.transition target).toBool = true →
      target = .halted ∨ target = lastRecord first v.history
  | .leave who => v.memory.stateLock = some who →
    v.OnRecord first ∧ ∀ m, v'.members who = some m → m.live = false
  | _ => True

/-- A process in a transition holds the lock on the state, and the state it has moved to is the
one in memory. That state is on record, or `HALTED`, or the holder of the lock has moved to it and
not recorded it yet. -/
structure RecordInv (first : RuntimeState) (v : View R) : Prop where
  holds : ∀ {who m}, v.members who = some m → m.live = true → m.activity.lock ≠ .away →
    v.memory.stateLock = some who
  moved : ∀ {who m target}, v.members who = some m → m.live = true →
    m.activity.lock = .moved target → v.memory.state = target
  state : v.OnRecord first ∨ ∃ who m, v.members who = some m ∧ v.memory.stateLock = some who ∧
    m.activity.lock = .moved v.memory.state

/-- The holder of the lock that has nothing left to record leaves a state on record. -/
lemma RecordInv.settled (h : RecordInv first v) (hm : v.members who = some m)
    (hlive : m.live = true) (haway : m.activity.lock ≠ .away)
    (hmoved : ∀ target, m.activity.lock ≠ .moved target) : v.OnRecord first := by
  refine h.state.resolve_right ?_
  rintro ⟨other, m', hm', hheld, hlock⟩
  cases hheld.symm.trans (h.holds hm hlive haway)
  cases hm'.symm.trans hm
  exact hmoved _ hlock

lemma firstActivity_lock (job : Job) : (firstActivity job).lock = .away := by
  cases job with
  | task task => cases task <;> rfl
  | _ => rfl

/-- Nothing is performed, and who has the lock keeps it, or goes away and leaves a state on
record. -/
lemma RecordInv.idle_kept (h : RecordInv first v) (hstep : v.Step action v')
    (haction : action.deed = none)
    (hlock : ∀ {who m}, v.members who = some m → v.memory.stateLock = some who →
      (v.OnRecord first ∧ ∀ m', v'.members who = some m' → m'.live = false) ∨
        who ≠ action.who ∧ v'.memory.stateLock = some who) : RecordInv first v' := by
  obtain ⟨hidles, hhistory, hmembers⟩ := hstep.idles haction
  have hkept (hrecord : v.OnRecord first) : v'.OnRecord first := by
    unfold View.OnRecord
    rw [hidles.state, hhistory]
    exact hrecord
  refine ⟨fun hm hlive haway => ?_, fun hm hlive htarget => ?_, ?_⟩
  · rcases hmembers hm with ⟨-, hfirst⟩ | ⟨m₀, hm₀, -, hsame, halive⟩
    · rw [hfirst, firstActivity_lock] at haway
      exact absurd rfl haway
    · rcases hlock hm₀ (h.holds hm₀ (halive hlive) (hsame ▸ haway)) with ⟨-, hover⟩ | ⟨-, hheld⟩
      · exact absurd ((hover _ hm).symm.trans hlive) Bool.false_ne_true
      · exact hheld
  · rcases hmembers hm with ⟨-, hfirst⟩ | ⟨m₀, hm₀, -, hsame, halive⟩
    · rw [hfirst, firstActivity_lock] at htarget
      cases htarget
    · exact hidles.state.trans (h.moved hm₀ (halive hlive) (hsame ▸ htarget))
  · rcases h.state with hrecord | ⟨who, m, hm, hheld, hmoved⟩
    · exact .inl (hkept hrecord)
    · rcases hlock hm hheld with ⟨hrecord, -⟩ | ⟨hne, hheld'⟩
      · exact .inl (hkept hrecord)
      · refine .inr ⟨who, m, (hstep.others hne).trans hm, hheld', ?_⟩
        rw [hidles.state]
        exact hmoved

lemma records_of_other {deed : Deed R}
    (h : ∀ transition, deed.op ≠ .inl (.inl (.inl (.store (.recordTransition transition))))) :
    deed.records = none := by
  unfold Deed.records
  split
  · exact absurd rfl (h _)
  · rfl

/-- **The record under an operation.** -/
lemma RecordInv.state_performed (h : RecordInv first v) {deed : Deed R}
    (hstep : v.Step (.perform deed) v') (hgood : Unbroken first v v' (.perform deed)) :
    v'.OnRecord first ∨ ∃ who m, v'.members who = some m ∧ v'.memory.stateLock = some who ∧
      m.activity.lock = .moved v'.memory.state := by
  obtain ⟨m, giveUp, hm, hlive, hpre, heffect, hhistory, hmembers⟩ := hstep.performed
  obtain ⟨m', hm', -⟩ := hstep.member hm
  obtain ⟨-, -, hnext⟩ := (hmembers hm').resolve_right fun hother => hother.1 rfl
  -- a state on record stays on record unless something is recorded
  have hkept (hnone : deed.records = none) (hstate : v'.memory.state = v.memory.state)
      (hrecord : v.OnRecord first) : v'.OnRecord first := by
    unfold View.OnRecord
    rw [hhistory, hstate, lastRecord, hnone]
    exact hrecord
  obtain ⟨who, op, r⟩ := deed
  cases locking_of_effect heffect with
  | lock hfree hstate _ _ =>
    refine .inl (hkept rfl hstate (h.state.resolve_right ?_))
    rintro ⟨_, _, _, hheld, _⟩
    cases hfree.symm.trans hheld
  | @move target r haccepted hstate hheld hlock =>
    by_cases hepoch : m.activity.epoch.any (0 < ·) = true
    · rw [if_pos hepoch] at hlock
      have hholds := h.holds hm hlive (by rw [hpre.1]; exact nofun)
      refine .inr ⟨who, m', hm', hheld.trans hholds, ?_⟩
      rw [hnext, hstate]
      exact hlock
    · -- without an epoch the target is `HALTED`, or on record
      left
      unfold View.OnRecord
      rw [hstate, hhistory]
      rcases hread : m.activity.epoch with _ | n
      · exact .inl (hpre.2.2.1 hread)
      · obtain rfl : n = 0 := by
          rw [hread, Option.any_some, decide_eq_true_iff] at hepoch
          omega
        exact hgood m hm hread haccepted
  | refuse hstate _ _ =>
    refine .inl (hkept rfl hstate (h.settled hm hlive ?_ fun target => ?_))
    all_goals
      rw [hpre.1]
      exact nofun
  | unlock hstate _ _ =>
    refine .inl (hkept rfl hstate (h.settled hm hlive ?_ fun target => ?_))
    all_goals rcases hpre with hlock | hlock <;> rw [hlock] <;> exact nofun
  | clock hstate _ hr haway =>
    exact .inl (hkept rfl hstate (hgood hr (h.holds hm hlive haway)))
  | @record transition r hstate _ _ =>
    replace hpre : m.activity.lock = .moved transition.target := hpre
    left
    rcases r with e | u
    · exact hkept rfl hstate (hgood rfl)
    · right
      rw [hstate, h.moved hm hlive hpre, hhistory]
      rfl
  | other hstate hheld hlock hop =>
    rcases h.state with hrecord | ⟨other, m₁, hm₁, hholds, hmoved⟩
    · exact .inl (hkept (records_of_other hop) hstate hrecord)
    · right
      by_cases hne : other = who
      · subst hne
        cases hm₁.symm.trans hm
        refine ⟨other, m', hm', hheld.trans hholds, ?_⟩
        rw [hnext, hstate]
        exact hlock.trans hmoved
      · refine ⟨other, m₁, (hstep.others hne).trans hm₁, hheld.trans hholds, ?_⟩
        rw [hstate]
        exact hmoved

/-- A process performs an operation. -/
lemma RecordInv.perform_kept (h : RecordInv first v) {deed : Deed R}
    (hstep : v.Step (.perform deed) v') (hgood : Unbroken first v v' (.perform deed)) :
    RecordInv first v' := by
  obtain ⟨m, giveUp, hm, hlive, hpre, heffect, -, hmembers⟩ := hstep.performed
  have hlocking := locking_of_effect (a := m.activity) heffect
  have hholds := h.holds hm hlive
  refine ⟨fun hm' hlive' haway => ?_, fun {other m' target} hm' hlive' htarget => ?_,
    h.state_performed hstep hgood⟩
  · rcases hmembers hm' with ⟨rfl, -, hnext⟩ | ⟨hne, hm'⟩
    · exact hlocking.self_holds hpre hholds (hnext ▸ haway)
    · exact (hlocking.other_holds hpre hholds (h.holds hm' hlive' haway) hne).1
  · rcases hmembers hm' with ⟨rfl, -, hnext⟩ | ⟨hne, hm'⟩
    · exact hlocking.self_moved (h.moved hm hlive) (hnext ▸ htarget)
    · have haway : m'.activity.lock ≠ .away := by
        rw [htarget]
        exact nofun
      have hsame := hlocking.other_holds hpre hholds (h.holds hm' hlive' haway) hne
      exact hsame.2.trans (h.moved hm' hlive' htarget)

/-- **The record, step by step.** -/
lemma RecordInv.kept (h : RecordInv first v) (hstep : v.Step action v')
    (hgood : Unbroken first v v' action) : RecordInv first v' := by
  cases action with
  | perform => exact h.perform_kept hstep hgood
  | start =>
    refine h.idle_kept hstep rfl fun {other m} hm hheld => .inr ?_
    cases hstep with
    | start hwho _ hbegin =>
      refine ⟨?_, (congrArg Instance.stateLock (Instance.begin_frame hbegin).1).trans hheld⟩
      rintro rfl
      cases hwho.symm.trans hm
  | leave who =>
    refine h.idle_kept hstep rfl fun {other m} hm hheld => ?_
    by_cases hne : other = who
    · subst hne
      exact .inl (hgood hheld)
    · refine .inr ⟨hne, ?_⟩
      cases hstep with
      | leave =>
        change v.memory.stateLock.filter (· ≠ who) = some other
        rw [hheld, Option.filter_some, if_pos (decide_eq_true hne)]

section

variable {k : ℕ} {site : Site} {choice : Choice side.Choice} {w : World side.State}
  {initial : ℕ → RuntimeState} {c c' : (Timeline side scope port).Config}
  {label : (Timeline side scope port).Label}

/-- A record that is accepted does not fail. -/
lemma record_ok {w' : World side.State} {transition : StateTransition}
    {result : Except StoreError Unit}
    (h : (runtimeSystem side scope port).exec
      (.inl (.inl (.inl (.store (.recordTransition transition))))) who site choice w =
      some (w', result)) (hfault : choice.storeFault = none)
    (hrecord : (w.db.recordTransition transition).toBool = true) : result.toBool = true := by
  rcases hdb : w.db.recordTransition transition with e | db
  · rw [hdb] at hrecord
    cases hrecord
  · simp only [runtimeSystem, execOp, execBase, transaction, hfault, StoreOp.exec, hdb, Except.map]
      at h
    cases h
    rfl

/-- **A step that keeps transitions breaks none off.** -/
lemma unbroken_of_kept (hgood : transitionsKept initial c label = true)
    (hstep : System.TracedStep c label c') (hv : viewAt k c = some v) (hv' : viewAt k c' = some v')
    (hshows : action.Shows k c label) (hview : v.Step action v') :
    Unbroken (initial k) v v' action := by
  obtain ⟨i, hi, rfl⟩ := viewAt_eq_some hv
  have hrecord (h : stateOnRecord initial c k = true) :
      View.OnRecord (initial k) (⟨i, memberAt k c, deedsAt k c.state.trace⟩ : View R) := by
    rw [stateOnRecord, hi, recordedState_eq] at h
    simpa [View.OnRecord] using h
  have hinside {who : ℕ} (h : i.stateLock = some who) : inTransition c k who = true := by
    rw [inTransition, hi]
    exact decide_eq_true h
  cases action with
  | start => trivial
  | leave who =>
    intro hheld
    obtain ⟨m, hm⟩ : ∃ m, memberAt k c who = some m := by
      cases hview with
      | leave hm _ => exact ⟨_, hm⟩
    obtain ⟨program, hthread, -⟩ := memberAt_eq_some hm
    rcases hshows with rfl | rfl
    · refine ⟨hrecord (by simpa [transitionsKept, hthread, hinside hheld] using hgood), ?_⟩
      intro m' hm'
      obtain ⟨i', -, rfl⟩ := viewAt_eq_some hv'
      obtain ⟨program', hthread', hlive, -⟩ := memberAt_eq_some hm'
      cases hstep with
      | kill hkilled =>
        rw [List.getElem?_set_self (List.getElem?_eq_some_iff.mp hkilled).1] at hthread'
        cases hthread'
        exact hlive
    · simp [transitionsKept, hthread, hinside hheld] at hgood
  | perform deed =>
    obtain ⟨who, op, r⟩ := deed
    obtain ⟨choice, site, next, rfl, hthread, rfl⟩ := hshows
    obtain ⟨-, -, -, -, -, -, hhistory, -⟩ := hview.performed
    obtain ⟨i', -, rfl⟩ := viewAt_eq_some hv'
    dsimp only at hthread
    cases hstep with
    | @run _ _ site' op' next' w r' hthread' hexec =>
      obtain ⟨rfl, hcall⟩ := pair_inj (hthread.symm.trans hthread')
      cases hcall
      have hdeed := (List.cons.inj ((deedsAt_of_own rfl).symm.trans hhistory)).1
      obtain rfl : r' = r := by simpa using hdeed
      unfold Unbroken
      split
      case h_5 => trivial
      all_goals
        rename_i heq
        cases heq
      · intro hr hheld
        obtain ⟨-, hanswer⟩ := pair_inj hexec
        replace hanswer : choice.answer .now = none := hanswer.trans hr
        exact hrecord (by simpa [transitionsKept, hthread, hanswer, hinside hheld] using hgood)
      · rename_i transition _
        intro hfailed
        refine hrecord ?_
        rcases hfault : choice.storeFault with _ | message
        · have hrefused : (c.state.state.db.recordTransition transition).toBool = false := by
            by_contra haccepted
            have hok := record_ok hexec hfault (Bool.eq_true_of_not_eq_false haccepted)
            exact Bool.false_ne_true (hfailed.symm.trans hok)
          simpa [transitionsKept, hthread, hrefused] using hgood
        · simpa [transitionsKept, hthread, hfault] using hgood
      · intro m hm hepoch haccepted
        cases (memberAt_of_thread hthread rfl).symm.trans hm
        replace hepoch : (activityAt who site c.state.trace).epoch = some 0 := hepoch
        simpa [transitionsKept, hthread, hepoch, hi, haccepted, recordedState_eq] using hgood

end

end

/-! ## Failed transitions open nothing -/

section

variable {R : Interface} (side : RiskSide R) (scope : RuntimeScope) (port : RiskPort R)

/-- **As long as no transition is broken off after its move, the state in memory is the one on
record or `HALTED`**, apart from a transition that is on its way under the lock. A process that has
been refused, has recorded its transition or has given up on it leaves such a state, and so does
everybody when the lock is free, which is when the gate reads the state.

**Proof sketch.** The lock serializes transitions, and while it is held only its holder moves the
state. By induction over the run, the state is on record, or `HALTED`, or the holder of the lock has
moved to it and will still record it. -/
theorem state_follows_record (hport : port.Quiet) (initial : ℕ → RuntimeState)
    {c₀ c : (Timeline side scope port).Config} (hthreads : c₀.threads = [])
    (htrace : c₀.state.trace = [])
    (hinitial : ∀ k i, c₀.state.state.coordinators[k]? = some i →
      i.state = initial k ∨ i.state = .halted)
    (hfresh : ∀ k, c₀.state.state.coordinators.length ≤ k → initial k = .starting)
    (hreach : System.Reach (fun c label => transitionsKept initial c label = true) c₀ c)
    {k : ℕ} {i : Instance} (hi : c.state.state.coordinators[k]? = some i) :
    (i.stateLock = none → i.state = .halted ∨ i.state = recordedState initial k c.state.trace) ∧
      ∀ who site, c.Unfinished who site → site.coordinator = k →
        (activityAt who site c.state.trace).lock = .settled →
        i.state = .halted ∨ i.state = recordedState initial k c.state.trace := by
  have hnew (hv : viewAt k c₀ = none) : RecordInv (initial k) (View.new : View R) := by
    have hk := hfresh k (List.getElem?_eq_none_iff.mp (Option.map_eq_none_iff.mp hv))
    refine ⟨fun hm => ?_, fun hm => ?_, .inl (.inr hk.symm)⟩ <;> cases hm
  have hinit (v : View R) (hv : viewAt k c₀ = some v) : RecordInv (initial k) v := by
    obtain ⟨hmemory, hmembers, hhistory⟩ := viewAt_of_nil hthreads htrace hv
    have hnobody : ∀ {who m}, v.members who ≠ some m := fun hm => by
      rw [hmembers] at hm
      cases hm
    refine ⟨fun hm => absurd hm hnobody, fun hm => absurd hm hnobody, .inl ?_⟩
    rw [View.OnRecord, hhistory]
    exact (hinitial k _ hmemory).symm
  obtain ⟨-, hinv⟩ := view_reach hport (RecordInv (initial k)) hnew
    (fun hgood hstep hv hv' hshows hview h =>
      h.kept hview (unbroken_of_kept hgood hstep hv hv' hshows hview))
    (.of_nil hthreads htrace) hinit hreach
  have hview := hinv ⟨i, memberAt k c, deedsAt k c.state.trace⟩
    (by simp only [viewAt, hi, Option.map_some])
  rw [recordedState_eq]
  refine ⟨fun hfree => hview.state.resolve_right ?_, fun who site hwho hk hlock => ?_⟩
  · rintro ⟨_, _, _, hheld, _⟩
    cases hfree.symm.trans hheld
  · obtain ⟨op, next, hthread⟩ := hwho
    refine hview.settled (memberAt_of_thread hthread hk) rfl ?_ fun target => ?_
    all_goals
      rw [hlock]
      exact LockStage.noConfusion

end

/-! ## A record that fails -/

/-- What is on record before: `READY` for the coordinator there is, and nothing for others. -/
def readyRecord (k : ℕ) : RuntimeState := if k = 0 then .ready else .starting

/-- An operator forces a reconciliation, which runs for some steps without a fault. -/
def forcedSteps (steps : ℕ) : List (Timeline approvingSide fixtureScope approvingPort).Label :=
  .start (0, .forceReconciliation .reconciliationStarted "operator") ::
    List.replicate steps (.run 0 (plainChoice ()))

/-- **A failed transition opens the gate.** The reconciliation is done, and the record of the
transition to `READY` fails: the call returns an error and the last state on record is
`RECONCILING`, but the state in memory is `READY` with a free lock, and the gate is open. -/
theorem ready_without_record : ∃ c c', readyTimeline.run (forcedSteps 23) = some c ∧
      c.run (List.replicate 4 (.run 0 (plainChoice ())) ++
        [.run 0 faultyChoice, .run 0 (plainChoice ())]) = some c' ∧
      (c.state.state.coordinators[0]?.map (·.state)) = some .reconciling ∧
      (c'.state.state.coordinators[0]?.map fun i => i.stateLock.isNone && decide i.gateOpen) =
        some true ∧
      recordedState readyRecord 0 c'.state.trace = .reconciling := by
  simp only [exists_and_left]
  decide +kernel

/-- Without the fault the coordinator ends in the state on record. -/
theorem forced_reconciliation_on_record :
    ∃ c i, readyTimeline.runIf (fun c label => transitionsKept readyRecord c label = true)
        (forcedSteps 29) = some c ∧
      c.state.state.coordinators[0]? = some i ∧ i.stateLock = none ∧
      (i.state = .halted ∨ i.state = recordedState readyRecord 0 c.state.trace) := by
  obtain ⟨c, hc, i, hi, hfree⟩ : ∃ c, readyTimeline.runIf (fun c label =>
      transitionsKept readyRecord c label = true) (forcedSteps 29) = some c ∧
      ∃ i, c.state.state.coordinators[0]? = some i ∧ i.stateLock = none := by
    decide +kernel
  refine ⟨c, i, hc, hi, hfree, ?_⟩
  refine (state_follows_record approvingSide fixtureScope approvingPort approvingPort_quiet
    readyRecord rfl rfl (fun k i hk => ?_) (fun k hk => ?_) (System.Config.reach_of_runIf hc)
    hi).1 hfree
  · rcases k with _ | k
    · cases hk
      exact .inl rfl
    · cases hk
  · exact if_neg (by change 1 ≤ k at hk; omega)

end VoxTrader.Runtime
