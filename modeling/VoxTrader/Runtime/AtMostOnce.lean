import VoxTrader.Runtime.ReconcileRule
import VoxTrader.Runtime.System

/-!
# A command is sent at most once

However calls interleave, are dropped, and are repeated by this coordinator or another one, a
request is sent to the broker at most once, and only by the call that moved its journal row from
`NOT_DISPATCHED` to `UNKNOWN_AFTER_DISPATCH`; and the row never comes back.

The argument follows the fence. A call that has fenced a request and not sent it yet is in a stage
of its own. No two calls are in that stage for one request, because the fence is a compare and
set and rows never return to `NOT_DISPATCHED`.

## Main definitions

* `Dispatched` — the journal row of a request is past `NOT_DISPATCHED`.
* `FenceOrdered` — in a log, sending comes after fencing by the same call, and only once.
* `fenceDiscipline` — the stage of a call.

## Main results

* `dispatch_at_most_once` — the statement above, for every run of the system.
-/

namespace VoxTrader.Runtime

open Process System
open Function (update_self update_of_ne update_eq_self)

/-! ## What is claimed about a log and a journal -/

/-- The mutation of a request has left `NOT_DISPATCHED`. -/
def Dispatched (db : RuntimeDb) (id : String) : Prop :=
  ∃ state, db.journalState id = some state ∧ state ≠ .notDispatched

/-- Some call has sent the request. -/
def WasSent (log : List Entry) (id : String) : Prop :=
  ∃ who answer, Entry.sent who id answer ∈ log

/-- In a log, newest first, a request is only sent by the call that fenced it before, and only
when it was not sent before. -/
def FenceOrdered : List Entry → Prop
  | [] => True
  | .sent who id _ :: earlier =>
    (.moved who id .notDispatched .unknownAfterDispatch ∈ earlier ∧ ¬ WasSent earlier id) ∧
      FenceOrdered earlier
  | _ :: earlier => FenceOrdered earlier

variable {log : List Entry}

/-- An entry that sends nothing keeps the order. -/
lemma FenceOrdered.cons {e : Entry} (h : FenceOrdered log)
    (he : ∀ who id answer, e ≠ .sent who id answer) : FenceOrdered (e :: log) := by
  cases e with
  | sent who id answer => exact absurd rfl (he who id answer)
  | inserted who id | moved who id source target => exact h

/-- In an ordered log every request is sent after its fence and once. -/
lemma FenceOrdered.split (h : FenceOrdered log) :
    ∀ {later earlier : List Entry} {who : ℕ} {id : String}
      {answer : RiskDispatchOutcome}, log = later ++ .sent who id answer :: earlier →
      .moved who id .notDispatched .unknownAfterDispatch ∈ earlier ∧ ¬ WasSent earlier id := by
  induction log with
  | nil =>
    intro later earlier who id answer hlog
    simp at hlog
  | cons e log ih =>
    intro later earlier who id answer hlog
    have hrest : FenceOrdered log := by
      cases e with
      | sent => exact h.2
      | inserted who id | moved who id source target => exact h
    cases later with
    | nil =>
      cases hlog
      exact h.1
    | cons => exact ih hrest (List.cons.inj hlog).2

/-! ## The stage of a call -/

/-- After an operation of a dispatch: a request that was fenced is waiting to be sent. -/
def fenceNext : (op : DispatchOp) → op.Res → Option String → Option String
  | .insertMutation _, _, g => g
  | .transitionMutation _ expected target _ _ _, .ok record, g =>
    if expected = [.notDispatched] ∧ target = .unknownAfterDispatch then
      some record.logicalRequestId
    else g
  | .transitionMutation _ _ _ _ _ _, .error _, g => g
  | .dispatchOnce _ _ _, _, _ => none

/-- Only the request that was fenced is sent, and no row is moved back. -/
def fencePre : DispatchOp → Option String → Prop
  | .insertMutation _, _ => True
  | .transitionMutation _ _ target _ _ _, _ => target ≠ .notDispatched
  | .dispatchOnce _ _ record, g => g = some record.logicalRequestId

/-- The discipline of fencing: a call's ghost value is the request it has fenced and not sent. -/
def fenceDiscipline (R : Interface) : Discipline (full R) (Option String) where
  pre op g := Sum.elim (fun _ => True) (fun op => fencePre op g) op
  next op r g :=
    match op, r with
    | .inl _, _ => g
    | .inr op, r => fenceNext op r g

section

variable {R : Interface}

/-- Only the operations of a dispatch matter. -/
lemma fenceDiscipline_closed {P : Option String → Prop} : (fenceDiscipline R).left.Closed P :=
  fun _ _ hg => ⟨trivial, fun _ => hg⟩

/-- A dispatch fences what it sends. -/
lemma fenceDiscipline_course (port : RiskPort R) (scope : RuntimeScope)
    (purpose : RuntimeExecutionPurpose) (command : RuntimeExecutionCommand) (id : String) :
    DispatchCourse (fenceDiscipline R) port scope purpose command id (· = none)
    (fun _ g => g = none)
      (fun _ _ g => g = none) (fun _ record g => g = some record.logicalRequestId)
      (fun _ g => g = none) (fun _ g => g = none) (fun _ g => g = none) fun _ => True where
  admitted_base _ := .of_closed fenceDiscipline_closed.left.left
  validated_base _ _ := .of_closed fenceDiscipline_closed.left.left
  lost_base _ _ := .of_closed fenceDiscipline_closed.left.left
  filed_base _ := .of_closed fenceDiscipline_closed.left.left
  settled_base _ := .of_closed fenceDiscipline_closed.left.left
  over_base := .of_closed fenceDiscipline_closed.left.left
  validated_admitted _ _ _ hg := hg
  admitCommand g hg := (keeps_of_closed fenceDiscipline_closed.left g hg).mono fun r _ hg' => by
    cases r with
    | ok => exact hg'
    | error => trivial
  validate _ _ g hg := (keeps_of_closed fenceDiscipline_closed.left g hg).mono fun r _ hg' => by
    cases r <;> exact hg'
  insert _ _ _ _ hg _ _ := ⟨trivial, fun _ => hg⟩
  claim _ _ _ _ _ hg _ :=
    ⟨(by decide : JournalState.unknownAfterDispatch ≠ .notDispatched), fun _ => rfl, fun _ => hg⟩
  send _ _ _ _ hg _ := ⟨hg, fun _ => rfl⟩
  link _ _ _ g hg := (keeps_of_closed fenceDiscipline_closed.left.left g hg).mono
    fun r _ hg' => by
      cases r with
      | ok => exact hg'
      | error => trivial
  file _ _ hg _ := hg
  finish result _ _ _ g hg := by
    refine ⟨?_, fun r => ?_⟩
    · cases result <;> exact nofun
    · cases r <;> exact hg
  refuse _ g _ := keeps_of_closed fenceDiscipline_closed.left g trivial
  report _ g _ := keeps_of_closed fenceDiscipline_closed.left g trivial
  lost _ g _ _ := keeps_of_closed fenceDiscipline_closed.left g trivial

/-- The other jobs do not fence anything. -/
lemma fenceDiscipline_reconcileRule (port : RiskPort R) :
    ReconcileRule (fenceDiscipline R).left port (· = none) (fun _ g => g = none) where
  base _ _ := ⟨trivial, fun _ => rfl⟩
  serves _ _ hg := hg
  read _ hg := ⟨trivial, fun _ => hg, fun _ => hg⟩
  commit _ _ _ hg := ⟨trivial, fun _ => hg⟩
  apply _ _ hg := follows_of_free (fun _ => ⟨trivial, fun _ => rfl⟩) (returns_of_forall fun _ => hg)

/-- Every job follows the discipline. -/
lemma fenceDiscipline_job (port : RiskPort R) (scope : RuntimeScope) (job : Job) :
    Follows (fenceDiscipline R) (fun _ _ => True) (job.program port scope) none := by
  cases job with
  | dispatch purpose command id =>
    exact follows_bind.mpr (((fenceDiscipline_course port scope purpose command id).follows
        fenceDiscipline_closed.left.left rfl).mono fun _ _ _ => trivial)
  | _ => exact (fenceDiscipline_reconcileRule port).follows rfl rfl

end

/-! ## One step -/

section

variable {R : Interface} {side : RiskSide R} {scope : RuntimeScope} {who : ℕ} {site : Site}
  {choice : Choice side.Choice} {w w' : World side.State} {id : String}

/-- A reconciliation does not take a mutation back. -/
lemma Dispatched.of_resolves {db db' : RuntimeDb} (h : Dispatched db id)
    (hdb : db.Resolves db') : Dispatched db' id := by
  obtain ⟨state, hstate, hne⟩ := h
  rcases hdb.states id with heq | ⟨-, hrec⟩
  · exact ⟨state, heq.trans hstate, hne⟩
  · exact ⟨.reconciled, hrec, by decide⟩

/-- **No operation takes a mutation back.** -/
lemma Dispatched.step {op : (full R).Op} {r : (full R).Res op} {g : Option String}
    (h : Dispatched w.db id) (hpre : (fenceDiscipline R).pre op g)
    (hexec : execOp side scope op who site choice w = some (w', r)) : Dispatched w'.db id := by
  rcases op with op | op
  · exact h.of_resolves (execOp_left_frame hexec).1
  · obtain ⟨state, hstate, hne⟩ := h
    cases op with
    | insertMutation =>
      rcases execOp_insert hexec with ⟨rfl, -⟩ | ⟨db, rfl, -, habsent, hdb⟩
      · exact ⟨state, hstate, hne⟩
      · refine ⟨state, ?_, hne⟩
        rw [hdb id, if_neg]
        · exact hstate
        · rintro rfl
          cases hstate.symm.trans habsent
    | transitionMutation j expected target =>
      rcases execOp_transition hexec with ⟨rfl, -⟩ | ⟨db, next, source, rfl, -, -, -, -, -, hdb⟩
      · exact ⟨state, hstate, hne⟩
      · by_cases hid : id = j
        · exact ⟨target, (hdb id).trans (if_pos hid), hpre⟩
        · exact ⟨state, ((hdb id).trans (if_neg hid)).trans hstate, hne⟩
    | dispatchOnce =>
      obtain ⟨rfl, -⟩ := execOp_dispatchOnce hexec
      exact ⟨state, hstate, hne⟩

/-- The invariant: the log is in order, what was sent is dispatched, and every request that waits
to be sent was fenced by its call alone, and not sent. -/
structure FenceInv (w : World side.State) (fenced : ℕ → Option String) : Prop where
  ordered : FenceOrdered w.log
  sent : ∀ id, WasSent w.log id → Dispatched w.db id
  waiting : ∀ who id, fenced who = some id →
    .moved who id .notDispatched .unknownAfterDispatch ∈ w.log ∧ ¬ WasSent w.log id ∧
      Dispatched w.db id
  alone : ∀ who who' id, fenced who = some id → fenced who' = some id → who = who'

namespace FenceInv

variable {fenced : ℕ → Option String}

section

variable (h : FenceInv w fenced)

include h

/-- A call that goes away, or has nothing to send, waits for nothing. -/
lemma forget (who : ℕ) : FenceInv w (Function.update fenced who none) := by
  have hback : ∀ who' id, Function.update fenced who none who' = some id →
      fenced who' = some id := by
    intro who' id hid
    by_cases hwho : who' = who
    · rw [hwho, update_self] at hid
      cases hid
    · rwa [update_of_ne hwho] at hid
  exact ⟨h.ordered, h.sent, fun who' id hid => h.waiting who' id (hback who' id hid),
    fun a b id ha hb => h.alone a b id (hback a id ha) (hback b id hb)⟩

/-- A world with the same log, in which nothing was taken back. -/
lemma of_frame (hlog : w'.log = w.log)
    (hdb : ∀ id, Dispatched w.db id → Dispatched w'.db id) : FenceInv w' fenced := by
  refine ⟨hlog ▸ h.ordered, fun id hid => hdb id (h.sent id (hlog ▸ hid)), fun who id hid => ?_,
    h.alone⟩
  obtain ⟨hmoved, hsent, hdispatched⟩ := h.waiting who id hid
  rw [hlog]
  exact ⟨hmoved, hsent, hdb id hdispatched⟩

/-- An entry of the log that sends nothing. -/
lemma of_entry {e : Entry} (he : ∀ who id answer, e ≠ .sent who id answer)
    (hlog : w'.log = e :: w.log) (hdb : ∀ id, Dispatched w.db id → Dispatched w'.db id) :
    FenceInv w' fenced := by
  have hsent : ∀ id, WasSent w'.log id → WasSent w.log id := by
    rintro id ⟨who, answer, hmem⟩
    rw [hlog] at hmem
    rcases List.mem_cons.mp hmem with heq | hmem
    · exact absurd heq.symm (he who id answer)
    · exact ⟨who, answer, hmem⟩
  refine ⟨hlog ▸ h.ordered.cons he, fun id hid => hdb id (h.sent id (hsent id hid)),
    fun who id hid => ?_, h.alone⟩
  obtain ⟨hmoved, hnot, hdispatched⟩ := h.waiting who id hid
  exact ⟨hlog ▸ List.mem_cons_of_mem _ hmoved, fun hw => hnot (hsent id hw), hdb id hdispatched⟩

/-- A request that was just fenced waits for its call alone, and was not sent. -/
lemma fence (hkeep : FenceInv w' fenced)
    (hstate : w.db.journalState id = some .notDispatched)
    (hlog : w'.log = .moved who id .notDispatched .unknownAfterDispatch :: w.log)
    (hrow : w'.db.journalState id = some .unknownAfterDispatch) :
    FenceInv w' (Function.update fenced who (some id)) := by
  have hfresh : ¬ Dispatched w.db id := by
    rintro ⟨state, hstate', hne⟩
    rw [hstate] at hstate'
    exact hne (Option.some.inj hstate').symm
  have hsent : ¬ WasSent w'.log id := by
    rintro ⟨who', answer, hmem⟩
    rw [hlog] at hmem
    rcases List.mem_cons.mp hmem with heq | hmem
    · cases heq
    · exact hfresh (h.sent id ⟨who', answer, hmem⟩)
  -- any other call that waits for a request waits for another one
  have hother : ∀ who' id', who' ≠ who → Function.update fenced who (some id) who' = some id' →
      fenced who' = some id' ∧ id' ≠ id := by
    intro who' id' hne hid'
    rw [update_of_ne hne] at hid'
    refine ⟨hid', ?_⟩
    rintro rfl
    exact hfresh (h.waiting who' id' hid').2.2
  have hself : ∀ id', Function.update fenced who (some id) who = some id' → id' = id := by
    intro id' hid'
    rw [update_self] at hid'
    exact (Option.some.inj hid').symm
  refine ⟨hkeep.ordered, hkeep.sent, fun who' id' hid' => ?_, fun a b id' ha hb => ?_⟩
  · by_cases hwho : who' = who
    · obtain rfl := hwho
      obtain rfl := hself id' hid'
      exact ⟨hlog ▸ List.mem_cons_self, hsent, _, hrow, by decide⟩
    · exact hkeep.waiting who' id' (hother who' id' hwho hid').1
  · by_cases ha' : a = who <;> by_cases hb' : b = who
    · rw [ha', hb']
    · exact absurd (hself id' (ha' ▸ ha)) (hother b id' hb' hb).2
    · exact absurd (hself id' (hb' ▸ hb)) (hother a id' ha' ha).2
    · exact h.alone a b id' (hother a id' ha' ha).1 (hother b id' hb' hb).1

/-- A request that is sent was waiting for this call alone. -/
lemma send {answer : RiskDispatchOutcome}
    (hid : fenced who = some id) (hlog : w'.log = .sent who id answer :: w.log)
    (hdb : w'.db = w.db) :
    FenceInv w' (Function.update fenced who none) := by
  obtain ⟨hmoved, hnot, hdispatched⟩ := h.waiting who id hid
  have hsent : ∀ id', WasSent w'.log id' → id' = id ∨ WasSent w.log id' := by
    rintro id' ⟨who', answer', hmem⟩
    rw [hlog] at hmem
    rcases List.mem_cons.mp hmem with heq | hmem
    · cases heq
      exact .inl rfl
    · exact .inr ⟨who', answer', hmem⟩
  refine ⟨?_, fun id' hid' => ?_, fun who' id' hid' => ?_, (h.forget who).alone⟩
  · rw [hlog]
    exact ⟨⟨hmoved, hnot⟩, h.ordered⟩
  · rw [hdb]
    rcases hsent id' hid' with rfl | hold
    · exact hdispatched
    · exact h.sent id' hold
  · obtain ⟨hmoved', hnot', hdispatched'⟩ := (h.forget who).waiting who' id' hid'
    rw [hdb]
    refine ⟨hlog ▸ List.mem_cons_of_mem _ hmoved', fun hw => ?_, hdispatched'⟩
    rcases hsent id' hw with rfl | hold
    · -- two calls would wait for one request
      by_cases hwho : who' = who
      · rw [hwho, update_self] at hid'
        cases hid'
      · rw [update_of_ne hwho] at hid'
        exact hwho (h.alone who' who id' hid' hid)
    · exact hnot' hold

/-- **One operation keeps the invariant.** -/
lemma step {op : (full R).Op} {r : (full R).Res op}
    (hpre : (fenceDiscipline R).pre op (fenced who))
    (hexec : execOp side scope op who site choice w = some (w', r)) :
    FenceInv w' (Function.update fenced who ((fenceDiscipline R).next op r (fenced who))) := by
  have hdb : ∀ id, Dispatched w.db id → Dispatched w'.db id := fun id hid => hid.step hpre hexec
  rcases op with op | op
  · have hkeep := h.of_frame (execOp_left_frame hexec).2.2 hdb
    rwa [← update_eq_self who fenced] at hkeep
  cases op with
  | insertMutation =>
    have hkeep : FenceInv w' fenced := by
      rcases execOp_insert hexec with ⟨rfl, -⟩ | ⟨db, hw', -⟩
      · exact h
      · exact h.of_entry (fun _ _ _ he => by cases he) (congrArg World.log hw') hdb
    rwa [← update_eq_self who fenced] at hkeep
  | transitionMutation id expected target evidence epoch now =>
    rcases execOp_transition hexec with
      ⟨rfl, e, rfl⟩ | ⟨db, next, source, hw', rfl, hid, hsource, hstate, -, hrows⟩
    · rwa [← update_eq_self who fenced] at h
    have hlog : w'.log = .moved who id source target :: w.log := congrArg World.log hw'
    have hkeep : FenceInv w' fenced := h.of_entry (fun _ _ _ he => by cases he) hlog hdb
    by_cases hfence : expected = [.notDispatched] ∧ target = .unknownAfterDispatch
    · have hnext : (fenceDiscipline R).next (.inr (.transitionMutation id expected target evidence
          epoch now)) (.ok next) (fenced who) = some id := (if_pos hfence).trans (by rw [hid])
      obtain ⟨rfl, rfl⟩ := hfence
      obtain rfl := List.mem_singleton.mp hsource
      rw [hnext]
      refine h.fence hkeep hstate hlog ?_
      rw [hw']
      exact (hrows id).trans (if_pos rfl)
    · have hnext : (fenceDiscipline R).next (.inr (.transitionMutation id expected target evidence
          epoch now)) (.ok next) (fenced who) = fenced who := if_neg hfence
      rw [hnext, update_eq_self]
      exact hkeep
  | dispatchOnce =>
    obtain ⟨hw', -⟩ := execOp_dispatchOnce hexec
    exact h.send hpre (congrArg World.log hw') (by rw [hw'])

end

end FenceInv

end

/-! ## Every run -/

/-- The entry says that the request was sent. -/
def Entry.sends (id : String) : Entry → Bool
  | sent _ id' _ => id' = id
  | _ => false

/-- In an ordered log a request is sent at most once. -/
lemma FenceOrdered.length_sends (h : FenceOrdered log) (id : String) :
    (log.filter (Entry.sends id)).length ≤ 1 := by
  induction log with
  | nil => exact Nat.zero_le _
  | cons e log ih =>
    cases e with
    | inserted who id' | moved who id' source target => exact ih h
    | sent who id' =>
      by_cases hid : id' = id
      · have hnone : log.filter (Entry.sends id) = [] := by
          refine List.filter_eq_nil_iff.mpr fun e he hsends => ?_
          cases e with
          | sent who' id'' answer' =>
            have hid'' : id'' = id := by simpa [Entry.sends] using hsends
            exact h.1.2 ⟨who', answer', by rw [hid, ← hid'']; exact he⟩
          | inserted who' id'' | moved who' id'' source target => cases hsends
        rw [List.filter_cons_of_pos (by simpa [Entry.sends] using hid), hnone]
        exact Nat.le_refl 1
      · rw [List.filter_cons_of_neg (by simpa [Entry.sends] using hid)]
        exact ih h.2

section

variable {R : Interface} (port : RiskPort R) (side : RiskSide R) (scope : RuntimeScope)

/-- The discipline for the calls of all coordinators. -/
def fenceProtocol : Protocol (runtimeSystem side scope port) (Option String) where
  toDiscipline := fenceDiscipline R
  dead := none
  home _ _ := True
  home_next _ _ _ := trivial

/-- Every step of the system keeps the invariant. -/
lemma fenceInv_maintained : Maintained (fenceProtocol port side scope) (fun _ _ => True)
    FenceInv where
  start := by
    intro c fenced job w' site program hinv _ _ hstart
    obtain ⟨⟨_, rfl⟩, -, rfl⟩ := beginJob_frame hstart
    exact ⟨none, trivial, fenceDiscipline_job port scope job.2,
      (hinv.forget _).of_frame rfl fun _ hid => hid⟩
  run hinv _ _ _ hpre hexec := hinv.step hpre hexec
  forget who hinv := hinv.forget who
  leave who site hinv := hinv.of_frame rfl fun _ hid => hid
  event := by
    intro c fenced e w' hinv _ _ hevent
    cases e <;> obtain rfl := Option.some.inj hevent <;> exact hinv.of_frame rfl fun _ hid => hid

/-- No step of the system takes a mutation back. -/
lemma dispatched_maintained (id : String) : Maintained (fenceProtocol port side scope)
    (fun _ _ => True) (fun w _ => Dispatched w.db id) where
  start := by
    intro c fenced job w' site program hinv _ _ hstart
    obtain ⟨⟨_, rfl⟩, -, rfl⟩ := beginJob_frame hstart
    exact ⟨none, trivial, fenceDiscipline_job port scope job.2, hinv⟩
  run hinv _ _ _ hpre hexec := hinv.step hpre hexec
  forget _ hinv := hinv
  leave _ _ hinv := hinv
  event := by
    intro c fenced e w' hinv _ _ hevent
    cases e <;> obtain rfl := Option.some.inj hevent <;> exact hinv

/-- **A command is sent at most once.** In every run of any number of coordinators, calls and
crashes, a request is sent at most once; whoever sends it has moved its journal row from
`NOT_DISPATCHED` to `UNKNOWN_AFTER_DISPATCH` before; and a row that has left `NOT_DISPATCHED`
never returns to it.

**Proof sketch.** `FenceInv` holds along every run: a call that waits to send a request has fenced
it, alone, and nobody has sent it. The fence is a compare and set on a row that is never moved
back, so a second call cannot fence the request once it is fenced or sent. -/
theorem dispatch_at_most_once {c₀ c : (runtimeSystem side scope port).Config}
    (hthreads : c₀.threads = []) (hlog : c₀.state.log = [])
    (hreach : Reach (fun _ _ => True) c₀ c) (id : String) :
    (c.state.log.filter (Entry.sends id)).length ≤ 1 ∧
    (∀ who answer later earlier, c.state.log = later ++ .sent who id answer :: earlier →
      .moved who id .notDispatched .unknownAfterDispatch ∈ earlier) ∧
    ∀ c', Reach (fun _ _ => True) c c' → Dispatched c.state.db id →
      Dispatched c'.state.db id := by
  have hlinked : Linked (fenceProtocol port side scope) c₀ fun _ => none := .of_nil hthreads
  have hinit : FenceInv c₀.state fun _ => none := by
    refine ⟨hlog ▸ trivial, ?_, nofun, nofun⟩
    rintro id ⟨who, answer, hmem⟩
    rw [hlog] at hmem
    cases hmem
  obtain ⟨fenced, hlinked', hinv⟩ := (fenceInv_maintained port side scope).reach
    hlinked hinit hreach
  refine ⟨hinv.ordered.length_sends id, fun who answer later earlier hsplit =>
    (hinv.ordered.split hsplit).1, fun c' hreach' hdispatched => ?_⟩
  obtain ⟨_, _, hdispatched'⟩ :=
    (dispatched_maintained port side scope id).reach hlinked' hdispatched hreach'
  exact hdispatched'

end

/-! ## A run -/

/-- A risk port without operations of its own, which approves every command. -/
def approvingPort : RiskPort ⟨Empty, Empty.elim⟩ where
  admitCommand _ _ _ := return ⟨"decision-1", some "reservation-1", 1, .lit 10⟩
  validateBeforeDispatch _ _ _ _ := return ()
  recordDispatchOutcome _ _ := return ()
  reconcile _ := return ()

/-- Nothing is behind it. -/
def approvingSide : RiskSide ⟨Empty, Empty.elim⟩ where
  State := Unit
  Choice := Unit
  exec op := op.elim
  leave _ _ state := state
  detached op := op.elim

/-- A sandbox account. -/
def fixtureScope : RuntimeScope := ⟨.tInvest, .sandbox, "account-1"⟩

/-- Buy ten lots. -/
def buyTenLots : RuntimeExecutionCommand :=
  .regularOrder ⟨"account-1", "instrument-1", "request-1", .lit 10, none, .settlementCurrency, .buy,
    .market, none, false⟩

/-- A coordinator that is ready in its first epoch. -/
def readyInstance : Instance :=
  { Instance.new with started := true, epoch := 1, connected := true, state := .ready }

/-- The database of its scope. -/
def readyDb : RuntimeDb :=
  { RuntimeDb.empty with
    instances := [⟨fixtureScope.key, 1, "owner-1", true, .ready, .reconciliationComplete⟩]
    instanceKeys := List.nodup_singleton _ }

/-- An outside that answers every question, with an account without positions or orders. -/
def plainAnswer : (question : External) → question.Res
  | .now => some (.lit 1000)
  | .freshId => "fresh-1"
  | .resolveCredentials => .ok true
  | .authorizeExecution _ => .ok ()
  | .connectStreams _ => .ok requiredStreams
  | .disconnectStreams => ()
  | .nextSignal => none
  | .accounts => .ok [⟨"account-1", true, true⟩]
  | .portfolio => .ok ⟨"account-1", none⟩
  | .positions => .ok []
  | .stopOrders _ => .ok []
  | .orderState _ _ => .ok none
  | .operationsPage _ _ => .ok ⟨[], none⟩

/-- The broker acknowledges the request. -/
def acknowledgement : Except BrokerPortError ExecutionResult :=
  .ok (.acknowledged "order accepted" ⟨"request-1", some "broker-1", none, none, [], []⟩)

/-- Nothing fails, and the broker acknowledges. -/
def plainChoice {RiskChoice : Type} (risk : RiskChoice) : Choice RiskChoice :=
  ⟨plainAnswer, false, none, none, acknowledgement, none, risk⟩

/-- The coordinator, before any call. -/
def readyConfig : (runtimeSystem approvingSide fixtureScope approvingPort).Config :=
  ⟨⟨readyDb, [readyInstance], (), [], [], []⟩, []⟩

/-- One call buys ten lots from beginning to end. -/
def oneDispatch : List (runtimeSystem approvingSide fixtureScope approvingPort).Label :=
  .start (0, .dispatch .sandboxMutation buyTenLots "request-1" "correlation-1") ::
    List.replicate 19 (.run 0 (plainChoice ()))

/-- In this run the request is sent, so once, and after its fence. -/
theorem one_dispatch_sends_once :
    ∃ c, readyConfig.run oneDispatch = some c ∧ WasSent c.state.log "request-1" ∧
      (c.state.log.filter (Entry.sends "request-1")).length ≤ 1 ∧
      Entry.moved 0 "request-1" .notDispatched .unknownAfterDispatch ∈ c.state.log := by
  obtain ⟨c, hrun, hlog⟩ : ∃ c, readyConfig.run oneDispatch = some c ∧ c.state.log =
      [.moved 0 "request-1" .unknownAfterDispatch .acknowledged, .sent 0 "request-1" .acknowledged,
        .moved 0 "request-1" .notDispatched .unknownAfterDispatch, .inserted 0 "request-1"] := by
    decide +kernel
  obtain ⟨honce, hfence, -⟩ := dispatch_at_most_once approvingPort approvingSide fixtureScope rfl
    rfl (Config.reach_of_run hrun) "request-1"
  refine ⟨c, hrun, ⟨0, .acknowledged, by rw [hlog]; decide⟩, honce, ?_⟩
  have hmoved := hfence 0 .acknowledged
    [.moved 0 "request-1" .unknownAfterDispatch .acknowledged] _ hlog
  rw [hlog]
  exact List.mem_cons_of_mem _ (List.mem_cons_of_mem _ hmoved)

end VoxTrader.Runtime
