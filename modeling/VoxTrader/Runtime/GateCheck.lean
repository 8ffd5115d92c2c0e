import VoxTrader.Runtime.History

/-!
# What a passed gate check is worth later

A dispatch looks at the state and at the three flags of its coordinator one after the other, and
acts on what it saw much later. What it saw still holds unless somebody has closed the gate since it
read the state.

## Main definitions

* `Volatile.closes` — operations that close the gate.
* `closedSince` — somebody has closed the gate since a process read the state.
* `Instance.meets` — the first conditions of the gate hold.

## Main results

* `gate_meets` — what a process has seen of the gate still holds, unless it was closed since.
-/

namespace VoxTrader.Runtime

/-- The operation closes the gate. -/
def Volatile.closes : (op : Volatile) → op.Res → Bool
  | moveState target, (result : Except TransitionError RuntimeState) =>
    result.toBool && target ≠ .ready
  | storeConnected value, _ => !value
  | storeDirty value, _ => value
  | storeRunning value, _ => value
  | casRunning, (claimed : Bool) => claimed
  | _, _ => false

/-- The first `n` conditions of the gate, in the order in which they are looked at. -/
structure Instance.meets (n : ℕ) (i : Instance) : Prop where
  ready : 1 ≤ n → i.state = .ready
  connected : 2 ≤ n → i.connected = true
  clean : 3 ≤ n → i.dirty = false
  idle : 4 ≤ n → i.running = false

namespace Instance.meets

variable {i i' : Instance} {m n : ℕ}

lemma zero : i.meets 0 :=
  ⟨fun h => by omega, fun h => by omega, fun h => by omega, fun h => by omega⟩

/-- Fewer conditions. -/
lemma mono (h : i.meets n) (hmn : m ≤ n) : i.meets m :=
  ⟨fun hm => h.ready (by omega), fun hm => h.connected (by omega), fun hm => h.clean (by omega),
    fun hm => h.idle (by omega)⟩

/-- All four. -/
lemma gateOpen (h : i.meets 4) : i.gateOpen :=
  ⟨h.ready (by omega), h.connected (by omega), h.clean (by omega), h.idle (by omega)⟩

/-- Two coordinators that differ in locks, slots and tasks at most. -/
lemma congr (h : i.meets n) (hs : i'.state = i.state) (hc : i'.connected = i.connected)
    (hd : i'.dirty = i.dirty) (hr : i'.running = i.running) : i'.meets n :=
  ⟨fun hn => hs.trans (h.ready hn), fun hn => hc.trans (h.connected hn),
    fun hn => hd.trans (h.clean hn), fun hn => hr.trans (h.idle hn)⟩

/-- An operation that does not close the gate keeps what holds of it. -/
lemma exec {who : ℕ} {giveUp : Bool} {op : Volatile} {r : op.Res} (h : i.meets n)
    (hexec : op.exec who giveUp i = some (i', r)) (hop : op.closes r = false) : i'.meets n := by
  obtain rfl := Volatile.exec_memory hexec
  cases op with
  | storeConnected value =>
    have hvalue : value = true := by simpa [Volatile.closes] using hop
    exact ⟨h.ready, fun _ => hvalue, h.clean, h.idle⟩
  | storeDirty => exact ⟨h.ready, h.connected, fun _ => hop, h.idle⟩
  | storeRunning => exact ⟨h.ready, h.connected, h.clean, fun _ => hop⟩
  | casRunning =>
    cases hexec
    have hrunning : i.running = true := by simpa [Volatile.closes] using hop
    exact ⟨h.ready, h.connected, h.clean, fun hn => hrunning ▸ h.idle hn⟩
  | moveState target =>
    rcases r with e | source
    · exact h
    · have htarget : target = .ready := by
        by_contra hne
        exact absurd hop (by simp [Volatile.closes, Except.toBool, hne])
      exact ⟨fun _ => htarget, h.connected, h.clean, h.idle⟩
  | _ => exact h.congr rfl rfl rfl rfl

end Instance.meets

section

variable {R : Interface} {side : RiskSide R} {scope : RuntimeScope} {port : RiskPort R}

/-- What was performed is a process reading the state. -/
def readsState (who : ℕ) (e : (runtimeSystem side scope port).Performed) : Bool :=
  match e.op with
  | .inl (.inl (.inl (.volatile .readState))) => e.who = who
  | _ => false

/-- What was performed closed the gate of coordinator `k`. -/
def closesGate (k : ℕ) : (runtimeSystem side scope port).Performed → Bool
  | ⟨_, site, .inl (.inl (.inl (.volatile op))), r⟩ => site.coordinator = k && op.closes r
  | _ => false

/-- Somebody has closed the gate of coordinator `k` since a process read the state. -/
def closedSince (who k : ℕ) (trace : List (runtimeSystem side scope port).Performed) : Bool :=
  (trace.takeWhile fun e => !readsState who e).any (closesGate k)

variable {who k : ℕ} {e : (runtimeSystem side scope port).Performed}
  {trace : List (runtimeSystem side scope port).Performed}

lemma closedSince_cons : closedSince who k (e :: trace) =
    (!readsState who e && (closesGate k e || closedSince who k trace)) := by
  unfold closedSince
  cases hread : readsState who e with
  | true | false => simp [hread]

/-! ## What a process has seen -/

variable {op : (full R).Op} {r : (full R).Res op} {giveUp : Bool} {i i' : Instance} {a : Activity}
  {site : Site} {n : ℕ} {c : (Timeline side scope port).Config}

/-- What a process sees when it reads the state. -/
lemma readState_meets {r : Volatile.readState.Res}
    (hexec : Volatile.readState.exec who giveUp i = some (i', r)) :
    i'.meets (Volatile.readState.after r a).gate := by
  simp only [Volatile.exec] at hexec
  split_ifs at hexec
  cases hexec
  change i.meets (if i.state = .ready then 1 else 0)
  split_ifs with hready
  · exact ⟨fun _ => hready, fun hn => by omega, fun hn => by omega, fun hn => by omega⟩
  · exact .zero

/-- What a process sees of the memory it looks at. -/
lemma Volatile.after_meets {op : Volatile} {r : op.Res}
    (hexec : op.exec who giveUp i = some (i', r)) (hop : op.closes r = false) (h : i.meets a.gate) :
    i'.meets (op.after r a).gate := by
  cases op with
  | readState => exact readState_meets hexec
  | loadConnected =>
    cases hexec
    change i.meets (if i.connected = true ∧ a.gate = 1 then 2 else 0)
    split_ifs with hconnected
    · exact ⟨fun _ => h.ready (by omega), fun _ => hconnected.1, fun hn => by omega,
        fun hn => by omega⟩
    · exact .zero
  | loadDirty =>
    cases hexec
    change i.meets (if ¬ i.dirty = true ∧ a.gate = 2 then 3 else 0)
    split_ifs with hclean
    · exact ⟨fun _ => h.ready (by omega), fun _ => h.connected (by omega),
        fun _ => Bool.eq_false_of_not_eq_true hclean.1, fun hn => by omega⟩
    · exact .zero
  | loadRunning =>
    cases hexec
    change i.meets (if ¬ i.running = true ∧ a.gate = 3 then 4 else 0)
    split_ifs with hidle
    · exact ⟨fun _ => h.ready (by omega), fun _ => h.connected (by omega),
        fun _ => h.clean (by omega), fun _ => Bool.eq_false_of_not_eq_true hidle.1⟩
    · exact .zero
  | spawn task => cases task <;> exact h.exec hexec hop
  | _ => exact h.exec hexec hop

/-- What a process has seen of the gate still holds, or somebody has closed the gate since. -/
private def Seen (c : (Timeline side scope port).Config) : Prop :=
  ∀ (who : ℕ) (site : Site) (program : Process (full R) Unit) (i : Instance),
    c.threads[who]? = some (site, program) →
    c.state.state.coordinators[site.coordinator]? = some i →
    closedSince who site.coordinator c.state.trace = true ∨
      i.meets (activityAt who site c.state.trace).gate

/-- What holds of the gate still holds after an operation, or that has closed the gate. -/
lemma seen_effect {other : ℕ}
    (heffect : site.coordinator = k ∧ Effect who giveUp op r i i' ∨ site.coordinator ≠ k ∧ i' = i)
    (hread : readsState other (⟨who, site, op, r⟩ : (runtimeSystem side scope port).Performed) =
      false) (h : closedSince other k trace = true ∨ i.meets n) :
    closedSince other k (⟨who, site, op, r⟩ :: trace) = true ∨ i'.meets n := by
  rw [closedSince_cons, hread]
  rcases h with hclosed | hmeets
  · exact .inl (by simp [hclosed])
  rcases heffect with ⟨hk, _ | _⟩ | ⟨-, rfl⟩
  · rename_i op' r hexec
    cases hcloses : op'.closes r with
    | true => exact .inl (by simp [closesGate, hk, hcloses])
    | false => exact .inr (hmeets.exec hexec hcloses)
  all_goals exact .inr hmeets

/-- An operation keeps what its own process has seen. -/
lemma seen_self (heffect : Effect who giveUp op r i i')
    (h : closedSince who site.coordinator trace = true ∨ i.meets (activityAt who site trace).gate) :
    closedSince who site.coordinator (⟨who, site, op, r⟩ :: trace) = true ∨
      i'.meets (activityAt who site (⟨who, site, op, r⟩ :: trace)).gate := by
  rw [activityAt_self]
  by_cases hread : readsState who (⟨who, site, op, r⟩ : (runtimeSystem side scope port).Performed) =
    true
  · -- it reads the state: from here on it counts what it sees
    unfold readsState at hread
    split at hread
    · rename_i hop
      subst hop
      cases heffect with
      | nothing hop => exact absurd rfl (hop _)
      | memory hexec => exact .inr (readState_meets hexec)
    · cases hread
  · rw [Bool.not_eq_true] at hread
    have hkept := seen_effect (.inl ⟨rfl, heffect⟩) hread h
    cases heffect with
    | nothing hop => exact hkept.imp_right fun hmeets => hmeets.mono (activity_beside hop).gate
    | @memory op r i i' hexec =>
      rcases h with hclosed | hmeets
      · exact .inl (by rw [closedSince_cons, hread, hclosed]; simp)
      cases hcloses : op.closes r with
      | true => exact .inl (by rw [closedSince_cons, hread]; simp [closesGate, hcloses])
      | false => exact .inr (Volatile.after_meets hexec hcloses hmeets)

/-- **What processes have seen, step by step.** -/
private lemma Seen.kept {c' : (Timeline side scope port).Config}
    {label : (Timeline side scope port).Label} (horderly : Orderly c) (h : Seen c)
    (hstep : System.TracedStep c label c') : Seen c' := by
  intro other site' program i' hother hi'
  have hthread := thread_before hstep hother
  cases hstep with
  | @start job state site program hstart =>
    obtain ⟨i, hi, hsame⟩ := coordinators_start hstart hi'
    rcases hthread with ⟨before, hbefore⟩ | ⟨rfl, -⟩
    · refine (h other site' before i hbefore hi).imp_right fun hmeets => ?_
      rw [hsame]
      exact hmeets.congr rfl rfl rfl rfl
    · -- a new process has seen nothing
      right
      rw [activityAt_of_idle (horderly.disciplined.idle le_rfl)]
      cases site'.job with
      | task task => cases task <;> exact .zero
      | _ => exact .zero
  | @run who choice site op next state r hrun hexec =>
    obtain ⟨before, hbefore⟩ : ∃ before, c.threads[other]? = some (site', before) := by
      rcases hthread with hbefore | ⟨-, _, hlabel, -⟩
      · exact hbefore
      · cases hlabel
    obtain ⟨i, hi, heffect⟩ := coordinators_run hexec hi'
    have hseen := h other site' before i hbefore hi
    by_cases hwho : who = other
    · subst hwho
      cases hrun.symm.trans hbefore
      rcases heffect with ⟨-, heffect⟩ | ⟨hne, -⟩
      · exact seen_self heffect hseen
      · exact absurd rfl hne
    · have hread : readsState other
          (⟨who, site, op, r⟩ : (runtimeSystem side scope port).Performed) = false := by
        unfold readsState
        split
        · exact decide_eq_false hwho
        · rfl
      rw [activityAt_of_ne hwho]
      exact seen_effect heffect hread hseen
  | kill hbefore | abandon hbefore _ =>
    rcases hthread with ⟨before, hbefore⟩ | ⟨-, _, hlabel, -⟩
    · obtain ⟨i, hi, rfl | ⟨-, rfl⟩⟩ := coordinators_leave hi'
      · exact h other site' before i' hbefore hi
      · exact (h other site' before i hbefore hi).imp_right fun hmeets =>
          hmeets.congr rfl rfl rfl rfl
    · cases hlabel
  | event hevent =>
    rcases coordinators_event hevent hi' with hi | ⟨hlen, -⟩
    · exact h other site' program i' hother hi
    · exact absurd (horderly.housed other site' program hother) (by omega)

/-- **What a process has seen of the gate still holds**, unless somebody has closed the gate since
it read the state. -/
theorem gate_meets (hport : port.Quiet) {c₀ : (Timeline side scope port).Config}
    (hthreads : c₀.threads = []) (htrace : c₀.state.trace = [])
    (hreach : System.Reach (fun _ _ => True) c₀ c) {program : Process (full R) Unit}
    (hthread : c.threads[who]? = some (site, program))
    (hi : c.state.state.coordinators[site.coordinator]? = some i)
    (hopen : closedSince who site.coordinator c.state.trace = false) :
    Orderly c ∧ i.meets (activityAt who site c.state.trace).gate := by
  have hinit : Seen c₀ := by
    intro who site program i hthread
    rw [hthreads] at hthread
    cases hthread
  obtain ⟨horderly, hseen⟩ := timeline_reach hport
    (fun horderly h _ hstep => Seen.kept horderly h hstep) (.of_nil hthreads htrace) hinit hreach
  refine ⟨horderly, (hseen who site program i hthread hi).resolve_left ?_⟩
  rw [hopen]
  exact Bool.false_ne_true

end

end VoxTrader.Runtime
