import VoxTrader.Runtime.OneCoordinator

/-!
# The end of the stream worker

A coordinator hears of changes at the broker through its stream worker, which ends at the first
signal it fails to handle and is never started again. Some of these failures leave the streams
marked as connected, and then a coordinator that hears of nothing can have an open gate.

Only two kinds of processes mark the streams as connected: the start, before it hands the streams to
the worker, and the worker. A coordinator starts once, so there is one of them at most. A worker
that ends with the streams marked as not connected leaves a gate that stays closed, whatever is
reconciled later; so does one that ends while a refresh is claimed that nobody will carry out.

## Main definitions

* `Single` — at most one process can mark the streams as connected.
* `Cut` — the gate is closed for good, once the worker has ended.
* `workerEndsCut` — a step that ends a worker does so in such a state.

## Main results

* `one_stream_worker` — a coordinator never gets a second worker.
* `stream_worker_ends_closed` — if workers end cut off only, the gate stays closed after them.
* `stream_worker_dies_behind_open_gate` — a failed store call ends a worker behind an open gate.
-/

namespace VoxTrader.Runtime

open System

open Option (pair_inj)
open Bool (not_eq_true' false_ne_true and_eq_true)

/-! ## Who connects the streams -/

/-- Those who may mark the streams as connected, now or later. -/
def Role.connects : Role → Bool
  | starter | acquired _ | owner | worker => true
  | refreshing role _ => role.connects
  | _ => false

lemma Role.connects_settle {role : Role} {target : RuntimeState} :
    (role.settle target).connects = role.connects := by cases role <;> rfl

variable {R : Interface}

/-- At most one process of a coordinator can mark its streams as connected, counting the worker that
is spawned and has not begun; there is none before the start. -/
abbrev Single (v : View R) : Prop := Exclusive Role.connects .streamWorker (·.started) v

/-- Workers stay what they are. -/
def WorkersFollow (v : View R) : Prop :=
  ∀ ⦃who m signals⦄, v.members who = some m → m.job = .task .streamWorker signals →
    m.activity.role = .worker ∨ ∃ moved, m.activity.role = .refreshing .worker moved

/-- A worker stays a worker. -/
lemma turn_worker {op : (full R).Op} {r : (full R).Res op} {role role' : Role}
    (h : Turn op r role role')
    (hrole : role = .worker ∨ ∃ moved, role = .refreshing .worker moved) :
    role' = .worker ∨ ∃ moved, role' = .refreshing .worker moved := by
  rcases hrole with rfl | ⟨moved, rfl⟩
  · cases h with
    | claim => exact .inr ⟨false, rfl⟩
    | settle _ _ | stay _ | beside _ => exact .inl rfl
  · cases h with
    | claim hasks => cases hasks
    | spawnLoop => exact .inl rfl
    | settle _ _ | stay _ | beside _ => exact .inr ⟨_, rfl⟩

variable {action : Action R}

lemma WorkersFollow.kept {v v' : View R} (h : WorkersFollow v)
    (hstep : v.Step action v') : WorkersFollow v' := by
  rcases action.idle_or_perform with haction | ⟨deed, rfl⟩
  · intro who m signals hm hjob
    rcases (hstep.idles haction).2.2 hm with ⟨-, hfirst⟩ | ⟨m₀, hm₀, hjob₀, hsame, -⟩
    · rw [hfirst, hjob]
      exact .inl rfl
    · exact hsame ▸ h hm₀ (hjob₀ ▸ hjob)
  · obtain ⟨m₀, giveUp, hm₀, -, hpre, -, -, hmembers⟩ := hstep.performed
    intro who m signals hm hjob
    rcases hmembers hm with ⟨rfl, hjob₀, hnext⟩ | ⟨-, hm⟩
    · exact hnext ▸ turn_worker (turn_of_pre hpre) (h hm₀ (hjob₀ ▸ hjob))
    · exact h hm hjob

namespace Single

variable {v v' : View R} {action : Action R}

/-- A job that can connect the streams when it begins is a worker. -/
lemma firstActivity_connects {job : Job} (h : (firstActivity job).role.connects = true) :
    ∃ signals, job = .task .streamWorker signals := by
  cases job with
  | task task passes =>
    cases task with
    | streamWorker => exact ⟨passes, rfl⟩
    | coalescedReconciliation => cases h
  | _ => cases h

/-- What an operation does to who can connect the streams. -/
private lemma passes {who : ℕ} {giveUp : Bool} {op : (full R).Op} {r : (full R).Res op}
    {role role' : Role} {i i' : Instance} (hturn : Turn op r role role')
    (heffect : Effect who giveUp op r i i') :
    Passes Role.connects .streamWorker (·.started) role role' i i' := by
  cases hturn with
  | startFirst =>
    obtain ⟨rfl, hfirst⟩ := pair_inj heffect.exec
    exact .take ((not_eq_true' _).mp hfirst) le_rfl rfl
  | startAgain =>
    obtain ⟨rfl, hagain⟩ := pair_inj heffect.exec
    exact .keep nofun le_rfl ((Bool.not_eq_false' _).mp hagain).symm
  | acquire hop =>
    obtain rfl := heffect.eq hop
    exact .keep (fun _ => rfl) le_rfl rfl
  | publish =>
    cases heffect.exec
    exact .keep (fun _ => rfl) le_rfl rfl
  | handOver =>
    -- the worker takes the place of the start
    cases heffect.exec
    exact .hand rfl nofun List.count_append.le rfl
  | claim =>
    obtain ⟨rfl, -⟩ := pair_inj heffect.exec
    refine .keep (fun hconnects => ?_) le_rfl rfl
    cases role with
    | released => cases hconnects
    | _ => exact hconnects
  | spawnLoop =>
    cases heffect.exec
    exact .keep id List.count_append.le rfl
  | release =>
    cases heffect.exec
    exact .keep nofun le_rfl rfl
  | settle hresult =>
    obtain rfl := exec_moveState hresult heffect.exec
    exact .keep (Role.connects_settle ▸ ·) le_rfl rfl
  | stay hop =>
    obtain ⟨hstarted, -, hspawned⟩ := exec_stay hop heffect.exec
    exact .keep id (hspawned _) hstarted
  | beside hop =>
    obtain rfl := heffect.eq hop
    exact .keep id le_rfl rfl

/-- **At most one process can connect the streams, step by step.** -/
lemma kept (h : Single v) (hstep : v.Step action v') : Single v' := by
  rcases action.idle_or_perform with haction | ⟨deed, rfl⟩
  · exact h.idle_kept firstActivity_connects Instance.Idles.started hstep haction
  · exact h.perform_kept hstep fun _ => passes

end Single

/-! ## Closed for good -/

/-- The operation can undo what keeps the gate closed. -/
def reopens : (full R).Op → Bool
  | .inl (.inl (.inl (.volatile (.storeConnected value)))) => value
  | .inl (.inl (.inl (.volatile (.spawn .coalescedReconciliation)))) => true
  | _ => false

/-- The gate is closed for good once process `who` has ended: the streams are marked as not
connected, or a refresh is claimed that nobody else carries out. -/
def Cut (v : View R) (who : ℕ) : Prop :=
  v.memory.connected = false ∨
    v.memory.running = true ∧ v.memory.spawned.count .coalescedReconciliation = 0 ∧
      ∀ {other m}, v.members other = some m → m.live = true → m.activity.role.claims = true →
        other = who

namespace Cut

variable {v v' : View R} {who : ℕ}

/-- The gate is closed. -/
lemma closed (h : Cut v who) : ¬ v.memory.gateOpen := by
  rintro ⟨-, hconnected, -, hrunning⟩
  rcases h with hcut | ⟨hclaimed, -⟩
  · exact absurd (hcut.symm.trans hconnected) false_ne_true
  · exact absurd (hrunning.symm.trans hclaimed) false_ne_true

/-- Nothing is performed. -/
private lemma idle_kept (h : Cut v who) (hstep : v.Step action v')
    (haction : action.deed = none) : Cut v' who := by
  obtain ⟨hidles, -, hmembers⟩ := hstep.idles haction
  rcases h with hcut | ⟨hrunning, hspawned, hclaims⟩
  · exact .inl (hidles.connected.trans hcut)
  · refine .inr ⟨hidles.running.trans hrunning, Nat.le_zero.mp ((hidles.spawned _).trans
      hspawned.le), fun {other m} hm hlive hrole => ?_⟩
    rcases hmembers hm with ⟨rfl, hfirst⟩ | ⟨m₀, hm₀, -, hsame, halive⟩
    · -- only the loop begins with the claim, and it is not spawned
      obtain ⟨passes, hjob⟩ := firstActivity_claims (hfirst ▸ hrole)
      rw [hjob] at hstep
      exact absurd hstep.begun.1 (List.count_eq_zero.mp hspawned)
    · exact hclaims hm₀ (halive hlive) (hsame ▸ hrole)

/-- A process performs an operation; the worker itself does not undo what it leaves. -/
private lemma perform_kept (h : Cut v who) (hsingle : Single v) (hfollow : WorkersFollow v)
    {worker : Member} {signals : ℕ} (hworker : v.members who = some worker)
    (hjob : worker.job = .task .streamWorker signals) {deed : Deed R}
    (hstep : v.Step (.perform deed) v') (hself : deed.who = who → reopens deed.op = false) :
    Cut v' who := by
  obtain ⟨m, giveUp, hm, hlive, hpre, heffect, -, hmembers⟩ := hstep.performed
  obtain ⟨deedWho, op, r⟩ := deed
  obtain ⟨memory, members, history⟩ := v'
  have hconnects : worker.activity.role.connects = true := by
    rcases hfollow hworker hjob with hrole | ⟨moved, hrole⟩ <;> rw [hrole] <;> rfl
  rcases h with hcut | ⟨hrunning, hspawned, hclaims⟩
  · left
    rcases volatile_or_beside op with ⟨op, rfl⟩ | hother
    · by_cases hstore : ∃ value, op = .storeConnected value
      · obtain ⟨value, rfl⟩ := hstore
        cases heffect.exec
        cases value with
        | false => rfl
        | true =>
          have hrole : m.activity.role.connects = true := by
            rcases hpre rfl with hrole | hrole <;> rw [hrole] <;> rfl
          cases hself (hsingle.unique hm hrole hworker hconnects)
      · exact (exec_connected (fun value h => hstore ⟨value, h⟩) heffect.exec).trans hcut
    · rw [heffect.eq hother]
      exact hcut
  · right
    have hnone : m.activity.role.claims = true → deedWho = who := hclaims hm hlive
    have hkept : (((activityDiscipline R).next op r m.activity).role.claims = true →
        m.activity.role.claims = true) → memory.running = v.memory.running →
        memory.spawned.count .coalescedReconciliation ≤
          v.memory.spawned.count .coalescedReconciliation →
        memory.running = true ∧ memory.spawned.count .coalescedReconciliation = 0 ∧
          ∀ {other m'}, members other = some m' → m'.live = true →
            m'.activity.role.claims = true → other = who := by
      intro hrole hsame hcount
      refine ⟨hsame.trans hrunning, Nat.le_zero.mp (hcount.trans hspawned.le), ?_⟩
      intro other m' hm' hlive' hclaim
      rcases hmembers hm' with ⟨rfl, -, hnext⟩ | ⟨-, hm'⟩
      · exact hnone (hrole (hnext ▸ hclaim))
      · exact hclaims hm' hlive' hclaim
    have hturn := turn_of_pre (r := r) hpre
    generalize hrole : m.activity.role = role at hturn hkept hnone
    generalize ((activityDiscipline R).next op r m.activity).role = role' at hturn hkept
    cases hturn with
    | startFirst | startAgain | publish =>
      obtain ⟨rfl, -⟩ := pair_inj heffect.exec
      exact hkept (nofun) rfl le_rfl
    | handOver =>
      cases heffect.exec
      refine hkept (nofun) rfl ?_
      rw [List.count_append]
      exact le_rfl
    | acquire hop =>
      obtain rfl := heffect.eq hop
      exact hkept (nofun) rfl le_rfl
    | claim =>
      -- the refresh is claimed already
      obtain ⟨-, hclaimed⟩ := pair_inj heffect.exec
      exact absurd (((not_eq_true' _).mp hclaimed).symm.trans hrunning) false_ne_true
    | spawnLoop => cases hself (hnone rfl)
    | release =>
      -- the worker is not the loop
      obtain rfl := hnone rfl
      cases hm.symm.trans hworker
      rcases hfollow hm hjob with hworks | ⟨_, hworks⟩ <;> cases hrole.symm.trans hworks
    | settle hresult _ =>
      obtain rfl := exec_moveState hresult heffect.exec
      refine hkept (fun hclaim => ?_) rfl le_rfl
      rw [← Role.claims_settle]
      exact hclaim
    | stay hop =>
      obtain ⟨-, hsame, hcount⟩ := exec_stay hop heffect.exec
      exact hkept id hsame (hcount _)
    | beside hop =>
      obtain rfl := heffect.eq hop
      exact hkept id rfl le_rfl

/-- **What is closed for good stays closed**, unless the worker itself undoes it. -/
lemma kept (h : Cut v who) (hsingle : Single v) (hfollow : WorkersFollow v)
    (hstep : v.Step action v')
    (hworker : ∀ deed, action = .perform deed → ∃ worker signals, v.members who = some worker ∧
      worker.job = .task .streamWorker signals)
    (hself : ∀ deed, action = .perform deed → deed.who = who → reopens deed.op = false) :
    Cut v' who := by
  rcases action.idle_or_perform with haction | ⟨deed, rfl⟩
  · exact h.idle_kept hstep haction
  · obtain ⟨worker, signals, hwho, hjob⟩ := hworker deed rfl
    exact h.perform_kept hsingle hfollow hwho hjob hstep (hself deed rfl)

end Cut

/-! ## Workers that end cut off -/

/-- The job follows the streams. -/
def Job.isWorker : Job → Bool
  | task .streamWorker _ => true
  | _ => false

/-- The job shuts its coordinator down. -/
def Job.isShutdown : Job → Bool
  | shutdown => true
  | _ => false

section

variable {side : RiskSide R} {scope : RuntimeScope} {port : RiskPort R}

/-- The coordinator whose stream worker `who` was, if that is over. -/
def endedWorker (c : (Timeline side scope port).Config) (who : ℕ) : Option ℕ :=
  match c.threads[who]? with
  | some (site, program) =>
    if (Site.job site).isWorker && !program.live then some (Site.coordinator site) else none
  | none => none

/-- A shutdown of coordinator `k` has begun. -/
def shutdownBegun (k : ℕ) (c : (Timeline side scope port).Config) : Bool :=
  c.threads.any fun thread =>
    decide (Site.coordinator thread.1 = k) && (Site.job thread.1).isShutdown

/-- Coordinator `k` is cut off once process `who` has ended: its streams are marked as not
connected, or its refresh is claimed by nobody else who goes on. -/
def cutOff (k who : ℕ) (c : (Timeline side scope port).Config) : Bool :=
  c.state.state.coordinators[k]?.any fun i =>
    !i.connected || (i.running && i.spawned.count .coalescedReconciliation == 0 &&
      (List.range c.threads.length).all fun other =>
        other = who || (memberAt k c other).all fun m => !(m.live && m.activity.role.claims))

/-- Whose step it is. -/
def subject (c : (Timeline side scope port).Config) : (Timeline side scope port).Label → Option ℕ
  | .start _ => some c.threads.length
  | .run who _ | .kill who | .abandon who => some who
  | .event _ => none

/-- The step can undo what keeps a gate closed. -/
def reopensNext (c : (Timeline side scope port).Config) : (Timeline side scope port).Label → Bool
  | .run who _ =>
    match c.threads[who]? with
    | some (_, .call op _) => reopens op
    | _ => false
  | _ => false

/-- **Workers end cut off**: a step that ends a stream worker is taken during a shutdown, or when
its coordinator is cut off. -/
def workerEndsCut (c : (Timeline side scope port).Config)
    (label : (Timeline side scope port).Label) : Bool :=
  match c.step label, subject c label with
  | some c', some who =>
    (endedWorker c' who).all fun k => (endedWorker c who).isSome || shutdownBegun k c ||
      (!reopensNext c label && cutOff k who c)
  | _, _ => true

variable {k who : ℕ} {c c' : (Timeline side scope port).Config} {v v' : View R}

lemma Job.isWorker_iff {job : Job} : job.isWorker = true ↔ ∃ n, job = .task .streamWorker n := by
  constructor
  · intro h
    cases job with
    | task task passes =>
      cases task with
      | streamWorker => exact ⟨passes, rfl⟩
      | coalescedReconciliation => cases h
    | _ => cases h
  · rintro ⟨n, rfl⟩
    rfl

/-- A worker that is over, in the view of its coordinator. -/
lemma endedWorker_of_member {m : Member} {signals : ℕ} (hm : memberAt k c who = some m)
    (hjob : m.job = .task .streamWorker signals) (hlive : m.live = false) :
    endedWorker c who = some k := by
  obtain ⟨program, hthread, hsame, -⟩ := memberAt_eq_some hm
  simp only [endedWorker, hthread]
  refine if_pos ?_
  rw [← hsame, hlive, hjob]
  rfl

lemma member_of_endedWorker (h : endedWorker c who = some k) :
    ∃ m signals, memberAt k c who = some m ∧ m.job = .task .streamWorker signals ∧
      m.live = false := by
  rcases hthread : c.threads[who]? with _ | ⟨site, program⟩
  · simp only [endedWorker, hthread] at h
    cases h
  · simp only [endedWorker, hthread] at h
    split_ifs at h with hworker
    rw [and_eq_true, not_eq_true'] at hworker
    obtain ⟨signals, hjob⟩ := Job.isWorker_iff.mp hworker.1
    exact ⟨_, signals, memberAt_of_thread hthread (Option.some.inj h), hjob, hworker.2⟩

lemma shutdownBegun_of_member {m : Member} (hm : memberAt k c who = some m)
    (hjob : m.job = .shutdown) : shutdownBegun k c = true := by
  obtain ⟨program, hthread, -⟩ := memberAt_eq_some hm
  refine List.any_eq_true.mpr ⟨_, List.mem_of_getElem? hthread, ?_⟩
  rw [hjob]
  exact Bool.and_eq_true_iff.mpr ⟨decide_eq_true rfl, rfl⟩

lemma member_of_shutdownBegun (h : shutdownBegun k c = true) :
    ∃ who m, memberAt k c who = some m ∧ m.job = .shutdown := by
  obtain ⟨⟨site, program⟩, hmem, h⟩ := List.any_eq_true.mp h
  obtain ⟨who, hthread⟩ := List.getElem?_of_mem hmem
  rw [and_eq_true, decide_eq_true_iff] at h
  refine ⟨who, _, memberAt_of_thread hthread h.1, ?_⟩
  generalize Site.job site = job at h
  cases job with
  | shutdown => rfl
  | _ => cases h.2

lemma cut_of_cutOff {i : Instance} (hi : c.state.state.coordinators[k]? = some i)
    (h : cutOff k who c = true) : Cut ⟨i, memberAt k c, deedsAt k c.state.trace⟩ who := by
  simp only [cutOff, hi, Option.any_some, Bool.or_eq_true, not_eq_true', and_eq_true,
    beq_iff_eq, List.all_eq_true, List.mem_range, decide_eq_true_eq] at h
  refine h.imp_right fun h => ⟨h.1.1, h.1.2, fun {other m} hm hlive hrole => ?_⟩
  replace hm : memberAt k c other = some m := hm
  obtain ⟨program, hthread, -⟩ := memberAt_eq_some hm
  refine (h.2 other (List.getElem?_eq_some_iff.mp hthread).1).resolve_right fun hall => ?_
  rw [hm, Option.all_some, hlive, hrole] at hall
  cases hall

end

/-! ## The gate after the worker -/

/-- A shutdown of the coordinator has begun. -/
def View.ShutDown (v : View R) : Prop := ∃ who m, v.members who = some m ∧ m.job = .shutdown

/-- A worker that has ended without a shutdown has left a gate that is closed for good. -/
def EndedCut (v : View R) : Prop :=
  ∀ ⦃who m signals⦄, v.members who = some m → m.job = .task .streamWorker signals →
    m.live = false → v.ShutDown ∨ Cut v who

section

variable {v v' : View R} {action : Action R} {who : ℕ}

lemma View.ShutDown.kept (h : v.ShutDown) (hstep : v.Step action v') : v'.ShutDown := by
  obtain ⟨who, m, hm, hjob⟩ := h
  obtain ⟨m', hm', hsame⟩ := hstep.member hm
  exact ⟨who, m', hm', hsame.trans hjob⟩

/-- A process that is over takes no more steps, and stays over. -/
lemma View.Step.over (h : v.Step action v') {m : Member} (hm : v.members who = some m)
    (hlive : m.live = false) :
    (∀ deed, action = .perform deed → deed.who ≠ who) ∧
      ∃ m', v'.members who = some m' ∧ m'.job = m.job ∧ m'.live = false := by
  cases h with
  | start hnone _ _ =>
    refine ⟨fun _ h => (by cases h), m, ?_, rfl, hlive⟩
    refine (Function.update_of_ne ?_ ..).trans hm
    rintro rfl
    cases hm.symm.trans hnone
  | perform deed hm' hlive' _ _ =>
    have hne : who ≠ deed.who := by
      rintro rfl
      cases hm.symm.trans hm'
      exact absurd (hlive.symm.trans hlive') false_ne_true
    refine ⟨fun _ h => ?_, m, (Function.update_of_ne hne ..).trans hm, rfl, hlive⟩
    obtain rfl := Action.perform.inj h
    exact Ne.symm hne
  | @leave other m' live hm' hlive' =>
    refine ⟨fun _ h => (by cases h), ?_⟩
    by_cases hwho : who = other
    · subst hwho
      cases hm.symm.trans hm'
      refine ⟨_, Function.update_self .., rfl, ?_⟩
      by_contra hne
      exact absurd (hlive.symm.trans (hlive' (Bool.eq_true_of_not_eq_false hne))) false_ne_true
    · exact ⟨m, (Function.update_of_ne hwho ..).trans hm, rfl, hlive⟩

end

section

variable {side : RiskSide R} {scope : RuntimeScope} {port : RiskPort R} {k : ℕ}
  {c c' : (Timeline side scope port).Config} {label : (Timeline side scope port).Label}
  {v v' : View R} {action : Action R}

lemma subject_of_shows (h : action.Shows k c label) : subject c label = some action.who := by
  cases action with
  | start =>
    obtain ⟨rfl, rfl⟩ := h
    rfl
  | perform =>
    obtain ⟨_, _, _, rfl, -⟩ := h
    rfl
  | leave => rcases h with rfl | rfl <;> rfl

lemma reopens_of_shows (h : action.Shows k c label) (hnext : reopensNext c label = false)
    (deed : Deed R) (hdeed : action = .perform deed) : reopens deed.op = false := by
  subst hdeed
  obtain ⟨choice, site, next, rfl, hthread, -⟩ := h
  simpa only [reopensNext, hthread] using hnext

/-- A worker that ends in a step was not over before. -/
lemma endedWorker_before {who : ℕ} (hshows : action.Shows k c label)
    (hv : viewAt k c = some v) (hview : v.Step action v') (hown : who = action.who)
    (hlive : ∀ m, v.members who = some m → m.live = true) : endedWorker c who = none := by
  obtain ⟨i, -, rfl⟩ := viewAt_eq_some hv
  rcases hmember : memberAt k c who with _ | m
  · -- it has just begun
    cases hview with
    | start =>
      subst hown
      obtain ⟨hwho, -⟩ := hshows
      simp only [endedWorker, hwho, List.getElem?_eq_none le_rfl]
    | perform deed hm _ _ _ | leave hm _ =>
      subst hown
      cases hmember.symm.trans hm
  · obtain ⟨program, hthread, hsame, -⟩ := memberAt_eq_some hmember
    simp only [endedWorker, hthread]
    refine if_neg ?_
    rw [← hsame, hlive m hmember, Bool.not_true, Bool.and_false]
    exact false_ne_true

/-- **Ended workers, step by step**, as long as workers end cut off. -/
lemma EndedCut.kept (h : EndedCut v) (hsingle : Single v) (hfollow : WorkersFollow v)
    (hgood : workerEndsCut c label = true) (hstep : TracedStep c label c')
    (hv : viewAt k c = some v) (hv' : viewAt k c' = some v') (hshows : action.Shows k c label)
    (hview : v.Step action v') : EndedCut v' := by
  intro who m' signals hm' hjob hlive'
  by_cases hover : ∃ m, v.members who = some m ∧ m.live = false
  · -- it was over before
    obtain ⟨m, hm, hlive⟩ := hover
    obtain ⟨hidle, m₁, hm₁, hsame, -⟩ := hview.over hm hlive
    cases hm₁.symm.trans hm'
    have hworker : m.job = .task .streamWorker signals := hsame.symm.trans hjob
    refine (h hm hworker hlive).imp (fun hshut => hshut.kept hview) fun hcut => ?_
    exact hcut.kept hsingle hfollow hview (fun _ _ => ⟨m, signals, hm, hworker⟩)
      fun deed hdeed hwho => absurd hwho (hidle deed hdeed)
  · -- it ends in this step
    have hown : who = action.who := by
      by_contra hne
      exact hover ⟨m', (hview.others hne).symm.trans hm', hlive'⟩
    have hworker : ∀ deed, action = .perform deed → ∃ worker signals,
        v.members who = some worker ∧ worker.job = .task .streamWorker signals := by
      rintro deed rfl
      obtain rfl : who = deed.who := hown
      obtain ⟨m, _, hm, _⟩ := hview.performed
      obtain ⟨m₁, hm₁, hsame⟩ := hview.member hm
      cases hm₁.symm.trans hm'
      exact ⟨m, signals, hm, hsame.symm.trans hjob⟩
    have hbefore : endedWorker c who = none :=
      endedWorker_before hshows hv hview hown fun m hm => by
        by_contra hne
        exact hover ⟨m, hm, Bool.eq_false_of_not_eq_true hne⟩
    obtain ⟨i, hi, rfl⟩ := viewAt_eq_some hv
    obtain ⟨i', hi', rfl⟩ := viewAt_eq_some hv'
    have hended : endedWorker c' who = some k := endedWorker_of_member hm' hjob hlive'
    simp only [workerEndsCut, hstep.step, subject_of_shows hshows, ← hown, hended, hbefore,
      Option.all_some, Option.isSome_none, Bool.false_or, Bool.or_eq_true, and_eq_true,
      not_eq_true'] at hgood
    refine hgood.imp (fun hshut => ?_) fun hcut => ?_
    · have hshut : View.ShutDown ⟨i, memberAt k c, deedsAt k c.state.trace⟩ :=
        member_of_shutdownBegun hshut
      exact hshut.kept hview
    · exact (cut_of_cutOff hi hcut.2).kept hsingle hfollow hview hworker
        fun deed hdeed _ => reopens_of_shows hshows hcut.1 deed hdeed

end

/-- Process `who` was the worker of the coordinator, which is cut off. -/
structure Bereft (who : ℕ) (v : View R) : Prop where
  single : Single v
  follow : WorkersFollow v
  ended : ∃ m signals, v.members who = some m ∧ m.job = .task .streamWorker signals ∧ m.live = false
  cut : Cut v who

lemma Bereft.kept {who : ℕ} {v v' : View R} (h : Bereft who v)
    (hview : v.Step action v') : Bereft who v' := by
  obtain ⟨m, signals, hm, hjob, hlive⟩ := h.ended
  obtain ⟨hidle, m', hm', hsame, hlive'⟩ := hview.over hm hlive
  refine ⟨h.single.kept hview, h.follow.kept hview,
    ⟨m', signals, hm', hsame.trans hjob, hlive'⟩, ?_⟩
  exact h.cut.kept h.single h.follow hview (fun _ _ => ⟨m, signals, hm, hjob⟩)
    fun deed hdeed hwho => absurd hwho (hidle deed hdeed)

section

variable (side : RiskSide R) (scope : RuntimeScope) (port : RiskPort R)

/-- **A coordinator never gets a second stream worker**, however often and by how many calls at once
it is started, and whatever fails or is lost on the way; not even after its worker has ended. -/
theorem one_stream_worker (hport : port.Quiet) {c₀ c : (Timeline side scope port).Config}
    (hthreads : c₀.threads = []) (htrace : c₀.state.trace = [])
    (hfresh : ∀ i ∈ c₀.state.state.coordinators, i = .new)
    (hreach : Reach (fun _ _ => True) c₀ c) (k : ℕ) :
    {who : ℕ | ∃ signals program, c.threads[who]? =
      some (⟨k, .task .streamWorker signals⟩, program)}.Subsingleton := by
  have hnew : Single (View.new : View R) ∧ WorkersFollow (View.new : View R) :=
    ⟨.of_nobody nofun rfl, fun _ _ _ hm => by cases hm⟩
  have hfirst : ∀ v, viewAt k c₀ = some v → Single v ∧ WorkersFollow v := by
    intro v hv
    obtain ⟨hi, hmembers, hdeeds⟩ := viewAt_of_nil hthreads htrace hv
    have hmemory := hfresh _ (List.mem_of_getElem? hi)
    cases v
    subst hmembers hdeeds hmemory
    exact hnew
  obtain ⟨horderly, hserved⟩ := view_reach hport (fun v => Single v ∧ WorkersFollow v)
    (fun _ => hnew) (fun _ _ _ _ _ hview h => ⟨h.1.kept hview, h.2.kept hview⟩)
    (.of_nil hthreads htrace) hfirst hreach
  rintro who ⟨signals, program, hthread⟩ who' ⟨signals', program', hthread'⟩
  obtain ⟨hsingle, hfollow⟩ := hserved _
    (congrArg (Option.map _) (List.getElem?_eq_getElem (horderly.housed _ _ _ hthread)))
  have hm := memberAt_of_thread hthread rfl
  have hm' := memberAt_of_thread hthread' rfl
  refine hsingle.unique hm ?_ hm' ?_
  · rcases hfollow hm rfl with h | ⟨_, h⟩ <;> exact congrArg Role.connects h
  · rcases hfollow hm' rfl with h | ⟨_, h⟩ <;> exact congrArg Role.connects h

/-- The worker of a coordinator that has started. -/
theorem started_coordinator_has_one_worker : ∃ c,
    newTimeline.run (firstSignal (.gap .portfolio "gap")) = some c ∧ c.threads.length = 2 ∧
      {who : ℕ | ∃ signals program, c.threads[who]? =
        some (⟨0, .task .streamWorker signals⟩, program)}.Subsingleton := by
  obtain ⟨c, hc, htwo⟩ : ∃ c, newTimeline.run (firstSignal (.gap .portfolio "gap")) = some c ∧
      c.threads.length = 2 := by decide +kernel
  exact ⟨c, hc, htwo, one_stream_worker _ _ _ approvingPort_quiet rfl rfl
    (fun _ => List.mem_singleton.mp) (Config.reach_of_run hc) 0⟩

/-- **A stream worker that ends cut off leaves the gate closed.** In a run in which stream workers
end only when their coordinator is cut off, or is being shut down, the gate of a coordinator whose
worker has ended without a shutdown stays closed from then on, whatever is done afterwards.

**Proof sketch.** Only the start and the worker mark the streams as connected, and there is one of
them at most; after the worker has ended there is none. A claimed refresh is released by the loop
that carries it out only, and that is spawned by the one who claimed it. -/
theorem stream_worker_ends_closed (hport : port.Quiet)
    {c₀ c₁ c₂ : (Timeline side scope port).Config} (hthreads : c₀.threads = [])
    (htrace : c₀.state.trace = [])
    (hworkers : ∀ i ∈ c₀.state.state.coordinators, i.spawned.count .streamWorker ≤ 1 ∧
      (i.started = false → i.spawned.count .streamWorker = 0))
    (hrun : Reach (fun c label => workerEndsCut c label = true) c₀ c₁) {k who : ℕ}
    (hended : endedWorker c₁ who = some k) (hup : shutdownBegun k c₁ = false)
    (hlater : Reach (fun _ _ => True) c₁ c₂) {i : Instance}
    (hi : c₂.state.state.coordinators[k]? = some i) : ¬ i.gateOpen := by
  have hfirst : ∀ v, viewAt k c₀ = some v → Single v ∧ WorkersFollow v ∧ EndedCut v := by
    intro v hv
    obtain ⟨hmemory, hmembers, -⟩ := viewAt_of_nil hthreads htrace hv
    obtain ⟨honce, hunstarted⟩ := hworkers _ (List.mem_of_getElem? hmemory)
    have hnobody : ∀ {who m}, v.members who ≠ some m := fun hm => by
      rw [hmembers] at hm
      cases hm
    have hspawned (hpos : 0 < v.memory.spawned.count .streamWorker) : v.memory.started = true := by
      by_contra hun
      exact hpos.ne' (hunstarted (Bool.eq_false_of_not_eq_true hun))
    exact ⟨⟨fun hm => absurd hm hnobody, fun hm => absurd hm hnobody, honce, hspawned⟩,
      fun _ _ _ hm => absurd hm hnobody, fun _ _ _ hm => absurd hm hnobody⟩
  have hnew : Single (View.new : View R) ∧ WorkersFollow (View.new : View R) ∧
      EndedCut (View.new : View R) :=
    ⟨.of_nobody nofun rfl, fun _ _ _ hm => (by cases hm), fun _ _ _ hm => by cases hm⟩
  obtain ⟨horderly, hserved⟩ := view_reach hport
    (fun v => Single v ∧ WorkersFollow v ∧ EndedCut v) (fun _ => hnew)
    (fun hgood hstep hv hv' hshows hview h => ⟨h.1.kept hview, h.2.1.kept hview,
      h.2.2.kept h.1 h.2.1 hgood hstep hv hv' hshows hview⟩)
    (.of_nil hthreads htrace) hfirst hrun
  -- from then on
  obtain ⟨m, signals, hm, hjob, hlive⟩ := member_of_endedWorker hended
  have hcut : ∀ v, viewAt k c₁ = some v → Bereft who v := by
    intro v hv
    obtain ⟨hsingle, hfollow, hendedCut⟩ := hserved v hv
    obtain ⟨i₁, -, rfl⟩ := viewAt_eq_some hv
    refine ⟨hsingle, hfollow, ⟨m, signals, hm, hjob, hlive⟩, ?_⟩
    refine (hendedCut hm hjob hlive).resolve_left ?_
    rintro ⟨other, m', hm', hshut⟩
    exact absurd (hup.symm.trans (shutdownBegun_of_member hm' hshut)) false_ne_true
  have hthere : viewAt k c₁ ≠ none := by
    obtain ⟨program, hthread, -⟩ := memberAt_eq_some hm
    intro hnone
    exact absurd (horderly.housed _ _ _ hthread)
      (Nat.not_lt.mpr (List.getElem?_eq_none_iff.mp (Option.map_eq_none_iff.mp hnone)))
  obtain ⟨-, hbereft⟩ := view_reach hport (Bereft who) (fun hnone => absurd hnone hthere)
    (fun _ _ _ _ _ hview h => h.kept hview) horderly hcut hlater
  exact (hbereft ⟨i, memberAt k c₂, deedsAt k c₂.state.trace⟩
    (by simp only [viewAt, hi, Option.map_some])).cut.closed

end

/-! ## A worker that fails -/

/-- The streams cannot be connected again. -/
def disconnectedChoice : Choice Unit :=
  { plainChoice () with
    answer := fun
      | .connectStreams _ => .error ⟨.permanent, "stream endpoint unavailable"⟩
      | question => plainAnswer question }

/-- **A failed store call ends the worker behind an open gate.** A position changes, and recording
the event fails: the worker is over, nothing has shut the coordinator down, and its gate is open. -/
theorem stream_worker_dies_behind_open_gate :
    ∃ c i, newTimeline.run (firstSignal (.event ⟨"account-1", .position, "position:1:1", none, none,
        none, none, 1⟩) ++ List.replicate 3 (.run 1 faultyChoice)) = some c ∧
      endedWorker c 1 = some 0 ∧ shutdownBegun 0 c = false ∧
      c.state.state.coordinators[0]? = some i ∧ i.gateOpen := by
  simp only [exists_and_left]
  decide +kernel

/-- After a gap the streams cannot be connected again, which ends the worker. A reconciliation that
an operator forces later leads to `READY`, but not to an open gate. -/
theorem forced_reconciliation_behind_closed_gate :
    ∃ c₁ c₂ i, newTimeline.runIf (fun c label => workerEndsCut c label = true)
        (firstSignal (.gap .portfolio "gap") ++ List.replicate 33 (.run 1 disconnectedChoice)) =
          some c₁ ∧
      endedWorker c₁ 1 = some 0 ∧
      c₁.run (.start (0, .forceReconciliation .reconciliationStarted "operator") ::
        List.replicate 29 (.run 2 (plainChoice ()))) = some c₂ ∧
      c₂.state.state.coordinators[0]? = some i ∧ i.state = .ready ∧ ¬ i.gateOpen := by
  obtain ⟨c₁, hc₁, hended, hserving, c₂, hc₂, i, hi, hready⟩ :
      ∃ c₁, newTimeline.runIf (fun c label => workerEndsCut c label = true)
        (firstSignal (.gap .portfolio "gap") ++ List.replicate 33 (.run 1 disconnectedChoice)) =
          some c₁ ∧ endedWorker c₁ 1 = some 0 ∧ shutdownBegun 0 c₁ = false ∧
      ∃ c₂, c₁.run (.start (0, .forceReconciliation .reconciliationStarted "operator") ::
        List.replicate 29 (.run 2 (plainChoice ()))) = some c₂ ∧
      ∃ i, c₂.state.state.coordinators[0]? = some i ∧ i.state = .ready := by
    decide +kernel
  refine ⟨c₁, c₂, i, hc₁, hended, hc₂, hi, hready, ?_⟩
  have hthreads : newTimeline.threads = [] := rfl
  have htrace : newTimeline.state.trace = [] := rfl
  refine stream_worker_ends_closed approvingSide fixtureScope approvingPort approvingPort_quiet
    hthreads htrace (fun i hi => ?_) (Config.reach_of_runIf hc₁) hended hserving
    (Config.reach_of_run hc₂) hi
  obtain rfl := List.mem_singleton.mp hi
  exact ⟨Nat.zero_le _, fun _ => rfl⟩

end VoxTrader.Runtime
