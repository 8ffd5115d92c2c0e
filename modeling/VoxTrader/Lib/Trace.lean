import VoxTrader.Lib.Process

/-!
# Systems that keep their history

A property of whole runs, such as "whatever was asked for was done afterwards", is a property of
the last state of a system that writes down every operation it performs. `System.traced` is that
system. It takes the same steps as the system itself, so what is proved of its runs is proved of
the runs of the system.

## Main definitions

* `System.Performed` — an operation that was performed, with its process and its result.
* `System.traced` — the system with its history.
* `System.TracedStep` — what the steps of such a system do.
* `System.PerformedIn` — an operation was performed in a run.
* `System.ghostAt` — the ghost value of a process, which the history determines.
* `Since` — something happened, and since then only certain things.
* `System.Disciplined` — every process follows a discipline from the ghost value it has.

## Main results

* `System.performed_reach` — what was performed was performed somewhere on the way.
* `System.performed_at` — where it was performed, the history was the part that is older.
* `System.Disciplined.reach` — the rule for invariants of systems that are disciplined.
-/

namespace System

variable {I : Interface} {G : Type}

/-- An operation that was performed: by whom, where, and with which result. -/
structure Performed (S : System I) where
  who : ℕ
  site : S.Site
  op : I.Op
  res : I.Res op

/-- A state with the operations that led to it, the newest first. -/
structure Recorded (S : System I) where
  state : S.State
  trace : List S.Performed

/-- **The system with its history.** -/
abbrev traced (S : System I) : System I where
  State := S.Recorded
  Site := S.Site
  Job := S.Job
  Choice := S.Choice
  Event := S.Event
  start job c := (S.start job c.state).map fun (state, site, program) =>
    (⟨state, c.trace⟩, site, program)
  exec op who site choice c := (S.exec op who site choice c.state).map fun (state, r) =>
    (⟨state, ⟨who, site, op, r⟩ :: c.trace⟩, r)
  leave who site c := ⟨S.leave who site c.state, c.trace⟩
  detached := S.detached
  event e c := (S.event e c.state).map fun state => ⟨state, c.trace⟩

variable {S : System I}

/-! ## The system and its history -/

variable {site : S.Site} {c : S.traced.Config} {c' : S.Recorded} {e : S.Performed}
  {label : S.traced.Label} {good : S.traced.Condition} {c₀ : S.traced.Config}

/-- An operation of the system with its history. -/
lemma traced_exec {op : I.Op} {who : ℕ} {choice : S.Choice} {c : S.Recorded} {r : I.Res op}
    (h : S.traced.exec op who site choice c = some (c', r)) :
    S.exec op who site choice c.state = some (c'.state, r) ∧
      c'.trace = ⟨who, site, op, r⟩ :: c.trace := by
  obtain ⟨⟨state, r'⟩, hexec, heq⟩ := Option.map_eq_some_iff.mp h
  cases heq
  exact ⟨hexec, rfl⟩

/-- A job of the system with its history. -/
lemma traced_start {job : S.Job} {c : S.Recorded} {program : Process I Unit}
    (h : S.traced.start job c = some (c', site, program)) :
    S.start job c.state = some (c'.state, site, program) ∧ c'.trace = c.trace := by
  obtain ⟨⟨state, site', program'⟩, hstart, heq⟩ := Option.map_eq_some_iff.mp h
  obtain ⟨rfl, hrest⟩ := Prod.mk.inj heq
  cases hrest
  exact ⟨hstart, rfl⟩

/-- A step of the environment of the system with its history. -/
lemma traced_event {e : S.Event} {c : S.Recorded} (h : S.traced.event e c = some c') :
    S.event e c.state = some c'.state ∧ c'.trace = c.trace := by
  obtain ⟨state, hevent, rfl⟩ := Option.map_eq_some_iff.mp h
  exact ⟨hevent, rfl⟩

/-! ## What a step does -/

/-- What the steps of the system with its history do. -/
inductive TracedStep (c : S.traced.Config) : S.traced.Label → S.traced.Config → Prop
  | start {job : S.Job} {state : S.State} {site : S.Site} {program : Process I Unit}
      (hstart : S.start job c.state.state = some (state, site, program)) :
      TracedStep c (.start job) ⟨⟨state, c.state.trace⟩, c.threads ++ [(site, program)]⟩
  | run {who : ℕ} {choice : S.Choice} {site : S.Site} {op : I.Op} {next : I.Res op → Process I Unit}
      {state : S.State} {r : I.Res op} (hthread : c.threads[who]? = some (site, .call op next))
      (hexec : S.exec op who site choice c.state.state = some (state, r)) :
      TracedStep c (.run who choice)
        ⟨⟨state, ⟨who, site, op, r⟩ :: c.state.trace⟩, c.threads.set who (site, next r)⟩
  | kill {who : ℕ} {site : S.Site} {program : Process I Unit}
      (hthread : c.threads[who]? = some (site, program)) :
      TracedStep c (.kill who)
        ⟨⟨S.leave who site c.state.state, c.state.trace⟩, c.threads.set who (site, .done ())⟩
  | abandon {who : ℕ} {site : S.Site} {op : I.Op} {next : I.Res op → Process I Unit}
      (hthread : c.threads[who]? = some (site, .call op next)) (hdetached : S.detached op = true) :
      TracedStep c (.abandon who) ⟨⟨S.leave who site c.state.state, c.state.trace⟩,
          c.threads.set who (site, .call op fun _ => .done ())⟩
  | event {e : S.Event} {state : S.State} (hevent : S.event e c.state.state = some state) :
      TracedStep c (.event e) ⟨⟨state, c.state.trace⟩, c.threads⟩

variable {c' : S.traced.Config}

/-- **Every step does one of these.** -/
lemma tracedStep_of_step (h : c.step label = some c') : TracedStep c label c' := by
  cases label with
  | start =>
    obtain ⟨⟨state, site, program⟩, hstart, rfl⟩ := Option.map_eq_some_iff.mp h
    obtain ⟨hstart, htrace⟩ := traced_start hstart
    obtain ⟨state, trace⟩ := state
    obtain rfl : trace = c.state.trace := htrace
    exact .start hstart
  | run =>
    simp only [Config.step] at h
    split at h
    · rename_i site op next hthread
      obtain ⟨⟨state, r⟩, hexec, rfl⟩ := Option.map_eq_some_iff.mp h
      obtain ⟨hexec, htrace⟩ := traced_exec hexec
      obtain ⟨state, trace⟩ := state
      obtain rfl : trace = _ := htrace
      exact .run hthread hexec
    · cases h
  | kill =>
    simp only [Config.step] at h
    split at h
    · rename_i site program hthread
      cases h
      exact .kill hthread
    · cases h
  | abandon =>
    simp only [Config.step] at h
    split at h
    · rename_i site op next hthread
      split_ifs at h with hdetached
      cases h
      exact .abandon hthread hdetached
    · cases h
  | event =>
    obtain ⟨state, hevent, rfl⟩ := Option.map_eq_some_iff.mp h
    obtain ⟨hevent, htrace⟩ := traced_event hevent
    obtain ⟨state, trace⟩ := state
    obtain rfl : trace = c.state.trace := htrace
    exact .event hevent

/-- Nothing else is a step. -/
lemma TracedStep.step (h : TracedStep c label c') : c.step label = some c' := by
  cases h with
  | start hstart => simp [Config.step, hstart]
  | run hthread hexec => simp [Config.step, hthread, hexec]
  | kill hthread => simp [Config.step, hthread]
  | abandon hthread hdetached => simp [Config.step, hthread, hdetached]
  | event hevent => simp [Config.step, hevent]

/-- The history only grows. -/
lemma trace_reach (h : Reach good c c') : ∃ newer, c'.state.trace = newer ++ c.state.trace := by
  induction h with
  | refl => exact ⟨[], rfl⟩
  | step label _ _ hstep ih =>
    obtain ⟨newer, hnewer⟩ := ih
    cases tracedStep_of_step hstep with
    | run => exact ⟨_ :: newer, congrArg _ hnewer⟩
    | start hstart | kill hthread | abandon hthread hdetached | event hevent =>
      exact ⟨newer, hnewer⟩

/-- Process `who` has performed the operation, with this result, on the way from `c₀` to `c`. -/
def PerformedIn (good : S.traced.Condition) (c₀ c : S.traced.Config) (who : ℕ)
    (site : S.Site) (op : I.Op) (r : I.Res op) : Prop :=
  ∃ (before after : S.traced.Config) (choice : S.Choice) (next : I.Res op → Process I Unit),
    Reach good c₀ before ∧ good before (.run who choice) ∧
    before.threads[who]? = some (site, .call op next) ∧
    S.exec op who site choice before.state.state = some (after.state.state, r) ∧
    before.step (.run who choice) = some after ∧ Reach good after c

/-- **What was performed was performed somewhere on the way.** -/
lemma performed_reach (h : Reach good c₀ c) (he : e ∈ c.state.trace) :
    e ∈ c₀.state.trace ∨ PerformedIn good c₀ c e.who e.site e.op e.res := by
  induction h with
  | refl => exact .inl he
  | @step c c' label hreach hgood hstep ih =>
    have hold (he : e ∈ c.state.trace) :
        e ∈ c₀.state.trace ∨ PerformedIn good c₀ c' e.who e.site e.op e.res := by
      refine (ih he).imp_right ?_
      rintro ⟨before, after, choice, next, hbefore, hlabel, hthread, hexec, hrun, hafter⟩
      exact ⟨before, after, choice, next, hbefore, hlabel, hthread, hexec, hrun,
        .step label hafter hgood hstep⟩
    cases tracedStep_of_step hstep with
    | start _ | kill _ | abandon _ _ | event _ => exact hold he
    | @run who choice site op next state r hthread hexec =>
      rcases List.mem_cons.mp he with rfl | he
      · exact .inr ⟨c, _, choice, next, hreach, hgood, hthread, hexec, hstep, .refl⟩
      · exact hold he

/-- **What was performed at some point of the history**: where it was performed, the history was the
part that is older. -/
lemma performed_at (h : Reach good c₀ c) (h₀ : c₀.state.trace = []) {newer older : List S.Performed}
    (htrace : c.state.trace = newer ++ e :: older) :
    ∃ (before after : S.traced.Config) (choice : S.Choice) (next : I.Res e.op → Process I Unit),
      Reach good c₀ before ∧ before.state.trace = older ∧
      before.threads[e.who]? = some (e.site, .call e.op next) ∧
      S.exec e.op e.who e.site choice before.state.state = some (after.state.state, e.res) ∧
      after.state.trace = e :: older ∧ Reach good c₀ after ∧ Reach good after c := by
  induction h generalizing newer with
  | refl =>
    rw [h₀] at htrace
    cases newer <;> cases htrace
  | @step c c' label hreach hgood hstep ih =>
    cases tracedStep_of_step hstep with
    | start _ | kill _ | abandon _ _ | event _ =>
      obtain ⟨before, after, choice, next, h₁, h₂, h₃, h₄, h₅, h₆, h₇⟩ := ih htrace
      exact ⟨before, after, choice, next, h₁, h₂, h₃, h₄, h₅, h₆, .step _ h₇ hgood hstep⟩
    | @run who choice site op next state r hthread hexec =>
      rcases newer with _ | ⟨e', newer⟩
      · cases htrace
        exact ⟨c, _, choice, next, hreach, rfl, hthread, hexec, rfl,
          .step _ hreach hgood hstep, .refl⟩
      · obtain ⟨before, after, choice, next, h₁, h₂, h₃, h₄, h₅, h₆, h₇⟩ :=
          ih (List.cons.inj htrace).2
        exact ⟨before, after, choice, next, h₁, h₂, h₃, h₄, h₅, h₆, .step _ h₇ hgood hstep⟩

/-! ## Ghost values from the history -/

/-- What the operations of a process have made of the ghost value it began with. -/
def ghostAt (D : Discipline I G) (g : G) (who : ℕ) : List S.Performed → G
  | [] => g
  | e :: older =>
    if e.who = who then D.next e.op e.res (ghostAt D g who older) else ghostAt D g who older

section Ghosts

variable {D : Discipline I G} {g : G} {who : ℕ}

variable {site : S.Site} {older : List S.Performed} {c c' : S.traced.Config}
  {label : S.traced.Label} {c₀ : S.traced.Config} {Q : G → Prop}

/-- An operation of the process itself. -/
@[simp] lemma ghostAt_cons_self {op : I.Op} {r : I.Res op} :
    ghostAt D g who (⟨who, site, op, r⟩ :: older) = D.next op r (ghostAt D g who older) :=
  if_pos rfl

/-- An operation of another process. -/
lemma ghostAt_cons_of_ne {e : S.Performed} (h : e.who ≠ who) :
    ghostAt D g who (e :: older) = ghostAt D g who older :=
  if_neg h

/-- A process that has done nothing. -/
lemma ghostAt_of_idle {trace : List S.Performed} (h : ∀ e ∈ trace, e.who ≠ who) :
    ghostAt D g who trace = g := by
  induction trace with
  | nil => rfl
  | cons e older ih =>
    rw [ghostAt_cons_of_ne (h e List.mem_cons_self)]
    exact ih fun e' he' => h e' (List.mem_cons_of_mem e he')

/-- A process that is not over. -/
def Config.Unfinished (c : S.Config) (who : ℕ) (site : S.Site) : Prop :=
  ∃ op next, c.threads[who]? = some (site, .call op next)

variable {first : S.Site → G} {good : S.traced.Condition}

/-- Every process that is not over follows the discipline from the ghost value its history gives
it, and every operation was performed at the site of its process. -/
structure Disciplined (D : Discipline I G) (first : S.Site → G) (c : S.traced.Config) : Prop where
  follows : ∀ {who : ℕ} {site : S.Site} {op : I.Op} {next : I.Res op → Process I Unit},
    c.threads[who]? = some (site, .call op next) →
    Process.Follows D (fun _ _ => True) (.call op next) (ghostAt D (first site) who c.state.trace)
  sited : ∀ e ∈ c.state.trace, ∃ program, c.threads[e.who]? = some (e.site, program)

/-- Before any process is started there is nothing to follow. -/
lemma Disciplined.of_nil (hthreads : c.threads = []) (htrace : c.state.trace = []) :
    Disciplined D first c := by
  constructor
  · intro who site op next hthread
    rw [hthreads] at hthread
    cases hthread
  · intro e he
    rw [htrace] at he
    cases he

/-- A process is replaced by one that follows the discipline from the value its history gives. -/
lemma Disciplined.set (h : Disciplined D first c) {state : S.Recorded}
    {program program' : Process I Unit} (hthread : c.threads[who]? = some (site, program))
    (hothers : ∀ other g, other ≠ who →
      ghostAt D g other state.trace = ghostAt D g other c.state.trace)
    (hsited : ∀ e ∈ state.trace, e ∈ c.state.trace ∨ (e.who = who ∧ e.site = site))
    (hprogram : Process.Follows D (fun _ _ => True) program'
      (ghostAt D (first site) who state.trace)) :
    Disciplined D first (⟨state, c.threads.set who (site, program')⟩ : S.traced.Config) := by
  have hlt := (List.getElem?_eq_some_iff.mp hthread).1
  constructor
  · intro other site' op next hother
    by_cases hwho : other = who
    · subst hwho
      rw [List.getElem?_set_self hlt] at hother
      cases Option.some.inj hother
      exact hprogram
    · rw [List.getElem?_set_ne (Ne.symm hwho)] at hother
      have := h.follows hother
      rwa [← hothers other _ hwho] at this
  · intro e he
    have hplace : ∀ program, c.threads[e.who]? = some (e.site, program) →
        ∃ program, (c.threads.set who (site, program'))[e.who]? = some (e.site, program) := by
      intro program he
      by_cases hwho : e.who = who
      · refine ⟨program', ?_⟩
        rw [hwho, List.getElem?_set_self hlt]
        rw [hwho, hthread] at he
        rw [(Prod.mk.inj (Option.some.inj he)).1]
      · exact ⟨program, by rw [List.getElem?_set_ne (Ne.symm hwho)]; exact he⟩
    rcases hsited e he with hold | ⟨hwho, hsite⟩
    · obtain ⟨program, hprogram⟩ := h.sited e hold
      exact hplace program hprogram
    · exact hplace program (by rw [hwho, hsite]; exact hthread)

/-- A new process has no history. -/
lemma Disciplined.idle (h : Disciplined D first c) (hwho : c.threads.length ≤ who) :
    ∀ e ∈ c.state.trace, e.who ≠ who := by
  rintro e he rfl
  obtain ⟨program, hprogram⟩ := h.sited e he
  exact absurd (List.getElem?_eq_some_iff.mp hprogram).1 (by omega)

/-- Every process follows the discipline when it begins, to an end with the property `Q`. -/
def Starts (D : Discipline I G) (first : S.Site → G) (Q : G → Prop) : Prop :=
  ∀ {job : S.Job} {state state' : S.State} {site : S.Site} {program : Process I Unit},
    S.start job state = some (state', site, program) →
    Process.Follows D (fun _ g => Q g) program (first site)

/-- One step keeps every process to the discipline. -/
lemma Disciplined.step (hjobs : S.Starts D first fun _ => True) (h : Disciplined D first c)
    (hstep : c.step label = some c') : Disciplined D first c' := by
  cases tracedStep_of_step hstep with
  | @start job state site program hstart =>
    constructor
    · intro who site' op next hthread
      by_cases hnew : who = c.threads.length
      · rw [hnew, List.getElem?_concat_length] at hthread
        cases Option.some.inj hthread
        rw [ghostAt_of_idle (h.idle (Nat.le_of_eq hnew.symm))]
        exact hjobs hstart
      · rw [getElem?_concat_of_ne _ hnew] at hthread
        exact h.follows hthread
    · intro e he
      obtain ⟨program, hprogram⟩ := h.sited e he
      exact ⟨program, by
        rw [List.getElem?_append_left (List.getElem?_eq_some_iff.mp hprogram).1]; exact hprogram⟩
  | @run who choice site op next state r hthread hexec =>
    refine h.set hthread (fun other g hne => ghostAt_cons_of_ne hne.symm) (fun e he => ?_) ?_
    · rcases List.mem_cons.mp he with rfl | he
      · exact .inr ⟨rfl, rfl⟩
      · exact .inl he
    · rw [ghostAt_cons_self]
      exact (h.follows hthread).2 r
  | kill hthread => exact h.set hthread (fun _ _ _ => rfl) (fun e he => .inl he) trivial
  | abandon hthread =>
    exact h.set hthread (fun _ _ _ => rfl) (fun e he => .inl he)
      ⟨(h.follows hthread).1, fun _ => trivial⟩
  | event => exact ⟨h.follows, h.sited⟩

/-- **Invariants of runs with their history.** What holds at first and is kept by every step that
has the property `good`, taken where every process keeps to the discipline, holds wherever such
steps lead. -/
theorem Disciplined.reach {Inv : S.traced.Config → Prop} (hjobs : S.Starts D first fun _ => True)
    (hkept : ∀ {c c' : S.traced.Config} {label : S.traced.Label}, Disciplined D first c → Inv c →
      good c label → TracedStep c label c' → Inv c') (hdisciplined : Disciplined D first c₀)
    (hinv : Inv c₀) (h : Reach good c₀ c) : Disciplined D first c ∧ Inv c := by
  induction h with
  | refl => exact ⟨hdisciplined, hinv⟩
  | step label _ hgood hstep ih =>
    exact ⟨ih.1.step hjobs hstep, hkept ih.1 ih.2 hgood (tracedStep_of_step hstep)⟩

end Ghosts

end System

/-! ## What has happened since -/

section

variable {α : Type} {P : α → List α → Prop} {q : α → Prop} {event : α} {history : List α}

/-- Something happened that has the property `P`, together with what is older, and since then only
things with the property `q`. -/
def Since (P : α → List α → Prop) (q : α → Prop) (history : List α) : Prop :=
  ∃ newer event older, history = newer ++ event :: older ∧ P event older ∧ ∀ e ∈ newer, q e

/-- What happened now, or before it. -/
lemma since_cons :
    Since P q (event :: history) ↔ P event history ∨ q event ∧ Since P q history := by
  constructor
  · rintro ⟨newer, e, older, hhistory, hP, hq⟩
    rcases newer with _ | ⟨e', newer⟩
    · cases hhistory
      exact .inl hP
    · cases hhistory
      exact .inr ⟨hq _ List.mem_cons_self, newer, e, older, rfl, hP,
        fun e' he' => hq e' (List.mem_cons_of_mem _ he')⟩
  · rintro (hP | ⟨hevent, newer, e, older, rfl, hP, hq⟩)
    · exact ⟨[], event, history, rfl, hP, nofun⟩
    · refine ⟨event :: newer, e, older, rfl, hP, fun e' he' => ?_⟩
      rcases List.mem_cons.mp he' with rfl | he'
      · exact hevent
      · exact hq e' he'

lemma Since.now (h : P event history) : Since P q (event :: history) := since_cons.mpr (.inl h)

lemma Since.later (h : Since P q history) (he : q event) : Since P q (event :: history) :=
  since_cons.mpr (.inr ⟨he, h⟩)

end
