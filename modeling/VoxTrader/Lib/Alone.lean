import VoxTrader.Lib.Process

/-!
# Programs that run alone

What a program does when nothing else happens between its operations: from one state of the world
to another, with a result. An operation is a relation between the state before it, its result and
the state after it, so that the world may decide. The rules take a run of a composed program
apart into runs of its parts.

## Main definitions

* `Process.Runs` — a program runs from a state to its end.
* `Process.Carries` — what comes out in one sense of the operations comes out in another.
* `Process.Logged` — operations that are written down.

## Main results

* `Process.runs_bind`, `Process.runs_bindExcept`, `Process.runs_lift` — runs of composed programs.
* `Process.Performs.runs_rel` — what every operation does to the state, a whole run does.
* `Process.follows_logged` — what a program has performed when it ends.
-/

namespace Process

variable {I J : Interface} {S α β ε : Type} {exec : (op : I.Op) → S → I.Res op → S → Prop}

/-- The program runs from state `s` to its end, with result `b` and state `s'`. -/
def Runs (exec : (op : I.Op) → S → I.Res op → S → Prop) : Process I α → S → α → S → Prop
  | done a, s, b, s' => b = a ∧ s' = s
  | call op next, s, b, s' => ∃ r s₁, exec op s r s₁ ∧ (next r).Runs exec s₁ b s'

variable {s s' : S}

/-- One operation. -/
@[simp] lemma runs_perform {op : I.Op} {r : I.Res op} :
    Runs exec (perform op) s r s' ↔ exec op s r s' := by
  constructor
  · rintro ⟨r', s₁, hexec, rfl, rfl⟩
    exact hexec
  · exact fun h => ⟨r, s', h, rfl, rfl⟩

variable {x : Process I α} {f : α → ExceptT ε (Process I) β} {b : β} {a : α}

/-- **A sequence runs** as its first part does, and then its second part. -/
lemma runs_bind {f : α → Process I β} :
    Runs exec (x >>= f) s b s' ↔ ∃ a s₁, Runs exec x s a s₁ ∧ Runs exec (f a) s₁ b s' := by
  induction x generalizing s with
  | done a =>
    constructor
    · exact fun h => ⟨a, s, ⟨rfl, rfl⟩, h⟩
    · rintro ⟨_, _, ⟨rfl, rfl⟩, h⟩
      exact h
  | call op next ih =>
    constructor
    · rintro ⟨r, s₁, hexec, h⟩
      obtain ⟨a, s₂, hfirst, hrest⟩ := (ih r).mp h
      exact ⟨a, s₂, ⟨r, s₁, hexec, hfirst⟩, hrest⟩
    · rintro ⟨a, s₂, ⟨r, s₁, hexec, hfirst⟩, hrest⟩
      exact ⟨r, s₁, hexec, (ih r).mpr ⟨a, s₂, hfirst, hrest⟩⟩

/-- The same for programs that may fail: the second part runs when the first has a value. -/
lemma runs_bindExcept {x : ExceptT ε (Process I) α} {b : Except ε β} :
    Runs exec (x >>= f).run s b s' ↔
      (∃ e, Runs exec x.run s (.error e) s' ∧ b = .error e) ∨
        ∃ a s₁, Runs exec x.run s (.ok a) s₁ ∧ Runs exec (f a).run s₁ b s' := by
  rw [ExceptT.run_bind, runs_bind]
  constructor
  · rintro ⟨e | a, s₁, hfirst, hrest⟩
    · obtain ⟨rfl, rfl⟩ := hrest
      exact .inl ⟨e, hfirst, rfl⟩
    · exact .inr ⟨a, s₁, hfirst, hrest⟩
  · rintro (⟨e, hfirst, rfl⟩ | ⟨a, s₁, hfirst, hrest⟩)
    · exact ⟨.error e, s', hfirst, rfl, rfl⟩
    · exact ⟨.ok a, s₁, hfirst, hrest⟩

/-- A sequence with a value has values all along. -/
lemma runs_bindExcept_ok {x : ExceptT ε (Process I) α} : Runs exec (x >>= f).run s (.ok b) s' ↔
      ∃ a s₁, Runs exec x.run s (.ok a) s₁ ∧ Runs exec (f a).run s₁ (.ok b) s' := by
  rw [runs_bindExcept]
  exact ⟨fun h => h.resolve_left (by rintro ⟨_, _, h⟩; cases h), .inr⟩

/-- A sequence whose first part always has a value goes on with its second part. -/
lemma runs_bindExcept_of {x : ExceptT ε (Process I) α} {b : Except ε β} {Q : α → Prop}
    (hx : ∀ r s₁, Runs exec x.run s r s₁ → ∃ a, r = .ok a ∧ Q a)
    (h : Runs exec (x >>= f).run s b s') : ∃ a s₁, Q a ∧ Runs exec (f a).run s₁ b s' := by
  rcases runs_bindExcept.mp h with ⟨e, hfirst, -⟩ | ⟨a, s₁, hfirst, hrest⟩
  · obtain ⟨_, he, -⟩ := hx _ _ hfirst
    cases he
  · obtain ⟨_, ha, hQ⟩ := hx _ _ hfirst
    cases ha
    exact ⟨a, s₁, hQ, hrest⟩

/-- The same when the first part has nothing but success to report. -/
lemma runs_bindExcept_unit {x : ExceptT ε (Process I) Unit} {f : Unit → ExceptT ε (Process I) β}
    {b : Except ε β} (hx : ∀ r s₁, Runs exec x.run s r s₁ → r = .ok ())
    (h : Runs exec (x >>= f).run s b s') : ∃ s₁, Runs exec (f ()).run s₁ b s' := by
  obtain ⟨_, s₁, -, hrest⟩ :=
    runs_bindExcept_of (Q := fun _ => True) (fun r s₁ h => ⟨(), hx r s₁ h, trivial⟩) h
  exact ⟨s₁, hrest⟩

/-- A program over one part of an interface. -/
lemma runs_lift {exec : (op : (I.sum J).Op) → S → (I.sum J).Res op → S → Prop} :
    Runs exec (lift x : Process (I.sum J) α) s a s' ↔
      Runs (fun op => exec (.inl op)) x s a s' := by
  induction x generalizing s with
  | done b => exact Iff.rfl
  | call op next ih =>
    exact exists_congr fun r => exists_congr fun s₁ => and_congr_right fun _ => ih r

/-- A program that cannot fail, as part of one that can. -/
lemma runs_liftExcept {b : Except ε α} :
    Runs exec (liftM x : ExceptT ε (Process I) α).run s b s' ↔
      ∃ a, Runs exec x s a s' ∧ b = .ok a := by
  refine Iff.trans runs_bind ?_
  constructor
  · rintro ⟨a, s₁, hx, rfl, rfl⟩
    exact ⟨a, hx, rfl⟩
  · rintro ⟨a, hx, rfl⟩
    exact ⟨a, s', hx, rfl, rfl⟩

/-- The result of an operation that may fail. -/
lemma runs_orFail {ε' : Type} {f : ε → ε'} {x : Process I (Except ε α)} {b : Except ε' α} :
    Runs exec (orFail f x).run s b s' ↔ ∃ r, Runs exec x s r s' ∧ b = r.mapError f := by
  refine Iff.trans runs_bind ?_
  constructor
  · rintro ⟨a, s₁, hx, rfl, rfl⟩
    exact ⟨a, hx, rfl⟩
  · rintro ⟨a, hx, rfl⟩
    exact ⟨a, s', hx, rfl, rfl⟩

/-- An operation that did not fail. -/
lemma runs_orFail_ok {ε' : Type} {f : ε → ε'} {x : Process I (Except ε α)} :
    Runs exec (orFail f x).run s (.ok a) s' ↔ Runs exec x s (.ok a) s' := by
  rw [runs_orFail]
  constructor
  · rintro ⟨_ | _, hx, heq⟩ <;> cases heq
    exact hx
  · exact fun h => ⟨.ok a, h, rfl⟩

/-- **What every operation of a program does to the state, a whole run does**, for anything that
holds of no operation and of two in a row. -/
lemma Performs.runs_rel {R : S → S → Prop} {allowed : I.Op → Prop} (hrefl : ∀ s, R s s)
    (htrans : ∀ s s₁ s₂, R s s₁ → R s₁ s₂ → R s s₂)
    (hexec : ∀ op s r s', allowed op → exec op s r s' → R s s') :
    ∀ {s s' : S}, x.Performs allowed → Runs exec x s a s' → R s s' := by
  induction x with
  | done b =>
    rintro s s' - ⟨-, rfl⟩
    exact hrefl s'
  | call op next ih =>
    rintro s s' ⟨hop, hnext⟩ ⟨r, s₁, hfirst, hrest⟩
    exact htrans s s₁ s' (hexec op s r s₁ hop hfirst) (ih r (hnext r) hrest)

/-- A run whose operations have the same results in another sense is a run in that sense. -/
lemma Performs.transfer {T : Type} {exec' : (op : I.Op) → T → I.Res op → T → Prop}
    {allowed : I.Op → Prop}
    (hexec : ∀ op s r s' t, allowed op → exec op s r s' → ∃ t', exec' op t r t') :
    ∀ {s s' : S} {t : T}, x.Performs allowed → Runs exec x s a s' → ∃ t', Runs exec' x t a t' := by
  induction x with
  | done b =>
    rintro s s' t - ⟨rfl, -⟩
    exact ⟨t, rfl, rfl⟩
  | call op next ih =>
    rintro s s' t ⟨hop, hnext⟩ ⟨r, s₁, hfirst, hrest⟩
    obtain ⟨t₁, hfirst'⟩ := hexec op s r s₁ t hop hfirst
    obtain ⟨t', hrest'⟩ := ih r (hnext r) hrest
    exact ⟨t', r, t₁, hfirst', hrest'⟩

/-- The same when that is so for all operations. -/
lemma Runs.transfer {T : Type} {exec' : (op : I.Op) → T → I.Res op → T → Prop} {t : T}
    (hexec : ∀ op s r s' t, exec op s r s' → ∃ t', exec' op t r t') (h : Runs exec x s a s') :
    ∃ t', Runs exec' x t a t' :=
  (performs_all x).transfer (fun op s r s' t _ => hexec op s r s' t) h

/-- What comes out of a program in one sense of the operations comes out of it in another. -/
def Carries (exec exec' : (op : I.Op) → S → I.Res op → S → Prop) (x : Process I α) (a : α) : Prop :=
  ∀ s s' t, Runs exec x s a s' → ∃ t', Runs exec' x t a t'

section Carries

variable {exec' : (op : I.Op) → S → I.Res op → S → Prop}

/-- A program of operations with the same results. -/
lemma Performs.carries {allowed : I.Op → Prop} (hx : x.Performs allowed)
    (hexec : ∀ op s r s' t, allowed op → exec op s r s' → ∃ t', exec' op t r t') :
    Carries exec exec' x a :=
  fun _ _ _ h => hx.transfer hexec h

/-- A value that comes out of a sequence, when its parts carry theirs; what follows may use that
the first part had its value. -/
lemma Carries.bindExcept {x : ExceptT ε (Process I) α}
    (hx : ∀ a, Carries exec exec' x.run (.ok a))
    (hf : ∀ a s s', Runs exec x.run s (.ok a) s' → Carries exec exec' (f a).run (.ok b)) :
    Carries exec exec' (x >>= f).run (.ok b) := by
  intro s s' t h
  obtain ⟨a, s₁, hfirst, hrest⟩ := runs_bindExcept_ok.mp h
  obtain ⟨t₁, hfirst'⟩ := hx a s s₁ t hfirst
  obtain ⟨t', hrest'⟩ := hf a s s₁ hfirst s₁ s' t₁ hrest
  exact ⟨t', runs_bindExcept_ok.mpr ⟨a, t₁, hfirst', hrest'⟩⟩

/-- No value comes out of a failure. -/
lemma carries_throw {e : ε} {a : α} :
    Carries exec exec' (throw e : ExceptT ε (Process I) α).run (.ok a) :=
  fun _ _ _ h => by cases h.1

end Carries

section Logged

variable {E : Type} {entry : (op : I.Op) → I.Res op → E}

/-- An operation is written down in front of what was written down before. -/
def Logged (entry : (op : I.Op) → I.Res op → E) (op : I.Op) (log : List E) (r : I.Res op)
    (log' : List E) : Prop :=
  log' = entry op r :: log

variable {log log' : List E}

/-- What a program writes down does not depend on what is there. -/
lemma Runs.exists_log (h : Runs (Logged entry) x log a log') :
    ∃ own, log' = own ++ log ∧ ∀ before, Runs (Logged entry) x before a (own ++ before) := by
  induction x generalizing log with
  | done b =>
    obtain ⟨rfl, rfl⟩ := h
    exact ⟨[], rfl, fun _ => ⟨rfl, rfl⟩⟩
  | call op next ih =>
    obtain ⟨r, _, rfl, h⟩ := h
    obtain ⟨own, rfl, hown⟩ := ih r h
    refine ⟨own ++ [entry op r], by simp, fun before => ⟨r, _, rfl, ?_⟩⟩
    simpa using hown (entry op r :: before)

/-- **Every operation of a run is written down.** -/
lemma Runs.mem_log (h : Runs (Logged entry) x log a log') :
    (∀ e ∈ log, e ∈ log') ∧
      Runs (fun op (_ : Unit) r (_ : Unit) => entry op r ∈ log') x () a () := by
  induction x generalizing log with
  | done b =>
    obtain ⟨rfl, rfl⟩ := h
    exact ⟨fun _ he => he, rfl, rfl⟩
  | call op next ih =>
    obtain ⟨r, _, rfl, h⟩ := h
    obtain ⟨hlog, hruns⟩ := ih r h
    exact ⟨fun e he => hlog e (List.mem_cons_of_mem _ he), r, (), hlog _ List.mem_cons_self, hruns⟩

/-- **What a program has performed when it ends**, under a discipline that writes everything
down. -/
lemma follows_logged {G : Type} {D : Discipline I G} {view : G → List E}
    (hpre : ∀ op g, D.pre op g) (hnext : ∀ op r g, view (D.next op r g) = entry op r :: view g) :
    ∀ {g : G}, Follows D (fun a g' => Runs (Logged entry) x (view g) a (view g')) x g := by
  induction x with
  | done a => exact ⟨rfl, rfl⟩
  | call op next ih =>
    exact fun {g} => ⟨hpre op g, fun r => (ih r).mono fun a g' h => ⟨r, _, hnext op r g, h⟩⟩

end Logged

/-- Run a program to its end with operations that are functions of the state. -/
def play (exec : (op : I.Op) → S → Option (S × I.Res op)) : Process I α → S → Option (α × S)
  | done a, s => some (a, s)
  | call op next, s => (exec op s).bind fun (s', r) => (next r).play exec s'

/-- What is computed that way is a run. -/
lemma runs_of_play {perform : (op : I.Op) → S → Option (S × I.Res op)}
    (hexec : ∀ op s s' r, perform op s = some (s', r) → exec op s r s') :
    ∀ {s : S}, x.play perform s = some (a, s') → Runs exec x s a s' := by
  induction x with
  | done b =>
    intro s h
    cases Option.some.inj h
    exact ⟨rfl, rfl⟩
  | call op next ih =>
    intro s h
    obtain ⟨⟨s₁, r⟩, hop, hrest⟩ := Option.bind_eq_some_iff.mp h
    exact ⟨r, s₁, hexec op s s₁ r hop, ih r hrest⟩

end Process
