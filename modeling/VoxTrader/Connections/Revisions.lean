import VoxTrader.Connections.CutOff

/-!
# Captured grants expire

The authorization of an account carries a revision, and whoever sends orders names the revision
they have seen. Three writers change an authorization: a call that sets the mode, the withdrawal
after the provider has taken access away, and the rotation of a credential. All of them raise the
revision. So a grant with an older revision is refused, and of all calls that expect the same
revision one at most is carried out.

## Main definitions

* `Moves` — what an operation does to the authorization of an account.
* `Became` — what has become of an authorization.

## Main results

* `moves_of_exec` — every operation does one of these.
* `became_reach` — **revisions only grow**.
* `connection_keeps_identity` — what a connection is, it is for good.
* `grants_expire` — **a grant expires with every change**.
-/

namespace VoxTrader.Connections

open Process System

/-! ## What the operations do to authorizations -/

/-- What an operation does to the authorization of an account. -/
inductive Moves (op : RepositoryOp) (id : ConnectionId) (providerAccountId : String) :
    Option ExecutionAuthorization → Option ExecutionAuthorization → Prop
  | kept {stored : Option ExecutionAuthorization} : Moves op id providerAccountId stored stored
  | put {old changed : ExecutionAuthorization} {expectedRevision : ℕ}
      (hop : op = .putAuthorization changed expectedRevision)
      (hkey : changed.key = (id, providerAccountId))
      (hold : old.authorizationRevision = expectedRevision)
      (hnew : changed.authorizationRevision = expectedRevision + 1) :
      Moves op id providerAccountId (some old) (some changed)
  | invalidated {old : ExecutionAuthorization} {actor : UserId} {now : ℤ}
      (hop : op = .invalidateConnectionAuthorizations id actor now) :
      Moves op id providerAccountId (some old) (some { old with
        authorizationRevision := old.authorizationRevision + 1
        changedBy := actor
        changedAtUnixMs := now })
  | inserted {row : BrokerConnection} {accounts : List BrokerAccount}
      {authorizations : List ExecutionAuthorization} {new : ExecutionAuthorization}
      (hop : op = .insertOnboarding row accounts authorizations) (hnew : new ∈ authorizations)
      (hrow : row.id = id) : Moves op id providerAccountId none (some new)
  | deleted {old : ExecutionAuthorization} (hop : op = .finalizeConnectionDelete id) :
      Moves op id providerAccountId (some old) none

/-- An authorization is written over one with the expected revision. -/
lemma putAuthorization_eq_ok {db db' : ConnectionsDb} {changed : ExecutionAuthorization}
    {expected : ℕ} (h : db.putAuthorization changed expected = .ok db') :
    ∃ old, Rows.select ExecutionAuthorization.key changed.key db.authorizations = some old ∧
      old.authorizationRevision = expected ∧
      changed.authorizationRevision = expected + 1 ∧
      ∀ key, Rows.select ExecutionAuthorization.key key db'.authorizations =
        if key = changed.key then some changed
        else Rows.select ExecutionAuthorization.key key db.authorizations := by
  unfold ConnectionsDb.putAuthorization at h
  split_ifs at h
  split at h
  · cases h
  · rename_i old hold
    split_ifs at h with hrevision
    refine ⟨old, hold, hrevision.1, hrevision.2, fun key => ?_⟩
    rw [← Except.ok.inj h, Rows.select_overwrite]
    split_ifs with hkey
    · rw [hkey, hold, Option.map_some]
    · rfl

/-- **Every operation that succeeds does one of these.** -/
lemma moves_of_exec {db db' : ConnectionsDb} {op : RepositoryOp} {audits : List AuditRecord}
    {a : op.Value} (h : op.execAudited db audits = .ok (a, db')) {id : ConnectionId}
    {providerAccountId : String} : Moves op id providerAccountId
      (db.authorization id providerAccountId) (db'.authorization id providerAccountId) := by
  obtain ⟨db₁, hop, haudits⟩ := RepositoryOp.execAudited_eq_ok.mp h
  rw [appendAudits_eq_ok haudits]
  have hframe := (RepositoryOp.exec_frame hop).authorizations
  have hconnection (a : ExecutionAuthorization) (ha : a.key = (id, providerAccountId)) :
      a.connectionId = id := congrArg Prod.fst ha
  change Moves op id providerAccountId
    (Rows.select ExecutionAuthorization.key (id, providerAccountId) db.authorizations)
    (Rows.select ExecutionAuthorization.key (id, providerAccountId) db₁.authorizations)
  cases op with
  | insertOnboarding row accounts authorizations =>
    obtain ⟨-, rfl, -, hids, -⟩ := insertOnboarding_eq_ok (wrote_eq_ok.mp hop)
    rw [Rows.select_concat]
    rcases Rows.select ExecutionAuthorization.key (id, providerAccountId) db.authorizations
      with _ | old
    · rw [Option.none_or]
      rcases hnew : Rows.select ExecutionAuthorization.key (id, providerAccountId) authorizations
        with _ | new
      · exact .kept
      · obtain ⟨hmem, hkey⟩ := Rows.mem_of_select hnew
        exact .inserted rfl hmem ((hids new hmem).symm.trans (hconnection new hkey))
    · exact .kept
  | finalizeConnectionDelete id' =>
    replace hop := wrote_eq_ok.mp hop
    unfold ConnectionsDb.finalizeConnectionDelete at hop
    split at hop
    · cases hop
    · rw [← Except.ok.inj hop]
      by_cases hid : id = id'
      · subst hid
        rw [Rows.select_filter_none fun a ha => by simp [hconnection a ha]]
        rcases Rows.select ExecutionAuthorization.key (id, providerAccountId) db.authorizations
          with _ | old
        · exact .kept
        · exact .deleted rfl
      · rw [Rows.select_filter fun a ha => by simpa [hconnection a ha] using hid]
        exact .kept
  | putAuthorization =>
    obtain ⟨old, hold, hfound, hraised, hafter⟩ := putAuthorization_eq_ok (wrote_eq_ok.mp hop)
    rw [hafter]
    split_ifs with hkey
    · rw [hkey, hold]
      exact .put rfl hkey.symm hfound hraised
    · exact .kept
  | invalidateConnectionAuthorizations id' actor now =>
    replace hop := wrote_eq_ok.mp hop
    unfold ConnectionsDb.invalidateConnectionAuthorizations at hop
    split_ifs at hop
    have hsameKey (a : ExecutionAuthorization) : ExecutionAuthorization.key { a with
        authorizationRevision := a.authorizationRevision + 1
        changedBy := actor
        changedAtUnixMs := now } = a.key := rfl
    rw [← Except.ok.inj hop, Rows.select_update hsameKey]
    rcases hold : Rows.select ExecutionAuthorization.key (id, providerAccountId) db.authorizations
      with _ | old
    · exact .kept
    · have hid := hconnection old (Rows.mem_of_select hold).2
      by_cases hsame : old.connectionId = id'
      · rw [Option.map_some, if_pos hsame]
        exact .invalidated (hsame ▸ hid ▸ rfl)
      · rw [Option.map_some, if_neg hsame]
        exact .kept
  | _ =>
    rw [hframe.resolve_left (by simp [RepositoryOp.tables])]
    exact .kept

/-! ## What becomes of an authorization -/

section Runs

variable {fingerprint : SecretBytes → String} {w w' w₀ : World}
  {trace : List (serviceSystem fingerprint).Performed} {who : ℕ} {site : Call}
  {id : ConnectionId} {providerAccountId : String}

variable {choice : Choice} {op : Op} {r : op.Res} {old : ExecutionAuthorization} {revision : ℕ}
  {stored : ExecutionAuthorization}

/-- What an operation of a call does to the authorization of an account. -/
lemma moves_of_execOp (hexec : execOp fingerprint choice w op = (w', r)) (id : ConnectionId)
    (providerAccountId : String) :
    w'.db.authorization id providerAccountId = w.db.authorization id providerAccountId ∨
      ∃ rop audits a db, op = .repository rop audits ∧
        rop.execAudited w.db audits = .ok (a, db) ∧ w'.db = db ∧
        Moves rop id providerAccountId (w.db.authorization id providerAccountId)
          (w'.db.authorization id providerAccountId) := by
  rcases execOp_db hexec with hsame | ⟨op, audits, a, rfl, hop⟩
  · exact .inl (by rw [hsame])
  · exact .inr ⟨op, audits, a, _, rfl, hop, rfl, moves_of_exec hop⟩

/-- The connection was seen by a call. -/
def Seen (trace : List (serviceSystem fingerprint).Performed) (id : ConnectionId) : Prop :=
  ∃ e ∈ trace, ∃ row, (id, row) ∈ (done e).rows

/-- The connection is gone for good. -/
def Gone (w : World) (trace : List (serviceSystem fingerprint).Performed) (id : ConnectionId) :
    Prop :=
  (∀ row ∈ w.db.connections, row.id ≠ id) ∧ Seen trace id

/-- A connection that is gone does not come back. -/
lemma Gone.step (h : Gone w trace id) (haccounted : Accounted w trace)
    (hexec : execOp fingerprint choice w op = (w', r))
    (hrule : Rule site (historyOf who trace) op) :
    Gone w' ((⟨who, site, op, r⟩ : (serviceSystem fingerprint).Performed) :: trace) id := by
  obtain ⟨hrows, e, he, row, hrow⟩ := h
  refine ⟨fun row' hrow' hid => ?_, e, List.mem_cons_of_mem _ he, row, hrow⟩
  rcases row_of_exec hexec hrow' with ⟨old, hold, heq, -⟩ | ⟨audits, rfl⟩
  · exact hrows old hold (heq.trans hid)
  · refine haccounted.ids.unused hrule ⟨row.fixed, .inr ⟨e, he, row, ?_, rfl⟩⟩
    rw [hid]
    exact hrow

/-- What has become of an authorization: it is there, or a later one, or its connection is gone. -/
def Became (w : World) (trace : List (serviceSystem fingerprint).Performed) (id : ConnectionId)
    (providerAccountId : String) (old : ExecutionAuthorization) : Prop :=
  (∃ new, w.db.authorization id providerAccountId = some new ∧
    (new = old ∨ old.authorizationRevision < new.authorizationRevision)) ∨
  (w.db.authorization id providerAccountId = none ∧ Gone w trace id)

/-- **One operation raises the revision, or leaves the authorization alone.** -/
lemma Became.step (h : Became w trace id providerAccountId old) (haccounted : Accounted w trace)
    (hexec : execOp fingerprint choice w op = (w', r))
    (hrule : Rule site (historyOf who trace) op) :
    Became w' ((⟨who, site, op, r⟩ : (serviceSystem fingerprint).Performed) :: trace) id
      providerAccountId old := by
  rcases h with ⟨new, hnew, hlater⟩ | ⟨hnone, hgone⟩
  · rcases moves_of_execOp hexec id providerAccountId with
      hsame | ⟨rop, audits, a, db, rfl, hop, rfl, hmoves⟩
    · exact .inl ⟨new, hsame.trans hnew, hlater⟩
    · rw [hnew] at hmoves
      generalize hafter : w'.db.authorization id providerAccountId = after at hmoves
      have hraised {b : ExecutionAuthorization} (hb : after = some b)
          (hrevision : b.authorizationRevision = new.authorizationRevision + 1) :
          old.authorizationRevision < b.authorizationRevision := by
        rcases hlater with rfl | hlater <;> omega
      cases hmoves with
      | kept => exact .inl ⟨new, hafter, hlater⟩
      | put hrop hkey hold hrevision =>
        exact .inl ⟨_, hafter, .inr (hraised rfl (hrevision.trans (by rw [hold])))⟩
      | invalidated => exact .inl ⟨_, hafter, .inr (hraised rfl rfl)⟩
      | deleted hrop =>
        subst hrop
        refine .inr ⟨hafter, (RepositoryOp.execAudited_connections hop).no_row, ?_⟩
        obtain ⟨-, row, d, hd, hrow⟩ := hrule
        obtain ⟨e, he, -, rfl⟩ := mem_historyOf.mp hd
        exact ⟨e, List.mem_cons_of_mem _ he, row, hrow⟩
  · refine .inr ⟨?_, hgone.step haccounted hexec hrule⟩
    rcases moves_of_execOp hexec id providerAccountId with
      hsame | ⟨rop, audits, a, db, rfl, hop, rfl, hmoves⟩
    · exact hsame.trans hnone
    · rw [hnone] at hmoves
      generalize w'.db.authorization id providerAccountId = after at hmoves
      cases hmoves with
      | kept => rfl
      | inserted hrop hmem hid =>
        subst hrop
        obtain ⟨row, hrow, heq⟩ := (RepositoryOp.execAudited_connections hop).found rfl
        exact absurd (heq.trans hid) (hgone.1 row hrow)

variable {good : (serviceSystem fingerprint).traced.Condition}
  {c₁ c₂ c₃ : (serviceSystem fingerprint).traced.Config}

/-- **Revisions only grow.** -/
theorem became_reach (h₀ : w₀.Consistent) (h₁ : Reach good (serviceStart fingerprint w₀) c₁)
    (h₂ : Reach good c₁ c₂)
    (hfirst : Became c₁.state.state c₁.state.trace id providerAccountId old) :
    Became c₂.state.state c₂.state.trace id providerAccountId old :=
  invariant_reach (fun w trace => Became w trace id providerAccountId old) h₁ hfirst
    (fun hreach _ _ hrule hexec hbecame => hbecame.step (accounted_reach h₀ hreach) hexec hrule) h₂

/-! ## Grants -/

/-- A call that expects a revision of an authorization carries its change out. -/
def Commits (e : (serviceSystem fingerprint).Performed) (id : ConnectionId)
    (providerAccountId : String) (revision : ℕ) : Prop :=
  (∃ mode, Call.sets e.site = some (id, providerAccountId, mode)) ∧
    Call.expects e.site = some revision ∧
    (∃ changed expectedRevision audits,
      e.op = .repository (.putAuthorization changed expectedRevision) audits) ∧
    (done e).wrote = true

/-- A change that was carried out has found the revision it expects, and leaves another one. -/
lemma Commits.exec {e : (serviceSystem fingerprint).Performed}
    (h : Commits e id providerAccountId revision) (hrule : Rule e.site (historyOf who trace) e.op)
    (hexec : execOp fingerprint choice w e.op = (w', e.res)) :
    (∃ old, w.db.authorization id providerAccountId = some old ∧
      old.authorizationRevision = revision) ∧
    ∃ new, w'.db.authorization id providerAccountId = some new ∧
      new.authorizationRevision = revision + 1 := by
  obtain ⟨who', site, op, r⟩ := e
  obtain ⟨⟨mode, hsets⟩, hexpects, ⟨changed, expected, audits, rfl⟩, hwrote⟩ := h
  obtain ⟨previous, hchange⟩ := hrule
  obtain rfl := hchange.expected revision hexpects
  have hkey : changed.key = (id, providerAccountId) := by
    rcases hchange.set with ⟨hnone, -⟩ | ⟨hset, -⟩
    · cases hnone.symm.trans hsets
    · obtain ⟨rfl, hrest⟩ := Option.pair_inj (hset.symm.trans hsets)
      exact congrArg _ (Prod.mk.inj hrest).1
  rcases execOp_repository hexec with ⟨-, error, heq⟩ | ⟨a, db, hop, rfl, -⟩
  · rw [show r = _ from heq] at hwrote
    cases hwrote
  · obtain ⟨db₁, hop, haudits⟩ := RepositoryOp.execAudited_eq_ok.mp hop
    obtain ⟨old, hold, hfound, hraised, hafter⟩ := putAuthorization_eq_ok (wrote_eq_ok.mp hop)
    rw [hkey] at hold hafter
    refine ⟨⟨old, hold, hfound⟩, changed, ?_, hraised⟩
    rw [appendAudits_eq_ok haudits]
    exact (hafter _).trans (if_pos rfl)

/-- An operation that wrote nothing leaves the connection database alone. -/
lemma db_of_wrote (hexec : execOp fingerprint choice w op = (w', r))
    (hwrote : Done.wrote ⟨op, r⟩ = false) : w'.db = w.db := by
  rcases op with ⟨op, audits⟩ | op | _ | _ | _ | _
  · rcases hreads : (Op.repository op audits).reads with _ | _
    · rcases execOp_repository hexec with ⟨rfl, -⟩ | ⟨a, db, -, -, rfl⟩
      · rfl
      · simp only [Done.wrote, hreads] at hwrote
        cases hwrote
    · rw [execOp_of_reads hreads hexec]
  · rcases execOp_secret hexec with ⟨rfl, -⟩ | ⟨a, secrets, -, rfl, -⟩ <;> rfl
  all_goals rw [← (Prod.mk.inj hexec).1]

/-- Two calls that expect the same revision do not both carry their change out. -/
lemma commits_once (h₀ : w₀.Consistent) (h : Reach good (serviceStart fingerprint w₀) c₁)
    {newer middle older : List (serviceSystem fingerprint).Performed}
    {first second : (serviceSystem fingerprint).Performed}
    (htrace : c₁.state.trace = newer ++ second :: (middle ++ first :: older))
    (hfirst : Commits first id providerAccountId revision)
    (hsecond : Commits second id providerAccountId revision) : False := by
  obtain ⟨at₂, _, choice₂, _, hreach₂, htrace₂, hthread₂, hexec₂, -⟩ := performed_at h rfl htrace
  obtain ⟨at₁, after₁, choice₁, _, hreach₁, -, hthread₁, hexec₁, -, hafter, hthen⟩ :=
    performed_at hreach₂ rfl htrace₂
  obtain ⟨-, new, hnew, hraised⟩ :=
    hfirst.exec (rule_reach hreach₁ hthread₁) (Option.some.inj hexec₁)
  obtain ⟨⟨old, hold, hfound⟩, -⟩ :=
    hsecond.exec (rule_reach hreach₂ hthread₂) (Option.some.inj hexec₂)
  rcases became_reach h₀ hafter hthen (.inl ⟨new, hnew, .inl rfl⟩) with
    ⟨later, hlater, hsame⟩ | ⟨hnone, -⟩
  · cases hlater.symm.trans hold
    rcases hsame with rfl | hlt <;> omega
  · cases hnone.symm.trans hold

/-- An authorization is seen by reading it. -/
lemma op_of_authorization (hread : Done.authorization id providerAccountId ⟨op, r⟩ = some stored) :
    ∃ audits, op = .repository (.authorization id providerAccountId) audits := by
  rcases op with ⟨op, audits⟩ | op | _ | _ | _ | _
  · cases op with
    | authorization =>
      simp only [Done.authorization] at hread
      split_ifs at hread with hkey
      obtain ⟨rfl, rfl⟩ := hkey
      exact ⟨audits, rfl⟩
    | _ => cases hread
  all_goals cases hread

/-- What is seen is there. -/
lemma authorization_of_exec (hexec : execOp fingerprint choice w op = (w', r))
    (hread : Done.authorization id providerAccountId ⟨op, r⟩ = some stored) :
    w.db.authorization id providerAccountId = some stored := by
  obtain ⟨audits, rfl⟩ := op_of_authorization hread
  have hanswer : Done.authorization.stored r = some stored := (if_pos ⟨rfl, rfl⟩).symm.trans hread
  rcases r with _ | found
  · cases hanswer
  · obtain ⟨db, hfound⟩ := read_of_exec hexec
    exact (Except.pair_inj hfound).1.trans hanswer

/-- A call that names a revision does not succeed with an authorization it reads after a change. -/
lemma no_stale_grant (h₀ : w₀.Consistent) (h₁ : Reach good (serviceStart fingerprint w₀) c₁)
    (h₂ : Reach good c₁ c₂) (h₃ : Reach good c₂ c₃)
    (hold : c₁.state.state.db.authorization id providerAccountId = some old)
    (hchanged : c₂.state.state.db.authorization id providerAccountId ≠ some old) {who : ℕ}
    {site : Call} {answer : Answer} {next : Unit → Process service Unit}
    (hthread : c₃.threads[who]? = some (site, .call (.reply (.ok answer)) next))
    (hexecutes : site.executesOn = some (id, providerAccountId, old.authorizationRevision))
    (hlater : ∀ e ∈ c₂.state.trace, e.who = who → ∀ audits,
      e.op ≠ .repository (.authorization id providerAccountId) audits) : False := by
  obtain ⟨d, hd, stored, hread, hrevision⟩ :=
    (rule_reach (h₁.trans (h₂.trans h₃)) hthread).executes _ _ _ hexecutes
  obtain ⟨e, he, hwho, rfl⟩ := mem_historyOf.mp hd
  -- it was read after the change
  rcases performed_reach h₃ he with hbefore | ⟨before, after, choice, -, hthen, -, -, hexec, -⟩
  · obtain ⟨audits, hop⟩ := op_of_authorization hread
    exact hlater e hbefore hwho audits hop
  have hstored := authorization_of_exec (Option.some.inj hexec) hread
  -- the change has raised the revision
  have hraised : ∃ new : ExecutionAuthorization,
      old.authorizationRevision < new.authorizationRevision ∧
      Became c₂.state.state c₂.state.trace id providerAccountId new := by
    rcases became_reach h₀ h₁ h₂ (.inl ⟨old, hold, .inl rfl⟩) with
      ⟨new, hnew, rfl | hlt⟩ | hgone
    · exact absurd hnew hchanged
    · exact ⟨new, hlt, .inl ⟨new, hnew, .inl rfl⟩⟩
    · exact ⟨{ old with authorizationRevision := old.authorizationRevision + 1 },
        Nat.lt_succ_self _, .inr hgone⟩
  obtain ⟨new, hlt, hnew⟩ := hraised
  rcases became_reach h₀ (h₁.trans h₂) hthen hnew with ⟨later, hlater, hsame⟩ | ⟨hnone, -⟩
  · cases hlater.symm.trans hstored
    rcases hsame with rfl | hsame <;> omega
  · cases hnone.symm.trans hstored

/-- **What a connection is, it is for good.** However calls interleave and whichever are lost: a
connection that a call has seen keeps its credential, its provider and its environment, and once it
is gone no connection has its id again. -/
theorem connection_keeps_identity (h₀ : w₀.Consistent)
    (h₁ : Reach (fun _ _ => True) (serviceStart fingerprint w₀) c₁)
    (h₂ : Reach (fun _ _ => True) c₁ c₂) {row : BrokerConnection}
    (hseen : ∃ e ∈ c₁.state.trace, (id, row) ∈ (done e).rows) :
    (∀ row' ∈ c₂.state.state.db.connections, row'.id = id → row'.fixed = row.fixed) ∧
      ((∀ row' ∈ c₁.state.state.db.connections, row'.id ≠ id) →
        ∀ row' ∈ c₂.state.state.db.connections, row'.id ≠ id) := by
  obtain ⟨e, he, hrow⟩ := hseen
  refine ⟨fun row' hrow' hid => ?_, fun hgone => ?_⟩
  · obtain ⟨newer, htrace⟩ := trace_reach h₂
    have he₂ : e ∈ c₂.state.trace := htrace ▸ List.mem_append_right _ he
    exact (accounted_reach h₀ (h₁.trans h₂)).one (.inl ⟨row', hrow', hid, rfl⟩)
      (.inr ⟨e, he₂, row, hrow, rfl⟩)
  · exact (invariant_reach (Gone · · id) h₁ ⟨hgone, e, he, row, hrow⟩
      (fun hreach _ _ hrule hexec h => h.step (accounted_reach h₀ hreach) hexec hrule) h₂).1

/-- A connection is disabled and deleted, and stays away. -/
theorem deleted_connection_stays_away : ∃ c : (serviceSystem sampleFingerprint).traced.Config,
    c.state.state.db.connections = [] ∧ ∀ c', Reach (fun _ _ => True) c c' →
      ∀ row ∈ c'.state.state.db.connections, row.id ≠ 2 := by
  obtain ⟨c, hc, hempty, hseen⟩ : ∃ c, (serviceStart sampleFingerprint (sampleWorld .disabled)).run
      (.start (.disableConnection operator 2) :: operations 0 6 ++
        .start (.deleteConnection operator 2) :: operations 1 6) = some c ∧
      c.state.state.db.connections = [] ∧
      c.state.trace.any fun e => (done e).rows.any (·.1 = 2) := by
    decide +kernel
  simp only [List.any_eq_true, decide_eq_true_eq] at hseen
  obtain ⟨e, he, ⟨_, row⟩, hrow, rfl⟩ := hseen
  refine ⟨c, hempty, fun c' h => (connection_keeps_identity sampleWorld_consistent
    (Config.reach_of_run hc) h ⟨e, he, hrow⟩).2 ?_⟩
  rw [hempty]
  exact fun _ hmem => by cases hmem

/-- **A grant expires with every change.** In every run of calls of the service: between two points
an authorization is the same, or has a higher revision, or is gone with its connection. Of all
calls that expect the same revision of an authorization one at most carries its change out. A call
that sets a mode and is about to reply with an error has changed nothing. And a call that names a
revision does not succeed with an authorization it reads after a change. -/
theorem grants_expire (h₀ : w₀.Consistent)
    (h₁ : Reach (fun _ _ => True) (serviceStart fingerprint w₀) c₁)
    (h₂ : Reach (fun _ _ => True) c₁ c₂) :
    (∀ id providerAccountId old, c₁.state.state.db.authorization id providerAccountId = some old →
      c₂.state.state.db.authorization id providerAccountId = none ∨
        ∃ new, c₂.state.state.db.authorization id providerAccountId = some new ∧
          (new = old ∨ old.authorizationRevision < new.authorizationRevision)) ∧
    (∀ id providerAccountId revision newer middle older first second,
      c₂.state.trace = newer ++ second :: (middle ++ first :: older) →
      ¬ (Commits first id providerAccountId revision ∧
        Commits second id providerAccountId revision)) ∧
    (∀ who site error next choice c,
      c₂.threads[who]? = some (site, .call (.reply (.error error)) next) →
      Call.sets site ≠ none → c₁.step (.run who choice) = some c → Reach (fun _ _ => True) c c₂ →
      c.state.state.db = c₁.state.state.db) ∧
    (∀ id providerAccountId old c₃ who site answer next,
      c₁.state.state.db.authorization id providerAccountId = some old →
      c₂.state.state.db.authorization id providerAccountId ≠ some old →
      Reach (fun _ _ => True) c₂ c₃ →
      (∀ e ∈ c₂.state.trace, e.who = who → ∀ audits,
        e.op ≠ .repository (.authorization id providerAccountId) audits) →
      Call.executesOn site = some (id, providerAccountId, old.authorizationRevision) →
      c₃.threads[who]? ≠ some (site, .call (.reply (.ok answer)) next)) := by
  refine ⟨fun id providerAccountId old hold => ?_, ?_, ?_, ?_⟩
  · rcases became_reach h₀ h₁ h₂ (.inl ⟨old, hold, .inl rfl⟩) with hnew | hgone
    · exact .inr hnew
    · exact .inl hgone.1
  · rintro id providerAccountId revision newer middle older first second htrace ⟨hfirst, hsecond⟩
    exact commits_once h₀ (h₁.trans h₂) htrace hfirst hsecond
  · intro who site error next choice c hthread hsets hstep hthen
    obtain ⟨newer, htrace⟩ := trace_reach hthen
    cases tracedStep_of_step hstep with
    | @run _ _ site' op _ state r _ hexec =>
      refine db_of_wrote (Option.some.inj hexec)
        (rule_reach (h₁.trans h₂) hthread hsets _ (mem_historyOf.mpr
          ⟨⟨who, site', op, r⟩, ?_, rfl, rfl⟩))
      rw [htrace]
      exact List.mem_append_right _ List.mem_cons_self
  · intro id providerAccountId old c₃ who site answer next hold hchanged h₃ hlater hexecutes hthread
    exact no_stale_grant h₀ h₁ h₂ h₃ hold hchanged hthread hexecutes hlater

end Runs

/-- A mode is set, and whoever names the revision of before is refused. -/
theorem grants_expire_sample : ∃ c : (serviceSystem sampleFingerprint).traced.Config,
    Reach (fun _ _ => True) (serviceStart sampleFingerprint (sampleWorld .disabled)) c ∧
    c.state.state.db.authorization 2 "acc" = some ⟨2, "acc", .manualAllowed, 2, 1, 0⟩ ∧
    ∀ c' who answer next, Reach (fun _ _ => True) c c' →
      (∀ e ∈ c.state.trace, e.who = who → ∀ audits,
        e.op ≠ .repository (.authorization 2 "acc") audits) →
      c'.threads[who]? ≠ some (.validateExecutionAccess 2 "acc" 1 .productionManual (some 1),
        .call (.reply (.ok answer)) next) := by
  obtain ⟨c, hc, hnew⟩ : ∃ c, (serviceStart sampleFingerprint (sampleWorld .disabled)).run
      ([.start (.setExecutionAuthorizationCas operator 2 "acc" .manualAllowed 1)] ++
        operations 0 7) = some c ∧
      c.state.state.db.authorization 2 "acc" = some ⟨2, "acc", .manualAllowed, 2, 1, 0⟩ := by
    decide +kernel
  have hreach := Config.reach_of_run hc
  refine ⟨c, hreach, hnew, fun c' who answer next hthen hlater => ?_⟩
  have hold : (serviceStart sampleFingerprint (sampleWorld .disabled)).state.state.db.authorization
      2 "acc" = some ⟨2, "acc", .disabled, 1, 1, 0⟩ := by
    decide +kernel
  refine (grants_expire sampleWorld_consistent .refl hreach).2.2.2 2 "acc" _ c' who _ answer next
    hold ?_ hthen hlater rfl
  rw [hnew]
  decide

/-- A call that has read the authorization already is not stopped: `validate_execution_access` with
revision 1 reads the authorization of revision 1, it is withdrawn and now has revision 2, and the
call goes on to the credential and replies that the access is granted. -/
theorem grant_in_flight_succeeds :
    (sampleWorld .manualAllowed).db.authorization 2 "acc" =
      some ⟨2, "acc", .manualAllowed, 1, 1, 0⟩ ∧
    ∃ c₂, (serviceStart sampleFingerprint (sampleWorld .manualAllowed)).run
      ([.start (.validateExecutionAccess 2 "acc" 1 .productionManual (some 1))] ++ operations 0 4 ++
        [.start (.setExecutionAuthorizationCas operator 2 "acc" .disabled 1)] ++
        operations 1 7) = some c₂ ∧
      c₂.state.state.db.authorization 2 "acc" = some ⟨2, "acc", .disabled, 2, 1, 0⟩ ∧
    ∃ c₃, c₂.run (operations 0 2) = some c₃ ∧
      c₃.state.trace.head?.any (fun e => Call.executesOn e.site = some (2, "acc", 1) &&
        e.op.succeeds) = true := by
  decide +kernel

end VoxTrader.Connections
