import VoxTrader.Connections.Rules
import VoxTrader.Lib.Supply

/-!
# A connection that was disabled gives no more access

Disabling a connection disables its credential, and nothing undoes that: a rotation leaves a
disabled credential alone, and no other call stores a credential under a reference that was used.
A late write to the row of the connection may call it enabled again. But whoever asks for access
has to read the credential, and the credential a connection refers to never changes. Only a call
that has read it already goes on.

## Main definitions

* `Owner` — what a connection is, or was seen to be, for good.
* `Accounted` — how the databases and the history of a run fit together.

## Main results

* `accounted_reach` — they fit together in every run.
* `disabled_gives_no_access` — **no call that asks for the credential after the connection was
  disabled is granted access**.
-/

namespace VoxTrader.Connections

open Process System

section

variable {fingerprint : SecretBytes → String} {w w' : World}
  {trace : List (serviceSystem fingerprint).Performed} {who : ℕ} {site : Call}

/-! ## Databases and histories -/

/-- The connection has, or was seen to have, what is fixed. -/
def Owner (w : World) (trace : List (serviceSystem fingerprint).Performed) (id : ConnectionId)
    (fixed : CredentialRef × ProviderId × BrokerEnvironment) : Prop :=
  (∃ row ∈ w.db.connections, row.id = id ∧ row.fixed = fixed) ∨
    ∃ e ∈ trace, ∃ row, (id, row) ∈ (done e).rows ∧ row.fixed = fixed

/-- A credential is stored under the reference, or was disabled. -/
def Stored (w : World) (trace : List (serviceSystem fingerprint).Performed) (ref : CredentialRef) :
    Prop :=
  (∃ row ∈ w.secrets.credentials, row.credentialRef = ref) ∨ ∃ e ∈ trace, (done e).cut = some ref

/-- The UUIDs that a call has drawn and not used, as `used` tells from an operation. -/
def Kept (used : Done → Option ℕ) (trace : List (serviceSystem fingerprint).Performed) (who n : ℕ) :
    Prop :=
  (∃ d ∈ historyOf who trace, d.drew = some n) ∧ ∀ d ∈ historyOf who trace, used d ≠ some n

/-- How the databases and the history of a run fit together. -/
structure Accounted (w : World) (trace : List (serviceSystem fingerprint).Performed) : Prop where
  one : ∀ {id fixed fixed'}, Owner w trace id fixed → Owner w trace id fixed' → fixed = fixed'
  ids : Supply w.nextUuid (Kept Done.usedId trace) fun id => ∃ fixed, Owner w trace id fixed
  refs : Supply w.nextUuid (Kept Done.usedRef trace) (Stored w trace)
  cut : ∀ {e ref}, e ∈ trace → (done e).cut = some ref → ∀ row ∈ w.secrets.credentials,
    row.credentialRef = ref → row.disabled = true

/-- Databases from before any call: every connection has one row, and the UUIDs in use were
drawn. -/
structure World.Consistent (w : World) : Prop where
  one : Rows.Unique BrokerConnection.id w.db.connections
  ids : ∀ row ∈ w.db.connections, row.id < w.nextUuid
  refs : ∀ row ∈ w.secrets.credentials, row.credentialRef < w.nextUuid

/-- They fit with the empty history. -/
lemma World.Consistent.accounted (h : w.Consistent) :
    Accounted w ([] : List (serviceSystem fingerprint).Performed) := by
  have hnone {used : Done → Option ℕ} {who n} :
      ¬ Kept used ([] : List (serviceSystem fingerprint).Performed) who n := by
    rintro ⟨⟨d, hd, -⟩, -⟩
    cases hd
  have howner {id fixed}
      (hid : Owner w ([] : List (serviceSystem fingerprint).Performed) id fixed) :
      ∃ row ∈ w.db.connections, row.id = id ∧ row.fixed = fixed :=
    hid.resolve_right fun ⟨_, he, _⟩ => by cases he
  refine ⟨fun h₁ h₂ => ?_, ⟨fun hn => absurd hn hnone, ?_, fun hn => absurd hn hnone,
    fun hn => absurd hn hnone⟩, ⟨fun hn => absurd hn hnone, ?_, fun hn => absurd hn hnone,
    fun hn => absurd hn hnone⟩, nofun⟩
  · obtain ⟨row, hrow, hid, rfl⟩ := howner h₁
    obtain ⟨row', hrow', hid', rfl⟩ := howner h₂
    rw [h.one.eq_of_key_eq hrow hrow' (hid.trans hid'.symm)]
  · rintro id ⟨fixed, hid⟩
    obtain ⟨row, hrow, rfl, -⟩ := howner hid
    exact h.ids row hrow
  · rintro ref (⟨row, hrow, rfl⟩ | ⟨e, he, -⟩)
    · exact h.refs row hrow
    · cases he

/-! ## One operation -/

variable {used : Done → Option ℕ} {op : Op} {r : op.Res} {choice : Choice}

/-- What a call keeps after an operation it kept before, or draws now. -/
lemma kept_cons {other n : ℕ}
    (h : Kept used ((⟨who, site, op, r⟩ : (serviceSystem fingerprint).Performed) :: trace)
      other n) :
    (other = who → used ⟨op, r⟩ ≠ some n) ∧
      (Kept used trace other n ∨ Done.drew ⟨op, r⟩ = some n ∧ other = who) := by
  obtain ⟨⟨d, hd, hdrew⟩, hunused⟩ := h
  have hkept (hd : d ∈ historyOf other trace) : Kept used trace other n := by
    refine ⟨⟨d, hd, hdrew⟩, fun d' hd' => hunused d' ?_⟩
    obtain ⟨e, he, hwho⟩ := mem_historyOf.mp hd'
    exact mem_historyOf.mpr ⟨e, List.mem_cons_of_mem _ he, hwho⟩
  refine ⟨fun hother => hunused _ (mem_historyOf.mpr ⟨_, List.mem_cons_self, hother.symm, rfl⟩), ?_⟩
  obtain ⟨e, he, hwho, rfl⟩ := mem_historyOf.mp hd
  rcases List.mem_cons.mp he with rfl | he
  · exact .inr ⟨hdrew, hwho.symm⟩
  · exact .inl (hkept (mem_historyOf.mpr ⟨e, he, hwho, rfl⟩))

section

variable (hexec : execOp fingerprint choice w op = (w', r))

include hexec

/-- A row is one that was there, or is inserted now. -/
lemma row_of_exec {row : BrokerConnection}
    (hrow : row ∈ w'.db.connections) :
    (∃ old ∈ w.db.connections, old.id = row.id ∧ old.fixed = row.fixed) ∨
      ∃ audits, op = .repository (.insertConnection row) audits := by
  rcases execOp_db hexec with hsame | ⟨op, audits, a, rfl, hop⟩
  · exact .inl ⟨row, hsame ▸ hrow, rfl, rfl⟩
  · exact ((RepositoryOp.execAudited_connections hop).row hrow).imp_right
      fun heq => ⟨audits, by rw [heq]⟩

/-- What a connection is after an operation it was before, or it is inserted now. -/
lemma owner_cons {id : ConnectionId}
    {fixed : CredentialRef × ProviderId × BrokerEnvironment}
    (h : Owner w' ((⟨who, site, op, r⟩ : (serviceSystem fingerprint).Performed) :: trace)
      id fixed) :
    Owner w trace id fixed ∨
      ∃ row audits, op = .repository (.insertConnection row) audits ∧ row.id = id ∧
        row.fixed = fixed := by
  rcases h with ⟨row, hrow, rfl, rfl⟩ | ⟨e, he, row, hrow, rfl⟩
  · exact (row_of_exec hexec hrow).imp .inl fun ⟨audits, hop⟩ => ⟨row, audits, hop, rfl, rfl⟩
  · refine .inl ?_
    rcases List.mem_cons.mp he with rfl | he
    · obtain ⟨hmem, hid⟩ := rows_of_exec hexec hrow
      exact .inl ⟨row, hmem, hid, rfl⟩
    · exact .inr ⟨e, he, row, hrow, rfl⟩

/-- Disabling a credential finds it, and leaves it disabled. -/
lemma cut_of_exec {ref : CredentialRef}
    (hcut : Done.cut ⟨op, r⟩ = some ref) :
    (∃ row ∈ w.secrets.credentials, row.credentialRef = ref) ∧
      ∀ row ∈ w'.secrets.credentials, row.credentialRef = ref → row.disabled = true := by
  rcases op with ⟨op, audits⟩ | op | _ | _ | _ | _
  · cases hcut
  · cases op with
    | disable =>
      rcases execOp_secret hexec with ⟨-, e, rfl⟩ | ⟨a, secrets, hop, rfl, rfl⟩
      · cases hcut
      · cases hcut
        obtain ⟨db, hdisable, heq⟩ := Except.map_eq_ok.mp hop
        cases heq
        exact disable_credentials hdisable
    | _ => cases hcut
  all_goals cases hcut

/-- A credential is one that was there, and if that was disabled it is, or it is stored now. -/
lemma credential_of_exec
    {row : EncryptedCredential} (hrow : row ∈ w'.secrets.credentials) :
    (∃ old ∈ w.secrets.credentials, old.credentialRef = row.credentialRef ∧
      (old.disabled = true → row.disabled = true)) ∨
      ∃ context secret, op = .secret (.put row.credentialRef context secret) := by
  have hsame (hsecrets : w'.secrets = w.secrets) : ∃ old ∈ w.secrets.credentials,
      old.credentialRef = row.credentialRef ∧ (old.disabled = true → row.disabled = true) :=
    ⟨row, hsecrets ▸ hrow, rfl, fun h => h⟩
  rcases op with ⟨op, audits⟩ | op | _ | _ | _ | _
  · rcases execOp_repository hexec with ⟨rfl, -⟩ | ⟨a, db, -, rfl, -⟩ <;> exact .inl (hsame rfl)
  · rcases execOp_secret hexec with ⟨rfl, -⟩ | ⟨a, secrets, hop, rfl, -⟩
    · exact .inl (hsame rfl)
    · refine (SecretOp.exec_credentials hop hrow).imp_right ?_
      rintro ⟨context, secret, rfl⟩
      exact ⟨context, secret, rfl⟩
  all_goals exact .inl (hsame (by rw [← (Prod.mk.inj hexec).1]))

/-- UUIDs are drawn in turn. -/
lemma nextUuid_of_exec :
    (w'.nextUuid = w.nextUuid ∧ Done.drew ⟨op, r⟩ = none) ∨
      (w'.nextUuid = w.nextUuid + 1 ∧ op = .newUuid ∧ Done.drew ⟨op, r⟩ = some w.nextUuid) := by
  rcases op with ⟨op, audits⟩ | op | _ | _ | _ | _
  · rcases execOp_repository hexec with ⟨rfl, -⟩ | ⟨a, db, -, rfl, -⟩ <;> exact .inl ⟨rfl, rfl⟩
  · rcases execOp_secret hexec with ⟨rfl, -⟩ | ⟨a, secrets, -, rfl, -⟩ <;> exact .inl ⟨rfl, rfl⟩
  · exact .inl ⟨by rw [← (Prod.mk.inj hexec).1], rfl⟩
  · cases hexec
    exact .inr ⟨rfl, rfl, rfl⟩
  all_goals exact .inl ⟨by rw [← (Prod.mk.inj hexec).1], rfl⟩

end

/-- The supply of UUIDs after an operation. -/
lemma supply_step {U U' : ℕ → Prop} (h : Supply w.nextUuid (Kept used trace) U)
    (hexec : execOp fingerprint choice w op = (w', r)) (hdraw : op = .newUuid → used ⟨op, r⟩ = none)
    (hU : ∀ n, U' n → U n ∨ (used ⟨op, r⟩ = some n ∧ Kept used trace who n)) : Supply w'.nextUuid
      (Kept used ((⟨who, site, op, r⟩ : (serviceSystem fingerprint).Performed) :: trace)) U' := by
  rcases nextUuid_of_exec hexec with ⟨hnext, hnone⟩ | ⟨hnext, hop, hdrew⟩
  · have hkept {other n} (hn : Kept used ((⟨who, site, op, r⟩ :
        (serviceSystem fingerprint).Performed) :: trace) other n) : Kept used trace other n :=
      (kept_cons hn).2.resolve_right fun hdrew => by rw [hnone] at hdrew; cases hdrew.1
    rw [hnext]
    by_cases huse : ∃ n, used ⟨op, r⟩ = some n ∧ Kept used trace who n
    · obtain ⟨n, hn, hold⟩ := huse
      refine h.use hold (fun _ _ => hkept) (fun hgone => (kept_cons hgone).1 rfl hn) fun m hm => ?_
      exact (hU m hm).imp_right fun hused => Option.some.inj (hused.1.symm.trans hn)
    · exact h.mono (fun _ _ => hkept) fun n hn => (hU n hn).resolve_right fun hused =>
        huse ⟨n, hused⟩
  · rw [hnext]
    refine h.draw (fun other n hn => (kept_cons hn).2.imp_right fun hnew => ⟨?_, hnew.2⟩)
      fun n hn => ?_
    · exact (Option.some.inj (hdrew.symm.trans hnew.1)).symm
    · refine (hU n hn).resolve_right fun hused => ?_
      rw [hdraw hop] at hused
      cases hused.1

/-- **One operation of a call.** -/
lemma Accounted.step (h : Accounted w trace) (hexec : execOp fingerprint choice w op = (w', r))
    (hrule : Rule site (historyOf who trace) op) :
    Accounted w' ((⟨who, site, op, r⟩ : (serviceSystem fingerprint).Performed) :: trace) := by
  have hunused {id fixed row audits} (hop : op = .repository (.insertConnection row) audits)
      (hid : row.id = id) : ¬ Owner w trace id fixed := by
    subst hop hid
    exact fun hold => h.ids.unused hrule ⟨fixed, hold⟩
  constructor
  · intro id fixed fixed' h₁ h₂
    rcases owner_cons hexec h₁ with hold₁ | ⟨row₁, audits₁, hop₁, hid₁, rfl⟩ <;>
      rcases owner_cons hexec h₂ with hold₂ | ⟨row₂, audits₂, hop₂, hid₂, rfl⟩
    · exact h.one hold₁ hold₂
    · exact absurd hold₁ (hunused hop₂ hid₂)
    · exact absurd hold₂ (hunused hop₁ hid₁)
    · cases hop₁.symm.trans hop₂
      rfl
  · refine supply_step h.ids hexec (fun hop => by subst hop; rfl) fun id ⟨fixed, hid⟩ => ?_
    rcases owner_cons hexec hid with hold | ⟨row, audits, rfl, rfl, -⟩
    · exact .inl ⟨fixed, hold⟩
    · exact .inr ⟨rfl, hrule⟩
  · refine supply_step h.refs hexec (fun hop => by subst hop; rfl) fun ref href => ?_
    rcases href with ⟨row, hrow, rfl⟩ | ⟨e, he, hcut⟩
    · rcases credential_of_exec hexec hrow with ⟨old, hold, heq, -⟩ | ⟨context, secret, rfl⟩
      · exact .inl (.inl ⟨old, hold, heq⟩)
      · exact .inr ⟨rfl, hrule⟩
    · rcases List.mem_cons.mp he with rfl | he
      · exact .inl (.inl (cut_of_exec hexec hcut).1)
      · exact .inl (.inr ⟨e, he, hcut⟩)
  · intro e ref he hcut row hrow hid
    rcases List.mem_cons.mp he with rfl | hbefore
    · exact (cut_of_exec hexec hcut).2 row hrow hid
    · rcases credential_of_exec hexec hrow with ⟨old, hold, heq, hkept⟩ | ⟨context, secret, rfl⟩
      · exact hkept (h.cut hbefore hcut old hold (heq.trans hid))
      · exact absurd (.inr ⟨e, hbefore, hid ▸ hcut⟩) (h.refs.unused hrule)

/-- **The databases and the history fit together in every run.** -/
theorem accounted_reach {w₀ : World}
    {good : (serviceSystem fingerprint).traced.Condition}
    {c : (serviceSystem fingerprint).traced.Config} (h₀ : w₀.Consistent)
    (h : Reach good (serviceStart fingerprint w₀) c) : Accounted c.state.state c.state.trace :=
  invariant_reach Accounted .refl h₀.accounted (fun _ _ _ hrule hexec h => h.step hexec hrule) h

end

/-! ## Access -/

section Access

variable {fingerprint : SecretBytes → String}

/-- What is read is a credential that is not disabled. -/
lemma got_of_exec {choice : Choice} {w w' : World} {op : Op} {r : op.Res}
    (hexec : execOp fingerprint choice w op = (w', r)) {ref : CredentialRef}
    (hgot : Done.got ⟨op, r⟩ = some ref) :
    (∃ context, op = .secret (.get ref context)) ∧
      ∃ row ∈ w.secrets.credentials, row.credentialRef = ref ∧ row.disabled = false := by
  rcases op with ⟨op, audits⟩ | op | _ | _ | _ | _
  · cases hgot
  · cases op with
    | get ref' context =>
      rcases execOp_secret hexec with ⟨-, e, rfl⟩ | ⟨a, secrets, hop, rfl, rfl⟩
      · cases hgot
      · cases hgot
        obtain ⟨secret, hget, -⟩ := Except.map_eq_ok.mp hop
        obtain ⟨row, hrow, href, hdisabled, -⟩ := get_eq_ok hget
        exact ⟨⟨context, rfl⟩, row, hrow, href, hdisabled⟩
    | _ => cases hgot
  all_goals cases hgot

variable {w₀ : World} {c : (serviceSystem fingerprint).traced.Config}
  {between older : List (serviceSystem fingerprint).Performed}
  {disabling granting : (serviceSystem fingerprint).Performed} {id : ConnectionId}

/-- The call asks for a credential in this part of the history. -/
def Asks (who : ℕ) (trace : List (serviceSystem fingerprint).Performed) : Prop :=
  ∃ e ∈ trace, e.who = who ∧ e.op.asks = true

/-- What a call asked for last is in the newer part of the history, unless it asked only in the
older one. -/
lemma mem_of_find_asks {who : ℕ} {d : Done}
    (hfind : (historyOf who (between ++ older)).find? Done.asks = some d)
    (hagain : Asks who older → Asks who between) : ∃ e ∈ between, e.who = who ∧ done e = d := by
  rw [historyOf, List.filter_append, List.map_append, List.find?_append] at hfind
  rcases Option.or_eq_some_iff.mp hfind with hnewer | ⟨hnone, holder⟩
  · exact mem_historyOf.mp (List.mem_of_find?_eq_some hnewer)
  · obtain ⟨e, he, hwho, rfl⟩ := mem_historyOf.mp (List.mem_of_find?_eq_some holder)
    have hasked : Done.asks (done e) = true := List.find?_some holder
    obtain ⟨e', he', hwho', hasks⟩ := hagain ⟨e, he, hwho, hasked⟩
    have hno := List.find?_eq_none.mp hnone (done e') (mem_historyOf.mpr ⟨e', he', hwho', rfl⟩)
    exact absurd hasks hno

/-- **No access after a connection was disabled.** Once a call that disables a connection has
replied that it did, no call for access to that connection replies that it succeeded, however the
calls of the service and the recovery are interleaved, unless the last credential that it asked for
it had asked for before that reply. -/
theorem disabled_gives_no_access (h₀ : w₀.Consistent)
    (h : Reach (fun _ _ => True) (serviceStart fingerprint w₀) c)
    (htrace : c.state.trace = granting :: (between ++ disabling :: older))
    (hdisables : Call.disables disabling.site = some id)
    (hdisabled : ∃ answer, disabling.op = .reply (.ok answer))
    (haccess : Call.accessTo granting.site = some id)
    (hagain : Asks granting.who older → Asks granting.who between) (answer : Answer) :
    granting.op ≠ .reply (.ok answer) := by
  intro hgranted
  -- what the two calls had done when they replied
  obtain ⟨disabled, hdisabled⟩ := hdisabled
  obtain ⟨at₁, -, -, next₁, hreach₁, rfl, hthread₁, -⟩ :=
    performed_at h rfl (htrace.trans (List.cons_append ..).symm)
  have hrule₁ := rule_reach hreach₁ hthread₁
  rw [hdisabled] at hrule₁
  obtain ⟨row₁, ⟨d₁, hd₁, hrow₁⟩, d₂, hd₂, hcut⟩ := hrule₁.disabled id hdisables
  obtain ⟨at₂, -, -, next₂, hreach₂, htrace₂, hthread₂, -⟩ :=
    performed_at h rfl (htrace.trans (List.nil_append _).symm)
  have hrule₂ := rule_reach hreach₂ hthread₂
  rw [hgranted, htrace₂] at hrule₂
  obtain ⟨row₂, ⟨d₃, hd₃, hrow₂⟩, d₄, hd₄, hgot⟩ := hrule₂.access id haccess
  obtain ⟨e₁, he₁, -, rfl⟩ := mem_historyOf.mp hd₁
  obtain ⟨e₂, he₂, -, rfl⟩ := mem_historyOf.mp hd₂
  obtain ⟨e₃, he₃, -, rfl⟩ := mem_historyOf.mp hd₃
  -- both mean the same credential
  have hbefore {e} (he : e ∈ at₁.state.trace) : e ∈ at₂.state.trace := by
    rw [htrace₂]
    exact List.mem_append_right _ (List.mem_cons_of_mem _ he)
  have hfixed := (accounted_reach h₀ hreach₂).one (.inr ⟨e₁, hbefore he₁, row₁, hrow₁, rfl⟩)
    (.inr ⟨e₃, htrace₂.symm ▸ he₃, row₂, hrow₂, rfl⟩)
  have href : row₁.credentialRef = row₂.credentialRef := congrArg Prod.fst hfixed
  -- it was read when it had been disabled
  obtain ⟨e₄, he₄, -, rfl⟩ := mem_of_find_asks hd₄ fun ⟨e, he, hwho, hasks⟩ => by
    rcases List.mem_cons.mp he with rfl | he
    · rw [hdisabled] at hasks
      cases hasks
    · exact hagain ⟨e, he, hwho, hasks⟩
  obtain ⟨after, before, rfl⟩ := List.append_of_mem he₄
  rw [List.append_assoc, List.cons_append] at htrace₂
  obtain ⟨at₃, _, choice, -, hreach₃, htrace₃, -, hexec, -⟩ := performed_at hreach₂ rfl htrace₂
  obtain ⟨-, row, hrow, hid, henabled⟩ := got_of_exec (Option.some.inj hexec) hgot
  have hcutBefore : e₂ ∈ at₃.state.trace := by
    rw [htrace₃]
    exact List.mem_append_right _ (List.mem_cons_of_mem _ he₂)
  have hno := (accounted_reach h₀ hreach₃).cut hcutBefore hcut row hrow (hid.trans href.symm)
  cases henabled.symm.trans hno

end Access

/-- The installation is consistent. -/
lemma sampleWorld_consistent {mode : ExecutionAuthorizationMode} : (sampleWorld mode).Consistent :=
  ⟨List.nodup_singleton _, by cases mode <;> decide, by cases mode <;> decide⟩

/-- The connection is disabled, and then somebody asks for access. -/
theorem disabled_gives_no_access_sample : ∃ (c : (serviceSystem sampleFingerprint).traced.Config)
    (granting reading disabling : (serviceSystem sampleFingerprint).Performed)
    (older : List (serviceSystem sampleFingerprint).Performed),
    Reach (fun _ _ => True) (serviceStart sampleFingerprint (sampleWorld .manualAllowed)) c ∧
      c.state.trace = granting :: ([reading] ++ disabling :: older) ∧
      Call.disables disabling.site = some 2 ∧ Call.accessTo granting.site = some 2 ∧
      (∃ answer, disabling.op = .reply (.ok answer)) ∧
      ∀ answer, granting.op ≠ .reply (.ok answer) := by
  obtain ⟨c, hc, granting, hgranting, disabling, hdisabling, hdisables, haccess, hwho, holder,
      hreply⟩ : ∃ c, (serviceStart sampleFingerprint (sampleWorld .manualAllowed)).run
        ([.start (.disableConnection operator 2)] ++ operations 0 6 ++
          [.start (.validateReadAccess 2 "acc" 1)] ++ operations 1 2) = some c ∧
      ∃ granting, c.state.trace[0]? = some granting ∧
      ∃ disabling, c.state.trace[2]? = some disabling ∧
        Call.disables disabling.site = some 2 ∧ Call.accessTo granting.site = some 2 ∧
        granting.who = 1 ∧ (∀ e ∈ c.state.trace.drop 3, e.who = 0) ∧
        disabling.op.succeeds = true := by
    decide +kernel
  have hreach := Config.reach_of_run hc
  have hdisabled := Op.succeeds_iff.mp hreply
  rcases htrace : c.state.trace with _ | ⟨_, _ | ⟨reading, _ | ⟨_, older⟩⟩⟩
  all_goals rw [htrace] at hgranting hdisabling holder
  all_goals cases hgranting
  all_goals cases hdisabling
  have hagain : Asks granting.who older → Asks granting.who [reading] := by
    rintro ⟨e, he, heq, -⟩
    rw [holder e he, hwho] at heq
    cases heq
  exact ⟨c, granting, reading, disabling, older, hreach, htrace, hdisables, haccess, hdisabled,
    disabled_gives_no_access sampleWorld_consistent hreach htrace hdisables hdisabled haccess
      hagain⟩

/-- A call that has the credential already is not stopped: `open_runtime_read_client` reads it, the
connection is disabled, and the client is built and handed out nevertheless. -/
theorem access_in_flight_succeeds : ∃ c,
    (serviceStart sampleFingerprint (sampleWorld .manualAllowed)).run
      ([.start (.openRuntimeReadClient 2 "acc")] ++ operations 0 5 ++
        [.start (.disableConnection operator 2)] ++ operations 1 6 ++ operations 0 2) = some c ∧
    -- the newest operation comes first
    ∃ granting, c.state.trace[0]? = some granting ∧
    ∃ disabling, c.state.trace[2]? = some disabling ∧
      Call.disables disabling.site = some 2 ∧ disabling.op.succeeds = true ∧
      Call.accessTo granting.site = some 2 ∧ granting.op.succeeds = true := by
  decide +kernel

end VoxTrader.Connections
