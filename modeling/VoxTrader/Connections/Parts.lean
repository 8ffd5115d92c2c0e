import VoxTrader.Connections.System

/-!
# Which parts of the calls only read

Much of what the calls of the connection service do only looks at the databases, or asks the
provider.

## Main definitions

* `Op.reads` — the operation changes nothing.
* `Reads` — the program changes nothing.

## Main results

* `reads_require`, `reads_accessChanged`, `reads_boundVoxAccount`, … — programs that only read.
* `execOp_of_reads` — what such an operation does.
-/

namespace VoxTrader.Connections

open Process
open Performs (bindExcept)

/-- The operation of the connection database changes nothing. -/
def RepositoryOp.reads : RepositoryOp → Bool
  | permissions _ | connection _ | listConnections | accounts _ | bindings _ | authorization _ _ =>
    true
  | _ => false

/-- The operation changes nothing, and is not a reply. -/
def Op.reads : Op → Bool
  | .repository op audits => op.reads && audits.isEmpty
  | .secret (.get _ _) | .secret .metadata | .validateAndDiscover _ _ _ | .buildClient _ _ => true
  | _ => false

/-- The program only reads. -/
abbrev Reads {α : Type} (x : Process service α) : Prop := x.Performs (Op.reads · = true)

/-- What is read does not change. -/
lemma execOp_of_reads {fingerprint : SecretBytes → String} {choice : Choice} {w w' : World}
    {op : Op} {r : op.Res} (hop : op.reads = true)
    (h : execOp fingerprint choice w op = (w', r)) : w' = w := by
  rcases op with ⟨op, audits⟩ | op | _ | _ | _ | _
  · obtain ⟨hreads, haudits⟩ := (Bool.and_eq_true _ _).mp hop
    obtain rfl := List.isEmpty_iff.mp haudits
    rcases execOp_repository h with ⟨rfl, -⟩ | ⟨a, db, hexec, rfl, -⟩
    · rfl
    · obtain ⟨db₁, hexec, hnone⟩ := RepositoryOp.execAudited_eq_ok.mp hexec
      have hsame : db₁ = w.db := by
        cases op <;> first | exact (Except.pair_inj hexec).2.symm | cases hreads
      rw [appendAudits_eq_ok hnone, hsame, List.append_nil]
  · rcases execOp_secret h with ⟨rfl, -⟩ | ⟨a, secrets, hexec, rfl, -⟩
    · rfl
    · cases op with
      | get =>
        obtain ⟨secret, -, heq⟩ := Except.map_eq_ok.mp hexec
        rw [← (Prod.mk.inj heq).2]
      | metadata => rw [← (Except.pair_inj hexec).2]
      | _ => cases hop
  · exact (Prod.mk.inj h).1.symm
  · cases hop
  · exact (Prod.mk.inj h).1.symm
  · cases hop

section

variable {α : Type} {allowed : Op → Prop}

/-- An operation of the connection database. -/
lemma performs_recorded {op : RepositoryOp} {audits : List AuditRecord}
    (h : allowed (.repository op audits)) :
    (recorded op audits).run.Performs allowed :=
  Performs.orFail (performs_perform h)

/-- An operation of the credential store. -/
lemma performs_secretStore {op : SecretOp} (h : allowed (.secret op)) :
    (secretStore op).run.Performs allowed :=
  Performs.orFail (performs_perform h)

lemma performs_ofExcept {x : Except ServiceError α} : (ofExcept x).run.Performs allowed := trivial

end

variable {security : SecurityContext}

lemma reads_require {permission : Permission} : Reads (require security permission).run :=
  bindExcept (performs_recorded rfl) fun _ => performs_ofExcept

lemma reads_hasAny {permissions : List Permission} : Reads (hasAny security permissions).run := by
  induction permissions with
  | nil => exact performs_pure
  | cons permission others ih =>
    refine bindExcept (performs_recorded rfl) fun granted => ?_
    split_ifs
    · exact performs_pure
    · exact ih

lemma reads_readConnection (id : ConnectionId) : Reads (readConnection id).run :=
  bindExcept (performs_recorded rfl) fun _ => performs_ofExcept

variable {id : ConnectionId}

lemma reads_authorizationConflict {accounts : List BrokerAccount} :
    Reads (authorizationConflict id accounts).run := by
  induction accounts with
  | nil => exact performs_pure
  | cons account others ih =>
    refine bindExcept (performs_recorded rfl) fun authorization => ?_
    dsimp only
    split_ifs
    · exact performs_pure
    · exact ih

lemma reads_accessChanged {previous current : List BrokerAccount} :
    Reads (accessChanged id previous current).run := by
  unfold accessChanged
  split_ifs
  · exact performs_pure
  · exact reads_authorizationConflict

lemma reads_mayLower (security : SecurityContext) (previous mode : ExecutionAuthorizationMode) :
    Reads (mayLower security previous mode).run := by
  unfold mayLower
  split_ifs
  · exact reads_hasAny
  · exact performs_pure

lemma reads_requireAuthorizationTransition
    {environment : BrokerEnvironment} {previous mode : ExecutionAuthorizationMode} :
    Reads (requireAuthorizationTransition security environment previous mode).run := by
  refine bindExcept (reads_mayLower _ _ _) fun allowed => ?_
  split_ifs
  · exact performs_pure
  · exact reads_require

/-! ## Access -/

lemma reads_boundVoxAccount {account : String} : Reads (boundVoxAccount id account).run :=
  bindExcept (performs_recorded rfl) fun _ => performs_ofExcept

end VoxTrader.Connections
