import VoxTrader.Connections.Service
import VoxTrader.Lib.Trace

/-!
# Calls of the connection service, side by side

Any number of calls of the connection service on its two databases. The calls run interleaved,
operation by operation, and any of them may be lost between two operations; a crash is the loss of
all that are not over, and a restart is a call of the recovery.

## Main definitions

* `Call`, `Call.program` — the calls of the service, and what they do.
* `serviceSystem` — all calls together.
* `serviceStart` — the databases before any call.
* `sampleWorld` — a small installation, on which closed runs are evaluated.
-/

namespace VoxTrader.Connections

/-- The calls of the service, with their arguments. -/
inductive Call
  | createConnection (security : SecurityContext) (request : CreateConnectionRequest)
      (credential : SecretBytes)
  | revalidate (security : SecurityContext) (id : ConnectionId)
  | rotateCredential (security : SecurityContext) (id : ConnectionId) (newCredential : SecretBytes)
  | disableConnection (security : SecurityContext) (id : ConnectionId)
  | deleteConnection (security : SecurityContext) (id : ConnectionId)
  | recoverConnectionLifecycle (security : SecurityContext)
  | bindAccount (security : SecurityContext) (id : ConnectionId) (providerAccountId : String)
      (voxAccountId : VoxAccountId)
  | unbindAccount (security : SecurityContext) (bindingId : BindingId)
  | disableBinding (security : SecurityContext) (bindingId : BindingId)
  | setExecutionAuthorization (security : SecurityContext) (id : ConnectionId)
      (providerAccountId : String) (mode : ExecutionAuthorizationMode)
  | setExecutionAuthorizationCas (security : SecurityContext) (id : ConnectionId)
      (providerAccountId : String) (mode : ExecutionAuthorizationMode) (expectedRevision : ℕ)
  | replaceRole (security : SecurityContext) (role : Role)
  | grantRole (security : SecurityContext) (userId : UserId) (roleId : RoleId)
  | listConnections (security : SecurityContext)
  | discoveredAccounts (security : SecurityContext) (id : ConnectionId)
  | accountBindings (security : SecurityContext) (id : ConnectionId)
  | executionAuthorization (security : SecurityContext) (id : ConnectionId)
      (providerAccountId : String)
  | validateReadAccess (id : ConnectionId) (providerAccountId : String)
      (voxAccountId : VoxAccountId)
  | validateExecutionAccess (id : ConnectionId) (providerAccountId : String)
      (voxAccountId : VoxAccountId) (purpose : ExecutionPurpose) (expectedRevision : Option ℕ)
  | validateRuntimeReadAccess (id : ConnectionId) (providerAccountId : String)
  | validateRuntimeExecutionAccess (id : ConnectionId) (providerAccountId : String)
      (purpose : ExecutionPurpose) (expectedRevision : Option ℕ)
  | openRuntimeReadClient (id : ConnectionId) (providerAccountId : String)
  | openRuntimeExecutionClient (id : ConnectionId) (providerAccountId : String)
      (purpose : ExecutionPurpose) (expectedRevision : ℕ)
deriving DecidableEq

/-- Reply with the result of a program. -/
def replyWith {α : Type} (answer : α → Answer) (x : Service α) : Process service Unit := do
  let result ← x.run
  Process.perform (I := service) (.reply (result.map answer))

/-- What a call does. -/
def Call.program : Call → Process service Unit
  | createConnection security request credential =>
    replyWith .connection (Connections.createConnection security request credential)
  | revalidate security id => replyWith .connection (Connections.revalidate security id)
  | rotateCredential security id newCredential =>
    replyWith (.rotated · true) (Connections.rotateCredential security id newCredential)
  | disableConnection security id =>
    replyWith .connection (Connections.disableConnection security id)
  | deleteConnection security id =>
    replyWith (fun _ => .finished) (Connections.deleteConnection security id)
  | recoverConnectionLifecycle security =>
    replyWith .recovered (Connections.recoverConnectionLifecycle security)
  | bindAccount security id providerAccountId voxAccountId =>
    replyWith .binding (Connections.bindAccount security id providerAccountId voxAccountId)
  | unbindAccount security bindingId =>
    replyWith (fun _ => .finished) (Connections.unbindAccount security bindingId)
  | disableBinding security bindingId =>
    replyWith (fun _ => .finished) (Connections.disableBinding security bindingId)
  | setExecutionAuthorization security id providerAccountId mode =>
    replyWith .authorization
      (Connections.setExecutionAuthorization security id providerAccountId mode)
  | setExecutionAuthorizationCas security id providerAccountId mode expectedRevision =>
    replyWith .authorization
      (Connections.setExecutionAuthorizationCas security id providerAccountId mode expectedRevision)
  | replaceRole security role =>
    replyWith (fun _ => .finished) (Connections.replaceRole security role)
  | grantRole security userId roleId =>
    replyWith (fun _ => .finished) (Connections.grantRole security userId roleId)
  | listConnections security => replyWith .connections (Connections.listConnections security)
  | discoveredAccounts security id =>
    replyWith .accounts (Connections.discoveredAccounts security id)
  | accountBindings security id => replyWith .bindings (Connections.accountBindings security id)
  | executionAuthorization security id providerAccountId =>
    replyWith .authorization (Connections.executionAuthorization security id providerAccountId)
  | validateReadAccess id providerAccountId voxAccountId =>
    replyWith .readAccess (Connections.validateReadAccess id providerAccountId voxAccountId)
  | validateExecutionAccess id providerAccountId voxAccountId purpose expectedRevision =>
    replyWith .executionAccess (Connections.validateExecutionAccess id providerAccountId
      voxAccountId purpose expectedRevision)
  | validateRuntimeReadAccess id providerAccountId =>
    replyWith .readAccess (Connections.validateRuntimeReadAccess id providerAccountId)
  | validateRuntimeExecutionAccess id providerAccountId purpose expectedRevision =>
    replyWith .executionAccess (Connections.validateRuntimeExecutionAccess id providerAccountId
      purpose expectedRevision)
  | openRuntimeReadClient id providerAccountId =>
    replyWith .readClient (Connections.openRuntimeReadClient id providerAccountId)
  | openRuntimeExecutionClient id providerAccountId purpose expectedRevision =>
    replyWith .executionClient (Connections.openRuntimeExecutionClient id providerAccountId
      purpose expectedRevision)

/-- **All calls together.** No operation waits for another, and nothing happens by itself. -/
def serviceSystem (fingerprint : SecretBytes → String) : System service where
  State := World
  Site := Call
  Job := Call
  Choice := Choice
  Event := Empty
  start call w := some (w, call, call.program)
  exec op _ _ choice w := some (execOp fingerprint choice w op)
  leave _ _ w := w
  detached _ := false
  event e _ := nomatch e

/-- The databases before any call. -/
def serviceStart (fingerprint : SecretBytes → String) (w : World) :
    (serviceSystem fingerprint).traced.Config :=
  ⟨⟨w, []⟩, []⟩

/-! ## A small installation -/

/-- A user who may do everything. -/
def operator : SecurityContext := ⟨1, 0⟩

/-- A healthy connection of the provider. -/
def sampleConnection : BrokerConnection where
  id := 2
  provider := "tinvest"
  environment := .production
  credentialRef := 3
  label := "main"
  credentialFingerprint := "A"
  credentialStatus := .valid
  credentialClass := .fullAccess
  credentialScope := .allAccessibleAccounts
  enabled := true
  health := healthNow operator "tinvest" .production .healthy .none none
  capabilities := [.productionOrdersProviderAllowed]
  createdAtUnixMs := 0
  updatedAtUnixMs := 0

/-- What the provider says about its credential. -/
def sampleDiscovery : ProviderDiscovery where
  credentialClass := .fullAccess
  credentialScope := .allAccessibleAccounts
  connectionCapabilities := [.productionOrdersProviderAllowed]
  accounts := [⟨"acc", none, true, [.productionOrdersProviderAllowed]⟩]

/-- One connection with one account, which is bound, and whose mode is as given. -/
def sampleWorld (mode : ExecutionAuthorizationMode) : World where
  db :=
    { users := [⟨1, true⟩]
      roles := [⟨1, "operator", [.viewConnectionMetadata, .manageCredentials,
        .disableDeleteConnection, .discoverAccounts, .bindAccounts, .submitProductionManualOrders,
        .enableAutomatedProductionExecution, .emergencyHalt, .securityAdmin]⟩]
      userRoles := [(1, 1)]
      connections := [sampleConnection]
      accounts := materializeAccounts sampleConnection sampleDiscovery.accounts 0
      bindings := [⟨4, 2, "tinvest", .production, "acc", 1, true, 0, 0⟩]
      authorizations := [⟨2, "acc", mode, 1, 1, 0⟩]
      audits := [] }
  secrets := ⟨[⟨3, ⟨"tinvest", .production⟩, [65], "A", false⟩]⟩
  nextUuid := 5

/-- The digest of a credential in the installation: the credential as a text. -/
def sampleFingerprint (secret : SecretBytes) : String :=
  String.ofList (secret.map fun byte => Char.ofNat byte.toNat)

/-- The stores work, and the provider accepts the credential. -/
def allWell : Choice := ⟨false, .ok sampleDiscovery, .ok ()⟩

/-- So many operations of a process, when all is well. -/
def operations (who count : ℕ) : List (serviceSystem sampleFingerprint).traced.Label :=
  List.replicate count (.run who allWell)

end VoxTrader.Connections
