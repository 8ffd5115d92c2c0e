import VoxTrader.Lib.Check
import Mathlib.Data.List.Infix

/-!
# Keys of execution scopes

The server and the frontend tell scopes apart by a key that joins the parts of a scope. The ids in
it are free texts, and neither constructor refuses the character the parts are joined with.

## Main results

* `scope_keys_injective` — the keys of two scopes are equal only if the scopes are, exactly when the
  scopes are not one text cut at two of its separators.
-/

namespace VoxTrader.Api

/-- The provider of an account. -/
inductive ProviderDto
  | tInvest
deriving DecidableEq

/-- The environment of the provider. -/
inductive BrokerEnvironment
  | sandbox
  | production
deriving DecidableEq

/-- The mode of trading; live is the only one. -/
inductive TradingMode
  | live
deriving DecidableEq

/-- Why a scope is refused. -/
inductive ScopeError
  | emptyAccount
  | emptyConnection
  | secretLikeConnection
deriving DecidableEq

/-- The target of a read or a command. -/
structure ExecutionScope where
  provider : ProviderDto
  environment : BrokerEnvironment
  brokerConnectionId : String
  accountId : String
  tradingMode : TradingMode
deriving DecidableEq

/-- An account id is not blank. -/
def requireAccountId (value : String) : Except ScopeError String :=
  if Text.isBlank value then .error .emptyAccount else .ok value

/-- A connection id is not blank and does not look like a secret. -/
def requireConnectionId (value : String) : Except ScopeError String :=
  if Text.isBlank value then .error .emptyConnection
  else if value.utf8ByteSize > 256 ∨ value.toList.any Text.isWhitespace ∨
      ∃ needle ∈ ["bearer", "token=", "secret=", "t."],
        needle.toList <:+: value.toList.map Char.toLower then
    .error .secretLikeConnection
  else .ok value

/-- The constructor: both ids are checked, and the connection id first. -/
def ExecutionScope.new (provider : ProviderDto) (environment : BrokerEnvironment)
    (brokerConnectionId accountId : String) (tradingMode : TradingMode) :
    Except ScopeError ExecutionScope := do
  let brokerConnectionId ← requireConnectionId brokerConnectionId
  let accountId ← requireAccountId accountId
  pure ⟨provider, environment, brokerConnectionId, accountId, tradingMode⟩

/-- The name of a provider in the key of the server. -/
def ProviderDto.debug : ProviderDto → String
  | tInvest => "TInvest"

/-- The name of an environment in the key of the server. -/
def BrokerEnvironment.debug : BrokerEnvironment → String
  | sandbox => "Sandbox"
  | production => "Production"

/-- The key of the server. -/
def ExecutionScope.key (scope : ExecutionScope) : String :=
  scope.provider.debug ++ ":" ++ scope.environment.debug ++ ":" ++ scope.brokerConnectionId ++
    ":" ++ scope.accountId

/-! ## The key of the frontend -/

/-- The name of a provider on the wire. -/
def ProviderDto.wire : ProviderDto → String
  | tInvest => "T_INVEST"

/-- The name of an environment on the wire. -/
def BrokerEnvironment.wire : BrokerEnvironment → String
  | sandbox => "SANDBOX"
  | production => "PRODUCTION"

/-- The name of a mode on the wire. -/
def TradingMode.wire : TradingMode → String
  | live => "LIVE"

/-- The key of an account context, which is a scope as the frontend holds it. -/
def accountContextKey (context : ExecutionScope) : String :=
  "\u001f".intercalate [context.provider.wire, context.environment.wire,
    context.brokerConnectionId, context.accountId, context.tradingMode.wire]

/-! ## Injectivity -/

/-- The texts of the one scope have a separator later than those of the other: its connection id
goes on with a separator and a text that the other account id begins with. -/
def CutLater (separator : Char) (a b : ExecutionScope) : Prop :=
  ∃ text, a.brokerConnectionId.toList = b.brokerConnectionId.toList ++ separator :: text ∧
    b.accountId.toList = text ++ separator :: a.accountId.toList

/-- Two scopes of one environment are the same text cut at two of its separators. -/
def Collide (separator : Char) (a b : ExecutionScope) : Prop :=
  a.environment = b.environment ∧ (CutLater separator a b ∨ CutLater separator b a)

/-- Scopes that collide are two: the one connection id is longer than the other. -/
lemma Collide.ne {separator : Char} {a b : ExecutionScope} (h : Collide separator a b) :
    a ≠ b := by
  rintro rfl
  obtain ⟨-, ⟨text, hconnection, -⟩ | ⟨text, hconnection, -⟩⟩ := h
  all_goals
    have hlength := congrArg List.length hconnection
    simp at hlength

/-- The ids of two scopes joined with a separator are equal if the ids are, or if the joined text
is cut at two separators. -/
lemma joined_eq_iff {separator : Char} {a b : ExecutionScope} :
    a.brokerConnectionId.toList ++ separator :: a.accountId.toList =
        b.brokerConnectionId.toList ++ separator :: b.accountId.toList ↔
      (a.brokerConnectionId = b.brokerConnectionId ∧ a.accountId = b.accountId) ∨
        CutLater separator a b ∨ CutLater separator b a := by
  simp only [CutLater, List.append_eq_append_iff, List.cons_eq_append_iff, ← String.toList_inj]
  -- which of the two connection ids is the longer one, and whether by anything
  constructor
  · rintro (⟨x, hx, ⟨rfl, h⟩ | ⟨y, rfl, h⟩⟩ | ⟨x, hx, ⟨rfl, h⟩ | ⟨y, rfl, h⟩⟩)
    · simp_all
    · exact .inr (.inr ⟨y, hx, h⟩)
    · simp_all
    · exact .inr (.inl ⟨y, hx, h⟩)
  · rintro (⟨hconnection, haccount⟩ | ⟨y, hx, h⟩ | ⟨y, hx, h⟩)
    · exact .inl ⟨[], by simp [hconnection], by simp [haccount]⟩
    · exact .inr ⟨_, hx, .inr ⟨y, rfl, h⟩⟩
    · exact .inl ⟨_, hx, .inr ⟨y, rfl, h⟩⟩

/-- A key that shows the environment and joins the two ids tells scopes apart exactly if they do
not collide. -/
lemma injective_iff_of_joined {separator : Char} {a b : ExecutionScope} {key : Prop}
    (hkey : key ↔ a.environment = b.environment ∧
      a.brokerConnectionId.toList ++ separator :: a.accountId.toList =
        b.brokerConnectionId.toList ++ separator :: b.accountId.toList) :
    (key → a = b) ↔ ¬ Collide separator a b := by
  rw [hkey, joined_eq_iff]
  constructor
  · intro hinj hcollide
    exact hcollide.ne (hinj ⟨hcollide.1, .inr hcollide.2⟩)
  · rintro hapart ⟨henvironment, ⟨hconnection, haccount⟩ | hcut⟩
    · obtain ⟨⟨⟩, environment, connection, account, ⟨⟩⟩ := a
      obtain ⟨⟨⟩, environment', connection', account', ⟨⟩⟩ := b
      cases henvironment
      cases hconnection
      cases haccount
      rfl
    · exact absurd ⟨henvironment, hcut⟩ hapart

/-- Server keys are equal if the environments and the joined ids are. -/
lemma key_eq_iff (a b : ExecutionScope) : a.key = b.key ↔ a.environment = b.environment ∧
    a.brokerConnectionId.toList ++ ':' :: a.accountId.toList =
      b.brokerConnectionId.toList ++ ':' :: b.accountId.toList := by
  obtain ⟨⟨⟩, environment, connection, account, ⟨⟩⟩ := a
  obtain ⟨⟨⟩, environment', connection', account', ⟨⟩⟩ := b
  rw [← String.toList_inj]
  cases environment <;> cases environment' <;>
    simp [ExecutionScope.key, ProviderDto.debug, BrokerEnvironment.debug]

/-- Frontend keys are equal if the environments and the joined ids are. -/
lemma accountContextKey_eq_iff (a b : ExecutionScope) :
    accountContextKey a = accountContextKey b ↔ a.environment = b.environment ∧
      a.brokerConnectionId.toList ++ '\u001f' :: a.accountId.toList =
        b.brokerConnectionId.toList ++ '\u001f' :: b.accountId.toList := by
  obtain ⟨⟨⟩, environment, connection, account, ⟨⟩⟩ := a
  obtain ⟨⟨⟩, environment', connection', account', ⟨⟩⟩ := b
  rw [← String.toList_inj]
  -- the trading mode ends both keys, and is cancelled on the right
  have hcancel : ∀ xs ys : List Char, xs ++ '\u001f' :: "LIVE".toList =
      ys ++ '\u001f' :: "LIVE".toList ↔ xs = ys := fun _ _ => List.append_left_inj _
  dsimp only
  rw [← hcancel (connection.toList ++ '\u001f' :: account.toList)]
  cases environment <;> cases environment' <;>
    simp [accountContextKey, ProviderDto.wire, BrokerEnvironment.wire, TradingMode.wire]

/-- **Equal keys belong to equal scopes exactly if the scopes do not collide**, on the server with
the colon and in the frontend with the unit separator. -/
theorem scope_keys_injective (a b : ExecutionScope) :
    ((a.key = b.key → a = b) ↔ ¬ Collide ':' a b) ∧
      ((accountContextKey a = accountContextKey b → a = b) ↔ ¬ Collide '\u001f' a b) :=
  ⟨injective_iff_of_joined (key_eq_iff a b),
    injective_iff_of_joined (accountContextKey_eq_iff a b)⟩

/-- **Two scopes share both keys**: the separator moves from the one id to the other. -/
theorem separator_in_ids_collides :
    (∃ a b, ExecutionScope.new .tInvest .sandbox "a:b" "c" .live = .ok a ∧
      ExecutionScope.new .tInvest .sandbox "a" "b:c" .live = .ok b ∧ a ≠ b ∧ a.key = b.key) ∧
    ∃ a b, ExecutionScope.new .tInvest .sandbox "a\u001fb" "c" .live = .ok a ∧
      ExecutionScope.new .tInvest .sandbox "a" "b\u001fc" .live = .ok b ∧ a ≠ b ∧
      accountContextKey a = accountContextKey b :=
  ⟨⟨⟨.tInvest, .sandbox, "a:b", "c", .live⟩, ⟨.tInvest, .sandbox, "a", "b:c", .live⟩,
      rfl, rfl, by decide, by decide⟩,
    ⟨.tInvest, .sandbox, "a\u001fb", "c", .live⟩, ⟨.tInvest, .sandbox, "a", "b\u001fc", .live⟩,
      rfl, rfl, by decide, by decide⟩

end VoxTrader.Api
