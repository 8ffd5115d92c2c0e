import VoxTrader.Lib.Json
import VoxTrader.Runtime.Resolve
import VoxTrader.Runtime.Store

/-!
# The rows of the journal, and the migration to version 3

The store keeps a mutation as a row of texts and numbers: the kind, the state, the evidence and the
disposition are JSON texts. Version 2 had free texts as evidence. The migration to version 3
replaces each of them by a JSON text that is put together from the row's kind, copies the identity
links into a table without uniqueness constraints, and leaves everything else as it was.

## Main definitions

* `JournalRow`, `MutationRecord.columns` — a row, and the one a record is written to.
* `mutationFromRow` — the record of a row.
* `StoredDb`, `StoredDb.migrate` — the tables a migration touches, and the migrations.
* `LegacyMutation` — a mutation as version 2 stored it.

## Main results

* `mutationFromRow_columns` — a record is read back from its row, when it passes its checks.
* `migration_keeps_journal` — a migrated row is read as the record it was, when that passes its
  checks, with the same mutations unresolved and the same links.
* `resolved_row_refused` — the program writes rows that do not pass them.
-/

namespace VoxTrader.Runtime

open JournalState (dispatching unknownAfterDispatch)
open Json (variantOf parse_render variantOf_text renderText)
open Option (bind_eq_bind bind_some)

/-! ## Rows -/

/-- A row of the journal. -/
structure JournalRow where
  logicalRequestId : String
  scopeKey : String
  mutationKind : List Char
  state : List Char
  redactedRequestEvidence : List Char
  brokerEvidenceRef : Option String
  createdAtUnixMs : I64
  updatedAtUnixMs : I64
  correlationId : String
  reconciliationDisposition : Option (List Char)
  runtimeEpoch : I64
deriving DecidableEq

/-- The text a journal state is stored as. -/
def JournalState.text : JournalState → String
  | notDispatched => "NOT_DISPATCHED"
  | dispatching => "DISPATCHING"
  | acknowledged => "ACKNOWLEDGED"
  | rejected => "REJECTED"
  | unknownAfterDispatch => "UNKNOWN_AFTER_DISPATCH"
  | reconciled => "RECONCILED"

/-- The word for a disposition. -/
def ReconciliationDisposition.text : ReconciliationDisposition → String
  | orderAccepted => "ORDER_ACCEPTED"
  | orderActiveNew => "ORDER_ACTIVE_NEW"
  | orderActivePartial => "ORDER_ACTIVE_PARTIAL"
  | orderFilled => "ORDER_FILLED"
  | orderCancelled => "ORDER_CANCELLED"
  | orderRejected => "ORDER_REJECTED"
  | stopActive => "STOP_ACTIVE"
  | stopExecuted => "STOP_EXECUTED"
  | stopCanceled => "STOP_CANCELED"
  | stopExpired => "STOP_EXPIRED"

/-- A disposition as it is stored. -/
def ReconciliationDisposition.encode (disposition : ReconciliationDisposition) : List Char :=
  "\x7b\"outcome\":".toList ++ jsonText disposition.text ++ "\x7d".toList

/-- The row a record is written to, in an epoch that fits the column. -/
def MutationRecord.columns (record : MutationRecord) (epoch : I64) : JournalRow where
  logicalRequestId := record.logicalRequestId
  scopeKey := record.scopeKey
  mutationKind := jsonText record.kind.text
  state := jsonText record.state.text
  redactedRequestEvidence := record.requestEvidence.encode
  brokerEvidenceRef := record.brokerEvidenceRef
  createdAtUnixMs := record.createdAtUnixMs
  updatedAtUnixMs := record.updatedAtUnixMs
  correlationId := record.correlationId
  reconciliationDisposition := record.reconciliationDisposition.map ReconciliationDisposition.encode
  runtimeEpoch := epoch

/-! ## Reading a row -/

/-- All kinds of mutations. -/
def MutationKind.all : List MutationKind :=
  [.postOrder, .postOrderAsync, .replaceOrder, .cancelOrder, .postStopOrder, .cancelStopOrder,
    .protectionLeg]

/-- All states of a mutation. -/
def JournalState.all : List JournalState :=
  [.notDispatched, .dispatching, .acknowledged, .rejected, .unknownAfterDispatch, .reconciled]

/-- All kinds of protection. -/
def ProtectionKind.all : List ProtectionKind := [.stopLoss, .takeProfit]

/-- All dispositions. -/
def ReconciliationDisposition.all : List ReconciliationDisposition :=
  [.orderAccepted, .orderActiveNew, .orderActivePartial, .orderFilled, .orderCancelled,
    .orderRejected, .stopActive, .stopExecuted, .stopCanceled, .stopExpired]

/-- A text. -/
def decodeText : Json → Option String
  | .text s => some (String.ofList s)
  | _ => none

/-- A truth value. -/
def decodeBool : Json → Option Bool
  | .bool b => some b
  | _ => none

/-- A machine integer. -/
def decodeInt : Json → Option I64
  | .number n => FixedInt.ofInt? n
  | _ => none

/-- A kind of mutation. -/
def decodeKind : Json → Option MutationKind := variantOf MutationKind.all MutationKind.text

/-- A journal state. -/
def decodeState : Json → Option JournalState := variantOf JournalState.all JournalState.text

/-- A kind of protection. -/
def decodeProtection : Json → Option ProtectionKind :=
  variantOf ProtectionKind.all ProtectionKind.text

/-- A disposition, by its tag. -/
def decodeDisposition (value : Json) : Option ReconciliationDisposition :=
  match Json.fieldsOf ["outcome"] value with
  | some [some outcome] =>
    variantOf ReconciliationDisposition.all ReconciliationDisposition.text outcome
  | _ => none

/-- Evidence, which has to pass its checks. -/
def decodeEvidence (value : Json) : Option MutationEvidence :=
  match Json.fieldsOf
      ["command_kind", "instrument_ref", "quantity_lots", "price_present", "protection_kind"]
      value with
  | some [some kind, instrument, lots, some price, protection] => do
    let evidence : MutationEvidence := ⟨← decodeKind kind, ← Json.optionOf decodeText instrument,
      ← Json.optionOf decodeInt lots, ← decodeBool price,
      ← Json.optionOf decodeProtection protection⟩
    evidence.validate.toOption
    some evidence
  | _ => none

/-- Why a row is not a record. -/
inductive RowError
  /-- A JSON text does not say what its column is for. -/
  | json (column : String)
  /-- The epoch is negative. -/
  | negative
  /-- The record does not pass its checks. -/
  | invalid (error : ModelError)
deriving DecidableEq

/-- A JSON text of a column. -/
def decodeSql {α : Type} (column : String) (decode : Json → Option α) (value : List Char) :
    Except RowError α :=
  Except.orStop ((Json.parse value).bind decode) (.json column)

/-- A JSON text of a column that may be empty. -/
def decodeOptionalSql {α : Type} (column : String) (decode : Json → Option α) :
    Option (List Char) → Except RowError (Option α)
  | none => .ok none
  | some value => (decodeSql column decode value).map some

/-- **The record of a row.** -/
def mutationFromRow (row : JournalRow) : Except RowError MutationRecord := do
  let kind ← decodeSql "mutation_kind" decodeKind row.mutationKind
  let state ← decodeSql "state" decodeState row.state
  let evidence ← decodeSql "redacted_request_evidence" decodeEvidence row.redactedRequestEvidence
  let disposition ← decodeOptionalSql "reconciliation_disposition" decodeDisposition
    row.reconciliationDisposition
  Except.stopIf (row.runtimeEpoch.val < 0) .negative
  let record : MutationRecord := ⟨row.scopeKey, row.logicalRequestId, kind, state, evidence,
    row.brokerEvidenceRef, row.correlationId, disposition, row.createdAtUnixMs, row.updatedAtUnixMs,
    row.runtimeEpoch.val.toNat⟩
  record.validated.mapError .invalid
  .ok record

/-! ## Reading what was written -/

/-- A control character is read back from its number. -/
lemma readChar_control {n : ℕ} (h : n < 0x20) (rest : List Char) :
    Json.readChar ("\\u00".toList ++ [Nat.digitChar (n / 16), Nat.digitChar (n % 16)] ++ rest) =
      some (Char.ofNat n, rest) := by
  have hdigits : ∀ n < 0x20, Json.hexDigit (Nat.digitChar (n / 16)) = some (n / 16) ∧
      Json.hexDigit (Nat.digitChar (n % 16)) = some (n % 16) := by decide
  have hzero : Json.hexDigit '0' = some 0 := by decide
  have hhex : Json.readHex
    ('0' :: '0' :: Nat.digitChar (n / 16) :: Nat.digitChar (n % 16) :: rest) =
      some (n, rest) := by
    have hn : (0 * 16 + 0) * 256 + n / 16 * 16 + n % 16 = n := by omega
    simp only [Json.readHex, hzero, hdigits n h, bind_eq_bind, bind_some, hn]
  change Json.readEscape
    ('u' :: '0' :: '0' :: Nat.digitChar (n / 16) :: Nat.digitChar (n % 16) :: rest) = _
  have hplane : ¬ (0xD800 ≤ n ∧ n < 0xDC00) ∧ ¬ (0xDC00 ≤ n ∧ n < 0xE000) := by omega
  simp only [Json.readEscape, hhex, bind_eq_bind, bind_some, if_neg hplane.1, if_neg hplane.2]

/-- What stands for a character inside a text is read as the character. -/
lemma escapes_jsonChar : Json.Escapes jsonChar := by
  intro c rest
  have hof : Char.ofNat c.toNat = c := Char.ofNat_toNat c
  unfold jsonChar
  split
  case h_8 hquote hbackslash _ _ _ _ _ =>
    split_ifs with hcontrol
    · rw [readChar_control hcontrol, hof]
    · have hplain : c ≠ '\\' ∧ c ≠ '"' :=
        ⟨fun h => hbackslash (by rw [h]; rfl), fun h => hquote (by rw [h]; rfl)⟩
      rw [List.singleton_append, Json.readChar, if_neg hplain.1,
        if_neg (not_or.mpr ⟨hplain.2, hcontrol⟩)]
  all_goals
    rename_i hn
    rw [hn] at hof
    rw [← hof]
    rfl

/-- A JSON text is read back. -/
lemma parse_jsonText (value : String) : Json.parse (jsonText value) = some (.text value.toList) :=
  parse_render escapes_jsonChar (.text value.toList)

lemma decodeKind_text (kind : MutationKind) : decodeKind (.text kind.text.toList) = some kind :=
  variantOf_text (by cases kind <;> decide) (by cases kind <;> decide)

lemma decodeState_text (state : JournalState) :
    decodeState (.text state.text.toList) = some state :=
  variantOf_text (by cases state <;> decide) (by cases state <;> decide)

/-- The value a disposition is written as. -/
def ReconciliationDisposition.toJson (disposition : ReconciliationDisposition) : Json :=
  .object (.cons "outcome".toList (.text disposition.text.toList) .nil)

lemma decodeDisposition_toJson (disposition : ReconciliationDisposition) :
    decodeDisposition disposition.toJson = some disposition :=
  variantOf_text (by cases disposition <;> decide) (by cases disposition <;> decide)

lemma ReconciliationDisposition.encode_eq (disposition : ReconciliationDisposition) :
    disposition.encode = disposition.toJson.render jsonChar := rfl

/-- **A record is read back from its row** if its evidence is, or is refused by the checks of a
record. -/
theorem mutationFromRow_columns {record : MutationRecord} {epoch : I64}
    (hepoch : epoch.val = record.runtimeEpoch)
    (hevidence : decodeSql "redacted_request_evidence" decodeEvidence
      record.requestEvidence.encode = .ok record.requestEvidence) :
    mutationFromRow (record.columns epoch) =
      (record.validated.map fun _ => record).mapError .invalid := by
  have hkind : decodeSql "mutation_kind" decodeKind (record.columns epoch).mutationKind =
      .ok record.kind := by
    rw [decodeSql, MutationRecord.columns, parse_jsonText, bind_some, decodeKind_text]
    rfl
  have hstate : decodeSql "state" decodeState (record.columns epoch).state = .ok record.state := by
    rw [decodeSql, MutationRecord.columns, parse_jsonText, bind_some, decodeState_text]
    rfl
  have hread : decodeSql "redacted_request_evidence" decodeEvidence
      (record.columns epoch).redactedRequestEvidence = .ok record.requestEvidence := hevidence
  have hdisposition : decodeOptionalSql "reconciliation_disposition" decodeDisposition
      (record.columns epoch).reconciliationDisposition = .ok record.reconciliationDisposition := by
    rw [MutationRecord.columns]
    cases record.reconciliationDisposition with
    | none => rfl
    | some =>
      rw [Option.map_some, decodeOptionalSql, decodeSql, ReconciliationDisposition.encode_eq,
        parse_render escapes_jsonChar, bind_some, decodeDisposition_toJson]
      rfl
  have hcolumn : (record.columns epoch).runtimeEpoch.val = record.runtimeEpoch := hepoch
  have hnonneg : ¬ (record.columns epoch).runtimeEpoch.val < 0 := by omega
  have hnat : (record.columns epoch).runtimeEpoch.val.toNat = record.runtimeEpoch := by omega
  simp only [mutationFromRow, hkind, hstate, hread, hdisposition, Except.stopIf, if_neg hnonneg,
    hnat, bind, Except.bind]
  have hsame : (⟨record.scopeKey, record.logicalRequestId, record.kind, record.state,
      record.requestEvidence, record.brokerEvidenceRef, record.correlationId,
      record.reconciliationDisposition, record.createdAtUnixMs, record.updatedAtUnixMs,
      record.runtimeEpoch⟩ : MutationRecord) = record := rfl
  simp only [MutationRecord.columns, hsame]
  cases record.validated <;> rfl

/-! ## The migration -/

/-- A row of the identity links. -/
structure LinkRow where
  logicalRequestId : String
  scopeKey : String
  brokerOrderId : Option String
  replacementBrokerOrderId : Option String
  brokerStopOrderId : Option String
  updatedAtUnixMs : I64
  runtimeEpoch : I64
deriving DecidableEq

/-- The tables of a database file that a migration touches, and its version. -/
structure StoredDb where
  userVersion : ℕ
  journal : List JournalRow
  identityLinks : List LinkRow
deriving DecidableEq

/-- Why a database file cannot be opened. -/
inductive MigrationError
  | unsupportedSchema (version : ℕ)
  | persistence (message : String)
deriving DecidableEq

/-- The version this program works with. -/
def schemaVersion : ℕ := 3

/-- The evidence the migration writes: a JSON text around what the kind column holds. -/
def JournalRow.rewriteEvidence (row : JournalRow) : JournalRow :=
  { row with
    redactedRequestEvidence := "\x7b\"command_kind\":".toList ++ row.mutationKind ++
      ",\"instrument_ref\":null,\"quantity_lots\":null,\"price_present\":false,".toList ++
      "\"protection_kind\":null\x7d".toList }

/-- The constraint on the evidence column. -/
def JournalRow.evidenceBounded (row : JournalRow) : Bool :=
  1 ≤ row.redactedRequestEvidence.length && row.redactedRequestEvidence.length ≤ 2048

namespace StoredDb

/-- From version 2 to version 3: the evidence is rewritten, and the links are copied into a table
without uniqueness constraints. -/
def migrationV3 (db : StoredDb) : Except MigrationError StoredDb := do
  let journal := db.journal.map JournalRow.rewriteEvidence
  Except.stopIf (¬ journal.all JournalRow.evidenceBounded) (.persistence "CHECK constraint failed")
  .ok { userVersion := schemaVersion, journal := journal, identityLinks := db.identityLinks }

/-- Bring a database to the current version. The first two steps create tables and triggers, and
leave what is there. -/
def migrate (db : StoredDb) : Except MigrationError StoredDb := do
  Except.stopIf (schemaVersion < db.userVersion) (.unsupportedSchema db.userVersion)
  let db := if db.userVersion = 0 then { db with userVersion := 1 } else db
  let db := if db.userVersion = 1 then { db with userVersion := 2 } else db
  if db.userVersion = 2 then db.migrationV3 else .ok db

/-- The order in which unresolved rows are listed. -/
def rowListedBefore (a b : JournalRow) : Prop :=
  a.createdAtUnixMs.val < b.createdAtUnixMs.val ∨
    a.createdAtUnixMs.val = b.createdAtUnixMs.val ∧ a.logicalRequestId ≤ b.logicalRequestId

instance : DecidableRel rowListedBefore := fun _ _ => inferInstanceAs (Decidable (_ ∨ _))

/-- The rows of a scope that are unresolved, oldest first. -/
def unresolvedRows (db : StoredDb) (scopeKey : String) : List JournalRow :=
  (db.journal.filter fun row => row.scopeKey = scopeKey &&
    (row.state = jsonText JournalState.dispatching.text ||
      row.state = jsonText unknownAfterDispatch.text)).insertionSort rowListedBefore

/-- The unresolved mutations of a scope. -/
def unresolvedMutations (db : StoredDb) (scopeKey : String) :
    Except RowError (List MutationRecord) :=
  (db.unresolvedRows scopeKey).mapM mutationFromRow

end StoredDb

/-! ## What the migration keeps -/

/-- Evidence that says nothing but the kind. -/
def MutationEvidence.bare (kind : MutationKind) : MutationEvidence :=
  ⟨kind, none, none, false, none⟩

/-- A mutation as version 2 stored it: a record with a free text as its evidence. -/
structure LegacyMutation where
  /-- The record, apart from its evidence. -/
  record : MutationRecord
  /-- The epoch, which fits its column. -/
  epoch : I64
  evidence : List Char
  bare : record.requestEvidence = .bare record.kind
  epoch_eq : epoch.val = record.runtimeEpoch

/-- Its row. -/
def LegacyMutation.row (m : LegacyMutation) : JournalRow :=
  { m.record.columns m.epoch with redactedRequestEvidence := m.evidence }

/-- Evidence that says nothing but the kind is read back. -/
lemma decodeEvidence_bare (kind : MutationKind) :
    decodeSql "redacted_request_evidence" decodeEvidence (MutationEvidence.bare kind).encode =
      .ok (.bare kind) := by
  cases kind <;> decide +kernel

/-- **The text the migration puts together is that evidence.** -/
lemma LegacyMutation.rewriteEvidence_row (m : LegacyMutation) :
    m.row.rewriteEvidence = m.record.columns m.epoch := by
  have htext : "\x7b\"command_kind\":".toList ++ jsonText m.record.kind.text ++
      ",\"instrument_ref\":null,\"quantity_lots\":null,\"price_present\":false,".toList ++
      "\"protection_kind\":null\x7d".toList = (MutationEvidence.bare m.record.kind).encode := by
    cases m.record.kind <;> decide +kernel
  rw [← m.bare] at htext
  rw [JournalRow.rewriteEvidence]
  exact congrArg (fun text => { m.record.columns m.epoch with redactedRequestEvidence := text })
    htext

/-- So a migrated row is read as the record. -/
lemma LegacyMutation.read_migrated (m : LegacyMutation) : mutationFromRow m.row.rewriteEvidence =
      (m.record.validated.map fun _ => m.record).mapError .invalid := by
  rw [m.rewriteEvidence_row]
  exact mutationFromRow_columns m.epoch_eq (by rw [m.bare, decodeEvidence_bare])

/-- The rewritten evidence fits its column. -/
lemma LegacyMutation.evidenceBounded_migrated (m : LegacyMutation) :
    m.row.rewriteEvidence.evidenceBounded = true := by
  have hbounded : ∀ kind : MutationKind, 1 ≤ (MutationEvidence.bare kind).encode.length ∧
      (MutationEvidence.bare kind).encode.length ≤ 2048 := by
    intro kind
    cases kind <;> decide +kernel
  rw [m.rewriteEvidence_row, JournalRow.evidenceBounded, MutationRecord.columns, m.bare]
  simp only [hbounded, decide_true, Bool.and_self]

/-- What is read of a mutation: its record, when that passes its checks. -/
def LegacyMutation.read (m : LegacyMutation) : Except RowError MutationRecord :=
  (m.record.validated.map fun _ => m.record).mapError .invalid

/-- The state column says whether a mutation is unresolved. -/
lemma unresolved_column (state : JournalState) :
    (decide (jsonText state.text = jsonText JournalState.dispatching.text) ||
      decide (jsonText state.text = jsonText unknownAfterDispatch.text)) =
      state.safetyUnresolved := by
  cases state <;> decide +kernel

/-- The unresolved mutations among some, oldest first. -/
def LegacyMutation.unresolved (mutations : List LegacyMutation) (scopeKey : String) :
    List LegacyMutation :=
  (mutations.filter fun m => m.record.scopeKey = scopeKey &&
    m.record.state.safetyUnresolved).insertionSort fun a b =>
    RuntimeDb.listedBefore a.record b.record

/-- The rows that are listed as unresolved are those of the unresolved mutations, before the
migration and after it. -/
lemma unresolvedRows_map {f : LegacyMutation → JournalRow} {db : StoredDb}
    {mutations : List LegacyMutation} (hrows : db.journal = mutations.map f)
    (hf : ∀ m, (f m).scopeKey = m.record.scopeKey ∧ (f m).state = jsonText m.record.state.text ∧
      (f m).createdAtUnixMs = m.record.createdAtUnixMs ∧
      (f m).logicalRequestId = m.record.logicalRequestId) (scopeKey : String) :
    db.unresolvedRows scopeKey = (LegacyMutation.unresolved mutations scopeKey).map f := by
  have hfilter : (fun m => decide ((f m).scopeKey = scopeKey) &&
      (decide ((f m).state = jsonText JournalState.dispatching.text) ||
        decide ((f m).state = jsonText unknownAfterDispatch.text))) =
      fun m : LegacyMutation => decide (m.record.scopeKey = scopeKey) &&
        m.record.state.safetyUnresolved := by
    funext m
    rw [(hf m).1, (hf m).2.1, unresolved_column]
  rw [StoredDb.unresolvedRows, hrows, List.filter_map, LegacyMutation.unresolved]
  change List.insertionSort _ (List.map f (List.filter
    (fun m => decide ((f m).scopeKey = scopeKey) &&
    (decide ((f m).state = jsonText JournalState.dispatching.text) ||
      decide ((f m).state = jsonText unknownAfterDispatch.text))) mutations)) = _
  rw [hfilter]
  refine (List.map_insertionSort _ _ _ _ fun a _ b _ => ?_).symm
  simp only [RuntimeDb.listedBefore, StoredDb.rowListedBefore, (hf a).2.2.1, (hf b).2.2.1,
    (hf a).2.2.2, (hf b).2.2.2]

/-- **The migration keeps the journal.** A file of version 2 whose rows were written for some
mutations becomes a file of version 3. Each row is read as the mutation's record, with the same
request, scope, kind, state, references, times and epoch, whenever the record passes the checks of
its texts. The identity links are the same, and in every scope the same mutations are listed as
unresolved. -/
theorem migration_keeps_journal {db : StoredDb} {mutations : List LegacyMutation}
    (hversion : db.userVersion = 2) (hrows : db.journal = mutations.map LegacyMutation.row) :
    ∃ db', db.migrate = .ok db' ∧ db'.userVersion = schemaVersion ∧
      db'.journal.map mutationFromRow = mutations.map LegacyMutation.read ∧
      db'.identityLinks = db.identityLinks ∧
      ∀ scopeKey, (db'.unresolvedRows scopeKey).map JournalRow.logicalRequestId =
          (db.unresolvedRows scopeKey).map JournalRow.logicalRequestId ∧
        db'.unresolvedMutations scopeKey =
          (LegacyMutation.unresolved mutations scopeKey).mapM LegacyMutation.read := by
  -- the rows after the migration, one for each mutation
  have hjournal : db.journal.map JournalRow.rewriteEvidence =
      mutations.map fun m => m.row.rewriteEvidence := by
    rw [hrows, List.map_map]
    rfl
  have hbounded : (db.journal.map JournalRow.rewriteEvidence).all JournalRow.evidenceBounded := by
    rw [hjournal, List.all_map, List.all_eq_true]
    intro m _
    rw [Function.comp_apply, m.evidenceBounded_migrated]
  let db' : StoredDb := ⟨schemaVersion, db.journal.map JournalRow.rewriteEvidence, db.identityLinks⟩
  have hmigrate : db.migrate = .ok db' := by
    have hsupported : ¬ schemaVersion < db.userVersion := by rw [hversion]; decide
    have hzero : db.userVersion ≠ 0 := by rw [hversion]; decide
    have hone : db.userVersion ≠ 1 := by rw [hversion]; decide
    simp only [StoredDb.migrate, StoredDb.migrationV3, Except.stopIf, if_neg hsupported,
      if_neg hzero, if_neg hone, if_pos hversion, hbounded, not_true_eq_false, if_false, bind,
      Except.bind]
    rfl
  have hbefore := unresolvedRows_map hrows fun m => ⟨rfl, rfl, rfl, rfl⟩
  have hafter : ∀ scopeKey, db'.unresolvedRows scopeKey =
      (LegacyMutation.unresolved mutations scopeKey).map fun m => m.row.rewriteEvidence :=
    unresolvedRows_map hjournal fun m => ⟨rfl, rfl, rfl, rfl⟩
  have hread : mutationFromRow ∘ (fun m : LegacyMutation => m.row.rewriteEvidence) =
      LegacyMutation.read := funext LegacyMutation.read_migrated
  refine ⟨db', hmigrate, rfl, ?_, rfl, fun scopeKey => ⟨?_, ?_⟩⟩
  · change (db.journal.map JournalRow.rewriteEvidence).map mutationFromRow = _
    rw [hjournal, List.map_map, hread]
  · rw [hafter, hbefore, List.map_map, List.map_map]
    rfl
  · rw [StoredDb.unresolvedMutations, hafter, List.mapM_map, hread]

/-- An order that may have been sent, with the evidence of version 2. -/
def unknownLegacyOrder : LegacyMutation where
  record := ⟨"TInvest:Sandbox:account-1", "migration-unknown", .postOrder, .unknownAfterDispatch,
    .bare .postOrder, none, "migration-correlation", none, .lit 1, .lit 2, 1⟩
  epoch := .lit 1
  evidence := "quantity=1; token=must-not-survive".toList
  bare := rfl
  epoch_eq := rfl

/-- A file of version 2 with this order. -/
def legacyFile : StoredDb :=
  ⟨2, [unknownLegacyOrder.row], [⟨"migration-unknown", "TInvest:Sandbox:account-1", some "broker-1",
    none, none, .lit 2, .lit 1⟩]⟩

/-- The order is listed as unresolved after the migration, without the old evidence. -/
theorem unknown_legacy_order_migrated : ∃ db', legacyFile.migrate = .ok db' ∧
      db'.unresolvedMutations "TInvest:Sandbox:account-1" = .ok [unknownLegacyOrder.record] ∧
      db'.identityLinks.map LinkRow.brokerOrderId = [some "broker-1"] := by
  have hversion : legacyFile.userVersion = 2 := rfl
  have hrows : legacyFile.journal = [unknownLegacyOrder].map LegacyMutation.row := rfl
  obtain ⟨db', hmigrate, -, -, hlinks, hunresolved⟩ := migration_keeps_journal hversion hrows
  refine ⟨db', hmigrate, ?_, by rw [hlinks]; rfl⟩
  rw [(hunresolved _).2]
  decide +kernel

/-! ## A row that is refused -/

/-- The order of that request, under an id that looks like a secret. -/
def secretiveOrder : OrderFact :=
  ⟨"account-1", "token=1", some "migration-unknown", "instrument-1", some .buy,
    .lit 1, .lit 0, .new⟩

/-- A snapshot without anything else. -/
def bareSnapshot : BrokerSnapshot := ⟨[], ⟨"account-1", none⟩, [], [], [], [], [], .lit 3⟩

/-- The mutation, resolved by the order. -/
def resolvedLegacyOrder : LegacyMutation where
  record := ⟨"TInvest:Sandbox:account-1", "migration-unknown", .postOrder, .reconciled,
    .bare .postOrder, some "direct GetOrderState broker=token=1", "migration-correlation",
    some .orderActiveNew, .lit 1, .lit 3, 1⟩
  epoch := .lit 1
  evidence := "quantity=1".toList
  bare := rfl
  epoch_eq := rfl

/-- A store with the mutation, before it is resolved. -/
def unknownOrderDb : RuntimeDb :=
  { RuntimeDb.empty with
    instances := [⟨"TInvest:Sandbox:account-1", 1, "owner-1", true, .reconciling,
      .reconciliationStarted⟩]
    instanceKeys := List.nodup_singleton _
    journal := [unknownLegacyOrder.record]
    journalIds := List.nodup_singleton _ }

/-- **A row the program wrote is refused after the migration**: a reconciliation resolves a mutation
by an order whose id looks like a secret, and commits it without a check of its texts. The row is
migrated, and then refused: the reference to the order does not pass its check, which the migration
has no part in. -/
theorem resolved_row_refused :
    (resolveMutation 1 (.lit 3) unknownLegacyOrder.record (existingLinks [] "migration-unknown")
      bareSnapshot (some secretiveOrder)).map Prod.fst = some resolvedLegacyOrder.record ∧
    ((unknownOrderDb.commitReconciliation ⟨"TInvest:Sandbox:account-1", "reconciliation-1", none,
        .lit 3, .lit 3, 1, true, true, true, true, true, true⟩
          [resolvedLegacyOrder.record] [] .ready
        .reconciliationComplete).toOption.map RuntimeDb.journal) =
      some [resolvedLegacyOrder.record] ∧
    ((StoredDb.migrate ⟨2, [resolvedLegacyOrder.row], []⟩).toOption.map fun db =>
      db.journal.map mutationFromRow) = some [.error (.invalid .unsafeRequestEvidence)] ∧
    resolvedLegacyOrder.record.validated = .error .unsafeRequestEvidence := by
  decide +kernel

end VoxTrader.Runtime
