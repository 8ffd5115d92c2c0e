import VoxTrader.Runtime.Evidence
import VoxTrader.Runtime.Store

/-!
# Insertions and duplicates

An insertion is checked for its owner and then left to the constraints of the table. The store
takes every violated constraint for a duplicate, also that of the capacity of the journal, which
counts the rows of all scopes.

## Main results

* `duplicate_iff_present` — a duplicate is reported iff the row is there, exactly for rows of owners
  that fit.
-/

namespace VoxTrader.Runtime

namespace RuntimeDb

variable {db db' : RuntimeDb} {record : MutationRecord}

/-! ## Duplicates -/

/-- A row with the id of the record is there. -/
def HasId (db : RuntimeDb) (record : MutationRecord) : Prop :=
  ∃ row ∈ db.journal, row.logicalRequestId = record.logicalRequestId

/-- The row is found by its id. -/
lemma hasId_iff : db.HasId record ↔
    (Rows.select MutationRecord.logicalRequestId record.logicalRequestId db.journal).isSome := by
  rw [← not_iff_not, Option.not_isSome_iff_eq_none, Rows.select_eq_none, HasId]
  push Not
  rfl

/-- An owner's row that breaks no constraint is written. -/
lemma insertMutation_of_fits (howner : db.verifyEpoch record.scopeKey record.runtimeEpoch = .ok ())
    (hgood : ¬ db.violatesJournal record) : ∃ db', db.insertMutation record = .ok db' := by
  unfold insertMutation
  rw [howner]
  exact ⟨_, dif_neg hgood⟩

/-- An owner's row that breaks any constraint is called a duplicate. -/
lemma insertMutation_of_violates
    (howner : db.verifyEpoch record.scopeKey record.runtimeEpoch = .ok ())
    (hbad : db.violatesJournal record) : db.insertMutation record = .error .duplicateMutation := by
  unfold insertMutation
  rw [howner]
  exact dif_pos hbad

/-- Nobody but the owner is told of a duplicate. -/
lemma insertMutation_of_foreign {error : StoreError}
    (hforeign : db.verifyEpoch record.scopeKey record.runtimeEpoch = .error error) :
    db.insertMutation record = .error error := by
  unfold insertMutation
  rw [hforeign]
  rfl

/-- The check of the owner has other errors. -/
lemma verifyEpoch_ne_duplicate {scopeKey : String} {epoch : ℕ} :
    db.verifyEpoch scopeKey epoch ≠ .error .duplicateMutation := by
  unfold verifyEpoch toI64 Except.stopIf
  split
  · nofun
  · split <;> nofun

/-- Only the owner is told of a duplicate. -/
lemma owner_of_duplicate (h : db.insertMutation record = .error .duplicateMutation) :
    db.verifyEpoch record.scopeKey record.runtimeEpoch = .ok () := by
  rcases hme : db.verifyEpoch record.scopeKey record.runtimeEpoch with error | _
  · -- the error of the ownership check is never the one of a duplicate
    rw [insertMutation_of_foreign hme] at h
    exact absurd (hme.trans (congrArg Except.error (Except.error.inj h))) verifyEpoch_ne_duplicate
  · rfl

/-- **A duplicate is reported iff the row is there, and an owner's row is written otherwise, exactly
when** a row that is there is inserted again by the owner, and a row of the owner that is not there
finds room in the journal and its evidence is not too long. -/
theorem duplicate_iff_present (db : RuntimeDb) (record : MutationRecord) :
    (db.insertMutation record = .error .duplicateMutation ↔ db.HasId record) ∧
        (¬ db.HasId record → db.verifyEpoch record.scopeKey record.runtimeEpoch = .ok () →
          ∃ db', db.insertMutation record = .ok db') ↔
      (db.HasId record → db.verifyEpoch record.scopeKey record.runtimeEpoch = .ok ()) ∧
        (¬ db.HasId record → db.verifyEpoch record.scopeKey record.runtimeEpoch = .ok () →
          db.journal.length < journalCapacity ∧ record.requestEvidence.encode.length ≤ 2048) := by
  constructor
  · rintro ⟨hduplicate, hwritten⟩
    refine ⟨fun hthere => owner_of_duplicate (hduplicate.mpr hthere), fun hfresh hme => ?_⟩
    have hgood : ¬ db.violatesJournal record := by
      intro hbad
      obtain ⟨db', hok⟩ := hwritten hfresh hme
      cases hok.symm.trans (insertMutation_of_violates hme hbad)
    exact ⟨Nat.lt_of_not_le fun hfull => hgood (.inr (.inl hfull)),
      Nat.le_of_not_lt fun hlong => hgood (.inr (.inr hlong))⟩
  · rintro ⟨howner, hfits⟩
    have hwritten : ¬ db.HasId record →
        db.verifyEpoch record.scopeKey record.runtimeEpoch = .ok () →
        ∃ db', db.insertMutation record = .ok db' := by
      intro hfresh hme
      refine insertMutation_of_fits hme ?_
      rintro (hthere | hfull | hlong)
      · exact hfresh (hasId_iff.mpr hthere)
      · exact absurd hfull (Nat.not_le.mpr (hfits hfresh hme).1)
      · exact absurd hlong (Nat.not_lt.mpr (hfits hfresh hme).2)
    refine ⟨⟨fun h => ?_, fun hthere => ?_⟩, hwritten⟩
    · by_contra hfresh
      obtain ⟨_, hok⟩ := hwritten hfresh (owner_of_duplicate h)
      cases hok.symm.trans h
    · exact insertMutation_of_violates (howner hthere) (.inl (hasId_iff.mp hthere))

/-- The owner of a scope, for these runs. -/
def journalOwner : RuntimeInstance :=
  ⟨"TInvest:Sandbox:account-1", 1, "owner-1", true, .reconciling, .startup⟩

/-- The row number `n` of a long journal. -/
def numberedRow (n : ℕ) : MutationRecord :=
  { uncertainMutation .postOrder with logicalRequestId := String.ofList (List.replicate n 'a') }

/-- Rows of two numbers have two ids. -/
lemma numberedRow_injective {n m : ℕ}
    (h : (numberedRow n).logicalRequestId = (numberedRow m).logicalRequestId) : n = m := by
  have := congrArg (fun s : String => s.toList.length) h
  simpa [numberedRow] using this

/-- A store with an owner and a journal of `n` rows. -/
def longDb (n : ℕ) : RuntimeDb :=
  { empty with
    instances := [journalOwner]
    instanceKeys := List.nodup_singleton _
    journal := (List.range n).map numberedRow
    journalIds := by
      rw [Rows.Unique, List.map_map]
      exact List.nodup_range.map fun _ _ h => numberedRow_injective h }

/-- The owner of a long journal may write. -/
lemma longDb_owner (n m : ℕ) :
    (longDb n).verifyEpoch (numberedRow m).scopeKey (numberedRow m).runtimeEpoch = .ok () := by
  change (longDb 0).verifyEpoch (numberedRow 0).scopeKey (numberedRow 0).runtimeEpoch = .ok ()
  decide +kernel

/-- The next row is not there. -/
lemma longDb_fresh (n : ℕ) : ¬ (longDb n).HasId (numberedRow n) := by
  rintro ⟨row, hrow, hid⟩
  obtain ⟨m, hm, rfl⟩ := List.mem_map.mp hrow
  exact absurd (numberedRow_injective hid) (List.mem_range.mp hm).ne

/-- A journal at its capacity takes no row. -/
lemma longDb_full {n : ℕ} (hfull : journalCapacity ≤ n) :
    (longDb n).insertMutation (numberedRow n) = .error .duplicateMutation := by
  refine insertMutation_of_violates (longDb_owner n n) (.inr (.inl ?_))
  rwa [longDb, List.length_map, List.length_range]

/-- **A full journal is reported as a duplicate.** -/
theorem full_journal_is_duplicate :
    ¬ (longDb journalCapacity).HasId (numberedRow journalCapacity) ∧
      (longDb journalCapacity).insertMutation (numberedRow journalCapacity) =
        .error .duplicateMutation :=
  ⟨longDb_fresh _, longDb_full le_rfl⟩

end RuntimeDb

end VoxTrader.Runtime
