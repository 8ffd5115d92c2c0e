import VoxTrader.Lib.Alone
import VoxTrader.Runtime.Reconciler

/-!
# The pages of the history

The broker hands out the history of an account page by page, and each page names the cursor of the
next one. A broker may answer anything here: pages without end, and cursors that lead back. The
reader follows each cursor once, for a bounded number of pages, and gives up otherwise.

## Main definitions

* `pagesOf` — a broker that answers every cursor with a page.
* `Chain` — the pages from a cursor to the last one, with the cursors on the way.

## Main results

* `operations_whole_or_refused` — **the history is read whole, or the read fails**.
-/

namespace VoxTrader.Runtime

open Process

/-- A broker that answers every cursor with a page, and nothing else. -/
def pagesOf (broker : Option String → OperationsPage) (op : base.Op) (_ : Unit) (r : base.Res op)
    (_ : Unit) : Prop :=
  match op, r with
  | .external (.operationsPage cursor _), r => r = .ok (broker cursor)
  | _, _ => False

/-- The pages from a cursor to the last one: the cursors that are followed, and the operations. -/
inductive Chain (broker : Option String → OperationsPage) :
    Option String → List String → List OperationFact → Prop
  | last {cursor : Option String} (hlast : (broker cursor).nextCursor = none) :
      Chain broker cursor [] (broker cursor).items
  | next {cursor : Option String} {nextCursor : String} {cursors : List String}
      {items : List OperationFact} (hnext : (broker cursor).nextCursor = some nextCursor)
      (hrest : Chain broker (some nextCursor) cursors items) :
      Chain broker cursor (nextCursor :: cursors) ((broker cursor).items ++ items)

/-- The cursors can be followed: none is blank, none is followed twice, and the pages suffice. -/
structure Followable (pages : ℕ) (seenCursors cursors : List String) : Prop where
  bounded : cursors.length < pages
  once : cursors.Nodup
  unseen : ∀ cursor ∈ cursors, cursor ∉ seenCursors
  named : ∀ cursor ∈ cursors, Text.isBlank cursor = false

/-- What the reader makes of a broker: one result, which is the operations of all pages when they
can be followed to the last one, and a refusal otherwise. -/
structure ReadsPages (broker : Option String → OperationsPage) (pages : ℕ) (cursor : Option String)
    (seenCursors : List String) (operations : List OperationFact)
    (x : ExceptT ReconciliationError (Process base) (List OperationFact))
    (r : Except ReconciliationError (List OperationFact)) : Prop where
  ends : ∀ r', Runs (pagesOf broker) x.run () r' () ↔ r' = r
  whole : ∀ result, r = .ok result ↔ ∃ cursors items, Chain broker cursor cursors items ∧
    Followable pages seenCursors cursors ∧ result = operations ++ items
  refused : ∀ e, r = .error e → ∃ text, e = .safety text

section

variable {broker : Option String → OperationsPage} {since : I64} {pages : ℕ}
  {cursor : Option String}
  {seenCursors : List String} {operations : List OperationFact}

/-- A page is read, and the program goes on with it. -/
lemma runs_page {f : OperationsPage → ExceptT ReconciliationError (Process base)
      (List OperationFact)} {r : Except ReconciliationError (List OperationFact)} :
    Runs (pagesOf broker) (safeRead (ask (.operationsPage cursor since)) >>= f).run () r () ↔
      Runs (pagesOf broker) (f (broker cursor)).run () r () := by
  rw [runs_bindExcept]
  constructor
  · rintro (⟨e, hread, -⟩ | ⟨page, s, hread, hrest⟩)
    · obtain ⟨answer, hanswer, he⟩ := runs_orFail.mp hread
      rw [show answer = .ok (broker cursor) from runs_perform.mp hanswer] at he
      cases he
    · obtain ⟨answer, hanswer, hpage⟩ := runs_orFail.mp hread
      rw [show answer = .ok (broker cursor) from runs_perform.mp hanswer] at hpage
      rwa [← Except.ok.inj hpage]
  · exact fun h => .inr ⟨_, (), runs_orFail.mpr ⟨.ok (broker cursor), runs_perform.mpr rfl, rfl⟩, h⟩

/-- A reader that refuses, where no chain can be followed. -/
lemma readsPages_throw {text : String} (hnone : ∀ cursors items, Chain broker cursor cursors items →
      ¬ Followable pages seenCursors cursors)
    {x : ExceptT ReconciliationError (Process base) (List OperationFact)}
    (hx : ∀ r, Runs (pagesOf broker) x.run () r () ↔ r = .error (.safety text)) :
    ReadsPages broker pages cursor seenCursors operations x (.error (.safety text)) where
  ends := hx
  whole _ := ⟨nofun, fun ⟨cursors, items, hchain, hfollow, _⟩ =>
    absurd hfollow (hnone cursors items hchain)⟩
  refused _ he := ⟨text, (Except.error.inj he).symm⟩

/-- The rest of the history, by induction on how many pages are left. -/
lemma readsPages (pages : ℕ) : ∀ cursor seenCursors operations, ∃ r,
    ReadsPages broker pages cursor seenCursors operations
      (operationPages since pages cursor seenCursors operations) r := by
  induction pages with
  | zero =>
    intro cursor seenCursors operations
    exact ⟨_, readsPages_throw (fun _ _ _ h => absurd h.bounded (Nat.not_lt_zero _))
      fun r => and_iff_left rfl⟩
  | succ pages ih =>
    intro cursor seenCursors operations
    rcases hnext : (broker cursor).nextCursor with _ | nextCursor
    · -- the last page
      refine ⟨.ok (operations ++ (broker cursor).items), fun r => ?_, fun result => ?_, nofun⟩
      · rw [operationPages, runs_page, hnext]
        exact and_iff_left rfl
      · constructor
        · intro h
          exact ⟨[], _, .last hnext, ⟨Nat.succ_pos _, List.nodup_nil, nofun, nofun⟩,
            (Except.ok.inj h).symm⟩
        · rintro ⟨cursors, items, hchain, -, rfl⟩
          cases hchain with
          | last => rfl
          | next hother => rw [hnext] at hother; cases hother
    by_cases hbad : (Text.isBlank nextCursor || decide (nextCursor ∈ seenCursors)) = true
    · refine ⟨.error (.safety "operations cursor is empty or cyclic"),
        readsPages_throw (fun cursors items hchain hfollow => ?_) fun r => ?_⟩
      · cases hchain with
        | last hlast => rw [hnext] at hlast; cases hlast
        | next hother =>
          cases hnext.symm.trans hother
          rw [hfollow.named _ List.mem_cons_self, Bool.false_or, decide_eq_true_eq] at hbad
          exact hfollow.unseen _ List.mem_cons_self hbad
      · rw [operationPages, runs_page, hnext]
        dsimp only
        rw [if_pos hbad]
        exact and_iff_left rfl
    · obtain ⟨r, hr⟩ := ih (some nextCursor) (nextCursor :: seenCursors)
        (operations ++ (broker cursor).items)
      refine ⟨r, fun r' => ?_, fun result => ?_, hr.refused⟩
      · rw [operationPages, runs_page, hnext]
        dsimp only
        rw [if_neg hbad]
        exact hr.ends r'
      rw [Bool.not_eq_true, Bool.or_eq_false_iff, decide_eq_false_iff_not] at hbad
      rw [hr.whole]
      constructor
      · rintro ⟨cursors, items, hchain, hfollow, rfl⟩
        refine ⟨nextCursor :: cursors, _, .next hnext hchain, ⟨?_, ?_, ?_, ?_⟩,
          List.append_assoc ..⟩
        · exact Nat.succ_lt_succ hfollow.bounded
        · exact List.nodup_cons.mpr ⟨fun h => hfollow.unseen _ h List.mem_cons_self, hfollow.once⟩
        · exact List.forall_mem_cons.mpr ⟨hbad.2, fun c hc h =>
            hfollow.unseen c hc (List.mem_cons_of_mem _ h)⟩
        · exact List.forall_mem_cons.mpr ⟨hbad.1, hfollow.named⟩
      · rintro ⟨cursors, items, hchain, hfollow, rfl⟩
        cases hchain with
        | last hlast => rw [hnext] at hlast; cases hlast
        | @next _ other cursors items hother hrest =>
          cases hnext.symm.trans hother
          obtain ⟨hfresh, honce⟩ := List.nodup_cons.mp hfollow.once
          refine ⟨cursors, items, hrest, ⟨Nat.lt_of_succ_lt_succ hfollow.bounded, honce, ?_, ?_⟩,
            (List.append_assoc ..).symm⟩
          · intro c hc h
            rcases List.mem_cons.mp h with rfl | h
            · exact hfresh hc
            · exact hfollow.unseen c (List.mem_cons_of_mem _ hc) h
          · exact fun c hc => hfollow.named c (List.mem_cons_of_mem _ hc)

end

/-- **The history is read whole, or the read fails**: for every broker the read ends with one
result. It is the operations of all pages that are reached from the empty cursor, in their order,
when they end, no cursor is blank or followed twice and there are at most as many as allowed;
otherwise it is a refusal. -/
theorem operations_whole_or_refused (broker : Option String → OperationsPage) (since : I64) :
    ∃ r, (∀ r', Runs (pagesOf broker) (operations since).run () r' () ↔ r' = r) ∧
      (∀ result, r = .ok result ↔ ∃ cursors, Chain broker none cursors result ∧
        Followable maxOperationPages [] cursors) ∧
      ∀ e, r = .error e → ∃ text, e = .safety text := by
  obtain ⟨r, hr⟩ := @readsPages broker since maxOperationPages none [] []
  refine ⟨r, hr.ends, fun result => (hr.whole result).trans ?_, hr.refused⟩
  constructor
  · rintro ⟨cursors, items, hchain, hfollow, rfl⟩
    exact ⟨cursors, hchain, hfollow⟩
  · rintro ⟨cursors, hchain, hfollow⟩
    exact ⟨cursors, result, hchain, hfollow, rfl⟩

end VoxTrader.Runtime
