import Mathlib.Algebra.Order.BigOperators.Group.List
import Mathlib.Algebra.Order.Group.Nat
import Mathlib.Data.List.Nodup

/-!
# Tables as lists of rows

A database table is a list of rows, and a key of it is a function on rows that no two rows share.
A table may have several keys. The operations are those of a small store: look a row up by a key,
append a row with fresh keys, and rewrite the row of a key in place.

## Main definitions

* `Rows.Unique` — `key` is a key of the table.
* `Rows.select` — the row of a key, if there is one.
* `Rows.update` — rewrite the row of a key.
* `Rows.upsert` — rewrite the row of a key, or append one.
* `Rows.total` — a sum over some of the rows.

## Main results

* `Rows.select_eq_some` — in a table with unique keys, the lookup finds exactly the row there is.
* `Rows.Unique.append`, `Rows.Unique.update`, `Rows.Unique.upsert` — the operations keep the keys.
* `Rows.select_update`, `Rows.select_append`, `Rows.select_upsert` — what a lookup sees after an
  operation.
* `Rows.total_append`, `Rows.total_update_le` — what an operation does to a total over the table.
* `Rows.total_split`, `Rows.total_map_congr` — splitting a total, and comparing two.
-/

namespace Rows

variable {ρ κ κ' : Type} [DecidableEq κ]

/-- No two rows share their `key`. -/
def Unique (key : ρ → κ') (rows : List ρ) : Prop := (rows.map key).Nodup

instance (key : ρ → κ) (rows : List ρ) : Decidable (Unique key rows) :=
  inferInstanceAs (Decidable (rows.map key).Nodup)

/-- The first row with key `k`. -/
def select (key : ρ → κ) (k : κ) (rows : List ρ) : Option ρ :=
  rows.find? fun r => key r = k

/-- Rewrite the rows with key `k` by `f`. -/
def update (key : ρ → κ) (k : κ) (f : ρ → ρ) (rows : List ρ) : List ρ :=
  rows.map fun r => if key r = k then f r else r

/-- Rewrite the row with the key of `r` by `f`, or append `r` when there is none. -/
def upsert (key : ρ → κ) (r : ρ) (f : ρ → ρ) (rows : List ρ) : List ρ :=
  if (select key (key r) rows).isSome then update key (key r) f rows else rows ++ [r]

/-! ## Lookups -/

variable {key : ρ → κ} {k : κ} {rows : List ρ} {r s : ρ} {f : ρ → ρ} {key' : ρ → κ'} {j : κ}
  {p : ρ → Bool}

/-- A row that is found is in the table and has the key. -/
lemma mem_of_select (h : select key k rows = some r) : r ∈ rows ∧ key r = k := by
  refine ⟨List.mem_of_find?_eq_some h, ?_⟩
  simpa using List.find?_some h

/-- No row is found iff none has the key. -/
lemma select_eq_none : select key k rows = none ↔ ∀ r ∈ rows, key r ≠ k := by
  simp [select, List.find?_eq_none]

/-- In a table with unique keys two rows with one key are one row. -/
lemma Unique.eq_of_key_eq {key : ρ → κ'} (hu : Unique key rows) (hr : r ∈ rows) (hs : s ∈ rows)
    (h : key r = key s) : r = s :=
  List.inj_on_of_nodup_map hu hr hs h

/-- In a table with unique keys the lookup finds exactly the row there is. -/
lemma select_eq_some (hu : Unique key rows) :
    select key k rows = some r ↔ r ∈ rows ∧ key r = k := by
  refine ⟨mem_of_select, fun ⟨hr, hk⟩ => ?_⟩
  rcases hs : select key k rows with _ | s
  · exact absurd hk (select_eq_none.mp hs r hr)
  · obtain ⟨hmem, hkey⟩ := mem_of_select hs
    rw [hu.eq_of_key_eq hmem hr (hkey.trans hk.symm)]

/-! ## Appending a row -/

/-- A row with a fresh key may be appended. -/
lemma Unique.append (hu : Unique key rows) (hfresh : select key (key r) rows = none) :
    Unique key (rows ++ [r]) := by
  rw [select_eq_none] at hfresh
  unfold Unique at hu ⊢
  rw [List.map_append, List.nodup_append]
  refine ⟨hu, List.nodup_singleton _, ?_⟩
  intro a ha b hb
  obtain ⟨s, hs, rfl⟩ := List.mem_map.mp ha
  rw [List.map_singleton, List.mem_singleton] at hb
  rw [hb]
  exact hfresh s hs

/-- Only a row with a new key keeps the key unique. -/
lemma Unique.select_eq_none_of_append (hu : Unique key (rows ++ [r])) :
    select key (key r) rows = none := by
  rw [select_eq_none]
  intro s hs hkey
  rw [Unique, List.map_append, List.nodup_append] at hu
  exact hu.2.2 (key s) (List.mem_map_of_mem hs) (key r) (List.mem_singleton.mpr rfl) hkey

/-- After appending rows, a lookup sees the old rows first and then the new ones. -/
lemma select_concat {rows' : List ρ} :
    select key k (rows ++ rows') = (select key k rows).or (select key k rows') :=
  List.find?_append

lemma select_append : select key k (rows ++ [r]) =
      (select key k rows).or (if key r = k then some r else none) := by
  rw [select_concat]
  by_cases h : key r = k <;> simp [select, h]

/-! ## Rewriting a row -/

/-- A rewrite that keeps a column keeps that column of the table. -/
lemma map_update {β : Type} {g : ρ → β} (hf : ∀ r, g (f r) = g r) :
    (update key k f rows).map g = rows.map g := by
  rw [update, List.map_map]
  refine List.map_congr_left fun r _ => ?_
  by_cases h : key r = k
  · simp [h, hf]
  · simp [h]

/-- A rewrite that keeps a key keeps its uniqueness. -/
lemma Unique.update (hu : Unique key' rows) (hf : ∀ r, key' (f r) = key' r) :
    Unique key' (update key k f rows) := by
  unfold Unique
  rw [map_update hf]
  exact hu

/-- A lookup after a rewrite finds the rewritten row. -/
lemma select_update [DecidableEq κ'] {j : κ'} (hf : ∀ r, key' (f r) = key' r) :
    select key' j (update key k f rows) =
      (select key' j rows).map fun r => if key r = k then f r else r := by
  unfold select update
  rw [List.find?_map]
  congr 1
  refine congrArg (fun p => List.find? p rows) (funext fun r => ?_)
  by_cases h : key r = k
  · simp [h, hf]
  · simp [h]

/-- A lookup after a row was overwritten finds the new row in its place. -/
lemma select_overwrite : select key j (update key (key s) (fun _ => s) rows) =
      if j = key s then (select key j rows).map fun _ => s else select key j rows := by
  have hsame : ((fun r => decide (key r = j)) ∘ fun r => if key r = key s then s else r) =
      fun r => decide (key r = j) := by
    funext r
    by_cases h : key r = key s <;> simp [h]
  unfold select update
  rw [List.find?_map, hsame]
  rcases hfound : rows.find? (fun r => decide (key r = j)) with _ | r
  · simp
  · have hkey : key r = j := of_decide_eq_true (List.find?_some hfound :)
    by_cases hj : j = key s <;> simp [hkey, hj]

/-- The rows of a rewritten table. -/
lemma mem_update : s ∈ update key k f rows ↔ ∃ r ∈ rows, (if key r = k then f r else r) = s := by
  simp [update]

/-- Rewriting or appending a row keeps the keys. -/
lemma Unique.upsert (hu : Unique key rows) (hf : ∀ r, key (f r) = key r) :
    Unique key (upsert key r f rows) := by
  unfold Rows.upsert
  split_ifs with h
  · exact hu.update hf
  · exact hu.append (Option.not_isSome_iff_eq_none.mp h)

/-- A lookup after rewriting or appending a row finds that row, and the others as they were. -/
lemma select_upsert (hf : ∀ r, key (f r) = key r) : select key j (upsert key r f rows) =
      if j = key r then some ((select key (key r) rows).elim r f) else select key j rows := by
  unfold upsert
  by_cases hj : j = key r
  · subst hj
    rw [if_pos rfl]
    split_ifs with h
    · obtain ⟨s, hs⟩ := Option.isSome_iff_exists.mp h
      rw [select_update hf, hs]
      simp [(mem_of_select hs).2]
    · rw [select_append, Option.not_isSome_iff_eq_none.mp h]
      simp
  · rw [if_neg hj]
    split_ifs with h
    · rw [select_update hf]
      rcases hs : select key j rows with _ | s
      · rfl
      · simp [(mem_of_select hs).2, hj]
    · rw [select_append, if_neg (Ne.symm hj), Option.or_none]

/-- A lookup after a row was written, over the one with its key if there is one. -/
lemma select_put :
    select key j (upsert key r (fun _ => r) rows) =
      if j = key r then some r else select key j rows := by
  unfold upsert
  split_ifs with h hj hj
  · obtain ⟨s, hs⟩ := Option.isSome_iff_exists.mp h
    rw [select_overwrite, if_pos hj, hj, hs, Option.map_some]
  · rw [select_overwrite, if_neg hj]
  · rw [select_append, if_pos hj.symm, hj, Option.not_isSome_iff_eq_none.mp h, Option.none_or]
  · rw [select_append, if_neg (Ne.symm hj), Option.or_none]

/-! ## Deleting rows -/

/-- A lookup after rows were deleted finds nothing else than before. -/
lemma select_filter (hp : ∀ r, key r = k → p r = true) :
    select key k (rows.filter p) = select key k rows := by
  unfold select
  rw [List.find?_filter]
  refine congrArg (fun q => rows.find? q) (funext fun r => ?_)
  by_cases h : key r = k
  · simp [h, hp r h]
  · simp [h]

/-- A lookup finds no row that was deleted. -/
lemma select_filter_none (hp : ∀ r, key r = k → p r = false) :
    select key k (rows.filter p) = none := by
  rw [select_eq_none]
  intro r hr hkey
  have := (List.mem_filter.mp hr).2
  rw [hp r hkey] at this
  cases this

/-! ## Totals -/

section Totals

variable {M : Type} [AddCommMonoid M]

/-- The total of `share` over the rows that are `counted`. -/
def total (counted : ρ → Bool) (share : ρ → M) (rows : List ρ) : M :=
  ((rows.filter counted).map share).sum

/-- A total row by row: a row that is not counted adds nothing. -/
lemma total_eq_sum (counted : ρ → Bool) (share : ρ → M) (rows : List ρ) :
    total counted share rows = (rows.map fun r => if counted r then share r else 0).sum := by
  induction rows with
  | nil => rfl
  | cons r rows ih =>
    unfold total at ih ⊢
    by_cases hr : counted r = true <;> simp [hr, ih]

/-- An appended row adds its share if it is counted. -/
lemma total_append (counted : ρ → Bool) (share : ρ → M) (rows : List ρ) (r : ρ) :
    total counted share (rows ++ [r]) =
      total counted share rows + if counted r then share r else 0 := by
  unfold total
  rw [List.filter_append, List.map_append, List.sum_append]
  by_cases h : counted r = true <;> simp [h]

/-- A total is the total over the rows with a property and that over the rows without it. -/
lemma total_split (counted p : ρ → Bool) (share : ρ → M) (rows : List ρ) :
    total counted share rows = total (fun r => counted r && p r) share rows +
      total (fun r => counted r && !p r) share rows := by
  simp only [total_eq_sum, ← List.sum_map_add]
  refine congrArg List.sum (List.map_congr_left fun r _ => ?_)
  cases counted r <;> cases p r <;> simp

/-- Two tables have the same total when their rows, one by one, count for the same. -/
lemma total_map_congr {counted counted' : ρ → Bool} {share share' : ρ → M} {g : ρ → ρ}
    {rows : List ρ} (h : ∀ r ∈ rows, (if counted (g r) then share (g r) else 0) =
      if counted' r then share' r else 0) :
    total counted share (rows.map g) = total counted' share' rows := by
  rw [total_eq_sum, total_eq_sum, List.map_map]
  exact congrArg List.sum (List.map_congr_left h)

end Totals

/-- **A rewrite that counts no new row and raises no share lowers the total.** -/
lemma total_update_le {counted : ρ → Bool} {share : ρ → ℕ}
    (h : ∀ r ∈ rows, key r = k → counted (f r) = true → counted r = true ∧ share (f r) ≤ share r) :
    total counted share (update key k f rows) ≤ total counted share rows := by
  -- per row: what it counts for afterwards is at most what it counted for before
  rw [total_eq_sum, total_eq_sum, update, List.map_map]
  refine List.sum_le_sum fun r hr => ?_
  by_cases hk : key r = k
  · by_cases hc : counted (f r) = true
    · obtain ⟨hcr, hle⟩ := h r hr hk hc
      simpa [hk, hc, hcr] using hle
    · simp [hk, hc]
  · simp [hk]

end Rows
