import ReconcileFlow.Support.Sorting
import ReconcileFlow.Support.Table
import ReconcileFlow.Support.Transaction

/-!
# Support — Draining

Rows that are deleted in batches until a batch is short.  A batch is the first rows, in some order,
that meet a condition (`batch`); deleting it leaves the rows that do not meet the condition, and so
many fewer of those that do.  A loop over transactions that delete so ends, with every row that meets
the condition deleted and counted, however large its batches are (`drain_eq`).
-/

namespace Support

/-! ### Batches -/

namespace Table

variable {ρ κ ω : Type*} {S : Schema ρ κ} [DecidableEq κ] [LinearOrder ω] (t : Table S)
  (p : ρ → Bool) (order : ρ → ω) (limit : ℕ)

/-- The keys of the first `limit` rows that meet the condition. -/
def batch : List κ := ((sortOn order (t.rows.filter p)).take limit).map S.key

/-- The row is in the batch, and still meets the condition. -/
def inBatch (r : ρ) : Bool := decide (S.key r ∈ t.batch p order limit) && p r

omit [DecidableEq κ] in
theorem nodup_rows : t.rows.Nodup := t.valid.1.of_map

omit [DecidableEq κ] in
theorem mem_batch {r : ρ} (hr : r ∈ t.rows) : S.key r ∈ t.batch p order limit ↔
    r ∈ (sortOn order (t.rows.filter p)).take limit := by
  refine ⟨fun h => ?_, List.mem_map_of_mem⟩
  obtain ⟨s, hs, hkey⟩ := List.mem_map.mp h
  have hstored : s ∈ t.rows :=
    (List.mem_filter.mp ((mem_sortOn order).mp (List.mem_of_mem_take hs))).1
  rw [← List.inj_on_of_nodup_map t.valid.1 hstored hr hkey]
  exact hs

theorem filter_inBatch_perm : (t.rows.filter (t.inBatch p order limit)).Perm
    ((sortOn order (t.rows.filter p)).take limit) := by
  have hsorted : (sortOn order (t.rows.filter p)).Nodup :=
    (sortOn_perm order _).nodup_iff.mpr (t.nodup_rows.filter _)
  refine (List.perm_ext_iff_of_nodup (t.nodup_rows.filter _)
    (hsorted.sublist (List.take_sublist _ _))).mpr fun r => ?_
  rw [List.mem_filter, inBatch, Bool.and_eq_true, decide_eq_true_eq]
  constructor
  · rintro ⟨hr, hkey, -⟩
    exact (t.mem_batch p order limit hr).mp hkey
  · intro h
    obtain ⟨hr, hp⟩ := List.mem_filter.mp ((mem_sortOn order).mp (List.mem_of_mem_take h))
    exact ⟨hr, (t.mem_batch p order limit hr).mpr h, hp⟩

/-- So many rows are deleted. -/
theorem length_filter_inBatch :
    (t.rows.filter (t.inBatch p order limit)).length = min limit (t.rows.countP p) := by
  rw [(t.filter_inBatch_perm p order limit).length_eq, List.length_take,
    (sortOn_perm order _).length_eq, ← List.countP_eq_length_filter]

/-- So many rows stay that meet the condition. -/
theorem countP_filter_inBatch :
    (t.filter fun r => !t.inBatch p order limit r).rows.countP p =
      t.rows.countP p - min limit (t.rows.countP p) := by
  have hsplit := List.countP_eq_countP_filter_add t.rows p (t.inBatch p order limit)
  have hall : (t.rows.filter (t.inBatch p order limit)).countP p =
      (t.rows.filter (t.inBatch p order limit)).length := by
    refine List.countP_eq_length.mpr fun r hr => ?_
    exact (Bool.and_eq_true_iff.mp (List.mem_filter.mp hr).2).2
  rw [hall, length_filter_inBatch] at hsplit
  show (t.rows.filter fun r => !t.inBatch p order limit r).countP p = _
  omega

omit [DecidableEq κ] in
theorem eq_of_rows {t t' : Table S} (h : t.rows = t'.rows) : t = t' := by
  cases t
  cases t'
  cases h
  rfl

/-- The rows that do not meet the condition stay. -/
theorem filter_filter_inBatch :
    (t.filter fun r => !t.inBatch p order limit r).filter (fun r => !p r) =
      t.filter fun r => !p r := by
  refine eq_of_rows ?_
  show (t.rows.filter fun r => !t.inBatch p order limit r).filter (fun r => !p r) =
    t.rows.filter fun r => !p r
  rw [List.filter_filter]
  refine List.filter_congr fun r _ => ?_
  cases hp : p r <;> simp [inBatch, hp]

omit [DecidableEq κ] in
theorem filter_of_countP_eq_zero {t : Table S} {p : ρ → Bool} (h : t.rows.countP p = 0) :
    (t.filter fun r => !p r) = t := by
  refine eq_of_rows (List.filter_eq_self.mpr fun r hr => ?_)
  have hnot := List.countP_eq_zero.mp h r hr
  simpa using hnot

theorem filter_inBatch_of_nil {t : Table S} (h : t.batch p order limit = []) :
    t.rows.filter (t.inBatch p order limit) = [] := by
  refine List.filter_eq_nil_iff.mpr fun r _ => ?_
  simp [inBatch, h]

/-- An empty batch leaves the table as it is. -/
theorem filter_not_inBatch_of_nil {t : Table S} (h : t.batch p order limit = []) :
    (t.filter fun r => !t.inBatch p order limit r) = t := by
  refine eq_of_rows (List.filter_eq_self.mpr fun r _ => ?_)
  simp [inBatch, h]

end Table

/-! ### The loop -/

namespace Transaction

variable {σ ε : Type}

/-- Deletes until fewer than `size` rows have been deleted, and returns their total number. -/
def drain (delete : Transaction σ ε ℕ) (size : ℕ) : ℕ → ℕ → σ → Option (Except ε ℕ × σ)
  | 0, _, _ => none
  | fuel + 1, total, s =>
    match atomically delete s with
    | (.error e, t) => some (.error e, t)
    | (.ok deleted, t) =>
      if deleted < size then some (.ok (total + deleted), t)
      else drain delete size fuel (total + deleted) t

/-- The loop ends with nothing left to delete, if each turn deletes `size` of the expired rows or all
of them, and keeps what the state is when they are cleared. -/
theorem drain_eq {delete : Transaction σ ε ℕ} {size : ℕ} (hsize : 1 ≤ size) (expired : σ → ℕ)
    (cleared : σ → σ)
    (hdelete : ∀ s, ∃ t, delete.run s = .ok (min size (expired s), t) ∧
      expired t = expired s - min size (expired s) ∧ cleared t = cleared s)
    (hcleared : ∀ s, expired s = 0 → cleared s = s) {fuel : ℕ} {s : σ} (hfuel : expired s < fuel)
    (total : ℕ) : drain delete size fuel total s = some (.ok (total + expired s), cleared s) := by
  induction fuel generalizing s total with
  | zero => exact absurd hfuel (Nat.not_lt_zero _)
  | succ fuel ih =>
    obtain ⟨t, hrun, hexpired, hsame⟩ := hdelete s
    have hatomically : atomically delete s = (.ok (min size (expired s)), t) := by
      rw [atomically, hrun]
    rw [drain, hatomically]
    by_cases hshort : expired s < size
    · have hall : min size (expired s) = expired s := Nat.min_eq_right (Nat.le_of_lt hshort)
      have hnone : expired t = 0 := by omega
      simp only [hall, if_pos hshort]
      rw [← hsame, hcleared t hnone]
    · have hfull : min size (expired s) = size := Nat.min_eq_left (Nat.not_lt.mp hshort)
      have hrest : expired t < fuel := by omega
      have htotal : total + size + expired t = total + expired s := by omega
      simp only [hfull, if_neg (Nat.lt_irrefl size)]
      rw [ih hrest, htotal, hsame]

end Transaction

end Support
