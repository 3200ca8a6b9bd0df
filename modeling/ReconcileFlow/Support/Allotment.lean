import Mathlib.Data.List.Nodup
import Mathlib.Data.List.Flatten

/-!
# Support — Allotment

Handing out the items of a pool in batches, none of them twice.  Batches are *allotted* when
their items are distinct and come from the pool; a batch of new items of the pool may be added
(`Allotted.snoc`).  An allotment is *whole* when it hands out every item of the pool, as it does
once every item left is given a batch of its own (`Allotted.complete`).  Then each item is in
exactly one batch, once, and the batches hold nothing else (`Whole.exactlyOnce`).
-/

namespace Support

variable {ι : Type*}

/-- The batches hold distinct items of the pool. -/
structure Allotted (pool : List ι) (batches : List (List ι)) : Prop where
  nodup : batches.flatten.Nodup
  subset : ∀ x ∈ batches.flatten, x ∈ pool

/-- Every item of the pool is in exactly one batch, once, and the batches hold nothing else. -/
structure ExactlyOnce [BEq ι] (pool : List ι) (batches : List (List ι)) : Prop where
  covered : ∀ x ∈ pool, ∃ (i : Nat) (h : i < batches.length), batches[i].count x = 1 ∧
    ∀ (j : Nat) (hj : j < batches.length), j ≠ i → x ∉ batches[j]
  only : ∀ b ∈ batches, ∀ x ∈ b, x ∈ pool

variable {pool : List ι} {batches : List (List ι)}

theorem Allotted.nil : Allotted pool [] :=
  ⟨List.nodup_nil, fun _ hx => absurd hx List.not_mem_nil⟩

/-- A batch of items of the pool that are in no batch yet. -/
theorem Allotted.snoc (h : Allotted pool batches) {b : List ι} (hb : b.Nodup)
    (hnew : ∀ x ∈ b, x ∉ batches.flatten) (hpool : ∀ x ∈ b, x ∈ pool) :
    Allotted pool (batches ++ [b]) := by
  have hflat : (batches ++ [b]).flatten = batches.flatten ++ b := by simp
  refine ⟨?_, fun x hx => ?_⟩
  · rw [hflat]
    exact h.nodup.append hb fun x hx hxb => hnew x hxb hx
  · rw [hflat] at hx
    rcases List.mem_append.mp hx with hx | hx
    · exact h.subset x hx
    · exact hpool x hx

theorem flatten_append_empty {β : Type*} (batches : List (List ι)) (l : List β) :
    (batches ++ l.map fun _ => []).flatten = batches.flatten := by simp

/-- Batches without items allot nothing. -/
theorem Allotted.append_empty (h : Allotted pool batches) {β : Type*} (l : List β) :
    Allotted pool (batches ++ l.map fun _ => []) := by
  have hflat := flatten_append_empty batches l
  exact ⟨hflat ▸ h.nodup, hflat ▸ h.subset⟩

/-- Some of the batches of an allotment are one. -/
theorem Allotted.sublist (h : Allotted pool batches) {some : List (List ι)}
    (hsub : some.Sublist batches) : Allotted pool some :=
  ⟨h.nodup.sublist hsub.flatten, fun x hx => h.subset x (hsub.flatten.subset hx)⟩

/-- The batches hold the items of the pool that they hold, each as often as the pool. -/
theorem Allotted.perm_filter [DecidableEq ι] (h : Allotted pool batches) (hpool : pool.Nodup) :
    batches.flatten.Perm (pool.filter fun x => decide (x ∈ batches.flatten)) := by
  refine (List.perm_ext_iff_of_nodup h.nodup (hpool.filter _)).mpr fun x => ?_
  rw [List.mem_filter, decide_eq_true_eq]
  exact ⟨fun hx => ⟨h.subset x hx, hx⟩, fun hx => hx.2⟩

/-- An item of two batches of an allotment is in the same batch twice over: the batches are
one. -/
theorem Allotted.index_unique (h : Allotted pool batches) {x : ι} {i j : Nat}
    (hi : i < batches.length) (hj : j < batches.length) (hxi : x ∈ batches[i])
    (hxj : x ∈ batches[j]) : i = j := by
  have hp := (List.nodup_flatten.mp h.nodup).2
  rw [List.pairwise_iff_getElem] at hp
  rcases Nat.lt_trichotomy i j with hij | hij | hij
  · exact absurd hxj (hp i j hi hj hij hxi)
  · exact hij
  · exact absurd hxi (hp j i hj hi hij hxj)

/-! ### Whole allotments -/

/-- An allotment of every item of the pool. -/
structure Whole (pool : List ι) (batches : List (List ι)) : Prop extends
    Allotted pool batches where
  covers : ∀ x ∈ pool, x ∈ batches.flatten

theorem Whole.append_empty (h : Whole pool batches) {β : Type*} (l : List β) :
    Whole pool (batches ++ l.map fun _ => []) where
  toAllotted := h.toAllotted.append_empty l
  covers x hx := by
    rw [List.flatten_append]
    exact List.mem_append_left _ (h.covers x hx)

/-- A batch of its own for every item that is left completes an allotment. -/
theorem Allotted.complete (h : Allotted pool batches) {left : List ι} (hnodup : left.Nodup)
    (hleft : ∀ x, x ∈ left ↔ x ∈ pool ∧ x ∉ batches.flatten) :
    Whole pool (batches ++ left.map fun x => [x]) := by
  have hflat : (batches ++ left.map fun x => [x]).flatten = batches.flatten ++ left := by
    rw [List.flatten_append, ← List.flatMap_def, List.flatMap_singleton']
  refine ⟨⟨?_, fun x hx => ?_⟩, fun x hx => ?_⟩
  · rw [hflat]
    exact h.nodup.append hnodup fun x hx hxl => ((hleft x).mp hxl).2 hx
  · rw [hflat] at hx
    rcases List.mem_append.mp hx with hx | hx
    · exact h.subset x hx
    · exact ((hleft x).mp hx).1
  · rw [hflat]
    by_cases hb : x ∈ batches.flatten
    · exact List.mem_append_left _ hb
    · exact List.mem_append_right _ ((hleft x).mpr ⟨hx, hb⟩)

/-- **A whole allotment hands out every item exactly once.** -/
theorem Whole.exactlyOnce [BEq ι] [LawfulBEq ι] (h : Whole pool batches) :
    ExactlyOnce pool batches where
  covered x hx := by
    obtain ⟨b, hb, hxb⟩ := List.mem_flatten.mp (h.covers x hx)
    obtain ⟨i, hi, rfl⟩ := List.getElem_of_mem hb
    refine ⟨i, hi, ?_, fun j hj hne hxj => hne (h.toAllotted.index_unique hj hi hxj hxb)⟩
    exact List.count_eq_one_of_mem ((List.nodup_flatten.mp h.nodup).1 _ hb) hxb
  only b hb x hx := h.subset x (List.mem_flatten.mpr ⟨b, hb, hx⟩)

/-- Only which items the pool has matters, not their order. -/
theorem ExactlyOnce.of_perm [BEq ι] {pool' : List ι} (hp : pool.Perm pool')
    (h : ExactlyOnce pool batches) : ExactlyOnce pool' batches where
  covered x hx := h.covered x (hp.mem_iff.mpr hx)
  only b hb x hx := hp.mem_iff.mp (h.only b hb x hx)

end Support
