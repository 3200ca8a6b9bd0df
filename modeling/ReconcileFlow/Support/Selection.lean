import Mathlib.Data.List.Basic
import Mathlib.Data.List.Nodup
import Mathlib.Data.List.Sublists

/-!
# Support — Selection

Choosing items from a list: the combinations of a size, in the order of their positions, the
only element of a list, and the first number of a range at which a search succeeds.
-/

namespace Support

variable {α : Type*}

/-- `itertools.combinations(l, k)`: the sublists of length `k`, ordered by their positions. -/
def combinations : Nat → List α → List (List α)
  | 0, _ => [[]]
  | _ + 1, [] => []
  | k + 1, x :: xs => (combinations k xs).map (x :: ·) ++ combinations (k + 1) xs

theorem mem_combinations {k : Nat} {l c : List α} :
    c ∈ combinations k l ↔ c.Sublist l ∧ c.length = k := by
  induction l generalizing k c with
  | nil =>
      cases k with
      | zero => simp [combinations]
      | succ k =>
          simp only [combinations, List.not_mem_nil, List.sublist_nil, false_iff]
          rintro ⟨rfl, h⟩
          cases h
  | cons x xs ih =>
      cases k with
      | zero =>
          simp only [combinations, List.mem_singleton, List.length_eq_zero_iff]
          exact ⟨fun h => ⟨h ▸ List.nil_sublist _, h⟩, fun h => h.2⟩
      | succ k =>
          simp only [combinations, List.mem_append, List.mem_map, ih, List.sublist_cons_iff]
          constructor
          · rintro (⟨d, ⟨hd, rfl⟩, rfl⟩ | ⟨hc, hk⟩)
            · exact ⟨.inr ⟨d, rfl, hd⟩, rfl⟩
            · exact ⟨.inl hc, hk⟩
          · rintro ⟨hc | ⟨d, rfl, hd⟩, hk⟩
            · exact .inr ⟨hc, hk⟩
            · exact .inl ⟨d, ⟨hd, Nat.succ.inj hk⟩, rfl⟩

theorem nodup_combinations {l : List α} (h : l.Nodup) (k : Nat) : (combinations k l).Nodup := by
  induction l generalizing k with
  | nil =>
      cases k with
      | zero => exact List.nodup_singleton []
      | succ k => exact List.nodup_nil
  | cons x xs ih =>
      obtain ⟨hx, hxs⟩ := List.nodup_cons.mp h
      cases k with
      | zero => exact List.nodup_singleton []
      | succ k =>
          refine List.Nodup.append ((ih hxs k).map List.cons_injective) (ih hxs (k + 1)) ?_
          -- a choice on the left has `x`, and one on the right is of `xs`
          intro c hleft hright
          obtain ⟨d, -, rfl⟩ := List.mem_map.mp hleft
          exact hx ((mem_combinations.mp hright).1.subset List.mem_cons_self)

/-- The one element of a list of length one. -/
def only : List α → Option α
  | [x] => some x
  | _ => none

theorem only_eq_some {l : List α} {x : α} : only l = some x ↔ l = [x] := by
  match l with
  | [] => simp [only]
  | [y] => simp [only]
  | y :: z :: l => simp [only]

/-- In a list without repetitions, the only element is the one that there is. -/
theorem only_eq_some_iff_forall {l : List α} (h : l.Nodup) {x : α} :
    only l = some x ↔ x ∈ l ∧ ∀ y ∈ l, y = x := by
  rw [only_eq_some]
  constructor
  · rintro rfl
    exact ⟨List.mem_singleton_self x, fun y hy => List.mem_singleton.mp hy⟩
  · rintro ⟨hx, hall⟩
    rw [List.eq_replicate_of_mem hall, ← List.replicate_one]
    have hlen : l.length ≤ 1 :=
      List.nodup_replicate.mp (List.eq_replicate_of_mem hall ▸ h)
    rw [Nat.le_antisymm hlen (List.length_pos_of_mem hx)]

theorem only_eq_none_iff_forall {l : List α} (h : l.Nodup) :
    only l = none ↔ ¬ ∃! x, x ∈ l := by
  rw [← not_iff_not, not_not, ← Ne, Option.ne_none_iff_exists']
  exact exists_congr fun x => only_eq_some_iff_forall h

/-- A search through a range finds what the first number gives that gives anything. -/
theorem findSome?_range'_eq_some {f : Nat → Option α} {s n : Nat} {b : α} :
    (List.range' s n).findSome? f = some b ↔
      ∃ k, s ≤ k ∧ k < s + n ∧ f k = some b ∧ ∀ j, s ≤ j → j < k → f j = none := by
  induction n generalizing s with
  | zero =>
      simp only [List.range'_zero, List.findSome?_nil, Nat.add_zero]
      constructor
      · exact nofun
      · rintro ⟨k, hle, hlt, -⟩
        exact absurd hle (Nat.not_le.mpr hlt)
  | succ n ih =>
      rw [List.range'_succ, List.findSome?_cons]
      cases hs : f s with
      | some c =>
          constructor
          · intro h
            exact ⟨s, le_rfl, by omega, hs.trans h, fun j hle hlt => absurd hle (by omega)⟩
          · rintro ⟨k, hle, -, hk, hbefore⟩
            rcases Nat.eq_or_lt_of_le hle with rfl | hlt
            · exact hs.symm.trans hk
            · exact absurd (hbefore s le_rfl hlt) (by simp [hs])
      | none =>
          rw [ih]
          constructor
          · rintro ⟨k, hle, hlt, hk, hbefore⟩
            refine ⟨k, by omega, by omega, hk, fun j hj hjk => ?_⟩
            rcases Nat.eq_or_lt_of_le hj with rfl | hj
            · exact hs
            · exact hbefore j hj hjk
          · rintro ⟨k, hle, hlt, hk, hbefore⟩
            have hne : k ≠ s := fun h => by simp [h, hs] at hk
            exact ⟨k, by omega, by omega, hk, fun j hj hjk => hbefore j (by omega) hjk⟩

theorem mem_of_only {l : List α} {x : α} (h : only l = some x) : x ∈ l :=
  only_eq_some.mp h ▸ List.mem_singleton_self x

end Support
