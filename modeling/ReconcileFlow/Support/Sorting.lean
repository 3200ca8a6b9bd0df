import Mathlib.Data.List.Sort
import Mathlib.Data.List.Nodup

/-!
# Support — Sorting

Sorting a list by a key, stably.  A list whose keys are distinct has one sorted form, which every
permutation of it shares (`sortOn_eq_of_perm`); one more item takes one place in it and moves
nothing else (`sortOn_cons_split`), and some of its items stand in it in the order that they have by
themselves (`sortOn_filter`).
-/

namespace Support

variable {α κ : Type*} [LinearOrder κ]

/-- `sorted(l, key=key)`. -/
def sortOn (key : α → κ) (l : List α) : List α :=
  l.insertionSort fun a b => key a ≤ key b

variable (key : α → κ)

/-- The order is that of the keys, whatever they are. -/
theorem sortOn_congr {μ : Type*} [LinearOrder μ] {key' : α → μ}
    (h : ∀ a b, key a ≤ key b ↔ key' a ≤ key' b) (l : List α) : sortOn key l = sortOn key' l := by
  unfold sortOn
  simp only [h]

theorem sortOn_perm (l : List α) : (sortOn key l).Perm l :=
  List.perm_insertionSort _ l

@[simp] theorem mem_sortOn {l : List α} {a : α} : a ∈ sortOn key l ↔ a ∈ l :=
  (sortOn_perm key l).mem_iff

theorem sortOn_pairwise (l : List α) : (sortOn key l).Pairwise fun a b => key a ≤ key b :=
  have : Std.Total fun a b : α => key a ≤ key b := ⟨fun a b => le_total (key a) (key b)⟩
  have : IsTrans α fun a b => key a ≤ key b := ⟨fun _ _ _ => le_trans⟩
  List.pairwise_insertionSort _ l

/-- Items may be replaced by what their keys are of. -/
theorem map_sortOn {β : Type*} (f : α → β) (key : β → κ) (l : List α) :
    (sortOn (fun a => key (f a)) l).map f = sortOn key (l.map f) :=
  List.map_insertionSort _ _ f l fun _ _ _ _ => Iff.rfl

/-- The head of a sorted list comes before every item. -/
theorem le_of_head_sortOn {l : List α} {a b : α} (h : (sortOn key l).head? = some a) (hb : b ∈ l) :
    key a ≤ key b := by
  rw [← mem_sortOn key] at hb
  have hp := sortOn_pairwise key l
  generalize sortOn key l = sorted at h hb hp
  cases sorted with
  | nil => cases h
  | cons c sorted =>
    obtain rfl : c = a := Option.some.inj h
    rcases List.mem_cons.mp hb with rfl | hb
    · exact le_refl _
    · exact (List.pairwise_cons.mp hp).1 b hb

/-- **The sorted form of a list with distinct keys does not depend on its order.** -/
theorem sortOn_eq_of_perm {l₁ l₂ : List α} (hk : (l₁.map key).Nodup) (h : l₁.Perm l₂) :
    sortOn key l₁ = sortOn key l₂ := by
  have hp : (sortOn key l₁).Perm (sortOn key l₂) :=
    (sortOn_perm key l₁).trans (h.trans (sortOn_perm key l₂).symm)
  refine List.Perm.eq_of_pairwise ?_ (sortOn_pairwise key l₁) (sortOn_pairwise key l₂) hp
  intro a b ha hb hab hba
  rw [mem_sortOn] at ha hb
  exact List.inj_on_of_nodup_map hk ha (h.mem_iff.mpr hb) (le_antisymm hab hba)

/-- An item put in front of a list takes one place of its sorted form. -/
theorem sortOn_cons_split (x : α) (l : List α) :
    ∃ pre post, sortOn key l = pre ++ post ∧ sortOn key (x :: l) = pre ++ x :: post :=
  ⟨_, _, (List.takeWhile_append_dropWhile).symm, List.insertionSort_cons_eq_take_drop _ x l⟩

/-- Some of the items stand in the order in which they stand among all. -/
theorem sortOn_filter (q : α → Bool) {l : List α} (hk : (l.map key).Nodup) :
    sortOn key (l.filter q) = (sortOn key l).filter q := by
  have hp : (sortOn key (l.filter q)).Perm ((sortOn key l).filter q) :=
    (sortOn_perm key _).trans ((sortOn_perm key l).symm.filter q)
  refine hp.eq_of_pairwise ?_ (sortOn_pairwise key _) ((sortOn_pairwise key l).filter q)
  intro a b ha hb hab hba
  rw [mem_sortOn] at ha
  have hb := (mem_sortOn key).mp (List.mem_of_mem_filter hb)
  exact List.inj_on_of_nodup_map hk (List.mem_of_mem_filter ha) hb (le_antisymm hab hba)

end Support
