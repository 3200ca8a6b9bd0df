import Mathlib.Data.List.Forall2
import Mathlib.Data.List.Nodup
import Mathlib.Data.List.Pairwise
import Mathlib.Data.List.Perm.Basic

/-!
# Support — Lookup

Lists of pairs as dictionaries.  Where the keys are distinct, the value of a key is that of its pair
(`lookup_eq_some_iff_mem`), so that the order of the pairs does not matter (`lookup_perm`).
-/

namespace Support

variable {κ ν : Type*} [DecidableEq κ]

theorem mem_of_lookup {l : List (κ × ν)} {k : κ} {v : ν} (h : l.lookup k = some v) :
    (k, v) ∈ l := by
  obtain ⟨before, after, rfl, -⟩ := List.lookup_eq_some_iff.mp h
  exact List.mem_append_right _ List.mem_cons_self

/-- A key all of whose pairs have one value has that value. -/
theorem lookup_of_unique {l : List (κ × ν)} {k : κ} {v : ν} (hmem : (k, v) ∈ l)
    (hunique : ∀ v', (k, v') ∈ l → v' = v) : l.lookup k = some v := by
  cases h : l.lookup k with
  | none =>
    have := List.lookup_eq_none_iff.mp h (k, v) hmem
    simp at this
  | some v' => rw [hunique v' (mem_of_lookup h)]

theorem lookup_eq_some_iff_mem {l : List (κ × ν)} (hl : (l.map Prod.fst).Nodup) {k : κ} {v : ν} :
    l.lookup k = some v ↔ (k, v) ∈ l := by
  refine ⟨mem_of_lookup, fun h => lookup_of_unique h fun v' h' => ?_⟩
  have hpair := List.inj_on_of_nodup_map hl h' h rfl
  exact congrArg Prod.snd hpair

/-- A dictionary does not depend on the order of its pairs. -/
theorem lookup_perm {l l' : List (κ × ν)} (h : l.Perm l') (hl : (l.map Prod.fst).Nodup) (k : κ) :
    l.lookup k = l'.lookup k := by
  have hl' : (l'.map Prod.fst).Nodup := (h.map Prod.fst).nodup_iff.mp hl
  ext v
  rw [lookup_eq_some_iff_mem hl, lookup_eq_some_iff_mem hl', h.mem_iff]

/-- Items with one value are the same, where the values of a list are distinct. -/
theorem eq_of_nodup_filterMap {α : Type*} {f : α → Option ν} {l : List α}
    (h : (l.filterMap f).Nodup) {a b : α} (ha : a ∈ l) (hb : b ∈ l) {v : ν} (hfa : f a = some v)
    (hfb : f b = some v) : a = b := by
  by_contra hne
  have hpair := List.pairwise_filterMap.mp h
  have : Std.Symm fun a b : α => ∀ x, f a = some x → ∀ y, f b = some y → x ≠ y :=
    ⟨fun _ _ hab y hy x hx => (hab x hx y hy).symm⟩
  exact hpair.forall ha hb hne v hfa v hfb rfl

/-- The dictionary of the values that a function has at some keys. -/
theorem lookup_filterMap {f : κ → Option ν} {l : List κ} {k : κ} :
    (l.filterMap fun k => (f k).map fun v => (k, v)).lookup k = if k ∈ l then f k else none := by
  induction l with
  | nil => rfl
  | cons a l ih =>
    cases ha : f a with
    | none =>
      rw [List.filterMap_cons_none (by rw [ha]; rfl), ih]
      by_cases hk : k = a
      · subst hk
        simp [ha]
      · simp [hk]
    | some v =>
      rw [List.filterMap_cons_some (by rw [ha]; rfl), List.lookup_cons, ih]
      by_cases hk : k = a
      · subst hk
        simp [ha]
      · simp [hk, beq_eq_false_iff_ne.mpr hk]

theorem map_fst_zip_sublist {ι : Type*} (ks : List ι) (vs : List ν) :
    ((ks.zip vs).map Prod.fst).Sublist ks := by
  induction ks generalizing vs with
  | nil => exact List.Sublist.refl _
  | cons k ks ih =>
    cases vs with
    | nil => exact List.nil_sublist _
    | cons v vs => exact (ih vs).cons_cons k

/-- A loop that returns the value of each key in turn builds a dictionary. -/
theorem lookup_of_forall₂ {P : κ → ν → Prop} {ks : List κ} {l : List (κ × ν)}
    (h : List.Forall₂ (fun k p => p.1 = k ∧ P k p.2) ks l) {k : κ} (hk : k ∈ ks) :
    ∃ v, l.lookup k = some v ∧ P k v := by
  induction h with
  | nil => exact absurd hk List.not_mem_nil
  | @cons a p ks l hp _ ih =>
    obtain ⟨b, v⟩ := p
    obtain ⟨rfl, hv⟩ := hp
    by_cases hkb : k = b
    · subst hkb
      exact ⟨v, List.lookup_cons_self, hv⟩
    · rw [List.lookup_cons, beq_eq_false_iff_ne.mpr hkb]
      exact ih ((List.mem_cons.mp hk).resolve_left hkb)

theorem lookup_of_forall₂_not_mem {P : κ → ν → Prop} {ks : List κ} {l : List (κ × ν)}
    (h : List.Forall₂ (fun k p => p.1 = k ∧ P k p.2) ks l) {k : κ} (hk : k ∉ ks) :
    l.lookup k = none := by
  induction h with
  | nil => rfl
  | @cons a p ks l hp _ ih =>
    obtain ⟨_, v⟩ := p
    obtain ⟨rfl, -⟩ := hp
    rw [List.mem_cons, not_or] at hk
    rw [List.lookup_cons, beq_eq_false_iff_ne.mpr hk.1]
    exact ih hk.2

end Support
