import Mathlib.Data.List.Basic
import Mathlib.Data.List.Forall2
import Mathlib.Data.List.Nodup

/-!
# Support — Folding

What a loop `for x in xs: s = f(s, x)` does, told through the states it is in when it takes up
each item.  `visits` lists those states with their items.  An invariant of the loop holds at
every visit (`loop_invariant`); what the loop outputs is what its visits emit, in order
(`output_foldl`); items that share nothing are untouched when they are visited (`visits_fresh`);
and a loop over some of the items may go along with it (`foldl_filter_related`).
-/

namespace Support

variable {σ α β : Type*} (f : σ → α → σ)

/-- The state in which the loop takes up each item, with the item. -/
def visits : σ → List α → List (σ × α)
  | _, [] => []
  | s, x :: xs => (s, x) :: visits (f s x) xs

variable {f}

/-- Every visit takes up an item of the list. -/
theorem mem_of_visits {xs : List α} {s : σ} {v : σ × α} (hv : v ∈ visits f s xs) : v.2 ∈ xs := by
  induction xs generalizing s with
  | nil => exact absurd hv List.not_mem_nil
  | cons x xs ih =>
      rcases List.mem_cons.mp hv with rfl | hv
      · exact List.mem_cons_self
      · exact List.mem_cons_of_mem _ (ih hv)

/-- Every item of the list is taken up. -/
theorem exists_visit {xs : List α} {x : α} (hx : x ∈ xs) (s : σ) :
    ∃ t, (t, x) ∈ visits f s xs := by
  induction xs generalizing s with
  | nil => exact absurd hx List.not_mem_nil
  | cons y xs ih =>
      rcases List.mem_cons.mp hx with rfl | hx
      · exact ⟨s, List.mem_cons_self⟩
      · obtain ⟨t, ht⟩ := ih hx (f s y)
        exact ⟨t, List.mem_cons_of_mem _ ht⟩

/-- What every iteration keeps and holds after a visit holds at the end. -/
theorem foldl_of_visit (P : σ → Prop) (hkeep : ∀ s x, P s → P (f s x)) {xs : List α} {s : σ}
    {v : σ × α} (hv : v ∈ visits f s xs) (h : P (f v.1 v.2)) : P (xs.foldl f s) := by
  have hlast : ∀ (ys : List α) (t : σ), P t → P (ys.foldl f t) := by
    intro ys
    induction ys with
    | nil => exact fun _ h => h
    | cons y ys ih => exact fun t h => ih (f t y) (hkeep t y h)
  induction xs generalizing s with
  | nil => exact absurd hv List.not_mem_nil
  | cons x xs ih =>
      rcases List.mem_cons.mp hv with rfl | hv
      · exact hlast xs _ h
      · exact ih hv

/-- **A loop invariant**, kept by the iterations from the states the loop is in, holds at every
visit and at the end. -/
theorem loop_invariant (P : σ → Prop) {xs : List α} {s : σ} (hs : P s)
    (hstep : ∀ v ∈ visits f s xs, P v.1 → P (f v.1 v.2)) :
    P (xs.foldl f s) ∧ ∀ v ∈ visits f s xs, P v.1 := by
  induction xs generalizing s with
  | nil => exact ⟨hs, fun v hv => absurd hv List.not_mem_nil⟩
  | cons x xs ih =>
      have hx : P (f s x) := hstep (s, x) List.mem_cons_self hs
      obtain ⟨hend, hvisits⟩ := ih hx fun v hv => hstep v (List.mem_cons_of_mem _ hv)
      refine ⟨hend, fun v hv => ?_⟩
      rcases List.mem_cons.mp hv with rfl | hv
      · exact hs
      · exact hvisits v hv

/-- What taking up an item achieves, and the other iterations keep, is achieved for every item
at the end. -/
theorem foldl_achieves (Q : α → σ → Prop) (hdone : ∀ s x, Q x (f s x))
    (hkeep : ∀ s x y, Q x s → Q x (f s y)) (xs : List α) (s : σ) :
    ∀ x ∈ xs, Q x (xs.foldl f s) := by
  have hlast : ∀ (ys : List α) (s : σ) (x : α), Q x s → Q x (ys.foldl f s) := by
    intro ys
    induction ys with
    | nil => exact fun _ _ h => h
    | cons y ys ih => exact fun s x h => ih _ x (hkeep s x y h)
  induction xs generalizing s with
  | nil => exact fun x hx => absurd hx List.not_mem_nil
  | cons y xs ih =>
      intro x hx
      rcases List.mem_cons.mp hx with rfl | hx
      · exact hlast xs _ x (hdone s x)
      · exact ih _ x hx

/-- **What is not shared is fresh.**  If an iteration takes at most the elements of its item, and
no two items share an element, a visit finds the elements of its item untaken. -/
theorem visits_fresh {ι : Type*} (taken : σ → List ι) (elements : α → List ι) {xs : List α}
    {s : σ} (hstep : ∀ s x, ∀ i ∈ taken (f s x), i ∈ taken s ∨ i ∈ elements x)
    (hdisjoint : (xs.flatMap elements).Nodup) (hstart : ∀ i ∈ xs.flatMap elements, i ∉ taken s) :
    ∀ v ∈ visits f s xs, ∀ i ∈ elements v.2, i ∉ taken v.1 := by
  induction xs generalizing s with
  | nil => exact fun v hv => absurd hv List.not_mem_nil
  | cons x xs ih =>
      rw [List.flatMap_cons] at hdisjoint hstart
      intro v hv
      rcases List.mem_cons.mp hv with rfl | hv
      · exact fun i hi => hstart i (List.mem_append_left _ hi)
      · refine ih hdisjoint.of_append_right (fun i hi hti => ?_) v hv
        rcases hstep s x i hti with h | h
        · exact hstart i (List.mem_append_right _ hi) h
        · exact List.disjoint_of_nodup_append hdisjoint h hi

/-- **The output of a loop is what its visits emit.** -/
theorem output_foldl {out : σ → List β} {emit : σ → α → List β}
    (h : ∀ s x, out (f s x) = out s ++ emit s x) (xs : List α) (s : σ) :
    out (xs.foldl f s) = out s ++ (visits f s xs).flatMap fun v => emit v.1 v.2 := by
  induction xs generalizing s with
  | nil => simp [visits]
  | cons x xs ih =>
      rw [List.foldl_cons, ih, h, visits, List.flatMap_cons, List.append_assoc]

/-- An item that the loop passes over may be left out. -/
theorem foldl_skip {x : α} (h : ∀ t, f t x = t) (pre post : List α) (s : σ) :
    (pre ++ x :: post).foldl f s = (pre ++ post).foldl f s := by
  simp only [List.foldl_append, List.foldl_cons, h]

/-- A loop and a loop over some of its items keep their states related, if they do so at each of
these items and the first does so alone at every other. -/
theorem foldl_filter_related {τ : Type*} {g : τ → α → τ} {q : α → Bool} (R : σ → τ → Prop)
    {xs : List α} (hboth : ∀ x ∈ xs, q x = true → ∀ s t, R s t → R (f s x) (g t x))
    (hskip : ∀ x ∈ xs, q x = false → ∀ s t, R s t → R (f s x) t) {s : σ} {t : τ} (h : R s t) :
    R (xs.foldl f s) ((xs.filter q).foldl g t) := by
  induction xs generalizing s t with
  | nil => exact h
  | cons x xs ih =>
      obtain ⟨hx, hxs⟩ := List.forall_mem_cons.mp hboth
      obtain ⟨hx', hxs'⟩ := List.forall_mem_cons.mp hskip
      cases hq : q x with
      | true =>
          rw [List.filter_cons_of_pos hq]
          exact ih hxs hxs' (hx hq s t h)
      | false =>
          rw [List.filter_cons_of_neg (Bool.eq_false_iff.mp hq)]
          exact ih hxs hxs' (hx' hq s t h)

/-- What a step that may fail keeps, a loop of such steps keeps. -/
theorem foldlM_invariant {ε : Type*} {g : σ → α → Except ε σ} (P : σ → Prop) {xs : List α}
    (hstep : ∀ s x s', x ∈ xs → P s → g s x = .ok s' → P s') {s t : σ} (hs : P s)
    (h : xs.foldlM g s = .ok t) : P t := by
  induction xs generalizing s with
  | nil => exact Except.ok.inj h ▸ hs
  | cons x xs ih =>
    rw [List.foldlM_cons] at h
    cases hx : g s x with
    | error e => simp [hx, bind, Except.bind] at h
    | ok u =>
      rw [hx] at h
      exact ih (fun s x s' hm => hstep s x s' (List.mem_cons_of_mem _ hm))
        (hstep s x u List.mem_cons_self hs hx) h

/-- A list that is mapped by steps that may fail is mapped item by item. -/
theorem forall₂_of_mapM {ε : Type*} {g : α → Except ε β} {xs : List α} {ys : List β}
    (h : xs.mapM g = .ok ys) : List.Forall₂ (fun x y => g x = .ok y) xs ys := by
  induction xs generalizing ys with
  | nil => exact Except.ok.inj h ▸ .nil
  | cons x xs ih =>
    rw [List.mapM_cons] at h
    cases hx : g x with
    | error e => simp [hx, bind, Except.bind] at h
    | ok y =>
      cases hxs : xs.mapM g with
      | error e => simp [hx, hxs, bind, Except.bind] at h
      | ok rest =>
        simp only [hx, hxs, bind, Except.bind] at h
        exact Except.ok.inj h ▸ .cons hx (ih hxs)

/-! ### Lists side by side -/

section Beside

variable {R S : α → β → Prop} {xs : List α} {ys : List β}

theorem exists_right_of_mem (h : List.Forall₂ R xs ys) {x : α} (hx : x ∈ xs) :
    ∃ y ∈ ys, R x y := by
  induction h with
  | nil => exact absurd hx List.not_mem_nil
  | cons hr _ ih =>
      rcases List.mem_cons.mp hx with rfl | hx
      · exact ⟨_, List.mem_cons_self, hr⟩
      · obtain ⟨y, hy, hxy⟩ := ih hx
        exact ⟨y, List.mem_cons_of_mem _ hy, hxy⟩

theorem exists_left_of_mem (h : List.Forall₂ R xs ys) {y : β} (hy : y ∈ ys) :
    ∃ x ∈ xs, R x y :=
  exists_right_of_mem h.flip hy

/-- What holds of the pairs may use that the first of them is in its list. -/
theorem forall₂_imp_of_mem (h : List.Forall₂ R xs ys) (himp : ∀ x y, x ∈ xs → R x y → S x y) :
    List.Forall₂ S xs ys :=
  ((List.forall₂_and_left xs ys).mpr ⟨fun _ hx => hx, h⟩).imp fun x y hxy => himp x y hxy.1 hxy.2

theorem forall₂_and (h : List.Forall₂ R xs ys) (h' : List.Forall₂ S xs ys) :
    List.Forall₂ (fun x y => R x y ∧ S x y) xs ys :=
  h.mp (fun _ _ hr hs => ⟨hr, hs⟩) h'

/-- What holds of the pairs if and only if it does of the firsts. -/
theorem forall₂_iff_forall {Q : α → Prop} (h : List.Forall₂ R xs ys)
    (hiff : ∀ x y, R x y → (S x y ↔ Q x)) : List.Forall₂ S xs ys ↔ ∀ x ∈ xs, Q x := by
  induction h with
  | nil => simp
  | cons hr _ ih => rw [List.forall₂_cons, List.forall_mem_cons, hiff _ _ hr, ih]

theorem map_eq_map_of_forall₂ {γ : Type*} {f : α → γ} {g : β → γ} (h : List.Forall₂ R xs ys)
    (hfg : ∀ x y, R x y → f x = g y) : xs.map f = ys.map g := by
  induction h with
  | nil => rfl
  | cons hr _ ih => rw [List.map_cons, List.map_cons, hfg _ _ hr, ih]

theorem forall₂_of_map_eq {γ : Type*} {f : α → γ} {g : β → γ} (h : xs.map f = ys.map g) :
    List.Forall₂ (fun x y => f x = g y) xs ys := by
  rwa [← List.forall₂_eq_eq_eq, List.forall₂_map_left_iff, List.forall₂_map_right_iff] at h

/-- What holds of the pairs of the first list and the last, by way of the one in the middle. -/
theorem forall₂_comp {γ : Type*} {T : β → γ → Prop} {zs : List γ} (h : List.Forall₂ R xs ys)
    (h' : List.Forall₂ T ys zs) : List.Forall₂ (fun x z => ∃ y, R x y ∧ T y z) xs zs := by
  induction h generalizing zs with
  | nil =>
    cases h'
    exact .nil
  | cons hr _ ih =>
    cases h' with
    | cons ht hrest => exact .cons ⟨_, hr, ht⟩ (ih hrest)

end Beside

end Support
