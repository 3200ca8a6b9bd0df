import Mathlib.Data.List.Basic
import Mathlib.Data.List.Forall2
import ReconcileFlow.Support.Folding

/-!
# Support — Exceptions

Computations that raise, told by where they raise.  A sequence raises what its first part raises,
or what its second does after the first has returned (`bind_eq_error_iff`); a loop raises at the
first item whose iteration raises (`mapM_eq_error_iff`, `foldlM_eq_error_iff`).
-/

namespace Support

universe u v

variable {ε ε' : Type v} {α β σ : Type u}

theorem bind_eq_ok_iff {x : Except ε α} {f : α → Except ε β} {b : β} :
    x >>= f = .ok b ↔ ∃ a, x = .ok a ∧ f a = .ok b := by
  cases x with
  | error e =>
    constructor
    · exact nofun
    · rintro ⟨a, h, -⟩
      cases h
  | ok a =>
    constructor
    · exact fun h => ⟨a, rfl, h⟩
    · rintro ⟨_, h, hb⟩
      cases h
      exact hb

theorem bind_eq_error_iff {x : Except ε α} {f : α → Except ε β} {e : ε} :
    x >>= f = .error e ↔ x = .error e ∨ ∃ a, x = .ok a ∧ f a = .error e := by
  cases x with
  | error e' =>
    constructor
    · intro h
      exact .inl (congrArg Except.error (Except.error.inj h))
    · rintro (h | ⟨a, h, -⟩)
      · exact congrArg Except.error (Except.error.inj h)
      · cases h
  | ok a =>
    constructor
    · exact fun h => .inr ⟨a, rfl, h⟩
    · rintro (h | ⟨_, h, he⟩)
      · cases h
      · cases h
        exact he

theorem map_eq_ok_iff {f : α → β} {x : Except ε α} {b : β} :
    f <$> x = .ok b ↔ ∃ a, x = .ok a ∧ f a = b := by
  cases x with
  | error e => exact ⟨nofun, fun ⟨_, h, _⟩ => nomatch h⟩
  | ok a =>
    constructor
    · exact fun h => ⟨a, rfl, Except.ok.inj h⟩
    · rintro ⟨_, h, rfl⟩
      cases h
      rfl

theorem map_eq_error_iff {f : α → β} {x : Except ε α} {e : ε} :
    f <$> x = .error e ↔ x = .error e := by
  cases x with
  | error e' => exact ⟨fun h => congrArg _ (Except.error.inj h), fun h => congrArg _ (Except.error.inj h)⟩
  | ok a => exact ⟨nofun, nofun⟩

theorem mapError_eq_ok_iff {g : ε → ε'} {x : Except ε α} {a : α} :
    x.mapError g = .ok a ↔ x = .ok a := by
  cases x with
  | error e => exact ⟨nofun, nofun⟩
  | ok b =>
    show (Except.ok b : Except ε' α) = .ok a ↔ _
    rw [Except.ok.injEq, Except.ok.injEq]

theorem mapError_eq_error_iff {g : ε → ε'} {x : Except ε α} {e' : ε'} :
    x.mapError g = .error e' ↔ ∃ e, x = .error e ∧ g e = e' := by
  cases x with
  | error e =>
    show (Except.error (g e) : Except ε' α) = .error e' ↔ _
    simp
  | ok a =>
    show (Except.ok a : Except ε' α) = .error e' ↔ _
    simp

/-- A condition that is asserted, or the exception. -/
def must (p : Prop) [Decidable p] (e : ε) : Except ε Unit := if p then .ok () else .error e

@[simp] theorem must_eq_ok_iff {p : Prop} [Decidable p] {e : ε} {u : Unit} :
    must p e = .ok u ↔ p := by
  by_cases hp : p <;> simp [must, hp]

@[simp] theorem must_eq_error_iff {p : Prop} [Decidable p] {e e' : ε} :
    must p e = .error e' ↔ ¬ p ∧ e = e' := by
  by_cases hp : p <;> simp [must, hp]

theorem mapM_eq_ok_iff {f : α → Except ε β} {xs : List α} {ys : List β} :
    xs.mapM f = .ok ys ↔ List.Forall₂ (fun x y => f x = .ok y) xs ys := by
  constructor
  · exact forall₂_of_mapM
  · intro h
    induction h with
    | nil => rfl
    | cons hx _ ih =>
      rw [List.mapM_cons, hx]
      change (List.mapM f _ >>= _) = _
      rw [ih]
      rfl

/-- A loop whose iterations return, each with the same trait as its item, returns. -/
theorem exists_mapM {γ : Type*} {f : α → Except ε β} (trait : β → γ) (traitOf : α → γ)
    {xs : List α} (h : ∀ x ∈ xs, ∃ y, f x = .ok y ∧ trait y = traitOf x) :
    ∃ ys, xs.mapM f = .ok ys ∧ ys.map trait = xs.map traitOf := by
  induction xs with
  | nil => exact ⟨[], rfl, rfl⟩
  | cons x xs ih =>
    obtain ⟨⟨y, hy, htrait⟩, hrest⟩ := List.forall_mem_cons.mp h
    obtain ⟨ys, hys, htraits⟩ := ih hrest
    refine ⟨y :: ys, ?_, ?_⟩
    · rw [List.mapM_cons, hy, hys]
      rfl
    · rw [List.map_cons, List.map_cons, htrait, htraits]

/-- Loops whose iterations agree one by one agree. -/
theorem mapM_congr {γ : Type u} {f : α → Except ε β} {g : γ → Except ε β} {xs : List α}
    {ys : List γ} (h : List.Forall₂ (fun x y => f x = g y) xs ys) : xs.mapM f = ys.mapM g := by
  induction h with
  | nil => rfl
  | cons hxy _ ih => rw [List.mapM_cons, List.mapM_cons, hxy, ih]

theorem forM_congr {γ : Type u} {f : α → Except ε PUnit} {g : γ → Except ε PUnit} {xs : List α}
    {ys : List γ} (h : List.Forall₂ (fun x y => f x = g y) xs ys) : xs.forM f = ys.forM g := by
  induction h with
  | nil => rfl
  | @cons x y xs ys hxy _ ih =>
    have hleft : (x :: xs).forM f = f x >>= fun _ => xs.forM f := List.forM_cons
    have hright : (y :: ys).forM g = g y >>= fun _ => ys.forM g := List.forM_cons
    rw [hleft, hright, hxy, ih]

/-- A loop over a list raises at the first item whose iteration raises. -/
theorem mapM_eq_error_iff {f : α → Except ε β} {xs : List α} {e : ε} :
    xs.mapM f = .error e ↔ ∃ before x after, xs = before ++ x :: after ∧
      (∀ y ∈ before, ∃ b, f y = .ok b) ∧ f x = .error e := by
  induction xs with
  | nil =>
    constructor
    · exact nofun
    · rintro ⟨before, x, after, h, -⟩
      simp at h
  | cons a xs ih =>
    rw [List.mapM_cons, bind_eq_error_iff]
    constructor
    · rintro (ha | ⟨b, ha, h⟩)
      · exact ⟨[], a, xs, rfl, fun y hy => absurd hy List.not_mem_nil, ha⟩
      · have hxs : xs.mapM f = .error e := by
          rcases bind_eq_error_iff.mp h with h | ⟨bs, -, h⟩
          · exact h
          · cases h
        obtain ⟨before, x, after, rfl, hbefore, hx⟩ := ih.mp hxs
        exact ⟨a :: before, x, after, rfl, List.forall_mem_cons.mpr ⟨⟨b, ha⟩, hbefore⟩, hx⟩
    · rintro ⟨before, x, after, hsplit, hbefore, hx⟩
      cases before with
      | nil =>
        obtain ⟨rfl, rfl⟩ := List.cons.inj hsplit
        exact .inl hx
      | cons y before =>
        obtain ⟨rfl, rfl⟩ := List.cons.inj hsplit
        obtain ⟨⟨b, ha⟩, hbefore⟩ := List.forall_mem_cons.mp hbefore
        refine .inr ⟨b, ha, bind_eq_error_iff.mpr (.inl ?_)⟩
        exact ih.mpr ⟨before, x, after, rfl, hbefore, hx⟩

theorem foldlM_eq_error_iff {f : σ → α → Except ε σ} {xs : List α} {s : σ} {e : ε} :
    xs.foldlM f s = .error e ↔ ∃ before x after t, xs = before ++ x :: after ∧
      before.foldlM f s = .ok t ∧ f t x = .error e := by
  induction xs generalizing s with
  | nil =>
    constructor
    · exact nofun
    · rintro ⟨before, x, after, t, h, -⟩
      simp at h
  | cons a xs ih =>
    rw [List.foldlM_cons, bind_eq_error_iff]
    constructor
    · rintro (ha | ⟨t, ha, h⟩)
      · exact ⟨[], a, xs, s, rfl, rfl, ha⟩
      · obtain ⟨before, x, after, u, rfl, hbefore, hx⟩ := ih.mp h
        refine ⟨a :: before, x, after, u, rfl, ?_, hx⟩
        rw [List.foldlM_cons]
        exact bind_eq_ok_iff.mpr ⟨t, ha, hbefore⟩
    · rintro ⟨before, x, after, t, hsplit, hbefore, hx⟩
      cases before with
      | nil =>
        obtain ⟨rfl, rfl⟩ := List.cons.inj hsplit
        obtain rfl : s = t := Except.ok.inj hbefore
        exact .inl hx
      | cons y before =>
        obtain ⟨rfl, rfl⟩ := List.cons.inj hsplit
        rw [List.foldlM_cons] at hbefore
        obtain ⟨u, ha, hbefore⟩ := bind_eq_ok_iff.mp hbefore
        exact .inr ⟨u, ha, ih.mpr ⟨before, x, after, t, rfl, hbefore, hx⟩⟩

/-! ### Which exceptions a computation raises -/

/-- The computation raises nothing but what `P` allows. -/
def RaisesOnly (P : ε → Prop) (x : Except ε α) : Prop := ∀ e, x = .error e → P e

section RaisesOnly

variable {P : ε → Prop}

@[simp] theorem raisesOnly_ok (a : α) : RaisesOnly P (.ok a : Except ε α) := nofun

@[simp] theorem raisesOnly_pure (a : α) : RaisesOnly P (pure a : Except ε α) := nofun

@[simp] theorem raisesOnly_error {e : ε} : RaisesOnly P (.error e : Except ε α) ↔ P e :=
  ⟨fun h => h e rfl, fun h _ he => Except.error.inj he ▸ h⟩

@[simp] theorem raisesOnly_must {p : Prop} [Decidable p] {e : ε} :
    RaisesOnly P (must p e) ↔ (¬ p → P e) := by
  by_cases hp : p <;> simp [must, hp]

theorem raisesOnly_bind {x : Except ε α} {f : α → Except ε β} :
    RaisesOnly P (x >>= f) ↔ RaisesOnly P x ∧ ∀ a, x = .ok a → RaisesOnly P (f a) := by
  constructor
  · intro h
    exact ⟨fun e he => h e (bind_eq_error_iff.mpr (.inl he)),
      fun a ha e he => h e (bind_eq_error_iff.mpr (.inr ⟨a, ha, he⟩))⟩
  · rintro ⟨hx, hf⟩ e he
    rcases bind_eq_error_iff.mp he with he | ⟨a, ha, he⟩
    · exact hx e he
    · exact hf a ha e he

theorem raisesOnly_mapError {g : ε → ε'} {Q : ε' → Prop} {x : Except ε α} :
    RaisesOnly Q (x.mapError g) ↔ RaisesOnly (fun e => Q (g e)) x := by
  constructor
  · exact fun h e he => h (g e) (mapError_eq_error_iff.mpr ⟨e, he, rfl⟩)
  · intro h e' he'
    obtain ⟨e, he, rfl⟩ := mapError_eq_error_iff.mp he'
    exact h e he

/-- A loop raises only what the iterations raise that it comes to. -/
theorem raisesOnly_mapM {f : α → Except ε β} {xs : List α} :
    RaisesOnly P (xs.mapM f) ↔ ∀ before x after, xs = before ++ x :: after →
      (∀ y ∈ before, ∃ b, f y = .ok b) → RaisesOnly P (f x) := by
  constructor
  · intro h before x after hsplit hbefore e he
    exact h e (mapM_eq_error_iff.mpr ⟨before, x, after, hsplit, hbefore, he⟩)
  · intro h e he
    obtain ⟨before, x, after, hsplit, hbefore, he⟩ := mapM_eq_error_iff.mp he
    exact h before x after hsplit hbefore e he

theorem raisesOnly_foldlM {f : σ → α → Except ε σ} {xs : List α}
    (h : ∀ x ∈ xs, ∀ s, RaisesOnly P (f s x)) (s : σ) : RaisesOnly P (xs.foldlM f s) := by
  intro e he
  obtain ⟨before, x, after, t, rfl, -, he⟩ := foldlM_eq_error_iff.mp he
  exact h x (List.mem_append_right _ List.mem_cons_self) t e he

/-- A loop that asserts a condition of each item. -/
theorem raisesOnly_forM_must {p : α → Prop} [DecidablePred p] {xs : List α} {e : ε} :
    RaisesOnly P (xs.forM fun x => must (p x) e) ↔ (∀ x ∈ xs, p x) ∨ P e := by
  induction xs with
  | nil => exact iff_of_true (raisesOnly_ok _) (.inl fun x hx => absurd hx List.not_mem_nil)
  | cons a xs ih =>
    have hcons : ((a :: xs).forM fun x => must (p x) e) =
        must (p a) e >>= fun _ => xs.forM fun x => must (p x) e := List.forM_cons
    rw [hcons, raisesOnly_bind, raisesOnly_must, List.forall_mem_cons]
    constructor
    · rintro ⟨ha, hxs⟩
      by_cases hpa : p a
      · rcases ih.mp (hxs ⟨⟩ (must_eq_ok_iff.mpr hpa)) with h | h
        · exact .inl ⟨hpa, h⟩
        · exact .inr h
      · exact .inr (ha hpa)
    · rintro (⟨ha, hxs⟩ | he)
      · exact ⟨fun hnot => absurd ha hnot, fun _ _ => ih.mpr (.inl hxs)⟩
      · exact ⟨fun _ => he, fun _ _ => ih.mpr (.inr he)⟩

end RaisesOnly

end Support
