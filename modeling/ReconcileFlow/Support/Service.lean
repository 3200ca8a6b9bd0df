import Mathlib.Data.List.Basic

/-!
# Support — Service

Requests on one state, each answered before the next.  A history is the requests with their
answers; what each request keeps of the history so far and the state, every history keeps
(`holds_of_keeps`).
-/

namespace Support

universe u v w

/-- Where an entry of a list stands that is longer by one. -/
theorem append_singleton_eq_split {α : Type*} {xs before rest : List α} {x y : α} :
    xs ++ [x] = before ++ y :: rest ↔
      (rest = [] ∧ before = xs ∧ y = x) ∨
        ∃ rest', rest = rest' ++ [x] ∧ xs = before ++ y :: rest' := by
  rcases List.eq_nil_or_concat rest with rfl | ⟨rest', z, rfl⟩
  · constructor
    · intro h
      obtain ⟨hxs, hx⟩ := List.append_inj' h rfl
      exact .inl ⟨rfl, hxs.symm, (List.head_eq_of_cons_eq hx).symm⟩
    · rintro (⟨-, rfl, rfl⟩ | ⟨rest', h, -⟩)
      · rfl
      · simp at h
  · rw [List.concat_eq_append]
    constructor
    · intro h
      have hsplit : xs ++ [x] = (before ++ y :: rest') ++ [z] := by simpa using h
      obtain ⟨hxs, hx⟩ := List.append_inj' hsplit rfl
      obtain rfl : x = z := List.head_eq_of_cons_eq hx
      exact .inr ⟨rest', rfl, hxs⟩
    · rintro (⟨h, -⟩ | ⟨rest'', h, rfl⟩)
      · simp at h
      · obtain ⟨hrest, hx⟩ := List.append_inj' h rfl
        obtain rfl : z = x := List.head_eq_of_cons_eq hx
        rw [hrest]
        simp

/-- A state on which requests are made, one after another. -/
structure Service (σ : Type u) (R : Type v) (O : R → Type w) where
  serve : (r : R) → σ → O r × σ
  /-- What a request needs of the state in which it comes. -/
  Ok : R → σ → Prop

namespace Service

variable {σ : Type u} {R : Type v} {O : R → Type w} (S : Service σ R O)

/-- The answers, each with its request. -/
def answers : List R → σ → List (Σ r, O r)
  | [], _ => []
  | r :: rs, s => ⟨r, (S.serve r s).1⟩ :: answers rs (S.serve r s).2

/-- The state in the end. -/
def final : List R → σ → σ
  | [], s => s
  | r :: rs, s => final rs (S.serve r s).2

/-- Every request finds what it needs. -/
def Served : List R → σ → Prop
  | [], _ => True
  | r :: rs, s => S.Ok r s ∧ Served rs (S.serve r s).2

variable {S}

/-- **What a request keeps, a history keeps**, which may go on from another (`told`). -/
theorem holds_of_keeps {P : List (Σ r, O r) → σ → Prop}
    (hkeeps : ∀ told s r, P told s → S.Ok r s →
      P (told ++ [⟨r, (S.serve r s).1⟩]) (S.serve r s).2) {rs : List R} :
    ∀ {told : List (Σ r, O r)} {s : σ}, P told s → S.Served rs s →
      P (told ++ S.answers rs s) (S.final rs s) := by
  induction rs with
  | nil =>
    intro told s h _
    rw [answers, List.append_nil]
    exact h
  | cons r rs ih =>
    intro told s h hok
    have hrest := ih (hkeeps told s r h hok.1) hok.2
    rw [List.append_assoc] at hrest
    exact hrest

end Service

end Support
