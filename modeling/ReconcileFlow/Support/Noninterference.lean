import ReconcileFlow.Support.Service

/-!
# Support — Noninterference

Requests of many parties on one state, each answered before the next.  A party that is answered
alike in states it cannot tell apart, and for which the requests of the others do not lead to a
state that it can, is answered alike in any two runs with the same requests of its own
(`same_of_unwinding`): what the others ask, and when, it does not learn.
-/

namespace Support

universe u v w

namespace Service

variable {σ : Type u} {R : Type v} {O : R → Type w} (S : Service σ R O)

/-- States that a party cannot tell apart, by what its requests (`mine`) are answered. -/
structure Unwinding (mine : R → Bool) (Linked : σ → σ → Prop) : Prop where
  symm : ∀ {s t}, Linked s t → Linked t s
  /-- The party is answered alike, and cannot tell apart the next states. -/
  own : ∀ {r s t}, mine r = true → Linked s t → S.Ok r s → S.Ok r t →
    (S.serve r s).1 = (S.serve r t).1 ∧ Linked (S.serve r s).2 (S.serve r t).2
  /-- A request of another makes no difference. -/
  other : ∀ {r s t}, mine r = false → Linked s t → S.Ok r s → Linked (S.serve r s).2 t

/-- The part of two runs that one party sees. -/
structure Same (S : Service σ R O) (mine : R → Bool) (Linked : σ → σ → Prop) (rs rs' : List R)
    (s t : σ) : Prop where
  told : (S.answers rs s).filter (fun a => mine a.1) = (S.answers rs' t).filter fun a => mine a.1
  linked : Linked (S.final rs s) (S.final rs' t)

variable {S} {mine : R → Bool} {Linked : σ → σ → Prop}

/-- Requests of others before the second run. -/
theorem same_of_others (hS : S.Unwinding mine Linked) {rs rs' : List R} {s : σ}
    (ih : ∀ t, Linked s t → S.Served rs' t → Same S mine Linked rs rs' s t) :
    ∀ (pre : List R) (t : σ), (∀ r ∈ pre, mine r = false) → Linked s t → S.Served (pre ++ rs') t →
      Same S mine Linked rs (pre ++ rs') s t
  | [], t, _, hl, hok => ih t hl hok
  | r :: pre, t, hpre, hl, hok => by
    have hr := hpre r List.mem_cons_self
    have hl' : Linked s (S.serve r t).2 := hS.symm (hS.other hr (hS.symm hl) hok.1)
    have hpre' : ∀ q ∈ pre, mine q = false := fun q hq => hpre q (List.mem_cons_of_mem _ hq)
    have hsame := same_of_others hS ih pre _ hpre' hl' hok.2
    refine ⟨hsame.told.trans ?_, hsame.linked⟩
    rw [List.cons_append, Service.answers, List.filter_cons_of_neg]
    simp [hr]

/-- **What others ask is not learned.**  Two runs with the same requests of the party give it the
same answers, and end in states that it cannot tell apart. -/
theorem same_of_unwinding (hS : S.Unwinding mine Linked) :
    ∀ (rs rs' : List R) (s t : σ), rs.filter mine = rs'.filter mine → Linked s t → S.Served rs s →
      S.Served rs' t → Same S mine Linked rs rs' s t
  | [], rs', s, t, hrs, hl, _, hok' => by
    have hpre : ∀ r ∈ rs', mine r = false := by
      simpa using List.filter_eq_nil_iff.mp hrs.symm
    have hnil : ∀ t, Linked s t → S.Served [] t → Same S mine Linked [] [] s t :=
      fun t hl _ => ⟨rfl, hl⟩
    have hsame := same_of_others hS hnil rs' t hpre hl (by simpa using hok')
    simpa using hsame
  | r :: rs, rs', s, t, hrs, hl, hok, hok' => by
    cases hr : mine r with
    | false =>
      rw [List.filter_cons_of_neg (by simp [hr])] at hrs
      have hsame := same_of_unwinding hS rs rs' _ t hrs (hS.other hr hl hok.1) hok.2 hok'
      refine ⟨Eq.trans ?_ hsame.told, hsame.linked⟩
      rw [Service.answers, List.filter_cons_of_neg]
      simp [hr]
    | true =>
      -- the second run comes to the request after some of others
      rw [List.filter_cons_of_pos hr, eq_comm, List.filter_eq_cons_iff] at hrs
      obtain ⟨pre, rest, rfl, hpre, -, hrest⟩ := hrs
      refine same_of_others hS ?_ pre t (by simpa using hpre) hl hok'
      intro t hl hok'
      obtain ⟨hanswer, hnext⟩ := hS.own hr hl hok.1 hok'.1
      have hsame := same_of_unwinding hS rs rest _ _ hrest.symm hnext hok.2 hok'.2
      refine ⟨?_, hsame.linked⟩
      simp only [Service.answers, List.filter_cons, hr, if_true, hanswer, hsame.told]

end Service

end Support
