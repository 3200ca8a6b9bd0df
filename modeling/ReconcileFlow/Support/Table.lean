import Mathlib.Algebra.GroupWithZero.Nat
import Mathlib.Algebra.Order.BigOperators.Group.List
import Mathlib.Algebra.Order.Group.Int
import Mathlib.Algebra.Ring.Int.Defs
import Mathlib.Data.List.Nodup
import Mathlib.Data.List.Pairwise

/-!
# Support — Table

Relational tables.  A schema declares the key of a row, the further pairs of rows that must not
both be stored, and the check every row passes.  A table is rows that meet its schema, so a state
the database would refuse cannot be built: `update?` and `insert?` answer `none` instead.

What is in a table is told by `find`: `find_update` and `find_insert` say what a change leaves
under each key.
-/

namespace Support

/-- What a table is declared with. -/
structure Schema (ρ κ : Type*) where
  key : ρ → κ
  clash : ρ → ρ → Bool
  check : ρ → Bool

namespace Schema

variable {ρ κ : Type*}

/-- The rows that the declared constraints allow together. -/
def Valid (S : Schema ρ κ) (rows : List ρ) : Prop :=
  (rows.map S.key).Nodup ∧ rows.Pairwise (fun r s => (S.clash r s || S.clash s r) = false) ∧
    ∀ r ∈ rows, S.check r = true

instance [DecidableEq κ] (S : Schema ρ κ) (rows : List ρ) : Decidable (S.Valid rows) :=
  inferInstanceAs (Decidable (_ ∧ _ ∧ _))

end Schema

structure Table {ρ κ : Type*} (S : Schema ρ κ) where
  rows : List ρ
  valid : S.Valid rows

namespace Table

variable {ρ κ : Type*} {S : Schema ρ κ}

def empty : Table S := ⟨[], List.nodup_nil, List.Pairwise.nil, fun _ h => absurd h List.not_mem_nil⟩

/-- Two stored rows that clash are the same row. -/
theorem eq_of_clash {t : Table S} {r s : ρ} (hr : r ∈ t.rows) (hs : s ∈ t.rows)
    (hc : S.clash r s = true) : r = s := by
  by_contra hne
  have : Std.Symm fun r s => (S.clash r s || S.clash s r) = false := ⟨fun _ _ h => by rwa [Bool.or_comm]⟩
  have happart := t.valid.2.1.forall hr hs hne
  simp [hc] at happart

variable [DecidableEq κ]

/-- The table of these rows, unless a constraint forbids it. -/
def ofRows? (S : Schema ρ κ) (rows : List ρ) : Option (Table S) :=
  if h : S.Valid rows then some ⟨rows, h⟩ else none

/-- The row with the key `k`. -/
def find (t : Table S) (k : κ) : Option ρ := t.rows.find? fun r => decide (S.key r = k)

/-- The table with `r` in place of the row that has its key. -/
def update? (t : Table S) (r : ρ) : Option (Table S) :=
  ofRows? S (t.rows.map fun s => if S.key s = S.key r then r else s)

/-- The table with one more row. -/
def insert? (t : Table S) (r : ρ) : Option (Table S) := ofRows? S (t.rows ++ [r])

/-- The table without the rows that do not meet `p`. -/
def filter (t : Table S) (p : ρ → Bool) : Table S where
  rows := t.rows.filter p
  valid :=
    ⟨t.valid.1.sublist (List.filter_sublist.map S.key), t.valid.2.1.sublist List.filter_sublist,
      fun r hr => t.valid.2.2 r (List.mem_of_mem_filter hr)⟩

/-- `update?`, which leaves the table when a constraint forbids it. -/
def put (t : Table S) (r : ρ) : Table S := (t.update? r).getD t

/-- `insert?`, which leaves the table when a constraint forbids it. -/
def add (t : Table S) (r : ρ) : Table S := (t.insert? r).getD t

theorem rows_of_ofRows? {rows : List ρ} {t : Table S} (h : ofRows? S rows = some t) :
    t.rows = rows := by
  unfold ofRows? at h
  split at h
  · simp only [Option.some.injEq] at h
    rw [← h]
  · simp at h

/-! ### What is found -/

theorem mem_of_find {t : Table S} {k : κ} {r : ρ} (h : t.find k = some r) : r ∈ t.rows :=
  List.mem_of_find?_eq_some h

theorem key_of_find {t : Table S} {k : κ} {r : ρ} (h : t.find k = some r) : S.key r = k := by
  simpa using List.find?_some h

/-- A stored row is the one found under its key. -/
theorem find_of_mem {t : Table S} {r : ρ} (h : r ∈ t.rows) : t.find (S.key r) = some r := by
  cases hf : t.find (S.key r) with
  | none => simpa using List.find?_eq_none.mp hf r h
  | some s =>
    rw [List.inj_on_of_nodup_map t.valid.1 (mem_of_find hf) h (key_of_find hf)]

theorem find_eq_none {t : Table S} {k : κ} : t.find k = none ↔ ∀ r ∈ t.rows, S.key r ≠ k := by
  simp [find]

theorem check_of_find {t : Table S} {k : κ} {r : ρ} (h : t.find k = some r) :
    S.check r = true :=
  t.valid.2.2 r (mem_of_find h)

/-- The rows are what is found under their keys, in their order. -/
theorem filterMap_find (t : Table S) : (t.rows.map S.key).filterMap t.find = t.rows := by
  rw [List.filterMap_map]
  exact (List.filterMap_congr fun r hr => find_of_mem hr).trans List.filterMap_some

theorem eq_of_find {t t' : Table S} (hkeys : t.rows.map S.key = t'.rows.map S.key)
    (hfind : ∀ k, t.find k = t'.find k) : t = t' := by
  have hrows : t.rows = t'.rows := by
    rw [← filterMap_find t, ← filterMap_find t', hkeys, funext hfind]
  cases t
  cases t'
  cases hrows
  rfl

/-! ### What a change leaves -/

theorem rows_update {t t' : Table S} {r : ρ} (h : t.update? r = some t') :
    t'.rows = t.rows.map fun s => if S.key s = S.key r then r else s :=
  rows_of_ofRows? h

theorem rows_insert {t t' : Table S} {r : ρ} (h : t.insert? r = some t') :
    t'.rows = t.rows ++ [r] :=
  rows_of_ofRows? h

theorem find_update {t t' : Table S} {r : ρ} (h : t.update? r = some t') (k : κ) :
    t'.find k = if k = S.key r then (t.find k).map fun _ => r else t.find k := by
  have hkey : ∀ s, S.key (if S.key s = S.key r then r else s) = S.key s := by
    intro s
    split
    · next hs => exact hs.symm
    · rfl
  simp only [find, rows_update h, List.find?_map, Function.comp_def, hkey]
  cases hf : t.rows.find? fun s => decide (S.key s = k) with
  | none => simp
  | some s =>
    have hs : S.key s = k := by simpa using List.find?_some hf
    by_cases hk : k = S.key r
    · simp [hk, hs]
    · simp [hk, hs]

/-- The row that is changed, as it is afterwards. -/
theorem find_update_self {t t' : Table S} {r s : ρ} {k : κ} (h : t.update? r = some t')
    (hk : S.key r = k) (hs : t.find k = some s) : t'.find k = some r := by
  rw [find_update h, if_pos hk.symm, hs]
  rfl

theorem find_insert {t t' : Table S} {r : ρ} (h : t.insert? r = some t') (k : κ) :
    t'.find k = if k = S.key r then some r else t.find k := by
  have hnodup := t'.valid.1
  simp only [rows_insert h, List.map_append, List.map_cons, List.map_nil] at hnodup
  have hfresh : S.key r ∉ t.rows.map S.key :=
    fun hm => (List.disjoint_of_nodup_append hnodup) hm (List.mem_singleton.mpr rfl)
  by_cases hk : k = S.key r
  · subst hk
    have hnone : t.find (S.key r) = none :=
      find_eq_none.mpr fun s hs he => hfresh (he ▸ List.mem_map_of_mem hs)
    simp only [find] at hnone
    simp [find, rows_insert h, List.find?_append, hnone]
  · simp [find, rows_insert h, List.find?_append, hk, Ne.symm hk]

theorem find_insert_self {t t' : Table S} {r : ρ} (h : t.insert? r = some t') :
    t'.find (S.key r) = some r :=
  (find_insert h (S.key r)).trans (if_pos rfl)

/-- A key that could be inserted was free. -/
theorem find_of_insert {t t' : Table S} {r : ρ} (h : t.insert? r = some t') :
    t.find (S.key r) = none := by
  have hnodup := t'.valid.1
  simp only [rows_insert h, List.map_append, List.map_cons, List.map_nil] at hnodup
  refine find_eq_none.mpr fun s hs he => ?_
  exact (List.disjoint_of_nodup_append hnodup) (List.mem_map_of_mem hs)
    (List.mem_singleton.mpr he)

theorem find_filter (t : Table S) (p : ρ → Bool) (k : κ) :
    (t.filter p).find k = (t.find k).filter p := by
  cases hf : t.find k with
  | none =>
    refine find_eq_none.mpr fun r hr => find_eq_none.mp hf r (List.mem_of_mem_filter hr)
  | some r =>
    have hkey := key_of_find hf
    cases hp : p r with
    | true =>
      have hm : r ∈ (t.filter p).rows := List.mem_filter.mpr ⟨mem_of_find hf, hp⟩
      rw [Option.filter_some, if_pos hp, ← hkey]
      exact find_of_mem hm
    | false =>
      rw [Option.filter_some, if_neg (by simp [hp])]
      refine find_eq_none.mpr fun s hs he => ?_
      obtain ⟨hs, hps⟩ := List.mem_filter.mp hs
      obtain rfl : s = r := Option.some.inj ((he ▸ find_of_mem hs).symm.trans hf)
      simp [hp] at hps

/-- Every row of `put` is one of before or the one put. -/
theorem mem_put {t : Table S} {r s : ρ} (h : s ∈ (t.put r).rows) : s = r ∨ s ∈ t.rows := by
  unfold put at h
  cases hu : t.update? r with
  | none => exact .inr (by simpa [hu] using h)
  | some t' =>
    rw [hu, Option.getD_some, rows_update hu, List.mem_map] at h
    obtain ⟨u, hu, rfl⟩ := h
    split
    · exact .inl rfl
    · exact .inr hu

/-- The other rows stay. -/
theorem mem_put_of_ne {t : Table S} {r s : ρ} (h : s ∈ t.rows) (hne : S.key s ≠ S.key r) :
    s ∈ (t.put r).rows := by
  unfold put
  cases hu : t.update? r with
  | none => exact h
  | some t' =>
    rw [Option.getD_some, rows_update hu, List.mem_map]
    exact ⟨s, h, if_neg hne⟩

theorem keys_put (t : Table S) (r : ρ) : (t.put r).rows.map S.key = t.rows.map S.key := by
  unfold put
  cases hu : t.update? r with
  | none => rfl
  | some t' =>
    rw [Option.getD_some, rows_update hu, List.map_map]
    refine List.map_congr_left fun s _ => ?_
    show S.key (if S.key s = S.key r then r else s) = S.key s
    split
    · next hkey => exact hkey.symm
    · rfl

theorem find_put_of_ne (t : Table S) {r : ρ} {k : κ} (hne : k ≠ S.key r) :
    (t.put r).find k = t.find k := by
  unfold put
  cases hu : t.update? r with
  | none => rfl
  | some t' => rw [Option.getD_some, find_update hu, if_neg hne]

theorem mem_add {t : Table S} {r s : ρ} (h : s ∈ (t.add r).rows) : s = r ∨ s ∈ t.rows := by
  unfold add at h
  cases hu : t.insert? r with
  | none => exact .inr (by simpa [hu] using h)
  | some t' =>
    rw [hu, Option.getD_some, rows_insert hu, List.mem_append, List.mem_singleton] at h
    exact h.symm

theorem mem_add_of_mem {t : Table S} {r s : ρ} (h : s ∈ t.rows) : s ∈ (t.add r).rows := by
  unfold add
  cases hu : t.insert? r with
  | none => exact h
  | some t' =>
    rw [Option.getD_some, rows_insert hu]
    exact List.mem_append_left _ h

theorem find_add_of_ne (t : Table S) {r : ρ} {k : κ} (hne : k ≠ S.key r) :
    (t.add r).find k = t.find k := by
  unfold add
  cases hu : t.insert? r with
  | none => rfl
  | some t' => rw [Option.getD_some, find_insert hu, if_neg hne]

/-- A stored row stays under its key. -/
theorem find_add_of_find {t : Table S} {r s : ρ} {k : κ} (hs : t.find k = some s) :
    (t.add r).find k = some s := by
  unfold add
  cases hu : t.insert? r with
  | none => exact hs
  | some t' =>
    have hne : k ≠ S.key r := by
      rintro rfl
      rw [find_of_insert hu] at hs
      cases hs
    rw [Option.getD_some, find_insert hu, if_neg hne, hs]

/-- A row that meets the condition neither before nor after does not change the rows that do. -/
theorem filter_put {t : Table S} {r s : ρ} {p : ρ → Bool} (hs : t.find (S.key r) = some s)
    (hbefore : p s = false) (hafter : p r = false) :
    (t.put r).rows.filter p = t.rows.filter p := by
  unfold put
  cases hu : t.update? r with
  | none => rfl
  | some t' =>
    rw [Option.getD_some, rows_update hu, List.filter_map]
    have hsame : ∀ u ∈ t.rows, S.key u = S.key r → u = s := fun u hu hkey =>
      Option.some.inj ((find_of_mem hu).symm.trans (hkey ▸ hs))
    have hp : ∀ u ∈ t.rows, (p ∘ fun u => if S.key u = S.key r then r else u) u = p u := by
      intro u hu
      by_cases hkey : S.key u = S.key r
      · have hu : p u = false := hsame u hu hkey ▸ hbefore
        simp [hkey, hafter, hu]
      · simp [hkey]
    rw [List.filter_congr hp]
    refine (List.map_congr_left fun u hu => ?_).trans (List.map_id _)
    obtain ⟨hu, hpu⟩ := List.mem_filter.mp hu
    refine if_neg fun hkey => ?_
    rw [hsame u hu hkey, hbefore] at hpu
    cases hpu

theorem filter_add (t : Table S) {r : ρ} {p : ρ → Bool} (hr : p r = false) :
    (t.add r).rows.filter p = t.rows.filter p := by
  unfold add
  cases hu : t.insert? r with
  | none => rfl
  | some t' => simp [rows_insert hu, hr]

/-- Of two rows that meet a condition, one has another key than `k`. -/
theorem exists_other {t : Table S} {p : ρ → Bool} (h : 1 < (t.rows.filter p).length) (k : κ) :
    ∃ r ∈ t.rows, p r = true ∧ S.key r ≠ k := by
  have hnodup : ((t.rows.filter p).map S.key).Nodup :=
    t.valid.1.sublist (List.filter_sublist.map S.key)
  have hmem : ∀ r ∈ t.rows.filter p, r ∈ t.rows ∧ p r = true := fun _ hr => List.mem_filter.mp hr
  generalize t.rows.filter p = rows at h hnodup hmem
  match rows, h, hnodup, hmem with
  | a :: b :: rows, _, hnodup, hmem =>
    obtain ⟨ha, hpa⟩ := hmem a List.mem_cons_self
    obtain ⟨hb, hpb⟩ := hmem b (List.mem_cons_of_mem _ List.mem_cons_self)
    have hab : S.key a ≠ S.key b := fun he =>
      (List.nodup_cons.mp hnodup).1 (he ▸ List.mem_map_of_mem List.mem_cons_self)
    by_cases hk : S.key a = k
    · exact ⟨b, hb, hpb, fun he => hab (hk.trans he.symm)⟩
    · exact ⟨a, ha, hpa, hk⟩

/-! ### When a change is allowed -/

theorem exists_ofRows? {rows : List ρ} (h : S.Valid rows) : ∃ t, ofRows? S rows = some t :=
  ⟨⟨rows, h⟩, dif_pos h⟩

theorem exists_update {t : Table S} {r : ρ} (hcheck : S.check r = true)
    (hclash : ∀ s ∈ t.rows, S.key s ≠ S.key r → (S.clash r s || S.clash s r) = false) :
    ∃ t', t.update? r = some t' := by
  refine exists_ofRows? ⟨?_, ?_, ?_⟩
  · have hkeys : (S.key ∘ fun s => if S.key s = S.key r then r else s) = S.key := by
      funext s
      by_cases hs : S.key s = S.key r <;> simp [hs]
    rw [List.map_map, hkeys]
    exact t.valid.1
  · rw [List.pairwise_map]
    have hdistinct : t.rows.Pairwise fun a b => S.key a ≠ S.key b := List.pairwise_map.mp t.valid.1
    refine (t.valid.2.1.and hdistinct).imp_of_mem fun {a b} ha hb hab => ?_
    by_cases hka : S.key a = S.key r
    · have hkb : S.key b ≠ S.key r := fun h => hab.2 (hka.trans h.symm)
      simpa [hka, hkb] using hclash b hb hkb
    · by_cases hkb : S.key b = S.key r
      · simpa [hka, hkb, Bool.or_comm] using hclash a ha hka
      · simpa [hka, hkb] using hab.1
  · intro s hs
    obtain ⟨a, ha, rfl⟩ := List.mem_map.mp hs
    split
    · exact hcheck
    · exact t.valid.2.2 a ha

theorem exists_insert {t : Table S} {r : ρ} (hcheck : S.check r = true)
    (hkey : ∀ s ∈ t.rows, S.key s ≠ S.key r)
    (hclash : ∀ s ∈ t.rows, (S.clash r s || S.clash s r) = false) :
    ∃ t', t.insert? r = some t' := by
  refine exists_ofRows? ⟨?_, ?_, ?_⟩
  · rw [List.map_append]
    refine List.nodup_append.mpr ⟨t.valid.1, List.nodup_singleton _, ?_⟩
    intro k hk k' hk' he
    obtain ⟨s, hs, rfl⟩ := List.mem_map.mp hk
    exact hkey s hs (he.trans (List.mem_singleton.mp hk'))
  · refine List.pairwise_append.mpr ⟨t.valid.2.1, List.pairwise_singleton _ _, ?_⟩
    intro s hs r' hr'
    rw [List.mem_singleton.mp hr', Bool.or_comm]
    exact hclash s hs
  · intro s hs
    rcases List.mem_append.mp hs with hs | hs
    · exact t.valid.2.2 s hs
    · exact List.mem_singleton.mp hs ▸ hcheck

/-- A row whose key and unique values are those of the stored one replaces it. -/
theorem find_put {t : Table S} {r s : ρ} (hs : t.find (S.key r) = some s)
    (hcheck : S.check r = true)
    (hclash : ∀ u, S.clash r u = S.clash s u ∧ S.clash u r = S.clash u s) (k : κ) :
    (t.put r).find k = if k = S.key r then some r else t.find k := by
  have hfree : ∀ u ∈ t.rows, S.key u ≠ S.key r → (S.clash r u || S.clash u r) = false := by
    intro u hu hne
    rw [(hclash u).1, (hclash u).2]
    have hother : s ≠ u := fun he => hne (he ▸ key_of_find hs)
    refine Bool.or_eq_false_iff.mpr ⟨?_, ?_⟩
    · exact Bool.eq_false_iff.mpr fun hc => hother (eq_of_clash (mem_of_find hs) hu hc)
    · exact Bool.eq_false_iff.mpr fun hc => hother (eq_of_clash hu (mem_of_find hs) hc).symm
  obtain ⟨t', ht'⟩ := exists_update hcheck hfree
  unfold put
  rw [ht', Option.getD_some, find_update ht']
  by_cases hk : k = S.key r
  · rw [if_pos hk, if_pos hk, hk, hs, Option.map_some]
  · rw [if_neg hk, if_neg hk]

/-- Writing the rows under a list of keys, one after another. -/
theorem find_foldl {step : Table S → κ → Table S} {f : ρ → ρ} (hf : ∀ r, f (f r) = f r)
    (hstep : ∀ t k k', (step t k).find k' = if k' = k then (t.find k').map f else t.find k')
    (t : Table S) (keys : List κ) (k : κ) :
    (keys.foldl step t).find k = if k ∈ keys then (t.find k).map f else t.find k := by
  induction keys generalizing t with
  | nil => rfl
  | cons first keys ih =>
    rw [List.foldl_cons, ih, hstep]
    by_cases hfirst : k = first
    · subst hfirst
      by_cases hkeys : k ∈ keys
      · cases t.find k <;> simp [hkeys, hf]
      · simp [hkeys]
    · simp [hfirst]

theorem mem_put_self {t : Table S} {r : ρ} {s : ρ} (hs : t.find (S.key r) = some s)
    (hcheck : S.check r = true)
    (hclash : ∀ u ∈ t.rows, S.key u ≠ S.key r → (S.clash r u || S.clash u r) = false) :
    r ∈ (t.put r).rows := by
  obtain ⟨t', ht'⟩ := exists_update hcheck hclash
  unfold put
  rw [ht', Option.getD_some]
  exact mem_of_find ((find_update ht' (S.key r)).trans (by rw [if_pos rfl, hs]; rfl))

theorem mem_add_self {t : Table S} {r : ρ} (hcheck : S.check r = true)
    (hkey : ∀ s ∈ t.rows, S.key s ≠ S.key r)
    (hclash : ∀ s ∈ t.rows, (S.clash r s || S.clash s r) = false) : r ∈ (t.add r).rows := by
  obtain ⟨t', ht'⟩ := exists_insert hcheck hkey hclash
  unfold add
  rw [ht', Option.getD_some, rows_insert ht']
  exact List.mem_append_right _ (List.mem_singleton.mpr rfl)

theorem rows_add {t : Table S} {r : ρ} (hcheck : S.check r = true)
    (hkey : ∀ s ∈ t.rows, S.key s ≠ S.key r)
    (hclash : ∀ s ∈ t.rows, (S.clash r s || S.clash s r) = false) :
    (t.add r).rows = t.rows ++ [r] := by
  obtain ⟨t', ht'⟩ := exists_insert hcheck hkey hclash
  unfold add
  rw [ht', Option.getD_some, rows_insert ht']

/-- A sum over the rows, less the row that is taken out. -/
theorem sum_filter_ne {t : Table S} {r : ρ} (hr : r ∈ t.rows) (weight : ρ → ℕ) :
    (t.rows.map weight).sum =
      weight r + ((t.filter fun s => decide (S.key s ≠ S.key r)).rows.map weight).sum := by
  have hnodup := t.valid.1
  show _ = weight r + ((t.rows.filter fun s => decide (S.key s ≠ S.key r)).map weight).sum
  generalize t.rows = rows at hr hnodup
  induction rows with
  | nil => cases hr
  | cons s rows ih =>
    obtain ⟨hfresh, hnodup⟩ := List.nodup_cons.mp hnodup
    rcases List.mem_cons.mp hr with rfl | hr
    · have hothers : rows.filter (fun s => decide (S.key s ≠ S.key r)) = rows := by
        refine List.filter_eq_self.mpr fun s hs => decide_eq_true fun he => hfresh ?_
        exact he ▸ List.mem_map_of_mem hs
      rw [List.filter_cons_of_neg (by simp), hothers, List.map_cons, List.sum_cons]
    · have hne : S.key s ≠ S.key r := fun he => hfresh (he ▸ List.mem_map_of_mem hr)
      rw [List.filter_cons_of_pos (by simpa using hne), List.map_cons, List.sum_cons, List.map_cons,
        List.sum_cons, ih hr hnodup]
      omega

/-- A sum over the rows does not grow when the new row counts for no more than the one it
replaces. -/
theorem sum_update_le {t t' : Table S} {r : ρ} {weight : ρ → ℤ} (h : t.update? r = some t')
    (hle : ∀ old, t.find (S.key r) = some old → weight r ≤ weight old) :
    (t'.rows.map weight).sum ≤ (t.rows.map weight).sum := by
  rw [rows_update h, List.map_map]
  refine List.sum_le_sum fun s hs => ?_
  show weight (if S.key s = S.key r then r else s) ≤ weight s
  split
  · next hkey => exact hle s (hkey ▸ find_of_mem hs)
  · exact le_refl _

end Table

end Support
